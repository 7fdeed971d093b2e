import TermBot.Proofs.Surface.Productions

/-!
# What the parser accepts is in the grammar

The tokens that the parser takes are the leaves of a derivation that denotes what it returns:
`term_sound` for terms, `typeExpr_sound` for types, and `parseTokens_sound` for all tokens of a
source.
-/

namespace TermBot.Surface

variable {stop : Pos}

/-! ## Single steps -/

/-- The two parts of a successful sequence. -/
theorem bind_eq_ok {ε α β : Type} {m : Except ε α} {k : α → Except ε β} {b : β}
    (h : (m >>= k) = .ok b) : ∃ a, m = .ok a ∧ k a = .ok b := by
  cases m with
  | error e => cases h
  | ok a => exact ⟨a, rfl, h⟩

theorem expect_eq_ok {slot : Slot} {k : TokenKind} {toks rest : List Token} {t : Token}
    (h : expect stop slot toks = .ok (t, rest)) (fills : slot.kind = k) :
    ∃ u : Tok k, t = u.token ∧ toks = u.token :: rest := by
  cases toks with
  | nil => cases h
  | cons u toks =>
    simp only [expect] at h
    split at h
    · rename_i kind
      cases h
      exact ⟨⟨t, kind.trans fills⟩, rfl, rfl⟩
    · cases h

theorem quantify_map (v : Tok .ident) (vs : List (Tok .ident)) (b : TypeExpr) :
    quantify (v.token :: vs.map Tok.token) b =
      .all v.token.lit (vs.foldr (fun w b => .all w.token.lit b) b) := by
  rw [quantify, List.foldr_cons, List.foldr_map]

theorem abstract_map (start : Pos) (x : Tok .ident) (xs : List (Tok .ident)) (b : Term) :
    abstract start (x.token :: xs.map Tok.token) b =
      .lam x.token.lit (xs.foldr (fun y b => .lam y.token.lit b y.token.pos) b) start := by
  rw [abstract, List.foldr_map]

/-! ## Types -/

/-- What `parse` takes are the tokens of a tree that denotes what it returns. -/
def Takes {α τ : Type} (parse : List Token → Except Fault (α × List Token))
    (tokens : τ → List Token) (denotes : τ → α) : Prop :=
  ∀ toks a rest, parse toks = .ok (a, rest) → ∃ d, toks = tokens d ++ rest ∧ denotes d = a

/-- One level of the recursion on types; the levels below are given. -/
theorem typeExpr_succ {n : Nat}
    (types : Takes (typeExpr stop n) TypeTree.tokens TypeTree.type)
    (atoms : Takes (typeAtom stop n) TypeAtomTree.tokens TypeAtomTree.type) :
    Takes (typeExpr stop (n + 1)) TypeTree.tokens TypeTree.type := by
  intro toks ty rest h
  by_cases quantifier : (peek stop toks).kind = .quantifier
  · obtain ⟨q, toks, rfl⟩ := exists_tok quantifier (by decide)
    obtain ⟨vars, after, rfl, ends⟩ := exists_identifiers stop toks
    cases vars with
    | nil => cases (typeExpr_unnamed q ends).symm.trans h
    | cons v vs =>
      obtain ⟨⟨d, after⟩, dot, h⟩ := bind_eq_ok ((typeExpr_named q v vs ends).symm.trans h)
      obtain ⟨⟨body, rest'⟩, inner, h⟩ := bind_eq_ok h
      cases h
      obtain ⟨d, rfl, rfl⟩ := expect_eq_ok (k := .dot) dot rfl
      obtain ⟨b, rfl, rfl⟩ := types _ _ _ inner
      exact ⟨.all q v vs d b, by simp [TypeTree.tokens], by rw [quantify_map, TypeTree.type]⟩
  · rw [typeExpr_of_ne quantifier] at h
    obtain ⟨⟨dom, after⟩, left, next⟩ := bind_eq_ok h
    obtain ⟨a, rfl, rfl⟩ := atoms _ _ _ left
    dsimp only at next
    split at next
    · rename_i arrow
      obtain ⟨m, after, rfl⟩ := exists_tok arrow (by decide)
      obtain ⟨⟨cod, rest'⟩, right, result⟩ := bind_eq_ok next
      cases result
      obtain ⟨b, tail, rfl⟩ := types _ _ _ right
      rw [List.tail_cons] at tail
      subst tail
      exact ⟨.arrow a m b, by simp [TypeTree.tokens], by simp only [TypeTree.type]⟩
    · cases next
      exact ⟨.atom a, by simp only [TypeTree.tokens], by simp only [TypeTree.type]⟩

/-- One level of the recursion on types that need no parentheses. -/
theorem typeAtom_succ {n : Nat}
    (types : Takes (typeExpr stop n) TypeTree.tokens TypeTree.type) :
    Takes (typeAtom stop (n + 1)) TypeAtomTree.tokens TypeAtomTree.type := by
  intro toks ty rest h
  by_cases name : (peek stop toks).kind = .ident
  · obtain ⟨x, toks, rfl⟩ := exists_tok name (by decide)
    cases (typeAtom_name x).symm.trans h
    by_cases lit : x.token.lit = "Unit"
    · exact ⟨.unit x lit, rfl, by simp only [TypeAtomTree.type, if_pos lit]⟩
    · exact ⟨.name x lit, rfl, by simp only [TypeAtomTree.type, if_neg lit]⟩
  by_cases one : (peek stop toks).kind = .number ∧ (peek stop toks).lit = "1"
  · obtain ⟨x, toks, rfl⟩ := exists_tok one.1 (by decide)
    cases (typeAtom_one x one.2).symm.trans h
    exact ⟨.one x one.2, rfl, by simp only [TypeAtomTree.type]⟩
  by_cases paren : (peek stop toks).kind = .lparen
  · obtain ⟨l, toks, rfl⟩ := exists_tok paren (by decide)
    by_cases close : (peek stop toks).kind = .rparen
    · obtain ⟨r, toks, rfl⟩ := exists_tok close (by decide)
      cases (typeAtom_empty l r).symm.trans h
      exact ⟨.empty l r, rfl, by rw [TypeAtomTree.type]⟩
    · rw [typeAtom_open l close] at h
      obtain ⟨⟨inner, after⟩, run, h⟩ := bind_eq_ok h
      obtain ⟨⟨r, rest'⟩, closes, h⟩ := bind_eq_ok h
      cases h
      obtain ⟨d, rfl, rfl⟩ := types _ _ _ run
      obtain ⟨r, rfl, rfl⟩ := expect_eq_ok (k := .rparen) closes rfl
      exact ⟨.parens l d r, by simp [TypeAtomTree.tokens], by rw [TypeAtomTree.type]⟩
  · cases (typeAtom_eq_reject name one paren).symm.trans h

theorem types_sound (n : Nat) :
    Takes (typeExpr stop n) TypeTree.tokens TypeTree.type ∧
      Takes (typeAtom stop n) TypeAtomTree.tokens TypeAtomTree.type := by
  induction n with
  | zero => exact ⟨fun _ _ _ h => (nomatch h), fun _ _ _ h => (nomatch h)⟩
  | succ n ih => exact ⟨typeExpr_succ ih.1 ih.2, typeAtom_succ ih.1⟩

/-- A type that the parser reads is in the grammar. -/
theorem typeExpr_sound (n : Nat) : Takes (typeExpr stop n) TypeTree.tokens TypeTree.type :=
  (types_sound n).1

/-! ## Terms -/

theorem optionalType_sound (n : Nat) :
    Takes (optionalType stop n) AnnotationTree.tokens AnnotationTree.type := by
  intro toks type rest h
  cases n with
  | zero => cases h
  | succ n =>
    by_cases colon : (peek stop toks).kind = .colon
    · obtain ⟨c, toks, rfl⟩ := exists_tok colon (by decide)
      rw [optionalType_colon c] at h
      obtain ⟨⟨ty, rest'⟩, run, result⟩ := bind_eq_ok h
      cases result
      obtain ⟨d, rfl, rfl⟩ := typeExpr_sound n _ _ _ run
      exact ⟨some (c, d), rfl, rfl⟩
    · cases (optionalType_of_ne colon).symm.trans h
      exact ⟨none, rfl, rfl⟩

/-- A derivation whose tokens start like a binder is one. -/
theorem TermTree.eq_binder {d : TermTree} {toks rest : List Token} (h : toks = d.tokens ++ rest)
    (lead : (peek stop toks).kind ∈ binderLeads) : ∃ b, d = .binder b := by
  cases d with
  | binder b => exact ⟨b, rfl⟩
  | app fn args =>
    obtain ⟨t, ts, shape, kind⟩ := fn.leads
    rw [TermTree.tokens, shape] at h
    subst h
    have apart : ∀ k ∈ atomLeads, k ∉ binderLeads := by decide
    exact absurd lead (apart _ kind)

/-- One level of the recursion on terms; the levels below are given. -/
theorem term_succ {n : Nat} (terms : Takes (term stop n) TermTree.tokens TermTree.term)
    (atoms : Takes (atom stop n) AtomTree.tokens AtomTree.term)
    (args : ∀ f, Takes (arguments stop n f) ArgsTree.tokens (·.applied f)) :
    Takes (term stop (n + 1)) TermTree.tokens TermTree.term := by
  intro toks t rest h
  by_cases lambda : (peek stop toks).kind = .lambda
  · obtain ⟨l, toks, rfl⟩ := exists_tok lambda (by decide)
    obtain ⟨params, after, rfl, ends⟩ := exists_identifiers stop toks
    cases params with
    | nil => cases (term_unnamed l ends).symm.trans h
    | cons x xs =>
      obtain ⟨⟨d, after⟩, dot, h⟩ := bind_eq_ok ((term_named l x xs ends).symm.trans h)
      obtain ⟨⟨body, rest'⟩, inner, h⟩ := bind_eq_ok h
      cases h
      obtain ⟨d, rfl, rfl⟩ := expect_eq_ok (k := .dot) dot rfl
      obtain ⟨b, rfl, rfl⟩ := terms _ _ _ inner
      refine ⟨.binder (.lam l x xs d b), by simp [TermTree.tokens, BinderTree.tokens], ?_⟩
      rw [abstract_map]
      simp only [TermTree.term, BinderTree.term]
  by_cases keyword : (peek stop toks).kind = .letKeyword
  · obtain ⟨l, toks, rfl⟩ := exists_tok keyword (by decide)
    rw [term_keyword l] at h
    obtain ⟨⟨x, afterName⟩, name, h⟩ := bind_eq_ok h
    obtain ⟨⟨type, afterType⟩, ann, h⟩ := bind_eq_ok h
    obtain ⟨⟨e, afterEquals⟩, equals, h⟩ := bind_eq_ok h
    obtain ⟨⟨value, afterValue⟩, runValue, h⟩ := bind_eq_ok h
    obtain ⟨⟨i, afterIn⟩, inKeyword, h⟩ := bind_eq_ok h
    obtain ⟨⟨body, rest'⟩, runBody, h⟩ := bind_eq_ok h
    cases h
    obtain ⟨x, rfl, rfl⟩ := expect_eq_ok (k := .ident) name rfl
    obtain ⟨ty, rfl, rfl⟩ := optionalType_sound n _ _ _ ann
    obtain ⟨e, rfl, rfl⟩ := expect_eq_ok (k := .equals) equals rfl
    obtain ⟨v, rfl, rfl⟩ := terms _ _ _ runValue
    obtain ⟨i, rfl, rfl⟩ := expect_eq_ok (k := .inKeyword) inKeyword rfl
    obtain ⟨b, rfl, rfl⟩ := terms _ _ _ runBody
    refine ⟨.binder (.letIn l x ty e v i b), by simp [TermTree.tokens, BinderTree.tokens], ?_⟩
    simp only [TermTree.term, BinderTree.term]
  · rw [term_of_ne lambda keyword] at h
    obtain ⟨⟨fn, after⟩, head, next⟩ := bind_eq_ok h
    obtain ⟨f, rfl, rfl⟩ := atoms _ _ _ head
    obtain ⟨as, rfl, rfl⟩ := args _ _ _ _ next
    exact ⟨.app f as, by simp [TermTree.tokens], by simp only [TermTree.term]⟩

/-- One level of the recursion on arguments. -/
theorem arguments_succ {n : Nat} (terms : Takes (term stop n) TermTree.tokens TermTree.term)
    (atoms : Takes (atom stop n) AtomTree.tokens AtomTree.term)
    (args : ∀ f, Takes (arguments stop n f) ArgsTree.tokens (·.applied f)) (f : Term) :
    Takes (arguments stop (n + 1) f) ArgsTree.tokens (·.applied f) := by
  intro toks t rest h
  by_cases starts : (peek stop toks).kind ∈ atomLeads
  · rw [arguments_atom f starts] at h
    obtain ⟨⟨arg, after⟩, head, next⟩ := bind_eq_ok h
    obtain ⟨a, rfl, rfl⟩ := atoms _ _ _ head
    obtain ⟨as, rfl, rfl⟩ := args _ _ _ _ next
    exact ⟨.more a as, by simp [ArgsTree.tokens], by simp only [ArgsTree.applied]⟩
  by_cases binds : (peek stop toks).kind ∈ binderLeads
  · rw [arguments_binder f binds] at h
    obtain ⟨⟨arg, after⟩, run, result⟩ := bind_eq_ok h
    cases result
    obtain ⟨d, tail, rfl⟩ := terms _ _ _ run
    obtain ⟨b, rfl⟩ := TermTree.eq_binder tail binds
    exact ⟨.last b, by simpa only [TermTree.tokens, ArgsTree.tokens] using tail,
      by simp only [ArgsTree.applied, TermTree.term]⟩
  · cases (arguments_of_ne f (notMem_argLeads starts binds)).symm.trans h
    exact ⟨.none, rfl, by simp only [ArgsTree.applied]⟩

/-- One level of the recursion on terms that need no parentheses. -/
theorem atom_succ {n : Nat} (terms : Takes (term stop n) TermTree.tokens TermTree.term) :
    Takes (atom stop (n + 1)) AtomTree.tokens AtomTree.term := by
  intro toks t rest h
  by_cases name : (peek stop toks).kind = .ident
  · obtain ⟨x, toks, rfl⟩ := exists_tok name (by decide)
    cases (atom_name x).symm.trans h
    exact ⟨.var x, rfl, by rw [AtomTree.term]⟩
  by_cases paren : (peek stop toks).kind = .lparen
  · obtain ⟨l, toks, rfl⟩ := exists_tok paren (by decide)
    by_cases close : (peek stop toks).kind = .rparen
    · obtain ⟨r, toks, rfl⟩ := exists_tok close (by decide)
      cases (atom_empty l r).symm.trans h
      exact ⟨.unit l r, rfl, by rw [AtomTree.term]⟩
    · rw [atom_open l close] at h
      obtain ⟨⟨inner, afterInner⟩, run, h⟩ := bind_eq_ok h
      obtain ⟨⟨type, afterType⟩, ann, h⟩ := bind_eq_ok h
      obtain ⟨⟨r, rest'⟩, closes, h⟩ := bind_eq_ok h
      cases h
      obtain ⟨d, rfl, rfl⟩ := terms _ _ _ run
      obtain ⟨ty, rfl, rfl⟩ := optionalType_sound n _ _ _ ann
      obtain ⟨r, rfl, rfl⟩ := expect_eq_ok closes (closing_kind _)
      exact ⟨.parens l d ty r, by simp [AtomTree.tokens], by rw [AtomTree.term]⟩
  · cases (atom_eq_reject (notMem_atomLeads name paren)).symm.trans h

theorem terms_sound (n : Nat) :
    Takes (term stop n) TermTree.tokens TermTree.term ∧
      Takes (atom stop n) AtomTree.tokens AtomTree.term ∧
      ∀ f, Takes (arguments stop n f) ArgsTree.tokens (·.applied f) := by
  induction n with
  | zero =>
    exact ⟨fun _ _ _ h => (nomatch h), fun _ _ _ h => (nomatch h), fun _ _ _ _ h => (nomatch h)⟩
  | succ n ih =>
    obtain ⟨terms, atoms, args⟩ := ih
    exact ⟨term_succ terms atoms args, atom_succ terms, arguments_succ terms atoms args⟩

/-- A term that the parser reads is in the grammar. -/
theorem term_sound (n : Nat) : Takes (term stop n) TermTree.tokens TermTree.term :=
  (terms_sound n).1

/-- The tokens of a source that the parser accepts derive its term. -/
theorem parseTokens_sound {toks : List Token} {t : Term} (h : parseTokens stop toks = .ok t) :
    ∃ d : TermTree, d.tokens = toks ∧ d.term = t := by
  obtain ⟨⟨t', rest⟩, run, result⟩ := bind_eq_ok h
  obtain ⟨d, rfl, rfl⟩ := term_sound _ _ _ _ run
  cases rest with
  | nil =>
    cases result
    exact ⟨d, by simp, rfl⟩
  | cons u us => cases result

end TermBot.Surface

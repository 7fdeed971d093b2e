import TermBot.Proofs.Surface.ParserSound

/-!
# The parser reads the grammar

The parser reads the tokens of a derivation back as what it denotes, positions included, and stops
where the derivation ends (`TermTree.read`, `TypeTree.read`), provided that no token after it could
continue it. A phrase of `k` tokens needs a depth of about `2 * k`, which is what `parseTokens` has
to offer.

With soundness and unambiguity, `parseTokens_iff_derives` says that the parser decides the grammar.
-/

namespace TermBot.Surface

variable {stop : Pos} {n : Nat} {toks rest after : List Token}

/-! ## Single steps -/

theorem ok_bind {ε α β : Type} (a : α) (k : α → Except ε β) : (.ok a >>= k) = k a := rfl

theorem pure_eq_ok {ε α : Type} (a : α) : (pure a : Except ε α) = .ok a := rfl

theorem Stops.peek {kinds : List TokenKind} {k : TokenKind} (h : Stops kinds toks)
    (inside : .eof ∉ kinds) (mem : k ∈ kinds) : (peek stop toks).kind ≠ k := by
  cases toks with
  | nil => rintro rfl; exact inside mem
  | cons t toks => exact fun eq => stops_cons.1 h (eq ▸ mem)

theorem Leads.peek {kinds : List TokenKind} {k : TokenKind} (h : Leads kinds toks)
    (other : k ∉ kinds) : (peek stop toks).kind ≠ k := by
  obtain ⟨t, rest, rfl, kind⟩ := h
  exact fun eq => other (eq ▸ kind)

theorem Leads.peek_mem {kinds : List TokenKind} (h : Leads kinds toks) :
    (Surface.peek stop toks).kind ∈ kinds := by
  obtain ⟨t, rest, rfl, kind⟩ := h
  exact kind

theorem Leads.length_pos {kinds : List TokenKind} (h : Leads kinds toks) : 0 < toks.length := by
  obtain ⟨t, rest, rfl, -⟩ := h
  exact Nat.succ_pos _

theorem Tok.peek_ne {j k : TokenKind} (t : Tok k) (other : k ≠ j) :
    (Surface.peek stop (t.token :: toks)).kind ≠ j :=
  fun eq => other (t.kind.symm.trans eq)

/-! ## Types -/

theorem typeExpr_all (q : Tok .quantifier) (v : Tok .ident) (vs : List (Tok .ident)) (d : Tok .dot)
    {b : TypeExpr} (body : typeExpr stop n toks = .ok (b, rest)) :
    typeExpr stop (n + 1) (q.token :: v.token :: (vs.map Tok.token ++ d.token :: toks)) =
      .ok (.all v.token.lit (vs.foldr (fun w b => .all w.token.lit b) b), rest) := by
  rw [typeExpr_named q v vs (d.peek_ne (by decide))]
  simp [ok_bind, pure_eq_ok, d.expect .quantifierDot rfl, body, quantify_map]

theorem typeExpr_atom {a : TypeExpr} (leads : Leads typeAtomLeads toks)
    (only : typeAtom stop n toks = .ok (a, rest)) (stops : Stops [.arrow] rest) :
    typeExpr stop (n + 1) toks = .ok (a, rest) := by
  have notAll : (peek stop toks).kind ≠ .quantifier := leads.peek (by decide)
  have notArrow : (peek stop rest).kind ≠ .arrow := stops.peek (by decide) (by decide)
  simp [typeExpr_of_ne notAll, ok_bind, pure_eq_ok, only, notArrow]

theorem typeExpr_arrow {a b : TypeExpr} (leads : Leads typeAtomLeads toks) (m : Tok .arrow)
    (dom : typeAtom stop n toks = .ok (a, m.token :: after))
    (cod : typeExpr stop n after = .ok (b, rest)) :
    typeExpr stop (n + 1) toks = .ok (.arrow a b, rest) := by
  have notAll : (peek stop toks).kind ≠ .quantifier := leads.peek (by decide)
  simp [typeExpr_of_ne notAll, ok_bind, pure_eq_ok, dom, m.peek, cod]

theorem typeAtom_parens (l : Tok .lparen) (r : Tok .rparen) {a : TypeExpr}
    (leads : Leads (.quantifier :: typeAtomLeads) toks)
    (inner : typeExpr stop n toks = .ok (a, r.token :: rest)) :
    typeAtom stop (n + 1) (l.token :: toks) = .ok (a, rest) := by
  have notEmpty : (peek stop toks).kind ≠ .rparen := leads.peek (by decide)
  simp [typeAtom_open l notEmpty, ok_bind, pure_eq_ok, inner, r.expect .typeClose rfl]

mutual

/-- The parser reads the derivation of a type back. -/
theorem TypeTree.read : (d : TypeTree) → {n : Nat} → {rest : List Token} →
    2 * d.tokens.length ≤ n → Stops [.arrow] rest →
    typeExpr stop (n + 1) (d.tokens ++ rest) = .ok (d.type, rest)
  | .all q v vs d body, n, rest, depth, stops => by
    simp only [TypeTree.tokens, List.length_cons, List.length_append] at depth
    simp only [TypeTree.tokens, TypeTree.type, List.cons_append, List.append_assoc]
    obtain ⟨n, rfl⟩ : ∃ m, n = m + 1 := ⟨n - 1, by omega⟩
    exact typeExpr_all q v vs d (TypeTree.read body (by omega) stops)
  | .atom a, n, rest, depth, stops => by
    simp only [TypeTree.tokens] at depth
    simp only [TypeTree.tokens, TypeTree.type]
    have nonempty := a.leads.length_pos
    obtain ⟨n, rfl⟩ : ∃ m, n = m + 1 := ⟨n - 1, by omega⟩
    exact typeExpr_atom (a.leads.append rest) (TypeAtomTree.read a depth) stops
  | .arrow a m b, n, rest, depth, stops => by
    simp only [TypeTree.tokens, List.length_append, List.length_cons] at depth
    simp only [TypeTree.tokens, TypeTree.type, List.append_assoc, List.cons_append]
    obtain ⟨n, rfl⟩ : ∃ m, n = m + 1 := ⟨n - 1, by omega⟩
    exact typeExpr_arrow (a.leads.append _) m (TypeAtomTree.read a (by omega))
      (TypeTree.read b (by omega) stops)

/-- The parser reads the derivation of a type that needs no parentheses back. -/
theorem TypeAtomTree.read : (a : TypeAtomTree) → {n : Nat} → {rest : List Token} →
    2 * a.tokens.length ≤ n + 1 → typeAtom stop (n + 1) (a.tokens ++ rest) = .ok (a.type, rest)
  | .name t plain, n, rest, _ => by
    simp [TypeAtomTree.tokens, TypeAtomTree.type, typeAtom_name, plain]
  | .unit t unit, n, rest, _ => by
    simp [TypeAtomTree.tokens, TypeAtomTree.type, typeAtom_name, unit]
  | .one t one, n, rest, _ => by
    simp [TypeAtomTree.tokens, TypeAtomTree.type, typeAtom_one t one]
  | .empty l r, n, rest, _ => by
    simp [TypeAtomTree.tokens, TypeAtomTree.type, typeAtom_empty]
  | .parens l a r, n, rest, depth => by
    simp only [TypeAtomTree.tokens, List.length_cons, List.length_append] at depth
    simp only [TypeAtomTree.tokens, TypeAtomTree.type, List.cons_append, List.append_assoc]
    obtain ⟨n, rfl⟩ : ∃ m, n = m + 1 := ⟨n - 1, by omega⟩
    exact typeAtom_parens l r (a.leads.append _)
      (TypeTree.read a (by omega) (r.stops (by decide)))

end

/-! ## Terms -/

/-- The parser reads an optional type back. -/
theorem AnnotationTree.read (a : AnnotationTree) (depth : 2 * a.tokens.length ≤ n)
    (stops : Stops [.colon, .arrow] rest) :
    optionalType stop (n + 1) (a.tokens ++ rest) = .ok (a.type, rest) := by
  cases a with
  | none =>
    have notColon : (peek stop rest).kind ≠ .colon := stops.peek (by decide) (by decide)
    simp [AnnotationTree.tokens, AnnotationTree.type, optionalType_of_ne notColon]
  | some p =>
    simp only [AnnotationTree.tokens, List.length_cons] at depth
    obtain ⟨n, rfl⟩ : ∃ m, n = m + 1 := ⟨n - 1, by omega⟩
    have type : typeExpr stop (n + 1) (p.2.tokens ++ rest) = .ok (p.2.type, rest) :=
      p.2.read (by omega) (stops.mono (by decide))
    simp [optionalType_colon, ok_bind, pure_eq_ok, AnnotationTree.tokens, AnnotationTree.type, type]

theorem term_lam (l : Tok .lambda) (x : Tok .ident) (xs : List (Tok .ident)) (d : Tok .dot)
    {b : Term} (body : term stop n toks = .ok (b, rest)) :
    term stop (n + 1) (l.token :: x.token :: (xs.map Tok.token ++ d.token :: toks)) =
      .ok (.lam x.token.lit (xs.foldr (fun y b => .lam y.token.lit b y.token.pos) b) l.token.pos,
        rest) := by
  rw [term_named l x xs (d.peek_ne (by decide))]
  simp [ok_bind, pure_eq_ok, d.expect .lambdaDot rfl, body, abstract_map]

theorem term_let (l : Tok .letKeyword) (x : Tok .ident) (e : Tok .equals) (i : Tok .inKeyword)
    {ty : Option TypeExpr} {v b : Term} {afterType afterValue : List Token}
    (type : optionalType stop n toks = .ok (ty, e.token :: afterType))
    (value : term stop n afterType = .ok (v, i.token :: afterValue))
    (body : term stop n afterValue = .ok (b, rest)) :
    term stop (n + 1) (l.token :: x.token :: toks) =
      .ok (.letIn x.token.lit ty v b l.token.pos, rest) := by
  simp [term_keyword, ok_bind, pure_eq_ok, x.expect .letName rfl, type, e.expect .letEquals rfl, value,
    i.expect .letIn rfl, body]

theorem term_app {f t : Term} (leads : Leads atomLeads toks)
    (fn : atom stop n toks = .ok (f, after)) (args : arguments stop n f after = .ok (t, rest)) :
    term stop (n + 1) toks = .ok (t, rest) := by
  have notLambda : (peek stop toks).kind ≠ .lambda := leads.peek (by decide)
  have notLet : (peek stop toks).kind ≠ .letKeyword := leads.peek (by decide)
  simp [term_of_ne notLambda notLet, ok_bind, fn, args]

theorem arguments_none (f : Term) (stops : Stops argLeads rest) :
    arguments stop (n + 1) f rest = .ok (f, rest) :=
  arguments_of_ne f fun mem => stops.peek (by decide) mem rfl

theorem arguments_more {f a t : Term} (leads : Leads atomLeads toks)
    (arg : atom stop n toks = .ok (a, after))
    (more : arguments stop n (.app f a) after = .ok (t, rest)) :
    arguments stop (n + 1) f toks = .ok (t, rest) := by
  rw [arguments_atom f leads.peek_mem, arg, ok_bind]
  exact more

theorem arguments_last {f a : Term} (leads : Leads binderLeads toks)
    (arg : term stop n toks = .ok (a, rest)) :
    arguments stop (n + 1) f toks = .ok (.app f a, rest) := by
  rw [arguments_binder f leads.peek_mem, arg, ok_bind]
  rfl

theorem atom_parens (l : Tok .lparen) (r : Tok .rparen) {t : Term} {ty : Option TypeExpr}
    (leads : Leads argLeads toks) (inner : term stop n toks = .ok (t, after))
    (type : optionalType stop n after = .ok (ty, r.token :: rest)) :
    atom stop (n + 1) (l.token :: toks) = .ok (t.annotate l.token.pos ty, rest) := by
  have notEmpty : (peek stop toks).kind ≠ .rparen := leads.peek (by decide)
  simp [atom_open l notEmpty, ok_bind, pure_eq_ok, inner, type, r.expect _ (closing_kind ty)]

mutual

/-- The parser reads the derivation of a term back. -/
theorem TermTree.read : (d : TermTree) → {n : Nat} → {rest : List Token} →
    2 * d.tokens.length ≤ n → Stops argLeads rest →
    term stop (n + 1) (d.tokens ++ rest) = .ok (d.term, rest)
  | .binder b, n, rest, depth, stops => by
    simp only [TermTree.tokens] at depth
    simp only [TermTree.tokens, TermTree.term]
    exact BinderTree.read b depth stops
  | .app fn args, n, rest, depth, stops => by
    simp only [TermTree.tokens, List.length_append] at depth
    simp only [TermTree.tokens, TermTree.term, List.append_assoc]
    have nonempty := fn.leads.length_pos
    obtain ⟨n, rfl⟩ : ∃ m, n = m + 1 := ⟨n - 1, by omega⟩
    exact term_app (fn.leads.append _) (AtomTree.read fn (by omega))
      (ArgsTree.read args (by omega) stops)

/-- The parser reads the derivation of an abstraction or a binding back. -/
theorem BinderTree.read : (b : BinderTree) → {n : Nat} → {rest : List Token} →
    2 * b.tokens.length ≤ n → Stops argLeads rest →
    term stop (n + 1) (b.tokens ++ rest) = .ok (b.term, rest)
  | .lam l x xs d body, n, rest, depth, stops => by
    simp only [BinderTree.tokens, List.length_cons, List.length_append] at depth
    simp only [BinderTree.tokens, BinderTree.term, List.cons_append, List.append_assoc]
    obtain ⟨n, rfl⟩ : ∃ m, n = m + 1 := ⟨n - 1, by omega⟩
    exact term_lam l x xs d (TermTree.read body (by omega) stops)
  | .letIn l x ty e v i b, n, rest, depth, stops => by
    simp only [BinderTree.tokens, List.length_cons, List.length_append] at depth
    simp only [BinderTree.tokens, BinderTree.term, List.cons_append, List.append_assoc]
    obtain ⟨n, rfl⟩ : ∃ m, n = m + 1 := ⟨n - 1, by omega⟩
    exact term_let l x e i (ty.read (by omega) (e.stops (by decide)))
      (TermTree.read v (by omega) (i.stops (by decide))) (TermTree.read b (by omega) stops)

/-- The parser reads the derivation of arguments back. -/
theorem ArgsTree.read : (as : ArgsTree) → {n : Nat} → {rest : List Token} → {f : Term} →
    2 * as.tokens.length + 1 ≤ n → Stops argLeads rest →
    arguments stop (n + 1) f (as.tokens ++ rest) = .ok (as.applied f, rest)
  | .none, n, rest, f, _, stops => by
    simp only [ArgsTree.tokens, ArgsTree.applied, List.nil_append]
    exact arguments_none f stops
  | .more a as, n, rest, f, depth, stops => by
    simp only [ArgsTree.tokens, List.length_append] at depth
    simp only [ArgsTree.tokens, ArgsTree.applied, List.append_assoc]
    have nonempty := a.leads.length_pos
    obtain ⟨n, rfl⟩ : ∃ m, n = m + 1 := ⟨n - 1, by omega⟩
    exact arguments_more (a.leads.append _) (AtomTree.read a (by omega))
      (ArgsTree.read as (by omega) stops)
  | .last b, n, rest, f, depth, stops => by
    simp only [ArgsTree.tokens] at depth
    simp only [ArgsTree.tokens, ArgsTree.applied]
    obtain ⟨n, rfl⟩ : ∃ m, n = m + 1 := ⟨n - 1, by omega⟩
    exact arguments_last (b.leads.append _) (BinderTree.read b (by omega) stops)

/-- The parser reads the derivation of a term that needs no parentheses back. -/
theorem AtomTree.read : (a : AtomTree) → {n : Nat} → {rest : List Token} →
    2 * a.tokens.length ≤ n + 1 → atom stop (n + 1) (a.tokens ++ rest) = .ok (a.term, rest)
  | .var x, n, rest, _ => by simp [AtomTree.tokens, AtomTree.term, atom_name]
  | .unit l r, n, rest, _ => by simp [AtomTree.tokens, AtomTree.term, atom_empty]
  | .parens l t ty r, n, rest, depth => by
    simp only [AtomTree.tokens, List.length_cons, List.length_append, List.length_nil] at depth
    simp only [AtomTree.tokens, AtomTree.term, List.cons_append, List.append_assoc]
    obtain ⟨n, rfl⟩ : ∃ m, n = m + 1 := ⟨n - 1, by omega⟩
    exact atom_parens l r (t.leads.append _)
      (TermTree.read t (by omega) (ty.stops (r.stops (by decide))))
      (ty.read (by omega) (r.stops (by decide)))

end

/-! ## All tokens of a source -/

/-- The parser accepts the tokens of a derivation, with the term that it denotes. -/
theorem parseTokens_complete (d : TermTree) : parseTokens stop d.tokens = .ok d.term := by
  have run : term stop (2 * d.tokens.length + 3 + 1) (d.tokens ++ []) = .ok (d.term, []) :=
    d.read (by omega) stops_nil
  rw [List.append_nil] at run
  simp [parseTokens, ok_bind, pure_eq_ok, run]

/-- The parser accepts exactly the tokens that the grammar derives, with the term that their
derivation denotes, and no tokens have two derivations. -/
theorem parseTokens_iff_derives (stop : Pos) (toks : List Token) :
    (∀ t, parseTokens stop toks = .ok t ↔ ∃ d : TermTree, d.tokens = toks ∧ d.term = t) ∧
      ∀ d d' : TermTree, d.tokens = toks → d'.tokens = toks → d = d' := by
  refine ⟨fun t => ⟨parseTokens_sound, ?_⟩, ?_⟩
  · rintro ⟨d, rfl, rfl⟩
    exact parseTokens_complete d
  · intro d d' leaves leaves'
    have same : d.tokens ++ [] = d'.tokens ++ [] := by rw [leaves, leaves']
    exact (TermTree.unique d d' stops_nil stops_nil same).1

end TermBot.Surface

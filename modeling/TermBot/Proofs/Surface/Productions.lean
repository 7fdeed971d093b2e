import TermBot.Proofs.Surface.Grammar

/-!
# What the next token decides

The parser looks at the next token, takes the production that it starts, or rejects. Here is one equation for each
production, on the tokens that it starts with, and one for each phrase on tokens that start none. What the parser
does on given tokens follows from these.
-/

namespace TermBot.Surface

variable {stop : Pos} {n : Nat} {toks : List Token}

/-! ## Single tokens -/

/-- A slot takes the token that fills it. -/
theorem Tok.expect {k : TokenKind} (t : Tok k) (slot : Slot) (fills : slot.kind = k) :
    expect stop slot (t.token :: toks) = .ok (t.token, toks) := by
  rw [Surface.expect, if_pos (t.kind.trans fills.symm)]

theorem Tok.peek {k : TokenKind} (t : Tok k) : (peek stop (t.token :: toks)).kind = k := t.kind

/-- A kind that is seen next, unless it is the end, is that of a first token. -/
theorem exists_tok {k : TokenKind} (h : (peek stop toks).kind = k) (inside : k ≠ .eof) :
    ∃ (t : Tok k) (rest : List Token), toks = t.token :: rest := by
  cases toks with
  | nil => exact absurd h.symm inside
  | cons t rest => exact ⟨⟨t, h⟩, rest, rfl⟩

/-- All tokens are some identifiers and what begins with none. -/
theorem exists_identifiers (stop : Pos) (toks : List Token) :
    ∃ (vs : List (Tok .ident)) (rest : List Token),
      toks = vs.map Tok.token ++ rest ∧ (peek stop rest).kind ≠ .ident := by
  induction toks with
  | nil => exact ⟨[], [], rfl, nofun⟩
  | cons t toks ih =>
    by_cases ident : t.kind = .ident
    · obtain ⟨vs, rest, rfl, ends⟩ := ih
      exact ⟨⟨t, ident⟩ :: vs, rest, rfl, ends⟩
    · exact ⟨[], t :: toks, rfl, ident⟩

/-- The identifiers that come next, up to another token. -/
theorem identifiers_append (vs : List (Tok .ident)) (ends : (peek stop toks).kind ≠ .ident) :
    identifiers (vs.map Tok.token ++ toks) = (vs.map Tok.token, toks) := by
  induction vs with
  | nil =>
    cases toks with
    | nil => rfl
    | cons t toks =>
      have other : t.kind ≠ .ident := ends
      simp [identifiers, other]
  | cons v vs ih =>
    simp only [identifiers, Prod.mk.injEq] at ih
    simp [identifiers, v.kind, ih]

/-! ## Types -/

section Types

variable (l : Tok .lparen) (q : Tok .quantifier)

/-- A quantifier without a variable is rejected at the token behind it. -/
theorem typeExpr_unnamed (ends : (peek stop toks).kind ≠ .ident) :
    typeExpr stop (n + 1) (q.token :: toks) = reject stop .noTypeVariable toks := by
  have names : identifiers toks = ([], toks) := identifiers_append [] ends
  simp [typeExpr, q.peek, names]

/-- The variables of a quantifier go as far as there are identifiers, and then come the dot and the body. -/
theorem typeExpr_named (v : Tok .ident) (vs : List (Tok .ident)) (ends : (peek stop toks).kind ≠ .ident) :
    typeExpr stop (n + 1) (q.token :: v.token :: (vs.map Tok.token ++ toks)) = do
      let (_, rest) ← expect stop .quantifierDot toks
      let (body, rest) ← typeExpr stop n rest
      return (quantify (v.token :: vs.map Tok.token) body, rest) := by
  have names : identifiers (v.token :: (vs.map Tok.token ++ toks)) = _ :=
    identifiers_append (v :: vs) ends
  simp [typeExpr, q.peek, names]

/-- Without a quantifier a type is an atom, or the domain of an arrow. -/
theorem typeExpr_of_ne (other : (peek stop toks).kind ≠ .quantifier) :
    typeExpr stop (n + 1) toks = do
      let (dom, rest) ← typeAtom stop n toks
      if (peek stop rest).kind = .arrow then
        let (cod, rest) ← typeExpr stop n rest.tail
        return (.arrow dom cod, rest)
      else return (dom, rest) := by
  simp only [typeExpr, if_neg other]

theorem typeAtom_name (x : Tok .ident) :
    typeAtom stop (n + 1) (x.token :: toks) =
      .ok (if x.token.lit = "Unit" then .unit else .name x.token.lit x.token.pos, toks) := by
  simp [typeAtom, x.kind]

theorem typeAtom_one (x : Tok .number) (one : x.token.lit = "1") :
    typeAtom stop (n + 1) (x.token :: toks) = .ok (.unit, toks) := by
  simp [typeAtom, x.kind, one]

theorem typeAtom_empty (r : Tok .rparen) :
    typeAtom stop (n + 1) (l.token :: r.token :: toks) = .ok (.unit, toks) := by
  simp [typeAtom, l.kind, r.peek]

theorem typeAtom_open (other : (peek stop toks).kind ≠ .rparen) :
    typeAtom stop (n + 1) (l.token :: toks) = do
      let (inner, rest) ← typeExpr stop n toks
      let (_, rest) ← expect stop .typeClose rest
      return (inner, rest) := by
  simp [typeAtom, l.kind, other]

/-- What begins no atom of a type is rejected where it stands. -/
theorem typeAtom_eq_reject (notName : (peek stop toks).kind ≠ .ident)
    (notOne : ¬ ((peek stop toks).kind = .number ∧ (peek stop toks).lit = "1"))
    (notParen : (peek stop toks).kind ≠ .lparen) :
    typeAtom stop (n + 1) toks = reject stop .noType toks := by
  cases toks with
  | nil => rfl
  | cons t toks =>
    simp only [peek, List.headD_cons] at notName notOne notParen
    simp [typeAtom, notName, notOne, notParen]

end Types

/-! ## Terms -/

section Terms

variable (fn : Term) (l : Tok .lparen) (m : Tok .lambda) (k : Tok .letKeyword)

theorem optionalType_colon (c : Tok .colon) :
    optionalType stop (n + 1) (c.token :: toks) = do
      let (type, rest) ← typeExpr stop n toks
      return (some type, rest) := by
  simp [optionalType, c.peek]

theorem optionalType_of_ne (other : (peek stop toks).kind ≠ .colon) :
    optionalType stop (n + 1) toks = .ok (none, toks) := by
  simp only [optionalType, if_neg other]

/-- An abstraction without a parameter is rejected at the token behind it. -/
theorem term_unnamed (ends : (peek stop toks).kind ≠ .ident) :
    term stop (n + 1) (m.token :: toks) = reject stop .noParameter toks := by
  have names : identifiers toks = ([], toks) := identifiers_append [] ends
  simp [term, m.peek, names]

theorem term_named (x : Tok .ident) (xs : List (Tok .ident)) (ends : (peek stop toks).kind ≠ .ident) :
    term stop (n + 1) (m.token :: x.token :: (xs.map Tok.token ++ toks)) = do
      let (_, rest) ← expect stop .lambdaDot toks
      let (body, rest) ← term stop n rest
      return (abstract m.token.pos (x.token :: xs.map Tok.token) body, rest) := by
  have names : identifiers (x.token :: (xs.map Tok.token ++ toks)) = _ :=
    identifiers_append (x :: xs) ends
  simp [term, m.peek, names]
  rfl

/-- The parts of a binding, with a slot for each token between them. -/
theorem term_keyword :
    term stop (n + 1) (k.token :: toks) = do
      let (name, rest) ← expect stop .letName toks
      let (type, rest) ← optionalType stop n rest
      let (_, rest) ← expect stop .letEquals rest
      let (value, rest) ← term stop n rest
      let (_, rest) ← expect stop .letIn rest
      let (body, rest) ← term stop n rest
      return (.letIn name.lit type value body k.token.pos, rest) := by
  simp [term, k.peek]
  rfl

theorem term_of_ne (notLambda : (peek stop toks).kind ≠ .lambda)
    (notLet : (peek stop toks).kind ≠ .letKeyword) :
    term stop (n + 1) toks = (do
      let (fn, rest) ← atom stop n toks
      arguments stop n fn rest) := by
  simp [term]

theorem notMem_atomLeads {k : TokenKind} (notName : k ≠ .ident) (notParen : k ≠ .lparen) : k ∉ atomLeads := by
  simp [atomLeads, notName, notParen]

theorem notMem_argLeads {k : TokenKind} (notAtom : k ∉ atomLeads) (notBinder : k ∉ binderLeads) : k ∉ argLeads := by
  rw [argLeads, List.mem_append, not_or]
  exact ⟨notAtom, notBinder⟩

/-- An atom is an argument, and more of them may follow. -/
theorem arguments_atom (lead : (peek stop toks).kind ∈ atomLeads) :
    arguments stop (n + 1) fn toks = (do
      let (arg, rest) ← atom stop n toks
      arguments stop n (.app fn arg) rest) := by
  obtain ident | paren : (peek stop toks).kind = .ident ∨ (peek stop toks).kind = .lparen := by
    simpa [atomLeads] using lead
  · simp [arguments, ident]
  · simp [arguments, paren]

/-- An abstraction or a binding is the last argument. -/
theorem arguments_binder (lead : (peek stop toks).kind ∈ binderLeads) :
    arguments stop (n + 1) fn toks = do
      let (arg, rest) ← term stop n toks
      return (.app fn arg, rest) := by
  obtain lambda | keyword : (peek stop toks).kind = .lambda ∨ (peek stop toks).kind = .letKeyword := by
    simpa [binderLeads] using lead
  · simp [arguments, lambda]
  · simp [arguments, keyword]

/-- Arguments end where none begins, and nothing is rejected there. -/
theorem arguments_of_ne (other : (peek stop toks).kind ∉ argLeads) :
    arguments stop (n + 1) fn toks = .ok (fn, toks) := by
  have notIdent : (peek stop toks).kind ≠ .ident := fun eq => other (eq ▸ by decide)
  have notParen : (peek stop toks).kind ≠ .lparen := fun eq => other (eq ▸ by decide)
  have notLambda : (peek stop toks).kind ≠ .lambda := fun eq => other (eq ▸ by decide)
  have notLet : (peek stop toks).kind ≠ .letKeyword := fun eq => other (eq ▸ by decide)
  simp [arguments]

theorem atom_name (x : Tok .ident) :
    atom stop (n + 1) (x.token :: toks) = .ok (.var x.token.lit x.token.pos, toks) := by
  simp [atom, x.kind]

theorem atom_empty (r : Tok .rparen) :
    atom stop (n + 1) (l.token :: r.token :: toks) = .ok (.unit l.token.pos, toks) := by
  simp [atom, l.kind, r.peek]

/-- What closes a parenthesis around a term with this annotation. -/
def closing : Option TypeExpr → Slot
  | none => .termClose
  | some _ => .annotationClose

theorem closing_kind (type : Option TypeExpr) : (closing type).kind = .rparen := by
  cases type with
  | none => rfl
  | some type => rfl

/-- What stands between parentheses is a term, perhaps with an annotation. -/
theorem atom_open (other : (peek stop toks).kind ≠ .rparen) :
    atom stop (n + 1) (l.token :: toks) = do
      let (inner, rest) ← term stop n toks
      let (type, rest) ← optionalType stop n rest
      let (_, rest) ← expect stop (closing type) rest
      return (inner.annotate l.token.pos type, rest) := by
  simp only [atom, l.kind, reduceCtorEq, if_false, if_true, if_neg other]
  congr 1
  funext x
  obtain ⟨inner, rest⟩ := x
  congr 1
  funext y
  obtain ⟨type, rest⟩ := y
  cases type with
  | none => rfl
  | some type => rfl

/-- What begins no atom is rejected where it stands. -/
theorem atom_eq_reject (other : (peek stop toks).kind ∉ atomLeads) :
    atom stop (n + 1) toks = reject stop .noTerm toks := by
  simp [atomLeads] at other
  cases toks with
  | nil => rfl
  | cons t toks =>
    simp only [peek, List.headD_cons] at other
    simp [atom, other]

end Terms

end TermBot.Surface

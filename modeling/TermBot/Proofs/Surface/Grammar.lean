import TermBot.Surface.Parser

/-!
# Derivations of the grammar

A derivation of the grammar is a tree with the tokens at its leaves: `TermTree` for `term`,
`TypeTree` for `type`, and one type of trees for each phrase that they are made of. `tokens` reads the
leaves from left to right, and `term` and `type` are what a derivation denotes, positions included.

The grammar is unambiguous: a list of tokens starts with at most one derivation that ends where no
token could continue it (`TermTree.unique`, `TypeTree.unique`).
-/

namespace TermBot.Surface

/-- A token of one kind. -/
@[ext]
structure Tok (k : TokenKind) where
  token : Token
  kind : token.kind = k

/-! ## Types -/

mutual

/-- Derivations of a type. -/
inductive TypeTree where
  | all (mark : Tok .quantifier) (var : Tok .ident) (more : List (Tok .ident)) (dot : Tok .dot)
      (body : TypeTree)
  | atom (only : TypeAtomTree)
  | arrow (dom : TypeAtomTree) (mark : Tok .arrow) (cod : TypeTree)

/-- Derivations of a type that needs no parentheses. -/
inductive TypeAtomTree where
  | name (name : Tok .ident) (plain : name.token.lit ≠ "Unit")
  | unit (name : Tok .ident) (unit : name.token.lit = "Unit")
  | one (digit : Tok .number) (one : digit.token.lit = "1")
  | empty (left : Tok .lparen) (right : Tok .rparen)
  | parens (left : Tok .lparen) (inner : TypeTree) (right : Tok .rparen)

end

mutual

/-- The tokens of a type. -/
def TypeTree.tokens : TypeTree → List Token
  | .all q v vs d body => q.token :: v.token :: (vs.map Tok.token ++ d.token :: body.tokens)
  | .atom a => a.tokens
  | .arrow a m b => a.tokens ++ m.token :: b.tokens

/-- The tokens of a type that needs no parentheses. -/
def TypeAtomTree.tokens : TypeAtomTree → List Token
  | .name t _ => [t.token]
  | .unit t _ => [t.token]
  | .one t _ => [t.token]
  | .empty l r => [l.token, r.token]
  | .parens l a r => l.token :: (a.tokens ++ [r.token])

end

mutual

/-- The type that a derivation denotes. -/
def TypeTree.type : TypeTree → TypeExpr
  | .all _ v vs _ body => .all v.token.lit (vs.foldr (fun w b => .all w.token.lit b) body.type)
  | .atom a => a.type
  | .arrow a _ b => .arrow a.type b.type

/-- The type that a derivation without parentheses denotes. -/
def TypeAtomTree.type : TypeAtomTree → TypeExpr
  | .name t _ => .name t.token.lit t.token.pos
  | .unit _ _ => .unit
  | .one _ _ => .unit
  | .empty _ _ => .unit
  | .parens _ a _ => a.type

end

/-! ## Terms -/

/-- Derivations of an optional type after a colon. -/
abbrev AnnotationTree := Option (Tok .colon × TypeTree)

/-- The tokens of an optional type. -/
def AnnotationTree.tokens : AnnotationTree → List Token
  | none => []
  | some (c, ty) => c.token :: ty.tokens

/-- The optional type that a derivation denotes. -/
def AnnotationTree.type (a : AnnotationTree) : Option TypeExpr := a.map fun p => p.2.type

/-- A term with an optional annotation that starts at `start`. -/
def Term.annotate (start : Pos) (t : Term) : Option TypeExpr → Term
  | none => t
  | some type => .ann t type start

mutual

/-- Derivations of a term. -/
inductive TermTree where
  | binder (only : BinderTree)
  | app (fn : AtomTree) (args : ArgsTree)

/-- Derivations of an abstraction or a binding. -/
inductive BinderTree where
  | lam (mark : Tok .lambda) (param : Tok .ident) (more : List (Tok .ident)) (dot : Tok .dot)
      (body : TermTree)
  | letIn (mark : Tok .letKeyword) (name : Tok .ident) (type : AnnotationTree)
      (equals : Tok .equals) (value : TermTree) (close : Tok .inKeyword) (body : TermTree)

/-- Derivations of the arguments of an application; a binder can only be the last one. -/
inductive ArgsTree where
  | none
  | more (arg : AtomTree) (rest : ArgsTree)
  | last (arg : BinderTree)

/-- Derivations of a term that needs no parentheses. -/
inductive AtomTree where
  | var (name : Tok .ident)
  | unit (left : Tok .lparen) (right : Tok .rparen)
  | parens (left : Tok .lparen) (inner : TermTree) (type : AnnotationTree) (right : Tok .rparen)

end

mutual

/-- The tokens of a term. -/
def TermTree.tokens : TermTree → List Token
  | .binder b => b.tokens
  | .app fn args => fn.tokens ++ args.tokens

/-- The tokens of an abstraction or a binding. -/
def BinderTree.tokens : BinderTree → List Token
  | .lam l x xs d body => l.token :: x.token :: (xs.map Tok.token ++ d.token :: body.tokens)
  | .letIn l x ty e v i b =>
    l.token :: x.token :: (ty.tokens ++ e.token :: (v.tokens ++ i.token :: b.tokens))

/-- The tokens of the arguments. -/
def ArgsTree.tokens : ArgsTree → List Token
  | .none => []
  | .more a rest => a.tokens ++ rest.tokens
  | .last b => b.tokens

/-- The tokens of a term that needs no parentheses. -/
def AtomTree.tokens : AtomTree → List Token
  | .var x => [x.token]
  | .unit l r => [l.token, r.token]
  | .parens l t ty r => l.token :: (t.tokens ++ (ty.tokens ++ [r.token]))

end

mutual

/-- The term that a derivation denotes. -/
def TermTree.term : TermTree → Term
  | .binder b => b.term
  | .app fn args => args.applied fn.term

/-- The abstraction or binding that a derivation denotes. -/
def BinderTree.term : BinderTree → Term
  | .lam l x xs _ body =>
    .lam x.token.lit (xs.foldr (fun y b => .lam y.token.lit b y.token.pos) body.term) l.token.pos
  | .letIn l x ty _ v _ b => .letIn x.token.lit ty.type v.term b.term l.token.pos

/-- A function applied to the arguments, the first one innermost. -/
def ArgsTree.applied : ArgsTree → (fn : Term) → Term
  | .none, fn => fn
  | .more a rest, fn => rest.applied (.app fn a.term)
  | .last b, fn => .app fn b.term

/-- The term that a derivation without parentheses denotes. -/
def AtomTree.term : AtomTree → Term
  | .var x => .var x.token.lit x.token.pos
  | .unit l _ => .unit l.token.pos
  | .parens l t ty _ => t.term.annotate l.token.pos ty.type

end

/-! ## First tokens -/

/-- The kinds that start a type which needs no parentheses. -/
def typeAtomLeads : List TokenKind := [.ident, .number, .lparen]

/-- The kinds that start a term which needs no parentheses. -/
def atomLeads : List TokenKind := [.ident, .lparen]

/-- The kinds that start an abstraction or a binding. -/
def binderLeads : List TokenKind := [.lambda, .letKeyword]

/-- The kinds that start an argument. -/
def argLeads : List TokenKind := atomLeads ++ binderLeads

/-- The tokens start with one of these kinds. -/
def Leads (kinds : List TokenKind) (toks : List Token) : Prop :=
  ∃ t rest, toks = t :: rest ∧ t.kind ∈ kinds

/-- The tokens end or go on with none of these kinds. -/
def Stops (kinds : List TokenKind) (toks : List Token) : Prop :=
  ∀ t rest, toks = t :: rest → t.kind ∉ kinds

section Leads

variable {kinds : List TokenKind} {toks : List Token}

theorem Leads.append (h : Leads kinds toks) (rest : List Token) : Leads kinds (toks ++ rest) := by
  obtain ⟨t, us, rfl, kind⟩ := h
  exact ⟨t, us ++ rest, rfl, kind⟩

theorem Leads.mono {larger : List TokenKind} (h : Leads kinds toks) (sub : kinds ⊆ larger) :
    Leads larger toks := by
  obtain ⟨t, us, rfl, kind⟩ := h
  exact ⟨t, us, rfl, sub kind⟩

theorem Leads.not_stops (h : Leads kinds toks) : ¬ Stops kinds toks := by
  obtain ⟨t, us, rfl, kind⟩ := h
  exact fun stops => stops t us rfl kind

@[simp] theorem stops_nil : Stops kinds [] := fun _ _ h => nomatch h

@[simp] theorem stops_cons {t : Token} : Stops kinds (t :: toks) ↔ t.kind ∉ kinds :=
  ⟨fun h => h t toks rfl, fun h _ _ eq => (List.cons.inj eq).1 ▸ h⟩

theorem Tok.stops {k : TokenKind} (t : Tok k) (apart : k ∉ kinds) : Stops kinds (t.token :: toks) := by
  rw [stops_cons, t.kind]
  exact apart

/-- Tokens that start with kinds of two lists: the lists share a kind. -/
theorem Leads.disjoint {others : List TokenKind} {us r s : List Token} (h : Leads kinds toks)
    (h' : Leads others us) (apart : ∀ k ∈ kinds, k ∉ others) (eq : toks ++ r = us ++ s) : False := by
  obtain ⟨t, ts, rfl, kind⟩ := h
  obtain ⟨u, us, rfl, kind'⟩ := h'
  obtain ⟨rfl, -⟩ := List.cons.inj eq
  exact apart _ kind kind'

theorem Stops.mono {smaller : List TokenKind} (h : Stops kinds toks) (sub : smaller ⊆ kinds) :
    Stops smaller toks :=
  fun t rest eq mem => h t rest eq (sub mem)

end Leads

theorem TypeAtomTree.leads (a : TypeAtomTree) : Leads typeAtomLeads a.tokens := by
  cases a with
  | name t | unit t | one t | empty t | parens t =>
    exact ⟨t.token, _, by rw [TypeAtomTree.tokens], by rw [t.kind]; decide⟩

theorem TypeTree.leads (d : TypeTree) : Leads (.quantifier :: typeAtomLeads) d.tokens := by
  cases d with
  | all q => exact ⟨q.token, _, by rw [TypeTree.tokens], by rw [q.kind]; decide⟩
  | atom a =>
    rw [TypeTree.tokens]
    exact a.leads.mono (List.subset_cons_self _ _)
  | arrow a m b =>
    rw [TypeTree.tokens]
    exact (a.leads.mono (List.subset_cons_self _ _)).append _

theorem AtomTree.leads (a : AtomTree) : Leads atomLeads a.tokens := by
  cases a with
  | var t | unit t | parens t =>
    exact ⟨t.token, _, by rw [AtomTree.tokens], by rw [t.kind]; decide⟩

theorem BinderTree.leads (b : BinderTree) : Leads binderLeads b.tokens := by
  cases b with
  | lam t | letIn t => exact ⟨t.token, _, by rw [BinderTree.tokens], by rw [t.kind]; decide⟩

theorem TermTree.leads (d : TermTree) : Leads argLeads d.tokens := by
  cases d with
  | binder b =>
    rw [TermTree.tokens]
    exact b.leads.mono (List.subset_append_right _ _)
  | app fn args =>
    rw [TermTree.tokens]
    exact (fn.leads.mono (List.subset_append_left _ _)).append _

/-! ## Unambiguity -/

section Unique

variable {r s : List Token}

/-- Tokens of known kinds at the front: they are of one kind. -/
theorem Tok.kind_eq {j k : TokenKind} {a : Tok j} {b : Tok k} (h : a.token :: r = b.token :: s) : j = k := by
  rw [← a.kind, ← b.kind, (List.cons.inj h).1]

theorem Tok.cons_inj {k : TokenKind} {a b : Tok k} (h : a.token :: r = b.token :: s) : a = b ∧ r = s :=
  ⟨Tok.ext (List.cons.inj h).1, (List.cons.inj h).2⟩

/-- Identifiers up to a dot. -/
theorem names_unique {d e : Tok .dot} : {xs ys : List (Tok .ident)} →
    xs.map Tok.token ++ d.token :: r = ys.map Tok.token ++ e.token :: s → xs = ys ∧ d = e ∧ r = s
  | [], [], h => ⟨rfl, Tok.cons_inj h⟩
  | [], y :: ys, h => nomatch Tok.kind_eq (a := d) (b := y) h
  | x :: xs, [], h => nomatch Tok.kind_eq (a := x) (b := e) h
  | x :: xs, y :: ys, h => by
    obtain ⟨rfl, tail⟩ := Tok.cons_inj h
    obtain ⟨rfl, rest⟩ := names_unique tail
    exact ⟨rfl, rest⟩

/-- What starts with some kinds does not start with a token of another kind. -/
theorem Leads.ne_cons {kinds : List TokenKind} {toks : List Token} {k : TokenKind} {t : Tok k}
    (h : Leads kinds toks) (apart : k ∉ kinds) (eq : toks ++ r = t.token :: s) : False :=
  (h.append r).not_stops (eq ▸ t.stops apart)

end Unique

mutual

/-- A type that no arrow follows is derived in one way only. -/
theorem TypeTree.unique : (a b : TypeTree) → {r s : List Token} → Stops [.arrow] r →
    Stops [.arrow] s → a.tokens ++ r = b.tokens ++ s → a = b ∧ r = s
  | .all q v vs d a, .all q' v' vs' d' b, r, s, hr, hs, h => by
    simp only [TypeTree.tokens, List.cons_append, List.append_assoc] at h
    obtain ⟨rfl, h₁⟩ := Tok.cons_inj h
    obtain ⟨rfl, h₂⟩ := Tok.cons_inj h₁
    obtain ⟨rfl, rfl, h₃⟩ := names_unique h₂
    obtain ⟨rfl, rest⟩ := TypeTree.unique a b hr hs h₃
    exact ⟨rfl, rest⟩
  | .all q .., .atom b, r, s, _, _, h => by
    simp only [TypeTree.tokens, List.cons_append] at h
    exact (b.leads.ne_cons (by decide) h.symm).elim
  | .all q .., .arrow b .., r, s, _, _, h => by
    simp only [TypeTree.tokens, List.cons_append, List.append_assoc] at h
    exact (b.leads.ne_cons (by decide) h.symm).elim
  | .atom a, .all .., r, s, _, _, h => by
    simp only [TypeTree.tokens, List.cons_append] at h
    exact (a.leads.ne_cons (by decide) h).elim
  | .atom a, .atom b, r, s, _, _, h => by
    simp only [TypeTree.tokens] at h
    obtain ⟨rfl, rest⟩ := TypeAtomTree.unique a b h
    exact ⟨rfl, rest⟩
  | .atom a, .arrow b m cod, r, s, hr, _, h => by
    simp only [TypeTree.tokens, List.append_assoc, List.cons_append] at h
    obtain ⟨rfl, rfl⟩ := TypeAtomTree.unique a b h
    simp [m.kind] at hr
  | .arrow a .., .all .., r, s, _, _, h => by
    simp only [TypeTree.tokens, List.cons_append, List.append_assoc] at h
    exact (a.leads.ne_cons (by decide) h).elim
  | .arrow a m cod, .atom b, r, s, _, hs, h => by
    simp only [TypeTree.tokens, List.append_assoc, List.cons_append] at h
    obtain ⟨rfl, rfl⟩ := TypeAtomTree.unique a b h
    simp [m.kind] at hs
  | .arrow a m cod, .arrow b m' cod', r, s, hr, hs, h => by
    simp only [TypeTree.tokens, List.append_assoc, List.cons_append] at h
    obtain ⟨rfl, h₁⟩ := TypeAtomTree.unique a b h
    obtain ⟨rfl, h₂⟩ := Tok.cons_inj h₁
    obtain ⟨rfl, rest⟩ := TypeTree.unique cod cod' hr hs h₂
    exact ⟨rfl, rest⟩

/-- A type that needs no parentheses is derived in one way only. -/
theorem TypeAtomTree.unique : (a b : TypeAtomTree) → {r s : List Token} →
    a.tokens ++ r = b.tokens ++ s → a = b ∧ r = s
  | .name t plain, b, r, s, h => by
    cases b with
    | name u =>
      obtain ⟨rfl, rest⟩ := Tok.cons_inj h
      exact ⟨rfl, rest⟩
    | unit u unit =>
      obtain ⟨rfl, -⟩ := Tok.cons_inj h
      exact absurd unit plain
    | one u | empty u | parens u => exact nomatch Tok.kind_eq (a := t) (b := u) h
  | .unit t unit, b, r, s, h => by
    cases b with
    | name u plain =>
      obtain ⟨rfl, -⟩ := Tok.cons_inj h
      exact absurd unit plain
    | unit u =>
      obtain ⟨rfl, rest⟩ := Tok.cons_inj h
      exact ⟨rfl, rest⟩
    | one u | empty u | parens u => exact nomatch Tok.kind_eq (a := t) (b := u) h
  | .one t _, b, r, s, h => by
    cases b with
    | one u =>
      obtain ⟨rfl, rest⟩ := Tok.cons_inj h
      exact ⟨rfl, rest⟩
    | name u | unit u | empty u | parens u => exact nomatch Tok.kind_eq (a := t) (b := u) h
  | .empty l c, b, r, s, h => by
    cases b with
    | empty l' c' =>
      obtain ⟨rfl, h₁⟩ := Tok.cons_inj h
      obtain ⟨rfl, rest⟩ := Tok.cons_inj h₁
      exact ⟨rfl, rest⟩
    | parens l' inner c' =>
      simp only [TypeAtomTree.tokens, List.cons_append, List.append_assoc] at h
      exact (inner.leads.ne_cons (by decide) (Tok.cons_inj h).2.symm).elim
    | name u | unit u | one u => exact nomatch Tok.kind_eq (a := l) (b := u) h
  | .parens l inner c, b, r, s, h => by
    cases b with
    | parens l' inner' c' =>
      simp only [TypeAtomTree.tokens, List.cons_append, List.append_assoc] at h
      obtain ⟨rfl, h₁⟩ := Tok.cons_inj h
      obtain ⟨rfl, h₂⟩ := TypeTree.unique inner inner' (c.stops (by decide)) (c'.stops (by decide)) h₁
      obtain ⟨rfl, rest⟩ := Tok.cons_inj h₂
      exact ⟨rfl, rest⟩
    | empty l' c' =>
      simp only [TypeAtomTree.tokens, List.cons_append, List.append_assoc] at h
      exact (inner.leads.ne_cons (by decide) (Tok.cons_inj h).2).elim
    | name u | unit u | one u => exact nomatch Tok.kind_eq (a := l) (b := u) h

end

/-- An optional type that neither a colon nor an arrow follows is derived in one way only. -/
theorem AnnotationTree.unique : (a b : AnnotationTree) → {r s : List Token} →
    Stops [.colon, .arrow] r → Stops [.colon, .arrow] s → a.tokens ++ r = b.tokens ++ s →
    a = b ∧ r = s
  | none, none, r, s, _, _, h => ⟨rfl, h⟩
  | none, some (c, ty), r, s, hr, _, h => by
    obtain rfl : r = c.token :: (ty.tokens ++ s) := h
    simp [c.kind] at hr
  | some (c, ty), none, r, s, _, hs, h => by
    obtain rfl : c.token :: (ty.tokens ++ r) = s := h
    simp [c.kind] at hs
  | some (c, ty), some (c', ty'), r, s, hr, hs, h => by
    obtain ⟨rfl, h₁⟩ := Tok.cons_inj h
    obtain ⟨rfl, rest⟩ := ty.unique ty' (hr.mono (by decide)) (hs.mono (by decide)) h₁
    exact ⟨rfl, rest⟩

/-- An optional type does not start like an argument. -/
theorem AnnotationTree.stops (a : AnnotationTree) {r : List Token} (hr : Stops argLeads r) :
    Stops argLeads (a.tokens ++ r) := by
  cases a with
  | none => exact hr
  | some p => exact p.1.stops (by decide)

mutual

/-- A term that no argument follows is derived in one way only. -/
theorem TermTree.unique : (a b : TermTree) → {r s : List Token} → Stops argLeads r →
    Stops argLeads s → a.tokens ++ r = b.tokens ++ s → a = b ∧ r = s
  | .binder a, .binder b, r, s, hr, hs, h => by
    obtain ⟨rfl, rest⟩ := BinderTree.unique a b hr hs h
    exact ⟨rfl, rest⟩
  | .binder a, .app fn args, r, s, _, _, h => by
    simp only [TermTree.tokens, List.append_assoc] at h
    exact (a.leads.disjoint fn.leads (by decide) h).elim
  | .app fn args, .binder b, r, s, _, _, h => by
    simp only [TermTree.tokens, List.append_assoc] at h
    exact (b.leads.disjoint fn.leads (by decide) h.symm).elim
  | .app fn args, .app fn' args', r, s, hr, hs, h => by
    simp only [TermTree.tokens, List.append_assoc] at h
    obtain ⟨rfl, h₁⟩ := AtomTree.unique fn fn' h
    obtain ⟨rfl, rest⟩ := ArgsTree.unique args args' hr hs h₁
    exact ⟨rfl, rest⟩

/-- An abstraction or binding that no argument follows is derived in one way only. -/
theorem BinderTree.unique : (a b : BinderTree) → {r s : List Token} → Stops argLeads r →
    Stops argLeads s → a.tokens ++ r = b.tokens ++ s → a = b ∧ r = s
  | .lam l x xs d a, .lam l' x' xs' d' b, r, s, hr, hs, h => by
    simp only [BinderTree.tokens, List.cons_append, List.append_assoc] at h
    obtain ⟨rfl, h₁⟩ := Tok.cons_inj h
    obtain ⟨rfl, h₂⟩ := Tok.cons_inj h₁
    obtain ⟨rfl, rfl, h₃⟩ := names_unique h₂
    obtain ⟨rfl, rest⟩ := TermTree.unique a b hr hs h₃
    exact ⟨rfl, rest⟩
  | .lam l .., .letIn l' .., r, s, _, _, h => nomatch Tok.kind_eq (a := l) (b := l') h
  | .letIn l .., .lam l' .., r, s, _, _, h => nomatch Tok.kind_eq (a := l) (b := l') h
  | .letIn l x ty e v i a, .letIn l' x' ty' e' v' i' b, r, s, hr, hs, h => by
    simp only [BinderTree.tokens, List.cons_append, List.append_assoc] at h
    obtain ⟨rfl, h₁⟩ := Tok.cons_inj h
    obtain ⟨rfl, h₂⟩ := Tok.cons_inj h₁
    obtain ⟨rfl, h₃⟩ := ty.unique ty' (e.stops (by decide)) (e'.stops (by decide)) h₂
    obtain ⟨rfl, h₄⟩ := Tok.cons_inj h₃
    obtain ⟨rfl, h₅⟩ := TermTree.unique v v' (i.stops (by decide)) (i'.stops (by decide)) h₄
    obtain ⟨rfl, h₆⟩ := Tok.cons_inj h₅
    obtain ⟨rfl, rest⟩ := TermTree.unique a b hr hs h₆
    exact ⟨rfl, rest⟩

/-- Arguments that no argument follows are derived in one way only. -/
theorem ArgsTree.unique : (a b : ArgsTree) → {r s : List Token} → Stops argLeads r →
    Stops argLeads s → a.tokens ++ r = b.tokens ++ s → a = b ∧ r = s
  | .none, b, r, s, hr, _, h => by
    cases b with
    | none => exact ⟨rfl, h⟩
    | more a rest =>
      simp only [ArgsTree.tokens, List.append_assoc, List.nil_append] at h
      subst h
      exact (((a.leads.mono (List.subset_append_left _ _)).append _).not_stops hr).elim
    | last b =>
      simp only [ArgsTree.tokens, List.nil_append] at h
      subst h
      exact (((b.leads.mono (List.subset_append_right _ _)).append _).not_stops hr).elim
  | .more a rest, b, r, s, hr, hs, h => by
    simp only [ArgsTree.tokens, List.append_assoc] at h
    cases b with
    | none =>
      simp only [ArgsTree.tokens, List.nil_append] at h
      subst h
      exact (((a.leads.mono (List.subset_append_left _ _)).append _).not_stops hs).elim
    | more a' rest' =>
      simp only [ArgsTree.tokens, List.append_assoc] at h
      obtain ⟨rfl, h₁⟩ := AtomTree.unique a a' h
      obtain ⟨rfl, tail⟩ := ArgsTree.unique rest rest' hr hs h₁
      exact ⟨rfl, tail⟩
    | last b => exact (b.leads.disjoint a.leads (by decide) h.symm).elim
  | .last a, b, r, s, hr, hs, h => by
    simp only [ArgsTree.tokens] at h
    cases b with
    | none =>
      simp only [ArgsTree.tokens, List.nil_append] at h
      subst h
      exact (((a.leads.mono (List.subset_append_right _ _)).append _).not_stops hs).elim
    | more b rest =>
      simp only [ArgsTree.tokens, List.append_assoc] at h
      exact (a.leads.disjoint b.leads (by decide) h).elim
    | last b =>
      obtain ⟨rfl, rest⟩ := BinderTree.unique a b hr hs h
      exact ⟨rfl, rest⟩

/-- A term that needs no parentheses is derived in one way only. -/
theorem AtomTree.unique : (a b : AtomTree) → {r s : List Token} →
    a.tokens ++ r = b.tokens ++ s → a = b ∧ r = s
  | .var x, b, r, s, h => by
    cases b with
    | var y =>
      obtain ⟨rfl, rest⟩ := Tok.cons_inj h
      exact ⟨rfl, rest⟩
    | unit y | parens y => exact nomatch Tok.kind_eq (a := x) (b := y) h
  | .unit l c, b, r, s, h => by
    cases b with
    | var y => exact nomatch Tok.kind_eq (a := l) (b := y) h
    | unit l' c' =>
      obtain ⟨rfl, h₁⟩ := Tok.cons_inj h
      obtain ⟨rfl, rest⟩ := Tok.cons_inj h₁
      exact ⟨rfl, rest⟩
    | parens l' inner ty c' =>
      simp only [AtomTree.tokens, List.cons_append, List.append_assoc] at h
      exact (inner.leads.ne_cons (by decide) (Tok.cons_inj h).2.symm).elim
  | .parens l inner ty c, b, r, s, h => by
    cases b with
    | var y => exact nomatch Tok.kind_eq (a := l) (b := y) h
    | unit l' c' =>
      simp only [AtomTree.tokens, List.cons_append, List.append_assoc] at h
      exact (inner.leads.ne_cons (by decide) (Tok.cons_inj h).2).elim
    | parens l' inner' ty' c' =>
      simp only [AtomTree.tokens, List.cons_append, List.append_assoc] at h
      obtain ⟨rfl, h₁⟩ := Tok.cons_inj h
      obtain ⟨rfl, h₂⟩ := TermTree.unique inner inner' (ty.stops (c.stops (by decide)))
        (ty'.stops (c'.stops (by decide))) h₁
      obtain ⟨rfl, h₃⟩ := ty.unique ty' (c.stops (by decide)) (c'.stops (by decide)) h₂
      obtain ⟨rfl, rest⟩ := Tok.cons_inj h₃
      exact ⟨rfl, rest⟩

end

end TermBot.Surface

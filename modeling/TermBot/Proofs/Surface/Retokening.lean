import Mathlib.Logic.Basic
import TermBot.Proofs.Surface.Lexing
import TermBot.Proofs.Surface.ParserComplete

/-!
# What the parser looks at

The parser looks at the kinds of tokens and at the texts of identifiers and numbers. On tokens that agree in these a
derivation has the same shape (`TermTree.retoken`), so it denotes the same term up to positions, and the parser
accepts both lists of tokens or neither (`parseTokens_retoken`).
-/

namespace TermBot.Surface

/-- A token as far as the parser looks at it: its kind, and the text of an identifier or a number. -/
def Token.sense (t : Token) : Lexeme := (t.kind, if t.kind = .ident ∨ t.kind = .number then t.lit else "")

variable {toks : List Token} {ls : List Lexeme}

theorem sense_eq_cons {k : TokenKind} {t : Tok k} (same : toks.map Token.sense = t.token.sense :: ls) :
    ∃ (u : Tok k) (rest : List Token), toks = u.token :: rest ∧
      (k = .ident ∨ k = .number → u.token.lit = t.token.lit) ∧ rest.map Token.sense = ls := by
  obtain ⟨u, rest, rfl, alike, tail⟩ := List.map_eq_cons_iff.1 same
  obtain ⟨kind, text⟩ := Prod.mk.inj alike
  have kind : u.kind = k := kind.trans t.kind
  refine ⟨⟨u, kind⟩, rest, rfl, fun read => ?_, tail⟩
  rwa [kind, t.kind, if_pos read, if_pos read] at text

theorem sense_eq_names {vs : List (Tok .ident)}
    (same : toks.map Token.sense = (vs.map Tok.token).map Token.sense ++ ls) :
    ∃ (us : List (Tok .ident)) (rest : List Token), toks = us.map Tok.token ++ rest ∧
      us.map (·.token.lit) = vs.map (·.token.lit) ∧ rest.map Token.sense = ls := by
  induction vs generalizing toks with
  | nil => exact ⟨[], toks, rfl, rfl, same⟩
  | cons v vs ih =>
    obtain ⟨u, rest, rfl, text, same⟩ := sense_eq_cons same
    obtain ⟨us, rest, rfl, texts, same⟩ := ih same
    exact ⟨u :: us, rest, rfl, congrArg₂ List.cons (text (.inl rfl)) texts, same⟩

/-! ## Types -/

theorem TypeExpr.erase_quantified (vs : List (Tok .ident)) (b : TypeExpr) :
    (vs.foldr (fun w b => .all w.token.lit b) b).erase = (vs.map (·.token.lit)).foldr .all b.erase := by
  induction vs with
  | nil => rfl
  | cons v vs ih => rw [List.foldr_cons, TypeExpr.erase, ih, List.map_cons, List.foldr_cons]

mutual

/-- Tokens that agree with those of a type derive it, up to positions. -/
theorem TypeTree.retoken : (d : TypeTree) → {toks : List Token} →
    toks.map Token.sense = d.tokens.map Token.sense → ∃ e : TypeTree, e.tokens = toks ∧ e.type.erase = d.type.erase
  | .all q v vs d b, toks, same => by
    simp only [TypeTree.tokens, List.map_cons, List.map_append] at same
    obtain ⟨q', rest, rfl, -, same⟩ := sense_eq_cons same
    obtain ⟨v', rest, rfl, text, same⟩ := sense_eq_cons same
    obtain ⟨vs', rest, rfl, texts, same⟩ := sense_eq_names same
    obtain ⟨d', rest, rfl, -, same⟩ := sense_eq_cons same
    obtain ⟨b', rfl, erased⟩ := b.retoken same
    refine ⟨.all q' v' vs' d' b', by rw [TypeTree.tokens], ?_⟩
    simp only [TypeTree.type, TypeExpr.erase, TypeExpr.erase_quantified, text (.inl rfl), texts, erased]
  | .atom a, toks, same => by
    obtain ⟨a', rfl, erased⟩ := a.retoken same
    exact ⟨.atom a', rfl, erased⟩
  | .arrow a m b, toks, same => by
    rw [TypeTree.tokens, List.map_append, List.map_cons] at same
    obtain ⟨left, rest, rfl, sameLeft, same⟩ := List.map_eq_append_iff.1 same
    obtain ⟨m', right, rfl, -, sameRight⟩ := sense_eq_cons same
    obtain ⟨a', rfl, erasedA⟩ := a.retoken sameLeft
    obtain ⟨b', rfl, erasedB⟩ := b.retoken sameRight
    exact ⟨.arrow a' m' b', by rw [TypeTree.tokens], congrArg₂ TypeExpr.arrow erasedA erasedB⟩

/-- Tokens that agree with those of a type that needs no parentheses derive it, up to positions. -/
theorem TypeAtomTree.retoken : (a : TypeAtomTree) → {toks : List Token} →
    toks.map Token.sense = a.tokens.map Token.sense → ∃ e : TypeAtomTree, e.tokens = toks ∧ e.type.erase = a.type.erase
  | .name t plain, toks, same => by
    obtain ⟨t', rest, rfl, text, same⟩ := sense_eq_cons same
    obtain rfl := List.map_eq_nil_iff.1 same
    have text := text (.inl rfl)
    refine ⟨.name t' (text ▸ plain), rfl, ?_⟩
    rw [TypeAtomTree.type, TypeAtomTree.type, TypeExpr.erase, TypeExpr.erase, text]
  | .unit t unit, toks, same => by
    obtain ⟨t', rest, rfl, text, same⟩ := sense_eq_cons same
    obtain rfl := List.map_eq_nil_iff.1 same
    exact ⟨.unit t' ((text (.inl rfl)).trans unit), rfl, rfl⟩
  | .one t one, toks, same => by
    obtain ⟨t', rest, rfl, text, same⟩ := sense_eq_cons same
    obtain rfl := List.map_eq_nil_iff.1 same
    exact ⟨.one t' ((text (.inr rfl)).trans one), rfl, rfl⟩
  | .empty l r, toks, same => by
    obtain ⟨l', rest, rfl, -, same⟩ := sense_eq_cons same
    obtain ⟨r', rest, rfl, -, same⟩ := sense_eq_cons same
    obtain rfl := List.map_eq_nil_iff.1 same
    exact ⟨.empty l' r', rfl, rfl⟩
  | .parens l a r, toks, same => by
    simp only [TypeAtomTree.tokens, List.map_cons, List.map_append, List.map_nil] at same
    obtain ⟨l', rest, rfl, -, same⟩ := sense_eq_cons same
    obtain ⟨inner, rest, rfl, sameInner, same⟩ := List.map_eq_append_iff.1 same
    obtain ⟨r', rest, rfl, -, same⟩ := sense_eq_cons same
    obtain rfl := List.map_eq_nil_iff.1 same
    obtain ⟨a', rfl, erased⟩ := a.retoken sameInner
    exact ⟨.parens l' a' r', by rw [TypeAtomTree.tokens], erased⟩

end

theorem AnnotationTree.retoken (a : AnnotationTree) (same : toks.map Token.sense = a.tokens.map Token.sense) :
    ∃ e : AnnotationTree, e.tokens = toks ∧ e.type.map TypeExpr.erase = a.type.map TypeExpr.erase := by
  cases a with
  | none => exact ⟨none, (List.map_eq_nil_iff.1 same).symm, rfl⟩
  | some p =>
    obtain ⟨c, rest, rfl, -, same⟩ := sense_eq_cons same
    obtain ⟨d, rfl, erased⟩ := p.2.retoken same
    exact ⟨some (c, d), rfl, congrArg some erased⟩

/-! ## Terms -/

theorem Term.erase_abstracted (xs : List (Tok .ident)) (b : Term) :
    (xs.foldr (fun y b => .lam y.token.lit b y.token.pos) b).erase =
      (xs.map (·.token.lit)).foldr (fun y b => .lam y b .start) b.erase := by
  induction xs with
  | nil => rfl
  | cons x xs ih => rw [List.foldr_cons, Term.erase, ih, List.map_cons, List.foldr_cons]

theorem Term.erase_annotate {start start' : Pos} {t t' : Term} {ty ty' : Option TypeExpr}
    (term : t'.erase = t.erase) (type : ty'.map TypeExpr.erase = ty.map TypeExpr.erase) :
    (t'.annotate start' ty').erase = (t.annotate start ty).erase := by
  cases ty <;> cases ty' <;> simp_all [Term.annotate, Term.erase]

mutual

/-- Tokens that agree with those of a term derive it, up to positions. -/
theorem TermTree.retoken : (d : TermTree) → {toks : List Token} →
    toks.map Token.sense = d.tokens.map Token.sense → ∃ e : TermTree, e.tokens = toks ∧ e.term.erase = d.term.erase
  | .binder b, toks, same => by
    obtain ⟨b', rfl, erased⟩ := b.retoken same
    exact ⟨.binder b', rfl, erased⟩
  | .app fn args, toks, same => by
    rw [TermTree.tokens, List.map_append] at same
    obtain ⟨left, right, rfl, sameLeft, sameRight⟩ := List.map_eq_append_iff.1 same
    obtain ⟨fn', rfl, erased⟩ := fn.retoken sameLeft
    obtain ⟨args', rfl, applied⟩ := args.retoken sameRight
    exact ⟨.app fn' args', by rw [TermTree.tokens], applied erased⟩

/-- Tokens that agree with those of an abstraction or a binding derive it, up to positions. -/
theorem BinderTree.retoken : (b : BinderTree) → {toks : List Token} →
    toks.map Token.sense = b.tokens.map Token.sense → ∃ e : BinderTree, e.tokens = toks ∧ e.term.erase = b.term.erase
  | .lam l x xs d b, toks, same => by
    simp only [BinderTree.tokens, List.map_cons, List.map_append] at same
    obtain ⟨l', rest, rfl, -, same⟩ := sense_eq_cons same
    obtain ⟨x', rest, rfl, text, same⟩ := sense_eq_cons same
    obtain ⟨xs', rest, rfl, texts, same⟩ := sense_eq_names same
    obtain ⟨d', rest, rfl, -, same⟩ := sense_eq_cons same
    obtain ⟨b', rfl, erased⟩ := b.retoken same
    refine ⟨.lam l' x' xs' d' b', by rw [BinderTree.tokens], ?_⟩
    simp only [BinderTree.term, Term.erase, Term.erase_abstracted, text (.inl rfl), texts, erased]
  | .letIn l x ty e v i b, toks, same => by
    simp only [BinderTree.tokens, List.map_cons, List.map_append] at same
    obtain ⟨l', rest, rfl, -, same⟩ := sense_eq_cons same
    obtain ⟨x', rest, rfl, text, same⟩ := sense_eq_cons same
    obtain ⟨type, rest, rfl, sameType, same⟩ := List.map_eq_append_iff.1 same
    obtain ⟨e', rest, rfl, -, same⟩ := sense_eq_cons same
    obtain ⟨value, rest, rfl, sameValue, same⟩ := List.map_eq_append_iff.1 same
    obtain ⟨i', body, rfl, -, sameBody⟩ := sense_eq_cons same
    obtain ⟨ty', rfl, erasedType⟩ := ty.retoken sameType
    obtain ⟨v', rfl, erasedValue⟩ := v.retoken sameValue
    obtain ⟨b', rfl, erasedBody⟩ := b.retoken sameBody
    refine ⟨.letIn l' x' ty' e' v' i' b', by rw [BinderTree.tokens], ?_⟩
    simp only [BinderTree.term, Term.erase, text (.inl rfl), erasedType, erasedValue, erasedBody]

/-- Tokens that agree with those of arguments derive the same application of any function. -/
theorem ArgsTree.retoken : (as : ArgsTree) → {toks : List Token} →
    toks.map Token.sense = as.tokens.map Token.sense → ∃ e : ArgsTree, e.tokens = toks ∧
      ∀ {f f' : Term}, f'.erase = f.erase → (e.applied f').erase = (as.applied f).erase
  | .none, toks, same => ⟨.none, (List.map_eq_nil_iff.1 same).symm, id⟩
  | .more a as, toks, same => by
    rw [ArgsTree.tokens, List.map_append] at same
    obtain ⟨left, right, rfl, sameLeft, sameRight⟩ := List.map_eq_append_iff.1 same
    obtain ⟨a', rfl, erased⟩ := a.retoken sameLeft
    obtain ⟨as', rfl, applied⟩ := as.retoken sameRight
    exact ⟨.more a' as', by rw [ArgsTree.tokens], fun fn => applied (congrArg₂ Term.app fn erased)⟩
  | .last b, toks, same => by
    obtain ⟨b', rfl, erased⟩ := b.retoken same
    exact ⟨.last b', rfl, fun fn => congrArg₂ Term.app fn erased⟩

/-- Tokens that agree with those of a term that needs no parentheses derive it, up to positions. -/
theorem AtomTree.retoken : (a : AtomTree) → {toks : List Token} →
    toks.map Token.sense = a.tokens.map Token.sense → ∃ e : AtomTree, e.tokens = toks ∧ e.term.erase = a.term.erase
  | .var x, toks, same => by
    obtain ⟨x', rest, rfl, text, same⟩ := sense_eq_cons same
    obtain rfl := List.map_eq_nil_iff.1 same
    refine ⟨.var x', rfl, ?_⟩
    rw [AtomTree.term, AtomTree.term, Term.erase, Term.erase, text (.inl rfl)]
  | .unit l r, toks, same => by
    obtain ⟨l', rest, rfl, -, same⟩ := sense_eq_cons same
    obtain ⟨r', rest, rfl, -, same⟩ := sense_eq_cons same
    obtain rfl := List.map_eq_nil_iff.1 same
    exact ⟨.unit l' r', rfl, rfl⟩
  | .parens l t ty r, toks, same => by
    simp only [AtomTree.tokens, List.map_cons, List.map_append, List.map_nil] at same
    obtain ⟨l', rest, rfl, -, same⟩ := sense_eq_cons same
    obtain ⟨inner, rest, rfl, sameInner, same⟩ := List.map_eq_append_iff.1 same
    obtain ⟨type, rest, rfl, sameType, same⟩ := List.map_eq_append_iff.1 same
    obtain ⟨r', rest, rfl, -, same⟩ := sense_eq_cons same
    obtain rfl := List.map_eq_nil_iff.1 same
    obtain ⟨t', rfl, erased⟩ := t.retoken sameInner
    obtain ⟨ty', rfl, erasedType⟩ := ty.retoken sameType
    exact ⟨.parens l' t' ty' r', by rw [AtomTree.tokens], Term.erase_annotate erased erasedType⟩

end

/-- Both are terms, and they are equal up to positions, or neither is one. -/
inductive SameTerm : Except Fault Term → Except Fault Term → Prop where
  | terms {t t' : Term} : t'.erase = t.erase → SameTerm (.ok t) (.ok t')
  | faults {f f' : Fault} : SameTerm (.error f) (.error f')

/-- The parser does the same on tokens that agree, wherever they stand. -/
theorem parseTokens_retoken {stop stop' : Pos} {toks' : List Token}
    (same : toks'.map Token.sense = toks.map Token.sense) :
    SameTerm (parseTokens stop toks) (parseTokens stop' toks') := by
  cases read : parseTokens stop toks with
  | ok t =>
    obtain ⟨d, rfl, rfl⟩ := parseTokens_sound read
    obtain ⟨e, rfl, erased⟩ := d.retoken same
    rw [parseTokens_complete e]
    exact .terms erased
  | error f =>
    cases read' : parseTokens stop' toks' with
    | error f' => exact .faults
    | ok t' =>
      obtain ⟨d, rfl, rfl⟩ := parseTokens_sound read'
      obtain ⟨e, rfl, -⟩ := d.retoken same.symm
      cases (parseTokens_complete e).symm.trans read

end TermBot.Surface

import TermBot.Proofs.Surface.ParserComplete
import TermBot.Proofs.Surface.Printing
import TermBot.Text.Width

/-!
# Printing and parsing again

A term that was parsed is printed within any number of columns so that parsing gives it back, up to
positions: `parse_layout`. The names in it are identifiers, because they are tokens of the source it
comes from (`TermTree.named`); the lexemes of the printed text are then those of the term, and any
tokens with these lexemes have a derivation that denotes it (`Term.reads`).
-/

namespace TermBot.Surface

open Doc (Prec)

/-! ## Names of a derivation -/

/-- The identifiers among the tokens are names. -/
def Idents (toks : List Token) : Prop := ∀ t ∈ toks, t.kind = .ident → IsName t.lit

@[simp] theorem idents_nil : Idents [] := by simp [Idents]

@[simp] theorem idents_cons {t : Token} {toks : List Token} :
    Idents (t :: toks) ↔ (t.kind = .ident → IsName t.lit) ∧ Idents toks :=
  List.forall_mem_cons

@[simp] theorem idents_append {ts us : List Token} :
    Idents (ts ++ us) ↔ Idents ts ∧ Idents us :=
  List.forall_mem_append

theorem TypeExpr.named_quantified {vs : List (Tok .ident)} {b : TypeExpr}
    (names : Idents (vs.map Tok.token)) (hb : b.Named) :
    (vs.foldr (fun w b => .all w.token.lit b) b).Named := by
  induction vs with
  | nil => exact hb
  | cons v vs ih =>
    rw [List.map_cons, idents_cons] at names
    exact ⟨names.1 v.kind, ih names.2⟩

theorem Term.named_abstracted {xs : List (Tok .ident)} {b : Term}
    (names : Idents (xs.map Tok.token)) (hb : b.Named) :
    (xs.foldr (fun y b => .lam y.token.lit b y.token.pos) b).Named := by
  induction xs with
  | nil => exact hb
  | cons x xs ih =>
    rw [List.map_cons, idents_cons] at names
    exact ⟨names.1 x.kind, ih names.2⟩

mutual

/-- The names in a type are identifiers of its tokens. -/
theorem TypeTree.named : (d : TypeTree) → Idents d.tokens → d.type.Named
  | .all q v vs d b, names => by
    simp only [TypeTree.tokens, idents_cons, idents_append] at names
    exact ⟨names.2.1 v.kind, TypeExpr.named_quantified names.2.2.1 (b.named names.2.2.2.2)⟩
  | .atom a, names => a.named names
  | .arrow a m b, names => by
    simp only [TypeTree.tokens, idents_append, idents_cons] at names
    exact ⟨a.named names.1, b.named names.2.2⟩

/-- The names in a type that needs no parentheses are identifiers of its tokens. -/
theorem TypeAtomTree.named : (a : TypeAtomTree) → Idents a.tokens → a.type.Named
  | .name t plain, names => ⟨names t.token List.mem_cons_self t.kind, plain⟩
  | .unit _ _, _ => trivial
  | .one _ _, _ => trivial
  | .empty _ _, _ => trivial
  | .parens l a r, names => by
    simp only [TypeAtomTree.tokens, idents_cons, idents_append] at names
    exact a.named names.2.1

end

theorem AnnotationTree.named {a : AnnotationTree} (names : Idents a.tokens) :
    ∀ type ∈ a.type, type.Named := by
  cases a with
  | none => exact fun _ h => nomatch h
  | some p =>
    rintro type ⟨⟩
    exact p.2.named (idents_cons.1 names).2

mutual

/-- The names in a term are identifiers of its tokens. -/
theorem TermTree.named : (d : TermTree) → Idents d.tokens → d.term.Named
  | .binder b, names => b.named names
  | .app fn args, names => by
    rw [TermTree.tokens, idents_append] at names
    exact args.named names.2 (fn.named names.1)

/-- The names in an abstraction or a binding are identifiers of its tokens. -/
theorem BinderTree.named : (b : BinderTree) → Idents b.tokens → b.term.Named
  | .lam l x xs d b, names => by
    simp only [BinderTree.tokens, idents_cons, idents_append] at names
    exact ⟨names.2.1 x.kind, Term.named_abstracted names.2.2.1 (b.named names.2.2.2.2)⟩
  | .letIn l x ty e v i b, names => by
    simp only [BinderTree.tokens, idents_cons, idents_append] at names
    obtain ⟨-, hx, hty, -, hv, -, hb⟩ := names
    exact ⟨hx x.kind, AnnotationTree.named hty, v.named hv, b.named hb⟩

/-- The names in an application are those of its function and of its arguments. -/
theorem ArgsTree.named : (as : ArgsTree) → Idents as.tokens → {f : Term} → f.Named →
    (as.applied f).Named
  | .none, _, f, hf => hf
  | .more a as, names, f, hf => by
    rw [ArgsTree.tokens, idents_append] at names
    exact as.named names.2 ⟨hf, a.named names.1⟩
  | .last b, names, f, hf => ⟨hf, b.named names⟩

/-- The names in a term that needs no parentheses are identifiers of its tokens. -/
theorem AtomTree.named : (a : AtomTree) → Idents a.tokens → a.term.Named
  | .var x, names => names x.token List.mem_cons_self x.kind
  | .unit _ _, _ => trivial
  | .parens l t ty r, names => by
    simp only [AtomTree.tokens, idents_cons, idents_append] at names
    have inner := t.named names.2.1
    cases ty with
    | none => exact inner
    | some p => exact ⟨inner, AnnotationTree.named names.2.2.1 _ rfl⟩

end

/-- The names in a parsed term are identifiers. -/
theorem named_of_parseSource {src : Source} {t : Term} (h : parseSource src = .ok t) : t.Named := by
  obtain ⟨toks, scanned, parsed⟩ := bind_eq_ok h
  obtain ⟨d, leaves, rfl⟩ := parseTokens_sound parsed
  refine d.named fun u hu => ?_
  have source : toks = tokens src := by
    unfold scan at scanned
    split at scanned
    · cases scanned
    · cases scanned
      rfl
  rw [leaves, source] at hu
  exact isName_of_tokens u ((List.dropLast_sublist _).subset hu)

/-! ## Tokens with given lexemes -/

theorem bare_eq_cons {toks : List Token} {k : TokenKind} {s : String} {ls : List Lexeme}
    (h : toks.map Token.bare = (k, s) :: ls) :
    ∃ (t : Tok k) (rest : List Token),
      toks = t.token :: rest ∧ (k = .ident → t.token.lit = s) ∧ rest.map Token.bare = ls := by
  obtain ⟨t, rest, rfl, same, tail⟩ := List.map_eq_cons_iff.1 h
  obtain ⟨kind, text⟩ := Prod.mk.inj same
  refine ⟨⟨t, kind⟩, rest, rfl, fun ident => ?_, tail⟩
  rwa [if_pos (kind.trans ident)] at text

/-- Tokens with these lexemes are read as the type, up to positions. -/
def TypeExpr.Reads (ty : TypeExpr) (ls : List Lexeme) : Spot → Prop
  | .plain .top => ∀ toks, toks.map Token.bare = ls →
      ∃ d : TypeTree, d.tokens = toks ∧ d.type.erase = ty.erase
  | .plain _ => ∀ toks, toks.map Token.bare = ls →
      ∃ a : TypeAtomTree, a.tokens = toks ∧ a.type.erase = ty.erase
  | .body => ∀ toks, toks.map Token.bare = ls →
      ∃ (vs : List (Tok .ident)) (d : Tok .dot) (b : TypeTree),
        toks = vs.map Tok.token ++ d.token :: b.tokens ∧
          (vs.foldr (fun w b => .all w.token.lit b) b.type).erase = ty.erase

section Types

variable {ty : TypeExpr} {ls : List Lexeme}

theorem TypeExpr.Reads.top (h : ty.Reads ls (.plain .atom)) : ty.Reads ls (.plain .top) := by
  intro toks same
  obtain ⟨a, rfl, erased⟩ := h toks same
  exact ⟨.atom a, by rw [TypeTree.tokens], by rw [TypeTree.type, erased]⟩

theorem TypeExpr.Reads.parens (h : ty.Reads ls (.plain .top)) :
    ty.Reads ((.lparen, "") :: (ls ++ [(TokenKind.rparen, "")])) (.plain .atom) := by
  intro toks same
  obtain ⟨l, rest, rfl, -, same⟩ := bare_eq_cons same
  obtain ⟨inner, close, rfl, sameInner, same⟩ := List.map_eq_append_iff.1 same
  obtain ⟨r, rest, rfl, -, same⟩ := bare_eq_cons same
  obtain rfl := List.map_eq_nil_iff.1 same
  obtain ⟨d, rfl, erased⟩ := h inner sameInner
  exact ⟨.parens l d r, by rw [TypeAtomTree.tokens], by rw [TypeAtomTree.type, erased]⟩

theorem TypeExpr.Reads.body (h : ty.Reads ls (.plain .top)) :
    ty.Reads ((.dot, "") :: ls) .body := by
  intro toks same
  obtain ⟨d, rest, rfl, -, same⟩ := bare_eq_cons same
  obtain ⟨b, rfl, erased⟩ := h rest same
  exact ⟨[], d, b, rfl, erased⟩

/-- A type that needs no parentheses is read in every spot. -/
theorem TypeExpr.Reads.fill_atom (h : ty.Reads ls (.plain .atom)) (s : Spot) :
    ty.Reads (s.fill .atom ls) s := by
  cases s with
  | plain need =>
    cases need with
    | top => exact h.top
    | app => exact h
    | atom => exact h
  | body => exact h.top.body

/-- A type is read in every spot, with parentheses where it needs them. -/
theorem TypeExpr.Reads.fill_top (h : ty.Reads ls (.plain .top)) (s : Spot) :
    ty.Reads (s.fill .top ls) s := by
  cases s with
  | plain need =>
    cases need with
    | top => exact h
    | app => exact h.parens
    | atom => exact h.parens
  | body => exact h.body

end Types

/-- Tokens with the lexemes of a type are read as the type. -/
theorem TypeExpr.reads (ty : TypeExpr) (named : ty.Named) (s : Spot) :
    ty.Reads (ty.lexemes s) s := by
  induction ty generalizing s with
  | unit =>
    refine TypeExpr.Reads.fill_atom (fun toks same => ?_) s
    obtain ⟨t, rest, rfl, text, same⟩ := bare_eq_cons same
    obtain rfl := List.map_eq_nil_iff.1 same
    exact ⟨.unit t (text rfl), rfl, rfl⟩
  | name n pos =>
    refine TypeExpr.Reads.fill_atom (fun toks same => ?_) s
    obtain ⟨t, rest, rfl, text, same⟩ := bare_eq_cons same
    obtain rfl := List.map_eq_nil_iff.1 same
    refine ⟨.name t (text rfl ▸ named.2), rfl, ?_⟩
    rw [TypeAtomTree.type, TypeExpr.erase, text rfl, TypeExpr.erase]
  | arrow a b ihA ihB =>
    refine TypeExpr.Reads.fill_top (fun toks same => ?_) s
    obtain ⟨left, rest, rfl, sameLeft, same⟩ := List.map_eq_append_iff.1 same
    obtain ⟨m, right, rfl, -, sameRight⟩ := bare_eq_cons same
    obtain ⟨a', rfl, erasedA⟩ := ihA named.1 (.plain .app) left sameLeft
    obtain ⟨b', rfl, erasedB⟩ := ihB named.2 (.plain .top) right sameRight
    refine ⟨.arrow a' m b', by rw [TypeTree.tokens], ?_⟩
    rw [TypeTree.type, TypeExpr.erase, erasedA, erasedB, TypeExpr.erase]
  | all v b ih =>
    have first : (TypeExpr.all v b).Reads
        ((.quantifier, "") :: (.ident, v) :: b.lexemes .body) (.plain .top) := by
      intro toks same
      obtain ⟨q, rest, rfl, -, same⟩ := bare_eq_cons same
      obtain ⟨w, rest, rfl, text, same⟩ := bare_eq_cons same
      obtain ⟨ws, d, b', rfl, erased⟩ := ih named.2 .body rest same
      refine ⟨.all q w ws d b', by rw [TypeTree.tokens], ?_⟩
      rw [TypeTree.type, TypeExpr.erase, erased, text rfl, TypeExpr.erase]
    cases s with
    | plain need => exact first.fill_top (.plain need)
    | body =>
      intro toks same
      obtain ⟨w, rest, rfl, text, same⟩ := bare_eq_cons same
      obtain ⟨ws, d, b', rfl, erased⟩ := ih named.2 .body rest same
      refine ⟨w :: ws, d, b', rfl, ?_⟩
      rw [List.foldr_cons, TypeExpr.erase, erased, text rfl, TypeExpr.erase]

/-- Tokens with the lexemes of an optional type are read as the optional type. -/
theorem annotation_reads {ty : Option TypeExpr} (named : ∀ type ∈ ty, type.Named)
    {toks : List Token} (same : toks.map Token.bare = annotationLexemes ty) :
    ∃ a : AnnotationTree, a.tokens = toks ∧
      a.type.map TypeExpr.erase = ty.map TypeExpr.erase := by
  cases ty with
  | none => exact ⟨none, (List.map_eq_nil_iff.1 same).symm, rfl⟩
  | some ty =>
    obtain ⟨c, rest, rfl, -, same⟩ := bare_eq_cons same
    obtain ⟨d, rfl, erased⟩ := ty.reads (named ty rfl) (.plain .top) rest same
    exact ⟨some (c, d), rfl, congrArg some erased⟩

/-! ## Terms with given lexemes -/

/-- Arguments that need no parentheses. -/
def ArgsTree.ofAtoms : List AtomTree → ArgsTree
  | [] => .none
  | a :: as => .more a (ofAtoms as)

theorem ArgsTree.tokens_ofAtoms (as : List AtomTree) :
    (ArgsTree.ofAtoms as).tokens = as.flatMap AtomTree.tokens := by
  induction as with
  | nil => rfl
  | cons a as ih => rw [ArgsTree.ofAtoms, ArgsTree.tokens, ih, List.flatMap_cons]

theorem ArgsTree.applied_ofAtoms (as : List AtomTree) (f : Term) :
    (ArgsTree.ofAtoms as).applied f = as.foldl (fun f a => .app f a.term) f := by
  induction as generalizing f with
  | nil => rfl
  | cons a as ih => rw [ArgsTree.ofAtoms, ArgsTree.applied, ih, List.foldl_cons]

/-- Tokens with these lexemes are read as the term, up to positions. -/
def Term.Reads (t : Term) (ls : List Lexeme) : Spot → Prop
  | .plain .top => ∀ toks, toks.map Token.bare = ls →
      ∃ d : TermTree, d.tokens = toks ∧ d.term.erase = t.erase
  | .plain .app => ∀ toks, toks.map Token.bare = ls →
      ∃ (fn : AtomTree) (args : List AtomTree),
        fn.tokens ++ args.flatMap AtomTree.tokens = toks ∧
          (args.foldl (fun f a => .app f a.term) fn.term).erase = t.erase
  | .plain .atom => ∀ toks, toks.map Token.bare = ls →
      ∃ a : AtomTree, a.tokens = toks ∧ a.term.erase = t.erase
  | .body => ∀ toks, toks.map Token.bare = ls →
      ∃ (xs : List (Tok .ident)) (d : Tok .dot) (b : TermTree),
        toks = xs.map Tok.token ++ d.token :: b.tokens ∧
          (xs.foldr (fun y b => .lam y.token.lit b y.token.pos) b.term).erase = t.erase

section Terms

variable {t : Term} {ls : List Lexeme}

theorem Term.Reads.app (h : t.Reads ls (.plain .atom)) : t.Reads ls (.plain .app) := by
  intro toks same
  obtain ⟨a, rfl, erased⟩ := h toks same
  exact ⟨a, [], by simp, erased⟩

theorem Term.Reads.top (h : t.Reads ls (.plain .app)) : t.Reads ls (.plain .top) := by
  intro toks same
  obtain ⟨fn, args, rfl, erased⟩ := h toks same
  refine ⟨.app fn (.ofAtoms args), ?_, ?_⟩
  · rw [TermTree.tokens, ArgsTree.tokens_ofAtoms]
  · rw [TermTree.term, ArgsTree.applied_ofAtoms, erased]

theorem Term.Reads.parens (h : t.Reads ls (.plain .top)) :
    t.Reads ((.lparen, "") :: (ls ++ [(TokenKind.rparen, "")])) (.plain .atom) := by
  intro toks same
  obtain ⟨l, rest, rfl, -, same⟩ := bare_eq_cons same
  obtain ⟨inner, close, rfl, sameInner, same⟩ := List.map_eq_append_iff.1 same
  obtain ⟨r, rest, rfl, -, same⟩ := bare_eq_cons same
  obtain rfl := List.map_eq_nil_iff.1 same
  obtain ⟨d, rfl, erased⟩ := h inner sameInner
  exact ⟨.parens l d none r, by rw [AtomTree.tokens]; rfl, by rw [AtomTree.term]; exact erased⟩

theorem Term.Reads.body (h : t.Reads ls (.plain .top)) : t.Reads ((.dot, "") :: ls) .body := by
  intro toks same
  obtain ⟨d, rest, rfl, -, same⟩ := bare_eq_cons same
  obtain ⟨b, rfl, erased⟩ := h rest same
  exact ⟨[], d, b, rfl, erased⟩

/-- A term is read in every spot, with parentheses where it needs them. -/
theorem Term.Reads.fill (given : Prec) (h : t.Reads ls (.plain given)) (s : Spot) :
    t.Reads (s.fill given ls) s := by
  cases given with
  | top =>
    cases s with
    | plain need =>
      cases need with
      | top => exact h
      | app => exact h.parens.app
      | atom => exact h.parens
    | body => exact h.body
  | app =>
    cases s with
    | plain need =>
      cases need with
      | top => exact h.top
      | app => exact h
      | atom => exact h.top.parens
    | body => exact h.top.body
  | atom =>
    cases s with
    | plain need =>
      cases need with
      | top => exact h.app.top
      | app => exact h.app
      | atom => exact h
    | body => exact h.app.top.body

end Terms

/-- Tokens with the lexemes of a term are read as the term. -/
theorem Term.reads (t : Term) (named : t.Named) (s : Spot) : t.Reads (t.lexemes s) s := by
  induction t generalizing s with
  | var n pos =>
    refine Term.Reads.fill .atom (fun toks same => ?_) s
    obtain ⟨x, rest, rfl, text, same⟩ := bare_eq_cons same
    obtain rfl := List.map_eq_nil_iff.1 same
    refine ⟨.var x, rfl, ?_⟩
    rw [AtomTree.term, Term.erase, text rfl, Term.erase]
  | unit pos =>
    refine Term.Reads.fill .atom (fun toks same => ?_) s
    obtain ⟨l, rest, rfl, -, same⟩ := bare_eq_cons same
    obtain ⟨r, rest, rfl, -, same⟩ := bare_eq_cons same
    obtain rfl := List.map_eq_nil_iff.1 same
    exact ⟨.unit l r, rfl, rfl⟩
  | lam x b pos ih =>
    have first : (Term.lam x b pos).Reads
        ((.lambda, "") :: (.ident, x) :: b.lexemes .body) (.plain .top) := by
      intro toks same
      obtain ⟨l, rest, rfl, -, same⟩ := bare_eq_cons same
      obtain ⟨y, rest, rfl, text, same⟩ := bare_eq_cons same
      obtain ⟨ys, d, b', rfl, erased⟩ := ih named.2 .body rest same
      refine ⟨.binder (.lam l y ys d b'), by rw [TermTree.tokens, BinderTree.tokens], ?_⟩
      rw [TermTree.term, BinderTree.term, Term.erase, erased, text rfl, Term.erase]
    cases s with
    | plain need => exact Term.Reads.fill .top first (.plain need)
    | body =>
      intro toks same
      obtain ⟨y, rest, rfl, text, same⟩ := bare_eq_cons same
      obtain ⟨ys, d, b', rfl, erased⟩ := ih named.2 .body rest same
      refine ⟨y :: ys, d, b', rfl, ?_⟩
      rw [List.foldr_cons, Term.erase, erased, text rfl, Term.erase]
  | app f a ihF ihA =>
    refine Term.Reads.fill .app (fun toks same => ?_) s
    obtain ⟨left, right, rfl, sameLeft, sameRight⟩ := List.map_eq_append_iff.1 same
    obtain ⟨fn, args, rfl, erasedF⟩ := ihF named.1 (.plain .app) left sameLeft
    obtain ⟨a', rfl, erasedA⟩ := ihA named.2 (.plain .atom) right sameRight
    refine ⟨fn, args ++ [a'], by simp, ?_⟩
    rw [List.foldl_append, List.foldl_cons, List.foldl_nil, Term.erase, erasedF, erasedA, Term.erase]
  | ann t ty pos ih =>
    refine Term.Reads.fill .atom (fun toks same => ?_) s
    obtain ⟨l, rest, rfl, -, same⟩ := bare_eq_cons same
    obtain ⟨inner, rest, rfl, sameInner, same⟩ := List.map_eq_append_iff.1 same
    obtain ⟨type, rest, rfl, sameType, same⟩ := List.map_eq_append_iff.1 same
    obtain ⟨r, rest, rfl, -, same⟩ := bare_eq_cons same
    obtain rfl := List.map_eq_nil_iff.1 same
    obtain ⟨d, rfl, erased⟩ := ih named.1 (.plain .top) inner sameInner
    obtain ⟨c, type, rfl, -, sameType⟩ := bare_eq_cons sameType
    obtain ⟨ty', rfl, erasedType⟩ := ty.reads named.2 (.plain .top) type sameType
    refine ⟨.parens l d (some (c, ty')) r, by rw [AtomTree.tokens]; rfl, ?_⟩
    show (Term.ann d.term ty'.type l.token.pos).erase = _
    rw [Term.erase, erased, erasedType, Term.erase]
  | letIn x ty v b pos ihV ihB =>
    obtain ⟨-, hty, hv, hb⟩ := named
    refine Term.Reads.fill .top (fun toks same => ?_) s
    obtain ⟨l, rest, rfl, -, same⟩ := bare_eq_cons same
    obtain ⟨y, rest, rfl, text, same⟩ := bare_eq_cons same
    obtain ⟨type, rest, rfl, sameType, same⟩ := List.map_eq_append_iff.1 same
    obtain ⟨e, rest, rfl, -, same⟩ := bare_eq_cons same
    obtain ⟨value, rest, rfl, sameValue, same⟩ := List.map_eq_append_iff.1 same
    obtain ⟨i, body, rfl, -, sameBody⟩ := bare_eq_cons same
    obtain ⟨a, rfl, erasedType⟩ := annotation_reads hty sameType
    obtain ⟨v', rfl, erasedV⟩ := ihV hv (.plain .top) value sameValue
    obtain ⟨b', rfl, erasedB⟩ := ihB hb (.plain .top) body sameBody
    refine ⟨.binder (.letIn l y a e v' i b'), by rw [TermTree.tokens, BinderTree.tokens], ?_⟩
    rw [TermTree.term, BinderTree.term, Term.erase, text rfl, erasedType, erasedV, erasedB,
      Term.erase]

/-! ## The round trip -/

/-- A layout of a document spells its lexemes, whatever the width. -/
theorem Prints.layout [Text.Measure] {d : Doc} {ls : List Lexeme} (prints : Prints d ls) (width : Int64) :
    Lexes (d.layout width).toList ls := by
  have rendering := Doc.renders_place width d 0 false (fun _ => true) 0
  have lexes := prints _ rendering [] [] boundary_nil .nil
  rw [Doc.layout, String.toList_ofList, Doc.pieces]
  simpa using lexes.trimLines

/-- A text with the lexemes of a term is parsed as the term, up to positions. -/
theorem parse_of_lexes {t : Term} (named : t.Named) {text : String}
    (lexes : Lexes text.toList (t.lexemes (.plain .top))) :
    ∃ t', parse text = .ok t' ∧ t'.erase = t.erase := by
  obtain ⟨toks, scanned, lexemes⟩ := scan_of_lexes lexes
  obtain ⟨d, leaves, erased⟩ := t.reads named (.plain .top) toks.dropLast lexemes
  refine ⟨d.term, ?_, erased⟩
  rw [parse, parseSource, Text.scalarsOf, scanned, ok_bind, ← leaves]
  exact parseTokens_complete d

/-- A parsed term, printed within any number of columns, is parsed again as the same term, up to
positions. -/
theorem parse_layout [Text.Measure] {src : Source} {t : Term} (h : parseSource src = .ok t) (width : Int64) :
    ∃ t', parse (t.doc.layout width) = .ok t' ∧ t'.erase = t.erase :=
  have named := named_of_parseSource h
  parse_of_lexes named ((t.prints named (.plain .top)).layout width)

/-- A term with an annotation, on lines of no width. -/
theorem parse_layout_annotation :
    letI := Text.terminal
    ∃ t, parseSource (Text.scalarsOf "\\f. f (f : 1 -> 1)") = .ok t ∧
      ∃ t', parse (t.doc.layout 0) = .ok t' ∧ t'.erase = t.erase := by
  let : Text.Measure := Text.terminal
  have accepted : (parseSource (Text.scalarsOf "\\f. f (f : 1 -> 1)")).isOk = true := by
    decide +kernel
  cases parsed : parseSource (Text.scalarsOf "\\f. f (f : 1 -> 1)") with
  | error fault =>
    rw [parsed] at accepted
    cases accepted
  | ok t => exact ⟨t, rfl, parse_layout parsed 0⟩

end TermBot.Surface

import TermBot.Surface.Printer
import TermBot.Proofs.Surface.Lexing

/-!
# The lexemes of a printed term

`Term.lexemes` and `TypeExpr.lexemes` are the lexemes that the printer writes, with the parentheses
that a place needs. Every rendering of the document of a term spells them (`Term.prints`), provided
that the names in the term are identifiers, so the lexemes do not depend on how the lines are broken.
-/

namespace TermBot.Surface

open Doc (Prec Place Renders)

/-! ## Names -/

/-- The names in the type are identifiers, and none is taken for the unit type. -/
def TypeExpr.Named : TypeExpr → Prop
  | .unit => True
  | .name n _ => IsName n ∧ n ≠ "Unit"
  | .arrow a b => a.Named ∧ b.Named
  | .all v b => IsName v ∧ b.Named

/-- The names in the term are identifiers. -/
def Term.Named : Term → Prop
  | .var n _ => IsName n
  | .unit _ => True
  | .lam x b _ => IsName x ∧ b.Named
  | .app f a => f.Named ∧ a.Named
  | .ann t ty _ => t.Named ∧ ty.Named
  | .letIn x ty v b _ => IsName x ∧ (∀ type ∈ ty, type.Named) ∧ v.Named ∧ b.Named

/-! ## Lexemes -/

/-- Where the lexemes of a term or type stand. -/
inductive Spot where
  /-- A place that binds as tightly as `need`. -/
  | plain (need : Prec)
  /-- After the first variable of a binder. -/
  | body

/-- Puts lexemes of the given precedence into their place. -/
def Spot.fill (given : Prec) (ls : List Lexeme) : Spot → List Lexeme
  | .plain need =>
    if given.rank < need.rank then (.lparen, "") :: (ls ++ [(.rparen, "")]) else ls
  | .body => (.dot, "") :: ls

/-- The lexemes of a type for its place. -/
def TypeExpr.lexemes : TypeExpr → Spot → List Lexeme
  | .unit, s => s.fill .atom [(.ident, "Unit")]
  | .name n _, s => s.fill .atom [(.ident, n)]
  | .arrow a b, s =>
    s.fill .top (a.lexemes (.plain .app) ++ (.arrow, "") :: b.lexemes (.plain .top))
  | .all v b, .body => (.ident, v) :: b.lexemes .body
  | .all v b, s => s.fill .top ((.quantifier, "") :: (.ident, v) :: b.lexemes .body)

/-- The lexemes of an optional type after a colon. -/
def annotationLexemes : Option TypeExpr → List Lexeme
  | none => []
  | some ty => (.colon, "") :: ty.lexemes (.plain .top)

/-- The lexemes of a term for its place. -/
def Term.lexemes : Term → Spot → List Lexeme
  | .var n _, s => s.fill .atom [(.ident, n)]
  | .unit _, s => s.fill .atom [(.lparen, ""), (.rparen, "")]
  | .ann t ty _, s =>
    s.fill .atom ((.lparen, "") :: (t.lexemes (.plain .top) ++
      (annotationLexemes (some ty) ++ [(.rparen, "")])))
  | .lam x b _, .body => (.ident, x) :: b.lexemes .body
  | .lam x b _, s => s.fill .top ((.lambda, "") :: (.ident, x) :: b.lexemes .body)
  | .letIn x ty v b _, s =>
    s.fill .top ((.letKeyword, "") :: (.ident, x) :: (annotationLexemes ty ++ (.equals, "") ::
      (v.lexemes (.plain .top) ++ (.inKeyword, "") :: b.lexemes (.plain .top))))
  | .app f a, s => s.fill .app (f.lexemes (.plain .app) ++ a.lexemes (.plain .atom))

/-! ## Texts -/

/-- The text spells the lexemes, whatever follows that does not continue its last word. -/
def Spells (s : String) (ls : List Lexeme) : Prop :=
  ∀ rest more, Boundary rest → Lexes rest more → Lexes (s.toList ++ rest) (ls ++ more)

/-- All renderings of the document spell the lexemes. -/
def Prints (d : Doc) (ls : List Lexeme) : Prop :=
  ∀ cs, Renders d cs → ∀ rest more, Boundary rest → Lexes rest more →
    Lexes (cs ++ rest) (ls ++ more)

theorem Spells.prints {s : String} {ls : List Lexeme} (h : Spells s ls) : Prints (.text s) ls := by
  intro cs shown
  rw [Doc.renders_text.1 shown]
  exact h

theorem spells_word {s : String} (h : IsWord s) : Spells s [wordLexeme s] :=
  fun _ _ boundary lexes => .word h boundary lexes

theorem spells_name {s : String} (h : IsName s) : Spells s [(.ident, s)] := by
  have lexeme : wordLexeme s = (.ident, s) := by rw [wordLexeme, h.ident, if_pos rfl]
  exact lexeme ▸ spells_word h.word

theorem isWord_let : IsWord "let" :=
  ⟨'l', ['e', 't'], rfl, ⟨by decide, by decide, by decide, by decide, by decide⟩, by decide⟩

theorem isWord_in : IsWord "in" :=
  ⟨'i', ['n'], rfl, ⟨by decide, by decide, by decide, by decide, by decide⟩, by decide⟩

theorem isName_unit : IsName "Unit" :=
  ⟨⟨'U', ['n', 'i', 't'], rfl, ⟨by decide, by decide, by decide, by decide, by decide⟩, by decide⟩,
    rfl⟩

/-- One more variable of a binder. -/
theorem Spells.more {mark vars x : String} {ls : List Lexeme} (h : Spells (mark ++ vars) ls)
    (hx : IsName x) : Spells (mark ++ (vars ++ " " ++ x)) (ls ++ [(.ident, x)]) := by
  intro rest more boundary lexes
  have tail : Lexes (' ' :: (x.toList ++ rest)) ((.ident, x) :: more) :=
    .blank (by decide) (spells_name hx _ _ boundary lexes)
  simpa using h _ _ (boundary_cons (by decide)) tail

/-- A binder of one variable so far. -/
theorem spells_mark {c : Char} {k : TokenKind} {x : String} (hc : symbol? c = some k)
    (hx : IsName x) : Spells (String.singleton c ++ x) [(k, ""), (.ident, x)] := by
  intro rest more boundary lexes
  simpa using Lexes.symbol hc (spells_name hx _ _ boundary lexes)

section Line

variable {cs rest : List Char}

theorem boundary_line (h : Renders .line cs) : Boundary (cs ++ rest) := by
  obtain rfl | ⟨n, rfl⟩ := h.line_cases
  · exact boundary_cons (by decide)
  · exact boundary_cons (by decide)

theorem Lexes.line {ls : List Lexeme} (h : Lexes rest ls) (shown : Renders .line cs) :
    Lexes (cs ++ rest) ls := by
  obtain rfl | ⟨n, rfl⟩ := shown.line_cases
  · exact .blank (by decide) h
  · exact .blank (by decide) h.blanks

end Line

/-! ## Shapes of documents -/

section Shapes

variable {d e : Doc} {ls ms : List Lexeme}

theorem Prints.parens (h : Prints d ls) :
    Prints (Doc.parens d) ((.lparen, "") :: (ls ++ [(.rparen, "")])) := by
  intro cs shown rest more boundary lexes
  simp only [Doc.parens, Doc.renders_append, Doc.renders_text] at shown
  obtain ⟨_, _, rfl, ⟨_, inner, rfl, rfl, hd⟩, rfl⟩ := shown
  have close : Lexes (')' :: rest) ((.rparen, "") :: more) := .symbol rfl lexes
  have body := h inner hd _ _ (boundary_cons (by decide)) close
  simpa using Lexes.symbol (c := '(') rfl body

theorem Prints.binder {head : String} {pre : List Lexeme} (hd : Spells head pre)
    (h : Prints d ls) : Prints (Doc.binder (head ++ ".") d) (pre ++ (.dot, "") :: ls) := by
  intro cs shown rest more boundary lexes
  simp only [Doc.binder, Doc.hanging, Doc.renders_group, Doc.renders_append, Doc.renders_text,
    Doc.renders_nest] at shown
  obtain ⟨_, _, rfl, rfl, line, body, rfl, hline, hbody⟩ := shown
  have tail : Lexes ('.' :: (line ++ (body ++ rest))) ((.dot, "") :: (ls ++ more)) :=
    .symbol rfl ((h body hbody _ _ boundary lexes).line hline)
  simpa using hd _ _ (boundary_cons (by decide)) tail

theorem Prints.arrow (hd : Prints d ls) (he : Prints e ms) :
    Prints (Doc.arrow d e) (ls ++ (.arrow, "") :: ms) := by
  intro cs shown rest more boundary lexes
  simp only [Doc.arrow, Doc.renders_group, Doc.renders_append, Doc.renders_text] at shown
  obtain ⟨_, cod, rfl, ⟨_, line, rfl, ⟨dom, _, rfl, hdom, rfl⟩, hline⟩, hcod⟩ := shown
  have tail : Lexes (' ' :: '→' :: (line ++ (cod ++ rest))) ((.arrow, "") :: (ms ++ more)) :=
    .blank (by decide) (.symbol rfl ((he cod hcod _ _ boundary lexes).line hline))
  simpa using hd dom hdom _ _ (boundary_cons (by decide)) tail

theorem Prints.annotated (hd : Prints d ls) (he : Prints e ms) :
    Prints (Doc.annotated d e)
      ((.lparen, "") :: (ls ++ ((.colon, "") :: ms ++ [(.rparen, "")]))) := by
  intro cs shown rest more boundary lexes
  simp only [Doc.annotated, Doc.hanging, Doc.renders_group, Doc.renders_append, Doc.renders_text,
    Doc.renders_nest] at shown
  obtain ⟨_, _, rfl, ⟨_, _, rfl, ⟨_, _, rfl, ⟨_, inner, rfl, rfl, hinner⟩, rfl⟩, line, type, rfl,
    hline, htype⟩, rfl⟩ := shown
  have close : Lexes (')' :: rest) ((.rparen, "") :: more) := .symbol rfl lexes
  have right := he type htype _ _ (boundary_cons (by decide)) close
  have tail : Lexes (' ' :: ':' :: (line ++ (type ++ ')' :: rest)))
      ((.colon, "") :: (ms ++ (.rparen, "") :: more)) :=
    .blank (by decide) (.symbol rfl (right.line hline))
  have left := hd inner hinner _ _ (boundary_cons (by decide)) tail
  simpa using Lexes.symbol (c := '(') rfl left

theorem Prints.binding {head : Doc} {pre : List Lexeme} (hh : Prints head pre) (hd : Prints d ls)
    (he : Prints e ms) :
    Prints (Doc.binding head d e) (pre ++ (.equals, "") :: (ls ++ (.inKeyword, "") :: ms)) := by
  intro cs shown rest more boundary lexes
  simp only [Doc.binding, Doc.hanging, Doc.renders_group, Doc.renders_append, Doc.renders_text,
    Doc.renders_nest] at shown
  obtain ⟨_, body, rfl, ⟨_, line₃, rfl, ⟨_, _, rfl, ⟨_, line₂, rfl, ⟨_, _, rfl, ⟨top, _, rfl, htop,
    rfl⟩, line₁, value, rfl, hline₁, hvalue⟩, hline₂⟩, rfl⟩, hline₃⟩, hbody⟩ := shown
  have inTail : Lexes ("in".toList ++ (line₃ ++ (body ++ rest)))
      ((.inKeyword, "") :: (ms ++ more)) :=
    .word isWord_in (boundary_line hline₃) ((he body hbody _ _ boundary lexes).line hline₃)
  have valueTail := hd value hvalue _ _ (boundary_line hline₂) (inTail.line hline₂)
  have tail : Lexes (' ' :: '=' :: (line₁ ++ (value ++ (line₂ ++ ("in".toList ++
      (line₃ ++ (body ++ rest))))))) ((.equals, "") :: (ls ++ (.inKeyword, "") :: (ms ++ more))) :=
    .blank (by decide) (.symbol rfl (valueTail.line hline₁))
  simpa using hh top htop _ _ (boundary_cons (by decide)) tail

/-- The arguments of a function, each after a line end. -/
theorem prints_args {args : List (Doc × List Lexeme)} (h : ∀ a ∈ args, Prints a.1 a.2)
    {cs : List Char} (shown : Renders (Doc.concat (args.map fun a => .line ++ a.1)) cs)
    {rest : List Char} {more : List Lexeme} (boundary : Boundary rest) (lexes : Lexes rest more) :
    Boundary (cs ++ rest) ∧ Lexes (cs ++ rest) (args.flatMap Prod.snd ++ more) := by
  induction args generalizing cs with
  | nil =>
    cases shown
    exact ⟨boundary, lexes⟩
  | cons a args ih =>
    obtain ⟨ha, hargs⟩ := List.forall_mem_cons.1 h
    rw [List.map_cons, Doc.renders_concat_cons] at shown
    obtain ⟨_, tail, rfl, htop, htail⟩ := shown
    obtain ⟨line, arg, rfl, hline, harg⟩ := Doc.renders_append.1 htop
    obtain ⟨tailBoundary, tailLexes⟩ := ih hargs htail
    have argLexes := ha arg harg _ _ tailBoundary tailLexes
    rw [List.append_assoc, List.append_assoc]
    refine ⟨boundary_line hline, ?_⟩
    simpa using argLexes.line hline

theorem Prints.application {args : List (Doc × List Lexeme)} (hd : Prints d ls)
    (h : ∀ a ∈ args, Prints a.1 a.2) :
    Prints (Doc.application d (args.map Prod.fst)) (ls ++ args.flatMap Prod.snd) := by
  intro cs shown rest more boundary lexes
  simp only [Doc.application, Doc.renders_group, Doc.renders_append, Doc.renders_nest,
    List.map_map, Function.comp_def] at shown
  obtain ⟨fn, tail, rfl, hfn, htail⟩ := shown
  obtain ⟨tailBoundary, tailLexes⟩ := prints_args h htail boundary lexes
  simpa using hd fn hfn _ _ tailBoundary tailLexes

end Shapes

/-! ## Places -/

/-- The place puts the lexemes of what stands in it at a spot, among those of the place. -/
inductive Placed : Place → Spot → (List Lexeme → List Lexeme) → Prop where
  | plain (need : Prec) : Placed (.plain need) (.plain need) id
  | body {mark vars : String} {pre : List Lexeme} :
      Spells (mark ++ vars) pre → Placed (.body mark vars) .body (pre ++ ·)
  | function (args : List (Doc × List Lexeme)) : (∀ a ∈ args, Prints a.1 a.2) →
      Placed (.function (args.map Prod.fst)) (.plain .app) (· ++ args.flatMap Prod.snd)

theorem Prints.wrap {d : Doc} {ls : List Lexeme} (h : Prints d ls) (need given : Prec) :
    Prints (Doc.wrap need given d) (Spot.fill given ls (.plain need)) := by
  simp only [Doc.wrap, Spot.fill]
  split
  · exact h.parens
  · exact h

theorem Placed.fill {p : Place} {s : Spot} {around : List Lexeme → List Lexeme}
    (h : Placed p s around) {given : Prec} {d : Doc} {ls : List Lexeme} (hd : Prints d ls) :
    Prints (p.fill given d) (around (s.fill given ls)) := by
  cases h with
  | plain need => exact hd.wrap need given
  | body head => exact Prints.binder head hd
  | function args hargs => exact (hd.wrap .app given).application hargs

/-- Every rendering of a type spells its lexemes. -/
theorem TypeExpr.prints (t : TypeExpr) (named : t.Named) {p : Place} {s : Spot}
    {around : List Lexeme → List Lexeme} (h : Placed p s around) :
    Prints (t.docIn p) (around (t.lexemes s)) := by
  induction t generalizing p s around with
  | unit => exact h.fill (spells_name isName_unit).prints
  | name n pos => exact h.fill (spells_name named.1).prints
  | arrow a b ihA ihB =>
    exact h.fill ((ihA named.1 (.plain .app)).arrow (ihB named.2 (.plain .top)))
  | all v b ih =>
    have first := ih named.2 (.body (spells_mark (c := '∀') rfl named.1))
    cases h with
    | plain need => exact (Placed.plain need).fill first
    | body head =>
      have grown := ih named.2 (.body (head.more named.1))
      rwa [List.append_assoc] at grown
    | function args hargs => exact (Placed.function args hargs).fill first

/-- What stands before `=` in a binding. -/
theorem prints_bindingHead {x : String} {ty : Option TypeExpr} (hx : IsName x)
    (named : ∀ type ∈ ty, type.Named) :
    Prints (bindingHead x (ty.map TypeExpr.doc))
      ((.letKeyword, "") :: (.ident, x) :: annotationLexemes ty) := by
  have keyword {cs : List Char} {ls : List Lexeme} (h : Lexes (' ' :: cs) ls) :
      Lexes ("let".toList ++ ' ' :: cs) ((.letKeyword, "") :: ls) :=
    .word isWord_let (boundary_cons (by decide)) h
  intro cs shown rest more boundary lexes
  cases ty with
  | none =>
    simp only [bindingHead, Option.map_none, Doc.renders_text] at shown
    subst shown
    have name := spells_name hx _ _ boundary lexes
    simpa [annotationLexemes] using keyword (.blank (by decide) name)
  | some ty =>
    simp only [bindingHead, Option.map_some, Doc.renders_append, Doc.renders_text] at shown
    obtain ⟨_, type, rfl, rfl, htype⟩ := shown
    have printed := ty.prints (named ty rfl) (.plain .top) type htype _ _ boundary lexes
    have colon : Lexes (' ' :: ':' :: ' ' :: (type ++ rest))
        ((.colon, "") :: (ty.lexemes (.plain .top) ++ more)) :=
      .blank (by decide) (.symbol rfl (.blank (by decide) printed))
    have name := spells_name hx _ _ (boundary_cons (by decide)) colon
    simpa [annotationLexemes] using keyword (.blank (by decide) name)

/-- Every rendering of a term spells its lexemes. -/
theorem Term.prints (t : Term) (named : t.Named) {p : Place} {s : Spot}
    {around : List Lexeme → List Lexeme} (h : Placed p s around) :
    Prints (t.docIn p) (around (t.lexemes s)) := by
  induction t generalizing p s around with
  | var n pos => exact h.fill (spells_name named).prints
  | unit pos =>
    have empty : Spells "()" [(.lparen, ""), (.rparen, "")] := by
      intro rest more _ lexes
      exact .symbol (c := '(') rfl (.symbol (c := ')') rfl lexes)
    exact h.fill empty.prints
  | ann t ty pos ih =>
    exact h.fill ((ih named.1 (.plain .top)).annotated (ty.prints named.2 (.plain .top)))
  | letIn x ty v b pos ihV ihB =>
    obtain ⟨hx, hty, hv, hb⟩ := named
    exact h.fill ((prints_bindingHead hx hty).binding (ihV hv (.plain .top)) (ihB hb (.plain .top)))
  | lam x b pos ih =>
    have first := ih named.2 (.body (spells_mark (c := 'λ') rfl named.1))
    cases h with
    | plain need => exact (Placed.plain need).fill first
    | body head =>
      have grown := ih named.2 (.body (head.more named.1))
      rwa [List.append_assoc] at grown
    | function args hargs => exact (Placed.function args hargs).fill first
  | app f a ihF ihA =>
    -- The argument joins those that follow, and the function is printed before them all.
    have arg := ihA named.2 (.plain .atom)
    have alone := ihF named.1 (.function [(_, _)] (by simpa using arg))
    cases h with
    | plain need => exact (Placed.plain need).fill (by simpa using alone)
    | body head => exact (Placed.body head).fill (by simpa using alone)
    | function args hargs =>
      have spine := ihF named.1
        (.function ((_, _) :: args) (List.forall_mem_cons.2 ⟨arg, hargs⟩))
      simpa [Term.docIn, Term.lexemes, Spot.fill] using spine

end TermBot.Surface

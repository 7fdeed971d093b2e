import TermBot.Doc.Layout

/-!
# Renderings of a document

`Renders d cs` says that `cs` is one of the texts that `d` describes: each line end of `d` is a space
or a new line with some indentation, whatever the groups around it. The layout of a document within
any number of columns is one of its renderings (`renders_place`), up to the spaces at the ends of
lines; `trimLines_cons` says which of these are dropped.
-/

namespace TermBot.Doc

/-- The text is what one way of breaking the lines makes of the document. -/
inductive Renders : Doc → List Char → Prop where
  | nil : Renders nil []
  | text (s : String) : Renders (text s) s.toList
  | space : Renders line [' ']
  | newline (columns : Nat) : Renders line ('\n' :: List.replicate columns ' ')
  | softSpace : Renders softLine []
  | softNewline (columns : Nat) : Renders softLine ('\n' :: List.replicate columns ' ')
  | hardNewline (columns : Nat) : Renders hardLine ('\n' :: List.replicate columns ' ')
  | append {a b : Doc} {cs ds : List Char} :
      Renders a cs → Renders b ds → Renders (append a b) (cs ++ ds)
  | nest {columns : Int64} {d : Doc} {cs : List Char} : Renders d cs → Renders (nest columns d) cs
  | group {d : Doc} {cs : List Char} : Renders d cs → Renders (group d) cs

/-- What is placed is a rendering, whatever the room. -/
theorem renders_place [Text.Measure] (width : Int64) (d : Doc) (indent : Int64) (flat : Bool)
    (after : Int64 → Bool) (col : Int64) : Renders d ((d.place width indent flat after col).1.flatMap Piece.chars) := by
  induction d generalizing indent flat after col with
  | nil => exact .nil
  | text s => simpa [place, Piece.chars] using Renders.text s
  | line =>
    cases flat with
    | true => exact .space
    | false => simpa [place, Piece.indented, Piece.chars] using Renders.newline indent.toNatClampNeg
  | softLine =>
    cases flat with
    | true => exact .softSpace
    | false => simpa [place, Piece.indented, Piece.chars] using Renders.softNewline indent.toNatClampNeg
  | hardLine => simpa [place, Piece.indented, Piece.chars] using Renders.hardNewline indent.toNatClampNeg
  | append a b ihA ihB =>
    simp only [place, List.flatMap_append]
    exact .append (ihA ..) (ihB ..)
  | nest n d ih => exact .nest (ih ..)
  | group d ih => exact .group (ih ..)

section Inversion

variable {a b d : Doc} {cs : List Char}

@[simp] theorem renders_text {s : String} : Renders (text s) cs ↔ cs = s.toList := by
  constructor
  · rintro ⟨⟩
    rfl
  · rintro rfl
    exact .text s

@[simp] theorem renders_append :
    Renders (a ++ b) cs ↔ ∃ left right, cs = left ++ right ∧ Renders a left ∧ Renders b right := by
  constructor
  · intro h
    cases h with
    | append ha hb => exact ⟨_, _, rfl, ha, hb⟩
  · rintro ⟨left, right, rfl, ha, hb⟩
    exact .append ha hb

@[simp] theorem renders_nest {columns : Int64} : Renders (nest columns d) cs ↔ Renders d cs := by
  constructor
  · rintro ⟨⟩
    assumption
  · exact .nest

@[simp] theorem renders_group : Renders (group d) cs ↔ Renders d cs := by
  constructor
  · rintro ⟨⟩
    assumption
  · exact .group

theorem renders_concat_cons {rest : List Doc} :
    Renders (concat (d :: rest)) cs ↔
      ∃ left right, cs = left ++ right ∧ Renders d left ∧ Renders (concat rest) right := by
  cases rest with
  | nil =>
    refine ⟨fun h => ⟨cs, [], by simp, h, .nil⟩, ?_⟩
    rintro ⟨left, right, rfl, h, empty⟩
    cases empty
    simpa [concat] using h
  | cons e rest => exact renders_append

theorem Renders.line_cases (h : Renders line cs) :
    cs = [' '] ∨ ∃ columns, cs = '\n' :: List.replicate columns ' ' := by
  cases h with
  | space => exact .inl rfl
  | newline columns => exact .inr ⟨columns, rfl⟩

end Inversion

/-! ## Spaces at the ends of lines -/

theorem dropRightWhile_cons (p : Char → Bool) (c : Char) (cs : List Char) :
    Text.dropRightWhile p (c :: cs) =
      if Text.dropRightWhile p cs = [] ∧ p c then [] else c :: Text.dropRightWhile p cs := by
  simp only [Text.dropRightWhile, List.reverse_cons, List.dropWhile_append]
  by_cases empty : cs.reverse.dropWhile p = []
  · by_cases drop : p c <;> simp [empty, drop]
  · simp [empty]

/-- At the end of a text or of a line. -/
def AtLineEnd (cs : List Char) : Prop := cs = [] ∨ ∃ rest, cs = '\n' :: rest

theorem trimLines_newline (cs : List Char) : trimLines ('\n' :: cs) = '\n' :: trimLines cs := by
  have nonempty := Text.splitAt_ne_nil '\n' cs
  cases lines : Text.splitAt '\n' cs with
  | nil => exact absurd lines nonempty
  | cons first others => simp [trimLines, Text.splitAt, lines, Text.joinWith, Text.dropRightWhile]

/-- A space is dropped at the end of a trimmed line; every other character stays. -/
theorem trimLines_cons (c : Char) (cs : List Char) :
    (c = ' ' ∧ AtLineEnd (trimLines cs) ∧ trimLines (c :: cs) = trimLines cs) ∨
      trimLines (c :: cs) = c :: trimLines cs := by
  by_cases newline : c = '\n'
  · subst newline
    exact .inr (trimLines_newline cs)
  · have nonempty := Text.splitAt_ne_nil '\n' cs
    cases lines : Text.splitAt '\n' cs with
    | nil => exact absurd lines nonempty
    | cons first others =>
      simp only [trimLines, Text.splitAt, if_neg newline, lines, List.map_cons, dropRightWhile_cons]
      by_cases drop : Text.dropRightWhile (· = ' ') first = [] ∧ c = ' '
      · refine .inl ⟨drop.2, ?_, ?_⟩
        · rw [drop.1]
          cases others with
          | nil => exact .inl rfl
          | cons second others => exact .inr ⟨_, rfl⟩
        · simp [drop]
      · refine .inr ?_
        rw [if_neg (by simpa using drop)]
        cases others with
        | nil => rfl
        | cons second others => rfl

/-- Where no line ends in a space, nothing is dropped. -/
theorem tidyLines_eq (cs : List Char) : tidyLines cs = trimLines cs := by
  rw [tidyLines]
  split
  case isTrue => rfl
  case isFalse tight =>
    symm
    induction cs with
    | nil => rfl
    | cons c cs ih =>
      have rest : trimLines cs = cs := by
        refine ih fun loose => tight ?_
        cases cs with
        | nil => cases loose
        | cons d cs => rw [hasLooseSpace, loose, Bool.or_true]
      rcases trimLines_cons c cs with ⟨rfl, ending, -⟩ | kept
      · rw [rest] at ending
        rcases ending with rfl | ⟨rest, rfl⟩
        · exact absurd rfl tight
        · exact absurd rfl tight
      · rw [kept, rest]

theorem trimLines_append {cs ds : List Char} (h : ∀ c ∈ cs, c ≠ ' ') :
    trimLines (cs ++ ds) = cs ++ trimLines ds := by
  induction cs with
  | nil => rfl
  | cons c cs ih =>
    obtain ⟨space, -, -⟩ | kept := trimLines_cons c (cs ++ ds)
    · exact absurd space (h c List.mem_cons_self)
    · rw [List.cons_append, kept, ih fun d hd => h d (List.mem_cons_of_mem c hd), List.cons_append]

end TermBot.Doc

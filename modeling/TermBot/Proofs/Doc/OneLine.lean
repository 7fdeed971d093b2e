import TermBot.Doc.Shapes
import TermBot.Proofs.Doc.Fitting
import TermBot.Proofs.Doc.Rendering

/-!
# Documents on one line

`Doc.OneLine d s` says that `d` can be flat and that its flat form is the text `s`. A single text or a group that
has room for its flat form is laid out as that text, when no space at the end is to be dropped (`Whole.layout_eq`).
-/

namespace TermBot.Doc

/-- The characters of a leaf on a line. -/
def Leaf.chars : Leaf → List Char
  | text s => s.toList
  | line => [' ']
  | softLine | hardLine => []

/-- The document can be flat, and this is its flat form. -/
structure OneLine (d : Doc) (s : String) : Prop where
  flattens : d.Flattens
  chars : d.leaves.flatMap Leaf.chars = s.toList

/-- A single text or a single group: all line ends can be flattened at once. -/
inductive Whole : Doc → Prop where
  | text (s : String) : Whole (text s)
  | group (d : Doc) : Whole (group d)

variable {a b d : Doc} {s t : String} {width indent col : Int64} {after : Int64 → Bool}

/-! ### Shapes -/

theorem oneLine_text (s : String) : (text s).OneLine s where
  flattens := by simp [Flattens, leaves]
  chars := List.append_nil _

theorem oneLine_line : line.OneLine " " where
  flattens := by simp [Flattens, leaves]
  chars := rfl

theorem OneLine.append (first : a.OneLine s) (second : b.OneLine t) : (a ++ b).OneLine (s ++ t) where
  flattens := flattens_append.2 ⟨first.flattens, second.flattens⟩
  chars := by
    rw [String.toList_append, ← first.chars, ← second.chars]
    exact List.flatMap_append

theorem OneLine.nest (columns : Int64) (body : d.OneLine s) : (Doc.nest columns d).OneLine s :=
  ⟨body.flattens, body.chars⟩

theorem OneLine.group (body : d.OneLine s) : (Doc.group d).OneLine s := ⟨body.flattens, body.chars⟩

theorem OneLine.parens (inner : d.OneLine s) : d.parens.OneLine ("(" ++ s ++ ")") :=
  ((oneLine_text "(").append inner).append (oneLine_text ")")

theorem OneLine.binder (head : String) (body : d.OneLine s) : (binder head d).OneLine (head ++ (" " ++ s)) :=
  ((oneLine_text head).append ((oneLine_line.append body).nest indentation)).group

theorem OneLine.arrow (dom : a.OneLine s) (cod : b.OneLine t) : (arrow a b).OneLine (s ++ " → " ++ t) := by
  have mark : s ++ " →" ++ " " = s ++ " → " := String.append_assoc
  exact mark ▸ (((dom.append (oneLine_text " →")).append oneLine_line).append cod).group

/-! ### Layouts -/

/-- What is placed flat is the flat form. -/
theorem place_flat [Text.Measure] (flattens : d.Flattens) :
    (d.place width indent true after col).1.flatMap Piece.chars = d.leaves.flatMap Leaf.chars := by
  induction d generalizing indent after col with
  | nil | text | line | softLine => rfl
  | hardLine => exact absurd List.mem_cons_self flattens
  | append a b iha ihb =>
    obtain ⟨first, second⟩ := flattens_append.1 flattens
    rw [place, leaves, List.flatMap_append, List.flatMap_append, iha first, ihb second]
  | nest columns d ih => exact ih flattens
  | group d ih => exact ih flattens

/-- With room for it, a document of one line is placed as this line. -/
theorem Whole.pieces_eq [Text.Measure] (whole : d.Whole) (oneLine : d.OneLine s) (room : (d.flatWidth : Int) ≤ width.toInt) :
    (d.pieces width).flatMap Piece.chars = s.toList := by
  cases whole with
  | text r =>
    rw [← oneLine.chars]
    rfl
  | group e =>
    have fits : (decide (0 ≤ width - 0) && e.fits true (fun _ => true) (width - 0)) = true := by
      refine (fits_group e tests_nil).2 ⟨oneLine.flattens, ?_⟩
      have room : (e.flatWidth : Int) ≤ width.toInt := room
      rw [lead, List.takeWhile_nil, List.map_nil, List.sum_nil, Int64.sub_zero]
      omega
    rw [pieces, place, Bool.false_or, fits]
    exact (place_flat (d := e) oneLine.flattens).trans oneLine.chars

/-- A text of one line that does not end in a space. -/
structure Tight (s : String) : Prop where
  line : '\n' ∉ s.toList
  last : ∃ c, s.toList.getLast? = some c ∧ c ≠ ' '

theorem Tight.prepend (line : '\n' ∉ t.toList) (tight : Tight s) : Tight (t ++ s) where
  line := by
    rw [String.toList_append, List.mem_append, not_or]
    exact ⟨line, tight.line⟩
  last := by
    obtain ⟨c, last, ink⟩ := tight.last
    exact ⟨c, by rw [String.toList_append, List.getLast?_append, last]; rfl, ink⟩

/-- Nothing is dropped from such a text. -/
theorem Tight.trimLines_eq (tight : Tight s) : trimLines s.toList = s.toList := by
  obtain ⟨c, last, ink⟩ := tight.last
  obtain ⟨cs, chars⟩ := List.getLast?_eq_some_iff.1 last
  have kept : Text.dropRightWhile (· = ' ') s.toList = s.toList := by
    rw [chars, Text.dropRightWhile, List.reverse_concat, List.dropWhile_cons_of_neg (by simpa using ink),
      List.reverse_cons, List.reverse_reverse]
  rw [trimLines, Text.splitAt_of_notMem tight.line, List.map_singleton, kept]
  rfl

theorem Whole.layout_eq [Text.Measure] (whole : d.Whole) (oneLine : d.OneLine s) (room : (d.flatWidth : Int) ≤ width.toInt)
    (tight : Tight s) : d.layout width = s := by
  rw [layout, whole.pieces_eq oneLine room, tight.trimLines_eq, String.ofList_toList]

end TermBot.Doc

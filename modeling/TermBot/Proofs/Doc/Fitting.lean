import Mathlib.Algebra.GroupWithZero.Nat
import TermBot.Doc.Layout

/-!
# What fits

The test whether a group fits takes the widths of what is written before the next line end off the room that is
left. A flat document fits if it has no line end that stays and its width leaves room for what follows
(`fits_flat`); what is tested of a broken document is its text up to its first line end (`fits_broken`). So a group
that nothing flat surrounds is tested for its flat width and that of the text behind it (`fits_group`). The test ends
as soon as the room is negative, so with columns of 64 bits nothing wraps around in it. The room itself and the
indentations may have wrapped around; how sums of columns are counted is a parameter (`Counting`) of the layouts
that groups are decided by (`Fitted`).
-/

namespace TermBot.Doc

open Text (Measure)

/-- What a document writes and where it may end a line, regardless of its groups and its indentation. -/
inductive Leaf where
  | text (s : String)
  | line
  | softLine
  | hardLine
  deriving DecidableEq, Repr

/-- The columns of a leaf on a line. -/
def Leaf.width [Measure] : Leaf → Nat
  | text s => Measure.columns s
  | line => 1
  | softLine | hardLine => 0

def Leaf.isText : Leaf → Bool
  | text _ => true
  | _ => false

/-- The leaves of a document in order. -/
def leaves : Doc → List Leaf
  | nil => []
  | text s => [.text s]
  | line => [.line]
  | softLine => [.softLine]
  | hardLine => [.hardLine]
  | append a b => a.leaves ++ b.leaves
  | nest _ d => d.leaves
  | group d => d.leaves

/-- The columns of a document on one line. -/
def flatWidth [Measure] (d : Doc) : Nat := (d.leaves.map Leaf.width).sum

/-- Has no line end that stays. -/
def Flattens (d : Doc) : Prop := .hardLine ∉ d.leaves

/-- The columns of the text before the first line end. -/
def lead [Measure] (rest : List Leaf) : Nat := ((rest.takeWhile Leaf.isText).map Leaf.width).sum

/-- The test is passed by the rooms that hold the text of the leaves before their first line end. -/
def Tests [Measure] (after : Int64 → Bool) (rest : List Leaf) : Prop :=
  ∀ room, 0 ≤ room → (after room = true ↔ (lead rest : Int) ≤ room.toInt)

variable {a b d : Doc} {after : Int64 → Bool} {rest : List Leaf} {room : Int64}

/-! ### Rooms -/

theorem toInt_nonneg (le : 0 ≤ room) : 0 ≤ room.toInt := Int64.le_iff_toInt_le.1 le

/-- Nothing that can be measured makes a room wrap around. -/
theorem toInt_sub_ofNat {n : Nat} (le : 0 ≤ room) (lt : n < 2 ^ 63) :
    (room - .ofNat n).toInt = room.toInt - n := by
  have nonneg := toInt_nonneg le
  have small := room.toInt_lt
  rw [Int64.toInt_sub, Int64.toInt_ofNat_of_lt lt]
  exact Int.bmod_eq_of_le (by omega) (by omega)

theorem le_sub_ofNat_iff {n : Nat} (le : 0 ≤ room) (lt : n < 2 ^ 63) :
    0 ≤ room - .ofNat n ↔ (n : Int) ≤ room.toInt := by
  rw [Int64.le_iff_toInt_le, toInt_sub_ofNat le lt, Int64.toInt_zero]
  omega

/-- A room holds fewer columns than a measure may have. -/
theorem lt_of_le_toInt {n : Nat} (within : (n : Int) ≤ room.toInt) : n < 2 ^ 63 := by
  have small := room.toInt_lt
  omega

theorem flattens_append : (append a b).Flattens ↔ a.Flattens ∧ b.Flattens := by
  rw [Flattens, leaves, List.mem_append, not_or]
  rfl

variable [Measure]

theorem lead_text (s : String) (rest : List Leaf) : lead (.text s :: rest) = Measure.columns s + lead rest := by
  rw [lead, List.takeWhile_cons_of_pos rfl, List.map_cons, List.sum_cons]
  rfl

theorem lead_lineEnd {leaf : Leaf} (lineEnd : leaf.isText = false) (rest : List Leaf) :
    lead (leaf :: rest) = 0 := by
  rw [lead, List.takeWhile_cons_of_neg (by simp [lineEnd])]
  rfl

theorem flatWidth_append (a b : Doc) : (append a b).flatWidth = a.flatWidth + b.flatWidth := by
  rw [flatWidth, leaves, List.map_append, List.sum_append]
  rfl

theorem flatWidth_text (s : String) : (text s).flatWidth = Measure.columns s := List.sum_singleton

theorem flatWidth_line : line.flatWidth = 1 := rfl

theorem flatWidth_nest (columns : Int64) (d : Doc) : (nest columns d).flatWidth = d.flatWidth := rfl

theorem tests_nil : Tests (fun _ => true) [] := fun _ le => iff_of_true rfl (toInt_nonneg le)

theorem tests_lineEnd {leaf : Leaf} (lineEnd : leaf.isText = false) (rest : List Leaf) :
    Tests (fun _ => true) (leaf :: rest) := by
  intro room le
  rw [lead_lineEnd lineEnd]
  exact iff_of_true rfl (toInt_nonneg le)

/-- Flat, a document fits if it can be flat and its width leaves a room in which what follows fits. -/
theorem fits_flat (d : Doc) (le : 0 ≤ room) : d.fits true after room = true ↔
    d.Flattens ∧ (d.flatWidth : Int) ≤ room.toInt ∧ after (room - .ofNat d.flatWidth) = true := by
  induction d generalizing after room with
  | nil => simp [fits, Flattens, leaves, flatWidth, toInt_nonneg le]
  | text s =>
    simp [fits, Flattens, leaves, flatWidth, Leaf.width, runWidth, le_sub_ofNat_iff le (Measure.columns_lt s)]
  | line =>
    have one : 0 ≤ room - 1 ↔ (1 : Int) ≤ room.toInt := le_sub_ofNat_iff (n := 1) le (by decide)
    have same : Int64.ofNat 1 = 1 := rfl
    simp [fits, Flattens, leaves, flatWidth, Leaf.width, one, same]
  | softLine => simp [fits, Flattens, leaves, flatWidth, Leaf.width, toInt_nonneg le]
  | hardLine => simp [fits, Flattens, leaves]
  | append a b iha ihb =>
    rw [fits, iha le, flattens_append, flatWidth_append, Int64.ofNat_add, ← Int64.sub_sub]
    have left (within : (a.flatWidth : Int) ≤ room.toInt) := toInt_sub_ofNat le (lt_of_le_toInt within)
    have rest (within : (a.flatWidth : Int) ≤ room.toInt) : 0 ≤ room - .ofNat a.flatWidth :=
      (le_sub_ofNat_iff le (lt_of_le_toInt within)).2 within
    constructor
    · rintro ⟨first, within, second⟩
      obtain ⟨second, within', more⟩ := (ihb (rest within)).1 second
      rw [left within] at within'
      exact ⟨⟨first, second⟩, by omega, more⟩
    · rintro ⟨⟨first, second⟩, both, more⟩
      have within : (a.flatWidth : Int) ≤ room.toInt := by omega
      refine ⟨first, within, (ihb (rest within)).2 ⟨second, ?_, more⟩⟩
      rw [left within]
      omega
  | nest _ d ih => exact ih le
  | group d ih => exact ih le

/-- Broken, a document is tested up to its first line end. -/
theorem fits_broken (d : Doc) (tests : Tests after rest) : Tests (d.fits false after) (d.leaves ++ rest) := by
  induction d generalizing after rest with
  | nil => exact tests
  | text s =>
    intro room le
    have small := Measure.columns_lt s
    have more := tests (room - .ofNat (Measure.columns s))
    rw [le_sub_ofNat_iff le small, toInt_sub_ofNat le small] at more
    rw [leaves, List.singleton_append, lead_text, fits, runWidth, Bool.and_eq_true, decide_eq_true_iff,
      le_sub_ofNat_iff le small]
    constructor
    · rintro ⟨within, after⟩
      have := (more within).1 after
      omega
    · intro within
      exact ⟨by omega, (more (by omega)).2 (by omega)⟩
  | line => exact tests_lineEnd rfl rest
  | softLine => exact tests_lineEnd rfl rest
  | hardLine => exact tests_lineEnd rfl rest
  | append a b iha ihb =>
    rw [leaves, List.append_assoc]
    exact iha (ihb tests)
  | nest _ d ih => exact ih tests
  | group d ih => exact ih tests

/-- A group fits if it can be flat and there is room for its flat form and the text that follows it. -/
theorem fits_group (d : Doc) (tests : Tests after rest) :
    (decide (0 ≤ room) && d.fits true after room) = true ↔
      d.Flattens ∧ (d.flatWidth : Int) + lead rest ≤ room.toInt := by
  rw [Bool.and_eq_true, decide_eq_true_iff]
  constructor
  · rintro ⟨le, fits⟩
    obtain ⟨flattens, within, more⟩ := (fits_flat d le).1 fits
    have small := lt_of_le_toInt within
    have := (tests _ ((le_sub_ofNat_iff le small).2 within)).1 more
    rw [toInt_sub_ofNat le small] at this
    exact ⟨flattens, by omega⟩
  · rintro ⟨flattens, both⟩
    have le : 0 ≤ room := by
      rw [Int64.le_iff_toInt_le, Int64.toInt_zero]
      omega
    have within : (d.flatWidth : Int) ≤ room.toInt := by omega
    have small := lt_of_le_toInt within
    refine ⟨le, (fits_flat d le).2 ⟨flattens, within, (tests _ ((le_sub_ofNat_iff le small).2 within)).2 ?_⟩⟩
    rw [toInt_sub_ofNat le small]
    omega

/-! ### Decisions -/

/-- A piece of a layout, and whether it belongs to a flat group. -/
structure Part where
  piece : Piece
  flat : Bool
  deriving DecidableEq, Repr

/-- The spaces of an indentation that wraps around at 64 bits. -/
def wrappedSpaces (indent : Int) : Nat := (Int64.ofInt indent).toNatClampNeg

/-- How sums of columns are counted: the room that is left on a line behind a column, and the spaces that an
indentation comes to. -/
structure Counting where
  room : Int → Int
  spaces : Int → Nat

/-- Columns are integers, and a line has `width` of them. -/
def Counting.exact (width : Int) : Counting where
  room col := width - col
  spaces := Int.toNat

/-- Columns wrap around at 64 bits. -/
def Counting.wrapping (width : Int64) : Counting where
  room col := (width - .ofInt col).toInt
  spaces := wrappedSpaces

/-- The parts are a layout of the document, from column `col` to column `next`, where `rest` is what follows it. A
group that is not inside a flat one is flat just if it has no line end that stays and the room behind its column holds
it and the text behind it, up to the next line end. Columns and indentations are sums of integers; `count` says what
they come to. -/
inductive Fitted (count : Counting) :
    Doc → (indent : Int) → (flat : Bool) → (rest : List Leaf) → (col : Int) → List Part → (next : Int) → Prop where
  | nil {indent col : Int} {flat : Bool} {rest : List Leaf} : Fitted count nil indent flat rest col [] col
  | text {indent col : Int} {flat : Bool} {rest : List Leaf} (s : String) :
      Fitted count (text s) indent flat rest col [⟨.text s, flat⟩] (col + Measure.columns s)
  | flatLine {indent col : Int} {rest : List Leaf} :
      Fitted count line indent true rest col [⟨.space, true⟩] (col + 1)
  | line {indent col : Int} {rest : List Leaf} :
      Fitted count line indent false rest col [⟨.newline (count.spaces indent), false⟩] indent
  | flatSoftLine {indent col : Int} {rest : List Leaf} : Fitted count softLine indent true rest col [] col
  | softLine {indent col : Int} {rest : List Leaf} :
      Fitted count softLine indent false rest col [⟨.newline (count.spaces indent), false⟩] indent
  | hardLine {indent col : Int} {rest : List Leaf} :
      Fitted count hardLine indent false rest col [⟨.newline (count.spaces indent), false⟩] indent
  | append {a b : Doc} {indent col mid next : Int} {flat : Bool} {rest : List Leaf} {ps qs : List Part}
      (first : Fitted count a indent flat (b.leaves ++ rest) col ps mid)
      (second : Fitted count b indent flat rest mid qs next) :
      Fitted count (append a b) indent flat rest col (ps ++ qs) next
  | nest {d : Doc} {columns : Int64} {indent col next : Int} {flat : Bool} {rest : List Leaf} {ps : List Part}
      (body : Fitted count d (indent + columns.toInt) flat rest col ps next) :
      Fitted count (nest columns d) indent flat rest col ps next
  | group {d : Doc} {indent col next : Int} {flat : Bool} {rest : List Leaf} {ps : List Part}
      (decided : flat = true ↔ d.Flattens ∧ (d.flatWidth : Int) + lead rest ≤ count.room col)
      (body : Fitted count d indent flat rest col ps next) :
      Fitted count (group d) indent false rest col ps next
  | inFlat {d : Doc} {indent col next : Int} {rest : List Leaf} {ps : List Part}
      (body : Fitted count d indent true rest col ps next) :
      Fitted count (group d) indent true rest col ps next

/-- What is placed is what is decided by width, when what follows is tested by its text. -/
theorem fitted_place (width : Int64) (d : Doc) (indent : Int) (flat : Bool) (after : Int64 → Bool) (col : Int)
    (rest : List Leaf) (flattens : flat = true → d.Flattens) (tests : flat = false → Tests after rest) :
    ∃ ps next, Fitted (.wrapping width) d indent flat rest col ps next ∧
      d.place width (.ofInt indent) flat after (.ofInt col) = (ps.map Part.piece, .ofInt next) := by
  induction d generalizing indent flat after col rest with
  | nil => exact ⟨_, _, .nil, rfl⟩
  | text s =>
    refine ⟨_, _, .text s, ?_⟩
    rw [Int64.ofInt_add, Int64.ofInt_eq_ofNat]
    rfl
  | line =>
    cases flat with
    | true => exact ⟨_, _, .flatLine, by rw [Int64.ofInt_add]; rfl⟩
    | false => exact ⟨_, _, .line, rfl⟩
  | softLine =>
    cases flat with
    | true => exact ⟨_, _, .flatSoftLine, rfl⟩
    | false => exact ⟨_, _, .softLine, rfl⟩
  | hardLine =>
    cases flat with
    | true => exact absurd List.mem_cons_self (flattens rfl)
    | false => exact ⟨_, _, .hardLine, rfl⟩
  | append a b iha ihb =>
    obtain ⟨ps, mid, first, same⟩ := iha indent flat (b.fits flat after) col (b.leaves ++ rest)
      (fun on => (flattens_append.1 (flattens on)).1) (fun off => off ▸ fits_broken b (tests off))
    obtain ⟨qs, next, second, same'⟩ := ihb indent flat after mid rest
      (fun on => (flattens_append.1 (flattens on)).2) tests
    refine ⟨ps ++ qs, next, .append first second, ?_⟩
    rw [place, same, List.map_append]
    simp only [same']
  | nest columns d ih =>
    obtain ⟨ps, next, body, same⟩ := ih (indent + columns.toInt) flat after col rest flattens tests
    refine ⟨ps, next, .nest body, ?_⟩
    rwa [Int64.ofInt_add, Int64.ofInt_toInt] at same
  | group d ih =>
    rw [place]
    cases flat with
    | true =>
      obtain ⟨ps, next, body, same⟩ := ih indent true after col rest flattens tests
      exact ⟨ps, next, .inFlat body, same⟩
    | false =>
      have decided : (decide (0 ≤ width - .ofInt col) && d.fits true after (width - .ofInt col)) = true ↔
          d.Flattens ∧ (d.flatWidth : Int) + lead rest ≤ (Counting.wrapping width).room col :=
        fits_group d (tests rfl)
      rw [Bool.false_or]
      generalize (decide (0 ≤ width - .ofInt col) && d.fits true after (width - .ofInt col)) = on at decided ⊢
      obtain ⟨ps, next, body, same⟩ := ih indent on after col rest (fun fits => (decided.1 fits).1) fun _ => tests rfl
      exact ⟨ps, next, .group decided body, same⟩

/-- The pieces of a whole document, with nothing around it and nothing behind it. -/
theorem fitted_pieces (width : Int64) (d : Doc) :
    ∃ ps next, Fitted (.wrapping width) d 0 false [] 0 ps next ∧ ps.map Part.piece = d.pieces width := by
  obtain ⟨ps, next, fitted, same⟩ := fitted_place width d 0 false (fun _ => true) 0 [] nofun fun _ => tests_nil
  exact ⟨ps, next, fitted, (congrArg Prod.fst same).symm⟩

end TermBot.Doc

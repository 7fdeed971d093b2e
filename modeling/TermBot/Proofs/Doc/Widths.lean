import Mathlib.Algebra.Group.Int.Defs
import TermBot.Proofs.Doc.Layouts

/-!
# The width of lines

A group that nothing flat surrounds is decided when it is reached: it is flat just if it can be, and its flat form
and the text behind it fit into what is left of the line (`Fitted`). Nothing that comes later on the line can be
wider than was seen then, unless it is flat itself and has been decided later; so a line with anything flat on it
is never wider than the layout (`Fitted.bounded`). What is left of a line is a difference of 64 bits: it is what it
should be unless the document is so wide, or the width so low, that it wraps around (`Fitted.exact`,
`pretty_fitted_wrapped`).
-/

namespace TermBot.Doc

open Text (Measure)

/-- The characters that a piece has on its line; an indented line begins with its indentation. -/
def Part.chars (p : Part) : List Char :=
  match p.piece with
  | .text s => s.toList
  | .space => [' ']
  | .newline spaces => List.replicate spaces ' '

/-- The columns of a piece on its line. -/
def Part.width [Measure] (p : Part) : Nat :=
  match p.piece with
  | .text s => Measure.columns s
  | .space => 1
  | .newline spaces => spaces

def Part.startsLine (p : Part) : Bool :=
  match p.piece with
  | .newline _ => true
  | _ => false

/-- The first line, and the lines that begin with a new line. -/
def splitLines : List Part → List Part × List (List Part)
  | [] => ([], [])
  | p :: ps =>
    let (head, others) := splitLines ps
    if p.startsLine then ([], (p :: head) :: others) else (p :: head, others)

/-- The lines of a layout. -/
def linesOf (ps : List Part) : List (List Part) := (splitLines ps).1 :: (splitLines ps).2

/-- The columns of a line: its indentation, spaces and texts. -/
def lineWidth [Measure] (line : List Part) : Nat := (line.map Part.width).sum

/-- Texts have no line ends, and nesting does not take columns away. -/
def Plain : Doc → Prop
  | text s => '\n' ∉ s.toList
  | append a b => a.Plain ∧ b.Plain
  | nest columns d => 0 ≤ columns ∧ d.Plain
  | group d => d.Plain
  | _ => True

def Part.Plain (p : Part) : Prop := ∀ s, p.piece = .text s → '\n' ∉ s.toList

variable {d : Doc} {ps : List Part}

/-! ### Lines -/

theorem splitLines_newline (spaces : Nat) (flat : Bool) (ps : List Part) :
    splitLines (⟨.newline spaces, flat⟩ :: ps) =
      ([], (⟨.newline spaces, flat⟩ :: (splitLines ps).1) :: (splitLines ps).2) := rfl

theorem splitLines_inside {p : Part} (inside : p.startsLine = false) (ps : List Part) :
    splitLines (p :: ps) = (p :: (splitLines ps).1, (splitLines ps).2) := by
  rw [splitLines, inside]
  rfl

/-- The lines of the text that the pieces write. -/
theorem splitAt_chars (plain : ∀ p ∈ ps, p.Plain) :
    Text.splitAt '\n' ((ps.map Part.piece).flatMap Piece.chars) =
      (linesOf ps).map fun line => line.flatMap Part.chars := by
  induction ps with
  | nil => rfl
  | cons p ps ih =>
    obtain ⟨here, plain⟩ := List.forall_mem_cons.1 plain
    have rest := ih plain
    obtain ⟨piece, flat⟩ := p
    rw [List.map_cons, List.flatMap_cons]
    cases piece with
    | text s => exact Text.splitAt_append (here s rfl) rest
    | space =>
      have space : '\n' ∉ [' '] := by decide
      exact Text.splitAt_append space rest
    | newline spaces =>
      have blank : '\n' ∉ List.replicate spaces ' ' := fun mem => by cases List.eq_of_mem_replicate mem
      have first := Text.splitAt_append blank rest
      exact (Text.splitAt_append_cons List.not_mem_nil).trans (congrArg ([] :: ·) first)

/-! ### Plain documents -/

theorem plain_space : space.Plain := by
  rw [space, Plain]
  decide

theorem Plain.parens (plain : d.Plain) : d.parens.Plain := by
  have marks : '\n' ∉ "(".toList ∧ '\n' ∉ ")".toList := by decide
  exact ⟨⟨marks.1, plain⟩, marks.2⟩

theorem plain_concat {ds : List Doc} (plain : ∀ d ∈ ds, d.Plain) : (concat ds).Plain := by
  induction ds with
  | nil => trivial
  | cons d ds ih =>
    obtain ⟨first, others⟩ := List.forall_mem_cons.1 plain
    cases ds with
    | nil => exact first
    | cons e ds => exact ⟨first, ih others⟩

theorem plain_join {sep : Doc} {ds : List Doc} (between : sep.Plain) (plain : ∀ d ∈ ds, d.Plain) :
    (join sep ds).Plain := by
  induction ds with
  | nil => trivial
  | cons d ds ih =>
    obtain ⟨first, others⟩ := List.forall_mem_cons.1 plain
    cases ds with
    | nil => exact first
    | cons e ds => exact ⟨⟨first, between⟩, ih others⟩

theorem plain_lines (s : String) : (lines s).Plain := by
  refine plain_join trivial fun d mem => ?_
  obtain ⟨cs, here, rfl⟩ := List.mem_map.1 mem
  rw [Plain, String.toList_ofList]
  exact Text.notMem_of_mem_splitAt here

/-! ### Decisions -/

/-- What is left of a line, where the difference does not wrap around. -/
theorem room_eq {width : Int64} {col : Int} (nonneg : 0 ≤ col) (small : col < 2 ^ 63) (low : col ≤ width.toInt + 2 ^ 63) :
    (width - .ofInt col).toInt = width.toInt - col := by
  have high := width.toInt_lt
  rw [Int64.toInt_sub, Int64.toInt_ofInt_of_le (by omega) small]
  exact Int.bmod_eq_of_le (by omega) (by omega)

section

variable [Measure] {count : Counting} {width indent col next : Int} {flat : Bool} {rest : List Leaf} {qs : List Part}

/-- A flat document takes the columns of its flat form. -/
theorem Fitted.next_eq (fitted : Fitted count d indent flat rest col ps next) (on : flat = true) :
    next = col + d.flatWidth := by
  induction fitted with
  | append _ _ first second =>
    rw [second on, first on, flatWidth_append]
    omega
  | nest _ ih | inFlat _ ih => exact ih on
  | group | line | softLine | hardLine => cases on
  | text s | flatLine | nil | flatSoftLine => simp [flatWidth, leaves, Leaf.width]

/-- No line that ends in the parts, or after them, is wider than `width` and has something flat on it. The
first line has come to column `col`, and `flat` says whether something flat is on it. -/
def Bounded (width : Int) : (col : Int) → (flat : Bool) → List Part → Prop
  | col, flat, [] => flat = true → col ≤ width
  | col, flat, p :: ps =>
    match p.piece with
    | .newline spaces => (flat = true → col ≤ width) ∧ Bounded width spaces p.flat ps
    | _ => Bounded width (col + p.width) (flat || p.flat) ps

theorem bounded_newline {spaces : Nat} : Bounded width col flat (⟨.newline spaces, false⟩ :: ps) ↔
    (flat = true → col ≤ width) ∧ Bounded width spaces false ps := Iff.rfl

/-- While nothing flat surrounds a document, a line with something flat on it has room for the text up to the next
line end. -/
theorem Fitted.bounded (fitted : Fitted (.exact width) d indent flat rest col ps next) (nested : 0 ≤ indent)
    (plain : d.Plain)
    (later : ∀ seen, (flat = false → seen = true → next + lead rest ≤ width) → Bounded width next seen qs)
    (seen : Bool) (room : flat = false → seen = true → col + lead (d.leaves ++ rest) ≤ width) :
    Bounded width col seen (ps ++ qs) := by
  induction fitted generalizing qs seen with
  | nil => exact later seen room
  | @text _ col flat rest s =>
    refine later (seen || flat) fun off on => ?_
    subst off
    have := room rfl (Bool.or_false seen ▸ on)
    rw [leaves, List.singleton_append, lead_text] at this
    omega
  | flatLine => exact later _ fun off => by cases off
  | line | softLine | hardLine =>
    refine bounded_newline.2 ⟨fun on => ?_, ?_⟩
    · have := room rfl on
      rw [leaves, List.singleton_append, lead_lineEnd rfl] at this
      omega
    · rw [Counting.exact, Int.toNat_of_nonneg nested]
      exact later false fun _ on => by cases on
  | flatSoftLine => exact later _ fun off => by cases off
  | append _ _ first second =>
    rw [List.append_assoc]
    refine first nested plain.1 (second nested plain.2 later) seen fun off flag => ?_
    have := room off flag
    rwa [leaves, List.append_assoc] at this
  | nest _ ih => exact ih (Int.add_nonneg nested (toInt_nonneg plain.1)) plain.2 later seen room
  | @group d _ col next flat rest _ decided body ih =>
    refine ih nested plain (fun seen' more => later seen' fun _ flag => ?_) seen fun _ => room rfl
    cases flat with
    | true =>
      -- the group was seen to fit with what follows it
      have fits : (d.flatWidth : Int) + lead rest ≤ width - col := (decided.1 rfl).2
      rw [body.next_eq rfl]
      omega
    | false => exact more rfl flag
  | inFlat _ ih => exact ih nested plain later seen fun off => by cases off

/-- The same of a document with nothing behind it. -/
theorem Fitted.bounded_alone (fitted : Fitted (.exact width) d indent false [] col ps next) (nested : 0 ≤ indent)
    (plain : d.Plain) : Bounded width col false ps := by
  have atEnd : ∀ seen, (false = false → seen = true → next + lead [] ≤ width) → Bounded width next seen [] := by
    intro seen room on
    have within : next + 0 ≤ width := room rfl on
    rwa [Int.add_zero] at within
  have bounded := fitted.bounded nested plain atEnd false fun _ => nofun
  rwa [List.append_nil] at bounded

theorem lineWidth_cons (p : Part) (line : List Part) : lineWidth (p :: line) = p.width + lineWidth line := by
  rw [lineWidth, List.map_cons, List.sum_cons, lineWidth]

theorem bounded_inside {p : Part} {seen : Bool} (inside : p.startsLine = false) :
    Bounded width col seen (p :: ps) ↔ Bounded width (col + p.width) (seen || p.flat) ps := by
  obtain ⟨piece, flat⟩ := p
  cases piece with
  | newline indent => cases inside
  | _ => rfl

/-- Every line with something flat on it is within the width. -/
theorem Bounded.lines {seen : Bool} (bounded : Bounded width col seen ps) :
    ((seen = true ∨ ∃ p ∈ (splitLines ps).1, p.flat = true) → col + lineWidth (splitLines ps).1 ≤ width) ∧
      ∀ line ∈ (splitLines ps).2, (∃ p ∈ line, p.flat = true) → (lineWidth line : Int) ≤ width := by
  induction ps generalizing col seen with
  | nil =>
    refine ⟨fun flat => ?_, nofun⟩
    have within : col ≤ width := bounded (flat.resolve_right nofun)
    rwa [← Int.add_zero col] at within
  | cons p ps ih =>
    by_cases inside : p.startsLine = false
    · obtain ⟨first, others⟩ := ih ((bounded_inside inside).1 bounded)
      rw [splitLines_inside inside]
      refine ⟨fun flat => ?_, others⟩
      rw [lineWidth_cons]
      have := first (by simpa [or_assoc] using flat)
      omega
    · obtain ⟨piece, on⟩ := p
      cases piece with
      | text | space => exact absurd rfl inside
      | newline spaces =>
        obtain ⟨first, others⟩ := ih bounded.2
        rw [splitLines_newline]
        refine ⟨fun flat => ?_, List.forall_mem_cons.2 ⟨fun flat => ?_, others⟩⟩
        · have within : col ≤ width := bounded.1 (flat.resolve_right nofun)
          rwa [← Int.add_zero col] at within
        · rw [lineWidth_cons, Int.natCast_add]
          exact first (by simpa using flat)

/-- Where nothing is left of the line, a group is broken. -/
theorem Fitted.broken (fitted : Fitted (.exact width) (.group d) indent false rest col ps next) (narrow : width < col) :
    Fitted (.exact width) d indent false rest col ps next := by
  cases fitted with
  | group decided body =>
    rename_i flat
    cases flat with
    | false => exact body
    | true =>
      have fits : (d.flatWidth : Int) + lead rest ≤ width - col := (decided.1 rfl).2
      omega

/-- A broken line between two texts ends there. -/
theorem Fitted.text_line_text {s t : String}
    (fitted : Fitted count (.append (.text s) (.append .line (.text t))) indent false rest col ps next) :
    ps = [⟨.text s, false⟩, ⟨.newline (count.spaces indent), false⟩, ⟨.text t, false⟩] := by
  cases fitted with
  | append first others =>
    cases first
    cases others with
    | append second third =>
      cases second
      cases third
      rfl

theorem Fitted.plain (fitted : Fitted count d indent flat rest col ps next) (plain : d.Plain) :
    ∀ p ∈ ps, p.Plain := by
  induction fitted with
  | nil | flatSoftLine => exact nofun
  | text s =>
    refine List.forall_mem_singleton.2 ?_
    rintro _ ⟨⟩
    exact plain
  | flatLine | line | softLine | hardLine => exact List.forall_mem_singleton.2 nofun
  | append _ _ first second => exact List.forall_mem_append.2 ⟨first plain.1, second plain.2⟩
  | nest _ ih => exact ih plain.2
  | group _ _ ih | inFlat _ ih => exact ih plain

/-- In a plain document, what is counted with 64 bits is what it should be, as long as no line can be so wide that
the difference to the width wraps around. -/
theorem Fitted.exact {width : Int64} {most : Int}
    (fitted : Fitted (.wrapping width) d indent flat rest col ps next) (plain : d.Plain) (nested : 0 ≤ indent)
    (nonneg : 0 ≤ col) (within : max col (indent + d.nesting) + d.flatWidth ≤ most) (small : most < 2 ^ 63)
    (low : most ≤ width.toInt + 2 ^ 63) :
    Fitted (.exact width.toInt) d indent flat rest col ps next ∧
      0 ≤ next ∧ next ≤ max col (indent + d.nesting) + d.flatWidth := by
  have spaces {indent : Int} (nested : 0 ≤ indent) (le : indent ≤ most) :
      (Counting.wrapping width).spaces indent = (Counting.exact width.toInt).spaces indent :=
    wrappedSpaces_eq (by omega)
  induction fitted with
  | nil => exact ⟨.nil, nonneg, by omega⟩
  | text s =>
    rw [flatWidth_text] at within ⊢
    exact ⟨.text s, by omega, by omega⟩
  | flatLine =>
    rw [flatWidth_line] at within ⊢
    exact ⟨.flatLine, by omega, by omega⟩
  | flatSoftLine => exact ⟨.flatSoftLine, nonneg, by omega⟩
  | line => exact ⟨spaces nested (by omega) ▸ .line, nested, by omega⟩
  | softLine => exact ⟨spaces nested (by omega) ▸ .softLine, nested, by omega⟩
  | hardLine => exact ⟨spaces nested (by omega) ▸ .hardLine, nested, by omega⟩
  | append _ _ iha ihb =>
    rw [nesting, flatWidth_append] at within ⊢
    obtain ⟨first, after, before⟩ := iha plain.1 nested nonneg (by omega)
    obtain ⟨second, after, upto⟩ := ihb plain.2 nested after (by omega)
    exact ⟨.append first second, after, by omega⟩
  | nest _ ih =>
    have more := toInt_nonneg plain.1
    rw [nesting, flatWidth_nest] at within ⊢
    obtain ⟨body, after, upto⟩ := ih plain.2 (by omega) nonneg (by omega)
    exact ⟨.nest body, after, by omega⟩
  | @group d indent col next flat rest ps decided _ ih =>
    obtain ⟨body, after, upto⟩ := ih plain nested nonneg within
    have room : (Counting.wrapping width).room col = (Counting.exact width.toInt).room col :=
      room_eq nonneg (by omega) (by omega)
    exact ⟨.group (room ▸ decided) body, after, upto⟩
  | inFlat _ ih =>
    obtain ⟨body, after, upto⟩ := ih plain nested nonneg within
    exact ⟨.inFlat body, after, upto⟩

end

namespace Arena

/-- The operation makes a plain document of plain ones: its text has no line ends, and it nests by no less than
nothing. -/
def Op.Plain : Op → Prop
  | .text s => '\n' ∉ s.toList
  | .nest columns _ => 0 ≤ columns
  | _ => True

instance : DecidablePred Op.Plain
  | .text s => inferInstanceAs (Decidable ('\n' ∉ s.toList))
  | .nest columns _ => inferInstanceAs (Decidable (0 ≤ columns))
  | .line | .softLine | .hardLine | .space | .lines _ | .concat _ | .join _ _ | .parens _ | .group _ | .pretty _ _
  | .reset => .isTrue trivial

theorem Ref.plain_doc {ds : List Doc} (plain : ∀ d ∈ ds, d.Plain) (r : Ref) : (r.doc ds).Plain := by
  rw [Ref.doc]
  cases found : ds[r]? with
  | none => trivial
  | some d => exact plain d (List.mem_of_getElem? found)

theorem Op.plain_made [Measure] {ds : List Doc} {ops : List Op} (ofPlain : ∀ op ∈ ops, op.Plain)
    (plain : ∀ d ∈ ds, d.Plain) : ∀ d ∈ Op.made ds ops, d.Plain := by
  induction ops generalizing ds with
  | nil => exact plain
  | cons op ops ih =>
    obtain ⟨first, others⟩ := List.forall_mem_cons.1 ofPlain
    refine ih others ?_
    have refs {rs : List Ref} : ∀ d ∈ rs.map (Ref.doc ds), d.Plain := by
      intro d mem
      obtain ⟨r, -, rfl⟩ := List.mem_map.1 mem
      exact Ref.plain_doc plain r
    have more {d : Doc} (isPlain : d.Plain) : ∀ e ∈ ds ++ [d], e.Plain :=
      List.forall_mem_append.2 ⟨plain, List.forall_mem_singleton.2 isPlain⟩
    cases op with
    | text s => exact more first
    | line | softLine | hardLine => exact more trivial
    | space => exact more plain_space
    | lines s => exact more (plain_lines s)
    | concat rs => exact more (plain_concat refs)
    | join sep rs => exact more (plain_join (Ref.plain_doc plain sep) refs)
    | parens r => exact more (Ref.plain_doc plain r).parens
    | nest columns r => exact more ⟨first, Ref.plain_doc plain r⟩
    | group r => exact more (Ref.plain_doc plain r)
    | pretty width r => exact plain
    | reset => exact nofun

/-- The line as it is written. -/
def written (line : List Part) : List Char := Text.dropRightWhile (· = ' ') (line.flatMap Part.chars)

/-- **A group is flat just if it fits.** Laying out decides each group that nothing flat surrounds by its flat
width and the text behind it, with columns of 64 bits. Where these cannot wrap around, its column, its width and
that of the text behind it come to no more than the width; and a line with anything flat on it is within the
width. -/
theorem pretty_fitted [Measure] (ops : List Op) (plain : ∀ op ∈ ops, op.Plain) (width : Int64) (r : Ref) :
    let d := r.doc (Op.made [] ops)
    ∃ text parts next, ((({} : Client).run ops).2.perform (.pretty width r)).1 = some text ∧
      Fitted (.wrapping width) d 0 false [] 0 parts next ∧
      Text.splitAt '\n' text.toList = (linesOf parts).map written ∧
      (d.nesting + d.flatWidth < 2 ^ 63 → (d.nesting + d.flatWidth : Int) ≤ width.toInt + 2 ^ 63 →
        Fitted (.exact width.toInt) d 0 false [] 0 parts next ∧
          ∀ line ∈ linesOf parts, (∃ p ∈ line, p.flat = true) → (lineWidth line : Int) ≤ width.toInt) := by
  intro d
  have ofPlain : d.Plain := Ref.plain_doc (Op.plain_made plain (List.forall_mem_nil _)) r
  obtain ⟨parts, next, fitted, same⟩ := fitted_pieces width d
  refine ⟨_, parts, next, perform_pretty ops width r, fitted, ?_, fun small low => ?_⟩
  · rw [Doc.layout, String.toList_ofList, splitAt_trimLines, ← same, splitAt_chars (fitted.plain ofPlain),
      List.map_map]
    rfl
  · have within : max (0 : Int) (0 + d.nesting) + d.flatWidth ≤ (d.nesting + d.flatWidth : Int) := by omega
    obtain ⟨exact, -, -⟩ := fitted.exact ofPlain (Int.le_refl 0) (Int.le_refl 0) within (by omega) low
    obtain ⟨first, others⟩ := (exact.bounded_alone (Int.le_refl 0) ofPlain).lines
    refine ⟨exact, List.forall_mem_cons.2 ⟨fun flat => ?_, others⟩⟩
    have := first (.inr flat)
    omega

/-- A group with a nest inside, on lines of two columns. -/
theorem pretty_fitted_group :
    letI := Text.terminal
    let ops : List Op := [.text "a", .line, .text "b", .concat [0, 1, 2], .nest 2 3, .group 4]
    let inner : Doc := .nest 2 (.append (.text "a") (.append .line (.text "b")))
    (∀ op ∈ ops, op.Plain) ∧
      ∃ text parts next, ((({} : Client).run ops).2.perform (.pretty 2 5)).1 = some text ∧
        Text.splitAt '\n' text.toList = (linesOf parts).map written ∧
        Fitted (.exact 2) (.group inner) 0 false [] 0 parts next ∧
        ∀ line ∈ linesOf parts, (∃ p ∈ line, p.flat = true) → (lineWidth line : Int) ≤ 2 := by
  let : Measure := Text.terminal
  intro ops inner
  have plain : ∀ op ∈ ops, op.Plain := by decide
  obtain ⟨text, parts, next, laid, -, lines, exact⟩ := pretty_fitted ops plain 2 5
  obtain ⟨fitted, bound⟩ := exact (by decide +kernel) (by decide +kernel)
  exact ⟨plain, text, parts, next, laid, lines, fitted, bound⟩

/-- With the least width there is, what is left of the first line behind a text wraps around, and the group there
is flat. -/
theorem pretty_fitted_wrapped :
    letI := Text.terminal
    let ops : List Op := [.text "a", .text "b", .line, .text "c", .concat [1, 2, 3], .group 4, .concat [0, 5]]
    let d : Doc := .append (.text "a") (.group (.append (.text "b") (.append .line (.text "c"))))
    (∀ op ∈ ops, op.Plain) ∧ Ref.doc (Op.made [] ops) 6 = d ∧
      ((({} : Client).run ops).2.perform (.pretty Int64.minValue 6)).1 = some "ab c" ∧
      ¬ ∃ parts next, Fitted (.exact Int64.minValue.toInt) d 0 false [] 0 parts next ∧
        Text.splitAt '\n' "ab c".toList = (linesOf parts).map written := by
  let : Measure := Text.terminal
  refine ⟨by decide, rfl, by decide +kernel, ?_⟩
  rintro ⟨parts, next, fitted, lines⟩
  cases fitted with
  | append first second =>
    cases first
    have broken := (second.broken (by decide +kernel)).text_line_text
    rw [broken] at lines
    cases congrArg List.length lines

end Arena

end TermBot.Doc

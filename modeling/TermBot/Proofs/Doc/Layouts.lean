import Mathlib.Data.List.DropRight
import TermBot.Proofs.Doc.Arenas
import TermBot.Proofs.Doc.Fitting
import TermBot.Text.Width

/-!
# Layouts of a document

`Doc.Laid` gives the layouts that a document describes: every group is flat or broken, all of a flat group is
flat, and a line end is indented by the nesting around it. What an arena makes of a document is one of its
layouts without the spaces at the ends of lines, whatever the arena was used for before (`pretty_laid`). Its
indentations wrap around at 64 bits, which tells only where nests around one place come to so many columns
(`Laid.exact`, `pretty_wrapped`).
-/

namespace TermBot.Doc

/-- The pieces are a layout of the document, flat or broken, where the nests around it come to `indent` columns,
which is so many `spaces`. No flat document has a line end that stays. -/
inductive Laid (spaces : Int → Nat) : Doc → (indent : Int) → (flat : Bool) → List Piece → Prop where
  | nil {indent : Int} {flat : Bool} : Laid spaces nil indent flat []
  | text {indent : Int} {flat : Bool} (s : String) : Laid spaces (text s) indent flat [.text s]
  | flatLine {indent : Int} : Laid spaces line indent true [.space]
  | line {indent : Int} : Laid spaces line indent false [.newline (spaces indent)]
  | flatSoftLine {indent : Int} : Laid spaces softLine indent true []
  | softLine {indent : Int} : Laid spaces softLine indent false [.newline (spaces indent)]
  | hardLine {indent : Int} : Laid spaces hardLine indent false [.newline (spaces indent)]
  | append {a b : Doc} {indent : Int} {flat : Bool} {ps qs : List Piece} (first : Laid spaces a indent flat ps)
      (second : Laid spaces b indent flat qs) : Laid spaces (append a b) indent flat (ps ++ qs)
  | nest {columns : Int64} {indent : Int} {d : Doc} {flat : Bool} {ps : List Piece}
      (body : Laid spaces d (indent + columns.toInt) flat ps) : Laid spaces (nest columns d) indent flat ps
  | flatGroup {d : Doc} {indent : Int} {flat : Bool} {ps : List Piece} (body : Laid spaces d indent true ps) :
      Laid spaces (group d) indent flat ps
  | group {d : Doc} {indent : Int} {ps : List Piece} (body : Laid spaces d indent false ps) :
      Laid spaces (group d) indent false ps

/-- The most columns that nests around one place of a document come to, where none makes up for another. -/
def nesting : Doc → Nat
  | append a b => max a.nesting b.nesting
  | nest columns d => columns.toInt.natAbs + d.nesting
  | group d => d.nesting
  | _ => 0

/-- The runs of text in a document. -/
def texts : Doc → List String
  | text s => [s]
  | append a b => a.texts ++ b.texts
  | nest _ d | group d => d.texts
  | _ => []

/-- The run of text that a piece writes. -/
def Piece.text? : Piece → Option String
  | .text s => some s
  | _ => none

/-- The second text is the first one without the spaces at the ends of its lines. -/
def Trimmed (cs ds : List Char) : Prop :=
  ∃ full kept : List (List Char), cs = Text.joinWith '\n' full ∧ ds = Text.joinWith '\n' kept ∧
    (∀ l ∈ full, '\n' ∉ l) ∧
    List.Forall₂ (fun l m => (∃ n, l = m ++ List.replicate n ' ') ∧ ∀ m', m ≠ m' ++ [' ']) full kept

variable {d : Doc} {spaces : Int → Nat} {indent : Int} {flat : Bool} {ps : List Piece}

/-- A layout has the runs of text of the document, each one once and in their order. -/
theorem Laid.filterMap_text? (laid : d.Laid spaces indent flat ps) : ps.filterMap Piece.text? = d.texts := by
  induction laid with
  | append _ _ first second => exact List.filterMap_append.trans (congrArg₂ (· ++ ·) first second)
  | nest _ ih | flatGroup _ ih | group _ ih => exact ih
  | _ => rfl

theorem wrappedSpaces_eq (within : indent.natAbs < 2 ^ 63) : wrappedSpaces indent = indent.toNat :=
  Int64.toNatClampNeg_ofInt_of_le (by omega) (by omega)

/-- While the nests around a place come to less than 64 bits can count, nothing wraps around. -/
theorem Laid.exact (laid : d.Laid wrappedSpaces indent flat ps) (within : indent.natAbs + d.nesting < 2 ^ 63) :
    d.Laid Int.toNat indent flat ps := by
  have same {indent : Int} {n : Nat} (within : indent.natAbs + n < 2 ^ 63) :
      indent.toNat = wrappedSpaces indent := (wrappedSpaces_eq (by omega)).symm
  induction laid with
  | nil => exact .nil
  | text s => exact .text s
  | flatLine => exact .flatLine
  | flatSoftLine => exact .flatSoftLine
  | line => exact same within ▸ .line
  | softLine => exact same within ▸ .softLine
  | hardLine => exact same within ▸ .hardLine
  | append _ _ first second =>
    rw [nesting] at within
    exact .append (first (by omega)) (second (by omega))
  | nest _ ih =>
    rw [nesting] at within
    exact .nest (ih (by omega))
  | flatGroup _ ih => exact .flatGroup (ih within)
  | group _ ih => exact .group (ih within)

theorem Laid.nested {m n : Int64} {s : String}
    (laid : (Doc.nest m (.nest n (.append .hardLine (.text s)))).Laid spaces indent false ps) :
    ps = [.newline (spaces (indent + m.toInt + n.toInt)), .text s] := by
  cases laid with
  | nest laid =>
    cases laid with
    | nest laid =>
      cases laid with
      | append first second =>
        cases first
        cases second
        rfl

/-- What is decided by width is a layout of the document. -/
theorem Fitted.laid [Text.Measure] {count : Counting} {col next : Int} {rest : List Leaf} {parts : List Part}
    (fitted : Fitted count d indent flat rest col parts next) :
    d.Laid count.spaces indent flat (parts.map Part.piece) := by
  induction fitted with
  | nil => exact .nil
  | text s => exact .text s
  | flatLine => exact .flatLine
  | line => exact .line
  | flatSoftLine => exact .flatSoftLine
  | softLine => exact .softLine
  | hardLine => exact .hardLine
  | append _ _ first second =>
    rw [List.map_append]
    exact .append first second
  | nest _ ih => exact .nest ih
  | @group d indent col next flat rest parts _ _ ih =>
    cases flat with
    | true => exact .flatGroup ih
    | false => exact .group ih
  | inFlat _ ih => exact .flatGroup ih

/-! ### Spaces at the ends of lines -/

/-- Only spaces are dropped, and all of them. -/
theorem dropRightWhile_space (cs : List Char) :
    (∃ n, cs = Text.dropRightWhile (· = ' ') cs ++ List.replicate n ' ') ∧
      ∀ ds, Text.dropRightWhile (· = ' ') cs ≠ ds ++ [' '] := by
  change (∃ n, cs = cs.rdropWhile (· = ' ') ++ List.replicate n ' ') ∧ ∀ ds, cs.rdropWhile (· = ' ') ≠ ds ++ [' ']
  constructor
  · have spaces : cs.rtakeWhile (· = ' ') = List.replicate (cs.rtakeWhile (· = ' ')).length ' ' := by
      refine List.eq_replicate_iff.2 ⟨rfl, fun c mem => ?_⟩
      simpa using List.mem_rtakeWhile_imp mem
    exact ⟨_, spaces ▸ List.rdropWhile_append_rtakeWhile.symm⟩
  · intro ds last
    have some : cs.rdropWhile (· = ' ') ≠ [] := last ▸ List.append_ne_nil_of_right_ne_nil ds (List.cons_ne_nil _ _)
    have other := List.rdropWhile_last_not _ cs some
    simp [last] at other

theorem trimmed_trimLines (cs : List Char) : Trimmed cs (trimLines cs) := by
  refine ⟨Text.splitAt '\n' cs, _, (Text.joinWith_splitAt _ _).symm, rfl, fun _ => Text.notMem_of_mem_splitAt, ?_⟩
  rw [List.forall₂_map_right_iff]
  exact List.forall₂_same.2 fun l _ => dropRightWhile_space l

/-- Each line of a text is trimmed. -/
theorem splitAt_trimLines (cs : List Char) :
    Text.splitAt '\n' (trimLines cs) = (Text.splitAt '\n' cs).map (Text.dropRightWhile (· = ' ')) := by
  refine Text.splitAt_joinWith (fun none => Text.splitAt_ne_nil _ _ (List.map_eq_nil_iff.1 none)) ?_
  intro line mem
  obtain ⟨full, here, rfl⟩ := List.mem_map.1 mem
  have within : full.rdropWhile (· = ' ') ⊆ full := (List.rdropWhile_prefix _ _).subset
  exact fun lineEnd => Text.notMem_of_mem_splitAt here (within lineEnd)

/-- A line that is indented does not begin with its text. -/
theorem not_trimmed_indented {n : Nat} (some : 0 < n) :
    ¬ Trimmed ('\n' :: (List.replicate n ' ' ++ ['b'])) ['\n', 'b'] := by
  rintro ⟨full, kept, whole, left, apart, dropped⟩
  have inside : '\n' ∉ List.replicate n ' ' ++ ['b'] := by simp [List.mem_replicate]
  have lines : full = [[], List.replicate n ' ' ++ ['b']] := by
    have split : Text.splitAt '\n' ([] ++ '\n' :: (List.replicate n ' ' ++ ['b'])) = _ :=
      Text.splitAt_append_cons List.not_mem_nil
    rw [List.nil_append, whole, Text.splitAt_of_notMem inside, Text.splitAt_joinWith ?_ apart] at split
    · exact split
    · rintro rfl
      cases whole
  rw [lines] at dropped
  obtain ⟨first, rest, ⟨⟨k, empty⟩, -⟩, second, rfl⟩ := List.forall₂_cons_left_iff.1 dropped
  obtain ⟨last, none, ⟨⟨m, same⟩, -⟩, nothing, rfl⟩ := List.forall₂_cons_left_iff.1 second
  obtain rfl := List.forall₂_nil_left_iff.1 nothing
  obtain rfl := (List.append_eq_nil_iff.1 empty.symm).1
  obtain rfl : last = ['b'] := by simpa [Text.joinWith] using left.symm
  obtain ⟨n, rfl⟩ := Nat.exists_eq_succ_of_ne_zero some.ne'
  cases same

/-! ### Arenas -/

namespace Arena

/-- The documents that operations make, on those made before. -/
def Op.made [Text.Measure] (ds : List Doc) : List Op → List Doc
  | [] => ds
  | op :: ops => Op.made (op.meaning ds).2 ops

theorem Client.Stands.made [Text.Measure] {c : Client} {ds : List Doc} (stands : c.Stands ds) (ops : List Op) :
    (c.run ops).2.Stands (Op.made ds ops) := by
  induction ops generalizing c ds with
  | nil => exact stands
  | cons op ops ih => exact ih (stands.perform op).2

/-- After any operations, laying out gives the layout of the document that a reference stands for. -/
theorem perform_pretty [Text.Measure] (ops : List Op) (width : Int64) (r : Ref) :
    ((({} : Client).run ops).2.perform (.pretty width r)).1 = some ((r.doc (Op.made [] ops)).layout width) :=
  ((Client.stands_new.made ops).perform (.pretty width r)).1

/-- **What an arena makes of a document is one of its layouts**, with all runs of text once and in order, and
without the spaces at the ends of lines. The sums of the nests wrap around at 64 bits, unless they are too small
for that. -/
theorem pretty_laid [Text.Measure] (ops : List Op) (width : Int64) (r : Ref) :
    let d := r.doc (Op.made [] ops)
    ∃ text ps, ((({} : Client).run ops).2.perform (.pretty width r)).1 = some text ∧
      d.Laid wrappedSpaces 0 false ps ∧ (d.nesting < 2 ^ 63 → d.Laid Int.toNat 0 false ps) ∧
      ps.filterMap Piece.text? = d.texts ∧ Trimmed (ps.flatMap Piece.chars) text.toList := by
  intro d
  obtain ⟨parts, next, fitted, same⟩ := fitted_pieces width d
  have laid : d.Laid wrappedSpaces 0 false (d.pieces width) := same ▸ fitted.laid
  refine ⟨_, _, perform_pretty ops width r, laid, fun within => laid.exact (by simpa using within),
    laid.filterMap_text?, ?_⟩
  rw [Doc.layout, String.toList_ofList]
  exact trimmed_trimLines _

/-- Two nests that come to 2^63 columns indent by nothing. -/
theorem pretty_wrapped :
    letI := Text.terminal
    let half : Int64 := 4611686018427387904
    let ops : List Op := [.hardLine, .text "b", .concat [0, 1], .nest half 2, .nest half 3]
    let d : Doc := .nest half (.nest half (.append .hardLine (.text "b")))
    0 ≤ half ∧ Ref.doc (Op.made [] ops) 4 = d ∧
      ((({} : Client).run ops).2.perform (.pretty 80 4)).1 = some "\nb" ∧
      ¬ ∃ ps, d.Laid Int.toNat 0 false ps ∧ Trimmed (ps.flatMap Piece.chars) "\nb".toList := by
  refine ⟨by decide, rfl, by decide +kernel, ?_⟩
  rintro ⟨ps, laid, trimmed⟩
  have chars (n : Nat) : [Piece.newline n, .text "b"].flatMap Piece.chars = '\n' :: (List.replicate n ' ' ++ ['b']) := by
    simp [Piece.chars]
  rw [laid.nested, chars] at trimmed
  exact not_trimmed_indented (by decide) trimmed

end Arena

end TermBot.Doc

import Mathlib.Data.List.Forall2
import TermBot.Doc.Layout

/-!
# Documents with the same layouts

Two documents are alike when they are laid out alike wherever they stand (`Doc.Alike`). The empty document can
be left out, and how a sequence is nested does not matter.
-/

namespace TermBot.Doc

/-- The tests agree on the rooms that they are asked about, which are never negative. -/
def Agree (after after' : Int64 → Bool) : Prop := ∀ room, 0 ≤ room → after room = after' room

theorem Agree.refl (after : Int64 → Bool) : Agree after after := fun _ _ => rfl

theorem Agree.symm {after after' : Int64 → Bool} (ahead : Agree after after') : Agree after' after :=
  fun room le => (ahead room le).symm

variable [Text.Measure]

/-- The characters of a document that starts in column `col`, and the column after it. -/
def written (width : Int64) (d : Doc) (indent : Int64) (flat : Bool) (after : Int64 → Bool) (col : Int64) :
    List Char × Int64 :=
  ((d.place width indent flat after col).1.flatMap Piece.chars, (d.place width indent flat after col).2)

/-- The documents are tested alike and written alike at every place, whatever follows. -/
structure Alike (d e : Doc) : Prop where
  fits {flat : Bool} {after after' : Int64 → Bool} (ahead : Agree after after') :
    Agree (d.fits flat after) (e.fits flat after')
  written {flat : Bool} {after after' : Int64 → Bool} (ahead : Agree after after') (width indent col : Int64) :
    d.written width indent flat after col = e.written width indent flat after' col

variable {a b c d e : Doc} {width indent col : Int64} {flat : Bool} {after after' : Int64 → Bool}

theorem fits_append : (a ++ b).fits flat after = a.fits flat (b.fits flat after) := rfl

theorem written_append : (a ++ b).written width indent flat after col =
    ((a.written width indent flat (b.fits flat after) col).1 ++
      (b.written width indent flat after (a.written width indent flat (b.fits flat after) col).2).1,
      (b.written width indent flat after (a.written width indent flat (b.fits flat after) col).2).2) := by
  refine Prod.ext ?_ rfl
  exact List.flatMap_append

theorem runWidth_empty : runWidth "" = 0 := congrArg Int64.ofNat Text.Measure.columns_empty

theorem fits_text (s : String) (room : Int64) : (text s).fits flat after room =
    (decide (0 ≤ room - runWidth s) && after (room - runWidth s)) := rfl

theorem fits_line (room : Int64) : line.fits true after room =
    (decide (0 ≤ room - 1) && after (room - 1)) := rfl

theorem written_text (s : String) :
    (text s).written width indent flat after col = (s.toList, col + runWidth s) :=
  Prod.ext (List.append_nil _) rfl

theorem written_group : (group d).written width indent flat after col =
    d.written width indent (flat || (0 ≤ width - col && d.fits true after (width - col))) after col := rfl

namespace Alike

theorem symm (same : d.Alike e) : e.Alike d :=
  ⟨fun ahead => (same.fits ahead.symm).symm, fun ahead w i c => (same.written ahead.symm w i c).symm⟩

theorem trans (first : c.Alike d) (second : d.Alike e) : c.Alike e where
  fits ahead room le := (first.fits ahead room le).trans (second.fits (.refl _) room le)
  written ahead w i c := (first.written ahead w i c).trans (second.written (.refl _) w i c)

theorem append (first : a.Alike b) (second : c.Alike d) : (a ++ c).Alike (b ++ d) where
  fits ahead := first.fits (second.fits ahead)
  written ahead w i col := by
    rw [written_append, written_append, first.written (second.fits ahead), second.written ahead]

theorem nest (columns : Int64) (same : d.Alike e) : (Doc.nest columns d).Alike (.nest columns e) where
  fits ahead := same.fits ahead
  written ahead w i col := same.written ahead w (i + columns) col

theorem group (same : d.Alike e) : (Doc.group d).Alike (.group e) where
  fits ahead := same.fits ahead
  written {flat after after'} ahead w i col := by
    have decided : (decide (0 ≤ w - col) && d.fits true after (w - col)) =
        (decide (0 ≤ w - col) && e.fits true after' (w - col)) := by
      by_cases room : 0 ≤ w - col
      · rw [same.fits ahead _ room]
      · rw [decide_eq_false room, Bool.false_and, Bool.false_and]
    rw [written_group, written_group, decided]
    exact same.written ahead w i col

theorem text (s : String) : (Doc.text s).Alike (.text s) where
  fits ahead room _ := by
    rw [fits_text, fits_text]
    by_cases fits : 0 ≤ room - runWidth s
    · rw [ahead _ fits]
    · rw [decide_eq_false fits, Bool.false_and, Bool.false_and]
  written _ _ _ _ := rfl

theorem refl (d : Doc) : d.Alike d := by
  induction d with
  | nil => exact ⟨fun ahead => ahead, fun _ _ _ _ => rfl⟩
  | text s => exact text s
  | line =>
    refine ⟨fun {flat after after'} ahead room _ => ?_, fun {flat after after'} _ _ _ _ => ?_⟩
    · cases flat with
      | true =>
        rw [fits_line, fits_line]
        by_cases fits : 0 ≤ room - 1
        · rw [ahead _ fits]
        · rw [decide_eq_false fits, Bool.false_and, Bool.false_and]
      | false => rfl
    · cases flat <;> rfl
  | softLine =>
    refine ⟨fun {flat after after'} ahead room le => ?_, fun {flat after after'} _ _ _ _ => ?_⟩
    · cases flat with
      | true => exact ahead room le
      | false => rfl
    · cases flat <;> rfl
  | hardLine => exact ⟨fun _ _ _ => rfl, fun _ _ _ _ => rfl⟩
  | append a b iha ihb => exact append iha ihb
  | nest columns d ih => exact ih.nest columns
  | group d ih => exact ih.group

/-- An empty run of text is the empty document. -/
theorem text_empty : (Doc.text "").Alike .nil where
  fits ahead room le := by
    rw [fits_text, runWidth_empty, Int64.sub_zero, decide_eq_true le, Bool.true_and]
    exact ahead room le
  written _ _ _ col := by
    rw [written_text, runWidth_empty, Int64.add_zero]
    rfl

theorem nil_append (d : Doc) : (.nil ++ d).Alike d := ⟨(refl d).fits, (refl d).written⟩

theorem append_nil (d : Doc) : (d ++ .nil).Alike d where
  fits := (refl d).fits
  written ahead w i col := by
    rw [written_append, ← (refl d).written ahead]
    exact Prod.ext (List.append_nil _) rfl

theorem append_assoc (a b c : Doc) : (a ++ b ++ c).Alike (a ++ (b ++ c)) where
  fits := (refl (a ++ (b ++ c))).fits
  written ahead w i col := by
    rw [← (refl (a ++ (b ++ c))).written ahead]
    simp only [written_append, fits_append, List.append_assoc]

/-- A sequence is its first document and the rest. -/
theorem concat_cons (d : Doc) (ds : List Doc) : (Doc.concat (d :: ds)).Alike (d ++ Doc.concat ds) := by
  cases ds with
  | nil => exact (append_nil d).symm
  | cons e ds => exact refl _

theorem concat {ds es : List Doc} (same : List.Forall₂ Alike ds es) :
    (Doc.concat ds).Alike (Doc.concat es) := by
  induction same with
  | nil => exact refl _
  | cons head _ ih => exact (concat_cons _ _).trans ((head.append ih).trans (concat_cons _ _).symm)

/-- Documents with a separator between each two are a sequence. -/
theorem concat_intersperse (sep : Doc) (ds : List Doc) :
    (Doc.concat (ds.intersperse sep)).Alike (Doc.join sep ds) := by
  induction ds with
  | nil => exact refl _
  | cons d ds ih =>
    cases ds with
    | nil => exact refl _
    | cons e ds =>
      rw [List.intersperse_cons_cons]
      refine (concat_cons _ _).trans (((refl d).append (concat_cons _ _)).trans ?_)
      exact (append_assoc d sep _).symm.trans ((refl (d ++ sep)).append ih)

/-- Documents that are alike have the same layout. -/
theorem layout_eq (same : d.Alike e) (width : Int64) : d.layout width = e.layout width :=
  congrArg (fun p : List Char × Int64 => String.ofList (trimLines p.1))
    (same.written (.refl fun _ => true) width 0 0)

end Alike

end TermBot.Doc

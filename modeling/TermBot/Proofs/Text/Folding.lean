import Mathlib
import TermBot.Text.Case
import TermBot.Text.Utf8

/-!
# Case folding

Simple case folding moves a character by the first run that it stands in, if there is one (`mapCase_cases`). No run
ends before the letters, so what folds to a blank or a mark of ASCII is that character itself (`eq_of_foldCase`). The
two cases of an ASCII letter fold to the same and have the same number of bytes, and so do texts that differ only in
them (`sameFold_of_toLower`, `length_bytesOf_of_toLower`).
-/

namespace TermBot.Text

/-- A character stays as it is, or some run moves it. -/
theorem mapCase_cases (runs : List CaseRun) (c : Char) :
    mapCase runs c = c ∨ ∃ r ∈ runs, r.first ≤ c.toNat ∧ mapCase runs c = Char.ofNat (c.toNat + r.shift).toNat := by
  induction runs with
  | nil => exact .inl rfl
  | cons r runs ih =>
    rw [mapCase]
    split
    · rcases ih with same | ⟨r', mem, rest⟩
      · exact .inl same
      · exact .inr ⟨r', List.mem_cons_of_mem _ mem, rest⟩
    · split
      case isTrue inside =>
        rw [Bool.and_eq_true, decide_eq_true_eq] at inside
        exact .inr ⟨r, List.mem_cons_self, inside.1, rfl⟩
      case isFalse => exact .inl rfl

/-- No other character folds to one before the letters. -/
theorem eq_of_foldCase {c d : Char} (folded : foldCase c = d) (some : d.toNat ≠ 0) (early : d.toNat < 65) :
    c = d := by
  have late : ∀ r ∈ foldRuns, (65 : Int) ≤ r.first + r.shift := by decide +kernel
  rcases mapCase_cases foldRuns c with same | ⟨r, mem, first, moved⟩
  · exact same.symm.trans folded
  · have target := late r mem
    have number := congrArg Char.toNat (moved.symm.trans folded)
    rw [Char.toNat_ofNat] at number
    split at number <;> omega

/-- Only the 26 upper-case letters of ASCII have another lower-case form in ASCII. -/
theorem toLower_cases (c : Char) : c.toLower = c ∨ ∃ i < 26, c = Char.ofNat (65 + i) := by
  cases upper : c.isUpper with
  | true =>
    rw [Char.isUpper, decide_eq_true_eq] at upper
    have low : 65 ≤ c.toNat := UInt32.le_iff_toNat_le.1 upper.1
    have high : c.toNat ≤ 90 := UInt32.le_iff_toNat_le.1 upper.2
    exact .inr ⟨c.toNat - 65, by omega, by rw [Nat.add_sub_cancel' low, Char.ofNat_toNat]⟩
  | false => exact .inl (Char.toLower_eq_of_not_isUpper (by simp [upper]))

theorem foldCase_toLower (c : Char) : foldCase c.toLower = foldCase c := by
  have letters : ∀ i < 26, foldCase (Char.ofNat (65 + i)).toLower = foldCase (Char.ofNat (65 + i)) := by
    decide +kernel
  rcases toLower_cases c with same | ⟨i, letter, rfl⟩
  · rw [same]
  · exact letters i letter

theorem utf8Size_toLower (c : Char) : c.toLower.utf8Size = c.utf8Size := by
  have letters : ∀ i < 26, (Char.ofNat (65 + i)).toLower.utf8Size = (Char.ofNat (65 + i)).utf8Size := by
    decide +kernel
  rcases toLower_cases c with same | ⟨i, letter, rfl⟩
  · rw [same]
  · exact letters i letter

/-- What is equal up to the case of ASCII letters is equal up to case. -/
theorem sameFold_of_toLower {s t : List Char} (same : s.map Char.toLower = t.map Char.toLower) :
    sameFold s t = true := by
  have folded := congrArg (List.map foldCase) same
  simp only [List.map_map, Function.comp_def, foldCase_toLower] at folded
  exact beq_iff_eq.2 folded

/-- What is equal up to the case of ASCII letters has the same number of bytes. -/
theorem length_bytesOf_of_toLower {s t : List Char} (same : s.map Char.toLower = t.map Char.toLower) :
    (bytesOf s).length = (bytesOf t).length := by
  have sizes := congrArg (List.map Char.utf8Size) same
  simp only [List.map_map, Function.comp_def, utf8Size_toLower] at sizes
  rw [bytesOf, bytesOf, List.length_flatMap, List.length_flatMap]
  simpa only [String.length_utf8EncodeChar] using congrArg List.sum sizes

end TermBot.Text

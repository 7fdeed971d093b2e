import Mathlib.Data.List.Nodup
import Mathlib.Data.List.Perm.Subperm
import TermBot.Proofs.Surface.Lexing
import TermBot.Typing.Names

/-!
# The names that generalisation gives

The names of the sequence differ from each other (`nameAt_injective`), so that one of them is not taken
(`nextName_notMem`). Each is a letter with a number behind it, and so an identifier that is neither a keyword
nor the name of the unit type (`isName_nextName`, `nextName_ne_unit`).
-/

namespace TermBot.Typing

open Surface (IsName IsWord StartsWord)

/-- What follows the letter of a name. -/
def nameDigits (n : Nat) : List Char := if n < 26 then [] else Nat.toDigits 10 (n / 26)

theorem toList_nameAt (n : Nat) :
    (nameAt n).toList = Char.ofNat ('a'.toNat + n % 26) :: nameDigits n := by
  rw [nameAt, nameDigits]
  split
  · simp
  · rw [Nat.toString_eq_ofList_toDigits]
    simp

theorem isDigit_of_mem_nameDigits {n : Nat} {c : Char} (mem : c ∈ nameDigits n) : c.isDigit = true := by
  rw [nameDigits] at mem
  split at mem
  · cases mem
  · exact Nat.isDigit_of_mem_toDigits (by decide) (by decide) mem

theorem div_eq_of_nameDigits {m n : Nat} (same : nameDigits m = nameDigits n) : m / 26 = n / 26 := by
  rw [nameDigits, nameDigits] at same
  split at same <;> split at same
  · rw [Nat.div_eq_of_lt ‹m < 26›, Nat.div_eq_of_lt ‹n < 26›]
  · exact absurd same.symm Nat.toDigits_ne_nil
  · exact absurd same Nat.toDigits_ne_nil
  · rw [← Nat.ofDigitChars_ten_toDigits (n := m / 26), same, Nat.ofDigitChars_ten_toDigits]

theorem letter_injective : ∀ i < 26, ∀ j < 26,
    Char.ofNat ('a'.toNat + i) = Char.ofNat ('a'.toNat + j) → i = j := by
  decide +kernel

/-- No two names of the sequence are the same. -/
theorem nameAt_injective : Function.Injective nameAt := by
  intro m n same
  have chars := congrArg String.toList same
  rw [toList_nameAt, toList_nameAt, List.cons.injEq] at chars
  have letters : m % 26 = n % 26 :=
    letter_injective _ (Nat.mod_lt _ (by decide)) _ (Nat.mod_lt _ (by decide)) chars.1
  rw [← Nat.div_add_mod m 26, ← Nat.div_add_mod n 26, letters, div_eq_of_nameDigits chars.2]

/-- A word with a character other than a digit behind the first one is no name of the sequence. -/
theorem nameAt_ne {n : Nat} {s : String} {c : Char} (mem : c ∈ s.toList.tail) (letter : c.isDigit = false) :
    nameAt n ≠ s := by
  rintro rfl
  rw [toList_nameAt, List.tail_cons] at mem
  rw [isDigit_of_mem_nameDigits mem] at letter
  cases letter

theorem startsWord_letter : ∀ i < 26, StartsWord (Char.ofNat ('a'.toNat + i)) := by
  have all : ∀ i < 26, Text.isBlank (Char.ofNat ('a'.toNat + i)) = false ∧
      Surface.symbol? (Char.ofNat ('a'.toNat + i)) = none ∧ Char.ofNat ('a'.toNat + i) ≠ '-' ∧
      Text.isDigit (Char.ofNat ('a'.toNat + i)) = false ∧
      Surface.isIdentStart (Char.ofNat ('a'.toNat + i)) = true := by
    decide +kernel
  intro i lt
  obtain ⟨notBlank, notSymbol, notDash, notDigit, start⟩ := all i lt
  exact ⟨notBlank, notSymbol, notDash, notDigit, start⟩

theorem isIdentPart_of_isDigit {c : Char} (digit : c.isDigit = true) : Surface.isIdentPart c = true := by
  have range : 48 ≤ c.toNat ∧ c.toNat ≤ 57 := by simpa [Char.isDigit, UInt32.le_iff_toNat_le] using digit
  have covered : Text.isDigit c = true := by
    rw [Text.isDigit, Text.digitRanges, Text.Ranges.covers, if_neg (by omega)]
    simp [range.2]
  simp [Surface.isIdentPart, covered]

theorem isName_nameAt (n : Nat) : IsName (nameAt n) where
  word := by
    refine ⟨_, _, toList_nameAt n, startsWord_letter _ (Nat.mod_lt _ (by decide)), ?_⟩
    rw [List.all_eq_true]
    exact fun c mem => isIdentPart_of_isDigit (isDigit_of_mem_nameDigits mem)
  ident := by
    unfold Surface.wordKind
    split
    · exact absurd ‹_› (nameAt_ne (c := 'o') (by decide) (by decide))
    · exact absurd ‹_› (nameAt_ne (c := 'e') (by decide) (by decide))
    · exact absurd ‹_› (nameAt_ne (c := 'n') (by decide) (by decide))
    · rfl

/-- Among one more names than are taken there is one that is not; the first one is given. -/
theorem exists_nextName (taken : List String) :
    ∃ n ≤ taken.length, nextName taken = nameAt n ∧ nameAt n ∉ taken ∧ ∀ m < n, nameAt m ∈ taken := by
  obtain ⟨n, mem, new⟩ : ∃ n ∈ List.range (taken.length + 1), nameAt n ∉ taken := by
    by_contra none
    have sub : (List.range (taken.length + 1)).map nameAt ⊆ taken := by
      intro s inside
      obtain ⟨n, mem, rfl⟩ := List.mem_map.1 inside
      exact not_not.1 fun new => none ⟨n, mem, new⟩
    have length := ((List.nodup_range.map nameAt_injective).subperm sub).length_le
    rw [List.length_map, List.length_range] at length
    omega
  have some : ((List.range (taken.length + 1)).find? fun n => !taken.contains (nameAt n)).isSome := by
    rw [List.find?_isSome]
    exact ⟨n, mem, by simpa using new⟩
  obtain ⟨k, found⟩ := Option.isSome_iff_exists.1 some
  obtain ⟨free, inside, before⟩ := List.find?_range_eq_some.1 found
  refine ⟨k, Nat.le_of_lt_succ (List.mem_range.1 inside), by rw [nextName, found]; rfl, by simpa using free,
    fun m lt => ?_⟩
  simpa using before m lt

/-- The name that is given is not taken. -/
theorem nextName_notMem (taken : List String) : nextName taken ∉ taken := by
  obtain ⟨n, -, same, new, -⟩ := exists_nextName taken
  exact same ▸ new

theorem isName_nextName (taken : List String) : IsName (nextName taken) := by
  obtain ⟨n, -, same, -⟩ := exists_nextName taken
  exact same ▸ isName_nameAt n

theorem nameAt_ne_unit (n : Nat) : nameAt n ≠ "Unit" := nameAt_ne (c := 'n') (by decide) (by decide)

theorem nextName_ne_unit (taken : List String) : nextName taken ≠ "Unit" := by
  obtain ⟨n, -, same, -⟩ := exists_nextName taken
  exact same ▸ nameAt_ne_unit n

end TermBot.Typing

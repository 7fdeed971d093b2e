import TermBot.Text.Numeral

/-!
# Decimal numerals

Reading a decimal integer gives a number just if the text is a numeral of that number and the number is in range
(`unsignedDecimal_eq_ok`, `decimal_eq_ok`). The digits are read one by one, and the value never gets smaller, so a
number in range has only numbers in range before it.
-/

namespace TermBot.Text

/-- The characters are decimal digits, at least one, and denote the number. -/
structure DecimalDigits (cs : List Char) (n : Nat) : Prop where
  nonempty : cs ≠ []
  digits : ∀ c ∈ cs, c.isDigit
  value : Nat.ofDigitChars 10 cs 0 = n

/-- The characters are a decimal numeral with or without a sign. -/
inductive SignedDecimal : List Char → Int → Prop where
  | plain {cs : List Char} {n : Nat} (numeral : DecimalDigits cs n) : SignedDecimal cs n
  | plus {cs : List Char} {n : Nat} (numeral : DecimalDigits cs n) : SignedDecimal ('+' :: cs) n
  | minus {cs : List Char} {n : Nat} (numeral : DecimalDigits cs n) : SignedDecimal ('-' :: cs) (-n)

/-- The text is an unsigned decimal numeral of the word. -/
def WordNumeral (s : String) (w : UInt64) : Prop := DecimalDigits s.toList w.toNat

/-- The text is a decimal numeral of the integer, which has 64 signed bits. -/
def IntNumeral (s : String) (z : Int) : Prop :=
  SignedDecimal s.toList z ∧ -(Nat.pow 2 63 : Int) ≤ z ∧ z < Nat.pow 2 63

variable {c : Char} {cs : List Char} {acc n : Nat}

theorem isDigit_iff : c.isDigit ↔ '0' ≤ c ∧ c ≤ '9' := by
  rw [Char.isDigit, Bool.and_eq_true, decide_eq_true_iff, decide_eq_true_iff]
  exact Iff.rfl

/-- A digit of the base ten is one of the ten digits. -/
theorem digitValue?_lt_ten : (∃ d, digitValue? c = some d ∧ d < 10) ↔ c.isDigit := by
  rw [isDigit_iff, digitValue?]
  constructor
  · rintro ⟨d, value, lt⟩
    split at value
    case isTrue digit => simpa using digit
    case isFalse =>
      split at value
      · cases value
        omega
      · split at value
        · cases value
          omega
        · cases value
  · intro digit
    have most : c.toNat ≤ 57 := UInt32.le_iff_toNat_le.1 digit.2
    exact ⟨c.toNat - '0'.toNat, if_pos (by simpa using digit), by simp only [Char.reduceToNat]; omega⟩

theorem digitValue?_of_isDigit (digit : c.isDigit) : digitValue? c = some (c.toNat - '0'.toNat) := by
  rw [digitValue?, if_pos (by simpa using isDigit_iff.1 digit)]

/-- One digit more. -/
theorem pushDigit_eq_ok : pushDigit 10 acc c = .ok n ↔
    c.isDigit ∧ 10 * acc + (c.toNat - '0'.toNat) = n ∧ n ≤ maxWord := by
  rw [pushDigit]
  by_cases digit : c.isDigit
  · obtain ⟨d, value, lt⟩ := digitValue?_lt_ten.2 digit
    obtain rfl : d = c.toNat - '0'.toNat := Option.some.inj (value.symm.trans (digitValue?_of_isDigit digit))
    simp only [value, if_neg (Nat.not_le.2 lt), digit, true_and]
    rw [Nat.mul_comm acc]
    generalize 10 * acc + (c.toNat - '0'.toNat) = pushed
    split
    case isTrue beyond => exact iff_of_false nofun (by omega)
    case isFalse within =>
      constructor
      · rintro ⟨⟩
        exact ⟨rfl, by omega⟩
      · rintro ⟨rfl, -⟩
        rfl
  · have none : ∀ d, digitValue? c = some d → 10 ≤ d := fun d value =>
      Nat.not_lt.1 fun lt => digit (digitValue?_lt_ten.1 ⟨d, value, lt⟩)
    cases value : digitValue? c with
    | none => simp [digit]
    | some d => simp [digit, none d value]

theorem le_ofDigitChars (cs : List Char) (acc : Nat) : acc ≤ Nat.ofDigitChars 10 cs acc := by
  rw [Nat.ofDigitChars_eq_ofDigitChars_zero]
  exact Nat.le_trans (Nat.le_mul_of_pos_left acc (Nat.pow_pos (by decide))) (Nat.le_add_right _ _)

/-- Digits behind a value in range. -/
theorem foldlM_pushDigit_eq_ok (le : acc ≤ maxWord) : cs.foldlM (pushDigit 10) acc = .ok n ↔
    (∀ c ∈ cs, c.isDigit) ∧ Nat.ofDigitChars 10 cs acc = n ∧ n ≤ maxWord := by
  induction cs generalizing acc with
  | nil =>
    constructor
    · rintro ⟨⟩
      exact ⟨nofun, rfl, le⟩
    · rintro ⟨-, rfl, -⟩
      rfl
  | cons c cs ih =>
    rw [List.foldlM_cons, List.forall_mem_cons, Nat.ofDigitChars_cons]
    have more := le_ofDigitChars cs (10 * acc + (c.toNat - '0'.toNat))
    cases pushed : pushDigit 10 acc c with
    | error fault =>
      refine iff_of_false nofun fun ⟨⟨digit, _⟩, value, within⟩ => ?_
      rw [value] at more
      have read := pushDigit_eq_ok.2 ⟨digit, rfl, Nat.le_trans more within⟩
      rw [pushed] at read
      cases read
    | ok m =>
      obtain ⟨digit, rfl, within⟩ := pushDigit_eq_ok.1 pushed
      exact (ih within).trans (and_congr_left fun _ => ⟨fun others => ⟨digit, others⟩, And.right⟩)

theorem digits_eq_ok (nonempty : cs ≠ []) : digits 10 cs = .ok n ↔ DecimalDigits cs n ∧ n ≤ maxWord := by
  rw [digits, foldlM_pushDigit_eq_ok (Nat.zero_le _)]
  constructor
  · rintro ⟨all, value, within⟩
    exact ⟨⟨nonempty, all, value⟩, within⟩
  · rintro ⟨numeral, within⟩
    exact ⟨numeral.digits, numeral.value, within⟩

/-- **An unsigned decimal integer is read just from its numerals.** -/
theorem unsignedDecimal_eq_ok {s : String} {w : UInt64} : unsignedDecimal s = .ok w ↔ WordNumeral s w := by
  rw [unsignedDecimal, WordNumeral]
  by_cases empty : s.isEmpty
  · rw [if_pos empty]
    refine iff_of_false nofun fun numeral => numeral.nonempty ?_
    rw [String.isEmpty_iff.1 empty]
    rfl
  · have nonempty : s.toList ≠ [] := by simpa using empty
    have most : w.toNat ≤ maxWord := Nat.le_pred_of_lt w.toNat_lt
    rw [if_neg empty]
    cases read : digits 10 s.toList with
    | error fault =>
      refine iff_of_false nofun fun numeral => ?_
      rw [(digits_eq_ok nonempty).2 ⟨numeral, most⟩] at read
      cases read
    | ok n =>
      obtain ⟨numeral, within⟩ := (digits_eq_ok nonempty).1 read
      have back : n.toUInt64.toNat = n := UInt64.toNat_ofNat_of_lt' (Nat.lt_of_le_pred (by decide) within)
      constructor
      · rintro ⟨⟩
        rwa [back]
      · intro other
        have same : n = w.toNat := numeral.value.symm.trans other.value
        rw [same]
        exact congrArg Except.ok (UInt64.ofNat_toNat (x := w))

/-- The value of a numeral without its sign. -/
theorem inSignedRange_eq_ok {negative : Bool} {z : Int} : inSignedRange negative n = .ok z ↔
    z = (if negative then -(n : Int) else n) ∧ -(Nat.pow 2 63 : Int) ≤ z ∧ z < Nat.pow 2 63 := by
  have positive : 0 < Nat.pow 2 63 := by decide
  rw [inSignedRange]
  generalize Nat.pow 2 63 = bound at positive ⊢
  cases negative <;> simp only [Bool.false_eq_true, if_false, if_true] <;> split <;>
    simp only [Except.ok.injEq, reduceCtorEq, false_iff] <;> omega

theorem signed_of_decimalDigits (numeral : DecimalDigits cs n) : signed cs = (false, cs) := by
  have no {c : Char} {rest : List Char} (mark : c.isDigit = false) : cs ≠ c :: rest := by
    rintro rfl
    exact absurd (numeral.digits c List.mem_cons_self) (by simp [mark])
  rw [signed.eq_def]
  split
  · exact absurd rfl (no (by decide))
  · exact absurd rfl (no (by decide))
  · rfl

/-- A numeral is what stands behind the sign. -/
theorem signedDecimal_iff {z : Int} : SignedDecimal cs z ↔
    ∃ n, DecimalDigits (signed cs).2 n ∧ z = if (signed cs).1 then -(n : Int) else n := by
  constructor
  · intro signed
    cases signed with
    | plain numeral => exact ⟨_, by rw [signed_of_decimalDigits numeral]; exact ⟨numeral, rfl⟩⟩
    | plus numeral => exact ⟨_, numeral, rfl⟩
    | minus numeral => exact ⟨_, numeral, rfl⟩
  · rintro ⟨n, numeral, rfl⟩
    revert numeral
    rw [signed.eq_def]
    split
    · exact .plus
    · exact .minus
    · exact .plain

/-- **A decimal integer is read just from its numerals**, with or without a sign. -/
theorem decimal_eq_ok {s : String} {z : Int} : decimal s = .ok z ↔ IntNumeral s z := by
  rw [decimal, IntNumeral, signedDecimal_iff]
  generalize signed s.toList = parts
  obtain ⟨negative, cs⟩ := parts
  dsimp only
  by_cases empty : cs.isEmpty
  · rw [if_pos empty]
    exact iff_of_false nofun fun ⟨⟨n, numeral, _⟩, _⟩ => numeral.nonempty (List.isEmpty_iff.1 empty)
  · have nonempty : cs ≠ [] := by simpa using empty
    rw [if_neg empty]
    cases read : digits 10 cs with
    | error fault =>
      refine iff_of_false nofun ?_
      rintro ⟨⟨n, numeral, rfl⟩, low, high⟩
      have within : n ≤ maxWord := by
        have half : Nat.pow 2 63 ≤ maxWord := by decide
        generalize Nat.pow 2 63 = bound at low high half
        cases negative <;> simp only [Bool.false_eq_true, if_false, if_true] at low high <;> omega
      rw [(digits_eq_ok nonempty).2 ⟨numeral, within⟩] at read
      cases read
    | ok n =>
      obtain ⟨numeral, -⟩ := (digits_eq_ok nonempty).1 read
      refine Iff.trans inSignedRange_eq_ok (and_congr_left fun _ => ?_)
      constructor
      · exact fun value => ⟨n, numeral, value⟩
      · rintro ⟨m, other, value⟩
        rw [value, ← numeral.value, other.value]

end TermBot.Text

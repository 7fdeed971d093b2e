import TermBot.Text.Utf8

/-!
# Scalars of a byte string

Every scalar that is read from a byte string is a character with its own bytes, or a byte that starts no
well-formed sequence (`genuine_of_mem_decode`). So a scalar whose character is not the replacement character has
the bytes of that character.
-/

namespace TermBot.Text

/-- A character with its own bytes, or a bad byte. -/
def Scalar.Genuine (r : Scalar) : Prop := r = .ofChar r.char ∨ ∃ b, r = .bad b

/-- The bytes of the character with a given number. -/
theorem utf8EncodeChar_ofNat {n : Nat} (valid : n.isValidChar) :
    String.utf8EncodeChar (Char.ofNat n) =
      if n ≤ 0x7F then [UInt8.ofNat n]
      else if n ≤ 0x7FF then [UInt8.ofNat (n / 64 % 32 + 192), UInt8.ofNat (n % 64 + 128)]
      else if n ≤ 0xFFFF then
        [UInt8.ofNat (n / 4096 % 16 + 224), UInt8.ofNat (n / 64 % 64 + 128), UInt8.ofNat (n % 64 + 128)]
      else
        [UInt8.ofNat (n / 262144 % 8 + 240), UInt8.ofNat (n / 4096 % 64 + 128), UInt8.ofNat (n / 64 % 64 + 128),
          UInt8.ofNat (n % 64 + 128)] := by
  have number : (Char.ofNat n).val.toNat = n := by
    rw [Char.ofNat, dif_pos valid]
    rfl
  rw [String.utf8EncodeChar, number]

/-- A byte is the one with its number. -/
theorem ofNat_eq {n : Nat} {b : UInt8} (number : n = b.toNat) : UInt8.ofNat n = b := by
  rw [number, UInt8.ofNat_toNat]

theorem continuation_bounds {b : UInt8} (h : isContinuation b = true) : 128 ≤ b.toNat ∧ b.toNat ≤ 191 := by
  simpa [isContinuation, UInt8.le_iff_toNat_le] using h

/-- No character of two bytes and no surrogate is written with three. -/
theorem secondOfThree_bounds {b0 b1 : UInt8} (h : secondOfThree b0 b1 = true) :
    128 ≤ b1.toNat ∧ b1.toNat ≤ 191 ∧ (b0.toNat = 224 → 160 ≤ b1.toNat) ∧ (b0.toNat = 237 → b1.toNat ≤ 159) := by
  simp only [secondOfThree, isContinuation, ← UInt8.toNat_inj, UInt8.reduceToNat] at h
  repeat' split at h
  all_goals
    simp only [Bool.and_eq_true, decide_eq_true_eq, UInt8.le_iff_toNat_le, UInt8.reduceToNat] at h
    omega

/-- No character of three bytes and no number above the last character is written with four. -/
theorem secondOfFour_bounds {b0 b1 : UInt8} (h : secondOfFour b0 b1 = true) :
    128 ≤ b1.toNat ∧ b1.toNat ≤ 191 ∧ (b0.toNat = 240 → 144 ≤ b1.toNat) ∧ (b0.toNat = 244 → b1.toNat ≤ 143) := by
  simp only [secondOfFour, isContinuation, ← UInt8.toNat_inj, UInt8.reduceToNat] at h
  repeat' split at h
  all_goals
    simp only [Bool.and_eq_true, decide_eq_true_eq, UInt8.le_iff_toNat_le, UInt8.reduceToNat] at h
    omega

theorem encode_two {b0 b1 : UInt8} (low : 0xC2 ≤ b0) (high : b0 ≤ 0xDF) (second : isContinuation b1 = true) :
    String.utf8EncodeChar (Char.ofNat (b0.toNat % 32 * 64 + continuation b1)) = [b0, b1] := by
  have low : 194 ≤ b0.toNat := UInt8.le_iff_toNat_le.1 low
  have high : b0.toNat ≤ 223 := UInt8.le_iff_toNat_le.1 high
  have second := continuation_bounds second
  rw [continuation, utf8EncodeChar_ofNat (.inl (by omega)), if_neg (by omega), if_pos (by omega),
    ofNat_eq (b := b0) (by omega), ofNat_eq (b := b1) (by omega)]

theorem encode_three {b0 b1 b2 : UInt8} (low : 0xE0 ≤ b0) (high : b0 ≤ 0xEF)
    (second : secondOfThree b0 b1 = true) (third : isContinuation b2 = true) :
    String.utf8EncodeChar
      (Char.ofNat ((b0.toNat % 16 * 64 + continuation b1) * 64 + continuation b2)) = [b0, b1, b2] := by
  have low : 224 ≤ b0.toNat := UInt8.le_iff_toNat_le.1 low
  have high : b0.toNat ≤ 239 := UInt8.le_iff_toNat_le.1 high
  have second := secondOfThree_bounds second
  have third := continuation_bounds third
  rw [continuation, continuation, utf8EncodeChar_ofNat (by rw [Nat.isValidChar]; omega), if_neg (by omega),
    if_neg (by omega), if_pos (by omega), ofNat_eq (b := b0) (by omega), ofNat_eq (b := b1) (by omega),
    ofNat_eq (b := b2) (by omega)]

theorem encode_four {b0 b1 b2 b3 : UInt8} (low : 0xF0 ≤ b0) (high : b0 ≤ 0xF4)
    (second : secondOfFour b0 b1 = true) (third : isContinuation b2 = true) (fourth : isContinuation b3 = true) :
    String.utf8EncodeChar
      (Char.ofNat (((b0.toNat % 8 * 64 + continuation b1) * 64 + continuation b2) * 64 + continuation b3)) =
      [b0, b1, b2, b3] := by
  have low : 240 ≤ b0.toNat := UInt8.le_iff_toNat_le.1 low
  have high : b0.toNat ≤ 244 := UInt8.le_iff_toNat_le.1 high
  have second := secondOfFour_bounds second
  have third := continuation_bounds third
  have fourth := continuation_bounds fourth
  rw [continuation, continuation, continuation, utf8EncodeChar_ofNat (by rw [Nat.isValidChar]; omega),
    if_neg (by omega), if_neg (by omega), if_neg (by omega), ofNat_eq (b := b0) (by omega),
    ofNat_eq (b := b1) (by omega), ofNat_eq (b := b2) (by omega), ofNat_eq (b := b3) (by omega)]

theorem Scalar.Genuine.of_bytes {c : Char} {bytes : List UInt8} (h : String.utf8EncodeChar c = bytes) :
    Scalar.Genuine ⟨c, bytes⟩ :=
  .inl (by rw [Scalar.ofChar, h])

theorem Scalar.Genuine.bad (b : UInt8) : (Scalar.bad b).Genuine := .inr ⟨b, rfl⟩

/-- Bytes that do not continue the first one as they must leave it alone, as a bad byte. -/
theorem Scalar.Genuine.ite {p : Prop} [Decidable p] {r : Scalar} {b : UInt8} (h : p → r.Genuine) :
    (if p then r else .bad b).Genuine := by
  split
  case isTrue holds => exact h holds
  case isFalse => exact .bad b

/-- The first scalar of a byte string is genuine. -/
theorem genuine_firstScalar (b0 : UInt8) (rest : List UInt8) : (firstScalar b0 rest).Genuine := by
  unfold firstScalar
  split
  case isTrue ascii =>
    have ascii : b0.toNat < 128 := UInt8.lt_iff_toNat_lt.1 ascii
    refine .of_bytes ?_
    rw [utf8EncodeChar_ofNat (.inl (by omega)), if_pos (by omega), UInt8.ofNat_toNat]
  simp only [Bool.and_eq_true, decide_eq_true_eq]
  split
  case isTrue two =>
    split
    · exact .ite fun second => .of_bytes (encode_two two.1 two.2 second)
    · exact .bad b0
  split
  case isTrue three =>
    split
    · exact .ite fun more => .of_bytes (encode_three three.1 three.2 more.1 more.2)
    · exact .bad b0
  split
  case isTrue four =>
    split
    · exact .ite fun more => .of_bytes (encode_four four.1 four.2 more.1.1 more.1.2 more.2)
    · exact .bad b0
  exact .bad b0

/-- Every scalar of a byte string is genuine. -/
theorem genuine_of_mem_decode (bytes : List UInt8) : ∀ r ∈ decode bytes, r.Genuine := by
  fun_induction decode bytes with
  | case1 =>
    intro r none
    cases none
  | case2 b rest ih => exact List.forall_mem_cons.2 ⟨genuine_firstScalar b rest, ih⟩

/-- A scalar that shows another character than the replacement character has the bytes of that character. -/
theorem Scalar.Genuine.eq_ofChar {r : Scalar} (genuine : r.Genuine) (legible : r.char ≠ Char.ofNat 0xFFFD) :
    r = .ofChar r.char := by
  rcases genuine with own | ⟨b, rfl⟩
  · exact own
  · exact absurd rfl legible

theorem Scalar.Genuine.bytes_eq {r : Scalar} (genuine : r.Genuine) (legible : r.char ≠ Char.ofNat 0xFFFD) :
    r.bytes = String.utf8EncodeChar r.char := congrArg Scalar.bytes (genuine.eq_ofChar legible)

end TermBot.Text

import TermBot.Proofs.Text.Decoding

/-!
# Characters read back from their bytes

The bytes of a character are read as that character, whatever follows them (`decode_encode_append`). So a text is
got back from its bytes (`decode_bytesOf`), and no character begins with the byte of another one that is ASCII
(`char_of_ascii`).
-/

namespace TermBot.Text

theorem isContinuation_iff {b : UInt8} : isContinuation b = true ↔ 128 ≤ b.toNat ∧ b.toNat ≤ 191 := by
  simp [isContinuation, UInt8.le_iff_toNat_le]

/-- The last six bits of a number in a continuation byte. -/
theorem isContinuation_ofNat (m : Nat) : isContinuation (UInt8.ofNat (m % 64 + 128)) = true := by
  have byte : (UInt8.ofNat (m % 64 + 128)).toNat = m % 64 + 128 :=
    UInt8.toNat_ofNat_of_lt (show m % 64 + 128 < 256 by omega)
  rw [isContinuation_iff, byte]
  omega

theorem secondOfThree_iff {b0 b1 : UInt8} :
    secondOfThree b0 b1 = true ↔
      128 ≤ b1.toNat ∧ b1.toNat ≤ 191 ∧ (b0.toNat = 224 → 160 ≤ b1.toNat) ∧ (b0.toNat = 237 → b1.toNat ≤ 159) := by
  refine ⟨secondOfThree_bounds, fun bounds => ?_⟩
  simp only [secondOfThree, isContinuation, ← UInt8.toNat_inj, UInt8.le_iff_toNat_le, UInt8.reduceToNat]
  repeat' split
  all_goals
    simp only [Bool.and_eq_true, decide_eq_true_eq]
    omega

theorem secondOfFour_iff {b0 b1 : UInt8} :
    secondOfFour b0 b1 = true ↔
      128 ≤ b1.toNat ∧ b1.toNat ≤ 191 ∧ (b0.toNat = 240 → 144 ≤ b1.toNat) ∧ (b0.toNat = 244 → b1.toNat ≤ 143) := by
  refine ⟨secondOfFour_bounds, fun bounds => ?_⟩
  simp only [secondOfFour, isContinuation, ← UInt8.toNat_inj, UInt8.le_iff_toNat_le, UInt8.reduceToNat]
  repeat' split
  all_goals
    simp only [Bool.and_eq_true, decide_eq_true_eq]
    omega

/-! ### Sequences of one to four bytes -/

variable {b0 b1 b2 b3 : UInt8} {rest : List UInt8}

theorem firstScalar_one (ascii : b0.toNat < 128) : firstScalar b0 rest = ⟨Char.ofNat b0.toNat, [b0]⟩ := by
  unfold firstScalar
  rw [if_pos (UInt8.lt_iff_toNat_lt.2 ascii)]

theorem firstScalar_two (low : 194 ≤ b0.toNat) (high : b0.toNat ≤ 223) (second : isContinuation b1 = true) :
    firstScalar b0 (b1 :: rest) = ⟨Char.ofNat (b0.toNat % 32 * 64 + continuation b1), [b0, b1]⟩ := by
  rw [firstScalar]
  simp only [UInt8.lt_iff_toNat_lt, UInt8.le_iff_toNat_le, UInt8.reduceToNat, Bool.and_eq_true, decide_eq_true_eq]
  rw [if_neg (by omega), if_pos ⟨low, high⟩, if_pos second]

theorem firstScalar_three (low : 224 ≤ b0.toNat) (high : b0.toNat ≤ 239) (second : secondOfThree b0 b1 = true)
    (third : isContinuation b2 = true) :
    firstScalar b0 (b1 :: b2 :: rest) =
      ⟨Char.ofNat ((b0.toNat % 16 * 64 + continuation b1) * 64 + continuation b2), [b0, b1, b2]⟩ := by
  rw [firstScalar]
  simp only [UInt8.lt_iff_toNat_lt, UInt8.le_iff_toNat_le, UInt8.reduceToNat, Bool.and_eq_true, decide_eq_true_eq]
  rw [if_neg (by omega), if_neg (by omega), if_pos ⟨low, high⟩, if_pos ⟨second, third⟩]

theorem firstScalar_four (low : 240 ≤ b0.toNat) (high : b0.toNat ≤ 244) (second : secondOfFour b0 b1 = true)
    (third : isContinuation b2 = true) (fourth : isContinuation b3 = true) :
    firstScalar b0 (b1 :: b2 :: b3 :: rest) =
      ⟨Char.ofNat (((b0.toNat % 8 * 64 + continuation b1) * 64 + continuation b2) * 64 + continuation b3),
        [b0, b1, b2, b3]⟩ := by
  rw [firstScalar]
  simp only [UInt8.lt_iff_toNat_lt, UInt8.le_iff_toNat_le, UInt8.reduceToNat, Bool.and_eq_true, decide_eq_true_eq]
  rw [if_neg (by omega), if_neg (by omega), if_neg (by omega), if_pos ⟨low, high⟩, if_pos ⟨⟨second, third⟩, fourth⟩]

theorem exists_encode (c : Char) : ∃ b tail, String.utf8EncodeChar c = b :: tail :=
  List.exists_cons_of_ne_nil (by simp)

/-! ### Texts -/

theorem decode_cons {r : Scalar} (tail : List UInt8) (first : firstScalar b0 (tail ++ rest) = r)
    (size : r.size = tail.length + 1) : decode (b0 :: (tail ++ rest)) = r :: decode rest := by
  rw [decode, first, size, Nat.add_sub_cancel, List.drop_left]

/-- The bytes of a character are read as that character. -/
theorem decode_encode_append (c : Char) (bytes : List UInt8) :
    decode (String.utf8EncodeChar c ++ bytes) = .ofChar c :: decode bytes := by
  obtain ⟨n, valid, rfl⟩ : ∃ n, n.isValidChar ∧ Char.ofNat n = c := ⟨c.toNat, c.valid, Char.ofNat_toNat c⟩
  have bounds := valid
  rw [Nat.isValidChar] at bounds
  rw [Scalar.ofChar, utf8EncodeChar_ofNat valid]
  have byte {m : Nat} (small : m < 256) : (UInt8.ofNat m).toNat = m := UInt8.toNat_ofNat_of_lt small
  have last (m : Nat) : (UInt8.ofNat (m % 64 + 128)).toNat = m % 64 + 128 := byte (by omega)
  split
  case isTrue =>
    refine decode_cons [] ?_ rfl
    rw [firstScalar_one (by rw [byte (by omega)]; omega), byte (by omega)]
  split
  case isTrue =>
    have first := byte (m := n / 64 % 32 + 192) (by omega)
    refine decode_cons [_] ?_ rfl
    rw [List.singleton_append, firstScalar_two (by omega) (by omega) (isContinuation_ofNat n), continuation, first,
      last]
    congr 2
    omega
  split
  case isTrue =>
    have first := byte (m := n / 4096 % 16 + 224) (by omega)
    have second := last (n / 64)
    refine decode_cons [_, _] ?_ rfl
    rw [List.cons_append, List.singleton_append,
      firstScalar_three (by omega) (by omega) (secondOfThree_iff.2 (by omega)) (isContinuation_ofNat n), continuation,
      continuation, first, second, last]
    congr 2
    omega
  case isFalse =>
    have first := byte (m := n / 262144 % 8 + 240) (by omega)
    have second := last (n / 4096)
    refine decode_cons [_, _, _] ?_ rfl
    rw [List.cons_append, List.cons_append, List.singleton_append,
      firstScalar_four (by omega) (by omega) (secondOfFour_iff.2 (by omega)) (isContinuation_ofNat _)
        (isContinuation_ofNat n),
      continuation, continuation, continuation, first, second, last, last]
    congr 2
    omega

theorem bytesOf_cons (c : Char) (cs : List Char) : bytesOf (c :: cs) = String.utf8EncodeChar c ++ bytesOf cs :=
  List.flatMap_cons

/-- A text is read back from its bytes. -/
theorem decode_bytesOf (cs : List Char) : decode (bytesOf cs) = cs.map .ofChar := by
  induction cs with
  | nil => rw [bytesOf, List.flatMap_nil, decode, List.map_nil]
  | cons c cs ih => rw [bytesOf_cons, decode_encode_append, ih, List.map_cons]

theorem chars_decode_bytesOf (cs : List Char) : (decode (bytesOf cs)).map Scalar.char = cs := by
  rw [decode_bytesOf, List.map_map]
  exact List.map_id cs

theorem bytesOf_append (cs ds : List Char) : bytesOf (cs ++ ds) = bytesOf cs ++ bytesOf ds := List.flatMap_append

theorem length_bytesOf (s : String) : (bytesOf s.toList).length = s.utf8ByteSize := by
  rw [← String.ofList_toList (s := s), String.toList_ofList, String.utf8ByteSize, String.toByteArray_ofList,
    List.utf8Encode, List.size_toByteArray, bytesOf]

/-! ### ASCII -/

theorem utf8EncodeChar_ascii {c : Char} (ascii : c.toNat < 128) :
    String.utf8EncodeChar c = [UInt8.ofNat c.toNat] := by
  rw [String.utf8EncodeChar]
  exact if_pos (Nat.le_of_lt_succ ascii)

/-- A scalar that shows an ASCII character begins with an ASCII byte. -/
theorem first_of_ascii (ascii : (firstScalar b0 rest).char.toNat < 128) : b0.toNat < 128 := by
  rcases genuine_firstScalar b0 rest with own | ⟨b, bad⟩
  · have bytes := firstScalar_bytes b0 rest
    rw [congrArg Scalar.bytes own, Scalar.ofChar, utf8EncodeChar_ascii ascii] at bytes
    rw [← (List.cons.inj bytes).1]
    exact lt_of_eq_of_lt (UInt8.toNat_ofNat_of_lt (Nat.lt_trans ascii (by decide))) ascii
  · have replacement : ¬ (Char.ofNat 0xFFFD).toNat < 128 := by decide
    rw [congrArg Scalar.char bad] at ascii
    exact absurd ascii replacement

/-- No character begins with the byte of another one that is ASCII. -/
theorem char_of_ascii {c : Char} {tail : List UInt8} (bytes : String.utf8EncodeChar c = b0 :: tail)
    (ascii : (firstScalar b0 rest).char.toNat < 128) : c = (firstScalar b0 rest).char := by
  have small := first_of_ascii ascii
  have read := decode_encode_append c []
  have alone : decode (b0 :: (tail ++ [])) = _ := decode_cons [] (firstScalar_one small) rfl
  rw [bytes, List.cons_append] at read
  rw [firstScalar_one small]
  exact congrArg Scalar.char (List.cons.inj (read.symm.trans alone)).1

end TermBot.Text

import TermBot.Proofs.Text.Encoding

/-!
# Byte strings put together

Only continuation bytes change how the bytes before them are read (`decode_append`). No character begins with such a
byte (`fresh_encode`), so scalars that are read back from their bytes are so with other characters behind them
(`Settled.append`) and without what stands behind them (`Settled.of_append_left`).
-/

namespace TermBot.Text

variable {b0 : UInt8} {bytes more rest : List UInt8}

/-- The bytes do not begin with a continuation byte. -/
def Fresh (bytes : List UInt8) : Prop := ∀ b ∈ bytes.head?, isContinuation b = false

theorem secondOfThree_of_not {b1 : UInt8} (other : isContinuation b1 = false) : secondOfThree b0 b1 = false := by
  rw [← Bool.not_eq_true, isContinuation_iff] at other
  rw [← Bool.not_eq_true]
  exact fun second => other ⟨(secondOfThree_iff.1 second).1, (secondOfThree_iff.1 second).2.1⟩

theorem secondOfFour_of_not {b1 : UInt8} (other : isContinuation b1 = false) : secondOfFour b0 b1 = false := by
  rw [← Bool.not_eq_true, isContinuation_iff] at other
  rw [← Bool.not_eq_true]
  exact fun second => other ⟨(secondOfFour_iff.1 second).1, (secondOfFour_iff.1 second).2.1⟩

/-- A sequence that is cut off is not made whole by bytes that do not continue it. -/
theorem firstScalar_append (fresh : Fresh more) : firstScalar b0 (rest ++ more) = firstScalar b0 rest := by
  cases more with
  | nil => rw [List.append_nil]
  | cons b more =>
    have other : isContinuation b = false := fresh b rfl
    have second : secondOfThree b0 b = false := secondOfThree_of_not other
    have second' : secondOfFour b0 b = false := secondOfFour_of_not other
    unfold firstScalar
    refine ite_congr rfl (fun _ => rfl) fun _ => ite_congr rfl (fun _ => ?two) fun _ =>
      ite_congr rfl (fun _ => ?three) fun _ => ite_congr rfl (fun _ => ?four) fun _ => rfl
    case two => cases rest <;> simp [other]
    case three =>
      match rest, more with
      | [], [] => rfl
      | [], _ :: _ => simp [second]
      | [_], _ => simp [other]
      | _ :: _ :: _, _ => rfl
    case four =>
      match rest, more with
      | [], [] | [], [_] | [_], [] => rfl
      | [], _ :: _ :: _ => simp [second']
      | [_], _ :: _ | [_, _], _ => simp [other]
      | _ :: _ :: _ :: _, _ => rfl

/-- Bytes that do not begin with a continuation byte are read apart from those before them. -/
theorem decode_append (fresh : Fresh more) : decode (bytes ++ more) = decode bytes ++ decode more := by
  fun_induction decode bytes with
  | case1 => rfl
  | case2 b rest ih =>
    have size : (firstScalar b rest).size - 1 ≤ rest.length := by
      have whole := congrArg List.length (firstScalar_bytes b rest)
      rw [List.length_append, List.length_drop, List.length_cons] at whole
      rw [Scalar.size] at whole ⊢
      omega
    rw [List.cons_append, decode, firstScalar_append fresh, List.drop_append_of_le_length size, ih, List.cons_append]

/-- A byte that continues a sequence begins none. -/
theorem firstScalar_continuation (continues : isContinuation b0 = true) : firstScalar b0 rest = .bad b0 := by
  rw [isContinuation_iff] at continues
  unfold firstScalar
  simp only [UInt8.lt_iff_toNat_lt, UInt8.le_iff_toNat_le, UInt8.reduceToNat, Bool.and_eq_true, decide_eq_true_eq]
  rw [if_neg (by omega), if_neg (by omega), if_neg (by omega), if_neg (by omega)]

/-- No character begins with a continuation byte. -/
theorem fresh_encode (c : Char) (rest : List UInt8) : Fresh (String.utf8EncodeChar c ++ rest) := by
  intro b first
  rw [← Bool.not_eq_true]
  intro continues
  obtain ⟨b0, tail, shape⟩ := exists_encode c
  rw [shape, List.cons_append, List.head?_cons, Option.mem_some] at first
  subst first
  have read := decode_encode_append c []
  rw [List.append_nil, shape, decode, decode, firstScalar_continuation continues] at read
  obtain ⟨replacement, alone⟩ := Scalar.mk.inj (List.cons.inj read).1
  -- the replacement character has three bytes
  have three : (String.utf8EncodeChar c).length = 3 := replacement ▸ by decide
  rw [← alone] at three
  cases three

/-! ### Scalars that are read back -/

variable {r : Scalar} {rs before after : List Scalar}

/-- The scalars are read back from their bytes. -/
def Settled (rs : List Scalar) : Prop := decode (rs.flatMap Scalar.bytes) = rs

theorem settled_decode (bytes : List UInt8) : Settled (decode bytes) := by
  rw [Settled, decode_bytes]

theorem settled_scalarsOf (s : String) : Settled (scalarsOf s) := by
  rw [Settled, scalarsOf, List.flatMap_map]
  exact decode_bytesOf s.toList

theorem Settled.tail (settled : Settled (r :: rs)) : Settled rs := by
  rw [Settled, List.flatMap_cons] at settled
  cases shape : r.bytes ++ rs.flatMap Scalar.bytes with
  | nil =>
    rw [shape, decode] at settled
    cases settled
  | cons b0 rest =>
    rw [shape, decode] at settled
    obtain ⟨rfl, behind⟩ := List.cons.inj settled
    have whole := (firstScalar_bytes b0 rest).trans shape.symm
    rw [List.append_cancel_left whole] at behind
    exact behind

theorem Settled.of_append_right (settled : Settled (before ++ after)) : Settled after := by
  induction before with
  | nil => exact settled
  | cons r before ih => exact ih settled.tail

theorem Settled.append (first : Settled before) (second : Settled after) (fresh : Fresh (after.flatMap Scalar.bytes)) :
    Settled (before ++ after) := by
  rw [Settled, List.flatMap_append, decode_append fresh, first, second]

/-- What stands behind a text of its own does not change how it is read. -/
theorem Settled.of_append_left (settled : Settled (before ++ after)) (fresh : Fresh (after.flatMap Scalar.bytes)) :
    Settled before := by
  have second : Settled after := settled.of_append_right
  rw [Settled, List.flatMap_append, decode_append fresh, second] at settled
  exact List.append_cancel_right settled

/-- Characters are read back with anything behind them that is. -/
theorem Settled.chars (cs : List Char) (settled : Settled rs) : Settled (cs.map Scalar.ofChar ++ rs) := by
  induction cs with
  | nil => exact settled
  | cons c cs ih =>
    rw [Settled, List.map_cons, List.cons_append, List.flatMap_cons, Scalar.ofChar, decode_encode_append, ih]
    rfl

end TermBot.Text

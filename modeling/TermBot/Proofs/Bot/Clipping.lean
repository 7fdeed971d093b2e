import TermBot.Proofs.Bot.Fences
import TermBot.Proofs.Text.Concatenation

/-!
# Clipping by bytes

A byte string that is too long is cut at the last place, with room for the ellipsis, where no sequence continues
(`isCut_cutAt`). In the bytes of a text such a place is one between two characters, so the cut takes the longest
beginning that fits (`take_cutAt_bytesOf`) and what is left is the bytes of a text again. The limits add up: a block of
code is never clipped a second time (`clipping_safe`).
-/

namespace TermBot

namespace Text

/-- The bytes are those of a text. -/
def WellFormed (bytes : List UInt8) : Prop := ∃ cs, bytes = bytesOf cs

variable {bytes more rest : List UInt8} {c : Char} {cs : List Char} {k : Nat}

theorem WellFormed.append (first : WellFormed bytes) (second : WellFormed more) : WellFormed (bytes ++ more) := by
  obtain ⟨cs, rfl⟩ := first
  obtain ⟨ds, rfl⟩ := second
  exact ⟨cs ++ ds, (bytesOf_append cs ds).symm⟩

/-- The bytes of a text are those that are read as nothing but characters. -/
theorem wellFormed_iff_decode : WellFormed bytes ↔ ∀ r ∈ decode bytes, r = .ofChar r.char := by
  constructor
  case mp =>
    rintro ⟨cs, rfl⟩ r mem
    rw [decode_bytesOf] at mem
    obtain ⟨c, -, rfl⟩ := List.mem_map.1 mem
    rfl
  case mpr =>
    intro read
    refine ⟨(decode bytes).map Scalar.char, ?_⟩
    rw [bytesOf, List.flatMap_map]
    conv_lhs => rw [← decode_bytes bytes]
    exact List.flatMap_congr fun r mem => congrArg Scalar.bytes (read r mem)

/-- The bytes of a character behind the first one continue it. -/
theorem continues_of_mem_tail (c : Char) : ∀ b ∈ (String.utf8EncodeChar c).tail, isContinuation b = true := by
  obtain ⟨n, valid, rfl⟩ : ∃ n, n.isValidChar ∧ Char.ofNat n = c := ⟨c.toNat, c.valid, Char.ofNat_toNat c⟩
  rw [utf8EncodeChar_ofNat valid]
  repeat' split
  all_goals simp only [List.tail_cons, List.forall_mem_cons, isContinuation_ofNat, true_and, List.not_mem_nil,
    false_imp_iff, implies_true]

/-! ### Where characters start -/

theorem startsAt_append_add : startsAt (bytes ++ more) (bytes.length + k) = startsAt more k := by
  rw [startsAt, List.getElem?_append_right (Nat.le_add_right _ _), Nat.add_sub_cancel_left, startsAt]

/-- A character starts at its first byte only. -/
theorem startsAt_encode (inside : k < (String.utf8EncodeChar c).length) :
    startsAt (String.utf8EncodeChar c ++ rest) k = true ↔ k = 0 := by
  rw [startsAt, List.getElem?_append_left inside]
  obtain ⟨b, tail, shape⟩ := exists_encode c
  cases k with
  | zero =>
    have fresh := fresh_encode c rest
    rw [shape] at fresh ⊢
    simp [fresh b rfl]
  | succ k =>
    have continues := continues_of_mem_tail c
    rw [shape] at continues inside ⊢
    have within : k < tail.length := Nat.lt_of_succ_lt_succ inside
    simp [within, continues _ (List.getElem_mem within)]

theorem startsAt_zero (some : cs ≠ []) : startsAt (bytesOf cs) 0 = true := by
  obtain ⟨c, cs, rfl⟩ := List.exists_cons_of_ne_nil some
  have one : 0 < (String.utf8EncodeChar c).length := by simp [Char.utf8Size_pos]
  rw [bytesOf_cons, startsAt_encode one]

end Text

namespace Bot

open Text (startsAt bytesOf bytesOf_cons WellFormed)

/-- The place is the last one not behind the limit where no sequence continues, or the start if there is none. -/
structure IsCut (bytes : List UInt8) (limit cut : Nat) : Prop where
  le : cut ≤ limit
  starts : cut = 0 ∨ startsAt bytes cut = true
  last : ∀ k ≤ limit, startsAt bytes k = true → k ≤ cut

variable {bytes : List UInt8} {limit cut cut' n : Nat} {cs : List Char}

theorem IsCut.unique (first : IsCut bytes limit cut) (second : IsCut bytes limit cut') : cut = cut' := by
  have le {i j : Nat} (a : IsCut bytes limit i) (b : IsCut bytes limit j) : i ≤ j :=
    a.starts.elim (fun start => start ▸ Nat.zero_le j) (b.last i a.le)
  exact Nat.le_antisymm (le first second) (le second first)

/-- The search finds the place. -/
theorem isCut_cutAt (bytes : List UInt8) (limit : Nat) : IsCut bytes limit (cutAt bytes limit) := by
  induction limit with
  | zero => exact ⟨Nat.le_refl 0, .inl rfl, fun _ le _ => le⟩
  | succ limit ih =>
    rw [cutAt]
    split
    case isTrue here => exact ⟨Nat.le_refl _, .inr here, fun _ le _ => le⟩
    case isFalse here =>
      refine ⟨Nat.le_succ_of_le ih.le, ih.starts, fun k le starts => ?_⟩
      have other : k ≠ limit + 1 := fun same => here (same ▸ starts)
      exact ih.last k (by omega) starts

/-! ### Texts -/

/-- The longest beginning that fits ends where no sequence continues. -/
theorem isCut_fitting (long : limit < (bytesOf cs).length) :
    startsAt (bytesOf cs) (bytesOf (fitting limit cs)).length = true ∧
      IsCut (bytesOf cs) limit (bytesOf (fitting limit cs)).length := by
  induction cs generalizing limit with
  | nil => exact absurd long (Nat.not_lt_zero limit)
  | cons c cs ih =>
    have first : startsAt (bytesOf (c :: cs)) 0 = true := Text.startsAt_zero (List.cons_ne_nil c cs)
    rw [bytesOf_cons] at long first ⊢
    rw [List.length_append] at long
    rw [fitting, ← String.length_utf8EncodeChar c]
    split
    case isTrue fits =>
      obtain ⟨starts, cut⟩ := @ih (limit - (String.utf8EncodeChar c).length) (by omega)
      have le := cut.le
      rw [bytesOf_cons, List.length_append, Text.startsAt_append_add]
      refine ⟨starts, by omega, .inr (Text.startsAt_append_add.trans starts), fun k near here => ?_⟩
      rcases Nat.lt_or_ge k (String.utf8EncodeChar c).length with inside | behind
      · omega
      · obtain ⟨j, rfl⟩ := Nat.exists_eq_add_of_le behind
        rw [Text.startsAt_append_add] at here
        have before := cut.last j (by omega) here
        omega
    case isFalse short =>
      refine ⟨first, Nat.zero_le limit, .inl rfl, fun k near here => ?_⟩
      exact Nat.le_of_eq ((Text.startsAt_encode (by omega)).1 here)

/-- A text is cut behind the longest beginning that fits. -/
theorem take_cutAt_bytesOf (long : limit < (bytesOf cs).length) :
    (bytesOf cs).take (cutAt (bytesOf cs) limit) = bytesOf (fitting limit cs) := by
  obtain ⟨rest, whole⟩ := fitting_isPrefix limit cs
  have start : bytesOf (fitting limit cs) <+: bytesOf cs := ⟨bytesOf rest, by rw [← Text.bytesOf_append, whole]⟩
  rw [(isCut_cutAt (bytesOf cs) limit).unique (isCut_fitting long).2]
  exact (List.prefix_iff_eq_take.1 start).symm

theorem bytesOf_clipTo (room : 3 ≤ n) (s : String) : bytesOf (clipTo n s).toList = clipBytes n (bytesOf s.toList) := by
  have size : ellipsis.utf8Size = 3 := by decide
  rw [clipTo, clipBytes, Text.length_bytesOf]
  split
  case isTrue => rfl
  case isFalse long =>
    have inside : n - ellipsis.utf8Size < (bytesOf s.toList).length := by
      rw [Text.length_bytesOf]
      omega
    rw [take_cutAt_bytesOf inside, String.toList_ofList, Text.bytesOf_append]
    rfl

theorem codeBlockBytes_eq (bytes : List UInt8) :
    codeBlockBytes bytes = bytesOf fenceOpen.toList ++ clipBytes 4088 bytes ++ bytesOf fenceClose.toList := by
  have room : maxDescription - fenceOpen.utf8ByteSize - fenceClose.utf8ByteSize = 4088 := by decide
  rw [codeBlockBytes, room]

theorem bytesOf_codeBlock (s : String) : bytesOf (codeBlock s).toList = codeBlockBytes (bytesOf s.toList) := by
  have room : maxDescription - fenceOpen.utf8ByteSize - fenceClose.utf8ByteSize = 4088 := by decide
  rw [codeBlock, codeBlockBytes_eq, room, String.toList_append, String.toList_append, Text.bytesOf_append,
    Text.bytesOf_append, bytesOf_clipTo (by decide)]

/-! ### Byte strings -/

/-- The byte string is the other one in at most `n` bytes: as it is, or cut with the three bytes of the ellipsis in
place of the rest. -/
structure Clipped (n : Nat) (bytes out : List UInt8) : Prop where
  whole : bytes.length ≤ n → out = bytes
  cut : n < bytes.length → ∃ cut, IsCut bytes (n - 3) cut ∧ out = bytes.take cut ++ [0xE2, 0x80, 0xA6]
  length : out.length ≤ n
  wellFormed : WellFormed bytes → WellFormed out

theorem clipped_clipBytes (room : 3 ≤ n) (bytes : List UInt8) : Clipped n bytes (clipBytes n bytes) := by
  have size : ellipsis.utf8Size = 3 := by decide
  have mark : String.utf8EncodeChar ellipsis = [0xE2, 0x80, 0xA6] := by decide
  rw [clipBytes, size, mark]
  split
  case isTrue short => exact ⟨fun _ => rfl, fun long => absurd short (Nat.not_le.2 long), short, id⟩
  case isFalse long =>
    have place := isCut_cutAt bytes (n - 3)
    refine ⟨fun short => absurd short long, fun _ => ⟨_, place, rfl⟩, ?length, ?wellFormed⟩
    case length =>
      have le := place.le
      rw [List.length_append, List.length_take]
      simp only [List.length_cons, List.length_nil]
      omega
    case wellFormed =>
      rintro ⟨cs, rfl⟩
      rw [take_cutAt_bytesOf (by omega)]
      exact .append ⟨_, rfl⟩ ⟨[ellipsis], mark.symm⟩

theorem length_codeBlockBytes (bytes : List UInt8) : (codeBlockBytes bytes).length ≤ 4096 := by
  have inner := (clipped_clipBytes (n := 4088) (by decide) bytes).length
  have marks : (bytesOf fenceOpen.toList).length = 4 ∧ (bytesOf fenceClose.toList).length = 4 := by decide
  rw [codeBlockBytes_eq, List.length_append, List.length_append, marks.1, marks.2]
  exact Nat.add_le_add_right (Nat.add_le_add_left inner 4) 4

/-- **Clipping is safe, and cuts no more than it has to.** Every byte string is kept or cut at the last place in front
of the ellipsis where no sequence continues. A block of code is in the length of a description whatever is in it, so a
card shows it with both fences. Texts are clipped as their bytes are. -/
theorem clipping_safe (room : 3 ≤ n) (bytes : List UInt8) (s title : String) :
    Clipped n bytes (clipBytes n bytes) ∧
      (codeBlockBytes bytes).length ≤ 4096 ∧ clipBytes 4096 (codeBlockBytes bytes) = codeBlockBytes bytes ∧
      codeBlockBytes bytes = bytesOf "```\n".toList ++ clipBytes 4088 bytes ++ bytesOf "\n```".toList ∧
      bytesOf (clipTo n s).toList = clipBytes n (bytesOf s.toList) ∧
      bytesOf (codeBlock s).toList = codeBlockBytes (bytesOf s.toList) ∧
      (success title (codeBlock s)).description = codeBlock s ∧
      (failure title (codeBlock s)).description = codeBlock s := by
  have block := length_codeBlockBytes bytes
  exact ⟨clipped_clipBytes room bytes, block, if_pos block, codeBlockBytes_eq bytes, bytesOf_clipTo room s,
    bytesOf_codeBlock s, clip_codeBlock s, clip_codeBlock s⟩

/-- The place for the ellipsis is inside of a character, which goes as a whole. -/
theorem clipping_safe_inside :
    3 ≤ 6 ∧ Clipped 6 [0x61, 0x61, 0xCE, 0xBB, 0xCE, 0xBB, 0xCE, 0xBB] [0x61, 0x61, 0xE2, 0x80, 0xA6] ∧
      bytesOf (clipTo 6 "aaλλλ").toList = [0x61, 0x61, 0xE2, 0x80, 0xA6] := by
  obtain ⟨clipped, -, -, -, text, -, -, -⟩ :=
    clipping_safe (n := 6) (by decide) [0x61, 0x61, 0xCE, 0xBB, 0xCE, 0xBB, 0xCE, 0xBB] "aaλλλ" "Result"
  have out : clipBytes 6 [0x61, 0x61, 0xCE, 0xBB, 0xCE, 0xBB, 0xCE, 0xBB] = [0x61, 0x61, 0xE2, 0x80, 0xA6] := by decide
  have bytes : bytesOf "aaλλλ".toList = [0x61, 0x61, 0xCE, 0xBB, 0xCE, 0xBB, 0xCE, 0xBB] := by decide
  rw [bytes, out] at text
  rw [out] at clipped
  exact ⟨by decide, clipped, text⟩

end Bot

end TermBot

import Mathlib.Data.List.DropRight
import TermBot.Proofs.Text.Concatenation
import TermBot.Text.Blank

/-!
# Lines of byte strings

An ASCII byte is a character of its own wherever it stands in a byte string, and no other character has it among its
bytes (`eq_ofChar_of_mem`). So it makes no difference whether bytes are split at such a byte before they are read or
after it (`splitAt_decode`). The line around a place has as many line ends before it as stand before the place
(`drop_splitAt`), so the line of the bytes and the line of the scalars are the same one (`decode_lineAround`).
-/

namespace TermBot.Text

/-! ### ASCII bytes -/

variable {b b0 : UInt8} {r : Scalar} {bytes rest : List UInt8}

/-- The character that an ASCII byte is read as. -/
def asciiChar (b : UInt8) : Char := Char.ofNat b.toNat

theorem encode_asciiChar (ascii : b.toNat < 128) : String.utf8EncodeChar (asciiChar b) = [b] := by
  rw [asciiChar, utf8EncodeChar_ofNat (.inl (by omega)), if_pos (by omega), UInt8.ofNat_toNat]

theorem ofChar_asciiChar (ascii : b.toNat < 128) : Scalar.ofChar (asciiChar b) = ⟨asciiChar b, [b]⟩ := by
  rw [Scalar.ofChar, encode_asciiChar ascii]

/-- Behind its first byte a sequence has continuation bytes. -/
theorem continues_of_mem (mem : b ∈ (firstScalar b0 rest).bytes) : b = b0 ∨ isContinuation b = true := by
  unfold firstScalar at mem
  repeat' split at mem
  all_goals
    simp only [Scalar.bad, List.mem_cons, List.not_mem_nil, or_false] at mem
    grind [secondOfThree_iff, secondOfFour_iff, isContinuation_iff]

/-- No sequence of several bytes has an ASCII byte in it. -/
theorem firstScalar_of_mem (mem : b ∈ (firstScalar b0 rest).bytes) (ascii : b.toNat < 128) :
    firstScalar b0 rest = .ofChar (asciiChar b) := by
  rcases continues_of_mem mem with rfl | continues
  · rw [firstScalar_one ascii, ofChar_asciiChar ascii, asciiChar]
  · rw [isContinuation_iff] at continues
    omega

/-- An ASCII byte that stands in a byte string is read as its character. -/
theorem eq_ofChar_of_mem (mem : r ∈ decode bytes) (here : b ∈ r.bytes) (ascii : b.toNat < 128) :
    r = .ofChar (asciiChar b) := by
  fun_induction decode bytes with
  | case1 => cases mem
  | case2 b0 rest ih =>
    rcases List.mem_cons.1 mem with rfl | mem
    · exact firstScalar_of_mem here ascii
    · exact ih mem

/-- A text has the byte of an ASCII character just where it has the character. -/
theorem mem_bytesOf_iff {cs : List Char} (ascii : b.toNat < 128) : b ∈ bytesOf cs ↔ asciiChar b ∈ cs := by
  rw [bytesOf, List.mem_flatMap]
  constructor
  · rintro ⟨c, mem, here⟩
    have read : Scalar.ofChar c ∈ decode (bytesOf cs) := decode_bytesOf cs ▸ List.mem_map_of_mem mem
    have same : c = asciiChar b := congrArg Scalar.char (eq_ofChar_of_mem read here ascii)
    exact same ▸ mem
  · exact fun mem => ⟨_, mem, encode_asciiChar ascii ▸ List.mem_singleton_self b⟩

theorem decode_cons_ascii (ascii : b.toNat < 128) (bytes : List UInt8) :
    decode (b :: bytes) = .ofChar (asciiChar b) :: decode bytes := by
  have read := decode_encode_append (asciiChar b) bytes
  rwa [encode_asciiChar ascii] at read

/-- What stands before an ASCII byte is read apart from what stands behind it. -/
theorem decode_append_cons (ascii : b.toNat < 128) (bytes more : List UInt8) :
    decode (bytes ++ b :: more) = decode bytes ++ .ofChar (asciiChar b) :: decode more := by
  have fresh := fresh_encode (asciiChar b) more
  rw [encode_asciiChar ascii, List.singleton_append] at fresh
  rw [decode_append fresh, decode_cons_ascii ascii]

theorem decode_bytesOf_append (cs : List Char) (bytes : List UInt8) :
    decode (bytesOf cs ++ bytes) = cs.map .ofChar ++ decode bytes := by
  induction cs with
  | nil => rfl
  | cons c cs ih => rw [bytesOf_cons, List.append_assoc, decode_encode_append, ih, List.map_cons, List.cons_append]

theorem ofChar_notMem_decode (ascii : b.toNat < 128) (absent : b ∉ bytes) :
    Scalar.ofChar (asciiChar b) ∉ decode bytes := by
  intro mem
  rw [← decode_bytes bytes, List.mem_flatMap] at absent
  exact absent ⟨_, mem, ofChar_asciiChar ascii ▸ List.mem_singleton_self b⟩

/-! ### Splitting -/

theorem decode_joinWith (ascii : b.toNat < 128) (pieces : List (List UInt8)) :
    decode (joinWith b pieces) = joinWith (.ofChar (asciiChar b)) (pieces.map decode) := by
  induction pieces with
  | nil => rw [joinWith, decode, List.map_nil, joinWith]
  | cons piece pieces ih =>
    cases pieces with
    | nil => rfl
    | cons next pieces => exact (decode_append_cons ascii piece _).trans (congrArg (decode piece ++ _ :: ·) ih)

/-- The pieces between ASCII bytes are read one by one. -/
theorem splitAt_decode (ascii : b.toNat < 128) (bytes : List UInt8) :
    splitAt (.ofChar (asciiChar b)) (decode bytes) = (splitAt b bytes).map decode := by
  conv_lhs => rw [← joinWith_splitAt b bytes, decode_joinWith ascii]
  refine splitAt_joinWith (fun none => splitAt_ne_nil b bytes (List.map_eq_nil_iff.1 none)) ?_
  refine List.forall_mem_map.2 fun piece mem => ?_
  exact ofChar_notMem_decode ascii (notMem_of_mem_splitAt mem)

theorem dropRightWhile_concat {α : Type} (p : α → Bool) (as : List α) (a : α) :
    dropRightWhile p (as ++ [a]) = if p a then dropRightWhile p as else as ++ [a] := List.rdropWhile_concat p as a

/-- ASCII bytes are dropped from the end before reading or after it. -/
theorem decode_dropRightWhile (ascii : b.toNat < 128) (bytes : List UInt8) :
    decode (dropRightWhile (· = b) bytes) = dropRightWhile (· = .ofChar (asciiChar b)) (decode bytes) := by
  induction bytes using List.reverseRecOn with
  | nil =>
    change decode [] = _
    rw [decode]
    rfl
  | append_singleton bytes last ih =>
    rw [dropRightWhile_concat]
    by_cases same : last = b
    · subst same
      rw [decode_append_cons ascii, decode, dropRightWhile_concat, if_pos (decide_eq_true rfl),
        if_pos (decide_eq_true rfl), ih]
    · rw [if_neg (by simpa using same)]
      have whole := decode_bytes (bytes ++ [last])
      rcases List.eq_nil_or_concat' (decode (bytes ++ [last])) with none | ⟨rs, r, read⟩
      · rw [none]
        rfl
      · rw [read, dropRightWhile_concat, if_neg]
        intro drops
        have own : r = ⟨asciiChar b, [b]⟩ := (of_decide_eq_true drops).trans (ofChar_asciiChar ascii)
        rw [read, List.flatMap_append, own] at whole
        exact same (List.singleton_inj.1 (List.append_inj_right' whole rfl)).symm

/-! ### The line of a place -/

section Line

variable {α : Type} [DecidableEq α] {stop : α}

/-- The line that begins in the first text and ends in the second, where lines end with `stop`. -/
def lineAround (stop : α) (before after : List α) : List α :=
  before.rtakeWhile (· ≠ stop) ++ after.takeWhile (· ≠ stop)

theorem splitAt_eq_cons (stop : α) (as : List α) :
    splitAt stop as = as.takeWhile (· ≠ stop) :: (splitAt stop as).tail := by
  induction as with
  | nil => rfl
  | cons a as ih =>
    rw [splitAt]
    split
    case isTrue ends => simp [ends]
    case isFalse other =>
      rw [ih]
      simp [other]

/-- As many line ends as stand before a place, so many lines stand before the one around it. -/
theorem drop_splitAt (stop : α) (before after : List α) :
    (splitAt stop (before ++ after)).drop (before.count stop) =
      lineAround stop before after :: (splitAt stop after).tail := by
  induction before using List.reverseRecOn generalizing after with
  | nil => exact splitAt_eq_cons stop after
  | append_singleton before a ih =>
    rw [List.append_assoc, List.singleton_append, List.count_append, List.count_singleton]
    by_cases ends : a = stop
    · subst ends
      -- the line that ends here is dropped with those before it
      have next : splitAt a (a :: after) = [] :: splitAt a after := if_pos rfl
      rw [beq_self_eq_true, if_pos rfl, ← List.tail_drop, ih, next, List.tail_cons, List.tail_cons, splitAt_eq_cons]
      simp [lineAround]
    · have same : lineAround stop before (a :: after) = lineAround stop (before ++ [a]) after := by
        simp [lineAround, ends]
      have rest : (splitAt stop (a :: after)).tail = (splitAt stop after).tail := by
        rw [splitAt, if_neg ends, splitAt_eq_cons stop after]
        rfl
      rw [if_neg (by simpa using ends), Nat.add_zero, ih, same, rest]

theorem getElem?_splitAt (stop : α) (before after : List α) :
    (splitAt stop (before ++ after))[before.count stop]? = some (lineAround stop before after) := by
  have line := congrArg List.head? (drop_splitAt stop before after)
  rwa [List.head?_drop] at line

theorem notMem_lineAround (stop : α) (before after : List α) : stop ∉ lineAround stop before after := by
  rw [lineAround, List.mem_append, not_or]
  constructor
  · exact fun mem => by simpa using List.mem_rtakeWhile_imp mem
  · exact fun mem => by simpa using List.mem_takeWhile_imp mem

end Line

/-- Scalars have as many bytes of an ASCII character as there are such characters among them. -/
theorem count_bytes (ascii : b.toNat < 128) {rs : List Scalar}
    (own : ∀ r ∈ rs, b ∈ r.bytes → r = .ofChar (asciiChar b)) :
    (rs.flatMap Scalar.bytes).count b = rs.count (.ofChar (asciiChar b)) := by
  induction rs with
  | nil => rfl
  | cons r rs ih =>
    obtain ⟨here, others⟩ := List.forall_mem_cons.1 own
    rw [List.flatMap_cons, List.count_append, ih others, List.count_cons, Nat.add_comm]
    congr 1
    split
    case isTrue same => rw [eq_of_beq same, ofChar_asciiChar ascii, List.count_singleton_self]
    case isFalse other => exact List.count_eq_zero.2 fun mem => other (beq_of_eq (here mem))

/-- Where the scalars are divided, so are their bytes. -/
theorem eq_append_of_decode {before after : List Scalar} (read : decode bytes = before ++ after) :
    bytes = before.flatMap Scalar.bytes ++ after.flatMap Scalar.bytes := by
  rw [← List.flatMap_append, ← read, decode_bytes]

/-- The line of bytes around a place is read as the line of scalars around it. -/
theorem decode_lineAround (ascii : b.toNat < 128) {before after : List Scalar} (read : decode bytes = before ++ after) :
    decode (lineAround b (before.flatMap Scalar.bytes) (after.flatMap Scalar.bytes)) =
      lineAround (.ofChar (asciiChar b)) before after := by
  have count : (before.flatMap Scalar.bytes).count b = before.count (.ofChar (asciiChar b)) :=
    count_bytes ascii fun r mem here => eq_ofChar_of_mem (read ▸ List.mem_append_left _ mem) here ascii
  have line := getElem?_splitAt (.ofChar (asciiChar b)) before after
  rw [← read, splitAt_decode ascii, eq_append_of_decode read, ← count, List.getElem?_map, getElem?_splitAt] at line
  exact Option.some.inj line

end TermBot.Text

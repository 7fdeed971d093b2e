/-!
# Texts as bytes

A byte string is read as a list of scalars, the characters with their bytes. A byte that starts no
well-formed sequence is a scalar of its own that shows as U+FFFD, so reading never fails and loses no
byte: `decode_bytes`.
-/

namespace TermBot.Text

/-- One character of a source with the bytes it was read from. -/
structure Scalar where
  char : Char
  bytes : List UInt8
  deriving DecidableEq, Repr

/-- The number of bytes of the scalar. -/
def Scalar.size (r : Scalar) : Nat := r.bytes.length

/-- A character with its own bytes. -/
def Scalar.ofChar (c : Char) : Scalar := ⟨c, String.utf8EncodeChar c⟩

/-- A byte that starts no well-formed sequence. -/
def Scalar.bad (b : UInt8) : Scalar := ⟨Char.ofNat 0xFFFD, [b]⟩

/-- The six bits that a continuation byte carries. -/
def continuation (b : UInt8) : Nat := b.toNat % 64

/-- A byte that continues a sequence. -/
def isContinuation (b : UInt8) : Bool := 0x80 ≤ b && b ≤ 0xBF

/-- Whether there is a byte at the place that does not continue a sequence. -/
def startsAt (bytes : List UInt8) (k : Nat) : Bool := bytes[k]?.any (!isContinuation ·)

/-- The bytes that may stand second after the given first byte of a sequence of three. -/
def secondOfThree (b0 b1 : UInt8) : Bool :=
  if b0 = 0xE0 then 0xA0 ≤ b1 && b1 ≤ 0xBF
  else if b0 = 0xED then 0x80 ≤ b1 && b1 ≤ 0x9F
  else isContinuation b1

/-- The bytes that may stand second after the given first byte of a sequence of four. -/
def secondOfFour (b0 b1 : UInt8) : Bool :=
  if b0 = 0xF0 then 0x90 ≤ b1 && b1 ≤ 0xBF
  else if b0 = 0xF4 then 0x80 ≤ b1 && b1 ≤ 0x8F
  else isContinuation b1

/-- The scalar that starts with byte `b0`, followed by `rest`. -/
def firstScalar (b0 : UInt8) (rest : List UInt8) : Scalar :=
  if b0 < 0x80 then ⟨Char.ofNat b0.toNat, [b0]⟩
  else if 0xC2 ≤ b0 && b0 ≤ 0xDF then
    match rest with
    | b1 :: _ =>
      if isContinuation b1 then
        ⟨Char.ofNat ((b0.toNat % 32) * 64 + continuation b1), [b0, b1]⟩
      else .bad b0
    | _ => .bad b0
  else if 0xE0 ≤ b0 && b0 ≤ 0xEF then
    match rest with
    | b1 :: b2 :: _ =>
      if secondOfThree b0 b1 && isContinuation b2 then
        ⟨Char.ofNat (((b0.toNat % 16) * 64 + continuation b1) * 64 + continuation b2),
          [b0, b1, b2]⟩
      else .bad b0
    | _ => .bad b0
  else if 0xF0 ≤ b0 && b0 ≤ 0xF4 then
    match rest with
    | b1 :: b2 :: b3 :: _ =>
      if secondOfFour b0 b1 && isContinuation b2 && isContinuation b3 then
        ⟨Char.ofNat ((((b0.toNat % 8) * 64 + continuation b1) * 64 + continuation b2) * 64
            + continuation b3), [b0, b1, b2, b3]⟩
      else .bad b0
    | _ => .bad b0
  else .bad b0

/-- The first scalar takes its first byte and then bytes of the rest. -/
theorem firstScalar_bytes (b0 : UInt8) (rest : List UInt8) :
    (firstScalar b0 rest).bytes ++ rest.drop ((firstScalar b0 rest).size - 1) = b0 :: rest := by
  unfold firstScalar
  repeat' split
  all_goals simp [Scalar.bad, Scalar.size]

/-- The scalars of a byte string. -/
def decode : List UInt8 → List Scalar
  | [] => []
  | b :: rest => firstScalar b rest :: decode (rest.drop ((firstScalar b rest).size - 1))
termination_by bs => bs.length
decreasing_by
  simp only [List.length_drop, List.length_cons]
  omega

/-- Reading loses no byte. -/
theorem decode_bytes (bs : List UInt8) : (decode bs).flatMap Scalar.bytes = bs := by
  fun_induction decode bs with
  | case1 => rfl
  | case2 b rest ih => simp [ih, firstScalar_bytes]

/-- The scalars of a text. -/
def scalarsOf (s : String) : List Scalar := s.toList.map Scalar.ofChar

/-- The text that the scalars show. -/
def shown (rs : List Scalar) : String := String.ofList (rs.map Scalar.char)

/-- The number of bytes of the scalars. -/
def byteSize (rs : List Scalar) : Nat := (rs.map Scalar.size).foldr (· + ·) 0

/-- The bytes of a text. -/
def bytesOf (cs : List Char) : List UInt8 := cs.flatMap String.utf8EncodeChar

/-- The number of bytes of a text. -/
def byteLength (cs : List Char) : Nat := (cs.map Char.utf8Size).foldr (· + ·) 0

end TermBot.Text

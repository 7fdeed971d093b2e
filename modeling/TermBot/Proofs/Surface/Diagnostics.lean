import TermBot.Proofs.Surface.Blame
import TermBot.Proofs.Text.Lines
import TermBot.Text.Width

/-!
# Diagnostics

A fault of a source is at the place behind a beginning of the source, so the source has the line that the fault
names. The lexer counts newlines while it reads scalars, and a snippet splits the bytes at all of them; both find the
same line, from the newline before the place to the one behind it (`sourceLines_place`), and read by itself it has the
scalars that the lexer found there (`decode_shownLine`). So a diagnostic has its four lines, with the caret below the
place (`parseSource_diagnostic`), whatever bytes the source is made of.
-/

namespace TermBot.Surface

open Text (Measure Scalar)

/-! ## The line of a place -/

section Line

variable {bytes : List UInt8} {before after : Source}

/-- The line of bytes around an offset as a snippet shows it, without the carriage returns at its end. -/
def shownLine (bytes : List UInt8) (offset : Nat) : List UInt8 :=
  Text.dropRightWhile (· = 0x0D) (Text.lineAround 0x0A (bytes.take offset) (bytes.drop offset))

/-- The offset of a place divides the bytes where the place divides the scalars. -/
theorem take_drop_offset (read : Text.decode bytes = before ++ after) :
    bytes.take (placeAfter before).offset = before.flatMap Scalar.bytes ∧
      bytes.drop (placeAfter before).offset = after.flatMap Scalar.bytes := by
  have offset : (placeAfter before).offset = (before.flatMap Scalar.bytes).length := byteSize_eq before
  rw [offset, Text.eq_append_of_decode read]
  exact ⟨List.take_left, List.drop_left⟩

/-- Read by itself, the shown line has the scalars of the source around the place. -/
theorem decode_shownLine (read : Text.decode bytes = before ++ after) :
    Text.decode (shownLine bytes (placeAfter before).offset) =
      Text.dropRightWhile (· = .ofChar '\r') (Text.lineAround (.ofChar '\n') before after) := by
  obtain ⟨take, drop⟩ := take_drop_offset read
  rw [shownLine, Text.decode_dropRightWhile (by decide), take, drop, Text.decode_lineAround (by decide) read]
  rfl

/-- The newlines among the scalars before a place are those among its bytes. -/
theorem count_newlines (read : Text.decode bytes = before ++ after) :
    (before.flatMap Scalar.bytes).count 0x0A = before.countP (·.char = '\n') := by
  have mem : ∀ r ∈ before, r ∈ Text.decode bytes := fun r here => read ▸ List.mem_append_left _ here
  rw [Text.count_bytes (by decide) fun r here inside => Text.eq_ofChar_of_mem (mem r here) inside (by decide)]
  refine List.countP_congr fun r here => ?_
  rw [decide_eq_true_iff, beq_iff_eq]
  constructor
  · rintro rfl
    rfl
  · intro newline
    have own := (Text.genuine_of_mem_decode bytes r (mem r here)).eq_ofChar (by rw [newline]; decide)
    rwa [newline] at own

/-- The line that a place names is the line around it. -/
theorem sourceLines_place (read : Text.decode bytes = before ++ after) :
    (Snippet.sourceLines bytes)[(placeAfter before).line - 1]? = some (shownLine bytes (placeAfter before).offset) := by
  have newlines : (bytes.take (placeAfter before).offset).count 0x0A = (placeAfter before).line - 1 := by
    rw [(take_drop_offset read).1, count_newlines read, placeAfter, Nat.add_sub_cancel_left]
  have line := Text.getElem?_splitAt 0x0A (bytes.take (placeAfter before).offset)
    (bytes.drop (placeAfter before).offset)
  rw [List.take_append_drop, newlines] at line
  rw [Snippet.sourceLines, List.getElem?_map, line]
  rfl

end Line

/-! ## The four lines -/

/-- What stands before a numbered line of the source. -/
def gutter (line : Nat) : List Char := ' ' :: (toString line).toList ++ " | ".toList

/-- The numbered line of the source. -/
def sourceRow (line : Nat) (shown : List UInt8) : List UInt8 := Text.bytesOf (gutter line) ++ shown

/-- The line with the caret, some cells behind the gutter. -/
def caretRow (line cells : Nat) : List Char :=
  ' ' :: List.replicate (toString line).length ' ' ++ " | ".toList ++ List.replicate cells ' ' ++ ['^']

/-- The diagnostic of a fault in a line that the source has. -/
theorem written_eq [Measure] {f : Fault} {bytes shown : List UInt8} (first : 1 ≤ f.pos.line)
    (line : (Snippet.sourceLines bytes)[f.pos.line - 1]? = some shown) :
    f.written bytes = Text.bytesOf f.message.toList ++ 0x0A :: 0x0A :: (sourceRow f.pos.line shown ++
      0x0A :: Text.bytesOf (caretRow f.pos.line
        (Measure.columns (Text.shown ((Text.decode shown).take (f.pos.col - 1)))))) := by
  have inside : ¬ (f.pos.line : Int) < 1 := by omega
  have row : ((f.pos.line : Int) - 1).toNat = f.pos.line - 1 := by omega
  have column : ((f.pos.col : Int) - 1).toNat = f.pos.col - 1 := by omega
  have digits : toString (f.pos.line : Int) = toString f.pos.line := rfl
  have newline (cs : List Char) : Text.bytesOf ('\n' :: cs) = 0x0A :: Text.bytesOf cs := rfl
  have marks : "\n\n ".toList = ['\n', '\n', ' '] ∧ "\n ".toList = ['\n', ' '] := ⟨rfl, rfl⟩
  rw [Fault.written, Snippet.written, if_neg inside, row, line]
  simp only [marks, List.cons_append, List.nil_append, newline, digits, Snippet.caretCell, column, sourceRow, gutter,
    caretRow, Fault.message, List.append_assoc, String.length_toList]

/-- What a reader sees of it. -/
theorem toList_diagnostic [Measure] {f : Fault} {src : Source} {shown : List UInt8} (first : 1 ≤ f.pos.line)
    (line : (Snippet.sourceLines (src.flatMap Scalar.bytes))[f.pos.line - 1]? = some shown) :
    (f.diagnostic src).toList = f.message.toList ++ '\n' :: '\n' ::
      (gutter f.pos.line ++ (Text.decode shown).map Scalar.char ++ '\n' :: caretRow f.pos.line
        (Measure.columns (Text.shown ((Text.decode shown).take (f.pos.col - 1))))) := by
  have chars (cs : List Char) : (cs.map Scalar.ofChar).map Scalar.char = cs := by
    rw [List.map_map]
    exact List.map_id cs
  have newline : (Scalar.ofChar (Text.asciiChar 0x0A)).char = '\n' := rfl
  have seen : f.diagnostic src = Text.shown (Text.decode (f.written (src.flatMap Scalar.bytes))) := rfl
  rw [seen, written_eq first line, Text.shown, String.toList_ofList, Text.decode_bytesOf_append,
    Text.decode_cons_ascii (by decide), Text.decode_cons_ascii (by decide), Text.decode_append_cons (by decide),
    sourceRow, Text.decode_bytesOf_append, Text.decode_bytesOf]
  simp only [List.map_append, List.map_cons, chars, newline]

theorem notMem_digits {c : Char} (other : c.isDigit = false) (n : Nat) : c ∉ (toString n).toList := by
  rw [Nat.toString_eq_ofList_toDigits, String.toList_ofList]
  intro mem
  rw [Nat.isDigit_of_mem_toDigits (by decide) (by decide) mem] at other
  cases other

theorem notMem_append {c : Char} {s t : String} (first : c ∉ s.toList) (second : c ∉ t.toList) :
    c ∉ (s ++ t).toList := by
  rw [String.toList_append, List.mem_append, not_or]
  exact ⟨first, second⟩

/-- A name has only the characters of names. -/
theorem IsName.notMem {c : Char} {s : String} (name : IsName s) (start : isIdentStart c = false)
    (part : isIdentPart c = false) : c ∉ s.toList := by
  obtain ⟨⟨d, cs, chars, first, parts⟩, -⟩ := name
  rw [chars, List.mem_cons, not_or]
  refine ⟨?_, fun mem => ?_⟩
  · rintro rfl
    cases start.symm.trans first.start
  · cases part.symm.trans (List.all_eq_true.1 parts c mem)

theorem newline_notMem_label (kind : TokenKind) : '\n' ∉ kind.label.toList := by
  cases kind <;> decide

theorem newline_notMem_describe {t : Token} (lit : '\n' ∉ t.lit.toList) : '\n' ∉ t.describe.toList := by
  have quoted : '\n' ∉ ("`" ++ t.lit ++ "`").toList :=
    notMem_append (notMem_append (by decide) lit) (by decide)
  unfold Token.describe
  split
  case h_4 => exact newline_notMem_label _
  all_goals exact quoted

theorem newline_notMem_cause {cause : Cause} (found : ∀ u ∈ cause.found?, '\n' ∉ u.lit.toList) :
    '\n' ∉ cause.message.toList := by
  cases cause with
  | missing slot t =>
    have role : '\n' ∉ slot.role.toList := by cases slot <;> decide
    have expected := notMem_append (c := '\n') (s := "expected ") (by decide) (newline_notMem_label slot.kind)
    have here := notMem_append (notMem_append expected (t := " ") (by decide)) role
    exact notMem_append (notMem_append here (by decide)) (newline_notMem_describe (found t rfl))
  | tooDeep => decide
  | _ t => exact notMem_append (by decide) (newline_notMem_describe (found t rfl))

theorem newline_notMem_message {f : Fault} (found : ∀ u ∈ f.cause.found?, '\n' ∉ u.lit.toList) :
    '\n' ∉ f.message.toList := by
  have line : '\n' ∉ (toString (f.pos.line : Int)).toList := notMem_digits rfl f.pos.line
  have column : '\n' ∉ (toString (f.pos.col : Int)).toList := notMem_digits rfl f.pos.col
  have place := notMem_append (notMem_append (s := "syntax error at ") (by decide) line)
    (t := ":") (by decide)
  exact notMem_append (notMem_append (notMem_append place column) (by decide)) (newline_notMem_cause found)

theorem newline_notMem_bytesOf {cs : List Char} (absent : '\n' ∉ cs) : 0x0A ∉ Text.bytesOf cs :=
  fun mem => absent ((Text.mem_bytesOf_iff (by decide)).1 mem)

theorem newline_notMem_sourceRow (line : Nat) (bytes : List UInt8) (offset : Nat) :
    0x0A ∉ sourceRow line (shownLine bytes offset) := by
  have row : '\n' ∉ gutter line := by
    have digits := notMem_digits (c := '\n') rfl line
    simpa [gutter] using digits
  have within : shownLine bytes offset <+: Text.lineAround 0x0A (bytes.take offset) (bytes.drop offset) :=
    List.rdropWhile_prefix _ _
  have shown : 0x0A ∉ shownLine bytes offset := fun mem => Text.notMem_lineAround _ _ _ (within.subset mem)
  rw [sourceRow, List.mem_append, not_or]
  exact ⟨newline_notMem_bytesOf row, shown⟩

theorem newline_notMem_caretRow (line cells : Nat) : '\n' ∉ caretRow line cells := by
  simp [caretRow, List.mem_replicate]

/-- Whatever bytes a source has and however wide texts are, a fault of it is at a place that the source has: behind a
beginning of it, whose bytes, newlines and last line the place counts. The line of the bytes around its offset has the
scalars around the place when it is read by itself. The diagnostic has four lines: the fault, an empty one, this line
without the carriage returns at its end, and one with a caret as many columns behind the gutter as the shown line has
before the column of the fault. -/
theorem parseSource_diagnostic [Measure] (bytes : List UInt8) {f : Fault}
    (failed : parseSource (Text.decode bytes) = .error f) :
    let shown := shownLine bytes f.pos.offset
    f.pos.offset ≤ bytes.length ∧
      (∃ before after, Text.decode bytes = before ++ after ∧ f.pos = placeAfter before ∧
        Text.decode shown = Text.dropRightWhile (· = .ofChar '\r') (Text.lineAround (.ofChar '\n') before after)) ∧
      Text.splitAt 0x0A (f.written bytes) =
        [Text.bytesOf f.message.toList, [], sourceRow f.pos.line shown, Text.bytesOf (caretRow f.pos.line
          (Measure.columns (Text.shown ((Text.decode shown).take (f.pos.col - 1)))))] := by
  have genuine := Text.genuine_of_mem_decode bytes
  obtain ⟨t, mem, blames, -⟩ := parseSource_blames genuine failed
  obtain ⟨before, after, read, at'⟩ := exists_place genuine mem
  have place : f.pos = placeAfter before := blames.pos.trans at'
  have message : '\n' ∉ f.message.toList :=
    newline_notMem_message fun u found => blames.found u found ▸ newline_notMem_lit mem
  have line := sourceLines_place read
  have first : 1 ≤ (placeAfter before).line := Nat.le_add_right 1 _
  rw [← place] at line first
  refine ⟨?offset, ⟨before, after, read, place, place ▸ decode_shownLine read⟩, ?lines⟩
  case offset =>
    have size := byteSize_eq (Text.decode bytes)
    rw [Text.decode_bytes, read, byteSize_append] at size
    rw [place, placeAfter, ← size]
    exact Nat.le_add_right _ _
  case lines =>
    rw [written_eq first line, Text.splitAt_append_cons (newline_notMem_bytesOf message),
      ← List.nil_append (0x0A :: _), Text.splitAt_append_cons List.not_mem_nil,
      Text.splitAt_append_cons (newline_notMem_sourceRow _ _ _),
      Text.splitAt_of_notMem (newline_notMem_bytesOf (newline_notMem_caretRow _ _))]

/-- A wide character, a comment with a byte that belongs to no character, and a carriage return: the binding lacks its
value at the end of the line, and the caret stands below the end of the line without the carriage return. -/
theorem parseSource_diagnostic_wide :
    letI := Text.terminal
    let bytes : List UInt8 :=
      [0x78, 0x0A, 0x6C, 0x65, 0x74, 0x20, 0xE4, 0xB8, 0x96, 0x20, 0x3D, 0x20, 0x2D, 0x2D, 0xFF, 0x0D]
    let f : Fault := ⟨⟨16, 2, 13⟩, .noTerm (.atEnd ⟨16, 2, 13⟩)⟩
    let shown := shownLine bytes f.pos.offset
    parseSource (Text.decode bytes) = .error f ∧ f.pos.offset ≤ bytes.length ∧
      (∃ before after, Text.decode bytes = before ++ after ∧ f.pos = placeAfter before ∧
        Text.decode shown = Text.dropRightWhile (· = .ofChar '\r') (Text.lineAround (.ofChar '\n') before after)) ∧
      Text.splitAt 0x0A (f.written bytes) =
        [Text.bytesOf f.message.toList, [], sourceRow f.pos.line shown, Text.bytesOf (caretRow f.pos.line
          (Measure.columns (Text.shown ((Text.decode shown).take (f.pos.col - 1)))))] := by
  let : Measure := Text.terminal
  intro bytes f shown
  have failed : parseSource (Text.decode bytes) = .error f := by decide +kernel
  exact ⟨failed, parseSource_diagnostic _ failed⟩

end TermBot.Surface

import Mathlib.Data.Bool.AllAny
import Mathlib.Data.List.Basic
import TermBot.Bot.Card
import TermBot.Pipeline.Trim

/-!
# Unwrapping what users paste

Trimming a message takes off every supported wrapping: blanks, one or two backticks, a fenced block with a tag and
either line end (`trimInput_wrapped`). The three steps of it take characters of one kind off both ends, so each
stops at the first and at the last character of another kind (`Firm.trimWhile`). What is left of a tag's line is
gone because a tag stands between the backticks and a line end (`dropTag_tag`), where the term never begins.
-/

namespace TermBot.Pipeline

open Text

variable {p q : Char → Bool} {u v x y cs mid s tag : List Char} {c : Char} {k m : Nat}

/-- The text has a first and a last character, and neither satisfies `p`. -/
structure Firm (p : Char → Bool) (cs : List Char) : Prop where
  first : ∃ c ∈ cs.head?, p c = false
  last : ∃ c ∈ cs.getLast?, p c = false

theorem dropWhile_of_first (before : ∀ c ∈ u, p c) (first : ∃ c ∈ cs.head?, p c = false) (rest : List Char) :
    (u ++ cs ++ rest).dropWhile p = cs ++ rest := by
  obtain ⟨c, head, other⟩ := first
  obtain ⟨cs, rfl⟩ := List.head?_eq_some_iff.1 head
  rw [List.append_assoc, List.dropWhile_append_of_pos before, List.cons_append,
    List.dropWhile_cons_of_neg (by rw [other]; exact Bool.false_ne_true)]

theorem dropRightWhile_of_last (last : ∃ c ∈ cs.getLast?, p c = false) (after : ∀ c ∈ v, p c) :
    dropRightWhile p (cs ++ v) = cs := by
  rw [← List.head?_reverse] at last
  have back := dropWhile_of_first (u := v.reverse) (fun c mem => after c (List.mem_reverse.1 mem)) last []
  rw [List.append_nil, List.append_nil] at back
  rw [dropRightWhile, List.reverse_append, back, List.reverse_reverse]

/-- The characters around a firm text are dropped, and the text stays. -/
theorem Firm.trimWhile (firm : Firm p cs) (before : ∀ c ∈ u, p c) (after : ∀ c ∈ v, p c) :
    trimWhile p (u ++ cs ++ v) = cs := by
  rw [Text.trimWhile, dropWhile_of_first before firm.first, dropRightWhile_of_last firm.last after]

theorem Firm.imp (firm : Firm p cs) (weaker : ∀ c, p c = false → q c = false) : Firm q cs := by
  obtain ⟨⟨c, head, first⟩, ⟨d, tail, last⟩⟩ := firm
  exact ⟨⟨c, head, weaker c first⟩, ⟨d, tail, weaker d last⟩⟩

/-- A firm text stays firm between others whose ends do not satisfy `p` either. -/
theorem Firm.append (firm : Firm p cs) (before : ∀ c ∈ u.head?, p c = false)
    (after : ∀ c ∈ v.getLast?, p c = false) : Firm p (u ++ cs ++ v) := by
  obtain ⟨⟨c, head, first⟩, ⟨d, tail, last⟩⟩ := firm
  constructor
  case first =>
    cases u with
    | nil => exact ⟨c, by simp [Option.mem_def.1 head], first⟩
    | cons e u => exact ⟨e, rfl, before e rfl⟩
  case last =>
    cases ends : v.getLast? with
    | none => exact ⟨d, by simp [ends, Option.mem_def.1 tail], last⟩
    | some e => exact ⟨e, by simp [ends], after e ends⟩

/-- What is removed around a term: blanks and backticks. -/
def isWrapping (c : Char) : Bool := isBlank c || c = '`'

theorem isBlank_of_isWrapping (c : Char) (other : isWrapping c = false) : isBlank c = false :=
  (Bool.or_eq_false_iff.1 other).1

theorem ne_tick_of_isWrapping (c : Char) (other : isWrapping c = false) : decide (c = '`') = false :=
  (Bool.or_eq_false_iff.1 other).2

theorem isBlank_tick : isBlank '`' = false := by decide

theorem ne_tick_of_isBlank (blank : isBlank c) : decide (c = '`') = false := by
  rw [decide_eq_false_iff_not]
  rintro rfl
  rw [isBlank_tick] at blank
  exact Bool.false_ne_true blank

/-- Some backticks. -/
def ticks (k : Nat) : List Char := List.replicate k '`'

theorem eq_tick_of_mem_ticks (mem : c ∈ ticks k) : decide (c = '`') = true :=
  decide_eq_true (List.eq_of_mem_replicate mem)

/-- Three backticks or more open a fenced block, and fewer do not. -/
theorem isFenced_ticks (other : c ≠ '`') : isFenced (ticks k ++ c :: cs) = decide (3 ≤ k) := by
  have stop : ('`' == c) = false := beq_false_of_ne other.symm
  match k with
  | 0 | 1 | 2 => simp [ticks, isFenced, List.replicate_succ, List.isPrefixOf, stop]
  | k + 3 => simp [ticks, isFenced, List.replicate_succ]

/-- The blanks before the closing backticks stay when there is a backtick to stop at. -/
def kept (m : Nat) (y : List Char) : List Char := if m = 0 then [] else y

theorem mem_of_mem_kept (mem : c ∈ kept m y) : c ∈ y := by
  unfold kept at mem
  split at mem
  · exact absurd mem List.not_mem_nil
  · exact mem

/-- Removing the blanks at the ends leaves the backticks with what is between them. -/
theorem trimBlanks_ticks (some : 0 < k) (before : ∀ c ∈ u, isBlank c) (inner : ∀ c ∈ y, isBlank c)
    (after : ∀ c ∈ v, isBlank c) (last : ∃ c ∈ mid.getLast?, isBlank c = false) :
    trimBlanks (u ++ ticks k ++ mid ++ y ++ ticks m ++ v) = ticks k ++ (mid ++ kept m y) ++ ticks m := by
  have first : ∀ rest, ∃ c ∈ (ticks k ++ rest).head?, isBlank c = false := fun rest => by
    obtain ⟨k, rfl⟩ := Nat.exists_eq_add_of_lt some
    exact ⟨'`', rfl, isBlank_tick⟩
  obtain ⟨c, ends, unblank⟩ := last
  cases m with
  | zero =>
    have firm : Firm isBlank (ticks k ++ mid) := ⟨first mid, c, by simp [Option.mem_def.1 ends], unblank⟩
    have blank : ∀ c ∈ y ++ v, isBlank c := fun c mem => (List.mem_append.1 mem).elim (inner c) (after c)
    simpa [trimBlanks, ticks, kept] using firm.trimWhile before blank
  | succ m =>
    have firm : Firm isBlank (ticks k ++ (mid ++ y ++ ticks (m + 1))) :=
      ⟨first _, '`', by simp [ticks, List.replicate_succ'], isBlank_tick⟩
    simpa [trimBlanks, kept] using firm.trimWhile before after

/-- What a message is trimmed to when it has its backticks around `mid`. -/
theorem trimChars_ticks (some : 0 < k) (before : ∀ c ∈ u, isBlank c) (inner : ∀ c ∈ y, isBlank c)
    (after : ∀ c ∈ v, isBlank c) (first : ∃ c ∈ mid.head?, c ≠ '`')
    (last : ∃ c ∈ mid.getLast?, isWrapping c = false) :
    trimChars (u ++ ticks k ++ mid ++ y ++ ticks m ++ v) =
      trimBlanks (if 3 ≤ k then dropTag (mid ++ kept m y) else mid ++ kept m y) := by
  obtain ⟨d, ends, other⟩ := last
  obtain ⟨c, head, ntick⟩ := first
  have outer := trimBlanks_ticks (m := m) some before inner after ⟨d, ends, isBlank_of_isWrapping d other⟩
  have firm : Firm (fun c => decide (c = '`')) ([] ++ mid ++ kept m y) := by
    refine Firm.append ⟨⟨c, head, decide_eq_false ntick⟩, d, ends, ne_tick_of_isWrapping d other⟩ nofun ?_
    exact fun c mem => ne_tick_of_isBlank (inner c (mem_of_mem_kept (List.mem_of_getLast? mem)))
  have fenced : isFenced (ticks k ++ (mid ++ kept m y) ++ ticks m) = decide (3 ≤ k) := by
    obtain ⟨mid, rfl⟩ := List.head?_eq_some_iff.1 head
    rw [List.append_assoc, List.cons_append, List.cons_append, isFenced_ticks ntick]
  have body : trimWhile (fun c => decide (c = '`')) (ticks k ++ (mid ++ kept m y) ++ ticks m) = mid ++ kept m y :=
    firm.trimWhile (fun c => eq_tick_of_mem_ticks) (fun c => eq_tick_of_mem_ticks)
  simp only [trimChars, outer, fenced, body, decide_eq_true_eq]

theorem isTagChar_lineFeed : isTagChar '\n' = false := by decide

theorem isTagChar_return : isTagChar '\r' = false := by decide

theorem isTagChar_tick : isTagChar '`' = false := by decide

theorem ne_of_isTagChar {d : Char} (other : isTagChar d = false) (word : isTagChar c) : c ≠ d := by
  rintro rfl
  rw [other] at word
  exact Bool.false_ne_true word

/-- The ends of a line that a fenced block may have. -/
def lineEnds : List (List Char) := [['\n'], ['\r', '\n']]

/-- The line of a tag goes with its end; an opening line without a tag has only its end, which is blank. -/
theorem dropTag_line (word : ∀ c ∈ tag, isTagChar c) (back : cs = [] ∨ cs = ['\r']) (rest : List Char) :
    dropTag (tag ++ cs ++ '\n' :: rest) = if tag = [] then cs ++ '\n' :: rest else rest := by
  have inside : ∀ c ∈ tag ++ cs, (decide (c ≠ '\n')) = true := by
    intro c mem
    rw [decide_eq_true_iff]
    rcases List.mem_append.1 mem with mem | mem
    · exact ne_of_isTagChar isTagChar_lineFeed (word c mem)
    · rcases back with rfl | rfl
      · exact absurd mem List.not_mem_nil
      · exact List.mem_singleton.1 mem ▸ by decide
  have line : (tag ++ cs ++ '\n' :: rest).takeWhile (· ≠ '\n') = tag ++ cs := by
    rw [List.takeWhile_append_of_pos inside]
    simp
  have behind : (tag ++ cs ++ '\n' :: rest).dropWhile (· ≠ '\n') = '\n' :: rest := by
    rw [List.dropWhile_append_of_pos inside]
    simp
  rw [dropTag, line, behind]
  cases tag with
  | nil => rcases back with rfl | rfl <;> rfl
  | cons c tag =>
    have returns : ∀ c ∈ cs, decide (c = '\r') = true := by
      rcases back with rfl | rfl <;> simp
    have last : ∃ d ∈ (c :: tag).getLast?, decide (d = '\r') = false :=
      ⟨_, List.getLast?_eq_some_getLast (List.cons_ne_nil c tag),
        decide_eq_false (ne_of_isTagChar isTagChar_return (word _ (List.getLast_mem _)))⟩
    have fence : isFenceTag (c :: tag ++ cs) = true := by
      rw [isFenceTag, dropRightWhile_of_last last returns]
      simpa using word
    simp only [fence, if_true, reduceCtorEq, if_false]

/-- Behind the tag and the end of its line there are only blanks around the term. -/
theorem trimBlanks_dropTag (word : ∀ c ∈ tag, isTagChar c) {lineEnd : List Char} (known : lineEnd ∈ lineEnds)
    (before : ∀ c ∈ x, isBlank c) (after : ∀ c ∈ y, isBlank c) (firm : Firm isBlank s) :
    trimBlanks (dropTag (tag ++ lineEnd ++ x ++ s ++ y)) = s := by
  obtain ⟨cs, back, rfl⟩ : ∃ cs, (cs = [] ∨ cs = ['\r']) ∧ lineEnd = cs ++ ['\n'] := by
    rcases List.mem_pair.1 known with rfl | rfl
    · exact ⟨[], .inl rfl, rfl⟩
    · exact ⟨['\r'], .inr rfl, rfl⟩
  have line := dropTag_line word back (x ++ s ++ y)
  simp only [List.append_assoc, List.cons_append, List.nil_append] at line ⊢
  rw [line, trimBlanks]
  split
  case isTrue =>
    have blank : ∀ c ∈ cs ++ '\n' :: x, isBlank c := by
      have feed : isBlank '\n' = true := by decide
      have ret : isBlank '\r' = true := by decide
      rcases back with rfl | rfl <;> simpa [feed, ret] using before
    simpa using firm.trimWhile blank after
  case isFalse => simpa using firm.trimWhile before after

/-- A bare term is not touched. -/
theorem trimChars_plain (firm : Firm isWrapping s) : trimChars s = s := by
  have same : ∀ {p : Char → Bool}, Firm p s → trimWhile p s = s := fun firm => by
    simpa using firm.trimWhile (List.forall_mem_nil _) (List.forall_mem_nil _)
  have blanks : trimBlanks s = s := same (firm.imp isBlank_of_isWrapping)
  have marks := same (firm.imp ne_tick_of_isWrapping)
  have unfenced : isFenced s = false := by
    obtain ⟨c, head, other⟩ := firm.first
    obtain ⟨cs, rfl⟩ := List.head?_eq_some_iff.1 head
    exact isFenced_ticks (k := 0) (of_decide_eq_false (ne_tick_of_isWrapping c other))
  rw [trimChars, blanks, unfenced, marks]
  exact blanks

/-- One or two backticks with blanks inside and outside them. -/
theorem trimChars_inline (firm : Firm isWrapping s) (few : k = 1 ∨ k = 2) (outside : ∀ c ∈ u, isBlank c)
    (before : ∀ c ∈ x, isBlank c) (after : ∀ c ∈ y, isBlank c) (behind : ∀ c ∈ v, isBlank c) :
    trimChars (u ++ ticks k ++ (x ++ s) ++ y ++ ticks m ++ v) = s := by
  have first : ∃ c ∈ (x ++ s).head?, c ≠ '`' := by
    cases x with
    | nil =>
      obtain ⟨c, head, other⟩ := firm.first
      exact ⟨c, head, of_decide_eq_false (ne_tick_of_isWrapping c other)⟩
    | cons c x => exact ⟨c, rfl, of_decide_eq_false (ne_tick_of_isBlank (before c List.mem_cons_self))⟩
  have last : ∃ c ∈ (x ++ s).getLast?, isWrapping c = false := by
    obtain ⟨c, ends, other⟩ := firm.last
    exact ⟨c, by simp [Option.mem_def.1 ends], other⟩
  rw [trimChars_ticks (by omega) outside after behind first last, if_neg (by omega), trimBlanks]
  exact (firm.imp isBlank_of_isWrapping).trimWhile before fun c mem => after c (mem_of_mem_kept mem)

/-- A fenced block, with a tag or without. -/
theorem trimChars_fenced (firm : Firm isWrapping s) (many : 3 ≤ k) (word : ∀ c ∈ tag, isTagChar c)
    {lineEnd : List Char} (known : lineEnd ∈ lineEnds) (outside : ∀ c ∈ u, isBlank c)
    (before : ∀ c ∈ x, isBlank c) (after : ∀ c ∈ y, isBlank c) (behind : ∀ c ∈ v, isBlank c) :
    trimChars (u ++ ticks k ++ (tag ++ lineEnd ++ x ++ s) ++ y ++ ticks m ++ v) = s := by
  have first : ∃ c ∈ (tag ++ lineEnd ++ x ++ s).head?, c ≠ '`' := by
    cases tag with
    | nil => rcases List.mem_pair.1 known with rfl | rfl <;> exact ⟨_, rfl, by decide⟩
    | cons c tag => exact ⟨c, rfl, ne_of_isTagChar isTagChar_tick (word c List.mem_cons_self)⟩
  have last : ∃ c ∈ (tag ++ lineEnd ++ x ++ s).getLast?, isWrapping c = false := by
    obtain ⟨c, ends, other⟩ := firm.last
    exact ⟨c, by simp [Option.mem_def.1 ends], other⟩
  rw [trimChars_ticks (by omega) outside after behind first last, if_pos many]
  exact trimBlanks_dropTag word known before (fun c mem => after c (mem_of_mem_kept mem))
    (firm.imp isBlank_of_isWrapping)

/-- Only blanks. -/
def Blank (u : String) : Prop := ∀ c ∈ u.toList, isBlank c

/-- A word that may name a language; it may be empty. -/
def IsTag (tag : String) : Prop := ∀ c ∈ tag.toList, isLetter c ∨ isDigit c ∨ c ∈ ['+', '-', '_', '#']

theorem IsTag.isTagChar {tag : String} (word : IsTag tag) : ∀ c ∈ tag.toList, isTagChar c := by
  intro c mem
  have known := word c mem
  simp only [List.mem_cons, List.not_mem_nil, or_false] at known
  simp only [Pipeline.isTagChar, Bool.or_eq_true, decide_eq_true_eq]
  tauto

/-- A text with some backticks. -/
def tickMarks (k : Nat) : String := String.ofList (ticks k)

theorem trimInput_eq {raw s : String} {cs : List Char} (shape : raw.toList = cs) (trimmed : trimChars cs = s.toList) :
    trimInput raw = s := by
  rw [trimInput, shape, trimmed, String.ofList_toList]

/-- A block of code is a fenced block without a tag. -/
theorem toList_codeBlock {s : String} (short : s.utf8ByteSize ≤ 4088) :
    (Bot.codeBlock s).toList = [] ++ ticks 3 ++ ([] ++ ['\n'] ++ [] ++ s.toList) ++ ['\n'] ++ ticks 3 ++ [] := by
  have whole : Bot.clipTo (Bot.maxDescription - Bot.fenceOpen.utf8ByteSize - Bot.fenceClose.utf8ByteSize) s = s :=
    if_pos short
  rw [Bot.codeBlock, whole]
  simp [Bot.fenceOpen, Bot.fenceClose, ticks]

/-- Blanks and backticks that stand inside a term are kept: a text that neither starts nor ends with one of them
comes back as it is, out of the block of code that shows it, from between one or two backticks, and out of a fenced
block with or without a tag. The opening and the closing backticks need not be equally many, and the closing ones
may be missing. -/
theorem trimInput_wrapped {s : String} (bare : Firm isWrapping s.toList) :
    trimInput s = s ∧
    (s.utf8ByteSize ≤ 4088 → trimInput (Bot.codeBlock s) = s) ∧
    ∀ u v x y : String, Blank u → Blank v → Blank x → Blank y → ∀ k m,
      (k = 1 ∨ k = 2 → trimInput (u ++ tickMarks k ++ x ++ s ++ y ++ tickMarks m ++ v) = s) ∧
      ∀ tag lineEnd, 3 ≤ k → IsTag tag → lineEnd = "\n" ∨ lineEnd = "\r\n" →
        trimInput (u ++ tickMarks k ++ tag ++ lineEnd ++ x ++ s ++ y ++ tickMarks m ++ v) = s := by
  refine ⟨trimInput_eq rfl (trimChars_plain bare), fun short => ?block,
    fun u v x y outside behind before after k m => ⟨fun few => ?inline, ?fenced⟩⟩
  case block =>
    have feed : ∀ c ∈ ['\n'], isBlank c := List.forall_mem_singleton.2 (by decide)
    exact trimInput_eq (toList_codeBlock short) (trimChars_fenced bare (Nat.le_refl 3) (List.forall_mem_nil _)
      (List.mem_cons_self ..) (List.forall_mem_nil _) (List.forall_mem_nil _) feed (List.forall_mem_nil _))
  case inline =>
    exact trimInput_eq (by simp [tickMarks]) (trimChars_inline (m := m) bare few outside before after behind)
  case fenced =>
    intro tag lineEnd many word known
    have ends : lineEnd.toList ∈ lineEnds := by rcases known with rfl | rfl <;> decide
    exact trimInput_eq (by simp [tickMarks])
      (trimChars_fenced (m := m) bare many word.isTagChar ends outside before after behind)

/-- A term whose first word could be a tag stays whole in a block with another tag. -/
theorem trimInput_wrapped_words :
    trimInput (Bot.codeBlock "f x") = "f x" ∧ trimInput "\t```c++\r\n f x\n\n``" = "f x" := by
  have bare : Firm isWrapping "f x".toList :=
    ⟨⟨'f', rfl, by decide⟩, ⟨'x', rfl, by decide⟩⟩
  obtain ⟨-, block, wrapped⟩ := trimInput_wrapped bare
  have blank : Blank "\t" ∧ Blank "" ∧ Blank " " ∧ Blank "\n\n" := by
    simp only [Blank, ← List.all_eq_true]
    decide
  have word : IsTag "c++" := by
    simp only [IsTag, ← List.all_iff_forall_prop]
    decide
  obtain ⟨outside, behind, before, after⟩ := blank
  have fenced := (wrapped "\t" "" " " "\n\n" outside behind before after 3 2).2 "c++" "\r\n" (Nat.le_refl 3) word
    (.inr rfl)
  exact ⟨block (by decide), fenced⟩

end TermBot.Pipeline

import Mathlib.Data.List.Infix
import TermBot.Bot.Card
import TermBot.Proofs.Render.Ticks

/-!
# Fences

Three backticks in a row open a block of code and close it again. A fence has nothing but backticks in it, so it is
in one of the pieces where a text is cut at any other character (`fence_infix_append_cons`). A block of code is cut
so behind its opening line and before its closing one: it ends at its last line just if there is no fence in the text
that it shows (`closesOnce_codeBlock`). Of what a diagnostic says only two things are the user's, the character or
word that it quotes between backticks, and the line that it shows. A quoted word has no backtick, and a quoted
backtick makes a fence with those around it (`fenced_diagnostic`).
-/

namespace TermBot

namespace Text

/-- Three backticks. -/
def fence : List Char := ['`', '`', '`']

/-- There is a fence in the text. -/
def Fenced (s : String) : Prop := fence <:+: s.toList

instance (s : String) : Decidable (Fenced s) := inferInstanceAs (Decidable (fence <:+: s.toList))

variable {a b cs : List Char} {c : Char} {s t : String}

theorem fence_prefix_append_cons (other : c ≠ '`') : fence <+: a ++ c :: b ↔ fence <+: a := by
  match a with
  | [] | [_] | [_, _] | _ :: _ :: _ :: _ => simp [fence, other.symm]

/-- A fence is on one side of any other character. -/
theorem fence_infix_append_cons (other : c ≠ '`') : fence <:+: a ++ c :: b ↔ fence <:+: a ∨ fence <:+: b := by
  induction a with
  | nil =>
    have start : ¬ fence <+: [] ++ c :: b := by
      rw [fence_prefix_append_cons other]
      decide
    have empty : ¬ fence <:+: [] := by decide
    rw [List.nil_append] at start ⊢
    rw [List.infix_cons_iff, or_iff_right start, or_iff_right empty]
  | cons d a ih =>
    rw [List.cons_append, List.infix_cons_iff, ih, List.infix_cons_iff, ← List.cons_append,
      fence_prefix_append_cons other, or_assoc]

theorem fence_infix_cons (other : c ≠ '`') : fence <:+: c :: b ↔ fence <:+: b := by
  have cut := fence_infix_append_cons (a := []) (b := b) other
  rwa [List.nil_append, or_iff_right (by decide)] at cut

theorem fence_infix_concat (other : c ≠ '`') : fence <:+: a ++ [c] ↔ fence <:+: a := by
  rw [fence_infix_append_cons other, or_iff_left (by decide)]

theorem not_fence_infix_of_count (few : cs.count '`' < 3) : ¬ fence <:+: cs := fun inside =>
  absurd (inside.sublist.count_le '`') (Nat.not_le.2 few)

theorem not_fence_infix_of_notMem (none : '`' ∉ cs) : ¬ fence <:+: cs := fun inside =>
  none (inside.subset List.mem_cons_self)

theorem not_fenced_of_count (few : s.toList.count '`' < 3) : ¬ Fenced s := not_fence_infix_of_count few

theorem Unticked.not_fenced (unticked : Unticked s) : ¬ Fenced s := not_fence_infix_of_notMem unticked

theorem getLast?_toList_append (last : t.toList.getLast? = some c) : (s ++ t).toList.getLast? = some c := by
  rw [String.toList_append, List.getLast?_append, last, Option.some_or]

/-- A text that ends in another character than a backtick has its fences apart from those of what follows. -/
theorem fenced_append (last : s.toList.getLast? = some c) (other : c ≠ '`') :
    Fenced (s ++ t) ↔ Fenced s ∨ Fenced t := by
  obtain ⟨front, shape⟩ := List.getLast?_eq_some_iff.1 last
  rw [Fenced, Fenced, Fenced, String.toList_append, shape, List.append_assoc, List.singleton_append,
    fence_infix_append_cons other, fence_infix_concat other]

end Text

open Text (fence Fenced Unticked fence_infix_append_cons fence_infix_cons fence_infix_concat)

/-! ## Blocks of code -/

namespace Bot

variable {n : Nat} {s : String}

/-- A fence opens the block and one closes it, and no fence behind the opening one has anything behind it. -/
def ClosesOnce (block : String) : Prop :=
  (∃ body, block.toList = fence ++ (body ++ fence)) ∧
    ∀ inside rest, block.toList = fence ++ (inside ++ (fence ++ rest)) → rest = []

theorem fitting_isPrefix (n : Nat) (cs : List Char) : fitting n cs <+: cs := by
  induction cs generalizing n with
  | nil => exact List.prefix_rfl
  | cons c cs ih =>
    rw [fitting]
    split
    · exact List.cons_prefix_cons.2 ⟨rfl, ih _⟩
    · exact List.nil_prefix

/-- Cutting a text off makes no fence in it. -/
theorem fenced_of_clipTo (fenced : Fenced (clipTo n s)) : Fenced s := by
  rw [clipTo] at fenced
  split at fenced
  · exact fenced
  · rw [Fenced, String.toList_ofList, fence_infix_concat (by decide)] at fenced
    exact fenced.trans (fitting_isPrefix _ _).isInfix

theorem toList_block (s : String) :
    (codeBlock s).toList = fence ++ ('\n' :: (clipTo 4088 s).toList ++ '\n' :: fence) := by
  have room : maxDescription - fenceOpen.utf8ByteSize - fenceClose.utf8ByteSize = 4088 := by decide
  rw [codeBlock, room]
  simp [fenceOpen, fenceClose, fence]

/-- A block of code ends at its last line just if the text that it shows has no fence. -/
theorem closesOnce_codeBlock : ClosesOnce (codeBlock s) ↔ ¬ Fenced (clipTo 4088 s) := by
  rw [ClosesOnce, toList_block]
  constructor
  case mp =>
    rintro ⟨-, closed⟩ ⟨before, after, shape⟩
    have behind : after ++ '\n' :: fence = [] := closed ('\n' :: before) _ (by rw [← shape]; simp)
    simp at behind
  case mpr =>
    refine fun plain => ⟨⟨'\n' :: (clipTo 4088 s).toList ++ ['\n'], by simp⟩, fun inside rest shape => ?_⟩
    -- a fence with something behind it would be there without the last backtick too
    rcases List.eq_nil_or_concat rest with none | ⟨front, last, rfl⟩
    · exact none
    have whole : (inside ++ fence ++ front) ++ [last] =
        ('\n' :: (clipTo 4088 s).toList ++ '\n' :: ['`', '`']) ++ ['`'] := by
      simpa [fence] using (List.append_cancel_left shape).symm
    have found : fence <:+: '\n' :: (clipTo 4088 s).toList ++ '\n' :: ['`', '`'] :=
      ⟨inside, front, (List.append_inj' whole rfl).1⟩
    rw [fence_infix_append_cons (by decide), fence_infix_cons (by decide), or_iff_left (by decide)] at found
    exact absurd found plain

theorem utf8ByteSize_fitting (n : Nat) (cs : List Char) : (String.ofList (fitting n cs)).utf8ByteSize ≤ n := by
  induction cs generalizing n with
  | nil => exact Nat.zero_le n
  | cons c cs ih =>
    rw [fitting]
    split
    · have others := ih (n - c.utf8Size)
      rw [String.ofList_cons, String.utf8ByteSize_append, String.utf8ByteSize_singleton]
      omega
    · exact Nat.zero_le n

theorem utf8ByteSize_clipTo (room : ellipsis.utf8Size ≤ n) : (clipTo n s).utf8ByteSize ≤ n := by
  rw [clipTo]
  split
  · assumption
  · have start := utf8ByteSize_fitting (n - ellipsis.utf8Size) s.toList
    have last : (String.ofList [ellipsis]).utf8ByteSize = ellipsis.utf8Size := by decide
    rw [String.ofList_append, String.utf8ByteSize_append, last]
    omega

/-- A card has room for a whole block of code. -/
theorem clip_codeBlock (s : String) : clip (codeBlock s) = codeBlock s := by
  have inner : (clipTo 4088 s).utf8ByteSize ≤ 4088 := utf8ByteSize_clipTo (by decide)
  have marks : fenceOpen.utf8ByteSize = 4 ∧ fenceClose.utf8ByteSize = 4 := by decide
  refine if_pos ?_
  rw [codeBlock, String.utf8ByteSize_append, String.utf8ByteSize_append, marks.1, marks.2]
  exact Nat.add_le_add_right (Nat.add_le_add_left inner 4) 4

theorem closesOnce_of_not_fenced (plain : ¬ Fenced s) : ClosesOnce (codeBlock s) :=
  closesOnce_codeBlock.2 fun fenced => plain (fenced_of_clipTo fenced)

end Bot

/-! ## Diagnostics -/

namespace Surface

variable {t : Token} {f : Fault} {src : Source}

/-- What the diagnostic quotes makes a fence: the token that it names is a backtick, or the line that it shows has
three of them in a row. -/
def Fault.QuotesFence (f : Fault) (src : Source) : Prop :=
  (∃ t ∈ f.cause.found?, t.lit = "`") ∨
    ∃ shown ∈ (Snippet.sourceLines (src.flatMap Text.Scalar.bytes))[f.pos.line - 1]?,
      fence <:+: (Text.decode shown).map Text.Scalar.char

/-- A token that has a backtick in it is a single one, which starts no other token. -/
def Token.Plain (t : Token) : Prop := '`' ∈ t.lit.toList → t.kind = .illegal ∧ t.lit = "`"

theorem not_fenced_label (kind : TokenKind) : ¬ Fenced kind.label := by
  cases kind <;> decide

theorem fenced_describe (plain : t.Plain) : Fenced t.describe ↔ t.lit = "`" := by
  have quoted : Fenced ("`" ++ t.lit ++ "`") ↔ t.lit = "`" := by
    constructor
    case mpr =>
      intro tick
      rw [tick]
      decide
    case mp =>
      refine fun fenced => by_contra fun other => ?_
      have none : t.lit.toList.count '`' = 0 := List.count_eq_zero.2 fun tick => other (plain tick).2
      refine Text.not_fence_infix_of_count ?_ fenced
      simp [none]
  have legal (kind : t.kind ≠ .illegal) : t.lit ≠ "`" := fun tick => kind (plain (by rw [tick]; decide)).1
  unfold Token.describe
  split
  case h_4 kind _ _ illegal => exact iff_of_false (not_fenced_label _) (legal illegal)
  all_goals exact quoted

/-- The only fence in the wording of a cause is a quoted backtick. -/
theorem fenced_cause {cause : Cause} (plain : ∀ t ∈ cause.found?, t.Plain) :
    Fenced cause.message ↔ ∃ t ∈ cause.found?, t.lit = "`" := by
  have named {before : String} {t : Token} (last : before.toList.getLast? = some ' ')
      (few : before.toList.count '`' < 3) (this : t.Plain) :
      Fenced (before ++ t.describe) ↔ ∃ u ∈ some t, u.lit = "`" := by
    rw [Text.fenced_append last (by decide), or_iff_right (Text.not_fenced_of_count few), fenced_describe this]
    simp
  cases cause with
  | missing slot t =>
    refine named (Text.getLast?_toList_append (by simp)) ?_ (plain t rfl)
    simp only [String.toList_append, List.count_append]
    cases slot <;> decide
  | tooDeep => decide
  | _ t => exact named (by simp) (by decide) (plain t rfl)

theorem fenced_message (plain : ∀ t ∈ f.cause.found?, t.Plain) :
    Fenced f.message ↔ ∃ t ∈ f.cause.found?, t.lit = "`" := by
  have line : Unticked (toString (f.pos.line : Int)) := Text.unticked_digits f.pos.line
  have column : Unticked (toString (f.pos.col : Int)) := Text.unticked_digits f.pos.col
  have place : Unticked s!"syntax error at {(f.pos.line : Int)}:{(f.pos.col : Int)}: " :=
    (((Unticked.append (s := "syntax error at ") (by decide) line).append (by decide)).append column).append
      (by decide)
  have cut : Fenced f.message ↔
      Fenced s!"syntax error at {(f.pos.line : Int)}:{(f.pos.col : Int)}: " ∨ Fenced f.cause.message :=
    Text.fenced_append (c := ' ') (Text.getLast?_toList_append (by decide)) (by decide)
  rw [cut, or_iff_right place.not_fenced, fenced_cause plain]

theorem fence_infix_gutter (line : Nat) (shown : List Char) : fence <:+: gutter line ++ shown ↔ fence <:+: shown := by
  have number : '`' ∉ ' ' :: (toString line).toList ++ [' ', '|'] := by
    have digits := Text.unticked_digits line
    simpa [Unticked] using digits
  have row : gutter line ++ shown = ' ' :: (toString line).toList ++ [' ', '|'] ++ ' ' :: shown := by
    simp [gutter]
  rw [row, fence_infix_append_cons (by decide), or_iff_right (Text.not_fence_infix_of_notMem number)]

theorem tick_notMem_caretRow (line cells : Nat) : '`' ∉ caretRow line cells := by
  simp [caretRow, List.mem_replicate]

/-- A diagnostic has a fence in it just if it quotes one. -/
theorem fenced_diagnostic [Text.Measure] (settled : Text.Settled src) (failed : parseSource src = .error f) :
    Fenced (f.diagnostic src) ↔ f.QuotesFence src := by
  have genuine : ∀ r ∈ src, r.Genuine := settled ▸ Text.genuine_of_mem_decode _
  obtain ⟨t, mem, blames, -⟩ := parseSource_blames genuine failed
  obtain ⟨before, after, parts, here⟩ := exists_place genuine mem
  have place : f.pos = placeAfter before := blames.pos.trans here
  have plain : ∀ u ∈ f.cause.found?, u.Plain := fun u found => blames.found u found ▸ lit_of_tick mem
  have line := sourceLines_place (settled.trans parts)
  have first : 1 ≤ (placeAfter before).line := Nat.le_add_right 1 _
  rw [← place] at line first
  rw [Fenced, toList_diagnostic first line, fence_infix_append_cons (by decide), fence_infix_cons (by decide),
    fence_infix_append_cons (by decide), fence_infix_gutter,
    or_iff_left (Text.not_fence_infix_of_notMem (tick_notMem_caretRow _ _)), Fault.QuotesFence, line]
  refine or_congr (fenced_message plain) ?_
  simp

end Surface

end TermBot

import TermBot.Text.Ranges

/-!
# Blanks

The characters with the White_Space property, and texts with the blanks at their ends removed.
-/

namespace TermBot.Text

/-- The ranges of blank characters. -/
def blankRanges : Ranges :=
  [(0x9, 0xD), (0x20, 0x20), (0x85, 0x85), (0xA0, 0xA0), (0x1680, 0x1680), (0x2000, 0x200A),
   (0x2028, 0x2029), (0x202F, 0x202F), (0x205F, 0x205F), (0x3000, 0x3000)]

/-- A blank of any width, line ends included. -/
def isBlank (c : Char) : Bool := blankRanges.covers c.toNat

/-- Drops what satisfies `p` from the end. -/
def dropRightWhile {α : Type} (p : α → Bool) (cs : List α) : List α :=
  (cs.reverse.dropWhile p).reverse

/-- Drops the characters that satisfy `p` from both ends. -/
def trimWhile (p : Char → Bool) (cs : List Char) : List Char :=
  dropRightWhile p (cs.dropWhile p)

/-- Drops the blanks from both ends. -/
def trimBlanks (cs : List Char) : List Char := trimWhile isBlank cs

/-- The text without the blanks at its ends. -/
def trim (s : String) : String := String.ofList (trimBlanks s.toList)

section Pieces

variable {α : Type}

/-- Puts `sep` between the pieces. -/
def joinWith (sep : α) : List (List α) → List α
  | [] => []
  | [piece] => piece
  | piece :: pieces => piece ++ sep :: joinWith sep pieces

variable [DecidableEq α]

/-- What stands between the occurrences of `sep`; there is one piece more than occurrences. -/
def splitAt (sep : α) : List α → List (List α)
  | [] => [[]]
  | c :: rest =>
    if c = sep then [] :: splitAt sep rest
    else
      match splitAt sep rest with
      | [] => [[c]]
      | piece :: pieces => (c :: piece) :: pieces

theorem splitAt_ne_nil (sep : α) (cs : List α) : splitAt sep cs ≠ [] := by
  induction cs with
  | nil => simp [splitAt]
  | cons c rest ih =>
    simp only [splitAt]
    split
    · simp
    · split <;> simp

theorem splitAt_append_cons {sep : α} {cs rest : List α} (absent : sep ∉ cs) :
    splitAt sep (cs ++ sep :: rest) = cs :: splitAt sep rest := by
  induction cs with
  | nil => rw [List.nil_append, splitAt, if_pos rfl]
  | cons c cs ih =>
    obtain ⟨other, absent⟩ := List.ne_and_not_mem_of_not_mem_cons absent
    rw [List.cons_append, splitAt, if_neg other.symm, ih absent]

example : splitAt ',' ['a', ',', ',', 'b'] = [['a'], [], ['b']] := by cbv

theorem splitAt_of_notMem {sep : α} {cs : List α} (absent : sep ∉ cs) : splitAt sep cs = [cs] := by
  induction cs with
  | nil => rfl
  | cons c cs ih =>
    obtain ⟨other, absent⟩ := List.ne_and_not_mem_of_not_mem_cons absent
    rw [splitAt, if_neg other.symm, ih absent]

/-- What stands before the first occurrence of `sep` goes to the first piece. -/
theorem splitAt_append {sep : α} {cs rest piece : List α} {pieces : List (List α)} (absent : sep ∉ cs)
    (split : splitAt sep rest = piece :: pieces) : splitAt sep (cs ++ rest) = (cs ++ piece) :: pieces := by
  induction cs with
  | nil => exact split
  | cons c cs ih =>
    obtain ⟨other, absent⟩ := List.ne_and_not_mem_of_not_mem_cons absent
    rw [List.cons_append, splitAt, if_neg other.symm, ih absent]
    rfl

theorem notMem_of_mem_splitAt {sep : α} {cs piece : List α} (mem : piece ∈ splitAt sep cs) :
    sep ∉ piece := by
  induction cs generalizing piece with
  | nil =>
    obtain rfl := List.mem_singleton.1 mem
    exact List.not_mem_nil
  | cons c cs ih =>
    rw [splitAt] at mem
    split at mem
    case isTrue =>
      rcases List.mem_cons.1 mem with rfl | mem
      · exact List.not_mem_nil
      · exact ih mem
    case isFalse other =>
      split at mem
      case h_1 none => exact absurd none (splitAt_ne_nil sep cs)
      case h_2 first others pieces =>
        rcases List.mem_cons.1 mem with rfl | mem
        · exact List.not_mem_cons_of_ne_of_not_mem (Ne.symm other) (ih (pieces ▸ List.mem_cons_self))
        · exact ih (pieces ▸ List.mem_cons_of_mem _ mem)

/-- Pieces joined by the separator they were split at give back the text. -/
theorem joinWith_splitAt (sep : α) (cs : List α) : joinWith sep (splitAt sep cs) = cs := by
  induction cs with
  | nil => rfl
  | cons c rest ih =>
    have hne := splitAt_ne_nil sep rest
    simp only [splitAt]
    split
    · rename_i h
      cases hs : splitAt sep rest with
      | nil => exact absurd hs hne
      | cons piece pieces => rw [hs] at ih; simp [joinWith, ih, h]
    · cases hs : splitAt sep rest with
      | nil => exact absurd hs hne
      | cons piece pieces =>
        rw [hs] at ih
        cases pieces with
        | nil => simpa [joinWith] using ih
        | cons p ps => simpa [joinWith] using ih

/-- Pieces without the separator are got back from the text that they are joined to. -/
theorem splitAt_joinWith {sep : α} {pieces : List (List α)} (some : pieces ≠ [])
    (absent : ∀ piece ∈ pieces, sep ∉ piece) : splitAt sep (joinWith sep pieces) = pieces := by
  induction pieces with
  | nil => exact absurd rfl some
  | cons piece pieces ih =>
    obtain ⟨first, others⟩ := List.forall_mem_cons.1 absent
    cases pieces with
    | nil => exact splitAt_of_notMem first
    | cons second rest =>
      have rest := ih (List.cons_ne_nil _ _) others
      rw [joinWith, splitAt_append_cons first, rest]
      exact nofun

end Pieces

end TermBot.Text

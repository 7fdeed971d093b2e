import TermBot.Proofs.Typing.FreshNames

/-!
# The search for a name

A name is looked for along the sequence `a`, …, `z`, `a1`, …, `z1`, `a2`, … until one is found that is not taken.
Nothing bounds this search (`Search`), but no two names of the sequence are the same, so that it ends after at most as
many names as are taken, with the first one that is free (`search_iff`, `exists_nextName`). Names that are given one
after the other are each the first one that was still free (`firstFree_nextNames`), and each is read by the lexer as
one identifier (`usable_nameAt`).
-/

namespace TermBot.Surface

open Text (Scalar)

/-- The text is one identifier, and neither a keyword nor the name of the unit type. -/
structure Usable (s : String) : Prop where
  token : ∃ stop, scan (Text.scalarsOf s) = .ok [⟨.ident, s, .start⟩, .atEnd stop]
  unreserved : s ∉ ["forall", "let", "in", "Unit"]

/-- The lexer reads a name as one token. -/
theorem IsName.tokens {s : String} (name : IsName s) :
    ∃ stop, tokens (Text.scalarsOf s) = [⟨.ident, s, .start⟩, .atEnd stop] := by
  obtain ⟨c, cs, shape, start, parts⟩ := name.word
  have scalars : Text.scalarsOf s = .ofChar c :: (cs.map Scalar.ofChar ++ []) := by
    rw [Text.scalarsOf, shape, List.map_cons, List.append_nil]
  have text : Text.shown (.ofChar c :: cs.map Scalar.ofChar) = s := by
    have chars : (Scalar.ofChar c :: cs.map Scalar.ofChar).map Scalar.char = c :: cs := by
      simp [Scalar.ofChar, Function.comp_def]
    rw [Text.shown, chars, ← shape, String.ofList_toList]
  have partsTail : ∀ d ∈ cs.map Scalar.ofChar, isIdentPart d.char = true := by
    simpa [Scalar.ofChar] using List.all_eq_true.1 parts
  have boundary : ∀ d ∈ ([] : Source).head?, isIdentPart d.char = false := by simp
  obtain ⟨stop, next⟩ := next_word .start (r := .ofChar c) start partsTail boundary
  rw [text, name.ident] at next
  refine ⟨stop, ?_⟩
  rw [Surface.tokens, scalars, Cursor.ofSource, List.length_cons, tokensFrom, next]
  rfl

theorem IsName.usable {s : String} (name : IsName s) (other : s ≠ "Unit") : Usable s where
  token := by
    obtain ⟨stop, found⟩ := name.tokens
    refine ⟨stop, ?_⟩
    rw [scan, found]
    rfl
  unreserved := by
    have ident := name.ident
    rintro (_ | ⟨_, _ | ⟨_, _ | ⟨_, _ | ⟨_, ⟨⟩⟩⟩⟩⟩)
    case tail.tail.tail.head => exact other rfl
    all_goals cases ident

end TermBot.Surface

namespace TermBot.Typing

open Surface (Usable)

variable {taken more : List String} {n k : Nat} {s t : String}

/-! ### The sequence -/

/-- Each row of the sequence has the letters of the alphabet, with the number of the row behind them; the first row
has none. -/
theorem nameAt_row (row : Nat) {i : Nat} (letter : i < 26) :
    nameAt (26 * row + i) =
      String.singleton (Char.ofNat ('a'.toNat + i)) ++ if row = 0 then "" else toString row := by
  have column : (26 * row + i) % 26 = i := by omega
  have number : (26 * row + i) / 26 = row := by omega
  rw [nameAt, column, number]
  by_cases first : row = 0
  · rw [if_pos (by omega), if_pos first, String.append_empty]
  · rw [if_neg (by omega), if_neg first]

theorem usable_nameAt (n : Nat) : Usable (nameAt n) := (isName_nameAt n).usable (nameAt_ne_unit n)

/-! ### The search -/

/-- The search from place `n` of the sequence on ends with the name `s`: a name that is taken is passed. -/
inductive Search (taken : List String) : (n : Nat) → (s : String) → Prop where
  | found {n : Nat} : nameAt n ∉ taken → Search taken n (nameAt n)
  | passed {n : Nat} {s : String} : nameAt n ∈ taken → Search taken (n + 1) s → Search taken n s

/-- The first name of the sequence that is not taken. -/
def FirstFree (taken : List String) (s : String) : Prop :=
  ∃ n, s = nameAt n ∧ nameAt n ∉ taken ∧ ∀ m < n, nameAt m ∈ taken

theorem FirstFree.unique (first : FirstFree taken s) (second : FirstFree taken t) : s = t := by
  obtain ⟨m, rfl, free, before⟩ := first
  obtain ⟨n, rfl, free', before'⟩ := second
  rcases Nat.lt_trichotomy m n with lt | rfl | gt
  · exact absurd (before' m lt) free
  · rfl
  · exact absurd (before n gt) free'

/-- Only which names are taken matters. -/
theorem FirstFree.congr (first : FirstFree taken s) (same : ∀ x, x ∈ taken ↔ x ∈ more) : FirstFree more s := by
  obtain ⟨n, rfl, free, before⟩ := first
  exact ⟨n, rfl, mt (same _).2 free, fun m lt => (same _).1 (before m lt)⟩

theorem firstFree_nextName (taken : List String) : FirstFree taken (nextName taken) := by
  obtain ⟨n, -, rest⟩ := exists_nextName taken
  exact ⟨n, rest⟩

theorem Search.firstFree (search : Search taken n s) (before : ∀ m < n, nameAt m ∈ taken) : FirstFree taken s := by
  induction search with
  | found free => exact ⟨_, rfl, free, before⟩
  | passed here _ ih => exact ih (Nat.forall_lt_succ_right.2 ⟨before, here⟩)

/-- The search reaches a free name if all those before it are taken. -/
theorem search_of_free (free : nameAt n ∉ taken) (before : ∀ m < n, nameAt m ∈ taken) (le : k ≤ n) :
    Search taken k (nameAt n) := by
  obtain ⟨passed, sum⟩ := Nat.exists_eq_add_of_le le
  clear le
  induction passed generalizing k with
  | zero =>
    obtain rfl := sum
    exact .found free
  | succ passed ih => exact .passed (before k (by omega)) (ih (by omega))

/-- The search from the beginning of the sequence ends, and with the name that is given. -/
theorem search_iff : Search taken 0 s ↔ s = nextName taken := by
  constructor
  case mp => exact fun search => (search.firstFree (by simp)).unique (firstFree_nextName taken)
  case mpr =>
    rintro rfl
    obtain ⟨n, same, free, before⟩ := firstFree_nextName taken
    exact same ▸ search_of_free free before (Nat.zero_le n)

/-! ### Names given one after the other -/

theorem length_nextNames (count : Nat) (taken : List String) : (nextNames count taken).length = count := by
  induction count generalizing taken with
  | zero => rfl
  | succ count ih => rw [nextNames, List.length_cons, ih]

/-- Names that are given one after the other differ from each other and from those that were taken. -/
theorem nextNames_new (count : Nat) (taken : List String) :
    (nextNames count taken).Nodup ∧ ∀ s ∈ nextNames count taken, s ∉ taken := by
  induction count generalizing taken with
  | zero => exact ⟨List.nodup_nil, List.forall_mem_nil _⟩
  | succ count ih =>
    obtain ⟨nodup, new⟩ := ih (nextName taken :: taken)
    refine ⟨List.nodup_cons.2 ⟨fun mem => new _ mem List.mem_cons_self, nodup⟩, ?_⟩
    exact List.forall_mem_cons.2 ⟨nextName_notMem taken, fun s mem old => new s mem (List.mem_cons_of_mem _ old)⟩

/-- Each name that is given is the first one that is neither taken nor given before. -/
theorem firstFree_nextNames {count : Nat} {before after : List String}
    (given : nextNames count taken = before ++ s :: after) : FirstFree (taken ++ before) s := by
  induction count generalizing taken before with
  | zero => cases before <;> cases given
  | succ count ih =>
    rw [nextNames] at given
    cases before with
    | nil =>
      obtain ⟨rfl, -⟩ := List.cons.inj given
      rw [List.append_nil]
      exact firstFree_nextName taken
    | cons first before =>
      obtain ⟨rfl, rest⟩ := List.cons.inj given
      exact (ih rest).congr fun x => by simp [or_left_comm]

/-- **The first free name is found.** Whatever names are taken, the search along the sequence ends, after at most as
many names as are taken, with the first name that is free. The sequence is `a`, …, `z`, `a1`, …, `z1`, `a2`, … without
repetitions, and each of its names is one identifier. Any number of names that are given one after the other, each
taken from then on, are different from each other, and each is the first one that was still free. -/
theorem nextName_first_free (taken : List String) (count : Nat) :
    (∀ s, Search taken 0 s ↔ s = nextName taken) ∧
    (∃ n ≤ taken.length, nextName taken = nameAt n ∧ nameAt n ∉ taken ∧ ∀ m < n, nameAt m ∈ taken) ∧
    (∀ row, ∀ i < 26, nameAt (26 * row + i) =
      String.singleton (Char.ofNat ('a'.toNat + i)) ++ if row = 0 then "" else toString row) ∧
    Function.Injective nameAt ∧ (∀ n, Usable (nameAt n)) ∧
    (nextNames count taken).length = count ∧ (nextNames count taken).Nodup ∧
    ∀ before s after, nextNames count taken = before ++ s :: after →
      FirstFree (taken ++ before) s ∧ s ∉ taken ∧ Usable s := by
  refine ⟨fun s => search_iff, exists_nextName taken, fun row i letter => nameAt_row row letter, nameAt_injective,
    usable_nameAt, length_nextNames count taken, (nextNames_new count taken).1, fun before s after given => ?_⟩
  refine ⟨firstFree_nextNames given, ?_⟩
  obtain ⟨n, rfl, free, -⟩ := firstFree_nextNames given
  exact ⟨fun mem => free (List.mem_append_left _ mem), usable_nameAt n⟩

end TermBot.Typing

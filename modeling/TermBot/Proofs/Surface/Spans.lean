import Mathlib.Data.List.DropRight
import TermBot.Proofs.Surface.Lexing
import TermBot.Proofs.Text.Decoding

/-!
# Tokens and where they stand

The lexer cuts a source into stretches: what it skips, and the scalars of one token. What one call of `next` does
to a cursor is `Stretch.Fits`; a source is stretches and what is skipped at its end (`tokensFrom_partition`). The
places that the lexer counts step by step are those that the source before a token has, bytes, newlines and
scalars of the last line (`placeAfter`). Every byte string is partitioned so (`tokens_partition`).
-/

namespace TermBot.Surface

open Text (Scalar)

/-! ## Places -/

/-- The place behind a beginning of a source: its bytes, one line more than it has newlines, and one column more
than it has scalars behind the last newline. -/
def placeAfter (before : Source) : Pos :=
  ⟨Text.byteSize before, 1 + before.countP (·.char = '\n'), 1 + (before.rtakeWhile (·.char ≠ '\n')).length⟩

theorem byteSize_append (before more : Source) :
    Text.byteSize (before ++ more) = Text.byteSize before + Text.byteSize more := by
  induction before with
  | nil => exact (Nat.zero_add _).symm
  | cons r before ih =>
    show r.size + Text.byteSize (before ++ more) = r.size + Text.byteSize before + Text.byteSize more
    rw [ih, Nat.add_assoc]

theorem byteSize_eq (src : Source) : Text.byteSize src = (src.flatMap Scalar.bytes).length := by
  induction src with
  | nil => rfl
  | cons r src ih =>
    rw [List.flatMap_cons, List.length_append, ← ih]
    rfl

theorem after_placeAfter (before : Source) (r : Scalar) :
    (placeAfter before).after r = placeAfter (before ++ [r]) := by
  have bytes : Text.byteSize (before ++ [r]) = Text.byteSize before + r.size := byteSize_append before [r]
  unfold Pos.after placeAfter
  rw [bytes, List.countP_append]
  split
  case isTrue newline => simp [newline, Nat.add_assoc]
  case isFalse inside => simp [inside, Nat.add_assoc]

/-- Passing scalars leads to the place behind them. -/
theorem afterAll_placeAfter (before more : Source) :
    (placeAfter before).afterAll more = placeAfter (before ++ more) := by
  induction more generalizing before with
  | nil => rw [List.append_nil]; rfl
  | cons r more ih =>
    have step : (placeAfter before).afterAll (r :: more) = ((placeAfter before).after r).afterAll more := rfl
    rw [step, after_placeAfter, ih, List.append_assoc, List.singleton_append]

/-! ## What is skipped -/

/-- What is skipped in front of `after`: blanks, and comments up to the next newline or the end. -/
inductive Skipped (after : Source) : Source → Prop where
  | nil : Skipped after []
  | blank {r : Scalar} {gap : Source} : Text.isBlank r.char = true → Skipped after gap → Skipped after (r :: gap)
  | comment {dash dash' : Scalar} {body gap : Source} : dash.char = '-' → dash'.char = '-' →
      (∀ r ∈ body, r.char ≠ '\n') → (∀ r ∈ (gap ++ after).head?, r.char = '\n') → Skipped after gap →
      Skipped after (dash :: dash' :: (body ++ gap))

/-- Outside of a comment, what is skipped is a gap; inside of one, it is the rest of the comment and a gap. -/
theorem skipFrom_eq (src : Source) : ∀ pos,
    (∃ gap rest, src = gap ++ rest ∧ skipFrom false pos src = ⟨pos.afterAll gap, rest⟩ ∧ Skipped rest gap) ∧
      ∃ body gap rest, src = body ++ gap ++ rest ∧
        skipFrom true pos src = ⟨pos.afterAll (body ++ gap), rest⟩ ∧ (∀ r ∈ body, r.char ≠ '\n') ∧
        (∀ r ∈ (gap ++ rest).head?, r.char = '\n') ∧ Skipped rest gap := by
  induction src with
  | nil => exact fun pos => ⟨⟨[], [], rfl, rfl, .nil⟩, [], [], [], rfl, rfl, nofun, nofun, .nil⟩
  | cons r src ih =>
    intro pos
    obtain ⟨⟨gap, rest, split, skipped, form⟩, body, gap', rest', split', skipped', inside, ends, form'⟩ :=
      ih (pos.after r)
    constructor
    · rw [skipFrom, if_neg Bool.false_ne_true]
      by_cases blank : Text.isBlank r.char = true
      · rw [if_pos blank, skipped]
        exact ⟨r :: gap, rest, congrArg (r :: ·) split, rfl, .blank blank form⟩
      · rw [if_neg blank]
        split
        case isFalse => exact ⟨[], r :: src, rfl, rfl, .nil⟩
        case isTrue dashes =>
          rw [Bool.and_eq_true, decide_eq_true_eq] at dashes
          obtain ⟨dash, second⟩ := dashes
          rw [skipped']
          rw [split'] at second
          cases body with
          | nil =>
            -- the second dash would be the newline behind the comment
            rw [List.nil_append] at second
            cases first : (gap' ++ rest').head? with
            | none => simp [first] at second
            | some dash' => simp [first, ends dash' first] at second
          | cons dash' body =>
            obtain ⟨-, inside⟩ := List.forall_mem_cons.1 inside
            have dash' : dash'.char = '-' := of_decide_eq_true second
            exact ⟨_, rest', congrArg (r :: ·) split', rfl, .comment dash dash' inside ends form'⟩
    · rw [skipFrom, if_pos rfl]
      by_cases newline : r.char = '\n'
      · have state : decide (r.char ≠ '\n') = false := by simp [newline]
        rw [state, skipped]
        refine ⟨[], r :: gap, rest, congrArg (r :: ·) split, rfl, nofun, ?_, .blank ?_ form⟩
        · simp [newline]
        · rw [newline]
          decide
      · have state : decide (r.char ≠ '\n') = true := by simp [newline]
        rw [state, skipped']
        exact ⟨r :: body, gap', rest', congrArg (r :: ·) split', rfl, List.forall_mem_cons.2 ⟨newline, inside⟩,
          ends, form'⟩

/-! ## What is taken -/

/-- The tokens that a scalar can start: their kind and how many of the scalars behind it they take. -/
inductive Begins (r : Scalar) (rest : Source) : TokenKind → Nat → Prop where
  | symbol {k : TokenKind} : symbol? r.char = some k → Begins r rest k 0
  | arrow {head : Scalar} : r.char = '-' → rest.head? = some head → head.char = '>' → Begins r rest .arrow 1
  | number : Text.isDigit r.char = true → Begins r rest .number (rest.takeWhile (Text.isDigit ·.char)).length
  | word : isIdentStart r.char = true →
      Begins r rest (wordKind (Text.shown (r :: rest.takeWhile (isIdentPart ·.char))))
        (rest.takeWhile (isIdentPart ·.char)).length
  | illegal : Begins r rest .illegal 0

theorem begins_tokenAt (r : Scalar) (rest : Source) : Begins r rest (tokenAt r rest).1 (tokenAt r rest).2 := by
  unfold tokenAt
  split
  · rename_i k symbol
    exact .symbol symbol
  · split
    · rename_i dash
      split
      · rename_i head
        cases first : rest.head? with
        | none => simp [first] at head
        | some s => exact .arrow dash first (by simpa [first] using head)
      · exact .illegal
    · split
      · rename_i digit
        exact .number digit
      · split
        · rename_i start
          exact .word start
        · exact .illegal

section Begins

variable {r : Scalar} {rest : Source} {k : TokenKind} {more : Nat}

/-- The scalars that satisfy a condition and those behind them. -/
theorem take_takeWhile (p : Scalar → Bool) (rest : Source) :
    rest.take (rest.takeWhile p).length = rest.takeWhile p :=
  (List.prefix_iff_eq_take.1 (List.takeWhile_prefix _)).symm

/-- Where scalars no longer satisfy a condition, the next one does not. -/
theorem head?_drop_takeWhile (p : Scalar → Bool) (rest : Source) :
    ∀ s ∈ (rest.drop (rest.takeWhile p).length).head?, p s = false := by
  intro s first
  induction rest with
  | nil => cases first
  | cons r rest ih =>
    by_cases kept : p r = true
    · rw [List.takeWhile_cons_of_pos kept] at first
      exact ih first
    · rw [List.takeWhile_cons_of_neg kept] at first
      cases first
      exact Bool.not_eq_true _ ▸ kept

theorem Begins.kind_ne_eof (begins : Begins r rest k more) : k ≠ .eof := by
  cases begins with
  | symbol symbol => exact (symbol?_inside symbol).2.2.2.2.1
  | word => exact (wordKind_inside _).1
  | arrow | number | illegal => exact nofun

/-- An illegal character is one scalar. -/
theorem Begins.illegal_alone (begins : Begins r rest k more) (illegal : k = .illegal) : more = 0 := by
  cases begins with
  | symbol | illegal => rfl
  | word => exact absurd illegal (wordKind_inside _).2
  | arrow | number => cases illegal

/-- The characters that would continue a number or a word. -/
def TokenKind.continues : TokenKind → Char → Bool
  | .number => Text.isDigit
  | .ident | .letKeyword | .inKeyword => isIdentPart
  | _ => fun _ => false

theorem symbol?_continues {c : Char} (symbol : symbol? c = some k) (d : Char) : k.continues d = false := by
  unfold symbol? at symbol
  split at symbol
  all_goals first
    | (cases symbol; rfl)
    | cases symbol

theorem wordKind_continues (s : String) {d : Char} (other : isIdentPart d = false) :
    (wordKind s).continues d = false := by
  unfold wordKind
  split
  case h_1 => rfl
  all_goals exact other

/-- A token takes all scalars that continue it. -/
theorem Begins.maximal (begins : Begins r rest k more) :
    ∀ s ∈ (rest.drop more).head?, k.continues s.char = false := by
  cases begins with
  | symbol symbol => exact fun s _ => symbol?_continues symbol s.char
  | number => exact head?_drop_takeWhile (Text.isDigit ·.char) rest
  | word =>
    exact fun s first => wordKind_continues _ (head?_drop_takeWhile (isIdentPart ·.char) rest s first)
  | arrow | illegal => exact fun _ _ => rfl

/-- A character of a class that the replacement character is not in. -/
theorem ne_replacement {p : Char → Bool} {c : Char} (inside : p c = true) (outside : p (Char.ofNat 0xFFFD) = false) :
    c ≠ Char.ofNat 0xFFFD := by
  rintro rfl
  exact Bool.false_ne_true (outside.symm.trans inside)

/-- Every scalar of a token that is not illegal shows a character of its own. -/
theorem Begins.legible (begins : Begins r rest k more) (legal : k ≠ .illegal) :
    ∀ s ∈ r :: rest.take more, s.char ≠ Char.ofNat 0xFFFD := by
  cases begins with
  | symbol symbol =>
    refine List.forall_mem_cons.2 ⟨fun bad => ?_, nofun⟩
    rw [bad] at symbol
    cases symbol
  | @arrow head dash first isHead =>
    obtain ⟨tail, rfl⟩ := List.head?_eq_some_iff.1 first
    simp [dash, isHead]
  | number digit =>
    rw [take_takeWhile]
    refine List.forall_mem_cons.2 ⟨ne_replacement digit (by decide), fun s mem => ?_⟩
    exact ne_replacement (p := Text.isDigit) (List.all_eq_true.1 List.all_takeWhile s mem) (by decide)
  | word start =>
    rw [take_takeWhile]
    refine List.forall_mem_cons.2 ⟨ne_replacement start (by decide +kernel), fun s mem => ?_⟩
    exact ne_replacement (p := isIdentPart) (List.all_eq_true.1 List.all_takeWhile s mem) (by decide +kernel)
  | illegal => exact absurd rfl legal

end Begins

/-! ## Stretches -/

/-- What is skipped before a token, the token, and the scalars that it takes. -/
structure Stretch where
  gap : Source
  token : Token
  span : Source

/-- The scalars of stretches. -/
def scalars (stretches : List Stretch) : Source := stretches.flatMap fun s => s.gap ++ s.span

/-- The stretch stands between two parts of a source: the lexer goes from the place where it starts to the place
where it ends and gives its token. -/
structure Stretch.Fits (s : Stretch) (before after : Source) : Prop where
  next : Cursor.next ⟨placeAfter before, s.gap ++ s.span ++ after⟩ =
    (s.token, ⟨placeAfter (before ++ s.gap ++ s.span), after⟩)
  skipped : Skipped (s.span ++ after) s.gap
  taken : s.span ≠ []
  place : s.token.pos = placeAfter (before ++ s.gap)
  notEof : s.token.kind ≠ .eof
  text : s.token.kind ≠ .illegal → Text.bytesOf s.token.lit.toList = s.span.flatMap Scalar.bytes
  alone : s.token.kind = .illegal → ∃ r, s.span = [r] ∧ s.token.lit = Text.shown [r]
  maximal : ∀ r ∈ after.head?, s.token.kind.continues r.char = false

/-- The text of legible scalars has their bytes. -/
theorem bytesOf_shown {rs : Source} (genuine : ∀ r ∈ rs, r.Genuine) (legible : ∀ r ∈ rs, r.char ≠ Char.ofNat 0xFFFD) :
    Text.bytesOf (Text.shown rs).toList = rs.flatMap Scalar.bytes := by
  rw [Text.shown, String.toList_ofList, Text.bytesOf, List.flatMap_map]
  exact List.flatMap_congr fun r mem => ((genuine r mem).bytes_eq (legible r mem)).symm

/-- From any place, the lexer skips the rest of the source, or it finds a stretch. -/
theorem next_fits (before src : Source) (genuine : ∀ r ∈ src, r.Genuine) :
    (Skipped [] src ∧ Cursor.next ⟨placeAfter before, src⟩ =
        (.atEnd (placeAfter (before ++ src)), ⟨placeAfter (before ++ src), []⟩)) ∨
      ∃ (s : Stretch) (after : Source), src = s.gap ++ s.span ++ after ∧ s.Fits before after := by
  obtain ⟨⟨gap, rest, rfl, skip, skipped⟩, -⟩ := skipFrom_eq src (placeAfter before)
  rw [afterAll_placeAfter] at skip
  have skip : Cursor.skip ⟨placeAfter before, gap ++ rest⟩ = ⟨placeAfter (before ++ gap), rest⟩ := skip
  cases rest with
  | nil =>
    refine .inl ⟨by rwa [List.append_nil], ?_⟩
    rw [Cursor.next, skip, List.append_nil]
  | cons r rest =>
    have begins := begins_tokenAt r rest
    rcases found : tokenAt r rest with ⟨kind, more⟩
    rw [found] at begins
    dsimp only at begins
    have split : gap ++ r :: rest = gap ++ (r :: rest.take more) ++ rest.drop more := by simp
    have inside : ∀ r' ∈ r :: rest.take more, r'.Genuine := fun r' mem => by
      refine genuine r' (List.mem_append_right _ ?_)
      exact List.cons_subset_cons r (List.take_subset more rest) mem
    refine .inr ⟨⟨gap, ⟨kind, Text.shown (r :: rest.take more), placeAfter (before ++ gap)⟩, r :: rest.take more⟩,
      rest.drop more, split, ?_⟩
    constructor
    case next =>
      rw [← split, Cursor.next, skip]
      dsimp only
      rw [found]
      dsimp only
      rw [afterAll_placeAfter]
    case skipped => rwa [List.cons_append, List.take_append_drop]
    case taken => exact List.cons_ne_nil _ _
    case place => rfl
    case notEof => exact begins.kind_ne_eof
    case text => exact fun legal => bytesOf_shown inside (begins.legible legal)
    case alone =>
      intro illegal
      rw [begins.illegal_alone illegal]
      exact ⟨r, rfl, rfl⟩
    case maximal => exact begins.maximal

/-- The tokens that are found from a place on partition the source there: stretches, one behind the other, and
what is skipped before the end. -/
structure Partition (before src : Source) (found : List Token) (stretches : List Stretch) (rest : Source) : Prop where
  tokens : found = stretches.map Stretch.token ++ [.atEnd (placeAfter (before ++ src))]
  covers : scalars stretches ++ rest = src
  fits : ∀ earlier s later, stretches = earlier ++ s :: later →
    s.Fits (before ++ scalars earlier) (scalars later ++ rest)
  skipped : Skipped [] rest
  last : Cursor.next ⟨placeAfter (before ++ scalars stretches), rest⟩ =
    (.atEnd (placeAfter (before ++ src)), ⟨placeAfter (before ++ src), []⟩)

theorem scalars_cons (s : Stretch) (stretches : List Stretch) :
    scalars (s :: stretches) = s.gap ++ s.span ++ scalars stretches := List.flatMap_cons

theorem Partition.cons {before src : Source} {s : Stretch} {found : List Token} {stretches : List Stretch}
    {rest : Source} (fits : s.Fits before src)
    (partition : Partition (before ++ s.gap ++ s.span) src found stretches rest) :
    Partition before (s.gap ++ s.span ++ src) (s.token :: found) (s :: stretches) rest := by
  have regroup (more : Source) : before ++ s.gap ++ s.span ++ more = before ++ (s.gap ++ s.span ++ more) := by
    simp only [List.append_assoc]
  constructor
  case tokens => rw [partition.tokens, regroup, List.map_cons, List.cons_append]
  case covers => rw [scalars_cons, List.append_assoc, partition.covers]
  case fits =>
    intro earlier s' later split
    cases earlier with
    | nil =>
      obtain ⟨rfl, rfl⟩ := List.cons.inj split
      rw [partition.covers, scalars, List.flatMap_nil, List.append_nil]
      exact fits
    | cons s'' earlier =>
      obtain ⟨rfl, tail⟩ := List.cons.inj split
      rw [scalars_cons, ← regroup]
      exact partition.fits earlier s' later tail
  case skipped => exact partition.skipped
  case last =>
    rw [scalars_cons, ← regroup, ← regroup]
    exact partition.last

/-- With a token for each scalar to spare, the lexer partitions the source. -/
theorem tokensFrom_partition {n : Nat} (before src : Source) (genuine : ∀ r ∈ src, r.Genuine)
    (limit : src.length < n) :
    ∃ stretches rest, Partition before src (tokensFrom n ⟨placeAfter before, src⟩) stretches rest := by
  induction n generalizing before src with
  | zero => exact absurd limit (Nat.not_lt_zero _)
  | succ n ih =>
    rcases next_fits before src genuine with ⟨skipped, next⟩ | ⟨s, after, rfl, fits⟩
    · have start : before ++ scalars [] = before := List.append_nil before
      refine ⟨[], src, ?_, rfl, fun earlier s later none => ?_, skipped, by rwa [start]⟩
      · rw [tokensFrom, next]
        rfl
      · cases earlier <;> cases none
    · have shorter : after.length < n := by
        have some := List.length_pos_of_ne_nil fits.taken
        rw [List.length_append, List.length_append] at limit
        omega
      obtain ⟨stretches, rest, partition⟩ := ih (before ++ s.gap ++ s.span) after
        (fun r mem => genuine r (List.mem_append_right _ mem)) shorter
      have step : tokensFrom (n + 1) ⟨placeAfter before, s.gap ++ s.span ++ after⟩ =
          s.token :: tokensFrom n ⟨placeAfter (before ++ s.gap ++ s.span), after⟩ := by
        rw [tokensFrom, fits.next]
        exact if_neg fits.notEof
      rw [step]
      exact ⟨s :: stretches, rest, .cons fits partition⟩

/-- The lexer partitions every byte string: it finds finitely many tokens and then the end of input, which stands
behind the last byte; the scalars of the tokens and of the gaps between them are those of the byte string, in
order and without a byte lost. -/
theorem tokens_partition (bytes : List UInt8) :
    (∃ stretches rest, Partition [] (Text.decode bytes) (tokens (Text.decode bytes)) stretches rest) ∧
      (Text.decode bytes).flatMap Scalar.bytes = bytes ∧
      (placeAfter (Text.decode bytes)).offset = bytes.length := by
  have all : (Text.decode bytes).flatMap Scalar.bytes = bytes := Text.decode_bytes bytes
  refine ⟨tokensFrom_partition [] _ (Text.genuine_of_mem_decode bytes) (Nat.lt_succ_self _), all, ?_⟩
  rw [placeAfter, byteSize_eq, all]

end TermBot.Surface

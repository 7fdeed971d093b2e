import TermBot.Proofs.Surface.Retokening
import TermBot.Proofs.Surface.Spans
import TermBot.Proofs.Text.Concatenation

/-!
# Marks in and outside of ASCII

Abstractions, quantifiers and arrows have a spelling in ASCII and one outside of it. In a source that the lexer
accepts, each such token may be respelled in its place: what is skipped and the other tokens stay as they are
(`next_respelled`), because a mark outside of ASCII neither goes on with the token before it nor is gone on with by
what is behind it. So the tokens are the same ones, and so is the term (`scan_respelled`).
-/

namespace TermBot.Surface

open Text (Scalar)

variable {r : Scalar} {rest after after' gap : Source} {k : TokenKind}

/-! ## What is skipped -/

/-- At the end of a line, and at the end of the source, a comment is over. -/
theorem skipFrom_line_end (ends : ∀ r ∈ after.head?, r.char = '\n') (pos : Pos) :
    skipFrom true pos after = skipFrom false pos after := by
  cases after with
  | nil => rfl
  | cons r after =>
    have newline : r.char = '\n' := ends r rfl
    have blank : Text.isBlank '\n' = true := by decide
    simp [skipFrom, newline, blank]

theorem skipFrom_comment {body : Source} (inside : ∀ r ∈ body, r.char ≠ '\n') (pos : Pos) :
    skipFrom true pos (body ++ after) = skipFrom true (pos.afterAll body) after := by
  induction body generalizing pos with
  | nil => rfl
  | cons r body ih =>
    obtain ⟨first, inside⟩ := List.forall_mem_cons.1 inside
    rw [List.cons_append, skipFrom, if_pos rfl, decide_eq_true first, ih inside]
    rfl

/-- The lexer passes what is skipped. -/
theorem Skipped.skip (skipped : Skipped after gap) (pos : Pos) :
    skipFrom false pos (gap ++ after) = skipFrom false (pos.afterAll gap) after := by
  induction skipped generalizing pos with
  | nil => rfl
  | @blank r gap blank _ ih =>
    rw [List.cons_append, skipFrom, if_neg Bool.false_ne_true, if_pos blank, ih]
    rfl
  | @comment dash dash' body gap first second inside ends _ ih =>
    have state : decide (dash'.char ≠ '\n') = true := by simp [second]
    have unblank : Text.isBlank dash.char = false := first ▸ by decide
    simp only [List.cons_append, List.append_assoc]
    rw [skipFrom, unblank, if_neg Bool.false_ne_true, if_neg Bool.false_ne_true, if_pos (by simp [first, second]),
      skipFrom, if_pos rfl, state, skipFrom_comment inside, skipFrom_line_end ends, ih]
    simp [Pos.afterAll]

/-- A comment does not end at a token, so what is skipped before one token is skipped before any other. -/
theorem Skipped.congr (skipped : Skipped after gap) (token : ∃ r ∈ after.head?, r.char ≠ '\n') :
    Skipped after' gap := by
  induction skipped with
  | nil => exact .nil
  | blank blank _ ih => exact .blank blank ih
  | @comment dash dash' body gap first second inside ends _ ih =>
    refine .comment first second inside ?_ ih
    cases gap with
    | nil =>
      obtain ⟨r, head, other⟩ := token
      exact absurd (ends r head) other
    | cons r gap => exact ends

/-! ## Where a token starts -/

/-- Nothing is skipped here: neither a blank nor a comment begins. -/
def Starts : Source → Prop
  | [] => False
  | r :: rest => Text.isBlank r.char = false ∧ (r.char = '-' && rest.head?.any (·.char = '-')) = false

theorem Starts.skip (starts : Starts after) (pos : Pos) : skipFrom false pos after = ⟨pos, after⟩ := by
  cases after with
  | nil => rfl
  | cons r rest =>
    obtain ⟨unblank, undashed⟩ := starts
    rw [skipFrom, if_neg Bool.false_ne_true, unblank, if_neg Bool.false_ne_true, undashed, if_neg Bool.false_ne_true]

/-- The lexer skips up to a token or to the end. -/
theorem starts_skipFrom (src : Source) (inComment : Bool) (pos : Pos) :
    (skipFrom inComment pos src).rest = [] ∨ Starts (skipFrom inComment pos src).rest := by
  induction src generalizing inComment pos with
  | nil => exact .inl rfl
  | cons r rest ih =>
    unfold skipFrom
    split
    · exact ih _ _
    · split
      · exact ih _ _
      · rename_i unblank
        split
        · exact ih _ _
        · rename_i undashed
          exact .inr ⟨Bool.not_eq_true _ ▸ unblank, Bool.not_eq_true _ ▸ undashed⟩

theorem Starts.head (starts : Starts after) : ∃ r ∈ after.head?, r.char ≠ '\n' := by
  cases after with
  | nil => exact starts.elim
  | cons r rest =>
    refine ⟨r, rfl, fun newline => ?_⟩
    have unblank := starts.1
    rw [newline] at unblank
    exact absurd unblank (by decide)

theorem starts_symbol (symbol : symbol? r.char = some k) : Starts (r :: rest) := by
  obtain ⟨unblank, undashed, -⟩ := symbol?_inside symbol
  exact ⟨unblank, by simp [undashed]⟩

/-- The source goes on with the scalars of one token. -/
structure TokenHere (k : TokenKind) (span after : Source) : Prop where
  starts : Starts (span ++ after)
  taken : ∃ r tail, span = r :: tail ∧ tokenAt r (tail ++ after) = (k, tail.length)

/-- What the lexer does at a token behind what is skipped. -/
theorem TokenHere.next {span : Source} (here : TokenHere k span after) (skipped : Skipped (span ++ after) gap)
    (pos : Pos) :
    Cursor.next ⟨pos, gap ++ (span ++ after)⟩ =
      (⟨k, Text.shown span, pos.afterAll gap⟩, ⟨(pos.afterAll gap).afterAll span, after⟩) := by
  obtain ⟨starts, r, tail, rfl, taken⟩ := here
  have skip : Cursor.skip ⟨pos, gap ++ (r :: tail ++ after)⟩ = ⟨pos.afterAll gap, r :: tail ++ after⟩ :=
    (skipped.skip pos).trans (starts.skip _)
  rw [Cursor.next, skip]
  dsimp only [List.cons_append]
  rw [taken]
  dsimp only
  rw [List.take_left, List.drop_left]

theorem Begins.more_le {more : Nat} (begins : Begins r rest k more) : more ≤ rest.length := by
  cases begins with
  | symbol | illegal => exact Nat.zero_le _
  | arrow _ first => exact List.length_pos_of_mem (List.mem_of_head? first)
  | number | word => exact (List.takeWhile_sublist _).length_le

theorem size_pos (genuine : r.Genuine) : 0 < r.size := by
  rcases genuine with own | ⟨b, rfl⟩
  · rw [own, Scalar.size, Scalar.ofChar, String.length_utf8EncodeChar]
    exact r.char.utf8Size_pos
  · exact Nat.one_pos

/-- Scalars that do not move a place are none. -/
theorem eq_nil_of_placeAfter {before more : Source} (genuine : ∀ r ∈ more.head?, r.Genuine)
    (same : placeAfter (before ++ more) = placeAfter before) : more = [] := by
  have size : Text.byteSize (before ++ more) = Text.byteSize before := congrArg Pos.offset same
  cases more with
  | nil => rfl
  | cons r more =>
    have positive := size_pos (genuine r rfl)
    have first : Text.byteSize (r :: more) = r.size + Text.byteSize more := rfl
    rw [byteSize_append, first] at size
    omega

/-- A stretch has its token where what is skipped before it ends. -/
theorem Stretch.Fits.here {s : Stretch} {before : Source} (fits : s.Fits before after)
    (genuine : ∀ r ∈ s.span, r.Genuine) :
    TokenHere s.token.kind s.span after ∧ s.token.lit = Text.shown s.span := by
  obtain ⟨head, tail, span⟩ := List.exists_cons_of_ne_nil fits.taken
  obtain ⟨⟨more, rest, split, skip, -⟩, -⟩ := skipFrom_eq (s.span ++ after) (placeAfter (before ++ s.gap))
  have starts := starts_skipFrom (s.span ++ after) false (placeAfter (before ++ s.gap))
  have next := fits.next
  have passed : Cursor.skip ⟨placeAfter before, s.gap ++ s.span ++ after⟩ =
      ⟨placeAfter (before ++ s.gap ++ more), rest⟩ := by
    rw [List.append_assoc, Cursor.skip, fits.skipped.skip, afterAll_placeAfter, skip, afterAll_placeAfter]
  rw [skip] at starts
  rw [Cursor.next, passed] at next
  cases rest with
  | nil =>
    have token : s.token = .atEnd _ := (Prod.mk.inj next).1.symm
    exact absurd (congrArg Token.kind token) fits.notEof
  | cons r rest =>
    have begins := begins_tokenAt r rest
    dsimp only at next
    generalize shape : tokenAt r rest = found at begins next
    obtain ⟨kind, taken⟩ := found
    obtain ⟨token, cursor⟩ := Prod.mk.inj next
    have behind : rest.drop taken = after := congrArg Cursor.rest cursor
    -- the lexer has skipped nothing but the gap, because its token is right behind it
    have none : more = [] := by
      have place : placeAfter (before ++ s.gap ++ more) = placeAfter (before ++ s.gap) := by
        rw [← fits.place, ← token]
      refine eq_nil_of_placeAfter (fun r mem => genuine r ?_) place
      cases more with
      | nil => cases mem
      | cons r' more =>
        rw [span, List.cons_append, List.cons_append] at split
        rw [← Option.mem_some.1 mem, ← (List.cons.inj split).1, span]
        exact List.mem_cons_self
    subst none
    rw [span, List.nil_append, List.cons_append] at split
    obtain ⟨rfl, rfl⟩ := List.cons.inj split
    have size : taken = tail.length := by
      have bound := begins.more_le
      have lengths := congrArg List.length behind
      rw [List.length_drop] at lengths
      rw [List.length_append] at bound lengths
      omega
    subst size
    rw [List.take_left] at token
    refine ⟨⟨?_, head, tail, span, ?_⟩, ?_⟩
    · rw [span]
      exact starts.resolve_left (List.cons_ne_nil _ _)
    · rw [shape, ← token]
    · rw [← token, span]

/-! ## Marks -/

/-- The spelling outside of ASCII of a token that has two. -/
def TokenKind.mark? : TokenKind → Option Char
  | .lambda => some 'λ'
  | .quantifier => some '∀'
  | .arrow => some '→'
  | _ => none

theorem symbol?_mark {c : Char} (mark : k.mark? = some c) : symbol? c = some k := by
  cases k <;> cases mark <;> rfl

theorem mark_continues {c : Char} (mark : k.mark? = some c) : isIdentPart c = false := by
  cases k <;> cases mark <;> decide +kernel

/-- What continues a number continues a word. -/
theorem continues_of_isIdentPart {c : Char} (other : isIdentPart c = false) : k.continues c = false := by
  cases k with
  | number =>
    simp only [isIdentPart, Bool.or_eq_false_iff] at other
    exact other.1.2
  | ident | letKeyword | inKeyword => exact other
  | _ => rfl

/-- The scalars that a condition takes are the same ones before others that do not satisfy it. -/
theorem takeWhile_congr {p : Scalar → Bool} {tail : Source}
    (size : ((tail ++ after).takeWhile p).length = tail.length) (stops : ∀ d ∈ after'.head?, p d = false) :
    (tail ++ after).takeWhile p = tail ∧ (tail ++ after').takeWhile p = tail := by
  have whole : (tail ++ after).takeWhile p = tail := by
    rw [← take_takeWhile, size, List.take_left]
  have inside : ∀ d ∈ tail, p d = true := List.all_eq_true.1 (whole ▸ List.all_takeWhile)
  refine ⟨whole, ?_⟩
  rw [List.takeWhile_append_of_pos inside]
  cases after' with
  | nil => exact List.append_nil tail
  | cons d after' =>
    rw [List.takeWhile_cons_of_neg (Bool.not_eq_true _ ▸ stops d rfl), List.append_nil]

theorem wordKind_unmarked {s : String} (unmarked : (wordKind s).mark? = none) :
    (wordKind s).continues = isIdentPart := by
  unfold wordKind at unmarked ⊢
  split
  case h_1 => cases unmarked
  all_goals rfl

/-- A token that is no mark is the same one before whatever does not continue it. -/
theorem tokenAt_congr {tail : Source} (found : tokenAt r (tail ++ after) = (k, tail.length))
    (unmarked : k.mark? = none) (legal : k ≠ .illegal) (stops : ∀ d ∈ after'.head?, k.continues d.char = false) :
    tokenAt r (tail ++ after') = (k, tail.length) := by
  unfold tokenAt at found ⊢
  split at found
  case h_1 => exact found
  case h_2 =>
    split at found
    case isTrue =>
      split at found
      · obtain ⟨rfl, -⟩ := Prod.mk.inj found
        cases unmarked
      · exact absurd (Prod.mk.inj found).1.symm legal
    case isFalse undashed =>
      rw [if_neg undashed]
      split at found
      case isTrue digit =>
        obtain ⟨rfl, size⟩ := Prod.mk.inj found
        rw [if_pos digit, (takeWhile_congr size stops).2]
      case isFalse other =>
        rw [if_neg other]
        split at found
        case isTrue start =>
          obtain ⟨rfl, size⟩ := Prod.mk.inj found
          rw [wordKind_unmarked unmarked] at stops
          obtain ⟨whole, same⟩ := takeWhile_congr size stops
          rw [if_pos start, whole, same]
        case isFalse => exact absurd (Prod.mk.inj found).1.symm legal

/-- A token that is no mark starts with no dash. -/
theorem undashed_of_tokenAt {more : Nat} (found : tokenAt r rest = (k, more)) (unmarked : k.mark? = none)
    (legal : k ≠ .illegal) : r.char ≠ '-' := by
  intro dash
  unfold tokenAt at found
  rw [dash] at found
  have symbol : symbol? '-' = none := rfl
  simp only [symbol, if_true] at found
  split at found
  · obtain ⟨rfl, -⟩ := Prod.mk.inj found
    cases unmarked
  · exact legal (Prod.mk.inj found).1.symm

/-- The scalars of a token, or its mark outside of ASCII. -/
def respelledSpan (k : TokenKind) (span : Source) : Source :=
  match k.mark? with
  | some c => [.ofChar c]
  | none => span

/-- A respelled token stands in its place, before whatever does not continue it. -/
theorem TokenHere.respelled {span : Source} (here : TokenHere k span after) (legal : k ≠ .illegal)
    (stops : ∀ d ∈ after'.head?, k.continues d.char = false) : TokenHere k (respelledSpan k span) after' := by
  unfold respelledSpan
  cases mark : k.mark? with
  | some c =>
    have symbol : symbol? (Scalar.ofChar c).char = some k := symbol?_mark mark
    refine ⟨starts_symbol symbol, .ofChar c, [], rfl, ?_⟩
    rw [tokenAt, symbol]
    rfl
  | none =>
    obtain ⟨starts, r, tail, rfl, found⟩ := here
    have undashed := undashed_of_tokenAt found mark legal
    exact ⟨⟨starts.1, by simp [undashed]⟩, r, tail, rfl, tokenAt_congr found mark legal stops⟩

/-- The source with each mark spelled outside of ASCII in its place. -/
def respell (stretches : List Stretch) (rest : Source) : Source :=
  stretches.flatMap (fun s => s.gap ++ respelledSpan s.token.kind s.span) ++ rest

theorem respell_cons (s : Stretch) (stretches : List Stretch) (rest : Source) :
    respell (s :: stretches) rest =
      s.gap ++ (respelledSpan s.token.kind s.span ++ respell stretches rest) := by
  rw [respell, List.flatMap_cons, List.append_assoc, List.append_assoc]
  rfl

/-- What does not continue a token does not when it is respelled. -/
theorem continues_respell {stretches : List Stretch} (some : ∀ s ∈ stretches.head?, s.span ≠ [])
    (stops : ∀ d ∈ (scalars stretches ++ rest).head?, k.continues d.char = false) :
    ∀ d ∈ (respell stretches rest).head?, k.continues d.char = false := by
  cases stretches with
  | nil => exact stops
  | cons s stretches =>
    rw [scalars_cons, List.append_assoc, List.append_assoc] at stops
    rw [respell_cons]
    cases gap : s.gap with
    | cons r gap => simpa [gap] using stops
    | nil =>
      rw [gap, List.nil_append] at stops
      rw [List.nil_append, respelledSpan]
      cases mark : s.token.kind.mark? with
      | some c =>
        intro d first
        obtain rfl := Option.mem_some.1 first
        exact continues_of_isIdentPart (mark_continues mark)
      | none =>
        obtain ⟨r, tail, span⟩ := List.exists_cons_of_ne_nil (some s rfl)
        simpa [span] using stops

/-! ## Respelled sources -/

/-- Stretches of a source before `rest`, as far as their places do not matter. None of their tokens is illegal. -/
inductive Row (rest : Source) : List Stretch → Prop where
  | nil : Row rest []
  | cons {s : Stretch} {later : List Stretch} (here : TokenHere s.token.kind s.span (scalars later ++ rest))
      (skipped : Skipped (s.span ++ (scalars later ++ rest)) s.gap) (legal : s.token.kind ≠ .illegal)
      (lit : s.token.lit = Text.shown s.span)
      (maximal : ∀ r ∈ (scalars later ++ rest).head?, s.token.kind.continues r.char = false)
      (row : Row rest later) : Row rest (s :: later)

theorem row_of_fits {stretches : List Stretch} {before : Source}
    (fits : ∀ earlier s later, stretches = earlier ++ s :: later →
      s.Fits (before ++ scalars earlier) (scalars later ++ rest))
    (genuine : ∀ r ∈ scalars stretches, r.Genuine) (legal : ∀ s ∈ stretches, s.token.kind ≠ .illegal) :
    Row rest stretches := by
  induction stretches generalizing before with
  | nil => exact .nil
  | cons s later ih =>
    obtain ⟨legal, others⟩ := List.forall_mem_cons.1 legal
    rw [scalars_cons] at genuine
    have first := fits [] s later rfl
    have span : ∀ r ∈ s.span, r.Genuine := fun r mem =>
      genuine r (List.mem_append_left _ (List.mem_append_right _ mem))
    obtain ⟨here, lit⟩ := first.here span
    have behind : ∀ earlier s' later', later = earlier ++ s' :: later' →
        s'.Fits (before ++ (s.gap ++ s.span) ++ scalars earlier) (scalars later' ++ rest) := by
      intro earlier s' later' split
      have fit := fits (s :: earlier) s' later' (congrArg (s :: ·) split)
      rwa [scalars_cons, ← List.append_assoc] at fit
    exact .cons here first.skipped legal lit first.maximal
      (ih behind (fun r mem => genuine r (List.mem_append_right _ mem)) others)

theorem TokenHere.span_ne_nil {span : Source} (here : TokenHere k span after) : span ≠ [] := by
  obtain ⟨r, tail, rfl, -⟩ := here.taken
  exact List.cons_ne_nil r tail

theorem Row.head_taken {stretches : List Stretch} (row : Row rest stretches) :
    ∀ s ∈ stretches.head?, s.span ≠ [] := by
  cases row with
  | nil => exact nofun
  | cons here => exact fun s first => Option.mem_some.1 first ▸ here.span_ne_nil

/-- The text of an identifier or a number is not respelled. -/
theorem sense_respelled {s : Stretch} {pos : Pos} (lit : s.token.lit = Text.shown s.span) :
    Token.sense ⟨s.token.kind, Text.shown (respelledSpan s.token.kind s.span), pos⟩ = s.token.sense := by
  unfold Token.sense respelledSpan
  rw [lit]
  cases s.token.kind <;> rfl

/-- What the lexer finds next in a respelled source. -/
theorem next_respelled {s : Stretch} {later : List Stretch} (row : Row rest (s :: later)) (pos : Pos) :
    ∃ t after, Cursor.next ⟨pos, respell (s :: later) rest⟩ = (t, ⟨after, respell later rest⟩) ∧
      t.sense = s.token.sense := by
  cases row with
  | cons here skipped legal lit maximal row =>
    have here' := here.respelled legal (continues_respell row.head_taken maximal)
    rw [respell_cons, here'.next (skipped.congr here.starts.head)]
    exact ⟨_, _, rfl, sense_respelled lit⟩

theorem next_skipped (skipped : Skipped [] rest) (pos : Pos) :
    Cursor.next ⟨pos, rest⟩ = (.atEnd (pos.afterAll rest), ⟨pos.afterAll rest, []⟩) := by
  have skip : Cursor.skip ⟨pos, rest⟩ = ⟨pos.afterAll rest, []⟩ := by
    have passed := skipped.skip pos
    rwa [List.append_nil] at passed
  rw [Cursor.next, skip]

theorem Row.kind_ne_eof {s : Stretch} {later : List Stretch} (row : Row rest (s :: later)) : s.token.kind ≠ .eof := by
  cases row with
  | cons here =>
    obtain ⟨r, tail, -, found⟩ := here.taken
    have begins := begins_tokenAt r (tail ++ (scalars later ++ rest))
    rw [found] at begins
    exact begins.kind_ne_eof

/-- The tokens of a respelled source are those of the source, as far as the parser looks at them. -/
theorem Row.tokens {stretches : List Stretch} (row : Row rest stretches) (skipped : Skipped [] rest) {n : Nat}
    (limit : stretches.length < n) (pos : Pos) :
    (tokensFrom n ⟨pos, respell stretches rest⟩).map Token.sense =
      stretches.map (·.token.sense) ++ [(TokenKind.eof, "")] := by
  induction stretches generalizing n pos with
  | nil =>
    obtain ⟨n, rfl⟩ := Nat.exists_eq_add_of_lt limit
    have next : Cursor.next ⟨pos, respell [] rest⟩ = _ := next_skipped skipped pos
    rw [tokensFrom, next]
    rfl
  | cons s later ih =>
    obtain ⟨m, rfl⟩ : ∃ m, n = m + 1 := ⟨n - 1, by omega⟩
    rw [List.length_cons] at limit
    obtain ⟨t, after, next, same⟩ := next_respelled row pos
    have kind : t.kind = s.token.kind := congrArg Prod.fst same
    have notEof : ¬ t.kind = .eof := kind ▸ row.kind_ne_eof
    cases row with
    | cons _ _ _ _ _ row =>
      rw [tokensFrom, next]
      dsimp only
      rw [if_neg notEof, List.map_cons, same, ih row (by omega), List.map_cons, List.cons_append]

theorem Row.length_le {stretches : List Stretch} (row : Row rest stretches) :
    stretches.length ≤ (respell stretches rest).length := by
  induction row with
  | nil => exact Nat.zero_le _
  | @cons s later here _ legal _ maximal row ih =>
    have some := (here.respelled legal (continues_respell row.head_taken maximal)).span_ne_nil
    have positive := List.length_pos_of_ne_nil some
    rw [respell_cons, List.length_cons, List.length_append, List.length_append]
    omega

/-! ## Their bytes -/

theorem genuine_of_settled {src : Source} (settled : Text.Settled src) : ∀ r ∈ src, r.Genuine :=
  settled ▸ Text.genuine_of_mem_decode _

/-- A token that is not illegal is a text. -/
theorem TokenHere.chars {span : Source} (here : TokenHere k span after) (legal : k ≠ .illegal)
    (genuine : ∀ r ∈ span, r.Genuine) : ∃ c cs, span = (c :: cs).map Scalar.ofChar := by
  obtain ⟨-, r, tail, rfl, found⟩ := here
  have begins := begins_tokenAt r (tail ++ after)
  rw [found] at begins
  have legible := begins.legible legal
  rw [List.take_left] at legible
  refine ⟨r.char, tail.map Scalar.char, ?_⟩
  rw [← List.map_cons (f := Scalar.char), List.map_map]
  refine (List.map_id _).symm.trans (List.map_congr_left fun s mem => ?_)
  rcases genuine s mem with own | ⟨b, rfl⟩
  · exact own
  · exact absurd rfl (legible _ mem)

theorem fresh_chars (c : Char) (cs : List Char) (rest : Source) :
    Text.Fresh (((c :: cs).map Scalar.ofChar ++ rest).flatMap Scalar.bytes) := by
  rw [List.map_cons, List.cons_append, List.flatMap_cons]
  exact Text.fresh_encode c _

/-- A respelled byte string is read back as the respelled source. -/
theorem Row.settled {stretches : List Stretch} (row : Row rest stretches)
    (settled : Text.Settled (scalars stretches ++ rest)) : Text.Settled (respell stretches rest) := by
  induction row with
  | nil => exact settled
  | @cons s later here _ legal _ _ row ih =>
    rw [scalars_cons, List.append_assoc, List.append_assoc] at settled
    have genuine : ∀ r ∈ s.span, r.Genuine := fun r mem =>
      genuine_of_settled settled r (List.mem_append_right _ (List.mem_append_left _ mem))
    obtain ⟨c, cs, span⟩ := here.chars legal genuine
    have gap : Text.Settled s.gap := settled.of_append_left (span ▸ fresh_chars c cs _)
    have later := ih settled.of_append_right.of_append_right
    obtain ⟨d, ds, respelled⟩ : ∃ d ds, respelledSpan s.token.kind s.span = (d :: ds).map Scalar.ofChar := by
      unfold respelledSpan
      split
      · exact ⟨_, [], rfl⟩
      · exact ⟨c, cs, span⟩
    rw [respell_cons, respelled]
    exact gap.append (later.chars (d :: ds)) (fresh_chars d ds _)

/-! ## Scanning -/

theorem scan_eq_ok {src : Source} {toks : List Token} :
    scan src = .ok toks ↔ toks = tokens src ∧ ∀ t ∈ tokens src, t.kind ≠ .illegal := by
  rw [scan]
  cases first : (tokens src).find? (·.kind = .illegal) with
  | some t =>
    constructor
    · intro accepted
      cases accepted
    · rintro ⟨-, legal⟩
      have illegal : t.kind = .illegal := by simpa using List.find?_some first
      exact absurd illegal (legal t (List.mem_of_find?_eq_some first))
  | none =>
    have legal : ∀ t ∈ tokens src, t.kind ≠ .illegal := by simpa using first
    dsimp only
    rw [Except.ok.injEq, and_iff_left legal, eq_comm]

theorem legal_of_sense {toks toks' : List Token} (same : toks'.map Token.sense = toks.map Token.sense)
    (legal : ∀ t ∈ toks, t.kind ≠ .illegal) : ∀ t ∈ toks', t.kind ≠ .illegal := by
  intro t mem
  have alike : t.sense ∈ toks.map Token.sense := same ▸ List.mem_map_of_mem mem
  obtain ⟨u, mem, same⟩ := List.mem_map.1 alike
  have kind : u.kind = t.kind := congrArg Prod.fst same
  exact kind ▸ legal u mem

/-- Every source that the lexer accepts consists of stretches with tokens and of what is skipped at its end. When
each abstraction, quantifier and arrow in it is spelled outside of ASCII, with all else left in its place, the new
byte string is read as it is meant, and the lexer accepts it with the same kinds of tokens and with the same
identifiers and numbers. The parser accepts both sources with terms that are equal up to positions, or neither. -/
theorem scan_respelled (bytes : List UInt8) {toks : List Token} (accepted : scan (Text.decode bytes) = .ok toks) :
    ∃ stretches rest, Partition [] (Text.decode bytes) toks stretches rest ∧
      Text.decode ((respell stretches rest).flatMap Scalar.bytes) = respell stretches rest ∧
      (∃ toks', scan (respell stretches rest) = .ok toks' ∧ toks'.map Token.sense = toks.map Token.sense) ∧
      SameTerm (parseSource (Text.decode bytes)) (parseSource (respell stretches rest)) := by
  obtain ⟨⟨stretches, rest, partition⟩, -⟩ := tokens_partition bytes
  obtain ⟨found, legal⟩ := scan_eq_ok.1 accepted
  rw [← found] at partition legal
  have row : Row rest stretches := by
    refine row_of_fits partition.fits (fun r mem => ?_) fun s mem => legal _ ?_
    · refine Text.genuine_of_mem_decode bytes r ?_
      rw [← partition.covers]
      exact List.mem_append_left _ mem
    · rw [partition.tokens]
      exact List.mem_append_left _ (List.mem_map_of_mem mem)
  have settled : Text.Settled (scalars stretches ++ rest) := by
    rw [partition.covers]
    exact Text.settled_decode bytes
  have same : (tokens (respell stretches rest)).map Token.sense = toks.map Token.sense := by
    have limit : stretches.length < (respell stretches rest).length + 1 := Nat.lt_succ_of_le row.length_le
    rw [partition.tokens, tokens, Cursor.ofSource, row.tokens partition.skipped limit, List.map_append, List.map_map]
    rfl
  have accepted' : scan (respell stretches rest) = .ok (tokens (respell stretches rest)) :=
    scan_eq_ok.2 ⟨rfl, legal_of_sense same legal⟩
  refine ⟨stretches, rest, partition, row.settled settled, ⟨_, accepted', same⟩, ?_⟩
  rw [parseSource, parseSource, accepted, accepted', ok_bind, ok_bind]
  refine parseTokens_retoken ?_
  rw [List.map_dropLast, List.map_dropLast, same]

/-- Marks that have no blanks around them. -/
theorem scan_respelled_dense :
    let src := Text.decode (Text.bytesOf "\\x.(x:forall a.a->a)--\\".toList)
    scan src = .ok (tokens src) ∧
      ∃ stretches rest, Partition [] src (tokens src) stretches rest ∧
        Text.decode ((respell stretches rest).flatMap Scalar.bytes) = respell stretches rest ∧
        (∃ toks', scan (respell stretches rest) = .ok toks' ∧ toks'.map Token.sense = (tokens src).map Token.sense) ∧
        SameTerm (parseSource src) (parseSource (respell stretches rest)) := by
  have accepted : scan (Text.decode (Text.bytesOf "\\x.(x:forall a.a->a)--\\".toList)) =
      .ok (tokens (Text.decode (Text.bytesOf "\\x.(x:forall a.a->a)--\\".toList))) := by
    decide +kernel
  exact ⟨accepted, scan_respelled _ accepted⟩

end TermBot.Surface

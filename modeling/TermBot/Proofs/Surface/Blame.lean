import TermBot.Proofs.Surface.Lookahead
import TermBot.Proofs.Surface.Spans

/-!
# Which token a fault is about

Whatever the parser rejects, it rejects at the next token of what it has left, and what it has left are the last
tokens of those it was given. `Ends` says this of one outcome, and its rules are one for each way in which the
parser is put together. So a fault of a source stands at a token of that source and names no other
(`parseSource_blames`); the token is the end of input where all others have been taken.
-/

namespace TermBot.Surface

open Text (Scalar)

/-- The token that a cause names. -/
def Cause.found? : Cause → Option Token
  | .illegal t | .missing _ t | .noParameter t | .noTerm t | .noTypeVariable t | .noType t | .trailing t => some t
  | .tooDeep => none

/-- The fault is at the token, and its cause names no other. -/
structure Fault.Blames (f : Fault) (t : Token) : Prop where
  pos : f.pos = t.pos
  found : ∀ u ∈ f.cause.found?, u = t

/-- The parser leaves the last tokens of those it was given, or it blames the next one of such. -/
inductive Ends {α : Type} (stop : Pos) (toks : List Token) : Except Fault (α × List Token) → Prop where
  | leaves {a : α} {rest : List Token} : rest <:+ toks → Ends stop toks (.ok (a, rest))
  | blames {f : Fault} {rest : List Token} : rest <:+ toks → f.Blames (peek stop rest) → Ends stop toks (.error f)

variable {α β : Type} {stop : Pos} {toks rest : List Token}

namespace Ends

theorem mono {r : Except Fault (α × List Token)} (h : Ends stop rest r) (last : rest <:+ toks) :
    Ends stop toks r := by
  cases h with
  | leaves left => exact .leaves (left.trans last)
  | blames left blames => exact .blames (left.trans last) blames

/-- One parser after another. -/
theorem bind {r : Except Fault (α × List Token)} {next : α × List Token → Except Fault (β × List Token)}
    (h : Ends stop toks r) (goes : ∀ a rest, Ends stop rest (next (a, rest))) : Ends stop toks (r >>= next) := by
  cases h with
  | leaves left => exact (goes _ _).mono left
  | blames left blames => exact .blames left blames

theorem pure (a : α) : Ends stop toks (Pure.pure (a, toks)) := .leaves List.suffix_rfl

/-- A rejection whose cause names the next token or none. -/
theorem reject {cause : Token → Cause} (names : ∀ t, ∀ u ∈ (cause t).found?, u = t) :
    Ends stop toks (Surface.reject stop cause toks : Except Fault (α × List Token)) :=
  .blames List.suffix_rfl ⟨rfl, names _⟩

theorem tooDeep : Ends stop toks (Surface.reject stop (fun _ => .tooDeep) toks : Except Fault (α × List Token)) :=
  reject fun _ u mem => absurd mem (Option.not_mem_none u)

theorem expect (slot : Slot) : Ends stop toks (Surface.expect stop slot toks) := by
  cases toks with
  | nil => exact reject fun t u mem => (Option.mem_some.1 mem).symm
  | cons t toks =>
    rw [Surface.expect]
    split
    · exact .leaves (List.suffix_cons t toks)
    · exact reject fun t u mem => (Option.mem_some.1 mem).symm

end Ends

/-! ## The parsers -/

theorem found_eq {t u : Token} (mem : u ∈ some t) : u = t := (Option.mem_some.1 mem).symm

theorem types_end (n : Nat) (toks : List Token) :
    Ends stop toks (typeExpr stop n toks) ∧ Ends stop toks (typeAtom stop n toks) := by
  induction n generalizing toks with
  | zero =>
    rw [typeExpr, typeAtom]
    exact ⟨.tooDeep, .tooDeep⟩
  | succ n ih =>
    constructor
    · by_cases quantifier : (peek stop toks).kind = .quantifier
      · obtain ⟨q, toks, rfl⟩ := exists_tok quantifier (by decide)
        obtain ⟨vars, rest, rfl, ends⟩ := exists_identifiers stop toks
        cases vars with
        | nil =>
          rw [List.map_nil, List.nil_append, typeExpr_unnamed q ends]
          exact .mono (.reject fun _ _ => found_eq) (List.suffix_cons q.token rest)
        | cons v vs =>
          rw [List.map_cons, List.cons_append, typeExpr_named q v vs ends]
          refine .mono (.bind (.expect _) fun _ rest => .bind (ih rest).1 fun _ _ => .pure _) ?_
          exact ⟨q.token :: v.token :: vs.map Tok.token, rfl⟩
      · rw [typeExpr_of_ne quantifier]
        refine .bind (ih toks).2 fun dom rest => ?_
        dsimp only
        split
        · exact .mono (.bind (ih _).1 fun _ _ => .pure _) (List.tail_suffix rest)
        · exact .pure _
    · by_cases name : (peek stop toks).kind = .ident
      · obtain ⟨x, rest, rfl⟩ := exists_tok name (by decide)
        rw [typeAtom_name x]
        exact .leaves (List.suffix_cons x.token rest)
      by_cases one : (peek stop toks).kind = .number ∧ (peek stop toks).lit = "1"
      · obtain ⟨x, rest, rfl⟩ := exists_tok one.1 (by decide)
        rw [typeAtom_one x one.2]
        exact .leaves (List.suffix_cons x.token rest)
      by_cases paren : (peek stop toks).kind = .lparen
      · obtain ⟨l, toks, rfl⟩ := exists_tok paren (by decide)
        by_cases close : (peek stop toks).kind = .rparen
        · obtain ⟨r, rest, rfl⟩ := exists_tok close (by decide)
          rw [typeAtom_empty l r]
          exact .leaves ⟨[l.token, r.token], rfl⟩
        · rw [typeAtom_open l close]
          refine .mono ?_ (List.suffix_cons l.token toks)
          exact .bind (ih toks).1 fun _ _ => .bind (.expect _) fun _ _ => .pure _
      · rw [typeAtom_eq_reject name one paren]
        exact .reject fun _ _ => found_eq

theorem optionalType_ends (n : Nat) (toks : List Token) : Ends stop toks (optionalType stop n toks) := by
  cases n with
  | zero =>
    rw [optionalType]
    exact .tooDeep
  | succ n =>
    by_cases colon : (peek stop toks).kind = .colon
    · obtain ⟨c, toks, rfl⟩ := exists_tok colon (by decide)
      rw [optionalType_colon c]
      exact .mono (.bind (types_end n toks).1 fun _ _ => .pure _) (List.suffix_cons c.token toks)
    · rw [optionalType_of_ne colon]
      exact .leaves List.suffix_rfl

theorem terms_end (n : Nat) (toks : List Token) :
    Ends stop toks (term stop n toks) ∧ Ends stop toks (atom stop n toks) ∧
      ∀ fn, Ends stop toks (arguments stop n fn toks) := by
  induction n generalizing toks with
  | zero =>
    rw [term, atom]
    refine ⟨.tooDeep, .tooDeep, fun fn => ?_⟩
    rw [arguments]
    exact .tooDeep
  | succ n ih =>
    refine ⟨?term, ?atom, fun fn => ?arguments⟩
    case term =>
      by_cases lambda : (peek stop toks).kind = .lambda
      · obtain ⟨m, toks, rfl⟩ := exists_tok lambda (by decide)
        obtain ⟨vars, rest, rfl, ends⟩ := exists_identifiers stop toks
        cases vars with
        | nil =>
          rw [List.map_nil, List.nil_append, term_unnamed m ends]
          exact .mono (.reject fun _ _ => found_eq) (List.suffix_cons m.token rest)
        | cons x xs =>
          rw [List.map_cons, List.cons_append, term_named m x xs ends]
          refine .mono (.bind (.expect _) fun _ rest => .bind (ih rest).1 fun _ _ => .pure _) ?_
          exact ⟨m.token :: x.token :: xs.map Tok.token, rfl⟩
      by_cases keyword : (peek stop toks).kind = .letKeyword
      · obtain ⟨k, toks, rfl⟩ := exists_tok keyword (by decide)
        rw [term_keyword k]
        refine .mono ?_ (List.suffix_cons k.token toks)
        refine .bind (.expect _) fun _ rest => .bind (optionalType_ends n rest) fun _ _ => ?_
        refine .bind (.expect _) fun _ rest => .bind (ih rest).1 fun _ _ => ?_
        exact .bind (.expect _) fun _ rest => .bind (ih rest).1 fun _ _ => .pure _
      · rw [term_of_ne lambda keyword]
        exact .bind (ih toks).2.1 fun fn rest => (ih rest).2.2 fn
    case atom =>
      by_cases name : (peek stop toks).kind = .ident
      · obtain ⟨x, rest, rfl⟩ := exists_tok name (by decide)
        rw [atom_name x]
        exact .leaves (List.suffix_cons x.token rest)
      by_cases paren : (peek stop toks).kind = .lparen
      · obtain ⟨l, toks, rfl⟩ := exists_tok paren (by decide)
        by_cases close : (peek stop toks).kind = .rparen
        · obtain ⟨r, rest, rfl⟩ := exists_tok close (by decide)
          rw [atom_empty l r]
          exact .leaves ⟨[l.token, r.token], rfl⟩
        · rw [atom_open l close]
          refine .mono ?_ (List.suffix_cons l.token toks)
          refine .bind (ih toks).1 fun _ rest => .bind (optionalType_ends n rest) fun _ _ => ?_
          exact .bind (.expect _) fun _ _ => .pure _
      · rw [atom_eq_reject (notMem_atomLeads name paren)]
        exact .reject fun _ _ => found_eq
    case arguments =>
      by_cases starts : (peek stop toks).kind ∈ atomLeads
      · rw [arguments_atom fn starts]
        exact .bind (ih toks).2.1 fun _ rest => (ih rest).2.2 _
      by_cases binds : (peek stop toks).kind ∈ binderLeads
      · rw [arguments_binder fn binds]
        exact .bind (ih toks).1 fun _ _ => .pure _
      · rw [arguments_of_ne fn (notMem_argLeads starts binds)]
        exact .leaves List.suffix_rfl

/-- A fault of some tokens is at one of them or at their end. -/
theorem parseTokens_blames {f : Fault} (failed : parseTokens stop toks = .error f) :
    ∃ t ∈ toks ++ [Token.atEnd stop], f.Blames t := by
  have next : ∀ rest, rest <:+ toks → peek stop rest ∈ toks ++ [Token.atEnd stop] := fun rest last => by
    cases rest with
    | nil => exact List.mem_append_right _ List.mem_cons_self
    | cons t rest => exact List.mem_append_left _ (last.subset List.mem_cons_self)
  have ends : Ends stop toks (term stop (2 * toks.length + 4) toks) := (terms_end _ toks).1
  rw [parseTokens] at failed
  generalize term stop (2 * toks.length + 4) toks = outcome at ends failed
  cases ends with
  | blames last blames =>
    cases failed
    exact ⟨_, next _ last, blames⟩
  | @leaves a rest last =>
    rw [ok_bind] at failed
    dsimp only at failed
    split at failed
    · cases failed
    · cases failed
      exact ⟨peek stop rest, next rest last, rfl, fun _ => found_eq⟩

/-! ## The tokens of a source -/

section Source

variable {src : Source} {t : Token} {f : Fault}

/-- Every token is what the lexer finds next somewhere. -/
theorem exists_next_of_mem {n : Nat} {c : Cursor} (mem : t ∈ tokensFrom n c) : ∃ c', (Cursor.next c').1 = t := by
  induction n generalizing c with
  | zero => exact absurd mem List.not_mem_nil
  | succ n ih =>
    rw [tokensFrom] at mem
    dsimp only at mem
    split at mem
    · exact ⟨c, (List.mem_singleton.1 mem).symm⟩
    · rcases List.mem_cons.1 mem with first | mem
      · exact ⟨c, first.symm⟩
      · exact ih mem

/-- Behind its first character, a token has only the head of an arrow, or it goes on as a word does. -/
theorem Begins.behind {r : Scalar} {rest : Source} {k : TokenKind} {more : Nat} (begins : Begins r rest k more) :
    ∀ s ∈ rest.take more, s.char = '>' ∨ isIdentPart s.char = true := by
  cases begins with
  | symbol | illegal => exact nofun
  | @arrow head dash first isHead =>
    obtain ⟨tail, rfl⟩ := List.head?_eq_some_iff.1 first
    exact fun s mem => .inl (List.mem_singleton.1 mem ▸ isHead)
  | number =>
    rw [take_takeWhile]
    intro s mem
    have digit : Text.isDigit s.char = true := List.all_eq_true.1 List.all_takeWhile s mem
    exact .inr (by simp [isIdentPart, digit])
  | word =>
    rw [take_takeWhile]
    exact fun s mem => .inr (List.all_eq_true.1 List.all_takeWhile s mem)

/-- A backtick starts no token but an illegal one of its own. -/
theorem Begins.of_tick {r : Scalar} {rest : Source} {k : TokenKind} {more : Nat} (begins : Begins r rest k more)
    (tick : r.char = '`') : k = .illegal ∧ more = 0 := by
  cases begins with
  | symbol symbol =>
    rw [tick] at symbol
    cases symbol
  | arrow dash =>
    rw [tick] at dash
    cases dash
  | number digit =>
    rw [tick] at digit
    exact absurd digit (by decide)
  | word start =>
    rw [tick] at start
    exact absurd start (by decide)
  | illegal => exact ⟨rfl, rfl⟩

/-- No token goes over the end of a line, and one with a backtick is illegal and has nothing else. -/
theorem lit_of_next (c : Cursor) :
    ∀ d ∈ c.next.1.lit.toList, d ≠ '\n' ∧ (d = '`' → c.next.1.kind = .illegal ∧ c.next.1.lit = "`") := by
  have notBlank := skipFrom_notBlank false c.pos c.rest
  rw [← Cursor.skip] at notBlank
  unfold Cursor.next
  generalize c.skip = start at notBlank ⊢
  obtain ⟨pos, rest⟩ := start
  cases rest with
  | nil => exact List.forall_mem_nil _
  | cons r rest =>
    have begins := begins_tokenAt r rest
    dsimp only
    generalize tokenAt r rest = found at begins
    obtain ⟨kind, more⟩ := found
    have chars : (Text.shown (r :: rest.take more)).toList = r.char :: (rest.take more).map Scalar.char := by
      rw [Text.shown, String.toList_ofList, List.map_cons]
    rw [chars]
    refine List.forall_mem_cons.2 ⟨⟨?newline, fun tick => ?tick⟩, fun d mem => ?behind⟩
    case newline =>
      rintro newline
      have blank := notBlank r rfl
      rw [newline] at blank
      exact absurd blank (by decide)
    case tick =>
      obtain ⟨illegal, rfl⟩ := begins.of_tick tick
      refine ⟨illegal, String.toList_inj.1 ?_⟩
      rw [chars, tick]
      rfl
    case behind =>
      obtain ⟨s, kept, rfl⟩ := List.mem_map.1 mem
      rcases begins.behind s kept with head | inside
      · rw [head]
        exact ⟨by decide, fun tick => absurd tick (by decide)⟩
      · constructor
        · rintro newline
          rw [newline] at inside
          exact absurd inside (by decide)
        · rintro tick
          rw [tick] at inside
          exact absurd inside (by decide)

theorem newline_notMem_lit (mem : t ∈ tokens src) : '\n' ∉ t.lit.toList := by
  obtain ⟨c, rfl⟩ := exists_next_of_mem mem
  exact fun newline => (lit_of_next c _ newline).1 rfl

theorem lit_of_tick (mem : t ∈ tokens src) (tick : '`' ∈ t.lit.toList) : t.kind = .illegal ∧ t.lit = "`" := by
  obtain ⟨c, rfl⟩ := exists_next_of_mem mem
  exact (lit_of_next c _ tick).2 rfl

/-- A token stands behind a beginning of the source. -/
theorem exists_place (genuine : ∀ r ∈ src, r.Genuine) (mem : t ∈ tokens src) :
    ∃ before after, src = before ++ after ∧ t.pos = placeAfter before := by
  obtain ⟨stretches, rest, partition⟩ := tokensFrom_partition [] src genuine (Nat.lt_succ_self _)
  have found : tokens src = stretches.map Stretch.token ++ [Token.atEnd (placeAfter src)] := partition.tokens
  rw [found] at mem
  rcases List.mem_append.1 mem with mem | last
  · obtain ⟨s, here, rfl⟩ := List.mem_map.1 mem
    obtain ⟨earlier, later, rfl⟩ := List.append_of_mem here
    refine ⟨scalars earlier ++ s.gap, s.span ++ (scalars later ++ rest), ?_, (partition.fits _ _ _ rfl).place⟩
    rw [← partition.covers, scalars, List.flatMap_append, List.flatMap_cons]
    simp only [scalars, List.append_assoc]
  · exact ⟨src, [], (List.append_nil src).symm, List.mem_singleton.1 last ▸ rfl⟩

/-- A fault of a source is at one of its tokens, the end of input among them, and it names no other. It is the first
illegal character if there is one. -/
theorem parseSource_blames (genuine : ∀ r ∈ src, r.Genuine) (failed : parseSource src = .error f) :
    ∃ t ∈ tokens src, f.Blames t ∧
      ((tokens src).find? (·.kind = .illegal) = some t ∧ f.cause = .illegal t ∨
        ∀ u ∈ tokens src, u.kind ≠ .illegal) := by
  rw [parseSource, scan] at failed
  cases first : (tokens src).find? (·.kind = .illegal) with
  | some t =>
    simp only [first] at failed
    cases failed
    exact ⟨t, List.mem_of_find?_eq_some first, ⟨rfl, fun _ => found_eq⟩, .inl ⟨rfl, rfl⟩⟩
  | none =>
    have legal : ∀ u ∈ tokens src, u.kind ≠ .illegal := fun u mem => by
      simpa using List.find?_eq_none.1 first u mem
    simp only [first] at failed
    obtain ⟨t, mem, blames⟩ := parseTokens_blames failed
    obtain ⟨stretches, rest, partition⟩ := tokensFrom_partition [] src genuine (Nat.lt_succ_self _)
    have found : tokens src = stretches.map Stretch.token ++ [Token.atEnd (placeAfter src)] := partition.tokens
    have stop : Pos.start.afterAll src = placeAfter src := afterAll_placeAfter [] src
    rw [found, List.dropLast_concat, stop, ← found] at mem
    exact ⟨t, mem, blames, .inr legal⟩

end Source

end TermBot.Surface

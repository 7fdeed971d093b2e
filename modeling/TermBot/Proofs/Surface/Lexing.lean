import TermBot.Surface.Parser
import TermBot.Proofs.Doc.Rendering

/-!
# Texts and their tokens

`Lexes cs ls` says that the text `cs` is made of blanks, symbols and words, where no word runs into
the next one, and that `ls` are the lexemes in it: the tokens without their positions. The lexer finds
exactly these (`scan_of_lexes`), and dropping spaces at the ends of lines does not change them
(`Lexes.trimLines`). Conversely, every identifier that the lexer finds is a name (`isName_of_tokens`).
-/

namespace TermBot.Surface

open Text (Scalar)

/-! ## Lexemes -/

/-- A token as far as the grammar of terms looks at it. -/
abbrev Lexeme := TokenKind × String

/-- The kind of a token and the text of an identifier. -/
def Token.bare (t : Token) : Lexeme := (t.kind, if t.kind = .ident then t.lit else "")

/-- The lexeme of a word: an identifier or a keyword. -/
def wordLexeme (s : String) : Lexeme := (wordKind s, if wordKind s = .ident then s else "")

/-- The character starts a word and nothing else. -/
structure StartsWord (c : Char) : Prop where
  notBlank : Text.isBlank c = false
  notSymbol : symbol? c = none
  notDash : c ≠ '-'
  notDigit : Text.isDigit c = false
  start : isIdentStart c = true

/-- The text is a word: an identifier or a keyword. -/
def IsWord (s : String) : Prop :=
  ∃ c cs, s.toList = c :: cs ∧ StartsWord c ∧ cs.all isIdentPart = true

/-- The text is an identifier. -/
structure IsName (s : String) : Prop where
  word : IsWord s
  ident : wordKind s = .ident

/-- The text does not continue a word before it. -/
def Boundary (cs : List Char) : Prop := ∀ c ∈ cs.head?, isIdentPart c = false

/-- The text spells these lexemes. -/
inductive Lexes : List Char → List Lexeme → Prop where
  | nil : Lexes [] []
  | blank {c : Char} {cs : List Char} {ls : List Lexeme} :
      Text.isBlank c = true → Lexes cs ls → Lexes (c :: cs) ls
  | symbol {c : Char} {k : TokenKind} {cs : List Char} {ls : List Lexeme} :
      symbol? c = some k → Lexes cs ls → Lexes (c :: cs) ((k, "") :: ls)
  | word {s : String} {cs : List Char} {ls : List Lexeme} :
      IsWord s → Boundary cs → Lexes cs ls → Lexes (s.toList ++ cs) (wordLexeme s :: ls)

theorem boundary_nil : Boundary [] := by
  intro c hc
  cases hc

theorem boundary_cons {c : Char} {cs : List Char} (h : isIdentPart c = false) :
    Boundary (c :: cs) := by
  intro d hd
  cases hd
  exact h

theorem Boundary.append {cs rest : List Char} (h : Boundary cs) (hr : Boundary rest) :
    Boundary (cs ++ rest) := by
  cases cs with
  | nil => exact hr
  | cons c cs => exact boundary_cons (h c rfl)

/-- A text and another one behind it that does not continue its last word. -/
theorem Lexes.append {cs rest : List Char} {ls more : List Lexeme} (h : Lexes cs ls)
    (boundary : Boundary rest) (hr : Lexes rest more) : Lexes (cs ++ rest) (ls ++ more) := by
  induction h with
  | nil => exact hr
  | blank blank _ ih => exact .blank blank ih
  | symbol kind _ ih => exact .symbol kind ih
  | word word between _ ih =>
    rw [List.append_assoc]
    exact .word word (between.append boundary) ih

theorem Lexes.blanks {n : Nat} {cs : List Char} {ls : List Lexeme} (h : Lexes cs ls) :
    Lexes (List.replicate n ' ' ++ cs) ls := by
  induction n with
  | zero => exact h
  | succ n ih => exact .blank (by decide) ih

/-! ## Kinds of lexemes -/

theorem symbol?_inside {c : Char} {k : TokenKind} (h : symbol? c = some k) :
    Text.isBlank c = false ∧ c ≠ '-' ∧ c ≠ ' ' ∧ k ≠ .ident ∧ k ≠ .eof ∧ k ≠ .illegal := by
  unfold symbol? at h
  split at h
  all_goals first
    | (cases h; exact ⟨by decide, by decide, by decide, by decide, by decide, by decide⟩)
    | cases h

theorem wordKind_inside (s : String) : wordKind s ≠ .eof ∧ wordKind s ≠ .illegal := by
  unfold wordKind
  split <;> decide

/-- No lexeme is an end of input or an illegal character. -/
theorem Lexes.inside {cs : List Char} {ls : List Lexeme} (h : Lexes cs ls) :
    ∀ l ∈ ls, l.1 ≠ .illegal := by
  induction h with
  | nil => simp
  | blank _ _ ih => exact ih
  | symbol kind _ ih => exact List.forall_mem_cons.2 ⟨(symbol?_inside kind).2.2.2.2.2, ih⟩
  | word _ _ _ ih => exact List.forall_mem_cons.2 ⟨(wordKind_inside _).2, ih⟩

/-! ## Dropping spaces -/

theorem IsWord.ne_space {s : String} (h : IsWord s) : ∀ c ∈ s.toList, c ≠ ' ' := by
  obtain ⟨c, cs, shape, start, parts⟩ := h
  rw [shape]
  intro d hd
  obtain rfl | tail := List.mem_cons.1 hd
  · rintro rfl
    exact absurd start.notBlank (by decide)
  · rintro rfl
    exact absurd (List.all_eq_true.1 parts _ tail) (by decide)

theorem Boundary.trimLines {cs : List Char} (h : Boundary cs) : Boundary (Doc.trimLines cs) := by
  cases cs with
  | nil => exact boundary_nil
  | cons c cs =>
    obtain ⟨-, ending, dropped⟩ | kept := Doc.trimLines_cons c cs
    · rw [dropped]
      obtain empty | ⟨rest, newline⟩ := ending
      · rw [empty]
        exact boundary_nil
      · rw [newline]
        exact boundary_cons (by decide)
    · rw [kept]
      exact boundary_cons (h c rfl)

/-- The lexemes of a text do not depend on the spaces at the ends of its lines. -/
theorem Lexes.trimLines {cs : List Char} {ls : List Lexeme} (h : Lexes cs ls) :
    Lexes (Doc.trimLines cs) ls := by
  induction h with
  | nil => exact .nil
  | @blank c cs ls blank _ ih =>
    obtain ⟨-, -, dropped⟩ | kept := Doc.trimLines_cons c cs
    · rw [dropped]
      exact ih
    · rw [kept]
      exact .blank blank ih
  | @symbol c k cs ls symbol _ ih =>
    obtain ⟨space, -, -⟩ | kept := Doc.trimLines_cons c cs
    · exact absurd space (symbol?_inside symbol).2.2.1
    · rw [kept]
      exact .symbol symbol ih
  | word word boundary _ ih =>
    rw [Doc.trimLines_append word.ne_space]
    exact .word word boundary.trimLines ih

/-! ## The lexer on a text -/

section Lexer

variable (pos : Pos) {r : Scalar} (rest : Source)

theorem next_blank (h : Text.isBlank r.char = true) :
    Cursor.next ⟨pos, r :: rest⟩ = Cursor.next ⟨pos.after r, rest⟩ := by
  simp [Cursor.next, Cursor.skip, skipFrom, h]

theorem skip_start (blank : Text.isBlank r.char = false) (dash : r.char ≠ '-') :
    Cursor.skip ⟨pos, r :: rest⟩ = ⟨pos, r :: rest⟩ := by
  simp [Cursor.skip, skipFrom, blank, dash]

theorem next_symbol {k : TokenKind} (h : symbol? r.char = some k) :
    ∃ after, Cursor.next ⟨pos, r :: rest⟩ = (⟨k, Text.shown [r], pos⟩, ⟨after, rest⟩) := by
  obtain ⟨blank, dash, -⟩ := symbol?_inside h
  exact ⟨pos.afterAll [r], by simp [Cursor.next, skip_start pos rest blank dash, tokenAt, h]⟩

theorem tokenAt_word {rest : Source} (start : StartsWord r.char) {tail : Source}
    (parts : ∀ d ∈ tail, isIdentPart d.char = true)
    (boundary : ∀ d ∈ rest.head?, isIdentPart d.char = false) :
    tokenAt r (tail ++ rest) = (wordKind (Text.shown (r :: tail)), tail.length) := by
  have taken : (tail ++ rest).takeWhile (isIdentPart ·.char) = tail := by
    rw [List.takeWhile_append_of_pos parts]
    cases rest with
    | nil => simp
    | cons d rest => simp [boundary d rfl]
  simp [tokenAt, start.notSymbol, start.notDash, start.notDigit, start.start, taken]

theorem next_word (start : StartsWord r.char) {tail : Source}
    (parts : ∀ d ∈ tail, isIdentPart d.char = true) {rest : Source}
    (boundary : ∀ d ∈ rest.head?, isIdentPart d.char = false) :
    ∃ after, Cursor.next ⟨pos, r :: (tail ++ rest)⟩ =
      (⟨wordKind (Text.shown (r :: tail)), Text.shown (r :: tail), pos⟩, ⟨after, rest⟩) :=
  ⟨pos.afterAll (r :: tail), by
    simp [Cursor.next, skip_start pos _ start.notBlank start.notDash,
      tokenAt_word start parts boundary]⟩

end Lexer

/-- The lexer finds the lexemes of a text and then its end. -/
theorem tokensFrom_of_lexes {cs : List Char} {ls : List Lexeme} (h : Lexes cs ls) {n : Nat}
    (pos : Pos) (limit : cs.length < n) :
    (tokensFrom n ⟨pos, cs.map Scalar.ofChar⟩).map Token.bare = ls ++ [(TokenKind.eof, "")] := by
  induction h generalizing n pos with
  | nil =>
    obtain ⟨n, rfl⟩ : ∃ m, n = m + 1 := ⟨n - 1, by omega⟩
    rfl
  | @blank c cs ls blank _ ih =>
    rw [List.length_cons] at limit
    obtain ⟨n, rfl⟩ : ∃ m, n = m + 1 := ⟨n - 1, by omega⟩
    have skipped := next_blank pos (r := .ofChar c) (cs.map Scalar.ofChar) blank
    rw [← ih (pos.after (.ofChar c)) (n := n + 1) (by omega)]
    simp only [tokensFrom, List.map_cons, skipped]
  | @symbol c k cs ls symbol _ ih =>
    rw [List.length_cons] at limit
    obtain ⟨n, rfl⟩ : ∃ m, n = m + 1 := ⟨n - 1, by omega⟩
    obtain ⟨after, next⟩ := next_symbol pos (r := .ofChar c) (cs.map Scalar.ofChar) symbol
    obtain ⟨-, -, -, ident, eof, -⟩ := symbol?_inside symbol
    simp [tokensFrom, next, eof, ident, Token.bare, ih after (n := n) (by omega)]
  | @word s cs ls word boundary _ ih =>
    obtain ⟨c, tail, shape, start, parts⟩ := word
    rw [shape, List.cons_append, List.length_cons, List.length_append] at limit
    obtain ⟨n, rfl⟩ : ∃ m, n = m + 1 := ⟨n - 1, by omega⟩
    have partsTail : ∀ d ∈ tail.map Scalar.ofChar, isIdentPart d.char = true := by
      simpa [Scalar.ofChar] using List.all_eq_true.1 parts
    have boundaryRest : ∀ d ∈ (cs.map Scalar.ofChar).head?, isIdentPart d.char = false := by
      simpa [Scalar.ofChar, Boundary] using boundary
    obtain ⟨after, next⟩ := next_word pos (r := .ofChar c) start partsTail boundaryRest
    have text : Text.shown (.ofChar c :: tail.map Scalar.ofChar) = s := by
      have chars : (Scalar.ofChar c :: tail.map Scalar.ofChar).map Scalar.char = c :: tail := by
        simp [Scalar.ofChar, Function.comp_def]
      rw [Text.shown, chars, ← shape, String.ofList_toList]
    rw [text] at next
    have tailTokens := ih after (n := n) (by omega)
    simp [tokensFrom, shape, next, (wordKind_inside s).1, Token.bare, wordLexeme, tailTokens]

/-- The lexer accepts a text and finds its lexemes before the end of input. -/
theorem scan_of_lexes {cs : List Char} {ls : List Lexeme} (h : Lexes cs ls) :
    ∃ toks, scan (cs.map Scalar.ofChar) = .ok toks ∧ toks.dropLast.map Token.bare = ls := by
  have found : (tokens (cs.map Scalar.ofChar)).map Token.bare = ls ++ [(TokenKind.eof, "")] := by
    rw [tokens, List.length_map]
    exact tokensFrom_of_lexes h .start (Nat.lt_succ_self _)
  have legal : (tokens (cs.map Scalar.ofChar)).find? (·.kind = .illegal) = none := by
    rw [List.find?_eq_none]
    intro t ht illegal
    have mem : t.bare ∈ ls ++ [(TokenKind.eof, "")] := found ▸ List.mem_map_of_mem ht
    obtain mem | mem := List.mem_append.1 mem
    · exact h.inside _ mem (of_decide_eq_true illegal)
    · have kind : t.kind = .eof := congrArg Prod.fst (List.mem_singleton.1 mem)
      simp [kind] at illegal
  refine ⟨tokens (cs.map Scalar.ofChar), by rw [scan, legal], ?_⟩
  rw [List.map_dropLast, found, List.dropLast_concat]

/-! ## Names in a source -/

theorem skipFrom_notBlank (inComment : Bool) (pos : Pos) (src : Source) :
    ∀ r ∈ (skipFrom inComment pos src).rest.head?, Text.isBlank r.char = false := by
  induction src generalizing inComment pos with
  | nil => simp [skipFrom]
  | cons r rest ih =>
    unfold skipFrom
    split
    · exact ih _ _
    · split
      · exact ih _ _
      · rename_i notBlank
        split
        · exact ih _ _
        · rintro r' hr
          cases hr
          simpa using notBlank

/-- What the lexer takes for an identifier is a name. -/
theorem isName_of_tokenAt {r : Scalar} {rest : Source} {more : Nat}
    (blank : Text.isBlank r.char = false) (h : tokenAt r rest = (.ident, more)) :
    IsName (Text.shown (r :: rest.take more)) := by
  unfold tokenAt at h
  split at h
  · rename_i symbol
    exact absurd (congrArg Prod.fst h) (symbol?_inside symbol).2.2.2.1
  · rename_i symbol
    split at h
    · split at h <;> cases h
    · rename_i dash
      split at h
      · cases h
      · rename_i digit
        split at h
        · rename_i start
          obtain ⟨kind, rfl⟩ := Prod.mk.inj h
          have taken : rest.take (rest.takeWhile (isIdentPart ·.char)).length =
              rest.takeWhile (isIdentPart ·.char) :=
            (List.prefix_iff_eq_take.1 (List.takeWhile_prefix _)).symm
          rw [taken]
          refine ⟨⟨r.char, (rest.takeWhile (isIdentPart ·.char)).map Scalar.char, ?_, ?_, ?_⟩, kind⟩
          · simp [Text.shown]
          · exact ⟨blank, symbol, dash, by simpa using digit, start⟩
          · rw [List.all_map]
            exact List.all_takeWhile
        · cases h

/-- Every identifier of a source is a name. -/
theorem isName_of_tokens {src : Source} :
    ∀ t ∈ tokens src, t.kind = .ident → IsName t.lit := by
  suffices h : ∀ n c, ∀ t ∈ tokensFrom n c, t.kind = .ident → IsName t.lit from h _ _
  intro n
  induction n with
  | zero => simp [tokensFrom]
  | succ n ih =>
    intro c t ht ident
    have first : c.next.1.kind = .ident → IsName c.next.1.lit := by
      intro ident
      unfold Cursor.next at ident ⊢
      have notBlank := skipFrom_notBlank false c.pos c.rest
      rw [← Cursor.skip] at notBlank
      generalize c.skip = start at ident notBlank ⊢
      obtain ⟨pos, rest⟩ := start
      cases rest with
      | nil => cases ident
      | cons r rest =>
        exact isName_of_tokenAt (notBlank r rfl) (Prod.ext ident rfl)
    simp only [tokensFrom] at ht
    split at ht
    · obtain rfl := List.mem_singleton.1 ht
      exact first ident
    · obtain rfl | tail := List.mem_cons.1 ht
      · exact first ident
      · exact ih _ t tail ident

end TermBot.Surface

import TermBot.Proofs.Surface.Lookahead

/-!
# A fault is at the first offending token

The parser looks one token ahead, and whatever it has taken can be continued to a term. So it rejects
at the first token that no term goes on with, which is the end of input if the tokens are a part of a
term that is not complete (`parseTokens_error`).

`Prompts` is the invariant of the recursion: wherever a phrase may stand, the parser of the phrase
is prompt. At each place where it can reject, a derivation is given that goes on from there.
-/

namespace TermBot.Surface

variable {stop : Pos} {L : List Token → Prop} {n : Nat} {toks : List Token}

/-- Wherever the tokens of the trees may stand, `p` is prompt. Depth `n` is enough for the tokens and
`slack` levels more. -/
def Prompts {α τ : Type} (stop : Pos) (p : Nat → List Token → Except Fault (α × List Token))
    (tokens : τ → List Token) (slack n : Nat) : Prop :=
  ∀ {L : List Token → Prop} {toks : List Token}, 2 * toks.length + slack ≤ n →
    (∀ d, Viable L (tokens d)) → Prompt stop L p n toks

/-! ## Types -/

instance : Inhabited TypeAtomTree := ⟨.empty default default⟩

instance : Inhabited TypeTree := ⟨.atom default⟩

/-- One level of the recursion on types; the levels below are given. -/
theorem typeExpr_prompts (types : Prompts stop (typeExpr stop) TypeTree.tokens 2 n)
    (atoms : Prompts stop (typeAtom stop) TypeAtomTree.tokens 1 n) :
    Prompts stop (typeExpr stop) TypeTree.tokens 2 (n + 1) := by
  intro L toks depth viable
  apply Prompt.succ
  by_cases quantifier : (peek stop toks).kind = .quantifier
  · obtain ⟨q, toks, rfl⟩ := exists_tok quantifier (by decide)
    rw [List.length_cons] at depth
    refine .names (fun _ _ => typeExpr_unnamed q) (fun _ v vs _ => typeExpr_named q v vs)
      (typeExpr_sound n) (fun le => types (by omega)) fun v vs d body => ?_
    simpa [TypeTree.tokens] using viable (.all q v vs d body)
  · refine .look (fun _ _ _ next => typeExpr_of_ne (next ▸ quantifier)) ?_
    refine .bind (types_sound n).2 (atoms (by omega) fun a => ?_) fun a rest len => ?_
    · simpa only [TypeTree.tokens] using viable (.atom a)
    · by_cases arrow : (peek stop rest).kind = .arrow
      · obtain ⟨m, rest, rfl⟩ := exists_tok arrow (by decide)
        rw [List.length_cons] at len
        refine .skip [m.token] (fun _ _ _ _ => if_pos m.peek) ?_
        refine .bind (typeExpr_sound n) (types ?_ fun b => ?_) fun _ _ _ => .pure _
        · show 2 * rest.length + 2 ≤ n
          omega
        · simpa [TypeTree.tokens] using viable (.arrow a m b)
      · exact .look (fun _ _ _ next => if_neg (next ▸ arrow)) (.pure _)

/-- One level of the recursion on types that need no parentheses. -/
theorem typeAtom_prompts (types : Prompts stop (typeExpr stop) TypeTree.tokens 2 n) :
    Prompts stop (typeAtom stop) TypeAtomTree.tokens 1 (n + 1) := by
  intro L toks depth viable
  apply Prompt.succ
  by_cases name : (peek stop toks).kind = .ident
  · obtain ⟨x, rest, rfl⟩ := exists_tok name (by decide)
    exact .skip [x.token] (fun _ _ _ _ => typeAtom_name x) (.pure _)
  by_cases one : (peek stop toks).kind = .number ∧ (peek stop toks).lit = "1"
  · obtain ⟨x, rest, rfl⟩ := exists_tok one.1 (by decide)
    exact .skip [x.token] (fun _ _ _ _ => typeAtom_one x one.2) (.pure _)
  by_cases paren : (peek stop toks).kind = .lparen
  · obtain ⟨l, toks, rfl⟩ := exists_tok paren (by decide)
    by_cases close : (peek stop toks).kind = .rparen
    · obtain ⟨r, rest, rfl⟩ := exists_tok close (by decide)
      exact .skip [l.token, r.token] (fun _ _ _ _ => typeAtom_empty l r) (.pure _)
    · rw [List.length_cons] at depth
      have inner (a : TypeTree) : Viable L (l.token :: a.tokens) :=
        (viable (.parens l a default)).mono (by simp [TypeAtomTree.tokens])
      refine .skip [l.token] (fun _ _ _ next => typeAtom_open l (next ▸ close)) ?_
      refine .bind (typeExpr_sound n) (types (by omega) fun a => ?_) fun a _ _ => ?_
      · simpa using inner a
      · refine .bind expect_sound (.expect _ ?_) fun _ _ _ => .pure _
        simpa using inner a
  · refine .look (fun _ _ _ next => typeAtom_eq_reject (next ▸ name) (next ▸ one) (next ▸ paren)) ?_
    exact .reject _ (viable default).nil

theorem types_prompt (n : Nat) :
    Prompts stop (typeExpr stop) TypeTree.tokens 2 n ∧
      Prompts stop (typeAtom stop) TypeAtomTree.tokens 1 n := by
  induction n with
  | zero => exact ⟨fun depth => by omega, fun depth => by omega⟩
  | succ n ih => exact ⟨typeExpr_prompts ih.1 ih.2, typeAtom_prompts ih.1⟩

/-! ## Terms -/

instance : Inhabited AtomTree := ⟨.unit default default⟩

instance : Inhabited TermTree := ⟨.app default .none⟩

/-- A term in the place of the arguments. -/
def TermTree.args : TermTree → ArgsTree
  | .binder b => .last b
  | .app fn args => .more fn args

theorem TermTree.args_tokens (d : TermTree) : d.args.tokens = d.tokens := by
  cases d with
  | binder b => simp only [TermTree.args, ArgsTree.tokens, TermTree.tokens]
  | app fn args => simp only [TermTree.args, ArgsTree.tokens, TermTree.tokens]

theorem optionalType_prompts (n : Nat) :
    Prompts stop (optionalType stop) AnnotationTree.tokens 1 n := by
  intro L toks depth viable
  obtain ⟨n, rfl⟩ : ∃ m, n = m + 1 := ⟨n - 1, by omega⟩
  apply Prompt.succ
  by_cases colon : (peek stop toks).kind = .colon
  · obtain ⟨c, toks, rfl⟩ := exists_tok colon (by decide)
    rw [List.length_cons] at depth
    refine .skip [c.token] (fun _ _ _ _ => optionalType_colon c) ?_
    refine .bind (typeExpr_sound n) ((types_prompt n).1 (by omega) fun ty => ?_) fun _ _ _ => .pure _
    simpa [AnnotationTree.tokens] using viable (some (c, ty))
  · exact .look (fun _ _ _ next => optionalType_of_ne (next ▸ colon)) (.pure _)

/-- A binding, after its keyword was seen. -/
theorem letIn_prompt (terms : Prompts stop (term stop) TermTree.tokens 2 n) (k : Tok .letKeyword)
    (depth : 2 * toks.length + 2 ≤ n) (viable : ∀ d : TermTree, Viable L d.tokens) :
    Prompt stop L (fun k => term stop (k + 1)) n (k.token :: toks) := by
  -- At each token that the parser asks for, a part of this has been taken.
  have whole (x : Tok .ident) (ty : AnnotationTree) (e : Tok .equals) (v : TermTree)
      (i : Tok .inKeyword) (b : TermTree) :
      Viable L (k.token :: x.token :: (ty.tokens ++ e.token :: (v.tokens ++ i.token :: b.tokens))) := by
    simpa only [TermTree.tokens, BinderTree.tokens] using viable (.binder (.letIn k x ty e v i b))
  refine .skip [k.token] (fun _ _ _ _ => term_keyword k) ?_
  refine .bind expect_sound (.expect _ ?_) fun x rest lenName => ?_
  · simpa only [viable_after] using (whole default default default default default default).mono (by simp)
  refine .bind (optionalType_sound n) (optionalType_prompts n (by omega) fun ty => ?_) fun ty rest lenType => ?_
  · simpa only [viable_after] using (whole x ty default default default default).mono (by simp)
  refine .bind expect_sound (.expect _ ?_) fun e rest lenEquals => ?_
  · simpa only [viable_after] using (whole x ty default default default default).mono (by simp)
  refine .bind (term_sound n) (terms (by omega) fun v => ?_) fun v rest lenValue => ?_
  · simpa only [viable_after] using (whole x ty e v default default).mono (by simp)
  refine .bind expect_sound (.expect _ ?_) fun i rest lenIn => ?_
  · simpa only [viable_after] using (whole x ty e v default default).mono (by simp)
  refine .bind (term_sound n) (terms (by omega) fun b => ?_) fun _ _ _ => .pure _
  simpa only [viable_after] using (whole x ty e v i b).mono (by simp)

/-- One level of the recursion on terms; the levels below are given. -/
theorem term_prompts (terms : Prompts stop (term stop) TermTree.tokens 2 n)
    (atoms : Prompts stop (atom stop) AtomTree.tokens 1 n)
    (args : ∀ fn, Prompts stop (fun k => arguments stop k fn) ArgsTree.tokens 3 n) :
    Prompts stop (term stop) TermTree.tokens 2 (n + 1) := by
  intro L toks depth viable
  apply Prompt.succ
  by_cases lambda : (peek stop toks).kind = .lambda
  · obtain ⟨m, toks, rfl⟩ := exists_tok lambda (by decide)
    rw [List.length_cons] at depth
    refine .names (fun _ _ => term_unnamed m) (fun _ x xs _ => term_named m x xs) (term_sound n)
      (fun le => terms (by omega)) fun x xs d body => ?_
    simpa [TermTree.tokens, BinderTree.tokens] using viable (.binder (.lam m x xs d body))
  by_cases keyword : (peek stop toks).kind = .letKeyword
  · obtain ⟨k, toks, rfl⟩ := exists_tok keyword (by decide)
    rw [List.length_cons] at depth
    exact letIn_prompt terms k (by omega) viable
  refine .look (fun _ _ _ next => term_of_ne (next ▸ lambda) (next ▸ keyword)) ?_
  refine .bind (terms_sound n).2.1 (atoms (by omega) fun fn => ?_) fun fn rest len => ?_
  · simpa [TermTree.tokens, ArgsTree.tokens] using viable (.app fn .none)
  · have nonempty := fn.leads.length_pos
    refine args _ (by omega) fun as => ?_
    simpa [TermTree.tokens] using viable (.app fn as)

/-- One level of the recursion on arguments. -/
theorem arguments_prompts (terms : Prompts stop (term stop) TermTree.tokens 2 n)
    (atoms : Prompts stop (atom stop) AtomTree.tokens 1 n)
    (args : ∀ fn, Prompts stop (fun k => arguments stop k fn) ArgsTree.tokens 3 n) (fn : Term) :
    Prompts stop (fun k => arguments stop k fn) ArgsTree.tokens 3 (n + 1) := by
  intro L toks depth viable
  apply Prompt.succ
  by_cases starts : (peek stop toks).kind ∈ atomLeads
  · refine .look (fun _ _ _ next => arguments_atom fn (next ▸ starts)) ?_
    refine .bind (terms_sound n).2.1 (atoms (by omega) fun a => ?_) fun a rest len => ?_
    · simpa [ArgsTree.tokens] using viable (.more a .none)
    · have nonempty := a.leads.length_pos
      refine args _ (by omega) fun as => ?_
      simpa [ArgsTree.tokens] using viable (.more a as)
  by_cases binds : (peek stop toks).kind ∈ binderLeads
  · refine .look (fun _ _ _ next => arguments_binder fn (next ▸ binds)) ?_
    refine .bind (term_sound n) (terms (by omega) fun d => ?_) fun _ _ _ => .pure _
    exact d.args_tokens ▸ viable d.args
  have other : (peek stop toks).kind ∉ argLeads := notMem_argLeads starts binds
  exact .look (fun _ _ _ next => arguments_of_ne fn (next ▸ other)) (.pure _)

/-- One level of the recursion on terms that need no parentheses. -/
theorem atom_prompts (terms : Prompts stop (term stop) TermTree.tokens 2 n) :
    Prompts stop (atom stop) AtomTree.tokens 1 (n + 1) := by
  intro L toks depth viable
  apply Prompt.succ
  by_cases name : (peek stop toks).kind = .ident
  · obtain ⟨x, rest, rfl⟩ := exists_tok name (by decide)
    exact .skip [x.token] (fun _ _ _ _ => atom_name x) (.pure _)
  by_cases paren : (peek stop toks).kind = .lparen
  · obtain ⟨l, toks, rfl⟩ := exists_tok paren (by decide)
    by_cases close : (peek stop toks).kind = .rparen
    · obtain ⟨r, rest, rfl⟩ := exists_tok close (by decide)
      exact .skip [l.token, r.token] (fun _ _ _ _ => atom_empty l r) (.pure _)
    · rw [List.length_cons] at depth
      have inner (d : TermTree) (ty : AnnotationTree) : Viable L (l.token :: (d.tokens ++ ty.tokens)) :=
        (viable (.parens l d ty default)).mono (by simp [AtomTree.tokens])
      refine .skip [l.token] (fun _ _ _ next => atom_open l (next ▸ close)) ?_
      refine .bind (term_sound n) (terms (by omega) fun d => ?_) fun d rest len => ?_
      · simpa [AnnotationTree.tokens] using inner d none
      refine .bind (optionalType_sound n) (optionalType_prompts n (by omega) fun ty => ?_)
        fun ty _ _ => ?_
      · simpa using inner d ty
      refine .bind expect_sound (.expect _ ?_) fun _ _ _ => .pure _
      simpa using inner d ty
  have other : (peek stop toks).kind ∉ atomLeads := notMem_atomLeads name paren
  exact .look (fun _ _ _ next => atom_eq_reject (next ▸ other)) (.reject _ (viable default).nil)

theorem terms_prompt (n : Nat) :
    Prompts stop (term stop) TermTree.tokens 2 n ∧ Prompts stop (atom stop) AtomTree.tokens 1 n ∧
      ∀ fn, Prompts stop (fun k => arguments stop k fn) ArgsTree.tokens 3 n := by
  induction n with
  | zero => exact ⟨fun depth => by omega, fun depth => by omega, fun _ _ _ depth => by omega⟩
  | succ n ih =>
    obtain ⟨terms, atoms, args⟩ := ih
    exact ⟨term_prompts terms atoms args, atom_prompts terms, arguments_prompts terms atoms args⟩

/-! ## All tokens of a source -/

/-- The tokens of a term. -/
def Sentence (toks : List Token) : Prop := ∃ d : TermTree, d.tokens = toks

/-- The tokens before number `k` can be continued to a term, those up to and with it cannot. -/
def Offends (toks : List Token) (k : Nat) : Prop :=
  Viable Sentence (toks.take k) ∧ ¬ Viable Sentence (toks.take (k + 1))

/-- No two tokens of a list offend. -/
theorem Offends.unique {j k : Nat} (hj : Offends toks j) (hk : Offends toks k) : j = k := by
  obtain lt | eq | gt := Nat.lt_trichotomy j k
  · exact absurd (hk.1.mono (List.take_prefix_take_left lt)) hj.2
  · exact eq
  · exact absurd (hj.1.mono (List.take_prefix_take_left gt)) hk.2

theorem TermTree.viable (d : TermTree) : Viable Sentence d.tokens := ⟨[], d, (List.append_nil _).symm⟩

/-- With enough depth, the parser reads all tokens of a term. -/
theorem Sentence.read (h : Sentence toks) (stop : Pos) (n : Nat) :
    ∃ m ≥ n, ∃ t, term stop m toks = .ok (t, []) := by
  obtain ⟨d, rfl⟩ := h
  have run : term stop (n + 2 * d.tokens.length + 1) (d.tokens ++ []) = .ok (d.term, []) :=
    d.read (by omega) stops_nil
  rw [List.append_nil] at run
  exact ⟨_, by omega, d.term, run⟩

/-- Where the parser rejects, the tokens before are a part of a term, and no term goes on with the
next token. -/
theorem parseTokens_stuck {f : Fault} (h : parseTokens stop toks = .error f) :
    ∃ before after, toks = before ++ after ∧ f.pos = (peek stop after).pos ∧ Viable Sentence before ∧
      ∀ more, ¬ Sentence (before ++ peek stop after :: more) := by
  have run : Prompt stop Sentence (term stop) (2 * toks.length + 4) toks :=
    (terms_prompt _).1 (by omega) TermTree.viable
  generalize depth : 2 * toks.length + 4 = n at run
  rw [parseTokens, depth] at h
  cases run with
  | takes a taken rest again =>
    -- A term was read, and the tokens go on where a term cannot.
    have now := again n (Nat.le_refl n) rest rfl
    obtain ⟨d, split, -⟩ := term_sound n _ _ _ now
    obtain rfl := List.append_cancel_right split
    rw [now, ok_bind] at h
    cases rest with
    | nil => cases h
    | cons t rest =>
      cases h
      refine ⟨d.tokens, t :: rest, rfl, rfl, d.viable, fun more sentence => ?_⟩
      obtain ⟨m, le, t', whole⟩ := sentence.read stop n
      cases whole.symm.trans (again m le (t :: more) rfl)
  | rejects f' before after place viable again =>
    rw [again n (Nat.le_refl n) after rfl] at h
    cases h
    refine ⟨before, after, rfl, place, viable, fun more sentence => ?_⟩
    obtain ⟨m, le, t, whole⟩ := sentence.read stop n
    cases whole.symm.trans (again m le (peek stop after :: more) rfl)

/-- A fault is at the one token that offends, where the end of input counts as a token. It is the end of input
just if all tokens before it are the beginning of a term, and then they are not all of one. -/
theorem parseTokens_error (stop : Pos) (toks : List Token) (f : Fault)
    (h : parseTokens stop toks = .error f) :
    ¬ Sentence toks ∧ ∃ (k : Nat) (t : Token), (toks ++ [Token.atEnd stop])[k]? = some t ∧ f.pos = t.pos ∧
      (∀ j, Offends (toks ++ [Token.atEnd stop]) j ↔ j = k) ∧ (k = toks.length ↔ Viable Sentence toks) := by
  have incomplete : ¬ Sentence toks := by
    rintro ⟨d, rfl⟩
    rw [parseTokens_complete] at h
    cases h
  obtain ⟨before, after, rfl, place, viable, refuses⟩ := parseTokens_stuck h
  have stuck : ¬ Viable Sentence (before ++ [peek stop after]) := by
    rintro ⟨more, sentence⟩
    rw [List.append_assoc] at sentence
    exact refuses more sentence
  obtain ⟨rest, next⟩ : ∃ rest, after ++ [Token.atEnd stop] = peek stop after :: rest := by
    cases after with
    | nil => exact ⟨[], rfl⟩
    | cons t rest => exact ⟨rest ++ [Token.atEnd stop], rfl⟩
  have whole : (before ++ after) ++ [Token.atEnd stop] = before ++ peek stop after :: rest := by
    rw [List.append_assoc, next]
  have offends : Offends ((before ++ after) ++ [Token.atEnd stop]) before.length := by
    rw [whole]
    constructor
    · rwa [List.take_left]
    · rwa [List.take_length_add_append]
  refine ⟨incomplete, before.length, peek stop after, ?_, place, ?_, ?_⟩
  · rw [whole, List.getElem?_append_right (Nat.le_refl _), Nat.sub_self]
    rfl
  · exact fun j => ⟨fun other => other.unique offends, fun eq => eq ▸ offends⟩
  · cases after with
    | nil => simp [viable]
    | cons t after =>
      have part : before ++ [t] <+: before ++ t :: after := ⟨after, by simp⟩
      simpa using fun whole : Viable Sentence (before ++ t :: after) => stuck (whole.mono part)

/-- A binding that ends after its value: the end of input is where `in` is missing. -/
theorem parseTokens_error_let :
    let toks : List Token := [⟨.letKeyword, "let", ⟨0, 1, 1⟩⟩, ⟨.ident, "f", ⟨4, 1, 5⟩⟩,
      ⟨.equals, "=", ⟨6, 1, 7⟩⟩, ⟨.ident, "x", ⟨8, 1, 9⟩⟩]
    let stop : Pos := ⟨9, 1, 10⟩
    let f : Fault := ⟨stop, .missing .letIn (.atEnd stop)⟩
    parseTokens stop toks = .error f ∧
      ¬ Sentence toks ∧ ∃ (k : Nat) (t : Token), (toks ++ [Token.atEnd stop])[k]? = some t ∧ f.pos = t.pos ∧
        (∀ j, Offends (toks ++ [Token.atEnd stop]) j ↔ j = k) ∧ (k = toks.length ↔ Viable Sentence toks) :=
  ⟨by rfl, parseTokens_error _ _ _ (by rfl)⟩

end TermBot.Surface

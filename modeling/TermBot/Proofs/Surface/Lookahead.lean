import TermBot.Proofs.Surface.ParserComplete

/-!
# Parsers that look one token ahead

A parser that looks at no more than the next token does the same on all lists that agree up to the
place where it stops and in the next token there. If what it took before it rejects can still be
continued to something acceptable, the next token is the first that is wrong: whatever comes after
that token, the parser rejects again.

`Prompt` says this of one run. Its rules follow the ways in which the parser is put together: it
skips tokens that it has looked at, it runs one parser after another, it takes the token for a slot,
it stops, and it rejects.
-/

namespace TermBot.Surface

/-- The tokens can be continued to a list in `L`. -/
def Viable (L : List Token → Prop) (toks : List Token) : Prop := ∃ more, L (toks ++ more)

/-- What can follow the tokens `taken` in a list in `L`. -/
def After (L : List Token → Prop) (taken : List Token) : List Token → Prop := fun toks => L (taken ++ toks)

/-- What the parser `p` does on the tokens with depth `n`, it does with any larger depth on all tokens
that agree with these up to the next token where it stops. What it takes before it rejects can be
continued to a list in `L`. -/
inductive Prompt {α : Type} (stop : Pos) (L : List Token → Prop)
    (p : Nat → List Token → Except Fault (α × List Token)) (n : Nat) : List Token → Prop
  | takes (a : α) (taken rest : List Token)
      (again : ∀ m ≥ n, ∀ rest', peek stop rest' = peek stop rest →
        p m (taken ++ rest') = .ok (a, rest')) :
      Prompt stop L p n (taken ++ rest)
  | rejects (f : Fault) (before after : List Token) (place : f.pos = (peek stop after).pos)
      (viable : Viable L before)
      (again : ∀ m ≥ n, ∀ after', peek stop after' = peek stop after →
        p m (before ++ after') = .error f) :
      Prompt stop L p n (before ++ after)

variable {stop : Pos} {L : List Token → Prop} {n : Nat} {toks rest taken : List Token}

instance (k : TokenKind) : Inhabited (Tok k) := ⟨⟨k, "", .start⟩, rfl⟩

section Viable

@[simp] theorem viable_after : Viable (After L taken) toks ↔ Viable L (taken ++ toks) := by
  simp only [Viable, After, List.append_assoc]

theorem Viable.mono {longer : List Token} (h : Viable L longer) (le : toks <+: longer) : Viable L toks := by
  obtain ⟨mid, rfl⟩ := le
  obtain ⟨more, mem⟩ := h
  exact ⟨mid ++ more, by rwa [← List.append_assoc]⟩

theorem Viable.nil (h : Viable L toks) : Viable L [] := h.mono List.nil_prefix

end Viable

theorem peek_append {r s : List Token} (h : peek stop r = peek stop s) :
    peek stop (taken ++ r) = peek stop (taken ++ s) := by
  cases taken with
  | nil => exact h
  | cons t ts => rfl

/-- A rejection depends on the next token only. -/
theorem reject_congr {α : Type} (cause : Token → Cause) {r s : List Token}
    (h : peek stop r = peek stop s) : (reject stop cause r : Except Fault α) = reject stop cause s := by
  unfold reject
  rw [h]

/-- Taking the token for a slot, in terms of the next token. -/
theorem expect_eq_reject {slot : Slot} (h : (peek stop toks).kind ≠ slot.kind) :
    expect stop slot toks = reject stop (.missing slot) toks := by
  cases toks with
  | nil => rfl
  | cons t toks => exact if_neg h

/-- The token that the parser takes for a slot is of its kind. -/
theorem expect_sound {slot : Slot} :
    Takes (expect stop slot) (fun t : Tok slot.kind => [t.token]) Tok.token := by
  intro toks t rest h
  obtain ⟨u, rfl, rfl⟩ := expect_eq_ok h rfl
  exact ⟨u, rfl, rfl⟩

namespace Prompt

variable {α β : Type} {p q : Nat → List Token → Except Fault (α × List Token)}

/-- A level of recursion. -/
theorem succ (h : Prompt stop L (fun k => p (k + 1)) n toks) : Prompt stop L p (n + 1) toks := by
  cases h with
  | takes a taken rest again =>
    refine .takes a taken rest fun m le rest' next => ?_
    obtain ⟨k, rfl⟩ : ∃ k, m = k + 1 := ⟨m - 1, by omega⟩
    exact again k (by omega) rest' next
  | rejects f before after place viable again =>
    refine .rejects f before after place viable fun m le after' next => ?_
    obtain ⟨k, rfl⟩ : ∃ k, m = k + 1 := ⟨m - 1, by omega⟩
    exact again k (by omega) after' next

/-- After some tokens, in view of the next one, `p` goes on as `q`. -/
theorem skip (taken : List Token)
    (goes : ∀ k ≥ n, ∀ rest', peek stop rest' = peek stop rest → p k (taken ++ rest') = q k rest')
    (h : Prompt stop (After L taken) q n rest) : Prompt stop L p n (taken ++ rest) := by
  cases h with
  | takes a more rest again =>
    rw [← List.append_assoc]
    refine .takes a (taken ++ more) rest fun m le rest' next => ?_
    rw [List.append_assoc, goes m le _ (peek_append next)]
    exact again m le rest' next
  | rejects f before after place viable again =>
    rw [← List.append_assoc]
    refine .rejects f (taken ++ before) after place (viable_after.1 viable) fun m le after' next => ?_
    rw [List.append_assoc, goes m le _ (peek_append next)]
    exact again m le after' next

/-- In view of the next token, `p` goes on as `q`. -/
theorem look (goes : ∀ k ≥ n, ∀ toks', peek stop toks' = peek stop toks → p k toks' = q k toks')
    (h : Prompt stop L q n toks) : Prompt stop L p n toks :=
  skip [] goes h

theorem pure (a : α) : Prompt stop L (fun _ rest => .ok (a, rest)) n toks :=
  .takes a [] toks fun _ _ _ _ => rfl

theorem reject (cause : Token → Cause) (viable : Viable L []) :
    Prompt stop L (fun _ toks => (Surface.reject stop cause toks : Except Fault (α × List Token)))
      n toks :=
  .rejects _ [] toks rfl viable fun _ _ _ next => reject_congr cause next

theorem expect (slot : Slot) (viable : Viable L []) :
    Prompt stop L (fun _ => Surface.expect stop slot) n toks := by
  by_cases fills : (peek stop toks).kind = slot.kind
  · obtain ⟨t, rest, rfl⟩ := exists_tok fills (by cases slot <;> decide)
    exact .takes t.token [t.token] rest fun _ _ _ _ => t.expect slot rfl
  · refine .look (fun _ _ toks' next => ?_) (.reject (.missing slot) viable)
    exact expect_eq_reject (next ▸ fills)

/-- One parser after another. What the first one takes are the tokens of a tree. -/
theorem bind {τ : Type} {tokens : τ → List Token} {denotes : τ → α}
    {f : Nat → α × List Token → Except Fault (β × List Token)}
    (sound : Takes (p n) tokens denotes) (first : Prompt stop L p n toks)
    (next : ∀ d rest, toks.length = (tokens d).length + rest.length →
      Prompt stop (After L (tokens d)) (fun k rest => f k (denotes d, rest)) n rest) :
    Prompt stop L (fun k toks => p k toks >>= f k) n toks := by
  cases first with
  | takes a taken rest again =>
    -- What was taken is the tokens of a tree, and the second parser starts right after them.
    obtain ⟨d, split, rfl⟩ := sound _ _ _ (again n (Nat.le_refl n) rest rfl)
    obtain rfl := List.append_cancel_right split
    refine .skip (tokens d) (fun m le rest' ahead => ?_) (next d rest List.length_append)
    rw [again m le rest' ahead, ok_bind]
  | rejects f before after place viable again =>
    refine .rejects f before after place viable fun m le after' next => ?_
    rw [again m le after' next]
    rfl

/-- A mark, names up to a dot, and a body, as they stand in abstractions and in quantified types. -/
theorem names {τ : Type} [Inhabited τ] {t : Token} {cause : Token → Cause} {slot : Slot}
    {body : Nat → List Token → Except Fault (β × List Token)} {tokens : τ → List Token}
    {denotes : τ → β} {build : List Token → β → α}
    (unnamed : ∀ k rest, (peek stop rest).kind ≠ .ident →
      p k (t :: rest) = Surface.reject stop cause rest)
    (named : ∀ k (v : Tok .ident) (vs : List (Tok .ident)) rest, (peek stop rest).kind ≠ .ident →
      p k (t :: v.token :: vs.map Tok.token ++ rest) = do
        let (_, rest) ← Surface.expect stop slot rest
        let (b, rest) ← body k rest
        return (build (v.token :: vs.map Tok.token) b, rest))
    (sound : Takes (body n) tokens denotes)
    (prompt : ∀ {L : List Token → Prop} {rest : List Token}, rest.length ≤ toks.length →
      (∀ d, Viable L (tokens d)) → Prompt stop L body n rest)
    (viable : ∀ (v : Tok .ident) (vs : List (Tok .ident)) (d : Tok slot.kind) b,
      Viable L (t :: v.token :: vs.map Tok.token ++ d.token :: tokens b)) :
    Prompt stop L p n (t :: toks) := by
  obtain ⟨vars, rest, rfl, ends⟩ := exists_identifiers stop toks
  cases vars with
  | nil =>
    refine .skip [t] (fun k _ rest' next => unnamed k rest' (next ▸ ends)) (.reject cause ?_)
    exact viable_after.2 ((viable default [] default default).mono (by simp))
  | cons v vs =>
    refine .skip (t :: v.token :: vs.map Tok.token)
      (fun k _ rest' next => named k v vs rest' (next ▸ ends)) ?_
    refine .bind expect_sound (.expect slot ?_) fun d after len => ?_
    · exact viable_after.2 ((viable v vs default default).mono (by simp))
    · have le : after.length ≤ (List.map Tok.token (v :: vs) ++ rest).length := by
        rw [List.length_append]
        omega
      refine .bind sound (prompt le fun b => ?_) fun _ _ _ => .pure _
      simpa using viable v vs d b

end Prompt

end TermBot.Surface

import TermBot.Proofs.Bot.Authority

/-!
# The presence in force

The bot asks the chat for a presence when it has connected, and again when it takes a configuration whose status
differs from the one before. The chat may refuse. As long as no command sets the presence, what was asked for last
is the status of the configuration in force (`Settled.handle`), so that it is shown if the chat took it
(`apply_in_force`). A refusal is reported once and is then forgotten: taking the same configuration again asks for
nothing and succeeds, while the chat still shows what it did before (`apply_not_in_force`).
-/

namespace TermBot.Bot

/-! ### What was asked for -/

/-- The presence that an effect asks for. -/
def Effect.presence? : Effect → Option Activity
  | .deed (.presence a) => some a
  | _ => none

/-- A presence that was asked for, and whether the chat took it. -/
def Done.request? (d : Done) : Option (Activity × Bool) := d.effect.presence?.map (·, d.succeeded)

/-- The presences that were asked for, in this order. -/
def requests (done : List Done) : List (Activity × Bool) := done.filterMap Done.request?

/-- The presence that the chat shows: the last one that it took. -/
def inForce? (done : List Done) : Option Activity := ((requests done).filter (·.2)).getLast?.map (·.1)

theorem inForce?_of_taken {done : List Done} {a : Activity} (taken : (requests done).getLast? = some (a, true)) :
    inForce? done = some a := by
  obtain ⟨before, split⟩ := List.getLast?_eq_some_iff.1 taken
  rw [inForce?, split, List.filter_append, List.filter_cons_of_pos rfl, List.filter_nil, List.getLast?_concat]
  rfl

section

variable {σ ε α : Type}

theorem Adds.requests {s s' : Scene σ} (adds : Adds (·.presence? = none) s s') :
    requests s'.done = requests s.done := by
  obtain ⟨new, done, all⟩ := adds
  have none : new.filterMap Done.request? = [] := by
    refine List.filterMap_eq_nil_iff.2 fun d mem => ?_
    rw [Done.request?, all d mem]
    rfl
  rw [Bot.requests, done, List.filterMap_append, none, List.append_nil, Bot.requests]

theorem requests_presence (env : Env σ ε) (a : Activity) (s : Scene σ) :
    requests (env.deed (.presence a) s).2.done =
      requests s.done ++ [(a, (env.deed (.presence a) s).1.toOption.isSome)] :=
  List.filterMap_append

end

/-! ### Commands that leave the presence alone -/

/-- The event is a message that names a command which does `a`. -/
def State.names (b : State) (a : Action) : Env.Event → Bool
  | .message m => ((b.strip m.content m.isDirect).bind (lookup? groups)).any fun (_, c, _) => c.action = a
  | _ => false

/-- What is known after an event. -/
def State.next (b : State) : Env.Event → State
  | .ready r => { b with self := some r.user }
  | .apply c => { b with config := c }
  | _ => b

/-- No message among the events names the command that sets the presence. -/
def State.quiet (b : State) : List Env.Event → Bool
  | [] => true
  | e :: es => !b.names .status e && (b.next e).quiet es

namespace Env

variable {σ ε : Type} (env : Env σ ε) (b : State)

theorem snd_handle [Text.Measure] (e : Event) (s : Scene σ) : (env.handle b e s).1.2 = b.next e := by
  cases e with
  | message | press | ready => rfl
  | apply c =>
    rw [handle, apply]
    split <;> rfl

/-- All commands but one leave the presence alone. -/
theorem does_invoke_of_ne [Text.Measure] {a : Action} (other : a ≠ .status) (m : Message) (args : String) :
    Does (·.presence? = none) (env.invoke b m args a) := by
  cases a with
  | ping => exact env.does_ping (fun _ _ => rfl) (fun _ _ _ => rfl) m
  | help => exact env.does_help b (fun _ _ => rfl) m args
  | stop => exact env.does_stop (p := (·.presence? = none)) (fun _ _ _ => rfl) rfl m
  | status => exact absurd rfl other
  | stage depth => exact env.does_stage (fun _ _ => rfl) m args depth

theorem does_message_of_quiet [Text.Measure] {m : Message} (quiet : b.names .status (.message m) = false) :
    Does (·.presence? = none) (env.message b m) := by
  rw [message]
  split
  · exact .pure _
  split
  · exact .pure _
  case h_2 g c args found =>
  split
  · exact .pure _
  have other : c.action ≠ .status := by simpa [State.names, found] using quiet
  exact (env.does_invoke_of_ne b other m args).bind fun _ => .pure _

/-- A press leaves the presence alone. -/
theorem adds_press (p : Press) (s : Scene σ) : Adds (·.presence? = none) s (env.press b p s).2 := by
  obtain ⟨new, done, presses⟩ := env.done_press b p s
  refine ⟨new, done, ?_⟩
  cases presses <;> simp [Effect.presence?]

/-! ### The status of the configuration -/

/-- Once the bot is ready, it has asked last for the status of its configuration. -/
def Settled (b : State) (s : Scene σ) : Prop :=
  b.self.isSome = true → ∃ ok, (requests s.done).getLast? = some (b.config.status, ok)

variable {env b} {s : Scene σ}

theorem getLast?_requests_presence (a : Activity) (s : Scene σ) :
    ∃ ok, (requests (env.deed (.presence a) s).2.done).getLast? = some (a, ok) := by
  rw [requests_presence, List.getLast?_concat]
  exact ⟨_, rfl⟩

/-- Taking a configuration asks for nothing if the status is that of before, or before the bot is ready. -/
theorem apply_eq_of_kept {c : Config} (kept : (decide (b.config.status = c.status) || b.self.isNone) = true) :
    env.apply b c s = ((.ok (), { b with config := c }), s) := by
  rw [apply, if_pos kept]
  rfl

theorem apply_eq_of_changed {c : Config} (changed : (decide (b.config.status = c.status) || b.self.isNone) = false) :
    env.apply b c s =
      (((env.deed (.presence c.status) s).1.mapError .chat, { b with config := c }),
        (env.deed (.presence c.status) s).2) := by
  rw [apply, if_neg (by rw [changed]; exact Bool.false_ne_true)]
  rfl

theorem Settled.apply (settled : Settled b s) (c : Config) :
    Settled (b.next (.apply c)) (env.apply b c s).2 := by
  intro ready
  cases kept : decide (b.config.status = c.status) || b.self.isNone with
  | false =>
    rw [apply_eq_of_changed kept]
    exact getLast?_requests_presence _ s
  | true =>
    have same : b.config.status = c.status := by
      have known : b.self.isNone = false := Option.isNone_eq_false_iff.2 ready
      rw [known, Bool.or_false, decide_eq_true_eq] at kept
      exact kept
    rw [apply_eq_of_kept kept]
    exact same ▸ settled ready

/-- An event that does not name the command for it leaves the status of the configuration asked for last. -/
theorem Settled.handle [Text.Measure] {e : Event} (settled : Settled b s) (quiet : b.names .status e = false) :
    Settled (b.next e) (env.handle b e s).2 := by
  cases e with
  | message m =>
    intro ready
    exact (env.does_message_of_quiet b quiet s).requests ▸ settled ready
  | press p =>
    intro ready
    exact (env.adds_press b p s).requests ▸ settled ready
  | ready r => exact fun _ => getLast?_requests_presence _ s
  | apply c => exact settled.apply c

theorem Settled.handleAll [Text.Measure] {events : List Event} (settled : Settled b s) (quiet : b.quiet events = true) :
    Settled (env.handleAll b events s).1 (env.handleAll b events s).2 := by
  induction events generalizing b s with
  | nil => exact settled
  | cons e events ih =>
    obtain ⟨first, rest⟩ := Bool.and_eq_true_iff.1 quiet
    have next : Settled (b.next e) (env.handle b e s).2 := settled.handle (by simpa using first)
    rw [← env.snd_handle b e s] at next rest
    exact ih next rest

/-- **A presence that the chat takes is in force.** When any events have been handled, none of which is the command
that sets the presence, and a configuration is then applied with success while the bot is ready: the presence that
was asked for last is the status of that configuration, and it is the one that the chat shows, if the chat took it.
If not, it was refused before: applying the configuration has asked for nothing, as its status was that of the
configuration in force. -/
theorem apply_in_force [Text.Measure] {c next : Config} {w : σ} {before : List Event} {b' : State} {s' : Scene σ}
    (quiet : State.quiet { config := c } before = true)
    (handled : env.handleAll { config := c } before ⟨w, []⟩ = (b, s))
    (applied : env.handle b (.apply next) s = ((.ok (), b'), s')) (ready : b'.self.isSome = true) :
    ∃ ok, (requests s'.done).getLast? = some (next.status, ok) ∧
      (ok = true → inForce? s'.done = some next.status) ∧
      (ok = false → s' = s ∧ b.config.status = next.status) := by
  have start : Settled { config := c } (⟨w, []⟩ : Scene σ) := nofun
  have settled : Settled b s := by
    have run : Settled (env.handleAll _ before _).1 (env.handleAll _ before _).2 := start.handleAll quiet
    rwa [handled] at run
  have applied : env.apply b next s = ((.ok (), b'), s') := applied
  cases kept : decide (b.config.status = next.status) || b.self.isNone with
  | false =>
    rw [apply_eq_of_changed kept, Prod.mk.injEq, Prod.mk.injEq] at applied
    obtain ⟨⟨taken, -⟩, rfl⟩ := applied
    have taken : (env.deed (.presence next.status) s).1.toOption.isSome = true := by
      cases reply : (env.deed (.presence next.status) s).1 with
      | ok _ => rfl
      | error e => simp [reply, Except.mapError] at taken
    have last := requests_presence env next.status s
    rw [taken] at last
    have last : (requests (env.deed (.presence next.status) s).2.done).getLast? = some (next.status, true) := by
      rw [last, List.getLast?_concat]
    exact ⟨true, last, fun _ => inForce?_of_taken last, nofun⟩
  | true =>
    rw [apply_eq_of_kept kept, Prod.mk.injEq, Prod.mk.injEq] at applied
    obtain ⟨⟨-, rfl⟩, rfl⟩ := applied
    have known : b.self.isNone = false := Option.isNone_eq_false_iff.2 ready
    rw [known, Bool.or_false, decide_eq_true_eq] at kept
    obtain ⟨ok, last⟩ := settled ready
    rw [kept] at last
    refine ⟨ok, last, ?_, fun _ => ⟨rfl, kept⟩⟩
    rintro rfl
    exact inForce?_of_taken last

/-- A chat that refuses the second presence that it is asked for. -/
def refusesSecond : Env Nat Unit where
  engine := Pipeline.systemF 0
  render _ w := (.ok "", w)
  send channel _ w := (.ok ⟨"", channel, 0⟩, w)
  perform d w :=
    match d with
    | .presence _ => (if w = 1 then .error () else .ok (), w + 1)
    | _ => (.ok (), w)
  owners := []

/-- Another status is asked for after the refusal and taken. -/
theorem apply_in_force_retaken :
    letI := Text.terminal
    let playing (name : String) : Config := { Config.standard with status := { name, kind := "playing" } }
    let (b, s) := refusesSecond.handleAll { config := .standard } [.ready ⟨{}, 0⟩, .apply (playing "chess")] ⟨0, []⟩
    inForce? (refusesSecond.handle b (.apply (playing "go")) s).2.done = some (playing "go").status := by
  let : Text.Measure := Text.terminal
  intro playing
  let before : List Event := [.ready ⟨{}, 0⟩, .apply (playing "chess")]
  let refused := refusesSecond.handleAll { config := .standard } before ⟨0, []⟩
  have handled : refusesSecond.handleAll { config := .standard } before ⟨0, []⟩ = (refused.1, refused.2) := rfl
  have applied : refusesSecond.handle refused.1 (.apply (playing "go")) refused.2 = ((.ok (), _), _) := rfl
  obtain ⟨ok, -, taken, kept⟩ := apply_in_force (by decide +kernel) handled applied rfl
  cases ok with
  | false => exact absurd (kept rfl).2 (by decide +kernel)
  | true => exact taken rfl

/-- Applying the refused configuration again succeeds, and the chat still shows the status of before. -/
theorem apply_not_in_force :
    letI := Text.terminal
    let next : Config := { Config.standard with status := { name := "chess", kind := "playing" } }
    let before : List Event := [.ready ⟨{}, 0⟩, .apply next]
    let (b, s) := refusesSecond.handleAll { config := .standard } before ⟨0, []⟩
    let ((result, b'), s') := refusesSecond.handle b (.apply next) s
    State.quiet { config := .standard } before = true ∧ b'.self.isSome = true ∧ result = .ok () ∧
      inForce? s'.done = some Config.standardStatus ∧ Config.standardStatus ≠ next.status := by
  refine ⟨by decide +kernel, rfl, rfl, by decide +kernel, by decide +kernel⟩

end Env

end TermBot.Bot

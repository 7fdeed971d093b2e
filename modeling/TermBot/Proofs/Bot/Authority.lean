import TermBot.Bot.Basic
import TermBot.Proofs.Pipeline.Reports
import TermBot.Text.Width

/-!
# Who may do what

The commands that shut the bot down or set its presence are reached by no word that is not guarded: what a text
names comes out of the table of commands, and there they are for owners only (`guarded_of_lookup?`). What a press
of the button does depends on its custom id and its user alone, and it is one of a few short lists of effects
(`Presses`). So, whatever was handled before, what a user may not do is not done (`effects_warranted`).
-/

namespace TermBot

namespace Bot

/-! ### Custom ids -/

theorem toList_cleanupId (issuer : String) :
    (cleanupId issuer).toList = cleanupName.toList ++ ';' :: issuer.toList := by
  rw [cleanupId, String.toList_append, String.toList_append, List.append_assoc]
  rfl

/-- The custom ids that name an issuer are those of the button that retracts a reply. -/
theorem parseCustomId_eq_ok {id issuer : String} :
    parseCustomId id = .ok issuer ↔ id = cleanupId issuer ∧ issuer ≠ "" ∧ ';' ∉ issuer.toList := by
  constructor
  · intro parsed
    have joined := Text.joinWith_splitAt ';' id.toList
    have apart : ∀ piece ∈ Text.splitAt ';' id.toList, ';' ∉ piece := fun _ => Text.notMem_of_mem_splitAt
    rw [parseCustomId] at parsed
    generalize Text.splitAt ';' id.toList = pieces at parsed joined apart
    rcases pieces with _ | ⟨name, _ | ⟨arg, _ | ⟨more, others⟩⟩⟩
    · cases parsed
    · rw [List.map_cons, List.map_nil] at parsed
      dsimp only at parsed
      split at parsed <;> cases parsed
    · rw [List.map_cons, List.map_cons, List.map_nil] at parsed
      dsimp only at parsed
      split at parsed
      · cases parsed
      case isFalse named =>
      split at parsed
      · cases parsed
      case isFalse nonempty =>
      cases parsed
      have start : name = cleanupName.toList := by
        rw [← not_ne_iff.1 named, String.toList_ofList]
      refine ⟨?_, nonempty, ?_⟩
      · rw [← String.toList_inj, toList_cleanupId, ← joined, start, String.toList_ofList]
        rfl
      · rw [String.toList_ofList]
        exact apart arg (by simp)
    · rw [List.map_cons, List.map_cons, List.map_cons] at parsed
      dsimp only at parsed
      split at parsed <;> cases parsed
  · rintro ⟨rfl, nonempty, absent⟩
    rw [parseCustomId, toList_cleanupId, Text.splitAt_append_cons (by decide),
      Text.splitAt_of_notMem absent]
    simp [nonempty]

/-! ### What is privileged -/

/-- The effect is for owners only: it shuts the bot down or sets its presence. -/
def Effect.isPrivileged : Effect → Bool
  | .shutdown | .deed (.presence _) => true
  | _ => false

/-- The effect deletes a message. -/
def Effect.isDelete : Effect → Bool
  | .deed (.delete ..) => true
  | _ => false

/-- The command has effects for owners only. -/
def Action.isPrivileged : Action → Bool
  | .stop | .status => true
  | _ => false

/-- In the table of commands, what is privileged is for owners only. -/
theorem guarded_of_mem :
    ∀ g ∈ groups, ∀ c ∈ g.commands, c.action.isPrivileged = true →
      (g.ownersOnly || c.ownersOnly) = true := by
  decide

theorem mem_of_find? {g : Group} {c : Command} {word : String} (found : g.find? word = some c) :
    c ∈ g.commands :=
  List.mem_of_find?_eq_some found

theorem mem_of_lookup? {gs : List Group} {s args : String} {g : Group} {c : Command}
    (found : lookup? gs s = some (g, c, args)) : g ∈ gs ∧ c ∈ g.commands := by
  rw [lookup?] at found
  dsimp only at found
  split at found
  · cases found
  split at found
  case h_1 g' first =>
    obtain ⟨c', inside, same⟩ := Option.map_eq_some_iff.1 found
    cases same
    exact ⟨List.mem_of_find?_eq_some first, mem_of_find? inside⟩
  case h_2 =>
    obtain ⟨g', mem, here⟩ := List.exists_of_findSome?_eq_some found
    obtain ⟨c', inside, same⟩ := Option.map_eq_some_iff.1 here
    cases same
    exact ⟨(List.mem_filter.1 mem).1, mem_of_find? inside⟩

/-- No text names a privileged command that is not for owners only. -/
theorem guarded_of_lookup? {s args : String} {g : Group} {c : Command}
    (found : lookup? groups s = some (g, c, args)) (privileged : c.action.isPrivileged = true) :
    (g.ownersOnly || c.ownersOnly) = true :=
  guarded_of_mem g (mem_of_lookup? found).1 c (mem_of_lookup? found).2 privileged

/-! ### What handling does -/

variable {σ ε α β : Type}

/-- From one scene to the other effects were added to what was done, all of which satisfy `p`. -/
def Adds (p : Effect → Prop) (s s' : Scene σ) : Prop :=
  ∃ new, s'.done = s.done ++ new ∧ ∀ d ∈ new, p d.effect

/-- Handling adds effects that satisfy `p`. -/
def Does (p : Effect → Prop) (m : Handle σ α) : Prop := ∀ s, Adds p s (m s).2

theorem run_bind (m : Handle σ α) (f : α → Handle σ β) (s : Scene σ) : (m >>= f) s = f (m s).1 (m s).2 := rfl

section

variable {p q : Effect → Prop} {m : Handle σ α}

theorem Adds.of_same {s s' : Scene σ} (same : s'.done = s.done) : Adds p s s' :=
  ⟨[], same.trans (List.append_nil _).symm, nofun⟩

theorem Adds.trans {s₁ s₂ s₃ : Scene σ} (first : Adds p s₁ s₂) (second : Adds p s₂ s₃) : Adds p s₁ s₃ := by
  obtain ⟨new, done, all⟩ := first
  obtain ⟨more, after, others⟩ := second
  exact ⟨new ++ more, by rw [after, done, List.append_assoc], List.forall_mem_append.2 ⟨all, others⟩⟩

theorem Does.pure (a : α) : Does p (Pure.pure a : Handle σ α) := fun _ => .of_same rfl

theorem Does.bind {f : α → Handle σ β} (first : Does p m) (rest : ∀ a, Does p (f a)) : Does p (m >>= f) :=
  fun s => (first s).trans (rest (m s).1 (m s).2)

theorem Does.imp (does : Does p m) (weaker : ∀ e, p e → q e) : Does q m := by
  intro s
  obtain ⟨new, done, all⟩ := does s
  exact ⟨new, done, fun d mem => weaker _ (all d mem)⟩

theorem Does.doing {effect : Effect} (holds : p effect) (act : σ → Except ε α × σ) :
    Does p (Bot.doing effect act) :=
  fun _ => ⟨[⟨effect, _⟩], rfl, by simpa using holds⟩

end

namespace Env

variable (env : Env σ ε) (b : State) {p : Effect → Prop}

/-- The stages only send, and the engine does nothing to the chat. -/
theorem take_stages (sends : ∀ channel m, p (.send channel m)) (channel : String) :
    (env.stages channel).Take (Adds p) where
  refl _ := .of_same rfl
  trans := .trans
  parse _ _ := .of_same rfl
  resolve _ _ := .of_same rfl
  infer _ _ := .of_same rfl
  render _ _ := .of_same rfl
  report _ := Does.doing (sends _ _) _

theorem does_ping (sends : ∀ channel m, p (.send channel m))
    (edits : ∀ channel id m, p (.deed (.edit channel id m))) (m : Message) : Does p (env.ping m) := by
  refine (Does.doing (sends _ _) _).bind fun sent => ?_
  cases sent with
  | error e => exact .pure _
  | ok sent => exact (Does.doing (edits _ _ _) _).bind fun _ => .pure _

theorem does_help (sends : ∀ channel m, p (.send channel m)) (m : Message) (args : String) :
    Does p (env.help b m args) :=
  (Does.doing (sends _ _) _).bind fun _ => .pure _

theorem does_stage [Text.Measure] (sends : ∀ channel m, p (.send channel m)) (m : Message) (args : String)
    (depth : Pipeline.Depth) : Does p (env.stage m args depth) := by
  intro s
  have ran : Adds p s (Pipeline.run (env.stages m.channel) args depth ⟨s, []⟩).2.world :=
    (env.take_stages sends m.channel).run args depth ⟨s, []⟩
  rw [stage]
  simp only [bind, StateT.bind, get, getThe, MonadStateOf.get, StateT.get, StateT.run, set, pure]
  generalize Pipeline.run (env.stages m.channel) args depth ⟨s, []⟩ = out at ran ⊢
  obtain ⟨⟨res, err⟩, journal⟩ := out
  dsimp only
  -- unless nothing is left to show or an error to return, the sections are sent
  split
  · split
    · exact ran
    · split
      · exact ran
      · exact ran.trans (Does.doing (sends _ _) _ _)
  · split
    · exact ran
    · exact ran.trans (Does.doing (sends _ _) _ _)

theorem does_stop (reacts : ∀ channel id emoji, p (.deed (.react channel id emoji))) (shuts : p .shutdown)
    (m : Message) : Does p (env.stop m) := by
  refine (Does.doing (reacts _ _ _) _).bind fun done => ?_
  cases done with
  | error e => exact .pure _
  | ok _ => exact Does.bind (fun _ => ⟨[⟨.shutdown, true⟩], rfl, by simpa using shuts⟩) fun _ => .pure _

theorem does_status (sends : ∀ channel m, p (.send channel m))
    (reacts : ∀ channel id emoji, p (.deed (.react channel id emoji))) (shows : ∀ a, p (.deed (.presence a)))
    (m : Message) (args : String) : Does p (env.status m args) := by
  rw [status]
  split
  · refine (Does.doing (sends _ _) _).bind fun sent => ?_
    cases sent <;> exact .pure _
  · refine (Does.doing (shows _) _).bind fun done => ?_
    cases done with
    | error e => exact .pure _
    | ok _ => exact (Does.doing (reacts _ _ _) _).bind fun _ => .pure _

/-- No command deletes a message, and what is privileged is done by privileged commands. -/
theorem does_invoke [Text.Measure] (m : Message) (args : String) (a : Action) :
    Does (fun e => e.isDelete = false ∧ (e.isPrivileged = true → a.isPrivileged = true))
      (env.invoke b m args a) := by
  cases a with
  | ping => exact env.does_ping (fun _ _ => ⟨rfl, nofun⟩) (fun _ _ _ => ⟨rfl, nofun⟩) m
  | help => exact env.does_help b (fun _ _ => ⟨rfl, nofun⟩) m args
  | stop => exact env.does_stop (fun _ _ _ => ⟨rfl, fun _ => rfl⟩) ⟨rfl, fun _ => rfl⟩ m
  | status =>
    exact env.does_status (fun _ _ => ⟨rfl, nofun⟩) (fun _ _ _ => ⟨rfl, nofun⟩)
      (fun _ => ⟨rfl, fun _ => rfl⟩) m args
  | stage depth => exact env.does_stage (fun _ _ => ⟨rfl, nofun⟩) m args depth

/-- A message deletes nothing, and leads to what is privileged only if an owner wrote it who is no bot. -/
theorem does_message [Text.Measure] (m : Message) :
    Does (fun e => e.isDelete = false ∧
        (e.isPrivileged = true → m.author.isBot = false ∧ env.isOwner b m.author.id = true))
      (env.message b m) := by
  rw [message]
  split
  · exact .pure _
  case isFalse person =>
  split
  · exact .pure _
  case h_2 g c args found =>
  split
  · exact .pure _
  case isFalse allowed =>
  obtain ⟨rest, -, named⟩ := Option.bind_eq_some_iff.1 found
  refine ((env.does_invoke b m args c.action).imp fun e does => ⟨does.1, fun privileged => ?_⟩).bind
    fun _ => .pure _
  have guarded := guarded_of_lookup? named (does.2 privileged)
  rw [guarded, Bool.true_and, Bool.not_eq_true, Bool.not_eq_false'] at allowed
  exact ⟨by simpa using person, allowed⟩

theorem does_ready (shows : ∀ a, p (.deed (.presence a))) (r : Ready) : Does p (env.ready b r) :=
  (Does.doing (shows _) _).bind fun _ => .pure _

theorem does_apply (shows : ∀ a, p (.deed (.presence a))) (c : Config) : Does p (env.apply b c) := by
  rw [apply]
  split
  · exact .pure _
  · exact (Does.doing (shows _) _).bind fun _ => .pure _

/-- The user is an owner of the application, or listed as one in the configuration. -/
def IsOwner (c : Config) (id : String) : Prop := id ∈ env.owners ∨ id ∈ c.owners

/-- The user of the press may retract a reply to the issuer. -/
def MayRetract (c : Config) (p : Press) (issuer : String) : Prop :=
  p.user.id = issuer ∨ p.moderates = true ∨ env.IsOwner c p.user.id

theorem isOwner_iff {id : String} : env.isOwner b id = true ↔ env.IsOwner b.config id := by
  simp [isOwner, IsOwner, Config.isOwner]

/-- What a press does, with the configuration in force. -/
inductive Presses (c : Config) (p : Press) : List Done → Prop where
  /-- The custom id names no issuer. -/
  | ignored (nobody : ∀ issuer, p.customId = cleanupId issuer → issuer = "" ∨ ';' ∈ issuer.toList) :
      Presses c p []
  /-- The user is told that this is not permitted. -/
  | refused {issuer : String} (named : p.customId = cleanupId issuer) (forbidden : ¬ env.MayRetract c p issuer)
      (ok : Bool) : Presses c p [⟨.deed (.whisper p noPermission), ok⟩]
  /-- The press could not be acknowledged. -/
  | unanswered {issuer : String} (named : p.customId = cleanupId issuer) (allowed : env.MayRetract c p issuer) :
      Presses c p [⟨.deed (.acknowledge p), false⟩]
  /-- The press is acknowledged before the reply is deleted. -/
  | retracted {issuer : String} (named : p.customId = cleanupId issuer) (allowed : env.MayRetract c p issuer)
      (ok : Bool) : Presses c p [⟨.deed (.acknowledge p), true⟩, ⟨.deed (.delete p.channel p.message), ok⟩]

section

variable {env} {c : Config} {p : Press} {new : List Done}

theorem Presses.ne_shutdown (presses : env.Presses c p new) : ∀ d ∈ new, d.effect ≠ .shutdown := by
  cases presses <;> simp

theorem Presses.of_delete {channel message : String} (presses : env.Presses c p new) :
    ∀ d ∈ new, d.effect = .deed (.delete channel message) → ∃ issuer ok, p.customId = cleanupId issuer ∧
      env.MayRetract c p issuer ∧
      new = [⟨.deed (.acknowledge p), true⟩, ⟨.deed (.delete p.channel p.message), ok⟩] := by
  cases presses with
  | retracted named allowed ok => exact fun _ _ _ => ⟨_, ok, named, allowed, rfl⟩
  | _ => simp

/-- A press with the custom id of a button does nothing but to tell a user who may not retract the reply. -/
theorem Presses.of_forbidden {issuer : String} (presses : env.Presses c p new)
    (named : p.customId = cleanupId issuer) (nonempty : issuer ≠ "") (absent : ';' ∉ issuer.toList)
    (forbidden : ¬ env.MayRetract c p issuer) : ∃ ok, new = [⟨.deed (.whisper p noPermission), ok⟩] := by
  have same {other : String} (also : p.customId = cleanupId other) : other = issuer :=
    String.append_right_inj _ |>.1 (also.symm.trans named)
  cases presses with
  | ignored nobody => exact absurd (nobody issuer named) (not_or.2 ⟨nonempty, absent⟩)
  | refused _ _ ok => exact ⟨ok, rfl⟩
  | unanswered also allowed | retracted also allowed => exact absurd (same also ▸ allowed) forbidden

end

theorem done_cleanup {p : Press} {issuer : String} (named : p.customId = cleanupId issuer) (s : Scene σ) :
    ∃ new, (env.cleanup b p issuer s).2.done = s.done ++ new ∧ env.Presses b.config p new := by
  have guard : (decide (p.user.id ≠ issuer) && !p.moderates && !env.isOwner b p.user.id) = true ↔
      ¬ env.MayRetract b.config p issuer := by
    rw [MayRetract, ← isOwner_iff]
    simp [and_assoc]
  rw [cleanup]
  split
  case isTrue forbidden => exact ⟨_, rfl, .refused named (guard.1 forbidden) _⟩
  case isFalse allowed =>
    have allowed : env.MayRetract b.config p issuer := not_not.1 fun forbidden => allowed (guard.2 forbidden)
    have done : (env.deed (.acknowledge p) s).2.done =
        s.done ++ [⟨.deed (.acknowledge p), (env.deed (.acknowledge p) s).1.toOption.isSome⟩] := rfl
    rw [run_bind]
    generalize (env.deed (.acknowledge p) s).1 = reply at done ⊢
    generalize (env.deed (.acknowledge p) s).2 = s' at done ⊢
    cases reply with
    | error e => exact ⟨_, done, .unanswered named allowed⟩
    | ok _ =>
      let ok := (env.deed (.delete p.channel p.message) s').1.toOption.isSome
      have deleted : (env.deed (.delete p.channel p.message) s').2.done =
          s'.done ++ [⟨.deed (.delete p.channel p.message), ok⟩] := rfl
      rw [done, List.append_assoc] at deleted
      exact ⟨_, deleted, .retracted named allowed ok⟩

theorem done_press (p : Press) (s : Scene σ) :
    ∃ new, (env.press b p s).2.done = s.done ++ new ∧ env.Presses b.config p new := by
  rw [press]
  cases parsed : parseCustomId p.customId with
  | ok issuer => exact env.done_cleanup b (parseCustomId_eq_ok.1 parsed).1 s
  | error e =>
    refine ⟨[], (List.append_nil _).symm, .ignored fun issuer named => ?_⟩
    by_contra wellFormed
    obtain ⟨nonempty, absent⟩ := not_or.1 wellFormed
    rw [parseCustomId_eq_ok.2 ⟨named, nonempty, absent⟩] at parsed
    cases parsed

/-! ### After any events -/

/-- Handles events one after the other. -/
def handleAll [Text.Measure] (b : State) : List Event → Handle σ State
  | [] => pure b
  | e :: es => do
    let (_, b) ← env.handle b e
    handleAll b es

/-- The configuration in force after events: the one that was applied last. -/
def latest (c : Config) (events : List Event) : Config :=
  events.foldl (fun c e => match e with
    | .apply c => c
    | _ => c) c

theorem config_handle [Text.Measure] (e : Event) (s : Scene σ) :
    (env.handle b e s).1.2.config = latest b.config [e] := by
  cases e with
  | message | press | ready => rfl
  | apply c =>
    rw [handle, apply]
    split <;> rfl

theorem config_handleAll [Text.Measure] (events : List Event) (s : Scene σ) :
    (env.handleAll b events s).1.config = latest b.config events := by
  induction events generalizing b s with
  | nil => rfl
  | cons e events ih => exact (ih _ _).trans (congrArg (latest · events) (env.config_handle b e s))

/-- **What is done is warranted.** When any events have been handled and another one is: the bot is shut down,
and a message sets the presence, only if an owner wrote that message who is no bot; an owner is one of the
application or one listed in the configuration that was applied last. A message is deleted only by a press
whose user is the issuer that its custom id names, or a moderator, or an owner, and right after that press was
acknowledged. A press by somebody else is answered with the refusal, and nothing else is done. -/
theorem effects_warranted [Text.Measure] (c : Config) (w : σ) (before : List Event) (e : Event) :
    let (b, s) := env.handleAll { config := c } before ⟨w, []⟩
    ∃ new, (env.handle b e s).2.done = s.done ++ new ∧
      (∀ d ∈ new, d.effect = .shutdown → ∃ m, e = .message m ∧ m.author.isBot = false ∧
        env.IsOwner (latest c before) m.author.id) ∧
      (∀ m, e = .message m → ∀ d ∈ new, ∀ a, d.effect = .deed (.presence a) → m.author.isBot = false ∧
        env.IsOwner (latest c before) m.author.id) ∧
      (∀ d ∈ new, ∀ channel message, d.effect = .deed (.delete channel message) →
        ∃ p issuer ok, e = .press p ∧ p.customId = cleanupId issuer ∧
          env.MayRetract (latest c before) p issuer ∧
          new = [⟨.deed (.acknowledge p), true⟩, ⟨.deed (.delete p.channel p.message), ok⟩]) ∧
      ∀ p issuer, e = .press p → p.customId = cleanupId issuer → issuer ≠ "" → ';' ∉ issuer.toList →
        ¬ env.MayRetract (latest c before) p issuer →
        ∃ ok, new = [⟨.deed (.whisper p noPermission), ok⟩] := by
  have config := env.config_handleAll { config := c } before ⟨w, []⟩
  rcases handled : env.handleAll { config := c } before ⟨w, []⟩ with ⟨b, s⟩
  rw [handled] at config
  change b.config = latest c before at config
  dsimp only
  rw [← config]
  cases e with
  | message m =>
    obtain ⟨new, done, all⟩ := env.does_message b m s
    have owner {d : Done} (mem : d ∈ new) (privileged : d.effect.isPrivileged = true) :
        m.author.isBot = false ∧ env.IsOwner b.config m.author.id :=
      ((all d mem).2 privileged).imp_right (env.isOwner_iff b).1
    refine ⟨new, done, fun d mem shut => ⟨m, rfl, owner mem (shut ▸ rfl)⟩, ?_, ?_, nofun⟩
    · rintro _ ⟨⟩ d mem a shown
      exact owner mem (shown ▸ rfl)
    · intro d mem channel message deleted
      simpa [deleted, Effect.isDelete] using (all d mem).1
  | press p =>
    obtain ⟨new, done, presses⟩ := env.done_press b p s
    refine ⟨new, done, fun d mem shut => absurd shut (presses.ne_shutdown d mem), nofun, ?_, ?_⟩
    · intro d mem channel message deleted
      obtain ⟨issuer, ok, named, allowed, all⟩ := presses.of_delete d mem deleted
      exact ⟨p, issuer, ok, rfl, named, allowed, all⟩
    · rintro _ issuer ⟨⟩ named nonempty absent forbidden
      exact presses.of_forbidden named nonempty absent forbidden
  | ready r =>
    obtain ⟨new, done, all⟩ := env.does_ready b (p := (∃ a, · = .deed (.presence a))) (fun a => ⟨a, rfl⟩) r s
    refine ⟨new, done, fun d mem shut => ?_, nofun, fun d mem channel message deleted => ?_, nofun⟩
    · simpa [shut] using all d mem
    · simpa [deleted] using all d mem
  | apply c =>
    obtain ⟨new, done, all⟩ := env.does_apply b (p := (∃ a, · = .deed (.presence a))) (fun a => ⟨a, rfl⟩) c s
    refine ⟨new, done, fun d mem shut => ?_, nofun, fun d mem channel message deleted => ?_, nofun⟩
    · simpa [shut] using all d mem
    · simpa [deleted] using all d mem

/-- An owner shuts the bot down by any name of that command, and nobody else does. -/
example :
    letI := Text.terminal
    let env : Env Unit Empty := {
      engine := Pipeline.systemF 0, render := fun _ w => (.ok "", w)
      send := fun channel _ w => (.ok ⟨"", channel, 0⟩, w), perform := fun _ w => (.ok (), w), owners := ["1"] }
    let quit (id : String) : Message :=
      { id := "", channel := "", guild := "", author := { id }, content := "Quit now", time := 0 }
    let effects (id : String) : List Effect :=
      (env.handle { config := .standard } (.message (quit id)) ⟨(), []⟩).2.done.map Done.effect
    effects "1" = [.deed (.react "" "" checkMark), .shutdown] ∧ effects "2" = [] := by
  decide +kernel

end Env

end Bot

end TermBot

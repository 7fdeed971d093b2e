import TermBot.Proofs.Config.Memory
import TermBot.Proofs.Text.Decimals

/-!
# What the layers come to

For every setting the environment comes first, then the file, then the default. `Overridden` says of two
configurations that the second one is the first one with what the environment says written over it, and `Layered`
says of a configuration that it comes from a base, a file and the environment. Neither speaks of the order in
which the settings are taken over: `settled_settings` and `overridden_overlay` show that the order does not count.
-/

namespace TermBot.Config

variable {base b c : Config} {env : Environment} {scope : String}

/-! ### Settings -/

/-- The words of a text between commas and spaces. -/
def wordsBetween (s : String) : List String :=
  ((s.toList.splitOnP fun c => c = ',' || c = ' ').filter (· ≠ [])).map String.ofList

theorem splitAt_comma (cs : List Char) :
    Text.splitAt ',' (cs.map fun c => if c = ' ' then ',' else c) = cs.splitOnP fun c => c = ',' || c = ' ' := by
  induction cs with
  | nil => rfl
  | cons c cs ih =>
    rw [List.map_cons, Text.splitAt, List.splitOnP_cons_eq_if_modifyHead, ih]
    by_cases mark : c = ',' ∨ c = ' '
    · rw [if_pos (by rcases mark with rfl | rfl <;> rfl), if_pos (by simpa using mark)]
    · obtain ⟨comma, space⟩ := not_or.1 mark
      rw [if_neg space, if_neg comma, if_neg (by simpa using mark)]
      cases split : cs.splitOnP fun c => c = ',' || c = ' ' with
      | nil => exact absurd split (List.splitOnP_ne_nil _ _)
      | cons piece pieces => rfl

theorem listed_eq (s : String) : listed s = wordsBetween s := by
  rw [wordsBetween, ← splitAt_comma]
  exact congrArg (List.map String.ofList) (List.filter_congr fun piece _ => by cases piece <;> rfl)

/-- What the environment says about a setting. -/
def Environment.setting? (env : Environment) (scope name : String) : Option String :=
  env.value? (scope ++ "_" ++ name)

/-- What a setting comes to: what its variable says, if that is set to something, and else what it was. -/
def Taken {α : Type} (said : Option String) (reads : String → α → Prop) (old new : α) : Prop :=
  match said with
  | some text => reads text new
  | none => new = old

/-- The variable is set to a text that says nothing. -/
def Unread {α : Type} (said : Option String) (reads : String → α → Prop) : Prop :=
  ∃ text, said = some text ∧ ∀ v, ¬ reads text v

/-- The part of a configuration that a setting replaces, and how it reads its variable. -/
structure Setting.Replaces {α : Type} (s : Setting) (get : Config → α) (set : Config → α → Config)
    (reads : String → α → Prop) : Prop where
  same : ∀ c, set c (get c) = c
  take : ∀ name text c c', s.take name text c = .ok c' ↔ ∃ v, reads text v ∧ set c v = c'

theorem Setting.Replaces.lookUp_eq_ok {α : Type} {s : Setting} {get : Config → α} {set : Config → α → Config}
    {reads : String → α → Prop} (replaces : s.Replaces get set reads) : s.lookUp env scope b = .ok c ↔
      ∃ v, Taken (env.setting? scope s.name) reads (get b) v ∧ set b v = c := by
  rw [Setting.lookUp, Environment.setting?]
  cases env.value? (scope ++ "_" ++ s.name) with
  | none =>
    constructor
    · rintro ⟨⟩
      exact ⟨get b, rfl, replaces.same b⟩
    · rintro ⟨v, rfl, rfl⟩
      exact congrArg Except.ok (replaces.same b).symm
  | some text => exact replaces.take _ text b c

theorem replaces_ofText {α : Type} (name : String) (get : Config → α) (set : Config → α → Config)
    (value : String → α) (same : ∀ c, set c (get c) = c) :
    (Setting.ofText name fun text c => set c (value text)).Replaces get set fun text v => v = value text := by
  refine ⟨same, fun _ text c c' => ?_⟩
  constructor
  · rintro ⟨⟩
    exact ⟨_, rfl, rfl⟩
  · rintro ⟨v, rfl, rfl⟩
    rfl

theorem replaces_ofNumber {α : Type} (name reader : String) (get : Config → α) (set : Config → α → Config)
    {read : String → Except Text.NumeralFault α} {reads : String → α → Prop}
    (accepts : ∀ text v, read text = .ok v ↔ reads text v) (same : ∀ c, set c (get c) = c) :
    (Setting.ofNumber name reader read fun v c => set c v).Replaces get set reads := by
  refine ⟨same, fun full text c c' => ?_⟩
  rw [Setting.ofNumber]
  dsimp only
  simp only [← accepts]
  cases read text with
  | error fault => simp
  | ok v =>
    constructor
    · rintro ⟨⟩
      exact ⟨v, rfl, rfl⟩
    · rintro ⟨v, ⟨⟩, rfl⟩
      rfl

theorem settled_cons {s : Setting} {ss : List Setting} : settled env scope base (s :: ss) = .ok c ↔
    ∃ b, s.lookUp env scope base = .ok b ∧ settled env scope b ss = .ok c := by
  rw [settled, List.foldlM_cons]
  cases s.lookUp env scope base with
  | error f =>
    constructor
    · rintro ⟨⟩
    · rintro ⟨_, ⟨⟩, _⟩
  | ok b =>
    constructor
    · intro rest
      exact ⟨b, rfl, rest⟩
    · rintro ⟨_, ⟨⟩, rest⟩
      exact rest

/-- The configuration that comes from another one by way of the environment: each setting is what its variable
says, if that is set to something, and else what it was. -/
structure Overridden (env : Environment) (scope : String) (b c : Config) : Prop where
  token : Taken (env.setting? scope "DISCORD_TOKEN") (fun text v => v = text) b.token c.token
  appId : Taken (env.setting? scope "DISCORD_APPID") Text.WordNumeral b.appId c.appId
  status : c.status = b.status
  logLevel : Taken (env.setting? scope "LOG_LEVEL") (fun text v => v = Text.lowerText text)
    b.logLevel c.logLevel
  logFormat : Taken (env.setting? scope "LOG_FORMAT") (fun text v => v = Text.lowerText text)
    b.logFormat c.logFormat
  commandPrefix : Taken (env.setting? scope "PREFIX") (fun text v => v = text)
    b.commandPrefix c.commandPrefix
  owners : Taken (env.setting? scope "OWNERS") (fun text v => v = wordsBetween text) b.owners c.owners
  width : Taken (env.setting? scope "RENDER_WIDTH") Text.IntNumeral b.width c.width

/-- Every setting has its own part of the configuration, so the settings can be told one by one. -/
theorem settled_settings : settled env scope b settings = .ok c ↔ Overridden env scope b c := by
  have token := replaces_ofText "DISCORD_TOKEN" Config.token (fun c token => { c with token }) (fun text => text)
    fun _ => rfl
  have appId := replaces_ofNumber "DISCORD_APPID" "strconv.ParseUint" Config.appId
    (fun c appId => { c with appId }) @Text.unsignedDecimal_eq_ok fun _ => rfl
  have logLevel := replaces_ofText "LOG_LEVEL" Config.logLevel (fun c logLevel => { c with logLevel })
    Text.lowerText fun _ => rfl
  have logFormat := replaces_ofText "LOG_FORMAT" Config.logFormat (fun c logFormat => { c with logFormat })
    Text.lowerText fun _ => rfl
  have commandPrefix := replaces_ofText "PREFIX" Config.commandPrefix
    (fun c commandPrefix => { c with commandPrefix }) (fun text => text) fun _ => rfl
  have owners := replaces_ofText "OWNERS" Config.owners (fun c owners => { c with owners }) listed fun _ => rfl
  have width := replaces_ofNumber "RENDER_WIDTH" "strconv.Atoi" Config.width (fun c width => { c with width })
    @Text.decimal_eq_ok fun _ => rfl
  simp only [settings, settled_cons, token.lookUp_eq_ok, appId.lookUp_eq_ok, logLevel.lookUp_eq_ok, logFormat.lookUp_eq_ok,
    commandPrefix.lookUp_eq_ok, owners.lookUp_eq_ok, width.lookUp_eq_ok]
  constructor
  · rintro ⟨_, ⟨_, token, rfl⟩, _, ⟨_, appId, rfl⟩, _, ⟨_, logLevel, rfl⟩, _, ⟨_, logFormat, rfl⟩,
      _, ⟨_, commandPrefix, rfl⟩, _, ⟨_, owners, rfl⟩, _, ⟨_, width, rfl⟩, ⟨⟩⟩
    simp only [listed_eq] at owners
    exact ⟨token, appId, rfl, logLevel, logFormat, commandPrefix, owners, width⟩
  · rintro ⟨token, appId, status, logLevel, logFormat, commandPrefix, owners, width⟩
    simp only [← listed_eq] at owners
    refine ⟨_, ⟨_, token, rfl⟩, _, ⟨_, appId, rfl⟩, _, ⟨_, logLevel, rfl⟩, _, ⟨_, logFormat, rfl⟩,
      _, ⟨_, commandPrefix, rfl⟩, _, ⟨_, owners, rfl⟩, _, ⟨_, width, rfl⟩, ?_⟩
    -- No setting writes the status, which is that of the base.
    dsimp only
    rw [← status]
    rfl

/-! ### Layers -/

/-- What a setting comes to by its layers: what its variable says if that is set to something, else what the file
says if it says something, and else the default. -/
def Chosen {α : Type} (said : Option String) (reads : String → α → Prop) (file : Option α) (default value : α) : Prop :=
  match said, file with
  | some text, _ => reads text value
  | none, some v => value = v
  | none, none => value = default

/-- The configuration that the layers come to. Empty texts and zeros of a file say nothing. -/
structure Layered (base : Config) (file : Draft) (env : Environment) (scope : String) (c : Config) : Prop where
  token : Chosen (env.setting? scope "DISCORD_TOKEN") (fun text v => v = text)
    (Option.guard (· ≠ "") file.token) base.token c.token
  appId : Chosen (env.setting? scope "DISCORD_APPID") Text.WordNumeral
    (Option.guard (· ≠ 0) file.appId) base.appId c.appId
  logLevel : Chosen (env.setting? scope "LOG_LEVEL") (fun text v => v = Text.lowerText text)
    (Option.guard (· ≠ "") file.logLevel) base.logLevel c.logLevel
  logFormat : Chosen (env.setting? scope "LOG_FORMAT") (fun text v => v = Text.lowerText text)
    (Option.guard (· ≠ "") file.logFormat) base.logFormat c.logFormat
  commandPrefix : Chosen (env.setting? scope "PREFIX") (fun text v => v = text)
    (Option.guard (· ≠ "") file.commandPrefix) base.commandPrefix c.commandPrefix
  owners : Chosen (env.setting? scope "OWNERS") (fun text v => v = wordsBetween text)
    file.owners base.owners c.owners
  width : Chosen (env.setting? scope "RENDER_WIDTH") Text.IntNumeral
    (Option.guard (· ≠ 0) file.width) base.width c.width
  status : c.status =
    if file.status.name = "" then base.status
    else if file.status.kind = "" then { file.status with kind := ActivityKind.playing.label }
    else file.status

theorem chosen_iff {α : Type} {said : Option String} {reads : String → α → Prop} {file : Option α}
    {default value : α} : Chosen said reads file default value ↔ Taken said reads (file.getD default) value := by
  cases said <;> cases file <;> rfl

theorem getD_guard {α : Type} [DecidableEq α] (zero value default : α) :
    (Option.guard (· ≠ zero) value).getD default = if value = zero then default else value := by
  by_cases same : value = zero <;> simp [Option.guard, same]

theorem overridden_overlay {file : Draft} :
    Overridden env scope (overlay base file) c ↔ Layered base file env scope c := by
  constructor
  · rintro ⟨token, appId, status, logLevel, logFormat, commandPrefix, owners, width⟩
    constructor
    case status => exact status
    case owners => exact chosen_iff.2 owners
    all_goals rw [chosen_iff, getD_guard]; assumption
  · rintro ⟨token, appId, logLevel, logFormat, commandPrefix, owners, width, status⟩
    rw [chosen_iff, getD_guard] at token appId logLevel logFormat commandPrefix width
    exact ⟨token, appId, status, logLevel, logFormat, commandPrefix, chosen_iff.1 owners, width⟩

theorem taken_text {α : Type} (said : Option String) (value : String → α) (old : α) :
    Taken said (fun text v => v = value text) old ((said.map value).getD old) := by
  cases said <;> rfl

theorem exists_taken {α : Type} {said : Option String} {reads : String → α → Prop} (old : α) :
    (∃ v, Taken said reads old v) ↔ ¬ Unread said reads := by
  cases said with
  | none => exact iff_of_true ⟨old, rfl⟩ fun ⟨_, found, _⟩ => nomatch found
  | some text => simp [Taken, Unread]

/-- Only the variables of the two numbers can be at fault. -/
theorem exists_overridden (env : Environment) (scope : String) (b : Config) : (∃ c, Overridden env scope b c) ↔
    ¬ (Unread (env.setting? scope "DISCORD_APPID") Text.WordNumeral ∨
      Unread (env.setting? scope "RENDER_WIDTH") Text.IntNumeral) := by
  rw [not_or, ← exists_taken b.appId, ← exists_taken b.width]
  constructor
  · rintro ⟨c, taken⟩
    exact ⟨⟨_, taken.appId⟩, ⟨_, taken.width⟩⟩
  · rintro ⟨⟨appId, readId⟩, ⟨width, readWidth⟩⟩
    exact ⟨⟨_, appId, b.status, _, _, _, _, width⟩, taken_text _ _ _, readId, rfl, taken_text _ _ _,
      taken_text _ _ _, taken_text _ _ _, taken_text _ _ _, readWidth⟩

end TermBot.Config

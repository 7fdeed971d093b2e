import TermBot.Bot.Basic
import TermBot.Proofs.Text.Encoding
import TermBot.Proofs.Text.Folding
import TermBot.Text.Width

/-!
# The command prefix

A message is looked at from its first character on that is not blank, and a command prefix is compared with as many
bytes as it has, up to case. So whatever is spelled like the prefix up to the case of ASCII letters is taken off a
message, and what is left is the command (`prefix_works`). The exception is a prefix that begins with a blank. It is
a valid one, but a message is never compared from a blank on (`afterPrefix?_of_blank`), so that such a prefix shuts
out all messages that neither are direct nor mention the bot.
-/

namespace TermBot

namespace Bot

open Text

variable {start : String} {cs q rest : List Char}

theorem isBlank_toLower (c : Char) : isBlank c.toLower = isBlank c := by
  have letters : ∀ i < 26, isBlank (Char.ofNat (65 + i)).toLower = isBlank (Char.ofNat (65 + i)) := by
    decide +kernel
  rcases toLower_cases c with same | ⟨i, letter, rfl⟩
  · rw [same]
  · exact letters i letter

/-- The text begins with a blank. -/
def startsBlank (cs : List Char) : Bool := cs.head?.any isBlank

theorem dropWhile_of_unblanked (unblanked : startsBlank cs = false) : cs.dropWhile isBlank = cs := by
  cases cs with
  | nil => rfl
  | cons c cs => exact List.dropWhile_cons_of_neg (by simpa [startsBlank] using unblanked)

theorem startsBlank_dropWhile (cs : List Char) : startsBlank (cs.dropWhile isBlank) = false := by
  rw [startsBlank]
  have first := List.head?_dropWhile_not isBlank cs
  cases shape : (cs.dropWhile isBlank).head? with
  | none => rfl
  | some c => simpa [shape] using first

/-- Two spellings that differ in the case of ASCII letters begin with a blank or do not, whatever follows them. -/
theorem startsBlank_of_toLower {ds : List Char} (same : q.map Char.toLower = ds.map Char.toLower) (some : ds ≠ []) :
    startsBlank (q ++ rest) = startsBlank ds := by
  cases q with
  | nil => cases ds <;> simp_all
  | cons c q =>
    cases ds with
    | nil => exact absurd rfl some
    | cons d ds =>
      have first : c.toLower = d.toLower := (List.cons.inj same).1
      simp [startsBlank, ← isBlank_toLower c, ← isBlank_toLower d, first]

/-- Whatever is spelled like the prefix is taken off, and nothing else. -/
theorem afterPrefix?_append (same : q.map Char.toLower = start.toList.map Char.toLower) :
    afterPrefix? start (q ++ rest) = some (String.ofList rest) := by
  have size : start.utf8ByteSize = (bytesOf q).length := by
    rw [← length_bytesOf, length_bytesOf_of_toLower same]
  rw [afterPrefix?, size, bytesOf_append]
  rw [List.take_left, List.drop_left, chars_decode_bytesOf, sameFold_of_toLower same, shown, chars_decode_bytesOf,
    List.length_append, decide_eq_true (Nat.le_add_right _ _)]
  rfl

/-- Blanks are ASCII characters that have no case. -/
theorem foldCase_of_isBlank {c : Char} (blank : isBlank c = true) : c.toNat ≠ 0 ∧ c.toNat < 65 ∧ foldCase c = c := by
  simp only [isBlank, Bool.or_eq_true, decide_eq_true_eq] at blank
  rcases blank with ((rfl | rfl) | rfl) | rfl <;> decide +kernel

/-- A text that does not begin with a blank is not spelled like a prefix that does. -/
theorem afterPrefix?_of_blank (blank : startsBlank start.toList = true) (unblanked : startsBlank cs = false) :
    afterPrefix? start cs = none := by
  rw [afterPrefix?]
  refine if_neg fun found => ?_
  have folded := beq_iff_eq.1 (Bool.and_eq_true_iff.1 found).2
  cases first : start.toList with
  | nil => simp [first, startsBlank] at blank
  | cons d tail =>
  have blank : isBlank d = true := by simpa [first, startsBlank] using blank
  obtain ⟨some, early, own⟩ := foldCase_of_isBlank blank
  rw [first, List.map_cons, own] at folded
  -- the first byte of the text decides what its first scalar is, even if the rest of the character is cut off
  cases cs with
  | nil => simp [bytesOf, decode] at folded
  | cons c cs =>
  obtain ⟨b0, more, encoded⟩ := exists_encode c
  cases size : start.utf8ByteSize with
  | zero => simp [size, decode] at folded
  | succ n =>
  rw [bytesOf_cons, encoded, size, List.cons_append, List.take_succ_cons, decode, List.map_cons, List.map_cons]
    at folded
  have read := eq_of_foldCase (List.cons.inj folded).1 some early
  have same : c = d := (char_of_ascii encoded (read ▸ Nat.lt_trans early (by decide))).trans read
  simp [startsBlank, same, blank] at unblanked

/-! ### Messages -/

/-- A valid configuration has a prefix that is not empty. -/
theorem commandPrefix_ne_nil {c : Config} (valid : c.fault? = none) : c.commandPrefix.toList ≠ [] := by
  intro empty
  have blank : trim c.commandPrefix = "" := by
    rw [trim, empty]
    rfl
  rw [Config.fault?, if_pos blank] at valid
  split at valid
  · cases valid
  · split at valid <;> cases valid

variable {σ ε : Type}

namespace Env

variable (env : Env σ ε) (b : State)

/-- Carries out the command that a text names, unless it is for owners and the author of the message is none. -/
def dispatch [Text.Measure] (m : Message) (text : String) : Handle σ (Except (BotError ε) Unit) :=
  match lookup? groups text with
  | none => return .ok ()
  | some (g, c, args) => do
    if (g.ownersOnly || c.ownersOnly) && !env.isOwner b m.author.id then return .ok ()
    return (← env.invoke b m args c.action).mapError (.command (g.qualified c))

theorem message_of_strip [Text.Measure] {b : State} {m : Message} (person : m.author.isBot = false) :
    env.message b m = match b.strip m.content m.isDirect with
      | some text => env.dispatch b m text
      | none => return .ok () := by
  rw [message, person]
  cases b.strip m.content m.isDirect <;> rfl

/-- **What is spelled like the prefix is taken off.** With a valid configuration in force, let a message of a user
begin with the prefix, up to the case of ASCII letters. Unless the prefix begins with a blank, exactly the text
behind it is left, and the message is dispatched as the command that this text names. If the prefix begins with a
blank, it is not found: a message that neither is direct nor mentions the bot is passed over. -/
theorem prefix_works [Text.Measure] {c : Config} {b : State} {m : Message} {q rest : String} (valid : c.fault? = none)
    (current : b.config = c) (person : m.author.isBot = false) (content : m.content = q ++ rest)
    (same : q.toList.map Char.toLower = c.commandPrefix.toList.map Char.toLower) :
    (startsBlank c.commandPrefix.toList = false →
        b.strip m.content m.isDirect = some rest ∧ env.message b m = env.dispatch b m rest) ∧
      (startsBlank c.commandPrefix.toList = true → m.isDirect = false →
        (b.self.bind fun u => afterMention? u (m.content.toList.dropWhile isBlank)) = none →
        b.strip m.content m.isDirect = none ∧ env.message b m = return .ok ()) := by
  subst current
  refine ⟨fun unblanked => ?_, fun blank guild unmentioned => ?_⟩
  · have start : startsBlank (q.toList ++ rest.toList) = false := by
      rw [startsBlank_of_toLower same (commandPrefix_ne_nil valid)]
      exact unblanked
    have stripped : b.strip m.content m.isDirect = some rest := by
      rw [State.strip, content, String.toList_append, dropWhile_of_unblanked start, afterPrefix?_append same,
        String.ofList_toList]
    rw [message_of_strip env person, stripped]
    exact ⟨rfl, rfl⟩
  · have stripped : b.strip m.content m.isDirect = none := by
      rw [State.strip, guild, afterPrefix?_of_blank blank (startsBlank_dropWhile _), unmentioned]
      rfl
    rw [message_of_strip env person, stripped]
    exact ⟨rfl, rfl⟩

/-- A prefix with a character that is not ASCII and a blank at its end. -/
theorem prefix_works_spelled :
    let c : Config := { Config.standard with commandPrefix := "λBot " }
    c.fault? = none ∧ State.strip { config := c } "λbOT ping" false = some "ping" := by
  let : Measure := Text.terminal
  let env : Env Unit Empty := {
    engine := Pipeline.systemF 0, render := fun _ w => (.ok "", w)
    send := fun channel _ w => (.ok ⟨"", channel, 0⟩, w), perform := fun _ w => (.ok (), w), owners := [] }
  let m : Message := { id := "", channel := "", guild := "g", author := {}, content := "λbOT ping", time := 0 }
  intro c
  have valid : c.fault? = none := by decide +kernel
  have content : m.content = "λbOT " ++ "ping" := by decide +kernel
  have works := prefix_works env (b := { config := c }) valid rfl rfl content (by decide +kernel)
  exact ⟨valid, (works.1 (by decide +kernel)).1⟩

/-- A valid prefix that begins with a blank is not found in a message that begins with it. -/
theorem blank_prefix_unmatched :
    let c : Config := { Config.standard with commandPrefix := " !" }
    c.fault? = none ∧ State.strip { config := c } (c.commandPrefix ++ "ping") false = none := by
  decide +kernel

end Env

end Bot

end TermBot

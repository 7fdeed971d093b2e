import TermBot.Proofs.Actor.Interleaving
import TermBot.Proofs.Doc.Arenas
import TermBot.Render.Service
import TermBot.Text.Width

/-!
# Renderings do not influence each other

The handler of the rendering service leaves the arena as it found it when that was new: a value is laid out in
it and then everything is released, and a payload that is no value does not touch it (`run_new`). So every
answer is the one that a service with a new arena would give, in every interleaving of requests
(`rendering_isolated`).
-/

namespace TermBot.Render

open Actor Doc

variable {width : Int64} {held : Bool} {w₀ w : World Payload String RenderError Arena} {schedule : List Turn}

/-- The text of a document that is built and laid out in a new arena. -/
def textInNewArena [Text.Measure] (width : Int64) (d : Doc) : String := ((Arena.build d >>= Arena.pretty width).run {}).1

/-- What a payload is answered with. -/
def Payload.answer [Text.Measure] (width : Int64) : Payload → Except RequestError String
  | .value v => .ok (textInNewArena width v.doc)
  | .foreign typeName => .error (.failed (.handler (.unknownValue typeName)))

theorem textInNewArena_eq [Text.Measure] (width : Int64) (d : Doc) : textInNewArena width d = d.layout width :=
  (Arena.yields_build_pretty Arena.wellFormed_new width d).result

/-- A new arena is new again after each payload. -/
theorem next_new [Text.Measure] (m : Message Payload) :
    (handler standardBuilder width held).next (.working {}) m = .working {} := by
  rw [Handler.next]
  cases m.payload <;> rfl

theorem textOf_response [Text.Measure] (id : UInt32) (m : Message Payload) :
    textOf ((handler standardBuilder width held).response id (.working {}) m) = m.payload.answer width := by
  rw [Handler.response]
  cases m.payload <;> rfl

/-- No answer depends on the messages before. -/
theorem replies_new [Text.Measure] (id : UInt32) (ms : List (Message Payload)) :
    (handler standardBuilder width held).replies id (.working {}) ms =
      ms.map fun m => (m.outlet, (handler standardBuilder width held).response id (.working {}) m) := by
  induction ms with
  | nil => rfl
  | cons m ms ih => rw [Handler.replies, next_new, ih, List.map_cons]

/-- A message that was accepted and the message of a call with the same slot are one. -/
theorem eq_of_outlet {P R E S : Type} {h : Handler P R E S} {w w₀ : World P R E S} {k : Call P} {m m' : Message P}
    (inv : w.Inv h w₀) (fresh : w₀.Fresh) (mem : k ∈ w.calls) (message : k.message? = some m)
    (accepted : m' ∈ w.accepted) (same : m'.outlet = m.outlet) : m' = m := by
  obtain ⟨k', mem', found⟩ := List.mem_filterMap.1 (inv.accepted.subset accepted)
  have here : m ∈ w.calls.filterMap Call.message? := List.mem_filterMap.2 ⟨k, mem, message⟩
  have there : m' ∈ w.calls.filterMap Call.message? :=
    List.mem_filterMap.2 ⟨k', mem', (Call.accepted?_eq_some.1 found).2⟩
  exact List.inj_on_of_nodup_map (inv.distinct fresh) there here same

/-- **Renderings are isolated.** In every interleaving of requests on a rendering service with a new arena, the
slot of a request holds nothing but the text that building and laying out its value in a new arena gives, or the
failure for a payload that is no value; and once a stop has returned, the slot of every accepted request holds
this answer. On the arena itself any operations, resets and layouts included, give the texts that they give on
documents, and what is built and laid out afterwards has the text that it has in a new arena. -/
theorem rendering_isolated [Text.Measure] (fresh : w₀.Fresh) (new : w₀.cell.memory = {})
    (played : w₀.play (handler standardBuilder width held) schedule = some w) :
    (∀ k ∈ w.calls, ∀ m n r, k.message? = some m → m.outlet = .slot n → w.slots[n]? = some (some r) →
      textOf r = m.payload.answer width) ∧
    (∀ stop ∈ w.calls, stop.start = .stopCheck → (∃ r, stop.now = .returned r) →
      ∀ k ∈ w.calls, ∀ m, k.message? = some m → Call.sent k.now = true →
        ∃ n r, m.outlet = .slot n ∧ w.slots[n]? = some (some r) ∧ textOf r = m.payload.answer width) ∧
    ∀ ops : List Arena.Op, (({} : Arena.Client).run ops).1 = Arena.Op.texts [] ops ∧
      ∀ width d, ((Arena.build d >>= Arena.pretty width).run (({} : Arena.Client).run ops).2.arena).1 =
        textInNewArena width d := by
  have inv := (World.Inv.of_fresh (h := handler standardBuilder width held) fresh).play played
  have right : ∀ k ∈ w.calls, ∀ m n r, k.message? = some m → m.outlet = .slot n →
      w.slots[n]? = some (some r) → textOf r = m.payload.answer width := by
    intro k mem m n r message slot held
    obtain ⟨n', slot', lt⟩ := inv.slot_of_message fresh mem message
    obtain rfl : n = n' := Outlet.slot.inj (slot.symm.trans slot')
    obtain ⟨decided, owes⟩ := inv.owes
    have found : w.answers.lookup (.slot n) = some r := Option.some.inj ((inv.slots n lt).symm.trans held)
    obtain ⟨before, rest, split, -⟩ := List.lookup_eq_some_iff.1 found
    have given : (Outlet.slot n, r) ∈ w.answers ++ w.cell.promised := by simp [split]
    rw [owes.answers, new, replies_new, List.mem_map] at given
    obtain ⟨m', member, pair⟩ := given
    obtain ⟨outlet, rfl⟩ := Prod.mk.inj pair
    have accepted : m' ∈ w.accepted := owes.accepted ▸ List.mem_append_left _ member
    rw [eq_of_outlet inv fresh mem message accepted (outlet.trans slot.symm)]
    exact textOf_response _ _
  refine ⟨right, ?_, fun ops => ?_⟩
  · rintro stop here begins ⟨r, returned⟩ k mem m message sent
    obtain ⟨n, slot, lt⟩ := inv.slot_of_message fresh mem message
    obtain ⟨answers, -⟩ := inv.all_answered (inv.done_of_stopped here begins returned)
    have accepted : m ∈ w.accepted := inv.accepted.mem_iff.2
      (List.mem_filterMap.2 ⟨k, mem, Call.accepted?_eq_some.2 ⟨sent, message⟩⟩)
    rw [new, replies_new] at answers
    have answered : (m.outlet, (handler standardBuilder width held).response w₀.cell.id (.working {}) m) ∈
        w.answers := answers ▸ List.mem_map_of_mem accepted
    cases found : w.answers.lookup (.slot n) with
    | none =>
      have other := List.lookup_eq_none_iff.1 found _ answered
      simp [slot] at other
    | some r =>
      have holds : w.slots[n]? = some (some r) := by rw [inv.slots n lt, found]
      exact ⟨n, r, slot, holds, right k mem m n r message slot holds⟩
  · have new : ({} : Arena.Client).Stands [] := ⟨Arena.wellFormed_new, .nil⟩
    obtain ⟨texts, wf⟩ := new.run ops
    refine ⟨texts, fun width d => ?_⟩
    rw [textInNewArena_eq]
    exact (Arena.yields_build_pretty wf width d).result

/-- The call has returned without an error. -/
def succeeded : Caller Payload → Bool
  | .returned (.ok _) => true
  | _ => false

theorem eq_of_succeeded {now : Caller Payload} (ended : succeeded now = true) : now = .returned (.ok ()) := by
  unfold succeeded at ended
  split at ended
  · rfl
  · cases ended

/-- A payload that is no value and a type behind it, both sent before the stop. -/
theorem rendering_isolated_rejected :
    letI := Text.terminal
    let first : Message Payload := { payload := .foreign "int", outlet := .slot 0 }
    let second : Message Payload := { payload := .value (.inferred .unit), outlet := .slot 1 }
    let starts : List (Caller Payload) := [.startMark, .sendCheck first, .sendCheck second, .stopCheck]
    let w₀ : World Payload String RenderError Arena := {
      cell := { id := 7, name := serviceName, memory := {} }
      slots := #[none, none]
      calls := starts.map fun k => ⟨k, k⟩ }
    let sends : List Turn := [.call 1, .call 2, .call 0, .call 1, .call 0, .call 2, .call 1, .call 2]
    let stops : List Turn := List.replicate 4 (.call 3) ++ List.replicate 2 .loop ++ List.replicate 3 (.call 3)
    ∃ w, w₀.play (handler standardBuilder 80 false) (sends ++ List.replicate 12 .loop ++ stops) = some w ∧
      ∃ r, w.slots[1]? = some (some r) ∧ textOf r = .ok (textInNewArena 80 (Scoped.Ty.doc .unit)) := by
  let : Text.Measure := Text.terminal
  intro first second starts w₀ sends stops
  have fresh : w₀.Fresh := by
    have slots : ∀ n < w₀.slots.size, w₀.slots[n]? = some none
      | 0, _ | 1, _ => rfl
    have distinct : (w₀.calls.filterMap Call.message?).map (·.outlet) = [.slot 0, .slot 1] := rfl
    refine ⟨rfl, fun k mem => ?_, slots, by simp [distinct], rfl, rfl, rfl⟩
    obtain ⟨start, here, rfl⟩ := List.mem_map.1 mem
    refine ⟨rfl, ?_⟩
    simp only [starts, List.mem_cons, List.not_mem_nil, or_false] at here
    rcases here with rfl | rfl | rfl | rfl
    · exact .inr (.inl rfl)
    · exact .inr (.inr ⟨first, 0, rfl, rfl, rfl, Nat.zero_lt_succ 1⟩)
    · exact .inr (.inr ⟨second, 1, rfl, rfl, rfl, Nat.lt_succ_self 1⟩)
    · exact .inl rfl
  have ended : (w₀.play (handler standardBuilder 80 false) (sends ++ List.replicate 12 .loop ++ stops)).map
      (fun w => w.calls.all fun k => succeeded k.now) = some true := by decide +kernel
  obtain ⟨w, played, ended⟩ := Option.map_eq_some_iff.1 ended
  have returned : ∀ k ∈ w.calls, k.now = .returned (.ok ()) := fun k mem =>
    eq_of_succeeded (List.all_eq_true.1 ended k mem)
  have calls : w.calls.map Call.start = starts :=
    ((World.Inv.of_fresh fresh).play played).starts.trans (by simp [w₀, Function.comp_def])
  obtain ⟨sent, here, start⟩ : ∃ k ∈ w.calls, k.start = .sendCheck second :=
    List.mem_map.1 (calls ▸ by simp [starts])
  obtain ⟨stop, there, stops⟩ : ∃ k ∈ w.calls, k.start = .stopCheck := List.mem_map.1 (calls ▸ by simp [starts])
  obtain ⟨-, stopped, -⟩ := rendering_isolated fresh rfl played
  obtain ⟨n, r, slot, holds, text⟩ := stopped stop there stops ⟨_, returned _ there⟩ sent here second
    (by rw [Call.message?, start]) (by rw [returned _ here]; rfl)
  cases slot
  exact ⟨w, played, r, holds, text⟩

end TermBot.Render

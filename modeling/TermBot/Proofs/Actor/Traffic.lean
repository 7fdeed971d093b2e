import TermBot.Proofs.Actor.Stopping

/-!
# Requests in a system of actors

Steps of one actor, be they of its loop or of a caller, among the other actors of a system and the slots that
all of them answer into. A request that was accepted is waiting at its actor, or its answer is promised, or
its slot is filled; and what is waiting, promised or in a slot belongs to a request that was accepted
(`System.Requests`). Every step of an actor keeps that, whichever actor it is (`System.Requests.step`).
-/

namespace TermBot.Actor

variable {P R E S : Type}

/-- A list with one element in the middle replaced. -/
theorem exists_split {α : Type} {l : List α} {j : Nat} {x : α} (here : l[j]? = some x) :
    ∃ before after, l = before ++ x :: after ∧ ∀ y, l.set j y = before ++ y :: after := by
  obtain ⟨lt, rfl⟩ := List.getElem?_eq_some_iff.1 here
  refine ⟨l.take j, l.drop (j + 1), by simp, fun y => ?_⟩
  rw [List.set_eq_take_append_cons_drop, if_pos lt]

/-! ## Steps of one actor -/

namespace Cell

/-- The response is one of this actor to the message. -/
def Replies (c : Cell P R E S) (m : Message P) (r : Response R E) : Prop :=
  r.source = c.id ∧ r.target = m.source ∧ r.session = m.session

/-- The message is waiting, or its answer is promised. -/
def Holds (c : Cell P R E S) (m : Message P) : Prop :=
  m ∈ c.waiting ∨ m.outlet ∈ c.promised.map Prod.fst

/-- What a step of the loop or of a caller does, as far as others rely on it: new messages are accepted and
answers given. -/
structure Steps (c c' : Cell P R E S) (new : List (Message P)) (given : List (Answer R E)) : Prop where
  formed : c'.WellFormed
  id : c'.id = c.id
  leads : c.state.Leads c'.state
  started : c.started = true → c'.started = true
  done : c.isDone = true → c'.isDone = true
  holds : ∀ m, c.Holds m ∨ m ∈ new → c'.Holds m ∨ m.outlet ∈ given.map Prod.fst
  waiting : ∀ m ∈ c'.waiting, m ∈ c.waiting ∨ m ∈ new
  answers : ∀ p ∈ given ++ c'.promised, p ∈ c.promised ∨ ∃ m ∈ c.waiting, p.1 = m.outlet ∧ c.Replies m p.2

variable {h : Handler P R E S} {c c' : Cell P R E S} {a : Option (Answer R E)} {m : Message P}
  {new : List (Message P)} {given : List (Answer R E)}

theorem replies_response (c : Cell P R E S) (φ : Phase S) (m : Message P) :
    c.Replies m (h.response c.id φ m) := by
  cases φ with
  | failed => exact ⟨rfl, rfl, rfl⟩
  | working s =>
    rw [Handler.response]
    split <;> exact ⟨rfl, rfl, rfl⟩

theorem Accepts.holds (accepts : c.Accepts c' new given) (here : c.Holds m ∨ m ∈ new) :
    c'.Holds m ∨ m.outlet ∈ given.map Prod.fst := by
  rw [Holds, accepts.promised, List.map_append, List.mem_append] at here
  rw [Holds, accepts.waiting, List.mem_append]
  tauto

theorem Accepts.answers (accepts : c.Accepts c' new given) {p : Answer R E} (here : p ∈ given ++ c'.promised) :
    p ∈ c.promised := accepts.promised ▸ here

theorem Progress.holds (progress : c.Progress h c' given) (here : c.Holds m) :
    c'.Holds m ∨ m.outlet ∈ given.map Prod.fst := by
  cases progress with
  | passes _ accepts => exact accepts.holds (.inl here)
  | enters _ _ _ _ _ waiting promised =>
    rw [Holds, promised, List.map_append, List.mem_append] at here
    rw [Holds, waiting]
    tauto
  | @decides m' φ _ _ _ first answer =>
    have outlets := congrArg (List.map Prod.fst) answer
    simp only [List.map_append, List.map_cons, List.map_nil] at outlets
    have there : m.outlet ∈ given.map Prod.fst ++ c'.promised.map Prod.fst ∨ m ∈ c'.waiting := by
      rw [outlets, List.mem_append, List.mem_singleton]
      rw [Holds, first, List.mem_cons] at here
      rcases here with (rfl | here) | here
      · exact .inl (.inr rfl)
      · exact .inr here
      · exact .inl (.inl here)
    rw [Holds]
    rw [List.mem_append] at there
    tauto

theorem Progress.waiting (progress : c.Progress h c' given) (here : m ∈ c'.waiting) : m ∈ c.waiting := by
  cases progress with
  | passes _ accepts => rwa [accepts.waiting, List.append_nil] at here
  | enters _ _ _ _ _ waiting => rwa [waiting] at here
  | decides _ _ _ first => exact first ▸ List.mem_cons_of_mem _ here

theorem Progress.answers (progress : c.Progress h c' given) {p : Answer R E}
    (here : p ∈ given ++ c'.promised) :
    p ∈ c.promised ∨ ∃ m ∈ c.waiting, p.1 = m.outlet ∧ c.Replies m p.2 := by
  cases progress with
  | passes _ accepts => exact .inl (accepts.answers here)
  | enters _ _ _ _ _ _ promised => exact .inl (promised ▸ here)
  | @decides m φ _ _ _ first answer =>
    rw [answer, List.mem_append, List.mem_singleton] at here
    rcases here with here | rfl
    · exact .inl here
    · exact .inr ⟨m, by simp [first], rfl, c.replies_response φ m⟩

/-- A step of the loop. -/
theorem WellFormed.steps (formed : c.WellFormed) (step : c.loopStep h.run h.held = some (c', a)) :
    c.Steps c' [] a.toList := by
  have moves := formed.loopStep step
  exact {
    formed := moves.formed
    id := moves.id
    leads := (loopStep_leads step).1
    started := fun here => moves.started.trans here
    done := fun here => by simp [moves.running] at here
    holds := fun m here => moves.progress.holds (here.resolve_right List.not_mem_nil)
    waiting := fun m here => .inl (moves.progress.waiting here)
    answers := fun p here => moves.progress.answers here }

end Cell

/-- A step of a caller. -/
theorem Call.Moves.steps {k : Call P} {c c' : Cell P R E S} {now : Caller P} {a : Option (Answer R E)}
    (moves : k.Moves c c' now a) (leads : c.state.Leads c'.state) : c.Steps c' (k.pushed now) [] where
  formed := moves.formed
  id := moves.id
  leads := leads
  started := moves.started
  done := moves.done
  holds _ here := moves.accepts.holds here
  waiting m here := by rwa [moves.accepts.waiting, List.mem_append] at here
  answers _ here := .inl (moves.accepts.answers here)

/-! ## Steps in a system -/

namespace System

variable {sys : System P R E S} {i j : Nat} {c c' : Cell P R E S} {a : Option (Answer R E)} {m : Message P}

/-- An answer changes nothing but the slots. -/
theorem deliver_eq (sys : System P R E S) (a : Option (Answer R E)) :
    sys.deliver a = { sys with slots := (sys.deliver a).slots } := by
  unfold deliver
  split
  · split <;> rfl
  · rfl

@[simp] theorem cells_deliver : (sys.deliver a).cells = sys.cells := by rw [deliver_eq]

@[simp] theorem directory_deliver : (sys.deliver a).directory = sys.directory := by rw [deliver_eq]

@[simp] theorem closed_deliver : (sys.deliver a).closed = sys.closed := by rw [deliver_eq]

@[simp] theorem tasks_deliver : (sys.deliver a).tasks = sys.tasks := by rw [deliver_eq]

/-- The slot of the outlet holds an answer. -/
def Filled (sys : System P R E S) (o : Outlet) : Prop := ∃ n r, o = .slot n ∧ sys.slots[n]? = some (some r)

/-- What an answer does to the slots: it fills an empty one, and no other one changes. -/
theorem slots_deliver (sys : System P R E S) (a : Option (Answer R E)) :
    (sys.deliver a).slots.size = sys.slots.size ∧
      (∀ (n : Nat) (r : Response R E), sys.slots[n]? = some (some r) →
        (sys.deliver a).slots[n]? = some (some r)) ∧
      (∀ (n : Nat) (r : Response R E), (sys.deliver a).slots[n]? = some (some r) →
        sys.slots[n]? = some (some r) ∨ a = some (.slot n, r)) ∧
      ∀ (n : Nat) (r : Response R E), a = some (.slot n, r) → n < sys.slots.size →
        (sys.deliver a).Filled (.slot n) := by
  unfold deliver
  split
  · rename_i n r
    split
    · rename_i empty
      obtain ⟨lt, -⟩ := Array.getElem?_eq_some_iff.1 empty
      refine ⟨Array.size_setIfInBounds, fun k r' held => ?_, fun k r' held => ?_, ?_⟩
      · by_cases same : n = k
        · subst same
          rw [empty] at held
          cases held
        · rwa [Array.getElem?_setIfInBounds_ne same]
      · by_cases same : n = k
        · subst same
          rw [Array.getElem?_setIfInBounds_self_of_lt lt] at held
          cases held
          exact .inr rfl
        · rw [Array.getElem?_setIfInBounds_ne same] at held
          exact .inl held
      · rintro k r' ⟨⟩ -
        exact ⟨n, r, rfl, Array.getElem?_setIfInBounds_self_of_lt lt⟩
    · rename_i full
      refine ⟨rfl, fun _ _ held => held, fun _ _ held => .inl held, ?_⟩
      rintro k r' ⟨⟩ lt
      cases held : sys.slots[n]? with
      | none => exact absurd lt (Nat.not_lt.2 (Array.getElem?_eq_none_iff.1 held))
      | some slot =>
        cases slot with
        | none => exact absurd held full
        | some r => exact ⟨n, r, rfl, held⟩
  · rename_i elsewhere
    exact ⟨rfl, fun _ _ held => held, fun _ _ held => .inl held, fun n r eq => absurd eq (elsewhere n r)⟩

theorem cells_setCell (sys : System P R E S) (i : Nat) (c : Cell P R E S) :
    (sys.setCell i c).cells = sys.cells.setIfInBounds i c := rfl

/-- The actors after one of them has taken a step. -/
theorem getElem?_setCell (here : sys.cells[i]? = some c) {d : Cell P R E S}
    (there : (sys.setCell i c').cells[j]? = some d) : j = i ∧ d = c' ∨ j ≠ i ∧ sys.cells[j]? = some d := by
  obtain ⟨lt, -⟩ := Array.getElem?_eq_some_iff.1 here
  rw [cells_setCell] at there
  by_cases same : i = j
  · subst same
    rw [Array.getElem?_setIfInBounds_self_of_lt lt] at there
    exact .inl ⟨rfl, (Option.some.inj there).symm⟩
  · rw [Array.getElem?_setIfInBounds_ne same] at there
    exact .inr ⟨Ne.symm same, there⟩

theorem getElem?_setCell_self (here : sys.cells[i]? = some c) : (sys.setCell i c').cells[i]? = some c' := by
  obtain ⟨lt, -⟩ := Array.getElem?_eq_some_iff.1 here
  rw [cells_setCell, Array.getElem?_setIfInBounds_self_of_lt lt]

@[simp] theorem size_setCell : (sys.setCell i c).cells.size = sys.cells.size := Array.size_setIfInBounds

theorem getElem?_setCell_ne (ne : j ≠ i) : (sys.setCell i c').cells[j]? = sys.cells[j]? := by
  rw [cells_setCell, Array.getElem?_setIfInBounds_ne ne.symm]

@[simp] theorem addCell_fst (sys : System P R E S) (id : UInt32) (name : String) (memory : S) :
    (sys.addCell id name memory).1 = sys.cells.size := rfl

/-- The actors after one was added. -/
theorem getElem?_addCell (sys : System P R E S) (id : UInt32) (name : String) (memory : S) (j : Nat) :
    (sys.addCell id name memory).2.cells[j]? =
      if j = sys.cells.size then some { id, name, memory } else sys.cells[j]? :=
  Array.getElem?_push

/-- What a step of a caller of actor `i` is. -/
theorem stepCaller_eq_some {caller now : Caller P} {sys' : System P R E S} :
    sys.stepCaller i caller = some (sys', now) ↔ ∃ c c' a, sys.cells[i]? = some c ∧
      c.callerStep caller = some (c', now, a) ∧ sys' = (sys.setCell i c').deliver a := by
  constructor
  · intro step
    obtain ⟨c, here, step⟩ := Option.bind_eq_some_iff.1 step
    obtain ⟨⟨c', now, a⟩, move, done⟩ := Option.bind_eq_some_iff.1 step
    cases done
    exact ⟨c, c', a, here, move, rfl⟩
  · rintro ⟨c, c', a, here, move, rfl⟩
    exact Option.bind_eq_some_iff.2 ⟨c, here, Option.bind_eq_some_iff.2 ⟨_, move, rfl⟩⟩

/-- What a step of the loop of actor `i` is. -/
theorem stepLoop_eq_some {h : Handler P R E S} {sys' : System P R E S} :
    sys.stepLoop h i = some sys' ↔ ∃ c c' a, sys.cells[i]? = some c ∧
      c.loopStep h.run h.held = some (c', a) ∧ sys' = (sys.setCell i c').deliver a := by
  constructor
  · intro step
    obtain ⟨c, here, step⟩ := Option.bind_eq_some_iff.1 step
    obtain ⟨⟨c', a⟩, move, done⟩ := Option.bind_eq_some_iff.1 step
    cases done
    exact ⟨c, c', a, here, move, rfl⟩
  · rintro ⟨c, c', a, here, move, rfl⟩
    exact Option.bind_eq_some_iff.2 ⟨c, here, Option.bind_eq_some_iff.2 ⟨_, move, rfl⟩⟩

/-- What has become of the requests that were accepted, each with the actor that did. -/
structure Requests (sys : System P R E S) (accepted : List (Nat × Message P)) : Prop where
  room : ∀ i m, (i, m) ∈ accepted → ∃ n, m.outlet = .slot n ∧ n < sys.slots.size
  held : ∀ i m, (i, m) ∈ accepted → ∃ c, sys.cells[i]? = some c ∧ (c.Holds m ∨ sys.Filled m.outlet)
  waiting : ∀ i c, sys.cells[i]? = some c → ∀ m ∈ c.waiting, (i, m) ∈ accepted
  promised : ∀ i c, sys.cells[i]? = some c → ∀ p ∈ c.promised,
    ∃ m, (i, m) ∈ accepted ∧ p.1 = m.outlet ∧ c.Replies m p.2
  slots : ∀ n r, sys.slots[n]? = some (some r) →
    ∃ i c m, sys.cells[i]? = some c ∧ (i, m) ∈ accepted ∧ m.outlet = .slot n ∧ c.Replies m r

/-- A step of actor `i`. -/
theorem Requests.step {accepted accepted' : List (Nat × Message P)} {new : List (Message P)}
    (requests : sys.Requests accepted) (here : sys.cells[i]? = some c) (steps : c.Steps c' new a.toList)
    (grown : ∀ p, p ∈ accepted' ↔ p ∈ accepted ∨ p.1 = i ∧ p.2 ∈ new)
    (room : ∀ m ∈ new, ∃ n, m.outlet = .slot n ∧ n < sys.slots.size) :
    ((sys.setCell i c').deliver a).Requests accepted' := by
  obtain ⟨size, kept, slots, filled⟩ := (sys.setCell i c').slots_deliver a
  have self : ((sys.setCell i c').deliver a).cells[i]? = some c' := by
    rw [cells_deliver, getElem?_setCell_self here]
  have others : ∀ {j d}, j ≠ i → sys.cells[j]? = some d →
      ((sys.setCell i c').deliver a).cells[j]? = some d := by
    intro j d ne there
    rw [cells_deliver, getElem?_setCell_ne ne, there]
  have back : ∀ {j d}, ((sys.setCell i c').deliver a).cells[j]? = some d →
      j = i ∧ d = c' ∨ j ≠ i ∧ sys.cells[j]? = some d := by
    intro j d there
    rw [cells_deliver] at there
    exact getElem?_setCell here there
  have old : ∀ {p}, p ∈ accepted → p ∈ accepted' := fun mem => (grown _).2 (.inl mem)
  have still : ∀ {o}, sys.Filled o → ((sys.setCell i c').deliver a).Filled o := by
    rintro o ⟨n, r, rfl, slot⟩
    exact ⟨n, r, rfl, kept n r slot⟩
  have space : ∀ j m, (j, m) ∈ accepted' → ∃ n, m.outlet = .slot n ∧ n < sys.slots.size := by
    intro j m mem
    rcases (grown _).1 mem with mem | ⟨-, mem⟩
    · exact requests.room j m mem
    · exact room m mem
  -- an answer that is given or promised after the step is to a message that was accepted before
  have origin : ∀ p ∈ a.toList ++ c'.promised, ∃ m, (i, m) ∈ accepted ∧ p.1 = m.outlet ∧ c'.Replies m p.2 := by
    have same : ∀ {m r}, c.Replies m r → c'.Replies m r := by
      rintro m r ⟨source, rest⟩
      exact ⟨source.trans steps.id.symm, rest⟩
    intro p mem
    rcases steps.answers p mem with mem | ⟨m, mem, outlet, replies⟩
    · obtain ⟨m, mem, outlet, replies⟩ := requests.promised i c here p mem
      exact ⟨m, mem, outlet, same replies⟩
    · exact ⟨m, requests.waiting i c here m mem, outlet, same replies⟩
  refine ⟨fun j m mem => ?_, fun j m mem => ?_, fun j d there m mem => ?_, fun j d there p mem => ?_,
    fun n r slot => ?_⟩
  · obtain ⟨n, outlet, lt⟩ := space j m mem
    exact ⟨n, outlet, lt.trans_eq size.symm⟩
  · -- the message is at actor `i` or in a slot, or it is at another one
    have atActor : (c.Holds m ∨ m ∈ new) → j = i →
        ∃ d, ((sys.setCell i c').deliver a).cells[j]? = some d ∧
          (d.Holds m ∨ ((sys.setCell i c').deliver a).Filled m.outlet) := by
      rintro held rfl
      refine ⟨c', self, (steps.holds m held).imp_right fun given => ?_⟩
      obtain ⟨⟨o, r⟩, mem', same⟩ := List.mem_map.1 given
      obtain ⟨n, outlet, lt⟩ := space j m mem
      obtain rfl : o = m.outlet := same
      rw [outlet] at mem' ⊢
      exact filled n r (Option.mem_toList.1 mem') lt
    rcases (grown _).1 mem with mem | ⟨same, mem⟩
    · obtain ⟨d, there, held⟩ := requests.held j m mem
      by_cases same : j = i
      · subst same
        cases here.symm.trans there
        rcases held with held | slot
        · exact atActor (.inl held) rfl
        · exact ⟨c', self, .inr (still slot)⟩
      · exact ⟨d, others same there, held.imp_right still⟩
    · exact atActor (.inr mem) same
  · rcases back there with ⟨rfl, rfl⟩ | ⟨ne, there⟩
    · rcases steps.waiting m mem with mem | mem
      · exact old (requests.waiting j c here m mem)
      · exact (grown _).2 (.inr ⟨rfl, mem⟩)
    · exact old (requests.waiting j d there m mem)
  · rcases back there with ⟨rfl, rfl⟩ | ⟨ne, there⟩
    · obtain ⟨m, mem, rest⟩ := origin p (List.mem_append_right _ mem)
      exact ⟨m, old mem, rest⟩
    · obtain ⟨m, mem, rest⟩ := requests.promised j d there p mem
      exact ⟨m, old mem, rest⟩
  · rcases slots n r slot with slot | rfl
    · obtain ⟨j, d, m, there, mem, outlet, replies⟩ := requests.slots n r slot
      by_cases same : j = i
      · subst same
        cases here.symm.trans there
        exact ⟨j, c', m, self, old mem, outlet, replies.1.trans steps.id.symm, replies.2⟩
      · exact ⟨j, d, m, others same there, old mem, outlet, replies⟩
    · obtain ⟨m, mem, outlet, replies⟩ := origin (.slot n, r) (by simp)
      exact ⟨i, c', m, self, old mem, outlet.symm, replies⟩

theorem Requests.congr {sys' : System P R E S} {accepted : List (Nat × Message P)}
    (requests : sys.Requests accepted) (cells : sys'.cells = sys.cells) (slots : sys'.slots = sys.slots) :
    sys'.Requests accepted := by
  obtain ⟨_, _, _, _, _⟩ := sys
  obtain ⟨_, _, _, _, _⟩ := sys'
  cases cells
  cases slots
  exact ⟨requests.room, requests.held, requests.waiting, requests.promised, requests.slots⟩

/-- A new actor has accepted nothing. -/
theorem Requests.add {accepted : List (Nat × Message P)} {id : UInt32} {label : String} {memory : S}
    (requests : sys.Requests accepted) : (sys.addCell id label memory).2.Requests accepted := by
  have kept : ∀ {i : Nat} {c : Cell P R E S}, sys.cells[i]? = some c →
      (sys.addCell id label memory).2.cells[i]? = some c := by
    intro i c here
    obtain ⟨lt, -⟩ := Array.getElem?_eq_some_iff.1 here
    rw [getElem?_addCell, if_neg (Nat.ne_of_lt lt), here]
  have back : ∀ {i : Nat} {c : Cell P R E S}, (sys.addCell id label memory).2.cells[i]? = some c →
      sys.cells[i]? = some c ∨ c = { id, name := label, memory } := by
    intro i c there
    rw [getElem?_addCell] at there
    split at there
    · exact .inr (Option.some.inj there).symm
    · exact .inl there
  refine ⟨requests.room, fun i m mem => ?_, fun i c there m mem => ?_, fun i c there p mem => ?_,
    fun n r slot => ?_⟩
  · obtain ⟨c, here, held⟩ := requests.held i m mem
    exact ⟨c, kept here, held⟩
  · rcases back there with here | rfl
    · exact requests.waiting i c here m mem
    · cases mem
  · rcases back there with here | rfl
    · exact requests.promised i c here p mem
    · cases mem
  · obtain ⟨i, c, m, here, rest⟩ := requests.slots n r slot
    exact ⟨i, c, m, kept here, rest⟩

theorem formed_step {new : List (Message P)} {given : List (Answer R E)}
    (formed : ∀ (j : Nat) (d : Cell P R E S), sys.cells[j]? = some d → d.WellFormed)
    (here : sys.cells[i]? = some c) (steps : c.Steps c' new given) (j : Nat) (d : Cell P R E S)
    (there : ((sys.setCell i c').deliver a).cells[j]? = some d) : d.WellFormed := by
  rw [cells_deliver] at there
  rcases getElem?_setCell here there with ⟨-, rfl⟩ | ⟨-, there⟩
  · exact steps.formed
  · exact formed j d there

/-- A request at an actor whose loop has ended is answered. -/
theorem Requests.answered {accepted : List (Nat × Message P)} (requests : sys.Requests accepted)
    (distinct : (accepted.map (·.2.outlet)).Nodup) (formed : c.WellFormed) (done : c.isDone = true)
    (here : sys.cells[i]? = some c) (mem : (i, m) ∈ accepted) :
    ∃ n r, m.outlet = .slot n ∧ sys.slots[n]? = some (some r) ∧ c.Replies m r := by
  have finished : c.loop = .finished := by
    rw [Cell.isDone] at done
    split at done
    · assumption
    · cases done
  have nothing : ¬ c.Holds m := by
    have queue := formed.emptied (by rw [finished]; rfl)
    rw [Cell.Holds, Cell.waiting, Cell.promised, finished, queue]
    simp
  obtain ⟨d, there, held⟩ := requests.held i m mem
  cases here.symm.trans there
  obtain ⟨n, r, outlet, slot⟩ := held.resolve_left nothing
  obtain ⟨j, d, m', there', mem', outlet', replies⟩ := requests.slots n r slot
  -- no other request has the slot
  have same : (i, m) = (j, m') :=
    List.inj_on_of_nodup_map distinct mem mem' (outlet.trans outlet'.symm)
  cases same
  cases here.symm.trans there'
  exact ⟨n, r, outlet, slot, replies⟩

end System

end TermBot.Actor

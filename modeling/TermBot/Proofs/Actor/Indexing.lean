import TermBot.Actor.Directory
import Mathlib.Data.List.Nodup
import Mathlib.Data.List.Perm.Basic

/-!
# The indexes of a directory agree

A directory keeps its actors in a list of numbers and in two tables, by number and by name. Beside it a roll is
kept of the actors that were added and not removed since, judging by what the operations returned (`Roll`). Each of
the three can be read off the roll (`Roll.Sound`), and one operation keeps that (`Roll.Sound.record`). So they
agree after any operations, whatever numbers and names were given (`indexes_agree`).
-/

namespace TermBot.Actor.Directory

/-! ### Tables -/

/-- In a table without repeated keys every row is found. -/
theorem lookup_eq_some_iff_mem {κ β : Type} [BEq κ] [LawfulBEq κ] {rows : List (κ × β)}
    (distinct : (rows.map Prod.fst).Nodup) {k : κ} {b : β} : rows.lookup k = some b ↔ (k, b) ∈ rows := by
  induction rows with
  | nil => simp
  | cons row rows ih =>
    obtain ⟨absent, distinct⟩ := List.nodup_cons.1 distinct
    rw [List.lookup_cons, List.mem_cons]
    cases same : k == row.1 with
    | true =>
      obtain rfl := eq_of_beq same
      have none : (row.1, b) ∉ rows := fun mem => absent (List.mem_map.2 ⟨_, mem, rfl⟩)
      simp [Prod.ext_iff, none, eq_comm]
    | false =>
      have other : (k, b) ≠ row := fun here => by simp [← here] at same
      simp [other, ih distinct]

theorem lookup_isSome_iff_mem {κ β : Type} [BEq κ] [LawfulBEq κ] {rows : List (κ × β)} {k : κ} :
    (rows.lookup k).isSome = true ↔ k ∈ rows.map Prod.fst := by
  rw [List.lookup_isSome_iff, List.mem_map]
  exact exists_congr fun _ => and_congr_right fun _ => beq_iff_eq.trans eq_comm

/-! ### Operations -/

variable {α : Type}

/-- An operation that may change a directory. -/
inductive Op (α : Type) where
  | allocate
  | add (actor : Option (UInt32 × α)) (name : String)
  | remove (id : UInt32)

/-- The error of a result, if it is one. -/
def error? : Except DirectoryError Unit → Option DirectoryError
  | .ok _ => none
  | .error e => some e

/-- An operation, with its error if it fails. -/
def perform (d : Directory α) : Op α → Option DirectoryError × Directory α
  | .allocate => (none, d.allocate.2)
  | .add actor name => (d.add actor name).map error? fun d => d
  | .remove id => (d.remove id).map error? fun d => d

theorem perform_failed {d : Directory α} {op : Op α} (failed : (d.perform op).1 ≠ none) :
    (d.perform op).2 = d := by
  cases op with
  | allocate => exact absurd rfl failed
  | add actor name =>
    rcases added : d.add actor name with ⟨e | _, d'⟩
    · simpa [perform, added] using add_eq_error added
    · simp [perform, added, error?] at failed
  | remove id =>
    rcases removed : d.remove id with ⟨e | _, d'⟩
    · simpa [perform, removed] using remove_eq_error removed
    · simp [perform, removed, error?] at failed

/-- An actor that was added. -/
structure Entry (α : Type) where
  id : UInt32
  actor : α
  name : String

/-- The row of an actor in the table by number. -/
def Entry.row (e : Entry α) : UInt32 × α := (e.id, e.actor)

/-- The row of an actor in the table by name, if it has a name. -/
def Entry.nameRow? (e : Entry α) : Option (String × UInt32) := if e.name = "" then none else some (e.name, e.id)

theorem Entry.nameRow?_eq_some {e : Entry α} {name : String} {id : UInt32} :
    e.nameRow? = some (name, id) ↔ name ≠ "" ∧ e.name = name ∧ e.id = id := by
  rw [nameRow?]
  split
  case isTrue unnamed => exact iff_of_false nofun fun ⟨named, same, _⟩ => named (same ▸ unnamed)
  case isFalse named =>
    rw [Option.some.injEq, Prod.mk.injEq]
    exact ⟨fun ⟨same, number⟩ => ⟨same ▸ named, same, number⟩, And.right⟩

theorem filterMap_concat (entries : List (Entry α)) (e : Entry α) :
    (entries ++ [e]).filterMap Entry.nameRow? = entries.filterMap Entry.nameRow? ++ e.nameRow?.toList := by
  rw [List.filterMap_append, List.filterMap_cons]
  cases e.nameRow? <;> rfl

theorem Entry.filter_nameRow? (e : Entry α) (id : UInt32) :
    e.nameRow?.filter (·.2 ≠ id) = if decide (e.id ≠ id) then e.nameRow? else none := by
  rw [nameRow?]
  split <;> simp [Option.filter]

/-- The directory with a new actor in the list and in the tables. -/
def entered (d : Directory α) (e : Entry α) : Directory α :=
  { d with
    byId := e.row :: d.byId
    byName := e.nameRow?.toList ++ d.byName
    order := d.order ++ [e.id] }

/-- What an operation that succeeds does to a roll of actors. -/
def enter (entries : List (Entry α)) : Op α → List (Entry α)
  | .add (some (id, a)) name => entries ++ [⟨id, a, name⟩]
  | .remove id => entries.filter (·.id ≠ id)
  | _ => entries

/-- What is wrong with an operation when these actors are there. -/
def refusal? (entries : List (Entry α)) : Op α → Option DirectoryError
  | .allocate => none
  | .add none _ => some .noActor
  | .add (some (id, _)) name =>
    if entries.any (·.id = id) then some (.idTaken id)
    else if name ≠ "" ∧ entries.any (·.name = name) then some (.nameTaken name)
    else none
  | .remove id => if entries.any (·.id = id) then none else some (.unknownId id)

/-- A directory with the actors that were added to it and not removed since, oldest first. -/
structure Roll (α : Type) where
  directory : Directory α := {}
  entries : List (Entry α) := []

theorem refusal?_eq_none {entries : List (Entry α)} {e : Entry α}
    (free : refusal? entries (.add (some e.row) e.name) = none) :
    e.id ∉ entries.map Entry.id ∧ (e.name ≠ "" → ∀ e' ∈ entries, e'.name ≠ e.name) := by
  rw [refusal?, Entry.row] at free
  dsimp only at free
  split at free
  · cases free
  case isFalse number =>
  split at free
  · cases free
  case isFalse name =>
  refine ⟨by simpa using number, fun named => ?_⟩
  simpa [named] using name

namespace Roll

variable {r : Roll α}

/-- An operation; the roll goes by what it returns. -/
def record (r : Roll α) (op : Op α) : Roll α where
  directory := (r.directory.perform op).2
  entries := if (r.directory.perform op).1.isNone then enter r.entries op else r.entries

/-- Operations on a new directory. -/
def play (ops : List (Op α)) : Roll α := ops.foldl record {}

/-- All that the directory holds can be read off the roll, whose numbers and names are different. -/
structure Sound (r : Roll α) : Prop where
  order : r.directory.order = r.entries.map Entry.id
  byId : r.directory.byId.reverse = r.entries.map Entry.row
  byName : r.directory.byName.reverse = r.entries.filterMap Entry.nameRow?
  ids : (r.entries.map Entry.id).Nodup
  names : ((r.entries.filterMap Entry.nameRow?).map Prod.fst).Nodup

theorem Sound.keys (sound : r.Sound) : (r.directory.byId.map Prod.fst).Perm (r.entries.map Entry.id) := by
  refine (List.reverse_perm _).symm.trans (.of_eq ?_)
  rw [← List.map_reverse, sound.byId, List.map_map]
  rfl

theorem Sound.lookup_byId (sound : r.Sound) {id : UInt32} {a : α} :
    r.directory.byId.lookup id = some a ↔ ∃ e ∈ r.entries, e.row = (id, a) := by
  rw [lookup_eq_some_iff_mem (sound.keys.nodup_iff.2 sound.ids), ← List.mem_reverse, sound.byId, List.mem_map]

theorem Sound.isSome_byId (sound : r.Sound) {id : UInt32} :
    (r.directory.byId.lookup id).isSome = r.entries.any (·.id = id) := by
  rw [Bool.eq_iff_iff, lookup_isSome_iff_mem, sound.keys.mem_iff]
  simp

theorem Sound.distinct_byName (sound : r.Sound) : (r.directory.byName.map Prod.fst).Nodup := by
  rw [← List.nodup_reverse, ← List.map_reverse, sound.byName]
  exact sound.names

theorem Sound.lookup_byName (sound : r.Sound) {name : String} {id : UInt32} :
    r.directory.byName.lookup name = some id ↔ ∃ e ∈ r.entries, e.nameRow? = some (name, id) := by
  rw [lookup_eq_some_iff_mem sound.distinct_byName, ← List.mem_reverse, sound.byName, List.mem_filterMap]

/-- A name is taken just if an actor on the roll has it. -/
theorem Sound.isSome_byName (sound : r.Sound) {name : String} (named : name ≠ "") :
    (r.directory.byName.lookup name).isSome = r.entries.any (·.name = name) := by
  rw [Bool.eq_iff_iff, Option.isSome_iff_exists, List.any_eq_true]
  constructor
  · rintro ⟨id, found⟩
    obtain ⟨e, mem, row⟩ := sound.lookup_byName.1 found
    exact ⟨e, mem, decide_eq_true (Entry.nameRow?_eq_some.1 row).2.1⟩
  · rintro ⟨e, mem, same⟩
    exact ⟨e.id, sound.lookup_byName.2 ⟨e, mem, Entry.nameRow?_eq_some.2 ⟨named, of_decide_eq_true same, rfl⟩⟩⟩

/-- Adding an actor succeeds unless its number or its name is taken. -/
theorem Sound.add_eq (sound : r.Sound) (e : Entry α) :
    r.directory.add (some e.row) e.name =
      match refusal? r.entries (.add (some e.row) e.name) with
      | some refusal => (.error refusal, r.directory)
      | none => (.ok (), r.directory.entered e) := by
  rw [add, refusal?, entered, Entry.row, Entry.nameRow?]
  dsimp only
  rw [sound.isSome_byId]
  cases taken : r.entries.any (·.id = e.id) with
  | true => rfl
  | false =>
    by_cases named : e.name = ""
    · simp [named]
    · rw [sound.isSome_byName named]
      cases r.entries.any (·.name = e.name) <;> simp [named]

/-- The roll with a new actor. -/
theorem Sound.added (sound : r.Sound) (e : Entry α)
    (free : refusal? r.entries (.add (some e.row) e.name) = none) :
    Sound { directory := r.directory.entered e, entries := r.entries ++ [e] } := by
  obtain ⟨number, name⟩ := refusal?_eq_none free
  refine ⟨?_, ?_, ?_, ?_, ?_⟩
  · rw [entered, sound.order, List.map_append, List.map_singleton]
  · rw [entered, List.reverse_cons, sound.byId, List.map_append, List.map_singleton]
  · rw [entered, List.reverse_append, sound.byName, filterMap_concat]
    cases e.nameRow? <;> rfl
  · rw [List.map_append, List.map_singleton]
    exact List.concat_eq_append ▸ sound.ids.concat number
  · rw [filterMap_concat]
    cases row : e.nameRow? with
    | none =>
      rw [Option.toList_none, List.append_nil]
      exact sound.names
    | some row' =>
      rw [Option.toList_some, List.map_append, List.map_singleton]
      refine List.concat_eq_append ▸ sound.names.concat fun mem => ?_
      obtain ⟨other, mem, same⟩ := List.mem_map.1 mem
      obtain ⟨e', there, row''⟩ := List.mem_filterMap.1 mem
      obtain ⟨nonempty, here, -⟩ := Entry.nameRow?_eq_some.1 row
      obtain ⟨-, also, -⟩ := Entry.nameRow?_eq_some.1 row''
      exact name (here ▸ nonempty) e' there (also.trans (same.trans here.symm))

theorem Sound.removed (sound : r.Sound) (id : UInt32) :
    Sound {
      directory := { r.directory with
        byId := r.directory.byId.filter (·.1 ≠ id)
        byName := r.directory.byName.filter (·.2 ≠ id)
        order := r.directory.order.erase id }
      entries := r.entries.filter (·.id ≠ id) } where
  order := by
    dsimp only
    rw [sound.order, sound.ids.erase_eq_filter, List.filter_map]
    refine congrArg (List.map _) (List.filter_congr fun e _ => ?_)
    rw [Bool.eq_iff_iff]
    simp
  byId := by
    dsimp only
    rw [← List.filter_reverse, sound.byId, List.filter_map]
    rfl
  byName := by
    dsimp only
    rw [← List.filter_reverse, sound.byName, List.filter_filterMap, List.filterMap_filter]
    exact List.filterMap_congr fun e _ => e.filter_nameRow? id
  ids := sound.ids.sublist (List.filter_sublist.map _)
  names := sound.names.sublist ((List.filter_sublist.filterMap _).map _)

/-- An operation fails just with what is wrong with it, and then changes nothing. -/
theorem Sound.perform_fst (sound : r.Sound) (op : Op α) :
    (r.directory.perform op).1 = refusal? r.entries op := by
  cases op with
  | allocate => rfl
  | add actor name =>
    cases actor with
    | none => rfl
    | some row =>
      have added := sound.add_eq ⟨row.1, row.2, name⟩
      dsimp only [Entry.row] at added
      rw [perform, added]
      split <;> simp [error?, *]
  | remove id =>
    rw [perform, remove, sound.isSome_byId, refusal?]
    split <;> rfl

/-- An operation that fails leaves the roll as it is. -/
theorem record_failed {op : Op α} {refusal : DirectoryError} (failed : (r.directory.perform op).1 = some refusal) :
    r.record op = r := by
  have same : (r.directory.perform op).2 = r.directory := perform_failed (by rw [failed]; nofun)
  rw [record, same, failed]
  rfl

/-- An operation keeps the roll sound. -/
theorem Sound.record (sound : r.Sound) (op : Op α) : (r.record op).Sound := by
  have result := sound.perform_fst op
  cases refused : refusal? r.entries op with
  | some refusal =>
    rw [record_failed (result.trans refused)]
    exact sound
  | none =>
    rw [Roll.record, result, refused]
    cases op with
    | allocate => exact ⟨sound.order, sound.byId, sound.byName, sound.ids, sound.names⟩
    | add actor name =>
      cases actor with
      | none => cases refused
      | some row =>
        have added := sound.add_eq ⟨row.1, row.2, name⟩
        dsimp only [Entry.row] at added
        rw [refused] at added
        rw [perform, added]
        exact sound.added ⟨row.1, row.2, name⟩ refused
    | remove id =>
      have known : (r.directory.byId.lookup id).isSome = true := by
        rw [sound.isSome_byId]
        by_contra unknown
        simp [refusal?, unknown] at refused
      rw [perform, remove, if_pos known]
      exact sound.removed id

theorem Sound.play (ops : List (Op α)) : (Roll.play ops).Sound := by
  have new : (({} : Roll α)).Sound := ⟨rfl, rfl, rfl, List.nodup_nil, List.nodup_nil⟩
  rw [Roll.play]
  generalize ({} : Roll α) = r at new
  induction ops generalizing r with
  | nil => exact new
  | cons op ops ih => exact ih _ (new.record op)

end Roll

/-! ### After any operations -/

/-- The list and the two tables of a directory fit each other. -/
structure Consistent (d : Directory α) : Prop where
  /-- No number is listed twice. -/
  distinct : d.order.Nodup
  /-- What is listed is what is found by number. -/
  byId : (d.byId.map Prod.fst).Perm d.order
  /-- No name has two actors. -/
  byName : (d.byName.map Prod.fst).Nodup
  /-- No actor has two names. -/
  single : (d.byName.map Prod.snd).Nodup
  /-- Every name has an actor that is there. -/
  known : ∀ id ∈ d.byName.map Prod.snd, id ∈ d.byId.map Prod.fst

namespace Roll

variable {r : Roll α}

theorem Sound.consistent (sound : r.Sound) : r.directory.Consistent where
  distinct := sound.order ▸ sound.ids
  byId := sound.order ▸ sound.keys
  byName := sound.distinct_byName
  single := by
    have ids := List.pairwise_map.1 sound.ids
    rw [← List.nodup_reverse, ← List.map_reverse, sound.byName, List.Nodup, List.pairwise_map,
      List.pairwise_filterMap]
    refine ids.imp fun other row here row' there => ?_
    rw [← (Entry.nameRow?_eq_some.1 here).2.2, ← (Entry.nameRow?_eq_some.1 there).2.2]
    exact other
  known id mem := by
    obtain ⟨row, inside, rfl⟩ := List.mem_map.1 mem
    rw [← List.mem_reverse, sound.byName, List.mem_filterMap] at inside
    obtain ⟨e, mem, here⟩ := inside
    rw [sound.keys.mem_iff, ← (Entry.nameRow?_eq_some.1 here).2.2]
    exact List.mem_map_of_mem mem

theorem Sound.actors (sound : r.Sound) : r.directory.actors = r.entries.map Entry.actor := by
  have found : ∀ e ∈ r.entries, r.directory.byId.lookup e.id = some e.actor :=
    fun e mem => sound.lookup_byId.2 ⟨e, mem, rfl⟩
  rw [Directory.actors, sound.order, List.filterMap_map]
  exact (List.filterMap_congr found).trans (congrFun List.filterMap_eq_map' _)

/-- The name of an actor stays taken until the actor is removed. -/
theorem Sound.stays {name : String} {id : UInt32} {op : Op α} (sound : r.Sound)
    (taken : r.directory.byName.lookup name = some id) (other : op ≠ .remove id) :
    (r.directory.perform op).2.byName.lookup name = some id := by
  obtain ⟨e, mem, row⟩ := sound.lookup_byName.1 taken
  have number : e.id = id := (Entry.nameRow?_eq_some.1 row).2.2
  refine (sound.record op).lookup_byName.2 ⟨e, ?_, row⟩
  rw [Roll.record]
  dsimp only
  split
  case isFalse => exact mem
  case isTrue =>
  cases op with
  | allocate => exact mem
  | add actor name =>
    cases actor with
    | none => exact mem
    | some row => exact List.mem_append_left _ mem
  | remove id' => exact List.mem_filter.2 ⟨mem, decide_eq_true fun same => other (same ▸ number ▸ rfl)⟩

/-- The name of an actor is free when the actor has been removed. -/
theorem Sound.freed {name : String} {id : UInt32} (sound : r.Sound)
    (taken : r.directory.byName.lookup name = some id) :
    (r.directory.perform (.remove id)).2.byName.lookup name = none := by
  obtain ⟨e, mem, row⟩ := sound.lookup_byName.1 taken
  have known : refusal? r.entries (.remove id) = none := by
    rw [refusal?, if_pos (List.any_eq_true.2 ⟨e, mem, decide_eq_true (Entry.nameRow?_eq_some.1 row).2.2⟩)]
  rw [Option.eq_none_iff_forall_ne_some]
  intro id' still
  obtain ⟨e', left, row'⟩ := (sound.record (.remove id)).lookup_byName.1 still
  rw [Roll.record, sound.perform_fst, known] at left
  obtain ⟨mem', other⟩ := List.mem_filter.1 left
  -- the table before had one actor under that name
  have before := sound.lookup_byName.2 ⟨e', mem', row'⟩
  rw [taken, Option.some.injEq] at before
  exact of_decide_eq_true other ((Entry.nameRow?_eq_some.1 row').2.2.trans before.symm)

end Roll

/-- **The indexes of a directory agree**, whatever operations it has seen and however many of them failed. The list
and the tables fit each other, so a name always leads to an actor that is there. The actors are those that were
added and not removed since, in the order in which they were added, and a name is taken just if one of them has it.
Another operation fails just for a reason that these actors give, and then changes nothing; and a name that is taken
becomes free by it just if it removes the actor of that name, and else stays with that actor. -/
theorem indexes_agree (ops : List (Op α)) :
    let d := (Roll.play ops).directory
    let entries := (Roll.play ops).entries
    d.Consistent ∧
      (∀ name id, d.byName.lookup name = some id →
        ∃ a, d.byId.lookup id = some a ∧ d.named? name = some (id, a)) ∧
      d.order = entries.map Entry.id ∧ d.actors = entries.map Entry.actor ∧
      (∀ id a, d.byId.lookup id = some a ↔ ∃ e ∈ entries, e.id = id ∧ e.actor = a) ∧
      (∀ name id, d.byName.lookup name = some id ↔ name ≠ "" ∧ ∃ e ∈ entries, e.name = name ∧ e.id = id) ∧
      ∀ op, (d.perform op).1 = refusal? entries op ∧ ((d.perform op).1 ≠ none → (d.perform op).2 = d) ∧
        ∀ name id, d.byName.lookup name = some id →
          (op = .remove id → (d.perform op).2.byName.lookup name = none) ∧
            (op ≠ .remove id → (d.perform op).2.byName.lookup name = some id) := by
  have sound := Roll.Sound.play ops
  intro d entries
  have order : d.order = entries.map Entry.id := sound.order
  refine ⟨sound.consistent, ?_, order, sound.actors, ?_, ?_, fun op => ⟨sound.perform_fst op, perform_failed, ?_⟩⟩
  · intro name id taken
    obtain ⟨e, mem, row⟩ := sound.lookup_byName.1 taken
    have found : d.byId.lookup id = some e.actor :=
      sound.lookup_byId.2 ⟨e, mem, Prod.ext (Entry.nameRow?_eq_some.1 row).2.2 rfl⟩
    refine ⟨e.actor, found, ?_⟩
    simp [named?, taken, found]
  · intro id a
    rw [sound.lookup_byId]
    exact exists_congr fun e => and_congr_right fun _ => Prod.mk.injEq .. ▸ Iff.rfl
  · intro name id
    rw [sound.lookup_byName]
    simp only [Entry.nameRow?_eq_some]
    exact ⟨fun ⟨e, mem, named, here⟩ => ⟨named, e, mem, here⟩, fun ⟨named, e, mem, here⟩ => ⟨e, mem, named, here⟩⟩
  · intro name id taken
    exact ⟨fun removed => removed ▸ sound.freed taken, sound.stays taken⟩

end TermBot.Actor.Directory

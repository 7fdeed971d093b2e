import Mathlib.Data.List.Permutation
import TermBot.Proofs.Lifecycle.Order

/-!
# The start order is that of the dependencies

Two runs of the placing of services are compared, on registrations that agree in the services and in the
relation of dependencies alone: the services may be met in any order, and a service may list its dependencies in
any order and as often as it likes. The counts of the two runs are different then, but what a placed service
frees is the same: the services that were waiting for it and wait for no other one (`Placing.mem_freed`). It is
sorted, so the runs place the same services in the same order (`Placing.place_eq`), and the outcome is the same
up to the dependency that is reported as unknown (`startOrder_independent`).
-/

namespace TermBot.Lifecycle

/-- The same services with the same dependencies. -/
structure SameRelation (nodes nodes' : List Node) : Prop where
  names : (nodes.map (·.name)).Perm (nodes'.map (·.name))
  needs : ∀ x d, Needs nodes x d ↔ Needs nodes' x d

/-- The same order, or two errors of one kind. -/
inductive SameOutcome : Except OrderError (List String) → Except OrderError (List String) → Prop where
  | order (order : List String) : SameOutcome (.ok order) (.ok order)
  | unknownDependency (x d x' d' : String) :
      SameOutcome (.error (.unknownDependency x d)) (.error (.unknownDependency x' d'))
  | cycle : SameOutcome (.error .cycle) (.error .cycle)

variable {nodes nodes' registered registered' : List Node} {services services' ready placed names names' : List String}
  {degree degree' : Degrees} {current x : String}

/-! ### Sorting -/

theorem pairwise_sortNames (names : List String) : (sortNames names).Pairwise (· ≤ ·) := by
  have sorted := @List.pairwise_mergeSort String (fun a b => decide (a ≤ b))
    (fun a b c ab bc => decide_eq_true (String.le_trans (of_decide_eq_true ab) (of_decide_eq_true bc)))
    (fun a b => by simpa using String.le_total a b) names
  exact sorted.imp of_decide_eq_true

/-- Sorting forgets the order in which names come. -/
theorem sortNames_eq_of_perm (perm : names.Perm names') : sortNames names = sortNames names' := by
  refine List.Perm.eq_of_pairwise (fun a b _ _ => String.le_antisymm) (pairwise_sortNames _)
    (pairwise_sortNames _) ?_
  exact ((sortNames_perm names).trans perm).trans (sortNames_perm names').symm

/-! ### Two runs -/

/-- A service is freed just if all its dependencies are placed now and it was neither placed nor ready before. -/
theorem Placing.mem_freed (closed : ∀ x d, Needs nodes x d → x ∈ services)
    (placing : Placing services nodes degree (current :: ready) placed) :
    x ∈ (release degree (dependents nodes current)).1 ↔
      x ∈ services ∧ (∀ d, Needs nodes x d → d ∈ placed ++ [current]) ∧ x ∉ placed ++ current :: ready := by
  have after := placing.step closed
  have waiting : (release degree (dependents nodes current)).2 x = 0 ↔
      ∀ d, Needs nodes x d → d ∈ placed ++ [current] := by
    rw [after.counts, ← waits_eq_zero]
    exact Int.natCast_eq_zero
  have due := after.due x
  have split : placed ++ [current] ++ (ready ++ sortNames (release degree (dependents nodes current)).1) =
      placed ++ current :: ready ++ sortNames (release degree (dependents nodes current)).1 := by
    simp
  rw [split, List.mem_append, (sortNames_perm _).mem_iff, waiting] at due
  constructor
  · intro freed
    obtain ⟨service, allPlaced⟩ := due.1 (.inr freed)
    refine ⟨service, allPlaced, fun before => ?_⟩
    have nodup := after.nodup
    rw [split] at nodup
    exact List.disjoint_of_nodup_append nodup before ((sortNames_perm _).mem_iff.2 freed)
  · rintro ⟨service, allPlaced, isNew⟩
    exact (due.2 ⟨service, allPlaced⟩).resolve_left isNew

/-- Runs on the same services and the same relation place the same services in the same order. -/
theorem Placing.place_eq (same : ∀ x, x ∈ services ↔ x ∈ services')
    (needs : ∀ x d, Needs nodes x d ↔ Needs nodes' x d) (closed : ∀ x d, Needs nodes x d → x ∈ services)
    (closed' : ∀ x d, Needs nodes' x d → x ∈ services') {limit : Nat}
    (placing : Placing services nodes degree ready placed)
    (placing' : Placing services' nodes' degree' ready placed) :
    place nodes limit degree ready placed = place nodes' limit degree' ready placed := by
  induction limit generalizing degree degree' ready placed with
  | zero => rfl
  | succ n ih =>
    cases ready with
    | nil => rfl
    | cons current ready =>
      have freed : sortNames (release degree (dependents nodes current)).1 =
          sortNames (release degree' (dependents nodes' current)).1 := by
        refine sortNames_eq_of_perm ((List.perm_ext_iff_of_nodup (nodup_release _ _) (nodup_release _ _)).2 ?_)
        intro x
        rw [placing.mem_freed closed, placing'.mem_freed closed', same]
        simp only [needs]
      have next := placing.step closed
      have next' := placing'.step closed'
      rw [← freed] at next'
      show place nodes n _ _ _ = place nodes' n _ _ _
      rw [← freed]
      exact ih next next'

theorem roots_eq (same : services.Perm services') (needs : ∀ x d, Needs nodes x d ↔ Needs nodes' x d) :
    sortNames (services.filter fun s => degrees nodes s = 0) =
      sortNames (services'.filter fun s => degrees nodes' s = 0) := by
  have zero (x : String) : degrees nodes x = 0 ↔ degrees nodes' x = 0 := by
    rw [waits_nil, waits_nil, Int.natCast_eq_zero, Int.natCast_eq_zero, waits_eq_zero, waits_eq_zero]
    simp only [needs]
  refine sortNames_eq_of_perm ?_
  simp only [zero]
  exact same.filter _

/-- The outcome on two enumerations of the same relation. -/
theorem startOrderOf_sameOutcome (distinct : services.Nodup) (same : services.Perm services')
    (needs : ∀ x d, Needs nodes x d ↔ Needs nodes' x d) (closed : ∀ x d, Needs nodes x d → x ∈ services) :
    SameOutcome (startOrderOf services nodes) (startOrderOf services' nodes') := by
  have closed' (x d : String) (dep : Needs nodes' x d) : x ∈ services' :=
    same.mem_iff.1 (closed x d ((needs x d).2 dep))
  by_cases known : ∀ x d, Needs nodes x d → d ∈ services
  · have known' (x d : String) (dep : Needs nodes' x d) : d ∈ services' :=
      same.mem_iff.1 (known x d ((needs x d).2 dep))
    have roots : Placing services nodes _ _ [] := Placing.roots distinct
    have roots' : Placing services' nodes' _ _ [] := Placing.roots (same.nodup_iff.1 distinct)
    rw [← roots_eq same needs] at roots'
    have order : place nodes services.length _ _ [] = place nodes' services.length _ _ [] :=
      roots.place_eq (fun x => same.mem_iff) needs closed closed' roots'
    rw [startOrderOf, startOrderOf, unknown?_eq_none.2 known, unknown?_eq_none.2 known']
    dsimp only
    rw [← roots_eq same needs, ← same.length_eq, ← order]
    split
    · exact .order _
    · exact .cycle
  · have unknown' : ¬ ∀ x d, Needs nodes' x d → d ∈ services' := fun known' =>
      known fun x d dep => same.mem_iff.2 (known' x d ((needs x d).1 dep))
    obtain ⟨x, d, -, -, failed⟩ := startOrderOf_unknown known
    obtain ⟨x', d', -, -, failed'⟩ := startOrderOf_unknown unknown'
    rw [failed, failed']
    exact .unknownDependency x d x' d'

/-- Registrations of the same services with the same dependencies have the same start order, or fail with an
error of the same kind, in whatever order services and dependencies were registered and are enumerated. -/
theorem startOrder_independent (distinct : (registered.map (·.name)).Nodup)
    (same : SameRelation registered registered')
    (names : services.Perm (registered.map (·.name))) (names' : services'.Perm (registered'.map (·.name)))
    (listed : nodes.Perm registered) (listed' : nodes'.Perm registered') :
    SameOutcome (startOrderOf services nodes) (startOrderOf services' nodes') := by
  have needs (x d : String) : Needs nodes x d ↔ Needs nodes' x d := by
    have relation := same.needs x d
    simp only [Needs] at relation ⊢
    simpa only [listed.mem_iff, listed'.mem_iff] using relation
  refine startOrderOf_sameOutcome (names.nodup_iff.2 distinct) ?_ needs fun x d dep => ?_
  · exact (names.trans same.names).trans names'.symm
  · obtain ⟨n, node, rfl, -⟩ := dep
    exact names.mem_iff.2 (List.mem_map_of_mem (listed.mem_iff.1 node))

/-- A service that lists a dependency twice in one registration, and two services that become ready at once. -/
theorem startOrder_independent_relisted :
    let registered : List Node := [⟨"c", ["a", "b"]⟩, ⟨"b", ["a"]⟩, ⟨"a", []⟩, ⟨"d", ["a"]⟩]
    let registered' : List Node := [⟨"d", ["a"]⟩, ⟨"a", []⟩, ⟨"b", ["a"]⟩, ⟨"c", ["b", "a", "b"]⟩]
    let services := ["d", "a", "c", "b"]
    let services' := ["c", "b", "d", "a"]
    (registered.map (·.name)).Nodup ∧ SameRelation registered registered' ∧
      services.Perm (registered.map (·.name)) ∧ services'.Perm (registered'.map (·.name)) ∧
      registered.reverse.Perm registered ∧ registered'.reverse.Perm registered' ∧
      startOrderOf services registered.reverse = .ok ["a", "b", "d", "c"] ∧
      SameOutcome (startOrderOf services registered.reverse) (startOrderOf services' registered'.reverse) := by
  intro registered registered' services services'
  have distinct : (registered.map (·.name)).Nodup := by decide
  have same : SameRelation registered registered' := by
    have kept : edges registered ⊆ edges registered' := by decide
    have nothingNew : edges registered' ⊆ edges registered := by decide
    refine ⟨by decide, fun x d => ?_⟩
    rw [← mem_edges, ← mem_edges]
    exact ⟨fun edge => kept edge, fun edge => nothingNew edge⟩
  have names : services.Perm (registered.map (·.name)) := by decide
  have names' : services'.Perm (registered'.map (·.name)) := by decide
  have listed : registered.reverse.Perm registered := List.reverse_perm _
  have listed' : registered'.reverse.Perm registered' := List.reverse_perm _
  exact ⟨distinct, same, names, names', listed, listed', by cbv,
    startOrder_independent distinct same names names' listed listed'⟩

end TermBot.Lifecycle

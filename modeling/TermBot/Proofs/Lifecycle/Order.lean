import Mathlib.Data.Fintype.EquivFin
import Mathlib.Data.List.Perm.Subperm
import Mathlib.Order.WellFounded
import TermBot.Lifecycle.Order

/-!
# The start order

While services are placed, the count of a service is the number of its dependencies that are not placed, and
those placed or ready are the services whose count is zero (`Placing`). A service is counted down to zero once,
whatever is listed twice, so it becomes ready once. When nothing is ready any more, every service that is left
waits for one that is left; so there is a cycle, or all services are placed, each behind its dependencies
(`startOrder_topological`).
-/

namespace TermBot.Lifecycle

/-- A service has a dependency. -/
def Needs (nodes : List Node) (service dep : String) : Prop :=
  ∃ n ∈ nodes, n.name = service ∧ dep ∈ n.deps

/-- Every dependency is a service. -/
def Known (nodes : List Node) : Prop := ∀ x d, Needs nodes x d → d ∈ nodes.map (·.name)

/-- No service needs itself, be it by way of others. -/
def Acyclic (nodes : List Node) : Prop := ∀ x, ¬ Relation.TransGen (Needs nodes) x x

/-- Every service stands behind all its dependencies. -/
def DepsFirst (nodes : List Node) (order : List String) : Prop :=
  ∀ before x after, order = before ++ x :: after → ∀ d, Needs nodes x d → d ∈ before

/-- How many dependencies of a service are not placed. -/
def waits (nodes : List Node) (placed : List String) (x : String) : Nat :=
  (edges nodes).countP fun e => e.2 = x ∧ e.1 ∉ placed

variable {nodes : List Node} {services ready placed order : List String} {degree : Degrees}
  {current x d : String}

/-! ### Edges -/

theorem mem_edges : (d, x) ∈ edges nodes ↔ Needs nodes x d := by
  simp only [edges, List.mem_flatMap, List.mem_map, Prod.mk.injEq, Needs]
  constructor
  · rintro ⟨n, node, _, dep, rfl, rfl⟩
    exact ⟨n, node, rfl, dep⟩
  · rintro ⟨n, node, rfl, dep⟩
    exact ⟨n, node, d, dep, rfl, rfl⟩

theorem Needs.mem_names (dep : Needs nodes x d) : x ∈ nodes.map (·.name) := by
  obtain ⟨n, node, rfl, -⟩ := dep
  exact List.mem_map_of_mem node

theorem mem_dependents : x ∈ dependents nodes d ↔ Needs nodes x d := by
  simp only [dependents, List.mem_map, List.mem_filter, decide_eq_true_eq, ← mem_edges]
  constructor
  · rintro ⟨e, ⟨edge, rfl⟩, rfl⟩
    exact edge
  · intro edge
    exact ⟨(d, x), ⟨edge, rfl⟩, rfl⟩

theorem waits_eq_zero : waits nodes placed x = 0 ↔ ∀ d, Needs nodes x d → d ∈ placed := by
  rw [waits, List.countP_eq_zero]
  constructor
  · intro none d dep
    by_contra notPlaced
    exact none (d, x) (mem_edges.2 dep) (decide_eq_true ⟨rfl, notPlaced⟩)
  · rintro all ⟨d, y⟩ edge waiting
    obtain ⟨rfl, notPlaced⟩ := of_decide_eq_true waiting
    exact notPlaced (all d (mem_edges.1 edge))

theorem waits_nil (nodes : List Node) (x : String) : degrees nodes x = waits nodes [] x := by
  simp [degrees, waits]

theorem count_dependents (nodes : List Node) (current x : String) :
    (dependents nodes current).count x = (edges nodes).countP fun e => e.2 = x ∧ e.1 = current := by
  rw [dependents, List.count, List.countP_map, List.countP_filter]
  refine List.countP_congr fun e _ => ?_
  simp

/-- A service that is placed is one that others do not wait for any more, as often as they list it. -/
theorem waits_snoc (isNew : current ∉ placed) :
    waits nodes placed x = waits nodes (placed ++ [current]) x + (dependents nodes current).count x := by
  rw [count_dependents, waits, waits]
  induction edges nodes with
  | nil => rfl
  | cons e es ih =>
    rw [List.countP_cons, List.countP_cons, List.countP_cons, ih]
    have split : (decide (e.2 = x ∧ e.1 ∉ placed)) =
        (decide (e.2 = x ∧ e.1 ∉ placed ++ [current]) || decide (e.2 = x ∧ e.1 = current)) := by
      grind
    grind

/-! ### Counting down -/

theorem lower_self (degree : Degrees) (s : String) : degree.lower s s = degree s - 1 := if_pos rfl

theorem lower_ne {s : String} (other : x ≠ s) : degree.lower s x = degree x := if_neg other

theorem freed_cons (degree : Degrees) (s : String) (ss : List String) :
    (release degree (s :: ss)).1 = if degree.lower s s = 0 then s :: (release (degree.lower s) ss).1
      else (release (degree.lower s) ss).1 := rfl

/-- Every dependent is counted down as often as it is met. -/
theorem release_count (degree : Degrees) (ss : List String) (x : String) :
    (release degree ss).2 x = degree x - ss.count x := by
  induction ss generalizing degree with
  | nil => simp [release]
  | cons s ss ih =>
    refine (ih (degree.lower s)).trans ?_
    by_cases same : x = s
    · subst same
      rw [lower_self, List.count_cons_self]
      omega
    · rw [lower_ne same, List.count_cons_of_ne (Ne.symm same)]

/-- Freed is what is counted down to zero. -/
theorem mem_release (degree : Degrees) (ss : List String) (x : String) :
    x ∈ (release degree ss).1 ↔ 0 < degree x ∧ degree x ≤ ss.count x := by
  induction ss generalizing degree with
  | nil =>
    simp only [release, List.not_mem_nil, List.count_nil, false_iff]
    omega
  | cons s ss ih =>
    have later := ih (degree.lower s)
    rw [freed_cons]
    by_cases same : x = s
    · subst same
      rw [lower_self] at later ⊢
      rw [List.count_cons_self]
      split
      case isTrue zero =>
        refine iff_of_true List.mem_cons_self ?_
        omega
      case isFalse positive =>
        rw [later]
        omega
    · rw [lower_ne same] at later
      rw [List.count_cons_of_ne (Ne.symm same), ← later]
      split
      case isTrue => rw [List.mem_cons, or_iff_right same]
      case isFalse => rfl

theorem nodup_release (degree : Degrees) (ss : List String) : (release degree ss).1.Nodup := by
  induction ss generalizing degree with
  | nil => exact List.nodup_nil
  | cons s ss ih =>
    rw [freed_cons]
    split
    case isTrue zero =>
      -- what is freed later is not at zero yet
      refine List.nodup_cons.2 ⟨fun mem => ?_, ih _⟩
      have positive := ((mem_release _ ss s).1 mem).1
      omega
    case isFalse => exact ih _

/-! ### Placing services -/

/-- While services are placed: none is placed or ready twice, the counts are those of the dependencies that are
not placed, the services placed or ready are those with a count of zero, and those placed stand behind their
dependencies. -/
structure Placing (services : List String) (nodes : List Node) (degree : Degrees) (ready placed : List String) :
    Prop where
  nodup : (placed ++ ready).Nodup
  counts : ∀ x, degree x = waits nodes placed x
  due : ∀ x, x ∈ placed ++ ready ↔ x ∈ services ∧ degree x = 0
  ordered : DepsFirst nodes placed

theorem sortNames_perm (names : List String) : (sortNames names).Perm names := List.mergeSort_perm _ _

theorem DepsFirst.snoc (first : DepsFirst nodes placed) (ready : ∀ d, Needs nodes current d → d ∈ placed) :
    DepsFirst nodes (placed ++ [current]) := by
  intro before x after split d dep
  rcases List.eq_nil_or_concat after with rfl | ⟨after, last, rfl⟩
  · obtain ⟨rfl, same⟩ := List.append_inj' split rfl
    obtain rfl : current = x := List.singleton_inj.1 same
    exact ready d dep
  · have split : placed ++ [current] = (before ++ x :: after) ++ [last] := by simpa using split
    exact first before x after (List.append_inj' split rfl).1 d dep

theorem Placing.roots (distinct : services.Nodup) :
    Placing services nodes (degrees nodes) (sortNames (services.filter fun s => degrees nodes s = 0)) [] where
  nodup := (sortNames_perm _).nodup_iff.2 (distinct.filter _)
  counts := waits_nil nodes
  due x := by
    rw [List.nil_append, (sortNames_perm _).mem_iff, List.mem_filter, decide_eq_true_iff]
  ordered before x after split := by
    cases before <;> cases split

/-- Placing a ready service frees the services that waited for it alone. -/
theorem Placing.step (closed : ∀ x d, Needs nodes x d → x ∈ services)
    (placing : Placing services nodes degree (current :: ready) placed) :
    Placing services nodes (release degree (dependents nodes current)).2
      (ready ++ sortNames (release degree (dependents nodes current)).1) (placed ++ [current]) := by
  have isNew : current ∉ placed := fun mem =>
    List.disjoint_of_nodup_append placing.nodup mem List.mem_cons_self
  have split (freed : List String) :
      placed ++ [current] ++ (ready ++ freed) = placed ++ current :: ready ++ freed := by
    simp
  have counts (x : String) :
      (release degree (dependents nodes current)).2 x = waits nodes (placed ++ [current]) x := by
    rw [release_count, placing.counts, waits_snoc isNew]
    omega
  have mem_freed (x : String) : x ∈ sortNames (release degree (dependents nodes current)).1 ↔
      0 < degree x ∧ degree x ≤ (dependents nodes current).count x := by
    rw [(sortNames_perm _).mem_iff, mem_release]
  refine ⟨?_, counts, fun x => ?_, ?_⟩
  · rw [split]
    refine List.nodup_append'.2 ⟨placing.nodup, (sortNames_perm _).nodup_iff.2 (nodup_release _ _), ?_⟩
    intro x before freed
    have zero := ((placing.due x).1 before).2
    have positive := ((mem_freed x).1 freed).1
    omega
  · have before := placing.due x
    have old := placing.counts x
    have all : waits nodes placed x = waits nodes (placed ++ [current]) x + (dependents nodes current).count x :=
      waits_snoc isNew
    rw [split, List.mem_append, before, mem_freed, release_count]
    by_cases service : x ∈ services
    · simp only [service, true_and]
      omega
    · have unlisted : (dependents nodes current).count x = 0 :=
        List.count_eq_zero.2 fun mem => service (closed x current (mem_dependents.1 mem))
      rw [unlisted]
      refine iff_of_false ?_ fun due => service due.1
      rintro (due | freed)
      · exact service due.1
      · omega
  · refine placing.ordered.snoc (waits_eq_zero.1 ?_)
    have zero := ((placing.due current).1 (List.mem_append_right _ List.mem_cons_self)).2
    rw [placing.counts] at zero
    exact_mod_cast zero

theorem Placing.subset (placing : Placing services nodes degree ready placed) : placed ++ ready ⊆ services :=
  fun x mem => ((placing.due x).1 mem).1

theorem Placing.placed_nodup (placing : Placing services nodes degree ready placed) : placed.Nodup :=
  (List.nodup_append'.1 placing.nodup).1

theorem Placing.placed_subset (placing : Placing services nodes degree ready placed) : placed ⊆ services :=
  (List.append_subset.1 placing.subset).1

/-- With as many steps as there are services to be placed, placing goes on until nothing is ready. -/
theorem Placing.run (closed : ∀ x d, Needs nodes x d → x ∈ services) {limit : Nat}
    (placing : Placing services nodes degree ready placed) (enough : services.length ≤ placed.length + limit) :
    ∃ rest, Placing services nodes rest [] (place nodes limit degree ready placed) := by
  induction limit generalizing degree ready placed with
  | zero =>
    have within := (List.subperm_of_subset placing.nodup placing.subset).length_le
    rw [List.length_append] at within
    obtain rfl : ready = [] := List.eq_nil_of_length_eq_zero (by omega)
    exact ⟨degree, placing⟩
  | succ n ih =>
    cases ready with
    | nil => exact ⟨degree, placing⟩
    | cons current ready =>
      refine ih (placing.step closed) ?_
      rw [List.length_append, List.length_singleton]
      omega

/-! ### Cycles -/

/-- Where every service that is left needs one that is left, some service needs itself. -/
theorem not_acyclic {left : List String} (some : left ≠ []) (next : ∀ x ∈ left, ∃ d ∈ left, Needs nodes x d) :
    ¬ Acyclic nodes := by
  intro acyclic
  have trans : IsTrans {x // x ∈ left} fun a b => Relation.TransGen (Needs nodes) b.1 a.1 :=
    ⟨fun _ _ _ first second => second.trans first⟩
  have irrefl : Std.Irrefl fun a b : {x // x ∈ left} => Relation.TransGen (Needs nodes) b.1 a.1 :=
    ⟨fun x => acyclic x.1⟩
  have wellFounded := Finite.wellFounded_of_trans_of_irrefl
    fun a b : {x // x ∈ left} => Relation.TransGen (Needs nodes) b.1 a.1
  obtain ⟨x, mem⟩ := List.exists_mem_of_ne_nil left some
  obtain ⟨⟨least, here⟩, -, last⟩ := wellFounded.has_min Set.univ ⟨⟨x, mem⟩, trivial⟩
  obtain ⟨d, there, dep⟩ := next least here
  exact last ⟨d, there⟩ trivial (.single dep)

/-- A dependency has an earlier place. -/
theorem DepsFirst.idxOf_lt (first : DepsFirst nodes order) (nodup : order.Nodup) (mem : x ∈ order)
    (dep : Needs nodes x d) : d ∈ order ∧ order.idxOf d < order.idxOf x := by
  obtain ⟨before, after, rfl⟩ := List.append_of_mem mem
  have earlier : d ∈ before := first before x after rfl d dep
  have later : x ∉ before := fun mem => List.disjoint_of_nodup_append nodup mem List.mem_cons_self
  refine ⟨List.mem_append_left _ earlier, ?_⟩
  rw [List.idxOf_append_of_mem earlier, List.idxOf_append_of_notMem later]
  exact Nat.lt_add_right _ (List.idxOf_lt_length_of_mem earlier)

/-- Services that can be placed behind their dependencies have no cycle. -/
theorem DepsFirst.acyclic (first : DepsFirst nodes order) (nodup : order.Nodup)
    (all : ∀ x d, Needs nodes x d → x ∈ order) : Acyclic nodes := by
  intro x cycle
  have earlier {d : String} (needs : Relation.TransGen (Needs nodes) x d) :
      d ∈ order ∧ order.idxOf d < order.idxOf x := by
    induction needs with
    | single dep => exact first.idxOf_lt nodup (all _ _ dep) dep
    | tail _ dep ih =>
      obtain ⟨mem, less⟩ := first.idxOf_lt nodup ih.1 dep
      exact ⟨mem, less.trans ih.2⟩
  exact Nat.lt_irrefl _ (earlier cycle).2

/-- When nothing is ready any more, all services are placed, unless there is a cycle. -/
theorem Placing.length_eq (placing : Placing services nodes degree [] placed) (distinct : services.Nodup)
    (known : ∀ x d, Needs nodes x d → d ∈ services) (acyclic : Acyclic nodes) :
    placed.length = services.length := by
  refine Nat.le_antisymm (List.subperm_of_subset placing.placed_nodup placing.placed_subset).length_le ?_
  refine (List.subperm_of_subset distinct fun x mem => ?_).length_le
  by_contra left
  have some : services.filter (· ∉ placed) ≠ [] :=
    List.ne_nil_of_mem (List.mem_filter.2 ⟨mem, decide_eq_true left⟩)
  refine not_acyclic some (fun x mem => ?_) acyclic
  obtain ⟨mem, left⟩ := List.mem_filter.1 mem
  have waiting : waits nodes placed x ≠ 0 := by
    intro zero
    refine of_decide_eq_true left (List.append_nil placed ▸ (placing.due x).2 ⟨mem, ?_⟩)
    rw [placing.counts, zero]
    rfl
  obtain ⟨d, dep, notPlaced⟩ : ∃ d, Needs nodes x d ∧ d ∉ placed := by
    by_contra none
    exact waiting (waits_eq_zero.2 fun d dep => by_contra fun notPlaced => none ⟨d, dep, notPlaced⟩)
  exact ⟨d, List.mem_filter.2 ⟨known x d dep, decide_eq_true notPlaced⟩, dep⟩

/-! ### The order -/

theorem unknown?_eq_none : unknown? services nodes = none ↔ ∀ x d, Needs nodes x d → d ∈ services := by
  simp only [unknown?, List.findSome?_eq_none_iff, Option.map_eq_none_iff, List.find?_eq_none, Needs]
  constructor
  · rintro all x d ⟨n, node, -, dep⟩
    simpa using all n node d dep
  · intro all n node d dep
    simpa using all n.name d ⟨n, node, rfl, dep⟩

theorem needs_of_unknown? (found : unknown? services nodes = some (x, d)) : Needs nodes x d ∧ d ∉ services := by
  obtain ⟨n, node, missing⟩ := List.exists_of_findSome?_eq_some found
  obtain ⟨dep, first, same⟩ := Option.map_eq_some_iff.1 missing
  obtain ⟨rfl, rfl⟩ := Prod.mk.inj same
  refine ⟨⟨n, node, rfl, List.mem_of_find?_eq_some first⟩, ?_⟩
  simpa using List.find?_some first

theorem startOrderOf_unknown (unknown : ¬ ∀ x d, Needs nodes x d → d ∈ services) :
    ∃ x d, Needs nodes x d ∧ d ∉ services ∧ startOrderOf services nodes = .error (.unknownDependency x d) := by
  cases found : unknown? services nodes with
  | none => exact absurd (unknown?_eq_none.1 found) unknown
  | some missing =>
    obtain ⟨dep, notService⟩ := needs_of_unknown? found
    exact ⟨missing.1, missing.2, dep, notService, by rw [startOrderOf, found]⟩

/-- Where every dependency is a service, all services are placed behind their dependencies, or there is a
cycle. -/
theorem startOrderOf_known (distinct : services.Nodup) (closed : ∀ x d, Needs nodes x d → x ∈ services)
    (known : ∀ x d, Needs nodes x d → d ∈ services) :
    (Acyclic nodes ∧ ∃ order, order.Perm services ∧ DepsFirst nodes order ∧
        startOrderOf services nodes = .ok order) ∨
      ¬ Acyclic nodes ∧ startOrderOf services nodes = .error .cycle := by
  have roots : Placing services nodes (degrees nodes) _ [] := Placing.roots distinct
  obtain ⟨degree, placing⟩ := roots.run closed (Nat.le_add_left services.length _)
  have complete := placing.length_eq distinct known
  rw [startOrderOf, unknown?_eq_none.2 known]
  dsimp only
  generalize place nodes services.length _ _ _ = order at placing complete ⊢
  by_cases length : order.length = services.length
  · have perm : order.Perm services :=
      (List.subperm_of_subset placing.placed_nodup placing.placed_subset).perm_of_length_le length.ge
    have acyclic := placing.ordered.acyclic placing.placed_nodup fun x d dep => perm.mem_iff.2 (closed x d dep)
    exact .inl ⟨acyclic, order, perm, placing.ordered, if_pos length⟩
  · exact .inr ⟨fun acyclic => length (complete acyclic), if_neg length⟩

/-- An order that is found has all services, each one once. -/
theorem startOrder_perm (distinct : (nodes.map (·.name)).Nodup) (found : startOrder nodes = .ok order) :
    order.Perm (nodes.map (·.name)) := by
  by_cases known : ∀ x d, Needs nodes x d → d ∈ nodes.map (·.name)
  · rcases startOrderOf_known distinct (fun _ _ => Needs.mem_names) known with
      ⟨-, other, perm, -, found'⟩ | ⟨-, failed⟩
    · obtain rfl := Except.ok.inj (found.symm.trans found')
      exact perm
    · cases found.symm.trans failed
  · obtain ⟨x, d, -, -, failed⟩ := startOrderOf_unknown known
    cases found.symm.trans failed

/-- However services and their dependencies are enumerated, a start order is found just if every dependency is a
service and no service needs itself, be it by way of others. The order has every service once, behind all its
dependencies. Otherwise a dependency is reported that is no service, or, if there is none, a cycle. -/
theorem startOrder_topological {registered : List Node} (distinct : (registered.map (·.name)).Nodup)
    (names : services.Perm (registered.map (·.name))) (same : nodes.Perm registered) :
    ((∃ order, startOrderOf services nodes = .ok order) ↔ Known registered ∧ Acyclic registered) ∧
      (∀ order, startOrderOf services nodes = .ok order →
        order.Perm (registered.map (·.name)) ∧ DepsFirst registered order) ∧
      (¬ Known registered → ∃ x d, Needs registered x d ∧ d ∉ registered.map (·.name) ∧
        startOrderOf services nodes = .error (.unknownDependency x d)) ∧
      (Known registered → ¬ Acyclic registered → startOrderOf services nodes = .error .cycle) := by
  have needs : Needs nodes = Needs registered := by
    funext x d
    simp only [Needs, same.mem_iff]
  have closed (x d : String) (dep : Needs nodes x d) : x ∈ services :=
    names.mem_iff.2 (Needs.mem_names (needs ▸ dep))
  have known_iff : Known registered ↔ ∀ x d, Needs nodes x d → d ∈ services := by
    simp only [Known, needs, names.mem_iff]
  have acyclic_iff : Acyclic registered ↔ Acyclic nodes := by simp only [Acyclic, needs]
  rw [known_iff, acyclic_iff]
  by_cases known : ∀ x d, Needs nodes x d → d ∈ services
  · rcases startOrderOf_known (names.nodup_iff.2 distinct) closed known with
      ⟨acyclic, order, perm, first, found⟩ | ⟨cyclic, failed⟩
    · refine ⟨⟨fun _ => ⟨known, acyclic⟩, fun _ => ⟨order, found⟩⟩, fun other found' => ?_,
        fun unknown => absurd known unknown, fun _ cyclic => absurd acyclic cyclic⟩
      obtain rfl := Except.ok.inj (found.symm.trans found')
      rw [DepsFirst, ← needs]
      exact ⟨perm.trans names, first⟩
    · rw [failed]
      exact ⟨⟨nofun, fun h => absurd h.2 cyclic⟩, nofun, fun unknown => absurd known unknown, fun _ _ => rfl⟩
  · obtain ⟨x, d, dep, notService, failed⟩ := startOrderOf_unknown known
    rw [failed]
    refine ⟨⟨nofun, fun h => absurd h.1 known⟩, nofun, fun _ => ?_, fun known' => absurd known' known⟩
    exact ⟨x, d, needs ▸ dep, names.mem_iff.not.1 notService, rfl⟩

/-- A dependency that is listed twice, and one that is also met by way of another service. -/
theorem startOrder_topological_twice :
    let registered : List Node := [⟨"c", ["a", "b", "a"]⟩, ⟨"a", []⟩, ⟨"b", ["a"]⟩]
    let services := ["b", "c", "a"]
    (registered.map (·.name)).Nodup ∧ services.Perm (registered.map (·.name)) ∧
      registered.reverse.Perm registered ∧
      startOrderOf services registered.reverse = .ok ["a", "b", "c"] ∧ Acyclic registered ∧
      DepsFirst registered ["a", "b", "c"] := by
  intro registered services
  have distinct : (registered.map (·.name)).Nodup := by decide
  have names : services.Perm (registered.map (·.name)) := by decide
  have same : registered.reverse.Perm registered := List.reverse_perm _
  have found : startOrderOf services registered.reverse = .ok ["a", "b", "c"] := by decide +kernel
  obtain ⟨found_iff, order, -, -⟩ := startOrder_topological distinct names same
  exact ⟨distinct, names, same, found, (found_iff.1 ⟨_, found⟩).2, (order _ found).2⟩

end TermBot.Lifecycle

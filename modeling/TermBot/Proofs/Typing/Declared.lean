import TermBot.Proofs.Render.Ticks
import TermBot.Proofs.Typing.Displayed

/-!
# The names in a context

Whether inference succeeds or fails, the context that it leaves has no names but identifiers, if those in the
expression are (`named_of_infer`). For the names in types, and those chosen for new variables, that is a case of runs
which are alike (`matches_infer`), where a name is related to any other one if it is an identifier. Names of terms are
open there, so these are followed on their own: a context gets them from the expression only (`Declares`). What is
printed of such a context has no backtick (`Context.Named.unticked_render`).
-/

namespace TermBot.Typing

open Scoped
open Surface (IsName)

/-- The names of terms in the context are identifiers. -/
def Context.Declares (c : Context) : Prop := ∀ x t, .term x t ∈ c.entries → IsName x.name

/-- Of contexts with such names the computation makes contexts with such names, however it ends. -/
def Declares {α : Type} (m : Check α) : Prop := ∀ c : Context, c.Declares → (m.run c).2.Declares

namespace Declares

variable {α β : Type} {m k : Check α}

theorem pure (a : α) : Declares (pure a : Check α) := fun _ named => named

theorem throw (err : TypeError) : Declares (throw err : Check α) := fun _ named => named

theorem bind {f : α → Check β} (first : Declares m) (next : ∀ a, Declares (f a)) : Declares (m >>= f) := by
  intro c named
  have left := first c named
  rcases run : m.run c with ⟨err | a, c'⟩ <;> rw [run] at left
  · rw [run_bind_of_error run]
    exact left
  · rw [run_bind_of_ok run]
    exact next a c' left

theorem read {f : Context → Check β} (next : ∀ c : Context, c.Declares → Declares (f c)) : Declares (get >>= f) :=
  fun c named => next c named c named

theorem modify {g : Context → Context} (kept : ∀ c : Context, c.Declares → (g c).Declares) :
    Declares (modify g : Check PUnit) := kept

theorem set {c : Context} (named : c.Declares) : Declares (set c : Check PUnit) := fun _ _ => named

theorem ite {p : Prop} [Decidable p] (yes : Declares m) (no : Declares k) : Declares (if p then m else k) := by
  split
  · exact yes
  · exact no

theorem forM {f : β → Check PUnit} (each : ∀ b, Declares (f b)) (bs : List β) : Declares (bs.forM f) := by
  induction bs with
  | nil => exact .pure _
  | cons b bs ih => exact .bind (each b) fun _ => ih

end Declares

namespace Context.Declares

variable {c : Context} {es : List Entry}

/-- Fewer names of terms. -/
theorem mono {c' : Context} (named : c.Declares) (fewer : ∀ x t, .term x t ∈ c'.entries → .term x t ∈ c.entries) :
    c'.Declares := fun x t mem => named x t (fewer x t mem)

/-- New entries must bring identifiers only. -/
theorem push (named : c.Declares) (more : ∀ x t, .term x t ∈ es → IsName x.name) : (c.push es).Declares := by
  intro x t mem
  rcases List.mem_append.1 mem with mem | mem
  · exact named x t mem
  · exact more x t mem

theorem dropFrom (named : c.Declares) (k : EntryKind) (i : Nat) : (c.dropFrom k i).Declares := by
  rw [Context.dropFrom]
  split
  · exact named.mono fun _ _ mem => List.mem_of_mem_take mem
  · exact named

theorem remove (named : c.Declares) (k : EntryKind) (i : Nat) : (c.remove k i).Declares := by
  rw [Context.remove]
  split
  · exact named.mono fun _ _ mem => List.mem_of_mem_eraseIdx mem
  · exact named

/-- No existential is replaced by an entry of a term. -/
theorem replace (named : c.Declares) (i : Nat) (none : ∀ x t, .term x t ∉ es) : (c.replace i es).Declares := by
  rw [Context.replace]
  split
  case h_1 n _ =>
    refine named.mono fun x t mem => ?_
    rw [List.mem_append, List.mem_append, or_assoc] at mem
    rcases mem with mem | mem | mem
    · exact List.mem_of_mem_take mem
    · exact absurd mem (none x t)
    · exact List.mem_of_mem_drop mem
  case h_2 => exact named

theorem reserveAbove (named : c.Declares) (i : Nat) : (c.reserveAbove i).Declares := by
  rw [Context.reserveAbove, Context.reserve]
  split
  · exact named
  · exact named

/-- Solved existentials are all that closing keeps behind the marker. -/
theorem close (named : c.Declares) (mark : Nat) : (c.close mark).Declares := by
  rw [Context.close]
  split
  · exact named
  · refine named.mono fun x t mem => ?_
    rcases List.mem_append.1 mem with mem | mem
    · exact List.mem_of_mem_take mem
    · obtain ⟨e, -, kept⟩ := List.mem_filterMap.1 mem
      cases e <;> cases kept

end Context.Declares

/-! ## The checker -/

section Checker

variable {i n : Nat} {t u : Ty} {e : Expr}

/-- Entries without terms may be pushed freely. -/
theorem declares_push {es : List Entry} (none : ∀ x t, .term x t ∉ es) :
    Declares (modify (·.push es) : Check PUnit) :=
  .modify fun _ named => named.push fun x t mem => absurd mem (none x t)

/-- A parameter or a definition is pushed with its name from the expression. -/
theorem declares_pushTerm {x : Ident} (name : IsName x.name) (t : Ty) :
    Declares (modify (·.push [.term x t]) : Check PUnit) := by
  refine .modify fun _ named => named.push fun y u mem => ?_
  cases List.mem_singleton.1 mem
  exact name

theorem declares_dropFrom (k : EntryKind) (i : Nat) : Declares (modify (·.dropFrom k i) : Check PUnit) :=
  .modify fun _ named => named.dropFrom k i

theorem declares_remove (k : EntryKind) (i : Nat) : Declares (modify (·.remove k i) : Check PUnit) :=
  .modify fun _ named => named.remove k i

theorem declares_fresh : Declares fresh := .read fun _ named => .bind (.set named) fun _ => .pure _

theorem declares_applied (t : Ty) : Declares (applied t) := .read fun _ _ => .ite (.throw _) (.pure _)

theorem declares_openRigid (v : Ident) (b : Ty) : Declares (openRigid v b) :=
  .bind (.bind declares_fresh fun _ => .pure _) fun _ => .pure _

theorem declares_openEx (v : Ident) (b : Ty) : Declares (openEx v b) := .bind declares_fresh fun _ => .pure _

/-- What is done below a quantifier that is opened with a rigid variable. -/
theorem declares_underRigid {f : Ty → Check PUnit} (v : Ident) (b : Ty) (inside : ∀ b, Declares (f b)) :
    Declares (do
      let (w, body) ← openRigid v b
      modify (·.push [.rigid w])
      f body
      modify (·.dropFrom .rigid w.id)) :=
  .bind (declares_openRigid v b) fun _ => .bind (declares_push (by simp)) fun _ =>
    .bind (inside _) fun _ => declares_dropFrom _ _

/-- The same below one that is opened with an existential behind a marker. -/
theorem declares_underEx {f : Ty → Check PUnit} (v : Ident) (b : Ty) (inside : ∀ b, Declares (f b)) :
    Declares (do
      let mark ← fresh
      let (j, body) ← openEx v b
      modify (·.push [.marker mark, .unsolved j])
      f body
      modify (·.dropFrom .marker mark)) :=
  .bind declares_fresh fun _ => .bind (declares_openEx v b) fun _ => .bind (declares_push (by simp)) fun _ =>
    .bind (inside _) fun _ => declares_dropFrom _ _

/-- An existential is replaced by two others and an arrow of them. -/
theorem declares_articulate (i : Nat) : Declares (articulate i) :=
  .bind declares_fresh fun _ => .bind declares_fresh fun _ =>
    .bind (.modify fun _ named => named.replace i (by simp)) fun _ => .pure _

theorem declares_rename (ids : List Nat) (taken : List String) (t : Ty) : Declares (rename ids taken t) := by
  induction ids generalizing taken t with
  | nil => exact .pure _
  | cons i rest ih =>
    exact .bind (.bind declares_fresh fun _ => .pure _) fun _ => .bind (ih _ _) fun _ => .pure _

theorem declares_generalize (mark : Nat) (t : Ty) : Declares (generalize mark t) := by
  refine .read fun c _ => ?_
  cases c.after? mark with
  | none => exact .pure _
  | some scope => exact .bind (declares_rename _ _ _) fun _ => .pure _

theorem declares_close (mark : Nat) : Declares (close mark) :=
  .read fun _ _ => .bind (.forM (fun t => .bind (declares_applied t) fun _ => .pure _) _) fun _ =>
    .modify fun _ named => named.close mark

theorem declares_requireWellFormed (t : Ty) : Declares (requireWellFormed t) :=
  .read fun _ _ => .ite (.pure _) (.throw _)

/-- Solving changes an entry of an existential, whichever of two it is. -/
theorem declares_solveDirectly (i : Nat) (t : Ty) : Declares (solveDirectly i t) := by
  refine .read fun c named => ?_
  have solved (j : Nat) (t : Ty) : (c.solve j t).Declares := named.replace j (by simp)
  cases c.index? .unsolved i with
  | none => exact .throw _
  | some n =>
    refine .ite (.bind (.set (solved i t)) fun _ => .pure _) ?_
    cases t with
    | ex j => exact .ite (.bind (.set (solved j _)) fun _ => .pure _) (.throw _)
    | _ => exact .pure _

/-- Instantiation, by induction on the depth. -/
theorem declares_instantiateOn (side : Side) (n i : Nat) (t : Ty) : Declares (instantiateOn side n i t) := by
  induction n generalizing side i t with
  | zero => cases side <;> exact .throw _
  | succ n ih =>
    rw [instantiateOn_succ]
    refine .bind (declares_solveDirectly i t) fun _ => .ite (.pure _) ?_
    cases t with
    | arrow a b =>
      exact .bind (declares_articulate i) fun _ => .bind (ih _ _ _) fun _ => .bind (declares_applied _) fun _ =>
        ih _ _ _
    | all v b =>
      cases side with
      | left => exact declares_underRigid v b fun _ => ih _ _ _
      | right => exact declares_underEx v b fun _ => ih _ _ _
    | _ => exact .throw _

theorem declares_instantiate (n : Nat) (t u : Ty) : Declares (instantiate n t u) := by
  refine .read fun c _ => ?_
  cases c.openEx? t u with
  | some i => exact declares_instantiateOn .left n i u
  | none =>
    cases c.openEx? u t with
    | some j => exact declares_instantiateOn .right n j t
    | none => exact .throw _

/-- Subtyping, by induction on the depth. -/
theorem declares_subtype (n : Nat) (t u : Ty) : Declares (subtype n t u) := by
  induction n generalizing t u with
  | zero => exact .throw _
  | succ n ih =>
    unfold subtype
    split
    case h_1 => exact .pure _
    case h_2 =>
      exact .bind (ih _ _) fun _ => .bind (declares_applied _) fun _ => .bind (declares_applied _) fun _ => ih _ _
    case h_3 v body => exact declares_underRigid (f := subtype n t) v body fun _ => ih _ _
    case h_4 v body _ => exact declares_underEx (f := (subtype n · u)) v body fun _ => ih _ _
    case h_5 => exact .ite (.throw _) (.read fun _ _ => .ite (.pure _) (.throw _))
    case h_6 => exact .ite (declares_instantiate _ _ _) (.read fun _ _ => .ite (.pure _) (.throw _))
    case h_7 => exact declares_instantiate _ _ _

/-- Checking, synthesis, application and bindings, of expressions whose names are identifiers. -/
theorem declares_infers (n : Nat) :
    (∀ e t, e.written.Named → Declares (check n e t)) ∧ (∀ e, e.written.Named → Declares (synth n e)) ∧
      (∀ t e, e.written.Named → Declares (synthApp n t e)) ∧
      ∀ given e, e.written.Named → Declares (bindingType n given e) := by
  induction n with
  | zero =>
    exact ⟨fun _ _ _ => .throw _, fun _ _ => .throw _, fun _ _ _ => .throw _, fun _ _ _ => .throw _⟩
  | succ n ih =>
    obtain ⟨checks, synths, applies, binds⟩ := ih
    refine ⟨fun e t named => ?check, fun e named => ?synth, fun t e named => ?apply, fun given e named => ?bind⟩
    case check =>
      unfold check
      split
      · exact declares_underRigid _ _ fun _ => checks _ _ named
      · exact .pure _
      · exact .bind (declares_pushTerm named.1 _) fun _ => .bind (checks _ _ named.2) fun _ =>
          declares_dropFrom _ _
      · exact .bind (binds _ _ named.2.2.1) fun _ => .bind (declares_pushTerm named.1 _) fun _ =>
          .bind (checks _ _ named.2.2.2) fun _ => declares_remove _ _
      · exact .bind (synths _ named) fun _ => .bind (declares_applied _) fun _ =>
          .bind (declares_applied _) fun _ => declares_subtype _ _ _
    case synth =>
      unfold synth
      cases e with
      | var x =>
        refine .read fun c _ => ?_
        cases c.typeOf? x.id with
        | none => exact .throw _
        | some t => exact .pure _
      | unit => exact .pure _
      | ann e t =>
        exact .bind (declares_requireWellFormed t) fun _ => .bind (checks _ _ named.1) fun _ => .pure _
      | lam x body =>
        refine .bind declares_fresh fun _ => .bind declares_fresh fun _ => .bind declares_fresh fun _ =>
          .bind (.modify fun _ old => old.push ?_) fun _ => .bind (checks _ _ named.2) fun _ =>
          .bind (declares_applied _) fun _ => .bind (declares_generalize _ _) fun _ =>
          .bind (declares_dropFrom _ _) fun _ => .pure _
        intro y u mem
        simp only [List.mem_cons, reduceCtorEq, List.not_mem_nil, Entry.term.injEq, false_or, or_false] at mem
        exact mem.1 ▸ named.1
      | app fn arg =>
        exact .bind (synths _ named.1) fun _ => .bind (declares_applied _) fun _ => applies _ _ named.2
      | letIn x given value body =>
        exact .bind (binds _ _ named.2.2.1) fun _ => .bind (declares_pushTerm named.1 _) fun _ =>
          .bind (synths _ named.2.2.2) fun _ => .bind (declares_remove _ _) fun _ => .pure _
    case apply =>
      unfold synthApp
      cases t with
      | all v b =>
        exact .bind (declares_openEx v b) fun _ => .bind (declares_push (by simp)) fun _ => applies _ _ named
      | ex i =>
        exact .read fun _ _ => .ite (.bind (declares_articulate i) fun _ => .bind (checks _ _ named) fun _ =>
          .pure _) (.throw _)
      | arrow dom cod => exact .bind (checks _ _ named) fun _ => .pure _
      | _ => exact .throw _
    case bind =>
      unfold bindingType
      cases given with
      | some t =>
        exact .bind (declares_requireWellFormed t) fun _ => .bind (checks _ _ named) fun _ => .pure _
      | none =>
        exact .bind declares_fresh fun _ => .bind (declares_push (by simp)) fun _ => .bind (synths _ named) fun _ =>
          .bind (declares_applied _) fun _ => .bind (declares_generalize _ _) fun _ =>
          .bind (declares_dropFrom _ _) fun _ => .pure _

/-- A failure leaves the context as it is then, with one more change. -/
theorem declares_tryCatch {α : Type} {m : Check α} {g : Context → Context} (first : Declares m)
    (kept : ∀ c : Context, c.Declares → (g c).Declares) :
    Declares (tryCatch m fun err => do modify g; throw err) := by
  intro c named
  have left := first c named
  rcases run : m.run c with ⟨err | a, c'⟩ <;> rw [run] at left
  · rw [run_tryCatch_of_error run]
    exact kept c' left
  · rw [run_tryCatch_of_ok run]
    exact left

/-- Inference as a whole, on an expression whose names are identifiers. -/
theorem declares_infer (depth : Nat) (named : e.written.Named) : Declares (infer depth e) :=
  .bind (.modify fun _ old => old.reserveAbove _) fun _ => .bind declares_fresh fun _ =>
    .bind (declares_push (by simp)) fun _ =>
    .bind (declares_tryCatch ((declares_infers depth).2.1 e named) fun _ old => old.remove _ _) fun _ =>
    .bind (declares_applied _) fun _ => .bind (declares_generalize _ _) fun _ =>
    .bind (declares_close _) fun _ => .pure _

end Checker

/-! ## All names -/

/-- The names in an entry. -/
def Entry.names : Entry → List String
  | .rigid v => [v.name]
  | .term x t => x.name :: t.names
  | .solved _ t => t.names
  | .unsolved _ | .marker _ => []

/-- The names in the context are identifiers. -/
def Context.Named (c : Context) : Prop := ∀ e ∈ c.entries, ∀ x ∈ e.names, IsName x

variable {c : Context} {t : Ty} {e : Expr}

/-- The relation says of the names on its left that they are identifiers. -/
theorem isName_of_alike {t u : Ty} (alike : t.Alike (fun x _ => IsName x) u) : ∀ x ∈ t.names, IsName x := by
  intro x mem
  obtain ⟨n, here⟩ := List.mem_iff_getElem?.1 mem
  have name := getElem?_rel alike.names_rel n
  rw [here] at name
  generalize u.names[n]? = y at name
  cases name with
  | some name => exact name

/-- Names of terms are left open by that relation, and known apart from it. -/
theorem Context.Alike.named {c' : Context} (alike : c.Alike (fun x _ => IsName x) c') (terms : c.Declares) :
    c.Named := by
  intro e mem
  obtain ⟨n, here⟩ := List.mem_iff_getElem?.1 mem
  have found := getElem?_rel alike.entries n
  rw [here] at found
  generalize c'.entries[n]? = e' at found
  cases found with
  | some entry =>
  cases entry with
  | rigid i name => exact List.forall_mem_singleton.2 name
  | term i type => exact List.forall_mem_cons.2 ⟨terms _ _ mem, isName_of_alike type⟩
  | solved i type => exact isName_of_alike type
  | unsolved | marker => exact List.forall_mem_nil _

/-- However inference ends, the names in the context are identifiers, and so are those in an inferred type with the
solutions of the context. -/
theorem named_of_infer (linked : e.Linked []) (named : e.written.Named) (depth : Nat)
    {result : Except TypeError Ty} (run : (infer depth e).run {} = (result, c)) :
    c.Named ∧ ∀ t, result = .ok t → ∀ x ∈ (c.apply t).names, IsName x := by
  have expr : e.Alike (fun x _ => IsName x) e :=
    Expr.alike_self fun t mem => Ty.alike_of_named (Expr.annotation_of_mem linked named mem).2.1
  have ends := matches_infer (fun taken _ _ => isName_nextName taken) depth expr {} {} ⟨.nil, rfl⟩
  have terms := declares_infer depth named {} fun x t mem => absurd mem List.not_mem_nil
  rw [run] at ends terms
  cases ends with
  | ok found left =>
    refine ⟨left.named terms, ?_⟩
    rintro t ⟨⟩
    exact isName_of_alike (left.apply found)
  | error reason left => exact ⟨left.named terms, by rintro _ ⟨⟩⟩

/-! ## The text of a context -/

theorem unticked_join {ss : List String} (each : ∀ s ∈ ss, Text.Unticked s) : Text.Unticked (String.join ss) := by
  rw [Text.Unticked, String.toList_join]
  intro mem
  obtain ⟨s, here, inside⟩ := List.mem_flatMap.1 mem
  exact each s here inside

/-- The text of a type has names, numbers and the marks between them. -/
theorem Ty.unticked_renderAfter {bound : Bool} (names : ∀ x ∈ t.names, IsName x) :
    Text.Unticked (t.renderAfter bound) := by
  have stop : Text.Unticked (Ty.renderAfter.stop bound) := by cases bound <;> decide
  have label {v : Ident} (name : IsName v.name) : Text.Unticked v.render :=
    Ident.unticked_render (Text.unticked_of_isName name)
  induction t generalizing bound with
  | unit => exact stop.append (by decide)
  | var v => exact stop.append (label (List.forall_mem_singleton.1 names))
  | ex i => exact stop.append (unticked_renderEx i)
  | arrow a b iha ihb =>
    obtain ⟨left, right⟩ := List.forall_mem_append.1 names
    have dom : Text.Unticked (a.renderAfter false) := iha left (by decide)
    have cod : Text.Unticked (b.renderAfter false) := ihb right (by decide)
    rw [Ty.renderAfter]
    refine ((stop.append ?_).append (by decide)).append cod
    split
    · exact (Text.Unticked.append (by decide) dom).append (by decide)
    · exact dom
  | all v b ih =>
    obtain ⟨name, inner⟩ := List.forall_mem_cons.1 names
    have mark : Text.Unticked (if bound then " " else "∀") := by cases bound <;> decide
    exact (mark.append (label name)).append (ih inner (by decide))

theorem Entry.unticked_render {e : Entry} (named : ∀ x ∈ e.names, IsName x) : Text.Unticked e.render := by
  have label {v : Ident} (name : IsName v.name) : Text.Unticked v.render :=
    Ident.unticked_render (Text.unticked_of_isName name)
  cases e with
  | rigid v => exact label (List.forall_mem_singleton.1 named)
  | term x t =>
    obtain ⟨name, type⟩ := List.forall_mem_cons.1 named
    exact ((label name).append (by decide)).append (Ty.unticked_renderAfter type)
  | unsolved i => exact unticked_renderEx i
  | solved i t => exact ((unticked_renderEx i).append (by decide)).append (Ty.unticked_renderAfter named)
  | marker i => exact .append (by decide) (unticked_renderEx i)

/-- The text of a context has those of its entries, and marks around them. -/
theorem Context.Named.unticked_render (named : c.Named) : Text.Unticked c.render := by
  have rows : Text.Unticked (String.join (c.entries.map fun e => "        " ++ e.render ++ ",\n")) := by
    refine unticked_join fun s mem => ?_
    obtain ⟨e, here, rfl⟩ := List.mem_map.1 mem
    exact (Text.Unticked.append (by decide) (Entry.unticked_render (named e here))).append (by decide)
  have opening : Text.Unticked "TyCtxt \x7b\n    elements: [" := by decide
  have body : Text.Unticked (if c.entries.isEmpty then "],\n"
      else "\n" ++ String.join (c.entries.map fun e => "        " ++ e.render ++ ",\n") ++ "    ],\n") := by
    split
    · decide
    · exact (Text.Unticked.append (by decide) rows).append (by decide)
  exact (((opening.append body).append (by decide)).append (Text.unticked_digits c.next)).append (by decide)

end TermBot.Typing

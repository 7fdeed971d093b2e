import TermBot.Proofs.Actor.Contents
import TermBot.Proofs.Doc.Layouts
import TermBot.Proofs.Render.Isolation
import TermBot.Proofs.Scoped.Resolution
import TermBot.Proofs.Surface.Diagnostics
import TermBot.Proofs.Surface.Printing

/-!
# What is rendered has no backtick

A layout has no characters but those of the texts in its document, spaces and line ends (`Doc.Unticked.layout`). The
texts in the document of a term or a type are names, numbers and the marks of the printers, and no identifier has a
backtick in it (`Value.unticked_doc`). So a rendering service that holds nothing but such documents and texts answers
with texts without a backtick, and is left as it was (`render_unticked`).
-/

namespace TermBot

namespace Text

/-- The text has no backtick. -/
def Unticked (s : String) : Prop := '`' ∉ s.toList

instance (s : String) : Decidable (Unticked s) := inferInstanceAs (Decidable ('`' ∉ s.toList))

variable {s t : String}

theorem Unticked.append (first : Unticked s) (second : Unticked t) : Unticked (s ++ t) :=
  Surface.notMem_append first second

theorem unticked_digits (n : Nat) : Unticked (toString n) := Surface.notMem_digits rfl n

theorem unticked_of_isName (name : Surface.IsName s) : Unticked s := name.notMem (by decide) (by decide)

end Text

open Text (Unticked)

namespace Doc

/-- No text in the document has a backtick. -/
def Unticked (d : Doc) : Prop := ∀ s ∈ d.texts, Text.Unticked s

variable {a b d : Doc} {s : String} {cs : List Char}

theorem unticked_text : (text s).Unticked ↔ Text.Unticked s := List.forall_mem_singleton

theorem unticked_append : (a ++ b).Unticked ↔ a.Unticked ∧ b.Unticked := List.forall_mem_append

theorem unticked_line : line.Unticked := List.forall_mem_nil _

theorem unticked_nest {columns : Int64} : (nest columns d).Unticked ↔ d.Unticked := Iff.rfl

theorem unticked_group : (group d).Unticked ↔ d.Unticked := Iff.rfl

theorem unticked_concat {ds : List Doc} (each : ∀ d ∈ ds, d.Unticked) : (concat ds).Unticked := by
  induction ds with
  | nil => exact List.forall_mem_nil _
  | cons d ds ih =>
    obtain ⟨first, others⟩ := List.forall_mem_cons.1 each
    cases ds with
    | nil => exact first
    | cons => exact unticked_append.2 ⟨first, ih others⟩

/-! ## Layouts -/

/-- A rendering has no characters but those of the texts, spaces and line ends. -/
theorem Renders.notMem_tick (renders : Renders d cs) (unticked : d.Unticked) : '`' ∉ cs := by
  induction renders with
  | nil | softSpace => exact List.not_mem_nil
  | text s => exact unticked_text.1 unticked
  | space => decide
  | newline | softNewline | hardNewline => simp [List.mem_replicate]
  | append _ _ first second =>
    obtain ⟨left, right⟩ := unticked_append.1 unticked
    rw [List.mem_append, not_or]
    exact ⟨first left, second right⟩
  | nest _ ih | group _ ih => exact ih unticked

theorem mem_of_mem_trimLines {c : Char} (mem : c ∈ trimLines cs) : c ∈ cs := by
  induction cs with
  | nil => exact mem
  | cons d cs ih =>
    rcases trimLines_cons d cs with ⟨-, -, same⟩ | same <;> rw [same] at mem
    · exact List.mem_cons_of_mem d (ih mem)
    · rcases List.mem_cons.1 mem with rfl | mem
      · exact List.mem_cons_self
      · exact List.mem_cons_of_mem d (ih mem)

theorem Unticked.layout [Text.Measure] (unticked : d.Unticked) (width : Int64) : Text.Unticked (d.layout width) := by
  rw [Doc.layout, Text.Unticked, String.toList_ofList]
  exact fun mem => (renders_place width d 0 false _ 0).notMem_tick unticked (mem_of_mem_trimLines mem)

/-! ## Shapes -/

theorem Unticked.parens (inner : d.Unticked) : (parens d).Unticked :=
  unticked_append.2 ⟨unticked_append.2 ⟨unticked_text.2 (by decide), inner⟩, unticked_text.2 (by decide)⟩

theorem Unticked.wrap (need given : Prec) (inner : d.Unticked) : (wrap need given d).Unticked := by
  rw [Doc.wrap]
  split
  · exact inner.parens
  · exact inner

theorem Unticked.hanging (inner : d.Unticked) : (hanging d).Unticked :=
  unticked_nest.2 (unticked_append.2 ⟨unticked_line, inner⟩)

theorem Unticked.arrow (dom : a.Unticked) (cod : b.Unticked) : (arrow a b).Unticked := by
  rw [Doc.arrow, unticked_group, unticked_append, unticked_append, unticked_append]
  exact ⟨⟨⟨dom, unticked_text.2 (by decide)⟩, unticked_line⟩, cod⟩

theorem Unticked.annotated (inner : a.Unticked) (type : b.Unticked) : (annotated a b).Unticked := by
  rw [Doc.annotated, unticked_group, unticked_append, unticked_append, unticked_append, unticked_append]
  exact ⟨⟨⟨⟨unticked_text.2 (by decide), inner⟩, unticked_text.2 (by decide)⟩, type.hanging⟩,
    unticked_text.2 (by decide)⟩

theorem Unticked.binding (head : d.Unticked) (value : a.Unticked) (body : b.Unticked) :
    (binding d a b).Unticked := by
  rw [Doc.binding, unticked_group, unticked_append, unticked_append, unticked_group, unticked_append,
    unticked_append, unticked_append, unticked_append]
  exact ⟨⟨⟨⟨⟨⟨head, unticked_text.2 (by decide)⟩, value.hanging⟩, unticked_line⟩,
    unticked_text.2 (by decide)⟩, unticked_line⟩, body⟩

theorem Unticked.application {args : List Doc} (fn : d.Unticked) (each : ∀ a ∈ args, a.Unticked) :
    (application d args).Unticked := by
  rw [Doc.application, unticked_group, unticked_append, unticked_nest]
  refine ⟨fn, unticked_concat fun a mem => ?_⟩
  obtain ⟨arg, here, rfl⟩ := List.mem_map.1 mem
  exact unticked_append.2 ⟨unticked_line, each arg here⟩

/-- What the place adds to a document has no backtick. -/
def Place.Unticked : Place → Prop
  | .plain _ => True
  | .body mark vars => Text.Unticked mark ∧ Text.Unticked vars
  | .function args => ∀ d ∈ args, d.Unticked

theorem Place.Unticked.fill {p : Place} (place : p.Unticked) (given : Prec) (inner : d.Unticked) :
    (p.fill given d).Unticked := by
  cases p with
  | plain need => exact inner.wrap need given
  | body mark vars =>
    rw [Place.fill, binder, unticked_group, unticked_append, unticked_text]
    exact ⟨(place.1.append place.2).append (by decide), inner.hanging⟩
  | function args => exact (inner.wrap .app given).application place

theorem Place.Unticked.more {mark vars x : String} (place : (Place.body mark vars).Unticked)
    (name : Text.Unticked x) : (Place.body mark (vars ++ " " ++ x)).Unticked :=
  ⟨place.1, (place.2.append (by decide)).append name⟩

end Doc

/-! ## Terms and types -/

section Printers

open Doc (Place unticked_text unticked_append)

variable {p : Place}

theorem Surface.TypeExpr.unticked_docIn {t : TypeExpr} (named : t.Named) (place : p.Unticked) :
    (t.docIn p).Unticked := by
  induction t generalizing p with
  | unit => exact place.fill _ (unticked_text.2 (by decide))
  | name n => exact place.fill _ (unticked_text.2 (Text.unticked_of_isName named.1))
  | arrow a b iha ihb => exact place.fill _ (.arrow (iha named.1 trivial) (ihb named.2 trivial))
  | all v b ih =>
    have first : (Place.body "∀" v).Unticked := ⟨by decide, Text.unticked_of_isName named.1⟩
    cases p with
    | body mark vars => exact ih named.2 (place.more first.2)
    | plain | function => exact place.fill _ (ih named.2 first)

theorem Surface.Term.unticked_docIn {t : Term} (named : t.Named) (place : p.Unticked) :
    (t.docIn p).Unticked := by
  induction t generalizing p with
  | var n => exact place.fill _ (unticked_text.2 (Text.unticked_of_isName named))
  | unit => exact place.fill _ (unticked_text.2 (by decide))
  | ann t ty _ ih => exact place.fill _ (.annotated (ih named.1 trivial) (TypeExpr.unticked_docIn named.2 trivial))
  | lam x b _ ih =>
    have first : (Place.body "λ" x).Unticked := ⟨by decide, Text.unticked_of_isName named.1⟩
    cases p with
    | body mark vars => exact ih named.2 (place.more first.2)
    | plain | function => exact place.fill _ (ih named.2 first)
  | letIn x ty v b _ ihv ihb =>
    have name : Unticked ("let " ++ x) := .append (by decide) (Text.unticked_of_isName named.1)
    refine place.fill _ (.binding ?_ (ihv named.2.2.1 trivial) (ihb named.2.2.2 trivial))
    cases ty with
    | none => exact unticked_text.2 name
    | some type =>
      have given := TypeExpr.unticked_docIn (p := .plain .top) (named.2.1 type rfl) trivial
      exact unticked_append.2 ⟨unticked_text.2 (name.append (by decide)), given⟩
  | app f a ihf iha =>
    have arg := iha (p := .plain .atom) named.2 trivial
    cases p with
    | function args => exact ihf named.1 (List.forall_mem_cons.2 ⟨arg, place⟩)
    | plain | body => exact place.fill _ (ihf named.1 (List.forall_mem_singleton.2 arg))

namespace Scoped

variable {label : Ident → String}

theorem unticked_renderEx (i : Nat) : Unticked (renderEx i) := .append (by decide) (Text.unticked_digits i)

theorem Ident.unticked_render {v : Ident} (name : Unticked v.name) : Unticked v.render :=
  (name.append (by decide)).append (Text.unticked_digits v.id)

/-- Names and numbers, or names alone. -/
theorem Ty.unticked_docIn {t : Ty} (labels : ∀ v : Ident, Unticked v.name → Unticked (label v))
    (names : ∀ x ∈ t.names, Unticked x) (place : p.Unticked) : (t.docIn label p).Unticked := by
  induction t generalizing p with
  | unit => exact place.fill _ (unticked_text.2 (by decide))
  | var v => exact place.fill _ (unticked_text.2 (labels v (List.forall_mem_singleton.1 names)))
  | ex i => exact place.fill _ (unticked_text.2 (unticked_renderEx i))
  | arrow a b iha ihb =>
    obtain ⟨left, right⟩ := List.forall_mem_append.1 names
    exact place.fill _ (.arrow (iha left trivial) (ihb right trivial))
  | all v b ih =>
    obtain ⟨name, inner⟩ := List.forall_mem_cons.1 names
    have first : (Place.body "∀" (label v)).Unticked := ⟨by decide, labels v name⟩
    cases p with
    | body mark vars => exact ih inner (place.more first.2)
    | plain | function => exact place.fill _ (ih inner first)

theorem Ty.unticked_of_named {t : Ty} (named : t.written.Named) : ∀ x ∈ t.names, Unticked x := by
  induction t with
  | unit | ex => exact List.forall_mem_nil _
  | var v => exact List.forall_mem_singleton.2 (Text.unticked_of_isName named.1)
  | arrow a b iha ihb => exact List.forall_mem_append.2 ⟨iha named.1, ihb named.2⟩
  | all v b ih => exact List.forall_mem_cons.2 ⟨Text.unticked_of_isName named.1, ih named.2⟩

theorem Ty.unticked_numberedDoc {t : Ty} (named : t.written.Named) : t.numberedDoc.Unticked :=
  Ty.unticked_docIn (fun _ => Ident.unticked_render) (Ty.unticked_of_named named) trivial

theorem Expr.unticked_docIn {e : Expr} (named : e.written.Named) (place : p.Unticked) : (e.docIn p).Unticked := by
  have label {v : Ident} (name : Surface.IsName v.name) : Unticked v.render :=
    Ident.unticked_render (Text.unticked_of_isName name)
  induction e generalizing p with
  | var x => exact place.fill _ (unticked_text.2 (label named))
  | unit => exact place.fill _ (unticked_text.2 (by decide))
  | ann e t ih => exact place.fill _ (.annotated (ih named.1 trivial) (Ty.unticked_numberedDoc named.2))
  | lam x b ih =>
    have first : (Place.body "λ" x.render).Unticked := ⟨by decide, label named.1⟩
    cases p with
    | body mark vars => exact ih named.2 (place.more first.2)
    | plain | function => exact place.fill _ (ih named.2 first)
  | letIn x t v b ihv ihb =>
    have name : Unticked ("let " ++ x.render) := .append (by decide) (label named.1)
    refine place.fill _ (.binding ?_ (ihv named.2.2.1 trivial) (ihb named.2.2.2 trivial))
    cases t with
    | none => exact unticked_text.2 name
    | some type =>
      have given := Ty.unticked_numberedDoc (named.2.1 type.written rfl)
      exact unticked_append.2 ⟨unticked_text.2 (name.append (by decide)), given⟩
  | app f a ihf iha =>
    have arg := iha (p := .plain .atom) named.2 trivial
    cases p with
    | function args => exact ihf named.1 (List.forall_mem_cons.2 ⟨arg, place⟩)
    | plain | body => exact place.fill _ (ihf named.1 (List.forall_mem_singleton.2 arg))

end Scoped

end Printers

/-! ## The service -/

namespace Render

open Actor Doc

/-- The names in the value are identifiers. -/
def Value.Named : Value → Prop
  | .parsed t => t.Named
  | .resolved e => e.written.Named
  | .inferred t => ∀ x ∈ t.names, Surface.IsName x

theorem Value.unticked_doc {v : Value} (named : v.Named) : v.doc.Unticked := by
  cases v with
  | parsed t => exact Surface.Term.unticked_docIn named trivial
  | resolved e => exact Scoped.Expr.unticked_docIn named trivial
  | inferred t =>
    exact Scoped.Ty.unticked_docIn (fun _ => id) (fun x mem => Text.unticked_of_isName (named x mem)) trivial

/-- The documents of values and the texts have no backtick, and the arena is new. -/
def unticked : Policy Payload String Arena where
  payload
    | .value v => v.doc.Unticked
    | .foreign _ => True
  memory arena := arena = {}
  result := Text.Unticked

variable {width : Int64} {held canceled : Bool} {cell : Nat} {v : Value} {sys sys' : RenderSystem}

theorem handler_obeys [Text.Measure] : (handler standardBuilder width held).Obeys unticked where
  memory p s _ new := by
    cases new
    cases p <;> rfl
  result p s r e allowed new run := by
    cases new
    cases p with
    | foreign => cases run
    | value v =>
      cases run
      change Text.Unticked (textInNewArena width v.doc)
      rw [textInNewArena_eq]
      exact Doc.Unticked.layout allowed width

theorem await_unticked [Text.Measure] {found : Except RequestError String} {req : Request} (obeys : sys.Obeys unticked)
    (run : await (handler standardBuilder width held) req canceled sys = (found, sys')) :
    sys'.Obeys unticked ∧ ∀ text, found = .ok text → Text.Unticked text := by
  rw [await] at run
  split at run
  case isTrue =>
    cases run
    exact ⟨obeys, by rintro _ ⟨⟩⟩
  split at run
  case isTrue =>
    cases run
    exact ⟨obeys, by rintro _ ⟨⟩⟩
  case isFalse =>
    rcases taken : (sys.settle (handler standardBuilder width held)).takeReply req.outlet with ⟨reply, left⟩
    obtain ⟨clean, answer⟩ := (obeys.settle handler_obeys).takeReply taken
    rw [taken] at run
    cases reply with
    | none =>
      cases run
      exact ⟨clean, by rintro _ ⟨⟩⟩
    | some r =>
      cases run
      refine ⟨clean, fun text shown => ?_⟩
      rw [textOf] at shown
      split at shown
      · cases shown
      · cases shown
        cases payload : r.payload with
        | none => exact List.not_mem_nil
        | some text => exact answer r rfl text payload

/-- A text that the service answers with has no backtick, and the service holds none afterwards. -/
theorem render_unticked [Text.Measure] {found : Except RequestError String} (obeys : sys.Obeys unticked) (doc : v.doc.Unticked)
    (run : render (handler standardBuilder width held) cell v canceled sys = (found, sys')) :
    sys'.Obeys unticked ∧ ∀ text, found = .ok text → Text.Unticked text := by
  have queued : (sys.newSlot.2.send (handler standardBuilder width held) cell
      { payload := .value v, outlet := .slot sys.newSlot.1 }).2.Obeys unticked :=
    obeys.newSlot.send handler_obeys doc
  unfold render newRequest enqueue at run
  dsimp only at run
  generalize sys.newSlot.2.send (handler standardBuilder width held) cell
      { payload := .value v, outlet := .slot sys.newSlot.1 } = sent at run queued
  obtain ⟨sent, sys₁⟩ := sent
  cases sent with
  | error e =>
    cases run
    exact ⟨queued, by rintro _ ⟨⟩⟩
  | ok _ =>
    dsimp only at run
    exact await_unticked queued run

/-- The service that is started in a new system holds no backtick. -/
theorem start_obeys [Text.Measure] : (start (handler standardBuilder width held) {}).2.Obeys unticked := by
  have none : System.Obeys ({} : RenderSystem) unticked :=
    ⟨fun c mem => absurd mem (Array.not_mem_empty c), fun r mem => absurd mem (Array.not_mem_empty _),
      fun t mem => absurd mem (Array.not_mem_empty t)⟩
  exact none.spawnService handler_obeys serviceName "" true rfl

end Render

end TermBot

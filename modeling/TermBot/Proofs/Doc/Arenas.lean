import Mathlib.Data.List.Forall2
import TermBot.Proofs.Doc.Equivalence
import TermBot.Proofs.Doc.Machine

/-!
# Every history of an arena

Whoever uses an arena refers to documents by the handles it has got since the last reset. A handle stands for a
document that no later operation changes, and every constructor makes the document that its name says, up to how
it is laid out (`Arena.Makes`). So any operations on an arena give the texts that they give on documents
themselves (`run_eq`), and a document that is built at any time is laid out as in a new arena
(`arena_isolated`).
-/

namespace TermBot.Doc

namespace Arena

/-- What stands in the first arena stands in the second one, too. -/
structure Keeps (a b : Arena) : Prop where
  size : a.size ≤ b.size
  doc : ∀ h ≤ a.size, b.doc h = a.doc h

/-- The operation leaves what stands in the arena, and `post` holds of the arena then and of the result. -/
structure Yields {α : Type} (a : Arena) (op : StateM Arena α) (post : Arena → α → Prop) : Prop where
  wf : (op.run a).2.WellFormed
  keeps : a.Keeps (op.run a).2
  result : post (op.run a).2 (op.run a).1

variable {a b c : Arena} {h k : Handle} {d e : Doc} {hs : List Handle} {ds : List Doc}

theorem Keeps.refl (a : Arena) : a.Keeps a := ⟨Nat.le_refl _, fun _ _ => rfl⟩

theorem Keeps.trans (first : a.Keeps b) (second : b.Keeps c) : a.Keeps c where
  size := Nat.le_trans first.size second.size
  doc h le := (second.doc h (Nat.le_trans le first.size)).trans (first.doc h le)

theorem doc_zero (a : Arena) : a.doc 0 = .nil := rfl

theorem wellFormed_new : ({} : Arena).WellFormed := by
  intro h node found
  have le : h ≤ 0 := le_size_of_node? found
  rw [Nat.le_zero.1 le] at found
  cases found

/-- Nothing but the nodes matters to what stands in an arena. -/
theorem Keeps.of_nodes (same : b.nodes = a.nodes) : a.Keeps b where
  size := Nat.le_of_eq (congrArg Array.size same.symm)
  doc h _ := congrFun (doc_congr same) h

section Yields

variable {α β : Type} {op : StateM Arena α} {f : α → StateM Arena β} {mid : Arena → α → Prop}
  {post : Arena → β → Prop}

theorem Yields.pure {post : Arena → α → Prop} {x : α} (wf : a.WellFormed) (result : post a x) :
    a.Yields (Pure.pure x) post := ⟨wf, .refl a, result⟩

theorem Yields.bind (first : a.Yields op mid)
    (next : ∀ b x, b.WellFormed → a.Keeps b → mid b x → b.Yields (f x) post) : a.Yields (op >>= f) post := by
  have second := next _ _ first.wf first.keeps first.result
  exact ⟨second.wf, first.keeps.trans second.keeps, second.result⟩

theorem Yields.imp {post post' : Arena → α → Prop} (yields : a.Yields op post)
    (weaker : ∀ b x, a.Keeps b → post b x → post' b x) : a.Yields op post' :=
  ⟨yields.wf, yields.keeps, weaker _ _ yields.keeps yields.result⟩

end Yields

/-! ### Constructors -/

variable [Text.Measure]

/-- The handle stands for a document that is laid out like `d`. -/
structure Holds (a : Arena) (h : Handle) (d : Doc) : Prop where
  within : h ≤ a.size
  alike : (a.doc h).Alike d

/-- The operation makes a document like `d`. -/
abbrev Makes (a : Arena) (op : StateM Arena Handle) (d : Doc) : Prop := a.Yields op fun b h => b.Holds h d

theorem Holds.keep (holds : a.Holds h d) (keeps : a.Keeps b) : b.Holds h d where
  within := Nat.le_trans holds.within keeps.size
  alike := by
    rw [keeps.doc h holds.within]
    exact holds.alike

theorem Holds.like (holds : a.Holds h d) (same : d.Alike e) : a.Holds h e := ⟨holds.within, holds.alike.trans same⟩

theorem holds_zero (a : Arena) : a.Holds 0 .nil := ⟨Nat.zero_le _, .refl _⟩

/-- A node over what stands in the arena stands for its document. -/
theorem makes_alloc (wf : a.WellFormed) (node : Node) (within : ∀ k ∈ node.children, k ≤ a.size) :
    a.Makes (alloc node) (node.doc a.doc) := by
  have size : ((alloc node).run a).2.size = a.size + 1 := Array.size_push _
  have old {h : Handle} (le : h ≤ a.size) : ((alloc node).run a).2.node? h = a.node? h := node?_push node le
  have last : ((alloc node).run a).2.node? (a.size + 1) = some node := node?_size node
  have grown : ((alloc node).run a).2.WellFormed := by
    intro h other found k mem
    rcases Nat.le_or_eq_of_le_succ (size ▸ le_size_of_node? found) with le | rfl
    · exact wf h other (old le ▸ found) k mem
    · obtain rfl : node = other := Option.some.inj (last.symm.trans found)
      exact Nat.lt_succ_of_le (within k mem)
  have doc (h : Handle) (le : h ≤ a.size) : ((alloc node).run a).2.doc h = a.doc h := by
    induction h using Nat.strongRecOn with
    | _ h ih =>
      rw [grown.doc_eq, wf.doc_eq, old le]
      cases found : a.node? h with
      | none => rfl
      | some other =>
        refine Node.doc_congr fun k mem => ?_
        have lt := wf h other found k mem
        exact ih k lt (Nat.le_trans (Nat.le_of_lt lt) le)
  refine ⟨grown, ⟨size ▸ Nat.le_succ _, doc⟩, size ▸ Nat.le_refl _, ?_⟩
  have made : ((alloc node).run a).2.doc (a.size + 1) = node.doc a.doc := by
    rw [grown.doc_eq, last]
    exact Node.doc_congr fun k mem => doc k (within k mem)
  exact made ▸ .refl _

theorem makes_text (wf : a.WellFormed) (s : String) : a.Makes (text s) (.text s) := by
  rw [text]
  by_cases empty : s.isEmpty
  · rw [if_pos empty, String.isEmpty_iff.1 empty]
    exact .pure wf ((holds_zero a).like Alike.text_empty.symm)
  · rw [if_neg empty]
    exact makes_alloc wf (.text s) nofun

theorem makes_line (wf : a.WellFormed) : a.Makes line .line := makes_alloc wf .line nofun

theorem makes_softLine (wf : a.WellFormed) : a.Makes softLine .softLine := makes_alloc wf .softLine nofun

theorem makes_hardLine (wf : a.WellFormed) : a.Makes hardLine .hardLine := makes_alloc wf .hardLine nofun

theorem makes_nest (wf : a.WellFormed) (columns : Int64) (holds : a.Holds h d) :
    a.Makes (nest columns h) (.nest columns d) := by
  rw [nest]
  by_cases zero : h = 0
  · subst zero
    rw [if_pos rfl]
    have none : Alike .nil (.nest columns .nil) := ⟨(Alike.refl .nil).fits, (Alike.refl .nil).written⟩
    exact .pure wf ((holds_zero a).like (none.trans (holds.alike.nest columns)))
  · rw [if_neg zero]
    refine (makes_alloc wf (.nest columns h) fun k mem => ?_).imp fun _ _ _ made =>
      made.like (holds.alike.nest columns)
    rw [List.mem_singleton.1 mem]
    exact holds.within

theorem makes_group (wf : a.WellFormed) (holds : a.Holds h d) : a.Makes (group h) (.group d) := by
  rw [group]
  by_cases zero : h = 0
  · subst zero
    rw [if_pos rfl]
    have none : Alike .nil (.group .nil) := ⟨(Alike.refl .nil).fits, fun _ _ _ _ => rfl⟩
    exact .pure wf ((holds_zero a).like (none.trans holds.alike.group))
  · rw [if_neg zero]
    refine (makes_alloc wf (.group h) fun k mem => ?_).imp fun _ _ _ made => made.like holds.alike.group
    rw [List.mem_singleton.1 mem]
    exact holds.within

/-- Empty documents can be left out of a sequence. -/
theorem alike_concat_filter (a : Arena) (hs : List Handle) :
    (Doc.concat ((hs.filter (· ≠ 0)).map a.doc)).Alike (Doc.concat (hs.map a.doc)) := by
  induction hs with
  | nil => exact .refl _
  | cons h hs ih =>
    rw [List.map_cons]
    by_cases zero : h = 0
    · rw [List.filter_cons_of_neg (by simpa using zero), zero, doc_zero]
      exact ih.trans ((Alike.concat_cons _ _).trans (Alike.nil_append _)).symm
    · rw [List.filter_cons_of_pos (by simpa using zero), List.map_cons]
      exact (Alike.concat_cons _ _).trans (((Alike.refl _).append ih).trans (Alike.concat_cons _ _).symm)

theorem makes_concat (wf : a.WellFormed) (holds : List.Forall₂ a.Holds hs ds) :
    a.Makes (concat hs) (.concat ds) := by
  have within : ∀ h ∈ hs, h ≤ a.size := by
    clear wf
    induction holds with
    | nil => exact nofun
    | cons head _ ih => exact List.forall_mem_cons.2 ⟨head.within, ih⟩
  have alike : (Doc.concat ((hs.filter (· ≠ 0)).map a.doc)).Alike (.concat ds) := by
    refine (alike_concat_filter a hs).trans (Alike.concat ?_)
    rw [List.forall₂_map_left_iff]
    exact holds.imp fun _ _ holds => holds.alike
  have inside : ∀ h ∈ hs.filter (· ≠ 0), h ≤ a.size := fun h mem => within h (List.mem_of_mem_filter mem)
  rw [concat]
  generalize hs.filter (· ≠ 0) = kept at alike inside
  split
  · exact .pure wf ((holds_zero a).like alike)
  · exact .pure wf ⟨inside _ List.mem_cons_self, alike⟩
  · exact (makes_alloc wf (.concat kept) inside).imp fun _ _ _ made => made.like alike

theorem keep_all (holds : List.Forall₂ a.Holds hs ds) (keeps : a.Keeps b) : List.Forall₂ b.Holds hs ds :=
  holds.imp fun _ _ holds => holds.keep keeps

theorem holds_intersperse (sep : a.Holds h d) (holds : List.Forall₂ a.Holds hs ds) :
    List.Forall₂ a.Holds (hs.intersperse h) (ds.intersperse d) := by
  induction holds with
  | nil => exact .nil
  | cons head rest ih =>
    cases rest with
    | nil => exact .cons head .nil
    | cons next rest =>
      rw [List.intersperse_cons_cons, List.intersperse_cons_cons]
      exact .cons head (.cons sep ih)

theorem makes_join (wf : a.WellFormed) (sep : a.Holds h d) (holds : List.Forall₂ a.Holds hs ds) :
    a.Makes (join h hs) (.join d ds) :=
  (makes_concat wf (holds_intersperse sep holds)).imp fun _ _ _ made =>
    made.like (Alike.concat_intersperse d ds)

theorem makes_parens (wf : a.WellFormed) (holds : a.Holds h d) : a.Makes (parens h) d.parens := by
  refine (makes_text wf "(").bind fun b opening wf keeps first => ?_
  refine (makes_text wf ")").bind fun c closing wf more last => ?_
  have inner := (holds.keep keeps).keep more
  refine (makes_concat wf (.cons (first.keep more) (.cons inner (.cons last .nil)))).imp fun _ _ _ made => ?_
  exact made.like (Alike.append_assoc _ _ _).symm

theorem yields_textLines (wf : a.WellFormed) (css : List (List Char)) :
    a.Yields (textLines css) fun b hs =>
      List.Forall₂ b.Holds hs ((css.map fun cs => Doc.text (String.ofList cs)).intersperse .hardLine) := by
  induction css generalizing a with
  | nil => exact .pure wf .nil
  | cons cs css ih =>
    cases css with
    | nil => exact (makes_text wf _).bind fun b h wf _ made => .pure wf (.cons made .nil)
    | cons cs' css =>
      rw [List.map_cons, List.map_cons, List.intersperse_cons_cons]
      refine (makes_text wf _).bind fun b h wf keeps first => ?_
      refine (makes_hardLine wf).bind fun c br wf more second => ?_
      refine (ih wf).bind fun e hs wf rest others => .pure wf ?_
      exact .cons ((first.keep more).keep rest) (.cons (second.keep rest) others)

theorem makes_lines (wf : a.WellFormed) (s : String) : a.Makes (lines s) (.lines s) :=
  (yields_textLines wf _).bind fun _ _ wf _ holds => (makes_concat wf holds).imp fun _ _ _ made =>
    made.like (Alike.concat_intersperse _ _)

/-- Keeping a document in an arena makes it. -/
theorem makes_build (wf : a.WellFormed) (d : Doc) : a.Makes (build d) d := by
  induction d generalizing a with
  | nil => exact .pure wf (holds_zero a)
  | text s => exact makes_text wf s
  | line => exact makes_line wf
  | softLine => exact makes_softLine wf
  | hardLine => exact makes_hardLine wf
  | append d e ihd ihe =>
    refine (ihd wf).bind fun b h wf _ first => (ihe wf).bind fun c k wf keeps second => ?_
    exact makes_concat wf (.cons (first.keep keeps) (.cons second .nil))
  | nest columns d ih => exact (ih wf).bind fun b h wf _ made => makes_nest wf columns made
  | group d ih => exact (ih wf).bind fun b h wf _ made => makes_group wf made

/-- Laying out gives the layout of the document that is held, and leaves what stands in the arena. -/
theorem yields_pretty (wf : a.WellFormed) (width : Int64) (holds : a.Holds h d) :
    a.Yields (pretty width h) fun _ text => text = d.layout width := by
  obtain ⟨text, nodes⟩ := wf.pretty_eq width h
  exact ⟨wf.congr nodes, .of_nodes nodes, text.trans (holds.alike.layout_eq width)⟩

/-- Built and laid out in an arena, whatever it holds, a document has its own layout. -/
theorem yields_build_pretty (wf : a.WellFormed) (width : Int64) (d : Doc) :
    a.Yields (build d >>= pretty width) fun _ text => text = d.layout width :=
  (makes_build wf d).bind fun _ _ wf _ made => yields_pretty wf width made

/-! ### Histories -/

/-- A document that was made before, by its place among those made since the last reset; where none was made
stands the empty document. -/
abbrev Ref := Nat

/-- An operation on an arena. -/
inductive Op where
  | text (s : String)
  | line
  | softLine
  | hardLine
  | space
  | lines (s : String)
  | concat (rs : List Ref)
  | join (sep : Ref) (rs : List Ref)
  | parens (r : Ref)
  | nest (columns : Int64) (r : Ref)
  | group (r : Ref)
  | pretty (width : Int64) (r : Ref)
  | reset

/-- Whoever uses an arena, with the handles it has got since the last reset. -/
structure Client where
  arena : Arena := {}
  handles : List Handle := []

namespace Client

/-- The handle of a reference. -/
def handle (c : Client) (r : Ref) : Handle := c.handles[r]?.getD 0

/-- The client with a handle that it has got from the arena. -/
def make (c : Client) (op : StateM Arena Handle) : Option String × Client :=
  (none, { arena := (op.run c.arena).2, handles := c.handles ++ [(op.run c.arena).1] })

/-- Performs an operation on the arena; the text of a layout. -/
def perform (c : Client) : Op → Option String × Client
  | .text s => c.make (Arena.text s)
  | .line => c.make Arena.line
  | .softLine => c.make Arena.softLine
  | .hardLine => c.make Arena.hardLine
  | .space => c.make Arena.space
  | .lines s => c.make (Arena.lines s)
  | .concat rs => c.make (Arena.concat (rs.map c.handle))
  | .join sep rs => c.make (Arena.join (c.handle sep) (rs.map c.handle))
  | .parens r => c.make (Arena.parens (c.handle r))
  | .nest columns r => c.make (Arena.nest columns (c.handle r))
  | .group r => c.make (Arena.group (c.handle r))
  | .pretty width r =>
    let (text, arena) := (Arena.pretty width (c.handle r)).run c.arena
    (some text, { c with arena })
  | .reset => (none, { arena := c.arena.reset })

/-- The texts that operations give one after the other, and the client then. -/
def run (c : Client) : List Op → List (Option String) × Client
  | [] => ([], c)
  | op :: ops => ((c.perform op).1 :: ((c.perform op).2.run ops).1, ((c.perform op).2.run ops).2)

end Client

/-- The document of a reference to documents made before. -/
def Ref.doc (ds : List Doc) (r : Ref) : Doc := ds[r]?.getD .nil

/-- What an operation does on documents themselves, without an arena: the text of a layout, and the documents made
since the last reset. -/
def Op.meaning (ds : List Doc) : Op → Option String × List Doc
  | .text s => (none, ds ++ [.text s])
  | .line => (none, ds ++ [.line])
  | .softLine => (none, ds ++ [.softLine])
  | .hardLine => (none, ds ++ [.hardLine])
  | .space => (none, ds ++ [.space])
  | .lines s => (none, ds ++ [.lines s])
  | .concat rs => (none, ds ++ [.concat (rs.map (Ref.doc ds))])
  | .join sep rs => (none, ds ++ [.join (Ref.doc ds sep) (rs.map (Ref.doc ds))])
  | .parens r => (none, ds ++ [(Ref.doc ds r).parens])
  | .nest columns r => (none, ds ++ [.nest columns (Ref.doc ds r)])
  | .group r => (none, ds ++ [.group (Ref.doc ds r)])
  | .pretty width r => (some ((Ref.doc ds r).layout width), ds)
  | .reset => (none, [])

/-- The texts of operations on documents themselves. -/
def Op.texts (ds : List Doc) : List Op → List (Option String)
  | [] => []
  | op :: ops => (op.meaning ds).1 :: Op.texts (op.meaning ds).2 ops

/-- The handles of a client stand for these documents, in order. -/
structure Client.Stands (c : Client) (ds : List Doc) : Prop where
  wf : c.arena.WellFormed
  holds : List.Forall₂ c.arena.Holds c.handles ds

theorem Client.stands_new : ({} : Client).Stands [] := ⟨wellFormed_new, .nil⟩

namespace Client.Stands

variable {c : Client}

theorem handle (stands : c.Stands ds) (r : Ref) : c.arena.Holds (c.handle r) (Ref.doc ds r) := by
  rw [Client.handle, Ref.doc]
  have holds := stands.holds
  generalize c.handles = hs at holds
  clear stands
  induction holds generalizing r with
  | nil => exact holds_zero _
  | cons head _ ih =>
    cases r with
    | zero => exact head
    | succ r => exact ih r

theorem handles (stands : c.Stands ds) (rs : List Ref) :
    List.Forall₂ c.arena.Holds (rs.map c.handle) (rs.map (Ref.doc ds)) := by
  rw [List.forall₂_map_left_iff, List.forall₂_map_right_iff]
  exact List.forall₂_same.2 fun r _ => stands.handle r

theorem make {op : StateM Arena Handle} (stands : c.Stands ds) (makes : c.arena.Makes op d) :
    (c.make op).2.Stands (ds ++ [d]) :=
  ⟨makes.wf, List.rel_append (keep_all stands.holds makes.keeps) (.cons makes.result .nil)⟩

/-- Every operation gives the text that it gives on documents themselves. -/
theorem perform (stands : c.Stands ds) (op : Op) :
    (c.perform op).1 = (op.meaning ds).1 ∧ (c.perform op).2.Stands (op.meaning ds).2 := by
  cases op with
  | text s => exact ⟨rfl, stands.make (makes_text stands.wf s)⟩
  | line => exact ⟨rfl, stands.make (makes_line stands.wf)⟩
  | softLine => exact ⟨rfl, stands.make (makes_softLine stands.wf)⟩
  | hardLine => exact ⟨rfl, stands.make (makes_hardLine stands.wf)⟩
  | space => exact ⟨rfl, stands.make (makes_text stands.wf " ")⟩
  | lines s => exact ⟨rfl, stands.make (makes_lines stands.wf s)⟩
  | concat rs => exact ⟨rfl, stands.make (makes_concat stands.wf (stands.handles rs))⟩
  | join sep rs => exact ⟨rfl, stands.make (makes_join stands.wf (stands.handle sep) (stands.handles rs))⟩
  | parens r => exact ⟨rfl, stands.make (makes_parens stands.wf (stands.handle r))⟩
  | nest columns r => exact ⟨rfl, stands.make (makes_nest stands.wf columns (stands.handle r))⟩
  | group r => exact ⟨rfl, stands.make (makes_group stands.wf (stands.handle r))⟩
  | pretty width r =>
    have laid := yields_pretty stands.wf width (stands.handle r)
    exact ⟨congrArg some laid.result, laid.wf, keep_all stands.holds laid.keeps⟩
  | reset => exact ⟨rfl, wellFormed_new, .nil⟩

theorem run (stands : c.Stands ds) (ops : List Op) :
    (c.run ops).1 = Op.texts ds ops ∧ (c.run ops).2.arena.WellFormed := by
  induction ops generalizing c ds with
  | nil => exact ⟨rfl, stands.wf⟩
  | cons op ops ih =>
    obtain ⟨text, stands⟩ := stands.perform op
    obtain ⟨texts, wf⟩ := ih stands
    exact ⟨congrArg₂ List.cons text texts, wf⟩

end Client.Stands

end Arena

end TermBot.Doc

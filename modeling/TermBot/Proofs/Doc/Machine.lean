import TermBot.Doc.Arena
import TermBot.Proofs.Doc.Rendering

/-!
# The layout of an arena

Nodes refer to earlier nodes only (`Arena.WellFormed`), so that every handle stands for a document, whatever
else the arena holds. Laying out works on frames; the frames still on the stack are what a document is followed
by (`Arena.pending`), and in this reading the frames are laid out as their documents are
(`testFrames_eq`, `WellFormed.lays`). What the stacks and the output held before does not matter (`pretty_eq`).
-/

namespace TermBot.Doc

/-- The document of a node, where `read` gives the documents behind handles. -/
def Node.doc (read : Handle → Doc) : Node → Doc
  | .text s => .text s
  | .line => .line
  | .softLine => .softLine
  | .hardLine => .hardLine
  | .concat hs => Doc.concat (hs.map read)
  | .nest columns h => .nest columns (read h)
  | .group h => .group (read h)

/-- The node is laid out by itself; the others are laid out by way of their children. -/
def Node.isLeaf : Node → Bool
  | .text _ | .line | .softLine | .hardLine => true
  | .concat _ | .nest .. | .group _ => false

/-- The document depends on the documents of the children only. -/
theorem Node.doc_congr {f g : Handle → Doc} {node : Node} (same : ∀ h ∈ node.children, f h = g h) :
    node.doc f = node.doc g := by
  cases node with
  | concat hs => exact congrArg Doc.concat (List.map_congr_left same)
  | nest columns h => rw [doc, same h List.mem_cons_self, doc]
  | group h => rw [doc, same h List.mem_cons_self, doc]
  | _ => rfl

namespace Arena

/-- Every node refers to the empty document and to nodes before it only. -/
def WellFormed (a : Arena) : Prop := ∀ h node, a.node? h = some node → ∀ k ∈ node.children, k < h

variable {a b : Arena} {h : Handle} {node : Node}

theorem node?_push (added : Node) (le : h ≤ a.size) :
    { a with nodes := a.nodes.push added }.node? h = a.node? h := by
  cases h with
  | zero => rfl
  | succ i =>
    have lt : i < a.nodes.size := le
    rw [node?, node?, Array.getElem?_push_lt lt, Array.getElem?_eq_getElem lt]

theorem node?_size (added : Node) : { a with nodes := a.nodes.push added }.node? (a.size + 1) = some added := by
  rw [node?, size, Array.getElem?_push_size]

theorem le_size_of_node? (found : a.node? h = some node) : h ≤ a.size := by
  cases h with
  | zero => cases found
  | succ i => exact (Array.getElem?_eq_some_iff.1 found).1

/-! ### Reading documents -/

theorem read_succ (n : Nat) (h : Handle) : a.read (n + 1) h = (a.node? h).elim .nil (Node.doc (a.read n)) := by
  cases h with
  | zero => rfl
  | succ i =>
    rw [read, node?]
    rcases a.nodes[i]? with _ | node
    · rfl
    · cases node <;> rfl

/-- More levels than the handle make no difference. -/
theorem WellFormed.read_eq (wf : a.WellFormed) {n : Nat} (le : h ≤ n) : a.read n h = a.doc h := by
  rw [doc]
  induction h using Nat.strongRecOn generalizing n with
  | _ h ih =>
    cases h with
    | zero => cases n <;> rfl
    | succ i =>
      cases n with
      | zero => exact absurd le (Nat.not_succ_le_zero i)
      | succ n =>
        rw [read_succ, read_succ]
        cases found : a.node? (i + 1) with
        | none => rfl
        | some node =>
          refine Node.doc_congr fun k mem => ?_
          have lt := wf _ _ found k mem
          have below : k ≤ i := Nat.le_of_lt_succ lt
          rw [ih k lt (Nat.le_trans below (Nat.le_of_succ_le_succ le)), ih k lt below]

/-- The document behind a handle is made from those behind the handles of its node. -/
theorem WellFormed.doc_eq (wf : a.WellFormed) (h : Handle) :
    a.doc h = (a.node? h).elim .nil (Node.doc a.doc) := by
  rw [← wf.read_eq (Nat.le_succ h), read_succ]
  cases found : a.node? h with
  | none => rfl
  | some node => exact Node.doc_congr fun k mem => wf.read_eq (Nat.le_of_lt (wf h node found k mem))

/-- How many frames a document takes. -/
def frames (a : Arena) (h : Handle) : Nat := a.weight h h

theorem WellFormed.weight_eq (wf : a.WellFormed) {n : Nat} (le : h ≤ n) : a.weight n h = a.frames h := by
  rw [frames]
  induction h using Nat.strongRecOn generalizing n with
  | _ h ih =>
    cases h with
    | zero => cases n <;> rfl
    | succ i =>
      cases n with
      | zero => exact absurd le (Nat.not_succ_le_zero i)
      | succ n =>
        rw [weight, weight]
        cases found : a.node? (i + 1) with
        | none => rfl
        | some node =>
          refine congrArg (1 + List.foldr (· + ·) 0 ·) (List.map_congr_left fun k mem => ?_)
          have lt := wf _ _ found k mem
          have below : k ≤ i := Nat.le_of_lt_succ lt
          rw [ih k lt (Nat.le_trans below (Nat.le_of_succ_le_succ le)), ih k lt below]

theorem WellFormed.frames_eq (wf : a.WellFormed) (h : Handle) :
    a.frames h = 1 + (((a.node? h).elim [] Node.children).map a.frames).foldr (· + ·) 0 := by
  rw [← wf.weight_eq (Nat.le_succ h), weight]
  cases found : a.node? h with
  | none => rfl
  | some node =>
    refine congrArg (1 + List.foldr (· + ·) 0 ·) (List.map_congr_left fun k mem => ?_)
    exact wf.weight_eq (Nat.le_of_lt (wf h node found k mem))

/-! ### Frames -/

/-- How many frames are taken for frames and the documents in them. -/
def load (a : Arena) : List Frame → Nat
  | [] => 0
  | f :: fs => a.frames f.doc + a.load fs

/-- Whether what the frames lay out before the next line end fits. -/
def pending [Text.Measure] (a : Arena) : List Frame → Int64 → Bool
  | [] => fun _ => true
  | f :: fs => (a.doc f.doc).fits f.flat (a.pending fs)

/-- The pieces of the frames, laid out one after the other from a column on. -/
def placed [Text.Measure] (a : Arena) (width : Int64) : List Frame → (col : Int64) → List Piece
  | [], _ => []
  | f :: fs, col =>
    let (ps, col) := (a.doc f.doc).place width f.indent f.flat (a.pending fs) col
    ps ++ a.placed width fs col

theorem placed_cons [Text.Measure] (width : Int64) (f : Frame) (fs : List Frame) (col : Int64) :
    a.placed width (f :: fs) col = ((a.doc f.doc).place width f.indent f.flat (a.pending fs) col).1 ++
      a.placed width fs ((a.doc f.doc).place width f.indent f.flat (a.pending fs) col).2 := rfl

theorem load_append (fs gs : List Frame) : a.load (fs ++ gs) = a.load fs + a.load gs := by
  induction fs with
  | nil => exact (Nat.zero_add _).symm
  | cons f fs ih => rw [List.cons_append, load, load, ih, Nat.add_assoc]

theorem load_singleton (f : Frame) : a.load [f] = a.frames f.doc := by
  rw [load, load, Nat.add_zero]

theorem load_children (f : Frame) (node : Node) :
    a.load (f.children node) = (node.children.map a.frames).foldr (· + ·) 0 := by
  cases node with
  | concat hs =>
    rw [Frame.children, Node.children]
    induction hs with
    | nil => rfl
    | cons h hs ih => exact congrArg (a.frames h + ·) ih
  | _ => rfl

theorem WellFormed.load_cons (wf : a.WellFormed) (f : Frame) (fs : List Frame) :
    a.load (f :: fs) =
      1 + (((a.node? f.doc).elim [] Node.children).map a.frames).foldr (· + ·) 0 + a.load fs := by
  rw [load, wf.frames_eq]

/-- Documents one after the other are tested like their concatenation. -/
theorem pending_concat [Text.Measure] (f : Frame) (hs : List Handle) (fs : List Frame) :
    a.pending (hs.map (fun h => { f with doc := h }) ++ fs) =
      (Doc.concat (hs.map a.doc)).fits f.flat (a.pending fs) := by
  induction hs with
  | nil => rfl
  | cons h hs ih =>
    rw [List.map_cons, List.cons_append, pending, ih]
    cases hs <;> rfl

theorem placed_concat [Text.Measure] (width : Int64) (f : Frame) (hs : List Handle) (fs : List Frame) (col : Int64) :
    a.placed width (hs.map (fun h => { f with doc := h }) ++ fs) col =
      ((Doc.concat (hs.map a.doc)).place width f.indent f.flat (a.pending fs) col).1 ++
        a.placed width fs ((Doc.concat (hs.map a.doc)).place width f.indent f.flat (a.pending fs) col).2 := by
  induction hs generalizing col with
  | nil => rfl
  | cons h hs ih =>
    rw [List.map_cons, List.cons_append, placed_cons, ih, pending_concat]
    cases hs with
    | nil => exact congrArg (_ ++ ·) (List.nil_append _)
    | cons k hs => exact (List.append_assoc _ _ _).symm

/-- What a node refers to is tested like the document of the node. -/
theorem WellFormed.pending_children [Text.Measure] (wf : a.WellFormed) {f : Frame} (found : a.node? f.doc = some node)
    (inner : node.isLeaf = false) (fs : List Frame) :
    a.pending (f.children node ++ fs) = (a.doc f.doc).fits f.flat (a.pending fs) := by
  rw [wf.doc_eq, found]
  cases node with
  | concat hs => exact pending_concat f hs fs
  | nest | group => rfl
  | _ => cases inner

/-- What a node refers to is laid out like the document of the node, unless it is a group that is still to be
decided. -/
theorem WellFormed.placed_children [Text.Measure] (wf : a.WellFormed) {f : Frame} (found : a.node? f.doc = some node)
    (inner : node.isLeaf = false) (decided : ∀ h, node = .group h → f.flat = true) (width : Int64)
    (fs : List Frame) (col : Int64) :
    a.placed width (f.children node ++ fs) col = a.placed width (f :: fs) col := by
  rw [placed_cons, wf.doc_eq, found]
  cases node with
  | concat hs => exact placed_concat width f hs fs col
  | nest => rfl
  | group h =>
    obtain ⟨indent, flat, doc⟩ := f
    obtain rfl : flat = true := decided h rfl
    rfl
  | _ => cases inner

/-! ### The test -/

theorem nextFrame_eq_some {scratch rest scratch' rest' : List Frame} {f : Frame}
    (next : nextFrame scratch rest = some (f, scratch', rest')) :
    scratch ++ rest = f :: (scratch' ++ rest') := by
  rcases scratch with _ | ⟨g, scratch⟩
  · rcases rest with _ | ⟨g, rest⟩
    · cases next
    · cases next
      rfl
  · cases next
    rfl

theorem nextFrame_eq_none {scratch rest : List Frame} (next : nextFrame scratch rest = none) :
    scratch ++ rest = [] := by
  rcases scratch with _ | ⟨g, scratch⟩
  · rcases rest with _ | ⟨g, rest⟩
    · rfl
    · cases next
  · cases next

/-- The test on frames is the test on their documents. -/
theorem WellFormed.testFrames_eq [Text.Measure] (wf : a.WellFormed) {limit : Nat} {room : Int64} {scratch rest : List Frame}
    (enough : a.load (scratch ++ rest) < limit) :
    (a.testFrames limit room scratch rest).1 = (decide (0 ≤ room) && a.pending (scratch ++ rest) room) := by
  induction limit generalizing room scratch rest with
  | zero => omega
  | succ n ih =>
    rw [testFrames]
    by_cases negative : room < 0
    · rw [if_pos negative, decide_eq_false (Int64.not_le.2 negative), Bool.false_and]
    have le : 0 ≤ room := Int64.not_lt.1 negative
    rw [if_neg negative, decide_eq_true le, Bool.true_and]
    cases next : nextFrame scratch rest with
    | none =>
      rw [nextFrame_eq_none next]
      rfl
    | some pair =>
      obtain ⟨f, scratch', rest'⟩ := pair
      rw [nextFrame_eq_some next, wf.load_cons, load_append] at enough
      rw [nextFrame_eq_some next]
      dsimp only
      have fits : decide (0 ≤ room) = true := decide_eq_true le
      cases found : a.node? f.doc with
      | none =>
        rw [ih (by rw [load_append]; omega), fits, pending, wf.doc_eq, found]
        rfl
      | some node =>
        rw [found, Option.elim_some, ← load_children f node] at enough
        have after (r : Int64) : (a.testFrames n r scratch' rest').1 =
            (decide (0 ≤ r) && a.pending (scratch' ++ rest') r) := ih (by rw [load_append]; omega)
        have below (inner : node.isLeaf = false) :
            (a.testFrames n room (f.children node ++ scratch') rest').1 =
              a.pending (f :: (scratch' ++ rest')) room := by
          rw [ih (by rw [load_append, load_append]; omega), fits, List.append_assoc,
            wf.pending_children found inner, Bool.true_and, pending]
        cases node with
        | text s =>
          rw [pending, wf.doc_eq, found]
          exact after _
        | line =>
          rw [pending, wf.doc_eq, found]
          cases f.flat with
          | true => exact after _
          | false => rfl
        | softLine =>
          rw [pending, wf.doc_eq, found]
          cases f.flat with
          | true =>
            refine (after _).trans ?_
            rw [fits, Bool.true_and]
            rfl
          | false => rfl
        | hardLine =>
          rw [pending, wf.doc_eq, found]
          rfl
        | concat | nest | group => exact below rfl

/-! ### The layout -/

section Same

variable (same : b.nodes = a.nodes)

include same

theorem node?_congr : b.node? = a.node? := by
  funext h
  cases h with
  | zero => rfl
  | succ i => rw [node?, node?, same]

theorem doc_congr : b.doc = a.doc := by
  have read (n : Nat) : b.read n = a.read n := by
    induction n with
    | zero => rfl
    | succ n ih =>
      funext h
      rw [read_succ, read_succ, node?_congr same, ih]
  funext h
  rw [doc, doc, read]

theorem frames_congr : b.frames = a.frames := by
  have weight (n : Nat) : b.weight n = a.weight n := by
    induction n with
    | zero => rfl
    | succ n ih =>
      funext h
      rw [Arena.weight, Arena.weight, node?_congr same, ih]
  funext h
  rw [frames, frames, weight]

theorem load_congr (fs : List Frame) : b.load fs = a.load fs := by
  induction fs with
  | nil => rfl
  | cons f fs ih => rw [load, load, ih, frames_congr same]

theorem pending_congr [Text.Measure] (fs : List Frame) : b.pending fs = a.pending fs := by
  induction fs with
  | nil => rfl
  | cons f fs ih => rw [pending, pending, ih, doc_congr same]

theorem WellFormed.congr (wf : a.WellFormed) : b.WellFormed := by
  intro h node found
  rw [node?_congr same] at found
  exact wf h node found

/-- The frame on top and what follows it on the stack of an arena with these nodes are tested like their
documents. -/
theorem WellFormed.test_eq [Text.Measure] (wf : a.WellFormed) {limit : Nat} {room : Int64} {next : Frame}
    (enough : a.load (next :: b.stack) < limit) :
    (b.test limit room next).1 = (decide (0 ≤ room) && a.pending (next :: b.stack) room) := by
  rw [← load_congr same] at enough
  rw [← pending_congr same]
  exact (wf.congr same).testFrames_eq enough

end Same

/-- The arena has the nodes of `a` and has written these pieces. -/
structure Wrote (a : Arena) (ps : List Piece) (b : Arena) : Prop where
  out : b.out.toList = ps
  nodes : b.nodes = a.nodes

/-- With this limit, the frames on the stack of every arena with the nodes of `a` are laid out as their documents
are, behind what was written before. -/
def Lays [Text.Measure] (a : Arena) (width : Int64) (limit : Nat) : Prop :=
  ∀ b col, b.nodes = a.nodes → a.load b.stack ≤ limit →
    a.Wrote (b.out.toList ++ a.placed width b.stack col) (layFrames width limit col b)

section Lays

variable [Text.Measure] {width col : Int64} {n : Nat} {f : Frame} {c : Arena}

/-- One piece is written, and the rest of the stack is laid out from a column on. -/
theorem Lays.write (lays : a.Lays width n) (nodes : c.nodes = a.nodes) (room : a.load c.stack ≤ n) (p : Piece)
    (col : Int64) :
    a.Wrote (c.out.toList ++ p :: a.placed width c.stack col) (layFrames width n col (c.write p)) := by
  have wrote := lays (c.write p) col nodes room
  exact ⟨wrote.out.trans (by simp [Arena.write]), wrote.nodes⟩

/-- Frames are put on the stack and laid out before the rest. -/
theorem Lays.push (lays : a.Lays width n) (nodes : c.nodes = a.nodes) (fs : List Frame)
    (room : a.load fs + a.load c.stack ≤ n) :
    a.Wrote (c.out.toList ++ a.placed width (fs ++ c.stack) col) (layFrames width n col (c.push fs)) :=
  lays (c.push fs) col nodes (by rwa [Arena.push, load_append])

/-- What a node refers to is put on the stack for the frame of the node. -/
theorem Lays.children (lays : a.Lays width n) (wf : a.WellFormed) (nodes : c.nodes = a.nodes)
    (found : a.node? f.doc = some node) (inner : node.isLeaf = false)
    (decided : ∀ h, node = .group h → f.flat = true) (room : a.load (f.children node) + a.load c.stack ≤ n) :
    a.Wrote (c.out.toList ++ a.placed width (f :: c.stack) col)
      (layFrames width n col (c.push (f.children node))) := by
  rw [← wf.placed_children found inner decided]
  exact lays.push nodes _ room

/-- A group is put on the stack flat if it fits, with what follows it up to the next line end. -/
theorem Lays.group (lays : a.Lays width n) (wf : a.WellFormed) (nodes : c.nodes = a.nodes)
    (found : a.node? f.doc = some (.group h)) (broken : f.flat = false) (room : a.frames h + a.load c.stack ≤ n) :
    a.Wrote (c.out.toList ++ a.placed width (f :: c.stack) col)
      (layFrames width n col ((c.test (n + 1) (width - col) { f with flat := true, doc := h }).2.push
        [{ f with flat := (c.test (n + 1) (width - col) { f with flat := true, doc := h }).1, doc := h }])) := by
  have fits : (c.test (n + 1) (width - col) { f with flat := true, doc := h }).1 =
      (decide (0 ≤ width - col) && (a.doc h).fits true (a.pending c.stack) (width - col)) := by
    rw [wf.test_eq nodes, pending]
    rw [← List.singleton_append, load_append, load_singleton]
    exact Nat.lt_succ_of_le room
  have chosen : a.placed width (f :: c.stack) col = a.placed width
      ([{ f with flat := (c.test (n + 1) (width - col) { f with flat := true, doc := h }).1, doc := h }] ++
        c.stack) col := by
    rw [List.singleton_append, placed_cons, placed_cons, wf.doc_eq, found, fits, broken]
    rfl
  rw [chosen]
  refine @lays.push a _ width col n (c.test (n + 1) (width - col) { f with flat := true, doc := h }).2 nodes _ ?_
  rwa [load_singleton]

theorem lays_zero (wf : a.WellFormed) : a.Lays width 0 := by
  intro b col same enough
  cases empty : b.stack with
  | nil => exact ⟨(List.append_nil _).symm, same⟩
  | cons f fs =>
    rw [empty, wf.load_cons] at enough
    omega

/-- One frame more. -/
theorem Lays.succ (lays : a.Lays width n) (wf : a.WellFormed) : a.Lays width (n + 1) := by
  intro b col same enough
  rw [layFrames]
  cases stack : b.stack with
  | nil => exact ⟨(List.append_nil _).symm, same⟩
  | cons f rest =>
    rw [stack, wf.load_cons] at enough
    have nodes : ({ b with stack := rest } : Arena).nodes = a.nodes := same
    have room : a.load ({ b with stack := rest } : Arena).stack ≤ n := by
      dsimp only
      omega
    dsimp only
    rw [node?_congr nodes]
    change a.Wrote (({ b with stack := rest } : Arena).out.toList ++
      a.placed width (f :: ({ b with stack := rest } : Arena).stack) col) _
    change _ + a.load ({ b with stack := rest } : Arena).stack ≤ n + 1 at enough
    generalize ({ b with stack := rest } : Arena) = c at nodes room enough ⊢
    have doc := wf.doc_eq f.doc
    cases found : a.node? f.doc with
    | none =>
      rw [found] at doc
      rw [placed_cons, doc]
      exact lays c col nodes room
    | some node =>
      rw [found] at doc
      rw [found, Option.elim_some, ← load_children f node] at enough
      have below : a.load (f.children node) + a.load c.stack ≤ n := by omega
      cases node with
      | text s =>
        rw [placed_cons, doc]
        exact lays.write nodes room _ _
      | line =>
        rw [placed_cons, doc]
        cases f.flat with
        | true => exact lays.write nodes room _ _
        | false => exact lays.write nodes room _ _
      | softLine =>
        rw [placed_cons, doc]
        cases f.flat with
        | true => exact lays c col nodes room
        | false => exact lays.write nodes room _ _
      | hardLine =>
        rw [placed_cons, doc]
        exact lays.write nodes room _ _
      | concat | nest => exact lays.children wf nodes found rfl nofun below
      | group h =>
        cases flat : f.flat with
        | true =>
          have wrote : a.Wrote _ (layFrames width n col (c.push (f.children (.group h)))) :=
            lays.children wf nodes found rfl (fun _ _ => flat) below
          rw [Frame.children, flat] at wrote
          exact wrote
        | false =>
          rw [Frame.children, load_singleton] at below
          exact lays.group wf nodes found flat below

theorem WellFormed.lays (wf : a.WellFormed) (limit : Nat) : a.Lays width limit := by
  induction limit with
  | zero => exact lays_zero wf
  | succ n ih => exact ih.succ wf

end Lays

/-- **Laying out a document in an arena gives the layout of the document**, whatever is on the stacks and in the
output. The nodes stay as they are. -/
theorem WellFormed.pretty_eq [Text.Measure] (wf : a.WellFormed) (width : Int64) (h : Handle) :
    ((pretty width h).run a).1 = (a.doc h).layout width ∧ ((pretty width h).run a).2.nodes = a.nodes := by
  have enough : a.load ({ a with stack := [{ doc := h }], out := #[] } : Arena).stack ≤ a.weight h h := by
    rw [load_singleton]
    exact Nat.le_refl _
  obtain ⟨out, nodes⟩ := wf.lays _ { a with stack := [{ doc := h }], out := #[] } 0 rfl enough
  refine ⟨?_, nodes⟩
  have pieces : a.placed width [{ doc := h }] 0 = (a.doc h).pieces width := List.append_nil _
  rw [pieces] at out
  refine congrArg String.ofList ((tidyLines_eq _).trans ?_)
  exact congrArg (fun ps => trimLines (List.flatMap Piece.chars ps)) out

end Arena

end TermBot.Doc

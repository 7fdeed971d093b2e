import TermBot.Doc.Layout

/-!
# Arenas of documents

An arena keeps document nodes that refer to earlier nodes by handle, so that a document can be used
in several places. Every operation returns the handle of what it made; the empty document needs no
node. `Arena.doc` reads the document behind a handle.

Laying out works on a stack of frames, the next one on top, and tests whether a group fits on a second
stack. Both stacks and what is written belong to the arena and are used again from one layout to the
next.
-/

namespace TermBot.Doc

open Text (Measure)

/-- A document kept in an arena; handle 0 is the empty document. -/
abbrev Handle := Nat

/-- A node of an arena. -/
inductive Node where
  | text (s : String)
  | line
  | softLine
  | hardLine
  | concat (children : List Handle)
  | nest (columns : Int64) (child : Handle)
  | group (child : Handle)
  deriving Repr, DecidableEq

/-- The documents that a node refers to. -/
def Node.children : Node → List Handle
  | concat hs => hs
  | nest _ h | group h => [h]
  | _ => []

/-- A document that is to be laid out, and how. -/
structure Frame where
  indent : Int64 := 0
  flat : Bool := false
  doc : Handle
  deriving Repr, DecidableEq

/-- The frames of the documents that a node refers to, as they are laid out in the frame of the node
itself. -/
def Frame.children (f : Frame) : Node → List Frame
  | .concat hs => hs.map fun h => { f with doc := h }
  | .nest columns h => [{ f with indent := f.indent + columns, doc := h }]
  | .group h => [{ f with doc := h }]
  | _ => []

/-- The nodes made so far, where the node of handle `h + 1` stands at place `h`; the stack of the
layout and that of the test, the next frame on top; and what was written. -/
structure Arena where
  nodes : Array Node := #[]
  stack : List Frame := []
  scratch : List Frame := []
  out : Array Piece := #[]
  deriving Repr, DecidableEq

namespace Arena

/-- The number of nodes. -/
def size (a : Arena) : Nat := a.nodes.size

/-- The arena without its nodes, its frames and what was written. -/
def reset (_ : Arena) : Arena := {}

/-- Adds a node. -/
def alloc (n : Node) : StateM Arena Handle := fun a =>
  (a.size + 1, { a with nodes := a.nodes.push n })

/-- A literal run; the empty one is the empty document. -/
def text (s : String) : StateM Arena Handle :=
  if s.isEmpty then pure 0 else alloc (.text s)

/-- A line end that may become a space. -/
def line : StateM Arena Handle := alloc .line

/-- A line end that may vanish. -/
def softLine : StateM Arena Handle := alloc .softLine

/-- A line end that stays. -/
def hardLine : StateM Arena Handle := alloc .hardLine

/-- A single space. -/
def space : StateM Arena Handle := text " "

/-- One document after another; empty ones are left out and a single one stands for itself. -/
def concat (hs : List Handle) : StateM Arena Handle :=
  match hs.filter (· ≠ 0) with
  | [] => pure 0
  | [h] => pure h
  | kept => alloc (.concat kept)

/-- More indentation inside a document. -/
def nest (columns : Int64) (h : Handle) : StateM Arena Handle :=
  if h = 0 then pure 0 else alloc (.nest columns h)

/-- A document laid out flat when it fits. -/
def group (h : Handle) : StateM Arena Handle :=
  if h = 0 then pure 0 else alloc (.group h)

/-- The documents with `sep` between each two. -/
def join (sep : Handle) (hs : List Handle) : StateM Arena Handle :=
  concat (hs.intersperse sep)

/-- A document between parentheses. -/
def parens (h : Handle) : StateM Arena Handle := do
  let opening ← text "("
  let closing ← text ")"
  concat [opening, h, closing]

/-- The lines of a text with line ends that stay. -/
def textLines : List (List Char) → StateM Arena (List Handle)
  | [] => pure []
  | [cs] => do
    let h ← text (String.ofList cs)
    pure [h]
  | cs :: rest => do
    let h ← text (String.ofList cs)
    let br ← hardLine
    let hs ← textLines rest
    pure (h :: br :: hs)

/-- A text of several lines. -/
def lines (s : String) : StateM Arena Handle := do
  concat (← textLines (Text.splitAt '\n' s.toList))

/-- Reads the document behind a handle; children have smaller handles, so `h` levels suffice. -/
def read (a : Arena) : (levels : Nat) → Handle → Doc
  | 0, _ => .nil
  | _ + 1, 0 => .nil
  | n + 1, h + 1 =>
    match a.nodes[h]? with
    | none => .nil
    | some (.text s) => .text s
    | some .line => .line
    | some .softLine => .softLine
    | some .hardLine => .hardLine
    | some (.concat hs) => Doc.concat (hs.map (a.read n))
    | some (.nest columns child) => .nest columns (a.read n child)
    | some (.group child) => .group (a.read n child)

/-- The document behind a handle. -/
def doc (a : Arena) (h : Handle) : Doc := a.read h h

/-- The layout of the document behind a handle. -/
def layout [Measure] (a : Arena) (width : Int64) (h : Handle) : String := (a.doc h).layout width

/-- The node behind a handle; the empty document has none. -/
def node? (a : Arena) : Handle → Option Node
  | 0 => none
  | h + 1 => a.nodes[h]?

/-- How many frames a layout takes from the stack for a document; `h` levels suffice, as for
`read`. -/
def weight (a : Arena) : (levels : Nat) → Handle → Nat
  | 0, _ => 1
  | n + 1, h => 1 + ((a.node? h).elim [] Node.children |>.map (a.weight n)).foldr (· + ·) 0

/-- The next frame of a test, from its own stack or, when that is empty, from what is still to be laid
out; with both as they are without it. -/
def nextFrame : (scratch rest : List Frame) → Option (Frame × List Frame × List Frame)
  | f :: scratch, rest => some (f, scratch, rest)
  | [], f :: rest => some (f, [], rest)
  | [], [] => none

/-- Whether the frames, up to the first line end, fit into `room` columns, and what is left on the stack
of the test. At most `limit` frames are looked at. -/
def testFrames [Measure] (a : Arena) :
    (limit : Nat) → (room : Int64) → (scratch rest : List Frame) → Bool × List Frame
  | 0, _, scratch, _ => (false, scratch)
  | n + 1, room, scratch, rest =>
    if room < 0 then (false, scratch)
    else
      match nextFrame scratch rest with
      | none => (true, [])
      | some (f, scratch, rest) =>
        match a.node? f.doc with
        | none => a.testFrames n room scratch rest
        | some (.text s) => a.testFrames n (room - runWidth s) scratch rest
        | some .line => if f.flat then a.testFrames n (room - 1) scratch rest else (true, scratch)
        | some .softLine => if f.flat then a.testFrames n room scratch rest else (true, scratch)
        | some .hardLine => (!f.flat, scratch)
        | some node => a.testFrames n room (f.children node ++ scratch) rest

/-- Whether a frame fits into `room` columns, with what is still to be laid out up to the next line
end. -/
def test [Measure] (a : Arena) (limit : Nat) (room : Int64) (next : Frame) : Bool × Arena :=
  let (fits, scratch) := a.testFrames limit room [next] a.stack
  (fits, { a with scratch })

/-- Writes a piece. -/
def write (a : Arena) (p : Piece) : Arena := { a with out := a.out.push p }

/-- Puts frames on the stack. -/
def push (a : Arena) (fs : List Frame) : Arena := { a with stack := fs ++ a.stack }

/-- Lays out at most `limit` frames from the stack, from column `col` on. -/
def layFrames [Measure] (width : Int64) : (limit : Nat) → (col : Int64) → Arena → Arena
  | 0, _, a => a
  | n + 1, col, a =>
    match a.stack with
    | [] => a
    | f :: rest =>
      let a := { a with stack := rest }
      match a.node? f.doc with
      | none => layFrames width n col a
      | some (.text s) => layFrames width n (col + runWidth s) (a.write (.text s))
      | some .line =>
        if f.flat then layFrames width n (col + 1) (a.write .space)
        else layFrames width n f.indent (a.write (.indented f.indent))
      | some .softLine =>
        if f.flat then layFrames width n col a
        else layFrames width n f.indent (a.write (.indented f.indent))
      | some .hardLine => layFrames width n f.indent (a.write (.indented f.indent))
      | some (.group h) =>
        if f.flat then layFrames width n col (a.push [{ f with doc := h }])
        else
          let (flat, a) := a.test (n + 1) (width - col) { f with flat := true, doc := h }
          layFrames width n col (a.push [{ f with flat, doc := h }])
      | some node => layFrames width n col (a.push (f.children node))

/-- Lays out a document within `width` columns, without spaces at the ends of lines. -/
def pretty [Measure] (width : Int64) (h : Handle) : StateM Arena String := fun a =>
  let a := layFrames width (a.weight h h) 0 { a with stack := [{ doc := h }], out := #[] }
  (String.ofList (tidyLines (a.out.toList.flatMap Piece.chars)), a)

/-- Keeps a document in the arena. -/
def build : Doc → StateM Arena Handle
  | .nil => pure 0
  | .text s => text s
  | .line => line
  | .softLine => softLine
  | .hardLine => hardLine
  | .append a b => do
    let h ← build a
    let k ← build b
    concat [h, k]
  | .nest columns d => do nest columns (← build d)
  | .group d => do group (← build d)

end Arena

end TermBot.Doc

import TermBot.Yaml.Token

/-!
# YAML nodes

The first document of a text as a tree. An alias points to the anchored node by a number, so that a
node may even hold an alias of itself; the anchored nodes are kept beside the tree.
-/

namespace TermBot.Yaml

/-- A node. The tag of a scalar is empty unless one is written. -/
inductive Node where
  | scalar (tag : String) (plain : Bool) (text : String)
  | sequence (items : List Node)
  | mapping (entries : List (Node × Node))
  | reference (name : String) (anchor : Nat)

/-- The first document of a text. -/
structure Document where
  root : Node
  /-- The anchored nodes by number. -/
  anchored : List (Nat × Node)

/-- The node of a missing value. -/
def Node.empty : Node := .scalar "" true ""

/-- Building the tree from tokens. -/
structure Builder where
  tokens : List Token
  /-- Short forms of tags. -/
  handles : List (String × String) := []
  /-- The numbers of the anchors by name, the latest first. -/
  anchors : List (String × Nat) := []
  anchored : List (Nat × Node) := []
  /-- The number of anchors so far. -/
  count : Nat := 0

/-- A step in building the tree, which may fail. -/
abbrev Build := StateT Builder Option

namespace Build

/-- The next token, which stays. -/
def peek : Build Token := do
  match (← get).tokens with
  | t :: _ => return t
  | [] => failure

/-- Drops the next token. -/
def next : Build Unit := modify fun b => { b with tokens := b.tokens.tail }

/-- The short forms that always hold. -/
def standardHandles : List (String × String) := [("!", "!"), ("!!", "tag:yaml.org,2002:")]

/-- The tag in full. -/
def expand (handle suffix : String) : Build String := do
  if handle = "" then return suffix
  match ((← get).handles ++ standardHandles).lookup handle with
  | some text => if text ++ suffix = "" then failure else return text ++ suffix
  | none => failure

/-- The tag as it is kept: the common ones in short form, and none for a lone `!`. -/
def shortTag (tag : String) : String :=
  if tag = "!" then ""
  else if tag.startsWith "tag:yaml.org,2002:" then "!!" ++ (tag.drop 18).toString
  else tag

/-- Takes an anchor, if there is one. -/
def anchor? : Build (Option String) := do
  match ← peek with
  | .anchor n => next; return some n
  | _ => return none

/-- Takes a tag, if there is one. -/
def tag? : Build (Option String) := do
  match ← peek with
  | .tag handle suffix => next; return some (← expand handle suffix)
  | _ => return none

/-- Gives the next anchor its number. -/
def openAnchor (name : String) : Build Nat := modifyGet fun b =>
  (b.count, { b with anchors := (name, b.count) :: b.anchors, count := b.count + 1 })

/-- Keeps an anchored node. -/
def keep (n : Nat) (node : Node) : Build Unit :=
  modify fun b => { b with anchored := (n, node) :: b.anchored }

mutual

/-- A node. `block` allows blocks, and `indentless` a sequence that is not indented. -/
def node (block indentless : Bool) : (limit : Nat) → Build Node
  | 0 => failure
  | n + 1 => do
    match ← peek with
    | .reference name =>
      next
      match (← get).anchors.lookup name with
      | some i => return .reference name i
      | none => failure
    | _ =>
      let early ← anchor?
      let tag ← tag?
      let anchor ← if early.isSome || tag.isNone then pure early else anchor?
      let number ← anchor.mapM openAnchor
      let made ← content block indentless (tag.getD "") (anchor.isSome || tag.isSome) n
      match number with
      | some i => keep i made
      | none => pure ()
      return made

/-- A node behind its anchor and tag. With one of them it may be left out. -/
def content (block indentless : Bool) (tag : String) (marked : Bool) : (limit : Nat) → Build Node
  | 0 => failure
  | n + 1 => do
    match ← peek with
    | .scalar text plain =>
      next
      return .scalar (shortTag tag) plain text
    | .openBracket =>
      next
      return .sequence (← flowItems true n)
    | .openBrace =>
      next
      return .mapping (← flowEntries true n)
    | t =>
      if indentless && t = .item then return .sequence (← looseItems n)
      else if block && t = .blockSequence then
        next
        return .sequence (← blockItems n)
      else if block && t = .blockMapping then
        next
        return .mapping (← blockEntries n)
      else if marked then return .scalar (shortTag tag) true ""
      else failure

/-- The items of a block sequence. -/
def blockItems : (limit : Nat) → Build (List Node)
  | 0 => failure
  | n + 1 => do
    match ← peek with
    | .item =>
      next
      let t ← peek
      let x ← if t = .item || t = .blockEnd then pure .empty else node true false n
      return x :: (← blockItems n)
    | .blockEnd =>
      next
      return []
    | _ => failure

/-- The items of a sequence that is not indented. -/
def looseItems : (limit : Nat) → Build (List Node)
  | 0 => failure
  | n + 1 => do
    match ← peek with
    | .item =>
      next
      let t ← peek
      let x ← if t = .item || t = .key || t = .value || t = .blockEnd then pure .empty
        else node true false n
      return x :: (← looseItems n)
    | _ => return []

/-- The entries of a block mapping. -/
def blockEntries : (limit : Nat) → Build (List (Node × Node))
  | 0 => failure
  | n + 1 => do
    match ← peek with
    | .key =>
      next
      let k ← blockPart n
      let v ← blockValue n
      return (k, v) :: (← blockEntries n)
    | .blockEnd =>
      next
      return []
    | _ => failure

/-- A key or a value in a block mapping. -/
def blockPart : (limit : Nat) → Build Node
  | 0 => failure
  | n + 1 => do
    let t ← peek
    if t = .key || t = .value || t = .blockEnd then return .empty else node true true n

/-- The value behind its sign, if that is there. -/
def blockValue : (limit : Nat) → Build Node
  | 0 => failure
  | n + 1 => do
    match ← peek with
    | .value =>
      next
      blockPart n
    | _ => return .empty

/-- The items between brackets. -/
def flowItems (first : Bool) : (limit : Nat) → Build (List Node)
  | 0 => failure
  | n + 1 => do
    let t ← peek
    if t = .closeBracket then
      next
      return []
    if !first then
      if t = .comma then next else failure
    match ← peek with
    | .closeBracket =>
      next
      return []
    | .key =>
      next
      let t ← peek
      let k ← if t = .value || t = .comma || t = .closeBracket then do
          next
          pure .empty
        else node false false n
      let v ← flowValue .closeBracket n
      return .mapping [(k, v)] :: (← flowItems false n)
    | _ =>
      let x ← node false false n
      return x :: (← flowItems false n)

/-- The entries between braces. -/
def flowEntries (first : Bool) : (limit : Nat) → Build (List (Node × Node))
  | 0 => failure
  | n + 1 => do
    let t ← peek
    if t = .closeBrace then
      next
      return []
    if !first then
      if t = .comma then next else failure
    match ← peek with
    | .closeBrace =>
      next
      return []
    | .key =>
      next
      let t ← peek
      let k ← if t = .value || t = .comma || t = .closeBrace then pure .empty
        else node false false n
      let v ← flowValue .closeBrace n
      return (k, v) :: (← flowEntries false n)
    | _ =>
      let k ← node false false n
      return (k, .empty) :: (← flowEntries false n)

/-- The value behind its sign, if that is there, before a comma or the closing bracket. -/
def flowValue (close : Token) : (limit : Nat) → Build Node
  | 0 => failure
  | n + 1 => do
    match ← peek with
    | .value =>
      next
      let t ← peek
      if t = .comma || t = close then return .empty else node false false n
    | _ => return .empty

end

/-- The directives before a document: one version, which is 1.1, and short forms of tags, each given
once. -/
def directives (versioned : Bool) : (limit : Nat) → Build Unit
  | 0 => failure
  | n + 1 => do
    match ← peek with
    | .version major minor =>
      if versioned || major ≠ 1 || minor ≠ 1 then failure
      next
      directives true n
    | .tagShort handle text =>
      if ((← get).handles.lookup handle).isSome then failure
      modify fun b => { b with handles := (handle, text) :: b.handles }
      next
      directives versioned n
    | _ => return ()

/-- The first document; an empty text has none. -/
def document (limit : Nat) : Build (Option Node) := do
  match ← peek with
  | .streamStart => next
  | _ => failure
  match ← peek with
  | .streamEnd => return none
  | .version .. | .tagShort .. | .documentStart =>
    directives false limit
    match ← peek with
    | .documentStart => next
    | _ => failure
    let t ← peek
    let empty : Bool := match t with
      | .version .. | .tagShort .. | .documentStart | .documentEnd | .streamEnd => true
      | _ => false
    let root ← if empty then pure .empty else node true false limit
    let _ ← peek
    return some root
  | _ =>
    let root ← node true false limit
    let _ ← peek
    return some root

end Build

/-- Reads the first document of a text. Fails when the text has a fault there; a text without a
document gives none. -/
def read? (s : String) : Option (Option Document) := do
  let ts := visibleTokens s.toList
  let (root, b) ← (Build.document (4 * ts.length + 4)).run { tokens := ts }
  return root.map fun r => ⟨r, b.anchored⟩

end TermBot.Yaml

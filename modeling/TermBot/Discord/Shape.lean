/-!
# What the service describes

A `Kind` is a kind of object that the service describes, and a `Shape` says what may stand as a value
in one. `null` may stand almost everywhere and says nothing.
-/

namespace TermBot.Discord

/-- The kinds of objects. -/
inductive Kind where
  | account
  | member
  | role
  | emoji
  | attachment
  | card
  | footer
  | image
  | thumbnail
  | video
  | provider
  | cardAuthor
  | cardField
  | reaction
  | partyActivity
  | partyApplication
  | reference
  | trigger
  | sticker
  | channel
  | overwrite
  | thread
  | threadMember
  | forumTag
  | forumReaction
  | message
  | application
  | team
  | teamMember
  /-- A limit on the number of requests. -/
  | limit
  /-- What all components have. -/
  | component
  | row
  | button
  | buttonEmoji
  | menu
  | menuOption
  | menuDefault
  | input
  | interaction
  | press
  | resolved
  deriving DecidableEq, Repr

/-- A type of whole numbers: its name, whether it has negative numbers, and its size. -/
structure Whole where
  name : String
  signed : Bool := true
  bits : Nat := 64
  deriving DecidableEq, Repr

/-- What may stand as a value. -/
inductive Shape where
  | text (type : String)
  | truth
  | whole (w : Whole)
  /-- A whole number in a text. -/
  | quoted (w : Whole)
  | real
  | time
  | anything
  | list (type : String) (item : Shape)
  /-- An object whose names are free. -/
  | table (type : String) (item : Shape)
  | object (k : Kind)
  /-- An object that is read on its own, as a whole value. -/
  | separate (k : Kind)
  /-- A component, whose kind its `type` says. -/
  | component
  deriving DecidableEq, Repr

end TermBot.Discord

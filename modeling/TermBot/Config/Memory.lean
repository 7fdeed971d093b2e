import TermBot.Config.Basic

/-!
# Configurations in memory

A configuration is held by its address, and whoever holds the address sees what is written there. Every
configuration is kept at an address of its own, so that a copy can be changed without anyone noticing. A list of
owners is a part of the configuration: it is only ever replaced as a whole.
-/

namespace TermBot.Config

/-- Where a configuration is kept. -/
abbrev Address := Nat

/-- The configurations made so far, by address. -/
structure Memory where
  cells : Array Config := #[]
  deriving DecidableEq, Repr

/-- An action on the configurations in memory that may fail; what it has written before stays. -/
abbrev Loading (ε : Type) := ExceptT ε (StateM Memory)

namespace Memory

/-- The configuration at an address. -/
def at? (m : Memory) (p : Address) : Option Config := m.cells[p]?

/-- Keeps a configuration at a new address. -/
def keep (c : Config) : StateM Memory Address := fun m => (m.cells.size, { cells := m.cells.push c })

/-- The configuration at an address that was given out. -/
def read (p : Address) : StateM Memory Config := fun m => ((m.at? p).getD {}, m)

/-- Puts another configuration at an address. -/
def write (p : Address) (c : Config) : StateM Memory Unit :=
  fun m => ((), { cells := m.cells.setIfInBounds p c })

end Memory

end TermBot.Config

import TermBot.Json.Basic
import TermBot.Scoped.Expr
import TermBot.Surface.Term
import TermBot.Typing.Context

/-!
# Syntax trees as JSON

A tree is an array that starts with the name of its node. Types, expressions and entries of contexts
are also read back.
-/

namespace TermBot

open Json (orNull)

/-- A word is a value. -/
instance : Coe UInt32 Json := ⟨fun n => .nat n.toNat⟩

/-- A word is a number. -/
instance coeWordNat : Coe UInt32 Nat := ⟨UInt32.toNat⟩

/-- A number of columns wraps around at 64 bits. -/
instance coeColumns : Coe Int Int64 := ⟨Int64.ofInt⟩

/-- A list of numbers is a value. -/
instance : Coe (List Nat) Json := ⟨fun l => .arr (l.map .nat)⟩

/-- A position is the list of offset, line and column. -/
instance : Coe Surface.Pos Json := ⟨fun p => .arr [p.offset, p.line, p.col]⟩

/-- A type as written. -/
def Surface.TypeExpr.toJson : TypeExpr → Json
  | .unit => .strs ["unit"]
  | .name n p => .arr ["name", n, p]
  | .arrow a b => .arr ["arrow", a.toJson, b.toJson]
  | .all v b => .arr ["forall", v, b.toJson]

/-- A term as written. -/
def Surface.Term.toJson : Term → Json
  | .var n p => .arr ["var", n, p]
  | .unit p => .arr ["unit", p]
  | .lam x b p => .arr ["lam", x, b.toJson, p]
  | .app f a => .arr ["app", f.toJson, a.toJson, f.pos]
  | .ann t ty p => .arr ["ann", t.toJson, ty.toJson, p]
  | .letIn x ty v b p => .arr ["let", x, orNull TypeExpr.toJson ty, v.toJson, b.toJson, p]

/-- A type. -/
def Scoped.Ty.toJson : Ty → Json
  | .unit => .strs ["unit"]
  | .var v => .arr ["var", v.name, v.id]
  | .ex i => .arr ["ex", i]
  | .arrow a b => .arr ["arrow", a.toJson, b.toJson]
  | .all v b => .arr ["forall", v.name, v.id, b.toJson]

/-- An expression. -/
def Scoped.Expr.toJson : Expr → Json
  | .var x => .arr ["var", x.name, x.id]
  | .unit => .strs ["unit"]
  | .lam x b => .arr ["lam", x.name, x.id, b.toJson]
  | .app f a => .arr ["app", f.toJson, a.toJson]
  | .ann e t => .arr ["ann", e.toJson, t.toJson]
  | .letIn x t v b => .arr ["let", x.name, x.id, orNull Ty.toJson t, v.toJson, b.toJson]

/-- Reads the number of an identifier. -/
def Json.word? (j : Json) : Option Nat := do
  let n ← j.int?
  if 0 ≤ n && n < Nat.pow 2 32 then return n.toNat else none

/-- Reads a type. -/
def Scoped.Ty.ofJson? : Json → Option Ty
  | .arr [.str "unit"] => some .unit
  | .arr [.str "var", .str n, i] => do return .var ⟨n, ← i.word?⟩
  | .arr [.str "ex", i] => do return .ex (← i.word?)
  | .arr [.str "arrow", a, b] => do return .arrow (← ofJson? a) (← ofJson? b)
  | .arr [.str "forall", .str n, i, b] => do return .all ⟨n, ← i.word?⟩ (← ofJson? b)
  | _ => none

/-- Reads an expression. -/
def Scoped.Expr.ofJson? : Json → Option Expr
  | .arr [.str "unit"] => some .unit
  | .arr [.str "var", .str n, i] => do return .var ⟨n, ← i.word?⟩
  | .arr [.str "lam", .str n, i, b] => do return .lam ⟨n, ← i.word?⟩ (← ofJson? b)
  | .arr [.str "app", f, a] => do return .app (← ofJson? f) (← ofJson? a)
  | .arr [.str "ann", e, t] => do return .ann (← ofJson? e) (← Ty.ofJson? t)
  | .arr [.str "let", .str n, i, .null, v, b] => do
    return .letIn ⟨n, ← i.word?⟩ none (← ofJson? v) (← ofJson? b)
  | .arr [.str "let", .str n, i, t, v, b] => do
    return .letIn ⟨n, ← i.word?⟩ (some (← Ty.ofJson? t)) (← ofJson? v) (← ofJson? b)
  | _ => none

/-- Reads an entry of a context. -/
def Typing.Entry.ofJson? : Json → Option Entry
  | .arr [.str "var", .str n, i] => do return .rigid ⟨n, ← i.word?⟩
  | .arr [.str "term", .str n, i, t] => do return .term ⟨n, ← i.word?⟩ (← Scoped.Ty.ofJson? t)
  | .arr [.str "ex", i] => do return .unsolved (← i.word?)
  | .arr [.str "solved", i, t] => do return .solved (← i.word?) (← Scoped.Ty.ofJson? t)
  | .arr [.str "mark", i] => do return .marker (← i.word?)
  | _ => none

/-- The name of a kind of entry. -/
def Typing.EntryKind.label : EntryKind → String
  | .rigid => "var"
  | .term => "term"
  | .unsolved => "ex"
  | .solved => "solved"
  | .marker => "mark"

/-- All kinds of entries. -/
def Typing.EntryKind.all : List EntryKind := [.rigid, .term, .unsolved, .solved, .marker]

end TermBot

import TermBot.Surface.Fault
import TermBot.Surface.Term

/-!
# Parsing

A recursive-descent parser for the grammar

    term   ::= '\' IDENT+ '.' term
             | 'let' IDENT (':' type)? '=' term 'in' term
             | app
    app    ::= atom atom* ('\' ... | 'let' ...)?
    atom   ::= IDENT | '(' ')' | '(' term (':' type)? ')'
    type   ::= 'forall' IDENT+ '.' type | tatom ('->' type)?
    tatom  ::= IDENT | 'Unit' | '1' | '(' ')' | '(' type ')'

on the tokens before the end of input. A function returns what it read with the tokens after it, or
the fault that ends parsing. Every function takes a depth that bounds its recursion;
`parseTokens` gives enough of it, two levels for each token.
-/

namespace TermBot.Surface

section

variable (stop : Pos)

/-- The next token; at the end it is the end of input at `stop`. -/
def peek (toks : List Token) : Token := toks.headD (.atEnd stop)

/-- Rejects the next token. -/
def reject {α : Type} (cause : Token → Cause) (toks : List Token) : Except Fault α :=
  .error ⟨(peek stop toks).pos, cause (peek stop toks)⟩

/-- Takes the token that fills a slot. -/
def expect (slot : Slot) : List Token → Except Fault (Token × List Token)
  | [] => reject stop (.missing slot) []
  | t :: rest => if t.kind = slot.kind then .ok (t, rest) else reject stop (.missing slot) (t :: rest)

/-- Takes all identifiers that come next. -/
def identifiers (toks : List Token) : List Token × List Token :=
  (toks.takeWhile (·.kind = .ident), toks.dropWhile (·.kind = .ident))

/-- The quantifiers of several variables, the first one outermost. -/
def quantify (vars : List Token) (body : TypeExpr) : TypeExpr :=
  vars.foldr (fun v b => .all v.lit b) body

mutual

/-- A type. -/
def typeExpr : (depth : Nat) → List Token → Except Fault (TypeExpr × List Token)
  | 0, toks => reject stop (fun _ => .tooDeep) toks
  | n + 1, toks =>
    if (peek stop toks).kind = .quantifier then
      let (vars, rest) := identifiers toks.tail
      if vars.isEmpty then reject stop .noTypeVariable rest
      else do
        let (_, rest) ← expect stop .quantifierDot rest
        let (body, rest) ← typeExpr n rest
        return (quantify vars body, rest)
    else do
      let (dom, rest) ← typeAtom n toks
      if (peek stop rest).kind = .arrow then
        let (cod, rest) ← typeExpr n rest.tail
        return (.arrow dom cod, rest)
      else return (dom, rest)

/-- A type that needs no parentheses. -/
def typeAtom : (depth : Nat) → List Token → Except Fault (TypeExpr × List Token)
  | 0, toks => reject stop (fun _ => .tooDeep) toks
  | n + 1, toks =>
    match toks with
    | [] => reject stop .noType []
    | t :: rest =>
      if t.kind = .ident then
        .ok (if t.lit = "Unit" then .unit else .name t.lit t.pos, rest)
      else if t.kind = .number && t.lit = "1" then .ok (.unit, rest)
      else if t.kind = .lparen then
        if (peek stop rest).kind = .rparen then .ok (.unit, rest.tail)
        else do
          let (inner, rest) ← typeExpr n rest
          let (_, rest) ← expect stop .typeClose rest
          return (inner, rest)
      else reject stop .noType (t :: rest)

end

/-- The abstractions over several parameters; the first one starts at `start`. -/
def abstract (start : Pos) : List Token → Term → Term
  | [], body => body
  | x :: xs, body => .lam x.lit (xs.foldr (fun y b => .lam y.lit b y.pos) body) start

mutual

/-- A term. -/
def term : (depth : Nat) → List Token → Except Fault (Term × List Token)
  | 0, toks => reject stop (fun _ => .tooDeep) toks
  | n + 1, toks =>
    match (peek stop toks).kind with
    | .lambda =>
      let (params, rest) := identifiers toks.tail
      if params.isEmpty then reject stop .noParameter rest
      else do
        let (_, rest) ← expect stop .lambdaDot rest
        let (body, rest) ← term n rest
        return (abstract (peek stop toks).pos params body, rest)
    | .letKeyword => do
      let (name, rest) ← expect stop .letName toks.tail
      let (type, rest) ← optionalType n rest
      let (_, rest) ← expect stop .letEquals rest
      let (value, rest) ← term n rest
      let (_, rest) ← expect stop .letIn rest
      let (body, rest) ← term n rest
      return (.letIn name.lit type value body (peek stop toks).pos, rest)
    | _ => do
      let (fn, rest) ← atom n toks
      arguments n fn rest

/-- An optional type after a colon. -/
def optionalType : (depth : Nat) → List Token → Except Fault (Option TypeExpr × List Token)
  | 0, toks => reject stop (fun _ => .tooDeep) toks
  | n + 1, toks =>
    if (peek stop toks).kind = .colon then do
      let (type, rest) ← typeExpr stop n toks.tail
      return (some type, rest)
    else .ok (none, toks)

/-- The arguments of `fn`; an abstraction or a binding as the last one takes all that follows. -/
def arguments : (depth : Nat) → Term → List Token → Except Fault (Term × List Token)
  | 0, _, toks => reject stop (fun _ => .tooDeep) toks
  | n + 1, fn, toks =>
    match (peek stop toks).kind with
    | .ident | .lparen => do
      let (arg, rest) ← atom n toks
      arguments n (.app fn arg) rest
    | .lambda | .letKeyword => do
      let (arg, rest) ← term n toks
      return (.app fn arg, rest)
    | _ => .ok (fn, toks)

/-- A term that needs no parentheses. -/
def atom : (depth : Nat) → List Token → Except Fault (Term × List Token)
  | 0, toks => reject stop (fun _ => .tooDeep) toks
  | n + 1, toks =>
    match toks with
    | [] => reject stop .noTerm []
    | t :: rest =>
      if t.kind = .ident then .ok (.var t.lit t.pos, rest)
      else if t.kind = .lparen then
        if (peek stop rest).kind = .rparen then .ok (.unit t.pos, rest.tail)
        else do
          let (inner, rest) ← term n rest
          let (type, rest) ← optionalType n rest
          match type with
          | some type =>
            let (_, rest) ← expect stop .annotationClose rest
            return (.ann inner type t.pos, rest)
          | none =>
            let (_, rest) ← expect stop .termClose rest
            return (inner, rest)
      else reject stop .noTerm (t :: rest)

end

/-- The term that the tokens before the end of input at `stop` spell. -/
def parseTokens (toks : List Token) : Except Fault Term := do
  let (t, rest) ← term stop (2 * toks.length + 4) toks
  if rest.isEmpty then return t else reject stop .trailing rest

end

/-- The tokens of a source, or the fault of its first illegal character. -/
def scan (src : Source) : Except Fault (List Token) :=
  match (tokens src).find? (·.kind = .illegal) with
  | some t => .error ⟨t.pos, .illegal t⟩
  | none => .ok (tokens src)

/-- The term that a source spells. -/
def parseSource (src : Source) : Except Fault Term := do
  let toks ← scan src
  parseTokens (Pos.start.afterAll src) toks.dropLast

/-- The term that a text spells. -/
def parse (s : String) : Except Fault Term := parseSource (Text.scalarsOf s)

end TermBot.Surface

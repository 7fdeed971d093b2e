import TermBot.Text.Numeral

/-!
# Flags

Flags may stand anywhere among the arguments: as `--name value` or `--name=value`, or by a letter as
`-n value`, `-n=value` or `-nvalue`. A switch needs no value. After `--` everything is an argument.
-/

namespace TermBot.Cli

/-- What values a flag takes. -/
inductive FlagKind where
  | text
  | integer
  | switch
  deriving DecidableEq, Repr

/-- A flag. -/
structure Flag where
  name : String
  letter : Option Char := none
  kind : FlagKind := .text
  deriving DecidableEq, Repr

/-- How messages name a flag. -/
def Flag.describe (f : Flag) : String :=
  (match f.letter with
    | some c => "-" ++ String.singleton c ++ ", "
    | none => "") ++ "--" ++ f.name

/-- Why arguments are not understood. -/
inductive FlagError where
  | badForm (arg : String)
  | unknown (name : String)
  /-- An unknown letter, with the letters from it on. -/
  | unknownLetter (letters : String)
  | noValue (name : String)
  | noLetterValue (letters : String)
  | badValue (flag : Flag) (value : String) (fault : Text.NumeralFault)
  deriving DecidableEq, Repr

/-- How messages quote the first of some letters. A letter beyond ASCII is named by one byte of the
encoding of its first byte, which is the same one for all letters. -/
def letterName (letters : String) : String :=
  match letters.toList with
  | [] => ""
  | c :: _ => Text.quotedChar (if c.toNat < 0x80 then c else Char.ofNat 0xC3)

/-- What reads the values of a kind. -/
def FlagKind.reader : FlagKind → String
  | .switch => "strconv.ParseBool"
  | _ => "strconv.ParseInt"

/-- The wording of an error. -/
def FlagError.message : FlagError → String
  | .badForm arg => "bad flag syntax: " ++ arg
  | .unknown name => "unknown flag: --" ++ name
  | .unknownLetter ls => "unknown shorthand flag: " ++ letterName ls ++ " in -" ++ ls
  | .noValue name => "flag needs an argument: --" ++ name
  | .noLetterValue ls => "flag needs an argument: " ++ letterName ls ++ " in -" ++ ls
  | .badValue f v e => "invalid argument " ++ Text.quoted v ++ " for " ++ Text.quoted f.describe ++
      " flag: " ++ e.message f.kind.reader v

/-- The spellings of truth values. -/
def truth? (s : String) : Option Bool :=
  if ["1", "t", "T", "TRUE", "true", "True"].contains s then some true
  else if ["0", "f", "F", "FALSE", "false", "False"].contains s then some false
  else none

/-- What is wrong with a value of a kind. -/
def FlagKind.fault? (k : FlagKind) (value : String) : Option Text.NumeralFault :=
  match k with
  | .text => none
  | .integer =>
    match Text.integer value with
    | .ok _ => none
    | .error e => some e
  | .switch => if (truth? value).isSome then none else some .malformed

/-- A flag whose value has to be the next argument, and how it was written. -/
structure Pending where
  flag : Flag
  error : FlagError

/-- What was understood so far. -/
structure Parsed where
  /-- The values given, the last one first. -/
  values : List (String × String) := []
  args : List String := []
  pending : Option Pending := none
  /-- Flags are over. -/
  isOver : Bool := false

namespace Parsed

/-- Gives a flag a value. -/
def give (p : Parsed) (f : Flag) (value : String) : Except FlagError Parsed :=
  match f.kind.fault? value with
  | some e => .error (.badValue f value e)
  | none => .ok { p with values := (f.name, value) :: p.values, pending := none }

/-- The letters of an argument. Letters that start with `test.` are passed over. -/
def letters (flags : List Flag) : List Char → Parsed → Except FlagError Parsed
  | [], p => .ok p
  | c :: rest, p =>
    let text := String.ofList (c :: rest)
    if text.startsWith "test." then .ok p
    else
      match flags.find? (·.letter = some c) with
      | none => .error (.unknownLetter text)
      | some f =>
        match f.kind, rest with
        | _, '=' :: v :: value => p.give f (String.ofList (v :: value))
        | .switch, rest => do letters flags rest (← p.give f "true")
        | _, v :: value => p.give f (String.ofList (v :: value))
        | _, [] => .ok { p with pending := some ⟨f, .noLetterValue text⟩ }

/-- The name behind two dashes, with the value behind an equals sign. -/
def long (flags : List Flag) (body : List Char) (p : Parsed) : Except FlagError Parsed :=
  let name := String.ofList (body.takeWhile (· ≠ '='))
  if name = "" || body.head? = some '-' then .error (.badForm ("--" ++ String.ofList body))
  else
    match flags.find? (·.name = name) with
    | none => .error (.unknown name)
    | some f =>
      match f.kind, body.dropWhile (· ≠ '=') with
      | _, _ :: value => p.give f (String.ofList value)
      | .switch, [] => p.give f "true"
      | _, [] => .ok { p with pending := some ⟨f, .noValue name⟩ }

/-- One more argument. -/
def next (flags : List Flag) (p : Parsed) (arg : String) : Except FlagError Parsed :=
  if p.isOver then .ok { p with args := p.args ++ [arg] }
  else
    match p.pending with
    | some w => p.give w.flag arg
    | none =>
      match arg.toList with
      | ['-', '-'] => .ok { p with isOver := true }
      | '-' :: '-' :: body => p.long flags body
      | '-' :: c :: cs => letters flags (c :: cs) p
      | _ => .ok { p with args := p.args ++ [arg] }

/-- Understands arguments. -/
def ofArgs (flags : List Flag) (args : List String) : Except FlagError Parsed := do
  let p ← args.foldlM (next flags) {}
  match p.pending with
  | some w => .error w.error
  | none => return p

/-- The value of a flag that was given last. -/
def value? (p : Parsed) (name : String) : Option String := p.values.lookup name

/-- The switch is on. -/
def isOn (p : Parsed) (name : String) : Bool := ((p.value? name).bind truth?).getD false

end Parsed

end TermBot.Cli

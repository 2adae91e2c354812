import JmapClient.SortedMap

/-!
# Reading arguments

A `Grammar` describes what a command takes: options, which have names, operands, which have places, and
commands within it. `Reading.run` reads arguments one after the other, up to the name of a command. The
value of an option may be attached to it (`--name=value`, `-nvalue`) or follow it. A value that is not
attached is kept back until the next option or operand or the end, so only then does it show that an option
has no value or is given twice.
-/

namespace JmapClient.CommandLine

/-- Why arguments are not understood, or are answered with help. -/
inductive Fault
  | helpWanted
  /-- Nothing is given at all. -/
  | nothingGiven
  | missingCommand
  | unknownCommand
  | unknownArgument
  /-- An option is given twice. -/
  | repeated
  /-- An option that takes no value is given one. -/
  | unwantedValue
  /-- The value of an option is missing, or is not one. -/
  | missingValue
  /-- An option or operand that must be given is not. -/
  | missingArgument
deriving DecidableEq, Repr

/-- What the program leaves. Only help that was asked for is a success. -/
def Fault.exitCode : Fault → Nat
  | helpWanted => 0
  | _ => 2

/-- What an option or operand takes. -/
inductive Kind
  /-- Nothing: it asks for help. -/
  | help
  /-- Nothing: it is there or not. -/
  | switch
  /-- Nothing: it counts how often it is there. -/
  | count
  | text
  /-- A text that is not empty. -/
  | path
  /-- Any number of texts. -/
  | texts
deriving DecidableEq, Repr

/-- Whether there is a value to be given. -/
def Kind.takesValue : Kind → Bool
  | help | switch | count => false
  | text | path | texts => true

/-- Whether it may be given more than once. -/
def Kind.mayRepeat : Kind → Bool
  | count | texts => true
  | help | switch | text | path => false

/-- An option or operand. -/
structure Parameter where
  name : String
  kind : Kind
  /-- The letter of an option, if it has one. -/
  letter : Option Char
  isRequired : Bool
deriving DecidableEq, Repr

/-- What a command takes. -/
structure Grammar where
  options : List Parameter
  operands : List Parameter
  /-- The names of the commands within. -/
  commands : List String

/-- What was given: to each parameter its values, and an empty text for each time that one without value
was there. -/
abbrev Given : Type := SortedMap String (List String)

/-- The point that reading has come to. -/
structure Reading where
  given : Given
  /-- A parameter whose values are not taken down yet. -/
  pending : Option (Parameter × List String)
  /-- Whether the value of the pending option is to come. -/
  awaitsValue : Bool
  /-- The operands to come. -/
  operands : List Parameter
  /-- Whether there are only operands to come. -/
  onlyOperands : Bool

namespace Reading

/-- The beginning. -/
def start (g : Grammar) : Reading := ⟨∅, none, false, g.operands, false⟩

/-- Takes down that `values` are given to the parameter `p`. -/
def give (p : Parameter) (values : List String) (r : Reading) : Except Fault Reading :=
  if p.kind.takesValue ∧ values.isEmpty then .error .missingValue
  else
    let before := r.given.find? p.name
    if before.isSome ∧ ¬ p.kind.mayRepeat then .error .repeated
    else if p.kind = .path ∧ values.contains "" then .error .missingValue
    else
      let values := if p.kind.takesValue then values else [""]
      .ok { r with given := r.given.insert p.name (before.getD [] ++ values) }

/-- Takes down what is pending. -/
def settle (r : Reading) : Except Fault Reading :=
  match r.pending with
  | some (p, values) => give p values { r with pending := none, awaitsValue := false }
  | none => .ok r

/-- The option `p` without a value attached. -/
def option (p : Parameter) (r : Reading) : Except Fault Reading := do
  let r ← r.settle
  if p.kind.takesValue then return { r with pending := some (p, []), awaitsValue := true }
  else if p.kind = .help then .error .helpWanted
  else r.give p []

/-- The option `p` with a `value` attached. -/
def optionWith (p : Parameter) (value : String) (r : Reading) : Except Fault Reading := do
  let r ← r.settle
  r.give p [value]

/-- Options by their letters. -/
def letters (g : Grammar) : List Char → Reading → Except Fault Reading
  | [], r => .ok r
  | c :: cs, r =>
    match g.options.find? (·.letter == some c) with
    | none => .error .unknownArgument
    | some p =>
      if p.kind.takesValue then
        match cs with
        | [] => r.option p
        | '=' :: value => r.optionWith p (String.ofList value)
        | value => r.optionWith p (String.ofList value)
      else do
        let r ← r.option p
        letters g cs r

/-- An option by its name, which stands before the `=` in `text` if there is one. -/
def named (g : Grammar) (text : List Char) (r : Reading) : Except Fault Reading :=
  let (name, rest) := text.span (· ≠ '=')
  match g.options.find? (·.name == String.ofList name), rest with
  | none, _ => .error .unknownArgument
  | some p, [] => r.option p
  | some p, _ :: value =>
    if p.kind.takesValue then r.optionWith p (String.ofList value) else .error .unwantedValue

/-- An operand, if there is one to come. -/
def operand (g : Grammar) (text : String) (r : Reading) : Except Fault Reading :=
  match r.operands with
  | [] =>
    if g.commands.isEmpty ∨ (r.onlyOperands ∧ g.commands.contains text) then .error .unknownArgument
    else .error .unknownCommand
  | p :: ps =>
    let left := if p.kind.mayRepeat then p :: ps else ps
    match r.pending with
    | some (q, values) =>
      if q = p then .ok { r with pending := some (p, values ++ [text]) }
      else do
        let r ← r.settle
        return { r with pending := some (p, [text]), operands := left }
    | none => .ok { r with pending := some (p, [text]), operands := left }

/-- An argument that is not the name of a command. -/
def argument (g : Grammar) (text : String) (r : Reading) : Except Fault Reading :=
  if r.onlyOperands then r.operand g text
  else
    match text.toList with
    | ['-', '-'] => .ok { r with onlyOperands := true }
    | '-' :: '-' :: cs => r.named g cs
    | '-' :: c :: cs => r.letters g (c :: cs)
    | _ =>
      match r.awaitsValue, r.pending with
      | true, some (p, _) => .ok { r with pending := some (p, [text]), awaitsValue := false }
      | _, _ => r.operand g text

/-- Whether an argument is the name of a command. -/
def isCommand (g : Grammar) (text : String) (r : Reading) : Bool :=
  !r.onlyOperands && !r.awaitsValue && g.commands.contains text

/-- Reads arguments up to the name of a command, which is given back with the arguments behind it. -/
def run (g : Grammar) : List String → Reading → Except Fault (Reading × Option (String × List String))
  | [], r => .ok (r, none)
  | text :: rest, r =>
    if r.isCommand g text then .ok (r, some (text, rest))
    else do
      let r ← r.argument g text
      run g rest r

end Reading

/-- Fails if a parameter that must be given is not in `given`. -/
def Grammar.check (g : Grammar) (given : Given) : Except Fault Unit :=
  if (g.options ++ g.operands).all fun p => !p.isRequired || given.contains p.name then .ok ()
  else .error .missingArgument

/-- Reads the arguments of a command that has no commands within. -/
def Grammar.read (g : Grammar) (arguments : List String) : Except Fault Given := do
  let (r, _) ← (Reading.start g).run g arguments
  let r ← r.settle
  g.check r.given
  return r.given

end JmapClient.CommandLine

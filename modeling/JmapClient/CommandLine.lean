import JmapClient.Command.Errand
import JmapClient.CommandLine.Grammar

/-!
# The command line

`CommandLine.ofArguments` tells what the arguments of the program ask for: a command, where sessions are to
be fetched and how much to tell on the way. Options that every command has may be given before or behind
its name, and those behind it count.
-/

namespace JmapClient

/-- What the program can do. -/
inductive Command
  /-- Does something with the server that is set. -/
  | errand (e : Errand)
  /-- Shows the servers of a domain. -/
  | discover (domain : String)
  /-- Asks the user for settings. -/
  | setup
deriving DecidableEq, Repr

/-- What the arguments of the program ask for. -/
structure CommandLine where
  sessionUrl : Option String
  /-- How much to tell on the way. -/
  verbosity : Nat
  command : Command
deriving DecidableEq, Repr

namespace CommandLine

/-! ### What there is to be given -/

/-- An option that takes a text. -/
def textOption (name : String) (letter : Option Char) : Parameter := ⟨name, .text, letter, false⟩

/-- An operand `name` that must be given. -/
def operand (name : String) (kind : Kind) : Parameter := ⟨name, kind, none, true⟩

/-- The options that every command has. -/
def sharedOptions : List Parameter :=
  [textOption "session-url" none, ⟨"verbose", .count, some 'v', false⟩,
    ⟨"help", .help, some 'h', false⟩]

/-- The grammar of a command with options and operands of its own. -/
def grammar (options operands : List Parameter) : Grammar := ⟨options ++ sharedOptions, operands, []⟩

/-- The option for an account. -/
def accountOption : Parameter := textOption "account" (some 'a')

/-- The option for a media type. -/
def typeOption : Parameter := textOption "type" (some 't')

/-- What the echo command takes. -/
def echoGrammar : Grammar := grammar [] [⟨"pairs", .texts, none, false⟩]

/-- What the upload command takes. -/
def uploadGrammar : Grammar := grammar [typeOption, accountOption] [operand "path" .path]

/-- What the download command takes. -/
def downloadGrammar : Grammar :=
  grammar
    [⟨"output", .path, some 'o', true⟩, accountOption, typeOption, textOption "name" (some 'n'),
      ⟨"force", .switch, none, false⟩]
    [operand "blob" .text]

/-- What the discover command takes. -/
def discoverGrammar : Grammar := grammar [] [operand "domain" .text]

/-- What the program takes before the name of a command. -/
def mainGrammar : Grammar where
  options := sharedOptions
  operands := []
  commands := ["session", "echo", "upload", "download", "discover", "setup", "help"]

/-! ### What is given -/

/-- The value of the option `name`. -/
def textOf? (given : Given) (name : String) : Option String := (given.find? name).bind List.head?

/-- The value of the operand `name`, which must be given. -/
def textOf (given : Given) (name : String) : String := (textOf? given name).getD ""

/-- The most that the verbosity goes to. -/
def maxVerbosity : Nat := 255

/-- The command `name` and what is given to it. -/
def commandOf (name : String) (arguments : List String) : Except Fault (Command × Given) :=
  match name with
  | "session" => do
    let given ← (grammar [] []).read arguments
    return (.errand .showSession, given)
  | "setup" => do
    let given ← (grammar [] []).read arguments
    return (.setup, given)
  | "echo" => do
    let given ← echoGrammar.read arguments
    return (.errand (.echo ((given.find? "pairs").getD [])), given)
  | "upload" => do
    let given ← uploadGrammar.read arguments
    return (.errand (.upload
      { path := textOf given "path"
        mediaType := textOf? given "type"
        account := textOf? given "account" }), given)
  | "download" => do
    let given ← downloadGrammar.read arguments
    return (.errand (.download
      { blobId := textOf given "blob"
        output := textOf given "output"
        account := textOf? given "account"
        mediaType := textOf? given "type"
        fileName := textOf? given "name"
        force := given.contains "force" }), given)
  | "discover" => do
    let given ← discoverGrammar.read arguments
    return (.discover (textOf given "domain"), given)
  | "help" =>
    match arguments with
    | [] => .error .helpWanted
    | [name] => .error (if mainGrammar.commands.contains name then .helpWanted else .unknownCommand)
    | _ => .error .unknownCommand
  | _ => .error .unknownCommand

/-- What the arguments of the program ask for. -/
def ofArguments (arguments : List String) : Except Fault CommandLine := do
  let (r, rest) ← (Reading.start mainGrammar).run mainGrammar arguments
  match rest with
  | none =>
    let r ← r.settle
    .error (if r.given.isEmpty then .nothingGiven else .missingCommand)
  | some (name, arguments) =>
    let (command, given) ← commandOf name arguments
    let r ← r.settle
    let shared := fun name => given.find? name <|> r.given.find? name
    return {
      sessionUrl := (shared "session-url").bind List.head?
      verbosity := min maxVerbosity ((shared "verbose").getD []).length
      command }

end CommandLine

end JmapClient

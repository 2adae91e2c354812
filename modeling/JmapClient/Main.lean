import JmapClient.Command.SettingsFile
import JmapClient.CommandLine
import JmapClient.Offline

/-!
# The program

Reads the arguments, the settings and the environment, carries out the command and prints its report. No
host is reached from here, so every request fails (`Offline.answer`).
-/

namespace JmapClient.Main

/-- There are no payload types but the core's, and no capabilities. -/
def schema : Schema := Schema.core

/-- Why a file cannot be read or written. -/
def faultOf : IO.Error → FileFault
  | .noFileOrDirectory _ _ _ => .notFound
  | .inappropriateType _ code _ => if code = 20 then .notDirectory else .isDirectory
  | e => .other (toString e)

/-- The rights that `mode` tells: three octal digits, for the owner, the group and all others. -/
def rightsOf (mode : Nat) : IO.FileRight :=
  let digit (n : Nat) : IO.AccessRight := ⟨n.testBit 2, n.testBit 1, n.testBit 0⟩
  ⟨digit (mode / 64), digit (mode / 8), digit mode⟩

/-- The endings of names tell nothing here: no request reaches a server that could be told of a media type. -/
def mediaTypes : MediaTypes := fun _ => none

/-- What the world answers a user with the credentials `c`. -/
def answer (c : Credentials) : (e : Effect) → IO e.Answer
  | .http r => return Offline.answer c r
  | .isPresent path => do
    try
      discard (IO.FS.realPath path)
      return true
    catch _ => return false
  | .read path => do
    try return .ok (← IO.FS.readBinFile path).toList
    catch e => return .error (faultOf e)
  | .write path content => do
    try
      IO.FS.writeBinFile path (ByteArray.mk content.toArray)
      return .ok ()
    catch e => return .error (faultOf e)
  | .restrict path mode => do
    try
      IO.setAccessRights path (rightsOf mode)
      return .ok ()
    catch e => return .error (faultOf e)
  | .lookUp _ => return .error "no name server can be reached"

/-- The directory that the settings are kept in. -/
def settingsFolder : IO String := do
  let base ← match ← IO.getEnv "XDG_CONFIG_HOME" with
    | some base => pure base
    | none => do
      let home ← IO.getEnv "HOME"
      pure (home.getD "" ++ "/.config")
  return base ++ "/jmap-cli"

/-- The names of the variables that go before the settings. -/
def overrides : List String :=
  ["JMAP_SESSION_URL", "JMAP_DOMAIN", "JMAP_TOKEN", "JMAP_USERNAME", "JMAP_PASSWORD"]

/-- Carries out a job with the settings file, for which nothing is shown of the user. -/
def withFile {α : Type} (j : String → Job schema Failure α) : IO (Except Failure α) := do
  try
    let folder ← settingsFolder
    IO.FS.createDirAll folder
    return (← Task.perform (answer (.token "")) (j (folder ++ "/config.toml")).run none).1
  catch e => return .error (.file (faultOf e))

/-- The settings that count. -/
def load : IO (Except Failure Settings) := do
  let values ← overrides.mapM fun name => do return (name, ← IO.getEnv name)
  withFile fun path => Settings.load path fun name => (values.lookup name).join

/-- Carries out the plan `p`. -/
def carryOut (p : Plan schema) : IO Outcome := do
  let (a, _) ← Task.perform (answer p.credentials) p.job.run none
  return .of a

/-- Asks for a URL and a token, and keeps them if they give a session. -/
def setup : IO UInt32 := do
  let input ← IO.getStdin
  IO.print "Session URL (eg https://jmap.example.com/.well-known/jmap): "
  let url := (← input.getLine).trimAscii.toString
  IO.print "API token: "
  let token := (← input.getLine).trimAscii.toString
  if token.isEmpty then
    IO.eprintln "Error: API token cannot be empty"
    return 2
  let c : Client schema := ⟨.core, some url⟩
  let (a, _) ← Task.perform (answer (.token token)) c.authenticate.run none
  match a with
  | .ok held =>
    IO.println ("Username: " ++ held.session.document.username)
    IO.println ("API URL: " ++ held.session.document.apiUrl)
    let s : Settings := { (∅ : Settings) with sessionUrl := some url, token := some token }
    match ← withFile s.save with
    | .ok () =>
      IO.println "Credentials saved!"
      return 0
    | .error f =>
      IO.eprintln ("Error: " ++ f.message)
      return 2
  | .error e =>
    IO.eprintln ("Error: " ++ e.message)
    return 2

/-- Prints the report of a command. -/
def report (o : Outcome) : IO UInt32 := do
  match o with
  | .ended code line =>
    IO.print line
    return code.number.toUInt32
  | .crashed => return 101

/-- Carries out the command of `line`. -/
def run (line : CommandLine) : IO UInt32 := do
  match line.command with
  | .setup => setup
  | .discover domain => report (← carryOut ⟨.token "", Job.showEndpoints domain⟩)
  | .errand e =>
    match (← load) >>= fun s => e.plan .core mediaTypes s line.sessionUrl with
    | .ok p => report (← carryOut p)
    | .error f => report (.ofFailure f)

end JmapClient.Main

open JmapClient in
/-- The program. -/
def main (arguments : List String) : IO UInt32 := do
  match CommandLine.ofArguments arguments with
  | .ok line => JmapClient.Main.run line
  | .error fault =>
    if fault != .helpWanted then IO.eprintln "error: the arguments are not understood"
    IO.eprintln "Usage: jmap [OPTIONS] <COMMAND>"
    return fault.exitCode.toUInt32

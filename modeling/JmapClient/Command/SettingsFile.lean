import JmapClient.Command.Transfer
import JmapClient.Settings

/-!
# The settings file

Settings are kept in a file that no one but its owner can read (`Settings.save`, `Settings.restore`). The settings that
count (`Settings.load`) are those in the file behind the variables of the environment, and the file is made if there is
none. A file that is there but cannot be read is left as it is.
-/

namespace JmapClient.Settings

open Client

variable {S : Schema}

/-- Keeps settings in the file at `path`. -/
def save (s : Settings) (path : String) : Job S Failure Unit := do
  ofExcept (fileAnswer (← Job.ask (.write path (Utf8.encode s.text))))
  ofExcept (fileAnswer (← Job.ask (.restrict path fileMode)))

/-- The settings that are kept in the file at `path`. -/
def restore (path : String) : Job S Failure Settings := do
  let content ← ofExcept (fileAnswer (← Job.ask (.read path)))
  ofExcept (ofContent content)

/-- The settings that count, by the file at `path` and the variables `var` of the environment. -/
def load (path : String) (var : String → Option String) : Job S Failure Settings := do
  let isPresent ← Job.ask (.isPresent path)
  if isPresent then
    let s ← restore path
    return s.overriddenBy var
  else
    save ∅ path
    return (∅ : Settings).overriddenBy var

end JmapClient.Settings

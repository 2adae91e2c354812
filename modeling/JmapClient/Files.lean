import JmapClient.SortedMap

/-!
# Files

`FileFault` is why a file cannot be read or written. A `Folder` is a working directory as it is seen from
within: the files and directories that are known, each by its `Place`, to which a path leads step by step
(`Folder.follow`). A path may lead out of the working directory.
-/

namespace JmapClient

/-- The bytes of a file. -/
abbrev Bytes : Type := List UInt8

/-- Why a file cannot be read or written. -/
inductive FileFault
  | notFound
  | isDirectory
  | notDirectory
  | tooLong
  | zeroInPath
  /-- The content is no UTF-8. -/
  | notText
  | other (message : String)
deriving DecidableEq, Repr

/-- The wording of why a file cannot be read or written. -/
def FileFault.message : FileFault → String
  | .notFound => "No such file or directory (os error 2)"
  | .isDirectory => "Is a directory (os error 21)"
  | .notDirectory => "Not a directory (os error 20)"
  | .tooLong => "File name too long (os error 36)"
  | .zeroInPath => "file name contained an unexpected NUL byte"
  | .notText => "stream did not contain valid UTF-8"
  | .other message => message

/-! ### Places -/

/-- Where a path leads to. -/
structure Place where
  /-- How many directories above the working directory the names start; none if they start at the root. -/
  above : Option Nat
  names : List String
deriving DecidableEq, Repr

namespace Place

/-- The working directory. -/
def here : Place := ⟨some 0, []⟩

/-- The root. -/
def root : Place := ⟨none, []⟩

/-- The directory that a place lies in. The root lies in itself. -/
def outer : Place → Place
  | ⟨some n, []⟩ => ⟨some (n + 1), []⟩
  | ⟨none, []⟩ => root
  | ⟨above, names⟩ => ⟨above, names.dropLast⟩

/-- Where `part` of a path leads from the directory `p`. -/
def step (p : Place) (part : String) : Place :=
  if part = "." then p
  else if part = ".." then p.outer
  else ⟨p.above, p.names ++ [part]⟩

/-- The shortest path to a place. -/
def text (p : Place) : String :=
  let front := match p.above with
    | some n => String.join (List.replicate n "../")
    | none => "/"
  front ++ "/".intercalate p.names

end Place

/-! ### Directories -/

/-- A working directory. -/
structure Folder where
  /-- Files by their places. -/
  files : SortedMap String Bytes
  /-- The places of the directories in it. -/
  directories : List String

namespace Folder

/-- A directory with nothing in it. -/
def empty : Folder := ⟨∅, []⟩

instance : EmptyCollection Folder := ⟨empty⟩

/-- Whether there is a directory at the place `p`. The working directory and those around it are there. -/
def isDirectory (f : Folder) (p : Place) : Bool := p.names.isEmpty || f.directories.contains p.text

/-- The most octets of a part of a path. -/
def maxPart : Nat := 255

/-- The most octets of a path. -/
def maxPath : Nat := 4095

/-- The directory that the parts of a path lead to from `p`. -/
def enter (f : Folder) (p : Place) : List String → Except FileFault Place
  | [] => .ok p
  | part :: parts =>
    let q := p.step part
    if f.isDirectory q then f.enter q parts
    else if maxPart < part.utf8ByteSize then .error .tooLong
    else .error (if f.files.contains q.text then .notDirectory else .notFound)

/-- The parts of `path`, between its slashes. -/
def parts (path : String) : List String :=
  ((path.toList.splitOn '/').filter (!·.isEmpty)).map .ofList

/-- Where `path` leads to. There need not be anything, but it must lie in a directory. -/
def follow (f : Folder) (path : String) : Except FileFault Place :=
  if path.contains (Char.ofNat 0) then .error .zeroInPath
  else if path.isEmpty then .error .notFound
  else if maxPath < path.utf8ByteSize then .error .tooLong
  else do
    let p ← f.enter (if path.startsWith "/" then .root else .here) (parts path).dropLast
    match (parts path).getLast? with
    | none => .ok p
    | some last => if maxPart < last.utf8ByteSize then .error .tooLong else .ok (p.step last)

/-- Whether `path` asks for a directory. -/
def endsInSlash (path : String) : Bool := path.endsWith "/"

/-- Whether there is a file or directory at `path`. -/
def isPresent (f : Folder) (path : String) : Bool :=
  match f.follow path with
  | .ok p => f.isDirectory p || (f.files.contains p.text && !endsInSlash path)
  | .error _ => false

/-- The content of the file at `path`. -/
def read (f : Folder) (path : String) : Except FileFault Bytes := do
  let p ← f.follow path
  if f.isDirectory p then .error .isDirectory
  else match f.files.find? p.text with
    | some content => if endsInSlash path then .error .notDirectory else .ok content
    | none => .error .notFound

/-- Gives the file at `path` its `content`, making it if there is none. -/
def write (f : Folder) (path : String) (content : Bytes) : Except FileFault Folder := do
  let p ← f.follow path
  if f.isDirectory p || endsInSlash path then .error .isDirectory
  else .ok { f with files := f.files.insert p.text content }

/-- The places on the way to `p`, and `p` itself. -/
def way (p : Place) : List String :=
  (List.range (p.names.length + 1)).map fun n => Place.text ⟨p.above, p.names.take n⟩

/-- A directory with the files and directories in `entries`, and those that these lie in. The names of directories end
in `/`. -/
def ofEntries (entries : List (String × Bytes)) : Folder :=
  let place (path : String) : Place := (parts path).foldl Place.step .here
  let (directories, files) := entries.partition fun e => endsInSlash e.1
  ⟨.ofList (files.map fun e => ((place e.1).text, e.2)),
    directories.flatMap (fun e => way (place e.1)) ++ files.flatMap fun e => way (place e.1).outer⟩

/-- The files in the working directory itself. -/
def plainFiles (f : Folder) : List (String × Bytes) :=
  f.files.entries.filter fun e => !e.1.contains '/'

end Folder

end JmapClient

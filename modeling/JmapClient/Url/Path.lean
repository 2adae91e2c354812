import JmapClient.Url.Encoding

/-!
# Paths of URLs

A path is a list of segments. `follow` resolves those that are dots: one dot stays, and two dots go back by
one segment, but never behind one that names a drive.
-/

namespace JmapClient.Url

/-- What a segment of a path leads to: nowhere, upwards or downwards. -/
inductive Step
  | stay
  | up
  | down
deriving DecidableEq, Repr

/-- What a segment of a path leads to. A dot may be encoded. -/
def step (segment : List Char) : Step :=
  let plain := (String.ofList segment).toLower.replace "%2e" "."
  if plain = "." then .stay else if plain = ".." then .up else .down

/-- Whether a segment names a drive: a letter and a colon or a bar. -/
def isDrive : List Char → Bool
  | [c, d] => c.isAlpha && (d = ':' || d = '|')
  | _ => false

/-- The segments before, the last first, without the last one. A drive stays. -/
def goBack : List (List Char) → List (List Char)
  | [] => []
  | s :: before => if isDrive s then s :: before else before

/-- A segment as it is written after those before. In the path of a file a drive that comes first has a
colon. -/
def written (k : Kind) (before : List (List Char)) (s : List Char) : List Char :=
  if k = .file ∧ before.isEmpty ∧ isDrive s then s.take 1 ++ [':'] else s

/-- The segments of a path with its dots followed, `before` being those before them in reverse. -/
def follow (k : Kind) (before : List (List Char)) : List (List Char) → List (List Char)
  | [] => before.reverse
  | [s] =>
    match step s with
    | .stay => ([] :: before).reverse
    | .up => ([] :: goBack before).reverse
    | .down => (written k before s :: before).reverse
  | s :: ss =>
    match step s with
    | .stay => follow k before ss
    | .up => follow k (goBack before) ss
    | .down => follow k (written k before s :: before) ss

/-- The segments of a path with its dots followed. The slash that it begins with belongs to none. -/
def segments (k : Kind) (path : List Char) : List (List Char) :=
  match k.slashed path with
  | '/' :: rest => follow k [] (rest.splitOn '/')
  | rest => follow k [] (rest.splitOn '/')

/-- The text of a path with these segments. -/
def pathText (segments : List (List Char)) : String :=
  String.join (segments.map fun s => "/" ++ encode barredInPaths s)

end JmapClient.Url

import JmapClient.Json.Tree

/-!
# Drafts of documents

A text that is not well-formed JSON still has a beginning that is, and a reader that goes through it once
meets what is wrong only where it stands. A `Draft` is the document as far as it goes, with each fault at
its place, so that reading a typed object from it reports whichever comes first, a fault or a mismatch.

A part that is passed over is looked at less closely than one that is read: its texts need not be UTF-8
nor its numbers fit the format, and its nesting is not limited. So a fault may count for reading only.

`Tree.draft` is the draft of a document without faults, and `Draft.tree?` reads a draft as a document;
`Draft.tree?_draft` says that the one undoes the other.
-/

namespace JmapClient.Json

/-- What is wrong with a text: it breaks the grammar, or it ends early. -/
inductive Fault
  | malformed
  | truncated
deriving DecidableEq, Repr

/-- The end of a text inside an array or object: the fault met by reading on, and by passing over. -/
structure Cut where
  read : Fault
  skip : Fault
deriving DecidableEq, Repr

/-- The same fault either way. -/
def Cut.both (f : Fault) : Cut := ⟨f, f⟩

/-- A document as far as its text is well-formed. -/
inductive Draft
  | null
  | bool (b : Bool)
  | number (n : Number)
  | string (s : String)
  /-- A place with no value that can be read; it can be passed over if `skip` is `none`. -/
  | bad (read : Fault) (skip : Option Fault)
  /-- An array, which may be nested too deeply to be read. -/
  | array (deep : Bool) (items : List Draft) (cut : Option Cut)
  /-- An object, whose names may be unreadable. -/
  | object (deep : Bool) (members : List (Except Fault String × Draft)) (cut : Option Cut)
deriving Inhabited

mutual

/-- The draft of a document. -/
def Tree.draft : Tree → Draft
  | .null => .null
  | .bool b => .bool b
  | .number n => .number n
  | .string s => .string s
  | .array ts => .array false (Tree.drafts ts) none
  | .object ms => .object false (Tree.memberDrafts ms) none
termination_by structural t => t

/-- The drafts of a list of documents. -/
def Tree.drafts : List Tree → List Draft
  | [] => []
  | t :: ts => t.draft :: Tree.drafts ts
termination_by structural ts => ts

/-- The drafts of a list of members. -/
def Tree.memberDrafts : List (String × Tree) → List (Except Fault String × Draft)
  | [] => []
  | (k, t) :: ms => (.ok k, t.draft) :: Tree.memberDrafts ms
termination_by structural ms => ms

end

/-- The draft of a value. -/
def Value.draft (v : Value) : Draft := v.tree.draft

/-- Fails where an array or object breaks off. -/
def Cut.stop {α : Type} (cut : Option Cut) (a : α) : Except Fault α :=
  match cut with
  | some c => .error c.read
  | none => .ok a

namespace Draft

mutual

/-- The document that a draft holds, or the first fault in it. -/
def tree? : Draft → Except Fault Tree
  | .null => .ok .null
  | .bool b => .ok (.bool b)
  | .number n => .ok (.number n)
  | .string s => .ok (.string s)
  | .bad read _ => .error read
  | .array deep items cut =>
    if deep then .error .malformed else do
      let ts ← trees? items
      Cut.stop cut (.array ts)
  | .object deep members cut =>
    if deep then .error .malformed else do
      let ms ← memberTrees? members
      Cut.stop cut (.object ms)
termination_by structural d => d

/-- The documents in a list of drafts, or the first fault. -/
def trees? : List Draft → Except Fault (List Tree)
  | [] => .ok []
  | d :: ds => do
    let t ← d.tree?
    let ts ← trees? ds
    return t :: ts
termination_by structural ds => ds

/-- The members in a list of drafts, or the first fault. -/
def memberTrees? : List (Except Fault String × Draft) → Except Fault (List (String × Tree))
  | [] => .ok []
  | (key, d) :: ms => do
    let k ← key
    let t ← d.tree?
    let rest ← memberTrees? ms
    return (k, t) :: rest
termination_by structural ms => ms

end

mutual

/-- The fault that passing over a draft meets. -/
def skipFault : Draft → Option Fault
  | .bad _ skip => skip
  | .array _ items cut => skipFaults items <|> cut.map (·.skip)
  | .object _ members cut => memberSkipFaults members <|> cut.map (·.skip)
  | .null => none
  | .bool _ => none
  | .number _ => none
  | .string _ => none
termination_by structural d => d

/-- The first fault that passing over some drafts meets. -/
def skipFaults : List Draft → Option Fault
  | [] => none
  | d :: ds => d.skipFault <|> skipFaults ds
termination_by structural ds => ds

/-- The first fault that passing over some members meets. -/
def memberSkipFaults : List (Except Fault String × Draft) → Option Fault
  | [] => none
  | (_, d) :: ms => d.skipFault <|> memberSkipFaults ms
termination_by structural ms => ms

end

end Draft

mutual

/-- Reading the draft of a document gives the document. -/
theorem Draft.tree?_draft : ∀ t : Tree, t.draft.tree? = .ok t
  | .null => by simp [Tree.draft, Draft.tree?]
  | .bool _ => by simp [Tree.draft, Draft.tree?]
  | .number _ => by simp [Tree.draft, Draft.tree?]
  | .string _ => by simp [Tree.draft, Draft.tree?]
  | .array ts => by
    simp [Tree.draft, Draft.tree?, Draft.trees?_drafts ts, bind, Except.bind, Cut.stop]
  | .object ms => by
    simp [Tree.draft, Draft.tree?, Draft.memberTrees?_drafts ms, bind, Except.bind, Cut.stop]

theorem Draft.trees?_drafts : ∀ ts : List Tree, Draft.trees? (Tree.drafts ts) = .ok ts
  | [] => by simp [Tree.drafts, Draft.trees?]
  | t :: ts => by
    simp [Tree.drafts, Draft.trees?, Draft.tree?_draft t, Draft.trees?_drafts ts, bind, Except.bind,
      pure, Except.pure]

theorem Draft.memberTrees?_drafts :
    ∀ ms : List (String × Tree), Draft.memberTrees? (Tree.memberDrafts ms) = .ok ms
  | [] => by simp [Tree.memberDrafts, Draft.memberTrees?]
  | (k, t) :: ms => by
    simp [Tree.memberDrafts, Draft.memberTrees?, Draft.tree?_draft t,
      Draft.memberTrees?_drafts ms, bind, Except.bind, pure, Except.pure]

end

end JmapClient.Json

import JmapClient.Proofs.Maps
import JmapClient.Proofs.World

/-!
# Files in a world

A world may have a folder (`World.withFolder`): what it answers about files is what the folder has, and a file that is
written stays written. So the folder after some exchanges is made of the folder before them by the writes among them
(`Folder.after`), and by nothing else. A write changes one file (`Folder.Wrote`).
-/

namespace JmapClient

namespace Folder

variable {f g : Folder} {path : String} {content : Bytes} {p : Place}

/-! ### Writing a file -/

/-- `g` came of `f` by giving the file at `path` its `content`: this is what is read there now, and all directories and
all other files are as they were. -/
structure Wrote (f g : Folder) (path : String) (content : Bytes) : Prop where
  read_eq : g.read path = .ok content
  directories_eq : g.directories = f.directories
  find?_eq : ∃ p, f.follow path = .ok p ∧ ∀ place, place ≠ p.text → g.files.find? place = f.files.find? place

theorem isPresent_of_read (h : f.read path = .ok content) : f.isPresent path = true := by
  obtain ⟨p, hp, hread⟩ := bind_eq_ok_iff.1 h
  unfold isPresent
  rw [hp]
  cases hfile : f.files.find? p.text with
  | none => cases hdirectory : f.isDirectory p <;> simp [hdirectory, hfile] at hread
  | some bytes =>
    cases hslash : endsInSlash path with
    | true => cases hdirectory : f.isDirectory p <;> simp [hdirectory, hfile, hslash] at hread
    | false => simp [SortedMap.contains_eq_isSome_find?, hfile]

/-- Directories alone decide where a path leads to. Files only have to do with why it leads nowhere. -/
theorem enter_of_directories_eq (h : g.directories = f.directories) {parts : List String} {q : Place}
    (hq : f.enter p parts = .ok q) : g.enter p parts = .ok q := by
  induction parts generalizing p with
  | nil => exact hq
  | cons part parts ih =>
    have hdirectory : g.isDirectory (p.step part) = f.isDirectory (p.step part) := by rw [isDirectory, isDirectory, h]
    unfold enter at hq ⊢
    dsimp only at hq ⊢
    rw [hdirectory]
    split_ifs at hq ⊢
    · exact ih hq

theorem follow_of_directories_eq (h : g.directories = f.directories) (hp : f.follow path = .ok p) :
    g.follow path = .ok p := by
  unfold follow at hp ⊢
  -- What is left is a path that starts at the root, and one that does not.
  split_ifs at hp ⊢
  all_goals
    obtain ⟨q, hq, hlast⟩ := bind_eq_ok_iff.1 hp
    exact bind_eq_ok_iff.2 ⟨q, enter_of_directories_eq h hq, hlast⟩

theorem write_eq_ok_iff :
    f.write path content = .ok g ↔ ∃ p, f.follow path = .ok p ∧ f.isDirectory p = false ∧ endsInSlash path = false ∧
      g = { f with files := f.files.insert p.text content } := by
  unfold write
  rw [bind_eq_ok_iff]
  refine exists_congr fun p => and_congr_right fun _ => ?_
  cases f.isDirectory p <;> cases endsInSlash path <;> simp [eq_comm]

/-- What is written is read again, and nothing else has changed. -/
theorem wrote_of_write (h : f.write path content = .ok g) : f.Wrote g path content := by
  obtain ⟨p, hp, hdirectory, hslash, rfl⟩ := write_eq_ok_iff.1 h
  refine ⟨?_, rfl, p, hp, fun place hne => SortedMap.find?_insert_of_ne _ _ hne⟩
  let g : Folder := { f with files := f.files.insert p.text content }
  have hdirectories : g.directories = f.directories := rfl
  have hp' : g.follow path = .ok p := follow_of_directories_eq hdirectories hp
  have hdirectory' : g.isDirectory p = false := hdirectory
  have hcontent : g.files.find? p.text = some content := SortedMap.find?_insert_self _ _ _
  show g.read path = .ok content
  simp [read, hp', hdirectory', hcontent, hslash]

/-! ### The folder after some exchanges -/

/-- What a folder comes to when the world is asked for something. -/
def step (f : Folder) : Effect → Folder
  | .write path content =>
    match f.write path content with
    | .ok g => g
    | .error _ => f
  | _ => f

/-- What a folder comes to by all that the world was asked for in `log`. -/
def after (f : Folder) (log : List Exchange) : Folder := log.foldl (fun f x => f.step x.effect) f

theorem after_append (f : Folder) (log more : List Exchange) : f.after (log ++ more) = (f.after log).after more :=
  List.foldl_append

/-- Without a write a folder stays as it is. -/
theorem after_eq_self {log : List Exchange} (h : ∀ x ∈ log, ∀ path content, x.effect ≠ .write path content) :
    f.after log = f := by
  induction log with
  | nil => rfl
  | cons x log ih =>
    obtain ⟨hx, hlog⟩ := List.forall_mem_cons.1 h
    have hstep : f.step x.effect = f := by
      cases heffect : x.effect with
      | write path content => exact absurd heffect (hx path content)
      | http | isPresent | read | restrict | lookUp => rfl
    rw [after, List.foldl_cons, hstep]
    exact ih hlog

end Folder

/-- The world `w` with the folder `f`: it answers about files as `f` has them by then, and about all else as before. -/
def World.withFolder (w : World) (f : Folder) : World
  | log, .isPresent path => (f.after log).isPresent path
  | log, .read path => (f.after log).read path
  | log, .write path content => ((f.after log).write path content).map fun _ => ()
  | log, .restrict path _ => if (f.after log).isPresent path then .ok () else .error .notFound
  | log, .http r => w log (.http r)
  | log, .lookUp domain => w log (.lookUp domain)

end JmapClient

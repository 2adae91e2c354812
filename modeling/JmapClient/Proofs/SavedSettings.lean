import JmapClient.Command.SettingsFile
import JmapClient.Proofs.Folders
import JmapClient.Proofs.Toml.Documents
import JmapClient.Proofs.Utf8

/-!
# Settings that are kept

The file that settings are kept in has two sections, and in each the keys that are set (`Settings.text_eq`). So what
is read of it again are the very settings (`Settings.ofText?_text`), whatever texts they are: one that is empty is not
taken for one that is not set. In a world with a folder they are restored as they were saved (`Settings.saved_exact`),
and a file that is there is not touched when the settings that count are loaded (`Settings.after_load`).
-/

namespace JmapClient.Settings

open Toml

/-! ### The file -/

/-- What `s` sets of the server. -/
def serverFields (s : Settings) : List (String × Option String) :=
  [("session_url", s.sessionUrl), ("domain", s.domain)]

/-- What `s` sets of the user. -/
def authFields (s : Settings) : List (String × Option String) :=
  [("token", s.token), ("username", s.username), ("password", s.password)]

/-- The lines of the file. -/
def lines (s : Settings) : List Line :=
  sectionLines "server" s.serverFields ++ .blank :: sectionLines "auth" s.authFields

theorem toList_line (key : String) (value : Option String) :
    (line key value).toList = (value.map (Line.setting key)).toList.flatMap Line.chars := by
  cases value <;> simp [line, Line.chars]

theorem flatMap_chars_settings (fields : List (String × Option String)) :
    (fields.filterMap fun field => field.2.map (Line.setting field.1)).flatMap Line.chars =
      fields.flatMap fun field => (line field.1 field.2).toList := by
  induction fields with
  | nil => rfl
  | cons field fields ih =>
    obtain ⟨key, value⟩ := field
    rw [List.flatMap_cons, ← ih, toList_line]
    cases value <;> simp

theorem text_eq (s : Settings) : s.text = String.ofList (s.lines.flatMap Line.chars) := by
  apply String.toList_injective
  simp [text, lines, sectionLines, flatMap_chars_settings, serverFields, authFields, Line.chars]

theorem isPlain_sectionLines {name : String} {fields : List (String × Option String)} (hname : Line.IsBareKey name)
    (hfields : ∀ field ∈ fields, Line.IsBareKey field.1) : ∀ l ∈ sectionLines name fields, l.IsPlain := by
  refine List.forall_mem_cons.2 ⟨hname, fun l hl => ?_⟩
  obtain ⟨field, hmem, hl⟩ := List.mem_filterMap.1 hl
  obtain ⟨value, -, rfl⟩ := Option.map_eq_some_iff.1 hl
  exact hfields field hmem

theorem isPlain_lines (s : Settings) : ∀ l ∈ s.lines, l.IsPlain := by
  have hserver : ∀ field ∈ s.serverFields, Line.IsBareKey field.1 := by
    simp [serverFields]
    decide
  have hauth : ∀ field ∈ s.authFields, Line.IsBareKey field.1 := by
    simp [authFields]
    decide
  refine List.forall_mem_append.2 ⟨isPlain_sectionLines (by decide) hserver, ?_⟩
  exact List.forall_mem_cons.2 ⟨trivial, isPlain_sectionLines (by decide) hauth⟩

theorem nodup_fields (s : Settings) : (s.serverFields.map (·.1)).Nodup ∧ (s.authFields.map (·.1)).Nodup := by
  simp [serverFields, authFields]

/-- The file makes a table of two, one for each section. -/
theorem ofText?_lines (s : Settings) :
    Table.ofText? s.text = some
      [("server", .table .headed (presentFields s.serverFields)),
        ("auth", .table .headed (presentFields s.authFields))] := by
  rw [text_eq, Table.ofText?_lines s.isPlain_lines, lines, List.foldlM_append,
    Table.foldlM_sectionLines rfl s.nodup_fields.1]
  have hauth : (sectionLines "auth" s.authFields).foldlM Line.turn
      ⟨[("server", .table .headed (presentFields s.serverFields))], ["server"]⟩ = some ⟨_, ["auth"]⟩ :=
    Table.foldlM_sectionLines rfl s.nodup_fields.2
  exact congrArg (Option.map (·.table)) hauth

/-- What a key is set to in a section is read of the section. -/
theorem text?_presentFields {fields : List (String × Option String)} (hfields : (fields.map (·.1)).Nodup)
    (index : Nat) {key : String} {value : Option String} (h : (key, value) ∈ fields) :
    (Section.named (presentFields fields)).text? index key = some value := by
  have hfind : (presentFields fields).find? key = value.map .text := Table.find?_presentFields hfields h
  have hsection : (Section.named (presentFields fields)).find? index key = value.map .text := hfind
  rw [Section.text?, hsection]
  cases value <;> rfl

/-- Whatever is set, it is read again from the file as it was. -/
theorem ofText?_text (s : Settings) : ofText? s.text = some s := by
  obtain ⟨hserver, hauth⟩ := s.nodup_fields
  unfold ofText?
  rw [ofText?_lines]
  have hsessionUrl := text?_presentFields hserver 0 (by simp [serverFields] : ("session_url", s.sessionUrl) ∈ _)
  have hdomain := text?_presentFields hserver 1 (by simp [serverFields] : ("domain", s.domain) ∈ _)
  have htoken := text?_presentFields hauth 0 (by simp [authFields] : ("token", s.token) ∈ _)
  have husername := text?_presentFields hauth 1 (by simp [authFields] : ("username", s.username) ∈ _)
  have hpassword := text?_presentFields hauth 2 (by simp [authFields] : ("password", s.password) ∈ _)
  simp [Table.find?_cons, Section.ofValue?, Section.isInRange, Table.entriesInRange_presentFields, entriesInRange,
    hsessionUrl, hdomain, htoken, husername, hpassword]

/-! ### Keeping settings -/

section Keeping

variable {S : Schema} {w : World} {f : Folder} {path : String} {held : Option (Held S)} {log : List Exchange}

theorem ofContent_encode_text (s : Settings) : ofContent (Utf8.encode s.text) = .ok s := by
  rw [ofContent, Utf8.decode?_encode]
  dsimp only
  rw [s.ofText?_text]

/-- What `restore` gives depends on what is read at the path, and nothing is written. -/
theorem runIn_restore :
    (restore path : Job S Failure Settings).runIn (w.withFolder f) held log =
      ⟨Client.fileAnswer ((f.after log).read path) >>= ofContent, held,
        log ++ [⟨.read path, (f.after log).read path⟩]⟩ := by
  unfold restore
  rw [Job.runIn_ask_bind, Job.runIn_ofExcept_bind]
  have hanswer : (w.withFolder f) log (.read path) = (f.after log).read path := rfl
  rw [hanswer]
  cases (f.after log).read path with
  | error fault => rfl
  | ok content => exact Job.runIn_ofExcept _

/-- Settings are saved unless the file cannot be written, and the folder `f` is as it was then. -/
theorem runIn_save (s : Settings) :
    let files := f.after log
    let o := (s.save path : Job S Failure Unit).runIn (w.withFolder f) held log
    (∀ g, files.write path (Utf8.encode s.text) = .ok g →
      o.result = .ok () ∧ f.after o.log = g ∧ files.Wrote g path (Utf8.encode s.text)) ∧
    ∀ fault, files.write path (Utf8.encode s.text) = .error fault →
      o.result = .error (.file fault) ∧ f.after o.log = files := by
  intro files o
  let write : Effect := .write path (Utf8.encode s.text)
  let written : Exchange := ⟨write, (files.write path (Utf8.encode s.text)).map fun _ => ()⟩
  have hafter : f.after (log ++ [written]) = files.step write := Folder.after_append f log [written]
  have hrun : o = Job.runIn (w.withFolder f) (ofExcept (Client.fileAnswer written.answer) >>= fun _ =>
      Job.ask (.restrict path fileMode) >>= fun answer => ofExcept (Client.fileAnswer answer) : Job S Failure Unit)
      held (log ++ [written]) := Job.runIn_ask_bind _ _
  rw [Job.runIn_ofExcept_bind] at hrun
  refine ⟨fun g hg => ?_, fun fault hfault => ?_⟩
  · have hwrote := Folder.wrote_of_write hg
    have hstep : f.after (log ++ [written]) = g := by rw [hafter, Folder.step, hg]
    have hrestrict : (w.withFolder f) (log ++ [written]) (.restrict path fileMode) = .ok () := by
      show (if (f.after (log ++ [written])).isPresent path then _ else _) = _
      rw [hstep, if_pos (Folder.isPresent_of_read hwrote.read_eq)]
    have hanswer : Client.fileAnswer written.answer = .ok () := by
      show Client.fileAnswer ((files.write path (Utf8.encode s.text)).map fun _ => ()) = .ok ()
      rw [hg]
      rfl
    rw [hanswer] at hrun
    dsimp only at hrun
    rw [Job.runIn_ask_bind, hrestrict, Job.runIn_ofExcept] at hrun
    rw [hrun]
    refine ⟨rfl, ?_, hwrote⟩
    rw [Folder.after_append, hstep]
    rfl
  · have hanswer : Client.fileAnswer written.answer = .error (.file fault) := by
      show Client.fileAnswer ((files.write path (Utf8.encode s.text)).map fun _ => ()) = .error (.file fault)
      rw [hfault]
      rfl
    rw [hanswer] at hrun
    rw [hrun]
    refine ⟨rfl, ?_⟩
    show f.after (log ++ [written]) = files
    rw [hafter, Folder.step, hfault]

/-- A file that is there is not touched by `load`, even if it cannot be read. -/
theorem after_load {var : String → Option String} (h : (f.after log).isPresent path = true) :
    let o := (load path var : Job S Failure Settings).runIn (w.withFolder f) held log
    f.after o.log = f.after log ∧
      o.result = (Client.fileAnswer ((f.after log).read path) >>= ofContent).map (overriddenBy var) := by
  intro o
  let look : Exchange := ⟨.isPresent path, (f.after log).isPresent path⟩
  have hlook : f.after (log ++ [look]) = f.after log := Folder.after_append f log [look]
  have hrun : o = Job.runIn (w.withFolder f) (if (f.after log).isPresent path then do
      let s ← restore path
      return s.overriddenBy var
    else do
      save ∅ path
      return (∅ : Settings).overriddenBy var : Job S Failure Settings) held (log ++ [look]) := Job.runIn_ask_bind _ _
  rw [if_pos h, Job.runIn_bind, runIn_restore, hlook] at hrun
  have hread : f.after (log ++ [look] ++ [⟨.read path, (f.after log).read path⟩]) = f.after log := by
    rw [Folder.after_append, hlook]
    rfl
  cases hresult : Client.fileAnswer ((f.after log).read path) >>= ofContent with
  | error e =>
    rw [hresult] at hrun
    rw [hrun]
    exact ⟨hread, rfl⟩
  | ok s =>
    rw [hresult] at hrun
    dsimp only at hrun
    rw [hrun, Job.runIn_pure]
    exact ⟨hread, rfl⟩

end Keeping

/-- What is set is told by the text of the file, and only by it. Wherever `save` can write, `restore` gives back what is
set, and where it cannot, the folder is as it was. -/
theorem saved_exact (s : Settings) :
    ofText? s.text = some s ∧
    (∀ (f g : Folder) (path : String), f.write path (Utf8.encode s.text) = .ok g →
      ∃ content, g.read path = .ok content ∧ (Utf8.decode? content).bind ofText? = some s) ∧
    (∀ s' : Settings, s'.text = s.text → s' = s) ∧
    ∀ (S : Schema) (w : World) (f : Folder) (path : String) (held : Option (Held S)) (log : List Exchange),
      let files := f.after log
      let saved := (s.save path : Job S Failure Unit).runIn (w.withFolder f) held log
      let restored := (restore path : Job S Failure Settings).runIn (w.withFolder f) saved.held saved.log
      (∀ g, files.write path (Utf8.encode s.text) = .ok g → saved.result = .ok () ∧ restored.result = .ok s ∧
        f.after restored.log = g ∧ files.Wrote g path (Utf8.encode s.text)) ∧
      ∀ fault, files.write path (Utf8.encode s.text) = .error fault →
        saved.result = .error (.file fault) ∧ f.after saved.log = files := by
  have hread := s.ofText?_text
  refine ⟨hread, fun f g path hwrite => ?_, fun s' htext => ?_, ?_⟩
  · refine ⟨Utf8.encode s.text, (Folder.wrote_of_write hwrite).read_eq, ?_⟩
    rw [Utf8.decode?_encode]
    exact hread
  · have hread' := s'.ofText?_text
    rw [htext, hread] at hread'
    exact (Option.some.inj hread').symm
  · intro S w f path held log files saved restored
    obtain ⟨hok, herror⟩ := runIn_save s
    refine ⟨fun g hg => ?_, herror⟩
    obtain ⟨hsaved, hafter, hwrote⟩ := hok g hg
    have hrestored : restored = _ := runIn_restore
    rw [hafter, hwrote.read_eq] at hrestored
    rw [hrestored]
    refine ⟨hsaved, s.ofContent_encode_text, ?_, hwrote⟩
    show f.after (saved.log ++ [⟨.read path, .ok (Utf8.encode s.text)⟩]) = g
    rw [Folder.after_append, hafter]
    rfl

/-- A password of quotes of both kinds, a backslash and ends of lines is restored, and an empty name stays one. -/
theorem saved_exact_of_quotes :
    let s : Settings := { (∅ : Settings) with username := some "", password := some "\"\"\"'''\\\r\n" }
    let w := (World.scripted []).withFolder ∅
    let saved := (s.save "config.toml" : Job Schema.core Failure Unit).runIn w none []
    saved.result = .ok () ∧
      ((restore "config.toml" : Job Schema.core Failure Settings).runIn w saved.held saved.log).result = .ok s := by
  intro s w saved
  have hfollow : (∅ : Folder).follow "config.toml" = .ok ⟨some 0, ["config.toml"]⟩ := by
    rw [Folder.follow, String.contains_char_eq]
    decide +kernel
  obtain ⟨g, hwrite⟩ : ∃ g, (∅ : Folder).write "config.toml" (Utf8.encode s.text) = .ok g :=
    ⟨_, Folder.write_eq_ok_iff.2 ⟨_, hfollow, by decide +kernel, by decide +kernel, rfl⟩⟩
  obtain ⟨-, -, -, hsaved⟩ := saved_exact s
  obtain ⟨hok, hrestored, -, -⟩ := (hsaved Schema.core (World.scripted []) ∅ "config.toml" none []).1 g hwrite
  exact ⟨hok, hrestored⟩

end JmapClient.Settings

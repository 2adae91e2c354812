import JmapClient.Proofs.Toml.Texts
import JmapClient.Toml.Document

/-!
# Documents in TOML, line by line

A document may be written line by line, with keys that need no quotes (`Line`). It is read line by line then: its table
is what the lines make, one after the other (`Table.ofText?_lines`).
-/

namespace JmapClient.Toml

/-- A line of a document. -/
inductive Line
  | blank
  | header (key : String)
  | setting (key value : String)

namespace Line

/-- A line as it is written, with its end. -/
def chars : Line → List Char
  | blank => ['\n']
  | header key => '[' :: (key.toList ++ [']', '\n'])
  | setting key value => key.toList ++ ([' ', '=', ' '] ++ (Text.print value.toList ++ ['\n']))

/-- What a line makes of the page `p`. -/
def turn (p : Page) : Line → Option Page
  | blank => some p
  | header key => do return ⟨← p.table.begin [key], [key]⟩
  | setting key value => do return { p with table := ← p.table.define p.place [key] (.text value) }

/-- `key` needs no quotes. -/
def IsBareKey (key : String) : Prop := key.toList ≠ [] ∧ ∀ c ∈ key.toList, isBare c = true

instance (key : String) : Decidable (IsBareKey key) :=
  decidable_of_iff (key.toList ≠ [] ∧ key.toList.all isBare = true) (by rw [IsBareKey, List.all_eq_true])

/-- The key of a line, if it has one, needs no quotes. -/
def IsPlain : Line → Prop
  | blank => True
  | header key => IsBareKey key
  | setting key _ => IsBareKey key

variable {key : String} {c d : Char} {cs rest : List Char} {p : Page} {l : Line}

/-! ### Keys -/

/-- What a key begins with is no blank, and nothing else begins with it. -/
theorem ne_of_isBare (h : isBare c = true) :
    isBlank c = false ∧ ∀ d ∈ ['"', '\'', '[', '#', '\n', '\r', '\uFEFF'], c ≠ d := by
  refine ⟨Bool.eq_false_iff.2 fun hblank => ?_, fun d hd heq => ?_⟩
  · obtain rfl | rfl : c = ' ' ∨ c = '\t' := by simpa [isBlank] using hblank
    all_goals exact absurd h (by decide)
  · have hall : (['"', '\'', '[', '#', '\n', '\r', '\uFEFF'].all fun d => !isBare d) = true := by decide
    exact absurd h (by simpa [heq] using List.all_eq_true.1 hall d hd)

theorem IsBareKey.exists_eq_cons (hkey : IsBareKey key) : ∃ c cs, key.toList = c :: cs ∧ isBare c = true := by
  obtain ⟨c, cs, heq⟩ := List.exists_cons_of_ne_nil hkey.1
  exact ⟨c, cs, heq, hkey.2 c (by simp [heq])⟩

theorem key?_append (hkey : IsBareKey key) (hcs : ∀ c, cs.head? = some c → isBare c = false) :
    key? (key.toList ++ cs) = some (key, cs) := by
  obtain ⟨k, ks, hfirst, hk⟩ := hkey.exists_eq_cons
  have hquotes := (ne_of_isBare hk).2
  obtain ⟨hne, hbare⟩ := hkey
  have htake : (key.toList ++ cs).takeWhile isBare = key.toList := by
    rw [List.takeWhile_append_of_pos hbare]
    cases cs with
    | nil => simp
    | cons c cs => simp [hcs c rfl]
  have hdrop : (key.toList ++ cs).dropWhile isBare = cs := by
    rw [List.dropWhile_append_of_pos hbare]
    cases cs with
    | nil => simp
    | cons c cs => simp [hcs c rfl]
  unfold key?
  split
  · rename_i heq
    simp_all
  · rename_i heq
    simp_all
  · simp [htake, hdrop, hne]

theorem path?_append (hkey : IsBareKey key) (hcs : ∀ c, cs.head? = some c → isBare c = false)
    (hnext : cs.dropWhile isBlank = d :: rest) (hd : d ≠ '.') :
    path? (key.toList ++ cs) = some ([key], d :: rest) := by
  have hfront : (key.toList ++ cs).dropWhile isBlank = key.toList ++ cs := by
    obtain ⟨k, ks, hfirst, hk⟩ := hkey.exists_eq_cons
    simp [hfirst, (ne_of_isBare hk).1]
  unfold path? depthLimit keys?
  rw [hfront, key?_append hkey hcs]
  simp [hnext, hd]

/-! ### Lines -/

theorem afterLine?_break (rest : List Char) : afterLine? ('\n' :: rest) = some rest := rfl

theorem value?_print (depth : Nat) (cs : List Char) (hdouble : rest.head? ≠ some '"')
    (hsingle : rest.head? ≠ some '\'') :
    value? depth (Text.print cs ++ rest) = some (.text (String.ofList cs), rest) := by
  have hread := Text.read_print cs hdouble hsingle
  obtain ⟨t, ht | ht⟩ := Text.exists_print_eq_cons cs
  all_goals
    rw [ht] at hread ⊢
    simp only [List.cons_append] at hread ⊢
    simp [value?, hread]

theorem dropWhile_print (cs rest : List Char) :
    (' ' :: (Text.print cs ++ rest)).dropWhile isBlank = Text.print cs ++ rest := by
  obtain ⟨t, ht | ht⟩ := Text.exists_print_eq_cons cs <;> rw [ht] <;> rfl

theorem statement?_header (hkey : IsBareKey key) (p : Page) (rest : List Char) :
    p.statement? ((header key).chars ++ rest) = ((header key).turn p).map (·, rest) := by
  have hchars : (header key).chars ++ rest = '[' :: (key.toList ++ (']' :: '\n' :: rest)) := by simp [chars]
  have hpath : path? (key.toList ++ (']' :: '\n' :: rest)) = some ([key], ']' :: '\n' :: rest) :=
    path?_append hkey (by simp; decide) rfl (by decide)
  obtain ⟨k, ks, hfirst, hk⟩ := hkey.exists_eq_cons
  have hbracket : k ≠ '[' := (ne_of_isBare hk).2 _ (by decide)
  rw [hchars]
  unfold Page.statement?
  split
  · rename_i heq
    simp [hfirst, hbracket] at heq
  · rename_i heq
    obtain ⟨-, rfl⟩ := List.cons.inj heq
    rw [hpath]
    cases hbegin : p.table.begin [key] <;> simp [after?, afterLine?_break, turn, hbegin]
  · rename_i hnot
    exact absurd rfl (hnot _)

theorem statement?_setting {value : String} (hkey : IsBareKey key) (p : Page) (rest : List Char) :
    p.statement? ((setting key value).chars ++ rest) = ((setting key value).turn p).map (·, rest) := by
  have hchars : (setting key value).chars ++ rest =
      key.toList ++ (' ' :: '=' :: ' ' :: (Text.print value.toList ++ ('\n' :: rest))) := by simp [chars]
  have hpath : path? (key.toList ++ (' ' :: '=' :: ' ' :: (Text.print value.toList ++ ('\n' :: rest)))) =
      some ([key], '=' :: ' ' :: (Text.print value.toList ++ ('\n' :: rest))) :=
    path?_append hkey (by simp; decide) rfl (by decide)
  obtain ⟨k, ks, hfirst, hk⟩ := hkey.exists_eq_cons
  have hbracket : k ≠ '[' := (ne_of_isBare hk).2 _ (by decide)
  rw [hchars]
  unfold Page.statement?
  split
  · rename_i heq
    simp [hfirst, hbracket] at heq
  · rename_i heq
    simp [hfirst, hbracket] at heq
  · rw [hpath]
    have hvalue : value? depthLimit (Text.print value.toList ++ '\n' :: rest) =
        some (.text (String.ofList value.toList), '\n' :: rest) :=
      value?_print depthLimit value.toList (by simp) (by simp)
    cases hdefine : p.table.define p.place [key] (.text value) <;>
      simp [after?, dropWhile_print, hvalue, afterLine?_break, turn, hdefine]

/-- A line that begins with none of the characters that may end one is a header or a setting. -/
theorem finish?_cons (hblank : isBlank c = false) (hend : ∀ d ∈ ['#', '\n', '\r'], c ≠ d) (p : Page) (fuel : Nat)
    (cs : List Char) :
    Page.finish? (fuel + 1) p (c :: cs) = (p.statement? (c :: cs)).bind fun r => Page.finish? fuel r.1 r.2 := by
  have hdrop : (c :: cs).dropWhile isBlank = c :: cs := by simp [hblank]
  simp only [List.forall_mem_cons] at hend
  have hline : afterLine? (c :: cs) = none := by
    unfold afterLine?
    rw [hdrop]
    split
    · rename_i heq
      cases heq
    · rename_i heq
      exact absurd (List.cons.inj heq).1 hend.1
    · simp [Text.afterBreak?, hend]
  rw [Page.finish?, hdrop]
  simp only [hline]
  rfl

/-- A line is read as what it makes of the page `p`. -/
theorem finish?_chars (h : l.IsPlain) (p : Page) (fuel : Nat) (rest : List Char) :
    Page.finish? (fuel + 1) p (l.chars ++ rest) = (l.turn p).bind fun p => Page.finish? fuel p rest := by
  cases l with
  | blank => rfl
  | header key =>
    have hfirst : (header key).chars ++ rest = '[' :: (key.toList ++ [']', '\n'] ++ rest) := rfl
    rw [hfirst, finish?_cons (by decide) (by simp), ← hfirst, statement?_header h]
    cases turn p (header key) <;> rfl
  | setting key value =>
    obtain ⟨k, ks, hkey, hk⟩ := IsBareKey.exists_eq_cons h
    obtain ⟨hblank, hnone⟩ := ne_of_isBare hk
    have hsubset : ['#', '\n', '\r'] ⊆ ['"', '\'', '[', '#', '\n', '\r', '\uFEFF'] := by decide
    have hend : ∀ d ∈ ['#', '\n', '\r'], k ≠ d := fun d hd => hnone d (hsubset hd)
    obtain ⟨t, hfirst⟩ : ∃ t, (setting key value).chars ++ rest = k :: t := ⟨_, by rw [chars, hkey]; rfl⟩
    rw [hfirst, finish?_cons hblank hend, ← hfirst, statement?_setting h]
    cases turn p (setting key value) <;> rfl

end Line

open Line

/-- A line has no byte order mark before it, and it is not empty. -/
theorem Line.IsPlain.exists_eq_cons {l : Line} (h : l.IsPlain) : ∃ c cs, l.chars = c :: cs ∧ c ≠ '\uFEFF' := by
  cases l with
  | blank => exact ⟨_, _, rfl, by decide⟩
  | header key => exact ⟨_, _, rfl, by decide⟩
  | setting key value =>
    obtain ⟨k, ks, hkey, hk⟩ := IsBareKey.exists_eq_cons h
    exact ⟨k, _, by rw [chars, hkey]; rfl, (ne_of_isBare hk).2 _ (by decide)⟩

theorem length_le_flatMap_chars {ls : List Line} (h : ∀ l ∈ ls, l.IsPlain) :
    ls.length ≤ (ls.flatMap chars).length := by
  induction ls with
  | nil => exact Nat.le_refl 0
  | cons l ls ih =>
    obtain ⟨hl, hls⟩ := List.forall_mem_cons.1 h
    obtain ⟨c, cs, hchars, -⟩ := hl.exists_eq_cons
    have hle := ih hls
    simp only [List.flatMap_cons, List.length_append, hchars, List.length_cons]
    omega

theorem Page.finish?_lines {ls : List Line} (h : ∀ l ∈ ls, l.IsPlain) (p : Page) {fuel : Nat}
    (hfuel : ls.length < fuel) :
    Page.finish? fuel p (ls.flatMap chars) = (ls.foldlM turn p).map (·.table) := by
  obtain ⟨fuel, rfl⟩ : ∃ n, fuel = n + 1 := ⟨fuel - 1, by omega⟩
  induction ls generalizing p fuel with
  | nil => rfl
  | cons l ls ih =>
    obtain ⟨hl, hls⟩ := List.forall_mem_cons.1 h
    obtain ⟨fuel, rfl⟩ : ∃ n, fuel = n + 1 := ⟨fuel - 1, by simp at hfuel; omega⟩
    rw [List.flatMap_cons, finish?_chars hl, List.foldlM_cons]
    cases turn p l with
    | none => rfl
    | some p => exact ih hls p fuel (by simpa using hfuel)

/-- A document is read as what its lines make, one after the other. -/
theorem Table.ofText?_lines {ls : List Line} (h : ∀ l ∈ ls, l.IsPlain) :
    Table.ofText? (String.ofList (ls.flatMap chars)) = (ls.foldlM turn ⟨[], []⟩).map (·.table) := by
  have hmark : ∀ cs, ls.flatMap chars ≠ '\uFEFF' :: cs := by
    intro cs heq
    cases ls with
    | nil => cases heq
    | cons l ls =>
      obtain ⟨c, t, hchars, hc⟩ := (h l List.mem_cons_self).exists_eq_cons
      rw [List.flatMap_cons, hchars] at heq
      exact hc (List.cons.inj heq).1
  unfold Table.ofText?
  rw [String.toList_ofList]
  split
  · rename_i heq
    exact absurd heq (hmark _)
  · exact Page.finish?_lines h _ (Nat.lt_succ_of_le (length_le_flatMap_chars h))

/-! ### Sections -/

/-- The lines of the table `name` with its header, where some of the keys have a value. -/
def sectionLines (name : String) (fields : List (String × Option String)) : List Line :=
  .header name :: fields.filterMap fun field => field.2.map (.setting field.1)

/-- The table that has the keys of `fields` which have a value. -/
def presentFields (fields : List (String × Option String)) : Table :=
  fields.filterMap fun field => field.2.map fun value => (field.1, .text value)

namespace Table

variable {t : Table} {key name : String} {v w : Value} {fields : List (String × Option String)}

theorem find?_nil (key : String) : find? [] key = none := rfl

theorem find?_cons (e : String × Value) (t : Table) (key : String) :
    find? (e :: t) key = if e.1 = key then some e.2 else t.find? key := by
  unfold find?
  rw [List.lookup_cons]
  by_cases h : e.1 = key
  · simp [h]
  · simp [h, beq_eq_false_iff_ne.2 (Ne.symm h)]

theorem find?_append (t more : Table) (key : String) :
    find? (t ++ more) key = (t.find? key).or (find? more key) := List.lookup_append

theorem put_append (h : t.find? key = none) (more : Table) : put key v (t ++ more) = t ++ put key v more := by
  induction t with
  | nil => rfl
  | cons e t ih =>
    rw [find?_cons] at h
    split_ifs at h with hkey
    rw [List.cons_append, put, if_neg hkey, ih h]
    rfl

theorem put_eq_append (h : t.find? key = none) : t.put key v = t ++ [(key, v)] := by
  simpa [put] using put_append (v := v) h []

/-- A header begins a table that is not there yet, under `key`. -/
theorem begin_eq_some (h : t.find? key = none) : t.begin [key] = some (t ++ [(key, .table .headed [])]) := by
  simp [begin, parts, alter, h, put_eq_append h]

/-- A setting is added at the end of the last table by `define`. -/
theorem define_eq_some {before entries : Table} (hname : before.find? name = none) (h : entries.find? key = none) :
    define [name] [key] v (before ++ [(name, .table .headed entries)]) =
      some (before ++ [(name, .table .headed (entries ++ [(key, v)]))]) := by
  have hfind : find? (before ++ [(name, .table .headed entries)]) name = some (.table .headed entries) := by
    rw [find?_append, hname, find?_cons, if_pos rfl]
    rfl
  simp [define, parts, alter, Step.key, Step.mayEnter, hfind, h, put_eq_append h, put_append hname, put]

/-- The settings of a section are added to its table, one after the other. -/
theorem foldlM_settings {before entries : Table} (hname : before.find? name = none)
    (hentries : ∀ field ∈ fields, entries.find? field.1 = none) (hfields : (fields.map (·.1)).Nodup) :
    (fields.filterMap fun field => field.2.map (Line.setting field.1)).foldlM turn
        ⟨before ++ [(name, .table .headed entries)], [name]⟩ =
      some ⟨before ++ [(name, .table .headed (entries ++ presentFields fields))], [name]⟩ := by
  induction fields generalizing entries with
  | nil => simp [presentFields]
  | cons field fields ih =>
    obtain ⟨key, value⟩ := field
    obtain ⟨hentry, hothers⟩ := List.forall_mem_cons.1 hentries
    obtain ⟨hkey, hnodup⟩ := List.nodup_cons.1 hfields
    cases value with
    | none => exact ih hothers hnodup
    | some value =>
      have hmore : ∀ field ∈ fields, find? (entries ++ [(key, .text value)]) field.1 = none := fun field hmem => by
        have hne : key ≠ field.1 := fun heq => hkey (List.mem_map.2 ⟨field, hmem, heq.symm⟩)
        rw [find?_append, hothers field hmem, find?_cons, if_neg hne]
        rfl
      have hturn : turn ⟨before ++ [(name, .table .headed entries)], [name]⟩ (.setting key value) =
          some ⟨before ++ [(name, .table .headed (entries ++ [(key, .text value)]))], [name]⟩ := by
        simp [turn, define_eq_some hname hentry]
      have hall := ih hmore hnodup
      rw [List.append_assoc] at hall
      show (Line.setting key value :: _).foldlM turn _ = _
      rw [List.foldlM_cons, hturn]
      exact hall

/-- A section is added as a table to what is there. -/
theorem foldlM_sectionLines {p : Page} (hname : p.table.find? name = none) (hfields : (fields.map (·.1)).Nodup) :
    (sectionLines name fields).foldlM turn p =
      some ⟨p.table ++ [(name, .table .headed (presentFields fields))], [name]⟩ := by
  have hheader : turn p (.header name) = some ⟨p.table ++ [(name, .table .headed [])], [name]⟩ := by
    simp [turn, begin_eq_some hname]
  rw [sectionLines, List.foldlM_cons, hheader]
  exact foldlM_settings hname (fun _ _ => rfl) hfields

theorem presentFields_cons (field : String × Option String) (fields : List (String × Option String)) :
    presentFields (field :: fields) =
      (field.2.map fun value => (field.1, Value.text value)).toList ++ presentFields fields := by
  obtain ⟨key, value⟩ := field
  cases value <;> rfl

theorem find?_presentFields_of_not_mem (h : key ∉ fields.map (·.1)) : (presentFields fields).find? key = none := by
  induction fields with
  | nil => rfl
  | cons field fields ih =>
    obtain ⟨hne, hmem⟩ := List.ne_and_not_mem_of_not_mem_cons h
    rw [presentFields_cons, find?_append, ih hmem]
    cases field.2 <;> simp [find?_cons, find?_nil, Ne.symm hne]

theorem find?_presentFields (hfields : (fields.map (·.1)).Nodup) {field : String × Option String}
    (h : field ∈ fields) : (presentFields fields).find? field.1 = field.2.map .text := by
  induction fields with
  | nil => cases h
  | cons first fields ih =>
    obtain ⟨hkey, hnodup⟩ := List.nodup_cons.1 hfields
    rw [presentFields_cons, find?_append]
    obtain rfl | hmem := List.mem_cons.1 h
    · rw [find?_presentFields_of_not_mem hkey]
      cases field.2 <;> simp [find?_cons, find?_nil]
    · have hne : first.1 ≠ field.1 := fun heq => hkey (List.mem_map.2 ⟨field, hmem, heq.symm⟩)
      rw [ih hnodup hmem]
      cases first.2 <;> simp [find?_cons, find?_nil, hne]

theorem entriesInRange_presentFields (fields : List (String × Option String)) :
    entriesInRange (presentFields fields) = true := by
  induction fields with
  | nil => rfl
  | cons field fields ih =>
    obtain ⟨key, value⟩ := field
    cases value <;> exact ih

end Table

end JmapClient.Toml

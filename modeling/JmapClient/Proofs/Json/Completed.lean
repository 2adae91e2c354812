import JmapClient.Proofs.Json.Faithful

/-!
# Documents made complete

A document may leave out fields that have a default, have members that are no fields, and give records as
arrays. It is complete when every record in it is an object of exactly its fields (`completeRecord`). If data
can be read from a document, it can be completed, and what is written of the data is the complete document
(`Retold`): so it is for maps of such data (`Retold.map`), and for records whose fields are such data
(`Retold.of_record`), which `<$>` and `<*>` keep.
-/

namespace JmapClient

open Json Json.Record

/-! ### Complete documents -/

/-- A document as it is, if it has no fault (`Draft.tree?`). -/
def kept (d : Draft) : Option Tree := d.tree?.toOption

/-- A member whose value is made `complete`. -/
def completeMember (complete : Draft → Option Tree) (m : Except Fault String × Draft) :
    Option (String × Tree) := do
  let k ← m.1.toOption
  let t ← complete m.2
  return (k, t)

/-- An object each of whose values is made `complete`. -/
def completeMap (complete : Draft → Option Tree) : Draft → Option Tree
  | .object _ members _ => (members.mapM (completeMember complete)).map .object
  | _ => none

/-- A field of a record in a complete document. -/
structure Part where
  name : String
  /-- What stands for the field where it is not there. -/
  absent : Option Tree
  complete : Draft → Option Tree

/-- The member of a field, made of the value that is given for it. -/
def Part.member (p : Part) (given : Option Draft) : Option (String × Tree) :=
  (given.elim p.absent p.complete).map (p.name, ·)

/-- The members of fields whose values are the items of an array. -/
def completeRow : List Part → List Draft → Option (List (String × Tree))
  | [], _ => some []
  | p :: ps, ds => do
    let m ← p.member ds.head?
    let ms ← completeRow ps ds.tail
    return m :: ms

/-- An object with exactly the fields of a record. -/
def completeRecord (parts : List Part) : Draft → Option Tree
  | .object _ members _ => (parts.mapM fun p : Part => p.member (member? members p.name)).map .object
  | .array _ items _ => (completeRow parts items).map .object
  | _ => none

theorem completeRow_append {ps qs : List Part} {ds : List Draft} {ms ns : List (String × Tree)}
    (hps : completeRow ps ds = some ms) (hqs : completeRow qs (ds.drop ps.length) = some ns) :
    completeRow (ps ++ qs) ds = some (ms ++ ns) := by
  induction ps generalizing ds ms with
  | nil =>
    obtain rfl := Option.some.inj hps
    exact hqs
  | cons p ps ih =>
    simp only [completeRow, Option.bind_eq_bind, Option.bind_eq_some_iff, Option.pure_def,
      Option.some.injEq] at hps
    obtain ⟨m, hm, ms, hms, rfl⟩ := hps
    rw [List.length_cons, ← List.drop_tail] at hqs
    rw [List.cons_append, completeRow, hm, ih hms hqs]
    rfl

/-! ### Data -/

/-- Whatever data are read from can be made `complete`, and is then what is written of the data. -/
def Retold (α : Type) [Readable α] [Writable α] (complete : Draft → Option Tree) : Prop :=
  ∀ (d : Draft) (a : α), read d = .ok a →
    ∃ u, complete d = some u ∧ ∀ t, write a = .ok t → u.normalize = t.normalize

theorem retold_value : Retold Value kept := by
  intro d v h
  obtain ⟨u, hu, rfl⟩ := map_eq_ok_iff.1 h
  refine ⟨u, by rw [kept, ofFault_eq_ok_iff.1 hu]; rfl, fun t ht => ?_⟩
  obtain rfl := Except.ok.inj ht
  exact (Tree.normalize_eq_self u.canonical_normalize).symm

theorem retold_string : Retold String kept := by
  intro d s h
  cases d with
  | string s' =>
    refine ⟨.string s', rfl, fun t ht => ?_⟩
    obtain rfl := Except.ok.inj h
    obtain rfl := Except.ok.inj ht
    rfl
  | null | bool _ | number _ | bad _ _ | array _ _ _ | object _ _ _ => cases h

theorem retold_bool : Retold Bool kept := by
  intro d b h
  cases d with
  | bool b' =>
    refine ⟨.bool b', rfl, fun t ht => ?_⟩
    obtain rfl := Except.ok.inj h
    obtain rfl := Except.ok.inj ht
    rfl
  | null | string _ | number _ | bad _ _ | array _ _ _ | object _ _ _ => cases h

theorem retold_id : Retold Id kept := by
  intro d id h
  obtain ⟨s, hs, rfl⟩ := map_eq_ok_iff.1 h
  obtain ⟨u, hu, hwritten⟩ := retold_string d s hs
  refine ⟨u, hu, fun t ht => hwritten t ?_⟩
  obtain ⟨s', hs', rfl⟩ := map_eq_ok_iff.1 ht
  rw [(Id.writtenText_eq_ok_iff.1 hs').2.symm]
  rfl

section Maps

variable {κ α : Type} [TextKey κ] [Readable α] [Writable α] {complete : Draft → Option Tree}

theorem Retold.exists_completeMembers (h : Retold α complete) {members : List (Except Fault String × Draft)}
    {es : List (κ × α)} (hes : readEntries members = .ok es) :
    ∃ us, members.mapM (completeMember complete) = some us ∧
      List.Forall₂ (SameKeys fun (a : α) u => ∀ t, write a = .ok t → u.normalize = t.normalize) es us := by
  rw [readEntries_eq_ok_iff] at hes
  simp only [mapM_eq_some_iff]
  induction hes with
  | nil => exact ⟨[], .nil, .nil⟩
  | @cons m e members es hme _ ih =>
    obtain ⟨us, hus, hsame⟩ := ih
    obtain ⟨u, hu, hwritten⟩ := h _ _ hme.2
    refine ⟨(TextKey.text e.1, u) :: us, .cons ?_ hus, .cons ⟨rfl, hwritten⟩ hsame⟩
    rw [completeMember, hme.1, hu]
    rfl

/-- A map is completed value by value. Of the values that are given for a key the last one is written. -/
theorem Retold.map [WritableKey κ] {keyIds : κ → List Id} (hkey : FaithfulKey κ keyIds)
    (h : Retold α complete) : Retold (SortedMap κ α) (completeMap complete) := by
  intro d m hm
  cases d with
  | object deep members cut =>
    cases deep with
    | true => cases hm
    | false =>
      obtain ⟨es, hes, hm⟩ := bind_eq_ok_iff.1 hm
      obtain rfl : SortedMap.ofList es = m := by
        cases cut with
        | none => exact Except.ok.inj hm
        | some c => cases hm
      obtain ⟨us, hus, hsame⟩ := h.exists_completeMembers hes
      refine ⟨.object us, by rw [completeMap, hus, Option.map_some], fun t ht => ?_⟩
      obtain ⟨ts, hts, rfl⟩ := map_eq_ok_iff.1 ht
      have hnormal : List.Forall₂ (SameKeys fun (a : α) u => ∀ t, write a = .ok t → u = t.normalize) es
          (us.map fun m => (m.1, m.2.normalize)) := by
        rw [List.forall₂_map_right_iff]
        exact hsame
      have heq : List.Forall₂ (· = ·) (ts.map fun m => (m.1, m.2.normalize))
          (sortEntries (us.map fun m => (m.1, m.2.normalize))) := by
        rw [List.forall₂_map_left_iff]
        refine forall₂_trans ?_ (writeEntries_forall₂ hkey hts) (SameKeys.sortEntries hnormal)
        rintro t e u ⟨hname, hwritten⟩ ⟨hkey, hvalue⟩
        exact Prod.ext (hname.trans hkey) (hvalue _ hwritten).symm
      rw [List.forall₂_eq_eq_eq] at heq
      rw [normalize_writeEntries hkey hts, Tree.normalize, normalizeMembers_eq_map, heq]
  | null | bool _ | string _ | number _ | bad _ _ | array _ _ _ => cases hm

end Maps

/-! ### Records -/

/-- What is made of the parts of a record, `ms`, is what is written of the data. -/
def Agrees (ms : List (String × Tree)) (written : Parts) : Prop :=
  ∀ mss, written.mapM id = .ok mss → Tree.normalizeMembers ms = Tree.normalizeMembers mss.flatten

/-- Whatever a record is read from, in an object or in an array, its parts can be completed, and agree with
what is written of the record. `W` tells what that is. -/
structure Retells {α : Type} (r : Record α) (parts : List Part) (W : α → Parts → Prop) : Prop where
  of_members : ∀ view a, r.ofMembers view = .ok a →
    ∃ ms written, parts.mapM (fun p => p.member (view p.name)) = some ms ∧ W a written ∧ Agrees ms written
  of_row : ∀ what row a rest, r.ofRow what row = .ok (a, rest) →
    rest.items = row.items.drop parts.length ∧
      ∃ ms written, completeRow parts row.items = some ms ∧ W a written ∧ Agrees ms written

theorem Agrees.append {ms ns : List (String × Tree)} {written written' : Parts} (h : Agrees ms written)
    (h' : Agrees ns written') : Agrees (ms ++ ns) (written ++ written') := by
  intro mss hmss
  rw [List.mapM_append] at hmss
  obtain ⟨mss₁, hmss₁, hmss⟩ := bind_eq_ok_iff.1 hmss
  obtain ⟨mss₂, hmss₂, hmss⟩ := bind_eq_ok_iff.1 hmss
  obtain rfl := Except.ok.inj hmss
  have h₁ := h mss₁ hmss₁
  have h₂ := h' mss₂ hmss₂
  simp only [normalizeMembers_eq_map] at h₁ h₂ ⊢
  rw [List.map_append, h₁, h₂, List.flatten_append, List.map_append]

namespace Retells

variable {α β : Type} {W : α → Parts → Prop} {V : β → Parts → Prop} {ps qs : List Part}

theorem map {r : Record α} (h : Retells r ps W) {f : α → β}
    (hf : ∀ a written, W a written → V (f a) written) : Retells (f <$> r) ps V where
  of_members view b hb := by
    obtain ⟨a, ha, rfl⟩ := ofMembers_map_eq_ok_iff.1 hb
    obtain ⟨ms, written, hms, hW, hagrees⟩ := h.of_members view a ha
    exact ⟨ms, written, hms, hf a written hW, hagrees⟩
  of_row what row b rest hb := by
    obtain ⟨a, ha, rfl⟩ := ofRow_map_eq_ok_iff.1 hb
    obtain ⟨hrest, ms, written, hms, hW, hagrees⟩ := h.of_row what row a rest ha
    exact ⟨hrest, ms, written, hms, hf a written hW, hagrees⟩

theorem seq {r : Record (α → β)} {s : Record α}
    (hr : Retells r ps fun f written => ∀ a written', W a written' → V (f a) (written ++ written'))
    (hs : Retells s qs W) : Retells (r <*> s) (ps ++ qs) V where
  of_members view b hb := by
    obtain ⟨f, a, hf, ha, rfl⟩ := ofMembers_seq_eq_ok_iff.1 hb
    obtain ⟨ms, written, hms, hV, hagrees⟩ := hr.of_members view f hf
    obtain ⟨ns, written', hns, hW, hagrees'⟩ := hs.of_members view a ha
    refine ⟨ms ++ ns, written ++ written', ?_, hV a written' hW, hagrees.append hagrees'⟩
    rw [mapM_eq_some_iff] at hms hns ⊢
    exact List.rel_append hms hns
  of_row what row b rest hb := by
    obtain ⟨f, a, middle, hf, ha, rfl⟩ := ofRow_seq_eq_ok_iff.1 hb
    obtain ⟨hmiddle, ms, written, hms, hV, hagrees⟩ := hr.of_row what row f middle hf
    obtain ⟨hrest, ns, written', hns, hW, hagrees'⟩ := hs.of_row what middle a rest ha
    rw [hmiddle] at hns hrest
    refine ⟨?_, ms ++ ns, written ++ written', completeRow_append hms hns, hV a written' hW,
      hagrees.append hagrees'⟩
    rw [hrest, List.drop_drop, List.length_append]

section Fields

variable [Writable α]

theorem agrees_member {name : String} {a : α} {u : Tree}
    (h : ∀ t, write a = .ok t → u.normalize = t.normalize) : Agrees [(name, u)] [member name a] := by
  intro mss hmss
  simp only [member, List.mapM_cons, id, bind_eq_ok_iff, pure_eq_ok, Except.ok.injEq] at hmss
  obtain ⟨_, ⟨t, ht, rfl⟩, _, hnil, rfl⟩ := hmss
  obtain rfl := Except.ok.inj hnil
  simp [normalizeMembers_eq_map, h t ht]

variable [Readable α] {complete : Draft → Option Tree}

/-- A field stands in a complete document even where it is not there. -/
theorem of_field (h : Retold α complete) (name : String) {absence : Absence α} {absent : Option Tree}
    (hmembers : ∀ a, absence.fromMembers = .ok a → ∃ t, absent = some t ∧ write a = .ok t)
    (hrow : ∀ what n a, absence.fromRow what n = .ok a → ∃ t, absent = some t ∧ write a = .ok t) :
    Retells (field name absence) [⟨name, absent, complete⟩] fun a written => written = [member name a] := by
  let p : Part := ⟨name, absent, complete⟩
  have hgiven {d : Draft} {a : α} (hd : read d = .ok a) :
      ∃ m, p.member (some d) = some m ∧ Agrees [m] [member name a] := by
    obtain ⟨u, hu, hwritten⟩ := h d a hd
    exact ⟨(name, u), by simp [p, Part.member, hu], agrees_member hwritten⟩
  have habsent {a : α} (ha : ∃ t, absent = some t ∧ write a = .ok t) :
      ∃ m, p.member none = some m ∧ Agrees [m] [member name a] := by
    obtain ⟨t, rfl, ht⟩ := ha
    refine ⟨(name, t), rfl, agrees_member fun t' ht' => ?_⟩
    rw [Except.ok.inj (ht.symm.trans ht')]
  constructor
  · intro view a ha
    obtain ⟨m, hm, hagrees⟩ : ∃ m, p.member (view name) = some m ∧ Agrees [m] [member name a] := by
      rcases ofMembers_field_eq_ok_iff.1 ha with ⟨hnone, ha⟩ | ⟨d, hd, ha⟩
      · rw [hnone]
        exact habsent (hmembers a ha)
      · rw [hd]
        exact hgiven ha
    exact ⟨[m], _, mapM_eq_some_iff.2 (.cons hm .nil), rfl, hagrees⟩
  · intro what row a rest ha
    obtain ⟨m, hm, hagrees, hrest⟩ : ∃ m, p.member row.items.head? = some m ∧ Agrees [m] [member name a] ∧
        rest.items = row.items.tail := by
      rcases ofRow_field_eq_ok_iff.1 ha with ⟨hitems, -, hnone, rfl⟩ | ⟨d, ds, hitems, hread, rfl⟩
      · obtain ⟨m, hm, hagrees⟩ := habsent (hrow what row.index a hnone)
        exact ⟨m, by rw [hitems]; exact hm, hagrees, by simp [hitems]⟩
      · obtain ⟨m, hm, hagrees⟩ := hgiven hread
        exact ⟨m, by rw [hitems]; exact hm, hagrees, by simp [hitems]⟩
    refine ⟨by rw [hrest]; exact List.drop_one.symm, [m], _, ?_, rfl, hagrees⟩
    rw [completeRow, hm]
    rfl

theorem of_required (h : Retold α complete) (name : String) :
    Retells (required name) [⟨name, none, complete⟩] fun (a : α) written => written = [member name a] :=
  of_field h name (fun _ ha => nomatch ha) fun _ _ _ ha => nomatch ha

theorem of_defaulted (h : Retold α complete) (name : String) {a₀ : α} {t₀ : Tree} (ht₀ : write a₀ = .ok t₀) :
    Retells (defaulted name a₀) [⟨name, some t₀, complete⟩] fun a written => written = [member name a] := by
  refine of_field h name (fun a ha => ⟨t₀, rfl, ?_⟩) fun _ _ a ha => ⟨t₀, rfl, ?_⟩
  · obtain rfl := Except.ok.inj ha
    exact ht₀
  · obtain rfl := Except.ok.inj ha
    exact ht₀

end Fields

end Retells

/-- What is written of a record is the complete document that it was read from. -/
theorem Retold.of_record {α : Type} [Readable α] [Writable α] {what : String} {r : Record α}
    {parts : List Part} {written : α → Parts} (hread : ∀ d, (read d : Except Problem α) = r.read what d)
    (hwrite : ∀ a : α, write a = writeRecord (written a))
    (h : Retells r parts fun a ws => ws = written a) : Retold α (completeRecord parts) := by
  intro d a ha
  rw [hread] at ha
  obtain ⟨ms, hms, hagrees⟩ : ∃ ms, completeRecord parts d = some (.object ms) ∧ Agrees ms (written a) := by
    cases d with
    | object deep members cut =>
      cases deep with
      | true => cases ha
      | false =>
        obtain ⟨-, -, ha⟩ := bind_eq_ok_iff.1 ha
        obtain ⟨-, -, ha⟩ := bind_eq_ok_iff.1 ha
        obtain ⟨ms, _, hms, rfl, hagrees⟩ := h.of_members _ a ha
        exact ⟨ms, by rw [completeRecord, hms, Option.map_some], hagrees⟩
    | array deep items cut =>
      cases deep with
      | true => cases ha
      | false =>
        obtain ⟨-, row, hrow, -⟩ := readRow_eq_ok_iff.1 ha
        obtain ⟨-, ms, _, hms, rfl, hagrees⟩ := h.of_row _ _ a row hrow
        exact ⟨ms, by rw [completeRecord, hms, Option.map_some], hagrees⟩
    | null | bool _ | string _ | number _ | bad _ _ => cases ha
  refine ⟨_, hms, fun t ht => ?_⟩
  rw [hwrite] at ht
  obtain ⟨mss, hmss, ht⟩ := bind_eq_ok_iff.1 ht
  obtain rfl := Except.ok.inj ht
  rw [Tree.normalize, Tree.normalize, hagrees mss hmss]

end JmapClient

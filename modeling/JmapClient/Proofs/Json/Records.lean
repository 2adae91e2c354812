import JmapClient.Proofs.Json.Drafts

/-!
# Records in well-formed documents

A record of fields is read from an object without faults if and only if no field is given twice and the
fields can be read from the members (`Record.Lawful.read_object_draft_eq_ok_iff`). That what is tested of a
member is implied by what is read of it is the law of such records (`Record.Lawful`), which `field`, `<$>`
and `<*>` keep.
-/

namespace JmapClient.Json.Record

variable {α : Type}

/-- The value of a field in an object is that of the first member with its `name`. -/
theorem member?_memberDrafts (ms : List (String × Tree)) (name : String) :
    member? (Tree.memberDrafts ms) name = (ms.lookup name).map Tree.draft := by
  induction ms with
  | nil => rfl
  | cons m ms ih =>
    obtain ⟨k, t⟩ := m
    unfold member? at ih ⊢
    rw [Tree.memberDrafts, List.find?_cons, List.lookup_cons, BEq.comm (a := name)]
    cases hk : k == name with
    | true => simp only [hk, Option.map_some]
    | false =>
      simp only [hk]
      exact ih

theorem pass_draft (t : Tree) : pass t.draft = .ok () := by
  simp [pass, Tree.skipFault_draft]

/-- What becomes of a member: a field is tested, any other member goes to `other`. -/
def check (fields : List (String × (Draft → Except Problem Unit)))
    (other : Draft → Except Problem Unit) (m : String × Tree) : Except Problem Unit :=
  match fields.find? (·.1 == m.1) with
  | some f => f.2 m.2.draft
  | none => other m.2.draft

/-- The names of members that are among `names`, in the order of the members. -/
def given (names : List String) (ms : List (String × Tree)) : List String :=
  (ms.map (·.1)).filter (· ∈ names)

/-- The names of the fields. -/
def names (r : Record α) : List String := r.fields.map (·.1)

theorem checkMembers_eq_ok_iff {fields : List (String × (Draft → Except Problem Unit))}
    {other : Draft → Except Problem Unit} {seen : List String} {ms : List (String × Tree)} :
    checkMembers fields other seen (Tree.memberDrafts ms) = .ok () ↔
      (given (fields.map (·.1)) ms).Nodup ∧ (∀ name ∈ given (fields.map (·.1)) ms, name ∉ seen) ∧
        ∀ m ∈ ms, check fields other m = .ok () := by
  induction ms generalizing seen with
  | nil => simp [Tree.memberDrafts, checkMembers, given]
  | cons m ms ih =>
    obtain ⟨k, t⟩ := m
    rw [Tree.memberDrafts, checkMembers]
    cases hf : fields.find? (·.1 == k) with
    | none =>
      have hk : k ∉ fields.map (·.1) := by
        rintro hmem
        obtain ⟨f, hf', rfl⟩ := List.mem_map.1 hmem
        simpa using List.find?_eq_none.1 hf f hf'
      have hgiven : given (fields.map (·.1)) ((k, t) :: ms) = given (fields.map (·.1)) ms := by
        simp only [given, List.map_cons, List.filter_cons]
        rw [if_neg (by simpa using hk)]
      have hcheck : check fields other (k, t) = other t.draft := by
        simp only [check, hf]
      rw [hgiven, List.forall_mem_cons, hcheck, andThen_eq_ok_iff, ih]
      constructor
      · rintro ⟨ht, h₁, h₂, h₃⟩
        exact ⟨h₁, h₂, ht, h₃⟩
      · rintro ⟨h₁, h₂, ht, h₃⟩
        exact ⟨ht, h₁, h₂, h₃⟩
    | some f =>
      have hk : k ∈ fields.map (·.1) :=
        List.mem_map.2 ⟨f, List.mem_of_find?_eq_some hf, by simpa using List.find?_some hf⟩
      have hgiven : given (fields.map (·.1)) ((k, t) :: ms) =
          k :: given (fields.map (·.1)) ms := by
        simp only [given, List.map_cons, List.filter_cons]
        rw [if_pos (by simpa using hk)]
      have hcheck : check fields other (k, t) = f.2 t.draft := by
        simp only [check, hf]
      rw [hgiven, List.nodup_cons, List.forall_mem_cons, List.forall_mem_cons, hcheck]
      by_cases hseen : k ∈ seen
      · simp [hseen]
      · have hcontains : seen.contains k = false := by simpa using hseen
        simp only [hcontains, Bool.false_eq_true, if_false]
        rw [andThen_eq_ok_iff, ih]
        constructor
        · rintro ⟨ht, h₁, h₂, h₃⟩
          have hnew : k ∉ given (fields.map (·.1)) ms := fun hmem => h₂ k hmem (by simp)
          exact ⟨⟨hnew, h₁⟩, ⟨hseen, fun n hn hs => h₂ n hn (by simp [hs])⟩, ht, h₃⟩
        · rintro ⟨⟨hnew, h₁⟩, ⟨-, h₂⟩, ht, h₃⟩
          refine ⟨ht, h₁, fun n hn hs => ?_, h₃⟩
          rcases List.mem_cons.1 hs with rfl | hs
          · exact hnew hn
          · exact h₂ n hn hs

/-- The members `ms` of an object as the readers of the fields see them. -/
def view (ms : List (String × Tree)) (name : String) : Option Draft := (ms.lookup name).map Tree.draft

theorem read_object_draft_eq_ok_iff {r : Record α} {what : String} {ms : List (String × Tree)}
    {a : α} :
    r.read what (Tree.object ms).draft = .ok a ↔
      (given r.names ms).Nodup ∧ (∀ m ∈ ms, check r.fields pass m = .ok ()) ∧
        r.ofMembers (view ms) = .ok a := by
  have hview : member? (Tree.memberDrafts ms) = view ms := funext (member?_memberDrafts ms)
  have hread : r.read what (Tree.object ms).draft =
      checkMembers r.fields pass [] (Tree.memberDrafts ms) >>= fun _ =>
        ofFault (Cut.stop none ()) >>= fun _ => r.ofMembers (member? (Tree.memberDrafts ms)) := rfl
  rw [hread, hview, andThen_eq_ok_iff, checkMembers_eq_ok_iff]
  simp [Cut.stop, ofFault, and_assoc, names]

/-! ### Fields -/

/-- Where a record is read, every field that is there passes its test in `r`. -/
def Lawful (r : Record α) : Prop :=
  ∀ view a, r.ofMembers view = .ok a → ∀ f ∈ r.fields, ∀ d, view f.1 = some d → f.2 d = .ok ()

section Combined

variable {β : Type} {view : String → Option Draft}

@[simp]
theorem names_map (f : α → β) (r : Record α) : (f <$> r).names = r.names := rfl

@[simp]
theorem names_seq (r : Record (α → β)) (s : Record α) : (r <*> s).names = r.names ++ s.names :=
  List.map_append

theorem ofMembers_map_eq_ok_iff {f : α → β} {r : Record α} {b : β} :
    (f <$> r).ofMembers view = .ok b ↔ ∃ a, r.ofMembers view = .ok a ∧ f a = b :=
  map_eq_ok_iff

theorem ofMembers_seq_eq_ok_iff {r : Record (α → β)} {s : Record α} {b : β} :
    (r <*> s).ofMembers view = .ok b ↔
      ∃ f a, r.ofMembers view = .ok f ∧ s.ofMembers view = .ok a ∧ f a = b := by
  have hseq : (r <*> s).ofMembers view =
      r.ofMembers view >>= fun f => s.ofMembers view >>= fun a => pure (f a) := rfl
  simp [hseq, bind_eq_ok_iff]

theorem Lawful.map {r : Record α} (h : r.Lawful) (f : α → β) : (f <$> r).Lawful := by
  intro view b hb
  obtain ⟨a, ha, -⟩ := ofMembers_map_eq_ok_iff.1 hb
  exact h view a ha

theorem Lawful.seq {r : Record (α → β)} {s : Record α} (hr : r.Lawful) (hs : s.Lawful) :
    (r <*> s).Lawful := by
  intro view b hb f hf
  obtain ⟨g, a, hg, ha, -⟩ := ofMembers_seq_eq_ok_iff.1 hb
  rcases List.mem_append.1 hf with hf | hf
  · exact hr view g hg f hf
  · exact hs view a ha f hf

end Combined

section Single

variable [Readable α] {name : String} {view : String → Option Draft} {a : α}

theorem valueOf_eq_ok_iff {s : Segment} {d : Draft} :
    valueOf s d = .ok a ↔ Readable.read d = .ok a := by
  unfold valueOf
  cases (Readable.read d : Except Problem α) <;> simp

@[simp]
theorem names_field (name : String) (absence : Absence α) : (field name absence).names = [name] := rfl

theorem ofMembers_field_eq_ok_iff {absence : Absence α} :
    (field name absence).ofMembers view = .ok a ↔
      (view name = none ∧ absence.fromMembers = .ok a) ∨
        ∃ d, view name = some d ∧ Readable.read d = .ok a := by
  unfold field
  cases h : view name <;> simp [h, valueOf_eq_ok_iff]

theorem ofMembers_required_eq_ok_iff :
    (required name).ofMembers view = .ok a ↔ ∃ d, view name = some d ∧ Readable.read d = .ok a := by
  simp [required, ofMembers_field_eq_ok_iff]

theorem ofMembers_defaulted_eq_ok_iff {a₀ : α} :
    (defaulted name a₀).ofMembers view = .ok a ↔
      (view name = none ∧ a₀ = a) ∨ ∃ d, view name = some d ∧ Readable.read d = .ok a := by
  simp [defaulted, ofMembers_field_eq_ok_iff]

theorem lawful_field (name : String) (absence : Absence α) : (field name absence).Lawful := by
  intro view a h f hf d hd
  obtain rfl := List.mem_singleton.1 hf
  rcases ofMembers_field_eq_ok_iff.1 h with ⟨hn, -⟩ | ⟨d', hd', ha⟩
  · simp only [hn] at hd
    cases hd
  · simp only [hd', Option.some.injEq] at hd
    obtain rfl := hd
    simp [valueOf_eq_ok_iff.2 ha]

end Single

theorem lookup_eq_some_of_nodup {names : List String} {ms : List (String × Tree)} {k : String}
    {t : Tree} (h : (given names ms).Nodup) (hk : k ∈ names) (hm : (k, t) ∈ ms) :
    ms.lookup k = some t := by
  induction ms with
  | nil => cases hm
  | cons m ms ih =>
    obtain ⟨k', t'⟩ := m
    rw [List.lookup_cons]
    by_cases hkk : k = k'
    · subst hkk
      rw [beq_self_eq_true]
      rcases List.mem_cons.1 hm with heq | hm
      · simp only [Prod.mk.injEq, true_and] at heq
        rw [heq]
      · -- The name cannot come again.
        have hagain : k ∈ given names ms := by
          simp only [given, List.mem_filter, List.mem_map]
          exact ⟨⟨_, hm, rfl⟩, by simpa using hk⟩
        have hcons : given names ((k, t') :: ms) = k :: given names ms := by
          simp [given, hk]
        rw [hcons, List.nodup_cons] at h
        exact absurd hagain h.1
    · have hm : (k, t) ∈ ms := by
        rcases List.mem_cons.1 hm with heq | hm
        · exact absurd (congrArg Prod.fst heq) hkk
        · exact hm
      have hsub : (given names ms).Sublist (given names ((k', t') :: ms)) :=
        ((List.sublist_cons_self _ _).map _).filter _
      rw [beq_eq_false_iff_ne.2 hkk]
      exact ih (h.sublist hsub) hm

theorem Lawful.check_eq_ok {r : Record α} (h : r.Lawful) {other : Draft → Except Problem Unit}
    (hother : ∀ t : Tree, other t.draft = .ok ()) {ms : List (String × Tree)} {a : α}
    (hn : (given r.names ms).Nodup) (ha : r.ofMembers (view ms) = .ok a) :
    ∀ m ∈ ms, check r.fields other m = .ok () := by
  intro m hm
  unfold check
  cases hf : r.fields.find? (·.1 == m.1) with
  | none => exact hother _
  | some f =>
    have hmem := List.mem_of_find?_eq_some hf
    have hname : f.1 = m.1 := by
      simpa using List.find?_some (p := fun f : String × (Draft → Except Problem Unit) => f.1 == m.1) hf
    have hlookup : ms.lookup f.1 = some m.2 :=
      lookup_eq_some_of_nodup hn (List.mem_map_of_mem hmem) (hname ▸ hm)
    exact h _ a ha f hmem _ (by rw [view, hlookup, Option.map_some])

theorem Lawful.read_object_draft_eq_ok_iff {r : Record α} (h : r.Lawful) {what : String}
    {ms : List (String × Tree)} {a : α} :
    r.read what (Tree.object ms).draft = .ok a ↔
      (given r.names ms).Nodup ∧ r.ofMembers (view ms) = .ok a := by
  rw [Record.read_object_draft_eq_ok_iff]
  exact and_congr_right fun hn => and_iff_right_of_imp fun ha => h.check_eq_ok pass_draft hn ha

/-! ### Open records -/

theorem lawful_pure (a : α) : (pure a : Record α).Lawful := fun _ _ _ _ hf => nomatch hf

theorem keep_draft (t : Tree) : keep t.draft = .ok () := by
  simp [keep, Draft.tree?_draft, ofFault]

/-- The members that are not among `names`, with their values. -/
def others (names : List String) (ms : List (String × Tree)) : List (String × Value) :=
  (ms.filter (·.1 ∉ names)).map fun m => (m.1, .ofTree m.2)

/-- Whether the member `m` is kept with a record because it is none of the fields. -/
def isOther (r : Record α) (m : Except Fault String × Draft) : Bool :=
  match m.1 with
  | .ok k => !r.fields.any (·.1 == k)
  | .error _ => false

theorem readEntries_isOther (r : Record α) (ms : List (String × Tree)) :
    readEntries ((Tree.memberDrafts ms).filter r.isOther) = .ok (others r.names ms) := by
  induction ms with
  | nil => rfl
  | cons m ms ih =>
    obtain ⟨k, t⟩ := m
    have hother : r.isOther (.ok k, t.draft) = decide (k ∉ r.names) := by
      rw [Bool.eq_iff_iff, decide_eq_true_iff]
      simp only [isOther, names, Bool.not_eq_true', List.any_eq_false, beq_iff_eq, List.mem_map,
        not_exists, not_and]
    rw [Tree.memberDrafts, List.filter_cons, hother]
    by_cases hk : k ∈ r.names
    · simpa [others, hk] using ih
    · simp only [hk, not_false_eq_true, decide_true, if_true, readEntries, read_value_draft, ih]
      simp [others, hk, TextKey.ofText]

theorem Lawful.readOpen_object_draft_eq_ok_iff {r : Record α} (h : r.Lawful) {what : String}
    {ms : List (String × Tree)} {a : α} {m : SortedMap String Value} :
    OpenRecord.read what r (Tree.object ms).draft = .ok (a, m) ↔
      (given r.names ms).Nodup ∧ r.ofMembers (view ms) = .ok a ∧ .ofList (others r.names ms) = m := by
  have hview : member? (Tree.memberDrafts ms) = view ms := funext (member?_memberDrafts ms)
  have hread : OpenRecord.read what r (Tree.object ms).draft =
      checkMembers r.fields keep [] (Tree.memberDrafts ms) >>= fun _ =>
        r.ofMembers (member? (Tree.memberDrafts ms)) >>= fun a =>
          readEntries ((Tree.memberDrafts ms).filter r.isOther) >>= fun es => .ok (a, .ofList es) := rfl
  rw [hread, hview, readEntries_isOther, andThen_eq_ok_iff, checkMembers_eq_ok_iff, bind_eq_ok_iff]
  constructor
  · rintro ⟨⟨hn, -, -⟩, a', ha, heq⟩
    obtain ⟨rfl, rfl⟩ := Prod.mk.inj (Except.ok.inj heq)
    exact ⟨hn, ha, rfl⟩
  · rintro ⟨hn, ha, rfl⟩
    exact ⟨⟨hn, by simp, h.check_eq_ok keep_draft hn ha⟩, a, ha, rfl⟩

/-! ### Rows -/

section Rows

variable {β : Type} {what : String} {row row' row'' : Row}

/-- A field of a row is read from the next item, if there is one. -/
theorem ofRow_field_eq_ok_iff [Readable α] {name : String} {absence : Absence α} {a : α} :
    (field name absence).ofRow what row = .ok (a, row') ↔
      (row.items = [] ∧ row.cut = none ∧ absence.fromRow what row.index = .ok a ∧
        row' = { row with index := row.index + 1 }) ∨
      ∃ d ds, row.items = d :: ds ∧ Readable.read d = .ok a ∧
        row' = { row with index := row.index + 1, items := ds } := by
  obtain ⟨n, items, cut⟩ := row
  cases items with
  | nil =>
    have hrow : (field name absence).ofRow what ⟨n, [], cut⟩ =
        ofFault (Cut.stop cut ()) >>= fun _ => (absence.fromRow what n).map (·, ⟨n + 1, [], cut⟩) := by
      cases cut <;> rfl
    rw [hrow]
    cases cut <;> simp [Cut.stop, ofFault, map_eq_ok_iff, Prod.ext_iff, @eq_comm _ row']
  | cons d ds =>
    have hrow : (field name absence).ofRow what ⟨n, d :: ds, cut⟩ =
        (valueOf (.index n) d).map (·, ⟨n + 1, ds, cut⟩) := rfl
    simp [hrow, map_eq_ok_iff, valueOf_eq_ok_iff, Prod.ext_iff, @eq_comm _ row']

theorem ofRow_map_eq_ok_iff {f : α → β} {r : Record α} {b : β} :
    (f <$> r).ofRow what row = .ok (b, row') ↔ ∃ a, r.ofRow what row = .ok (a, row') ∧ f a = b := by
  have hmap : (f <$> r).ofRow what row = r.ofRow what row >>= fun p => .ok (f p.1, p.2) := rfl
  simp [hmap, bind_eq_ok_iff]

theorem ofRow_seq_eq_ok_iff {r : Record (α → β)} {s : Record α} {b : β} :
    (r <*> s).ofRow what row = .ok (b, row'') ↔
      ∃ f a row', r.ofRow what row = .ok (f, row') ∧ s.ofRow what row' = .ok (a, row'') ∧ f a = b := by
  have hseq : (r <*> s).ofRow what row =
      r.ofRow what row >>= fun p => s.ofRow what p.2 >>= fun q => .ok (p.1 q.1, q.2) := rfl
  simp only [hseq, bind_eq_ok_iff, Prod.exists, Except.ok.injEq, Prod.mk.injEq]
  constructor
  · rintro ⟨f, row', hf, a, _, ha, rfl, rfl⟩
    exact ⟨f, a, row', hf, ha, rfl⟩
  · rintro ⟨f, a, row', hf, ha, rfl⟩
    exact ⟨f, row', hf, a, row'', ha, rfl, rfl⟩

theorem ofRow_field [Readable α] {name : String} {absence : Absence α} {n : Nat} {d : Draft}
    {ds : List Draft} {cut : Option Cut} {a : α} (h : Readable.read d = .ok a) :
    (field name absence).ofRow what ⟨n, d :: ds, cut⟩ = .ok (a, ⟨n + 1, ds, cut⟩) :=
  ofRow_field_eq_ok_iff.2 (Or.inr ⟨d, ds, rfl, h, rfl⟩)

theorem ofRow_map {r : Record α} {a : α} (h : r.ofRow what row = .ok (a, row')) (f : α → β) :
    (f <$> r).ofRow what row = .ok (f a, row') :=
  ofRow_map_eq_ok_iff.2 ⟨a, h, rfl⟩

theorem ofRow_seq {r : Record (α → β)} {s : Record α} {f : α → β} {a : α}
    (hr : r.ofRow what row = .ok (f, row')) (hs : s.ofRow what row' = .ok (a, row'')) :
    (r <*> s).ofRow what row = .ok (f a, row'') :=
  ofRow_seq_eq_ok_iff.2 ⟨f, a, row', hr, hs, rfl⟩

/-- A record is read from an array whose items are all fields of it. -/
theorem readRow_eq_ok_iff {r : Record α} {items : List Draft} {cut : Option Cut} {a : α} :
    r.readRow what items cut = .ok a ↔
      cut = none ∧ ∃ row, r.ofRow what ⟨0, items, cut⟩ = .ok (a, row) ∧ row.items = [] := by
  have hread : r.readRow what items cut = r.ofRow what ⟨0, items, cut⟩ >>= fun p =>
      if p.2.items.isEmpty then ofFault (Cut.stop cut p.1) else .error (.here (.tooMany items.length)) := rfl
  have hend (a' : α) (row : Row) :
      (if row.items.isEmpty then ofFault (Cut.stop cut a') else .error (.here (.tooMany items.length))) =
        .ok a ↔ cut = none ∧ row.items = [] ∧ a' = a := by
    cases row.items <;> simp [ofFault_eq_ok_iff, Cut.stop_eq_ok_iff]
  simp only [hread, bind_eq_ok_iff, Prod.exists, hend]
  constructor
  · rintro ⟨a', row, hrow, hcut, hitems, rfl⟩
    exact ⟨hcut, row, hrow, hitems⟩
  · rintro ⟨hcut, row, hrow, hitems⟩
    exact ⟨a, row, hrow, hcut, hitems, rfl⟩

end Rows

end JmapClient.Json.Record

import JmapClient.SortedMap
import JmapClient.Json.Number

/-!
# JSON documents and values

A `Tree` is a document: the members of its objects keep their order and may repeat a name. A `Value` is
what a document means: a tree whose objects list each name once, in increasing order. `Tree.normalize`
takes the one to the other (of several members with one name the last counts) and leaves a value as it
is (`Tree.normalize_eq_self`).
-/

namespace JmapClient.Json

/-- A JSON document. -/
inductive Tree
  | null
  | bool (b : Bool)
  | number (n : Number)
  | string (s : String)
  | array (items : List Tree)
  | object (members : List (String × Tree))
deriving Repr, Inhabited

namespace Tree

/-! ### Normal form -/

mutual

/-- Every object in the tree lists its names in strictly increasing order. -/
def Canonical : Tree → Prop
  | .array ts => AllCanonical ts
  | .object ms => MembersCanonical ms ∧ Increasing ms
  | _ => True
termination_by structural t => t

/-- Every tree of a list is canonical. -/
def AllCanonical : List Tree → Prop
  | [] => True
  | t :: ts => t.Canonical ∧ AllCanonical ts
termination_by structural ts => ts

/-- The value of every member is canonical. -/
def MembersCanonical : List (String × Tree) → Prop
  | [] => True
  | (_, t) :: ms => t.Canonical ∧ MembersCanonical ms
termination_by structural ms => ms

end

mutual

/-- The value of a document, as a tree. -/
def normalize : Tree → Tree
  | .array ts => .array (normalizeAll ts)
  | .object ms => .object (sortEntries (normalizeMembers ms))
  | .null => .null
  | .bool b => .bool b
  | .number n => .number n
  | .string s => .string s
termination_by structural t => t

/-- Normalizes every tree of a list. -/
def normalizeAll : List Tree → List Tree
  | [] => []
  | t :: ts => t.normalize :: normalizeAll ts
termination_by structural ts => ts

/-- Normalizes the value of every member. -/
def normalizeMembers : List (String × Tree) → List (String × Tree)
  | [] => []
  | (k, t) :: ms => (k, t.normalize) :: normalizeMembers ms
termination_by structural ms => ms

end

theorem membersCanonical_iff {ms : List (String × Tree)} :
    MembersCanonical ms ↔ ∀ m ∈ ms, m.2.Canonical := by
  induction ms with
  | nil => simp [MembersCanonical]
  | cons m ms ih => simp [MembersCanonical, ih]

theorem allCanonical_iff {ts : List Tree} : AllCanonical ts ↔ ∀ t ∈ ts, t.Canonical := by
  induction ts with
  | nil => simp [AllCanonical]
  | cons t ts ih => simp [AllCanonical, ih]

theorem MembersCanonical.insertEntry {k : String} {t : Tree} {ms : List (String × Tree)}
    (ht : t.Canonical) (h : MembersCanonical ms) : MembersCanonical (insertEntry k t ms) := by
  rw [membersCanonical_iff] at h ⊢
  intro m hm
  rcases mem_insertEntry hm with rfl | hm
  · exact ht
  · exact h m hm

theorem MembersCanonical.sortEntries {ms : List (String × Tree)} (h : MembersCanonical ms) :
    MembersCanonical (sortEntries ms) := by
  have go (ms : List (String × Tree)) : ∀ acc, MembersCanonical acc → MembersCanonical ms →
      MembersCanonical (ms.foldl (fun acc e => JmapClient.insertEntry e.1 e.2 acc) acc) := by
    induction ms with
    | nil => exact fun _ h _ => h
    | cons m ms ih => exact fun acc ha hm => ih _ (ha.insertEntry hm.1) hm.2
  exact go ms [] trivial h

mutual

theorem canonical_normalize : ∀ t : Tree, t.normalize.Canonical
  | .array ts => by
    rw [normalize, Canonical]
    exact allCanonical_normalizeAll ts
  | .object ms => by
    rw [normalize, Canonical]
    exact ⟨(membersCanonical_normalizeMembers ms).sortEntries, increasing_sortEntries _⟩
  | .null => by simp [normalize, Canonical]
  | .bool _ => by simp [normalize, Canonical]
  | .number _ => by simp [normalize, Canonical]
  | .string _ => by simp [normalize, Canonical]

theorem allCanonical_normalizeAll : ∀ ts : List Tree, AllCanonical (normalizeAll ts)
  | [] => by simp [normalizeAll, AllCanonical]
  | t :: ts => by
    rw [normalizeAll, AllCanonical]
    exact ⟨canonical_normalize t, allCanonical_normalizeAll ts⟩

theorem membersCanonical_normalizeMembers :
    ∀ ms : List (String × Tree), MembersCanonical (normalizeMembers ms)
  | [] => by simp [normalizeMembers, MembersCanonical]
  | (k, t) :: ms => by
    rw [normalizeMembers, MembersCanonical]
    exact ⟨canonical_normalize t, membersCanonical_normalizeMembers ms⟩

end

mutual

/-- A value stays as it is. -/
theorem normalize_eq_self : ∀ {t : Tree}, t.Canonical → t.normalize = t
  | .array ts, h => by
    rw [Canonical] at h
    rw [normalize, normalizeAll_eq_self h]
  | .object ms, h => by
    rw [Canonical] at h
    rw [normalize, normalizeMembers_eq_self h.1, sortEntries_eq_self h.2]
  | .null, _ => by rw [normalize]
  | .bool _, _ => by rw [normalize]
  | .number _, _ => by rw [normalize]
  | .string _, _ => by rw [normalize]

theorem normalizeAll_eq_self : ∀ {ts : List Tree}, AllCanonical ts → normalizeAll ts = ts
  | [], _ => by rw [normalizeAll]
  | t :: ts, h => by
    rw [AllCanonical] at h
    rw [normalizeAll, normalize_eq_self h.1, normalizeAll_eq_self h.2]

theorem normalizeMembers_eq_self :
    ∀ {ms : List (String × Tree)}, MembersCanonical ms → normalizeMembers ms = ms
  | [], _ => by rw [normalizeMembers]
  | (k, t) :: ms, h => by
    rw [MembersCanonical] at h
    rw [normalizeMembers, normalize_eq_self h.1, normalizeMembers_eq_self h.2]

end

end Tree

/-! ### Values -/

/-- A JSON value: a document in normal form. -/
structure Value where
  tree : Tree
  canonical : tree.Canonical

namespace Value

/-- Values with the same tree are equal. -/
theorem ext {v w : Value} (h : v.tree = w.tree) : v = w := by
  cases v; cases w; cases h; rfl

instance : Inhabited Value := ⟨⟨.null, by simp [Tree.Canonical]⟩⟩

/-- The value of a document. -/
def ofTree (t : Tree) : Value := ⟨t.normalize, t.canonical_normalize⟩

@[simp]
theorem ofTree_tree (v : Value) : ofTree v.tree = v := ext (Tree.normalize_eq_self v.canonical)

/-- The null value. -/
def null : Value := ofTree .null

/-- The value of a text. -/
def string (s : String) : Value := ofTree (.string s)

/-- Whether the value is null. -/
def isNull (v : Value) : Bool := match v.tree with
  | .null => true
  | _ => false

/-- The text of a string. -/
def string? (v : Value) : Option String := match v.tree with
  | .string s => some s
  | _ => none

/-- The items of an array. -/
def items? (v : Value) : Option (List Value) := match h : v.tree with
  | .array ts => some (ts.pmap Value.mk fun t ht => by
      have := v.canonical
      rw [h, Tree.Canonical] at this
      exact Tree.allCanonical_iff.1 this t ht)
  | _ => none

/-- Members with their values. -/
def ofMembers (ms : List (String × Tree)) (h : Tree.MembersCanonical ms) : List (String × Value) :=
  ms.pmap (fun m hm => (m.1, ⟨m.2, hm⟩)) (Tree.membersCanonical_iff.1 h)

theorem increasing_ofMembers {ms : List (String × Tree)} (h : Tree.MembersCanonical ms)
    (hi : Increasing ms) : Increasing (ofMembers ms h) := by
  induction ms with
  | nil => exact List.Pairwise.nil
  | cons m ms ih =>
    have ⟨hm, hms⟩ := List.pairwise_cons.1 hi
    rw [Tree.MembersCanonical] at h
    refine List.pairwise_cons.2 ⟨fun e he => ?_, ih h.2 hms⟩
    obtain ⟨d, hd, rfl⟩ := List.mem_pmap.1 he
    exact hm d hd

/-- The members of an object. -/
def members? (v : Value) : Option (SortedMap String Value) := match h : v.tree with
  | .object ms =>
    have hc : Tree.MembersCanonical ms ∧ Increasing ms := by
      have := v.canonical
      rwa [h, Tree.Canonical] at this
    some ⟨ofMembers ms hc.1, increasing_ofMembers hc.1 hc.2⟩
  | _ => none

/-- The trees of members. -/
def memberTrees (m : SortedMap String Value) : List (String × Tree) :=
  m.entries.map fun e => (e.1, e.2.tree)

/-- The object with given members. -/
def ofMap (m : SortedMap String Value) : Value :=
  ⟨.object (memberTrees m), by
    rw [Tree.Canonical]
    constructor
    · rw [Tree.membersCanonical_iff]
      intro e he
      obtain ⟨d, -, rfl⟩ := List.mem_map.1 he
      exact d.2.canonical
    · have h := m.increasing
      unfold Increasing memberTrees at *
      rw [List.pairwise_map]
      exact h⟩

end Value

end JmapClient.Json

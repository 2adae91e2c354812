/-!
# Finite maps in key order

`SortedMap κ ν` is a finite map whose entries are listed in strictly increasing order of the text of
their keys. Two maps with the same entries are equal, so nothing that is computed from one can depend
on the order in which it was filled. Keys are any type that is text in disguise (`TextKey`).
-/

namespace JmapClient

/-- A type of keys, each of which is one text and nothing else. -/
class TextKey (κ : Type) where
  /-- The text of a key. -/
  text : κ → String
  /-- The key with a given text. -/
  ofText : String → κ
  text_ofText : ∀ s, text (ofText s) = s
  ofText_text : ∀ k, ofText (text k) = k

instance : TextKey String where
  text := id
  ofText := id
  text_ofText _ := rfl
  ofText_text _ := rfl

theorem TextKey.text_injective {κ : Type} [TextKey κ] {a b : κ} (h : text a = text b) : a = b := by
  rw [← ofText_text a, h, ofText_text]

variable {κ ν : Type} [TextKey κ]

/-- Keys compare by their `text`, code point by code point. -/
def TextKey.Before (a b : κ) : Prop := text a < text b

instance (a b : κ) : Decidable (TextKey.Before a b) := inferInstanceAs (Decidable (_ < _))

/-! ### Lists of entries -/

/-- Puts an entry where it belongs in an increasing list, in place of one with the same key `k`. -/
def insertEntry (k : κ) (v : ν) : List (κ × ν) → List (κ × ν)
  | [] => [(k, v)]
  | e :: es =>
    if TextKey.text k < TextKey.text e.1 then (k, v) :: e :: es
    else if TextKey.text k = TextKey.text e.1 then (k, v) :: es
    else e :: insertEntry k v es

/-- The entries are listed in strictly increasing key order. -/
def Increasing (es : List (κ × ν)) : Prop := es.Pairwise fun a b => TextKey.Before a.1 b.1

theorem mem_insertEntry {k : κ} {v : ν} {es : List (κ × ν)} {e : κ × ν}
    (h : e ∈ insertEntry k v es) : e = (k, v) ∨ e ∈ es := by
  induction es with
  | nil => simpa [insertEntry] using h
  | cons d ds ih =>
    unfold insertEntry at h
    split at h
    · grind
    · split at h
      · grind
      · rcases List.mem_cons.1 h with rfl | h
        · grind
        · rcases ih h with h | h <;> grind

theorem Increasing.insertEntry {k : κ} {v : ν} {es : List (κ × ν)} (h : Increasing es) :
    Increasing (insertEntry k v es) := by
  induction es with
  | nil => simp [JmapClient.insertEntry, Increasing]
  | cons d ds ih =>
    have ⟨hd, hds⟩ := List.pairwise_cons.1 h
    unfold JmapClient.insertEntry
    split
    · rename_i hlt
      refine List.pairwise_cons.2 ⟨fun e he => ?_, h⟩
      rcases List.mem_cons.1 he with rfl | he
      · exact hlt
      · exact String.lt_trans hlt (hd e he)
    · split
      · rename_i heq
        refine List.pairwise_cons.2 ⟨fun e he => ?_, hds⟩
        have := hd e he
        unfold TextKey.Before at this ⊢
        simpa [heq] using this
      · rename_i hlt hne
        refine List.pairwise_cons.2 ⟨fun e he => ?_, ih hds⟩
        rcases mem_insertEntry he with rfl | he
        · unfold TextKey.Before
          grind
        · exact hd e he

/-- Puts a list of entries in order. Of several entries with one key the last stays. -/
def sortEntries (es : List (κ × ν)) : List (κ × ν) :=
  es.foldl (fun acc e => insertEntry e.1 e.2 acc) []

theorem increasing_sortEntries (es : List (κ × ν)) : Increasing (sortEntries es) := by
  have go (es : List (κ × ν)) : ∀ acc : List (κ × ν), Increasing acc →
      Increasing (es.foldl (fun acc e => insertEntry e.1 e.2 acc) acc) := by
    induction es with
    | nil => exact fun _ h => h
    | cons e es ih => exact fun acc h => ih _ h.insertEntry
  exact go es [] List.Pairwise.nil

theorem insertEntry_append {k : κ} {v : ν} {es : List (κ × ν)}
    (h : ∀ e ∈ es, TextKey.Before e.1 k) : insertEntry k v es = es ++ [(k, v)] := by
  induction es with
  | nil => rfl
  | cons d ds ih =>
    have hd := h d (by simp)
    unfold TextKey.Before at hd
    have h₁ : ¬ TextKey.text k < TextKey.text d.1 := String.lt_asymm hd
    have h₂ : ¬ TextKey.text k = TextKey.text d.1 := fun he => String.lt_irrefl _ (he ▸ hd)
    simp [insertEntry, h₁, h₂, ih fun e he => h e (by simp [he])]

/-- A list that is in order already stays as it is. -/
theorem sortEntries_eq_self {es : List (κ × ν)} (h : Increasing es) : sortEntries es = es := by
  have go (es : List (κ × ν)) : ∀ acc : List (κ × ν), Increasing (acc ++ es) →
      es.foldl (fun acc e => insertEntry e.1 e.2 acc) acc = acc ++ es := by
    induction es with
    | nil => simp
    | cons e es ih =>
      intro acc h
      have hacc : ∀ d ∈ acc, TextKey.Before d.1 e.1 := fun d hd =>
        (List.pairwise_append.1 h).2.2 d hd e (by simp)
      rw [List.foldl_cons, insertEntry_append hacc, ih _ (by simpa using h)]
      simp
  exact go es [] h

theorem Increasing.sublist {es ds : List (κ × ν)} (h : Increasing ds) (hs : es.Sublist ds) :
    Increasing es :=
  List.Pairwise.sublist hs h

/-! ### Maps -/

/-- A finite map from `κ` to `ν`, listed in strictly increasing key order. -/
structure SortedMap (κ ν : Type) [TextKey κ] where
  entries : List (κ × ν)
  increasing : Increasing entries

namespace SortedMap

/-- Maps with the same entries are equal. -/
theorem ext {m n : SortedMap κ ν} (h : m.entries = n.entries) : m = n := by
  cases m; cases n; cases h; rfl

instance [DecidableEq κ] [DecidableEq ν] : DecidableEq (SortedMap κ ν) := fun m n =>
  if h : m.entries = n.entries then .isTrue (ext h) else .isFalse fun e => h (e ▸ rfl)

/-- The map without entries. -/
def empty : SortedMap κ ν := ⟨[], List.Pairwise.nil⟩

instance : EmptyCollection (SortedMap κ ν) := ⟨empty⟩

instance : Inhabited (SortedMap κ ν) := ⟨empty⟩

/-- Binds `k` to `v`, in place of what it was bound to. -/
def insert (m : SortedMap κ ν) (k : κ) (v : ν) : SortedMap κ ν :=
  ⟨insertEntry k v m.entries, m.increasing.insertEntry⟩

/-- The map of the entries `es`, the last entry of a key winning. -/
def ofList (es : List (κ × ν)) : SortedMap κ ν := ⟨sortEntries es, increasing_sortEntries es⟩

/-- What `k` is bound to. -/
def find? (m : SortedMap κ ν) (k : κ) : Option ν :=
  (m.entries.find? fun e => TextKey.text e.1 == TextKey.text k).map (·.2)

/-- Whether `k` is bound. -/
def contains (m : SortedMap κ ν) (k : κ) : Bool :=
  m.entries.any fun e => TextKey.text e.1 == TextKey.text k

/-- The map without the entry of `k`. -/
def erase (m : SortedMap κ ν) (k : κ) : SortedMap κ ν :=
  ⟨m.entries.filter fun e => TextKey.text e.1 != TextKey.text k,
    m.increasing.sublist List.filter_sublist⟩

/-- The keys, in increasing order. -/
def keys (m : SortedMap κ ν) : List κ := m.entries.map (·.1)

/-- The values, in the order of their keys. -/
def values (m : SortedMap κ ν) : List ν := m.entries.map (·.2)

/-- The number of entries. -/
def size (m : SortedMap κ ν) : Nat := m.entries.length

/-- Whether there is no entry. -/
def isEmpty (m : SortedMap κ ν) : Bool := m.entries.isEmpty

/-- Changes every value by `f`, keeping the keys. -/
def mapValues {μ : Type} (f : κ → ν → μ) (m : SortedMap κ ν) : SortedMap κ μ :=
  ⟨m.entries.map fun e => (e.1, f e.1 e.2), by
    have h := m.increasing
    unfold Increasing at h ⊢
    rw [List.pairwise_map]
    exact h⟩

theorem ofList_entries (m : SortedMap κ ν) : ofList m.entries = m :=
  ext (sortEntries_eq_self m.increasing)

end SortedMap

end JmapClient

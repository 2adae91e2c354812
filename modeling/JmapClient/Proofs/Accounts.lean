import JmapClient.Command.Transfer
import JmapClient.Proofs.TextOrder
import JmapClient.Proofs.UnknownCapabilities
import Mathlib.Data.Option.Basic

/-!
# The account to use

The account that is used where none is asked for is determined by the session: it is the main one for the capability,
or else the first of its kind by the bytes of the ids (`Session.IsFirst`). In what order the accounts are come upon does
not matter when they are sorted (`Session.defaultAmong`). Every account that is used is one that the session lists
(`Session.defaultAccount?_exact`).
-/

namespace JmapClient

variable {S : Schema}

/-- In a list that is in order the first item of a kind comes before all others of that kind. -/
theorem find?_eq_some_iff_of_pairwise {α : Type} {R : α → α → Prop} (hasymm : ∀ a b, R a b → ¬ R b a)
    {as : List α} (h : as.Pairwise R) {p : α → Bool} {a : α} :
    as.find? p = some a ↔ a ∈ as ∧ p a = true ∧ ∀ b ∈ as, p b = true → b = a ∨ R a b := by
  have hfirst {a : α} (ha : as.find? p = some a) : ∀ b ∈ as, p b = true → b = a ∨ R a b := by
    obtain ⟨-, earlier, later, rfl, hearlier⟩ := List.find?_eq_some_iff_append.1 ha
    intro b hb hp
    rcases List.mem_append.1 hb with hb | hb
    · have hnot := hearlier b hb
      simp [hp] at hnot
    · rcases List.mem_cons.1 hb with rfl | hb
      · exact Or.inl rfl
      · exact Or.inr ((List.pairwise_cons.1 (List.pairwise_append.1 h).2.1).1 b hb)
  constructor
  · intro ha
    exact ⟨List.mem_of_find?_eq_some ha, List.find?_some ha, hfirst ha⟩
  · rintro ⟨hmem, hp, hall⟩
    obtain ⟨c, hc⟩ := Option.isSome_iff_exists.1 (List.find?_isSome.2 ⟨a, hmem, hp⟩)
    rw [hc]
    rcases hall c (List.mem_of_find?_eq_some hc) (List.find?_some hc) with rfl | hac
    · rfl
    · rcases hfirst hc a hmem hp with rfl | hca
      · rfl
      · exact absurd hca (hasymm _ _ hac)

namespace Session

/-! ### Definitions -/

/-- The bytes of `id` come before those of `id'`. -/
def Precedes (id id' : Id) : Prop := Utf8.encode id.text < Utf8.encode id'.text

instance (id id' : Id) : Decidable (Precedes id id') := inferInstanceAs (Decidable (_ < _))

/-- Of the accounts of this `kind` the one with the id `id` is the first, by the bytes of the ids. -/
def IsFirst (s : Session S) (kind : Account S → Bool) (id : Id) : Prop :=
  ∃ a, s.account? id = some a ∧ kind a = true ∧
    ∀ id' a', s.account? id' = some a' → kind a' = true → id' = id ∨ Precedes id id'

/-- The account to use, where `accounts` are come upon in some order: they are sorted before any is chosen. -/
def defaultAmong (s : Session S) (accounts : List (Account S)) (uri : Uri) : Option Id :=
  match s.primaryAccount? uri with
  | some id => some id
  | none =>
    let sorted := accounts.mergeSort fun a b => !decide (Precedes b.id a.id)
    (sorted.find? (·.document.isPersonal) <|> sorted.head?).map (·.id)

/-! ### The order of the accounts -/

theorem precedes_iff {id id' : Id} : Precedes id id' ↔ id.text < id'.text := Utf8.encode_lt_encode_iff

section

variable {registry : CapabilityRegistry S} {document : SessionDocument} {s : Session S}
  {kind : Account S → Bool} {accounts : List (Account S)} {id : Id} {uri : Uri}

theorem IsOf.mem_values_iff (h : IsOf registry document s) {a : Account S} :
    a ∈ s.accounts.values ↔ s.account? a.id = some a := by
  rw [account?, SortedMap.find?_eq_some_iff, SortedMap.values, List.mem_map]
  constructor
  · rintro ⟨⟨id, a⟩, hmem, rfl⟩
    rwa [(h.account id a (SortedMap.find?_eq_some_iff.2 hmem)).1]
  · exact fun hmem => ⟨_, hmem, rfl⟩

theorem IsOf.pairwise_values (h : IsOf registry document s) :
    s.accounts.values.Pairwise fun a b => Precedes a.id b.id := by
  rw [SortedMap.values, List.pairwise_map]
  refine s.accounts.increasing.imp_of_mem fun {d e} hd he hbefore => ?_
  rw [precedes_iff, (h.account d.1 d.2 (SortedMap.find?_eq_some_iff.2 hd)).1,
    (h.account e.1 e.2 (SortedMap.find?_eq_some_iff.2 he)).1]
  exact hbefore

/-- However `accounts` are come upon, they are sorted into the order of their keys. -/
theorem IsOf.mergeSort_eq_values (h : IsOf registry document s) (hperm : accounts.Perm s.accounts.values) :
    accounts.mergeSort (fun a b => !decide (Precedes b.id a.id)) = s.accounts.values :=
  Utf8.sortBy_eq_of_perm hperm (h.pairwise_values.imp precedes_iff.1)

theorem IsOf.isFirst_iff (h : IsOf registry document s) :
    s.IsFirst kind id ↔ (s.accounts.values.find? kind).map (·.id) = some id := by
  simp only [Option.map_eq_some_iff, find?_eq_some_iff_of_pairwise (fun _ _ => List.lt_asymm) h.pairwise_values,
    h.mem_values_iff]
  constructor
  · rintro ⟨a, ha, hkind, hfirst⟩
    obtain rfl := (h.account id a ha).1
    refine ⟨a, ⟨ha, hkind, fun b hb hkind' => ?_⟩, rfl⟩
    rcases hfirst b.id b hb hkind' with heq | hlt
    · rw [heq, ha] at hb
      exact Or.inl (Option.some.inj hb).symm
    · exact Or.inr hlt
  · rintro ⟨a, ⟨ha, hkind, hfirst⟩, rfl⟩
    refine ⟨a, ha, hkind, fun id' b hb hkind' => ?_⟩
    obtain rfl := (h.account id' b hb).1
    exact (hfirst b hb hkind').imp_left fun heq => by rw [heq]

theorem IsOf.account_iff (h : IsOf registry document s) {p : Id → Account S → Prop} :
    (∀ id a, s.account? id = some a → p id a) ↔ ∀ a ∈ s.accounts.values, p a.id a := by
  constructor
  · exact fun hall a ha => hall _ _ (h.mem_values_iff.1 ha)
  · intro hall id a ha
    obtain rfl := (h.account id a ha).1
    exact hall a (h.mem_values_iff.2 ha)

/-! ### The default account -/

theorem IsOf.defaultAmong_eq (h : IsOf registry document s) (hperm : accounts.Perm s.accounts.values) :
    s.defaultAmong accounts uri = s.defaultAccount? uri := by
  unfold defaultAmong defaultAccount?
  cases s.primaryAccount? uri with
  | some id => rfl
  | none => simp only [h.mergeSort_eq_values hperm]

theorem IsOf.defaultAccount?_eq_some_iff (h : IsOf registry document s) :
    s.defaultAccount? uri = some id ↔ s.primaryAccount? uri = some id ∨ s.primaryAccount? uri = none ∧
      (s.IsFirst (·.document.isPersonal) id ∨
        (∀ id' a, s.account? id' = some a → a.document.isPersonal = false) ∧ s.IsFirst (fun _ => true) id) := by
  unfold defaultAccount?
  cases s.primaryAccount? uri with
  | some primary => simp
  | none =>
    have hall : (∀ id' a, s.account? id' = some a → a.document.isPersonal = false) ↔
        s.accounts.values.find? (·.document.isPersonal) = none := by
      rw [h.account_iff, List.find?_eq_none]
      simp
    have hhead : s.accounts.values.find? (fun _ => true) = s.accounts.values.head? := by
      cases s.accounts.values <;> rfl
    rw [hall, h.isFirst_iff, h.isFirst_iff, hhead]
    dsimp only
    cases s.accounts.values.find? (·.document.isPersonal) <;> simp

theorem exists_account?_iff : (∃ a, s.account? id = some a) ↔ id ∈ s.accounts.keys := by
  rw [← SortedMap.contains_iff, SortedMap.contains_eq_isSome_find?, Option.isSome_iff_exists]
  rfl

/-- The main accounts are among those that the document lists, so that they too can be used. -/
theorem IsOf.mem_keys_of_defaultAccount? (h : IsOf registry document s) (hsound : document.Sound)
    (hid : s.defaultAccount? uri = some id) : id ∈ s.accounts.keys := by
  rcases h.defaultAccount?_eq_some_iff.1 hid with hprimary | ⟨-, ⟨a, ha, -⟩ | ⟨-, a, ha, -⟩⟩
  · rw [primaryAccount?, h.document_eq] at hprimary
    obtain ⟨a, ha, -⟩ := hsound uri id hprimary
    rw [h.keys_eq, ← SortedMap.contains_iff, SortedMap.contains_eq_isSome_find?, ha, Option.isSome_some]
  · exact exists_account?_iff.1 ⟨a, ha⟩
  · exact exists_account?_iff.1 ⟨a, ha⟩

theorem IsOf.defaultAccount?_eq_none_iff (h : IsOf registry document s) (hsound : document.Sound) :
    s.defaultAccount? uri = none ↔ s.accounts.keys = [] := by
  constructor
  · intro hnone
    unfold defaultAccount? at hnone
    cases hprimary : s.primaryAccount? uri with
    | some primary =>
      rw [hprimary] at hnone
      cases hnone
    | none =>
      rw [hprimary] at hnone
      have hneither := Option.map_eq_none_iff.1 hnone
      rw [Option.orElse_eq_none, List.head?_eq_none_iff] at hneither
      simpa [SortedMap.values, SortedMap.keys] using hneither.2
  · intro hempty
    cases hid : s.defaultAccount? uri with
    | none => rfl
    | some id =>
      have hmem := h.mem_keys_of_defaultAccount? hsound hid
      rw [hempty] at hmem
      cases hmem

/-! ### The account that is asked for -/

theorem resolveAccount_some_eq_ok_iff {asked text : String} :
    s.resolveAccount (some asked) = .ok text ↔ text = asked ∧ ⟨asked⟩ ∈ s.accounts.keys := by
  rw [← exists_account?_iff, resolveAccount]
  cases s.account? ⟨asked⟩ <;> simp [eq_comm]

theorem resolveAccount_none_eq_ok_iff {text : String} :
    s.resolveAccount none = .ok text ↔ s.defaultAccount? Core.uri = some ⟨text⟩ := by
  rw [resolveAccount]
  cases s.defaultAccount? Core.uri with
  | none => simp
  | some id =>
    obtain ⟨text'⟩ := id
    simp

theorem resolveAccount_none_eq_error_iff {e : Failure} :
    s.resolveAccount none = .error e ↔ e = .noAccounts ∧ s.defaultAccount? Core.uri = none := by
  rw [resolveAccount]
  cases s.defaultAccount? Core.uri <;> simp [eq_comm]

end

/-- `defaultAccount?` is the main account, or else the first of the user's own, or else the first of all (`IsFirst`),
and a transfer goes to the account that is asked for or to this one. -/
theorem defaultAccount?_exact {registry : CapabilityRegistry S} {body : List UInt8} {s : Session S}
    (h : ofBytes registry body = .ok s) :
    (∀ uri,
      (∀ id, s.defaultAccount? uri = some id ↔ s.primaryAccount? uri = some id ∨ s.primaryAccount? uri = none ∧
        (s.IsFirst (·.document.isPersonal) id ∨
          (∀ id' a, s.account? id' = some a → a.document.isPersonal = false) ∧ s.IsFirst (fun _ => true) id)) ∧
      (s.defaultAccount? uri = none ↔ s.accounts.keys = []) ∧
      (∀ id, s.defaultAccount? uri = some id → id ∈ s.accounts.keys) ∧
      ∀ accounts : List (Account S), accounts.Perm s.accounts.values →
        s.defaultAmong accounts uri = s.defaultAccount? uri) ∧
    (∀ asked text, s.resolveAccount asked = .ok text → ⟨text⟩ ∈ s.accounts.keys) ∧
    (∀ asked text, s.resolveAccount (some asked) = .ok text ↔ text = asked ∧ ⟨asked⟩ ∈ s.accounts.keys) ∧
    (∀ text, s.resolveAccount none = .ok text ↔ s.defaultAccount? Core.uri = some ⟨text⟩) ∧
    ∀ e, s.resolveAccount none = .error e ↔ e = .noAccounts ∧ s.accounts.keys = [] := by
  obtain ⟨-, hdocument⟩ := ofBytes_eq_ok_iff.1 h
  obtain ⟨-, hsound, hof⟩ := ofDocument_eq_ok_iff.1 hdocument
  refine ⟨fun uri => ⟨fun id => hof.defaultAccount?_eq_some_iff, hof.defaultAccount?_eq_none_iff hsound,
    fun id => hof.mem_keys_of_defaultAccount? hsound, fun accounts => hof.defaultAmong_eq⟩,
    fun asked text htext => ?_, fun asked text => resolveAccount_some_eq_ok_iff,
    fun text => resolveAccount_none_eq_ok_iff, fun e => ?_⟩
  · cases asked with
    | some asked =>
      obtain ⟨rfl, hmem⟩ := resolveAccount_some_eq_ok_iff.1 htext
      exact hmem
    | none => exact hof.mem_keys_of_defaultAccount? hsound (resolveAccount_none_eq_ok_iff.1 htext)
  · rw [resolveAccount_none_eq_error_iff, hof.defaultAccount?_eq_none_iff hsound]

/-- The first account is not the user's own, and no account is the main one. So the second is used, unless another is
asked for. -/
theorem defaultAccount?_exact_of_shared :
    let body := Utf8.encode <|
      "\x7b\"capabilities\":\x7b\x7d,\"primaryAccounts\":\x7b\x7d,\"apiUrl\":\"\",\"accounts\":\x7b" ++
        "\"a\":\x7b\"name\":\"\",\"accountCapabilities\":\x7b\x7d\x7d," ++
        "\"b\":\x7b\"name\":\"\",\"isPersonal\":true,\"accountCapabilities\":\x7b\x7d\x7d\x7d\x7d"
    ∃ s : Session Schema.core, ofBytes Registry.core.capabilities body = .ok s ∧
      s.resolveAccount none = .ok "b" ∧ s.resolveAccount (some "a") = .ok "a" ∧
      ∀ text, s.resolveAccount (some "d") ≠ .ok text := by
  intro body
  have hsession : (ofBytes (S := Schema.core) Registry.core.capabilities body).toOption.map
      (fun s => (s.accounts.keys, s.defaultAccount? Core.uri)) = some ([⟨"a"⟩, ⟨"b"⟩], some ⟨"b"⟩) := by
    simp only [body, Utf8.encode_eq_data]
    decide +kernel
  obtain ⟨s, hs, hsession⟩ := toOption_map_eq_some_iff.1 hsession
  obtain ⟨hkeys, hdefault⟩ := Prod.mk.inj hsession
  obtain ⟨-, -, hasked, hnone, -⟩ := defaultAccount?_exact hs
  rw [hkeys] at hasked
  refine ⟨s, hs, (hnone "b").2 hdefault, (hasked "a" "a").2 ⟨rfl, by simp⟩, fun text htext => ?_⟩
  have hmem := ((hasked "d" text).1 htext).2
  simp at hmem

end Session

end JmapClient

import JmapClient.Registry
import JmapClient.Proofs.Maps

/-!
# Sequences of registrations

A registry is filled by one registration after the other (`Registry.after`). Each binds names to the types of
answers under them (`Registration.bindings`), and under a name answers are decoded as the last registration of
the name says (`Registry.find?_after`).
-/

namespace JmapClient

open Json

variable {S : Schema}

/-! ### Registrations -/

/-- A step of filling a registry. -/
inductive Registration (S : Schema)
  /-- Answers under `name` are data of type `t`. -/
  | method (name : String) (t : PayloadType S)
  /-- The answers of the standard methods on the records `x`. -/
  | records (x : S.Records)
  /-- How the capability `uri` is decoded. -/
  | capability (uri : Uri) (decoder : Value → Except Problem (Capability S))

namespace Registration

def apply (r : Registry S) : Registration S → Registry S
  | .method name t => r.registerMethod name t
  | .records x => r.registerRecords x
  | .capability uri decoder => { r with capabilities := r.capabilities.register uri decoder }

/-- The names that are bound, in this order, to the types of answers under them. -/
def bindings : Registration S → List (String × PayloadType S)
  | .method name t => [(name, t)]
  | .records x =>
    let name := RecordType.methodName (S.Record x)
    [(name Get.method, .get x), (name Changes.method, .changes x), (name SetRecords.method, .set x),
      (name Query.method, .query x), (name QueryChanges.method, .queryChanges x)]
  | .capability _ _ => []

/-- The names of the methods on records have two parts, so none of them is `errorName`. -/
theorem methodName_ne_errorName (x : S.Records) (method : String) :
    RecordType.methodName (S.Record x) method ≠ errorName := by
  intro h
  have hslash : '/' ∈ (RecordType.methodName (S.Record x) method).toList := by
    simp [RecordType.methodName]
  rw [h] at hslash
  exact absurd hslash (by decide)

/-- Only a method that is called an error binds `errorName`. -/
theorem bindings_errorName {reg : Registration S} {t : PayloadType S} :
    (errorName, t) ∈ reg.bindings ↔ reg = .method errorName t := by
  cases reg with
  | method name u => simp [bindings, eq_comm]
  | records x => simp [bindings, (methodName_ne_errorName x _).symm]
  | capability uri decoder => simp [bindings]

end Registration

/-! ### Registering one after the other -/

namespace MethodRegistry

/-- Binds names to types, in the order of `bs`. -/
def registerAll (m : MethodRegistry S) (bs : List (String × PayloadType S)) : MethodRegistry S :=
  bs.foldl (fun m b => m.register b.1 b.2) m

theorem decoders_registerAll (m : MethodRegistry S) (bs : List (String × PayloadType S)) :
    (m.registerAll bs).decoders = bs.foldl (fun n b => n.insert b.1 (.strict b.2)) m.decoders :=
  (List.foldl_hom MethodRegistry.decoders fun _ _ => rfl).symm

/-- The last binding of a name counts. -/
theorem find?_registerAll (m : MethodRegistry S) (bs : List (String × PayloadType S)) (name : String) :
    (m.registerAll bs).decoders.find? name =
      ((bs.reverse.lookup name).map .strict).or (m.decoders.find? name) := by
  rw [decoders_registerAll, SortedMap.find?_foldl_insert]

end MethodRegistry

namespace Registry

/-- The registry `r` after the registrations `rs`. -/
def after (r : Registry S) (rs : List (Registration S)) : Registry S := rs.foldl Registration.apply r

theorem methods_apply (r : Registry S) (reg : Registration S) :
    (reg.apply r).methods = r.methods.registerAll reg.bindings := by
  cases reg <;> rfl

theorem methods_after (r : Registry S) (rs : List (Registration S)) :
    (r.after rs).methods = r.methods.registerAll (rs.flatMap Registration.bindings) := by
  induction rs generalizing r with
  | nil => rfl
  | cons reg rs ih =>
    have hstep : r.after (reg :: rs) = (reg.apply r).after rs := rfl
    rw [hstep, ih, methods_apply, List.flatMap_cons, MethodRegistry.registerAll, MethodRegistry.registerAll,
      MethodRegistry.registerAll, List.foldl_append]

/-- Answers under a name are decoded as its last registration says. -/
theorem find?_after (r : Registry S) (rs : List (Registration S)) (name : String) :
    (r.after rs).methods.decoders.find? name =
      (((rs.flatMap Registration.bindings).reverse.lookup name).map .strict).or
        (r.methods.decoders.find? name) := by
  rw [methods_after, MethodRegistry.find?_registerAll]

end Registry

end JmapClient

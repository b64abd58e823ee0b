import SqlFootprint.Proofs.Json.Reading
import SqlFootprint.Wire.Record

/-!
# Fields of records that were written

A record is written with each field under a name of its own, so a field is read from the member
that was written for it. A field that was left out is read as absent.
-/

namespace SqlFootprint

namespace Json

/-! ## Members -/

@[simp] theorem member?_nil (name : String) : member? [] name = none := rfl

@[simp] theorem member?_cons (key name : String) (j : Json) (ms : List (String × Json)) :
    member? ((key, j) :: ms) name =
      (member? ms name).or (if key == name then some j else none) := by
  rw [member?, member?, List.reverse_cons, List.find?_append, Option.map_or]
  congr 1
  rw [List.find?_singleton]
  cases key == name <;> rfl

@[simp] theorem member?_append (ms ns : List (String × Json)) (name : String) :
    member? (ms ++ ns) name = (member? ns name).or (member? ms name) := by
  rw [member?, member?, member?, List.reverse_append, List.find?_append, Option.map_or]

@[simp] theorem member?_optionalMember (key name : String) (value : Option Json) :
    member? (optionalMember key value) name = if key == name then value else none := by
  cases value with
  | none => simp [optionalMember]
  | some j => simp [optionalMember]

@[simp] theorem countP_optionalMember_of_ne {key name : String} (h : key ≠ name)
    (value : Option Json) : (optionalMember key value).countP (·.1 == name) = 0 := by
  cases value with
  | none => rfl
  | some j => simp [optionalMember, h]

@[simp] theorem countP_optionalMember_le (key name : String) (value : Option Json) :
    (optionalMember key value).countP (·.1 == name) ≤ 1 := by
  cases value with
  | none => exact Nat.zero_le 1
  | some j => exact List.countP_le_length

/-! ## Exact values -/

@[simp] theorem exact_string (s : String) : (string s).Exact := by
  rw [Exact]
  trivial

@[simp] theorem exact_natural (n : Nat) : (natural n).Exact := by
  rw [Exact]
  trivial

@[simp] theorem exact_bool (b : Bool) : (bool b).Exact := by
  rw [Exact]
  trivial

@[simp] theorem exact_orNull {value : Option Json} :
    (orNull value).Exact ↔ ∀ j ∈ value, j.Exact := by
  cases value with
  | none => simp [orNull, Exact]
  | some j => simp [orNull]

attribute [simp] exact_array

@[simp] theorem exact_object_nil : (object []).Exact :=
  exact_object.2 nofun

@[simp] theorem exact_object_cons {key : String} {j : Json} {ms : List (String × Json)} :
    (object ((key, j) :: ms)).Exact ↔ j.Exact ∧ (object ms).Exact := by
  rw [exact_object, exact_object, List.forall_mem_cons]

@[simp] theorem exact_object_append {ms ns : List (String × Json)} :
    (object (ms ++ ns)).Exact ↔ (object ms).Exact ∧ (object ns).Exact := by
  rw [exact_object, exact_object, exact_object, List.forall_mem_append]

@[simp] theorem exact_object_optionalMember {key : String} {value : Option Json} :
    (object (optionalMember key value)).Exact ↔ ∀ j ∈ value, j.Exact := by
  cases value <;> simp [optionalMember]

/-! ## Scalars -/

@[simp] theorem toString?_string (s : String) : toString? (.string s) = some s := rfl

@[simp] theorem toBool?_bool (b : Bool) : toBool? (.bool b) = some b := rfl

theorem toWord?_natural {n : Nat} (h : n < UInt64.size) : toWord? (.natural n) = some n :=
  if_pos h

theorem toHalfWord?_natural {n : Nat} (h : n < UInt32.size) : toHalfWord? (.natural n) = some n :=
  if_pos h

/-- A list is read when each of its items is. -/
theorem mapM_map_of_reads {α β γ : Type} {write : α → β} {read : β → Option γ} {f : α → γ}
    {l : List α} (h : ∀ a ∈ l, read (write a) = some (f a)) :
    (l.map write).mapM read = some (l.map f) := by
  induction l with
  | nil => rfl
  | cons a l ih =>
    obtain ⟨first, others⟩ := List.forall_mem_cons.1 h
    rw [List.map_cons, List.mapM_cons, first, ih others]
    rfl

theorem toList?_array {α : Type} {write : α → Json} {read : Json → Option α} {l : List α}
    (h : ∀ a ∈ l, read (write a) = some a) : toList? read (.array (l.map write)) = some l := by
  rw [toList?, mapM_map_of_reads h, List.map_id']

end Json

namespace Record

variable {α : Type}

/-- What a field says that may be absent or null. -/
def optionalOf (read : Json → Option α) : Option Json → Option (Option α)
  | none | some .null => some none
  | some j => (read j).map some

variable (members : List (String × Json)) (index : Nat) (name : String) (read : Json → Option α)

@[simp] theorem ofJson?_object (fields : Nat) :
    ofJson? fields (.object members) = some (.named members) := rfl

section

variable (once : members.countP (·.1 == name) ≤ 1)
include once

theorem field?_named : (named members).field? index name = some (Json.member? members name) :=
  if_pos once

@[simp] theorem required_named :
    (named members).required index name read = (Json.member? members name).bind read := by
  rw [required, field?_named members index name once]
  rfl

@[simp] theorem withDefault_named (default : α) :
    (named members).withDefault index name read default =
      ((Json.member? members name).map read).getD (some default) := by
  rw [withDefault, field?_named members index name once]
  cases Json.member? members name <;> rfl

@[simp] theorem optional_named :
    (named members).optional index name read = optionalOf read (Json.member? members name) := by
  rw [optional, field?_named members index name once]
  rcases Json.member? members name with - | j
  · rfl
  · cases j <;> rfl

@[simp] theorem nullable_named :
    (named members).nullable index name read = optionalOf read (Json.member? members name) := by
  rw [nullable, field?_named members index name once]
  rcases Json.member? members name with - | j
  · rfl
  · cases j <;> rfl

end

/-- A field that was left out if absent. -/
theorem optionalOf_map {write : α → Json} {value : Option α}
    (h : ∀ a ∈ value, write a ≠ .null ∧ read (write a) = some a) :
    optionalOf read (value.map write) = some value := by
  cases value with
  | none => rfl
  | some a =>
    obtain ⟨notNull, back⟩ := h a rfl
    rw [Option.map_some, optionalOf, back, Option.map_some]
    exact notNull

/-- A field that was written as null if absent. -/
@[simp] theorem optionalOf_orNull (value : Option Json) :
    optionalOf read (some (Json.orNull value)) = optionalOf read value := by
  cases value <;> rfl

@[simp] theorem optionalOf_string (value : Option String) :
    optionalOf Json.toString? (value.map .string) = some value :=
  optionalOf_map _ fun _ _ ↦ ⟨nofun, rfl⟩

@[simp] theorem optionalOf_bool (value : Option Bool) :
    optionalOf Json.toBool? (value.map .bool) = some value :=
  optionalOf_map _ fun _ _ ↦ ⟨nofun, rfl⟩

end Record

end SqlFootprint

/-!
# Maps from names

A map as the list of its entries in the order of their keys, with one entry for each key.
-/

namespace SqlFootprint

/-- Entries in the order of their keys. -/
abbrev NameMap (α : Type) := List (String × α)

namespace NameMap

variable {α : Type}

def get? (key : String) : NameMap α → Option α
  | [] => none
  | (k, a) :: rest => if k == key then some a else get? key rest

/-- Puts an entry in its place, instead of one with the same key. -/
def insert (key : String) (a : α) : NameMap α → NameMap α
  | [] => [(key, a)]
  | (k, b) :: rest =>
    if key == k then (key, a) :: rest
    else if key < k then (key, a) :: (k, b) :: rest
    else (k, b) :: insert key a rest

/-- The map of some entries, of which the last one counts for its key. -/
def ofList (entries : List (String × α)) : NameMap α :=
  entries.foldl (fun m (k, a) ↦ insert k a m) []

def contains (key : String) (m : NameMap α) : Bool :=
  (m.get? key).isSome

@[simp] theorem get?_nil (key : String) : get? key ([] : NameMap α) = none := rfl

theorem get?_insert (key other : String) (a : α) (m : NameMap α) :
    get? other (insert key a m) = if key = other then some a else get? other m := by
  induction m with
  | nil => by_cases h : key = other <;> simp [insert, get?, h]
  | cons e m ih => grind [insert, get?]

end NameMap

end SqlFootprint

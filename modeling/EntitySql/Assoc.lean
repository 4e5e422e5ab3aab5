/-!
# Keyed lists

Values under text keys, kept in insertion order. JSON objects, physical names, catalogs, rows and
counters all use them.

* `get?` reads the value of a key.
* `insert` replaces the value in place, or adds the key at the end.
* `erase` drops a key.
* `sorted` lists the entries by key.
-/

namespace EntitySql

set_option autoImplicit false

universe u

/-- Values under text keys, in insertion order. -/
abbrev Assoc (α : Type u) := List (String × α)

namespace Assoc

variable {α : Type u}

/-- The value of the first entry with the key. -/
def get? (key : String) : Assoc α → Option α
  | [] => none
  | (k, value) :: rest => if k = key then some value else get? key rest

def has (key : String) (entries : Assoc α) : Bool :=
  (get? key entries).isSome

/-- Replaces the value under the key in place, or adds an entry at the end. -/
def insert (key : String) (value : α) : Assoc α → Assoc α
  | [] => [(key, value)]
  | (k, old) :: rest =>
    if k = key then (k, value) :: rest else (k, old) :: insert key value rest

/-- Drops the first entry with the key. -/
def erase (key : String) : Assoc α → Assoc α
  | [] => []
  | (k, old) :: rest => if k = key then rest else (k, old) :: erase key rest

/-- The entries of a list of pairs in which a later value of a key replaces an earlier one. -/
def ofPairs (pairs : List (String × α)) : Assoc α :=
  pairs.foldl (fun entries (key, value) => insert key value entries) []

def keys (entries : Assoc α) : List String :=
  entries.map Prod.fst

/-- The entries in the order of their keys. -/
def sorted (entries : Assoc α) : Assoc α :=
  entries.mergeSort fun a b => !(b.1 < a.1)

/-! ## Lookup after each operation -/

theorem get?_insert (entries : Assoc α) (key other : String) (value : α) :
    get? other (insert key value entries) =
      if key = other then some value else get? other entries := by
  induction entries with
  | nil => rfl
  | cons entry rest ih =>
    obtain ⟨k, old⟩ := entry
    by_cases hk : k = key
    · by_cases ho : key = other <;> simp_all [insert, get?]
    · by_cases ho : k = other
      · have : ¬ key = other := fun h => hk (ho.trans h.symm)
        simp_all [insert, get?]
      · simp_all [insert, get?]

@[simp] theorem get?_insert_self (entries : Assoc α) (key : String) (value : α) :
    get? key (insert key value entries) = some value := by
  simp [get?_insert]

theorem has_insert (entries : Assoc α) (key other : String) (value : α) :
    has other (insert key value entries) = (key == other || has other entries) := by
  by_cases h : key = other <;> simp [has, get?_insert, h]

theorem keys_insert (entries : Assoc α) (key : String) (value : α) :
    keys (insert key value entries) =
      if key ∈ keys entries then keys entries else keys entries ++ [key] := by
  induction entries with
  | nil => rfl
  | cons entry rest ih =>
    obtain ⟨k, old⟩ := entry
    by_cases hk : k = key
    · simp [insert, keys, hk]
    · have hne : ¬ key = k := fun h => hk h.symm
      simp only [keys] at ih
      by_cases hm : key ∈ rest.map Prod.fst <;> simp [insert, keys, hk, hne, hm, ih]

end Assoc

end EntitySql

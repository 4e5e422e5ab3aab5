import EntitySql.Assoc

/-!
# Generated aliases

Aliases are numbered from zero under each prefix.

* `Aliases.next` takes the next alias of a prefix.
-/

namespace EntitySql

set_option autoImplicit false

/-- How many aliases have been taken under each prefix. -/
structure Aliases where
  taken : Assoc Nat := []
deriving DecidableEq, Repr

namespace Aliases

def count (aliases : Aliases) (stem : String) : Nat :=
  (Assoc.get? stem aliases.taken).getD 0

/-- The alias of a prefix with a number. -/
def name (stem : String) (number : Nat) : String :=
  stem ++ "_" ++ toString number

/-- Takes the next alias of a prefix. -/
def next (stem : String) (aliases : Aliases) : String × Aliases :=
  let number := aliases.count stem
  (name stem number, ⟨Assoc.insert stem (number + 1) aliases.taken⟩)

end Aliases

end EntitySql

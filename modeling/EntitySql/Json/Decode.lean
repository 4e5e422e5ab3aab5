import EntitySql.Json.Value

/-!
# Members of a record

Reading the members of a record, which is written as an object or as an array. An object may have
its members in any order, and members with other keys do not matter. An array has the values of the
members in the order of the record, and may end early.

* `asRecord?` gives the members of a record, `asTagged?` those of a record whose kind is written
  first or as a member.
* `required` is for a member that has to be there.
* `defaulted` is for a member that may be absent.
* `optional` is for a member that may be absent or `null`.
-/

namespace EntitySql.Json

set_option autoImplicit false

variable {α : Type}

/-- The members of a record that has these keys. The items of an array are the values of the first
members. -/
def asRecord? (keys : List String) : Json → Option (Assoc Json)
  | .obj members => some members
  | .arr items => if items.length ≤ keys.length then some (keys.zip items) else none
  | _ => none

@[simp] theorem asRecord?_obj (keys : List String) (members : Assoc Json) :
    asRecord? keys (.obj members) = some members :=
  rfl

/-- A member that has to be present. -/
def required (key : String) (decode : Json → Option α) (members : Assoc Json) : Option α :=
  (Assoc.get? key members).bind decode

/-- A member that takes the default when it is absent, and only then. -/
def defaulted (key : String) (default : α) (decode : Json → Option α) (members : Assoc Json) :
    Option α :=
  match Assoc.get? key members with
  | none => some default
  | some value => decode value

/-- A value that may be `null`. -/
def nullable (decode : Json → Option α) : Json → Option (Option α)
  | .null => some none
  | value => (decode value).map some

/-- A member that may be absent or `null`. -/
def optional (key : String) (decode : Json → Option α) (members : Assoc Json) :
    Option (Option α) :=
  defaulted key none (nullable decode) members

/-- A record that says of which kind it is, with its kind: a text, which is the member with the key or
the first item. -/
def asTagged? (key : String) : Json → Option (String × Json)
  | .obj members => do return (← required key asString? members, .obj members)
  | .arr (kind :: items) => do return (← kind.asString?, .arr items)
  | _ => none

def listOf (decode : Json → Option α) (value : Json) : Option (List α) := do
  (← value.asItems?).mapM decode

end EntitySql.Json

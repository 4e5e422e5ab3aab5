import EntitySql.Fault
import EntitySql.Sql.Keyword

/-!
# Orderings

The ordering of a read request: an object of fields with directions and of relations with nested
orderings, flattened to a list of sort keys.

* `SortKey.parse` flattens an ordering in the order of its members.
* `Direction.parse` and `Aggregate.parse` read a keyword.
-/

namespace EntitySql

set_option autoImplicit false

/-- A sort key. Its path walks through relations down to a field, and its label names the column
that carries the value to sort by. -/
structure SortKey where
  path : List String
  label : String
  direction : Direction
deriving DecidableEq, Repr

def Direction.parse (name : String) : Result Direction :=
  match Direction.ofName? name with
  | some direction => .ok direction
  | none => .error (.operator (.direction name))

def Aggregate.parse (name : String) : Result Aggregate :=
  match Aggregate.ofName? name with
  | some function => .ok function
  | none => .error (.operator (.aggregate name))

namespace SortKey

/-- The key of a path and a direction. -/
def ofPath (path : List String) (direction : Direction) : SortKey where
  path := path
  label := "ob." ++ ".".intercalate path
  direction := direction

mutual

/-- The keys below a path. -/
def flattenValue (path : List String) : Json → Result (List SortKey)
  | .str name => do return [ofPath path (← Direction.parse name)]
  | .obj members => flattenMembers path members
  | got => .error (.filter (.orderLeaf path got))
termination_by structural value => value

def flattenMembers (path : List String) : List (String × Json) → Result (List SortKey)
  | [] => .ok []
  | (key, value) :: rest => do
    let keys ← flattenValue (path ++ [key]) value
    return keys ++ (← flattenMembers path rest)
termination_by structural members => members

end

/-- Reads an ordering, which has to be an object. -/
def parse : Json → Result (List SortKey)
  | .obj members => flattenMembers [] members
  | got => .error (.filter (.orderNoObject got))

end SortKey

end EntitySql

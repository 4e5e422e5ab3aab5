import EntitySql.Database.Basic
import EntitySql.Migration.Plan

/-!
# Running migrations

Asking a database what it has and sending it what it lacks.

* `introspection` is the query for the catalog.
* `migrate` sends the missing definitions as one batch, or nothing when none is missing.
-/

namespace EntitySql

set_option autoImplicit false

/-- The query for the tables and columns of all user schemas, one row per table. -/
def introspection : String :=
  "SELECT \"tables\".\"table_name\"::text AS \"table\", " ++
  "coalesce(\"c\".\"columns\", '[]'::json) AS \"columns\" " ++
  "FROM \"information_schema\".\"tables\" AS \"tables\" " ++
  "LEFT JOIN LATERAL (SELECT json_agg(json_build_object(" ++
  "'name', \"cols\".\"column_name\", " ++
  "'type', \"cols\".\"data_type\", " ++
  "'length', \"cols\".\"character_maximum_length\", " ++
  "'nullable', \"cols\".\"is_nullable\" = 'YES', " ++
  "'default', \"cols\".\"column_default\")) AS \"columns\" " ++
  "FROM \"information_schema\".\"columns\" AS \"cols\" " ++
  "WHERE \"cols\".\"table_name\" = \"tables\".\"table_name\" " ++
  "AND \"cols\".\"table_schema\" = \"tables\".\"table_schema\") AS \"c\" ON true " ++
  "WHERE \"tables\".\"table_schema\" NOT IN ('information_schema', 'pg_catalog')"

/-- The text of definitions that are sent together, each ended by a semicolon. -/
def batchText (definitions : List Definition) : String :=
  "\n".intercalate (definitions.map fun definition => definition.text ++ ";")

/-- Sends a database the definitions that it lacks, and returns their number. -/
def migrate {σ : Type} (database : Database σ) (schema : Schema) (naming : Naming) :
    Call σ Nat := do
  let result ← database.query introspection []
  let catalog ← Call.ofResult (Catalog.ofRows result.rows)
  let definitions ← Call.ofResult (migrationPlan schema naming catalog)
  if definitions.isEmpty then return 0
  database.batch (batchText definitions)
  return definitions.length

end EntitySql

import EntitySql.Proofs.Compile.Renumbered
import EntitySql.Proofs.Relational.Stored

/-!
# Compilers that have been used before

A compiler may be used again and again. What it has compiled before, or has failed to compile, shows in
nothing but the numbers of the aliases that it takes next.

* `Compilation` are the calls of a compiler, `Compilation.run` is what a call comes to where some aliases
  have been taken. Filters take theirs under a prefix of their own, so that a compiler of conditions is one
  that is asked for nothing else.
* `Compilation.after` are the aliases that a history of calls has taken, those of failed calls included.
* `Compilation.run_after_renumbers` compares a compiler with a history and one without.
-/

namespace EntitySql

set_option autoImplicit false

/-- A call of a compiler. -/
inductive Compilation where
  /-- All rows of a read, or the first one. -/
  | select (entity : String) (selection : Selection) (one : Bool)
  | aggregate (entity : String) (function : Aggregate) (target : AggregateTarget)
    (filter : Option Filter)
  /-- A condition on rows under the name that is given, or under that of their table. -/
  | condition (entity : String) (source : Option String) (filter : Filter)

/-- What a compiler gives. -/
inductive Compiled where
  | query (query : Query)
  | condition (condition : Condition)

def Compiled.relabel (labels : String → String) : Compiled → Compiled
  | .query tree => .query (tree.relabel labels)
  | .condition tree => .condition (tree.relabel labels)

namespace Compilation

/-- The prefixes of the aliases that a call takes. -/
def stems : Compilation → List String
  | .select .. => ReadPlan.stems
  | .aggregate .. | .condition .. => ["w"]

/-- The name under which the rows of the entity are read, where that is no alias of the compiler. -/
def qualifier? (naming : Naming) : Compilation → Option String
  | .select .. => none
  | .aggregate entity _ _ _ => (naming.table entity).toOption
  | .condition entity source _ => source.or (naming.table entity).toOption

variable (schema : Schema) (naming : Naming)

def compile : Compilation → Compile Compiled
  | .select entity selection one => do
    if one then return .query (← selection.compileOne schema naming entity)
    else return .query (← selection.compile schema naming entity)
  | .aggregate entity function target filter => do
    return .query (← compileAggregate schema naming entity function target filter)
  | .condition entity source filter => do
    return .condition (← filter.compileOn schema naming entity source)

/-- What a call comes to where some aliases have been taken. -/
def run (aliases : Aliases) (call : Compilation) : Result Compiled :=
  ((call.compile schema naming).run.run aliases).1

/-- The aliases that have been taken after some calls, whether they succeeded or not. -/
def after (history : List Compilation) : Aliases :=
  history.foldl (fun aliases call => ((call.compile schema naming).run.run aliases).2) {}

variable {schema : Schema} {naming : Naming}

theorem renumbers_compile {shift : String → Nat} (call : Compilation)
    (hqualifier : ∀ qualifier ∈ call.qualifier? naming, ∀ number,
      qualifier ≠ Aliases.name "w" number) :
    Renumbers shift (Compiled.relabel (Aliases.renumber call.stems shift))
      (call.compile schema naming) (call.compile schema naming) := by
  have hfixed : ∀ qualifier ∈ call.qualifier? naming,
      Aliases.renumber ["w"] shift qualifier = qualifier := by
    intro qualifier hmem
    refine Aliases.renumber_eq_self fun stem hstem => ?_
    obtain rfl := List.mem_singleton.1 hstem
    exact hqualifier qualifier hmem
  cases call with
  | select entity selection one =>
    cases one with
    | false =>
      exact (Selection.renumbers_compile schema naming entity selection).map fun query => rfl
    | true =>
      exact (Selection.renumbers_compileOne schema naming entity selection).map fun query => rfl
  | aggregate entity function target filter =>
    refine (renumbers_compileAggregate (List.mem_singleton_self "w") schema naming entity function
      target filter fun table htable => ?_).map fun query => rfl
    refine hfixed table ?_
    rw [qualifier?, htable]
    rfl
  | condition entity source filter =>
    exact (Filter.renumbers_compileOn schema naming (List.mem_singleton_self "w") entity source filter
      hfixed).map fun condition => rfl

variable (schema naming)

/-- A call after a history fails as it would on a new compiler, or gives the same with larger numbers for
its aliases. What is added to the numbers of a prefix is how many aliases the history has taken of it. -/
theorem run_after_renumbers (history : List Compilation) (call : Compilation)
    (hqualifier : ∀ qualifier ∈ call.qualifier? naming, ∀ number,
      qualifier ≠ Aliases.name "w" number) :
    call.run schema naming (after schema naming history) =
      (call.run schema naming {}).map
        (Compiled.relabel (Aliases.renumber call.stems (after schema naming history).count)) :=
  (renumbers_compile call hqualifier {} _ (Aliases.ahead_count _)).1

end Compilation

namespace Library

/-- The books of Austen. -/
def byAusten : Filter where
  terms := [.nested "writer" { terms := [.predicates "fullName" [⟨.eq, .value (.str "Austen")⟩]] }]

/-- A condition that fails after an alias has been taken. -/
def published : Compilation :=
  .condition "Book" none { terms := [.nested "writer" {}, .predicates "publisher" []] }

def firstByAusten : Compilation :=
  .select "Book" { name := "Book", fields := ["title"], args := { filter := some byAusten } } true

def countByAusten : Compilation :=
  .aggregate "Book" .count (.name "*") (some byAusten)

end Library

theorem Compilation.run_after_renumbers_countByAusten :
    let aliases := after Library.schema Library.naming [Library.published, Library.firstByAusten]
    (∃ fault, Library.published.run Library.schema Library.naming {} = .error fault) ∧
      aliases.count "w" = 2 ∧
      (∀ qualifier ∈ Library.countByAusten.qualifier? Library.naming, ∀ number,
        qualifier ≠ Aliases.name "w" number) ∧
      ∃ compiled, Library.countByAusten.run Library.schema Library.naming {} = .ok compiled ∧
        Library.countByAusten.run Library.schema Library.naming aliases =
          .ok (compiled.relabel (Aliases.renumber ["w"] aliases.count)) := by
  intro aliases
  have hqualifier : ∀ qualifier ∈ Library.countByAusten.qualifier? Library.naming, ∀ number,
      qualifier ≠ Aliases.name "w" number := by
    intro qualifier hmem
    obtain rfl : "book" = qualifier := Option.some.inj hmem
    exact Aliases.ne_name (by decide)
  refine ⟨⟨_, rfl⟩, by decide +kernel, hqualifier, ?_⟩
  obtain ⟨compiled, hcompiled⟩ : ∃ compiled,
      Library.countByAusten.run Library.schema Library.naming {} = .ok compiled := ⟨_, rfl⟩
  refine ⟨compiled, hcompiled, ?_⟩
  have hafter := Compilation.run_after_renumbers Library.schema Library.naming
    [Library.published, Library.firstByAusten] Library.countByAusten hqualifier
  rw [hcompiled] at hafter
  exact hafter

end EntitySql

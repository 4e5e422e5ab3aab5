import EntitySql.Proofs.Migration.Sent
import EntitySql.Proofs.Session.Undeclared

/-!
# Opening a session

What opening a session calls. Entities are checked and named before anything is called, and a database
is only brought up to date if that is asked for.

* `Session.Opens` says what opening a session answers, which state it leaves and which calls it makes.
* `Session.opens_establish`: every opening is of this form, and every later synchronization of the session
  is a migration like that of its opening.
-/

namespace EntitySql

set_option autoImplicit false

variable {σ : Type}

namespace Session

/-- Whatever a database has, there is a plan for the schema of a session. -/
theorem exists_migrationPlan {entities : List Entity} {config : Config} {session : Session}
    (h : prepare entities config = .ok session) (catalog : Catalog) :
    ∃ definitions, migrationPlan session.schema session.naming catalog = .ok definitions := by
  obtain ⟨hschema, hnaming⟩ := checked_of_prepare h
  obtain ⟨-, hwellFormed⟩ := Schema.ofEntities_eq_ok.1 hschema
  have hfollows := Naming.follows_of_ofSchema hwellFormed hnaming
  obtain ⟨parts, -, hplan⟩ := migrationPlan_eq_parts hwellFormed hfollows catalog
  exact ⟨_, hplan⟩

/-- What opening a session answers, which state it leaves and which calls it makes. -/
inductive Opens (database : Database σ) (entities : List Entity) (config : Config) (s : σ) :
    Except Interruption Session → σ → List LogEntry → Prop
  | refused {fault : Fault} (hfault : prepare entities config = .error fault) :
      Opens database entities config s (.error (.fault fault)) s []
  | opened {session : Session} (hprepare : prepare entities config = .ok session)
      (hsynchronize : config.synchronize = false) :
      Opens database entities config s (.ok session) s []
  | synchronized {session : Session} {s' : σ} {answer : Except Interruption Nat}
      {calls : List LogEntry} (hprepare : prepare entities config = .ok session)
      (hsynchronize : config.synchronize = true)
      (hmigrates : Migrates database session.schema session.naming s answer s' calls) :
      Opens database entities config s (answer.map fun _ => session) s' calls

/-- Every opening of a session is of this form, and every synchronization of a session is a migration.
Logging the calls changes neither the answer nor the effect. -/
theorem opens_establish (database : Database σ) (entities : List Entity) (config : Config) (s : σ) :
    (∃ answer s' calls,
      Makes (establish database entities config) (establish database.recorded entities config) s answer
        s' calls ∧ Opens database entities config s answer s' calls) ∧
    ∀ session, prepare entities config = .ok session → ∃ answer s' calls,
      Makes (session.synchronize database) (session.synchronize database.recorded) s answer s' calls ∧
        Migrates database session.schema session.naming s answer s' calls := by
  have hmigrates : ∀ session, prepare entities config = .ok session → ∃ answer s' calls,
      Makes (session.synchronize database) (session.synchronize database.recorded) s answer s' calls ∧
        Migrates database session.schema session.naming s answer s' calls :=
    fun session hprepare => migrates_migrate database (exists_migrationPlan hprepare) s
  refine ⟨?_, hmigrates⟩
  unfold establish
  cases hprepare : prepare entities config with
  | error fault =>
    exact ⟨_, _, _, (makes_ofResult_error rfl s).bind_error, .refused hprepare⟩
  | ok session =>
    have hprepared := makes_pure session s
    cases hsynchronize : config.synchronize with
    | false => exact ⟨_, _, _, hprepared.bind (makes_pure session s), .opened hprepare hsynchronize⟩
    | true =>
      obtain ⟨answer, s', calls, hmakes, hmigrates⟩ := hmigrates session hprepare
      exact ⟨_, _, _, hprepared.bind (hmakes.map fun _ => session),
        .synchronized hprepare hsynchronize hmigrates⟩

end Session

/-! ## The library -/

/-- A database that has a table of books with nothing but their identifiers. It lists columns as
arrays. -/
def Library.onlyIdentifiers : Script where
  replies := [{ rows := [
    ⟨[("table", .str "book"), ("columns", .arr [.arr [.str "id", .str "integer"]])]⟩] }]

/-- It gets the table of authors, the other columns of books and a foreign key. -/
theorem Session.opens_establish_library : Session.prepare Library.entities {} = .ok Library.session ∧
    ∃ s' calls, Makes (Library.session.synchronize Script.database)
        (Library.session.synchronize Script.database.recorded) Library.onlyIdentifiers (.ok 3) s' calls ∧
      Migrates Script.database Library.schema Library.naming Library.onlyIdentifiers (.ok 3) s' calls := by
  refine ⟨Library.prepare_entities, ?_⟩
  obtain ⟨answer, s', calls, hmakes, hmigrates⟩ := (Session.opens_establish Script.database
    Library.entities {} Library.onlyIdentifiers).2 Library.session Library.prepare_entities
  have hanswer : ((Library.session.synchronize Script.database).run.run Library.onlyIdentifiers).1 =
      .ok 3 := by decide +kernel
  rw [hmakes.plain] at hanswer
  obtain rfl : answer = .ok 3 := hanswer
  exact ⟨s', calls, hmakes, hmigrates⟩

end EntitySql

import EntitySql.Proofs.Read.Node

/-!
# Compiled reads give what was asked for

The query that a read is compiled to gives one array of documents: those of the request, up to the
order of the elements of arrays.

* `joinsCarry_cons` joins one relation to a node.
* `Selection.reads` compiles a checked request, by induction on its nodes.
* `ReadRequest.eval_compile` puts the checks, the naming and the compilation together.

Many-to-ones are joined as they are, without an array around them, so that a row would be repeated
if it referred to several rows. Keys exclude that.
-/

namespace EntitySql

set_option autoImplicit false

open Compile

variable {V : Type} {engine : Engine V} {db : Instance V} {schema : Schema} {naming : Naming}
  {layout : Layout}

/-! ## One relation -/

theorem Json.Listed.length_eq {given reference : List Json} (h : Json.Listed given reference) :
    given.length = reference.length := by
  obtain ⟨others, hperm, hreordered⟩ := h
  rw [hperm.length_eq, hreordered.length_eq]

/-- An array of documents is joined as one row. -/
theorem orAbsent_array (engine : Engine V) (name : String) {given reference : List Json}
    (h : Json.Listed given reference) :
    ∃ cell : Cell V, orAbsent engine [name] [[(name, .document (.arr given))]] = [[(name, cell)]] ∧
      (cell.toJson engine).Reordered (.arr reference) :=
  ⟨.document (.arr given), rfl, h.arr⟩

/-- At most one document is joined as one row, which is absent if there is none. -/
theorem orAbsent_documentRows (engine : Engine V) (name : String) {given reference : List Json}
    (h : Json.Listed given reference) (hlength : reference.length ≤ 1) :
    ∃ cell : Cell V, orAbsent engine [name] (documentRows name given) = [[(name, cell)]] ∧
      (cell.toJson engine).Reordered (reference.head?.getD .null) := by
  have hgiven := h.length_eq
  cases reference with
  | nil =>
    obtain rfl := List.eq_nil_of_length_eq_zero hgiven
    exact ⟨.value engine.null, rfl, engine.toJson_null ▸ .refl _⟩
  | cons document rest =>
    obtain rfl : rest = [] := by simpa using hlength
    obtain ⟨json, rfl⟩ := List.length_eq_one_iff.1 hgiven
    obtain ⟨others, hperm, hreordered⟩ := h
    rw [List.perm_singleton.1 hperm.symm] at hreordered
    cases hreordered with
    | cons hfirst _ => exact ⟨.document json, rfl, hfirst⟩

theorem joinsCarry_nil (isList : Bool) (entity table : String) :
    JoinsCarry engine db schema naming isList entity table [] fun _ => [] := by
  intro number s s' queries _ h
  obtain ⟨rfl, rfl⟩ := yields_pure.1 h
  refine ⟨le_refl s', fun tuple => rfl, fun scope tuple prior rest Q _ hQ => ?_⟩
  have hgives := hQ [] Carries.nil
  rw [List.append_nil] at hgives
  exact hgives

/-- A join carries the member that its plan reads. -/
theorem joinsCarry_cons {isList : Bool} {entity : Entity} {relation target : String} {link : Link}
    {plan : ReadPlan} {rest : List JoinPlan} {documents : List (Tuple V) → List Json}
    {member : Tuple V → Json} {members : Tuple V → List (String × Json)}
    (hlink : naming.link entity.name relation = .ok link)
    (hjoined : db.Joined layout entity.name target link)
    (hplan : Reads engine db schema naming isList (layout.table target) relation plan documents)
    (hmember : ∀ tuple given, Json.Listed given (documents (db.partners engine link tuple)) →
      ∃ cell, orAbsent engine [relation] (if isList then [[(relation, .document (.arr given))]]
        else documentRows relation given) = [[(relation, cell)]] ∧
          (cell.toJson engine).Reordered (member tuple))
    (hrest : JoinsCarry engine db schema naming isList entity.name (layout.table entity.name) rest
      members) :
    JoinsCarry engine db schema naming isList entity.name (layout.table entity.name)
      (.on relation true plan :: rest) fun tuple => (relation, member tuple) :: members tuple := by
  intro number s s' queries hnumber h
  obtain ⟨_, query, later, s₁, hlink', hquery, hlater, rfl⟩ := ReadPlan.yields_joins_cons h
  obtain rfl := Except.ok.inj (hlink.symm.trans hlink')
  let root := Aliases.name "root.base" number
  let cells (tuple : Tuple V) : Cells V := (db (layout.table entity.name)).cells tuple
  -- the sub-query is read beside the row that it is joined to
  have hreads : ∀ tuple (prior : Frame V) (scope : Scope V), (∀ item ∈ prior, item.1 ≠ root) →
      s ≤ s₁ ∧ query.exports db = [relation] ∧
        Gives (query.eval engine db (((root, cells tuple) :: prior) :: scope)) fun rows =>
          ∃ given, Json.Listed given (documents (db.partners engine link tuple)) ∧
            rows = if isList then [[(relation, .document (.arr given))]]
              else documentRows relation given := by
    intro tuple prior scope hprior
    refine hplan (some ⟨link, root, tuple⟩) _ s s₁ query (fun outside houtside => ?_) hquery
    obtain rfl := Option.some.inj houtside
    exact ⟨⟨number, hnumber, rfl⟩, hjoined.toTable, hjoined.toColumn,
      layout.table entity.name, Scope.cells_cons_head hprior, hjoined.fromColumn⟩
  have hle := (hreads (fun _ => engine.null) [] [] fun item hitem =>
    absurd hitem List.not_mem_nil).1
  have hnext := le_trans hle (Aliases.le_next "j" s₁)
  obtain ⟨hlast, hnames, hcarry⟩ :=
    hrest _ _ _ _ (Nat.lt_of_lt_of_le hnumber (hnext "root.base")) hlater
  refine ⟨le_trans hnext hlast, fun tuple => ?_, fun scope tuple prior rest Q hprior hQ => ?_⟩
  · exact congrArg (relation :: ·) (hnames tuple)
  · obtain ⟨-, hexports, hgives⟩ := hreads tuple prior scope hprior
    let label := Aliases.name "j" (s₁.count "j")
    show Gives (Query.evalJoins engine db scope _ ((query, label) :: (later ++ rest))) Q
    refine Query.gives_join (P := fun row => ∃ cell, row = [(relation, cell)] ∧
      (cell.toJson engine).Reordered (member tuple)) (hgives.mono ?_) ?_
    · rintro rows ⟨given, hgiven, rfl⟩
      rw [hexports]
      obtain ⟨cell, hcell, hreordered⟩ := hmember tuple given hgiven
      exact ⟨_, hcell, cell, rfl, hreordered⟩
    · rintro _ ⟨cell, rfl, hcell⟩
      refine hcarry scope tuple (prior ++ [(label, [(relation, cell)])]) rest Q ?_ ?_
      · intro item hitem
        rcases List.mem_append.1 hitem with hitem | hitem
        · exact hprior item hitem
        · rw [List.mem_singleton.1 hitem]
          exact joined_ne_root _ _
      · intro joined hcarries
        have hgives := hQ ((label, [(relation, cell)]) :: joined)
          (.cons ⟨⟨_, rfl⟩, cell, rfl, hcell⟩ hcarries)
        rw [List.append_assoc]
        exact hgives

/-! ## Checked requests -/

theorem ofSelection_plain {selection : Selection} (h : selection.Plain) (entity : String) :
    ReadPlan.ofSelection schema entity [] selection = .node
      { entity, name := selection.name, fields := selection.fields, args := selection.args }
      (ReadPlan.requestedJoins schema entity [] [] selection.manyToOne)
      (ReadPlan.requestedLists schema entity selection.oneToMany) := by
  obtain ⟨name, fields, args, manyToOne, oneToMany⟩ := selection
  rw [Selection.Plain] at h
  have hkeys : args.sortKeys = [] := by
    rw [ReadArgs.sortKeys, h.1.1]
    rfl
  rw [ReadPlan.ofSelection, List.nil_append, hkeys]
  show ReadPlan.node _ (_ ++ ReadPlan.sortJoins schema 0 _ _ _) _ = _
  rw [ReadPlan.sortJoins, List.append_nil]

mutual

/-- A checked request gives the documents of the rows that it keeps. -/
theorem Selection.reads (hstores : db.Stores schema naming layout)
    (hkeyed : db.Keyed engine schema layout) (hequates : engine.Equates) :
    (selection : Selection) → selection.Plain → {entity : Entity} → entity ∈ schema.entities →
      ∀ isList, Reads engine db schema naming isList (layout.table entity.name) selection.name
        (ReadPlan.ofSelection schema entity.name [] selection)
        fun tuples => selection.documents engine db schema layout entity.name tuples
  | { name, fields, args, manyToOne, oneToMany }, hplain, entity, hentity, isList => by
    rw [ofSelection_plain hplain]
    rw [Selection.Plain] at hplain
    obtain ⟨hargs, hplainOnes, hplainLists⟩ := hplain
    have hones := Selection.joinsCarry_ones hstores hkeyed hequates manyToOne hplainOnes hentity []
    have hlists := Selection.joinsCarry_lists hstores hkeyed hequates oneToMany hplainLists hentity
    let head : ReadHead := { entity := entity.name, name, fields, args }
    have hentityName : head.entity = entity.name := rfl
    have hnode := reads_node hstores hentity hentityName hargs rfl hones hlists isList
    have hdocuments : ∀ tuples, Selection.documents engine db schema layout entity.name tuples
        { name, fields, args, manyToOne, oneToMany } =
          (tuples.filter (args.keeps engine db schema layout entity.name)).map fun tuple =>
            .obj (fields.map (fieldMember engine layout entity.name tuple) ++
              (Selection.ones engine db schema layout entity.name tuple manyToOne ++
                Selection.lists engine db schema layout entity.name tuple oneToMany)) := by
      intro tuples
      simp only [Selection.documents, Selection.document, List.append_assoc]
    simp only [hdocuments]
    exact hnode

theorem Selection.joinsCarry_ones (hstores : db.Stores schema naming layout)
    (hkeyed : db.Keyed engine schema layout) (hequates : engine.Equates) :
    (children : List Selection) → Selection.AllPlain children → {entity : Entity} →
      entity ∈ schema.entities → ∀ earlier, JoinsCarry engine db schema naming false entity.name
        (layout.table entity.name) (ReadPlan.requestedJoins schema entity.name [] earlier children)
        fun tuple => Selection.ones engine db schema layout entity.name tuple children
  | [], _, entity, _, earlier => by
    rw [ReadPlan.requestedJoins]
    simp only [Selection.ones]
    exact joinsCarry_nil false _ _
  | child :: rest, hplain, entity, hentity, earlier => by
    rw [Selection.AllPlain] at hplain
    rw [ReadPlan.requestedJoins, ReadPlan.joinManyToOne]
    cases hfound : schema.manyToOne entity.name child.name with
    | error fault =>
      intro number s s' queries _ h
      exact absurd h ReadPlan.not_yields_joins_unknown
    | ok relation =>
      have hrelation := Schema.manyToOne?_of_manyToOne hfound
      obtain ⟨hmem, hname⟩ := hstores.wellFormed.mem_of_manyToOne? hentity hrelation
      obtain ⟨target, htarget, htargetName, -⟩ := hstores.wellFormed.manyToOne_target hentity hmem
      have hlink := hstores.follows.manyToOne entity hentity relation hmem
      have hjoined := hstores.conforms.joined_manyToOne hstores.wellFormed hentity hmem
      have hreads := Selection.reads hstores hkeyed hequates child hplain.1 htarget false
      rw [hname] at hlink
      rw [htargetName] at hreads
      have hrest := Selection.joinsCarry_ones hstores hkeyed hequates rest hplain.2 hentity
        (child.name :: earlier)
      have hpassing : (if child.name ∈ earlier then [] else
          SortStep.keysThrough child.name []) = [] := by
        simp [SortStep.keysThrough]
      rw [hpassing]
      simp only [Selection.ones, hrelation, List.singleton_append]
      refine joinsCarry_cons hlink hjoined hreads (fun tuple given hgiven => ?_) hrest
      rw [if_neg Bool.false_ne_true]
      refine orAbsent_documentRows engine child.name hgiven ?_
      rw [List.length_map]
      exact Nat.le_trans (List.length_filter_le _ _)
        (hkeyed.partners_le_one hequates hstores.wellFormed hentity hmem tuple)

theorem Selection.joinsCarry_lists (hstores : db.Stores schema naming layout)
    (hkeyed : db.Keyed engine schema layout) (hequates : engine.Equates) :
    (children : List Selection) → Selection.AllPlain children → {entity : Entity} →
      entity ∈ schema.entities → JoinsCarry engine db schema naming true entity.name
        (layout.table entity.name) (ReadPlan.requestedLists schema entity.name children)
        fun tuple => Selection.lists engine db schema layout entity.name tuple children
  | [], _, entity, _ => by
    rw [ReadPlan.requestedLists]
    simp only [Selection.lists]
    exact joinsCarry_nil true _ _
  | child :: rest, hplain, entity, hentity => by
    rw [Selection.AllPlain] at hplain
    rw [ReadPlan.requestedLists, ReadPlan.joinOneToMany]
    cases hfound : schema.oneToMany entity.name child.name with
    | error fault =>
      intro number s s' queries _ h
      exact absurd h ReadPlan.not_yields_joins_unknown
    | ok relation =>
      have hrelation := Schema.oneToMany?_of_oneToMany hfound
      obtain ⟨hmem, hname⟩ := hstores.wellFormed.mem_of_oneToMany? hentity hrelation
      obtain ⟨target, htarget, htargetName, -⟩ := hstores.wellFormed.oneToMany_target hentity hmem
      obtain ⟨link, hinverse, hjoined⟩ :=
        hstores.conforms.joined_oneToMany hstores.wellFormed hentity hmem
      have hlink := hstores.follows.oneToMany entity hentity relation hmem link hinverse
      have hreads := Selection.reads hstores hkeyed hequates child hplain.1 htarget true
      rw [hname] at hlink
      rw [htargetName] at hreads
      have hrest := Selection.joinsCarry_lists hstores hkeyed hequates rest hplain.2 hentity
      simp only [Selection.lists, hrelation, hinverse, List.singleton_append]
      refine joinsCarry_cons hlink hjoined hreads (fun tuple given hgiven => ?_) hrest
      rw [if_pos rfl]
      exact orAbsent_array engine child.name hgiven

end

/-! ## Requests -/

/-- The query for a read gives one array with the documents that were asked for, unless a name in it
turns out to be ambiguous. -/
theorem ReadRequest.eval_compile {entities : List Entity} {overrides : Assoc String}
    (hschema : Schema.ofEntities entities = .ok schema)
    (hnaming : Naming.ofSchema overrides schema = .ok naming) (engine : Engine V)
    (hequates : engine.Equates) (hdb : db.Conforms schema (.ofOverrides overrides))
    (hkeyed : db.Keyed engine schema (.ofOverrides overrides)) {entity : Entity}
    (hentity : entity ∈ schema.entities) {request : ReadRequest} (hplain : request.Plain)
    {selection : Selection}
    (hselection : Selection.ofRequest schema entity.name request = .ok selection)
    {s s' : Aliases} {query : Query}
    (h : Yields (selection.compile schema naming entity.name) s query s') :
    (∃ name, query.eval engine db [] = .error (.ambiguous name)) ∨
      ∃ document, query.eval engine db [] = .ok [[(selection.name, .document document)]] ∧
        document.Reordered
          (.arr (request.documents engine db schema (.ofOverrides overrides) entity.name)) := by
  have hstores := hdb.stores hschema hnaming
  obtain ⟨-, hargs, hdocument⟩ := Selection.document_ofRequest engine db (.ofOverrides overrides)
    hstores.wellFormed request hentity hselection
  have hreads := Selection.reads hstores hkeyed hequates selection
    (Selection.plain_ofRequest hplain hselection) hentity true
  have habove : ∀ outside : Outside V, outside ∈ (none : Option (Outside V)) →
      outside.Visible db [] s ((Layout.ofOverrides overrides).table entity.name) := by
    intro outside houtside
    cases houtside
  obtain ⟨-, -, hgives⟩ := hreads none [] s s' query habove h
  rcases hgives.cases with hambiguous | ⟨rows, hrows, given, hgiven, rfl⟩
  · exact .inl hambiguous
  · refine .inr ⟨.arr given, hrows, ?_⟩
    have hsame : request.documents engine db schema (.ofOverrides overrides) entity.name =
        selection.documents engine db schema (.ofOverrides overrides) entity.name
          (db ((Layout.ofOverrides overrides).table entity.name)).tuples := by
      unfold ReadRequest.documents Selection.documents
      rw [hargs]
      exact List.map_congr_left fun tuple _ => (hdocument tuple).symm
    rw [hsame]
    exact hgiven.arr

/-- The authors but for Joyce, each with the books and the authors of those. -/
def Library.authorsWithBooks : ReadRequest where
  items := [.bare "fullName", .node {
    name := "books"
    items := [.bare "title", .node { name := "writer", items := [.bare "id"] }] }]
  args := { filter := some { terms := [.predicates "id" [⟨.oneOf, .list [.int 1]⟩]] } }

theorem Library.equates_engine : Library.engine.Equates := by
  have hequal : ∀ v w, Library.engine.compare .eq v [w] = .holds ↔ v ≠ .null ∧ v = w := by
    intro v w
    show (Library.equal v w).or .fails = .holds ↔ _
    unfold Library.equal
    by_cases hnull : v = .null ∨ w = .null
    · rw [if_pos hnull]
      constructor
      · intro h
        cases h
      · rintro ⟨hv, rfl⟩
        exact absurd hnull (by simp [hv])
    · rw [if_neg hnull]
      have hv : v ≠ .null := fun h => hnull (.inl h)
      by_cases hsame : v = w
      · subst hsame
        simp [hv, Truth.ofBool, Truth.or]
      · simp [hsame, Truth.ofBool, Truth.or]
  refine ⟨fun v h => ?_, fun v w h => ?_, fun u v w h h' => ?_⟩
  · exact ((hequal _ _).1 h).1 rfl
  · obtain ⟨hv, rfl⟩ := (hequal _ _).1 h
    exact h
  · obtain ⟨hu, rfl⟩ := (hequal _ _).1 h
    exact h'

/-- Austen comes with Emma, and Emma with Austen. -/
theorem ReadRequest.eval_compile_authors : ∃ selection query s' document,
    Selection.ofRequest Library.schema "Author" Library.authorsWithBooks = .ok selection ∧
    Yields (selection.compile Library.schema Library.naming "Author") {} query s' ∧
    query.eval Library.engine Library.database [] = .ok [[("Author", .document document)]] ∧
    document.Reordered (.arr [.obj [("fullName", .str "Austen"), ("books", .arr [
      .obj [("title", .str "Emma"), ("writer", .obj [("id", .int 1)])]])]]) := by
  have hauthor : Library.entities[0] ∈ Library.schema.entities := List.mem_cons_self ..
  have hkeyed : Library.database.Keyed Library.engine Library.schema (.ofOverrides []) := by
    unfold Instance.Keyed Table.Unique
    decide +kernel
  have hplain : Library.authorsWithBooks.Plain := by
    simp [Library.authorsWithBooks, ReadRequest.Plain, ReadItem.AllPlain, ReadItem.Plain,
      ReadArgs.Plain]
  obtain ⟨selection, query, s', hselection, hname, hcompile, heval⟩ : ∃ selection query s',
      Selection.ofRequest Library.schema "Author" Library.authorsWithBooks = .ok selection ∧
      selection.name = "Author" ∧
      Yields (selection.compile Library.schema Library.naming "Author") {} query s' ∧
      (query.eval Library.engine Library.database []).isOk = true :=
    ⟨_, _, _, rfl, rfl, rfl, by decide +kernel⟩
  rcases ReadRequest.eval_compile Library.ofEntities_entities Library.ofSchema_schema Library.engine
    Library.equates_engine Library.conforms_database hkeyed hauthor hplain hselection hcompile with
    ⟨name, hambiguous⟩ | ⟨document, hdocument, hreordered⟩
  · rw [hambiguous] at heval
    cases heval
  · have hreference : Library.authorsWithBooks.documents Library.engine Library.database
        Library.schema (.ofOverrides []) "Author" = [.obj [("fullName", .str "Austen"),
          ("books", .arr [.obj [("title", .str "Emma"), ("writer", .obj [("id", .int 1)])]])]] := by
      decide +kernel
    rw [hname] at hdocument
    exact ⟨selection, query, s', document, hselection, hcompile, hdocument, hreference ▸ hreordered⟩

end EntitySql

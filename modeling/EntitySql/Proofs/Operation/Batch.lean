import EntitySql.Proofs.Binding.Literals
import EntitySql.Proofs.Operation.Written

/-!
# Batches of records

A batch is inserted as the rows of its records, one after the other.

* `WrittenRow` is what one record is written as, apart from where its placeholders start.
* `Record.exists_written` finds it, for every record that can be written at all.
* `Record.insertRows_written` and `Record.exists_insertRows` are the rows of a batch, in both
  directions: every row starts where the values of the rows before it end.
* `Operation.insertMany_concatenates` compares the plan of a batch with those of its records.
-/

namespace EntitySql

set_option autoImplicit false

/-- A row of placeholders with types, numbered after others. -/
def placeholderRow (offset : Nat) (params : List (Nat × SqlType)) : List Expr :=
  params.map fun param => .typedParam (offset + param.1) param.2

/-- What a record is written as: columns, the placeholders for them, and the values of these. -/
structure WrittenRow where
  columns : List String
  params : List (Nat × SqlType)
  values : List Json

namespace WrittenRow

/-- The statement that inserts this row only, and its parameters. -/
def single (table : String) (row : WrittenRow) : Insert × List Json :=
  ({ table, columns := row.columns, rows := [placeholderRow 0 row.params] }, row.values)

/-- The rows one after the other, each of which is numbered after the values before it. -/
def stacked (offset : Nat) : List WrittenRow → List (List Expr)
  | [] => []
  | row :: rest => placeholderRow offset row.params :: stacked (offset + row.values.length) rest

theorem length_stacked (offset : Nat) (rows : List WrittenRow) :
    (stacked offset rows).length = rows.length := by
  induction rows generalizing offset with
  | nil => rfl
  | cons row rest ih => rw [stacked, List.length_cons, ih, List.length_cons]

theorem stacked_append (offset : Nat) (rows later : List WrittenRow) :
    stacked offset (rows ++ later) =
      stacked offset rows ++ stacked (offset + (rows.flatMap values).length) later := by
  induction rows generalizing offset with
  | nil => rfl
  | cons row rest ih =>
    have hoffset : offset + row.values.length + (rest.flatMap values).length =
        offset + ((row :: rest).flatMap values).length := by
      rw [List.flatMap_cons, List.length_append]
      omega
    rw [List.cons_append, stacked, ih, stacked, hoffset, List.cons_append]

/-- The row of a record comes after those of the records before it. -/
theorem stacked_getElem? (offset : Nat) (before : List WrittenRow) (row : WrittenRow)
    (after : List WrittenRow) :
    (stacked offset (before ++ row :: after))[before.length]? =
      some (placeholderRow (offset + (before.flatMap values).length) row.params) := by
  have hlength := length_stacked offset before
  rw [stacked_append, ← hlength, List.getElem?_append_right (Nat.le_refl _), Nat.sub_self, stacked]
  rfl

theorem mem_stacked {offset : Nat} {rows : List WrittenRow} {values : List Expr}
    (h : values ∈ stacked offset rows) :
    ∃ row ∈ rows, values.length = row.params.length := by
  induction rows generalizing offset with
  | nil => cases h
  | cons row rest ih =>
    rcases List.mem_cons.1 h with rfl | h
    · exact ⟨row, List.mem_cons_self .., List.length_map _⟩
    · obtain ⟨other, hother, hlength⟩ := ih h
      exact ⟨other, List.mem_cons_of_mem _ hother, hlength⟩

end WrittenRow

variable {schema : Schema} {naming : Naming} {entity : String}

/-! ## Placeholders elsewhere -/

/-- An assignment of a placeholder may be numbered otherwise. -/
theorem exists_assignment_at {name : String} {index : Nat} {pair : Assignment}
    (h : assignment schema naming entity (name, .param index) = .ok pair) :
    ∃ column type, ∀ other, assignment schema naming entity (name, .param other) =
      .ok (column, .typedParam other type) := by
  obtain ⟨found, hresolve, hwritten⟩ := bind_eq_ok.1 h
  cases found with
  | none => exact absurd hwritten throw_ne_ok
  | some member =>
    cases member with
    | oneToMany relation => exact absurd hwritten throw_ne_ok
    | field field =>
      obtain ⟨column, hcolumn, -⟩ := bind_eq_ok.1 hwritten
      refine ⟨column, field.sqlType, fun other => ?_⟩
      rw [assignment_resolved hresolve]
      exact bind_eq_ok.2 ⟨column, hcolumn, rfl⟩
    | manyToOne relation =>
      rw [assignment_manyToOne_eq_ok hresolve rfl] at h
      obtain ⟨link, target, hlink, htarget, -⟩ := h
      refine ⟨link.fromColumn, target.sqlType, fun other => ?_⟩
      rw [assignment_manyToOne_eq_ok hresolve rfl]
      exact ⟨link, target, hlink, htarget, rfl⟩

/-- So may those of numbered keys, with the numbers counted from another one. -/
theorem exists_assignments_at {names : List String} {start : Nat} {pairs : List Assignment}
    (h : assignments schema naming entity (Record.numbered start names) = .ok pairs) (first : Nat) :
    ∃ columns params, ∀ offset, ∃ others,
      assignments schema naming entity (Record.numbered (offset + first) names) = .ok others ∧
        others.map Prod.fst = columns ∧ others.map Prod.snd = placeholderRow offset params := by
  induction names generalizing start pairs first with
  | nil => exact ⟨[], [], fun offset => ⟨[], rfl, rfl, rfl⟩⟩
  | cons name rest ih =>
    obtain ⟨pair, later, hpair, hlater, rfl⟩ := assignments_cons_eq_ok.1 h
    obtain ⟨column, type, hplaced⟩ := exists_assignment_at hpair
    obtain ⟨columns, params, hrest⟩ := ih hlater (first + 1)
    refine ⟨column :: columns, (first, type) :: params, fun offset => ?_⟩
    obtain ⟨others, hothers, hcolumns, hparams⟩ := hrest offset
    refine ⟨(column, .typedParam (offset + first) type) :: others,
      assignments_cons_eq_ok.2 ⟨_, others, hplaced _, hothers, rfl⟩, ?_, ?_⟩
    · rw [List.map_cons, hcolumns]
    · rw [List.map_cons, hparams]
      rfl

namespace Record

/-! ## One record -/

/-- From every state on, the record is bound and written as the row. -/
def Written (schema : Schema) (naming : Naming) (entity : String) (record : Record)
    (row : WrittenRow) : Prop :=
  ∀ s : Bindings, ∃ bound pairs,
    Yields (Record.bind schema entity record) s bound ⟨s.values ++ row.values⟩ ∧
      assignments schema naming entity bound = .ok pairs ∧ pairs.map Prod.fst = row.columns ∧
        pairs.map Prod.snd = placeholderRow s.values.length row.params

theorem Written.length_params {record : Record} {row : WrittenRow}
    (h : Written schema naming entity record row) : row.params.length = row.columns.length := by
  obtain ⟨bound, pairs, -, -, hcolumns, hparams⟩ := h {}
  have hlength := congrArg List.length hparams
  rw [placeholderRow, List.length_map, List.length_map] at hlength
  rw [← hlength, ← hcolumns, List.length_map]

/-- A record that is written from one state on is written from every state on. -/
theorem exists_written (hschema : schema.WellFormed) (h : naming.Covers schema) {record : Record}
    {s s' : Bindings} {bound : BoundRecord} {pairs : List Assignment}
    (hbind : Yields (Record.bind schema entity record) s bound s')
    (hpairs : assignments schema naming entity bound = .ok pairs) :
    ∃ row, Written schema naming entity record row := by
  have haccepted := (exists_assignments_iff hschema h record s).1 ⟨bound, s', pairs, hbind, hpairs⟩
  obtain ⟨columns, params, hplaced⟩ := exists_assignments_at (assignments_bind hbind hpairs).2 1
  refine ⟨⟨columns, params, Record.literals schema entity record⟩, fun t => ?_⟩
  obtain ⟨datum, t', written, hdatum, hwritten⟩ :=
    (exists_assignments_iff hschema h record t).2 haccepted
  obtain ⟨others, hothers, hcolumns, hparams⟩ := hplaced t.values.length
  have hsame : written = others :=
    Except.ok.inj ((assignments_bind hdatum hwritten).2.symm.trans hothers)
  have hvalues : t' = ⟨t.values ++ Record.literals schema entity record⟩ :=
    congrArg Bindings.mk (takes_bind schema record hdatum).values
  rw [hvalues] at hdatum
  rw [hsame] at hwritten
  exact ⟨datum, others, hdatum, hwritten, hcolumns, hparams⟩

/-- What a written record is bound to and written as, in a state. -/
theorem Written.eq {record : Record} {row : WrittenRow} (h : Written schema naming entity record row)
    {s s' : Bindings} {bound : BoundRecord} {pairs : List Assignment}
    (hbind : Yields (Record.bind schema entity record) s bound s')
    (hpairs : assignments schema naming entity bound = .ok pairs) :
    s' = ⟨s.values ++ row.values⟩ ∧ pairs.map Prod.fst = row.columns ∧
      pairs.map Prod.snd = placeholderRow s.values.length row.params := by
  obtain ⟨other, others, hother, hothers, hcolumns, hparams⟩ := h s
  cases hbind.symm.trans hother
  cases hpairs.symm.trans hothers
  exact ⟨rfl, hcolumns, hparams⟩

/-! ## Several records -/

/-- The rows of a batch are the stacked rows of its records, which have the same columns. -/
theorem insertRows_written (hschema : schema.WellFormed) (h : naming.Covers schema)
    {data : List Record} {s s' : Bindings} {records : List BoundRecord}
    {before : Option (List String)} {columns : List String} {values : List (List Expr)}
    (hbind : Yields (bindAll schema entity data) s records s')
    (hrows : insertRows schema naming entity before records = .ok (columns, values)) :
    ∃ rows, List.Forall₂ (Written schema naming entity) data rows ∧
      (∀ expected ∈ before, columns = expected) ∧ (∀ row ∈ rows, row.columns = columns) ∧
        values = WrittenRow.stacked s.values.length rows ∧
          s' = ⟨s.values ++ rows.flatMap WrittenRow.values⟩ := by
  induction data generalizing s records before columns values with
  | nil =>
    obtain ⟨rfl, rfl⟩ := yields_pure.1 hbind
    cases hrows
    refine ⟨[], .nil, fun expected hexpected => ?_, nofun, rfl, ?_⟩
    · rw [hexpected, Option.getD_some]
    · rw [List.flatMap_nil, List.append_nil]
  | cons record rest ih =>
    rw [bindAll] at hbind
    obtain ⟨bound, s₁, hbound, hbind⟩ := yields_bind.1 hbind
    obtain ⟨others, s₂, hothers, hbind⟩ := yields_bind.1 hbind
    obtain ⟨rfl, rfl⟩ := yields_pure.1 hbind
    obtain ⟨pairs, all, later, hpairs, hsame, hlater, heq⟩ := insertRows_cons_eq_ok.1 hrows
    cases heq
    obtain ⟨row, hrow⟩ := exists_written hschema h hbound hpairs
    obtain ⟨rfl, hcolumns, hparams⟩ := hrow.eq hbound hpairs
    obtain ⟨rows, hwritten, hbefore, hall, hvalues, hs'⟩ := ih hothers hlater
    -- the columns of the first record are those that the rest is compared with
    have hfirst : columns = pairs.map Prod.fst := hbefore _ rfl
    refine ⟨row :: rows, .cons hrow hwritten, ?_, ?_, ?_, ?_⟩
    · intro expected hexpected
      rw [hsame expected hexpected, hfirst]
    · refine List.forall_mem_cons.2 ⟨?_, hall⟩
      rw [← hcolumns, hfirst]
    · rw [hvalues, hparams, WrittenRow.stacked, List.length_append]
    · rw [hs', List.flatMap_cons, List.append_assoc]

/-- Written records with the same columns make a batch of these rows. -/
theorem exists_insertRows {data : List Record} {rows : List WrittenRow}
    (hwritten : List.Forall₂ (Written schema naming entity) data rows) {columns : List String}
    (hcolumns : ∀ row ∈ rows, row.columns = columns) {before : Option (List String)}
    (hbefore : ∀ expected ∈ before, expected = columns) (s : Bindings) :
    ∃ records s' all, Yields (bindAll schema entity data) s records s' ∧
      insertRows schema naming entity before records =
        .ok (all, WrittenRow.stacked s.values.length rows) ∧
          (∀ expected ∈ before, expected = all) ∧ ∀ row ∈ rows, row.columns = all := by
  induction hwritten generalizing before s with
  | nil =>
    refine ⟨[], s, before.getD [], yields_pure.2 ⟨rfl, rfl⟩, rfl, fun expected hexpected => ?_, nofun⟩
    rw [hexpected, Option.getD_some]
  | @cons record row rest others hrow hrest ih =>
    obtain ⟨hfirst, hothers⟩ := List.forall_mem_cons.1 hcolumns
    obtain ⟨bound, pairs, hbound, hpairs, hpairColumns, hparams⟩ := hrow s
    have hsame : pairs.map Prod.fst = columns := hpairColumns.trans hfirst
    obtain ⟨records, s', all, hrecords, hlater, hkept, hall⟩ := ih hothers
      (fun expected hexpected => (Option.some.inj hexpected).symm.trans hsame)
      ⟨s.values ++ row.values⟩
    have hfound : pairs.map Prod.fst = all := hkept _ rfl
    refine ⟨bound :: records, s', all, ?_, ?_, ?_, List.forall_mem_cons.2 ⟨?_, hall⟩⟩
    · rw [bindAll]
      exact yields_bind.2 ⟨bound, _, hbound, yields_bind.2 ⟨records, s', hrecords,
        yields_pure.2 ⟨rfl, rfl⟩⟩⟩
    · refine insertRows_cons_eq_ok.2 ⟨pairs, all, _, hpairs, ?_, hlater, ?_⟩
      · intro expected hexpected
        rw [hbefore expected hexpected, hsame]
      · rw [hparams, WrittenRow.stacked, List.length_append]
    · intro expected hexpected
      rw [hbefore expected hexpected, ← hsame, hfound]
    · rw [← hpairColumns, hfound]

end Record

/-! ## Plans -/

/-- The statement is checked if it has columns, and rows of their length. -/
theorem Insert.checked_eq_ok_of_widths {insert : Insert} (hcolumns : insert.columns ≠ [])
    (hrows : insert.rows ≠ []) (hwidths : ∀ row ∈ insert.rows, row.length = insert.columns.length) :
    insert.checked = .ok insert := by
  have hfind : insert.rows.find? (·.length ≠ insert.columns.length) = none := by
    rw [List.find?_eq_none]
    intro row hrow
    rw [hwidths row hrow]
    simp
  rw [Insert.checked, if_neg (mt List.isEmpty_iff.1 hcolumns), if_neg (mt List.isEmpty_iff.1 hrows),
    hfind]

/-- A statement that inserts the rows of others, which have one row each. The placeholders of a row are
counted on from the parameters of the rows before it. -/
structure Insert.Concatenates (batch : Insert) (singles : List (Insert × List Json))
    (values : List Json) : Prop where
  table : ∀ single ∈ singles, single.1.table = batch.table
  columns : ∀ single ∈ singles, single.1.columns = batch.columns
  values : values = singles.flatMap Prod.snd
  length : batch.rows.length = singles.length
  row : ∀ before single after, singles = before ++ single :: after → ∃ params,
    single.1.rows = [placeholderRow 0 params] ∧
      batch.rows[before.length]? =
        some (placeholderRow (before.flatMap Prod.snd).length params)

theorem WrittenRow.concatenates {rows : List WrittenRow} {columns : List String}
    (hcolumns : ∀ row ∈ rows, row.columns = columns) (table : String) :
    Insert.Concatenates { table, columns, rows := stacked 0 rows } (rows.map (single table))
      (rows.flatMap values) where
  table := List.forall_mem_map.2 fun _ _ => rfl
  columns := List.forall_mem_map.2 hcolumns
  values := (List.flatMap_map (single table) Prod.snd rows).symm
  length := by rw [length_stacked, List.length_map]
  row := by
    intro before written after hsplit
    obtain ⟨first, others, rfl, rfl, hothers⟩ := List.map_eq_append_iff.1 hsplit
    obtain ⟨row, later, rfl, rfl, rfl⟩ := List.map_eq_cons_iff.1 hothers
    refine ⟨row.params, rfl, ?_⟩
    have hvalues : (first.map (single table)).flatMap Prod.snd = first.flatMap values :=
      List.flatMap_map ..
    rw [List.length_map, stacked_getElem?, Nat.zero_add, hvalues]

namespace Operation

/-- A written record with columns is inserted as its row, into a table that there is. -/
theorem plan_insert_written {record : Record} {row : WrittenRow}
    (h : Record.Written schema naming entity record row) {table : String}
    (htable : naming.table entity = .ok table) (hcolumns : row.columns ≠ []) :
    (insert entity record).plan schema naming =
      .ok (.count ⟨.insert (row.single table).1, (row.single table).2⟩) := by
  obtain ⟨bound, pairs, hbound, hpairs, hrow, hparams⟩ := h {}
  have hsome : pairs ≠ [] := by
    rintro rfl
    exact hcolumns hrow.symm
  refine plan_insert_eq_ok.2 ⟨bound, _, pairs, table, hbound, hpairs, htable, hsome, ?_⟩
  rw [hrow, hparams]
  rfl

/-- A record that is inserted is written as a row with these columns. -/
theorem written_of_plan_insert (hschema : schema.WellFormed) (h : naming.Covers schema)
    {record : Record} {single : Insert} {values : List Json}
    (hplan : (insert entity record).plan schema naming = .ok (.count ⟨.insert single, values⟩)) :
    ∃ row, Record.Written schema naming entity record row ∧ row.columns = single.columns ∧
      single.columns ≠ [] ∧ naming.table entity = .ok single.table := by
  obtain ⟨bound, s', pairs, table, hbound, hpairs, htable, hsome, heq⟩ := plan_insert_eq_ok.1 hplan
  cases heq
  obtain ⟨row, hrow⟩ := Record.exists_written hschema h hbound hpairs
  obtain ⟨-, hcolumns, -⟩ := hrow.eq hbound hpairs
  exact ⟨row, hrow, hcolumns.symm, mt List.map_eq_nil_iff.1 hsome, htable⟩

/-- Records that are inserted with the same columns are written as rows with these. -/
theorem exists_rows_of_plan_insert (hschema : schema.WellFormed) (h : naming.Covers schema)
    {columns : List String} {data : List Record}
    (hplans : ∀ record ∈ data, ∃ single values, (insert entity record).plan schema naming =
      .ok (.count ⟨.insert single, values⟩) ∧ single.columns = columns) :
    ∃ rows, List.Forall₂ (Record.Written schema naming entity) data rows ∧
      ∀ row ∈ rows, row.columns = columns := by
  induction data with
  | nil => exact ⟨[], .nil, nofun⟩
  | cons record rest ih =>
    obtain ⟨⟨single, values, hplan, hcolumns⟩, hrest⟩ := List.forall_mem_cons.1 hplans
    obtain ⟨row, hrow, hsame, -, -⟩ := written_of_plan_insert hschema h hplan
    obtain ⟨rows, hrows, hall⟩ := ih hrest
    exact ⟨row :: rows, .cons hrow hrows, List.forall_mem_cons.2 ⟨hsame.trans hcolumns, hall⟩⟩

theorem plan_insertMany_eq_ok {data : List Record} (hdata : data ≠ []) {plan : OperationPlan} :
    (insertMany entity data).plan schema naming = .ok plan ↔ ∃ records s' columns rows table,
      Yields (Record.bindAll schema entity data) {} records s' ∧
        insertRows schema naming entity none records = .ok (columns, rows) ∧
          naming.table entity = .ok table ∧
            Insert.checked { table, columns, rows } = .ok { table, columns, rows } ∧
              plan = .count ⟨.insert { table, columns, rows }, s'.values⟩ := by
  rw [Operation.plan, planInsert_eq_ok]
  constructor
  · rintro (⟨hnil, -⟩ | ⟨-, records, insert, s', hbind, hinsert, rfl⟩)
    · exact absurd hnil hdata
    · obtain ⟨columns, rows, table, hrows, htable, hchecked⟩ := compileInsert_eq_ok.1 hinsert
      obtain rfl := Insert.checked_eq_ok hchecked
      exact ⟨records, s', columns, rows, table, hbind, hrows, htable, hchecked, rfl⟩
  · rintro ⟨records, s', columns, rows, table, hbind, hrows, htable, hchecked, rfl⟩
    exact .inr ⟨hdata, records, _, s', hbind,
      compileInsert_eq_ok.2 ⟨columns, rows, table, hrows, htable, hchecked⟩, rfl⟩

/-- What the plan of a batch inserts, for records that are written as the rows. -/
theorem exists_rows_of_plan_insertMany (hschema : schema.WellFormed) (h : naming.Covers schema)
    {data : List Record} (hdata : data ≠ []) {plan : OperationPlan}
    (hplan : (insertMany entity data).plan schema naming = .ok plan) :
    ∃ rows columns table, List.Forall₂ (Record.Written schema naming entity) data rows ∧
      (∀ row ∈ rows, row.columns = columns) ∧ columns ≠ [] ∧ naming.table entity = .ok table ∧
        plan = .count ⟨.insert { table, columns, rows := WrittenRow.stacked 0 rows },
          rows.flatMap WrittenRow.values⟩ := by
  obtain ⟨records, s', columns, values, table, hbind, hvalues, htable, hchecked, rfl⟩ :=
    (plan_insertMany_eq_ok hdata).1 hplan
  obtain ⟨rows, hwritten, -, hcolumns, rfl, rfl⟩ :=
    Record.insertRows_written hschema h hbind hvalues
  refine ⟨rows, columns, table, hwritten, hcolumns, ?_, htable, rfl⟩
  rintro rfl
  cases hchecked

/-- Written records with the same columns, if they have any, are planned as a batch. -/
theorem exists_plan_insertMany {data : List Record} (hdata : data ≠ []) {rows : List WrittenRow}
    (hwritten : List.Forall₂ (Record.Written schema naming entity) data rows)
    {columns : List String} (hcolumns : ∀ row ∈ rows, row.columns = columns)
    (hsome : columns ≠ []) {table : String} (htable : naming.table entity = .ok table) :
    ∃ plan, (insertMany entity data).plan schema naming = .ok plan := by
  obtain ⟨records, s', all, hbind, hrows, -, hall⟩ :=
    Record.exists_insertRows hwritten hcolumns (nofun : ∀ expected ∈ none, expected = columns) {}
  obtain ⟨row, others, rfl⟩ : ∃ row others, rows = row :: others := by
    cases hwritten with
    | nil => exact absurd rfl hdata
    | cons => exact ⟨_, _, rfl⟩
  have hfound : all = columns := by
    rw [← hall row (List.mem_cons_self ..), hcolumns row (List.mem_cons_self ..)]
  have hchecked :
      Insert.checked { table, columns := all, rows := WrittenRow.stacked 0 (row :: others) } =
        .ok { table, columns := all, rows := WrittenRow.stacked 0 (row :: others) } := by
    refine Insert.checked_eq_ok_of_widths (hfound ▸ hsome) (List.cons_ne_nil _ _) ?_
    intro values hvalues
    obtain ⟨written, hmem, hlength⟩ := WrittenRow.mem_stacked hvalues
    obtain ⟨record, -, hrecord⟩ := exists_of_mem_right hwritten hmem
    rw [hlength, hrecord.length_params, hall written hmem]
  exact ⟨_, (plan_insertMany_eq_ok hdata).2
    ⟨records, s', all, _, table, hbind, hrows, htable, hchecked, rfl⟩⟩

/-- A batch is planned if its records are planned one by one and have the same columns, and only then.
It has these columns, the parameters of its records one after the other, and for each of them a row in
which the placeholders are counted on from the parameters of the records before. -/
theorem insertMany_concatenates {entities : List Entity} {overrides : Assoc String}
    (hschema : Schema.ofEntities entities = .ok schema)
    (hnaming : Naming.ofSchema overrides schema = .ok naming) (entity : String)
    {data : List Record} (hdata : data ≠ []) :
    ((∃ plan, (insertMany entity data).plan schema naming = .ok plan) ↔
      ∃ columns, ∀ record ∈ data, ∃ single values, (insert entity record).plan schema naming =
        .ok (.count ⟨.insert single, values⟩) ∧ single.columns = columns) ∧
    ∀ plan, (insertMany entity data).plan schema naming = .ok plan →
      ∃ batch singles values, plan = .count ⟨.insert batch, values⟩ ∧
        List.Forall₂ (fun record (single : Insert × List Json) =>
          (insert entity record).plan schema naming =
            .ok (.count ⟨.insert single.1, single.2⟩)) data singles ∧
        batch.Concatenates singles values := by
  obtain ⟨rfl, hwellFormed⟩ := Schema.ofEntities_eq_ok.1 hschema
  have hcovers := Naming.covers_of_follows hwellFormed
    (Naming.follows_of_ofSchema hwellFormed hnaming)
  have hbatch : ∀ plan, (insertMany entity data).plan ⟨entities⟩ naming = .ok plan →
      ∃ batch singles values, plan = .count ⟨.insert batch, values⟩ ∧
        List.Forall₂ (fun record (single : Insert × List Json) =>
          (insert entity record).plan ⟨entities⟩ naming =
            .ok (.count ⟨.insert single.1, single.2⟩)) data singles ∧
        batch.Concatenates singles values := by
    intro plan hplan
    obtain ⟨rows, columns, table, hwritten, hcolumns, hsome, htable, rfl⟩ :=
      exists_rows_of_plan_insertMany hwellFormed hcovers hdata hplan
    refine ⟨_, rows.map (WrittenRow.single table), _, rfl, ?_,
      WrittenRow.concatenates hcolumns table⟩
    rw [List.forall₂_map_right_iff, List.forall₂_iff_zip]
    refine ⟨hwritten.length_eq, fun {record row} hmem => ?_⟩
    have hrow : row.columns ≠ [] := by
      rw [hcolumns row (List.of_mem_zip hmem).2]
      exact hsome
    exact plan_insert_written (List.forall₂_zip hwritten hmem) htable hrow
  refine ⟨⟨?_, ?_⟩, hbatch⟩
  · rintro ⟨plan, hplan⟩
    obtain ⟨batch, singles, values, -, hsingles, hconcatenates⟩ := hbatch plan hplan
    refine ⟨batch.columns, fun record hrecord => ?_⟩
    obtain ⟨single, hsingle, hplanned⟩ := exists_of_mem_left hsingles hrecord
    exact ⟨single.1, single.2, hplanned, hconcatenates.columns single hsingle⟩
  · rintro ⟨columns, hsingles⟩
    obtain ⟨record, hrecord⟩ := List.exists_mem_of_ne_nil data hdata
    obtain ⟨single, values, hplan, rfl⟩ := hsingles record hrecord
    obtain ⟨-, -, -, hsome, htable⟩ := written_of_plan_insert hwellFormed hcovers hplan
    obtain ⟨rows, hwritten, hcolumns⟩ := exists_rows_of_plan_insert hwellFormed hcovers hsingles
    exact exists_plan_insertMany hdata hwritten hcolumns hsome htable

end Operation

/-- A title, and no author. -/
def Library.anonymousBeowulf : Record :=
  [("title", .str "Beowulf"), ("writer", .null)]

/-- Two books are inserted at once, as each of them would be. -/
theorem Operation.insertMany_concatenates_books :
    ∃ batch singles values,
      (insertMany "Book" [Library.emmaByAusten, Library.anonymousBeowulf]).plan Library.schema
        Library.naming = .ok (.count ⟨.insert batch, values⟩) ∧
      singles.length = 2 ∧ batch.Concatenates singles values := by
  have hbooks : [Library.emmaByAusten, Library.anonymousBeowulf] ≠ [] := List.cons_ne_nil _ _
  obtain ⟨hplanned, hconcatenates⟩ := Operation.insertMany_concatenates
    Library.ofEntities_entities Library.ofSchema_schema "Book" hbooks
  have hbatch : ∀ record ∈ [Library.emmaByAusten, Library.anonymousBeowulf], ∃ single values,
      (insert "Book" record).plan Library.schema Library.naming =
        .ok (.count ⟨.insert single, values⟩) ∧ single.columns = ["title", "writer_id"] :=
    List.forall_mem_cons.2 ⟨⟨_, _, rfl, rfl⟩, List.forall_mem_singleton.2 ⟨_, _, rfl, rfl⟩⟩
  obtain ⟨plan, hplan⟩ := hplanned.2 ⟨_, hbatch⟩
  obtain ⟨batch, singles, values, rfl, hsingles, hconcatenated⟩ := hconcatenates plan hplan
  exact ⟨batch, singles, values, hplan, hsingles.length_eq.symm, hconcatenated⟩

end EntitySql

import MysqlChReplicator.Ddl.AlterTable

/-!
# The schema pair over runs of ALTER statements

Every sub-operation either leaves the state alone, or replaces the pair of the statement's
table: by a handler, which keeps the pair in lockstep, or by an `ADD COLUMN`, which inserts
the new column at the same position in both structures when they are in lockstep and
otherwise raises before changing anything. So lockstep holds over whole runs, a sub-operation
that raises changes nothing, and a statement that raises keeps what its earlier
sub-operations did.
-/

namespace MysqlChReplicator.Ddl

open Python Converter TableStructure

namespace AddColumn

/-- The position an `ADD COLUMN` asks for among the MySQL field names: 0 for `FIRST`; right
after the last column of the `AFTER` name; by default right after the last column named as
the last column is once stripped. -/
def requestedPosition (column : AddColumn) (names : List String) : Option Nat :=
  match column.position with
  | .first => some 0
  | .after name => positionAfter names name
  | .last => names.getLast?.bind fun last => positionAfter names (stripSqlName last)

/-- By default the new column goes last when the last column's name is its own stripped
name. -/
theorem requestedPosition_last (column : AddColumn) {names : List String}
    {lastName : String} (isDefault : column.position = .last)
    (lastIs : names.getLast? = some lastName) (stable : stripSqlName lastName = lastName) :
    column.requestedPosition names = some names.length := by
  obtain ⟨front, rfl⟩ := List.getLast?_eq_some_iff.mp lastIs
  simp [requestedPosition, isDefault, stable, positionAfter_append_singleton]

/-- The pair with the new column inserted at the same position in both structures. -/
def Inserted (column : AddColumn) (pair : TablePair) (position : Nat) (changed : TablePair) :
    Prop :=
  changed.1.fields = pair.1.fields.insertIdx position column.mysqlField ∧
    changed.2.fields = pair.2.fields.insertIdx position column.chField

variable (column : AddColumn) {pair : TablePair}

theorem addAfter_spec (lockstep : pair.Lockstep) (after : String) :
    match positionAfter pair.1.fieldNames after with
    | some position =>
        ∃ changed, column.addAfter pair after = (changed, .ok ()) ∧
          column.Inserted pair position changed
    | none => ∃ e, column.addAfter pair after = (pair, .error e) := by
  cases found : positionAfter pair.1.fieldNames after with
  | none => exact ⟨.exception "field after not found", by simp [addAfter, addFieldAfter, found]⟩
  | some position =>
      have foundCh : positionAfter pair.2.fieldNames after = some position := by
        rw [← lockstep]
        exact found
      obtain ⟨mysql, mysqlOk, mysqlFields⟩ := addFieldAfter_of_positionAfter found column.mysqlField
      obtain ⟨ch, chOk, chFields⟩ := addFieldAfter_of_positionAfter foundCh column.chField
      exact ⟨(mysql, ch), by simp [addAfter, mysqlOk, chOk], mysqlFields, chFields⟩

/-- On a pair in lockstep, `ADD COLUMN` inserts at the requested position in both
structures, or raises and changes nothing. -/
theorem apply_spec (lockstep : pair.Lockstep) :
    match column.requestedPosition pair.1.fieldNames with
    | some position =>
        ∃ changed, column.apply pair = (changed, .ok ()) ∧ column.Inserted pair position changed
    | none => ∃ e, column.apply pair = (pair, .error e) := by
  cases requested : column.position with
  | first =>
      simp only [requestedPosition, requested]
      exact ⟨(pair.1.addFieldFirst column.mysqlField, pair.2.addFieldFirst column.chField),
        by simp [apply, requested], by simp [Inserted, List.insertIdx_zero, addFieldFirst]⟩
  | after name =>
      simpa only [requestedPosition, apply, requested] using column.addAfter_spec lockstep name
  | last =>
      cases lastField : pair.1.fields.getLast? with
      | none =>
          have noName : pair.1.fieldNames.getLast? = none := by
            simp [fieldNames, List.getLast?_map, lastField]
          simp only [requestedPosition, requested, noName, Option.none_bind, apply, lastField]
          exact ⟨_, rfl⟩
      | some field =>
          have lastName : pair.1.fieldNames.getLast? = some field.name := by
            simp [fieldNames, List.getLast?_map, lastField]
          simpa only [requestedPosition, requested, lastName, Option.some_bind, apply, lastField]
            using column.addAfter_spec lockstep (stripSqlName field.name)

theorem Inserted.lockstep {column : AddColumn} {position : Nat} {changed : TablePair}
    (inserted : column.Inserted pair position changed) (lockstep : pair.Lockstep) :
    changed.Lockstep := by
  unfold TablePair.Lockstep at lockstep ⊢
  rw [fieldNames_of_fields inserted.1, fieldNames_of_fields inserted.2, lockstep]
  rfl

theorem apply_lockstep (lockstep : pair.Lockstep) : (column.apply pair).1.Lockstep := by
  have spec := column.apply_spec lockstep
  split at spec
  · obtain ⟨changed, applied, inserted⟩ := spec
    rw [applied]
    exact inserted.lockstep lockstep
  · obtain ⟨e, applied⟩ := spec
    rw [applied]
    exact lockstep

theorem apply_error (lockstep : pair.Lockstep) {e : PyError}
    (raised : (column.apply pair).2 = .error e) : (column.apply pair).1 = pair := by
  have spec := column.apply_spec lockstep
  split at spec
  · obtain ⟨changed, applied, -⟩ := spec
    rw [applied] at raised
    cases raised
  · obtain ⟨e, applied⟩ := spec
    rw [applied]

end AddColumn

/-! ## One sub-operation -/

section Step

variable (converter : MysqlToClickhouseConverter) (handlers : ColumnHandlers)
  (state : ReplicatorState) (tableName : String)

theorem convertAlterTableAddColumn_cases (tokens : List String) :
    (convertAlterTableAddColumn converter state tableName tokens).1 = state ∨
      ∃ pair column, state.tablesStructure tableName = some pair ∧
        planAddColumn converter tokens = .ok column ∧
        convertAlterTableAddColumn converter state tableName tokens =
          (state.setTable tableName (column.apply pair).1, (column.apply pair).2) := by
  unfold convertAlterTableAddColumn
  split
  · exact .inl rfl
  · split
    · exact .inl rfl
    · split
      · exact .inl rfl
      · exact .inr ⟨_, _, ‹_›, ‹_›, rfl⟩

theorem applyHandler_cases (handler : PairHandler) (tokens : List String) :
    (applyHandler converter handler state tableName tokens).1 = state ∨
      ∃ pair changed, state.tablesStructure tableName = some pair ∧
        handler tokens pair = .ok changed ∧
        applyHandler converter handler state tableName tokens =
          (state.setTable tableName changed, .ok ()) := by
  unfold applyHandler
  split
  · exact .inl rfl
  · split
    · exact .inl rfl
    · split
      · exact .inr ⟨_, _, ‹_›, ‹_›, rfl⟩
      · exact .inl rfl

/-- What one sub-operation can do: nothing to the state, an `ADD COLUMN`, or one of the
drop, modify and change handlers. Which one, and on which tokens, the text decides: the state
is only passed on. -/
theorem convertSubquery_dispatch (mysqlQuery subquery : String) :
    (∃ result, ∀ state, convertSubquery converter handlers state tableName mysqlQuery subquery =
        (state, result)) ∨
      (∃ tokens, ∀ state, convertSubquery converter handlers state tableName mysqlQuery subquery =
        convertAlterTableAddColumn converter state tableName tokens) ∨
      ∃ handler tokens,
        handler ∈ [handlers.dropColumn, handlers.modifyColumn, handlers.changeColumn] ∧
        ∀ state, convertSubquery converter handlers state tableName mysqlQuery subquery =
          applyHandler converter handler state tableName tokens := by
  unfold convertSubquery
  dsimp only
  rcases split (strip subquery) with _ | ⟨op, _ | ⟨head, rest⟩⟩
  · exact .inl ⟨_, fun _ => rfl⟩
  · exact .inl ⟨_, fun _ => rfl⟩
  dsimp only
  generalize (if lower head = "column" then rest else head :: rest) = tokens
  by_cases add : lower op = "add"
  · simp only [if_pos add]
    rcases tokens with _ | ⟨target, _⟩
    · exact .inl ⟨_, fun _ => rfl⟩
    · dsimp only
      cases skippedTargets.contains (lower target)
      · exact .inr (.inl ⟨_, fun _ => rfl⟩)
      · exact .inl ⟨_, fun _ => rfl⟩
  simp only [if_neg add]
  by_cases drop : lower op = "drop"
  · simp only [if_pos drop]
    rcases tokens with _ | ⟨target, _⟩
    · exact .inl ⟨_, fun _ => rfl⟩
    · dsimp only
      cases skippedTargets.contains (lower target)
      · exact .inr (.inr ⟨_, _, by simp, fun _ => rfl⟩)
      · exact .inl ⟨_, fun _ => rfl⟩
  simp only [if_neg drop]
  by_cases modify : lower op = "modify"
  · simp only [if_pos modify]
    exact .inr (.inr ⟨_, _, by simp, fun _ => rfl⟩)
  simp only [if_neg modify]
  by_cases alter : lower op = "alter"
  · simp only [if_pos alter]
    exact .inl ⟨_, fun _ => rfl⟩
  simp only [if_neg alter]
  by_cases autoIncrement : lower op = "auto_increment"
  · simp only [if_pos autoIncrement]
    exact .inl ⟨_, fun _ => rfl⟩
  simp only [if_neg autoIncrement]
  by_cases change : lower op = "change"
  · simp only [if_pos change]
    exact .inr (.inr ⟨_, _, by simp, fun _ => rfl⟩)
  simp only [if_neg change]
  exact .inl ⟨_, fun _ => rfl⟩

/-- What one sub-operation can do: nothing to the state, an `ADD COLUMN`, or a handler that
keeps lockstep. -/
theorem convertSubquery_cases (mysqlQuery subquery : String) :
    (∃ result, convertSubquery converter handlers state tableName mysqlQuery subquery =
        (state, result)) ∨
      (∃ tokens, convertSubquery converter handlers state tableName mysqlQuery subquery =
        convertAlterTableAddColumn converter state tableName tokens) ∨
      ∃ handler tokens, handler.KeepsLockstep ∧
        convertSubquery converter handlers state tableName mysqlQuery subquery =
          applyHandler converter handler state tableName tokens := by
  rcases convertSubquery_dispatch converter handlers tableName mysqlQuery subquery with
    ⟨result, same⟩ | ⟨tokens, added⟩ | ⟨handler, tokens, member, handled⟩
  · exact .inl ⟨result, same state⟩
  · exact .inr (.inl ⟨tokens, added state⟩)
  · refine .inr (.inr ⟨handler, tokens, ?_, handled state⟩)
    simp only [List.mem_cons, List.mem_singleton, List.not_mem_nil, or_false] at member
    rcases member with rfl | rfl | rfl
    · exact handlers.dropColumn_keepsLockstep
    · exact handlers.modifyColumn_keepsLockstep
    · exact handlers.changeColumn_keepsLockstep

variable {state}

theorem ReplicatorState.Lockstep.setTable (lockstep : state.Lockstep) {pair : TablePair}
    (pairLockstep : pair.Lockstep) : (state.setTable tableName pair).Lockstep := by
  intro name changed found
  by_cases same : name = tableName
  · simp only [same, ReplicatorState.setTable_same, Option.some.injEq] at found
    exact found ▸ pairLockstep
  · rw [ReplicatorState.setTable_other state pair same] at found
    exact lockstep name changed found

theorem convertAlterTableAddColumn_lockstep (lockstep : state.Lockstep) (tokens : List String) :
    (convertAlterTableAddColumn converter state tableName tokens).1.Lockstep := by
  rcases convertAlterTableAddColumn_cases converter state tableName tokens with
    same | ⟨pair, column, found, -, added⟩
  · rw [same]
    exact lockstep
  · rw [added]
    exact lockstep.setTable tableName (column.apply_lockstep (lockstep tableName pair found))

theorem applyHandler_lockstep (lockstep : state.Lockstep) {handler : PairHandler}
    (keeps : handler.KeepsLockstep) (tokens : List String) :
    (applyHandler converter handler state tableName tokens).1.Lockstep := by
  rcases applyHandler_cases converter state tableName handler tokens with
    same | ⟨pair, changed, found, handled, applied⟩
  · rw [same]
    exact lockstep
  · rw [applied]
    exact lockstep.setTable tableName (keeps tokens pair changed handled (lockstep tableName pair found))

theorem convertSubquery_lockstep (lockstep : state.Lockstep) (mysqlQuery subquery : String) :
    (convertSubquery converter handlers state tableName mysqlQuery subquery).1.Lockstep := by
  rcases convertSubquery_cases converter handlers state tableName mysqlQuery subquery with
    ⟨result, same⟩ | ⟨tokens, added⟩ | ⟨handler, tokens, keeps, handled⟩
  · rw [same]
    exact lockstep
  · rw [added]
    exact convertAlterTableAddColumn_lockstep converter tableName lockstep tokens
  · rw [handled]
    exact applyHandler_lockstep converter tableName lockstep keeps tokens

/-- A sub-operation that raises on a state in lockstep leaves the state as it was. -/
theorem convertSubquery_error (lockstep : state.Lockstep) {mysqlQuery subquery : String}
    {e : PyError}
    (raised : (convertSubquery converter handlers state tableName mysqlQuery subquery).2 =
      .error e) :
    (convertSubquery converter handlers state tableName mysqlQuery subquery).1 = state := by
  rcases convertSubquery_cases converter handlers state tableName mysqlQuery subquery with
    ⟨result, same⟩ | ⟨tokens, added⟩ | ⟨handler, tokens, -, handled⟩
  · rw [same]
  · rw [added] at raised ⊢
    rcases convertAlterTableAddColumn_cases converter state tableName tokens with
      same | ⟨pair, column, found, -, applied⟩
    · exact same
    · rw [applied] at raised ⊢
      rw [column.apply_error (lockstep tableName pair found) raised]
      exact ReplicatorState.setTable_current found
  · rw [handled] at raised ⊢
    rcases applyHandler_cases converter state tableName handler tokens with
      same | ⟨pair, changed, -, -, applied⟩
    · exact same
    · rw [applied] at raised
      cases raised

/-- A sub-operation changes no table but its own. -/
theorem convertSubquery_frame (mysqlQuery subquery : String) {name : String}
    (other : name ≠ tableName) :
    (convertSubquery converter handlers state tableName mysqlQuery subquery).1.tablesStructure
      name = state.tablesStructure name := by
  rcases convertSubquery_cases converter handlers state tableName mysqlQuery subquery with
    ⟨result, same⟩ | ⟨tokens, added⟩ | ⟨handler, tokens, -, handled⟩
  · rw [same]
  · rw [added]
    rcases convertAlterTableAddColumn_cases converter state tableName tokens with
      same | ⟨pair, column, -, -, applied⟩
    · rw [same]
    · rw [applied, ReplicatorState.setTable_other _ _ other]
  · rw [handled]
    rcases applyHandler_cases converter state tableName handler tokens with
      same | ⟨pair, changed, -, -, applied⟩
    · rw [same]
    · rw [applied, ReplicatorState.setTable_other _ _ other]

end Step

/-! ## Whole statements and runs -/

section Runs

variable (converter : MysqlToClickhouseConverter) (handlers : ColumnHandlers)
  (tableName mysqlQuery : String)

theorem runSubqueries_lockstep :
    ∀ {state : ReplicatorState} (subqueries : List String), state.Lockstep →
      (runSubqueries converter handlers tableName mysqlQuery state subqueries).1.Lockstep
  | _, [], lockstep => lockstep
  | state, subquery :: subqueries, lockstep => by
      have stepLockstep :=
        convertSubquery_lockstep converter handlers tableName lockstep mysqlQuery subquery
      unfold runSubqueries
      split
      · next after stepped =>
          rw [stepped] at stepLockstep
          exact runSubqueries_lockstep subqueries stepLockstep
      · next after e stepped =>
          rw [stepped] at stepLockstep
          exact stepLockstep

theorem runSubqueries_frame {name : String} (other : name ≠ tableName) :
    ∀ (state : ReplicatorState) (subqueries : List String),
      (runSubqueries converter handlers tableName mysqlQuery state subqueries).1.tablesStructure
        name = state.tablesStructure name
  | _, [] => rfl
  | state, subquery :: subqueries => by
      have kept :=
        @convertSubquery_frame converter handlers state tableName mysqlQuery subquery name other
      unfold runSubqueries
      split
      · next after stepped =>
          rw [runSubqueries_frame other after subqueries, ← kept, stepped]
      · next after e stepped => rw [← kept, stepped]

/-- A loop that raises stops at a sub-operation that changes nothing, after a prefix of
sub-operations that all succeeded. -/
theorem runSubqueries_error :
    ∀ {state after : ReplicatorState} {e : PyError} (subqueries : List String), state.Lockstep →
      runSubqueries converter handlers tableName mysqlQuery state subqueries = (after, .error e) →
      ∃ done failing later, subqueries = done ++ failing :: later ∧
        runSubqueries converter handlers tableName mysqlQuery state done = (after, .ok ()) ∧
        convertSubquery converter handlers after tableName mysqlQuery failing = (after, .error e)
  | _, _, _, [], _, raised => by cases raised
  | state, after, e, subquery :: subqueries, lockstep, raised => by
      unfold runSubqueries at raised
      split at raised
      · next stepState stepped =>
          have nextLockstep : stepState.Lockstep := by
            simpa [stepped] using
              convertSubquery_lockstep converter handlers tableName lockstep mysqlQuery subquery
          obtain ⟨done, failing, later, split, ran, failed⟩ :=
            runSubqueries_error subqueries nextLockstep raised
          refine ⟨subquery :: done, failing, later, by simp [split], ?_, failed⟩
          simp only [runSubqueries, stepped, ran]
      · next stepState e' stepped =>
          simp only [Prod.mk.injEq, Except.error.injEq] at raised
          obtain ⟨rfl, rfl⟩ := raised
          have unchanged : stepState = state := by
            simpa [stepped] using convertSubquery_error converter handlers tableName lockstep
              (show (convertSubquery converter handlers state tableName mysqlQuery subquery).2 =
                .error e' by rw [stepped])
          subst unchanged
          exact ⟨[], subquery, subqueries, rfl, rfl, stepped⟩

end Runs

theorem convertAlterQuery_lockstep (converter : MysqlToClickhouseConverter)
    (handlers : ColumnHandlers) {state : ReplicatorState} (lockstep : state.Lockstep)
    (mysqlQuery dbName : String) :
    (convertAlterQuery converter handlers state mysqlQuery dbName).1.Lockstep := by
  unfold convertAlterQuery
  split
  · exact lockstep
  · exact lockstep
  · exact runSubqueries_lockstep converter handlers _ _ _ lockstep

theorem ReplicatorState.single_lockstep (tableName : String) {pair : TablePair}
    (lockstep : pair.Lockstep) : (ReplicatorState.single tableName pair).Lockstep := by
  intro name found stored
  by_cases same : name = tableName <;> simp [ReplicatorState.single, same] at stored
  exact stored ▸ lockstep

theorem alterRun_lockstep (converter : MysqlToClickhouseConverter) (handlers : ColumnHandlers) :
    ∀ {state : ReplicatorState} (statements : List (String × String)), state.Lockstep →
      (alterRun converter handlers state statements).Lockstep
  | _, [], lockstep => lockstep
  | _, statement :: statements, lockstep =>
      alterRun_lockstep converter handlers statements
        (convertAlterQuery_lockstep converter handlers lockstep statement.1 statement.2)

/-! ## A failing statement -/

/-- A statement that raises on a state in lockstep leaves what its successful sub-operations
did: either it raised before its loop and changed nothing, or its loop ran a prefix of the
sub-operations, all successfully, and the one that raised changed nothing. -/
theorem convertAlterQuery_raised (converter : MysqlToClickhouseConverter)
    (handlers : ColumnHandlers) {state : ReplicatorState} (lockstep : state.Lockstep)
    (mysqlQuery dbName : String) {e : PyError}
    (raised : (convertAlterQuery converter handlers state mysqlQuery dbName).2 = .error e) :
    let after := (convertAlterQuery converter handlers state mysqlQuery dbName).1
    after = state ∨
      ∃ plan done failing later, alterPlan converter mysqlQuery dbName = .ok (some plan) ∧
        plan.subqueries = done ++ failing :: later ∧
        runSubqueries converter handlers plan.tableName plan.query state done = (after, .ok ()) ∧
        convertSubquery converter handlers after plan.tableName plan.query failing =
          (after, .error e) := by
  dsimp only
  unfold convertAlterQuery at raised ⊢
  split
  · exact .inl rfl
  · exact .inl rfl
  · next plan planned =>
      simp only [planned] at raised
      obtain ⟨done, failing, later, split, ran, failed⟩ :=
        runSubqueries_error converter handlers plan.tableName plan.query plan.subqueries lockstep
          (Prod.ext rfl raised)
      exact .inr ⟨plan, done, failing, later, planned, split, ran, failed⟩

theorem convertAlterQuery_raised_rename :
    let state := ReplicatorState.single "t" columnA
    let query := "ALTER TABLE t ADD COLUMN b INT, RENAME COLUMN a TO c"
    let converter : MysqlToClickhouseConverter := ⟨some keepAllReplicator⟩
    let after := (convertAlterQuery converter .rejecting state query "db").1
    (state.Lockstep ∧ (convertAlterQuery converter .rejecting state query "db").2 =
        .error (.exception ("operation rename not implement, query: RENAME COLUMN a TO c, " ++
          "full query: ALTER TABLE t ADD COLUMN b INT, RENAME COLUMN a TO c"))) ∧
      (after = state ∨
        ∃ plan done failing later, alterPlan converter query "db" = .ok (some plan) ∧
          plan.subqueries = done ++ failing :: later ∧
          runSubqueries converter .rejecting plan.tableName plan.query state done =
            (after, .ok ()) ∧
          convertSubquery converter .rejecting after plan.tableName plan.query failing =
            (after, .error (.exception ("operation rename not implement, query: RENAME COLUMN a " ++
              "TO c, full query: ALTER TABLE t ADD COLUMN b INT, RENAME COLUMN a TO c")))) :=
  have lockstep := ReplicatorState.single_lockstep "t" (show columnA.Lockstep from rfl)
  ⟨⟨lockstep, rfl⟩, convertAlterQuery_raised _ _ lockstep _ _ rfl⟩

/-- An `ADD COLUMN` before an unsupported sub-operation stays applied. -/
theorem convertAlterQuery_add_then_rename :
    let result := convertAlterQuery ⟨some keepAllReplicator⟩ .rejecting
      (ReplicatorState.single "t" columnA)
      "ALTER TABLE t ADD COLUMN b INT, RENAME COLUMN a TO c" "db"
    (∃ e, result.2 = .error e) ∧
      (result.1.tablesStructure "t").map (fun pair => (pair.1.fieldNames, pair.2.fieldNames)) =
        some (["a", "b"], ["a", "b"]) :=
  ⟨⟨_, rfl⟩, rfl⟩

/-! ## Lockstep over runs, and where a column goes -/

/-- By default the new column goes right after the last column named as the last column is
once stripped, which is not always the end: once a column `` ` c` `` (stored as `" c"`) is
added to a table of `c`, a default `ADD COLUMN d` lands between the two. -/
theorem alterRun_default_between :
    let mysql : TableStructure := { fields := [{ name := "c", fieldType := "int" }] }
    (convertTableStructure ⟨some keepAllReplicator⟩ mysql).map (fun clickhouse =>
        ((alterRun ⟨some keepAllReplicator⟩ .rejecting
          (ReplicatorState.single "t" (mysql, clickhouse))
          [("ALTER TABLE t ADD COLUMN ` c` INT", "db"), ("ALTER TABLE t ADD COLUMN d INT", "db")]).tablesStructure
            "t").map fun pair => (pair.1.fieldNames, pair.2.fieldNames)) =
      .ok (some (["c", "d", " c"], ["c", "d", " c"])) :=
  rfl

end MysqlChReplicator.Ddl

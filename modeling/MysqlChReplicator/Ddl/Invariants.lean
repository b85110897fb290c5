import MysqlChReplicator.Ddl.Lockstep
import Mathlib.Data.List.Forall2

/-!
# Invariants of the schema pairs over runs of ALTER statements

An invariant of a table's pair that every `ADD COLUMN` keeps, and that the drop, modify and
change handlers keep, holds of every table after any run of statements, those that raise
included. The type mapping is such an invariant: every ClickHouse column is the MySQL column
of the same position, with a type that `convert_field_type` gives for the MySQL type.
-/

namespace MysqlChReplicator.Ddl

open Python Converter

/-- The invariant holds of every table's pair. -/
def ReplicatorState.Holds (inv : TablePair → Prop) (state : ReplicatorState) : Prop :=
  ∀ name pair, state.tablesStructure name = some pair → inv pair

/-- The handler keeps the invariant on every pair it changes. -/
def PairHandler.Keeps (inv : TablePair → Prop) (handler : PairHandler) : Prop :=
  ∀ tokens pair changed, handler tokens pair = .ok changed → inv pair → inv changed

/-! ## Invariant induction -/

section Runs

variable {converter : MysqlToClickhouseConverter} {handlers : ColumnHandlers}
  {inv : TablePair → Prop}

theorem ReplicatorState.Holds.setTable {state : ReplicatorState} (holds : state.Holds inv)
    (tableName : String) {pair : TablePair} (kept : inv pair) :
    (state.setTable tableName pair).Holds inv := by
  intro name changed found
  by_cases same : name = tableName
  · simp only [same, ReplicatorState.setTable_same, Option.some.injEq] at found
    exact found ▸ kept
  · rw [ReplicatorState.setTable_other state pair same] at found
    exact holds name changed found

variable
  (addKeeps : ∀ tokens column pair, planAddColumn converter tokens = .ok column → inv pair →
    inv (column.apply pair).1)
  (handlersKeep : ∀ handler ∈ [handlers.dropColumn, handlers.modifyColumn, handlers.changeColumn],
    handler.Keeps inv)

include addKeeps handlersKeep

theorem convertSubquery_holds {state : ReplicatorState} (holds : state.Holds inv)
    (tableName mysqlQuery subquery : String) :
    (convertSubquery converter handlers state tableName mysqlQuery subquery).1.Holds inv := by
  rcases convertSubquery_dispatch converter handlers tableName mysqlQuery subquery with
    ⟨result, same⟩ | ⟨tokens, added⟩ | ⟨handler, tokens, member, handled⟩
  · rw [same]
    exact holds
  · rw [added]
    rcases convertAlterTableAddColumn_cases converter state tableName tokens with
      same | ⟨pair, column, found, planned, applied⟩
    · rw [same]
      exact holds
    · rw [applied]
      exact holds.setTable tableName (addKeeps tokens column pair planned (holds tableName pair found))
  · rw [handled]
    rcases applyHandler_cases converter state tableName handler tokens with
      same | ⟨pair, changed, found, handledOk, applied⟩
    · rw [same]
      exact holds
    · rw [applied]
      exact holds.setTable tableName
        (handlersKeep handler member tokens pair changed handledOk (holds tableName pair found))

theorem runSubqueries_holds (tableName mysqlQuery : String) :
    ∀ {state : ReplicatorState} (subqueries : List String), state.Holds inv →
      (runSubqueries converter handlers tableName mysqlQuery state subqueries).1.Holds inv
  | _, [], holds => holds
  | state, subquery :: subqueries, holds => by
      have step := convertSubquery_holds addKeeps handlersKeep holds tableName mysqlQuery subquery
      unfold runSubqueries
      split
      · next after stepped =>
          rw [stepped] at step
          exact runSubqueries_holds tableName mysqlQuery subqueries step
      · next after e stepped =>
          rw [stepped] at step
          exact step

theorem alterRun_holds :
    ∀ {state : ReplicatorState} (statements : List (String × String)), state.Holds inv →
      (alterRun converter handlers state statements).Holds inv
  | _, [], holds => holds
  | state, statement :: statements, holds => by
      refine alterRun_holds statements ?_
      show (convertAlterQuery converter handlers state statement.1 statement.2).1.Holds inv
      unfold convertAlterQuery
      split
      · exact holds
      · exact holds
      · exact runSubqueries_holds addKeeps handlersKeep _ _ _ holds

end Runs

/-! ## The type mapping -/

/-- Every ClickHouse column is the MySQL column of the same position: the same name, and a type
that `convert_field_type` gives for the MySQL column's type under some parameter text. -/
def TablePair.Mapped (converter : MysqlToClickhouseConverter) (pair : TablePair) : Prop :=
  List.Forall₂ (fun mysql clickhouse => clickhouse.name = mysql.name ∧
      ∃ parameters, convertFieldType converter mysql.fieldType parameters = .ok clickhouse.fieldType)
    pair.1.fields pair.2.fields

theorem planAddColumn_typed {converter : MysqlToClickhouseConverter} {tokens : List String}
    {column : AddColumn} (planned : planAddColumn converter tokens = .ok column) :
    ∃ parameters, convertFieldType converter column.columnTypeMysql parameters =
      .ok column.columnTypeCh := by
  have tail : ∀ (tokens : List String) (position : ColumnPosition),
      (do
        let columnTypeMysql ← getItem tokens 1
        let columnTypeCh ← convertFieldType converter columnTypeMysql (join " " (tokens.drop 2))
        pure ⟨stripSqlName (← getItem tokens 0), columnTypeMysql, columnTypeCh, position⟩) =
        Except.ok column → ∃ parameters, convertFieldType converter column.columnTypeMysql parameters =
          .ok column.columnTypeCh := by
    intro tokens position ok
    obtain ⟨columnTypeMysql, -, ok⟩ := bind_eq_ok.mp ok
    obtain ⟨columnTypeCh, typed, ok⟩ := bind_eq_ok.mp ok
    obtain ⟨name, -, ok⟩ := bind_eq_ok.mp ok
    cases ok
    exact ⟨_, typed⟩
  unfold planAddColumn at planned
  simp only [pure_eq_ok, ok_bind, throw_eq_error, error_bind] at planned
  split_ifs at planned
  all_goals (try split at planned) <;> (try split_ifs at planned) <;>
    first | cases planned | exact tail _ _ planned

theorem forall₂_insertIdx {α β : Type} {R : α → β → Prop} {a : α} {b : β} (related : R a b) :
    ∀ (position : Nat) {xs : List α} {ys : List β}, List.Forall₂ R xs ys →
      List.Forall₂ R (xs.insertIdx position a) (ys.insertIdx position b)
  | 0, _, _, all => by simpa only [List.insertIdx_zero] using List.Forall₂.cons related all
  | _ + 1, _, _, .nil => by simp only [List.insertIdx_succ_nil]; exact .nil
  | position + 1, _, _, .cons head tail => by
      simp only [List.insertIdx_succ_cons]
      exact .cons head (forall₂_insertIdx related position tail)

theorem forall₂_of_mapM_ok {ε α β : Type} {f : α → Except ε β} :
    ∀ {xs : List α} {ys : List β}, xs.mapM f = .ok ys → List.Forall₂ (fun x y => f x = .ok y) xs ys
  | [], ys, ok => by
      cases ok
      exact .nil
  | x :: xs, ys, ok => by
      rw [List.mapM_cons] at ok
      obtain ⟨y, head, ok⟩ := bind_eq_ok.mp ok
      obtain ⟨rest, tail, ok⟩ := bind_eq_ok.mp ok
      cases ok
      exact .cons head (forall₂_of_mapM_ok tail)

variable {converter : MysqlToClickhouseConverter} {pair : TablePair}

theorem TablePair.Mapped.lockstep (mapped : pair.Mapped converter) : pair.Lockstep := by
  have names : List.Forall₂ (· = ·) pair.1.fieldNames pair.2.fieldNames := by
    unfold TableStructure.fieldNames
    rw [List.forall₂_map_left_iff, List.forall₂_map_right_iff]
    exact mapped.imp fun _ _ same => same.1.symm
  rwa [List.forall₂_eq_eq_eq] at names

theorem AddColumn.apply_mapped {column : AddColumn}
    (typed : ∃ parameters, convertFieldType converter column.columnTypeMysql parameters =
      .ok column.columnTypeCh)
    (mapped : pair.Mapped converter) : (column.apply pair).1.Mapped converter := by
  have spec := column.apply_spec mapped.lockstep
  split at spec
  · obtain ⟨changed, applied, inserted⟩ := spec
    rw [applied]
    unfold TablePair.Mapped
    rw [inserted.1, inserted.2]
    exact forall₂_insertIdx ⟨rfl, typed⟩ _ mapped
  · obtain ⟨e, applied⟩ := spec
    rw [applied]
    exact mapped

/-- `convert_table_structure` maps each column by `convert_field_type` with its own parameters. -/
theorem mapped_of_convertTableStructure {mysql clickhouse : TableStructure}
    (converted : convertTableStructure converter mysql = .ok clickhouse) :
    TablePair.Mapped converter (mysql, clickhouse) := by
  unfold convertTableStructure at converted
  obtain ⟨fields, mapped, processed⟩ := bind_eq_ok.mp converted
  unfold TablePair.Mapped
  rw [TableStructure.fields_of_preprocess processed]
  refine (forall₂_of_mapM_ok mapped).imp fun field converted ok => ?_
  obtain ⟨clickhouseType, typed, ok⟩ := bind_eq_ok.mp ok
  cases ok
  exact ⟨rfl, _, typed⟩

/-- Started from pairs made by `convert_table_structure`, and with drop, modify and change
handlers that keep it, every ClickHouse column stays, over any run of statements, the MySQL
column of the same position with a type that `convert_field_type` gives for the MySQL type. -/
theorem alterRun_mapped (converter : MysqlToClickhouseConverter) (handlers : ColumnHandlers)
    (handlersKeep : ∀ handler ∈ [handlers.dropColumn, handlers.modifyColumn,
      handlers.changeColumn], handler.Keeps (TablePair.Mapped converter))
    (state : ReplicatorState) (statements : List (String × String))
    (initial : ∀ name pair, state.tablesStructure name = some pair →
      convertTableStructure converter pair.1 = .ok pair.2) :
    (alterRun converter handlers state statements).Holds (TablePair.Mapped converter) :=
  alterRun_holds (fun _ _ _ planned mapped => AddColumn.apply_mapped (planAddColumn_typed planned) mapped)
    handlersKeep statements fun name pair found => mapped_of_convertTableStructure (initial name pair found)

theorem alterRun_mapped_not_null :
    let converter : MysqlToClickhouseConverter := ⟨some keepAllReplicator⟩
    let state := ReplicatorState.single "t" columnA
    (∀ handler ∈ [ColumnHandlers.rejecting.dropColumn, ColumnHandlers.rejecting.modifyColumn,
      ColumnHandlers.rejecting.changeColumn], handler.Keeps (TablePair.Mapped converter)) ∧
    (∀ name pair, state.tablesStructure name = some pair →
      convertTableStructure converter pair.1 = .ok pair.2) ∧
    (alterRun converter .rejecting state
      [("ALTER TABLE t ADD COLUMN b INT NOT NULL", "db")]).Holds (TablePair.Mapped converter) :=
  have keeps : ∀ handler ∈ [ColumnHandlers.rejecting.dropColumn,
      ColumnHandlers.rejecting.modifyColumn, ColumnHandlers.rejecting.changeColumn],
      handler.Keeps (TablePair.Mapped ⟨some keepAllReplicator⟩) := by
    intro handler member tokens pair changed handled
    simp only [List.mem_cons, List.mem_singleton, List.not_mem_nil, or_false] at member
    rcases member with rfl | rfl | rfl <;> cases handled
  have initial : ∀ name pair, (ReplicatorState.single "t" columnA).tablesStructure name =
      some pair → convertTableStructure ⟨some keepAllReplicator⟩ pair.1 = .ok pair.2 := by
    intro name pair found
    by_cases same : name = "t" <;> simp [ReplicatorState.single, same] at found
    subst found
    rfl
  ⟨keeps, initial, alterRun_mapped _ _ keeps _ _ initial⟩

end MysqlChReplicator.Ddl

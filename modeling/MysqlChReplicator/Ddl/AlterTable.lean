import MysqlChReplicator.Ddl.Tokenizer

/-!
# Applying an ALTER TABLE statement

`convert_alter_query` runs the sub-operations of a statement in order against
`db_replicator.state.tables_structure`, the replicator's pair of live structures (MySQL,
ClickHouse) per table name, and stops at the first that raises. An `ADD COLUMN` mutates the
MySQL structure and then the ClickHouse one, each in place; the drop, modify and change
handlers are not under src/ and are modelled from the spec's contract.
-/

namespace MysqlChReplicator.Ddl

open Python Converter

/-- The pair of structures of one table: MySQL first, ClickHouse second. -/
abbrev TablePair := TableStructure × TableStructure

/-- The two structures have the same field names in the same order (spec §3). -/
def TablePair.Lockstep (pair : TablePair) : Prop :=
  pair.1.fieldNames = pair.2.fieldNames

/-- `db_replicator.state`: the live structures of each table, by table name. -/
structure ReplicatorState where
  tablesStructure : String → Option TablePair

namespace ReplicatorState

/-- The state after the pair of one table is replaced. -/
def setTable (state : ReplicatorState) (tableName : String) (pair : TablePair) :
    ReplicatorState :=
  ⟨fun name => if name = tableName then some pair else state.tablesStructure name⟩

/-- The state holding one table. -/
def single (tableName : String) (pair : TablePair) : ReplicatorState :=
  ⟨fun name => if name = tableName then some pair else none⟩

/-- Every table's pair is in lockstep. -/
def Lockstep (state : ReplicatorState) : Prop :=
  ∀ name pair, state.tablesStructure name = some pair → pair.Lockstep

@[simp] theorem setTable_same (state : ReplicatorState) (tableName : String) (pair : TablePair) :
    (state.setTable tableName pair).tablesStructure tableName = some pair := by
  simp [setTable]

@[simp] theorem setTable_other (state : ReplicatorState) {tableName name : String}
    (pair : TablePair) (other : name ≠ tableName) :
    (state.setTable tableName pair).tablesStructure name = state.tablesStructure name := by
  simp [setTable, other]

theorem setTable_current {state : ReplicatorState} {tableName : String} {pair : TablePair}
    (current : state.tablesStructure tableName = some pair) :
    state.setTable tableName pair = state := by
  cases state
  simp only [setTable, mk.injEq]
  funext name
  by_cases same : name = tableName
  · simp [same, ← current]
  · simp [same]

end ReplicatorState

/-- A handler of one kind of sub-operation, on the table's pair and the sub-operation's
tokens after its keyword. -/
abbrev PairHandler := List String → TablePair → Except PyError TablePair

/-- The handler keeps every pair it changes in lockstep. -/
def PairHandler.KeepsLockstep (handler : PairHandler) : Prop :=
  ∀ tokens pair changed, handler tokens pair = .ok changed → pair.Lockstep → changed.Lockstep

/-- Modelled from the spec: `__convert_alter_table_drop_column`, `..._modify_column` and
`..._change_column` (not under src/). Each applies its change to both structures of the table
at once, or raises and changes neither, and keeps them in lockstep (§3, §4.3). -/
structure ColumnHandlers where
  dropColumn : PairHandler
  modifyColumn : PairHandler
  changeColumn : PairHandler
  dropColumn_keepsLockstep : dropColumn.KeepsLockstep
  modifyColumn_keepsLockstep : modifyColumn.KeepsLockstep
  changeColumn_keepsLockstep : changeColumn.KeepsLockstep

/-- A replicator of the database `db` into itself whose filters keep every table. -/
def keepAllReplicator : DbReplicator where
  config := { isDatabaseMatches := fun _ => true, isTableMatches := fun _ => true }
  database := "db"
  targetDatabase := "db"

/-- The one-column table of the examples: `a int`, mapped. -/
def columnA : TablePair :=
  ({ fields := [{ name := "a", fieldType := "int" }] },
    { fields := [{ name := "a", fieldType := "Nullable(Int32)" }] })

/-- Handlers that raise on every sub-operation. -/
def ColumnHandlers.rejecting : ColumnHandlers where
  dropColumn _ _ := .error (.exception "drop not modelled")
  modifyColumn _ _ := .error (.exception "modify not modelled")
  changeColumn _ _ := .error (.exception "change not modelled")
  dropColumn_keepsLockstep _ _ _ ok := nomatch ok
  modifyColumn_keepsLockstep _ _ _ ok := nomatch ok
  changeColumn_keepsLockstep _ _ _ ok := nomatch ok

/-- `DROP COLUMN name`: the column is removed from the MySQL structure and then from the
ClickHouse one, and the pair changes only if both succeed. -/
def dropPair (tokens : List String) (pair : TablePair) : Except PyError TablePair :=
  match tokens with
  | [name] => do
      let mysql ← pair.1.removeField (stripSqlName name)
      let clickhouse ← pair.2.removeField (stripSqlName name)
      pure (mysql, clickhouse)
  | _ => .error (.exception "wrong tokens count")

theorem dropPair_keepsLockstep : PairHandler.KeepsLockstep dropPair := by
  intro tokens pair changed dropped lockstep
  unfold dropPair at dropped
  split at dropped
  · obtain ⟨mysql, mysqlOk, rest⟩ := bind_eq_ok.mp dropped
    obtain ⟨clickhouse, clickhouseOk, built⟩ := bind_eq_ok.mp rest
    rw [pure_eq_ok, Except.ok.injEq] at built
    subst built
    show mysql.fieldNames = clickhouse.fieldNames
    rw [TableStructure.fieldNames_removeField mysqlOk,
      TableStructure.fieldNames_removeField clickhouseOk, lockstep]
  · cases dropped

/-- Handlers that drop the named column from both structures, and raise on modify and change. -/
def ColumnHandlers.dropping : ColumnHandlers where
  dropColumn := dropPair
  modifyColumn _ _ := .error (.exception "modify not modelled")
  changeColumn _ _ := .error (.exception "change not modelled")
  dropColumn_keepsLockstep := dropPair_keepsLockstep
  modifyColumn_keepsLockstep _ _ _ ok := nomatch ok
  changeColumn_keepsLockstep _ _ _ ok := nomatch ok

/-- A handler applied to `tables_structure[table_name]`; without a replicator there is no
state to change. -/
def applyHandler (converter : MysqlToClickhouseConverter) (handler : PairHandler)
    (state : ReplicatorState) (tableName : String) (tokens : List String) :
    ReplicatorState × Except PyError Unit :=
  match converter.dbReplicator with
  | none => (state, .ok ())
  | some _ =>
      match state.tablesStructure tableName with
      | none => (state, .error (.keyError tableName))
      | some pair =>
          match handler tokens pair with
          | .ok changed => (state.setTable tableName changed, .ok ())
          | .error e => (state, .error e)

/-! ## ADD COLUMN -/

/-- Where `ADD COLUMN` puts the new column. -/
inductive ColumnPosition where
  | first
  /-- `AFTER name`, the name already stripped. -/
  | after (name : String)
  /-- After the current last column. -/
  | last
  deriving DecidableEq, Repr

/-- The new column of an `ADD COLUMN`: its name, its two types and its position. -/
structure AddColumn where
  columnName : String
  columnTypeMysql : String
  columnTypeCh : String
  position : ColumnPosition
  deriving DecidableEq, Repr

/-- The checks and the type mapping of `__convert_alter_table_add_column`, before it touches
the state. -/
def planAddColumn (converter : MysqlToClickhouseConverter) (tokens : List String) :
    Except PyError AddColumn := do
  let tokens := tokenizeAlterQuery (join " " tokens)
  if tokens.length < 2 then throw (.exception "wrong tokens count")
  let (tokens, position) ← match tokens.reverse with
    | last :: beforeLast :: _ =>
        if lower beforeLast = "after" then
          let tokens := tokens.dropLast.dropLast
          if tokens.length < 2 then throw (.exception "wrong tokens count")
          pure (tokens, ColumnPosition.after (stripSqlName last))
        else if lower last = "first" then pure (tokens, .first)
        else pure (tokens, .last)
    | _ => pure (tokens, .last)
  let columnTypeMysql ← getItem tokens 1
  let columnTypeCh ← convertFieldType converter columnTypeMysql (join " " (tokens.drop 2))
  pure ⟨stripSqlName (← getItem tokens 0), columnTypeMysql, columnTypeCh, position⟩

namespace AddColumn

/-- The MySQL field of the new column. -/
def mysqlField (column : AddColumn) : TableField :=
  { name := column.columnName, fieldType := column.columnTypeMysql }

/-- The ClickHouse field of the new column. -/
def chField (column : AddColumn) : TableField :=
  { name := column.columnName, fieldType := column.columnTypeCh }

/-- `add_field_after` on the MySQL structure, then on the ClickHouse one; a failure of the
second leaves the first done. -/
def addAfter (column : AddColumn) (pair : TablePair) (after : String) :
    TablePair × Except PyError Unit :=
  match pair.1.addFieldAfter column.mysqlField after with
  | .error e => (pair, .error e)
  | .ok mysql =>
      match pair.2.addFieldAfter column.chField after with
      | .error e => ((mysql, pair.2), .error e)
      | .ok ch => ((mysql, ch), .ok ())

/-- The update of the table's pair: `FIRST`, `AFTER` a column, or after the last column's
stripped name. -/
def apply (column : AddColumn) (pair : TablePair) : TablePair × Except PyError Unit :=
  match column.position with
  | .first => ((pair.1.addFieldFirst column.mysqlField, pair.2.addFieldFirst column.chField), .ok ())
  | .after name => column.addAfter pair name
  | .last =>
      match pair.1.fields.getLast? with
      | some field => column.addAfter pair (stripSqlName field.name)
      | none => (pair, .error (.indexError "list index out of range"))

end AddColumn

/-- `__convert_alter_table_add_column`, up to the ClickHouse statement it then builds. -/
def convertAlterTableAddColumn (converter : MysqlToClickhouseConverter) (state : ReplicatorState)
    (tableName : String) (tokens : List String) : ReplicatorState × Except PyError Unit :=
  match planAddColumn converter tokens with
  | .error e => (state, .error e)
  | .ok column =>
      match converter.dbReplicator with
      | none => (state, .ok ())
      | some _ =>
          match state.tablesStructure tableName with
          | none => (state, .error (.keyError tableName))
          | some pair => (state.setTable tableName (column.apply pair).1, (column.apply pair).2)

/-! ## The statement -/

/-- The `ADD` and `DROP` targets that have no ClickHouse counterpart. -/
def skippedTargets : List String := ["constraint", "index", "foreign", "unique"]

/-- One pass of the loop of `convert_alter_query`, on one sub-operation. -/
def convertSubquery (converter : MysqlToClickhouseConverter) (handlers : ColumnHandlers)
    (state : ReplicatorState) (tableName mysqlQuery subquery : String) :
    ReplicatorState × Except PyError Unit :=
  let subquery := strip subquery
  match split subquery with
  | [] => (state, .error (.indexError "list index out of range"))
  | op :: tokens =>
      let opName := lower op
      match tokens with
      | [] => (state, .error (.indexError "list index out of range"))
      | head :: rest =>
          let tokens := if lower head = "column" then rest else head :: rest
          let skipped := fun (tokens : List String) =>
            match tokens with
            | [] => Except.error (PyError.indexError "list index out of range")
            | target :: _ => .ok (skippedTargets.contains (lower target))
          if opName = "add" then
            match skipped tokens with
            | .error e => (state, .error e)
            | .ok true => (state, .ok ())
            | .ok false => convertAlterTableAddColumn converter state tableName tokens
          else if opName = "drop" then
            match skipped tokens with
            | .error e => (state, .error e)
            | .ok true => (state, .ok ())
            | .ok false => applyHandler converter handlers.dropColumn state tableName tokens
          else if opName = "modify" then
            applyHandler converter handlers.modifyColumn state tableName tokens
          else if opName = "alter" then (state, .ok ())
          else if opName = "auto_increment" then (state, .ok ())
          else if opName = "change" then
            applyHandler converter handlers.changeColumn state tableName tokens
          else
            (state, .error (.exception ("operation " ++ opName ++ " not implement, query: " ++
              subquery ++ ", full query: " ++ mysqlQuery)))

/-- The loop of `convert_alter_query`: the sub-operations in order, up to the first failure. -/
def runSubqueries (converter : MysqlToClickhouseConverter) (handlers : ColumnHandlers)
    (tableName mysqlQuery : String) : ReplicatorState → List String →
      ReplicatorState × Except PyError Unit
  | state, [] => (state, .ok ())
  | state, subquery :: subqueries =>
      match convertSubquery converter handlers state tableName mysqlQuery subquery with
      | (state, .ok ()) => runSubqueries converter handlers tableName mysqlQuery state subqueries
      | (state, .error e) => (state, .error e)

/-- `convert_alter_query`, up to the ClickHouse statements it builds: the state after the
statement, and whether it raised. -/
def convertAlterQuery (converter : MysqlToClickhouseConverter) (handlers : ColumnHandlers)
    (state : ReplicatorState) (mysqlQuery dbName : String) :
    ReplicatorState × Except PyError Unit :=
  match alterPlan converter mysqlQuery dbName with
  | .error e => (state, .error e)
  | .ok none => (state, .ok ())
  | .ok (some plan) =>
      runSubqueries converter handlers plan.tableName plan.query state plan.subqueries

/-- The tokenizer merges `UNSIGNED` into the type, where the type mapper does not look for it:
`INT UNSIGNED` is an unknown type, and `BIGINT UNSIGNED` becomes a signed column. -/
theorem convertAlterQuery_unsigned_modifier (handlers : ColumnHandlers) :
    let converter : MysqlToClickhouseConverter := ⟨some keepAllReplicator⟩
    let state := ReplicatorState.single "t" columnA
    convertFieldType converter "INT" "UNSIGNED" = .ok "Nullable(UInt32)" ∧
      (convertAlterQuery converter handlers state "ALTER TABLE t ADD COLUMN c INT UNSIGNED" "db").2 =
        .error (.exception "unknown mysql type \"int unsigned\"") ∧
      convertFieldType converter "BIGINT" "UNSIGNED" = .ok "Nullable(UInt64)" ∧
      ((convertAlterQuery converter handlers state "ALTER TABLE t ADD COLUMN c BIGINT UNSIGNED"
        "db").1.tablesStructure "t").map (fun pair => pair.2.fields.map TableField.fieldType) =
        some ["Nullable(Int32)", "Nullable(Int64)"] :=
  ⟨rfl, rfl, rfl, rfl⟩

/-- A replicator processing statements one after another, each on the state the one before
left, whether or not it raised. -/
def alterRun (converter : MysqlToClickhouseConverter) (handlers : ColumnHandlers)
    (state : ReplicatorState) (statements : List (String × String)) : ReplicatorState :=
  statements.foldl (fun state statement =>
    (convertAlterQuery converter handlers state statement.1 statement.2).1) state

end MysqlChReplicator.Ddl

import MysqlChReplicator.Converter.ConvertType

/-!
# ALTER TABLE statements

The first steps of `convert_alter_query`: the single-statement check, the `ALTER TABLE`
header, the table reference with its database alias and filters, and the split of the rest
into comma-separated sub-operations at parenthesis level 0.
-/

namespace MysqlChReplicator.Ddl

open Python Converter

/-- `lst[i]` on a Python list. -/
def getItem (items : List String) (i : Nat) : Except PyError String :=
  match items[i]? with
  | some item => .ok item
  | none => .error (.indexError "list index out of range")

/-- `strip_sql_name`: the stripped name without one opening and one closing backquote. -/
def stripSqlName (name : String) : String :=
  let name := (strip name).data
  let name := if name.head? = some '`' then name.tail else name
  ⟨if name.getLast? = some '`' then name.dropLast else name⟩

/-- The nesting level of `split_high_level` after the character `c`: every `(` opens a level
and every `)` closes one, wherever it stands. -/
def nextLevel (level : Int) (c : Char) : Int :=
  let level := if c = '(' then level + 1 else level
  if c = ')' then level - 1 else level

/-- The loop of `split_high_level` over the characters left, with the nesting level and the
piece read so far. -/
def splitHighLevelLoop (token : Char) : List Char → Int → List Char → List String
  | [], _, currData => if currData.isEmpty then [] else [strip ⟨currData⟩]
  | c :: rest, level, currData =>
      if c = token ∧ level = 0 then strip ⟨currData⟩ :: splitHighLevelLoop token rest level []
      else splitHighLevelLoop token rest (nextLevel level c) (currData ++ [c])

/-- `split_high_level`: the stripped pieces between the separators met at level 0. -/
def splitHighLevel (data : String) (token : Char) : List String :=
  splitHighLevelLoop token data.data 0 []

/-- `__basic_validate_query`: the stripped statement without one trailing `;`, which must
hold no other `;`. -/
def basicValidateQuery (mysqlQuery : String) : Except PyError String :=
  let query := strip mysqlQuery
  let query := if endswith query ";" then ⟨query.data.dropLast⟩ else query
  if contains query ";" then .error (.exception "multi-query statement not supported")
  else .ok query

/-- The database and table names of a table reference `[db.]table`, before aliasing; a
reference with several dots fails to unpack. -/
def splitTableReference (token dbName : String) : Except PyError (String × String) :=
  if contains token "." then
    match splitOn token '.' with
    | [dbName, tableName] => .ok (stripSqlName dbName, stripSqlName tableName)
    | _ => .error (.valueError "too many values to unpack (expected 2)")
  else .ok (stripSqlName dbName, stripSqlName token)

/-- The database name a replicator writes to: its source database is renamed to its target. -/
def aliasDatabase (replicator : DbReplicator) (dbName : String) : String :=
  if dbName = replicator.database then replicator.targetDatabase else dbName

/-- `get_db_and_table_name`: the aliased database, the table, and whether the filters keep
them; without a replicator every table is kept. -/
def getDbAndTableName (converter : MysqlToClickhouseConverter) (token dbName : String) :
    Except PyError (String × String × Bool) := do
  let (dbName, tableName) ← splitTableReference token dbName
  match converter.dbReplicator with
  | some replicator =>
      let dbName := aliasDatabase replicator dbName
      pure (dbName, tableName,
        replicator.config.isDatabaseMatches dbName && replicator.config.isTableMatches tableName)
  | none => pure (dbName, tableName, true)

/-- What `convert_alter_query` dispatches: the validated statement, the table, and the
sub-operation texts. -/
structure AlterPlan where
  query : String
  tableName : String
  subqueries : List String
  deriving DecidableEq, Repr

/-- The part of `convert_alter_query` before its loop: `none` when the filters skip the
table. -/
def alterPlan (converter : MysqlToClickhouseConverter) (mysqlQuery dbName : String) :
    Except PyError (Option AlterPlan) := do
  let query ← basicValidateQuery mysqlQuery
  let tokens := split query
  if lower (← getItem tokens 0) ≠ "alter" then throw (.exception "wrong query")
  if lower (← getItem tokens 1) ≠ "table" then throw (.exception "wrong query")
  let (_, tableName, matchesConfig) ← getDbAndTableName converter (← getItem tokens 2) dbName
  if !matchesConfig then return none
  pure (some ⟨query, tableName, splitHighLevel (join " " (tokens.drop 3)) ','⟩)

end MysqlChReplicator.Ddl

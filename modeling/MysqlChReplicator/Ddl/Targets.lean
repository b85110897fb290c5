import MysqlChReplicator.Ddl.Lockstep

/-!
# Which table a statement changes

`convert_alter_query` renames the source database to the target one before it asks the
filters, and reads and writes `tables_structure` by the table name alone. So the filters see
the aliased name, and a statement that passes them acts on the pair of its table's name,
whatever database it names. A reference written with backquotes, `db`.`table` or `table`, is
read back as the names inside them.
-/

namespace MysqlChReplicator.Ddl

open Python Converter

section Header

variable {converter : MysqlToClickhouseConverter} {mysqlQuery dbName query alterWord tableWord
  ref : String} {rest : List String} {db table : String}

/-- The plan of a well-formed statement: its sub-operations on its table, or nothing when the
filters skip it. -/
theorem alterPlan_eq (validated : basicValidateQuery mysqlQuery = .ok query)
    (header : split query = alterWord :: tableWord :: ref :: rest)
    (isAlter : lower alterWord = "alter") (isTable : lower tableWord = "table")
    (named : getDbAndTableName converter ref dbName = .ok (db, table, true)) :
    alterPlan converter mysqlQuery dbName =
      .ok (some ⟨query, table, splitHighLevel (join " " rest) ','⟩) := by
  simp [alterPlan, validated, header, getItem, isAlter, isTable, named]

theorem alterPlan_skipped (validated : basicValidateQuery mysqlQuery = .ok query)
    (header : split query = alterWord :: tableWord :: ref :: rest)
    (isAlter : lower alterWord = "alter") (isTable : lower tableWord = "table")
    (named : getDbAndTableName converter ref dbName = .ok (db, table, false)) :
    alterPlan converter mysqlQuery dbName = .ok none := by
  simp [alterPlan, validated, header, getItem, isAlter, isTable, named]

end Header

/-! ## Table references -/

/-- Backquoting a name is undone by `strip_sql_name`. -/
theorem stripSqlName_quoted (name : String) : stripSqlName ("`" ++ name ++ "`") = name := by
  have data : ("`" ++ name ++ "`").data = '`' :: (name.data ++ ['`']) := by simp
  rw [stripSqlName, strip_of_visible_ends data rfl rfl, data]
  simp

/-- A backquoted reference names its database and its table; a backquoted table alone is looked
up in the statement's database; and unquoting gives back every backquoted name. -/
theorem splitTableReference_quoted (db table dbName : String) (dbPlain : '.' ∉ db.data)
    (tablePlain : '.' ∉ table.data) :
    splitTableReference ("`" ++ db ++ "`.`" ++ table ++ "`") dbName = .ok (db, table) ∧
      splitTableReference ("`" ++ table ++ "`") dbName = .ok (stripSqlName dbName, table) ∧
      ∀ name, stripSqlName ("`" ++ name ++ "`") = name := by
  have tableQuoted : '.' ∉ ("`" ++ table ++ "`").data := by simp [tablePlain]
  have joined : ("`" ++ db ++ "`.`" ++ table ++ "`").data =
      ['.'].intercalate [("`" ++ db ++ "`").data, ("`" ++ table ++ "`").data] := by
    simp [List.intercalate]
  have pieces : splitOn ("`" ++ db ++ "`.`" ++ table ++ "`") '.' =
      ["`" ++ db ++ "`", "`" ++ table ++ "`"] := by
    rw [splitOn, joined, List.splitOn_intercalate _ _ (by simp [dbPlain, tablePlain]) (by simp)]
    rfl
  have dotted : contains ("`" ++ db ++ "`.`" ++ table ++ "`") "." = true := by
    rw [contains_iff, joined]
    exact ⟨("`" ++ db ++ "`").data, ("`" ++ table ++ "`").data, by simp [List.intercalate]⟩
  have undotted : contains ("`" ++ table ++ "`") "." = false := by
    rw [← Bool.not_eq_true, contains_iff]
    exact fun inside => tableQuoted (inside.subset (List.mem_singleton_self '.'))
  refine ⟨?_, ?_, stripSqlName_quoted⟩
  · rw [splitTableReference, if_pos dotted, pieces]
    dsimp only
    rw [stripSqlName_quoted, stripSqlName_quoted]
  · rw [splitTableReference, if_neg (by simp [undotted]), stripSqlName_quoted]

theorem splitTableReference_quoted_orders :
    ('.' ∉ "shop".data ∧ '.' ∉ "orders".data) ∧
      (splitTableReference ("`" ++ "shop" ++ "`.`" ++ "orders" ++ "`") "main" =
          .ok ("shop", "orders") ∧
        splitTableReference ("`" ++ "orders" ++ "`") "main" = .ok (stripSqlName "main", "orders") ∧
        ∀ name, stripSqlName ("`" ++ name ++ "`") = name) :=
  ⟨⟨by decide, by decide⟩, splitTableReference_quoted "shop" "orders" "main" (by decide) (by decide)⟩

theorem getDbAndTableName_replicator (replicator : DbReplicator) {ref dbName db table : String}
    (reference : splitTableReference ref dbName = .ok (db, table)) :
    getDbAndTableName ⟨some replicator⟩ ref dbName =
      .ok (aliasDatabase replicator db, table,
        replicator.config.isDatabaseMatches (aliasDatabase replicator db) &&
          replicator.config.isTableMatches table) := by
  simp [getDbAndTableName, reference]

/-- A well-formed statement on `[db.]table` runs its sub-operations on the pair of `table`
exactly when the filters keep the aliased database and the table, and it changes the pair of
no other table. -/
theorem convertAlterQuery_target (replicator : DbReplicator) (handlers : ColumnHandlers)
    (state : ReplicatorState) (mysqlQuery dbName : String)
    {query alterWord tableWord ref : String} {rest : List String} {db table : String}
    (validated : basicValidateQuery mysqlQuery = .ok query)
    (header : split query = alterWord :: tableWord :: ref :: rest)
    (isAlter : lower alterWord = "alter") (isTable : lower tableWord = "table")
    (reference : splitTableReference ref dbName = .ok (db, table)) :
    let converter : MysqlToClickhouseConverter := ⟨some replicator⟩
    let aliased := aliasDatabase replicator db
    (convertAlterQuery converter handlers state mysqlQuery dbName =
      if replicator.config.isDatabaseMatches aliased && replicator.config.isTableMatches table then
        runSubqueries converter handlers table query state (splitHighLevel (join " " rest) ',')
      else (state, .ok ())) ∧
    ∀ name, name ≠ table →
      (convertAlterQuery converter handlers state mysqlQuery dbName).1.tablesStructure name =
        state.tablesStructure name := by
  have named := getDbAndTableName_replicator replicator reference
  have result : convertAlterQuery ⟨some replicator⟩ handlers state mysqlQuery dbName =
      if replicator.config.isDatabaseMatches (aliasDatabase replicator db) &&
          replicator.config.isTableMatches table then
        runSubqueries ⟨some replicator⟩ handlers table query state
          (splitHighLevel (join " " rest) ',')
      else (state, .ok ()) := by
    split
    · next kept =>
        rw [kept] at named
        rw [convertAlterQuery, alterPlan_eq validated header isAlter isTable named]
    · next skipped =>
        rw [Bool.not_eq_true] at skipped
        rw [skipped] at named
        rw [convertAlterQuery, alterPlan_skipped validated header isAlter isTable named]
  refine ⟨result, fun name other => ?_⟩
  rw [result]
  split
  · exact runSubqueries_frame _ handlers table query other state _
  · rfl

theorem convertAlterQuery_target_unqualified :
    let converter : MysqlToClickhouseConverter := ⟨some keepAllReplicator⟩
    let state := ReplicatorState.single "t" columnA
    let query := "ALTER TABLE t ADD COLUMN b INT"
    (basicValidateQuery query = .ok query ∧
      split query = "ALTER" :: "TABLE" :: "t" :: ["ADD", "COLUMN", "b", "INT"] ∧
      lower "ALTER" = "alter" ∧ lower "TABLE" = "table" ∧
      splitTableReference "t" "db" = .ok ("db", "t")) ∧
    (convertAlterQuery converter .rejecting state query "db" =
      if keepAllReplicator.config.isDatabaseMatches (aliasDatabase keepAllReplicator "db") &&
          keepAllReplicator.config.isTableMatches "t" then
        runSubqueries converter .rejecting "t" query state
          (splitHighLevel (join " " ["ADD", "COLUMN", "b", "INT"]) ',')
      else (state, .ok ())) ∧
    ∀ name, name ≠ "t" →
      (convertAlterQuery converter .rejecting state query "db").1.tablesStructure name =
        state.tablesStructure name :=
  ⟨⟨rfl, rfl, rfl, rfl, rfl⟩,
    convertAlterQuery_target keepAllReplicator .rejecting _ _ _ rfl rfl rfl rfl rfl⟩

/-- The filters see the target name: a replicator of `src` into `dst` that keeps only `src`
skips a statement on its own table, and one that keeps every database applies a statement on
`other.t` to the pair of `t`. -/
theorem convertAlterQuery_alias_filter :
    let keepSource : DbReplicator :=
      { config := { isDatabaseMatches := (· == "src"), isTableMatches := fun _ => true },
        database := "src", targetDatabase := "dst" }
    let keepAll : DbReplicator :=
      { config := { isDatabaseMatches := fun _ => true, isTableMatches := fun _ => true },
        database := "src", targetDatabase := "dst" }
    let state := ReplicatorState.single "t" columnA
    (convertAlterQuery ⟨some keepSource⟩ .rejecting state "ALTER TABLE t ADD COLUMN b INT"
        "src").1 = state ∧
      ((convertAlterQuery ⟨some keepAll⟩ .rejecting state "ALTER TABLE other.t ADD COLUMN b INT"
        "src").1.tablesStructure "t").map (fun pair => pair.1.fieldNames) = some ["a", "b"] :=
  ⟨rfl, rfl⟩

end MysqlChReplicator.Ddl

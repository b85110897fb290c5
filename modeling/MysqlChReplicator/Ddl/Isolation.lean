import MysqlChReplicator.Ddl.Lockstep

/-!
# Tables do not interfere

`convert_alter_query` reads and writes `tables_structure` only at its statement's table, and
whether it raises depends on nothing else of the state. So after any run of statements, the
pair of a table is the one that the statements altering that table leave when they run alone,
in the same order, from the same state: a statement about another table, one that the filters
skip, and one that raises before its loop change nothing the table's own statements see.
-/

namespace MysqlChReplicator.Ddl

open Python Converter

/-- Whether the statement alters the table: it passes the checks and the filters, and names
the table. -/
def altersTable (converter : MysqlToClickhouseConverter) (tableName : String)
    (statement : String × String) : Bool :=
  match alterPlan converter statement.1 statement.2 with
  | .ok (some plan) => plan.tableName == tableName
  | _ => false

/-! ## One sub-operation, on two states that hold the same pair -/

section Step

variable (converter : MysqlToClickhouseConverter) {tableName : String}
  {state other : ReplicatorState}
  (agree : state.tablesStructure tableName = other.tablesStructure tableName)

include agree

theorem applyHandler_congr (handler : PairHandler) (tokens : List String) :
    (applyHandler converter handler state tableName tokens).1.tablesStructure tableName =
        (applyHandler converter handler other tableName tokens).1.tablesStructure tableName ∧
      (applyHandler converter handler state tableName tokens).2 =
        (applyHandler converter handler other tableName tokens).2 := by
  unfold applyHandler
  rw [agree]
  cases converter.dbReplicator with
  | none => exact ⟨agree, rfl⟩
  | some _ =>
      dsimp only
      cases other.tablesStructure tableName with
      | none => exact ⟨agree, rfl⟩
      | some pair =>
          dsimp only
          cases handler tokens pair with
          | ok changed => simp
          | error e => exact ⟨agree, rfl⟩

theorem convertAlterTableAddColumn_congr (tokens : List String) :
    (convertAlterTableAddColumn converter state tableName tokens).1.tablesStructure tableName =
        (convertAlterTableAddColumn converter other tableName tokens).1.tablesStructure
          tableName ∧
      (convertAlterTableAddColumn converter state tableName tokens).2 =
        (convertAlterTableAddColumn converter other tableName tokens).2 := by
  unfold convertAlterTableAddColumn
  rw [agree]
  cases planAddColumn converter tokens with
  | error e => exact ⟨agree, rfl⟩
  | ok column =>
      dsimp only
      cases converter.dbReplicator with
      | none => exact ⟨agree, rfl⟩
      | some _ =>
          dsimp only
          cases other.tablesStructure tableName with
          | none => exact ⟨agree, rfl⟩
          | some pair => simp

theorem convertSubquery_congr (handlers : ColumnHandlers) (mysqlQuery subquery : String) :
    (convertSubquery converter handlers state tableName mysqlQuery subquery).1.tablesStructure
        tableName =
      (convertSubquery converter handlers other tableName mysqlQuery subquery).1.tablesStructure
        tableName ∧
      (convertSubquery converter handlers state tableName mysqlQuery subquery).2 =
        (convertSubquery converter handlers other tableName mysqlQuery subquery).2 := by
  rcases convertSubquery_dispatch converter handlers tableName mysqlQuery subquery with
    ⟨result, same⟩ | ⟨tokens, added⟩ | ⟨handler, tokens, -, handled⟩
  · rw [same, same]
    exact ⟨agree, rfl⟩
  · rw [added, added]
    exact convertAlterTableAddColumn_congr converter agree tokens
  · rw [handled, handled]
    exact applyHandler_congr converter agree handler tokens

end Step

/-! ## Statements and runs -/

section Runs

variable (converter : MysqlToClickhouseConverter) (handlers : ColumnHandlers)

theorem runSubqueries_congr {tableName mysqlQuery : String} :
    ∀ {state other : ReplicatorState} (subqueries : List String),
      state.tablesStructure tableName = other.tablesStructure tableName →
      (runSubqueries converter handlers tableName mysqlQuery state subqueries).1.tablesStructure
          tableName =
        (runSubqueries converter handlers tableName mysqlQuery other subqueries).1.tablesStructure
          tableName ∧
        (runSubqueries converter handlers tableName mysqlQuery state subqueries).2 =
          (runSubqueries converter handlers tableName mysqlQuery other subqueries).2
  | _, _, [], agree => ⟨agree, rfl⟩
  | state, other, subquery :: subqueries, agree => by
      obtain ⟨agreeStep, sameResult⟩ :=
        convertSubquery_congr converter agree handlers mysqlQuery subquery
      unfold runSubqueries
      generalize convertSubquery converter handlers state tableName mysqlQuery subquery = stepped
        at agreeStep sameResult ⊢
      generalize convertSubquery converter handlers other tableName mysqlQuery subquery = stepped'
        at agreeStep sameResult ⊢
      obtain ⟨after, result⟩ := stepped
      obtain ⟨after', result'⟩ := stepped'
      dsimp only at agreeStep sameResult
      subst sameResult
      rcases result with e | ⟨⟨⟩⟩
      · exact ⟨agreeStep, rfl⟩
      · exact runSubqueries_congr subqueries agreeStep

/-- A statement that does not alter the table leaves its pair alone. -/
theorem convertAlterQuery_frame {tableName : String} {statement : String × String}
    (unaltered : altersTable converter tableName statement = false) (state : ReplicatorState) :
    (convertAlterQuery converter handlers state statement.1 statement.2).1.tablesStructure
      tableName = state.tablesStructure tableName := by
  unfold convertAlterQuery
  unfold altersTable at unaltered
  split
  · rfl
  · rfl
  · next plan planned =>
      simp only [planned, beq_eq_false_iff_ne] at unaltered
      exact runSubqueries_frame converter handlers _ _ (Ne.symm unaltered) state _

theorem convertAlterQuery_congr {tableName : String} {state other : ReplicatorState}
    (agree : state.tablesStructure tableName = other.tablesStructure tableName)
    (mysqlQuery dbName : String) :
    (convertAlterQuery converter handlers state mysqlQuery dbName).1.tablesStructure tableName =
      (convertAlterQuery converter handlers other mysqlQuery dbName).1.tablesStructure
        tableName := by
  unfold convertAlterQuery
  cases alterPlan converter mysqlQuery dbName with
  | error e => exact agree
  | ok plan =>
      cases plan with
      | none => exact agree
      | some plan =>
          by_cases same : plan.tableName = tableName
          · subst same
            exact (runSubqueries_congr converter handlers _ agree).1
          · rw [runSubqueries_frame converter handlers _ _ (Ne.symm same),
              runSubqueries_frame converter handlers _ _ (Ne.symm same)]
            exact agree

theorem alterRun_congr {tableName : String} :
    ∀ {state other : ReplicatorState} (statements : List (String × String)),
      state.tablesStructure tableName = other.tablesStructure tableName →
      (alterRun converter handlers state statements).tablesStructure tableName =
        (alterRun converter handlers other statements).tablesStructure tableName
  | _, _, [], agree => agree
  | _, _, statement :: statements, agree =>
      alterRun_congr statements
        (convertAlterQuery_congr converter handlers agree statement.1 statement.2)

/-- After any run, the pair of a table is the one that the statements altering it leave when
they run alone, in the same order, from the same state. -/
theorem alterRun_filter_altersTable (tableName : String) :
    ∀ (state : ReplicatorState) (statements : List (String × String)),
      (alterRun converter handlers state statements).tablesStructure tableName =
        (alterRun converter handlers state
          (statements.filter (altersTable converter tableName))).tablesStructure tableName
  | _, [] => rfl
  | state, statement :: statements => by
      let after := (convertAlterQuery converter handlers state statement.1 statement.2).1
      by_cases alters : altersTable converter tableName statement = true
      · rw [List.filter_cons_of_pos alters]
        exact alterRun_filter_altersTable tableName after statements
      · rw [List.filter_cons_of_neg alters]
        calc (alterRun converter handlers after statements).tablesStructure tableName
            = (alterRun converter handlers after
                (statements.filter (altersTable converter tableName))).tablesStructure
                  tableName := alterRun_filter_altersTable tableName after statements
          _ = (alterRun converter handlers state
                (statements.filter (altersTable converter tableName))).tablesStructure
                  tableName :=
              alterRun_congr converter handlers _
                (convertAlterQuery_frame converter handlers (eq_false_of_ne_true alters) state)

end Runs

end MysqlChReplicator.Ddl

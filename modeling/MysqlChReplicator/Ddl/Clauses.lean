import MysqlChReplicator.Ddl.Targets
import MysqlChReplicator.Python.Words

/-!
# Cutting an ALTER statement into sub-operations

`convert_alter_query` joins the words after the table reference with single spaces and cuts
the result at the commas `split_high_level` meets at parenthesis level 0. The splitter counts
every `(` and `)`, and the single-statement check every `;`, inside quotes or not. A clause
list is therefore cut as written when each clause, read character by character, meets no
comma at level 0 and ends back at level 0: the statement then dispatches one piece per clause,
with the clause's words. Whatever the text, the pieces keep all its visible characters but a
separator at its very end. The check itself accepts exactly the statements whose only `;` is
their last visible character, and keeps what stands before it, blanks included.
-/

namespace MysqlChReplicator.Ddl

open Python Converter

/-- Read from `level`, the text meets no `,` at level 0 and ends at level 0. -/
def closedFrom : Int → List Char → Bool
  | level, [] => level == 0
  | level, c :: rest => (c != ',' || level != 0) && closedFrom (nextLevel level c) rest

/-- A sub-operation clause that `split_high_level` keeps whole, with no `;` in it. -/
structure Clause where
  text : String
  noSemicolon : ';' ∉ text.data
  closed : closedFrom 0 text.data = true

section Loop

variable {piece : List Char}

/-- The loop reads a closed piece into the current one and comes back to level 0. -/
theorem splitHighLevelLoop_append {level : Int} (closed : closedFrom level piece = true)
    (rest currData : List Char) :
    splitHighLevelLoop ',' (piece ++ rest) level currData =
      splitHighLevelLoop ',' rest 0 (currData ++ piece) := by
  induction piece generalizing level currData with
  | nil =>
      obtain rfl : level = 0 := by simpa [closedFrom] using closed
      rw [List.nil_append, List.append_nil]
  | cons c piece ih =>
      simp only [closedFrom, Bool.and_eq_true, Bool.or_eq_true, bne_iff_ne, ne_eq] at closed
      rw [List.cons_append, splitHighLevelLoop, if_neg (by tauto), ih closed.2,
        List.append_assoc, List.singleton_append]

theorem splitHighLevelLoop_piece (closed : closedFrom 0 piece = true) (rest currData : List Char) :
    splitHighLevelLoop ',' (piece ++ ',' :: rest) 0 currData =
      strip ⟨currData ++ piece⟩ :: splitHighLevelLoop ',' rest 0 [] := by
  rw [splitHighLevelLoop_append closed, splitHighLevelLoop, if_pos ⟨rfl, rfl⟩]

theorem splitHighLevelLoop_last (closed : closedFrom 0 piece = true) {currData : List Char}
    (nonempty : currData ++ piece ≠ []) :
    splitHighLevelLoop ',' piece 0 currData = [strip ⟨currData ++ piece⟩] := by
  have read := splitHighLevelLoop_append closed [] currData
  rw [List.append_nil] at read
  simp [read, splitHighLevelLoop, nonempty]

end Loop

/-! ## What the cut keeps -/

section Visible

variable {token : Char}

theorem filter_visible_strip (s : String) :
    (strip s).data.filter (fun c => !isSpace c) = s.data.filter fun c => !isSpace c := by
  rw [← flatten_words, words_strip, flatten_words]

theorem splitHighLevelLoop_eq_nil :
    ∀ {data : List Char} {level : Int} {currData : List Char},
      splitHighLevelLoop token data level currData = [] → data = [] ∧ currData = []
  | [], _, currData, empty => by
      unfold splitHighLevelLoop at empty
      split at empty
      · next noData => exact ⟨rfl, List.isEmpty_iff.mp noData⟩
      · cases empty
  | c :: rest, level, currData, empty => by
      unfold splitHighLevelLoop at empty
      split at empty
      · cases empty
      · exact absurd (splitHighLevelLoop_eq_nil empty).2 (by simp)

/-- The loop keeps every visible character of the current piece and of the text left, but a
separator at the very end. -/
theorem splitHighLevelLoop_visible (visibleToken : isSpace token = false) :
    ∀ (data : List Char) (level : Int) (currData : List Char),
      let joined := ([token].intercalate
        ((splitHighLevelLoop token data level currData).map String.data)).filter fun c => !isSpace c
      joined = (currData ++ data).filter (fun c => !isSpace c) ∨
        joined ++ [token] = (currData ++ data).filter fun c => !isSpace c
  | [], level, currData => by
      refine .inl ?_
      unfold splitHighLevelLoop
      split
      · next noData => simp [List.isEmpty_iff.mp noData, List.intercalate]
      · simp [List.intercalate, filter_visible_strip]
  | c :: rest, level, currData => by
      unfold splitHighLevelLoop
      split
      · next cut =>
          obtain ⟨same, rfl⟩ := cut
          subst c
          have total : (currData ++ token :: rest).filter (fun c => !isSpace c) =
              currData.filter (fun c => !isSpace c) ++ token :: rest.filter fun c => !isSpace c := by
            simp [List.filter_append, visibleToken]
          rw [total]
          cases pieces : splitHighLevelLoop token rest 0 [] with
          | nil =>
              obtain ⟨rfl, -⟩ := splitHighLevelLoop_eq_nil pieces
              refine .inr ?_
              simp [List.intercalate, filter_visible_strip]
          | cons piece more =>
              have ih := splitHighLevelLoop_visible visibleToken rest 0 []
              rw [pieces] at ih
              have joined : [token].intercalate ((strip ⟨currData⟩ :: piece :: more).map String.data) =
                  (strip ⟨currData⟩).data ++ token ::
                    [token].intercalate ((piece :: more).map String.data) :=
                rfl
              rw [joined, List.filter_append, List.filter_cons_of_pos (by simpa using visibleToken),
                filter_visible_strip]
              rcases ih with same | dropped
              · exact .inl (by rw [same, List.nil_append])
              · exact .inr (by rw [List.append_assoc, List.cons_append, dropped, List.nil_append])
      · have ih := splitHighLevelLoop_visible visibleToken rest (nextLevel level c) (currData ++ [c])
        rwa [List.append_assoc, List.singleton_append] at ih

/-- `split_high_level` loses nothing but whitespace and a separator at the very end: joined by
the separator, the pieces have the visible characters of the text, or those of the text without
its last separator. -/
theorem splitHighLevel_visible (data : String) (visibleToken : isSpace token = false) :
    let joined := ([token].intercalate ((splitHighLevel data token).map String.data)).filter
      fun c => !isSpace c
    joined = data.data.filter (fun c => !isSpace c) ∨
      joined ++ [token] = data.data.filter fun c => !isSpace c :=
  splitHighLevelLoop_visible visibleToken data.data 0 []

end Visible

theorem splitHighLevel_visible_trailing_comma :
    isSpace ',' = false ∧
      let joined := ([','].intercalate ((splitHighLevel "ADD a INT, DROP b," ',').map
        String.data)).filter fun c => !isSpace c
      joined = "ADD a INT, DROP b,".data.filter (fun c => !isSpace c) ∨
        joined ++ [','] = "ADD a INT, DROP b,".data.filter fun c => !isSpace c :=
  ⟨rfl, splitHighLevel_visible "ADD a INT, DROP b," rfl⟩

section Whitespace

theorem nextLevel_of_space {c : Char} (space : isSpace c = true) (level : Int) :
    nextLevel level c = level := by
  have notOpen : c ≠ '(' := by rintro rfl; exact absurd space (by decide)
  have notClose : c ≠ ')' := by rintro rfl; exact absurd space (by decide)
  simp [nextLevel, notOpen, notClose]

/-- Whitespace neither moves the level nor is a comma: only the visible characters count. -/
theorem closedFrom_filter (level : Int) (xs : List Char) :
    closedFrom level (xs.filter fun c => !isSpace c) = closedFrom level xs := by
  induction xs generalizing level with
  | nil => rfl
  | cons c xs ih =>
      cases space : isSpace c with
      | false => simp [List.filter_cons, space, closedFrom, ih]
      | true =>
          have notComma : c ≠ ',' := by rintro rfl; exact absurd space (by decide)
          simp [List.filter_cons, space, closedFrom, ih, nextLevel_of_space space, notComma]

theorem closedFrom_of_visible {xs ys : List Char}
    (same : (xs.filter fun c => !isSpace c) = ys.filter fun c => !isSpace c) (level : Int) :
    closedFrom level xs = closedFrom level ys := by
  rw [← closedFrom_filter, same, closedFrom_filter]

/-- Whitespace before a text with a closed clause's visible characters keeps it closed. -/
theorem closedFrom_spaces_append {pre front clause : List Char}
    (spaces : ∀ c ∈ pre, isSpace c = true)
    (same : (front.filter fun c => !isSpace c) = clause.filter fun c => !isSpace c)
    (closed : closedFrom 0 clause = true) : closedFrom 0 (pre ++ front) = true :=
  (closedFrom_of_visible (by
    rw [List.filter_append, List.filter_eq_nil_iff.mpr (by simpa using spaces), same,
      List.nil_append]) 0).trans closed

end Whitespace

section Clauses

theorem words_join_comma_ne_nil :
    ∀ {clauses : List String} (nonempty : clauses ≠ []),
      split (clauses.getLast nonempty) ≠ [] → words (join ", " clauses).data ≠ []
  | [clause], _, worded => by simpa [split_eq_words, join, List.intercalate] using worded
  | clause :: next :: clauses, _, worded => by
      rw [data_join_comma, words_append_space isSpace_space]
      exact List.append_ne_nil_of_right_ne_nil _ (words_join_comma_ne_nil _ worded)

/-- The loop over `' '.join` of the words of `', '.join(clauses)`, after some whitespace,
gives one piece per clause, with the clause's words. -/
theorem splitHighLevelLoop_clauses :
    ∀ {clauses : List String} (nonempty : clauses ≠ []),
      (∀ clause ∈ clauses, closedFrom 0 clause.data = true) →
      split (clauses.getLast nonempty) ≠ [] →
      ∀ {pre : List Char}, (∀ c ∈ pre, isSpace c = true) →
        (splitHighLevelLoop ',' (pre ++ [' '].intercalate (words (join ", " clauses).data)) 0
          []).map split = clauses.map split
  | [clause], _, closed, worded, pre, spaces => by
      have single : (join ", " [clause]).data = clause.data := by simp [join, List.intercalate]
      rw [single]
      have nonempty : [] ++ (pre ++ [' '].intercalate (words clause.data)) ≠ [] := by
        intro empty
        have noWords : words clause.data = [] := by
          rw [← words_words clause.data, ← words_spaces_append spaces,
            ← List.nil_append (pre ++ _), empty, words_nil]
        exact worded (by simp [split_eq_words, noWords])
      rw [splitHighLevelLoop_last (closedFrom_spaces_append spaces
        (filter_intercalate_words clause.data) (closed clause (by simp))) nonempty]
      simp [split_eq_words, words_strip, words_spaces_append spaces, words_words]
  | clause :: next :: clauses, _, closed, worded, pre, spaces => by
      obtain ⟨front, ends, sameWords, sameVisible⟩ :=
        intercalate_words_concat isSpace_comma clause.data
      have firstWords : words (clause.data ++ [',']) ≠ [] := by
        intro empty
        simp [empty, List.intercalate] at ends
      have wordedRest : split ((next :: clauses).getLast (List.cons_ne_nil _ _)) ≠ [] := by
        rwa [List.getLast_cons (List.cons_ne_nil _ _)] at worded
      rw [data_join_comma, words_append_space isSpace_space,
        intercalate_space_append _ firstWords (words_join_comma_ne_nil _ wordedRest), ends]
      have regrouped : pre ++ (front ++ [','] ++ ' ' :: [' '].intercalate
          (words (join ", " (next :: clauses)).data)) =
          (pre ++ front) ++ ',' :: ([' '] ++ [' '].intercalate
            (words (join ", " (next :: clauses)).data)) := by simp
      rw [regrouped, splitHighLevelLoop_piece (closedFrom_spaces_append spaces sameVisible
        (closed clause (by simp))), List.map_cons, List.map_cons,
        splitHighLevelLoop_clauses (List.cons_ne_nil _ _)
          (fun c mem => closed c (List.mem_cons_of_mem _ mem)) wordedRest (by decide)]
      simp [split_eq_words, words_strip, words_spaces_append spaces, sameWords]

theorem semicolon_not_mem_join :
    ∀ {texts : List String}, (∀ text ∈ texts, ';' ∉ text.data) →
      ';' ∉ (join ", " texts).data
  | [], _ => by simp [join, List.intercalate]
  | [text], absent => by simpa [join, List.intercalate] using absent text (by simp)
  | text :: next :: texts, absent => by
      rw [data_join_comma]
      simp [absent text (by simp),
        semicolon_not_mem_join fun t mem => absent t (List.mem_cons_of_mem _ mem)]

end Clauses

section Check

theorem not_infix_singleton {c : Char} {xs : List Char} (absent : c ∉ xs) : ¬ [c] <:+: xs :=
  fun inside => absent (inside.subset (List.mem_singleton_self c))

/-- A text with no `;`, with or without one `;` after it, passes the single-statement check,
which keeps its words. -/
theorem basicValidateQuery_terminated {text : String} (noSemicolon : ';' ∉ text.data)
    (terminated : Bool) : ∃ query,
      basicValidateQuery (text ++ if terminated then ";" else "") = .ok query ∧
        split query = split text := by
  have dropped : ';' ∉ text.data.dropWhile isSpace :=
    fun mem => noSemicolon ((List.dropWhile_suffix isSpace).subset mem)
  cases terminated with
  | false =>
      have absent : ';' ∉ (strip text).data :=
        fun mem => dropped ((List.rdropWhile_prefix isSpace _).subset mem)
      have notSuffix : ¬ [';'] <:+ (strip text).data :=
        fun suffix => not_infix_singleton absent suffix.isInfix
      refine ⟨strip text, ?_, by rw [split_eq_words, split_eq_words, words_strip]⟩
      simp [basicValidateQuery, notSuffix, not_infix_singleton absent]
  | true =>
      have stripped : strip (text ++ ";") = ⟨text.data.dropWhile isSpace ++ [';']⟩ := by
        have front :
            (text.data ++ [';']).dropWhile isSpace = text.data.dropWhile isSpace ++ [';'] := by
          rw [List.dropWhile_append]
          split
          · next empty =>
              rw [List.isEmpty_iff.mp empty]
              rfl
          · rfl
        simp only [strip, String.data_append, front]
        rw [List.rdropWhile_concat_neg isSpace _ ';' (by decide)]
      refine ⟨⟨text.data.dropWhile isSpace⟩, ?_, by
        rw [split_eq_words, split_eq_words, words_dropWhile]⟩
      simp [basicValidateQuery, stripped, not_infix_singleton dropped]

/-- The single-statement check accepts exactly the statements that, once stripped, hold no `;`
but one at the very end, and returns the stripped statement without that `;`. -/
theorem basicValidateQuery_ok_iff (mysqlQuery query : String) :
    basicValidateQuery mysqlQuery = .ok query ↔
      ';' ∉ query.data ∧ (strip mysqlQuery = query ∨ strip mysqlQuery = query ++ ";") := by
  have infix_of_mem : ∀ {xs : List Char}, ';' ∈ xs → [';'] <:+: xs := fun mem => by
    obtain ⟨s, t, rfl⟩ := List.append_of_mem mem
    exact ⟨s, t, by simp⟩
  unfold basicValidateQuery
  dsimp only
  generalize strip mysqlQuery = stripped
  constructor
  · intro validated
    split_ifs at validated with ends semicolon semicolon
    all_goals cases validated
    · obtain ⟨body, suffix⟩ := (endswith_iff _ _).mp ends
      refine ⟨fun mem => semicolon (by simpa using infix_of_mem mem), .inr (String.ext ?_)⟩
      simp [← suffix]
    · exact ⟨fun mem => semicolon (by simpa using infix_of_mem mem), .inl rfl⟩
  · rintro ⟨noSemicolon, rfl | rfl⟩
    · have notSuffix : ¬ [';'] <:+ stripped.data :=
        fun suffix => not_infix_singleton noSemicolon suffix.isInfix
      simp [notSuffix, not_infix_singleton noSemicolon]
    · simp [not_infix_singleton noSemicolon]

/-- The blank before the final `;` stays. -/
example : basicValidateQuery "ALTER TABLE t DROP c ;" = .ok "ALTER TABLE t DROP c " := rfl

end Check

theorem data_alterTable (ref body : String) :
    ("ALTER TABLE " ++ ref ++ " " ++ body).data =
      "ALTER".data ++ ' ' :: ("TABLE".data ++ ' ' :: (ref.data ++ ' ' :: body.data)) := by
  simp only [String.data_append, List.append_assoc]
  rfl

/-- A statement `ALTER TABLE ref c1, ..., cn`, with or without one `;` after it, on a table the
filters keep, passes the single-statement check and runs one sub-operation per clause, each
with the words of its clause. -/
theorem convertAlterQuery_clauses (converter : MysqlToClickhouseConverter)
    (handlers : ColumnHandlers) (state : ReplicatorState) (ref dbName : String) {db table : String}
    (clauses : List Clause) (terminated : Bool)
    (reference : IsWord ref.data) (referenceNoSemicolon : ';' ∉ ref.data)
    (kept : getDbAndTableName converter ref dbName = .ok (db, table, true))
    (nonempty : clauses ≠ []) (lastWord : split (clauses.getLast nonempty).text ≠ []) :
    let mysqlQuery := "ALTER TABLE " ++ ref ++ " " ++ join ", " (clauses.map Clause.text) ++
      if terminated then ";" else ""
    ∃ query pieces, basicValidateQuery mysqlQuery = .ok query ∧
      pieces.map split = clauses.map (fun clause => split clause.text) ∧
      convertAlterQuery converter handlers state mysqlQuery dbName =
        runSubqueries converter handlers table query state pieces := by
  intro mysqlQuery
  have textsNonempty : clauses.map Clause.text ≠ [] := by simpa using nonempty
  have textsLast : split ((clauses.map Clause.text).getLast textsNonempty) ≠ [] := by
    rwa [List.getLast_map]
  have noSemicolon :
      ';' ∉ ("ALTER TABLE " ++ ref ++ " " ++ join ", " (clauses.map Clause.text)).data := by
    rw [data_alterTable]
    simp only [List.mem_append, List.mem_cons, not_or]
    exact ⟨by decide, by decide, by decide, by decide, referenceNoSemicolon, by decide,
      semicolon_not_mem_join (by simpa using fun clause _ => clause.noSemicolon)⟩
  obtain ⟨query, validated, sameSplit⟩ := basicValidateQuery_terminated noSemicolon terminated
  have header : split query =
      "ALTER" :: "TABLE" :: ref :: split (join ", " (clauses.map Clause.text)) := by
    rw [sameSplit, split_eq_words, data_alterTable, words_append_space isSpace_space,
      words_append_space isSpace_space, words_append_space isSpace_space,
      words_of_isWord reference, words_of_isWord (by decide), words_of_isWord (by decide)]
    rfl
  have planned := alterPlan_eq validated header rfl rfl kept
  refine ⟨query, _, validated, ?_, by rw [convertAlterQuery, planned]⟩
  have pieces := @splitHighLevelLoop_clauses _ textsNonempty
    (by simpa using fun clause _ => clause.closed) textsLast [] (by simp)
  rw [List.nil_append, List.map_map] at pieces
  simpa [splitHighLevel, data_join_space, split_eq_words, List.map_map, Function.comp_def]
    using pieces


theorem convertAlterQuery_clauses_numeric :
    let clauses : List Clause :=
      [⟨"ADD COLUMN b NUMERIC(5,2)", by decide, by decide⟩,
        ⟨"MODIFY COLUMN a BIGINT", by decide, by decide⟩]
    let mysqlQuery := "ALTER TABLE " ++ "t" ++ " " ++ join ", " (clauses.map Clause.text) ++
      if true then ";" else ""
    let state := ReplicatorState.single "t" columnA
    (IsWord "t".data ∧ ';' ∉ "t".data ∧
      getDbAndTableName ⟨some keepAllReplicator⟩ "t" "db" = .ok ("db", "t", true) ∧
      split (clauses.getLast (List.cons_ne_nil _ _)).text ≠ []) ∧
    ∃ query pieces, basicValidateQuery mysqlQuery = .ok query ∧
      pieces.map split = clauses.map (fun clause => split clause.text) ∧
      convertAlterQuery ⟨some keepAllReplicator⟩ .rejecting state mysqlQuery "db" =
        runSubqueries ⟨some keepAllReplicator⟩ .rejecting "t" query state pieces :=
  ⟨⟨by decide, by decide, rfl, by decide⟩,
    convertAlterQuery_clauses ⟨some keepAllReplicator⟩ .rejecting _ "t" "db" _ true
      (by decide) (by decide) rfl (List.cons_ne_nil _ _) (by decide)⟩

/-- The splitter and the single-statement check do not see quotes: a comma in a comment cuts
its clause in two, a `;` in a default fails the check, and a `)` in an enum label closes the
type's level, so that the comma after the label cuts the clause. -/
theorem convertAlterQuery_quoted_separators :
    let converter : MysqlToClickhouseConverter := ⟨some keepAllReplicator⟩
    let state := ReplicatorState.single "t" columnA
    (alterPlan converter "ALTER TABLE t ADD COLUMN c INT COMMENT 'a, b'" "db" =
        .ok (some ⟨"ALTER TABLE t ADD COLUMN c INT COMMENT 'a, b'", "t",
          ["ADD COLUMN c INT COMMENT 'a", "b'"]⟩) ∧
      (convertAlterQuery converter .rejecting state "ALTER TABLE t ADD COLUMN c INT COMMENT 'a, b'"
        "db").2 = .error (.indexError "list index out of range")) ∧
    convertAlterQuery converter .rejecting state "ALTER TABLE t ADD COLUMN c CHAR(1) DEFAULT ';'"
        "db" = (state, .error (.exception "multi-query statement not supported")) ∧
    alterPlan converter "ALTER TABLE t ADD COLUMN e ENUM('x)','y'), ADD COLUMN f INT" "db" =
      .ok (some ⟨"ALTER TABLE t ADD COLUMN e ENUM('x)','y'), ADD COLUMN f INT", "t",
        ["ADD COLUMN e ENUM('x)'", "'y'), ADD COLUMN f INT"]⟩) :=
  ⟨⟨rfl, rfl⟩, rfl, rfl⟩

end MysqlChReplicator.Ddl

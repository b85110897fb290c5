import MysqlChReplicator.Converter.ConvertType

/-!
# Converting a table structure

`convert_table_structure` succeeds exactly when the type of every column maps and every primary
key names a column, and the ClickHouse structure then has the MySQL field names.
-/

namespace MysqlChReplicator.Converter

open Python

theorem mapM_ok_iff {ε α β : Type} {f : α → Except ε β} :
    ∀ {xs : List α}, (∃ ys, xs.mapM f = .ok ys) ↔ ∀ x ∈ xs, ∃ y, f x = .ok y
  | [] => ⟨fun _ x mem => (List.not_mem_nil x mem).elim, fun _ => ⟨[], rfl⟩⟩
  | x :: xs => by
      rw [List.mapM_cons]
      constructor
      · rintro ⟨ys, ok⟩ z mem
        obtain ⟨y, head, ok⟩ := bind_eq_ok.mp ok
        obtain ⟨rest, tail, -⟩ := bind_eq_ok.mp ok
        rcases List.mem_cons.mp mem with rfl | inTail
        · exact ⟨y, head⟩
        · exact mapM_ok_iff.mp ⟨rest, tail⟩ z inTail
      · intro each
        obtain ⟨y, head⟩ := each x (List.mem_cons_self x xs)
        obtain ⟨rest, tail⟩ := mapM_ok_iff.mpr fun z mem => each z (List.mem_cons_of_mem x mem)
        exact ⟨y :: rest, by rw [head, ok_bind, tail]; rfl⟩

namespace TableStructure

/-- `preprocess` succeeds exactly when every key names a field, and then only sets the key
positions. -/
theorem preprocess_ok_iff {table processed : TableStructure} :
    table.preprocess = .ok processed ↔
      (∀ key ∈ table.primaryKeys, key ∈ table.fieldNames) ∧
        processed = { table with primaryKeyIds := table.keyIds } := by
  unfold preprocess
  split
  · next key found =>
      have missing := List.find?_some found
      simp only [decide_eq_true_eq] at missing
      exact ⟨(fun raised => by cases raised),
        fun ⟨named, _⟩ => absurd (named key (List.mem_of_find?_eq_some found)) missing⟩
  · next none =>
      simp only [List.find?_eq_none, decide_eq_true_eq, not_not] at none
      exact ⟨(fun ok => by cases ok; exact ⟨none, rfl⟩), fun ⟨_, same⟩ => same ▸ rfl⟩

end TableStructure

section Conversion

variable {converter : MysqlToClickhouseConverter} {mysqlStructure : TableStructure}

/-- The loop of `convert_table_structure` over the fields, before `preprocess`. -/
theorem convertTableStructure_fields :
    convertTableStructure converter mysqlStructure =
      (mysqlStructure.fields.mapM fun field => do
        let clickhouseFieldType ← convertFieldType converter field.fieldType field.parameters
        pure { name := field.name, fieldType := clickhouseFieldType : TableField }) >>= fun fields =>
      TableStructure.preprocess
        { tableName := mysqlStructure.tableName, ifNotExists := mysqlStructure.ifNotExists,
          fields, primaryKeys := mysqlStructure.primaryKeys } := rfl

theorem names_of_mapM_field {fields : List TableField}
    (mapped : (mysqlStructure.fields.mapM fun field => do
      let clickhouseFieldType ← convertFieldType converter field.fieldType field.parameters
      pure { name := field.name, fieldType := clickhouseFieldType : TableField }) = .ok fields) :
    fields.map TableField.name = mysqlStructure.fieldNames :=
  mapM_ok_map (fun field converted ok => by
    obtain ⟨clickhouseFieldType, -, ok⟩ := bind_eq_ok.mp ok
    cases ok
    rfl) mapped

/-- `convert_table_structure` raises exactly when the type of a column does not map or a primary
key names no column. -/
theorem convertTableStructure_ok_iff (converter : MysqlToClickhouseConverter)
    (mysqlStructure : TableStructure) :
    (∃ clickhouseStructure,
        convertTableStructure converter mysqlStructure = .ok clickhouseStructure) ↔
      (∀ field ∈ mysqlStructure.fields, ∃ clickhouseFieldType,
        convertFieldType converter field.fieldType field.parameters = .ok clickhouseFieldType) ∧
      ∀ key ∈ mysqlStructure.primaryKeys, key ∈ mysqlStructure.fieldNames := by
  have fieldOk : ∀ field : TableField,
      (∃ clickhouseField, (do
        let clickhouseFieldType ← convertFieldType converter field.fieldType field.parameters
        pure { name := field.name, fieldType := clickhouseFieldType : TableField }) =
          Except.ok clickhouseField) ↔
      ∃ clickhouseFieldType,
        convertFieldType converter field.fieldType field.parameters = .ok clickhouseFieldType := by
    intro field
    constructor
    · rintro ⟨_, ok⟩
      obtain ⟨clickhouseFieldType, typed, -⟩ := bind_eq_ok.mp ok
      exact ⟨clickhouseFieldType, typed⟩
    · rintro ⟨clickhouseFieldType, typed⟩
      exact ⟨_, by rw [typed]; rfl⟩
  rw [convertTableStructure_fields]
  constructor
  · rintro ⟨clickhouseStructure, converted⟩
    obtain ⟨fields, mapped, processed⟩ := bind_eq_ok.mp converted
    obtain ⟨named, -⟩ := TableStructure.preprocess_ok_iff.mp processed
    refine ⟨fun field mem => (fieldOk field).mp (mapM_ok_iff.mp ⟨fields, mapped⟩ field mem), ?_⟩
    simpa [TableStructure.fieldNames, names_of_mapM_field mapped] using named
  · rintro ⟨typed, named⟩
    obtain ⟨fields, mapped⟩ := mapM_ok_iff.mpr fun field mem => (fieldOk field).mpr (typed field mem)
    rw [mapped, ok_bind]
    exact ⟨_, TableStructure.preprocess_ok_iff.mpr
      ⟨by simpa [TableStructure.fieldNames, names_of_mapM_field mapped] using named, rfl⟩⟩

end Conversion

end MysqlChReplicator.Converter

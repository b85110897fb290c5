import MysqlChReplicator.Converter.ConvertRecord

/-!
# Rows and columns

`convert_record` walks the row, not the schema. Each value is converted on its own, by the
field types at its index; the rest of the row shows up only in the text of the index error. The
row's length is checked only by that error, raised for a value past the schema's last field: a
row shorter than the schema is converted as it is.
-/

namespace MysqlChReplicator.Converter

open Python

/-- Library calls that succeed and change nothing. -/
def Externals.passThrough : Externals where
  str _ := ""
  jsonDumps _ := .ok ""
  decode _ _ := .ok ""
  uuidBytes _ := .ok []
  addFloat _ bits := bits
  addDecimal _ value := value
  convertMysqlToClickhouseEnum value _ _ := .ok value

section Columns

variable {ext : Externals} {mysqlRecord : List PyValue}
  {mysqlFieldTypes clickhouseFieldTypes : List String} {mysqlStructure : TableStructure}
  {onlyPrimary : Bool}

/-- A column that converts reads the rest of the row only in its error message. -/
theorem convertColumn_of_record {idx : Nat} {value converted : PyValue}
    (ok : convertColumn ext mysqlRecord mysqlFieldTypes clickhouseFieldTypes mysqlStructure
      onlyPrimary idx value = .ok converted) (other : List PyValue) :
    convertColumn ext other mysqlFieldTypes clickhouseFieldTypes mysqlStructure onlyPrimary idx
      value = .ok converted := by
  unfold convertColumn at ok ⊢
  split
  · next skipped => rwa [if_pos skipped] at ok
  · next converted =>
      rw [if_neg converted] at ok
      cases mysqlAt : mysqlFieldTypes[idx]? with
      | none => rw [mysqlAt] at ok; cases ok
      | some mysqlFieldType => simpa [mysqlAt] using ok

theorem convertRecord_length {out : List PyValue}
    (ok : convertRecord ext mysqlRecord mysqlFieldTypes clickhouseFieldTypes mysqlStructure
      onlyPrimary = .ok out) : out.length = mysqlRecord.length := by
  simpa using mapM_ok_length ok

/-- Under `only_primary`, a column outside the keys is kept as it is; a key column is converted as
in the full run. -/
theorem convertColumn_onlyPrimary (idx : Nat) (value : PyValue) :
    convertColumn ext mysqlRecord mysqlFieldTypes clickhouseFieldTypes mysqlStructure true idx
        value =
      if idx ∈ mysqlStructure.primaryKeyIds then
        convertColumn ext mysqlRecord mysqlFieldTypes clickhouseFieldTypes mysqlStructure false
          idx value
      else .ok value := by
  by_cases key : idx ∈ mysqlStructure.primaryKeyIds <;> simp [convertColumn, key]

/-- A column that raises makes the row raise, with its error or with that of a column
before it. -/
theorem convertRecord_error_of_getElem? {idx : Nat} {value : PyValue} {e : PyError}
    (valueAt : mysqlRecord[idx]? = some value)
    (raised : convertColumn ext mysqlRecord mysqlFieldTypes clickhouseFieldTypes mysqlStructure
      onlyPrimary idx value = .error e) :
    ∃ e', convertRecord ext mysqlRecord mysqlFieldTypes clickhouseFieldTypes mysqlStructure
        onlyPrimary = .error e' ∧
      (e' = e ∨ ∃ j < idx, ∃ earlier, mysqlRecord[j]? = some earlier ∧
        convertColumn ext mysqlRecord mysqlFieldTypes clickhouseFieldTypes mysqlStructure
          onlyPrimary j earlier = .error e') := by
  obtain ⟨e', rowRaised, which⟩ := @mapM_error_of_getElem? _ _ _
    (fun (idx, value) => convertColumn ext mysqlRecord mysqlFieldTypes clickhouseFieldTypes
      mysqlStructure onlyPrimary idx value) e _ _ _
    (show mysqlRecord.enum[idx]? = some (idx, value) by simp [List.getElem?_enum, valueAt]) raised
  refine ⟨e', rowRaised, which.imp_right fun ⟨j, before, ⟨i, earlier⟩, at_j, failed⟩ => ?_⟩
  rw [List.getElem?_enum, Option.map_eq_some'] at at_j
  obtain ⟨earlier, earlierAt, same⟩ := at_j
  cases same
  exact ⟨j, before, earlier, earlierAt, failed⟩

/-- A value past the schema's last field raises the schema-mismatch error. -/
theorem convertColumn_past_schema (value : PyValue) :
    convertColumn ext mysqlRecord mysqlFieldTypes clickhouseFieldTypes mysqlStructure false
        mysqlFieldTypes.length value =
      .error (.indexError (fieldIndexMessage ext mysqlFieldTypes.length mysqlStructure.tableName
        value mysqlRecord.length mysqlFieldTypes.length mysqlFieldTypes)) := by
  simp [convertColumn]

/-- Under `only_primary`, the row is the full run's row at the keys and the row itself elsewhere. -/
theorem convertRecord_onlyPrimary_eq {out : List PyValue}
    (full : convertRecord ext mysqlRecord mysqlFieldTypes clickhouseFieldTypes mysqlStructure
      false = .ok out) :
    convertRecord ext mysqlRecord mysqlFieldTypes clickhouseFieldTypes mysqlStructure true =
      .ok (List.zipWith (fun (column : Nat × PyValue) converted =>
        if column.1 ∈ mysqlStructure.primaryKeyIds then converted else column.2)
        mysqlRecord.enum out) := by
  have keyOnly : convertRecord ext mysqlRecord mysqlFieldTypes clickhouseFieldTypes mysqlStructure
      true = mysqlRecord.enum.mapM fun column =>
        if column.1 ∈ mysqlStructure.primaryKeyIds then
          (fun (idx, value) => convertColumn ext mysqlRecord mysqlFieldTypes clickhouseFieldTypes
            mysqlStructure false idx value) column
        else .ok column.2 := by
    unfold convertRecord
    congr 1
    funext ⟨idx, value⟩
    exact convertColumn_onlyPrimary idx value
  exact keyOnly.trans (mapM_select full)

/-- Two rows that agree at an index convert to rows that agree there. -/
theorem convertRecord_getElem?_congr {other out otherOut : List PyValue} {idx : Nat}
    (ok : convertRecord ext mysqlRecord mysqlFieldTypes clickhouseFieldTypes mysqlStructure
      onlyPrimary = .ok out)
    (otherOk : convertRecord ext other mysqlFieldTypes clickhouseFieldTypes mysqlStructure
      onlyPrimary = .ok otherOut)
    (same : other[idx]? = mysqlRecord[idx]?) : otherOut[idx]? = out[idx]? := by
  cases valueAt : mysqlRecord[idx]? with
  | none =>
      rw [valueAt, List.getElem?_eq_none_iff] at same
      rw [List.getElem?_eq_none_iff] at valueAt
      rw [List.getElem?_eq_none_iff.mpr (by rwa [convertRecord_length otherOk]),
        List.getElem?_eq_none_iff.mpr (by rwa [convertRecord_length ok])]
  | some value =>
      obtain ⟨converted, column, outAt⟩ := convertRecord_getElem? ok valueAt
      obtain ⟨otherConverted, otherColumn, otherAt⟩ :=
        convertRecord_getElem? otherOk (same.trans valueAt)
      rw [convertColumn_of_record column other] at otherColumn
      cases otherColumn
      rw [outAt, otherAt]

end Columns

/-! ## Column independence -/

/-- Each value of a converted row depends on the row's value at its index only; and when the
full run converts a row, the key-only run converts it too, into the full run's values at the
key indices and the row's own values elsewhere. -/
theorem convertRecord_columns_independent (ext : Externals)
    (mysqlFieldTypes clickhouseFieldTypes : List String) (mysqlStructure : TableStructure)
    (mysqlRecord out : List PyValue)
    (full : convertRecord ext mysqlRecord mysqlFieldTypes clickhouseFieldTypes mysqlStructure
      false = .ok out) :
    (∀ (other otherOut : List PyValue) (idx : Nat),
      convertRecord ext other mysqlFieldTypes clickhouseFieldTypes mysqlStructure false =
        .ok otherOut →
      other[idx]? = mysqlRecord[idx]? → otherOut[idx]? = out[idx]?) ∧
    ∃ keyed, convertRecord ext mysqlRecord mysqlFieldTypes clickhouseFieldTypes mysqlStructure
        true = .ok keyed ∧
      ∀ idx, (idx ∈ mysqlStructure.primaryKeyIds → keyed[idx]? = out[idx]?) ∧
        (idx ∉ mysqlStructure.primaryKeyIds → keyed[idx]? = mysqlRecord[idx]?) := by
  refine ⟨fun other otherOut idx otherOk same => convertRecord_getElem?_congr full otherOk same,
    _, convertRecord_onlyPrimary_eq full, fun idx => ?_⟩
  cases valueAt : mysqlRecord[idx]? with
  | none =>
      have outNone : out[idx]? = none := by
        rw [List.getElem?_eq_none_iff, convertRecord_length full]
        exact List.getElem?_eq_none_iff.mp valueAt
      simp [List.getElem?_zipWith, List.getElem?_enum, valueAt, outNone]
  | some value =>
      obtain ⟨converted, -, outAt⟩ := convertRecord_getElem? full valueAt
      by_cases key : idx ∈ mysqlStructure.primaryKeyIds <;>
        simp [List.getElem?_zipWith, List.getElem?_enum, valueAt, outAt, key]

theorem convertRecord_columns_independent_key :
    let keys : TableStructure := { primaryKeyIds := [0] }
    let row := [PyValue.int 1, .str "a"]
    convertRecord .passThrough row ["int", "varchar(10)"] ["Int32", "String"] keys false =
        .ok row ∧
      (∀ (other otherOut : List PyValue) (idx : Nat),
        convertRecord .passThrough other ["int", "varchar(10)"] ["Int32", "String"] keys false =
          .ok otherOut →
        other[idx]? = row[idx]? → otherOut[idx]? = row[idx]?) ∧
      ∃ keyed, convertRecord .passThrough row ["int", "varchar(10)"] ["Int32", "String"] keys
          true = .ok keyed ∧
        ∀ idx, (idx ∈ keys.primaryKeyIds → keyed[idx]? = row[idx]?) ∧
          (idx ∉ keys.primaryKeyIds → keyed[idx]? = row[idx]?) :=
  ⟨rfl, convertRecord_columns_independent .passThrough _ _ _ _ _ rfl⟩

/-! ## The row's length -/

/-- A row converts only if it is no longer than the schema, and then into a row of its own
length; a longer row raises the schema-mismatch error at the first value past the schema,
unless a column before it raises first. -/
theorem convertRecord_arity (ext : Externals) (mysqlRecord : List PyValue)
    (mysqlFieldTypes clickhouseFieldTypes : List String) (mysqlStructure : TableStructure) :
    (∀ out, convertRecord ext mysqlRecord mysqlFieldTypes clickhouseFieldTypes mysqlStructure
        false = .ok out →
      mysqlRecord.length ≤ mysqlFieldTypes.length ∧ out.length = mysqlRecord.length) ∧
    ∀ value, mysqlRecord[mysqlFieldTypes.length]? = some value →
      ∃ e, convertRecord ext mysqlRecord mysqlFieldTypes clickhouseFieldTypes mysqlStructure
          false = .error e ∧
        (e = .indexError (fieldIndexMessage ext mysqlFieldTypes.length mysqlStructure.tableName
            value mysqlRecord.length mysqlFieldTypes.length mysqlFieldTypes) ∨
          ∃ idx < mysqlFieldTypes.length, ∃ earlier, mysqlRecord[idx]? = some earlier ∧
            convertColumn ext mysqlRecord mysqlFieldTypes clickhouseFieldTypes mysqlStructure false
              idx earlier = .error e) := by
  refine ⟨fun out ok => ⟨?_, convertRecord_length ok⟩, fun value past => ?_⟩
  · refine Nat.le_of_not_lt fun longer => ?_
    obtain ⟨converted, column, -⟩ :=
      convertRecord_getElem? ok (List.getElem?_eq_getElem longer)
    rw [convertColumn_past_schema] at column
    cases column
  · exact convertRecord_error_of_getElem? past (convertColumn_past_schema value)

/-- The schema's length is not checked from below: a row shorter than the schema converts. -/
theorem convertRecord_short_row :
    convertRecord .passThrough [] ["int"] ["Int32"] {} false = .ok [] ∧
      convertRecord .passThrough [.int 7] ["int", "int"] ["Int32", "Int32"] {} false =
        .ok [.int 7] :=
  ⟨rfl, rfl⟩

end MysqlChReplicator.Converter

import MysqlChReplicator.Converter.ConvertType

/-!
# Record transcoding

`convert_record` turns one MySQL row into a ClickHouse row, column by column. A column's value
runs through the steps of the source in order: time and JSON columns are stringified, a null
value skips the middle steps (UUID repacking, the unsigned-width corrections, charset decoding,
SET expansion), and last come the POINT decoder and the enum conversion.
-/

namespace MysqlChReplicator.Converter

open Python

/-- The library calls of `convert_record`, and `EnumConverter` of `enum.py` (not under src/). -/
structure Externals where
  /-- `str(value)`. -/
  str : PyValue → String
  /-- `json.dumps(value)`. -/
  jsonDumps : PyValue → Except PyError String
  /-- `data.decode(encoding)`. -/
  decode : List UInt8 → String → Except PyError String
  /-- `uuid.UUID(text).bytes`. -/
  uuidBytes : String → Except PyError (List UInt8)
  /-- `n + x` for a Python int `n` and a float `x`. -/
  addFloat : Int → UInt64 → UInt64
  /-- `n + x` for a Python int `n` and a `Decimal` `x`, rounded in the decimal context. -/
  addDecimal : Int → PyDecimal → PyDecimal
  /-- `EnumConverter.convert_mysql_to_clickhouse_enum(value, enum_values, field_name)`. -/
  convertMysqlToClickhouseEnum : PyValue → Option (List String) → String → Except PyError PyValue

mutual

/-- `convert_bytes`: bytes, and bytes dict keys, decoded as UTF-8 through dicts, lists and
tuples; a dict is rebuilt key by key. -/
def convertBytes (decode : List UInt8 → String → Except PyError String) :
    PyValue → Except PyError PyValue
  | .dict entries => (convertEntries decode entries).map fun pairs =>
      .dict (pairs.foldl (fun built pair => dictSet built pair.1 pair.2) [])
  | .list items => (convertItems decode items).map .list
  | .tuple items => (convertItems decode items).map .tuple
  | .bytes value => (decode value "utf-8").map .str
  | value => .ok value

/-- `convert_bytes` on each item, in order. -/
def convertItems (decode : List UInt8 → String → Except PyError String) :
    List PyValue → Except PyError (List PyValue)
  | [] => .ok []
  | item :: items => do
      let converted ← convertBytes decode item
      pure (converted :: (← convertItems decode items))

/-- The new key and the converted value of each dict entry, in order. -/
def convertEntries (decode : List UInt8 → String → Except PyError String) :
    List (PyKey × PyValue) → Except PyError (List (PyKey × PyValue))
  | [] => .ok []
  | (key, value) :: entries => do
      let newKey ← match key with
        | .bytes raw => (decode raw "utf-8").map .str
        | _ => pure key
      let newValue ← convertBytes decode value
      pure ((newKey, newValue) :: (← convertEntries decode entries))

end

/-- `struct.unpack` of an unsigned number: big-endian, or little-endian when `little`. -/
def unpackUnsigned (little : Bool) (bytes : List UInt8) : Nat :=
  (if little then bytes.reverse else bytes).foldl (fun value byte => 256 * value + byte.toNat) 0

/-- A 21-byte WKB POINT: the byte-order flag, the geometry type, then x and y. -/
def parseWkbPoint (binary : List UInt8) : Except PyError PyValue := do
  let little ← match binary.head? with
    | some 0 => pure false
    | some 1 => pure true
    | _ => throw (.valueError "Invalid byte order in WKB POINT")
  if unpackUnsigned little ((binary.drop 1).take 4) ≠ 1 then
    throw (.valueError "Not a WKB POINT type")
  let x := unpackUnsigned little ((binary.drop 5).take 8)
  let y := unpackUnsigned little ((binary.drop 13).take 8)
  pure (.tuple [.float (UInt64.ofNat x), .float (UInt64.ofNat y)])

/-- `parse_mysql_point`: null is the origin; bytes of length 21, or 25 with a leading SRID, are
decoded. Another payload of length 21 raises on its byte-order item `binary[0]` unless that
equals 0 or 1, and then in `struct`, which reads only bytes; of length 25 it raises in `struct`
at once; other lengths are rejected. -/
def parseMysqlPoint : PyValue → Except PyError PyValue
  | .none => .ok (.tuple [.int 0, .int 0])
  | .bytes binary =>
      if binary.length = 21 then parseWkbPoint binary
      else if binary.length = 25 then parseWkbPoint (binary.drop 4)
      else .error (.valueError "Invalid binary length for WKB POINT")
  | value => do
      let length ← value.len
      if length = 21 then
        if (← value.getFirst).isZeroOrOne then throw .typeError
        else throw (.valueError "Invalid byte order in WKB POINT")
      else if length = 25 then throw .typeError
      else throw (.valueError "Invalid binary length for WKB POINT")

/-- `mysql_structure.fields[idx]`. -/
def fieldAt (mysqlStructure : TableStructure) (idx : Nat) : Except PyError TableField :=
  match mysqlStructure.fields[idx]? with
  | some field => .ok field
  | none => .error (.indexError "list index out of range")

/-- A `time...` column mapped to a string is stringified, null included. -/
def timeStep (ext : Externals) (mysqlFieldType clickhouseFieldType : String) (value : PyValue) :
    PyValue :=
  if startswith mysqlFieldType "time" && contains clickhouseFieldType "String" then
    .str (ext.str value)
  else value

/-- A `json` column mapped to a string: a value that is not already a string is serialised. -/
def jsonStep (ext : Externals) (mysqlFieldType clickhouseFieldType : String) (value : PyValue) :
    Except PyError PyValue :=
  if mysqlFieldType == "json" && contains clickhouseFieldType "String" then
    match value with
    | .str _ => .ok value
    | _ => do
        let converted ← convertBytes ext.decode value
        pure (.str (← ext.jsonDumps converted))
  else .ok value

/-- A UUID column: a 36-character text (or its bytes) is repacked into its 16 raw bytes. -/
def uuidStep (ext : Externals) (clickhouseFieldType : String) (value : PyValue) :
    Except PyError PyValue :=
  if contains clickhouseFieldType "UUID" then do
    if (← value.len) = 36 then
      let text ← match value with
        | .bytes raw => ext.decode raw "utf-8"
        | .str text => pure text
        | _ => throw .typeError
      pure (.bytes (← ext.uuidBytes text))
    else pure value
  else pure value

/-- `modulus + value`. -/
def addModulus (ext : Externals) (modulus : Int) : PyValue → PyValue
  | .int value => .int (modulus + value)
  | .float bits => .float (ext.addFloat modulus bits)
  | .decimal value => .decimal (ext.addDecimal modulus value)
  | value => value

/-- One unsigned-width correction: when its test holds and the value is negative, the width's
modulus is added. -/
def unsignedCorrection (ext : Externals) (applies : Bool) (modulus : Int) (value : PyValue) :
    Except PyError PyValue :=
  if applies then do
    if ← value.ltZero then pure (addModulus ext modulus value) else pure value
  else pure value

/-- The five corrections of the source in order; the `mediumint` one tests the MySQL type,
the others the ClickHouse type. -/
def unsignedCorrections (ext : Externals) (mysqlFieldType clickhouseFieldType : String)
    (value : PyValue) : Except PyError PyValue := do
  let value ← unsignedCorrection ext (contains clickhouseFieldType "UInt16") 65536 value
  let value ← unsignedCorrection ext (contains clickhouseFieldType "UInt8") 256 value
  let value ← unsignedCorrection ext (contains (lower mysqlFieldType) "mediumint") 16777216 value
  let value ← unsignedCorrection ext (contains clickhouseFieldType "UInt32") 4294967296 value
  unsignedCorrection ext (contains clickhouseFieldType "UInt64") 18446744073709551616 value

/-- Text columns mapped to a string: bytes are decoded with the table's charset, UTF-8 when it
has none. -/
def charsetStep (ext : Externals) (mysqlStructure : TableStructure)
    (mysqlFieldType clickhouseFieldType : String) (value : PyValue) : Except PyError PyValue :=
  if contains clickhouseFieldType "String" &&
      (contains mysqlFieldType "text" || contains mysqlFieldType "char") then
    match value with
    | .bytes raw =>
        let charset := if mysqlStructure.charsetPython = "" then "utf-8"
          else mysqlStructure.charsetPython
        (ext.decode raw charset).map .str
    | _ => .ok value
  else .ok value

/-- The labels whose bit is set in the mask, in declaration order. -/
def selectByMask (bitMask : Int) (setValues : List String) : List String :=
  (setValues.enum.filter fun (idx, _) => bitMask / 2 ^ idx % 2 = 1).map Prod.snd

/-- A `set(...)` column: a bitmask or a set of labels becomes the comma-joined declared labels
it selects, in declaration order; any other value is joined as it is. -/
def setStep (mysqlStructure : TableStructure) (idx : Nat) (mysqlFieldType : String)
    (value : PyValue) : Except PyError PyValue :=
  if contains mysqlFieldType "set(" then do
    let setValues := (← fieldAt mysqlStructure idx).additionalData
    match value, setValues with
    | .int bitMask, some labels => pure (.str (join "," (selectByMask bitMask labels)))
    | .bool bit, some labels =>
        pure (.str (join "," (selectByMask (if bit then 1 else 0) labels)))
    | .set members, some labels =>
        pure (.str (join "," (labels.filter fun label => members.contains label)))
    | .int _, none => throw .typeError
    | .bool _, none => throw .typeError
    | .set _, none => throw .typeError
    | other, _ => (other.joinWith ",").map .str
  else pure value

/-- A `point` column is decoded. -/
def pointStep (mysqlFieldType : String) (value : PyValue) : Except PyError PyValue :=
  if startswith mysqlFieldType "point" then parseMysqlPoint value else .ok value

/-- An `enum(...)` column is converted against the field's labels. -/
def enumStep (ext : Externals) (mysqlStructure : TableStructure) (idx : Nat)
    (mysqlFieldType : String) (value : PyValue) : Except PyError PyValue :=
  if startswith mysqlFieldType "enum(" then do
    let field ← fieldAt mysqlStructure idx
    ext.convertMysqlToClickhouseEnum value field.additionalData field.name
  else .ok value

/-- The steps that a null value skips. -/
def nonNullSteps (ext : Externals) (mysqlStructure : TableStructure) (idx : Nat)
    (mysqlFieldType clickhouseFieldType : String) (value : PyValue) : Except PyError PyValue := do
  let value ← uuidStep ext clickhouseFieldType value
  let value ← unsignedCorrections ext mysqlFieldType clickhouseFieldType value
  let value ← charsetStep ext mysqlStructure mysqlFieldType clickhouseFieldType value
  setStep mysqlStructure idx mysqlFieldType value

/-- The value of one column, given its MySQL and ClickHouse types. -/
def convertValue (ext : Externals) (mysqlStructure : TableStructure) (idx : Nat)
    (mysqlFieldType clickhouseFieldType : String) (value : PyValue) : Except PyError PyValue := do
  let value := timeStep ext mysqlFieldType clickhouseFieldType value
  let value ← jsonStep ext mysqlFieldType clickhouseFieldType value
  let value ← match value with
    | .none => pure PyValue.none
    | value => nonNullSteps ext mysqlStructure idx mysqlFieldType clickhouseFieldType value
  let value ← pointStep mysqlFieldType value
  enumStep ext mysqlStructure idx mysqlFieldType value

/-- The schema-mismatch message of a record with more fields than the schema. -/
def fieldIndexMessage (ext : Externals) (idx : Nat) (tableName : String) (value : PyValue)
    (recordFields fieldCount : Nat) (mysqlFieldTypes : List String) : String :=
  "Field index " ++ toString idx ++ " out of range for table '" ++ tableName ++
    "' with field_value: " ++ ext.str value ++ ". Record has " ++ toString recordFields ++
    " fields but schema has " ++ toString fieldCount ++ " fields. Field types defined in schema: " ++
    ext.str (.list (mysqlFieldTypes.map .str)) ++
    ". This may indicate a schema mismatch between MySQL and the replication process."

/-- The body of the loop of `convert_record` for the column at `idx`. -/
def convertColumn (ext : Externals) (mysqlRecord : List PyValue)
    (mysqlFieldTypes clickhouseFieldTypes : List String) (mysqlStructure : TableStructure)
    (onlyPrimary : Bool) (idx : Nat) (value : PyValue) : Except PyError PyValue :=
  if onlyPrimary && !mysqlStructure.primaryKeyIds.contains idx then .ok value
  else
    match mysqlFieldTypes[idx]? with
    | none => .error (.indexError (fieldIndexMessage ext idx mysqlStructure.tableName value
        mysqlRecord.length mysqlFieldTypes.length mysqlFieldTypes))
    | some mysqlFieldType =>
        match clickhouseFieldTypes[idx]? with
        | none => .error (.indexError "list index out of range")
        | some clickhouseFieldType =>
            convertValue ext mysqlStructure idx mysqlFieldType clickhouseFieldType value

/-- `convert_record`: every column of the row, in order; the first failure fails the row. -/
def convertRecord (ext : Externals) (mysqlRecord : List PyValue)
    (mysqlFieldTypes clickhouseFieldTypes : List String) (mysqlStructure : TableStructure)
    (onlyPrimary : Bool) : Except PyError (List PyValue) :=
  mysqlRecord.enum.mapM fun (idx, value) =>
    convertColumn ext mysqlRecord mysqlFieldTypes clickhouseFieldTypes mysqlStructure onlyPrimary
      idx value

/-- `convert_records`: each row against the field types of the two structures. -/
def convertRecords (ext : Externals) (mysqlRecords : List (List PyValue))
    (mysqlStructure clickhouseStructure : TableStructure) (onlyPrimary : Bool) :
    Except PyError (List (List PyValue)) :=
  mysqlRecords.mapM fun mysqlRecord =>
    convertRecord ext mysqlRecord (mysqlStructure.fields.map TableField.fieldType)
      (clickhouseStructure.fields.map TableField.fieldType) mysqlStructure onlyPrimary

section Columns

variable {ext : Externals} {mysqlRecord : List PyValue}
  {mysqlFieldTypes clickhouseFieldTypes : List String} {mysqlStructure : TableStructure}
  {onlyPrimary : Bool}

/-- A column that `only_primary` does not skip is converted by its two field types. -/
theorem convertColumn_converted {idx : Nat} {mysqlFieldType clickhouseFieldType : String}
    (value : PyValue) (converted : onlyPrimary = false ∨ idx ∈ mysqlStructure.primaryKeyIds)
    (mysqlAt : mysqlFieldTypes[idx]? = some mysqlFieldType)
    (clickhouseAt : clickhouseFieldTypes[idx]? = some clickhouseFieldType) :
    convertColumn ext mysqlRecord mysqlFieldTypes clickhouseFieldTypes mysqlStructure onlyPrimary
        idx value =
      convertValue ext mysqlStructure idx mysqlFieldType clickhouseFieldType value := by
  have selected : (onlyPrimary && !mysqlStructure.primaryKeyIds.contains idx) = false := by
    rcases converted with off | key <;> simp [*]
  simp only [convertColumn, selected, mysqlAt, clickhouseAt, Bool.false_eq_true, if_false]

/-- A column whose row is converted holds what the loop body made of its value. -/
theorem convertRecord_getElem? {out : List PyValue} {idx : Nat} {value : PyValue}
    (ok : convertRecord ext mysqlRecord mysqlFieldTypes clickhouseFieldTypes mysqlStructure
      onlyPrimary = .ok out)
    (valueAt : mysqlRecord[idx]? = some value) :
    ∃ converted, convertColumn ext mysqlRecord mysqlFieldTypes clickhouseFieldTypes mysqlStructure
      onlyPrimary idx value = .ok converted ∧ out[idx]? = some converted :=
  mapM_ok_getElem? ok
    (show mysqlRecord.enum[idx]? = some (idx, value) by simp [List.getElem?_enum, valueAt])

end Columns

@[simp] theorem unsignedCorrection_int (ext : Externals) (applies : Bool) (modulus value : Int) :
    unsignedCorrection ext applies modulus (.int value) =
      .ok (.int (if applies ∧ value < 0 then modulus + value else value)) := by
  by_cases negative : value < 0 <;> cases applies <;>
    simp [unsignedCorrection, PyValue.ltZero, addModulus, negative]

/-- A decimal is corrected only when it is below zero, which a decimal `-0` is not. -/
@[simp] theorem unsignedCorrection_decimal (ext : Externals) (applies : Bool) (modulus : Int)
    (value : PyDecimal) :
    unsignedCorrection ext applies modulus (.decimal value) =
      .ok (if applies ∧ value.negative ∧ value.coefficient ≠ 0
        then .decimal (ext.addDecimal modulus value) else .decimal value) := by
  obtain ⟨negative, coefficient, exponent⟩ := value
  cases applies <;> cases negative <;> by_cases zero : coefficient = 0 <;>
    simp [unsignedCorrection, PyValue.ltZero, addModulus, zero]

/-- An int in a column that is neither time, JSON, UUID, string, SET, POINT nor enum only goes
through the unsigned corrections. -/
theorem convertValue_int (ext : Externals) (mysqlStructure : TableStructure) (idx : Nat)
    {mysqlFieldType clickhouseFieldType : String} (value : Int)
    (notTime : startswith mysqlFieldType "time" = false)
    (notJson : (mysqlFieldType == "json") = false)
    (notUuid : contains clickhouseFieldType "UUID" = false)
    (notString : contains clickhouseFieldType "String" = false)
    (notSet : contains mysqlFieldType "set(" = false)
    (notPoint : startswith mysqlFieldType "point" = false)
    (notEnum : startswith mysqlFieldType "enum(" = false) :
    convertValue ext mysqlStructure idx mysqlFieldType clickhouseFieldType (.int value) =
      unsignedCorrections ext mysqlFieldType clickhouseFieldType (.int value) := by
  simp [convertValue, timeStep, jsonStep, nonNullSteps, uuidStep, charsetStep, setStep,
    pointStep, enumStep, notTime, notJson, notUuid, notString, notSet, notPoint, notEnum]

/-! ## Null values -/

/-- A null value stays null, unless the column is a time or JSON column mapped to a string, a
POINT column or an enum column. -/
theorem convertValue_none (ext : Externals) (mysqlStructure : TableStructure) (idx : Nat)
    {mysqlFieldType clickhouseFieldType : String}
    (notTimeString : (startswith mysqlFieldType "time" && contains clickhouseFieldType "String") =
      false)
    (notJsonString : (mysqlFieldType == "json" && contains clickhouseFieldType "String") = false)
    (notPoint : startswith mysqlFieldType "point" = false)
    (notEnum : startswith mysqlFieldType "enum(" = false) :
    convertValue ext mysqlStructure idx mysqlFieldType clickhouseFieldType .none = .ok .none := by
  simp [convertValue, timeStep, jsonStep, pointStep, enumStep, notTimeString, notJsonString,
    notPoint, notEnum]

/-- In a converted row, a null value of such a column is still null, whether or not
`only_primary` skips the column. -/
theorem convertRecord_none {ext : Externals} {mysqlRecord out : List PyValue}
    {mysqlFieldTypes clickhouseFieldTypes : List String} {mysqlStructure : TableStructure}
    {onlyPrimary : Bool} {idx : Nat} {mysqlFieldType clickhouseFieldType : String}
    (ok : convertRecord ext mysqlRecord mysqlFieldTypes clickhouseFieldTypes mysqlStructure
      onlyPrimary = .ok out)
    (valueAt : mysqlRecord[idx]? = some .none)
    (mysqlAt : mysqlFieldTypes[idx]? = some mysqlFieldType)
    (clickhouseAt : clickhouseFieldTypes[idx]? = some clickhouseFieldType)
    (notTimeString : (startswith mysqlFieldType "time" && contains clickhouseFieldType "String") =
      false)
    (notJsonString : (mysqlFieldType == "json" && contains clickhouseFieldType "String") = false)
    (notPoint : startswith mysqlFieldType "point" = false)
    (notEnum : startswith mysqlFieldType "enum(" = false) :
    out[idx]? = some .none := by
  obtain ⟨converted, column, outAt⟩ := convertRecord_getElem? ok valueAt
  by_cases skipped : (onlyPrimary && !mysqlStructure.primaryKeyIds.contains idx) = true
  · simp only [convertColumn, skipped, if_true, Except.ok.injEq] at column
    exact column ▸ outAt
  · have converted : onlyPrimary = false ∨ idx ∈ mysqlStructure.primaryKeyIds := by
      cases onlyPrimary <;> simp_all
    rw [convertColumn_converted _ converted mysqlAt clickhouseAt,
      convertValue_none ext mysqlStructure idx notTimeString notJsonString notPoint notEnum,
      Except.ok.injEq] at column
    exact column ▸ outAt

theorem convertRecord_none_int :
    let ext : Externals := ⟨fun _ => "", fun _ => .ok "", fun _ _ => .ok "", fun _ => .ok [],
      fun _ bits => bits, fun _ value => value, fun value _ _ => .ok value⟩
    convertRecord ext [.none] ["int"] ["Nullable(Int32)"] {} false = .ok [.none] ∧
      [PyValue.none][0]? = some .none ∧ ["int"][0]? = some "int" ∧
      ["Nullable(Int32)"][0]? = some "Nullable(Int32)" ∧
      (startswith "int" "time" && contains "Nullable(Int32)" "String") = false ∧
      ("int" == "json" && contains "Nullable(Int32)" "String") = false ∧
      startswith "int" "point" = false ∧ startswith "int" "enum(" = false ∧
      [PyValue.none][0]? = some .none := by
  intro ext
  have tests : (startswith "int" "time" && contains "Nullable(Int32)" "String") = false ∧
      ("int" == "json" && contains "Nullable(Int32)" "String") = false ∧
      startswith "int" "point" = false ∧ startswith "int" "enum(" = false := by
    decide
  obtain ⟨time, json, point, enum⟩ := tests
  have ok : convertRecord ext [.none] ["int"] ["Nullable(Int32)"] {} false = .ok [.none] := rfl
  exact ⟨ok, rfl, rfl, rfl, time, json, point, enum,
    convertRecord_none ok rfl rfl rfl time json point enum⟩

/-- A null `time` column, whose mapped type is `Nullable(String)`, is stringified: it holds
`str(None)`, the string `None`. -/
theorem convertRecord_null_time :
    let ext : Externals := ⟨fun value => match value with | .none => "None" | _ => "",
      fun _ => .ok "", fun _ _ => .ok "", fun _ => .ok [], fun _ bits => bits,
      fun _ value => value, fun value _ _ => .ok value⟩
    convertFieldType {} "time" "" = .ok "Nullable(String)" ∧
      convertRecord ext [.none] ["time"] ["Nullable(String)"] {} false = .ok [.str "None"] :=
  ⟨rfl, rfl⟩

/-! ## Letter case of the MySQL types -/

/-- The tests `convert_record` makes on a MySQL field type. -/
def mysqlTypeTests (mysqlFieldType : String) : List Bool :=
  [startswith mysqlFieldType "time", mysqlFieldType == "json", contains mysqlFieldType "text",
    contains mysqlFieldType "char", contains (lower mysqlFieldType) "mediumint",
    contains mysqlFieldType "set(", startswith mysqlFieldType "point",
    startswith mysqlFieldType "enum("]

/-- The conversion of a value reads its MySQL field type only through these tests; all but the
`mediumint` test see the letter case. -/
theorem convertValue_congr_mysqlTypeTests (ext : Externals) (mysqlStructure : TableStructure)
    (idx : Nat) {mysqlFieldType other : String} (clickhouseFieldType : String) (value : PyValue)
    (same : mysqlTypeTests mysqlFieldType = mysqlTypeTests other) :
    convertValue ext mysqlStructure idx mysqlFieldType clickhouseFieldType value =
      convertValue ext mysqlStructure idx other clickhouseFieldType value := by
  simp only [mysqlTypeTests, List.cons.injEq, and_true] at same
  obtain ⟨time, json, text, char, mediumint, set, point, enum⟩ := same
  simp only [convertValue, timeStep, jsonStep, nonNullSteps, unsignedCorrections, charsetStep,
    setStep, pointStep, enumStep, time, json, text, char, mediumint, set, point, enum]

/-- An upper-case `SET(...)` column skips the label expansion its lower-case twin makes. -/
theorem convertRecord_set_letter_case (ext : Externals) :
    let table : TableStructure :=
      { fields := [{ name := "s", fieldType := "set('a','b')", additionalData := some ["a", "b"] }] }
    convertFieldType {} "SET('a','b')" "" = .ok "Nullable(String)" ∧
      convertRecord ext [.int 1] ["SET('a','b')"] ["Nullable(String)"] table false = .ok [.int 1] ∧
      convertRecord ext [.int 1] ["set('a','b')"] ["Nullable(String)"] table false =
        .ok [.str "a"] :=
  ⟨rfl, rfl, rfl⟩

end MysqlChReplicator.Converter

import MysqlChReplicator.Converter.TableStructure

/-!
# The type mapper

`convert_type` maps a MySQL type to a ClickHouse type by an ordered chain of tests on the
type text: exact names first, then substring tests whose order makes the later, broader ones
fallbacks for the earlier ones. `convert_field_type` adds the `Nullable(...)` wrapper, and
`convert_table_structure` maps a whole table.
-/

namespace MysqlChReplicator.Converter

open Python

/-- Reads a quoted label after its opening quote `q`: the label and what follows the closing
quote; a doubled quote stands for the quote itself. -/
def readLabel (q : Char) : List Char → Option (List Char × List Char)
  | [] => none
  | c :: rest =>
      if c = q then
        match rest with
        | d :: tail =>
            if d = q then (readLabel q tail).map fun (label, after) => (q :: label, after)
            else some ([], rest)
        | [] => some ([], [])
      else (readLabel q rest).map fun (label, after) => (c :: label, after)

/-- The comma-separated quoted labels up to the closing parenthesis, with one unit of fuel for
each label. -/
def readLabels : Nat → List Char → Option (List String)
  | 0, _ => none
  | fuel + 1, s =>
      match s.dropWhile isSpace with
      | q :: rest =>
          if q = '\'' ∨ q = '"' then
            match readLabel q rest with
            | some (label, after) =>
                match after.dropWhile isSpace with
                | ',' :: more => (readLabels fuel more).map (String.mk label :: ·)
                | ')' :: more => if more.all isSpace then some [String.mk label] else none
                | _ => none
            | none => none
          else none
      | [] => none

/-- Modelled from the spec: `parse_mysql_enum` (`enum.py`, not under src/) reads the ordered
labels of an `enum(...)` declaration (§2, EnumCodec): labels quoted by `'` or `"`, separated
by commas; a malformed declaration raises. -/
def parseMysqlEnum (enumDefinition : String) : Except PyError (List String) :=
  let s := (strip enumDefinition).data
  if (s.take 4).map Char.toLower = "enum".data then
    match (s.drop 4).dropWhile isSpace with
    | '(' :: rest =>
        match readLabels rest.length rest with
        | some labels => .ok labels
        | none => .error (.valueError "Invalid enum definition")
    | _ => .error (.valueError "Missing opening parenthesis")
  else .error (.valueError "String does not start with 'enum'")

/-- `convert_timestamp_to_datetime64`: the match of `^timestamp(?:\((\d+)\))?$` on the stripped
input, with `re.IGNORECASE`. -/
def convertTimestampToDatetime64 (inputStr : String) : Except PyError String :=
  let invalid := PyError.valueError ("Invalid input string format: '" ++ inputStr ++ "'")
  match dropPrefixIgnoringCase "timestamp".data (strip inputStr).data with
  | some [] => .ok "DateTime64"
  | some ('(' :: rest) =>
      match rest.span isDecimal with
      | (precision@(_ :: _), [')']) => .ok ("DateTime64(" ++ String.mk precision ++ ")")
      | _ => .error invalid
  | _ => .error invalid

/-- The value of a run of ASCII digits. -/
def digitsValue (digits : List Char) : Nat :=
  digits.foldl (fun value c => 10 * value + (c.toNat - '0'.toNat)) 0

/-- `numeric\((\d+)\s*,\s*(\d+)\)` at the start of the text: its two numbers, as `int()` reads
them. -/
def matchNumericParameters (s : List Char) : Option (Nat × Nat) := do
  let rest ← s.dropPrefix? "numeric(".data
  let (precision, rest) := rest.span isDecimal
  guard (precision ≠ [])
  let rest ← (rest.dropWhile isSpace).dropPrefix? [',']
  let (scale, rest) := (rest.dropWhile isSpace).span isDecimal
  guard (scale ≠ [])
  let _ ← rest.dropPrefix? [')']
  pure (intOfDecimals precision, intOfDecimals scale)

/-- `re.search` of the numeric pattern: the leftmost match. -/
def searchNumericParameters : List Char → Option (Nat × Nat)
  | [] => none
  | c :: cs => (matchNumericParameters (c :: cs)).orElse fun _ => searchNumericParameters cs

/-- The unsigned or the signed name of an integer type. -/
def integerType (isUnsigned : Bool) (unsignedName signedName : String) : String :=
  if isUnsigned then unsignedName else signedName

/-- `f"Decimal({precision}, {scale})"`. -/
def decimalType (precision scale : Nat) : String :=
  "Decimal(" ++ toString precision ++ ", " ++ toString scale ++ ")"

/-- The `numeric` branch of `convert_type`. -/
def convertNumeric (mysqlType : String) (isUnsigned : Bool) : Except PyError String := do
  let (precision, scale) ←
    if contains mysqlType "(" && contains mysqlType ")" then
      match searchNumericParameters mysqlType.data with
      | some parameters => pure parameters
      | none => throw (.valueError ("Invalid numeric type definition: " ++ mysqlType))
    else pure (10, 0)
  if scale = 0 then
    if precision ≤ 9 then pure (integerType isUnsigned "UInt32" "Int32")
    else if precision ≤ 18 then pure (integerType isUnsigned "UInt64" "Int64")
    else pure (decimalType precision scale)
  else pure (decimalType precision scale)

/-- The `Enum8`/`Enum16` type of the labels of an `enum(...)` declaration: each label lower-cased
and numbered from 1 in declaration order. -/
def enumType (enumValues : List String) : String :=
  let chEnumValues := join ", " (enumValues.enum.map fun (idx, valueName) =>
    "'" ++ lower valueName ++ "' = " ++ toString (idx + 1))
  if enumValues.length ≤ 127 then "Enum8(" ++ chEnumValues ++ ")"
  else "Enum16(" ++ chEnumValues ++ ")"

/-- The test a rule of `convert_type` makes on the MySQL type. -/
inductive TypeTest where
  /-- `mysql_type == name` -/
  | equals (name : String)
  /-- `mysql_type.startswith(pre)` -/
  | startsWith (pre : String)
  /-- `word in mysql_type` -/
  | containsWord (word : String)
  /-- `first in mysql_type or second in mysql_type` -/
  | containsEither (first second : String)
  deriving DecidableEq, Repr

/-- Whether the test holds of a MySQL type. -/
def TypeTest.holds (mysqlType : String) : TypeTest → Bool
  | .equals name => mysqlType == name
  | .startsWith pre => startswith mysqlType pre
  | .containsWord word => contains mysqlType word
  | .containsEither first second => contains mysqlType first || contains mysqlType second

/-- What a rule of `convert_type` returns once its test holds. -/
inductive TypeResult where
  | fixed (clickhouseType : String)
  /-- The unsigned name when the parameters say `unsigned`, the signed one otherwise. -/
  | integer (unsignedName signedName : String)
  | numeric
  /-- `mysql_type.replace('datetime', 'DateTime64')` -/
  | datetime
  | enum
  | timestamp
  deriving DecidableEq, Repr

/-- The ClickHouse type a rule gives. -/
def TypeResult.apply (mysqlType : String) (isUnsigned : Bool) : TypeResult → Except PyError String
  | .fixed clickhouseType => .ok clickhouseType
  | .integer unsignedName signedName => .ok (integerType isUnsigned unsignedName signedName)
  | .numeric => convertNumeric mysqlType isUnsigned
  | .datetime => .ok (replace mysqlType "datetime" "DateTime64")
  | .enum => (parseMysqlEnum mysqlType).map enumType
  | .timestamp => convertTimestampToDatetime64 mysqlType

/-- The rules of `convert_type` after the `types_mapping` override, in source order: the first
rule whose test holds decides. -/
def typeRules : List (TypeTest × TypeResult) :=
  [(.equals "point", .fixed "Tuple(x Float32, y Float32)"),
   (.startsWith "numeric", .numeric),
   (.equals "int", .integer "UInt32" "Int32"),
   (.equals "integer", .integer "UInt32" "Int32"),
   (.equals "bigint", .integer "UInt64" "Int64"),
   (.equals "double", .fixed "Float64"),
   (.equals "real", .fixed "Float64"),
   (.equals "float", .fixed "Float32"),
   (.equals "date", .fixed "Date32"),
   (.equals "tinyint(1)", .fixed "Bool"),
   (.equals "bit(1)", .fixed "Bool"),
   (.equals "bool", .fixed "Bool"),
   (.containsWord "smallint", .integer "UInt16" "Int16"),
   (.containsWord "tinyint", .integer "UInt8" "Int8"),
   (.containsWord "mediumint", .integer "UInt32" "Int32"),
   (.containsWord "datetime", .datetime),
   (.containsWord "longtext", .fixed "String"),
   (.containsWord "varchar", .fixed "String"),
   (.startsWith "enum", .enum),
   (.containsWord "text", .fixed "String"),
   (.containsWord "blob", .fixed "String"),
   (.containsWord "char", .fixed "String"),
   (.containsWord "json", .fixed "String"),
   (.containsWord "decimal", .fixed "Float64"),
   (.containsWord "float", .fixed "Float32"),
   (.containsWord "double", .fixed "Float64"),
   (.containsWord "bigint", .integer "UInt64" "Int64"),
   (.containsEither "integer" "int(", .integer "UInt32" "Int32"),
   (.containsWord "real", .fixed "Float64"),
   (.startsWith "timestamp", .timestamp),
   (.startsWith "time", .fixed "String"),
   (.containsWord "varbinary", .fixed "String"),
   (.containsWord "binary", .fixed "String"),
   (.containsWord "set(", .fixed "String")]

/-- The built-in mapping: the first rule that holds, or the unknown-type failure. -/
def builtinType (mysqlType : String) (isUnsigned : Bool) : Except PyError String :=
  match typeRules.find? (·.1.holds mysqlType) with
  | some (_, result) => result.apply mysqlType isUnsigned
  | none => .error (.exception ("unknown mysql type \"" ++ mysqlType ++ "\""))

/-- `convert_type`: a `types_mapping` entry for the type wins; otherwise the built-in rules,
with `unsigned` read anywhere in the parameter text. -/
def convertType (converter : MysqlToClickhouseConverter) (mysqlType parameters : String) :
    Except PyError String :=
  match converter.typesMapping.lookup mysqlType with
  | some resultType => .ok resultType
  | none => builtinType mysqlType (contains (lower parameters) "unsigned")

/-- `Nullable(t)`, unless the column cannot be null. -/
def nullableUnless (notNull : Bool) (clickhouseType : String) : String :=
  if notNull then clickhouseType else "Nullable(" ++ clickhouseType ++ ")"

/-- `convert_field_type`: the type of the lower-cased declaration, wrapped in `Nullable(...)`
unless the parameters say `not null` or the type is a tuple. -/
def convertFieldType (converter : MysqlToClickhouseConverter) (mysqlType mysqlParameters : String) :
    Except PyError String :=
  (convertType converter (lower mysqlType) (lower mysqlParameters)).map fun clickhouseType =>
    nullableUnless (contains (lower mysqlParameters) "not null" || contains clickhouseType "Tuple")
      clickhouseType

/-- `convert_table_structure`: the fields mapped one by one, the keys copied, the key
positions recomputed. -/
def convertTableStructure (converter : MysqlToClickhouseConverter)
    (mysqlStructure : TableStructure) : Except PyError TableStructure := do
  let fields ← mysqlStructure.fields.mapM fun field => do
    let clickhouseFieldType ← convertFieldType converter field.fieldType field.parameters
    pure { name := field.name, fieldType := clickhouseFieldType : TableField }
  TableStructure.preprocess
    { tableName := mysqlStructure.tableName, ifNotExists := mysqlStructure.ifNotExists,
      fields, primaryKeys := mysqlStructure.primaryKeys }

/-- The ClickHouse structure has the MySQL structure's field names, in order. -/
theorem fieldNames_convertTableStructure {converter : MysqlToClickhouseConverter}
    {mysqlStructure clickhouseStructure : TableStructure}
    (converted : convertTableStructure converter mysqlStructure = .ok clickhouseStructure) :
    clickhouseStructure.fieldNames = mysqlStructure.fieldNames := by
  unfold convertTableStructure at converted
  cases mapped : mysqlStructure.fields.mapM (fun field => do
      let clickhouseFieldType ← convertFieldType converter field.fieldType field.parameters
      pure { name := field.name, fieldType := clickhouseFieldType : TableField }) with
  | error e => rw [mapped] at converted; cases converted
  | ok fields =>
      rw [mapped, ok_bind] at converted
      have names : fields.map TableField.name = mysqlStructure.fields.map TableField.name := by
        refine mapM_ok_map (fun field converted ok => ?_) mapped
        cases typed : convertFieldType converter field.fieldType field.parameters with
        | error e => rw [typed] at ok; cases ok
        | ok t => rw [typed] at ok; cases ok; rfl
      rw [TableStructure.fieldNames, TableStructure.fields_of_preprocess converted]
      exact names

end MysqlChReplicator.Converter

import MysqlChReplicator.Converter.MappedTypes

/-!
# String columns

The MySQL character types (`char`, `varchar` and the `text` types) and binary types (`binary`,
`varbinary` and the `blob` types), with or without a length, all map to `String`. In a converted
row the bytes of a character column are decoded with the table's charset, UTF-8 when it has none,
and the bytes of a binary column are passed on as they are; every other value, null included, is
left unchanged. A `json` column also maps to `String`, and always receives a string: a value that
is not one, null included, is serialised by `json.dumps`.
-/

namespace MysqlChReplicator.Converter

open Python

/-- The MySQL string types. -/
inductive StringKeyword
  | char | varchar | tinytext | text | mediumtext | longtext
  | binary | varbinary | tinyblob | blob | mediumblob | longblob
  deriving DecidableEq, Repr

namespace StringKeyword

def name : StringKeyword → String
  | char => "char"
  | varchar => "varchar"
  | tinytext => "tinytext"
  | text => "text"
  | mediumtext => "mediumtext"
  | longtext => "longtext"
  | binary => "binary"
  | varbinary => "varbinary"
  | tinyblob => "tinyblob"
  | blob => "blob"
  | mediumblob => "mediumblob"
  | longblob => "longblob"

/-- `keyword`, or `keyword(length)`. -/
def declaration (keyword : StringKeyword) : Option String → String
  | none => keyword.name
  | some length => keyword.name ++ "(" ++ length ++ ")"

/-- The character types, whose values are text in a charset. -/
def isText : StringKeyword → Bool
  | char | varchar | tinytext | text | mediumtext | longtext => true
  | binary | varbinary | tinyblob | blob | mediumblob | longblob => false

end StringKeyword

section Declarations

variable (keyword : StringKeyword) (width : Option String)
  (hwidth : ∀ w ∈ width, IsDisplayWidth w)

include hwidth

/-- A test that the name decides holds of `keyword(length)` as it does of `keyword(`. -/
theorem holds_stringDeclaration (test : TypeTest) (decided : test.DecidedByName keyword.name = true) :
    test.holds (keyword.declaration width) =
      match width with
      | none => test.holds keyword.name
      | some _ => test.onDeclaration keyword.name := by
  cases width with
  | none => rfl
  | some w => exact holds_declaration (hwidth w rfl) (by cases keyword <;> decide) decided

theorem builtinType_stringDeclaration (isUnsigned : Bool) :
    builtinType (keyword.declaration width) isUnsigned = .ok "String" := by
  have decided : ∀ rule ∈ typeRules, rule.1.DecidedByName keyword.name = true := by
    cases keyword <;> decide
  rw [builtinType, find?_congr fun rule mem =>
    holds_stringDeclaration keyword width hwidth rule.1 (decided rule mem)]
  cases width <;> cases keyword <;> rfl

theorem lower_stringDeclaration : lower (keyword.declaration width) = keyword.declaration width := by
  have lowerName : ∀ c ∈ keyword.name.data, c.toNat < 128 ∧ c.toLower = c := by
    cases keyword <;> decide
  cases width with
  | none => exact lower_eq_self lowerName
  | some w => exact lower_nameWidth (hwidth w rfl) lowerName

theorem convertFieldType_stringDeclaration (converter : MysqlToClickhouseConverter)
    (parameters : String)
    (noOverride : converter.typesMapping.lookup (keyword.declaration width) = none) :
    convertFieldType converter (keyword.declaration width) parameters =
      .ok (nullableUnless (contains (lower parameters) "not null") "String") := by
  simp only [convertFieldType, lower_stringDeclaration keyword width hwidth, convertType, noOverride,
    builtinType_stringDeclaration keyword width hwidth, ok_map,
    show contains "String" "Tuple" = false by decide, Bool.or_false]

/-- The tests `convert_record` makes on the MySQL type: none of the special columns, the charset
test exactly on the character types, and never the `mediumint` correction. -/
theorem recordTests_stringDeclaration :
    (∀ test ∈ recordTests, test.holds (keyword.declaration width) = false) ∧
      (contains (keyword.declaration width) "text" || contains (keyword.declaration width) "char") =
        keyword.isText ∧
      contains (lower (keyword.declaration width)) "mediumint" = false := by
  have byName := holds_stringDeclaration keyword width hwidth
  have special : ∀ test ∈ recordTests, test.DecidedByName keyword.name = true ∧
      test.holds keyword.name = false ∧ test.onDeclaration keyword.name = false := by
    cases keyword <;> decide
  have text := byName (.containsWord "text") rfl
  have char := byName (.containsWord "char") rfl
  have mediumint := byName (.containsWord "mediumint") rfl
  simp only [TypeTest.holds] at text char mediumint
  refine ⟨fun test mem => ?_, ?_, ?_⟩
  · obtain ⟨decided, plain, declared⟩ := special test mem
    rw [byName test decided]
    cases width <;> assumption
  · rw [text, char]
    cases width <;> cases keyword <;> rfl
  · rw [lower_stringDeclaration keyword width hwidth, mediumint]
    cases width <;> cases keyword <;> rfl

theorem convertValue_stringDeclaration (ext : Externals) (mysqlStructure : TableStructure)
    (idx : Nat) (notNull : Bool) (value : PyValue) :
    convertValue ext mysqlStructure idx (keyword.declaration width) (nullableUnless notNull "String")
        value =
      match value with
      | .bytes raw =>
          if keyword.isText then
            (ext.decode raw (if mysqlStructure.charsetPython = "" then "utf-8"
              else mysqlStructure.charsetPython)).map .str
          else .ok value
      | _ => .ok value := by
  obtain ⟨tests, charset, mediumint⟩ := recordTests_stringDeclaration keyword width hwidth
  have clickhouse : contains (nullableUnless notNull "String") "UUID" = false ∧
      contains (nullableUnless notNull "String") "String" = true ∧
      contains (nullableUnless notNull "String") "UInt16" = false ∧
      contains (nullableUnless notNull "String") "UInt8" = false ∧
      contains (nullableUnless notNull "String") "UInt32" = false ∧
      contains (nullableUnless notNull "String") "UInt64" = false := by
    cases notNull <;> decide
  obtain ⟨noUuid, string, u16, u8, u32, u64⟩ := clickhouse
  have time := tests (.startsWith "time") (by decide)
  have json := tests (.equals "json") (by decide)
  have set := tests (.containsWord "set(") (by decide)
  have point := tests (.startsWith "point") (by decide)
  have enum := tests (.startsWith "enum(") (by decide)
  simp only [TypeTest.holds] at time json set point enum
  simp only [convertValue, timeStep, jsonStep, nonNullSteps, uuidStep, unsignedCorrections,
    unsignedCorrection, charsetStep, setStep, pointStep, enumStep, noUuid, string, u16, u8, u32,
    u64, time, json, set, point, enum, charset, mediumint, Bool.false_and, Bool.true_and,
    Bool.false_eq_true, if_false, pure_eq_ok, ok_bind, bind_ok]
  cases value <;> cases keyword.isText <;> rfl

end Declarations

/-- A string column of any length maps to `String`, `Nullable` unless the parameters say
`not null`. In a converted row the bytes of a character column are decoded with the table's
charset, UTF-8 when it has none, and the bytes of a binary column are passed on as they are; every
other value, null included, is left unchanged. -/
theorem convertValue_string (ext : Externals) (converter : MysqlToClickhouseConverter)
    (mysqlStructure : TableStructure) (idx : Nat) (keyword : StringKeyword) (width : Option String)
    (hwidth : ∀ w ∈ width, IsDisplayWidth w) (parameters : String)
    (noOverride : converter.typesMapping.lookup (keyword.declaration width) = none)
    (value : PyValue) :
    let clickhouseFieldType := nullableUnless (contains (lower parameters) "not null") "String"
    convertFieldType converter (keyword.declaration width) parameters = .ok clickhouseFieldType ∧
      convertValue ext mysqlStructure idx (keyword.declaration width) clickhouseFieldType value =
        match value with
        | .bytes raw =>
            if keyword.isText then
              (ext.decode raw (if mysqlStructure.charsetPython = "" then "utf-8"
                else mysqlStructure.charsetPython)).map .str
            else .ok value
        | _ => .ok value :=
  ⟨convertFieldType_stringDeclaration keyword width hwidth converter parameters noOverride,
    convertValue_stringDeclaration keyword width hwidth ext mysqlStructure idx _ value⟩

theorem convertValue_string_varchar :
    let ext : Externals := ⟨fun _ => "", fun _ => .ok "", fun _ _ => .ok "a", fun _ => .ok [],
      fun _ bits => bits, fun _ value => value,
      fun value _ _ => .ok value⟩
    let clickhouseFieldType := nullableUnless (contains (lower "") "not null") "String"
    (∀ w ∈ some "255", IsDisplayWidth w) ∧
      (MysqlToClickhouseConverter.mk none).typesMapping.lookup
        (StringKeyword.varchar.declaration (some "255")) = none ∧
      (convertFieldType ⟨none⟩ (StringKeyword.varchar.declaration (some "255")) "" =
          .ok clickhouseFieldType ∧
        convertValue ext {} 0 (StringKeyword.varchar.declaration (some "255")) clickhouseFieldType
            (.bytes [97]) =
          if StringKeyword.varchar.isText then (ext.decode [97] "utf-8").map .str
          else .ok (.bytes [97])) :=
  have digits : ∀ w ∈ some "255", IsDisplayWidth w := by
    rintro w ⟨⟩
    exact ⟨by decide, by decide⟩
  ⟨digits, rfl, convertValue_string _ ⟨none⟩ {} 0 .varchar (some "255") digits "" rfl (.bytes [97])⟩

/-! ## JSON columns -/

theorem convertFieldType_json (converter : MysqlToClickhouseConverter) (parameters : String)
    (noOverride : converter.typesMapping.lookup "json" = none) :
    convertFieldType converter "json" parameters =
      .ok (nullableUnless (contains (lower parameters) "not null") "String") := by
  have builtin : ∀ isUnsigned, builtinType "json" isUnsigned = .ok "String" := fun _ => rfl
  simp only [convertFieldType, show lower "json" = "json" from rfl, convertType, noOverride,
    builtin, ok_map, show contains "String" "Tuple" = false by decide, Bool.or_false]

theorem convertValue_jsonString (ext : Externals) (mysqlStructure : TableStructure) (idx : Nat)
    (notNull : Bool) (value : PyValue) :
    convertValue ext mysqlStructure idx "json" (nullableUnless notNull "String") value =
      match value with
      | .str text => .ok (.str text)
      | _ => convertBytes ext.decode value >>= fun converted =>
          (ext.jsonDumps converted).map .str := by
  have clickhouse : contains (nullableUnless notNull "String") "String" = true ∧
      contains (nullableUnless notNull "String") "UUID" = false ∧
      contains (nullableUnless notNull "String") "UInt16" = false ∧
      contains (nullableUnless notNull "String") "UInt8" = false ∧
      contains (nullableUnless notNull "String") "UInt32" = false ∧
      contains (nullableUnless notNull "String") "UInt64" = false := by
    cases notNull <;> decide
  obtain ⟨string, uuid, u16, u8, u32, u64⟩ := clickhouse
  have tests : startswith "json" "time" = false ∧ contains (lower "json") "mediumint" = false ∧
      (contains "json" "text" || contains "json" "char") = false ∧ contains "json" "set(" = false ∧
      startswith "json" "point" = false ∧ startswith "json" "enum(" = false := by
    decide
  obtain ⟨time, mediumint, charset, set, point, enum⟩ := tests
  have nonNull : ∀ text, nonNullSteps ext mysqlStructure idx "json" (nullableUnless notNull "String")
      (.str text) = .ok (.str text) := by
    intro text
    simp only [nonNullSteps, uuidStep, unsignedCorrections, unsignedCorrection, charsetStep,
      setStep, uuid, u16, u8, u32, u64, mediumint, charset, set, string, Bool.and_false,
      Bool.false_eq_true, if_false, pure_eq_ok, ok_bind]
  have mapStr : ∀ dumped : Except PyError String,
      (dumped >>= fun text => Except.ok (PyValue.str text)) = dumped.map .str := fun dumped => by
    cases dumped <;> rfl
  simp only [convertValue, timeStep, jsonStep, time, string, pointStep, enumStep, point, enum,
    Bool.false_and, Bool.false_eq_true, if_false, beq_self_eq_true, Bool.and_self, if_true,
    pure_eq_ok, bind_ok]
  cases value
  case str text => simp only [ok_bind, nonNull]
  all_goals
    simp only [bind_assoc, ok_bind, nonNull]
    simp only [mapStr]

/-- A `json` column maps to `String`, `Nullable` unless the parameters say `not null`. In a
converted row it always holds a string: a string value as it is, and any other value, null
included, with its bytes decoded and then serialised by `json.dumps`; so the column never
receives NULL. -/
theorem convertValue_json (ext : Externals) (converter : MysqlToClickhouseConverter)
    (mysqlStructure : TableStructure) (idx : Nat) (parameters : String)
    (noOverride : converter.typesMapping.lookup "json" = none) (value : PyValue) :
    let clickhouseFieldType := nullableUnless (contains (lower parameters) "not null") "String"
    convertFieldType converter "json" parameters = .ok clickhouseFieldType ∧
      convertValue ext mysqlStructure idx "json" clickhouseFieldType value =
        match value with
        | .str text => .ok (.str text)
        | _ => convertBytes ext.decode value >>= fun converted =>
            (ext.jsonDumps converted).map .str :=
  ⟨convertFieldType_json converter parameters noOverride,
    convertValue_jsonString ext mysqlStructure idx _ value⟩

theorem convertValue_json_null :
    let ext : Externals := ⟨fun _ => "", fun _ => .ok "null", fun _ _ => .ok "", fun _ => .ok [],
      fun _ bits => bits, fun _ value => value,
      fun value _ _ => .ok value⟩
    let clickhouseFieldType := nullableUnless (contains (lower "") "not null") "String"
    (MysqlToClickhouseConverter.mk none).typesMapping.lookup "json" = none ∧
      (convertFieldType ⟨none⟩ "json" "" = .ok clickhouseFieldType ∧
        convertValue ext {} 0 "json" clickhouseFieldType .none =
          (convertBytes ext.decode .none >>= fun converted => (ext.jsonDumps converted).map .str)) :=
  ⟨rfl, convertValue_json _ ⟨none⟩ {} 0 "" rfl .none⟩

end MysqlChReplicator.Converter

import MysqlChReplicator.Converter.ConvertRecord

/-!
# Integer columns

The MySQL integer declarations, `keyword` or `keyword(width)`, what the type mapper makes of
them, and what `convert_record` does to their values: each unsigned column is corrected modulo
its width, and the `mediumint` correction also fires on signed columns.
-/

namespace MysqlChReplicator.Converter

open Python

/-- A display width: a non-empty run of digits. -/
def IsDisplayWidth (width : String) : Prop :=
  width.data ≠ [] ∧ ∀ c ∈ width.data, c.isDigit

/-- The value of a rule's test on `name(width)` when the width is a display width: no exact
name of a rule has that shape, and prefix and word tests are decided by `name(`. -/
def TypeTest.onDeclaration (name : String) : TypeTest → Bool
  | .equals _ => false
  | .startsWith pre => startswith (name ++ "(") pre
  | .containsWord word => contains (name ++ "(") word
  | .containsEither first second => contains (name ++ "(") first || contains (name ++ "(") second

/-- A word whose occurrences in `name(width)` all end before the width. -/
def EndsOutsideWidth (word : String) : Bool :=
  match word.data.getLast? with
  | some c => !c.isDigit && c != ')'
  | none => false

/-- The tests that `onDeclaration` decides correctly. -/
def TypeTest.DecidedByName (name : String) : TypeTest → Bool
  | .equals other => !(other.data.contains '(') || other.data.takeWhile (· != '(') != name.data
  | .startsWith pre => !decide ((name ++ "(").data <+: pre.data)
  | .containsWord word => EndsOutsideWidth word
  | .containsEither first second => EndsOutsideWidth first && EndsOutsideWidth second

section Declaration

variable {name width : String}

theorem data_declaration (name width : String) :
    (name ++ "(" ++ width ++ ")").data = (name ++ "(").data ++ (width.data ++ [')']) := by
  simp only [String.data_append, List.append_assoc]

theorem contains_declaration (hwidth : IsDisplayWidth width) {word : String}
    (outside : EndsOutsideWidth word = true) :
    contains (name ++ "(" ++ width ++ ")") word = contains (name ++ "(") word := by
  unfold EndsOutsideWidth at outside
  cases lastChar : word.data.getLast? with
  | none => simp [lastChar] at outside
  | some last =>
      obtain ⟨front, split⟩ := List.getLast?_eq_some_iff.mp lastChar
      simp only [lastChar, Bool.and_eq_true, Bool.not_eq_true', bne_iff_ne, ne_eq] at outside
      refine Bool.eq_iff_iff.mpr ⟨fun inside => ?_, fun inside => ?_⟩
      · simp only [contains_iff, data_declaration, split] at inside ⊢
        refine infix_of_infix_append_of_last (fun mem => ?_) inside
        rcases List.mem_append.mp mem with digit | closing
        · simp [hwidth.2 last digit] at outside
        · exact outside.2 (List.mem_singleton.mp closing)
      · simp only [contains_iff, data_declaration] at inside ⊢
        exact inside.trans (List.prefix_append _ _).isInfix

theorem startswith_declaration {pre : String} (longer : ¬ (name ++ "(").data <+: pre.data) :
    startswith (name ++ "(" ++ width ++ ")") pre = startswith (name ++ "(") pre := by
  refine Bool.eq_iff_iff.mpr ⟨fun inside => ?_, fun inside => ?_⟩
  · simp only [startswith_iff, data_declaration] at inside ⊢
    exact (List.prefix_or_prefix_of_prefix inside (List.prefix_append _ _)).resolve_right longer
  · simp only [startswith_iff, data_declaration] at inside ⊢
    exact inside.trans (List.prefix_append _ _)

theorem declaration_ne {other : String} (plain : '(' ∉ name.data)
    (decided : (TypeTest.equals other).DecidedByName name = true) :
    name ++ "(" ++ width ++ ")" ≠ other := by
  rintro rfl
  have beforeParen : ∀ c ∈ name.data, (c != '(') = true := fun c mem =>
    bne_iff_ne.mpr fun same => plain (same ▸ mem)
  simp only [TypeTest.DecidedByName, data_declaration, String.data_append] at decided
  simp [List.takeWhile_append_of_pos beforeParen] at decided

theorem holds_declaration (hwidth : IsDisplayWidth width) (plain : '(' ∉ name.data)
    {test : TypeTest} (decided : test.DecidedByName name = true) :
    test.holds (name ++ "(" ++ width ++ ")") = test.onDeclaration name := by
  cases test with
  | equals other =>
      simpa [TypeTest.holds, TypeTest.onDeclaration] using declaration_ne plain decided
  | startsWith pre =>
      exact startswith_declaration (by simpa [TypeTest.DecidedByName] using decided)
  | containsWord word => exact contains_declaration hwidth decided
  | containsEither first second =>
      simp only [TypeTest.DecidedByName, Bool.and_eq_true] at decided
      simp only [TypeTest.holds, TypeTest.onDeclaration, contains_declaration hwidth decided.1,
        contains_declaration hwidth decided.2]

end Declaration

theorem find?_congr {α : Type} {rules : List α} {p q : α → Bool}
    (same : ∀ rule ∈ rules, p rule = q rule) : rules.find? p = rules.find? q := by
  induction rules with
  | nil => rfl
  | cons rule rules ih =>
      simp only [List.find?_cons, same rule (List.mem_cons_self rule rules),
        ih fun other mem => same other (List.mem_cons_of_mem rule mem)]

/-- The integer keywords of MySQL. -/
inductive IntegerKeyword
  | tinyint | smallint | mediumint | int | integer | bigint
  deriving DecidableEq, Repr

namespace IntegerKeyword

def name : IntegerKeyword → String
  | .tinyint => "tinyint"
  | .smallint => "smallint"
  | .mediumint => "mediumint"
  | .int => "int"
  | .integer => "integer"
  | .bigint => "bigint"

/-- The bit width of the MySQL type. -/
def bits : IntegerKeyword → Nat
  | .tinyint => 8
  | .smallint => 16
  | .mediumint => 24
  | .int => 32
  | .integer => 32
  | .bigint => 64

/-- The ClickHouse type the rules give the keyword. -/
def clickhouseType (keyword : IntegerKeyword) (isUnsigned : Bool) : String :=
  match keyword with
  | .tinyint => integerType isUnsigned "UInt8" "Int8"
  | .smallint => integerType isUnsigned "UInt16" "Int16"
  | .mediumint | .int | .integer => integerType isUnsigned "UInt32" "Int32"
  | .bigint => integerType isUnsigned "UInt64" "Int64"

/-- The bit width of that ClickHouse type. -/
def clickhouseBits : IntegerKeyword → Nat
  | .tinyint => 8
  | .smallint => 16
  | .mediumint | .int | .integer => 32
  | .bigint => 64

/-- The values the driver delivers for the column: the signed range of its width, extended to
the unsigned range for an unsigned column. -/
def DriverRange (keyword : IntegerKeyword) (isUnsigned : Bool) (value : Int) : Prop :=
  -2 ^ (keyword.bits - 1) ≤ value ∧
    value < 2 ^ (if isUnsigned then keyword.bits else keyword.bits - 1)

/-- The values of the ClickHouse type. -/
def ClickhouseRange (keyword : IntegerKeyword) (isUnsigned : Bool) (value : Int) : Prop :=
  if isUnsigned then 0 ≤ value ∧ value < 2 ^ keyword.clickhouseBits
  else -2 ^ (keyword.clickhouseBits - 1) ≤ value ∧ value < 2 ^ (keyword.clickhouseBits - 1)

/-- The value a column of MySQL meaning should hold: the value itself when signed, the value
modulo the width when unsigned. -/
def meaning (keyword : IntegerKeyword) (isUnsigned : Bool) (value : Int) : Int :=
  if isUnsigned then value % 2 ^ keyword.bits else value

/-- What `convert_record` gives a value the driver delivers for the column: the meaning,
except that a negative signed `mediumint` gets `2^24` added. -/
def transcoded (keyword : IntegerKeyword) (isUnsigned : Bool) (value : Int) : Int :=
  if isUnsigned then value % 2 ^ keyword.bits
  else if keyword = .mediumint ∧ value < 0 then value + 2 ^ 24
  else value

/-- `keyword`, or `keyword(width)`. -/
def declaration (keyword : IntegerKeyword) : Option String → String
  | none => keyword.name
  | some width => keyword.name ++ "(" ++ width ++ ")"

/-- The transcoded value keeps the MySQL meaning except on negative signed `mediumint`s. -/
theorem transcoded_eq_meaning_iff (keyword : IntegerKeyword) (isUnsigned : Bool) (value : Int) :
    keyword.transcoded isUnsigned value = keyword.meaning isUnsigned value ↔
      ¬ (keyword = .mediumint ∧ isUnsigned = false ∧ value < 0) := by
  cases isUnsigned with
  | true => simp [transcoded, meaning]
  | false =>
      by_cases shifted : keyword = .mediumint ∧ value < 0
      · simp only [transcoded, meaning, if_pos shifted, Bool.false_eq_true, if_false]
        exact iff_of_false (by omega) fun kept => kept ⟨shifted.1, by trivial, shifted.2⟩
      · simp [transcoded, meaning, shifted]

/-- Every transcoded value lies in the range of the ClickHouse type. -/
theorem transcoded_mem_clickhouseRange {keyword : IntegerKeyword} {isUnsigned : Bool}
    {value : Int} (inRange : keyword.DriverRange isUnsigned value) :
    keyword.ClickhouseRange isUnsigned (keyword.transcoded isUnsigned value) := by
  unfold DriverRange at inRange
  cases keyword <;> cases isUnsigned <;>
    simp [ClickhouseRange, transcoded, bits, clickhouseBits] at inRange ⊢ <;> omega

end IntegerKeyword

theorem lowerFixed_of_isDigit {c : Char} (digit : c.isDigit = true) :
    c.toNat < 128 ∧ c.toLower = c := by
  have range := (isDigit_iff c).mp digit
  refine ⟨by omega, ?_⟩
  unfold Char.toLower
  rw [if_neg (by omega)]

/-- `name(width)`, for a name of lower-case ASCII, is its own lower case. -/
theorem lower_nameWidth {name width : String} (hwidth : IsDisplayWidth width)
    (lowerName : ∀ c ∈ name.data, c.toNat < 128 ∧ c.toLower = c) :
    lower (name ++ "(" ++ width ++ ")") = name ++ "(" ++ width ++ ")" := by
  apply lower_eq_self
  simp only [String.data_append, List.mem_append]
  rintro c (((inName | paren) | inWidth) | paren)
  · exact lowerName c inName
  · rw [List.mem_singleton.mp paren]
    decide
  · exact lowerFixed_of_isDigit (hwidth.2 c inWidth)
  · rw [List.mem_singleton.mp paren]
    decide

/-- The tests of `convert_record` on the MySQL type that choose a conversion other than the
unsigned corrections. -/
def recordTests : List TypeTest :=
  [.startsWith "time", .equals "json", .containsWord "set(", .startsWith "point",
    .startsWith "enum("]

theorem clickhouseType_tests (keyword : IntegerKeyword) (isUnsigned notNull : Bool) :
    let clickhouseFieldType := nullableUnless notNull (keyword.clickhouseType isUnsigned)
    contains clickhouseFieldType "UUID" = false ∧ contains clickhouseFieldType "String" = false ∧
      contains clickhouseFieldType "UInt16" = (isUnsigned && keyword.clickhouseBits == 16) ∧
      contains clickhouseFieldType "UInt8" = (isUnsigned && keyword.clickhouseBits == 8) ∧
      contains clickhouseFieldType "UInt32" = (isUnsigned && keyword.clickhouseBits == 32) ∧
      contains clickhouseFieldType "UInt64" = (isUnsigned && keyword.clickhouseBits == 64) := by
  cases keyword <;> cases isUnsigned <;> cases notNull <;> decide

section Declarations

variable (keyword : IntegerKeyword) (width : Option String)
  (hwidth : ∀ w ∈ width, IsDisplayWidth w)

include hwidth

theorem builtinType_declaration (notBool : keyword.declaration width ≠ "tinyint(1)")
    (isUnsigned : Bool) :
    builtinType (keyword.declaration width) isUnsigned = .ok (keyword.clickhouseType isUnsigned) := by
  cases width with
  | none => cases keyword <;> cases isUnsigned <;> rfl
  | some w =>
      have decided : ∀ rule ∈ typeRules,
          rule.1 = .equals "tinyint(1)" ∨ rule.1.DecidedByName keyword.name = true := by
        cases keyword <;> decide
      have plain : '(' ∉ keyword.name.data := by cases keyword <;> decide
      have same : typeRules.find? (·.1.holds (keyword.declaration (some w))) =
          typeRules.find? (·.1.onDeclaration keyword.name) := by
        refine find?_congr fun rule mem => ?_
        rcases decided rule mem with bool | byName
        · simpa [bool, TypeTest.holds, TypeTest.onDeclaration] using notBool
        · exact holds_declaration (hwidth w rfl) plain byName
      rw [builtinType, same]
      cases keyword <;> cases isUnsigned <;> rfl

theorem lower_declaration : lower (keyword.declaration width) = keyword.declaration width := by
  have lowerName : ∀ c ∈ keyword.name.data, c.toNat < 128 ∧ c.toLower = c := by
    cases keyword <;> decide
  cases width with
  | none => exact lower_eq_self lowerName
  | some w => exact lower_nameWidth (hwidth w rfl) lowerName

theorem convertFieldType_declaration (converter : MysqlToClickhouseConverter)
    (notBool : keyword.declaration width ≠ "tinyint(1)") (parameters : String)
    (noOverride : converter.typesMapping.lookup (keyword.declaration width) = none) :
    convertFieldType converter (keyword.declaration width) parameters =
      .ok (nullableUnless (contains (lower parameters) "not null")
        (keyword.clickhouseType (contains (lower parameters) "unsigned"))) := by
  have noTuple : ∀ isUnsigned, contains (keyword.clickhouseType isUnsigned) "Tuple" = false := by
    intro isUnsigned
    cases keyword <;> cases isUnsigned <;> rfl
  simp only [convertFieldType, lower_declaration keyword width hwidth, convertType, noOverride,
    lower_lower, builtinType_declaration keyword width hwidth notBool, ok_map, noTuple,
    Bool.or_false]

theorem recordTests_declaration :
    ∀ test ∈ recordTests, test.holds (keyword.declaration width) = false := by
  cases width with
  | none => cases keyword <;> decide
  | some w =>
      have plain : '(' ∉ keyword.name.data := by cases keyword <;> decide
      have decided : ∀ test ∈ recordTests,
          test.DecidedByName keyword.name = true ∧ test.onDeclaration keyword.name = false := by
        cases keyword <;> decide
      intro test mem
      rw [IntegerKeyword.declaration, holds_declaration (hwidth w rfl) plain (decided test mem).1,
        (decided test mem).2]

theorem mediumint_declaration :
    contains (lower (keyword.declaration width)) "mediumint" = (keyword == .mediumint) := by
  rw [lower_declaration keyword width hwidth]
  cases width with
  | none => cases keyword <;> rfl
  | some w =>
      rw [IntegerKeyword.declaration,
        contains_declaration (hwidth w rfl) (rfl : EndsOutsideWidth "mediumint" = true)]
      cases keyword <;> decide

theorem unsignedCorrections_declaration (ext : Externals) (isUnsigned notNull : Bool)
    {value : Int} (inRange : keyword.DriverRange isUnsigned value) :
    unsignedCorrections ext (keyword.declaration width)
        (nullableUnless notNull (keyword.clickhouseType isUnsigned)) (.int value) =
      .ok (.int (keyword.transcoded isUnsigned value)) := by
  obtain ⟨-, -, u16, u8, u32, u64⟩ := clickhouseType_tests keyword isUnsigned notNull
  simp only [unsignedCorrections, unsignedCorrection_int, ok_bind, u16, u8, u32, u64,
    mediumint_declaration keyword width hwidth]
  unfold IntegerKeyword.DriverRange at inRange
  unfold IntegerKeyword.transcoded
  cases keyword <;> cases isUnsigned <;>
    simp [IntegerKeyword.bits, IntegerKeyword.clickhouseBits] at inRange ⊢ <;> omega

/-- An integer column's value goes through the unsigned corrections only, which transcode it. -/
theorem convertValue_declaration (ext : Externals) (mysqlStructure : TableStructure) (idx : Nat)
    (isUnsigned notNull : Bool) {value : Int} (inRange : keyword.DriverRange isUnsigned value) :
    convertValue ext mysqlStructure idx (keyword.declaration width)
        (nullableUnless notNull (keyword.clickhouseType isUnsigned)) (.int value) =
      .ok (.int (keyword.transcoded isUnsigned value)) := by
  have tests := recordTests_declaration keyword width hwidth
  obtain ⟨noUuid, noString, -⟩ := clickhouseType_tests keyword isUnsigned notNull
  rw [convertValue_int ext mysqlStructure idx value (tests (.startsWith "time") (by decide))
    (tests (.equals "json") (by decide)) noUuid noString (tests (.containsWord "set(") (by decide))
    (tests (.startsWith "point") (by decide)) (tests (.startsWith "enum(") (by decide))]
  exact unsignedCorrections_declaration keyword width hwidth ext isUnsigned notNull inRange

/-- In a converted row, an integer column whose ClickHouse type is the mapper's holds the
transcoded value. -/
theorem convertRecord_integer (ext : Externals) (converter : MysqlToClickhouseConverter)
    (notBool : keyword.declaration width ≠ "tinyint(1)") (parameters : String)
    (noOverride : converter.typesMapping.lookup (keyword.declaration width) = none)
    {mysqlRecord out : List PyValue} {mysqlFieldTypes clickhouseFieldTypes : List String}
    {mysqlStructure : TableStructure} {idx : Nat} {clickhouseFieldType : String} {value : Int}
    (ok : convertRecord ext mysqlRecord mysqlFieldTypes clickhouseFieldTypes mysqlStructure false =
      .ok out)
    (valueAt : mysqlRecord[idx]? = some (.int value))
    (mysqlAt : mysqlFieldTypes[idx]? = some (keyword.declaration width))
    (clickhouseAt : clickhouseFieldTypes[idx]? = some clickhouseFieldType)
    (mapped : convertFieldType converter (keyword.declaration width) parameters =
      .ok clickhouseFieldType)
    (inRange : keyword.DriverRange (contains (lower parameters) "unsigned") value) :
    out[idx]? = some (.int (keyword.transcoded (contains (lower parameters) "unsigned") value)) := by
  rw [convertFieldType_declaration keyword width hwidth converter notBool parameters noOverride,
    Except.ok.injEq] at mapped
  subst mapped
  obtain ⟨converted, column, outAt⟩ := convertRecord_getElem? ok valueAt
  rw [convertColumn_converted _ (.inl rfl) mysqlAt clickhouseAt,
    convertValue_declaration keyword width hwidth] at column
  · cases column
    exact outAt
  · exact inRange

end Declarations

/-- A negative signed `mediumint` is shifted by `2^24`. -/
theorem convertRecord_signed_mediumint (ext : Externals) :
    convertFieldType {} "mediumint" "" = .ok "Nullable(Int32)" ∧
      convertRecord ext [.int (-1)] ["mediumint"] ["Nullable(Int32)"] {} false =
        .ok [.int 16777215] :=
  ⟨rfl, rfl⟩

end MysqlChReplicator.Converter

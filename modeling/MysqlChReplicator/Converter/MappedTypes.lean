import MysqlChReplicator.Converter.IntegerColumns
import MysqlChReplicator.Converter.EnumLiterals

/-!
# What the type mapper produces

Without a `types_mapping` override, a ClickHouse type of `convert_field_type` is a name written
in `convert_type`, or is built from the lower-cased declaration, decimal digits and lower-case
labels. So it never names `UUID`: the UUID repacking of `convert_record` is reached only through
an override. The date-and-time declarations `datetime[(p)]` and `timestamp[(p)]`, in any letter
case, map to `DateTime64[(p)]`, and `time[(p)]` to `String`; in a converted row a `time` column
holds the `str` of its value and the others their value as it is. Overrides are read with the
lower-cased declaration, so an entry of `types_mapping` whose key is not lower-case is never used.
-/

namespace MysqlChReplicator.Converter

open Python

/-! ## Characters of the built types -/

section Characters

theorem mem_intercalate {α : Type} {sep : List α} {c : α} :
    ∀ {parts : List (List α)}, c ∈ sep.intercalate parts → c ∈ sep ∨ ∃ part ∈ parts, c ∈ part
  | [], mem => by simp [List.intercalate] at mem
  | [part], mem => .inr ⟨part, List.mem_singleton_self part, by simpa [List.intercalate] using mem⟩
  | part :: next :: parts, mem => by
      change c ∈ part ++ (sep ++ sep.intercalate (next :: parts)) at mem
      rcases List.mem_append.mp mem with inPart | inRest
      · exact .inr ⟨part, List.mem_cons_self part _, inPart⟩
      rcases List.mem_append.mp inRest with inSep | inParts
      · exact .inl inSep
      rcases mem_intercalate inParts with inSep | ⟨other, mem, inOther⟩
      · exact .inl inSep
      · exact .inr ⟨other, List.mem_cons_of_mem part mem, inOther⟩

theorem mem_replaceChars {old new : List Char} {c : Char} :
    ∀ {fuel : Nat} {s : List Char}, c ∈ replaceChars old new fuel s → c ∈ s ∨ c ∈ new
  | 0, _, mem => .inl mem
  | _ + 1, [], mem => .inl mem
  | fuel + 1, d :: ds, mem => by
      unfold replaceChars at mem
      split at mem
      · rcases List.mem_append.mp mem with inNew | inRest
        · exact .inr inNew
        · exact (mem_replaceChars inRest).imp_left List.mem_of_mem_drop
      · rcases List.mem_cons.mp mem with rfl | inRest
        · exact .inl (List.mem_cons_self c ds)
        · exact (mem_replaceChars inRest).imp_left (List.mem_cons_of_mem d)

/-- A text that lacks one character of a word does not contain the word. -/
theorem contains_eq_false_of_not_mem {s word : String} {c : Char} (inWord : c ∈ word.data)
    (absent : c ∉ s.data) : contains s word = false := by
  rw [Bool.eq_false_iff, ne_eq, contains_iff]
  exact fun inside => absent (inside.subset inWord)

theorem upper_u_not_mem_lower (s : String) : 'U' ∉ (lower s).data := fun mem => by
  rcases mem_lower_ascii mem (by decide) with ⟨c, -, lowered⟩ | letter
  · obtain rfl := eq_of_toLower_eq lowered.symm (by decide)
    exact absurd lowered (by decide)
  · exact absurd letter (by decide)

theorem upper_u_not_mem_toString (n : Nat) : 'U' ∉ (toString n).data :=
  fun mem => absurd ((toString_decimal n).2.1 'U' mem) (by decide)

theorem upper_u_not_mem_decimalType (precision scale : Nat) :
    'U' ∉ (decimalType precision scale).data := by
  simp only [decimalType, String.data_append, List.mem_append, not_or]
  exact ⟨⟨⟨⟨by decide, upper_u_not_mem_toString precision⟩, by decide⟩,
    upper_u_not_mem_toString scale⟩, by decide⟩

theorem upper_u_not_mem_enumType (labels : List String) : 'U' ∉ (enumType labels).data := by
  have element : ∀ idx label, 'U' ∉ ("'" ++ lower label ++ "' = " ++ toString (idx + 1)).data := by
    intro idx label
    simp only [String.data_append, List.mem_append, not_or]
    exact ⟨⟨⟨by decide, upper_u_not_mem_lower label⟩, by decide⟩, upper_u_not_mem_toString _⟩
  have values : 'U' ∉ (join ", " (labels.enum.map fun (idx, valueName) =>
      "'" ++ lower valueName ++ "' = " ++ toString (idx + 1))).data := by
    intro mem
    rcases mem_intercalate mem with inSep | ⟨part, inParts, inPart⟩
    · exact absurd inSep (by decide)
    · simp only [List.map_map, List.mem_map, Function.comp] at inParts
      obtain ⟨⟨idx, label⟩, -, rfl⟩ := inParts
      exact element idx label inPart
  unfold enumType
  split <;> simp only [String.data_append, List.mem_append, not_or] <;>
    exact ⟨⟨by decide, values⟩, by decide⟩

theorem upper_u_not_mem_convertTimestampToDatetime64 {inputStr clickhouseType : String}
    (converted : convertTimestampToDatetime64 inputStr = .ok clickhouseType) :
    'U' ∉ clickhouseType.data := by
  dsimp only [convertTimestampToDatetime64] at converted
  split at converted
  · cases converted
    decide
  · split at converted
    · rename_i spanned
      cases converted
      simp only [String.data_append, List.mem_append, not_or]
      refine ⟨⟨by decide, fun digit => ?_⟩, by decide⟩
      rw [List.span_eq_take_drop, Prod.mk.injEq] at spanned
      have := List.mem_takeWhile_imp (spanned.1 ▸ digit)
      exact absurd this (by decide)
    · cases converted
  · cases converted

end Characters

/-! ## No UUID without an override -/

section Uuid

/-- The type names a rule returns as they are written in `convert_type`. -/
def TypeResult.writtenNames : TypeResult → List String
  | .fixed clickhouseType => [clickhouseType]
  | .integer unsignedName signedName => [unsignedName, signedName]
  | .numeric => ["UInt32", "Int32", "UInt64", "Int64"]
  | _ => []

theorem typeRules_writtenNames :
    ∀ rule ∈ typeRules, ∀ name ∈ rule.2.writtenNames, contains name "UUID" = false := by
  decide

theorem convertNumeric_written {mysqlType clickhouseType : String} {isUnsigned : Bool}
    (converted : convertNumeric mysqlType isUnsigned = .ok clickhouseType) :
    clickhouseType ∈ TypeResult.numeric.writtenNames ∨ 'U' ∉ clickhouseType.data := by
  have u32 : integerType isUnsigned "UInt32" "Int32" ∈ TypeResult.numeric.writtenNames := by
    cases isUnsigned <;> decide
  have u64 : integerType isUnsigned "UInt64" "Int64" ∈ TypeResult.numeric.writtenNames := by
    cases isUnsigned <;> decide
  unfold convertNumeric at converted
  simp only [pure_eq_ok, ok_bind, throw_eq_error, error_bind] at converted
  repeat' split at converted
  all_goals cases converted
  all_goals first
    | exact .inl u32
    | exact .inl u64
    | exact .inr (upper_u_not_mem_decimalType _ _)

/-- A rule applied to a text without `U` gives one of its written names or a text without `U`. -/
theorem TypeResult.apply_written {mysqlType clickhouseType : String} {isUnsigned : Bool}
    (plain : 'U' ∉ mysqlType.data) {result : TypeResult}
    (applied : result.apply mysqlType isUnsigned = .ok clickhouseType) :
    clickhouseType ∈ result.writtenNames ∨ 'U' ∉ clickhouseType.data := by
  cases result with
  | fixed name => cases applied; exact .inl (List.mem_singleton_self _)
  | integer unsignedName signedName =>
      cases applied
      cases isUnsigned <;> simp [integerType, TypeResult.writtenNames]
  | numeric => exact convertNumeric_written applied
  | datetime =>
      cases applied
      refine .inr fun mem => ?_
      rcases mem_replaceChars mem with inType | inNew
      · exact plain inType
      · exact absurd inNew (by decide)
  | enum =>
      obtain ⟨labels, -, rfl⟩ := map_eq_ok.mp applied
      exact .inr (upper_u_not_mem_enumType labels)
  | timestamp => exact .inr (upper_u_not_mem_convertTimestampToDatetime64 applied)

theorem builtinType_no_uuid {mysqlType clickhouseType : String} {isUnsigned : Bool}
    (plain : 'U' ∉ mysqlType.data) (typed : builtinType mysqlType isUnsigned = .ok clickhouseType) :
    contains clickhouseType "UUID" = false := by
  unfold builtinType at typed
  split at typed
  · rename_i test result found
    rcases result.apply_written plain typed with written | noU
    · exact typeRules_writtenNames _ (List.mem_of_find?_eq_some found) _ written
    · exact contains_eq_false_of_not_mem (by decide) noU
  · cases typed

/-- The `Nullable(...)` wrapper neither adds nor hides a word without parentheses that is not
inside `Nullable`. -/
theorem contains_nullableUnless {word : String} (noOpen : '(' ∉ word.data)
    (noClose : ')' ∉ word.data) (outside : ¬ word.data <:+: "Nullable".data) (notNull : Bool)
    (clickhouseType : String) :
    contains (nullableUnless notNull clickhouseType) word = contains clickhouseType word := by
  cases notNull
  · have data : (nullableUnless false clickhouseType).data =
        "Nullable".data ++ '(' :: (clickhouseType.data ++ ')' :: []) := by
      simp [nullableUnless]
    refine Bool.eq_iff_iff.mpr ⟨fun inside => ?_, fun inside => ?_⟩
    · rw [contains_iff, data] at inside
      rcases infix_append_cons noOpen inside with wrapper | inner
      · exact absurd wrapper outside
      rcases infix_append_cons noClose inner with inType | empty
      · exact (contains_iff _ _).mpr inType
      · rw [contains_iff, List.eq_nil_of_infix_nil empty]
        exact List.nil_infix
    · rw [contains_iff] at inside ⊢
      rw [data, ← List.singleton_append, ← List.append_assoc, ← List.append_assoc]
      exact inside.trans (List.infix_append _ _ _)
  · rfl

/-- Without a `types_mapping` entry for the declaration, no type `convert_field_type` gives
names `UUID`, so the UUID step of `convert_record` leaves every value of such a column as it
is. -/
theorem convertFieldType_no_uuid (converter : MysqlToClickhouseConverter)
    (mysqlType parameters : String) {clickhouseType : String}
    (noOverride : converter.typesMapping.lookup (lower mysqlType) = none)
    (typed : convertFieldType converter mysqlType parameters = .ok clickhouseType) :
    contains clickhouseType "UUID" = false ∧
      ∀ ext value, uuidStep ext clickhouseType value = .ok value := by
  obtain ⟨builtin, converted, rfl⟩ := map_eq_ok.mp typed
  rw [convertType, noOverride] at converted
  generalize (contains (lower parameters) "not null" || contains builtin "Tuple") = notNull
  have noUuid : contains (nullableUnless notNull builtin) "UUID" = false := by
    rw [contains_nullableUnless (by decide) (by decide) (by decide)]
    exact builtinType_no_uuid (upper_u_not_mem_lower mysqlType) converted
  exact ⟨noUuid, fun ext value => by rw [uuidStep, noUuid, if_neg Bool.false_ne_true]; rfl⟩

theorem convertFieldType_no_uuid_char36 :
    (MysqlToClickhouseConverter.mk none).typesMapping.lookup (lower "CHAR(36)") = none ∧
      convertFieldType ⟨none⟩ "CHAR(36)" "NOT NULL" = .ok "String" ∧
      (contains "String" "UUID" = false ∧ ∀ ext value, uuidStep ext "String" value = .ok value) :=
  ⟨rfl, rfl, convertFieldType_no_uuid ⟨none⟩ "CHAR(36)" "NOT NULL" rfl rfl⟩

end Uuid

/-! ## Date-and-time declarations -/

/-- The MySQL date-and-time types that take a fractional-seconds precision. -/
inductive TemporalKeyword
  | datetime | timestamp | time
  deriving DecidableEq, Repr

namespace TemporalKeyword

def name : TemporalKeyword → String
  | datetime => "datetime"
  | timestamp => "timestamp"
  | time => "time"

/-- `keyword`, or `keyword(precision)`. -/
def declaration (keyword : TemporalKeyword) : Option String → String
  | none => keyword.name
  | some precision => keyword.name ++ "(" ++ precision ++ ")"

/-- `DateTime64[(precision)]` for `datetime` and `timestamp`; a `time` is kept as a string. -/
def clickhouseType : TemporalKeyword → Option String → String
  | time, _ => "String"
  | _, none => "DateTime64"
  | _, some precision => "DateTime64(" ++ precision ++ ")"

end TemporalKeyword

section Replace

variable {old new : List Char}

theorem replaceChars_of_not_mem {first : Char} {more : List Char} (head : old = first :: more) :
    ∀ {fuel : Nat} {s : List Char}, first ∉ s → replaceChars old new fuel s = s
  | 0, _, _ => rfl
  | _ + 1, [], _ => rfl
  | fuel + 1, c :: cs, absent => by
      have notPrefix : ¬ old <+: c :: cs := fun pre => by
        rw [head, List.cons_prefix_cons] at pre
        exact absent (pre.1 ▸ List.mem_cons_self c cs)
      rw [replaceChars, if_neg notPrefix,
        replaceChars_of_not_mem head fun mem => absent (List.mem_cons_of_mem c mem)]

theorem replaceChars_prefix (nonempty : old ≠ []) (fuel : Nat) (rest : List Char) :
    replaceChars old new (fuel + 1) (old ++ rest) = new ++ replaceChars old new fuel rest := by
  obtain ⟨first, more, rfl⟩ := List.exists_cons_of_ne_nil nonempty
  have found : first :: more <+: first :: (more ++ rest) := List.prefix_append (first :: more) rest
  rw [List.cons_append, replaceChars, if_pos found, ← List.cons_append, List.drop_left]

end Replace

section Precision

variable {precision : String} (digits : IsDisplayWidth precision)

include digits

theorem replace_datetime :
    replace ("datetime" ++ "(" ++ precision ++ ")") "datetime" "DateTime64" =
      "DateTime64(" ++ precision ++ ")" := by
  have noD : 'd' ∉ '(' :: (precision.data ++ [')']) := by
    simp only [List.mem_cons, List.mem_append, List.mem_singleton, not_or]
    exact ⟨by decide, fun mem => absurd (digits.2 'd' mem) (by decide), by decide⟩
  have data : ("datetime" ++ "(" ++ precision ++ ")").data =
      "datetime".data ++ '(' :: (precision.data ++ [')']) := by
    simp
  have length : ("datetime" ++ "(" ++ precision ++ ")").data.length =
      (precision.data.length + 9) + 1 := by
    simp
  apply String.ext
  rw [replace, length, data, replaceChars_prefix (by decide), replaceChars_of_not_mem rfl noD]
  simp

theorem convertTimestampToDatetime64_precision :
    convertTimestampToDatetime64 ("timestamp" ++ "(" ++ precision ++ ")") =
      .ok ("DateTime64(" ++ precision ++ ")") := by
  obtain ⟨_ | ⟨d, ds⟩⟩ := precision
  · exact absurd rfl digits.1
  have data : ("timestamp" ++ "(" ++ ⟨d :: ds⟩ ++ ")").data =
      't' :: ("imestamp(".data ++ d :: ds ++ [')']) := by
    simp
  have spanned : (d :: ds ++ [')']).span isDecimal = (d :: ds, [')']) :=
    span_append_of_not (fun c mem => isDecimal_of_isDigit (digits.2 c mem)) (by decide)
  have dropped : dropPrefixIgnoringCase "timestamp".data
      ('t' :: ("imestamp(".data ++ d :: ds ++ [')'])) = some ('(' :: (d :: ds ++ [')'])) :=
    rfl
  rw [convertTimestampToDatetime64, strip_of_visible_ends data rfl rfl, data]
  simp only [dropped, spanned]

end Precision

theorem builtinType_temporal (keyword : TemporalKeyword) (precision : Option String)
    (digits : ∀ p ∈ precision, IsDisplayWidth p) (isUnsigned : Bool) :
    builtinType (keyword.declaration precision) isUnsigned =
      .ok (keyword.clickhouseType precision) := by
  cases precision with
  | none => cases keyword <;> rfl
  | some p =>
      have decided : ∀ rule ∈ typeRules, rule.1.DecidedByName keyword.name = true := by
        cases keyword <;> decide
      have plain : '(' ∉ keyword.name.data := by cases keyword <;> decide
      have same : typeRules.find? (·.1.holds (keyword.declaration (some p))) =
          typeRules.find? (·.1.onDeclaration keyword.name) :=
        find?_congr fun rule mem => holds_declaration (digits p rfl) plain (decided rule mem)
      rw [builtinType, same]
      cases keyword
      · exact congrArg Except.ok (replace_datetime (digits p rfl))
      · show convertTimestampToDatetime64 ("timestamp" ++ "(" ++ p ++ ")") =
          .ok ("DateTime64(" ++ p ++ ")")
        exact convertTimestampToDatetime64_precision (digits p rfl)
      · rfl

/-- `datetime[(p)]` and `timestamp[(p)]`, in any letter case and with any precision, map to
`DateTime64[(p)]`, and `time[(p)]` to `String`; `Nullable` unless the parameters say `not null`. -/
theorem convertFieldType_temporal (converter : MysqlToClickhouseConverter)
    (keyword : TemporalKeyword) (precision : Option String)
    (digits : ∀ p ∈ precision, IsDisplayWidth p) (mysqlType parameters : String)
    (declared : lower mysqlType = keyword.declaration precision)
    (noOverride : converter.typesMapping.lookup (keyword.declaration precision) = none) :
    convertFieldType converter mysqlType parameters =
      .ok (nullableUnless (contains (lower parameters) "not null")
        (keyword.clickhouseType precision)) := by
  have noTuple : contains (keyword.clickhouseType precision) "Tuple" = false := by
    refine contains_eq_false_of_not_mem (c := 'u') (by decide) ?_
    cases keyword <;> cases precision <;>
      simp only [TemporalKeyword.clickhouseType, String.data_append, List.mem_append, not_or] <;>
      first
      | decide
      | exact ⟨⟨by decide, fun mem => absurd ((digits _ rfl).2 'u' mem) (by decide)⟩, by decide⟩
  simp only [convertFieldType, declared, convertType, noOverride, lower_lower,
    builtinType_temporal keyword precision digits, ok_map, noTuple, Bool.or_false]

theorem convertFieldType_temporal_timestamp_six :
    (∀ p ∈ some "6", IsDisplayWidth p) ∧
      lower "TIMESTAMP(6)" = TemporalKeyword.timestamp.declaration (some "6") ∧
      (MysqlToClickhouseConverter.mk none).typesMapping.lookup
        (TemporalKeyword.timestamp.declaration (some "6")) = none ∧
      convertFieldType ⟨none⟩ "TIMESTAMP(6)" "NOT NULL" = .ok "DateTime64(6)" :=
  have digits : ∀ p ∈ some "6", IsDisplayWidth p := by
    rintro p ⟨⟩
    exact ⟨by decide, by decide⟩
  ⟨digits, rfl, rfl, convertFieldType_temporal ⟨none⟩ .timestamp (some "6") digits "TIMESTAMP(6)" "NOT NULL" rfl
    rfl⟩

/-! ## Date-and-time values -/

section TemporalValues

variable (keyword : TemporalKeyword) (precision : Option String)
  (digits : ∀ p ∈ precision, IsDisplayWidth p)

include digits

theorem lower_temporalDeclaration :
    lower (keyword.declaration precision) = keyword.declaration precision := by
  have lowerName : ∀ c ∈ keyword.name.data, c.toNat < 128 ∧ c.toLower = c := by
    cases keyword <;> decide
  cases precision with
  | none => exact lower_eq_self lowerName
  | some p => exact lower_nameWidth (digits p rfl) lowerName

/-- The tests `convert_record` makes on a date-and-time declaration: of the special columns only
the `time` prefix holds, on `time` and `timestamp`, and neither a charset nor the `mediumint`
test holds. -/
theorem recordTests_temporal :
    (∀ test ∈ recordTests, test.holds (keyword.declaration precision) =
      (test == .startsWith "time" && keyword != .datetime)) ∧
      (contains (keyword.declaration precision) "text" ||
        contains (keyword.declaration precision) "char") = false ∧
      contains (lower (keyword.declaration precision)) "mediumint" = false := by
  rw [lower_temporalDeclaration keyword precision digits]
  cases precision with
  | none => cases keyword <;> decide
  | some p =>
      have plain : '(' ∉ keyword.name.data := by cases keyword <;> decide
      have byName : ∀ test : TypeTest, test.DecidedByName keyword.name = true →
          test.holds (keyword.declaration (some p)) = test.onDeclaration keyword.name :=
        fun _ => holds_declaration (digits p rfl) plain
      have special : ∀ test ∈ recordTests, test.DecidedByName keyword.name = true ∧
          test.onDeclaration keyword.name =
            (test == .startsWith "time" && keyword != .datetime) := by
        cases keyword <;> decide
      have text := byName (.containsWord "text") rfl
      have char := byName (.containsWord "char") rfl
      have mediumint := byName (.containsWord "mediumint") rfl
      simp only [TypeTest.holds] at text char mediumint
      refine ⟨fun test mem => (byName test (special test mem).1).trans (special test mem).2, ?_, ?_⟩
      · rw [text, char]
        cases keyword <;> rfl
      · rw [mediumint]
        cases keyword <;> rfl

/-- The ClickHouse type of a date-and-time column names no unsigned or UUID type, and a string
only for `time`. -/
theorem clickhouseType_temporal_tests (notNull : Bool) :
    let clickhouseFieldType := nullableUnless notNull (keyword.clickhouseType precision)
    (∀ word ∈ ["UUID", "UInt16", "UInt8", "UInt32", "UInt64"],
      contains clickhouseFieldType word = false) ∧
      contains clickhouseFieldType "String" = (keyword == .time) := by
  dsimp only
  have plain : ∀ word ∈ ["UUID", "UInt16", "UInt8", "UInt32", "UInt64", "String"],
      '(' ∉ word.data ∧ ')' ∉ word.data ∧ ¬ word.data <:+: "Nullable".data ∧
        ∃ c ∈ ['U', 'S'], c ∈ word.data := by
    decide
  have letters : ∀ c ∈ ['U', 'S'], c.isDigit = false ∧ c ∉ "DateTime64".data ∧
      c ∉ "DateTime64(".data ∧ c ∉ ")".data := by
    decide
  have noLetter : keyword ≠ .time → ∀ word ∈ ["UUID", "UInt16", "UInt8", "UInt32", "UInt64", "String"],
      contains (nullableUnless notNull (keyword.clickhouseType precision)) word = false := by
    intro notTime word mem
    obtain ⟨noOpen, noClose, outside, c, letter, inWord⟩ := plain word mem
    obtain ⟨notDigit, bare, front, back⟩ := letters c letter
    rw [contains_nullableUnless noOpen noClose outside]
    refine contains_eq_false_of_not_mem inWord ?_
    cases keyword
    all_goals cases precision
    all_goals simp only [TemporalKeyword.clickhouseType, String.data_append, List.mem_append, not_or]
    · exact bare
    · exact ⟨⟨front, fun mem => absurd ((digits _ rfl).2 c mem) (by simp [notDigit])⟩, back⟩
    · exact bare
    · exact ⟨⟨front, fun mem => absurd ((digits _ rfl).2 c mem) (by simp [notDigit])⟩, back⟩
    · exact absurd rfl notTime
    · exact absurd rfl notTime
  cases keyword with
  | time =>
      rw [show TemporalKeyword.time.clickhouseType precision = "String" by cases precision <;> rfl]
      cases notNull <;> decide
  | datetime | timestamp =>
      exact ⟨fun word mem => noLetter (by decide) word (List.mem_append_left ["String"] mem),
        noLetter (by decide) "String" (by decide)⟩

/-- A `time[(p)]` column holds Python's `str` of its value, null included; a `datetime[(p)]` or
`timestamp[(p)]` column holds its value as it is. -/
theorem convertValue_temporal (ext : Externals) (mysqlStructure : TableStructure) (idx : Nat)
    (notNull : Bool) (value : PyValue) :
    convertValue ext mysqlStructure idx (keyword.declaration precision)
        (nullableUnless notNull (keyword.clickhouseType precision)) value =
      .ok (if keyword = .time then .str (ext.str value) else value) := by
  obtain ⟨tests, charset, mediumint⟩ := recordTests_temporal keyword precision digits
  obtain ⟨corrected, string⟩ := clickhouseType_temporal_tests keyword precision digits notNull
  have uuid := corrected "UUID" (by decide)
  have u16 := corrected "UInt16" (by decide)
  have u8 := corrected "UInt8" (by decide)
  have u32 := corrected "UInt32" (by decide)
  have u64 := corrected "UInt64" (by decide)
  have time := tests (.startsWith "time") (by decide)
  have json := tests (.equals "json") (by decide)
  have set := tests (.containsWord "set(") (by decide)
  have point := tests (.startsWith "point") (by decide)
  have enum := tests (.startsWith "enum(") (by decide)
  simp only [TypeTest.holds, beq_self_eq_true, Bool.true_and, Bool.false_and] at time json set point enum
  simp only [convertValue, timeStep, jsonStep, nonNullSteps, uuidStep, unsignedCorrections,
    unsignedCorrection, charsetStep, setStep, pointStep, enumStep, uuid, u16, u8, u32, u64,
    string, time, json, set, point, enum, charset, mediumint, Bool.false_and, Bool.and_false,
    Bool.false_eq_true, if_false, pure_eq_ok, ok_bind, bind_ok]
  cases keyword <;> cases value <;> rfl

end TemporalValues

/-- In a converted row, a date-and-time column with the ClickHouse type the mapper gives it holds
Python's `str` of its value when it is a `time` column, null included, and its value as it is
otherwise. -/
theorem convertRecord_temporal (ext : Externals) (keyword : TemporalKeyword)
    (precision : Option String) (digits : ∀ p ∈ precision, IsDisplayWidth p) (notNull : Bool)
    {mysqlRecord out : List PyValue} {mysqlFieldTypes clickhouseFieldTypes : List String}
    {mysqlStructure : TableStructure} {onlyPrimary : Bool} {idx : Nat} {value : PyValue}
    (ok : convertRecord ext mysqlRecord mysqlFieldTypes clickhouseFieldTypes mysqlStructure
      onlyPrimary = .ok out)
    (selected : onlyPrimary = false ∨ idx ∈ mysqlStructure.primaryKeyIds)
    (valueAt : mysqlRecord[idx]? = some value)
    (mysqlAt : mysqlFieldTypes[idx]? = some (keyword.declaration precision))
    (clickhouseAt : clickhouseFieldTypes[idx]? =
      some (nullableUnless notNull (keyword.clickhouseType precision))) :
    out[idx]? = some (if keyword = .time then .str (ext.str value) else value) := by
  obtain ⟨converted, column, outAt⟩ := convertRecord_getElem? ok valueAt
  rw [convertColumn_converted _ selected mysqlAt clickhouseAt,
    convertValue_temporal keyword precision digits, Except.ok.injEq] at column
  exact column ▸ outAt

theorem convertRecord_temporal_time :
    let ext : Externals := ⟨fun _ => "12:30:00", fun _ => .ok "", fun _ _ => .ok "",
      fun _ => .ok [], fun _ bits => bits, fun _ value => value,
      fun value _ _ => .ok value⟩
    (∀ p ∈ some "3", IsDisplayWidth p) ∧
      convertRecord ext [.int 45000] ["time(3)"] ["Nullable(String)"] {} false =
        .ok [.str "12:30:00"] ∧
      (false = false ∨ 0 ∈ ({} : TableStructure).primaryKeyIds) ∧
      [PyValue.int 45000][0]? = some (.int 45000) ∧
      ["time(3)"][0]? = some (TemporalKeyword.time.declaration (some "3")) ∧
      ["Nullable(String)"][0]? =
        some (nullableUnless false (TemporalKeyword.time.clickhouseType (some "3"))) ∧
      [PyValue.str "12:30:00"][0]? =
        some (if TemporalKeyword.time = .time then .str (ext.str (.int 45000)) else .int 45000) := by
  intro ext
  have digits : ∀ p ∈ some "3", IsDisplayWidth p := by
    rintro p ⟨⟩
    exact ⟨by decide, by decide⟩
  exact ⟨digits, rfl, .inl rfl, rfl, rfl, rfl,
    @convertRecord_temporal ext .time (some "3") digits false [.int 45000] [.str "12:30:00"]
      ["time(3)"] ["Nullable(String)"] {} false 0 (.int 45000) rfl (.inl rfl) rfl rfl rfl⟩

/-! ## Overrides -/

/-- `types_mapping` is read with the lower-cased declaration, so an entry whose key is not
lower-case never matches. -/
theorem lookup_lower_filter (mysqlType : String) :
    ∀ mapping : List (String × String), mapping.lookup (lower mysqlType) =
      (mapping.filter fun entry => lower entry.1 == entry.1).lookup (lower mysqlType)
  | [] => rfl
  | (key, value) :: rest => by
      by_cases lowerKey : lower key = key
      · rw [List.filter_cons_of_pos (by simpa using lowerKey), List.lookup_cons, List.lookup_cons,
          lookup_lower_filter mysqlType rest]
      · have differs : (lower mysqlType == key) = false := by
          rw [beq_eq_false_iff_ne]
          rintro same
          exact lowerKey (same ▸ lower_lower mysqlType)
        rw [List.filter_cons_of_neg (by simpa using lowerKey), List.lookup_cons, differs,
          lookup_lower_filter mysqlType rest]

/-- Only the `types_mapping` entries with a lower-case key are ever used: without the others,
`convert_field_type` gives the same result on every declaration and parameters. -/
theorem convertFieldType_typesMapping (converter other : MysqlToClickhouseConverter)
    (lowerKeys : other.typesMapping =
      converter.typesMapping.filter fun entry => lower entry.1 == entry.1)
    (mysqlType parameters : String) :
    convertFieldType other mysqlType parameters = convertFieldType converter mysqlType parameters := by
  simp only [convertFieldType, convertType, lowerKeys, ← lookup_lower_filter]

theorem convertFieldType_typesMapping_upper :
    let converter : MysqlToClickhouseConverter :=
      ⟨some ⟨{ typesMapping := [("CHAR(36)", "UUID")]
               isDatabaseMatches := fun _ => true
               isTableMatches := fun _ => true }, "db", "db"⟩⟩
    (MysqlToClickhouseConverter.mk none).typesMapping =
        converter.typesMapping.filter (fun entry => lower entry.1 == entry.1) ∧
      convertFieldType ⟨none⟩ "CHAR(36)" "" = convertFieldType converter "CHAR(36)" "" :=
  by
  intro converter
  exact ⟨rfl, convertFieldType_typesMapping converter ⟨none⟩ rfl "CHAR(36)" ""⟩

end MysqlChReplicator.Converter

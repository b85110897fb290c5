import MysqlChReplicator.Converter.ConvertType
import Mathlib.Algebra.Order.Ring.Int

/-!
# NUMERIC declarations

The `numeric` branch of `convert_type`. Without parentheses the declaration takes precision 10
and scale 0; with them, the pattern `numeric\((\d+)\s*,\s*(\d+)\)` must match somewhere, so
`numeric(M)`, and whitespace after `(` or before `)`, raise. A scale of 0 picks the narrowest of
the 32- and 64-bit integer types for the precision, and each one holds every integer of that
many digits.
-/

namespace MysqlChReplicator.Converter

open Python

/-- The least and the greatest value of a ClickHouse integer type. -/
def integerRange : String → Option (Int × Int)
  | "Int8" => some (-2 ^ 7, 2 ^ 7 - 1)
  | "Int16" => some (-2 ^ 15, 2 ^ 15 - 1)
  | "Int32" => some (-2 ^ 31, 2 ^ 31 - 1)
  | "Int64" => some (-2 ^ 63, 2 ^ 63 - 1)
  | "UInt8" => some (0, 2 ^ 8 - 1)
  | "UInt16" => some (0, 2 ^ 16 - 1)
  | "UInt32" => some (0, 2 ^ 32 - 1)
  | "UInt64" => some (0, 2 ^ 64 - 1)
  | _ => none

/-- A ClickHouse integer type holds every integer of at most `precision` digits: every
non-negative one when unsigned, every one of either sign otherwise. -/
def HoldsDigits (clickhouseType : String) (precision : Nat) (isUnsigned : Bool) : Prop :=
  ∃ lo hi, integerRange clickhouseType = some (lo, hi) ∧
    ∀ v : Int, (if isUnsigned then 0 ≤ v else -10 ^ precision < v) → v < 10 ^ precision →
      lo ≤ v ∧ v ≤ hi

/-- The type a `NUMERIC(M, D)` column asks for: an integer type that holds every value when the
scale is 0 and `M ≤ 18`, `Decimal(M, D)` otherwise. -/
def NumericFits (clickhouseType : String) (precision scale : Nat) (isUnsigned : Bool) : Prop :=
  if scale = 0 ∧ precision ≤ 18 then HoldsDigits clickhouseType precision isUnsigned
  else clickhouseType = decimalType precision scale

/-- The parameters of `numeric(M, D)` as the pattern reads them: the digits of `M`, whitespace,
a comma, whitespace, the digits of `D`. -/
structure NumericParameters where
  precision : List Char
  before : List Char
  after : List Char
  scale : List Char
  precision_digits : precision ≠ [] ∧ ∀ c ∈ precision, c.isDigit = true
  before_spaces : ∀ c ∈ before, isSpace c = true
  after_spaces : ∀ c ∈ after, isSpace c = true
  scale_digits : scale ≠ [] ∧ ∀ c ∈ scale, c.isDigit = true

/-- `numeric`, or `numeric(M, D)` with its parameters. -/
def numericDeclaration : Option NumericParameters → String
  | none => "numeric"
  | some p => ⟨"numeric(".data ++ p.precision ++ p.before ++ ',' :: p.after ++ p.scale ++ [')']⟩

/-- The precision a declaration states, 10 by default. -/
def declaredPrecision : Option NumericParameters → Nat
  | none => 10
  | some p => digitsValue p.precision

/-- The scale a declaration states, 0 by default. -/
def declaredScale : Option NumericParameters → Nat
  | none => 0
  | some p => digitsValue p.scale

section Pattern

/-- `\s` and `\d` match no character in common. -/
theorem isDigit_eq_false_of_isSpace {c : Char} (space : isSpace c = true) : c.isDigit = false := by
  have range : c.isDigit = true ↔ 48 ≤ c.toNat ∧ c.toNat ≤ 57 := by
    simp only [Char.isDigit, Char.toNat, Bool.and_eq_true, decide_eq_true_eq]
    rfl
  simp only [isSpace, Bool.or_eq_true, Bool.and_eq_true, decide_eq_true_eq, beq_iff_eq] at space
  rw [← Bool.not_eq_true, range]
  omega

/-- `\s` and `\d` have no character in common. -/
theorem isDecimal_eq_false_of_isSpace {c : Char} (space : isSpace c = true) :
    isDecimal c = false := by
  by_cases ascii : c.toNat < 128
  · rw [isDecimal_of_lt ascii, isDigit_eq_false_of_isSpace space]
  · have spaces : ∀ n ∈ [0x85, 0xA0, 0x1680, 0x2000, 0x2001, 0x2002, 0x2003, 0x2004, 0x2005,
        0x2006, 0x2007, 0x2008, 0x2009, 0x200A, 0x2028, 0x2029, 0x202F, 0x205F, 0x3000],
        decimalTree.find? n = none := by
      decide
    have listed : c.toNat ∈ [0x85, 0xA0, 0x1680, 0x2000, 0x2001, 0x2002, 0x2003, 0x2004, 0x2005,
        0x2006, 0x2007, 0x2008, 0x2009, 0x200A, 0x2028, 0x2029, 0x202F, 0x205F, 0x3000] := by
      simp only [isSpace, Bool.or_eq_true, Bool.and_eq_true, decide_eq_true_eq, beq_iff_eq]
        at space
      simp only [List.mem_cons, List.not_mem_nil, or_false]
      omega
    rw [isDecimal, RangeTree.contains, spaces _ listed]
    rfl

theorem dropWhile_spaces_append {run rest : List Char} {c : Char}
    (spaces : ∀ x ∈ run, isSpace x = true) (visible : isSpace c = false) :
    (run ++ c :: rest).dropWhile isSpace = c :: rest := by
  simp [List.dropWhile_append_of_pos spaces, visible]

/-- The first character of a run of spaces, or the comma after it, is not a digit. -/
theorem span_digits_before_comma {digits spaces rest : List Char}
    (isDigits : ∀ c ∈ digits, c.isDigit = true) (isSpaces : ∀ c ∈ spaces, isSpace c = true) :
    (digits ++ (spaces ++ ',' :: rest)).span isDecimal = (digits, spaces ++ ',' :: rest) := by
  have decimals := fun c mem => isDecimal_of_isDigit (isDigits c mem)
  cases spaces with
  | nil => exact span_append_of_not decimals (by decide)
  | cons s spaces =>
      exact span_append_of_not decimals
        (isDecimal_eq_false_of_isSpace (isSpaces s (List.mem_cons_self s spaces)))

/-- `int()` reads a run of ASCII digits as their decimal value. -/
theorem intOfDecimals_of_isDigit {digits : List Char} (allDigits : ∀ c ∈ digits, c.isDigit = true) :
    intOfDecimals digits = digitsValue digits :=
  List.foldl_ext _ _ 0 fun value c mem => by rw [decimalValue_of_isDigit (allDigits c mem)]; rfl

theorem matchNumericParameters_declaration (p : NumericParameters) :
    matchNumericParameters (numericDeclaration (some p)).data =
      some (digitsValue p.precision, digitsValue p.scale) := by
  obtain ⟨precision, before, after, scale, ⟨precisionNonempty, precisionDigits⟩, beforeSpaces,
    afterSpaces, ⟨scaleNonempty, scaleDigits⟩⟩ := p
  have afterComma : (after ++ (scale ++ [')'])).dropWhile isSpace = scale ++ [')'] := by
    cases scale with
    | nil => exact absurd rfl scaleNonempty
    | cons d scale =>
        have visible : isSpace d = false := eq_false_of_ne_true fun space => by
          simpa [isDigit_eq_false_of_isSpace space] using scaleDigits d (List.mem_cons_self d scale)
        exact dropWhile_spaces_append afterSpaces visible
  have prefixed : (numericDeclaration (some ⟨precision, before, after, scale,
      ⟨precisionNonempty, precisionDigits⟩, beforeSpaces, afterSpaces,
      ⟨scaleNonempty, scaleDigits⟩⟩)).data =
      "numeric(".data ++ (precision ++ (before ++ ',' :: (after ++ (scale ++ [')'])))) := by
    simp [numericDeclaration]
  rw [matchNumericParameters, prefixed, List.dropPrefix?_append_of_beq _ (beq_self_eq_true _)]
  simp [-List.span_eq_take_drop, List.dropPrefix?, span_digits_before_comma precisionDigits beforeSpaces,
    precisionNonempty,
    dropWhile_spaces_append beforeSpaces (rfl : isSpace ',' = false), afterComma,
    span_append_of_not (fun c mem => isDecimal_of_isDigit (scaleDigits c mem))
      (by decide : isDecimal ')' = false), scaleNonempty, intOfDecimals_of_isDigit precisionDigits,
    intOfDecimals_of_isDigit scaleDigits]

/-- `re.search` finds a match at the start of the text. -/
theorem searchNumericParameters_of_match {s : List Char} {found : Nat × Nat}
    (atStart : matchNumericParameters s = some found) : searchNumericParameters s = some found := by
  cases s with
  | nil => simp [matchNumericParameters, List.dropPrefix?] at atStart
  | cons c cs => simp [searchNumericParameters, atStart, Option.orElse]

end Pattern

/-- A declaration that starts with `numeric` passes the `point` rule and takes the `numeric`
one. -/
theorem builtinType_numeric {mysqlType : String} (numeric : startswith mysqlType "numeric" = true)
    (isUnsigned : Bool) : builtinType mysqlType isUnsigned = convertNumeric mysqlType isUnsigned := by
  have notPoint : (mysqlType == "point") = false := by
    rw [beq_eq_false_iff_ne]
    rintro rfl
    exact absurd numeric (by decide)
  simp [builtinType, typeRules, TypeTest.holds, notPoint, numeric, TypeResult.apply]

theorem startswith_numericDeclaration (declared : Option NumericParameters) :
    startswith (numericDeclaration declared) "numeric" = true := by
  cases declared with
  | none => decide
  | some p => simp [numericDeclaration]

theorem convertNumeric_declaration (declared : Option NumericParameters) (isUnsigned : Bool) :
    convertNumeric (numericDeclaration declared) isUnsigned =
      if declaredScale declared = 0 then
        if declaredPrecision declared ≤ 9 then .ok (integerType isUnsigned "UInt32" "Int32")
        else if declaredPrecision declared ≤ 18 then .ok (integerType isUnsigned "UInt64" "Int64")
        else .ok (decimalType (declaredPrecision declared) (declaredScale declared))
      else .ok (decimalType (declaredPrecision declared) (declaredScale declared)) := by
  cases declared with
  | none => rfl
  | some p =>
      have parenthesised : (contains (numericDeclaration (some p)) "(" &&
          contains (numericDeclaration (some p)) ")") = true := by
        simp only [Bool.and_eq_true, contains_iff]
        exact ⟨⟨"numeric".data, p.precision ++ p.before ++ ',' :: p.after ++ p.scale ++ [')'], rfl⟩,
          (List.suffix_append _ _).isInfix⟩
      simp only [convertNumeric, parenthesised, if_true,
        searchNumericParameters_of_match (matchNumericParameters_declaration p)]
      rfl

section Ranges

theorem holdsDigits_thirtyTwo {precision : Nat} (narrow : precision ≤ 9) (isUnsigned : Bool) :
    HoldsDigits (integerType isUnsigned "UInt32" "Int32") precision isUnsigned := by
  have bound : (10 : Int) ^ precision ≤ 10 ^ 9 := pow_le_pow_right₀ (by decide) narrow
  cases isUnsigned
  · exact ⟨_, _, rfl, fun v above below => by simp at above; constructor <;> omega⟩
  · exact ⟨_, _, rfl, fun v above below => by simp at above; constructor <;> omega⟩

theorem holdsDigits_sixtyFour {precision : Nat} (narrow : precision ≤ 18) (isUnsigned : Bool) :
    HoldsDigits (integerType isUnsigned "UInt64" "Int64") precision isUnsigned := by
  have bound : (10 : Int) ^ precision ≤ 10 ^ 18 := pow_le_pow_right₀ (by decide) narrow
  cases isUnsigned
  · exact ⟨_, _, rfl, fun v above below => by simp at above; constructor <;> omega⟩
  · exact ⟨_, _, rfl, fun v above below => by simp at above; constructor <;> omega⟩

end Ranges

/-- `numeric` and every `numeric(M, D)` with whitespace only around the comma convert, to an
integer type that holds every value of the column when the scale is 0 and `M ≤ 18`, and to
`Decimal(M, D)` otherwise. -/
theorem convertType_numeric (converter : MysqlToClickhouseConverter) (parameters : String)
    (declared : Option NumericParameters)
    (noOverride : converter.typesMapping.lookup (numericDeclaration declared) = none) :
    ∃ clickhouseType,
      convertType converter (numericDeclaration declared) parameters = .ok clickhouseType ∧
      NumericFits clickhouseType (declaredPrecision declared) (declaredScale declared)
        (contains (lower parameters) "unsigned") := by
  rw [convertType, noOverride, builtinType_numeric (startswith_numericDeclaration declared),
    convertNumeric_declaration]
  by_cases scale : declaredScale declared = 0
  · by_cases narrow : declaredPrecision declared ≤ 9
    · exact ⟨_, by rw [if_pos scale, if_pos narrow],
        by rw [NumericFits, if_pos ⟨scale, by omega⟩]; exact holdsDigits_thirtyTwo narrow _⟩
    · by_cases wide : declaredPrecision declared ≤ 18
      · exact ⟨_, by rw [if_pos scale, if_neg narrow, if_pos wide],
          by rw [NumericFits, if_pos ⟨scale, wide⟩]; exact holdsDigits_sixtyFour wide _⟩
      · exact ⟨_, by rw [if_pos scale, if_neg narrow, if_neg wide],
          by rw [NumericFits, if_neg fun fits => wide fits.2]⟩
  · exact ⟨_, by rw [if_neg scale], by rw [NumericFits, if_neg fun fits => scale fits.1]⟩

theorem convertType_numeric_five_two :
    let declared : Option NumericParameters := some ⟨"5".data, [], [' '], "2".data,
      ⟨by decide, by decide⟩, by decide, by decide, ⟨by decide, by decide⟩⟩
    ({} : MysqlToClickhouseConverter).typesMapping.lookup (numericDeclaration declared) = none ∧
      ∃ clickhouseType, convertType {} (numericDeclaration declared) "" = .ok clickhouseType ∧
        NumericFits clickhouseType (declaredPrecision declared) (declaredScale declared)
          (contains (lower "") "unsigned") :=
  ⟨rfl, convertType_numeric {} "" _ rfl⟩

/-- `numeric(M)`, and whitespace just inside the parentheses, miss the pattern and raise. -/
theorem convertType_numeric_unmatched :
    convertType {} "numeric(5)" "" =
        .error (.valueError "Invalid numeric type definition: numeric(5)") ∧
      convertType {} "numeric( 5,2)" "" =
        .error (.valueError "Invalid numeric type definition: numeric( 5,2)") ∧
      convertType {} "numeric(5,2 )" "" =
        .error (.valueError "Invalid numeric type definition: numeric(5,2 )") :=
  ⟨rfl, rfl, rfl⟩

end MysqlChReplicator.Converter

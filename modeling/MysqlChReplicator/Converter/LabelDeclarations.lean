import MysqlChReplicator.Converter.ConvertType

/-!
# SET and ENUM declarations

A `set('l1',...,'ln')` or `enum('l1',...,'ln')` declaration meets the substring rules of
`convert_type` before its own rule, so a label holding one of their words can decide its type.
When no label holds a word of a rule that gives another type, a SET column maps to `String`,
and an ENUM column to the `Enum8`/`Enum16` type of its labels, which the parser reads back.
-/

namespace MysqlChReplicator.Converter

open Python

/-- `keyword('l1',...,'ln')`: a declaration with quoted labels. -/
def labelDeclaration (keyword : String) (labels : List String) : String :=
  keyword ++ "('" ++ join "','" labels ++ "')"

/-- The quoted labels and the closing parenthesis, after the opening one. -/
def quotedLabels (labels : List String) : List Char :=
  '\'' :: (['\'', ',', '\''].intercalate (labels.map String.data) ++ ['\'', ')'])

theorem data_labelDeclaration (keyword : String) (labels : List String) :
    (labelDeclaration keyword labels).data = (keyword ++ "(").data ++ quotedLabels labels := by
  simp [labelDeclaration, quotedLabels, join]

theorem quotedLabels_cons_cons (label next : String) (labels : List String) :
    quotedLabels (label :: next :: labels) =
      '\'' :: (label.data ++ '\'' :: ',' :: quotedLabels (next :: labels)) := by
  simp [quotedLabels, List.intercalate]

/-! ## The rules that see the labels -/

/-- A word with no quote in the quoted labels lies in a label or is the comma. -/
theorem infix_intercalate_of_quote_free {word : List Char} (avoids : '\'' ∉ word) :
    ∀ {parts : List (List Char)}, word <:+: ['\'', ',', '\''].intercalate parts →
      (∃ part ∈ parts, word <:+: part) ∨ word <:+: [',']
  | [], h => .inr (by simp [List.eq_nil_of_infix_nil (by simpa [List.intercalate] using h)])
  | [part], h => .inl ⟨part, List.mem_singleton_self part, by simpa [List.intercalate] using h⟩
  | part :: next :: parts, h => by
      have split : word <:+: part ++ '\'' :: ([','] ++ '\'' ::
          ['\'', ',', '\''].intercalate (next :: parts)) := by
        simpa [List.intercalate] using h
      rcases infix_append_cons avoids split with inPart | rest
      · exact .inl ⟨part, List.mem_cons_self part _, inPart⟩
      rcases infix_append_cons avoids rest with comma | later
      · exact .inr comma
      rcases infix_intercalate_of_quote_free avoids later with ⟨other, mem, inOther⟩ | comma
      · exact .inl ⟨other, List.mem_cons_of_mem part mem, inOther⟩
      · exact .inr comma

/-- A word that cannot occur across the quotes of a label declaration: it has no quote and is
neither in `,` nor in `)`. -/
def OutsideQuotes (word : String) : Bool :=
  decide ('\'' ∉ word.data) && !contains "," word && !contains ")" word

/-- The words a test looks for. -/
def TypeTest.words : TypeTest → List String
  | .equals _ | .startsWith _ => []
  | .containsWord word => [word]
  | .containsEither first second => [first, second]

/-- The tests that the keyword of a label declaration decides when no label holds their words. -/
def TypeTest.DecidedByKeyword : TypeTest → Bool
  | .equals text | .startsWith text => decide ('\'' ∉ text.data)
  | .containsWord word => OutsideQuotes word
  | .containsEither first second => OutsideQuotes first && OutsideQuotes second

/-- The value of a test on `keyword(...)` when no label holds its words. -/
def TypeTest.onKeyword (keyword : String) : TypeTest → Bool
  | .equals _ => false
  | .startsWith pre => startswith (keyword ++ "(") pre
  | .containsWord word => contains (keyword ++ "(") word
  | .containsEither first second =>
      contains (keyword ++ "(") first || contains (keyword ++ "(") second

section Labels

variable {keyword : String} {labels : List String}

theorem contains_labelDeclaration {word : String} (outside : OutsideQuotes word = true)
    (unheld : ∀ label ∈ labels, contains label word = false) :
    contains (labelDeclaration keyword labels) word = contains (keyword ++ "(") word := by
  simp only [OutsideQuotes, Bool.and_eq_true, Bool.not_eq_true', decide_eq_true_eq] at outside
  obtain ⟨⟨avoids, noComma⟩, noParen⟩ := outside
  refine Bool.eq_iff_iff.mpr ⟨fun inside => ?_, fun inside => ?_⟩
  · rw [contains_iff, data_labelDeclaration, quotedLabels] at inside
    rcases infix_append_cons avoids inside with inKeyword | inLabels
    · exact (contains_iff _ _).mpr inKeyword
    rcases infix_append_cons avoids (show word.data <:+: _ ++ '\'' :: [')'] by simpa using inLabels)
      with inLabels | inParen
    · rcases infix_intercalate_of_quote_free avoids inLabels with ⟨part, mem, inPart⟩ | inComma
      · obtain ⟨label, memLabel, rfl⟩ := List.mem_map.mp mem
        exact absurd ((contains_iff _ _).mpr inPart) (by simp [unheld label memLabel])
      · exact absurd ((contains_iff _ _).mpr inComma) (by simp [noComma])
    · exact absurd ((contains_iff _ _).mpr inParen) (by simp [noParen])
  · rw [contains_iff] at inside
    rw [contains_iff, data_labelDeclaration]
    exact inside.trans (List.prefix_append _ _).isInfix

theorem holds_labelDeclaration {test : TypeTest} (decided : test.DecidedByKeyword = true)
    (unheld : ∀ label ∈ labels, ∀ word ∈ test.words, contains label word = false) :
    test.holds (labelDeclaration keyword labels) = test.onKeyword keyword := by
  cases test with
  | equals name =>
      have quoted : '\'' ∈ (labelDeclaration keyword labels).data := by
        simp [data_labelDeclaration, quotedLabels]
      simp only [TypeTest.DecidedByKeyword, decide_eq_true_eq] at decided
      simp only [TypeTest.holds, TypeTest.onKeyword, beq_eq_false_iff_ne]
      rintro rfl
      exact decided quoted
  | startsWith pre =>
      simp only [TypeTest.DecidedByKeyword, decide_eq_true_eq] at decided
      refine Bool.eq_iff_iff.mpr ⟨fun inside => ?_, fun inside => ?_⟩
      · simp only [TypeTest.holds, startswith_iff, data_labelDeclaration, quotedLabels] at inside
        exact (startswith_iff _ _).mpr (prefix_of_prefix_append_cons decided inside)
      · simp only [TypeTest.onKeyword, startswith_iff] at inside
        simp only [TypeTest.holds, startswith_iff, data_labelDeclaration]
        exact inside.trans (List.prefix_append _ _)
  | containsWord word =>
      exact contains_labelDeclaration decided fun label mem => unheld label mem word (by simp [TypeTest.words])
  | containsEither first second =>
      simp only [TypeTest.DecidedByKeyword, Bool.and_eq_true] at decided
      simp only [TypeTest.holds, TypeTest.onKeyword,
        contains_labelDeclaration decided.1 fun label mem => unheld label mem first (by simp [TypeTest.words]),
        contains_labelDeclaration decided.2 fun label mem => unheld label mem second (by simp [TypeTest.words])]

end Labels

/-- The words of the rules before the `set(` rule that give a type other than `String`. -/
def setShadowingWords : List String :=
  ["smallint", "tinyint", "mediumint", "datetime", "decimal", "float", "double", "bigint",
    "integer", "int(", "real"]

/-- The words of the rules before the `enum` rule. -/
def enumShadowingWords : List String :=
  ["smallint", "tinyint", "mediumint", "datetime", "longtext", "varchar"]

theorem builtinType_setDeclaration (labels : List String) (isUnsigned : Bool)
    (unheld : ∀ label ∈ labels, ∀ word ∈ setShadowingWords, contains label word = false) :
    builtinType (labelDeclaration "set" labels) isUnsigned = .ok "String" := by
  have classified : ∀ rule ∈ typeRules, rule.2 = .fixed "String" ∨
      (rule.1.DecidedByKeyword = true ∧ rule.1.onKeyword "set" = false ∧
        ∀ word ∈ rule.1.words, word ∈ setShadowingWords) := by
    decide
  have setRule : (TypeTest.containsWord "set(", TypeResult.fixed "String") ∈ typeRules := by decide
  have setHolds : (TypeTest.containsWord "set(").holds (labelDeclaration "set" labels) = true := by
    rw [TypeTest.holds, contains_iff, data_labelDeclaration]
    exact (List.prefix_append _ _).isInfix
  cases found : typeRules.find? (·.1.holds (labelDeclaration "set" labels)) with
  | none => exact absurd setHolds (List.find?_eq_none.mp found _ setRule)
  | some rule =>
      rcases classified rule (List.mem_of_find?_eq_some found) with string | ⟨decided, off, words⟩
      · obtain ⟨test, result⟩ := rule
        subst string
        rw [builtinType, found]
        rfl
      · have holds := List.find?_some found
        rw [holds_labelDeclaration decided fun label mem word inWords =>
          unheld label mem word (words word inWords), off] at holds
        cases holds

theorem builtinType_enumDeclaration (labels : List String) (isUnsigned : Bool)
    (unheld : ∀ label ∈ labels, ∀ word ∈ enumShadowingWords, contains label word = false) :
    builtinType (labelDeclaration "enum" labels) isUnsigned =
      (parseMysqlEnum (labelDeclaration "enum" labels)).map enumType := by
  have split : typeRules = typeRules.take 18 ++ (.startsWith "enum", .enum) :: typeRules.drop 19 := by
    decide
  have earlier : ∀ rule ∈ typeRules.take 18, rule.1.DecidedByKeyword = true ∧
      rule.1.onKeyword "enum" = false ∧ ∀ word ∈ rule.1.words, word ∈ enumShadowingWords := by
    decide
  have skipped : (typeRules.take 18).find? (·.1.holds (labelDeclaration "enum" labels)) = none := by
    refine List.find?_eq_none.mpr fun rule mem => ?_
    obtain ⟨decided, off, words⟩ := earlier rule mem
    rw [holds_labelDeclaration decided fun label mem word inWords =>
      unheld label mem word (words word inWords), off]
    decide
  have enumHolds : (TypeTest.startsWith "enum").holds (labelDeclaration "enum" labels) = true := by
    rw [TypeTest.holds, startswith_iff, data_labelDeclaration]
    exact (List.prefix_append _ ['(']).trans (List.prefix_append _ _)
  rw [builtinType, split, List.find?_append, skipped, Option.none_or]
  simp only [List.find?_cons, enumHolds]
  rfl

/-! ## Reading the labels back -/

theorem readLabel_quote_free {label after : List Char} (avoids : '\'' ∉ label)
    (closed : after.head? ≠ some '\'') :
    readLabel '\'' (label ++ '\'' :: after) = some (label, after) := by
  induction label with
  | nil =>
      cases after with
      | nil => rfl
      | cons d tail =>
          have notQuote : d ≠ '\'' := fun same => closed (by simp [same])
          simp [readLabel, notQuote]
  | cons c label ih =>
      have notQuote : c ≠ '\'' := fun same => avoids (by simp [same])
      rw [List.cons_append, readLabel.eq_def]
      simp only [if_neg notQuote, ih fun mem => avoids (List.mem_cons_of_mem c mem)]
      rfl

theorem length_le_quotedLabels : ∀ labels : List String, labels.length ≤ (quotedLabels labels).length
  | [] => by simp [quotedLabels]
  | [label] => by simp [quotedLabels, List.intercalate]
  | label :: next :: labels => by
      have ih := length_le_quotedLabels (next :: labels)
      rw [quotedLabels_cons_cons]
      simp only [List.length_cons, List.length_append] at ih ⊢
      omega

theorem readLabels_quotedLabels :
    ∀ {labels : List String}, labels ≠ [] → (∀ label ∈ labels, '\'' ∉ label.data) →
      ∀ {fuel : Nat}, labels.length ≤ fuel → readLabels fuel (quotedLabels labels) = some labels
  | [], nonempty, _, _, _ => absurd rfl nonempty
  | [label], _, avoid, fuel + 1, _ => by
      have read := @readLabel_quote_free label.data [')'] (avoid label (List.mem_singleton_self _))
        (by decide)
      simp [readLabels, quotedLabels, List.intercalate, read, isSpace]
  | label :: next :: labels, _, avoid, fuel + 1, enough => by
      have read := @readLabel_quote_free label.data (',' :: quotedLabels (next :: labels))
        (avoid label (List.mem_cons_self _ _)) (by simp)
      have rest := readLabels_quotedLabels (List.cons_ne_nil next labels)
        (fun other mem => avoid other (List.mem_cons_of_mem label mem))
        (show (next :: labels).length ≤ fuel by simp at enough ⊢; omega)
      rw [quotedLabels_cons_cons]
      simp [readLabels, read, rest, isSpace]

/-- The parser reads back the labels of a declaration whose labels have no quote. -/
theorem parseMysqlEnum_labelDeclaration {labels : List String} (nonempty : labels ≠ [])
    (avoid : ∀ label ∈ labels, '\'' ∉ label.data) :
    parseMysqlEnum (labelDeclaration "enum" labels) = .ok labels := by
  have data : (labelDeclaration "enum" labels).data = 'e' :: 'n' :: 'u' :: 'm' :: '(' ::
      quotedLabels labels := by
    rw [data_labelDeclaration]
    rfl
  have ends : (labelDeclaration "enum" labels).data = 'e' :: (['n', 'u', 'm', '(', '\''] ++
      (['\'', ',', '\''].intercalate (labels.map String.data) ++ ['\'']) ++ [')']) := by
    simp [data, quotedLabels]
  have stripped : strip (labelDeclaration "enum" labels) = labelDeclaration "enum" labels :=
    strip_of_visible_ends ends rfl rfl
  simp only [parseMysqlEnum, stripped, data]
  simp [isSpace, readLabels_quotedLabels nonempty avoid (length_le_quotedLabels labels)]

/-! ## The type of a SET or ENUM column -/

theorem enumType_prefix (labels : List String) :
    (startswith (enumType labels) "Enum8(" || startswith (enumType labels) "Enum16(") = true := by
  unfold enumType
  split <;> simp

/-- With no `types_mapping` entry, a SET declaration maps to `String` and an ENUM declaration to
the enum type of its labels, unless a label holds the word of a rule that comes first. -/
theorem convertType_labelDeclaration (converter : MysqlToClickhouseConverter) (parameters : String)
    (labels : List String) (nonempty : labels ≠ [])
    (quoteFree : ∀ label ∈ labels, '\'' ∉ label.data) :
    (converter.typesMapping.lookup (labelDeclaration "set" labels) = none →
      (∀ label ∈ labels, ∀ word ∈ setShadowingWords, contains label word = false) →
      convertType converter (labelDeclaration "set" labels) parameters = .ok "String") ∧
    (converter.typesMapping.lookup (labelDeclaration "enum" labels) = none →
      (∀ label ∈ labels, ∀ word ∈ enumShadowingWords, contains label word = false) →
      convertType converter (labelDeclaration "enum" labels) parameters = .ok (enumType labels) ∧
        (startswith (enumType labels) "Enum8(" || startswith (enumType labels) "Enum16(") = true) := by
  refine ⟨fun noOverride unheld => ?_, fun noOverride unheld => ⟨?_, enumType_prefix labels⟩⟩
  · simp only [convertType, noOverride]
    exact builtinType_setDeclaration labels _ unheld
  · simp only [convertType, noOverride, builtinType_enumDeclaration labels _ unheld,
      parseMysqlEnum_labelDeclaration nonempty quoteFree, ok_map]

theorem convertType_labelDeclaration_colours :
    convertType {} (labelDeclaration "set" ["red", "green", "black"]) "" = .ok "String" ∧
      convertType {} (labelDeclaration "enum" ["red", "green", "black"]) "" =
        .ok (enumType ["red", "green", "black"]) :=
  have both := convertType_labelDeclaration {} "" ["red", "green", "black"] (by decide) (by decide)
  ⟨both.1 rfl (by decide), (both.2 rfl (by decide)).1⟩

/-- A label holding the word of an earlier rule decides the type. -/
theorem convertType_label_keyword :
    convertType {} (labelDeclaration "enum" ["smallint"]) "" = .ok "Int16" ∧
      convertType {} (labelDeclaration "set" ["float"]) "" = .ok "Float32" :=
  ⟨rfl, rfl⟩

end MysqlChReplicator.Converter

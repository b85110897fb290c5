import MysqlChReplicator.Converter.ConvertType

/-!
# Parameter text

`convert_field_type` reads a column's parameter text only through two tests on its lower-cased
form: whether it contains `unsigned`, and whether it contains `not null`. A string literal in a
`COMMENT` or `DEFAULT` clause changes the type exactly when it changes one of these tests.
-/

namespace MysqlChReplicator.Converter

open Python

/-- The type depends on the parameter text only through the `unsigned` and `not null` tests. -/
theorem convertFieldType_congr (converter : MysqlToClickhouseConverter) (mysqlType : String)
    {parameters other : String}
    (sameUnsigned : contains (lower parameters) "unsigned" = contains (lower other) "unsigned")
    (sameNotNull : contains (lower parameters) "not null" = contains (lower other) "not null") :
    convertFieldType converter mysqlType parameters = convertFieldType converter mysqlType other := by
  simp only [convertFieldType, convertType, lower_lower, sameUnsigned, sameNotNull]

/-- A word with no quote that cannot run from before a clause into it lies, in
`p ++ clause ++ q ++ "'"` with `clause` closed by a quote, in `p` or in `q`. -/
theorem infix_literal {word front p q : List Char} (avoids : '\'' ∉ word) (nonempty : word ≠ [])
    (seam : ∀ k < word.length, 0 < k → ¬ word.drop k <+: front) (outside : ¬ word <:+: front) :
    word <:+: p ++ (front ++ '\'' :: (q ++ ['\''])) ↔ word <:+: p ∨ word <:+: q := by
  constructor
  · intro h
    rcases infix_append_cons avoids (show word <:+: (p ++ front) ++ '\'' :: (q ++ ['\'']) by
        simpa using h) with before | after
    · exact .inl ((infix_append_of_seam seam before).resolve_right outside)
    · rcases infix_append_cons avoids (show word <:+: q ++ '\'' :: [] by simpa using after)
        with inLiteral | inNothing
      · exact .inr inLiteral
      · exact absurd (List.eq_nil_of_infix_nil inNothing) nonempty
  · rintro (inParameters | inLiteral)
    · exact inParameters.trans (List.prefix_append _ _).isInfix
    · exact inLiteral.trans (by simpa using List.infix_append' (p ++ front ++ ['\'']) q ['\''])

/-- The clauses that open a string literal in the parameter text. -/
def literalClauses : List String := [" COMMENT '", " DEFAULT '"]

/-- The words `convert_field_type` looks for in the parameter text. -/
def parameterWords : List String := ["unsigned", "not null"]

theorem contains_lower_literal (parameters literal word : String) {clause : String}
    (isWord : word ∈ parameterWords) (isClause : clause ∈ literalClauses) :
    contains (lower (parameters ++ clause ++ literal ++ "'")) word =
      (contains (lower parameters) word || contains (lower literal) word) := by
  have separated : ∀ word ∈ parameterWords, ∀ clause ∈ literalClauses,
      let front := (clause.data.flatMap lowerChar).dropLast
      clause.data.flatMap lowerChar = front ++ ['\''] ∧ ('σ' ∉ word.data ∧ 'ς' ∉ word.data) ∧
        '\'' ∉ word.data ∧ word.data ≠ [] ∧
        (∀ k < word.data.length, 0 < k → ¬ word.data.drop k <+: front) ∧ ¬ word.data <:+: front := by
    decide
  obtain ⟨closes, noSigma, avoids, nonempty, seam, outside⟩ :=
    separated word isWord clause isClause
  rw [Bool.eq_iff_iff, Bool.or_eq_true, contains_iff, contains_iff, contains_iff,
    infix_lower_iff noSigma, infix_lower_iff noSigma, infix_lower_iff noSigma,
    String.data_append, String.data_append, String.data_append, List.flatMap_append,
    List.flatMap_append, List.flatMap_append, closes, ← infix_literal avoids nonempty seam outside]
  simp [show lowerChar '\'' = ['\''] by decide]

/-- Two literals that agree on containing `unsigned` and `not null` give the same type. -/
theorem convertFieldType_literal (converter : MysqlToClickhouseConverter)
    (mysqlType parameters first second : String) {clause : String}
    (isClause : clause ∈ literalClauses)
    (sameUnsigned : contains (lower first) "unsigned" = contains (lower second) "unsigned")
    (sameNotNull : contains (lower first) "not null" = contains (lower second) "not null") :
    convertFieldType converter mysqlType (parameters ++ clause ++ first ++ "'") =
      convertFieldType converter mysqlType (parameters ++ clause ++ second ++ "'") := by
  apply convertFieldType_congr
  · rw [contains_lower_literal _ _ "unsigned" (by decide) isClause,
      contains_lower_literal _ _ "unsigned" (by decide) isClause, sameUnsigned]
  · rw [contains_lower_literal _ _ "not null" (by decide) isClause,
      contains_lower_literal _ _ "not null" (by decide) isClause, sameNotNull]

theorem convertFieldType_literal_comment :
    (" COMMENT '" ∈ literalClauses ∧
      contains (lower "a") "unsigned" = contains (lower "b") "unsigned" ∧
      contains (lower "a") "not null" = contains (lower "b") "not null") ∧
    convertFieldType {} "int" ("" ++ " COMMENT '" ++ "a" ++ "'") =
      convertFieldType {} "int" ("" ++ " COMMENT '" ++ "b" ++ "'") :=
  ⟨by decide, convertFieldType_literal {} "int" "" "a" "b" (by decide) (by decide) (by decide)⟩

/-- The word `unsigned` in a comment makes an `int` column unsigned. -/
theorem convertFieldType_comment_unsigned :
    convertFieldType {} "int" ("" ++ " COMMENT '" ++ "unsigned" ++ "'") = .ok "Nullable(UInt32)" ∧
      convertFieldType {} "int" ("" ++ " COMMENT '" ++ "" ++ "'") = .ok "Nullable(Int32)" :=
  ⟨rfl, rfl⟩

end MysqlChReplicator.Converter

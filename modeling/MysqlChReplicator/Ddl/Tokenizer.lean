import MysqlChReplicator.Ddl.Statement
import MysqlChReplicator.Python.Words

/-!
# The column-definition tokenizer

`_tokenize_alter_query` cuts a column definition with the regex

    `[^`]+`(?:\([^)]*\))? | \w+(?:\([^)]*\))? | '(?:\\'|[^'])*' | "(?:\\"|[^"])*" | [^\s]+

whose alternatives are tried in order at each position, each with Python's backtracking;
`findall` goes on from the end of each match and skips a position where none matches. Then
the tokens after the column name are merged into the type until a constraint keyword. Since
the last alternative matches at every visible character, `findall` skips only whitespace:
the line is its tokens put back together, and no visible character is lost.
-/

namespace MysqlChReplicator.Ddl

open Python

/-- `\w`: the characters `str.isalnum` accepts, and `_`. -/
def isWordChar (c : Char) : Bool := wordTree.contains c.toNat

/-- `(?:\([^)]*\))?`: the parenthesised arguments right after a token, when a `)` closes them;
the match and what follows it. -/
def optionalArguments : List Char → List Char × List Char
  | '(' :: rest =>
      match rest.span (· != ')') with
      | (arguments, ')' :: after) => ('(' :: arguments ++ [')'], after)
      | _ => ([], '(' :: rest)
  | rest => ([], rest)

/-- `` `[^`]+` `` followed by optional arguments. -/
def matchBackquoted : List Char → Option (List Char × List Char)
  | '`' :: rest =>
      match rest.span (· != '`') with
      | (name@(_ :: _), '`' :: after) =>
          let (arguments, after) := optionalArguments after
          some ('`' :: name ++ '`' :: arguments, after)
      | _ => none
  | _ => none

/-- `\w+` followed by optional arguments. -/
def matchWord (s : List Char) : Option (List Char × List Char) :=
  match s.span isWordChar with
  | (word@(_ :: _), after) =>
      let (arguments, after) := optionalArguments after
      some (word ++ arguments, after)
  | _ => none

/-- `(?:\\q|[^q])*q` after an opening quote `q`, as the backtracking search finds it: the
greedy loop tries the escape `\q` first, then any character but `q`, and ends at a `q`. -/
def quotedBody (q : Char) : List Char → Option (List Char × List Char)
  | [] => none
  | c :: rest =>
      if c = q then some ([q], rest)
      else
        let plain := (quotedBody q rest).map fun (body, after) => (c :: body, after)
        if c = '\\' then
          match rest with
          | d :: more =>
              if d = q then
                ((quotedBody q more).map fun (body, after) => (c :: d :: body, after)).orElse
                  fun _ => plain
              else plain
          | [] => plain
        else plain

/-- A string quoted by `q`. -/
def matchQuoted (q : Char) : List Char → Option (List Char × List Char)
  | c :: rest =>
      if c = q then (quotedBody q rest).map fun (body, after) => (q :: body, after) else none
  | [] => none

/-- `[^\s]+`. -/
def matchRun (s : List Char) : Option (List Char × List Char) :=
  match s.span (fun c => !isSpace c) with
  | (run@(_ :: _), after) => some (run, after)
  | _ => none

/-- The token pattern at the start of the text: the first alternative that matches. -/
def matchToken (s : List Char) : Option (List Char × List Char) :=
  (matchBackquoted s).orElse fun _ => (matchWord s).orElse fun _ =>
    (matchQuoted '\'' s).orElse fun _ => (matchQuoted '"' s).orElse fun _ => matchRun s

/-- `token_pattern.findall`, with one unit of fuel for each character. -/
def findTokens : Nat → List Char → List String
  | 0, _ => []
  | _ + 1, [] => []
  | fuel + 1, c :: rest =>
      match matchToken (c :: rest) with
      | some (token, after) => String.mk token :: findTokens fuel after
      | none => findTokens fuel rest

/-- The keywords that start the column options. -/
def constraintKeywords : List String :=
  ["DEFAULT", "NOT", "NULL", "AUTO_INCREMENT", "PRIMARY", "UNIQUE", "COMMENT", "COLLATE",
    "REFERENCES", "ON", "CHECK", "CONSTRAINT", "AFTER", "BEFORE", "GENERATED", "VIRTUAL",
    "STORED", "FIRST", "ALWAYS", "AS", "IDENTITY", "INVISIBLE", "PERSISTED"]

/-- `_tokenize_alter_query`: the column name, the tokens up to the first constraint keyword
merged into the type, then the other tokens unchanged. -/
def tokenizeAlterQuery (sqlLine : String) : List String :=
  match findTokens sqlLine.length sqlLine.data with
  | [] => []
  | columnName :: rest =>
      let (typeTokens, paramTokens) := rest.span fun token => !constraintKeywords.contains (upper token)
      let mergedType := if typeTokens.isEmpty then "" else join " " typeTokens
      if mergedType.isEmpty then columnName :: paramTokens
      else columnName :: mergedType :: paramTokens

/-! ## What `findall` keeps -/

/-- A line as `findall` reads it: the tokens in order, each a non-empty piece of the line, with
only whitespace around them. -/
inductive Tokenized : List Char → List (List Char) → Prop
  | nil : Tokenized [] []
  | space {c : Char} {rest : List Char} {tokens : List (List Char)} :
      isSpace c = true → Tokenized rest tokens → Tokenized (c :: rest) tokens
  | token {token rest : List Char} {tokens : List (List Char)} :
      token ≠ [] → Tokenized rest tokens → Tokenized (token ++ rest) (token :: tokens)

theorem optionalArguments_append (s : List Char) :
    (optionalArguments s).1 ++ (optionalArguments s).2 = s := by
  unfold optionalArguments
  split
  · split
    · next rest arguments after spanned =>
        have whole := append_of_span spanned
        simp [← whole]
    · rfl
  · rfl

theorem append_of_optionalArguments {s arguments after : List Char}
    (read : optionalArguments s = (arguments, after)) : arguments ++ after = s := by
  rw [← optionalArguments_append s, read]

theorem matchBackquoted_append {s token after : List Char}
    (matched : matchBackquoted s = some (token, after)) : token ++ after = s ∧ token ≠ [] := by
  unfold matchBackquoted at matched
  split at matched
  · split at matched
    · next rest name after' spanned =>
        generalize read : optionalArguments after' = arguments at matched
        obtain ⟨arguments, after''⟩ := arguments
        cases matched
        refine ⟨?_, List.cons_ne_nil _ _⟩
        rw [← append_of_span spanned]
        simp only [List.cons_append, List.append_assoc, append_of_optionalArguments read]
    · cases matched
  · cases matched

theorem matchWord_append {s token after : List Char}
    (matched : matchWord s = some (token, after)) : token ++ after = s ∧ token ≠ [] := by
  unfold matchWord at matched
  split at matched
  · next word after' spanned =>
      generalize read : optionalArguments after' = arguments at matched
      obtain ⟨arguments, after''⟩ := arguments
      cases matched
      refine ⟨?_, by simp⟩
      rw [List.append_assoc, append_of_optionalArguments read, append_of_span spanned]
  · cases matched

/-- `quotedBody` on one character: only a closing quote is read. -/
theorem quotedBody_singleton (q c : Char) :
    quotedBody q [c] = if c = q then some ([q], []) else none := by
  show (if c = q then some ([q], []) else if c = '\\' then none else none) = _
  rw [ite_self]

/-- `quotedBody` on two or more characters, with its inner match taken. Both equations hold by
definition, so the nested match never has to be split. -/
theorem quotedBody_cons_cons (q c d : Char) (more : List Char) :
    quotedBody q (c :: d :: more) =
      if c = q then some ([q], d :: more)
      else if c = '\\' then
        if d = q then
          ((quotedBody q more).map fun (body, after) => (c :: d :: body, after)).orElse
            fun _ => (quotedBody q (d :: more)).map fun (body, after) => (c :: body, after)
        else (quotedBody q (d :: more)).map fun (body, after) => (c :: body, after)
      else (quotedBody q (d :: more)).map fun (body, after) => (c :: body, after) :=
  rfl

theorem quotedBody_append (q : Char) :
    ∀ {s body after : List Char}, quotedBody q s = some (body, after) → body ++ after = s
  | [], _, _, matched => by cases matched
  | [c], body, after, matched => by
      by_cases quote : c = q
      · rw [quotedBody_singleton, if_pos quote, Option.some.injEq, Prod.mk.injEq] at matched
        rw [← matched.1, ← matched.2, quote]
        rfl
      · rw [quotedBody_singleton, if_neg quote] at matched
        cases matched
  | c :: d :: more, body, after, matched => by
      have plain : ((quotedBody q (d :: more)).map fun (body, after) => (c :: body, after)) =
          some (body, after) → body ++ after = c :: d :: more := fun mapped => by
        obtain ⟨⟨body', after'⟩, read, same⟩ := Option.map_eq_some'.mp mapped
        cases same
        rw [List.cons_append, quotedBody_append q read]
      rw [quotedBody_cons_cons] at matched
      split_ifs at matched with quote backslash escape
      · rw [Option.some.injEq, Prod.mk.injEq] at matched
        rw [← matched.1, ← matched.2, quote]
        rfl
      · cases read : quotedBody q more with
        | none => exact plain (by simpa [read] using matched)
        | some read' =>
            obtain ⟨body', after'⟩ := read'
            simp only [read, Option.map_some'] at matched
            cases matched
            rw [List.cons_append, List.cons_append, quotedBody_append q read]
      · exact plain matched
      · exact plain matched

theorem matchQuoted_append {q : Char} {s token after : List Char}
    (matched : matchQuoted q s = some (token, after)) : token ++ after = s ∧ token ≠ [] := by
  cases s with
  | nil => cases matched
  | cons c rest =>
      by_cases quote : c = q
      · rw [matchQuoted, if_pos quote] at matched
        obtain ⟨⟨body, after'⟩, read, same⟩ := Option.map_eq_some'.mp matched
        cases same
        exact ⟨by rw [List.cons_append, quotedBody_append q read, quote], List.cons_ne_nil _ _⟩
      · rw [matchQuoted, if_neg quote] at matched
        cases matched

theorem matchRun_append {s token after : List Char}
    (matched : matchRun s = some (token, after)) : token ++ after = s ∧ token ≠ [] := by
  unfold matchRun at matched
  split at matched
  · next run after' spanned =>
      cases matched
      exact ⟨append_of_span spanned, List.cons_ne_nil _ _⟩
  · cases matched

/-- Whatever alternative matches, the token is a non-empty prefix of the text. -/
theorem matchToken_append {s token after : List Char}
    (matched : matchToken s = some (token, after)) : token ++ after = s ∧ token ≠ [] := by
  unfold matchToken at matched
  cases backquoted : matchBackquoted s with
  | some found => rw [backquoted] at matched; cases matched; exact matchBackquoted_append backquoted
  | none =>
  cases word : matchWord s with
  | some found => rw [backquoted, word] at matched; cases matched; exact matchWord_append word
  | none =>
  cases single : matchQuoted '\'' s with
  | some found =>
      rw [backquoted, word, single] at matched; cases matched; exact matchQuoted_append single
  | none =>
  cases double : matchQuoted '"' s with
  | some found =>
      rw [backquoted, word, single, double] at matched; cases matched
      exact matchQuoted_append double
  | none =>
      rw [backquoted, word, single, double] at matched
      exact matchRun_append matched

/-- `[^\s]+` matches at every visible character, so `findall` only skips whitespace. -/
theorem isSpace_of_matchToken_eq_none {c : Char} {rest : List Char}
    (unmatched : matchToken (c :: rest) = none) : isSpace c = true := by
  by_contra visible
  have run : matchRun (c :: rest) ≠ none := by
    unfold matchRun
    rw [List.span_eq_take_drop, List.takeWhile_cons_of_pos (by simpa using visible)]
    simp
  simp only [matchToken, Option.orElse_eq_none'] at unmatched
  exact run unmatched.2.2.2.2

theorem tokenized_findTokens :
    ∀ (fuel : Nat) (s : List Char), s.length ≤ fuel →
      Tokenized s ((findTokens fuel s).map String.data)
  | 0, [], _ => .nil
  | _ + 1, [], _ => .nil
  | fuel + 1, c :: rest, enough => by
      rw [findTokens]
      split
      · next token after matched =>
          obtain ⟨whole, nonempty⟩ := matchToken_append matched
          have shorter : after.length ≤ fuel := by
            have := congrArg List.length whole
            have : token.length ≠ 0 := by simpa using nonempty
            simp only [List.length_append, List.length_cons] at *
            omega
          rw [← whole]
          exact .token nonempty (tokenized_findTokens fuel after shorter)
      · next unmatched =>
          exact .space (isSpace_of_matchToken_eq_none unmatched)
            (tokenized_findTokens fuel rest (by simpa using enough))

/-- `token_pattern.findall` loses nothing but whitespace: the line is its tokens, in order, each
non-empty, with only whitespace between and around them. -/
theorem findTokens_tokenized (sqlLine : String) :
    Tokenized sqlLine.data ((findTokens sqlLine.length sqlLine.data).map String.data) :=
  tokenized_findTokens sqlLine.length sqlLine.data le_rfl

/-- The visible characters of a tokenized line are those of its tokens, in order. -/
theorem Tokenized.filter_visible {s : List Char} {tokens : List (List Char)}
    (tokenized : Tokenized s tokens) :
    s.filter (fun c => !isSpace c) = tokens.flatten.filter fun c => !isSpace c := by
  induction tokenized with
  | nil => rfl
  | space space _ ih => rw [List.filter_cons_of_neg (by simpa using space), ih]
  | token _ _ ih => rw [List.filter_append, ih, List.flatten_cons, List.filter_append]

/-- `_tokenize_alter_query` keeps every visible character of the column definition, in order:
merging the type tokens only puts single spaces between them. -/
theorem tokenizeAlterQuery_visible (sqlLine : String) :
    ((tokenizeAlterQuery sqlLine).map String.data).flatten.filter (fun c => !isSpace c) =
      sqlLine.data.filter fun c => !isSpace c := by
  rw [(tokenized_findTokens sqlLine.length sqlLine.data le_rfl).filter_visible]
  unfold tokenizeAlterQuery
  split
  · next empty => rw [empty]
  · next columnName rest found =>
      rw [found]
      generalize spanned : rest.span _ = parts
      obtain ⟨typeTokens, paramTokens⟩ := parts
      rw [← append_of_span spanned]
      dsimp only
      have merged : (if typeTokens.isEmpty then "" else join " " typeTokens).data.filter
          (fun c => !isSpace c) = (typeTokens.map String.data).flatten.filter fun c => !isSpace c := by
        split
        · next none => rw [List.isEmpty_iff.mp none]; rfl
        · rw [data_join_space, filter_visible_intercalate_space]
      generalize (if typeTokens.isEmpty then "" else join " " typeTokens) = mergedType at merged ⊢
      split
      · next empty =>
          rw [data_eq_nil_of_isEmpty empty] at merged
          simp only [List.map_cons, List.map_append, List.flatten_cons, List.flatten_append,
            List.filter_append, ← merged]
          rfl
      · simp only [List.map_cons, List.map_append, List.flatten_cons, List.flatten_append,
          List.filter_append, merged]

end MysqlChReplicator.Ddl

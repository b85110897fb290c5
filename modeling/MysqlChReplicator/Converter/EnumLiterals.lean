import MysqlChReplicator.Converter.ConvertType
import Mathlib.Data.Nat.Digits

/-!
# Enum literals

`convert_type` writes the labels of an `enum(...)` declaration into a ClickHouse type
`Enum8('label' = 1, ...)`, `Enum16` past 127 labels, quoting each lower-cased label with `'` and
escaping nothing. ClickHouse reads a quoted name with backslash escapes and a doubled quote
standing for one, and rejects a type with no element, a repeated name or value, or a value
outside the width. What it reads back is the declared labels exactly when no label holds a
quote or a backslash, there are at most 32767 labels, and their lower-cased forms are distinct.
-/

namespace MysqlChReplicator.Converter

open Python

/-! ## ClickHouse's reading of an enum type -/

/-- The whitespace ClickHouse's lexer skips between tokens. -/
def isClickhouseSpace (c : Char) : Bool :=
  c = ' ' || c = '\t' || c = '\n' || c = '\r' || c = '\x0b' || c = '\x0c'

/-- The text after the whitespace at its start. -/
def skipSpaces (s : List Char) : List Char := s.dropWhile isClickhouseSpace

/-- The value of a hexadecimal digit. -/
def hexValue (c : Char) : Option Nat :=
  if c.isDigit then some (c.toNat - '0'.toNat)
  else if 'a' ≤ c ∧ c ≤ 'f' then some (c.toNat - 'a'.toNat + 10)
  else if 'A' ≤ c ∧ c ≤ 'F' then some (c.toNat - 'A'.toNat + 10)
  else none

/-- The character a backslash escape stands for in a ClickHouse string literal. -/
def unescapeChar (c : Char) : Char :=
  match c with
  | 'a' => '\x07'
  | 'b' => '\x08'
  | 'e' => '\x1b'
  | 'f' => '\x0c'
  | 'n' => '\n'
  | 'r' => '\r'
  | 't' => '\t'
  | 'v' => '\x0b'
  | '0' => '\x00'
  | c => c

/-- A quoted string literal after its opening quote, read to the closing quote: backslash
escapes, `\xHH` among them, and a doubled quote standing for one. The text and what follows the
closing quote. -/
def readQuoted : List Char → Option (List Char × List Char)
  | [] => none
  | c :: rest =>
      if c = '\'' then
        match rest with
        | '\'' :: tail => (readQuoted tail).map fun (text, after) => ('\'' :: text, after)
        | _ => some ([], rest)
      else if c = '\\' then
        match rest with
        | 'x' :: high :: low :: tail =>
            match hexValue high, hexValue low with
            | some h, some l =>
                (readQuoted tail).map fun (text, after) => (Char.ofNat (16 * h + l) :: text, after)
            | _, _ => none
        | e :: tail => (readQuoted tail).map fun (text, after) => (unescapeChar e :: text, after)
        | [] => none
      else (readQuoted rest).map fun (text, after) => (c :: text, after)

/-- An integer literal, with an optional minus sign. -/
def readInteger (s : List Char) : Option (Int × List Char) :=
  let (negative, s) := match s with
    | '-' :: rest => (true, rest)
    | _ => (false, s)
  let (digits, rest) := s.span Char.isDigit
  if digits = [] then none
  else some (if negative then -(digitsValue digits : Int) else digitsValue digits, rest)

/-- One element `'name' = value`. -/
def readElement (s : List Char) : Option ((String × Int) × List Char) :=
  match skipSpaces s with
  | '\'' :: rest => do
      let (name, rest) ← readQuoted rest
      match skipSpaces rest with
      | '=' :: rest => do
          let (value, rest) ← readInteger (skipSpaces rest)
          pure ((⟨name⟩, value), rest)
      | _ => none
  | _ => none

/-- The elements up to the closing parenthesis, separated by commas; one unit of fuel for each
element. -/
def readElements : Nat → List Char → Option (List (String × Int) × List Char)
  | 0, _ => none
  | fuel + 1, s => do
      let (element, rest) ← readElement s
      match skipSpaces rest with
      | ',' :: rest => (readElements fuel rest).map fun (elements, after) => (element :: elements, after)
      | ')' :: rest => pure ([element], rest)
      | _ => none

/-- The width of an `Enum8(` or `Enum16(` type and what follows its parenthesis. -/
def enumWidth (s : List Char) : Option (Nat × List Char) :=
  match s.dropPrefix? "Enum8(".data with
  | some rest => some (8, rest)
  | none => (s.dropPrefix? "Enum16(".data).map fun rest => (16, rest)

/-- The elements of an `Enum8(...)` or `Enum16(...)` type as ClickHouse reads them; `none` where
it rejects the type: no elements, a repeated name or value, or a value outside the width. -/
def readEnumType (text : String) : Option (List (String × Int)) := do
  let (bits, rest) ← enumWidth text.data
  let (elements, rest) ← readElements rest.length rest
  if skipSpaces rest = [] ∧ (∀ e ∈ elements, -2 ^ (bits - 1) ≤ e.2 ∧ e.2 < 2 ^ (bits - 1)) ∧
      (elements.map Prod.fst).Nodup ∧ (elements.map Prod.snd).Nodup then some elements
  else none


section Numerals

theorem digitChar_digit : ∀ m < 10, (Nat.digitChar m).isDigit = true ∧
    (Nat.digitChar m).toNat - '0'.toNat = m := by
  decide

theorem digitsValue_append_digit (digits : List Char) (c : Char) :
    digitsValue (digits ++ [c]) = 10 * digitsValue digits + (c.toNat - '0'.toNat) := by
  simp [digitsValue, List.foldl_append]

/-- With enough fuel, `Nat.toDigitsCore` puts the decimal digits of `n` before `ds`. -/
theorem toDigitsCore_decimal : ∀ (fuel n : Nat) (ds : List Char), n < fuel →
    ∃ digits, Nat.toDigitsCore 10 fuel n ds = digits ++ ds ∧ digits ≠ [] ∧
      (∀ c ∈ digits, c.isDigit = true) ∧ digitsValue digits = n
  | 0, _, _, small => absurd small (Nat.not_lt_zero _)
  | fuel + 1, n, ds, small => by
      obtain ⟨isDigit, value⟩ := digitChar_digit (n % 10) (Nat.mod_lt _ (by decide))
      by_cases last : n / 10 = 0
      · refine ⟨[Nat.digitChar (n % 10)], by simp [Nat.toDigitsCore, last], by simp,
          by simpa using isDigit, ?_⟩
        simp only [digitsValue, List.foldl_cons, List.foldl_nil, value]
        omega
      · obtain ⟨digits, core, nonempty, allDigits, high⟩ :=
          toDigitsCore_decimal fuel (n / 10) (Nat.digitChar (n % 10) :: ds) (by omega)
        refine ⟨digits ++ [Nat.digitChar (n % 10)], ?_, by simp, ?_, ?_⟩
        · simp [Nat.toDigitsCore, last, core]
        · simp only [List.mem_append, List.mem_singleton]
          rintro c (mem | rfl)
          exacts [allDigits c mem, isDigit]
        · rw [digitsValue_append_digit, high, value]
          omega

/-- `str(n)`: decimal digits whose value is `n`. -/
theorem toString_decimal (n : Nat) :
    (toString n).data ≠ [] ∧ (∀ c ∈ (toString n).data, c.isDigit = true) ∧
      digitsValue (toString n).data = n := by
  obtain ⟨digits, core, nonempty, allDigits, value⟩ := toDigitsCore_decimal (n + 1) n [] (by omega)
  have data : (toString n).data = digits := by
    simpa using core
  rw [data]
  exact ⟨nonempty, allDigits, value⟩

end Numerals

section Reading

theorem skipSpaces_space (s : List Char) : skipSpaces (' ' :: s) = skipSpaces s := rfl

theorem skipSpaces_visible {c : Char} (visible : isClickhouseSpace c = false) (s : List Char) :
    skipSpaces (c :: s) = c :: s := by
  simp [skipSpaces, visible]

theorem readElements_space (fuel : Nat) (s : List Char) :
    readElements fuel (' ' :: s) = readElements fuel s := by
  cases fuel with
  | zero => rfl
  | succ fuel => simp only [readElements, readElement, skipSpaces_space]

theorem readQuoted_close {next : Char} (notQuote : next ≠ '\'') (rest : List Char) :
    readQuoted ('\'' :: next :: rest) = some ([], next :: rest) := by
  unfold readQuoted
  rw [if_pos rfl]
  split
  · next quote => cases quote; exact absurd rfl notQuote
  · rfl

theorem readQuoted_plain {next : Char} (notQuote : next ≠ '\'') :
    ∀ {text : List Char}, (∀ c ∈ text, c ≠ '\'' ∧ c ≠ '\\') → ∀ rest,
      readQuoted (text ++ '\'' :: next :: rest) = some (text, next :: rest)
  | [], _, rest => readQuoted_close notQuote rest
  | c :: text, plain, rest => by
      obtain ⟨cNotQuote, cNotBackslash⟩ := plain c (List.mem_cons_self c text)
      rw [List.cons_append, readQuoted.eq_def]
      dsimp only
      rw [if_neg cNotQuote, if_neg cNotBackslash, readQuoted_plain notQuote (fun d mem => plain d (List.mem_cons_of_mem c mem)) rest]
      rfl

theorem readInteger_digits {digits : List Char} {next : Char} (nonempty : digits ≠ [])
    (allDigits : ∀ c ∈ digits, c.isDigit = true) (stop : next.isDigit = false) (rest : List Char) :
    readInteger (digits ++ next :: rest) = some ((digitsValue digits : Int), next :: rest) := by
  obtain ⟨first, more, rfl⟩ := List.exists_cons_of_ne_nil nonempty
  have notMinus : first ≠ '-' := by
    rintro rfl
    exact absurd (allDigits '-' (List.mem_cons_self _ _)) (by decide)
  have span : (first :: more ++ next :: rest).span Char.isDigit = (first :: more, next :: rest) :=
    span_append_of_not allDigits stop
  rw [List.cons_append] at span
  simp [-List.span_eq_take_drop, readInteger, notMinus, span]


/-- A label with no quote and no backslash keeps none when lower-cased. -/
theorem lower_plain {label : String} (plain : '\'' ∉ label.data ∧ '\\' ∉ label.data) :
    ∀ c ∈ (lower label).data, c ≠ '\'' ∧ c ≠ '\\' := by
  intro c mem
  have kept : ∀ d : Char, d.toNat < 97 → c = d → d ∈ label.data := by
    rintro d small rfl
    rcases mem_lower_ascii mem (by omega) with ⟨e, eMem, lowered⟩ | letter
    · rwa [eq_of_toLower_eq lowered.symm (by omega)] at eMem
    · omega
  exact ⟨fun same => plain.1 (kept _ (by decide) same), fun same => plain.2 (kept _ (by decide) same)⟩

theorem isClickhouseSpace_of_isDigit {c : Char} (digit : c.isDigit = true) :
    isClickhouseSpace c = false := by
  by_contra space
  simp only [isClickhouseSpace, Bool.not_eq_false, Bool.or_eq_true, decide_eq_true_eq] at space
  rcases space with ((((rfl | rfl) | rfl) | rfl) | rfl) | rfl <;> exact absurd digit (by decide)

/-- One element of the text `enumType` writes reads back as its lower-cased label and number. -/
theorem readElement_text {label : String} (plain : '\'' ∉ label.data ∧ '\\' ∉ label.data)
    (idx : Nat) {sep : Char} (stop : sep.isDigit = false) (rest : List Char) :
    readElement (("'" ++ lower label ++ "' = " ++ toString (idx + 1)).data ++ sep :: rest) =
      some ((lower label, ((idx + 1 : Nat) : Int)), sep :: rest) := by
  obtain ⟨nonempty, allDigits, value⟩ := toString_decimal (idx + 1)
  obtain ⟨first, more, digits⟩ := List.exists_cons_of_ne_nil nonempty
  have firstVisible : isClickhouseSpace first = false :=
    isClickhouseSpace_of_isDigit (allDigits first (digits ▸ List.mem_cons_self first more))
  have text : ("'" ++ lower label ++ "' = " ++ toString (idx + 1)).data ++ sep :: rest =
      '\'' :: ((lower label).data ++ '\'' :: ' ' :: '=' :: ' ' ::
        ((toString (idx + 1)).data ++ sep :: rest)) := by
    simp
  have number := readInteger_digits nonempty allDigits stop rest
  rw [text, readElement, skipSpaces_visible (rfl : isClickhouseSpace '\'' = false)]
  simp only [readQuoted_plain (show ' ' ≠ '\'' by decide) (lower_plain plain), Option.bind_eq_bind,
    Option.some_bind, skipSpaces_space, skipSpaces_visible (rfl : isClickhouseSpace '=' = false)]
  rw [digits, List.cons_append, skipSpaces_visible firstVisible, ← List.cons_append, ← digits,
    number, value]
  rfl


/-- The elements `enumType` writes, read to the closing parenthesis. -/
theorem readElements_join :
    ∀ {labels : List String} (k fuel : Nat), labels ≠ [] → labels.length ≤ fuel →
      (∀ label ∈ labels, '\'' ∉ label.data ∧ '\\' ∉ label.data) → ∀ after,
      readElements fuel ((join ", " ((labels.enumFrom k).map fun e =>
          "'" ++ lower e.2 ++ "' = " ++ toString (e.1 + 1))).data ++ ')' :: after) =
        some ((labels.enumFrom k).map fun e => (lower e.2, ((e.1 + 1 : Nat) : Int)), after)
  | [], _, _, nonempty, _, _, _ => absurd rfl nonempty
  | [label], k, fuel + 1, _, _, plain, after => by
      simp only [List.enumFrom_cons, List.enumFrom_nil, List.map_cons, List.map_nil]
      rw [show ∀ part, (join ", " [part]).data = part.data from fun _ => by
          simp [join, List.intercalate],
        readElements, readElement_text (plain label (List.mem_singleton_self _))
        k (by decide)]
      simp [skipSpaces_visible (rfl : isClickhouseSpace ')' = false)]
  | label :: next :: labels, k, fuel + 1, _, enough, plain, after => by
      simp only [List.enumFrom_cons, List.map_cons]
      rw [data_join_comma]
      simp only [List.append_assoc, List.singleton_append, List.cons_append]
      rw [readElements, readElement_text (plain label (List.mem_cons_self _ _)) k (by decide)]
      have rest := readElements_join (k + 1) fuel (List.cons_ne_nil next labels)
        (by simp at enough ⊢; omega) (fun l mem => plain l (List.mem_cons_of_mem _ mem)) after
      simp only [List.enumFrom_cons, List.map_cons] at rest
      simp [skipSpaces_visible (rfl : isClickhouseSpace ',' = false), readElements_space, rest]


theorem enumWidth_enum8 (s : List Char) : enumWidth ("Enum8(".data ++ s) = some (8, s) := by
  rw [enumWidth, List.dropPrefix?_append_of_beq _ (beq_self_eq_true _)]

theorem enumWidth_enum16 (s : List Char) : enumWidth ("Enum16(".data ++ s) = some (16, s) := by
  have notEnum8 : ("Enum16(".data ++ s).dropPrefix? "Enum8(".data = none := by
    simp [List.dropPrefix?]
  rw [enumWidth, notEnum8, List.dropPrefix?_append_of_beq _ (beq_self_eq_true _)]
  rfl

/-- At least one character of text per part, less one. -/
theorem length_join_comma : ∀ parts : List String,
    parts.length ≤ (join ", " parts).data.length + 1
  | [] => by simp
  | [_] => by simp
  | part :: next :: parts => by
      have rest := length_join_comma (next :: parts)
      rw [data_join_comma]
      simp only [List.length_cons, List.length_append] at rest ⊢
      omega

end Reading

section Enum

variable {labels : List String}

theorem map_fst_enumPairs :
    (labels.enum.map fun e => (lower e.2, ((e.1 + 1 : Nat) : Int))).map Prod.fst =
      labels.map lower := by
  conv_rhs => rw [← List.enum_map_snd labels]
  rw [List.map_map, List.map_map]
  rfl

theorem map_snd_enumPairs :
    (labels.enum.map fun e => (lower e.2, ((e.1 + 1 : Nat) : Int))).map Prod.snd =
      (List.range labels.length).map fun i => ((i + 1 : Nat) : Int) := by
  conv_rhs => rw [← List.enum_map_fst labels]
  rw [List.map_map, List.map_map]
  rfl

theorem nodup_values : ((List.range labels.length).map fun i => ((i + 1 : Nat) : Int)).Nodup :=
  List.Pairwise.map _ (fun i j differ same => differ (by omega)) (List.nodup_range _)

/-- The values `1..n` fit below `limit` exactly when `n` does. -/
theorem values_fit_iff {bottom limit : Int} (negative : bottom ≤ 0) (nonempty : labels ≠ []) :
    (∀ v ∈ (List.range labels.length).map fun i => ((i + 1 : Nat) : Int), bottom ≤ v ∧ v < limit) ↔
      (labels.length : Int) < limit := by
  have positive : 0 < labels.length := List.length_pos.mpr nonempty
  simp only [List.mem_map, List.mem_range, forall_exists_index, and_imp, forall_apply_eq_imp_iff₂]
  constructor
  · intro fits
    have := (fits (labels.length - 1) (by omega)).2
    omega
  · intro small i below
    constructor <;> omega

end Enum

/-- The type `enumType` writes is read as `Enum8(` below 128 labels and `Enum16(` above, then
its elements and the closing parenthesis. -/
theorem enumWidth_enumType (labels : List String) :
    enumWidth (enumType labels).data = some (if labels.length ≤ 127 then 8 else 16,
      (join ", " (labels.enum.map fun e =>
        "'" ++ lower e.2 ++ "' = " ++ toString (e.1 + 1))).data ++ [')']) := by
  by_cases small : labels.length ≤ 127
  · rw [enumType, if_pos small, if_pos small]
    exact enumWidth_enum8 _
  · rw [enumType, if_neg small, if_neg small]
    exact enumWidth_enum16 _

/-- What ClickHouse reads from the type `enumType` writes, for labels without quotes or
backslashes: the numbered labels, when their count fits the width and they stay distinct. -/
theorem readEnumType_of_plain {labels : List String}
    (plain : ∀ label ∈ labels, '\'' ∉ label.data ∧ '\\' ∉ label.data) (nonempty : labels ≠ []) :
    readEnumType (enumType labels) =
      if (labels.length : Int) < 2 ^ ((if labels.length ≤ 127 then 8 else 16) - 1) ∧
          (labels.map lower).Nodup then
        some (labels.enum.map fun e => (lower e.2, ((e.1 + 1 : Nat) : Int)))
      else none := by
  have count := length_join_comma (labels.enum.map fun e =>
    "'" ++ lower e.2 ++ "' = " ++ toString (e.1 + 1))
  rw [List.length_map, List.enum_length] at count
  have elements : readElements _ ((join ", " (labels.enum.map fun e =>
      "'" ++ lower e.2 ++ "' = " ++ toString (e.1 + 1))).data ++ [')']) =
      some (labels.enum.map fun e => (lower e.2, ((e.1 + 1 : Nat) : Int)), []) :=
    readElements_join 0 _ nonempty (Nat.le_trans count
      (Nat.le_of_eq (List.length_append _ [')']).symm)) plain []
  simp only [readEnumType, enumWidth_enumType, Option.bind_eq_bind, Option.some_bind]
  rw [elements]
  generalize (if labels.length ≤ 127 then 8 else 16) - 1 = exponent
  have limit : (0 : Int) ≤ 2 ^ exponent := by
    rw [show (2 : Int) = ((2 : Nat) : Int) from rfl, ← Int.natCast_pow]
    exact Int.natCast_nonneg _
  have fit := @values_fit_iff labels (-2 ^ exponent) (2 ^ exponent) (by omega) nonempty
  have range : (∀ e ∈ labels.enum.map fun e => (lower e.2, ((e.1 + 1 : Nat) : Int)),
      -2 ^ exponent ≤ e.2 ∧ e.2 < 2 ^ exponent) ↔ (labels.length : Int) < 2 ^ exponent := by
    rw [← fit, ← @map_snd_enumPairs labels]
    simp only [List.forall_mem_map]
  have condition : (skipSpaces [] = [] ∧
      (∀ e ∈ labels.enum.map fun e => (lower e.2, ((e.1 + 1 : Nat) : Int)),
        -2 ^ exponent ≤ e.2 ∧ e.2 < 2 ^ exponent) ∧
      ((labels.enum.map fun e => (lower e.2, ((e.1 + 1 : Nat) : Int))).map Prod.fst).Nodup ∧
      ((labels.enum.map fun e => (lower e.2, ((e.1 + 1 : Nat) : Int))).map Prod.snd).Nodup) ↔
      ((labels.length : Int) < 2 ^ exponent ∧ (labels.map lower).Nodup) := by
    rw [range, @map_fst_enumPairs labels, @map_snd_enumPairs labels]
    exact ⟨fun ⟨_, fits, distinct, _⟩ => ⟨fits, distinct⟩,
      fun ⟨fits, distinct⟩ => ⟨rfl, fits, distinct, nodup_values⟩⟩
  exact if_congr condition rfl rfl

/-- What ClickHouse reads from the type `enumType` writes for labels without quotes or
backslashes: each label lower-cased with its number, exactly when there is a label, there are at
most 32767 of them and their lower-cased forms are distinct. -/
theorem readEnumType_enumType {labels : List String}
    (plain : ∀ label ∈ labels, '\'' ∉ label.data ∧ '\\' ∉ label.data) :
    readEnumType (enumType labels) =
      if labels ≠ [] ∧ labels.length ≤ 32767 ∧ (labels.map lower).Nodup then
        some (labels.enum.map fun e => (lower e.2, ((e.1 + 1 : Nat) : Int)))
      else none := by
  by_cases nonempty : labels = []
  · subst nonempty
    rfl
  have powers : (2 : Int) ^ (8 - 1) = 128 ∧ (2 : Int) ^ (16 - 1) = 32768 := by decide
  have bound : (labels.length : Int) < 2 ^ ((if labels.length ≤ 127 then 8 else 16) - 1) ↔
      labels.length ≤ 32767 := by
    split
    · rw [powers.1]
      omega
    · rw [powers.2]
      omega
  rw [readEnumType_of_plain plain nonempty]
  exact if_congr ⟨fun ⟨fits, distinct⟩ => ⟨nonempty, bound.mp fits, distinct⟩,
    fun ⟨_, fits, distinct⟩ => ⟨bound.mpr fits, distinct⟩⟩ rfl rfl

example : readEnumType (enumType ["Red", "green"]) = some [("red", 1), ("green", 2)] := by decide

end MysqlChReplicator.Converter

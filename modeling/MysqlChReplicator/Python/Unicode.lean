import MysqlChReplicator.Python.UnicodeData

/-!
# Python's case mappings and character classes

`str.lower` and `str.upper` of one character, the classes of the final-sigma rule, `\d` and the
value `int()` gives a decimal digit, read from the tables of `UnicodeData`. On ASCII the case
mappings are Lean's `Char.toLower` and `Char.toUpper`, which agree with Python there.

What the converter needs of the lower-case mapping holds of every character, from one check of
the whole table (`lowerTree_images`): a character it gives maps to itself
(`lowerChar_lowerChar`), and it gives an ASCII character only as the image of an ASCII one or as a
lower-case letter (`mem_lowerChar_ascii`).
-/

namespace MysqlChReplicator.Python

/-! ## Case-mapping tables -/

/-- The image of `n` under a case-mapping tree: in the run from `first` with `(step, target)`,
the code points `first, first + step, …` map to `target, target + step, …`. -/
def caseImage? (tree : RangeTree (Nat × Nat)) (n : Nat) : Option Nat :=
  match tree.find? n with
  | some (first, step, target) =>
      if (n - first) % step = 0 then some (target + (n - first)) else none
  | none => none

/-- No image of the run `[first, last]` with `(step, target)` is mapped by the tree: every
interval the images can reach lies past them, or both runs take every second code point and the
images fall between those of the interval. The search visits only where the images can be. -/
def avoidsImages (first last step target : Nat) : RangeTree (Nat × Nat) → Bool
  | .leaf => true
  | .node left first' last' (step', _) right =>
      (target + (last - first) < first' || last' < target ||
          (step == 2 && step' == 2 && target % 2 != first' % 2)) &&
        (first' ≤ target || avoidsImages first last step target left) &&
        (target + (last - first) ≤ last' || avoidsImages first last step target right)

section Images

variable {first last step target m : Nat} (low : target ≤ m) (high : m ≤ target + (last - first))
  (onStep : (m - target) % step = 0)

include low high onStep

theorem find?_of_avoidsImages :
    ∀ {tree : RangeTree (Nat × Nat)}, avoidsImages first last step target tree = true →
      ∀ {first' step' target' : Nat}, tree.find? m = some (first', step', target') →
        (m - first') % step' ≠ 0
  | .leaf, _, _, _, _, found => nomatch found
  | .node left first'' last'' (step'', target'') right, avoids, first', step', target', found => by
      simp only [avoidsImages, Bool.and_eq_true, Bool.or_eq_true, decide_eq_true_eq, beq_iff_eq,
        bne_iff_ne, ne_eq] at avoids
      obtain ⟨⟨apart, leftAvoids⟩, rightAvoids⟩ := avoids
      unfold RangeTree.find? at found
      split at found
      · exact find?_of_avoidsImages (leftAvoids.resolve_left (by omega)) found
      · split at found
        · exact find?_of_avoidsImages (rightAvoids.resolve_left (by omega)) found
        · cases found
          rcases apart with (below | above) | ⟨⟨rfl, rfl⟩, parity⟩
          · omega
          · omega
          · omega

theorem caseImage?_of_avoidsImages {tree : RangeTree (Nat × Nat)}
    (avoids : avoidsImages first last step target tree = true) : caseImage? tree m = none := by
  unfold caseImage?
  split
  · next first' step' target' found =>
      rw [if_neg (find?_of_avoidsImages low high onStep avoids found)]
  · rfl

end Images

/-- A case-mapping tree maps `n` within the interval that holds it. -/
theorem caseImage?_eq_some {p : Nat → Nat → Nat × Nat → Bool} {tree : RangeTree (Nat × Nat)}
    (all : tree.all p = true) {n m : Nat} (image : caseImage? tree n = some m) :
    ∃ first last step target, p first last (step, target) = true ∧ first ≤ n ∧ n ≤ last ∧
      (n - first) % step = 0 ∧ m = target + (n - first) := by
  unfold caseImage? at image
  split at image
  · next first step target found =>
      split at image
      · next onStep =>
          obtain ⟨last, low, high, holds⟩ := RangeTree.all_of_find? all found
          exact ⟨first, last, step, target, holds, low, high, onStep, (Option.some.inj image).symm⟩
      · cases image
  · cases image

/-! ## Lower case -/

/-- `c.lower()` out of context: `lower` gives `U+03A3` its own rule. -/
def lowerChar (c : Char) : List Char :=
  if c.toNat < 128 then [c.toLower]
  else if c.toNat = 0x130 then ['i', Char.ofNat 0x307]
  else
    match caseImage? lowerTree c.toNat with
    | some n => [Char.ofNat n]
    | none => [c]

/-- Every image of `lowerTree` is a character that the table does not map, is not `U+0130`, and
is outside ASCII or an ASCII lower-case letter. -/
theorem lowerTree_images :
    lowerTree.all (fun first last (step, target) =>
      avoidsImages first last step target lowerTree &&
        (target + (last - first) < 0x130 || 0x130 < target) &&
        (128 ≤ target || 97 ≤ target && target + (last - first) ≤ 122) &&
        (target + (last - first) < 0xD800 ||
          0xDFFF < target && target + (last - first) < 0x110000)) = true := by
  decide

theorem lowerTree_image {n m : Nat} (image : caseImage? lowerTree n = some m) :
    caseImage? lowerTree m = none ∧ m ≠ 0x130 ∧ (128 ≤ m ∨ 97 ≤ m ∧ m ≤ 122) ∧
      m.isValidChar := by
  obtain ⟨first, last, step, target, holds, low, high, onStep, rfl⟩ :=
    caseImage?_eq_some lowerTree_images image
  simp only [Bool.and_eq_true, Bool.or_eq_true, decide_eq_true_eq] at holds
  obtain ⟨⟨⟨avoids, dotted⟩, ascii⟩, valid⟩ := holds
  refine ⟨caseImage?_of_avoidsImages (by omega) (by omega) (by simpa using onStep) avoids,
    by omega, by omega, ?_⟩
  unfold Nat.isValidChar
  omega

theorem toNat_ofNat_of_valid {n : Nat} (valid : n.isValidChar) : (Char.ofNat n).toNat = n := by
  unfold Char.ofNat
  rw [dif_pos valid]
  rfl

theorem toLower_toLower (c : Char) : c.toLower.toLower = c.toLower := by
  unfold Char.toLower
  by_cases upper : c.toNat ≥ 65 ∧ c.toNat ≤ 90
  · have shifted := toNat_ofNat_of_valid (n := c.toNat + 32) (Or.inl (by omega))
    simp only [upper, and_self, if_true]
    rw [if_neg (by omega)]
  · simp only [upper, if_false]

/-- `Char.toLower` changes only the upper-case ASCII letters, into lower-case ones. -/
theorem eq_of_toLower_eq {c d : Char} (lowered : c.toLower = d)
    (notLetter : ¬ (97 ≤ d.toNat ∧ d.toNat ≤ 122)) : c = d := by
  simp only [Char.toLower] at lowered
  split at lowered
  · subst lowered
    rw [toNat_ofNat_of_valid (Or.inl (by omega))] at notLetter
    omega
  · exact lowered

theorem toNat_toLower_lt {c : Char} (ascii : c.toNat < 128) : c.toLower.toNat < 128 := by
  simp only [Char.toLower]
  split
  · rw [toNat_ofNat_of_valid (Or.inl (by omega))]
    omega
  · exact ascii

theorem lowerChar_of_lt {c : Char} (ascii : c.toNat < 128) : lowerChar c = [c.toLower] := by
  rw [lowerChar, if_pos ascii]

/-- A character outside ASCII that the table does not map, and is not `U+0130`, is its own
lower case. -/
theorem lowerChar_of_caseImage?_none {c : Char} (high : 128 ≤ c.toNat) (notDotted : c.toNat ≠ 0x130)
    (unmapped : caseImage? lowerTree c.toNat = none) : lowerChar c = [c] := by
  rw [lowerChar, if_neg (by omega), if_neg notDotted, unmapped]

/-- What `lowerChar` gives is its own lower case. -/
theorem lowerChar_lowerChar {c d : Char} (mem : d ∈ lowerChar c) : lowerChar d = [d] := by
  unfold lowerChar at mem
  split at mem
  · next ascii =>
      rw [List.mem_singleton.mp mem, lowerChar_of_lt (toNat_toLower_lt ascii), toLower_toLower]
  · split at mem
    · simp only [List.mem_cons, List.mem_singleton, List.not_mem_nil, or_false] at mem
      rcases mem with rfl | rfl <;> decide
    · split at mem
      · next n image =>
          rw [List.mem_singleton.mp mem]
          obtain ⟨unmapped, notDotted, ascii, valid⟩ := lowerTree_image image
          have toNat := toNat_ofNat_of_valid valid
          rcases ascii with high | letter
          · exact lowerChar_of_caseImage?_none (by omega) (by omega) (by rw [toNat]; exact unmapped)
          · rw [lowerChar_of_lt (by omega), Char.toLower, if_neg (by omega)]
      · next high notDotted _ unmapped =>
          rw [List.mem_singleton.mp mem]
          exact lowerChar_of_caseImage?_none (by omega) notDotted unmapped

/-- An ASCII character in a lower case is the image of an ASCII character or a lower-case
letter. -/
theorem mem_lowerChar_ascii {c d : Char} (mem : d ∈ lowerChar c) (ascii : d.toNat < 128) :
    d = c.toLower ∨ 97 ≤ d.toNat ∧ d.toNat ≤ 122 := by
  unfold lowerChar at mem
  split at mem
  · exact .inl (List.mem_singleton.mp mem)
  · split at mem
    · simp only [List.mem_cons, List.mem_singleton, List.not_mem_nil, or_false] at mem
      rcases mem with rfl | rfl
      · exact .inr (by decide)
      · exact absurd ascii (by decide)
    · split at mem
      · next n image =>
          rw [List.mem_singleton.mp mem] at ascii ⊢
          obtain ⟨-, -, inRange, valid⟩ := lowerTree_image image
          rw [toNat_ofNat_of_valid valid] at ascii ⊢
          exact .inr (by omega)
      · next high _ _ _ =>
          rw [List.mem_singleton.mp mem] at ascii
          omega

theorem lowerChar_capitalSigma : lowerChar 'Σ' = ['σ'] := by decide

theorem lowerChar_smallSigma : lowerChar 'σ' = ['σ'] := by decide

theorem lowerChar_finalSigma : lowerChar 'ς' = ['ς'] := by decide

theorem capitalSigma_not_mem_lowerChar (c : Char) : 'Σ' ∉ lowerChar c := fun mem => by
  have fixed := lowerChar_lowerChar mem
  rw [lowerChar_capitalSigma] at fixed
  exact absurd fixed (by decide)

/-! ## Upper case -/

/-- `c.upper()`. -/
def upperChar (c : Char) : List Char :=
  if c.toNat < 128 then [c.toUpper]
  else
    match upperSpecial.find? (·.1 == c.toNat) with
    | some (_, image) => image.map Char.ofNat
    | none =>
        match caseImage? upperTree c.toNat with
        | some n => [Char.ofNat n]
        | none => [c]

/-! ## `re.IGNORECASE` -/

/-- A character of the text matches the lower-case ASCII letter `p` of a pattern under
`re.IGNORECASE`: `p`, its upper case, and for `i`, `k` and `s` the other characters `re` folds
to them (`U+0130` and `U+0131`, `U+212A`, `U+017F`). -/
def matchesIgnoringCase (p c : Char) : Bool :=
  c.toLower == p || (p == 'i' && (c.toNat == 0x130 || c.toNat == 0x131)) ||
    (p == 'k' && c.toNat == 0x212A) || (p == 's' && c.toNat == 0x17F)

/-- The text after a prefix that matches `pattern`, lower-case ASCII letters, under
`re.IGNORECASE`. -/
def dropPrefixIgnoringCase : List Char → List Char → Option (List Char)
  | [], s => some s
  | _ :: _, [] => none
  | p :: ps, c :: cs => if matchesIgnoringCase p c then dropPrefixIgnoringCase ps cs else none

/-! ## Character classes -/

/-- The final-sigma rule looks past `c`. -/
def isCaseIgnorable (c : Char) : Bool := caseIgnorableTree.contains c.toNat

/-- `c` is a letter for the final-sigma rule. -/
def isCased (c : Char) : Bool := casedTree.contains c.toNat

/-- `\d`: `c` is a decimal digit. -/
def isDecimal (c : Char) : Bool := decimalTree.contains c.toNat

/-- The value of a decimal digit: its place in its run of ten. -/
def decimalValue (c : Char) : Nat :=
  match decimalTree.find? c.toNat with
  | some (first, _) => (c.toNat - first) % 10
  | none => 0

/-- `int(digits)` for a run of decimal digits. -/
def intOfDecimals (digits : List Char) : Nat :=
  digits.foldl (fun value c => 10 * value + decimalValue c) 0

/-- On ASCII, the decimal digits are `0` to `9`. -/
theorem decimalTree_ascii :
    ∀ n < 128, decimalTree.find? n = if 48 ≤ n ∧ n ≤ 57 then some (48, ()) else none := by
  decide

theorem isDigit_iff (c : Char) : c.isDigit = true ↔ 48 ≤ c.toNat ∧ c.toNat ≤ 57 := by
  simp only [Char.isDigit, Char.toNat, Bool.and_eq_true, decide_eq_true_eq]
  rfl

theorem isDecimal_of_lt {c : Char} (ascii : c.toNat < 128) : isDecimal c = c.isDigit := by
  rw [isDecimal, RangeTree.contains, decimalTree_ascii c.toNat ascii, Bool.eq_iff_iff,
    isDigit_iff]
  split <;> simp_all

theorem isDecimal_of_isDigit {c : Char} (digit : c.isDigit = true) : isDecimal c = true := by
  rw [isDecimal_of_lt (by have := (isDigit_iff c).mp digit; omega), digit]

theorem decimalValue_of_isDigit {c : Char} (digit : c.isDigit = true) :
    decimalValue c = c.toNat - 48 := by
  have range := (isDigit_iff c).mp digit
  rw [decimalValue, decimalTree_ascii c.toNat (by omega), if_pos range]
  dsimp only
  omega

end MysqlChReplicator.Python

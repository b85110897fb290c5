import Mathlib.Data.List.Infix
import Mathlib.Data.List.DropRight
import Mathlib.Data.List.Basic
import Mathlib.Algebra.Group.Int
import Mathlib.Algebra.Group.Nat.Basic
import MysqlChReplicator.Python.Unicode

/-!
# Python string operations

The converter reads and builds Python `str` values. Each operation it uses is modelled on
the character list of a Lean `String`, so that its laws are list lemmas. Character classes
follow Python: whitespace is the set `str.isspace` accepts, and letter case is Unicode's
(`Python.Unicode`), with the final-sigma rule of `str.lower`.
-/

namespace MysqlChReplicator.Python

/-- The characters `str.isspace` accepts: what `str.split()`, `str.strip()` and `\s` skip. -/
def isSpace (c : Char) : Bool :=
  let n := c.toNat
  (9 ≤ n && n ≤ 13) || (28 ≤ n && n ≤ 32) || n == 0x85 || n == 0xA0 || n == 0x1680 ||
    (0x2000 ≤ n && n ≤ 0x200A) || n == 0x2028 || n == 0x2029 || n == 0x202F ||
    n == 0x205F || n == 0x3000

/-- `sub in s`. -/
def contains (s sub : String) : Bool := decide (sub.data <:+: s.data)

/-- `s.startswith(pre)`. -/
def startswith (s pre : String) : Bool := decide (pre.data <+: s.data)

/-- `s.endswith(suf)`. -/
def endswith (s suf : String) : Bool := decide (suf.data <:+ s.data)

/-- `U+03A3` is written as a final sigma when, case-ignorable characters skipped, a cased letter
stands before it and none after it; `before` holds the characters before it, nearest first. -/
def finalSigma (before after : List Char) : Bool :=
  (match before.dropWhile isCaseIgnorable with
    | c :: _ => isCased c
    | [] => false) &&
  (match after.dropWhile isCaseIgnorable with
    | c :: _ => !isCased c
    | [] => true)

/-- `s.lower()` from a position, `before` holding the characters before it, nearest first. -/
def lowerFrom (before : List Char) : List Char → List Char
  | [] => []
  | c :: rest =>
      (if c = 'Σ' then [if finalSigma before rest then 'ς' else 'σ'] else lowerChar c) ++
        lowerFrom (c :: before) rest

/-- `s.lower()`. -/
def lower (s : String) : String := ⟨lowerFrom [] s.data⟩

/-- `s.upper()`. -/
def upper (s : String) : String := ⟨s.data.flatMap upperChar⟩

/-- `s.strip()`. -/
def strip (s : String) : String := ⟨(s.data.dropWhile isSpace).rdropWhile isSpace⟩

/-- `s.split()`: the maximal runs of non-whitespace characters. -/
def split (s : String) : List String :=
  ((s.data.splitOnP isSpace).filter fun word => !word.isEmpty).map String.mk

/-- `s.split(sep)` for a one-character separator. -/
def splitOn (s : String) (sep : Char) : List String :=
  (s.data.splitOn sep).map String.mk

/-- `sep.join(parts)`. -/
def join (sep : String) (parts : List String) : String :=
  ⟨sep.data.intercalate (parts.map String.data)⟩

/-- Left-to-right replacement of the non-overlapping occurrences of `old`, with one unit of
fuel for each character read. -/
def replaceChars (old new : List Char) : Nat → List Char → List Char
  | 0, s => s
  | _ + 1, [] => []
  | fuel + 1, c :: cs =>
      if old <+: c :: cs then new ++ replaceChars old new fuel ((c :: cs).drop old.length)
      else c :: replaceChars old new fuel cs

/-- `s.replace(old, new)` for a non-empty `old`. -/
def replace (s old new : String) : String :=
  ⟨replaceChars old.data new.data s.data.length s.data⟩

section Occurrences

variable {α : Type} {w A B : List α} {c : α}

/-- A prefix that avoids `c` stops before the first `c`. -/
theorem prefix_of_prefix_append_cons (avoids : c ∉ w) (h : w <+: A ++ c :: B) : w <+: A := by
  induction A generalizing w with
  | nil =>
      rcases List.prefix_cons_iff.mp h with rfl | ⟨t, rfl, -⟩
      · exact List.nil_prefix
      · exact absurd (List.mem_cons_self c t) avoids
  | cons a A ih =>
      rcases List.prefix_cons_iff.mp h with rfl | ⟨t, rfl, rest⟩
      · exact List.nil_prefix
      · exact List.cons_prefix_cons.mpr ⟨rfl, ih (fun mem => avoids (List.mem_cons_of_mem a mem)) rest⟩

/-- An occurrence of a word that avoids `c` lies on one side of any `c`. -/
theorem infix_append_cons (avoids : c ∉ w) (h : w <:+: A ++ c :: B) : w <:+: A ∨ w <:+: B := by
  induction A with
  | nil =>
      rcases List.infix_cons_iff.mp h with head | tail
      · rcases List.prefix_cons_iff.mp head with rfl | ⟨t, rfl, -⟩
        · exact .inl List.nil_infix
        · exact absurd (List.mem_cons_self c t) avoids
      · exact .inr tail
  | cons a A ih =>
      rcases List.infix_cons_iff.mp h with head | tail
      · exact .inl (prefix_of_prefix_append_cons avoids head).isInfix
      · exact (ih tail).imp_left List.infix_cons

/-- An occurrence in `A ++ B` that no suffix of the word starting after its first letter can
continue into `B` lies in `A` or in `B`. -/
theorem infix_append_of_seam (seam : ∀ k < w.length, 0 < k → ¬ w.drop k <+: B)
    (h : w <:+: A ++ B) : w <:+: A ∨ w <:+: B := by
  obtain ⟨s, t, split⟩ := h
  rcases List.append_eq_append_iff.mp split with ⟨a, rfl, -⟩ | ⟨c, front, rfl⟩
  · exact .inl ⟨s, a, rfl⟩
  · rcases List.append_eq_append_iff.mp front with ⟨a, rfl, rfl⟩ | ⟨d, rfl, rfl⟩
    · cases a with
      | nil => exact .inr ⟨[], t, by simp⟩
      | cons x a =>
          cases c with
          | nil => exact .inl ⟨s, [], by simp⟩
          | cons y c =>
              refine absurd ⟨t, ?_⟩ (seam (x :: a).length (by simp) (by simp))
              simp
    · exact .inr ⟨d, t, by simp⟩

/-- A non-empty word none of whose letters occur in a list is not in it. -/
theorem not_infix_of_disjoint (nonempty : w ≠ []) (disjoint : ∀ x ∈ w, x ∉ B) : ¬ w <:+: B := by
  intro h
  obtain ⟨x, mem⟩ := List.exists_mem_of_ne_nil w nonempty
  exact disjoint x mem (h.subset mem)

/-- An occurrence of a word whose first letter is not in `A` lies in `B`. -/
theorem infix_of_infix_append_of_head (avoids : c ∉ A) (h : c :: w <:+: A ++ B) :
    c :: w <:+: B := by
  induction A with
  | nil => exact h
  | cons a A ih =>
      rcases List.infix_cons_iff.mp h with head | tail
      · obtain ⟨rfl, -⟩ := List.cons_prefix_cons.mp head
        exact absurd (List.mem_cons_self c A) avoids
      · exact ih (fun mem => avoids (List.mem_cons_of_mem a mem)) tail

/-- An occurrence of a word whose last letter is not in `B` lies in `A`. -/
theorem infix_of_infix_append_of_last (avoids : c ∉ B) (h : w ++ [c] <:+: A ++ B) :
    w ++ [c] <:+: A := by
  have reversed : c :: w.reverse <:+: B.reverse ++ A.reverse := by
    simpa using List.reverse_infix.mpr h
  simpa using List.reverse_infix.mpr
    (infix_of_infix_append_of_head (by simpa using avoids) reversed)

end Occurrences

@[simp] theorem contains_iff (s sub : String) : contains s sub = true ↔ sub.data <:+: s.data :=
  decide_eq_true_iff

@[simp] theorem startswith_iff (s pre : String) : startswith s pre = true ↔ pre.data <+: s.data :=
  decide_eq_true_iff

@[simp] theorem endswith_iff (s suf : String) : endswith s suf = true ↔ suf.data <:+ s.data :=
  decide_eq_true_iff

@[simp] theorem data_upper (s : String) : (upper s).data = s.data.flatMap upperChar := rfl

theorem append_of_span {α : Type} {p : α → Bool} {s front back : List α}
    (spanned : s.span p = (front, back)) : front ++ back = s := by
  rw [List.span_eq_take_drop, Prod.mk.injEq] at spanned
  rw [← spanned.1, ← spanned.2, List.takeWhile_append_dropWhile]

/-- A run of `p`, then a character that is not, splits there. -/
theorem span_append_of_not {p : Char → Bool} {run rest : List Char} {c : Char}
    (inRun : ∀ x ∈ run, p x = true) (stop : p c = false) :
    (run ++ c :: rest).span p = (run, c :: rest) := by
  simp [List.span_eq_take_drop, List.takeWhile_append_of_pos inRun,
    List.dropWhile_append_of_pos inRun, stop]

/-- `', '.join` of two or more parts: the first, a comma and a space, then the rest joined. -/
theorem data_join_comma (clause next : String) (clauses : List String) :
    (join ", " (clause :: next :: clauses)).data =
      (clause.data ++ [',']) ++ ' ' :: (join ", " (next :: clauses)).data := by
  simp [join, List.intercalate]

theorem data_eq_nil_of_isEmpty {s : String} (empty : s.isEmpty = true) : s.data = [] := by
  obtain ⟨_ | ⟨c, cs⟩⟩ := s
  · rfl
  · have := c.utf8Size_pos
    simp [String.isEmpty, String.endPos, String.utf8ByteSize, String.utf8ByteSize.go,
      String.Pos.ext_iff] at empty
    omega

/-- A text that starts and ends with a visible character is its own strip. -/
theorem strip_of_visible_ends {s : String} {first last : Char} {middle : List Char}
    (data : s.data = first :: (middle ++ [last])) (firstVisible : isSpace first = false)
    (lastVisible : isSpace last = false) : strip s = s := by
  apply String.ext
  rw [strip, data, List.dropWhile_cons_of_neg (by simp [firstVisible]), ← List.cons_append,
    List.rdropWhile_concat_neg _ _ _ (by simp [lastVisible])]

/-! ## Lower case -/

section Lower

variable {d : Char}

/-- Without a capital sigma, `lower` maps character by character. -/
theorem lowerFrom_of_not_mem (before : List Char) {s : List Char} (noSigma : 'Σ' ∉ s) :
    lowerFrom before s = s.flatMap lowerChar := by
  induction s generalizing before with
  | nil => rfl
  | cons c s ih =>
      simp only [List.mem_cons, not_or] at noSigma
      rw [lowerFrom, if_neg fun same => noSigma.1 same.symm, ih (c :: before) noSigma.2]
      rfl

theorem data_lower_of_not_mem {s : String} (noSigma : 'Σ' ∉ s.data) :
    (lower s).data = s.data.flatMap lowerChar :=
  lowerFrom_of_not_mem [] noSigma

theorem flatMap_lowerChar_of_ascii : ∀ {s : List Char}, (∀ c ∈ s, c.toNat < 128) →
    s.flatMap lowerChar = s.map Char.toLower
  | [], _ => rfl
  | c :: s, ascii => by
      rw [List.flatMap_cons, lowerChar_of_lt (ascii c (List.mem_cons_self c s)),
        flatMap_lowerChar_of_ascii fun e mem => ascii e (List.mem_cons_of_mem c mem)]
      rfl

theorem data_lower_of_ascii {s : String} (ascii : ∀ c ∈ s.data, c.toNat < 128) :
    (lower s).data = s.data.map Char.toLower := by
  rw [data_lower_of_not_mem fun mem => absurd (ascii _ mem) (by decide),
    flatMap_lowerChar_of_ascii ascii]

/-- An ASCII text with no upper-case letter is its own lower case. -/
theorem lower_eq_self {s : String} (fixed : ∀ c ∈ s.data, c.toNat < 128 ∧ c.toLower = c) :
    lower s = s :=
  String.ext <| (data_lower_of_ascii fun c mem => (fixed c mem).1).trans <|
    (List.map_congr_left fun c mem => (fixed c mem).2).trans (List.map_id' _)

theorem lower_append {s t : String} (sNoSigma : 'Σ' ∉ s.data) (tNoSigma : 'Σ' ∉ t.data) :
    lower (s ++ t) = lower s ++ lower t := by
  apply String.ext
  rw [String.data_append, data_lower_of_not_mem (by simp [sNoSigma, tNoSigma]),
    String.data_append, data_lower_of_not_mem sNoSigma, data_lower_of_not_mem tNoSigma,
    List.flatMap_append]

/-- A character of a lower case comes from a character of the text, or is a final sigma. -/
theorem mem_lowerFrom : ∀ {before s : List Char}, d ∈ lowerFrom before s →
    (∃ c ∈ s, d ∈ lowerChar c) ∨ d = 'ς'
  | _, [], mem => nomatch mem
  | before, c :: s, mem => by
      rw [lowerFrom, List.mem_append] at mem
      rcases mem with here | later
      · split at here
        · next sigma =>
            split at here
            · exact .inr (List.mem_singleton.mp here)
            · refine .inl ⟨c, List.mem_cons_self c s, ?_⟩
              rw [sigma, lowerChar_capitalSigma]
              exact here
        · exact .inl ⟨c, List.mem_cons_self c s, here⟩
      · rcases mem_lowerFrom later with ⟨c', mem', image⟩ | final
        · exact .inl ⟨c', List.mem_cons_of_mem c mem', image⟩
        · exact .inr final

theorem mem_lower {s : String} (mem : d ∈ (lower s).data) :
    (∃ c ∈ s.data, d ∈ lowerChar c) ∨ d = 'ς' :=
  mem_lowerFrom mem

/-- An ASCII character of a lower case is the lower case of an ASCII character of the text, or a
lower-case letter. -/
theorem mem_lower_ascii {s : String} (mem : d ∈ (lower s).data) (ascii : d.toNat < 128) :
    (∃ c ∈ s.data, d = c.toLower) ∨ 97 ≤ d.toNat ∧ d.toNat ≤ 122 := by
  rcases mem_lower mem with ⟨c, mem, image⟩ | rfl
  · exact (mem_lowerChar_ascii image ascii).imp_left fun lowered => ⟨c, mem, lowered⟩
  · exact absurd ascii (by decide)

theorem flatMap_lowerChar_of_fixed : ∀ {s : List Char}, (∀ d ∈ s, lowerChar d = [d]) →
    s.flatMap lowerChar = s
  | [], _ => rfl
  | d :: s, fixed => by
      rw [List.flatMap_cons, fixed d (List.mem_cons_self d s),
        flatMap_lowerChar_of_fixed fun e mem => fixed e (List.mem_cons_of_mem d mem)]
      rfl

@[simp] theorem lower_lower (s : String) : lower (lower s) = lower s := by
  have fixed : ∀ d ∈ (lower s).data, lowerChar d = [d] := fun d mem => by
    rcases mem_lower mem with ⟨c, -, image⟩ | rfl
    · exact lowerChar_lowerChar image
    · exact lowerChar_finalSigma
  have noSigma : 'Σ' ∉ (lower s).data := fun mem => by
    have sigmaFixed := fixed _ mem
    rw [lowerChar_capitalSigma] at sigmaFixed
    exact absurd sigmaFixed (by decide)
  exact String.ext ((data_lower_of_not_mem noSigma).trans (flatMap_lowerChar_of_fixed fixed))

end Lower

/-! ## Words in a lower case -/

/-- `ς` read as `σ`: where `lower` and the character-wise lower case can differ. -/
def foldSigma (c : Char) : Char := if c = 'ς' then 'σ' else c

theorem map_foldSigma_lowerFrom : ∀ (before s : List Char),
    (lowerFrom before s).map foldSigma = (s.flatMap lowerChar).map foldSigma
  | _, [] => rfl
  | before, c :: s => by
      rw [lowerFrom, List.flatMap_cons, List.map_append, List.map_append,
        map_foldSigma_lowerFrom (c :: before) s]
      congr 1
      split
      · next sigma =>
          rw [sigma, lowerChar_capitalSigma]
          split <;> rfl
      · rfl

/-- A word with no small sigma occurs in a list exactly when it occurs in its `foldSigma` image. -/
theorem infix_map_foldSigma_iff {w s : List Char} (noSigma : 'σ' ∉ w ∧ 'ς' ∉ w) :
    w <:+: s.map foldSigma ↔ w <:+: s := by
  have unfolded : ∀ {v : List Char}, 'ς' ∉ v → v.map foldSigma = v := fun avoids =>
    (List.map_congr_left fun c mem =>
      show foldSigma c = c from if_neg fun same : c = 'ς' => avoids (same ▸ mem)).trans
      (List.map_id' _)
  constructor
  · rintro ⟨front, back, split⟩
    obtain ⟨frontMiddle, back', rfl, frontMiddleMap, -⟩ := List.map_eq_append_iff.mp split.symm
    obtain ⟨front', middle, rfl, -, middleMap⟩ := List.map_eq_append_iff.mp frontMiddleMap
    have plain : 'ς' ∉ middle := fun mem => noSigma.1 (by
      rw [← middleMap]
      exact List.mem_map_of_mem foldSigma mem)
    rw [← middleMap, unfolded plain]
    exact ⟨front', back', rfl⟩
  · intro occurs
    simpa only [unfolded noSigma.2] using occurs.map foldSigma

/-- A word with no small sigma occurs in `s.lower()` exactly when it occurs in the
character-wise lower case. -/
theorem infix_lower_iff {w : List Char} (noSigma : 'σ' ∉ w ∧ 'ς' ∉ w) (s : String) :
    w <:+: (lower s).data ↔ w <:+: s.data.flatMap lowerChar := by
  rw [← infix_map_foldSigma_iff noSigma, lower, map_foldSigma_lowerFrom,
    infix_map_foldSigma_iff noSigma]

end MysqlChReplicator.Python

import MysqlChReplicator.Python.Text

/-!
# The words of `str.split()`

`str.split()` with no separator returns the maximal runs of non-whitespace characters. Its
laws are stated on `words`, the runs as character lists: a space cuts a text into the words of
its two sides, a joined word list splits back into itself, stripping keeps the words, and a
visible character at the end extends the last run.
-/

namespace MysqlChReplicator.Python

/-- The words of `s.split()`, as character lists. -/
def words (cs : List Char) : List (List Char) :=
  (cs.splitOnP isSpace).filter fun word => !word.isEmpty

theorem split_eq_words (s : String) : split s = (words s.data).map String.mk := rfl

theorem data_join_space (parts : List String) :
    (join " " parts).data = [' '].intercalate (parts.map String.data) := rfl

/-- A word: non-empty, without whitespace. -/
def IsWord (word : List Char) : Prop := word ≠ [] ∧ ∀ c ∈ word, isSpace c = false

instance : DecidablePred IsWord := fun word =>
  inferInstanceAs (Decidable (word ≠ [] ∧ ∀ c ∈ word, isSpace c = false))

section SplitOnP

variable {α : Type} {p : α → Bool}

theorem modifyHead_append {f : α → α} {xs : List α} (ys : List α) (nonempty : xs ≠ []) :
    (xs ++ ys).modifyHead f = xs.modifyHead f ++ ys := by
  obtain ⟨x, xs, rfl⟩ := List.exists_cons_of_ne_nil nonempty
  rfl

theorem splitOnP_append_cons {s : α} (separator : p s = true) (xs ys : List α) :
    (xs ++ s :: ys).splitOnP p = xs.splitOnP p ++ ys.splitOnP p := by
  induction xs with
  | nil => simp [separator]
  | cons x xs ih =>
      rw [List.cons_append, List.splitOnP_cons, List.splitOnP_cons, ih]
      split
      · rfl
      · exact modifyHead_append _ (List.splitOnP_ne_nil p xs)

/-- A character that is no separator extends the last piece. -/
theorem splitOnP_concat {c : α} (visible : p c = false) (xs : List α) :
    ∃ front last, xs.splitOnP p = front ++ [last] ∧
      (xs ++ [c]).splitOnP p = front ++ [last ++ [c]] := by
  induction xs with
  | nil => exact ⟨[], [], rfl, by simp [visible]⟩
  | cons x xs ih =>
      obtain ⟨front, last, pieces, extended⟩ := ih
      rw [List.cons_append, List.splitOnP_cons, List.splitOnP_cons, pieces, extended]
      split
      · exact ⟨[] :: front, last, rfl, rfl⟩
      · cases front with
        | nil => exact ⟨[], x :: last, rfl, rfl⟩
        | cons first front => exact ⟨(x :: first) :: front, last, rfl, rfl⟩

theorem not_of_mem_splitOnP {xs word : List α} (mem : word ∈ xs.splitOnP p) :
    ∀ c ∈ word, p c = false := by
  induction xs generalizing word with
  | nil => simp_all
  | cons x xs ih =>
      rw [List.splitOnP_cons] at mem
      obtain ⟨first, rest, pieces⟩ := List.exists_cons_of_ne_nil (List.splitOnP_ne_nil p xs)
      split at mem
      · rcases List.mem_cons.mp mem with rfl | later
        · simp
        · exact ih later
      · next head =>
          rw [pieces, List.modifyHead_cons, List.mem_cons] at mem
          rcases mem with rfl | later
          · simp only [List.mem_cons, forall_eq_or_imp, Bool.not_eq_true] at head ⊢
            exact ⟨head, ih (by simp [pieces])⟩
          · exact ih (by simp [pieces, later])

theorem flatten_splitOnP (xs : List α) : (xs.splitOnP p).flatten = xs.filter fun c => !p c := by
  induction xs with
  | nil => rfl
  | cons x xs ih =>
      obtain ⟨first, rest, pieces⟩ := List.exists_cons_of_ne_nil (List.splitOnP_ne_nil p xs)
      rw [List.splitOnP_cons, List.filter_cons]
      split
      · next separator => simp [separator, ih]
      · next visible => simp_all

end SplitOnP

section Words

variable {s : Char}

theorem isSpace_space : isSpace ' ' = true := rfl

theorem isSpace_comma : isSpace ',' = false := rfl

theorem intercalate_space_cons_cons (w v : List Char) (ws : List (List Char)) :
    [' '].intercalate (w :: v :: ws) = w ++ ' ' :: [' '].intercalate (v :: ws) := rfl

theorem intercalate_space_append :
    ∀ {front : List (List Char)} (back : List (List Char)), front ≠ [] → back ≠ [] →
      [' '].intercalate (front ++ back) = [' '].intercalate front ++ ' ' :: [' '].intercalate back
  | [w], back, _, nonempty => by
      obtain ⟨v, vs, rfl⟩ := List.exists_cons_of_ne_nil nonempty
      rw [List.singleton_append, intercalate_space_cons_cons]
      simp [List.intercalate]
  | w :: v :: front, back, _, nonempty => by
      rw [List.cons_append, List.cons_append, intercalate_space_cons_cons, ← List.cons_append,
        intercalate_space_append back (List.cons_ne_nil _ _) nonempty, intercalate_space_cons_cons]
      simp

@[simp] theorem words_nil : words [] = [] := rfl

theorem words_append_space (space : isSpace s = true) (xs ys : List Char) :
    words (xs ++ s :: ys) = words xs ++ words ys := by
  simp only [words, splitOnP_append_cons space, List.filter_append]

theorem words_cons_space (space : isSpace s = true) (xs : List Char) :
    words (s :: xs) = words xs :=
  words_append_space space [] xs

theorem isWord_of_mem_words {xs word : List Char} (mem : word ∈ words xs) : IsWord word := by
  simp only [words, List.mem_filter, Bool.not_eq_true', List.isEmpty_eq_false] at mem
  exact ⟨by simpa using mem.2, not_of_mem_splitOnP mem.1⟩

theorem words_of_visible {word : List Char} (visible : ∀ c ∈ word, isSpace c = false) :
    words word = [word].filter fun w => !w.isEmpty := by
  rw [words, List.splitOnP_eq_single _ _ fun c mem => by simp [visible c mem]]

theorem words_of_isWord {word : List Char} (isWord : IsWord word) : words word = [word] := by
  rw [words_of_visible isWord.2]
  simp [isWord.1]

/-- `' '.join` of pieces without whitespace keeps the non-empty ones as its words. -/
theorem words_intercalate_of_visible :
    ∀ {ws : List (List Char)}, (∀ w ∈ ws, ∀ c ∈ w, isSpace c = false) →
      words ([' '].intercalate ws) = ws.filter fun w => !w.isEmpty
  | [], _ => rfl
  | [w], visible =>
      (congrArg words (List.append_nil w)).trans (words_of_visible (visible w (by simp)))
  | w :: v :: ws, visible => by
      rw [intercalate_space_cons_cons, words_append_space isSpace_space,
        words_of_visible (visible w (by simp)),
        words_intercalate_of_visible fun u mem => visible u (List.mem_cons_of_mem w mem),
        ← List.filter_append]
      rfl

/-- `' '.join(words)` splits back into the words. -/
theorem words_intercalate {ws : List (List Char)} (all : ∀ w ∈ ws, IsWord w) :
    words ([' '].intercalate ws) = ws := by
  rw [words_intercalate_of_visible fun w mem => (all w mem).2, List.filter_eq_self]
  simpa using fun w mem => (all w mem).1

theorem words_words (xs : List Char) : words ([' '].intercalate (words xs)) = words xs :=
  words_intercalate fun _ => isWord_of_mem_words

/-- The visible characters of `' '.join(pieces)` are those of the pieces. -/
theorem filter_intercalate :
    ∀ {ws : List (List Char)}, (∀ w ∈ ws, ∀ c ∈ w, isSpace c = false) →
      ([' '].intercalate ws).filter (fun c => !isSpace c) = ws.flatten
  | [], _ => rfl
  | [w], visible => by simpa [List.intercalate] using visible
  | w :: v :: ws, visible => by
      rw [intercalate_space_cons_cons, List.filter_append, List.filter_cons_of_neg (by decide),
        filter_intercalate fun u mem => visible u (List.mem_cons_of_mem w mem),
        List.filter_eq_self.mpr (by simpa using visible w (by simp))]
      rfl

/-- The visible characters of `' '.join(pieces)` are those of the pieces, whatever they hold. -/
theorem filter_visible_intercalate_space : ∀ ws : List (List Char),
    ([' '].intercalate ws).filter (fun c => !isSpace c) = ws.flatten.filter fun c => !isSpace c
  | [] => rfl
  | [w] => by simp [List.intercalate]
  | w :: v :: ws => by
      rw [intercalate_space_cons_cons, List.filter_append, List.filter_cons_of_neg (by decide),
        filter_visible_intercalate_space (v :: ws)]
      simp only [List.flatten_cons, List.filter_append]

theorem flatten_words (xs : List Char) : (words xs).flatten = xs.filter fun c => !isSpace c := by
  rw [← flatten_splitOnP, words, List.flatten_filter_not_isEmpty]

/-- `' '.join(text.split())` has the visible characters of the text. -/
theorem filter_intercalate_words (xs : List Char) :
    ([' '].intercalate (words xs)).filter (fun c => !isSpace c) = xs.filter fun c => !isSpace c :=
  (filter_intercalate fun _ mem => (isWord_of_mem_words mem).2).trans (flatten_words xs)

theorem words_dropWhile (xs : List Char) : words (xs.dropWhile isSpace) = words xs := by
  induction xs with
  | nil => rfl
  | cons x xs ih =>
      rw [List.dropWhile_cons]
      split
      · next space => rw [ih, words_cons_space space]
      · rfl

theorem words_rdropWhile (xs : List Char) : words (xs.rdropWhile isSpace) = words xs := by
  induction xs using List.reverseRecOn with
  | nil => rfl
  | append_singleton xs x ih =>
      rw [List.rdropWhile_concat]
      split
      · next space => rw [ih, words_append_space space, words_nil, List.append_nil]
      · rfl

/-- `s.strip().split() == s.split()`. -/
theorem words_strip (s : String) : words (strip s).data = words s.data :=
  (words_rdropWhile _).trans (words_dropWhile _)

theorem words_spaces_append {pre : List Char} (spaces : ∀ c ∈ pre, isSpace c = true)
    (xs : List Char) : words (pre ++ xs) = words xs := by
  induction pre with
  | nil => rfl
  | cons c pre ih =>
      rw [List.cons_append, words_cons_space (spaces c (by simp))]
      exact ih fun d mem => spaces d (List.mem_cons_of_mem c mem)

theorem intercalate_append_concat {α : Type} (sep : List α) (c : α) :
    ∀ (front : List (List α)) (last : List α),
      sep.intercalate (front ++ [last ++ [c]]) = sep.intercalate (front ++ [last]) ++ [c]
  | [], _ => by simp [List.intercalate]
  | [_], _ => by simp [List.intercalate]
  | first :: second :: front, last => by
      have later := intercalate_append_concat sep c (second :: front) last
      simp only [List.cons_append, List.intercalate, List.intersperse_cons₂,
        List.flatten_cons] at later ⊢
      rw [later]
      simp

/-- A visible character at the end of a text ends `' '.join(text.split())`; before it stands a
text with the same words and the same visible characters. -/
theorem intercalate_words_concat {c : Char} (visible : isSpace c = false) (xs : List Char) :
    ∃ front, [' '].intercalate (words (xs ++ [c])) = front ++ [c] ∧ words front = words xs ∧
      front.filter (fun c => !isSpace c) = xs.filter fun c => !isSpace c := by
  obtain ⟨pieces, last, cut, extended⟩ := splitOnP_concat visible xs
  have noSpace : ∀ w ∈ (pieces.filter fun w => !w.isEmpty) ++ [last], ∀ d ∈ w,
      isSpace d = false := by
    intro w mem
    have piece : w ∈ xs.splitOnP isSpace := by
      rw [cut]
      simp only [List.mem_append, List.mem_filter, List.mem_singleton] at mem ⊢
      tauto
    exact not_of_mem_splitOnP piece
  refine ⟨[' '].intercalate ((pieces.filter fun w => !w.isEmpty) ++ [last]), ?_, ?_, ?_⟩
  · rw [← intercalate_append_concat]
    simp [words, extended, List.filter_append]
  · rw [words_intercalate_of_visible noSpace, words, cut]
    simp [List.filter_append, List.filter_filter]
  · rw [filter_intercalate noSpace, ← flatten_splitOnP xs, cut]
    simp [List.flatten_filter_not_isEmpty]

end Words

end MysqlChReplicator.Python

import MysqlChReplicator.Converter.Rows

/-!
# SET columns

A `set(...)` column arrives as a bitmask or as a Python set of labels; both become the declared
labels they select, in declaration order, joined by commas. The two agree, and the text reads
back to its members, when the labels are distinct, non-empty and free of commas, and when no
other step of `convert_record` fires on the column: the unsigned corrections compare the value
with 0, which a set does not allow, and the `mediumint` one tests the MySQL type, labels
included.
-/

namespace MysqlChReplicator.Converter

open Python

/-- Reading a SET value back: its comma-separated members, none for the empty string. -/
def setMembers (text : String) : List String :=
  if text = "" then [] else splitOn text ','

/-- Labels that a comma-joined text carries and gives back. -/
def SeparableLabels (labels : List String) : Prop :=
  ∀ label ∈ labels, label ≠ "" ∧ ',' ∉ label.data

instance : DecidablePred SeparableLabels := fun labels =>
  inferInstanceAs (Decidable (∀ label ∈ labels, _))

section Labels

theorem splitOn_join {parts : List String} (commaFree : ∀ part ∈ parts, ',' ∉ part.data)
    (nonempty : parts ≠ []) : splitOn (join "," parts) ',' = parts := by
  have roundTrip := List.splitOn_intercalate (parts.map String.data) ','
    (by simpa using commaFree) (by simpa using nonempty)
  simp [splitOn, join, roundTrip, Function.comp_def]

theorem setMembers_join {parts : List String} (separable : SeparableLabels parts) :
    setMembers (join "," parts) = parts := by
  have commaFree := fun part mem => (separable part mem).2
  unfold setMembers
  split
  · next empty =>
      cases parts with
      | nil => rfl
      | cons part rest =>
          have single := splitOn_join commaFree (List.cons_ne_nil part rest)
          rw [empty, show splitOn "" ',' = [""] from rfl, eq_comm, List.cons_eq_cons] at single
          exact absurd single.1 (separable part (List.mem_cons_self part rest)).1
  · next nonEmpty =>
      cases parts with
      | nil => exact absurd rfl nonEmpty
      | cons part rest => exact splitOn_join commaFree (List.cons_ne_nil part rest)

/-- Filtering distinct labels by a sublist of them gives that sublist. -/
theorem filter_mem_of_sublist {labels selected : List String} (distinct : labels.Nodup)
    (sub : List.Sublist selected labels) : labels.filter (· ∈ selected) = selected := by
  induction sub with
  | slnil => rfl
  | @cons selected labels label sub ih =>
      have fresh : label ∉ selected := fun mem => (List.nodup_cons.mp distinct).1 (sub.subset mem)
      rw [List.filter_cons_of_neg (by simpa using fresh), ih (List.nodup_cons.mp distinct).2]
  | @cons₂ selected labels label sub ih =>
      have fresh := (List.nodup_cons.mp distinct).1
      have same : ∀ x ∈ labels, decide (x ∈ label :: selected) = decide (x ∈ selected) :=
        fun x mem => by simp [show x ≠ label from fun h => fresh (h ▸ mem)]
      rw [List.filter_cons_of_pos (by simp), List.filter_congr same,
        ih (List.nodup_cons.mp distinct).2]

theorem selectByMask_sublist (bitMask : Int) (labels : List String) :
    List.Sublist (selectByMask bitMask labels) labels := by
  have sub := (@List.filter_sublist _ (fun (column : Nat × String) =>
    decide (bitMask / 2 ^ column.1 % 2 = 1)) labels.enum).map Prod.snd
  rwa [List.enum_map_snd] at sub

end Labels

theorem startswith_eq_false_of_startswith {s pre other : String} (starts : startswith s pre = true)
    (differ : ¬ other.data <+: pre.data ∧ ¬ pre.data <+: other.data) :
    startswith s other = false := by
  rw [← Bool.not_eq_true, startswith_iff]
  intro otherStarts
  rcases List.prefix_or_prefix_of_prefix otherStarts ((startswith_iff _ _).mp starts) with h | h
  exacts [differ.1 h, differ.2 h]

section SetColumn

variable {ext : Externals} {mysqlStructure : TableStructure} {idx : Nat}
  {mysqlFieldType clickhouseFieldType : String}

/-- On a SET column whose types fire none of the UUID and unsigned tests, an int or a set goes
through the set step alone. -/
theorem convertValue_setColumn (isSet : startswith mysqlFieldType "set(" = true)
    (notMediumint : contains (lower mysqlFieldType) "mediumint" = false)
    (uncorrected : ∀ name ∈ ["UUID", "UInt8", "UInt16", "UInt32", "UInt64"],
      contains clickhouseFieldType name = false)
    {value : PyValue} (intOrSet : (∃ bitMask, value = .int bitMask) ∨ ∃ members, value = .set members) :
    convertValue ext mysqlStructure idx mysqlFieldType clickhouseFieldType value =
      setStep mysqlStructure idx mysqlFieldType value := by
  have notTime : startswith mysqlFieldType "time" = false :=
    startswith_eq_false_of_startswith isSet (by decide)
  have notPoint : startswith mysqlFieldType "point" = false :=
    startswith_eq_false_of_startswith isSet (by decide)
  have notEnum : startswith mysqlFieldType "enum(" = false :=
    startswith_eq_false_of_startswith isSet (by decide)
  have notJson : (mysqlFieldType == "json") = false := by
    rw [beq_eq_false_iff_ne]
    rintro rfl
    exact absurd isSet (by decide)
  simp only [List.forall_mem_cons, List.forall_mem_nil, and_true] at uncorrected
  obtain ⟨uuid, uint8, uint16, uint32, uint64⟩ := uncorrected
  rcases intOrSet with ⟨bitMask, rfl⟩ | ⟨members, rfl⟩ <;>
    simp [convertValue, timeStep, jsonStep, nonNullSteps, uuidStep, unsignedCorrections,
      unsignedCorrection, charsetStep, pointStep, enumStep, notTime, notJson, notPoint, notEnum,
      notMediumint, uuid, uint8, uint16, uint32, uint64]

theorem setStep_declared {field : TableField} {labels : List String}
    (isSet : contains mysqlFieldType "set(" = true)
    (fieldIdx : mysqlStructure.fields[idx]? = some field)
    (declared : field.additionalData = some labels) :
    (∀ bitMask, setStep mysqlStructure idx mysqlFieldType (.int bitMask) =
      .ok (.str (join "," (selectByMask bitMask labels)))) ∧
    ∀ members, setStep mysqlStructure idx mysqlFieldType (.set members) =
      .ok (.str (join "," (labels.filter (· ∈ members)))) :=
  ⟨fun _ => by simp [setStep, fieldAt, isSet, fieldIdx, declared],
    fun _ => by simp [setStep, fieldAt, isSet, fieldIdx, declared]⟩

end SetColumn

/-- On a SET column whose types fire no other step, and whose labels are distinct, a bitmask
converts to the labels it selects, exactly as the set of those labels does, and a set converts
to its declared members in declaration order; with labels that are also non-empty and free of
commas, the text reads back to those members. -/
theorem convertColumn_set (ext : Externals) (mysqlRecord : List PyValue)
    (mysqlFieldTypes clickhouseFieldTypes : List String) (mysqlStructure : TableStructure)
    (idx : Nat) (mysqlFieldType clickhouseFieldType : String) (field : TableField)
    (labels : List String)
    (mysqlAt : mysqlFieldTypes[idx]? = some mysqlFieldType)
    (clickhouseAt : clickhouseFieldTypes[idx]? = some clickhouseFieldType)
    (fieldIdx : mysqlStructure.fields[idx]? = some field)
    (declared : field.additionalData = some labels)
    (isSet : startswith mysqlFieldType "set(" = true)
    (notMediumint : contains (lower mysqlFieldType) "mediumint" = false)
    (uncorrected : ∀ name ∈ ["UUID", "UInt8", "UInt16", "UInt32", "UInt64"],
      contains clickhouseFieldType name = false)
    (distinct : labels.Nodup) :
    (∀ bitMask : Int,
      convertColumn ext mysqlRecord mysqlFieldTypes clickhouseFieldTypes mysqlStructure false idx
          (.int bitMask) = .ok (.str (join "," (selectByMask bitMask labels))) ∧
      convertColumn ext mysqlRecord mysqlFieldTypes clickhouseFieldTypes mysqlStructure false idx
          (.set (selectByMask bitMask labels)) =
        .ok (.str (join "," (selectByMask bitMask labels)))) ∧
    (∀ members : List String,
      convertColumn ext mysqlRecord mysqlFieldTypes clickhouseFieldTypes mysqlStructure false idx
          (.set members) = .ok (.str (join "," (labels.filter (· ∈ members))))) ∧
    (SeparableLabels labels →
      (∀ bitMask : Int,
        setMembers (join "," (selectByMask bitMask labels)) = selectByMask bitMask labels) ∧
      ∀ members : List String,
        setMembers (join "," (labels.filter (· ∈ members))) = labels.filter (· ∈ members)) := by
  have column : ∀ value, ((∃ bitMask, value = .int bitMask) ∨ ∃ members, value = .set members) →
      convertColumn ext mysqlRecord mysqlFieldTypes clickhouseFieldTypes mysqlStructure false idx
        value = setStep mysqlStructure idx mysqlFieldType value := fun value intOrSet => by
    rw [convertColumn_converted value (.inl rfl) mysqlAt clickhouseAt,
      convertValue_setColumn isSet notMediumint uncorrected intOrSet]
  obtain ⟨onInt, onSet⟩ := setStep_declared
    ((contains_iff _ _).mpr ((startswith_iff _ _).mp isSet).isInfix) fieldIdx declared
  refine ⟨fun bitMask => ⟨?_, ?_⟩, fun members => ?_, fun separable => ?_⟩
  · rw [column _ (.inl ⟨bitMask, rfl⟩), onInt]
  · rw [column _ (.inr ⟨_, rfl⟩), onSet,
      filter_mem_of_sublist distinct (selectByMask_sublist bitMask labels)]
  · rw [column _ (.inr ⟨members, rfl⟩), onSet]
  · have readBack : ∀ sub, List.Sublist sub labels → setMembers (join "," sub) = sub :=
      fun sub sublist => setMembers_join fun label mem => separable label (sublist.subset mem)
    exact ⟨fun bitMask => readBack _ (selectByMask_sublist bitMask labels),
      fun members => readBack _ (List.filter_sublist labels)⟩

theorem convertColumn_set_two_labels :
    let field : TableField :=
      { name := "s", fieldType := "set('a','b')", additionalData := some ["a", "b"] }
    let table : TableStructure := { fields := [field] }
    (["set('a','b')"][0]? = some "set('a','b')" ∧
      ["Nullable(String)"][0]? = some "Nullable(String)" ∧ table.fields[0]? = some field ∧
      field.additionalData = some ["a", "b"] ∧ startswith "set('a','b')" "set(" = true ∧
      contains (lower "set('a','b')") "mediumint" = false ∧
      (∀ name ∈ ["UUID", "UInt8", "UInt16", "UInt32", "UInt64"],
        contains "Nullable(String)" name = false) ∧
      ["a", "b"].Nodup) ∧
    (∀ bitMask : Int,
      convertColumn .passThrough [] ["set('a','b')"] ["Nullable(String)"] table false 0
          (.int bitMask) = .ok (.str (join "," (selectByMask bitMask ["a", "b"]))) ∧
      convertColumn .passThrough [] ["set('a','b')"] ["Nullable(String)"] table false 0
          (.set (selectByMask bitMask ["a", "b"])) =
        .ok (.str (join "," (selectByMask bitMask ["a", "b"])))) ∧
    (∀ members : List String,
      convertColumn .passThrough [] ["set('a','b')"] ["Nullable(String)"] table false 0
          (.set members) = .ok (.str (join "," (["a", "b"].filter (· ∈ members))))) ∧
    (SeparableLabels ["a", "b"] →
      (∀ bitMask : Int,
        setMembers (join "," (selectByMask bitMask ["a", "b"])) = selectByMask bitMask ["a", "b"]) ∧
      ∀ members : List String,
        setMembers (join "," (["a", "b"].filter (· ∈ members))) =
          ["a", "b"].filter (· ∈ members)) :=
  ⟨⟨rfl, rfl, rfl, rfl, by decide, by decide, by decide, by decide⟩,
    convertColumn_set .passThrough [] _ _ _ 0 _ _ _ _ rfl rfl rfl rfl (by decide) (by decide)
      (by decide) (by decide)⟩

/-- A label that is a type keyword turns on an unsigned correction, which compares the Python
set with 0; an empty label is lost when the text is read back. -/
theorem convertRecord_set_keyword_and_empty_labels :
    let keywordField : TableField :=
      { name := "s", fieldType := "set('mediumint','b')", additionalData := some ["mediumint", "b"] }
    let emptyField : TableField :=
      { name := "s", fieldType := "set('','a')", additionalData := some ["", "a"] }
    let keyword : TableStructure := { fields := [keywordField] }
    let empty : TableStructure := { fields := [emptyField] }
    convertFieldType {} "set('mediumint','b')" "" = .ok "Nullable(Int32)" ∧
      convertRecord .passThrough [.int 1] ["set('mediumint','b')"] ["Nullable(Int32)"] keyword
        false = .ok [.str "mediumint"] ∧
      convertRecord .passThrough [.set ["mediumint"]] ["set('mediumint','b')"] ["Nullable(Int32)"]
        keyword false = .error .typeError ∧
      convertFieldType {} "set('','a')" "" = .ok "Nullable(String)" ∧
      convertRecord .passThrough [.int 1] ["set('','a')"] ["Nullable(String)"] empty false =
        .ok [.str ""] ∧
      setMembers "" = [] :=
  ⟨rfl, rfl, rfl, rfl, rfl, rfl⟩

end MysqlChReplicator.Converter

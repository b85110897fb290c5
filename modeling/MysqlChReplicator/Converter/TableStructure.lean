import Mathlib.Data.List.InsertIdx
import MysqlChReplicator.Python.Value

/-!
# Table structures and the converter's configuration

`TableField` and `TableStructure` come from `table_structure.py`, which is not under src/:
the records keep the fields `converter.py` reads, and the methods it calls are modelled from
the spec (§3, §4.3). The converter object holds an optional replicator, whose config gives the
type overrides and the database and table filters.
-/

namespace MysqlChReplicator.Converter

open Python

/-- A column: its name, its type, its modifier text and, for `enum`/`set`, its labels. -/
structure TableField where
  name : String
  fieldType : String
  parameters : String := ""
  additionalData : Option (List String) := none
  deriving DecidableEq, Repr

/-- A table: its fields in column order, its primary keys and their positions. -/
structure TableStructure where
  fields : List TableField := []
  primaryKeys : List String := []
  primaryKeyIds : List Nat := []
  tableName : String := ""
  charsetPython : String := ""
  ifNotExists : Bool := false
  deriving DecidableEq, Repr

namespace TableStructure

/-- The field names in column order. -/
def fieldNames (table : TableStructure) : List String :=
  table.fields.map TableField.name

/-- The positions of the primary keys among the field names. -/
def keyIds (table : TableStructure) : List Nat :=
  table.primaryKeys.map fun key => table.fieldNames.indexOf key

/-- Modelled from the spec: `TableStructure.preprocess` recomputes `primary_key_ids`, the
positions of the primary keys among the field names (§3); a key that names no field has no
position and raises, as `list.index` does. -/
def preprocess (table : TableStructure) : Except PyError TableStructure :=
  match table.primaryKeys.find? fun key => key ∉ table.fieldNames with
  | some key => .error (.valueError (key ++ " is not in list"))
  | none => .ok { table with primaryKeyIds := table.keyIds }

/-- Modelled from the spec: `add_field_first` inserts the field at position 0 (§4.3) and, as
every structural change does, recomputes `primary_key_ids` (§3). -/
def addFieldFirst (table : TableStructure) (field : TableField) : TableStructure :=
  let inserted := { table with fields := field :: table.fields }
  { inserted with primaryKeyIds := inserted.keyIds }

/-- The position right after the last of the names that is `after`. -/
def positionAfter : List String → String → Option Nat
  | [], _ => none
  | name :: names, after =>
      match positionAfter names after with
      | some position => some (position + 1)
      | none => if name = after then some 1 else none

/-- Modelled from the spec: `add_field_after` inserts the field right after the column called
`after` (the last one, if several share the name) and recomputes `primary_key_ids`; a name
that no column has raises (§4.3). -/
def addFieldAfter (table : TableStructure) (field : TableField) (after : String) :
    Except PyError TableStructure :=
  match positionAfter table.fieldNames after with
  | some position =>
      let inserted := { table with fields := table.fields.insertIdx position field }
      .ok { inserted with primaryKeyIds := inserted.keyIds }
  | none => .error (.exception "field after not found")

/-- Modelled from the spec: dropping a column removes its field, the first of that name, and
recomputes `primary_key_ids` (§3); a name that no column has raises. -/
def removeField (table : TableStructure) (name : String) : Except PyError TableStructure :=
  if name ∈ table.fieldNames then
    let removed := { table with fields := table.fields.eraseP fun field => field.name == name }
    .ok { removed with primaryKeyIds := removed.keyIds }
  else .error (.exception "field not found")

theorem fields_of_preprocess {table processed : TableStructure}
    (ok : table.preprocess = .ok processed) : processed.fields = table.fields := by
  unfold preprocess at ok
  split at ok
  · cases ok
  · cases ok
    rfl

theorem positionAfter_eq_none {after : String} :
    ∀ {names : List String}, positionAfter names after = none → after ∉ names
  | [], _ => List.not_mem_nil after
  | name :: names, missing => by
      unfold positionAfter at missing
      split at missing
      · cases missing
      · next noLater =>
          split at missing
          · cases missing
          · next other =>
              simp only [List.mem_cons, not_or]
              exact ⟨fun same => other same.symm, positionAfter_eq_none noLater⟩

/-- `positionAfter` finds the last occurrence of the name. -/
theorem positionAfter_eq_some {after : String} :
    ∀ {names : List String} {position : Nat}, positionAfter names after = some position →
      ∃ front back, names = front ++ after :: back ∧ after ∉ back ∧ position = front.length + 1
  | [], _, found => by simp [positionAfter] at found
  | name :: names, position, found => by
      unfold positionAfter at found
      split at found
      · next later laterFound =>
          obtain ⟨front, back, split, absent, rfl⟩ := positionAfter_eq_some laterFound
          cases found
          exact ⟨name :: front, back, by simp [split], absent, by simp⟩
      · next noLater =>
          split at found
          · next same =>
              cases found
              exact ⟨[], names, by simp [same], positionAfter_eq_none noLater, rfl⟩
          · cases found

theorem positionAfter_append_singleton (names : List String) (after : String) :
    positionAfter (names ++ [after]) after = some (names.length + 1) := by
  induction names with
  | nil => simp [positionAfter]
  | cons name names ih => simp [positionAfter, ih]

theorem map_insertIdx {α β : Type} (f : α → β) (a : α) :
    ∀ (position : Nat) (items : List α),
      (items.insertIdx position a).map f = (items.map f).insertIdx position (f a)
  | 0, items => by simp [List.insertIdx_zero]
  | _ + 1, [] => by simp [List.insertIdx_succ_nil]
  | position + 1, item :: items => by
      simp [List.insertIdx_succ_cons, map_insertIdx f a position items]

@[simp] theorem fieldNames_addFieldFirst (table : TableStructure) (field : TableField) :
    (table.addFieldFirst field).fieldNames = field.name :: table.fieldNames := rfl

theorem addFieldAfter_of_positionAfter {table : TableStructure} {after : String} {position : Nat}
    (found : positionAfter table.fieldNames after = some position) (field : TableField) :
    ∃ changed, table.addFieldAfter field after = .ok changed ∧
      changed.fields = table.fields.insertIdx position field := by
  simp [addFieldAfter, found]

theorem addFieldAfter_ok {table changed : TableStructure} {field : TableField} {after : String}
    (ok : table.addFieldAfter field after = .ok changed) :
    ∃ position, positionAfter table.fieldNames after = some position ∧
      changed.fields = table.fields.insertIdx position field := by
  unfold addFieldAfter at ok
  split at ok
  · next position found =>
      cases ok
      exact ⟨position, found, rfl⟩
  · cases ok

theorem fieldNames_of_fields {table changed : TableStructure} {field : TableField}
    {position : Nat} (inserted : changed.fields = table.fields.insertIdx position field) :
    changed.fieldNames = table.fieldNames.insertIdx position field.name := by
  simp only [fieldNames, inserted, map_insertIdx]

theorem map_name_eraseP (name : String) : ∀ fields : List TableField,
    (fields.eraseP fun field => field.name == name).map TableField.name =
      (fields.map TableField.name).erase name
  | [] => rfl
  | field :: fields => by
      by_cases same : field.name = name <;>
        simp [List.eraseP_cons, List.erase_cons, same, map_name_eraseP name fields]

theorem fieldNames_removeField {table changed : TableStructure} {name : String}
    (ok : table.removeField name = .ok changed) : changed.fieldNames = table.fieldNames.erase name := by
  unfold removeField at ok
  split at ok
  · cases ok
    exact map_name_eraseP name table.fields
  · cases ok

theorem addFieldAfter_error {table : TableStructure} {field : TableField} {after : String}
    {e : PyError} (failed : table.addFieldAfter field after = .error e) :
    positionAfter table.fieldNames after = none := by
  unfold addFieldAfter at failed
  split at failed
  · cases failed
  · assumption

end TableStructure

/-- The part of the replication config the converter reads. -/
structure Config where
  typesMapping : List (String × String) := []
  isDatabaseMatches : String → Bool
  isTableMatches : String → Bool

/-- The replicator that owns the converter: its source and target database names. -/
structure DbReplicator where
  config : Config
  database : String
  targetDatabase : String

/-- `MysqlToClickhouseConverter`: standalone, or bound to a replicator. -/
structure MysqlToClickhouseConverter where
  dbReplicator : Option DbReplicator := none

/-- `self.types_mapping`, empty without a replicator. -/
def MysqlToClickhouseConverter.typesMapping (converter : MysqlToClickhouseConverter) :
    List (String × String) :=
  match converter.dbReplicator with
  | some replicator => replicator.config.typesMapping
  | none => []

end MysqlChReplicator.Converter

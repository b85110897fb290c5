import MysqlChReplicator.Converter.ConvertRecord
import Mathlib.Data.List.Nodup

/-!
# `convert_bytes`

The JSON branch of `convert_record` runs `convert_bytes` on a parsed document before
`json.dumps`. It rebuilds dicts key by key through `new_obj[new_key] = new_value`, so a
bytes key and a text key that decode alike become one entry, the last value in the first
place. This module says what the function gives: the document in the same shape with its
bytes decoded, when the decoded keys of each dict stay apart; and always a document it gives
back unchanged.
-/

namespace MysqlChReplicator.Converter
open Python

/-! ## Dicts built by `dictSet` -/

/-- The keys a dict stores its entries under. -/
def keysOf (entries : List (PyKey × PyValue)) : List PyKey := entries.map fun entry => entry.1.normal

section DictSet

theorem dictSet_fresh {entries : List (PyKey × PyValue)} {key : PyKey} (value : PyValue)
    (fresh : key.normal ∉ keysOf entries) : dictSet entries key value = entries ++ [(key, value)] := by
  have absent : (entries.any fun entry => entry.1.normal == key.normal) = false := by
    simpa [keysOf] using fresh
  rw [dictSet, if_neg (by simp [absent])]

/-- `dictSet` keeps the keys there, adding the new one when it is fresh. -/
theorem keysOf_dictSet (entries : List (PyKey × PyValue)) (key : PyKey) (value : PyValue) :
    keysOf (dictSet entries key value) =
      if key.normal ∈ keysOf entries then keysOf entries else keysOf entries ++ [key.normal] := by
  by_cases present : key.normal ∈ keysOf entries
  · have found : (entries.any fun entry => entry.1.normal == key.normal) = true := by
      simpa [keysOf] using present
    rw [dictSet, if_pos found, if_pos present, keysOf, keysOf, List.map_map]
    congr 1
    funext entry
    by_cases same : entry.1.normal = key.normal <;> simp [same]
  · rw [dictSet_fresh value present, if_neg present, keysOf, keysOf, List.map_append]
    rfl

theorem nodup_keysOf_dictSet {entries : List (PyKey × PyValue)} (distinct : (keysOf entries).Nodup)
    (key : PyKey) (value : PyValue) : (keysOf (dictSet entries key value)).Nodup := by
  rw [keysOf_dictSet]
  split
  · exact distinct
  · next fresh => exact distinct.append (List.nodup_singleton _) (by simpa using fresh)

/-- Setting entries with distinct keys into a dict without them appends them in order. -/
theorem foldl_dictSet_of_nodup : ∀ {built pairs : List (PyKey × PyValue)},
    (keysOf (built ++ pairs)).Nodup →
      pairs.foldl (fun built pair => dictSet built pair.1 pair.2) built = built ++ pairs
  | built, [], _ => by simp
  | built, (key, value) :: pairs, distinct => by
      have fresh : key.normal ∉ keysOf built := by
        intro mem
        simp only [keysOf, List.map_append, List.map_cons] at distinct
        exact (List.nodup_append.mp distinct).2.2 (by simpa [keysOf] using mem) (List.mem_cons_self _ _)
      rw [List.foldl_cons, dictSet_fresh value fresh, foldl_dictSet_of_nodup (by simpa using distinct)]
      simp

theorem nodup_foldl_dictSet : ∀ {built : List (PyKey × PyValue)} (pairs : List (PyKey × PyValue)),
    (keysOf built).Nodup →
      (keysOf (pairs.foldl (fun built pair => dictSet built pair.1 pair.2) built)).Nodup
  | _, [], distinct => distinct
  | _, (key, value) :: pairs, distinct =>
      nodup_foldl_dictSet pairs (nodup_keysOf_dictSet distinct key value)

/-- Everything a dict built by `dictSet` holds, key and value, comes from what was set. -/
theorem mem_foldl_dictSet {keyOk : PyKey → Prop} {valueOk : PyValue → Prop} :
    ∀ {built : List (PyKey × PyValue)} (pairs : List (PyKey × PyValue)),
      (∀ entry ∈ built, keyOk entry.1 ∧ valueOk entry.2) →
      (∀ entry ∈ pairs, keyOk entry.1 ∧ valueOk entry.2) →
      ∀ entry ∈ pairs.foldl (fun built pair => dictSet built pair.1 pair.2) built,
        keyOk entry.1 ∧ valueOk entry.2
  | _, [], inBuilt, _ => inBuilt
  | built, (key, value) :: pairs, inBuilt, inPairs => by
      refine mem_foldl_dictSet pairs (fun entry mem => ?_)
        (fun entry mem => inPairs entry (List.mem_cons_of_mem _ mem))
      have new := inPairs (key, value) (List.mem_cons_self _ _)
      dsimp only at mem
      unfold dictSet at mem
      split at mem
      · obtain ⟨old, oldMem, rfl⟩ := List.mem_map.mp mem
        split
        · exact ⟨(inBuilt old oldMem).1, new.2⟩
        · exact inBuilt old oldMem
      · rcases List.mem_append.mp mem with mem | mem
        · exact inBuilt entry mem
        · rw [List.mem_singleton.mp mem]
          exact new

end DictSet

/-- The key of a converted dict entry: `k.decode('utf-8') if isinstance(k, bytes) else k`. -/
def convertKey (decode : List UInt8 → String → Except PyError String) :
    PyKey → Except PyError PyKey
  | .bytes raw => (decode raw "utf-8").map .str
  | key => pure key

theorem convertEntries_cons (decode : List UInt8 → String → Except PyError String) (key : PyKey)
    (value : PyValue) (entries : List (PyKey × PyValue)) :
    convertEntries decode ((key, value) :: entries) = (do
      let newKey ← convertKey decode key
      let newValue ← convertBytes decode value
      pure ((newKey, newValue) :: (← convertEntries decode entries))) := by
  cases key <;> rfl

/-! ## The shape `convert_bytes` keeps -/

section Decoded

variable (text : List UInt8 → String)

/-- The key a bytes key decodes to. -/
def decodedKey : PyKey → PyKey
  | .bytes raw => .str (text raw)
  | key => key

mutual

/-- The value with each bytes leaf and each bytes key replaced by its text, in the same shape. -/
def decodedValue : PyValue → PyValue
  | .dict entries => .dict (decodedEntries entries)
  | .list items => .list (decodedItems items)
  | .tuple items => .tuple (decodedItems items)
  | .bytes raw => .str (text raw)
  | value => value

/-- `decodedValue` item by item. -/
def decodedItems : List PyValue → List PyValue
  | [] => []
  | item :: items => decodedValue item :: decodedItems items

/-- `decodedValue` entry by entry, with the keys decoded. -/
def decodedEntries : List (PyKey × PyValue) → List (PyKey × PyValue)
  | [] => []
  | (key, value) :: entries => (decodedKey text key, decodedValue value) :: decodedEntries entries

end

mutual

/-- The dicts of the value keep their keys apart once decoded. -/
def distinctKeys : PyValue → Bool
  | .dict entries => decide ((entries.map fun entry => (decodedKey text entry.1).normal).Nodup) &&
      distinctKeysEntries entries
  | .list items => distinctKeysItems items
  | .tuple items => distinctKeysItems items
  | _ => true

/-- `distinctKeys` of every item. -/
def distinctKeysItems : List PyValue → Bool
  | [] => true
  | item :: items => distinctKeys item && distinctKeysItems items

/-- `distinctKeys` of every value of the entries. -/
def distinctKeysEntries : List (PyKey × PyValue) → Bool
  | [] => true
  | (_, value) :: entries => distinctKeys value && distinctKeysEntries entries

end

theorem keysOf_decodedEntries : ∀ entries : List (PyKey × PyValue),
    keysOf (decodedEntries text entries) = entries.map fun entry => (decodedKey text entry.1).normal
  | [] => rfl
  | (key, value) :: entries => by
      simp only [decodedEntries, keysOf, List.map_cons] at *
      rw [← keysOf, keysOf_decodedEntries entries]

end Decoded

section Decoding

variable (decode : List UInt8 → String → Except PyError String) (text : List UInt8 → String)

/-- A key that is bytes decodes to its text. -/
def KeyDecodes : PyKey → Prop
  | .bytes raw => decode raw "utf-8" = .ok (text raw)
  | _ => True

mutual

/-- Each bytes leaf and each bytes key of the value decodes to its text. -/
def Decodes : PyValue → Prop
  | .dict entries => EntriesDecode entries
  | .list items => ItemsDecode items
  | .tuple items => ItemsDecode items
  | .bytes raw => decode raw "utf-8" = .ok (text raw)
  | _ => True

/-- `Decodes` of every item. -/
def ItemsDecode : List PyValue → Prop
  | [] => True
  | item :: items => Decodes item ∧ ItemsDecode items

/-- `Decodes` of every key and value of the entries. -/
def EntriesDecode : List (PyKey × PyValue) → Prop
  | [] => True
  | (key, value) :: entries => KeyDecodes decode text key ∧ Decodes value ∧ EntriesDecode entries

end

theorem convertKey_decodes {key : PyKey} (decodes : KeyDecodes decode text key) :
    convertKey decode key = .ok (decodedKey text key) := by
  cases key <;> simp_all [KeyDecodes, convertKey, decodedKey]

variable {decode text}

mutual

theorem convertBytes_decodes {value : PyValue} (decodes : Decodes decode text value)
    (distinct : distinctKeys text value = true) :
    convertBytes decode value = .ok (decodedValue text value) := by
  cases value with
  | dict entries =>
      simp only [Decodes, distinctKeys, Bool.and_eq_true, decide_eq_true_eq] at decodes distinct
      rw [convertBytes, convertEntries_decodes decodes distinct.2]
      simp only [Except.map, decodedValue]
      rw [foldl_dictSet_of_nodup (by simpa [keysOf_decodedEntries] using distinct.1)]
      rfl
  | list items =>
      rw [convertBytes, convertItems_decodes decodes distinct]
      rfl
  | tuple items =>
      rw [convertBytes, convertItems_decodes decodes distinct]
      rfl
  | bytes raw =>
      rw [convertBytes, show decode raw "utf-8" = .ok (text raw) from decodes]
      rfl
  | _ => rfl

theorem convertItems_decodes {items : List PyValue} (decodes : ItemsDecode decode text items)
    (distinct : distinctKeysItems text items = true) :
    convertItems decode items = .ok (decodedItems text items) := by
  cases items with
  | nil => rfl
  | cons item items =>
      simp only [ItemsDecode, distinctKeysItems, Bool.and_eq_true] at decodes distinct
      rw [convertItems, convertBytes_decodes decodes.1 distinct.1,
        convertItems_decodes decodes.2 distinct.2]
      rfl

theorem convertEntries_decodes {entries : List (PyKey × PyValue)}
    (decodes : EntriesDecode decode text entries)
    (distinct : distinctKeysEntries text entries = true) :
    convertEntries decode entries = .ok (decodedEntries text entries) := by
  cases entries with
  | nil => rfl
  | cons entry entries =>
      obtain ⟨key, value⟩ := entry
      simp only [EntriesDecode, distinctKeysEntries, Bool.and_eq_true] at decodes distinct
      rw [convertEntries_cons, convertKey_decodes decode text decodes.1,
        convertBytes_decodes decodes.2.1 distinct.1, convertEntries_decodes decodes.2.2 distinct.2]
      rfl

end

end Decoding

section Settled

variable {decode : List UInt8 → String → Except PyError String}

mutual

/-- A value `convert_bytes` gives back as it is: no bytes leaf, no bytes dict key, and the keys
of each dict distinct. -/
def settled : PyValue → Bool
  | .dict entries => decide (keysOf entries).Nodup && settledEntries entries
  | .list items => settledItems items
  | .tuple items => settledItems items
  | .bytes _ => false
  | _ => true

/-- `settled` of every item. -/
def settledItems : List PyValue → Bool
  | [] => true
  | item :: items => settled item && settledItems items

/-- No key of the entries is bytes, and every value is `settled`. -/
def settledEntries : List (PyKey × PyValue) → Bool
  | [] => true
  | (key, value) :: entries => !key.isBytes && settled value && settledEntries entries

end

theorem settledEntries_iff : ∀ {entries : List (PyKey × PyValue)},
    settledEntries entries = true ↔ ∀ entry ∈ entries, entry.1.isBytes = false ∧ settled entry.2 = true
  | [] => by simp [settledEntries]
  | (key, value) :: entries => by
      simp [settledEntries, settledEntries_iff, and_assoc]

theorem isBytes_of_convertKey {key newKey : PyKey} (ok : convertKey decode key = .ok newKey) :
    newKey.isBytes = false := by
  cases key with
  | bytes raw =>
      obtain ⟨_, -, rfl⟩ := map_eq_ok.mp ok
      rfl
  | _ => cases ok; rfl

theorem convertKey_of_isBytes_eq_false {key : PyKey} (notBytes : key.isBytes = false) :
    convertKey decode key = .ok key := by
  cases key <;> first | rfl | cases notBytes

mutual

theorem settled_of_convertBytes {value converted : PyValue}
    (ok : convertBytes decode value = .ok converted) : settled converted = true := by
  cases value with
  | dict entries =>
      obtain ⟨pairs, pairsOk, rfl⟩ := map_eq_ok.mp ok
      have fromPairs := settledEntries_iff.mp (settledEntries_of_convertEntries pairsOk)
      simp only [settled, Bool.and_eq_true, decide_eq_true_eq]
      exact ⟨nodup_foldl_dictSet pairs List.nodup_nil,
        settledEntries_iff.mpr (@mem_foldl_dictSet (fun key => key.isBytes = false)
          (fun value => settled value = true) [] pairs (by simp) fromPairs)⟩
  | list items =>
      obtain ⟨converted, itemsOk, rfl⟩ := map_eq_ok.mp ok
      exact settledItems_of_convertItems itemsOk
  | tuple items =>
      obtain ⟨converted, itemsOk, rfl⟩ := map_eq_ok.mp ok
      exact settledItems_of_convertItems itemsOk
  | bytes raw =>
      obtain ⟨_, -, rfl⟩ := map_eq_ok.mp ok
      rfl
  | _ => cases ok; rfl

theorem settledItems_of_convertItems {items converted : List PyValue}
    (ok : convertItems decode items = .ok converted) : settledItems converted = true := by
  cases items with
  | nil => cases ok; rfl
  | cons item items =>
      obtain ⟨first, firstOk, ok⟩ := bind_eq_ok.mp ok
      obtain ⟨rest, restOk, ok⟩ := bind_eq_ok.mp ok
      cases ok
      simp only [settledItems, settled_of_convertBytes firstOk, settledItems_of_convertItems restOk,
        Bool.and_self]

theorem settledEntries_of_convertEntries {entries converted : List (PyKey × PyValue)}
    (ok : convertEntries decode entries = .ok converted) : settledEntries converted = true := by
  cases entries with
  | nil => cases ok; rfl
  | cons entry entries =>
      obtain ⟨key, value⟩ := entry
      rw [convertEntries_cons] at ok
      obtain ⟨newKey, keyOk, ok⟩ := bind_eq_ok.mp ok
      obtain ⟨newValue, valueOk, ok⟩ := bind_eq_ok.mp ok
      obtain ⟨rest, restOk, ok⟩ := bind_eq_ok.mp ok
      cases ok
      simp only [settledEntries, isBytes_of_convertKey keyOk, settled_of_convertBytes valueOk,
        settledEntries_of_convertEntries restOk, Bool.not_false, Bool.and_self]

end

mutual

theorem convertBytes_of_settled {value : PyValue} (settledValue : settled value = true) :
    convertBytes decode value = .ok value := by
  cases value with
  | dict entries =>
      simp only [settled, Bool.and_eq_true, decide_eq_true_eq] at settledValue
      rw [convertBytes, convertEntries_of_settled settledValue.2, ok_map,
        foldl_dictSet_of_nodup (by simpa using settledValue.1)]
      rfl
  | list items =>
      rw [convertBytes, convertItems_of_settled settledValue]
      rfl
  | tuple items =>
      rw [convertBytes, convertItems_of_settled settledValue]
      rfl
  | bytes raw => cases settledValue
  | _ => rfl

theorem convertItems_of_settled {items : List PyValue} (allSettled : settledItems items = true) :
    convertItems decode items = .ok items := by
  cases items with
  | nil => rfl
  | cons item items =>
      simp only [settledItems, Bool.and_eq_true] at allSettled
      rw [convertItems, convertBytes_of_settled allSettled.1, convertItems_of_settled allSettled.2]
      rfl

theorem convertEntries_of_settled {entries : List (PyKey × PyValue)}
    (allSettled : settledEntries entries = true) :
    convertEntries decode entries = .ok entries := by
  cases entries with
  | nil => rfl
  | cons entry entries =>
      obtain ⟨key, value⟩ := entry
      simp only [settledEntries, Bool.and_eq_true, Bool.not_eq_true'] at allSettled
      rw [convertEntries_cons, convertKey_of_isBytes_eq_false allSettled.1.1,
        convertBytes_of_settled allSettled.1.2, convertEntries_of_settled allSettled.2]
      rfl

end

end Settled

/-! ## What `convert_bytes` gives -/

end MysqlChReplicator.Converter

import MysqlChReplicator.Python.Text

/-!
# Python values and exceptions

The values a MySQL driver hands to the converter, and the exceptions the converter can
raise. A value is one of the variants `convert_record` distinguishes; every other object
(a `datetime`, a `timedelta`) is `other`, known only by its `str()`.
-/

namespace MysqlChReplicator.Python

/-- The exceptions the modelled code raises, with the text it gives them. -/
inductive PyError where
  /-- `raise Exception(message, ...)`, with the message the converter writes. -/
  | exception (message : String)
  | valueError (message : String)
  | indexError (message : String)
  | keyError (key : String)
  /-- A `TypeError` raised by a Python operation applied to a value of the wrong type. -/
  | typeError
  deriving DecidableEq, Repr

section ExceptMonad

variable {ε α β : Type}

@[simp] theorem pure_eq_ok (a : α) : (pure a : Except ε α) = .ok a := rfl

@[simp] theorem ok_bind (a : α) (f : α → Except ε β) : (Except.ok a >>= f) = f a := rfl

@[simp] theorem error_bind (e : ε) (f : α → Except ε β) : (Except.error e >>= f) = .error e := rfl

@[simp] theorem bind_ok (x : Except ε α) : (x >>= fun a => Except.ok a) = x := by
  cases x <;> rfl

@[simp] theorem ok_map (a : α) (f : α → β) : (Except.ok a : Except ε α).map f = .ok (f a) := rfl

@[simp] theorem throw_eq_error (e : ε) : (throw e : Except ε α) = .error e := rfl

theorem bind_eq_ok {x : Except ε α} {f : α → Except ε β} {b : β} :
    x >>= f = .ok b ↔ ∃ a, x = .ok a ∧ f a = .ok b := by
  cases x <;> simp

theorem map_eq_ok {x : Except ε α} {f : α → β} {b : β} :
    x.map f = .ok b ↔ ∃ a, x = .ok a ∧ f a = b := by
  cases x <;> simp [Except.map]

/-- Each item of a successful `mapM` is the result of the function on the item at its index. -/
theorem mapM_ok_getElem? {f : α → Except ε β} :
    ∀ {xs : List α} {ys : List β}, xs.mapM f = .ok ys →
      ∀ {i : Nat} {x : α}, xs[i]? = some x → ∃ y, f x = .ok y ∧ ys[i]? = some y
  | [], _, _, _, _, at_i => by simp at at_i
  | x :: xs, ys, ok, i, x', at_i => by
      rw [List.mapM_cons] at ok
      cases head : f x with
      | error e => rw [head] at ok; cases ok
      | ok y =>
          cases tail : xs.mapM f with
          | error e => rw [head, tail] at ok; cases ok
          | ok ys' =>
              rw [head, tail] at ok
              cases ok
              cases i with
              | zero =>
                  obtain rfl : x = x' := by simpa using at_i
                  exact ⟨y, head, by simp⟩
              | succ i => simpa using mapM_ok_getElem? tail (by simpa using at_i)

/-- A successful `mapM` by a function that keeps an observation keeps it on the whole list. -/
theorem mapM_ok_map {γ : Type} {f : α → Except ε β} {g : β → γ} {h : α → γ}
    (keeps : ∀ a b, f a = .ok b → g b = h a) :
    ∀ {xs : List α} {ys : List β}, xs.mapM f = .ok ys → ys.map g = xs.map h
  | [], ys, ok => by
      cases ok
      rfl
  | x :: xs, ys, ok => by
      rw [List.mapM_cons] at ok
      cases head : f x with
      | error e => rw [head] at ok; cases ok
      | ok y =>
          cases tail : xs.mapM f with
          | error e => rw [head, tail] at ok; cases ok
          | ok ys' =>
              rw [head, tail] at ok
              cases ok
              simp [keeps x y head, mapM_ok_map keeps tail]

theorem mapM_ok_length {f : α → Except ε β} {xs : List α} {ys : List β}
    (ok : xs.mapM f = .ok ys) : ys.length = xs.length := by
  simpa using congrArg List.length (mapM_ok_map (g := fun _ => ()) (h := fun _ => ())
    (fun _ _ _ => rfl) ok)

/-- A `mapM` whose function fails on the item at `k` fails, on that item or an earlier one. -/
theorem mapM_error_of_getElem? {f : α → Except ε β} {e : ε} :
    ∀ {xs : List α} {k : Nat} {x : α}, xs[k]? = some x → f x = .error e →
      ∃ e', xs.mapM f = .error e' ∧
        (e' = e ∨ ∃ j < k, ∃ x', xs[j]? = some x' ∧ f x' = .error e')
  | [], _, _, at_k, _ => by simp at at_k
  | y :: xs, k, x, at_k, failed => by
      rw [List.mapM_cons]
      cases head : f y with
      | error e' =>
          cases k with
          | zero =>
              obtain rfl : y = x := by simpa using at_k
              rw [head] at failed
              cases failed
              exact ⟨e, rfl, .inl rfl⟩
          | succ k => exact ⟨e', rfl, .inr ⟨0, Nat.succ_pos k, y, by simp, head⟩⟩
      | ok z =>
          cases k with
          | zero =>
              obtain rfl : y = x := by simpa using at_k
              rw [head] at failed
              cases failed
          | succ k =>
              obtain ⟨e', later, which⟩ :=
                mapM_error_of_getElem? (show xs[k]? = some x by simpa using at_k) failed
              refine ⟨e', by rw [later]; rfl, ?_⟩
              rcases which with rfl | ⟨j, before, x', at_j, failedAt⟩
              · exact .inl rfl
              · exact .inr ⟨j + 1, by omega, x', by simpa using at_j, failedAt⟩

/-- Running a function on the selected items only, and keeping the others as they are, gives the
full run's results at the selected items. -/
theorem mapM_select {f : α → Except ε β} {p : α → Prop} [DecidablePred p] {keep : α → β} :
    ∀ {xs : List α} {ys : List β}, xs.mapM f = .ok ys →
      xs.mapM (fun x => if p x then f x else .ok (keep x)) =
        .ok (List.zipWith (fun x y => if p x then y else keep x) xs ys)
  | [], ys, ok => by
      cases ok
      rfl
  | x :: xs, ys, ok => by
      rw [List.mapM_cons] at ok ⊢
      cases head : f x with
      | error e => rw [head] at ok; cases ok
      | ok y =>
          cases tail : xs.mapM f with
          | error e => rw [head, tail] at ok; cases ok
          | ok ys' =>
              rw [head, tail] at ok
              cases ok
              rw [mapM_select tail]
              by_cases selected : p x <;> simp [head, selected]

end ExceptMonad

/-- Hashable values: the keys of a Python `dict`, scalars and tuples of keys. -/
inductive PyKey where
  | none
  | bool (value : Bool)
  | int (value : Int)
  | float (bits : UInt64)
  | str (value : String)
  | bytes (value : List UInt8)
  | tuple (items : List PyKey)
  | other (text : String)
  deriving Repr

namespace PyKey

mutual

/-- Key equality, item by item inside tuples. -/
def beq : PyKey → PyKey → Bool
  | .none, .none => true
  | .bool x, .bool y => x == y
  | .int x, .int y => x == y
  | .float x, .float y => x == y
  | .str x, .str y => x == y
  | .bytes x, .bytes y => x == y
  | .tuple xs, .tuple ys => beqItems xs ys
  | .other x, .other y => x == y
  | _, _ => false

/-- `beq` on two tuples' items. -/
def beqItems : List PyKey → List PyKey → Bool
  | [], [] => true
  | x :: xs, y :: ys => beq x y && beqItems xs ys
  | _, _ => false

end

mutual

theorem eq_of_beq {a b : PyKey} (same : beq a b = true) : a = b := by
  cases a <;> cases b <;> first
    | rfl
    | exact absurd same Bool.false_ne_true
    | exact congrArg _ (beq_iff_eq.mp same)
    | exact congrArg _ (eq_of_beqItems same)

theorem eq_of_beqItems {xs ys : List PyKey} (same : beqItems xs ys = true) : xs = ys := by
  cases xs <;> cases ys
  case nil.nil => rfl
  case cons.cons x xs y ys =>
    obtain ⟨head, tail⟩ := Bool.and_eq_true_iff.mp same
    rw [eq_of_beq head, eq_of_beqItems tail]
  all_goals exact absurd same Bool.false_ne_true

end

mutual

theorem beq_self (a : PyKey) : beq a a = true := by
  cases a
  case none => rfl
  case tuple items => exact beqItems_self items
  all_goals rename_i value; exact beq_self_eq_true value

theorem beqItems_self (xs : List PyKey) : beqItems xs xs = true := by
  cases xs with
  | nil => rfl
  | cons x xs => exact Bool.and_eq_true_iff.mpr ⟨beq_self x, beqItems_self xs⟩

end

instance : DecidableEq PyKey := fun a b =>
  decidable_of_iff (beq a b = true) ⟨eq_of_beq, fun same => same ▸ beq_self a⟩

mutual

/-- The key a dict stores a key under: `True` and `False` are the keys `1` and `0`, also inside
tuples. -/
def normal : PyKey → PyKey
  | .bool value => .int (if value then 1 else 0)
  | .tuple items => .tuple (normalItems items)
  | key => key

/-- `normal` on a tuple's items. -/
def normalItems : List PyKey → List PyKey
  | [] => []
  | item :: items => item.normal :: normalItems items

end

/-- `isinstance(key, bytes)`. -/
def isBytes : PyKey → Bool
  | .bytes _ => true
  | _ => false

/-- `key == 0`, which makes the key the one `d[0]` finds. -/
def isZero : PyKey → Bool
  | .bool value => !value
  | .int value => value == 0
  | .float bits => bits == 0 || bits == 0x8000000000000000
  | _ => false

end PyKey

/-- A finite `decimal.Decimal`, the driver's value of a `DECIMAL` column: its sign, its
coefficient and its exponent. -/
structure PyDecimal where
  negative : Bool
  coefficient : Nat
  exponent : Int
  deriving DecidableEq, Repr

/-- A Python value; a `float` is kept as its IEEE-754 bit pattern. -/
inductive PyValue where
  | none
  | bool (value : Bool)
  | int (value : Int)
  | float (bits : UInt64)
  | decimal (value : PyDecimal)
  | str (value : String)
  | bytes (value : List UInt8)
  | set (members : List String)
  | list (items : List PyValue)
  | tuple (items : List PyValue)
  | dict (entries : List (PyKey × PyValue))
  | other (text : String)
  deriving Repr

/-- `new_obj[key] = value`: an existing key keeps its place and takes the new value. -/
def dictSet (entries : List (PyKey × PyValue)) (key : PyKey) (value : PyValue) :
    List (PyKey × PyValue) :=
  if entries.any fun entry => entry.1.normal == key.normal then
    entries.map fun entry => if entry.1.normal = key.normal then (entry.1, value) else entry
  else entries ++ [(key, value)]

namespace PyValue

/-- `len(value)`. -/
def len : PyValue → Except PyError Nat
  | .str value => .ok value.length
  | .bytes value => .ok value.length
  | .set members => .ok members.length
  | .list items => .ok items.length
  | .tuple items => .ok items.length
  | .dict entries => .ok entries.length
  | _ => .error .typeError

/-- A double is below zero when its sign bit is set and it is neither a NaN nor a zero. -/
def floatIsNegative (bits : UInt64) : Bool :=
  let magnitude := bits.toNat % 2 ^ 63
  bits.toNat ≥ 2 ^ 63 && magnitude != 0 && magnitude ≤ 0x7FF0000000000000

/-- `value < 0`; comparing a string, bytes, a container or another object raises. A decimal
`-0` is not below zero. -/
def ltZero : PyValue → Except PyError Bool
  | .int value => .ok (value < 0)
  | .bool _ => .ok false
  | .float bits => .ok (floatIsNegative bits)
  | .decimal value => .ok (value.negative && value.coefficient != 0)
  | _ => .error .typeError

/-- `value[0]`: the first character of a string, the first byte of bytes, the first item of a
list or a tuple, the value of the key `0` of a dict. -/
def getFirst : PyValue → Except PyError PyValue
  | .str value =>
      match value.data with
      | c :: _ => .ok (.str (String.singleton c))
      | [] => .error (.indexError "string index out of range")
  | .bytes value =>
      match value with
      | byte :: _ => .ok (.int byte.toNat)
      | [] => .error (.indexError "index out of range")
  | .list items =>
      match items with
      | item :: _ => .ok item
      | [] => .error (.indexError "list index out of range")
  | .tuple items =>
      match items with
      | item :: _ => .ok item
      | [] => .error (.indexError "tuple index out of range")
  | .dict entries =>
      match entries.find? fun entry => entry.1.isZero with
      | some (_, value) => .ok value
      | _ => .error (.keyError "0")
  | _ => .error .typeError

/-- `value == 0 or value == 1`: a bool, or a number equal to 0 or 1. -/
def isZeroOrOne : PyValue → Bool
  | .bool _ => true
  | .int value => value == 0 || value == 1
  | .float bits => bits == 0 || bits == 0x8000000000000000 || bits == 0x3FF0000000000000
  | .decimal value =>
      value.coefficient == 0 ||
        (!value.negative && decide (value.exponent ≤ 0) &&
          value.coefficient == 10 ^ value.exponent.natAbs)
  | _ => false

/-- `sep.join(value)`: joins the strings the value iterates over. -/
def joinWith (sep : String) : PyValue → Except PyError String
  | .str value => .ok (join sep (value.data.map String.singleton))
  | .list items => (items.mapM asStr).map (join sep)
  | .tuple items => (items.mapM asStr).map (join sep)
  | .set members => .ok (join sep members)
  | .dict entries => (entries.mapM fun entry => keyStr entry.1).map (join sep)
  | _ => .error .typeError
where
  asStr : PyValue → Except PyError String
    | .str value => .ok value
    | _ => .error .typeError
  keyStr : PyKey → Except PyError String
    | .str value => .ok value
    | _ => .error .typeError

end PyValue

end MysqlChReplicator.Python

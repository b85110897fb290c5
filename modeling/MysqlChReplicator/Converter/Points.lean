import MysqlChReplicator.Converter.ConvertRecord

/-!
# POINT payloads

`parse_mysql_point` reads a WKB POINT: a byte-order flag, the geometry type as four bytes in
that order, then the bits of x and y as eight bytes each. MySQL puts a four-byte SRID in front,
which the reader skips. The reader accepts exactly the encodings of points, and gives back the
coordinates bit for bit. A `point` column maps to a tuple type that is never `Nullable`, and in
every converted row it holds a pair: a null value becomes the origin.
-/

namespace MysqlChReplicator.Converter

open Python

/-! ## Unsigned numbers in either byte order -/

/-- The `width` bytes of `n`, least significant first. -/
def littleEndian : Nat → Nat → List UInt8
  | 0, _ => []
  | width + 1, n => UInt8.ofNat (n % 256) :: littleEndian width (n / 256)

/-- The number whose bytes, least significant first, are `bytes`. -/
def littleValue (bytes : List UInt8) : Nat :=
  bytes.foldr (fun byte value => 256 * value + byte.toNat) 0

/-- `struct.pack` of an unsigned number of `width` bytes, little-endian (`<`) or big-endian
(`>`). -/
def encodeUnsigned (little : Bool) (width n : Nat) : List UInt8 :=
  if little then littleEndian width n else (littleEndian width n).reverse

@[simp] theorem length_littleEndian (width n : Nat) : (littleEndian width n).length = width := by
  induction width generalizing n <;> simp [littleEndian, *]

@[simp] theorem length_encodeUnsigned (little : Bool) (width n : Nat) :
    (encodeUnsigned little width n).length = width := by
  cases little <;> simp [encodeUnsigned]

theorem littleValue_littleEndian (width n : Nat) :
    littleValue (littleEndian width n) = n % 256 ^ width := by
  induction width generalizing n with
  | zero => simp [littleEndian, littleValue, Nat.mod_one]
  | succ width ih =>
      have low : (UInt8.ofNat (n % 256)).toNat = n % 256 :=
        UInt8.toNat_ofNat_of_lt (Nat.mod_lt _ (by decide))
      have rest : littleValue (littleEndian width (n / 256)) = n / 256 % 256 ^ width := ih _
      simp only [littleEndian, littleValue, List.foldr_cons] at rest ⊢
      rw [low, rest, Nat.pow_succ', Nat.mod_mul, Nat.add_comm]

theorem littleValue_lt (bytes : List UInt8) : littleValue bytes < 256 ^ bytes.length := by
  induction bytes with
  | nil => simp [littleValue]
  | cons byte bytes ih =>
      have small : byte.toNat < 256 := byte.toNat_lt_size
      simp only [littleValue, List.foldr_cons, List.length_cons, Nat.pow_succ'] at ih ⊢
      omega

theorem littleEndian_littleValue (bytes : List UInt8) :
    littleEndian bytes.length (littleValue bytes) = bytes := by
  induction bytes with
  | nil => rfl
  | cons byte bytes ih =>
      have small : byte.toNat < 256 := byte.toNat_lt_size
      have low : littleValue (byte :: bytes) % 256 = byte.toNat := by
        simp only [littleValue, List.foldr_cons]; omega
      have high : littleValue (byte :: bytes) / 256 = littleValue bytes := by
        simp only [littleValue, List.foldr_cons]; omega
      rw [List.length_cons, littleEndian, low, high, ih]
      congr
      exact UInt8.toNat.inj (UInt8.toNat_ofNat_of_lt small)

theorem unpackUnsigned_eq_littleValue (little : Bool) (bytes : List UInt8) :
    unpackUnsigned little bytes = littleValue (if little then bytes else bytes.reverse) := by
  cases little
  · rw [unpackUnsigned, if_neg Bool.false_ne_true, if_neg Bool.false_ne_true, littleValue,
      ← List.foldl_reverse, List.reverse_reverse]
  · rw [unpackUnsigned, if_pos rfl, if_pos rfl, littleValue, List.foldl_reverse]

/-- Reading back what was written gives the number modulo the width. -/
theorem unpackUnsigned_encodeUnsigned (little : Bool) (width n : Nat) :
    unpackUnsigned little (encodeUnsigned little width n) = n % 256 ^ width := by
  cases little <;> simp [unpackUnsigned_eq_littleValue, encodeUnsigned, littleValue_littleEndian]

/-- Writing what was read gives the bytes back. -/
theorem encodeUnsigned_unpackUnsigned (little : Bool) (bytes : List UInt8) :
    encodeUnsigned little bytes.length (unpackUnsigned little bytes) = bytes := by
  cases little
  · simpa [unpackUnsigned_eq_littleValue, encodeUnsigned] using
      congrArg List.reverse (littleEndian_littleValue bytes.reverse)
  · simp [unpackUnsigned_eq_littleValue, encodeUnsigned, littleEndian_littleValue]

theorem unpackUnsigned_lt (little : Bool) (bytes : List UInt8) :
    unpackUnsigned little bytes < 256 ^ bytes.length := by
  rw [unpackUnsigned_eq_littleValue]
  cases little
  · simpa using littleValue_lt bytes.reverse
  · simpa using littleValue_lt bytes

theorem unpackUnsigned_eq_one_iff {little : Bool} {bytes : List UInt8} (length : bytes.length = 4) :
    unpackUnsigned little bytes = 1 ↔ bytes = encodeUnsigned little 4 1 := by
  constructor
  · intro one
    rw [← encodeUnsigned_unpackUnsigned little bytes, one, length]
  · rintro rfl
    rw [unpackUnsigned_encodeUnsigned]
    rfl

/-- Eight bytes read as the bits of a double are the encoding of those bits. -/
theorem encodeUnsigned_ofNat_unpackUnsigned {little : Bool} {bytes : List UInt8}
    (length : bytes.length = 8) :
    encodeUnsigned little 8 (UInt64.ofNat (unpackUnsigned little bytes)).toNat = bytes := by
  have fits : unpackUnsigned little bytes < UInt64.size := by
    simpa [length] using unpackUnsigned_lt little bytes
  rw [UInt64.toNat_ofNat_of_lt fits, ← length, encodeUnsigned_unpackUnsigned]

theorem ofNat_unpackUnsigned_encodeUnsigned (little : Bool) (x : UInt64) :
    UInt64.ofNat (unpackUnsigned little (encodeUnsigned little 8 x.toNat)) = x := by
  rw [unpackUnsigned_encodeUnsigned, Nat.mod_eq_of_lt (show x.toNat < 256 ^ 8 from x.toNat_lt_size)]
  exact UInt64.toNat.inj (UInt64.toNat_ofNat_of_lt x.toNat_lt_size)

/-! ## WKB POINT -/

/-- The byte-order flag of a WKB payload: 0 for big-endian, 1 for little-endian. -/
def byteOrderFlag (little : Bool) : UInt8 := if little then 1 else 0

/-- The 21-byte WKB POINT: the flag, the geometry type 1, then the bits of x and y, all in the
flag's byte order. -/
def encodeWkbPoint (little : Bool) (x y : UInt64) : List UInt8 :=
  byteOrderFlag little :: (encodeUnsigned little 4 1 ++ encodeUnsigned little 8 x.toNat ++
    encodeUnsigned little 8 y.toNat)

/-- MySQL's internal form of a POINT: the SRID, little-endian, before the WKB. -/
def encodeMysqlPoint (srid : UInt32) (little : Bool) (x y : UInt64) : List UInt8 :=
  encodeUnsigned true 4 srid.toNat ++ encodeWkbPoint little x y

/-- A WKB POINT with a valid header: 21 bytes, a byte-order flag, and the geometry type 1 in
that byte order. -/
def WellFormedWkb (binary : List UInt8) : Prop :=
  binary.length = 21 ∧ ∃ little, binary.head? = some (byteOrderFlag little) ∧
    (binary.drop 1).take 4 = encodeUnsigned little 4 1

/-- A POINT payload: a WKB POINT, or one after a 4-byte SRID. -/
def WellFormedPoint (binary : List UInt8) : Prop :=
  WellFormedWkb binary ∨ binary.length = 25 ∧ WellFormedWkb (binary.drop 4)

instance : DecidablePred WellFormedWkb := fun _ => inferInstanceAs (Decidable (_ ∧ _))

instance : DecidablePred WellFormedPoint := fun _ => inferInstanceAs (Decidable (_ ∨ _))

theorem parseWkbPoint_flag (little : Bool) (rest : List UInt8) :
    parseWkbPoint (byteOrderFlag little :: rest) =
      if unpackUnsigned little (rest.take 4) = 1 then
        .ok (.tuple [.float (UInt64.ofNat (unpackUnsigned little ((rest.drop 4).take 8))),
          .float (UInt64.ofNat (unpackUnsigned little ((rest.drop 12).take 8)))])
      else .error (.valueError "Not a WKB POINT type") := by
  by_cases point : unpackUnsigned little (rest.take 4) = 1 <;>
    cases little <;> simp [parseWkbPoint, byteOrderFlag, point]

theorem parseWkbPoint_bad_flag {flag : UInt8} (bad : ∀ little, flag ≠ byteOrderFlag little)
    (rest : List UInt8) :
    parseWkbPoint (flag :: rest) = .error (.valueError "Invalid byte order in WKB POINT") := by
  have notBig := bad false
  have notLittle := bad true
  simp only [byteOrderFlag] at notBig notLittle
  unfold parseWkbPoint
  split
  · next zero => cases zero; exact absurd rfl notBig
  · next one => cases one; exact absurd rfl notLittle
  · rfl

/-- The reader's slices of a header, x and y laid end to end. -/
theorem wkb_pieces {header xBytes yBytes : List UInt8} (headerLength : header.length = 4)
    (xLength : xBytes.length = 8) (yLength : yBytes.length = 8) :
    (header ++ xBytes ++ yBytes).take 4 = header ∧
      ((header ++ xBytes ++ yBytes).drop 4).take 8 = xBytes ∧
      ((header ++ xBytes ++ yBytes).drop 12).take 8 = yBytes := by
  simp [List.take_append_eq_append_take, List.drop_append_eq_append_drop, headerLength, xLength,
    yLength, List.take_of_length_le]

theorem eq_wkb_pieces {rest : List UInt8} (length : rest.length = 20) :
    rest = rest.take 4 ++ (rest.drop 4).take 8 ++ (rest.drop 12).take 8 := by
  rw [List.take_of_length_le (by simp; omega : (rest.drop 12).length ≤ 8), List.append_assoc,
    show rest.drop 12 = (rest.drop 4).drop 8 by rw [List.drop_drop], List.take_append_drop,
    List.take_append_drop]

theorem parseWkbPoint_encodeWkbPoint (little : Bool) (x y : UInt64) :
    parseWkbPoint (encodeWkbPoint little x y) = .ok (.tuple [.float x, .float y]) := by
  obtain ⟨header, xBytes, yBytes⟩ := wkb_pieces (length_encodeUnsigned little 4 1)
    (length_encodeUnsigned little 8 x.toNat) (length_encodeUnsigned little 8 y.toNat)
  rw [encodeWkbPoint, parseWkbPoint_flag, header, xBytes, yBytes,
    if_pos ((unpackUnsigned_eq_one_iff (length_encodeUnsigned little 4 1)).mpr rfl),
    ofNat_unpackUnsigned_encodeUnsigned, ofNat_unpackUnsigned_encodeUnsigned]

/-- The WKB payloads with a valid header are exactly the encodings of points. -/
theorem wellFormedWkb_iff {binary : List UInt8} :
    WellFormedWkb binary ↔ ∃ little x y, binary = encodeWkbPoint little x y := by
  constructor
  · rintro ⟨length, little, flag, header⟩
    cases binary with
    | nil => cases length
    | cons first rest =>
        cases flag
        have restLength : rest.length = 20 := by simpa using length
        refine ⟨little, UInt64.ofNat (unpackUnsigned little ((rest.drop 4).take 8)),
          UInt64.ofNat (unpackUnsigned little ((rest.drop 12).take 8)), ?_⟩
        rw [encodeWkbPoint, encodeUnsigned_ofNat_unpackUnsigned (by simp; omega),
          encodeUnsigned_ofNat_unpackUnsigned (by simp; omega), ← header]
        exact congrArg _ (eq_wkb_pieces restLength)
  · rintro ⟨little, x, y, rfl⟩
    obtain ⟨header, -, -⟩ := wkb_pieces (length_encodeUnsigned little 4 1)
      (length_encodeUnsigned little 8 x.toNat) (length_encodeUnsigned little 8 y.toNat)
    exact ⟨by simp [encodeWkbPoint], little, rfl, header⟩

theorem parseWkbPoint_malformed {binary : List UInt8} (length : binary.length = 21)
    (malformed : ¬ WellFormedWkb binary) :
    ∃ message, parseWkbPoint binary = .error (.valueError message) := by
  cases binary with
  | nil => cases length
  | cons first rest =>
      by_cases flagged : ∃ little, first = byteOrderFlag little
      · obtain ⟨little, rfl⟩ := flagged
        have notPoint : unpackUnsigned little (rest.take 4) ≠ 1 := fun one =>
          malformed ⟨length, little, rfl,
            (unpackUnsigned_eq_one_iff (by simp at length ⊢; omega)).mp one⟩
        exact ⟨_, by rw [parseWkbPoint_flag, if_neg notPoint]⟩
      · exact ⟨_, parseWkbPoint_bad_flag (not_exists.mp flagged) rest⟩

/-! ## `parse_mysql_point` on bytes -/

theorem parseMysqlPoint_encodeWkbPoint (little : Bool) (x y : UInt64) :
    parseMysqlPoint (.bytes (encodeWkbPoint little x y)) = .ok (.tuple [.float x, .float y]) := by
  have length : (encodeWkbPoint little x y).length = 21 := by simp [encodeWkbPoint]
  rw [parseMysqlPoint, if_pos length, parseWkbPoint_encodeWkbPoint]

theorem parseMysqlPoint_encodeMysqlPoint (srid : UInt32) (little : Bool) (x y : UInt64) :
    parseMysqlPoint (.bytes (encodeMysqlPoint srid little x y)) =
      .ok (.tuple [.float x, .float y]) := by
  have length : (encodeMysqlPoint srid little x y).length = 25 := by
    simp [encodeMysqlPoint, encodeWkbPoint]
  rw [parseMysqlPoint, if_neg (by omega), if_pos length, encodeMysqlPoint,
    List.drop_left' (length_encodeUnsigned true 4 srid.toNat), parseWkbPoint_encodeWkbPoint]

/-- A byte payload is either well formed, the encoding of a point that it is decoded to, or
rejected with a `ValueError`. -/
theorem parseMysqlPoint_bytes_cases (binary : List UInt8) :
    (WellFormedPoint binary ∧ ∃ little x y,
      (binary = encodeWkbPoint little x y ∨
        ∃ srid, srid.length = 4 ∧ binary = srid ++ encodeWkbPoint little x y) ∧
      parseMysqlPoint (.bytes binary) = .ok (.tuple [.float x, .float y])) ∨
    (¬ WellFormedPoint binary ∧
      ∃ message, parseMysqlPoint (.bytes binary) = .error (.valueError message)) := by
  by_cases short : binary.length = 21
  · by_cases wellFormed : WellFormedWkb binary
    · obtain ⟨little, x, y, rfl⟩ := wellFormedWkb_iff.mp wellFormed
      exact .inl ⟨.inl wellFormed, little, x, y, .inl rfl, parseMysqlPoint_encodeWkbPoint little x y⟩
    · refine .inr ⟨fun point => ?_, by
        rw [parseMysqlPoint, if_pos short]; exact parseWkbPoint_malformed short wellFormed⟩
      rcases point with point | ⟨long, -⟩
      · exact wellFormed point
      · omega
  · by_cases long : binary.length = 25
    · have payload : (binary.drop 4).length = 21 := by simp [long]
      by_cases wellFormed : WellFormedWkb (binary.drop 4)
      · obtain ⟨little, x, y, encoded⟩ := wellFormedWkb_iff.mp wellFormed
        refine .inl ⟨.inr ⟨long, wellFormed⟩, little, x, y,
          .inr ⟨binary.take 4, by simp [long], by rw [← encoded, List.take_append_drop]⟩, ?_⟩
        rw [parseMysqlPoint, if_neg short, if_pos long, encoded, parseWkbPoint_encodeWkbPoint]
      · refine .inr ⟨fun point => ?_, by
          rw [parseMysqlPoint, if_neg short, if_pos long]
          exact parseWkbPoint_malformed payload wellFormed⟩
        rcases point with ⟨length, -⟩ | ⟨-, point⟩
        · exact short length
        · exact wellFormed point
    · refine .inr ⟨fun point => ?_, _, by rw [parseMysqlPoint, if_neg short, if_neg long]⟩
      rcases point with ⟨length, -⟩ | ⟨length, -⟩
      · exact short length
      · exact long length

/-- `parse_mysql_point` returns a pair on exactly the well-formed payloads and raises a
`ValueError` on every other byte string; what it returns is the pair of bit patterns stored in
the payload, and every POINT, with or without an SRID in front, is decoded to itself. -/
theorem parseMysqlPoint_wkb :
    (∀ binary : List UInt8,
      ((∃ x y, parseMysqlPoint (.bytes binary) = .ok (.tuple [.float x, .float y])) ↔
        WellFormedPoint binary) ∧
      (¬ WellFormedPoint binary →
        ∃ message, parseMysqlPoint (.bytes binary) = .error (.valueError message)) ∧
      (WellFormedPoint binary → ∃ little x y,
        (binary = encodeWkbPoint little x y ∨
          ∃ srid, srid.length = 4 ∧ binary = srid ++ encodeWkbPoint little x y) ∧
        parseMysqlPoint (.bytes binary) = .ok (.tuple [.float x, .float y]))) ∧
    ∀ (srid : UInt32) (little : Bool) (x y : UInt64),
      parseMysqlPoint (.bytes (encodeWkbPoint little x y)) = .ok (.tuple [.float x, .float y]) ∧
      parseMysqlPoint (.bytes (encodeMysqlPoint srid little x y)) =
        .ok (.tuple [.float x, .float y]) := by
  refine ⟨fun binary => ?_, fun srid little x y =>
    ⟨parseMysqlPoint_encodeWkbPoint little x y, parseMysqlPoint_encodeMysqlPoint srid little x y⟩⟩
  rcases parseMysqlPoint_bytes_cases binary with
    ⟨point, little, x, y, encoded, parsed⟩ | ⟨malformed, message, raised⟩
  · exact ⟨iff_of_true ⟨x, y, parsed⟩ point, fun malformed => absurd point malformed,
      fun _ => ⟨little, x, y, encoded, parsed⟩⟩
  · refine ⟨iff_of_false ?_ malformed, fun _ => ⟨message, raised⟩, fun point => absurd point malformed⟩
    rintro ⟨x, y, parsed⟩
    rw [raised] at parsed
    cases parsed

/-! ## POINT columns -/

/-- Whatever `parse_mysql_point` returns is a pair. -/
theorem parseMysqlPoint_pair {value parsed : PyValue} (read : parseMysqlPoint value = .ok parsed) :
    ∃ x y, parsed = .tuple [x, y] := by
  have wkb : ∀ {payload}, parseWkbPoint payload = .ok parsed → ∃ x y, parsed = .tuple [x, y] := by
    intro payload decoded
    unfold parseWkbPoint at decoded
    simp only [pure_eq_ok, ok_bind, throw_eq_error, error_bind] at decoded
    repeat' split at decoded
    all_goals cases decoded
    all_goals exact ⟨_, _, rfl⟩
  cases value <;> rw [parseMysqlPoint] at read
  case none => cases read; exact ⟨_, _, rfl⟩
  case bytes binary =>
    split_ifs at read
    · exact wkb read
    · exact wkb read
  all_goals
    obtain ⟨length, -, failed⟩ := bind_eq_ok.mp read
    split_ifs at failed
    · obtain ⟨first, -, failed⟩ := bind_eq_ok.mp failed
      split at failed <;> cases failed

theorem convertValue_point (ext : Externals) (mysqlStructure : TableStructure) (idx : Nat)
    (value : PyValue) :
    convertValue ext mysqlStructure idx "point" "Tuple(x Float32, y Float32)" value =
      parseMysqlPoint value := by
  have tests : startswith "point" "time" = false ∧ ("point" == "json") = false ∧
      contains "Tuple(x Float32, y Float32)" "UUID" = false ∧
      contains "Tuple(x Float32, y Float32)" "UInt16" = false ∧
      contains "Tuple(x Float32, y Float32)" "UInt8" = false ∧
      contains (lower "point") "mediumint" = false ∧
      contains "Tuple(x Float32, y Float32)" "UInt32" = false ∧
      contains "Tuple(x Float32, y Float32)" "UInt64" = false ∧
      contains "Tuple(x Float32, y Float32)" "String" = false ∧ contains "point" "set(" = false ∧
      startswith "point" "point" = true ∧ startswith "point" "enum(" = false := by
    decide
  obtain ⟨time, json, uuid, u16, u8, mediumint, u32, u64, string, set, point, enum⟩ := tests
  simp only [convertValue, timeStep, jsonStep, nonNullSteps, uuidStep, unsignedCorrections,
    unsignedCorrection, charsetStep, setStep, pointStep, enumStep, time, json, uuid, u16, u8,
    mediumint, u32, u64, string, set, point, enum, Bool.false_and, Bool.false_eq_true, if_false,
    if_true, pure_eq_ok, ok_bind, bind_ok]
  cases value <;> rfl

theorem convertFieldType_point (converter : MysqlToClickhouseConverter) (parameters : String)
    (noOverride : converter.typesMapping.lookup "point" = none) :
    convertFieldType converter "point" parameters = .ok "Tuple(x Float32, y Float32)" := by
  have builtin : ∀ isUnsigned, builtinType "point" isUnsigned = .ok "Tuple(x Float32, y Float32)" :=
    fun _ => rfl
  simp only [convertFieldType, show lower "point" = "point" from rfl, convertType, noOverride,
    builtin, ok_map, show contains "Tuple(x Float32, y Float32)" "Tuple" = true by decide,
    Bool.or_true]
  rfl

/-- A POINT column is never `Nullable`, and in a converted row it holds what `parse_mysql_point`
reads from the MySQL value: always a pair, a null value being read as the origin. -/
theorem convertRecord_point (ext : Externals) (converter : MysqlToClickhouseConverter)
    (parameters : String) (noOverride : converter.typesMapping.lookup "point" = none)
    {mysqlRecord out : List PyValue} {mysqlFieldTypes clickhouseFieldTypes : List String}
    {mysqlStructure : TableStructure} {onlyPrimary : Bool} {idx : Nat}
    {clickhouseFieldType : String} {value : PyValue}
    (ok : convertRecord ext mysqlRecord mysqlFieldTypes clickhouseFieldTypes mysqlStructure
      onlyPrimary = .ok out)
    (selected : onlyPrimary = false ∨ idx ∈ mysqlStructure.primaryKeyIds)
    (valueAt : mysqlRecord[idx]? = some value)
    (mysqlAt : mysqlFieldTypes[idx]? = some "point")
    (clickhouseAt : clickhouseFieldTypes[idx]? = some clickhouseFieldType)
    (mapped : convertFieldType converter "point" parameters = .ok clickhouseFieldType) :
    clickhouseFieldType = "Tuple(x Float32, y Float32)" ∧
      ∃ x y, parseMysqlPoint value = .ok (.tuple [x, y]) ∧ out[idx]? = some (.tuple [x, y]) := by
  rw [convertFieldType_point converter parameters noOverride, Except.ok.injEq] at mapped
  subst mapped
  obtain ⟨converted, column, outAt⟩ := convertRecord_getElem? ok valueAt
  rw [convertColumn_converted _ selected mysqlAt clickhouseAt, convertValue_point] at column
  obtain ⟨x, y, rfl⟩ := parseMysqlPoint_pair column
  exact ⟨rfl, x, y, column, outAt⟩

theorem convertRecord_point_null :
    let ext : Externals := ⟨fun _ => "", fun _ => .ok "", fun _ _ => .ok "", fun _ => .ok [],
      fun _ bits => bits, fun _ value => value,
      fun value _ _ => .ok value⟩
    (MysqlToClickhouseConverter.mk none).typesMapping.lookup "point" = none ∧
      convertRecord ext [.none] ["point"] ["Tuple(x Float32, y Float32)"] {} false =
        .ok [.tuple [.int 0, .int 0]] ∧
      (false = false ∨ 0 ∈ ({} : TableStructure).primaryKeyIds) ∧
      [PyValue.none][0]? = some .none ∧ ["point"][0]? = some "point" ∧
      ["Tuple(x Float32, y Float32)"][0]? = some "Tuple(x Float32, y Float32)" ∧
      convertFieldType ⟨none⟩ "point" "" = .ok "Tuple(x Float32, y Float32)" ∧
      ("Tuple(x Float32, y Float32)" = "Tuple(x Float32, y Float32)" ∧
        ∃ x y, parseMysqlPoint .none = .ok (.tuple [x, y]) ∧
          [PyValue.tuple [.int 0, .int 0]][0]? = some (.tuple [x, y])) :=
  by
  intro ext
  exact ⟨rfl, rfl, .inl rfl, rfl, rfl, rfl, rfl,
    @convertRecord_point ext ⟨none⟩ "" rfl [.none] [.tuple [.int 0, .int 0]] ["point"]
      ["Tuple(x Float32, y Float32)"] {} false 0 _ .none rfl (.inl rfl) rfl rfl rfl rfl⟩

end MysqlChReplicator.Converter

import GpuDiscovery.Proofs.Registry.MultiString
import GpuDiscovery.Windows.PropertyData

/-!
# Reading device properties back

The system may write a property in many ways: a truth value can be any byte but zero, terminators
may be left out, and bytes may follow that mean nothing. `IsWrittenAs` lists these ways, and each of
them is read as the value it was made of. What the reader rejects (`Rejects`) is a type it does not
know and a value of fixed size with too few bytes, and nothing else: any bytes at all are text.

The types fall into two kinds, those of text and those of fixed size, and a property of a fixed size
is read from so many bytes at the beginning (`exists_reader_of_mem_fixedTypes`). Both directions are
about these kinds rather than about the single types.
-/

namespace GpuDiscovery.Windows

open Text MultiString

/-- The value can be written: its texts have no terminator in them, and those in a list are not
empty. -/
def IsStorable : PropertyValue → Prop
  | .string text => '\x00' ∉ text.toList
  | .stringList texts => ∀ text ∈ texts, IsListable text
  | .boolean _ | .int64 _ | .uint32 _ | .uint64 _ => True

instance : DecidablePred IsStorable
  | .string text => inferInstanceAs (Decidable ('\x00' ∉ text.toList))
  | .stringList texts => inferInstanceAs (Decidable (∀ text ∈ texts, IsListable text))
  | .boolean _ | .int64 _ | .uint32 _ | .uint64 _ => inferInstanceAs (Decidable True)

/-- The bytes that the system may hand out for a value. Where nothing ends a text, there is at most
half a unit behind it. -/
inductive IsWrittenAs : PropertyValue → List UInt8 → Prop where
  /-- A zero byte is false, any other is true. -/
  | boolean (byte : UInt8) (rest : List UInt8) : IsWrittenAs (.boolean (byte != 0)) (byte :: rest)
  | uint32 (number : UInt32) (rest : List UInt8) :
      IsWrittenAs (.uint32 number) (bytesOfNumber 4 number.toNat ++ rest)
  /-- The sign is in the highest bit. -/
  | int64 (number : Int64) (rest : List UInt8) :
      IsWrittenAs (.int64 number) (bytesOfNumber 8 number.toUInt64.toNat ++ rest)
  | uint64 (number : UInt64) (rest : List UInt8) :
      IsWrittenAs (.uint64 number) (bytesOfNumber 8 number.toNat ++ rest)
  | string (text : String) (rest : List UInt8) :
      IsWrittenAs (.string text) (bytesOfUnits (Utf16.encode text ++ [0]) ++ rest)
  | openString (text : String) {stray : List UInt8} (hstray : stray.length ≤ 1) :
      IsWrittenAs (.string text) (bytesOfUnits (Utf16.encode text) ++ stray)
  | stringList (texts : List String) (rest : List UInt8) :
      IsWrittenAs (.stringList texts) (bytesOfUnits (encode texts) ++ rest)
  /-- The end of the list is missing. -/
  | openList (texts : List String) {stray : List UInt8} (hstray : stray.length ≤ 1) :
      IsWrittenAs (.stringList texts) (bytesOfUnits (encodeStrings texts) ++ stray)
  /-- So is the terminator of the last text. -/
  | openListText {texts : List String} (hne : texts ≠ []) {stray : List UInt8}
      (hstray : stray.length ≤ 1) :
      IsWrittenAs (.stringList texts) (bytesOfUnits (encodeStrings texts).dropLast ++ stray)

/-- The types of text. -/
def textTypes : List UInt32 :=
  [PropertyType.string, PropertyType.stringList]

/-- The types of a fixed size, with the number of bytes. -/
def fixedTypes : List (UInt32 × Nat) :=
  [(PropertyType.boolean, 1), (PropertyType.uint32, 4), (PropertyType.int64, 8),
    (PropertyType.uint64, 8)]

/-- Bytes of this type are no property, and why. -/
inductive Rejects (type : UInt32) (bytes : List UInt8) : DiscoveryError → Prop where
  | unknown (htext : type ∉ textTypes) (hfixed : type ∉ fixedTypes.map (·.1)) :
      Rejects type bytes
        (.message ("unsupported device property type 0x" ++ lowerHex type.toNat))
  | short {size : Nat} (htype : (type, size) ∈ fixedTypes) (hshort : bytes.length < size) :
      Rejects type bytes (.message ("property value shorter than " ++ decimal size ++ " bytes"))

variable {type : UInt32} {bytes rest stray : List UInt8} {size : Nat}

/-! ## The kinds of types -/

theorem decodeProperty_string (bytes : List UInt8) :
    decodeProperty PropertyType.string bytes =
      .ok (.string (Utf16.decodeLossy (Utf16.beforeZero (unitsOfBytes bytes)))) := rfl

theorem decodeProperty_stringList (bytes : List UInt8) :
    decodeProperty PropertyType.stringList bytes =
      .ok (.stringList (decode (unitsOfBytes bytes))) := rfl

theorem decodeProperty_boolean (bytes : List UInt8) :
    decodeProperty PropertyType.boolean bytes =
      (fixedSize 1 bytes).map fun value => .boolean (numberOfBytes value != 0) := rfl

theorem decodeProperty_uint32 (bytes : List UInt8) :
    decodeProperty PropertyType.uint32 bytes =
      (fixedSize 4 bytes).map fun value => .uint32 (UInt32.ofNat (numberOfBytes value)) := rfl

theorem decodeProperty_int64 (bytes : List UInt8) :
    decodeProperty PropertyType.int64 bytes =
      (fixedSize 8 bytes).map fun value =>
        .int64 (UInt64.ofNat (numberOfBytes value)).toInt64 := rfl

theorem decodeProperty_uint64 (bytes : List UInt8) :
    decodeProperty PropertyType.uint64 bytes =
      (fixedSize 8 bytes).map fun value => .uint64 (UInt64.ofNat (numberOfBytes value)) := rfl

/-- Text is read from the units that the bytes make up, whatever they are. -/
theorem exists_reader_of_mem_textTypes (h : type ∈ textTypes) :
    ∃ read : List UInt16 → PropertyValue, ∀ bytes,
      decodeProperty type bytes = .ok (read (unitsOfBytes bytes)) := by
  rcases List.mem_cons.1 h with rfl | h
  · exact ⟨fun units => .string (Utf16.decodeLossy (Utf16.beforeZero units)),
      decodeProperty_string⟩
  · obtain rfl := List.mem_singleton.1 h
    exact ⟨fun units => .stringList (decode units), decodeProperty_stringList⟩

/-- A value of fixed size is read from its bytes, if there are so many. -/
theorem exists_reader_of_mem_fixedTypes (h : (type, size) ∈ fixedTypes) :
    ∃ read : List UInt8 → PropertyValue, ∀ bytes,
      decodeProperty type bytes = (fixedSize size bytes).map read := by
  simp only [fixedTypes, List.mem_cons, Prod.mk.injEq, List.not_mem_nil, or_false] at h
  rcases h with ⟨rfl, rfl⟩ | ⟨rfl, rfl⟩ | ⟨rfl, rfl⟩ | ⟨rfl, rfl⟩
  · exact ⟨_, decodeProperty_boolean⟩
  · exact ⟨_, decodeProperty_uint32⟩
  · exact ⟨_, decodeProperty_int64⟩
  · exact ⟨_, decodeProperty_uint64⟩

theorem decodeProperty_of_unknown (htext : type ∉ textTypes)
    (hfixed : type ∉ fixedTypes.map (·.1)) (bytes : List UInt8) :
    decodeProperty type bytes =
      .error (.message ("unsupported device property type 0x" ++ lowerHex type.toNat)) := by
  simp only [textTypes, fixedTypes, List.map_cons, List.map_nil, List.mem_cons, List.not_mem_nil,
    or_false, not_or] at htext hfixed
  obtain ⟨hstring, hlist⟩ := htext
  obtain ⟨hboolean, huint32, hint64, huint64⟩ := hfixed
  rw [decodeProperty, if_neg hstring, if_neg hlist, if_neg hboolean, if_neg huint32, if_neg hint64,
    if_neg huint64]

/-! ## What is rejected -/

/-- A value of fixed size is rejected exactly if bytes are missing. -/
theorem map_fixedSize_eq_error_iff {read : List UInt8 → PropertyValue} {error : DiscoveryError} :
    (fixedSize size bytes).map read = .error error ↔
      bytes.length < size ∧
        error = .message ("property value shorter than " ++ decimal size ++ " bytes") := by
  rw [fixedSize]
  by_cases hsize : size ≤ bytes.length
  · rw [if_pos hsize]
    exact iff_of_false nofun fun h => absurd h.1 (Nat.not_lt.2 hsize)
  · rw [if_neg hsize]
    constructor
    · intro h
      exact ⟨Nat.lt_of_not_le hsize, (Except.error.inj h).symm⟩
    · rintro ⟨-, rfl⟩
      rfl

theorem decodeProperty_eq_error_iff {error : DiscoveryError} :
    decodeProperty type bytes = .error error ↔ Rejects type bytes error := by
  constructor
  · intro h
    by_cases htext : type ∈ textTypes
    · obtain ⟨read, hread⟩ := exists_reader_of_mem_textTypes htext
      rw [hread] at h
      cases h
    by_cases hfixed : type ∈ fixedTypes.map (·.1)
    · obtain ⟨⟨_, size⟩, hmem, rfl⟩ := List.mem_map.1 hfixed
      obtain ⟨read, hread⟩ := exists_reader_of_mem_fixedTypes hmem
      rw [hread, map_fixedSize_eq_error_iff] at h
      obtain ⟨hshort, rfl⟩ := h
      exact .short hmem hshort
    · rw [decodeProperty_of_unknown htext hfixed] at h
      rw [← Except.error.inj h]
      exact .unknown htext hfixed
  · rintro (⟨htext, hfixed⟩ | ⟨hmem, hshort⟩)
    · exact decodeProperty_of_unknown htext hfixed bytes
    · obtain ⟨read, hread⟩ := exists_reader_of_mem_fixedTypes hmem
      rw [hread, map_fixedSize_eq_error_iff]
      exact ⟨hshort, rfl⟩

/-! ## What is read -/

/-- Half a unit is none. -/
theorem unitsOfBytes_stray (h : stray.length ≤ 1) : unitsOfBytes stray = [] := by
  rcases stray with _ | ⟨byte, _ | ⟨next, rest⟩⟩
  · rfl
  · rfl
  · simp at h

/-- A number is read from its bytes, whatever bytes follow. -/
theorem fixedSize_bytesOfNumber (size number : Nat) (rest : List UInt8) :
    fixedSize size (bytesOfNumber size number ++ rest) = .ok (bytesOfNumber size number) := by
  have hlength := length_bytesOfNumber size number
  have henough : size ≤ (bytesOfNumber size number ++ rest).length := by
    rw [List.length_append]
    omega
  rw [fixedSize, if_pos henough, List.take_left' hlength]

/-- A text is read from its units, with and without a terminator. -/
theorem decodeLossy_beforeZero_encode {text : String} (h : '\x00' ∉ text.toList)
    (tail : List UInt16) :
    Utf16.decodeLossy (Utf16.beforeZero (Utf16.encode text)) = text ∧
      Utf16.decodeLossy (Utf16.beforeZero (Utf16.encode text ++ 0 :: tail)) = text := by
  have hzero : 0 ∉ Utf16.encode text := Utf16.zero_notMem_encode h
  have hread : Utf16.decodeLossy (Utf16.encode text) = text :=
    Utf16.decodeLossy_of_decode? (Utf16.decode?_encode text)
  constructor
  · rw [Utf16.beforeZero_of_notMem hzero, hread]
  · rw [Utf16.beforeZero_append_zero hzero, hread]

/-- However a value is written, it is read as what it is. -/
theorem decodeProperty_of_isWrittenAs {value : PropertyValue} (hvalue : IsStorable value)
    (h : IsWrittenAs value bytes) : decodeProperty (propertyType value) bytes = .ok value := by
  cases h with
  | boolean byte rest =>
    have hfirst : fixedSize 1 (byte :: rest) = .ok [byte] := rfl
    have hbyte : (numberOfBytes [byte] != 0) = (byte != 0) := by
      rw [numberOfBytes, numberOfBytes, Bool.eq_iff_iff, bne_iff_ne, bne_iff_ne, ne_eq, ne_eq,
        ← UInt8.toNat_inj]
      simp
    rw [propertyType, decodeProperty_boolean, hfirst, Except.map, hbyte]
  | uint32 number rest =>
    have hnumber : numberOfBytes (bytesOfNumber 4 number.toNat) = number.toNat :=
      numberOfBytes_bytesOfNumber number.toNat_lt
    rw [propertyType, decodeProperty_uint32, fixedSize_bytesOfNumber, Except.map, hnumber,
      UInt32.ofNat_toNat]
  | int64 number rest =>
    have hnumber :
        numberOfBytes (bytesOfNumber 8 number.toUInt64.toNat) = number.toUInt64.toNat :=
      numberOfBytes_bytesOfNumber number.toUInt64.toNat_lt
    rw [propertyType, decodeProperty_int64, fixedSize_bytesOfNumber, Except.map, hnumber,
      UInt64.ofNat_toNat, Int64.toInt64_toUInt64]
  | uint64 number rest =>
    have hnumber : numberOfBytes (bytesOfNumber 8 number.toNat) = number.toNat :=
      numberOfBytes_bytesOfNumber number.toNat_lt
    rw [propertyType, decodeProperty_uint64, fixedSize_bytesOfNumber, Except.map, hnumber,
      UInt64.ofNat_toNat]
  | string text rest =>
    rw [propertyType, decodeProperty_string, unitsOfBytes_append, List.append_assoc,
      List.singleton_append, (decodeLossy_beforeZero_encode hvalue _).2]
  | openString text hstray =>
    rw [propertyType, decodeProperty_string, unitsOfBytes_append, unitsOfBytes_stray hstray,
      List.append_nil, (decodeLossy_beforeZero_encode hvalue []).1]
  | stringList texts rest =>
    rw [propertyType, decodeProperty_stringList, unitsOfBytes_append,
      decode_encode_append hvalue]
  | openList texts hstray =>
    rw [propertyType, decodeProperty_stringList, unitsOfBytes_append, unitsOfBytes_stray hstray,
      List.append_nil, decode_encodeStrings hvalue]
  | openListText hne hstray =>
    rw [propertyType, decodeProperty_stringList, unitsOfBytes_append, unitsOfBytes_stray hstray,
      List.append_nil, decode_dropLast_encodeStrings hvalue hne]

/-- With all terminators is one of the ways to write a value. -/
theorem isWrittenAs_encodeProperty (value : PropertyValue) :
    IsWrittenAs value (encodeProperty value) := by
  rw [← List.append_nil (encodeProperty value)]
  cases value with
  | boolean truth =>
    cases truth
    · exact .boolean 0 []
    · exact .boolean 0xFF []
  | int64 number => exact .int64 number []
  | uint32 number => exact .uint32 number []
  | uint64 number => exact .uint64 number []
  | string text => exact .string text []
  | stringList texts => exact .stringList texts []

/-- **Reading device properties.** A value that can be written is read back from its type and any of
the bytes that it may be written as, those with all terminators among them. Bytes are rejected
exactly if their type is not one of the six or if they are too few for a value of fixed size, and
the error says which. A byte that is left over behind whole units of text makes no difference. -/
theorem decodeProperty_undoes_writing :
    (∀ value, IsWrittenAs value (encodeProperty value)) ∧
    (∀ value bytes, IsStorable value → IsWrittenAs value bytes →
      decodeProperty (propertyType value) bytes = .ok value) ∧
    (∀ type bytes error, decodeProperty type bytes = .error error ↔ Rejects type bytes error) ∧
    ∀ type ∈ textTypes, ∀ bytes byte, bytes.length % 2 = 0 →
      decodeProperty type (bytes ++ [byte]) = decodeProperty type bytes := by
  refine ⟨isWrittenAs_encodeProperty, fun _ _ => decodeProperty_of_isWrittenAs,
    fun _ _ _ => decodeProperty_eq_error_iff, ?_⟩
  intro type htype bytes byte heven
  obtain ⟨read, hread⟩ := exists_reader_of_mem_textTypes htype
  have hwhole : 2 * ((bytes ++ [byte]).length / 2) = bytes.length := by
    rw [List.length_append, List.length_singleton]
    omega
  rw [hread, hread, ← unitsOfBytes_take_even (bytes ++ [byte]), hwhole, List.take_left]

/-- Three properties with more or fewer bytes than they need: a negative number with a byte behind
it, a list without the terminator of its last text and with half a unit instead, and a text with
half a unit. -/
theorem decodeProperty_of_oddBytes :
    IsStorable (.int64 (-2)) ∧
      IsWrittenAs (.int64 (-2)) [0xFE, 0xFF, 0xFF, 0xFF, 0xFF, 0xFF, 0xFF, 0xFF, 9] ∧
      decodeProperty 8 [0xFE, 0xFF, 0xFF, 0xFF, 0xFF, 0xFF, 0xFF, 0xFF, 9] = .ok (.int64 (-2)) ∧
      IsStorable (.stringList ["nv", "é"]) ∧
      IsWrittenAs (.stringList ["nv", "é"]) [0x6E, 0, 0x76, 0, 0, 0, 0xE9, 0, 0x7A] ∧
      decodeProperty 0x2012 [0x6E, 0, 0x76, 0, 0, 0, 0xE9, 0, 0x7A] =
        .ok (.stringList ["nv", "é"]) ∧
      PropertyType.string ∈ textTypes ∧
      decodeProperty PropertyType.string ([0x61, 0] ++ [0x62]) =
        decodeProperty PropertyType.string [0x61, 0] := by
  have hnumber : IsWrittenAs (.int64 (-2)) [0xFE, 0xFF, 0xFF, 0xFF, 0xFF, 0xFF, 0xFF, 0xFF, 9] :=
    .int64 (-2) [9]
  have hlist : IsWrittenAs (.stringList ["nv", "é"]) [0x6E, 0, 0x76, 0, 0, 0, 0xE9, 0, 0x7A] :=
    @IsWrittenAs.openListText ["nv", "é"] (List.cons_ne_nil _ _) [0x7A] (Nat.le_refl 1)
  have htexts : IsStorable (.stringList ["nv", "é"]) := by decide
  have hstorable : IsStorable (.int64 (-2)) := trivial
  have htype : PropertyType.string ∈ textTypes := List.mem_cons_self
  obtain ⟨-, hreads, -, hstray⟩ := decodeProperty_undoes_writing
  exact ⟨hstorable, hnumber, hreads _ _ hstorable hnumber, htexts, hlist, hreads _ _ htexts hlist,
    htype, hstray _ htype [0x61, 0] 0x62 rfl⟩

end GpuDiscovery.Windows

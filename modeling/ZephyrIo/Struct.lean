import Mathlib

/-!
# Unsigned little-endian `struct` fields over byte strings

Every wire format of the repository's host clients is a `struct` format of unsigned
little-endian fields (`<BBH`, `<BBHHQ`, `<BHI`, `<BH`). A field of `w` bytes is modelled by
`packLE w` and `unpackLE`; `struct.pack` checks that each value fits its width and
`struct.unpack` that the buffer has exactly the format's size, raising `struct.error`
otherwise. Python integers are `ℕ`, bytes are `UInt8`.
-/

namespace ZephyrIo

abbrev Bytes := List UInt8

/-- The exceptions the modelled code raises, with the message it raises them with. -/
inductive PyError
  | structError (msg : String)
  | valueError (msg : String)
  | typeError (msg : String)
  | runtimeError (msg : String)
  | timeoutError (msg : String)
  | osError (msg : String)
  | overflowError (msg : String)
  | socketTimeout
  deriving DecidableEq, Repr

theorem uint8_toNat_ofNat (n : ℕ) : (UInt8.ofNat n).toNat = n % 256 := by
  simp [UInt8.ofNat, UInt8.toNat, BitVec.toNat_ofNat]

theorem uint8_ofNat_toNat (b : UInt8) : UInt8.ofNat b.toNat = b :=
  UInt8.toNat.inj (by rw [uint8_toNat_ofNat]; exact Nat.mod_eq_of_lt b.toNat_lt_size)

/-- The `w` little-endian bytes `struct.pack` writes for an unsigned field. -/
def packLE : ℕ → ℕ → Bytes
  | 0, _ => []
  | w + 1, n => UInt8.ofNat n :: packLE w (n / 256)

/-- The value `struct.unpack` reads from an unsigned little-endian field. -/
def unpackLE : Bytes → ℕ
  | [] => 0
  | b :: bs => b.toNat + 256 * unpackLE bs

@[simp] theorem packLE_zero (n : ℕ) : packLE 0 n = [] := rfl

@[simp] theorem packLE_succ (w n : ℕ) : packLE (w + 1) n = UInt8.ofNat n :: packLE w (n / 256) := rfl

@[simp] theorem unpackLE_nil : unpackLE [] = 0 := rfl

@[simp] theorem unpackLE_cons (b : UInt8) (bs : Bytes) :
    unpackLE (b :: bs) = b.toNat + 256 * unpackLE bs := rfl

@[simp] theorem packLE_length (w n : ℕ) : (packLE w n).length = w := by
  induction w generalizing n <;> simp [*]

theorem unpackLE_packLE (w n : ℕ) : unpackLE (packLE w n) = n % 256 ^ w := by
  induction w generalizing n with
  | zero => simp [Nat.mod_one]
  | succ w ih =>
    rw [packLE_succ, unpackLE_cons, ih, uint8_toNat_ofNat, Nat.pow_succ', Nat.mod_mul]

theorem packLE_unpackLE (bs : Bytes) : packLE bs.length (unpackLE bs) = bs := by
  induction bs with
  | nil => rfl
  | cons b bs ih =>
    have hb : b.toNat < 256 := b.toNat_lt_size
    have hd : (b.toNat + 256 * unpackLE bs) / 256 = unpackLE bs := by omega
    simp only [List.length_cons, packLE_succ, unpackLE_cons, hd, ih]
    exact congrArg (· :: bs) (UInt8.toNat.inj (by rw [uint8_toNat_ofNat]; omega))

theorem unpackLE_lt (bs : Bytes) : unpackLE bs < 256 ^ bs.length := by
  induction bs with
  | nil => simp
  | cons b bs ih =>
    have hb : b.toNat < 256 := b.toNat_lt_size
    rw [unpackLE_cons, List.length_cons, Nat.pow_succ]
    omega

/-- One unsigned little-endian field of `w` bytes read from the front of a buffer, and the
rest of the buffer. -/
def readField (w : ℕ) (bs : Bytes) : ℕ × Bytes := (unpackLE (bs.take w), bs.drop w)

@[simp] theorem readField_packLE (w n : ℕ) (rest : Bytes) :
    readField w (packLE w n ++ rest) = (n % 256 ^ w, rest) := by
  simp [readField, List.take_left' (packLE_length w n), List.drop_left' (packLE_length w n),
    unpackLE_packLE]

theorem readField_fst_lt (w : ℕ) (bs : Bytes) : (readField w bs).1 < 256 ^ w :=
  lt_of_lt_of_le (unpackLE_lt _) (Nat.pow_le_pow_right (by omega) (List.length_take_le _ _))

/-- Reading a field of a long enough buffer and writing it back gives its bytes back. -/
theorem packLE_unpackLE_take {w : ℕ} {bs : Bytes} (h : w ≤ bs.length) :
    packLE w (unpackLE (bs.take w)) = bs.take w := by
  simpa only [List.length_take_of_le h] using packLE_unpackLE (bs.take w)

/-- `struct.unpack` checks that the buffer has exactly the format's size. -/
def checkSize {α : Type} (size : ℕ) (bs : Bytes) (v : α) : Except PyError α :=
  if bs.length = size then .ok v
  else .error (.structError ("unpack requires a buffer of " ++ toString size ++ " bytes"))

@[simp] theorem checkSize_of_length {α : Type} {size : ℕ} {bs : Bytes} (v : α)
    (h : bs.length = size) : checkSize size bs v = .ok v := by
  simp [checkSize, h]

/-- The `struct.error` text for a value that does not fit its unsigned field of `w` bytes, as
CPython 3.11 words it on a little-endian host, where `<B`, `<H` and `<I` use the native
packers: `B` and `H` read the value as a C `long` and name their range, `I` reads it as an
`unsigned long`, and a value past what the packer reads is "argument out of range". -/
def packRangeError (w v : ℕ) : String :=
  if w = 1 ∧ v < 2 ^ 63 then "ubyte format requires 0 <= number <= 255"
  else if w = 2 ∧ v < 2 ^ 63 then "ushort format requires 0 <= number <= 65535"
  else if w = 4 ∧ v < 2 ^ 64 then "'I' format requires 0 <= number <= 4294967295"
  else "argument out of range"

/-- `struct.pack` of unsigned little-endian fields, each given as `(width, value)`; the first
value that does not fit its width raises `struct.error`. -/
def structPack : List (ℕ × ℕ) → Except PyError Bytes
  | [] => .ok []
  | (w, v) :: fs =>
    if v < 256 ^ w then (structPack fs).map (packLE w v ++ ·)
    else .error (.structError (packRangeError w v))

theorem structPack_cons_of_lt {w v : ℕ} (fs : List (ℕ × ℕ)) (h : v < 256 ^ w) :
    structPack ((w, v) :: fs) = (structPack fs).map (packLE w v ++ ·) := by
  simp [structPack, h]

theorem structPack_cons_of_le {w v : ℕ} (fs : List (ℕ × ℕ)) (h : 256 ^ w ≤ v) :
    structPack ((w, v) :: fs) = .error (.structError (packRangeError w v)) := by
  simp [structPack, Nat.not_lt.mpr h]

/-- The fields of a format, written with no check. -/
def packFields (fs : List (ℕ × ℕ)) : Bytes := fs.flatMap fun f => packLE f.1 f.2

theorem structPack_eq_ok {fs : List (ℕ × ℕ)} (h : ∀ f ∈ fs, f.2 < 256 ^ f.1) :
    structPack fs = .ok (packFields fs) := by
  induction fs with
  | nil => rfl
  | cons f fs ih =>
    obtain ⟨w, v⟩ := f
    simp only [structPack, h (w, v) (List.mem_cons_self _ _), if_true,
      ih fun g hg => h g (List.mem_cons_of_mem _ hg)]
    rfl

/-- A value that does not fit its width makes `struct.pack` raise `struct.error`. -/
theorem structPack_eq_error {fs : List (ℕ × ℕ)} (h : ∃ f ∈ fs, 256 ^ f.1 ≤ f.2) :
    ∃ msg, structPack fs = .error (.structError msg) := by
  induction fs with
  | nil => simp at h
  | cons f fs ih =>
    obtain ⟨w, v⟩ := f
    by_cases hv : v < 256 ^ w
    · obtain ⟨msg, hm⟩ := ih (by
        obtain ⟨g, hg, hle⟩ := h
        rcases List.mem_cons.mp hg with rfl | hg
        · exact absurd hv (Nat.not_lt.mpr hle)
        · exact ⟨g, hg, hle⟩)
      exact ⟨msg, by rw [structPack_cons_of_lt fs hv, hm]; rfl⟩
    · exact ⟨_, structPack_cons_of_le fs (Nat.not_lt.mp hv)⟩

/-- `struct.unpack('<BBH', bs)`: version, packet id and payload length of the simple header. -/
def readBBH (bs : Bytes) : ℕ × ℕ × ℕ :=
  let (version, bs) := readField 1 bs
  let (packetId, bs) := readField 1 bs
  (version, packetId, (readField 2 bs).1)

theorem readBBH_lt (bs : Bytes) :
    (readBBH bs).1 < 256 ∧ (readBBH bs).2.1 < 256 ∧ (readBBH bs).2.2 < 65536 :=
  ⟨readField_fst_lt 1 _, readField_fst_lt 1 _, readField_fst_lt 2 _⟩

theorem readBBH_take (bs : Bytes) : readBBH (bs.take 4) = readBBH bs := by
  simp [readBBH, readField, List.take_take, List.drop_take]

def unpackBBH (bs : Bytes) : Except PyError (ℕ × ℕ × ℕ) := checkSize 4 bs (readBBH bs)

/-- `struct.pack('<BBH', version, packet_id, length)` with no check. -/
def headerBBH (version packetId length : ℕ) : Bytes :=
  packFields [(1, version), (1, packetId), (2, length)]

@[simp] theorem headerBBH_length (version packetId length : ℕ) :
    (headerBBH version packetId length).length = 4 := by
  simp [headerBBH, packFields]

theorem readBBH_headerBBH (version packetId length : ℕ) (rest : Bytes) :
    readBBH (headerBBH version packetId length ++ rest) =
      (version % 256, packetId % 256, length % 65536) := by
  simp [readBBH, headerBBH, packFields, List.append_assoc, -packLE_succ]

theorem headerBBH_readBBH {bs : Bytes} (h : 4 ≤ bs.length) :
    headerBBH (readBBH bs).1 (readBBH bs).2.1 (readBBH bs).2.2 = bs.take 4 := by
  have h₁ : 1 ≤ (bs.drop 1).length := by simp; omega
  have h₂ : 2 ≤ ((bs.drop 1).drop 1).length := by simp; omega
  simp only [readBBH, readField, headerBBH, packFields, List.flatMap_cons, List.flatMap_nil,
    List.append_nil, packLE_unpackLE_take (by omega : 1 ≤ bs.length), packLE_unpackLE_take h₁,
    packLE_unpackLE_take h₂]
  rw [← List.take_add, ← List.take_add]

/-- `struct.unpack('<BHI', bs)`: command, sequence number and timestamp of a ping
response. -/
def readBHI (bs : Bytes) : ℕ × ℕ × ℕ :=
  let (cmd, bs) := readField 1 bs
  let (seqNum, bs) := readField 2 bs
  (cmd, seqNum, (readField 4 bs).1)

def unpackBHI (bs : Bytes) : Except PyError (ℕ × ℕ × ℕ) := checkSize 7 bs (readBHI bs)

theorem readBHI_take (bs : Bytes) : readBHI (bs.take 7) = readBHI bs := by
  simp [readBHI, readField, List.take_take, List.drop_take]

/-- `struct.unpack('<BBHHQ', bs)`: packet id, reserved byte, counter, content length and
timestamp of the extended header. -/
def readBBHHQ (bs : Bytes) : ℕ × ℕ × ℕ × ℕ × ℕ :=
  let (packetId, bs) := readField 1 bs
  let (reserved, bs) := readField 1 bs
  let (counter, bs) := readField 2 bs
  let (contentLength, bs) := readField 2 bs
  (packetId, reserved, counter, contentLength, (readField 8 bs).1)

theorem readBBHHQ_take (bs : Bytes) : readBBHHQ (bs.take 14) = readBBHHQ bs := by
  simp [readBBHHQ, readField, List.take_take, List.drop_take]

def unpackBBHHQ (bs : Bytes) : Except PyError (ℕ × ℕ × ℕ × ℕ × ℕ) := checkSize 14 bs (readBBHHQ bs)

/-- `struct.pack('<BBHHQ', packet_id, reserved, counter, content_length, timestamp_ns)` with
no check. -/
def headerBBHHQ (packetId reserved counter contentLength timestampNs : ℕ) : Bytes :=
  packFields [(1, packetId), (1, reserved), (2, counter), (2, contentLength), (8, timestampNs)]

@[simp] theorem headerBBHHQ_length (packetId reserved counter contentLength timestampNs : ℕ) :
    (headerBBHHQ packetId reserved counter contentLength timestampNs).length = 14 := by
  simp [headerBBHHQ, packFields]

theorem readBBHHQ_headerBBHHQ (packetId reserved counter contentLength timestampNs : ℕ)
    (rest : Bytes) :
    readBBHHQ (headerBBHHQ packetId reserved counter contentLength timestampNs ++ rest) =
      (packetId % 256, reserved % 256, counter % 65536, contentLength % 65536,
        timestampNs % 2 ^ 64) := by
  simp [readBBHHQ, headerBBHHQ, packFields, List.append_assoc, -packLE_succ]

theorem readBBHHQ_lt (bs : Bytes) :
    (readBBHHQ bs).1 < 256 ∧ (readBBHHQ bs).2.1 < 256 ∧ (readBBHHQ bs).2.2.1 < 65536 ∧
      (readBBHHQ bs).2.2.2.1 < 65536 ∧ (readBBHHQ bs).2.2.2.2 < 2 ^ 64 :=
  ⟨readField_fst_lt 1 _, readField_fst_lt 1 _, readField_fst_lt 2 _, readField_fst_lt 2 _,
    readField_fst_lt 8 _⟩

theorem headerBBHHQ_readBBHHQ {bs : Bytes} (h : 14 ≤ bs.length) :
    headerBBHHQ (readBBHHQ bs).1 (readBBHHQ bs).2.1 (readBBHHQ bs).2.2.1 (readBBHHQ bs).2.2.2.1
      (readBBHHQ bs).2.2.2.2 = bs.take 14 := by
  simp only [readBBHHQ, readField, headerBBHHQ, packFields, List.flatMap_cons, List.flatMap_nil,
    List.append_nil, List.drop_drop]
  rw [packLE_unpackLE_take (by omega), packLE_unpackLE_take (by simp; omega),
    packLE_unpackLE_take (by simp; omega), packLE_unpackLE_take (by simp; omega),
    packLE_unpackLE_take (by simp; omega)]
  simp only [← List.take_add, ← List.drop_drop]

end ZephyrIo

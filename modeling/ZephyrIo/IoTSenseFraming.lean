import ZephyrIo.Struct

/-!
# Framing the simple IoTSense header out of a byte buffer

`IoTSensePacket` and the framing loop of `TCPClient._receive_loop`, from the router sample's
TCP test (`swift_io/samples/router_sample/tests/test_router_tcp.py`). The loop repeatedly
unpacks a header from the front of the buffer and removes the packet once all of its
payload is there.

Over the faithful model sits a `Frame`, a packet the 4-byte header can carry, and its wire
encoding. Every buffer is a run of frames followed by an incomplete tail
(`parsePackets_spec`), the loop emits exactly those frames (`parsePackets_frames`), and
so it does not matter where a buffer was cut (`parsePackets_append`).
-/

namespace ZephyrIo.RouterTcpTest

def iotsenseVersion : ℕ := 0x01

/-- The fields of the Python object; `unpack` can leave `payload` shorter than
`payloadLen`. -/
structure IoTSensePacket where
  version : ℕ
  packetId : ℕ
  payloadLen : ℕ
  payload : Bytes
  deriving DecidableEq, Repr

namespace IoTSensePacket

/-- `IoTSensePacket(packet_id, payload)`; Python's default payload is `b''`. -/
def new (packetId : ℕ) (payload : Bytes) : IoTSensePacket :=
  ⟨iotsenseVersion, packetId, payload.length, payload⟩

def pack (p : IoTSensePacket) : Except PyError Bytes :=
  if p.payloadLen > 65535 then
    .error (.valueError ("Payload length " ++ toString p.payloadLen ++ " exceeds maximum of 65535"))
  else (structPack [(1, p.version), (1, p.packetId), (2, p.payloadLen)]).map (· ++ p.payload)

/-- `data[:4]` has exactly four bytes once `len(data) >= 4`, so `struct.unpack` reads it
with no size error. -/
def unpack (data : Bytes) : Option IoTSensePacket :=
  if data.length < 4 then none
  else
    let (version, packetId, payloadLen) := readBBH (data.take 4)
    let packet : IoTSensePacket := { new packetId [] with version, payloadLen }
    if data.length ≥ 4 + payloadLen then some { packet with payload := (data.drop 4).take payloadLen }
    else some packet

/-- What `unpack` makes of a buffer that holds a header: its three fields, and the payload
the header announces whenever all of it is there. -/
theorem unpack_spec {data : Bytes} (h : 4 ≤ data.length) :
    ∃ p, unpack data = some p ∧ p.version = (readBBH data).1 ∧
      p.packetId = (readBBH data).2.1 ∧ p.payloadLen = (readBBH data).2.2 ∧
      (4 + p.payloadLen ≤ data.length → p.payload = (data.drop 4).take p.payloadLen) := by
  unfold unpack
  rw [if_neg (by omega), readBBH_take]
  rcases readBBH data with ⟨v, i, l⟩
  dsimp only
  split_ifs with hl
  · exact ⟨_, rfl, rfl, rfl, rfl, fun _ => rfl⟩
  · exact ⟨_, rfl, rfl, rfl, rfl, fun h' => absurd h' hl⟩

end IoTSensePacket

/-- A packet the simple header can carry: byte-sized version and id, and a payload whose
length fits the 16-bit length field. -/
structure Frame where
  version : UInt8
  packetId : UInt8
  payload : Bytes
  payload_lt : payload.length < 65536

namespace Frame

/-- `struct.pack('<BBH', version, packet_id, len(payload)) + payload`. -/
def encode (f : Frame) : Bytes :=
  headerBBH f.version.toNat f.packetId.toNat f.payload.length ++ f.payload

/-- The object `IoTSensePacket.unpack` builds from the frame's bytes. -/
def toPacket (f : Frame) : IoTSensePacket :=
  ⟨f.version.toNat, f.packetId.toNat, f.payload.length, f.payload⟩

@[simp] theorem encode_length (f : Frame) : f.encode.length = 4 + f.payload.length := by
  simp [encode]

theorem readBBH_encode (f : Frame) (rest : Bytes) :
    readBBH (f.encode ++ rest) = (f.version.toNat, f.packetId.toNat, f.payload.length) := by
  have hv : f.version.toNat < 256 := f.version.toNat_lt_size
  have hi : f.packetId.toNat < 256 := f.packetId.toNat_lt_size
  rw [encode, List.append_assoc, readBBH_headerBBH, Nat.mod_eq_of_lt hv, Nat.mod_eq_of_lt hi,
    Nat.mod_eq_of_lt f.payload_lt]

theorem unpack_encode (f : Frame) (rest : Bytes) :
    IoTSensePacket.unpack (f.encode ++ rest) = some f.toPacket := by
  obtain ⟨p, hp, hv, hi, hl, hpay⟩ :=
    IoTSensePacket.unpack_spec (by simp; omega : 4 ≤ (f.encode ++ rest).length)
  rw [readBBH_encode] at hv hi hl
  have hpl : p.payload = f.payload := by
    rw [hpay (by simp [hl]), hl, encode, List.append_assoc, List.drop_left' (by simp),
      List.take_left' rfl]
  rw [hp]
  cases p
  simp_all [toPacket]

theorem pack_toPacket (f : Frame) : f.toPacket.pack = .ok f.encode := by
  have hv : f.version.toNat < 256 := f.version.toNat_lt_size
  have hi : f.packetId.toNat < 256 := f.packetId.toNat_lt_size
  have hl := f.payload_lt
  rw [IoTSensePacket.pack, if_neg (by simp [toPacket]; omega),
    structPack_eq_ok (by simp [toPacket]; omega)]
  rfl

/-- The frame a buffer starts with, once its header and the payload it announces are
all there. -/
def front (buffer : Bytes) : Frame :=
  ⟨UInt8.ofNat (readBBH buffer).1, UInt8.ofNat (readBBH buffer).2.1,
    (buffer.drop 4).take (readBBH buffer).2.2,
    lt_of_le_of_lt (List.length_take_le _ _) (readBBH_lt buffer).2.2⟩

theorem front_encode {buffer : Bytes} (h : 4 + (readBBH buffer).2.2 ≤ buffer.length) :
    (front buffer).encode ++ buffer.drop (4 + (readBBH buffer).2.2) = buffer := by
  obtain ⟨hv, hi, -⟩ := readBBH_lt buffer
  have hl : ((buffer.drop 4).take (readBBH buffer).2.2).length = (readBBH buffer).2.2 :=
    List.length_take_of_le (by simp; omega)
  simp only [front, encode, uint8_toNat_ofNat, Nat.mod_eq_of_lt hv, Nat.mod_eq_of_lt hi, hl,
    headerBBH_readBBH (by omega : 4 ≤ buffer.length), List.append_assoc, ← List.drop_drop,
    List.take_append_drop]

end Frame

/-- What the loop leaves behind: less than a header, or a header announcing more payload
than follows it. -/
def Incomplete (r : Bytes) : Prop := r.length < 4 ∨ r.length - 4 < (readBBH r).2.2

instance : DecidablePred Incomplete := fun _ => inferInstanceAs (Decidable (_ ∨ _))

theorem Frame.not_incomplete (f : Frame) (rest : Bytes) : ¬ Incomplete (f.encode ++ rest) := by
  simp only [Incomplete, Frame.readBBH_encode, List.length_append, Frame.encode_length]
  omega

/-- A stream starts with at most one frame: the header says where the frame ends. -/
theorem Frame.encode_append_inj {f g : Frame} {x y : Bytes} (h : f.encode ++ x = g.encode ++ y) :
    f = g ∧ x = y := by
  have hr := congrArg readBBH h
  simp only [Frame.readBBH_encode, Prod.mk.injEq] at hr
  obtain ⟨hv, hi, hl⟩ := hr
  obtain ⟨he, hxy⟩ := List.append_inj h (by simp [hl])
  have hp : f.payload = g.payload := by
    simpa [Frame.encode] using congrArg (List.drop 4) he
  refine ⟨?_, hxy⟩
  rcases f with ⟨v, i, p, hp'⟩
  rcases g with ⟨v', i', p', hp''⟩
  rw [← uint8_ofNat_toNat v, ← uint8_ofNat_toNat i, hv, hi, uint8_ofNat_toNat, uint8_ofNat_toNat]
  simp only at hp
  subst hp
  rfl

/-- Every buffer is a run of complete frames followed by an incomplete tail. -/
theorem decompose (buffer : Bytes) :
    ∃ (fs : List Frame) (r : Bytes), buffer = (fs.map Frame.encode).flatten ++ r ∧ Incomplete r := by
  by_cases h : Incomplete buffer
  · exact ⟨[], buffer, rfl, h⟩
  · have hl : 4 + (readBBH buffer).2.2 ≤ buffer.length := by unfold Incomplete at h; omega
    obtain ⟨fs, r, hr, hi⟩ := decompose (buffer.drop (4 + (readBBH buffer).2.2))
    refine ⟨Frame.front buffer :: fs, r, ?_, hi⟩
    rw [List.map_cons, List.flatten_cons, List.append_assoc, ← hr, Frame.front_encode hl]
termination_by buffer.length
decreasing_by simp only [List.length_drop]; unfold Incomplete at h; omega

/-- The inner loop of `TCPClient._receive_loop`: while the buffer holds a header, emit the
packet it frames or stop if its payload is still missing; a buffer `unpack` cannot parse
loses its first byte. -/
def TCPClient.parsePackets (buffer : Bytes) (received : List IoTSensePacket) :
    Bytes × List IoTSensePacket :=
  if 4 ≤ buffer.length then
    match IoTSensePacket.unpack buffer with
    | some packet =>
      if buffer.length ≥ 4 + packet.payloadLen then
        TCPClient.parsePackets (buffer.drop (4 + packet.payloadLen)) (received ++ [packet])
      else (buffer, received)
    | none => TCPClient.parsePackets (buffer.drop 1) received
  else (buffer, received)
termination_by buffer.length
decreasing_by all_goals simp only [List.length_drop]; omega

namespace TCPClient

theorem parsePackets_of_lt {buffer : Bytes} (received : List IoTSensePacket)
    (h : buffer.length < 4) : parsePackets buffer received = (buffer, received) := by
  rw [parsePackets, if_neg (by omega)]

theorem parsePackets_of_unpack {buffer : Bytes} {p : IoTSensePacket} (received : List IoTSensePacket)
    (h : 4 ≤ buffer.length) (hp : IoTSensePacket.unpack buffer = some p) :
    parsePackets buffer received =
      if buffer.length ≥ 4 + p.payloadLen then
        parsePackets (buffer.drop (4 + p.payloadLen)) (received ++ [p])
      else (buffer, received) := by
  rw [parsePackets, if_pos h, hp]

/-- One step of the loop on a complete frame at the front of the buffer. -/
theorem parsePackets_frame (f : Frame) (rest : Bytes) (received : List IoTSensePacket) :
    parsePackets (f.encode ++ rest) received = parsePackets rest (received ++ [f.toPacket]) := by
  rw [parsePackets_of_unpack received (by simp; omega) (Frame.unpack_encode f rest),
    if_pos (by simp [Frame.toPacket])]
  congr
  exact List.drop_left' (by simp [Frame.toPacket])

/-- A run of the loop over a run of complete frames. -/
theorem parsePackets_frames (fs : List Frame) (rest : Bytes) (received : List IoTSensePacket) :
    parsePackets ((fs.map Frame.encode).flatten ++ rest) received =
      parsePackets rest (received ++ fs.map Frame.toPacket) := by
  induction fs generalizing received with
  | nil => simp
  | cons f fs ih =>
    simp only [List.map_cons, List.flatten_cons, List.append_assoc, parsePackets_frame, ih,
      List.singleton_append]

theorem parsePackets_incomplete {r : Bytes} (received : List IoTSensePacket)
    (h : Incomplete r) : parsePackets r received = (r, received) := by
  by_cases h4 : r.length < 4
  · exact parsePackets_of_lt received h4
  · obtain ⟨p, hp, -, -, hl, -⟩ := IoTSensePacket.unpack_spec (by omega : 4 ≤ r.length)
    rw [parsePackets_of_unpack received (by omega) hp, if_neg (by unfold Incomplete at h; omega)]

/-- The loop emits exactly the frames the buffer starts with and keeps its incomplete
tail. -/
theorem parsePackets_spec (buffer : Bytes) (received : List IoTSensePacket) :
    ∃ (fs : List Frame) (r : Bytes), buffer = (fs.map Frame.encode).flatten ++ r ∧ Incomplete r ∧
      parsePackets buffer received = (r, received ++ fs.map Frame.toPacket) := by
  obtain ⟨fs, r, rfl, hr⟩ := decompose buffer
  exact ⟨fs, r, rfl, hr, by rw [parsePackets_frames, parsePackets_incomplete _ hr]⟩

theorem parsePackets_fst_incomplete (buffer : Bytes) (received : List IoTSensePacket) :
    Incomplete (parsePackets buffer received).1 := by
  obtain ⟨fs, r, -, hr, hp⟩ := parsePackets_spec buffer received
  rw [hp]
  exact hr

/-- Where a buffer was cut does not matter: running the loop over `b` and then over what it
left with `c` appended is running it over `b ++ c`. -/
theorem parsePackets_append (b c : Bytes) (received : List IoTSensePacket) :
    parsePackets (b ++ c) received =
      parsePackets ((parsePackets b received).1 ++ c) (parsePackets b received).2 := by
  obtain ⟨fs, r, rfl, -, hp⟩ := parsePackets_spec b received
  rw [hp, List.append_assoc, parsePackets_frames]

end TCPClient

end ZephyrIo.RouterTcpTest

import ZephyrIo.StreamSocket

/-!
# The extended-header readers: `SampleClient` and `PacketClient`

`SampleClient` (`flow/samples/router_sample/tcp_client.py`) and `PacketClient`
(`samples/packet_routing/pytest/conftest.py`) read the packet_routing sample's sensor
packets: a 14-byte `<BBHHQ` header, then `content_length` payload bytes, each read by a
`_recv_exact` loop. Both bodies are `readSensorPacket`; `SampleClient` also catches every
exception and counts packets and bytes. Without timeouts the two loops read exactly the next
`n` bytes, or return `None` on a shorter stream (`recvExact_boundary`).

Both check `if not payload`, which also holds for the empty payload of a packet with
`content_length == 0` (`receivePackets_empty_payload`). A read that times out half way
drops what it read, so later calls start inside a packet (`receivePacket_misaligned`);
only timeouts at packet boundaries are harmless (`receivePacket_calls_aligned`).
-/

namespace ZephyrIo.SensorClients

/-- `SensorPacket`, declared with the same fields by both files. -/
structure SensorPacket where
  packetId : ℕ
  counter : ℕ
  timestampNs : ℕ
  contentLength : ℕ
  payload : Bytes
  deriving DecidableEq, Repr

def headerSize : ℕ := 14

@[simp] theorem headerSize_eq : headerSize = 14 := rfl

/-- `_recv_exact` as both clients write it: a timeout inside the loop returns `None` too. -/
def recvExactOrNone (n : ℕ) (s : StreamSocket) : Option Bytes × StreamSocket :=
  match recvExact n [] s with
  | (.bytes data, s) => (some data, s)
  | (_, s) => (none, s)

/-- `SampleClient._recv_exact`. -/
def SampleClient.recvExact : ℕ → StreamSocket → Option Bytes × StreamSocket := recvExactOrNone

/-- `PacketClient.recv_exact`; its `timeout` argument is in the socket's events. -/
def PacketClient.recvExact : ℕ → StreamSocket → Option Bytes × StreamSocket := recvExactOrNone

/-- The body both `receive_packet`s share, on the client's own `_recv_exact`: header,
`struct.unpack`, payload. -/
def readSensorPacket (recvExact : ℕ → StreamSocket → Option Bytes × StreamSocket)
    (s : StreamSocket) : Except PyError (Option SensorPacket) × StreamSocket :=
  let (header, s) := recvExact headerSize s
  if pyNot header then (.ok none, s)
  else
    match unpackBBHHQ (header.getD []) with
    | .error e => (.error e, s)
    | .ok (packetId, _, counter, contentLength, timestampNs) =>
      let (payload, s) := recvExact contentLength s
      if pyNot payload then (.ok none, s)
      else (.ok (some ⟨packetId, counter, timestampNs, contentLength, payload.getD []⟩), s)

/-- A packet the extended header can carry: every field fits its width and the payload has
`content_length` bytes. -/
structure SensorFrame where
  packetId : ℕ
  reserved : ℕ
  counter : ℕ
  timestampNs : ℕ
  payload : Bytes
  packetId_lt : packetId < 256
  reserved_lt : reserved < 256
  counter_lt : counter < 65536
  timestampNs_lt : timestampNs < 2 ^ 64
  payload_lt : payload.length < 65536

namespace SensorFrame

/-- `struct.pack('<BBHHQ', packet_id, reserved, counter, len(payload), timestamp_ns) +
payload`, as the sample's device writes it. -/
def encode (f : SensorFrame) : Bytes :=
  headerBBHHQ f.packetId f.reserved f.counter f.payload.length f.timestampNs ++ f.payload

def toPacket (f : SensorFrame) : SensorPacket :=
  ⟨f.packetId, f.counter, f.timestampNs, f.payload.length, f.payload⟩

@[simp] theorem encode_length (f : SensorFrame) : f.encode.length = 14 + f.payload.length := by
  simp [encode]

theorem readBBHHQ_encode (f : SensorFrame) :
    readBBHHQ (f.encode.take 14) =
      (f.packetId, f.reserved, f.counter, f.payload.length, f.timestampNs) := by
  rw [encode, List.take_left' (headerBBHHQ_length ..), ← List.append_nil (headerBBHHQ ..),
    readBBHHQ_headerBBHHQ, Nat.mod_eq_of_lt f.packetId_lt, Nat.mod_eq_of_lt f.reserved_lt,
    Nat.mod_eq_of_lt f.counter_lt, Nat.mod_eq_of_lt f.payload_lt,
    Nat.mod_eq_of_lt f.timestampNs_lt]

/-- The packet a buffer starts with, once its header and the payload it announces are all
there. -/
def front (buffer : Bytes) : SensorFrame :=
  ⟨(readBBHHQ buffer).1, (readBBHHQ buffer).2.1, (readBBHHQ buffer).2.2.1,
    (readBBHHQ buffer).2.2.2.2, (buffer.drop 14).take (readBBHHQ buffer).2.2.2.1,
    (readBBHHQ_lt buffer).1, (readBBHHQ_lt buffer).2.1, (readBBHHQ_lt buffer).2.2.1,
    (readBBHHQ_lt buffer).2.2.2.2,
    lt_of_le_of_lt (List.length_take_le _ _) (readBBHHQ_lt buffer).2.2.2.1⟩

theorem front_encode {buffer : Bytes} (h : 14 + (readBBHHQ buffer).2.2.2.1 ≤ buffer.length) :
    (front buffer).encode ++ buffer.drop (14 + (readBBHHQ buffer).2.2.2.1) = buffer := by
  have hl : ((buffer.drop 14).take (readBBHHQ buffer).2.2.2.1).length =
      (readBBHHQ buffer).2.2.2.1 := List.length_take_of_le (by simp; omega)
  simp only [front, encode, hl, headerBBHHQ_readBBHHQ (by omega : 14 ≤ buffer.length),
    List.append_assoc, ← List.drop_drop, List.take_append_drop]

end SensorFrame

/-- What `recvExactOrNone` does to the socket: the next `n` bytes, or `None` after reading
fewer. -/
theorem recvExactOrNone_spec (n : ℕ) (s : StreamSocket) :
    ∃ m ≤ s.pending.length, (recvExactOrNone n s).2.pending = s.pending.drop m ∧
      (recvExactOrNone n s).2.closed = s.closed ∧ (recvExactOrNone n s).2.EventsFrom s ∧
      ((recvExactOrNone n s).1 = some (s.pending.take n) ∧ m = n ∨
        (recvExactOrNone n s).1 = none ∧ m < n) := by
  have h := recvExact_spec n [] s
  unfold recvExactOrNone
  rcases hr : recvExact n [] s with ⟨e, s'⟩
  rw [hr] at h
  obtain ⟨m, hm, hp, hc, he, hend⟩ := h
  cases e with
  | bytes d =>
    obtain ⟨rfl, rfl⟩ := hend
    exact ⟨_, hm, hp, hc, he, .inl ⟨by simp, by simp⟩⟩
  | eof => exact ⟨m, hm, hp, hc, he, .inr ⟨rfl, by simpa using hend.2.1⟩⟩
  | timeout => exact ⟨m, hm, hp, hc, he, .inr ⟨rfl, by simpa using hend⟩⟩

theorem recvExactOrNone_ready {n : ℕ} {s : StreamSocket} (hev : RecvEvent.timeout ∉ s.events)
    (hn : n ≤ s.pending.length) : (recvExactOrNone n s).1 = some (s.pending.take n) := by
  unfold recvExactOrNone
  have h := @recvExact_ready n [] s hev (by simpa using hn)
  rcases hr : recvExact n [] s with ⟨e, s'⟩
  rw [hr] at h
  cases h
  simp

theorem recvExactOrNone_short {n : ℕ} {s : StreamSocket} (hev : RecvEvent.timeout ∉ s.events)
    (hlen : s.pending.length < n) :
    (recvExactOrNone n s).1 = none ∧ (recvExactOrNone n s).2.pending = [] := by
  have h := @recvExact_short n [] s hev (by simpa using hlen)
  unfold recvExactOrNone
  rcases hr : recvExact n [] s with ⟨e, s'⟩
  rw [hr] at h
  obtain ⟨he | he, hp⟩ := h <;> subst he <;> exact ⟨rfl, hp⟩

/-- What a `recv_exact(n)` is for: when the stream holds `n` more bytes, it returns exactly
them and leaves the rest; otherwise it returns `None`, having read what there was. -/
def ReadsExactly (read : ℕ → StreamSocket → Option Bytes × StreamSocket) (n : ℕ)
    (s : StreamSocket) : Prop :=
  (n ≤ s.pending.length →
      (read n s).1 = some (s.pending.take n) ∧ (read n s).2.pending = s.pending.drop n) ∧
    (s.pending.length < n → (read n s).1 = none ∧ (read n s).2.pending = [])

/-- When every `recv(k)` hands over between one and `k` of the next bytes, or `b''` at the
end of the stream, `_recv_exact(n)` and `recv_exact(n)` return exactly the next `n` bytes
and read no further, or return `None` on a stream that holds fewer. -/
theorem recvExact_boundary (n : ℕ) (s : StreamSocket) (hev : RecvEvent.timeout ∉ s.events) :
    ReadsExactly SampleClient.recvExact n s ∧ ReadsExactly PacketClient.recvExact n s := by
  have h : ReadsExactly recvExactOrNone n s := by
    refine ⟨fun hn => ⟨recvExactOrNone_ready hev hn, ?_⟩, recvExactOrNone_short hev⟩
    obtain ⟨m, -, hp, -, -, h⟩ := recvExactOrNone_spec n s
    rcases h with ⟨-, rfl⟩ | ⟨h, -⟩
    · exact hp
    · rw [recvExactOrNone_ready hev hn] at h
      cases h
  exact ⟨h, h⟩

/-- Three bytes asked of a five-byte stream that the network hands over one, then two. -/
theorem recvExact_boundary_short_reads :
    let s : StreamSocket := ⟨[1, 2, 3, 4, 5], true, [.ready 1, .ready 2]⟩
    RecvEvent.timeout ∉ s.events ∧
      (ReadsExactly SampleClient.recvExact 3 s ∧ ReadsExactly PacketClient.recvExact 3 s) :=
  ⟨by decide, recvExact_boundary 3 _ (by decide)⟩

/-- On a stream that holds the `n` bytes, `_recv_exact(n)` returns `None` only after a
timeout. -/
theorem recvExactOrNone_timeout {n : ℕ} {s : StreamSocket} (hn : n ≤ s.pending.length)
    (h : (recvExactOrNone n s).1 = none) : RecvEvent.timeout ∈ s.events := by
  by_contra hev
  rw [recvExactOrNone_ready hev hn] at h
  cases h

/-- One `receive_packet` body on a stream that starts with a whole packet: it returns that
packet, or `None` for an empty payload, having read exactly it; or `None` having read
less. -/
theorem readSensorPacket_frame {f : SensorFrame} {more : Bytes} {s : StreamSocket}
    (hs : s.pending = f.encode ++ more) :
    ∃ m ≤ f.encode.length, (readSensorPacket recvExactOrNone s).2.pending = s.pending.drop m ∧
      (readSensorPacket recvExactOrNone s).2.closed = s.closed ∧
      (readSensorPacket recvExactOrNone s).2.EventsFrom s ∧
      ((readSensorPacket recvExactOrNone s).1 =
          .ok (if f.payload = [] then none else some f.toPacket) ∧ m = f.encode.length ∨
        (readSensorPacket recvExactOrNone s).1 = .ok none ∧ m < f.encode.length ∧
          RecvEvent.timeout ∈ s.events) := by
  have hlen : 14 + f.payload.length ≤ s.pending.length := by simp [hs]
  obtain ⟨m₁, hm₁, hp₁, hc₁, he₁, h₁⟩ := recvExactOrNone_spec headerSize s
  unfold readSensorPacket
  rcases hr₁ : recvExactOrNone headerSize s with ⟨header, s₁⟩
  rw [hr₁] at hp₁ hc₁ he₁ h₁
  dsimp only at hp₁ hc₁ he₁ h₁ ⊢
  rw [headerSize_eq] at h₁
  rcases h₁ with ⟨rfl, rfl⟩ | ⟨rfl, hlt⟩
  · have hh : s.pending.take 14 = f.encode.take 14 := by
      rw [hs, List.take_append_of_le_length (by simp)]
    have hnot : pyNot (some (s.pending.take 14)) = false := by
      simp [pyNot, ← List.length_eq_zero, hh]
    have hs₁ : s₁.pending = f.payload ++ more := by
      rw [hp₁, hs, SensorFrame.encode, List.append_assoc, List.drop_left' (by simp)]
    obtain ⟨m₂, hm₂, hp₂, hc₂, he₂, h₂⟩ := recvExactOrNone_spec f.payload.length s₁
    rw [hnot, if_neg Bool.false_ne_true, Option.getD_some, unpackBBHHQ,
      checkSize_of_length _ (by rw [hh, List.length_take]; simp), hh,
      SensorFrame.readBBHHQ_encode]
    dsimp only
    rcases hr₂ : recvExactOrNone f.payload.length s₁ with ⟨payload, s₂⟩
    rw [hr₂] at hp₂ hc₂ he₂ h₂
    dsimp only at hp₂ hc₂ he₂ h₂ ⊢
    have hc : s₂.closed = s.closed := hc₂.trans hc₁
    have he : s₂.EventsFrom s := he₂.trans he₁
    rcases h₂ with ⟨rfl, rfl⟩ | ⟨rfl, hlt⟩
    · have hpay : s₁.pending.take f.payload.length = f.payload := by
        rw [hs₁, List.take_left' rfl]
      have hm : s₂.pending = s.pending.drop (14 + f.payload.length) := by
        rw [hp₂, hp₁, List.drop_drop]
      rw [hpay]
      by_cases hz : f.payload = []
      · rw [if_pos (by simp [pyNot, hz]), if_pos hz]
        exact ⟨_, by simp, hm, hc, he, .inl ⟨rfl, by simp⟩⟩
      · rw [if_neg (by simp [pyNot, hz]), if_neg hz]
        exact ⟨_, by simp, hm, hc, he, .inl ⟨rfl, by simp⟩⟩
    · have hev :=
        he₁.mem (@recvExactOrNone_timeout f.payload.length s₁ (by simp [hs₁]) (by rw [hr₂]))
      rw [if_pos (show pyNot none = true from rfl)]
      exact ⟨14 + m₂, by simp; omega, by rw [hp₂, hp₁, List.drop_drop], hc, he,
        .inr ⟨rfl, by simp; omega, hev⟩⟩
  · have hev := @recvExactOrNone_timeout headerSize s (by simp; omega) (by rw [hr₁])
    exact ⟨m₁, by simp at hlt ⊢; omega, hp₁, hc₁, he₁, .inr ⟨rfl, by simp at hlt ⊢; omega, hev⟩⟩

/-- On a stream that has run dry, the body returns `None` and reads nothing. -/
theorem readSensorPacket_nil {s : StreamSocket} (hs : s.pending = []) :
    (readSensorPacket recvExactOrNone s).1 = .ok none ∧
      (readSensorPacket recvExactOrNone s).2.pending = [] := by
  obtain ⟨m, hm, hp, -, -, h⟩ := recvExactOrNone_spec headerSize s
  rw [hs] at hm hp h
  have hnone : (recvExactOrNone headerSize s).1 = none := by
    rcases h with ⟨-, h⟩ | ⟨h, -⟩
    · simp at hm h; omega
    · exact h
  unfold readSensorPacket
  rcases hr : recvExactOrNone headerSize s with ⟨header, s₁⟩
  rw [hr] at hnone hp
  cases hnone
  exact ⟨rfl, by simpa using hp⟩

/-- With no timeout ahead, the body reads the whole packet. -/
theorem readSensorPacket_ready {f : SensorFrame} {more : Bytes} {s : StreamSocket}
    (hs : s.pending = f.encode ++ more) (hev : RecvEvent.timeout ∉ s.events) :
    ∃ s', readSensorPacket recvExactOrNone s =
        (.ok (if f.payload = [] then none else some f.toPacket), s') ∧
      s'.pending = more ∧ s'.closed = s.closed ∧ RecvEvent.timeout ∉ s'.events := by
  obtain ⟨m, -, hp, hc, he, h⟩ := readSensorPacket_frame hs
  rcases hr : readSensorPacket recvExactOrNone s with ⟨r, s'⟩
  rw [hr] at hp hc he h
  rcases h with ⟨rfl, rfl⟩ | ⟨-, -, hin⟩
  · exact ⟨s', rfl, by rw [hp, hs, List.drop_left], hc, he.timeout_not_mem hev⟩
  · exact absurd hin hev

/-- Whatever the stream and its timeouts, the `receive_packet` body raises nothing: it
returns `None` having read part of the stream, or a packet with a payload whose bytes,
header and payload, are exactly what it read. -/
theorem readSensorPacket_sound (s : StreamSocket) :
    ((readSensorPacket recvExactOrNone s).1 = .ok none ∧
        ∃ read, s.pending = read ++ (readSensorPacket recvExactOrNone s).2.pending) ∨
      ∃ f : SensorFrame, f.payload ≠ [] ∧
        (readSensorPacket recvExactOrNone s).1 = .ok (some f.toPacket) ∧
        s.pending = f.encode ++ (readSensorPacket recvExactOrNone s).2.pending := by
  obtain ⟨m₁, hm₁, hp₁, -, -, h₁⟩ := recvExactOrNone_spec headerSize s
  unfold readSensorPacket
  rcases hr₁ : recvExactOrNone headerSize s with ⟨header, s₁⟩
  rw [hr₁] at hp₁ h₁
  dsimp only at hp₁ h₁ ⊢
  rcases h₁ with ⟨rfl, rfl⟩ | ⟨rfl, -⟩
  swap
  · rw [if_pos (show pyNot none = true from rfl)]
    exact .inl ⟨rfl, _, by rw [hp₁, List.take_append_drop]⟩
  -- a whole header: read the payload it announces
  rw [headerSize_eq] at hm₁ hp₁ ⊢
  have hh : (s.pending.take 14).length = 14 := List.length_take_of_le hm₁
  have hnot : pyNot (some (s.pending.take 14)) = false := by
    simp [pyNot, ← List.length_eq_zero, hh]
  rw [hnot, if_neg Bool.false_ne_true, Option.getD_some, unpackBBHHQ, checkSize_of_length _ hh,
    readBBHHQ_take]
  dsimp only
  obtain ⟨m₂, hm₂, hp₂, -, -, h₂⟩ :=
    recvExactOrNone_spec (readBBHHQ s.pending).2.2.2.1 s₁
  rcases hr₂ : recvExactOrNone (readBBHHQ s.pending).2.2.2.1 s₁ with ⟨payload, s₂⟩
  rw [hr₂] at hp₂ h₂
  dsimp only at hp₂ h₂ ⊢
  rw [hp₁, List.length_drop] at hm₂
  have hs₂ : s₂.pending = s.pending.drop (14 + m₂) := by rw [hp₂, hp₁, List.drop_drop]
  have hread : s.pending = s.pending.take (14 + m₂) ++ s₂.pending := by
    rw [hs₂, List.take_append_drop]
  rcases h₂ with ⟨rfl, rfl⟩ | ⟨rfl, -⟩
  · rw [hp₁]
    by_cases hz : (s.pending.drop 14).take (readBBHHQ s.pending).2.2.2.1 = []
    · rw [if_pos (by simp [pyNot, hz])]
      exact .inl ⟨rfl, _, hread⟩
    · rw [if_neg (by simp [pyNot, hz])]
      have hl : ((s.pending.drop 14).take (readBBHHQ s.pending).2.2.2.1).length =
          (readBBHHQ s.pending).2.2.2.1 := List.length_take_of_le (by simp; omega)
      refine .inr ⟨SensorFrame.front s.pending, hz, ?_, ?_⟩
      · simp only [SensorFrame.toPacket, SensorFrame.front, hl, Option.getD_some]
      · rw [hs₂, SensorFrame.front_encode (by omega)]
  · rw [if_pos (show pyNot none = true from rfl)]
    exact .inl ⟨rfl, _, hread⟩

/-- The fields of `SampleClient` that `receive_packet` reads or writes. -/
structure SampleClient where
  sock : Option StreamSocket
  connected : Bool
  packetCount : ℕ
  bytesReceived : ℕ

namespace SampleClient

/-- `SampleClient.receive_packet`: `None` without a socket, on a failed read and on any
exception; the counters move only when a packet is returned. -/
def receivePacket (c : SampleClient) : Option SensorPacket × SampleClient :=
  match c.sock with
  | none => (none, c)
  | some s =>
    match readSensorPacket SampleClient.recvExact s with
    | (.ok (some p), s) =>
      (some p,
        { c with
          sock := some s
          packetCount := c.packetCount + 1
          bytesReceived := c.bytesReceived + 14 + p.contentLength })
    | (_, s) => (none, { c with sock := some s })

/-- `SampleClient.receive_packets(count)`: stop at the first `None`. -/
def receivePackets (c : SampleClient) : ℕ → List SensorPacket × SampleClient
  | 0 => ([], c)
  | count + 1 =>
    match c.receivePacket with
    | (none, c) => ([], c)
    | (some p, c) =>
      let (ps, c) := receivePackets c count
      (p :: ps, c)

/-- `SampleClient.receive_with_callback(callback, max_packets)`: the packets handed to the
callback, in order. It stops at the first `None` and after the first packet the callback
rejects. -/
def receiveWithCallback (c : SampleClient) (callback : SensorPacket → Bool) :
    ℕ → List SensorPacket × SampleClient
  | 0 => ([], c)
  | maxPackets + 1 =>
    match c.receivePacket with
    | (none, c) => ([], c)
    | (some p, c) =>
      if callback p then
        let (ps, c) := c.receiveWithCallback callback maxPackets
        (p :: ps, c)
      else ([p], c)

@[simp] theorem recvExact_eq : SampleClient.recvExact = recvExactOrNone := rfl

theorem receivePacket_of_ok {c : SampleClient} {s s' : StreamSocket} {p : SensorPacket}
    (hc : c.sock = some s) (hr : readSensorPacket recvExactOrNone s = (.ok (some p), s')) :
    c.receivePacket = (some p,
      { c with
        sock := some s'
        packetCount := c.packetCount + 1
        bytesReceived := c.bytesReceived + 14 + p.contentLength }) := by
  rw [receivePacket, hc]
  simp only [recvExact_eq, hr]

theorem receivePacket_of_none {c : SampleClient} {s s' : StreamSocket}
    {r : Except PyError (Option SensorPacket)} (hc : c.sock = some s)
    (hr : readSensorPacket recvExactOrNone s = (r, s')) (hn : r.toOption.join = none) :
    c.receivePacket = (none, { c with sock := some s' }) := by
  rw [receivePacket, hc]
  simp only [recvExact_eq, hr]
  rcases r with _ | _ | _ <;> first | rfl | cases hn

end SampleClient

namespace PacketClient

/-- `PacketClient.receive_packet`, on the wrapped socket. -/
def receivePacket (s : StreamSocket) : Except PyError (Option SensorPacket) × StreamSocket :=
  readSensorPacket PacketClient.recvExact s

/-- `PacketClient.receive_packets(count)`: stop at the first `None`; an exception
propagates. -/
def receivePackets (s : StreamSocket) : ℕ → Except PyError (List SensorPacket) × StreamSocket
  | 0 => (.ok [], s)
  | count + 1 =>
    match receivePacket s with
    | (.error e, s) => (.error e, s)
    | (.ok none, s) => (.ok [], s)
    | (.ok (some p), s) =>
      let (ps, s) := receivePackets s count
      ((p :: ·) <$> ps, s)

end PacketClient

theorem SampleClient.receivePackets_frames (fs : List SensorFrame)
    (hfs : ∀ f ∈ fs, f.payload ≠ []) (c : SampleClient) (s : StreamSocket) (more : Bytes)
    (hc : c.sock = some s) (hs : s.pending = (fs.map SensorFrame.encode).flatten ++ more)
    (hev : RecvEvent.timeout ∉ s.events) :
    (c.receivePackets fs.length).1 = fs.map SensorFrame.toPacket ∧
      (c.receivePackets fs.length).2.packetCount = c.packetCount + fs.length ∧
      (c.receivePackets fs.length).2.bytesReceived =
        c.bytesReceived + (fs.map fun f => 14 + f.payload.length).sum := by
  induction fs generalizing c s with
  | nil => simp [SampleClient.receivePackets]
  | cons f fs ih =>
    have hf := hfs f (List.mem_cons_self _ _)
    obtain ⟨s', hr, hp, -, hev'⟩ :=
      readSensorPacket_ready (by rw [hs, List.map_cons, List.flatten_cons, List.append_assoc]) hev
    rw [if_neg hf] at hr
    obtain ⟨h₁, h₂, h₃⟩ := ih (fun g hg => hfs g (List.mem_cons_of_mem _ hg))
      { c with sock := some s', packetCount := c.packetCount + 1,
               bytesReceived := c.bytesReceived + 14 + f.toPacket.contentLength } s' rfl hp hev'
    simp only [List.length_cons, SampleClient.receivePackets,
      SampleClient.receivePacket_of_ok hc hr] at h₁ h₂ h₃ ⊢
    refine ⟨by rw [h₁, List.map_cons], by rw [h₂]; omega, ?_⟩
    rw [h₃, List.map_cons, List.sum_cons]
    simp [SensorFrame.toPacket]
    omega

theorem PacketClient.receivePackets_frames (fs : List SensorFrame)
    (hfs : ∀ f ∈ fs, f.payload ≠ []) (s : StreamSocket) (more : Bytes)
    (hs : s.pending = (fs.map SensorFrame.encode).flatten ++ more)
    (hev : RecvEvent.timeout ∉ s.events) :
    (PacketClient.receivePackets s fs.length).1 = .ok (fs.map SensorFrame.toPacket) := by
  induction fs generalizing s with
  | nil => rfl
  | cons f fs ih =>
    have hf := hfs f (List.mem_cons_self _ _)
    obtain ⟨s', hr, hp, -, hev'⟩ :=
      readSensorPacket_ready (by rw [hs, List.map_cons, List.flatten_cons, List.append_assoc]) hev
    rw [if_neg hf] at hr
    have ih' := ih (fun g hg => hfs g (List.mem_cons_of_mem _ hg)) s' hp hev'
    simp only [List.length_cons, PacketClient.receivePackets, PacketClient.receivePacket,
      PacketClient.recvExact, hr]
    rw [ih']
    rfl

/-- On a stream of packets with non-empty payloads written back to back, with any pattern of
short reads and no timeout, `receive_packets(n)` of both clients returns the `n` packets field
for field and in order, and `SampleClient` counts each once with its `14 + content_length`
bytes. -/
theorem receivePackets_frames_both (fs : List SensorFrame) (hfs : ∀ f ∈ fs, f.payload ≠ [])
    (s : StreamSocket) (more : Bytes) (hs : s.pending = (fs.map SensorFrame.encode).flatten ++ more)
    (hev : RecvEvent.timeout ∉ s.events) :
    (∀ c : SampleClient, c.sock = some s →
      (c.receivePackets fs.length).1 = fs.map SensorFrame.toPacket ∧
        (c.receivePackets fs.length).2.packetCount = c.packetCount + fs.length ∧
        (c.receivePackets fs.length).2.bytesReceived =
          c.bytesReceived + (fs.map fun f => 14 + f.payload.length).sum) ∧
      (PacketClient.receivePackets s fs.length).1 = .ok (fs.map SensorFrame.toPacket) :=
  ⟨fun c hc => SampleClient.receivePackets_frames fs hfs c s more hc hs hev,
    PacketClient.receivePackets_frames fs hfs s more hs hev⟩

/-- Two sensor packets of two and one payload bytes, handed over three and then five bytes
at a time. -/
theorem receivePackets_frames_two :
    let f : SensorFrame := ⟨1, 0, 5, 7, [0xA1, 0xA1], by decide, by decide, by decide, by decide,
      by decide⟩
    let g : SensorFrame := ⟨2, 0, 6, 8, [0xB2], by decide, by decide, by decide, by decide, by decide⟩
    let s : StreamSocket := ⟨f.encode ++ g.encode, false, [.ready 3, .ready 5]⟩
    (∀ h ∈ [f, g], h.payload ≠ []) ∧ s.pending = ([f, g].map SensorFrame.encode).flatten ++ [] ∧
      RecvEvent.timeout ∉ s.events ∧
      (PacketClient.receivePackets s 2).1 = .ok [f.toPacket, g.toPacket] := by
  intro f g s
  have hs : s.pending = ([f, g].map SensorFrame.encode).flatten ++ [] := by simp [s]
  exact ⟨by decide, hs, by decide, (receivePackets_frames_both [f, g] (by decide) s [] hs (by decide)).2⟩

section Calls

variable {σ α : Type} (receive : σ → α × σ)

/-- `k` successive calls of `receive`, with what each returned. -/
def calls : ℕ → σ → List α × σ
  | 0, c => ([], c)
  | k + 1, c =>
    let (rs, c') := calls k (receive c).2
    ((receive c).1 :: rs, c')

variable (returned : α → Option SensorPacket) (unread : σ → Bytes)

/-- In `k` successive calls, every call that returns no packet leaves the unread bytes as
they were: no timeout strikes after a call has read part of a packet. -/
def NoPartialReads : ℕ → σ → Prop
  | 0, _ => True
  | k + 1, c =>
    (returned (receive c).1 = none → unread (receive c).2 = unread c) ∧
      NoPartialReads k (receive c).2

/-- A reader that, on a stream of packets, returns the first one and leaves the rest or
returns nothing, and on a dry stream reads nothing, returns the written packets in write
order over any run whose calls never read part of a packet. -/
theorem calls_prefix
    (hstep : ∀ c (f : SensorFrame) more, f.payload ≠ [] → unread c = f.encode ++ more →
      (returned (receive c).1 = some f.toPacket ∧ unread (receive c).2 = more) ∨
        returned (receive c).1 = none)
    (hdry : ∀ c, unread c = [] → returned (receive c).1 = none ∧ unread (receive c).2 = [])
    (k : ℕ) (fs : List SensorFrame) (hfs : ∀ f ∈ fs, f.payload ≠ []) (c : σ)
    (hc : unread c = (fs.map SensorFrame.encode).flatten) (hk : NoPartialReads receive returned unread k c) :
    (calls receive k c).1.filterMap returned <+: fs.map SensorFrame.toPacket := by
  induction k generalizing fs c with
  | zero => exact List.nil_prefix
  | succ k ih =>
    obtain ⟨hnone, hk⟩ := hk
    simp only [calls, List.filterMap_cons]
    cases fs with
    | nil =>
      obtain ⟨hr, hu⟩ := hdry c hc
      rw [hr]
      exact ih [] (by simp) _ hu hk
    | cons f fs =>
      have hf := hfs f (List.mem_cons_self _ _)
      rw [List.map_cons, List.flatten_cons] at hc
      rcases hstep c f _ hf hc with ⟨hr, hu⟩ | hr
      · rw [hr, List.map_cons]
        exact List.cons_prefix_cons.mpr ⟨rfl, ih fs (fun g hg => hfs g (List.mem_cons_of_mem _ hg)) _ hu hk⟩
      · rw [hr]
        exact ih (f :: fs) hfs _ (by rw [hnone hr, hc, List.map_cons, List.flatten_cons]) hk

end Calls

/-- The bytes still unread on the client's socket. -/
def SampleClient.unread (c : SampleClient) : Bytes :=
  match c.sock with
  | some s => s.pending
  | none => []

theorem SampleClient.receivePacket_step (c : SampleClient) (f : SensorFrame) (more : Bytes)
    (hf : f.payload ≠ []) (hc : c.unread = f.encode ++ more) :
    (c.receivePacket.1 = some f.toPacket ∧ c.receivePacket.2.unread = more) ∨
      c.receivePacket.1 = none := by
  rcases hs : c.sock with _ | s
  · rw [SampleClient.unread, hs] at hc
    exact absurd (congrArg List.length hc) (by simp; omega)
  · simp only [SampleClient.unread, hs] at hc
    obtain ⟨m, -, hp, -, -, h⟩ := readSensorPacket_frame hc
    rcases hr : readSensorPacket recvExactOrNone s with ⟨r, s'⟩
    rw [hr] at hp h
    rcases h with ⟨rfl, rfl⟩ | ⟨rfl, -⟩
    · rw [if_neg hf] at hr
      rw [SampleClient.receivePacket_of_ok hs hr]
      exact .inl ⟨rfl, by simpa [SampleClient.unread, hc] using hp⟩
    · exact .inr (by rw [SampleClient.receivePacket_of_none hs hr rfl])

theorem SampleClient.receivePacket_dry (c : SampleClient) (hc : c.unread = []) :
    c.receivePacket.1 = none ∧ c.receivePacket.2.unread = [] := by
  rcases hs : c.sock with _ | s
  · simp [SampleClient.receivePacket, SampleClient.unread, hs]
  · simp only [SampleClient.unread, hs] at hc
    obtain ⟨h₁, h₂⟩ := readSensorPacket_nil hc
    rcases hr : readSensorPacket recvExactOrNone s with ⟨r, s'⟩
    rw [hr] at h₁ h₂
    subst h₁
    rw [SampleClient.receivePacket_of_none hs hr rfl]
    exact ⟨rfl, h₂⟩

theorem PacketClient.receivePacket_step (s : StreamSocket) (f : SensorFrame) (more : Bytes)
    (hf : f.payload ≠ []) (hs : s.pending = f.encode ++ more) :
    ((receivePacket s).1.toOption.join = some f.toPacket ∧ (receivePacket s).2.pending = more) ∨
      (receivePacket s).1.toOption.join = none := by
  obtain ⟨m, -, hp, -, -, h⟩ := readSensorPacket_frame hs
  rcases h with ⟨h, rfl⟩ | ⟨h, -⟩
  · refine .inl ⟨by rw [receivePacket, PacketClient.recvExact, h, if_neg hf]; rfl, ?_⟩
    rw [receivePacket, PacketClient.recvExact, hp, hs, List.drop_left]
  · exact .inr (by rw [receivePacket, PacketClient.recvExact, h]; rfl)

/-- Over any run of `receive_packet` calls on a stream of packets with non-empty payloads,
in which no call that returns `None` has read part of a packet, both clients return the
written packets in write order, none twice and none skipped. -/
theorem receivePacket_calls_aligned (fs : List SensorFrame) (hfs : ∀ f ∈ fs, f.payload ≠ [])
    (s : StreamSocket) (hs : s.pending = (fs.map SensorFrame.encode).flatten) (k : ℕ) :
    (∀ c : SampleClient, c.sock = some s →
      NoPartialReads SampleClient.receivePacket id SampleClient.unread k c →
      (calls SampleClient.receivePacket k c).1.filterMap id <+: fs.map SensorFrame.toPacket) ∧
    (NoPartialReads PacketClient.receivePacket (fun r => r.toOption.join) StreamSocket.pending k s →
      (calls PacketClient.receivePacket k s).1.filterMap (fun r => r.toOption.join) <+:
        fs.map SensorFrame.toPacket) := by
  refine ⟨fun c hc hk => ?_, fun hk => ?_⟩
  · refine calls_prefix _ _ _ (fun c f more hf hc => SampleClient.receivePacket_step c f more hf hc)
      (fun c hc => SampleClient.receivePacket_dry c hc) k fs hfs c ?_ hk
    simp only [SampleClient.unread, hc, hs]
  · refine calls_prefix _ _ _ (fun c f more hf hc => PacketClient.receivePacket_step c f more hf hc)
      (fun c hc => ?_) k fs hfs s hs hk
    obtain ⟨h₁, h₂⟩ := readSensorPacket_nil hc
    exact ⟨by rw [PacketClient.receivePacket, PacketClient.recvExact, h₁]; rfl, h₂⟩

/-- One packet written after a timeout at the packet boundary: the first call times out
before reading a byte, so no call reads part of a packet, and the second call returns the
packet. -/
theorem receivePacket_calls_after_idle :
    let a : SensorFrame := ⟨0, 0, 0, 1, [7], by decide, by decide, by decide, by decide, by decide⟩
    let s : StreamSocket := ⟨a.encode, true, [.timeout]⟩
    let c : SampleClient := ⟨some s, true, 0, 0⟩
    (∀ f ∈ [a], f.payload ≠ []) ∧ s.pending = ([a].map SensorFrame.encode).flatten ∧
      NoPartialReads SampleClient.receivePacket id SampleClient.unread 2 c ∧
      NoPartialReads PacketClient.receivePacket (fun r => r.toOption.join) StreamSocket.pending 2 s ∧
      (calls SampleClient.receivePacket 2 c).1 = [none, some a.toPacket] ∧
      (calls PacketClient.receivePacket 2 s).1 = [.ok none, .ok (some a.toPacket)] ∧
      (calls SampleClient.receivePacket 2 c).1.filterMap id <+: [a].map SensorFrame.toPacket ∧
      (calls PacketClient.receivePacket 2 s).1.filterMap (fun r => r.toOption.join) <+:
        [a].map SensorFrame.toPacket := by
  intro a s c
  have hs : s.pending = ([a].map SensorFrame.encode).flatten := by simp
  -- the first call times out before reading a byte of the header
  let s₁ : StreamSocket := ⟨a.encode, true, []⟩
  have hr₁ : readSensorPacket recvExactOrNone s = (.ok none, s₁) := by
    rw [readSensorPacket, recvExactOrNone, @recvExact_of_recv_none headerSize [] s s₁ (by decide) rfl]
    rfl
  -- the second reads the packet whole
  obtain ⟨s₂, hr₂, -⟩ := @readSensorPacket_ready a [] s₁ (by simp) (by decide)
  rw [if_neg (by decide)] at hr₂
  have hc₁ := @SampleClient.receivePacket_of_none c s s₁ _ rfl hr₁ rfl
  have hc₂ := @SampleClient.receivePacket_of_ok ⟨some s₁, true, 0, 0⟩ s₁ s₂ _ rfl hr₂
  have hp₁ : PacketClient.receivePacket s = (.ok none, s₁) := hr₁
  have hp₂ : PacketClient.receivePacket s₁ = (.ok (some a.toPacket), s₂) := hr₂
  have hsample : NoPartialReads SampleClient.receivePacket id SampleClient.unread 2 c := by
    simp [NoPartialReads, hc₁, hc₂, SampleClient.unread]
  have hpacket : NoPartialReads PacketClient.receivePacket (fun r => r.toOption.join)
      StreamSocket.pending 2 s := by
    simp [NoPartialReads, hp₁, hp₂, Except.toOption]
  have ⟨h₁, h₂⟩ := receivePacket_calls_aligned [a] (by decide) s hs 2
  refine ⟨by decide, hs, hsample, hpacket, ?_, ?_, h₁ c rfl hsample, h₂ hpacket⟩
  · simp only [calls, hc₁, hc₂]
  · simp only [calls, hp₁, hp₂]

/-- Two copies of the packet with id 0, counter 0, timestamp 1 and payload `07` are written;
the first `recv` hands over two bytes and the next one times out. The second call returns a
packet that was never written. -/
theorem receivePacket_misaligned :
    let s : StreamSocket := ⟨[0, 0, 0, 0, 1, 0, 1, 0, 0, 0, 0, 0, 0, 0, 7,
      0, 0, 0, 0, 1, 0, 1, 0, 0, 0, 0, 0, 0, 0, 7], true, [.ready 2, .timeout]⟩
    (calls SampleClient.receivePacket 2 ⟨some s, true, 0, 0⟩).1 =
        [none, some ⟨0, 1, 7 * 2 ^ 48, 1, [0]⟩] ∧
      (⟨0, 1, 7 * 2 ^ 48, 1, [0]⟩ : SensorPacket) ∉ [⟨0, 0, 1, 1, [7]⟩] := by
  intro s
  let s₂ : StreamSocket := ⟨s.pending.drop 2, true, []⟩
  have h₁ : s.recv 14 = (some [0, 0], ⟨s.pending.drop 2, true, [.timeout]⟩) := rfl
  have h₂ : (⟨s.pending.drop 2, true, [.timeout]⟩ : StreamSocket).recv 12 = (none, s₂) := rfl
  have hx : recvExactOrNone headerSize s = (none, s₂) := by
    rw [recvExactOrNone, recvExact_of_recv_cons (by decide) h₁,
      recvExact_of_recv_none (by decide) h₂]
  have hr₁ : readSensorPacket recvExactOrNone s = (.ok none, s₂) := by
    rw [readSensorPacket, hx]
    rfl
  let g : SensorFrame := ⟨0, 0, 1, 7 * 2 ^ 48, [0], by decide, by decide, by decide, by decide,
    by decide⟩
  obtain ⟨s₃, hr₂, -⟩ := @readSensorPacket_ready g [0, 0, 1, 0, 1, 0, 0, 0, 0, 0, 0, 0, 7] s₂
    (by decide) (by decide)
  rw [if_neg (by decide)] at hr₂
  have hc₁ := @SampleClient.receivePacket_of_none ⟨some s, true, 0, 0⟩ s s₂ _ rfl hr₁ rfl
  have hc₂ := @SampleClient.receivePacket_of_ok ⟨some s₂, true, 0, 0⟩ s₂ s₃ _ rfl hr₂
  refine ⟨?_, by decide⟩
  simp only [calls, hc₁]
  rw [hc₂]
  rfl

/-- The packet with id 1, `content_length == 0` and every other field zero is written, and
both readers return no packet for it. -/
theorem receivePackets_empty_payload :
    let s : StreamSocket := ⟨[1, 0, 0, 0, 0, 0, 0, 0, 0, 0, 0, 0, 0, 0], true, []⟩
    let c : SampleClient := ⟨some s, true, 0, 0⟩
    (c.receivePackets 1).1 = [] ∧ (c.receivePackets 1).2.packetCount = 0 ∧
      (PacketClient.receivePackets s 1).1 = .ok [] := by
  intro s c
  let f : SensorFrame := ⟨1, 0, 0, 0, [], by decide, by decide, by decide, by decide, by decide⟩
  obtain ⟨s', hr, -⟩ := @readSensorPacket_ready f [] s (by decide) (by decide)
  rw [if_pos rfl] at hr
  have hc := @SampleClient.receivePacket_of_none c s s' _ rfl hr rfl
  refine ⟨?_, ?_, ?_⟩ <;>
    simp only [SampleClient.receivePackets, hc,
      PacketClient.receivePackets, PacketClient.receivePacket, PacketClient.recvExact, hr]

/-- One `receive_packet` call, whatever the stream and its timeouts: `None` having read part
of the stream, counters unchanged; or a packet that is exactly the bytes read, counted once
with its `14 + content_length` bytes. -/
theorem SampleClient.receivePacket_accounting (c : SampleClient) :
    (c.receivePacket.1 = none ∧ (∃ read, c.unread = read ++ c.receivePacket.2.unread) ∧
        c.receivePacket.2.packetCount = c.packetCount ∧
        c.receivePacket.2.bytesReceived = c.bytesReceived) ∨
      ∃ f : SensorFrame, c.receivePacket.1 = some f.toPacket ∧
        c.unread = f.encode ++ c.receivePacket.2.unread ∧
        c.receivePacket.2.packetCount = c.packetCount + 1 ∧
        c.receivePacket.2.bytesReceived = c.bytesReceived + f.encode.length := by
  rcases hs : c.sock with _ | s
  · simp [SampleClient.receivePacket, SampleClient.unread, hs]
  · rcases hr : readSensorPacket recvExactOrNone s with ⟨r, s'⟩
    have h := readSensorPacket_sound s
    rw [hr] at h
    rcases h with ⟨rfl, read, hread⟩ | ⟨f, -, rfl, hf⟩
    · rw [SampleClient.receivePacket_of_none hs hr rfl]
      exact .inl ⟨rfl, ⟨read, by simpa [SampleClient.unread, hs] using hread⟩, rfl, rfl⟩
    · rw [SampleClient.receivePacket_of_ok hs hr]
      refine .inr ⟨f, rfl, by simpa [SampleClient.unread, hs] using hf, rfl, ?_⟩
      simp [SensorFrame.toPacket, Nat.add_assoc]

/-- Over any run of `receive_packet` calls, whatever the stream and its timeouts: the bytes
read split into one piece per call, and a call that returns a packet read exactly that
packet's bytes; `packet_count` grows by the number of packets returned and `bytes_received`
by their `14 + content_length`, which never exceeds the bytes read. -/
theorem SampleClient.calls_accounting (k : ℕ) (c : SampleClient) :
    ∃ pieces : List Bytes,
      c.unread = pieces.flatten ++ (calls SampleClient.receivePacket k c).2.unread ∧
      List.Forall₂ (fun r piece => ∀ p, r = some p → ∃ f : SensorFrame, f.toPacket = p ∧ piece = f.encode)
        (calls SampleClient.receivePacket k c).1 pieces ∧
      (calls SampleClient.receivePacket k c).2.packetCount =
        c.packetCount + ((calls SampleClient.receivePacket k c).1.filterMap id).length ∧
      (calls SampleClient.receivePacket k c).2.bytesReceived =
        c.bytesReceived +
          (((calls SampleClient.receivePacket k c).1.filterMap id).map fun p => 14 + p.contentLength).sum ∧
      (calls SampleClient.receivePacket k c).2.bytesReceived ≤ c.bytesReceived + pieces.flatten.length := by
  induction k generalizing c with
  | zero => exact ⟨[], by simp [calls]⟩
  | succ k ih =>
    obtain ⟨pieces, hu, hf, hn, hb, hle⟩ := ih c.receivePacket.2
    simp only [calls] at hu hf hn hb hle ⊢
    rcases SampleClient.receivePacket_accounting c with ⟨hr, ⟨read, hread⟩, hn₁, hb₁⟩ | ⟨f, hr, hread, hn₁, hb₁⟩
    · refine ⟨read :: pieces, by rw [hread, hu, List.flatten_cons, List.append_assoc], ?_, ?_, ?_, ?_⟩
      · exact .cons (fun p hp => absurd (hr ▸ hp) (by simp)) hf
      · rw [hn, hn₁, hr, List.filterMap_cons_none rfl]
      · rw [hb, hb₁, hr, List.filterMap_cons_none rfl]
      · rw [List.flatten_cons, List.length_append]
        omega
    · refine ⟨f.encode :: pieces, by rw [hread, hu, List.flatten_cons, List.append_assoc], ?_, ?_, ?_, ?_⟩
      · exact .cons (fun p hp => ⟨f, Option.some.inj (hr ▸ hp), rfl⟩) hf
      · rw [hn, hn₁, hr, List.filterMap_cons_some (f := id) rfl, List.length_cons]
        omega
      · rw [hb, hb₁, hr, List.filterMap_cons_some (f := id) rfl, List.map_cons, List.sum_cons]
        simp [SensorFrame.toPacket]
        omega
      · rw [List.flatten_cons, List.length_append]
        omega

/-- `receive_with_callback(callback, n)` does what `receive_packets(j)` does, for the `j`
that ends at the first packet the callback rejects, or `j = n`: the same packets, the callback
accepting all but that last one, and the same client after. -/
theorem SampleClient.receiveWithCallback_eq (c : SampleClient) (callback : SensorPacket → Bool)
    (n : ℕ) :
    ∃ j ≤ n, c.receiveWithCallback callback n = c.receivePackets j ∧
      (∀ p ∈ (c.receivePackets j).1.dropLast, callback p = true) ∧
      (j < n → ∃ p, (c.receivePackets j).1.getLast? = some p ∧ callback p = false) := by
  induction n generalizing c with
  | zero => exact ⟨0, le_rfl, rfl, by simp [SampleClient.receivePackets], by omega⟩
  | succ n ih =>
    rcases hr : c.receivePacket with ⟨_ | p, c'⟩
    · refine ⟨n + 1, le_rfl, ?_, ?_, by omega⟩ <;>
        simp [SampleClient.receiveWithCallback, SampleClient.receivePackets, hr]
    · by_cases hp : callback p
      · obtain ⟨j, hj, he, hacc, hrej⟩ := ih c'
        have hpk : c.receivePackets (j + 1) = (p :: (c'.receivePackets j).1, (c'.receivePackets j).2) := by
          simp [SampleClient.receivePackets, hr]
        refine ⟨j + 1, by omega, ?_, ?_, fun hlt => ?_⟩
        · simp [SampleClient.receiveWithCallback, hr, hp, he, hpk]
        · rw [hpk]
          intro q hq
          rcases hps : (c'.receivePackets j).1 with _ | ⟨x, xs⟩
          · simp [hps] at hq
          · rw [hps, List.dropLast_cons₂, List.mem_cons] at hq
            exact hq.elim (· ▸ hp) fun hq => hacc q (hps ▸ hq)
        · obtain ⟨q, hq, hcq⟩ := hrej (by omega)
          refine ⟨q, ?_, hcq⟩
          rw [hpk, List.getLast?_cons, hq]
          rfl
      · refine ⟨1, by omega, ?_, ?_, fun _ => ⟨p, ?_, by simpa using hp⟩⟩ <;>
          simp [SampleClient.receiveWithCallback, SampleClient.receivePackets, hr, hp]

end ZephyrIo.SensorClients

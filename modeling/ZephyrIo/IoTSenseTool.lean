import ZephyrIo.StreamSocket
import ZephyrIo.IoTSenseFraming

/-!
# The IoTSense command-line client: `receive_packet`, `ping` and `monitor`

`IoTSenseClient` of `tools/iotsense_client.py` reads the router sample's simple packets, a
4-byte `<BBH` header and its payload, with a `_recv_exact` loop that lets `socket.timeout`
reach `receive_packet`. `receive_packet` never raises: it returns nothing, a whole packet,
or, when the connection closes inside a payload, the packet id with no payload
(`receivePacket_cases`); `monitor` raises `TypeError` on the last. Over whole packets
`monitor` counts all but the temperature packets with one to eight payload bytes
(`monitorLoop_frames`).

`ping` writes one request and judges the first packet that arrives, whatever it is: it
returns `True` exactly when that packet is the matching response (`ping_first_packet`), so
a temperature packet that arrives first makes it return `False`. It unpacks seven bytes
from a response payload whose length it never checks.
-/

namespace ZephyrIo.IoTSenseTool

open RouterTcpTest (Frame Incomplete)

def iotsenseVersion : ℕ := 0x01
def pktIdSensorTemp : ℕ := 0x01
def pktIdSystemConfig : ℕ := 0x09
def pingCmd : ℕ := 0x01
/-- An `IoTSenseClient` after `connect()`: the reading side of its socket, and every byte
`sendall` has written. -/
structure IoTSenseClient where
  socket : StreamSocket
  sent : Bytes

namespace IoTSenseClient

/-- `send_packet(packet_id, payload)`; `struct.error` when the id or the length does not fit
the header. -/
def sendPacket (c : IoTSenseClient) (packetId : ℕ) (payload : Bytes) :
    Except PyError Bool × IoTSenseClient :=
  match structPack [(1, iotsenseVersion), (1, packetId), (2, payload.length)] with
  | .error e => (.error e, c)
  | .ok header => (.ok true, { c with sent := c.sent ++ (header ++ payload) })

/-- `_recv_exact(size)` on the client's socket: `None` at the end of the stream, and
`socket.timeout` from `recv` propagates. -/
def recvExact (size : ℕ) (s : StreamSocket) : Except PyError (Option Bytes) × StreamSocket :=
  match ZephyrIo.recvExact size [] s with
  | (.bytes data, s) => (.ok (some data), s)
  | (.eof, s) => (.ok none, s)
  | (.timeout, s) => (.error .socketTimeout, s)

/-- The `try` block of `receive_packet`: the payload read is returned unchecked. -/
def receivePacketTry (s : StreamSocket) :
    Except PyError (Option ℕ × Option Bytes) × StreamSocket :=
  match recvExact 4 s with
  | (.error e, s) => (.error e, s)
  | (.ok header, s) =>
    if pyNot header then (.ok (none, none), s)
    else
      match unpackBBH (header.getD []) with
      | .error e => (.error e, s)
      | .ok (_, packetId, length) =>
        if 0 < length then
          match recvExact length s with
          | (.error e, s) => (.error e, s)
          | (.ok payload, s) => (.ok (some packetId, payload), s)
        else (.ok (some packetId, some []), s)

/-- `receive_packet(timeout)`: `socket.timeout` gives `(None, None)`; the timeout itself is
in the socket's events. -/
def receivePacket (s : StreamSocket) : Except PyError (Option ℕ × Option Bytes) × StreamSocket :=
  match receivePacketTry s with
  | (.error .socketTimeout, s) => (.ok (none, none), s)
  | r => r

/-- The test `ping` makes of what `receive_packet` returned. -/
def pingVerdict (seqNum : ℕ) : Except PyError (Option ℕ × Option Bytes) → Except PyError Bool
  | .error e => .error e
  | .ok (packetId, resp) =>
    if packetId = some pktIdSystemConfig ∧ pyNot resp = false then
      match unpackBHI ((resp.getD []).take 7) with
      | .error e => .error e
      | .ok (cmd, respSeq, _) => .ok (decide (cmd = pingCmd ∧ respSeq = seqNum))
    else .ok false

/-- `ping(seq_num)`: one request, then one `receive_packet`. -/
def ping (c : IoTSenseClient) (seqNum : ℕ) : Except PyError Bool × IoTSenseClient :=
  match structPack [(1, pingCmd), (2, seqNum)] with
  | .error e => (.error e, c)
  | .ok payload =>
    match c.sendPacket pktIdSystemConfig payload with
    | (.error e, c) => (.error e, c)
    | (.ok _, c) =>
      let (resp, s) := receivePacket c.socket
      (pingVerdict seqNum resp, { c with socket := s })

/-- The `while` loop of `monitor(duration)`, for the `rounds` times its test passes; it ends
with the `packet_count` that `monitor` prints. -/
def monitorLoop : ℕ → ℕ → IoTSenseClient → Except PyError ℕ × IoTSenseClient
  | 0, packetCount, c => (.ok packetCount, c)
  | rounds + 1, packetCount, c =>
    match receivePacket c.socket with
    | (.error e, s) => (.error e, { c with socket := s })
    | (.ok (packetId, payload), s) =>
      if packetId = some pktIdSensorTemp ∧ pyNot payload = false then
        monitorLoop rounds
          (if 9 ≤ (payload.getD []).length then packetCount + 1 else packetCount)
          { c with socket := s }
      else
        match packetId, payload with
        | none, _ => monitorLoop rounds packetCount { c with socket := s }
        | some _, some _ => monitorLoop rounds (packetCount + 1) { c with socket := s }
        | some _, none =>
          (.error (.typeError "object of type 'NoneType' has no len()"), { c with socket := s })

def monitor (c : IoTSenseClient) (rounds : ℕ) : Except PyError ℕ × IoTSenseClient :=
  monitorLoop rounds 0 c

theorem sendPacket_of_lt (c : IoTSenseClient) {packetId : ℕ} {payload : Bytes}
    (hid : packetId < 256) (hlen : payload.length < 65536) :
    c.sendPacket packetId payload =
      (.ok true, { c with sent := c.sent ++ (headerBBH iotsenseVersion packetId payload.length ++ payload) }) := by
  rw [sendPacket, structPack_eq_ok (by simp [iotsenseVersion]; omega)]
  rfl

/-- What one `_recv_exact(n)` does: it returns the next `n` bytes; or `None`, having read
the rest of a closed stream short of `n` bytes; or it raises `socket.timeout`, which takes
a timeout event or an open stream short of `n` bytes. -/
theorem recvExact_cases (n : ℕ) (s : StreamSocket) :
    (recvExact n s).2.closed = s.closed ∧ (recvExact n s).2.EventsFrom s ∧
      ((recvExact n s).1 = .ok (some (s.pending.take n)) ∧ n ≤ s.pending.length ∧
          (recvExact n s).2.pending = s.pending.drop n ∨
        (recvExact n s).1 = .ok none ∧ s.closed = true ∧ s.pending.length < n ∧
          (recvExact n s).2.pending = [] ∨
        (recvExact n s).1 = .error .socketTimeout ∧
          (RecvEvent.timeout ∈ s.events ∨ s.closed = false ∧ s.pending.length < n)) := by
  have h := recvExact_spec n [] s
  have hready := @recvExact_ready n [] s
  have heof := @recvExact_eof n [] s
  unfold recvExact
  rcases hr : ZephyrIo.recvExact n [] s with ⟨e, s'⟩
  rw [hr] at h hready heof
  obtain ⟨m, hm, hp, hc, he, hend⟩ := h
  cases e with
  | bytes d =>
    obtain ⟨rfl, rfl⟩ := hend
    exact ⟨hc, he, .inl ⟨by simp, by simpa using hm, by simpa using hp⟩⟩
  | eof =>
    obtain ⟨rfl, hlt, hcl⟩ := hend
    exact ⟨hc, he, .inr (.inl ⟨rfl, hcl, by simpa using hlt, by simp [hp]⟩)⟩
  | timeout =>
    refine ⟨hc, he, .inr (.inr ⟨rfl, ?_⟩)⟩
    by_cases hev : RecvEvent.timeout ∈ s.events
    · exact .inl hev
    by_cases hn : n ≤ s.pending.length
    · exact absurd (hready hev (by simpa using hn)) (by simp)
    cases hcl : s.closed
    · exact .inr ⟨rfl, by omega⟩
    · exact absurd (heof hev hcl (by simpa using hn)) (by simp)

/-- Everything one `receive_packet` can do. It never raises; it returns nothing, after a
timeout or on a stream that does not hold a whole packet; or a whole packet, which it has
read; or, once a closed stream ends inside a payload, the packet id with no payload. -/
theorem receivePacket_cases (s : StreamSocket) :
    (receivePacket s).2.closed = s.closed ∧ (receivePacket s).2.EventsFrom s ∧
      ((receivePacket s).1 = .ok (none, none) ∧
          (RecvEvent.timeout ∈ s.events ∨ s.pending.length < 4 ∨
            s.closed = false ∧ Incomplete s.pending) ∨
        (∃ f : Frame, (receivePacket s).1 = .ok (some f.packetId.toNat, some f.payload) ∧
          s.pending = f.encode ++ (receivePacket s).2.pending) ∨
        (receivePacket s).1 = .ok (some (readBBH s.pending).2.1, none) ∧ s.closed = true ∧
          4 ≤ s.pending.length ∧ Incomplete s.pending) := by
  obtain ⟨hc₁, he₁, h₁⟩ := recvExact_cases 4 s
  unfold receivePacket receivePacketTry
  rcases hr₁ : recvExact 4 s with ⟨r₁, s₁⟩
  rw [hr₁] at hc₁ he₁ h₁
  dsimp only at hc₁ he₁ h₁ ⊢
  rcases h₁ with ⟨rfl, hlen, hp₁⟩ | ⟨rfl, -, hlt, -⟩ | ⟨rfl, hto⟩
  rotate_left
  -- the stream ends, or the read times out, before a whole header
  · exact ⟨hc₁, he₁, .inl ⟨rfl, .inr (.inl hlt)⟩⟩
  · exact ⟨hc₁, he₁, .inl ⟨rfl, hto.imp_right fun h => .inl h.2⟩⟩
  -- a header: read its payload, if it announces one
  dsimp only
  have hh : (s.pending.take 4).length = 4 := List.length_take_of_le hlen
  have hnot : pyNot (some (s.pending.take 4)) = false := by
    simp [pyNot, ← List.length_eq_zero, hh]
  rw [hnot, if_neg Bool.false_ne_true, Option.getD_some, unpackBBH, checkSize_of_length _ hh,
    readBBH_take]
  obtain ⟨-, hi, -⟩ := readBBH_lt s.pending
  have hfront := @Frame.front_encode s.pending
  rcases hb : readBBH s.pending with ⟨v, i, l⟩
  simp only [hb] at hi hfront
  dsimp only
  have hid : (Frame.front s.pending).packetId.toNat = i := by
    simp [Frame.front, hb, uint8_toNat_ofNat, Nat.mod_eq_of_lt hi]
  have hpay : (Frame.front s.pending).payload = (s.pending.drop 4).take l := by
    simp [Frame.front, hb]
  split_ifs with hl
  · obtain ⟨hc₂, he₂, h₂⟩ := recvExact_cases l s₁
    rcases hr₂ : recvExact l s₁ with ⟨r₂, s₂⟩
    rw [hr₂] at hc₂ he₂ h₂
    dsimp only at hc₂ he₂ h₂
    rw [hp₁, List.length_drop] at h₂
    rcases h₂ with ⟨rfl, hl₂, hp₂⟩ | ⟨rfl, hcl, hlt, -⟩ | ⟨rfl, hto⟩ <;> dsimp only
    · refine ⟨hc₂.trans hc₁, he₂.trans he₁, .inr (.inl ⟨Frame.front s.pending,
        by rw [hid, hpay], ?_⟩)⟩
      rw [hp₂, List.drop_drop, hfront (by omega)]
    · exact ⟨hc₂.trans hc₁, he₂.trans he₁,
        .inr (.inr ⟨rfl, hc₁ ▸ hcl, hlen, Or.inr (by simp only [hb]; omega)⟩)⟩
    · refine ⟨hc₂.trans hc₁, he₂.trans he₁, .inl ⟨rfl, ?_⟩⟩
      rcases hto with hto | ⟨hcl, hlt⟩
      · exact .inl (he₁.mem hto)
      · exact .inr (.inr ⟨hc₁ ▸ hcl, Or.inr (by simp only [hb]; omega)⟩)
  · obtain rfl : l = 0 := by omega
    refine ⟨hc₁, he₁, .inr (.inl ⟨Frame.front s.pending, by rw [hid, hpay, List.take_zero], ?_⟩)⟩
    rw [hp₁, hfront hlen]

/-- With no timeout ahead, `receive_packet` returns the packet the stream starts with, and
reads exactly it. -/
theorem receivePacket_frame {s : StreamSocket} {f : Frame} {more : Bytes}
    (hev : RecvEvent.timeout ∉ s.events) (hs : s.pending = f.encode ++ more) :
    (receivePacket s).1 = .ok (some f.packetId.toNat, some f.payload) ∧
      (receivePacket s).2.pending = more := by
  have hlen : 4 ≤ s.pending.length := by
    rw [hs, List.length_append, Frame.encode_length]; omega
  obtain ⟨-, -, h | ⟨g, hg, hgs⟩ | ⟨-, -, -, hi⟩⟩ := receivePacket_cases s
  · rcases h.2 with h | h | ⟨-, hi⟩
    · exact absurd h hev
    · omega
    · exact absurd (hs ▸ hi) (Frame.not_incomplete f more)
  · obtain ⟨rfl, hm⟩ := Frame.encode_append_inj (hgs.symm.trans hs)
    exact ⟨hg, hm⟩
  · exact absurd (hs ▸ hi) (Frame.not_incomplete f more)

/-- With no timeout ahead, a closed stream that ends inside a payload makes
`receive_packet` return the packet id with no payload. -/
theorem receivePacket_cut {s : StreamSocket} (hev : RecvEvent.timeout ∉ s.events)
    (hcl : s.closed = true) (hlen : 4 ≤ s.pending.length) (hi : Incomplete s.pending) :
    (receivePacket s).1 = .ok (some (readBBH s.pending).2.1, none) := by
  obtain ⟨-, -, h | ⟨g, -, hgs⟩ | ⟨h, -⟩⟩ := receivePacket_cases s
  · rcases h.2 with h | h | ⟨h, -⟩
    · exact absurd h hev
    · omega
    · rw [hcl] at h; cases h
  · exact absurd (hgs ▸ hi) (Frame.not_incomplete g _)
  · exact h

/-- `ping` once its request is written: the request packet `01 09 03 00 01 seq`, and the
verdict on one `receive_packet`. -/
theorem ping_of_lt (c : IoTSenseClient) {seqNum : ℕ} (hseq : seqNum < 65536) :
    c.ping seqNum = (pingVerdict seqNum (receivePacket c.socket).1,
      ⟨(receivePacket c.socket).2, c.sent ++
        (headerBBH iotsenseVersion pktIdSystemConfig 3 ++ packFields [(1, pingCmd), (2, seqNum)])⟩) := by
  rw [ping, structPack_eq_ok (by simp [pingCmd]; omega)]
  dsimp only
  rw [sendPacket_of_lt c (by decide) (by simp [packFields])]
  rfl

theorem pingVerdict_eq_true {seqNum : ℕ} {r : Except PyError (Option ℕ × Option Bytes)} :
    pingVerdict seqNum r = .ok true ↔ ∃ resp, r = .ok (some pktIdSystemConfig, some resp) ∧
      7 ≤ resp.length ∧ (readBHI resp).1 = pingCmd ∧ (readBHI resp).2.1 = seqNum := by
  constructor
  · intro h
    rcases r with e | ⟨packetId, _ | resp⟩
    · cases h
    · simp [pingVerdict, pyNot] at h
    simp only [pingVerdict] at h
    split_ifs at h with hc
    · obtain ⟨rfl, -⟩ := hc
      simp only [Option.getD_some, unpackBHI, checkSize, readBHI_take] at h
      split_ifs at h with h7
      rcases hb : readBHI resp with ⟨cmd, sq, ts⟩
      simp only [hb, Except.ok.injEq, decide_eq_true_eq] at h
      exact ⟨resp, rfl, by simp at h7; omega, hb ▸ h.1, hb ▸ h.2⟩
    · cases h
  · rintro ⟨resp, rfl, h7, hc, hs⟩
    have hne : pyNot (some resp) = false := by
      simp [pyNot, ← List.length_eq_zero]; omega
    rw [pingVerdict, if_pos ⟨rfl, hne⟩, Option.getD_some, unpackBHI,
      checkSize_of_length _ (by simp; omega), readBHI_take]
    rcases hb : readBHI resp with ⟨cmd, sq, ts⟩
    rw [hb] at hc hs
    simp only [Except.ok.injEq, decide_eq_true_eq]
    exact ⟨hc, hs⟩

/-- The stream starts with the device's answer to `ping(seq_num)`: a packet with id
`PKT_ID_SYSTEM_CONFIG` whose payload has at least 7 bytes and starts with `PING_CMD` and
`seq_num`. -/
def StartsWithPong (seqNum : ℕ) (stream : Bytes) : Prop :=
  ∃ f : Frame, ∃ more, stream = f.encode ++ more ∧ f.packetId.toNat = pktIdSystemConfig ∧
    7 ≤ f.payload.length ∧ (readBHI f.payload).1 = pingCmd ∧ (readBHI f.payload).2.1 = seqNum

/-- `ping` returns `True` only if the first packet it receives is the matching response, and
does whenever the response is the first packet of the stream and no timeout strikes. -/
theorem ping_first_packet (c : IoTSenseClient) (seqNum : ℕ) :
    ((c.ping seqNum).1 = .ok true → StartsWithPong seqNum c.socket.pending) ∧
      (seqNum < 65536 → RecvEvent.timeout ∉ c.socket.events →
        StartsWithPong seqNum c.socket.pending → (c.ping seqNum).1 = .ok true) ∧
      (seqNum < 65536 → RecvEvent.timeout ∉ c.socket.events → ∀ (f : Frame) (more : Bytes),
        c.socket.pending = f.encode ++ more → f.packetId.toNat ≠ pktIdSystemConfig →
        (c.ping seqNum).1 = .ok false) := by
  refine ⟨fun h => ?_, ?_, fun hseq hev f more hs hid => ?_⟩
  · have hseq : seqNum < 65536 := by
      by_contra hge
      obtain ⟨msg, hm⟩ := @structPack_eq_error [(1, pingCmd), (2, seqNum)]
        ⟨(2, seqNum), by simp, show 65536 ≤ seqNum by omega⟩
      rw [ping, hm] at h
      cases h
    rw [ping_of_lt c hseq] at h
    obtain ⟨resp, hr, h7, hc, hs⟩ := pingVerdict_eq_true.mp h
    obtain ⟨-, -, h' | ⟨f, hf, hfs⟩ | ⟨h', -⟩⟩ := receivePacket_cases c.socket
    · rw [hr] at h'; cases h'.1
    · rw [hr] at hf
      simp only [Except.ok.injEq, Prod.mk.injEq, Option.some.injEq] at hf
      obtain ⟨hid, rfl⟩ := hf
      exact ⟨f, _, hfs, hid.symm, h7, hc, hs⟩
    · rw [hr] at h'; simp at h'
  · rintro hseq hev ⟨f, more, hs, hid, h7, hc, hsq⟩
    rw [ping_of_lt c hseq, (receivePacket_frame hev hs).1]
    dsimp only
    refine pingVerdict_eq_true.mpr ⟨f.payload, ?_, h7, hc, hsq⟩
    rw [hid]
  -- a packet with another id comes first: `ping` judges it and returns `False`
  · rw [ping_of_lt c hseq, (receivePacket_frame hev hs).1]
    exact if_neg fun h => hid (Option.some.inj h.1)

/-- The response to `ping(1)` is the whole stream. -/
theorem ping_first_packet_pong :
    let pong : Frame := ⟨1, 9, [1, 1, 0, 0, 0, 0, 0], by decide⟩
    let c : IoTSenseClient := ⟨⟨pong.encode, false, []⟩, []⟩
    (1 < 65536 ∧ RecvEvent.timeout ∉ c.socket.events ∧ StartsWithPong 1 c.socket.pending) ∧
      (c.ping 1).1 = .ok true := by
  intro pong c
  have hp : StartsWithPong 1 c.socket.pending :=
    ⟨pong, [], (List.append_nil _).symm, rfl, by decide, by decide, by decide⟩
  exact ⟨⟨by decide, by decide, hp⟩, (ping_first_packet c 1).2.1 (by decide) (by decide) hp⟩

/-- A temperature packet arrives before the response to `ping(1)`: `ping` judges the
temperature packet and returns `False`. -/
theorem ping_after_telemetry :
    let temp : Frame := ⟨1, 1, [1, 0, 0, 0, 0, 0, 0, 0, 0], by decide⟩
    let pong : Frame := ⟨1, 9, [1, 1, 0, 0, 0, 0, 0], by decide⟩
    let c : IoTSenseClient := ⟨⟨temp.encode ++ pong.encode, false, []⟩, []⟩
    StartsWithPong 1 (c.socket.pending.drop temp.encode.length) ∧ (c.ping 1).1 = .ok false := by
  intro temp pong c
  refine ⟨⟨pong, [], by simp, rfl, by decide, by decide, by decide⟩, ?_⟩
  rw [ping_of_lt c (by decide), (@receivePacket_frame c.socket temp pong.encode (by decide) rfl).1]
  rfl

/-- On a connection the device keeps open, `monitor` never raises. -/
theorem monitorLoop_ok (rounds packetCount : ℕ) (c : IoTSenseClient)
    (hc : c.socket.closed = false) : ∃ n, (monitorLoop rounds packetCount c).1 = .ok n := by
  induction rounds generalizing packetCount c with
  | zero => exact ⟨_, rfl⟩
  | succ rounds ih =>
    obtain ⟨hcl, -, h⟩ := receivePacket_cases c.socket
    rcases hr : receivePacket c.socket with ⟨r, s⟩
    rw [hr] at hcl h
    have hs : ({ c with socket := s } : IoTSenseClient).socket.closed = false := hcl.trans hc
    rcases h with ⟨rfl, -⟩ | ⟨f, rfl, -⟩ | ⟨rfl, h, -⟩
    · simp only [monitorLoop, hr]
      exact ih _ _ hs
    · simp only [monitorLoop, hr]
      split_ifs <;> exact ih _ _ hs
    · rw [hc] at h; cases h

/-- Whether `monitor` counts a packet it receives whole: every packet but a temperature
packet whose payload has one to eight bytes. -/
def monitorCounts (f : Frame) : Bool :=
  !(f.packetId.toNat = pktIdSensorTemp ∧ f.payload ≠ [] ∧ f.payload.length < 9)

theorem monitorLoop_frame {c : IoTSenseClient} {f : Frame} {more : Bytes}
    (hev : RecvEvent.timeout ∉ c.socket.events) (hs : c.socket.pending = f.encode ++ more)
    (rounds packetCount : ℕ) :
    monitorLoop (rounds + 1) packetCount c =
      monitorLoop rounds (if monitorCounts f then packetCount + 1 else packetCount)
        { c with socket := (receivePacket c.socket).2 } := by
  obtain ⟨hr, -⟩ := receivePacket_frame hev hs
  rcases h : receivePacket c.socket with ⟨r, s⟩
  rw [h] at hr
  subst hr
  have hne : pyNot (some f.payload) = false ↔ f.payload ≠ [] := by
    simp [pyNot, List.isEmpty_iff]
  simp only [monitorLoop, h, monitorCounts, Option.some.injEq, hne, Option.getD_some]
  by_cases ht : f.packetId.toNat = pktIdSensorTemp <;> by_cases hz : f.payload = [] <;>
    by_cases h9 : 9 ≤ f.payload.length <;> simp [ht, hz, h9]

/-- Over a stream of whole packets with no timeout, `monitor` counts the packets
`monitorCounts` accepts among those it receives. -/
theorem monitorLoop_frames (fs : List Frame) (c : IoTSenseClient) (more : Bytes)
    (hs : c.socket.pending = (fs.map Frame.encode).flatten ++ more)
    (hev : RecvEvent.timeout ∉ c.socket.events) (packetCount : ℕ) :
    (monitorLoop fs.length packetCount c).1 =
      .ok (packetCount + (fs.filter monitorCounts).length) := by
  induction fs generalizing c packetCount with
  | nil => rfl
  | cons f fs ih =>
    rw [List.map_cons, List.flatten_cons, List.append_assoc] at hs
    obtain ⟨-, hp⟩ := receivePacket_frame hev hs
    obtain ⟨-, he, -⟩ := receivePacket_cases c.socket
    rw [List.length_cons, monitorLoop_frame hev hs, ih _ hp (he.timeout_not_mem hev),
      List.filter_cons]
    by_cases hf : monitorCounts f
    · simp [hf]
      omega
    · simp [hf]

/-- `monitor` never raises on a connection the device keeps open. Over a stream of whole
packets with no timeout, as many rounds as packets count every packet but a temperature packet
with one to eight payload bytes: an empty temperature packet is counted, a short one is
skipped without a word. -/
theorem monitor_count (c : IoTSenseClient) :
    (c.socket.closed = false → ∀ rounds, ∃ n, (c.monitor rounds).1 = .ok n) ∧
      ∀ (fs : List Frame) (more : Bytes), c.socket.pending = (fs.map Frame.encode).flatten ++ more →
        RecvEvent.timeout ∉ c.socket.events →
        (c.monitor fs.length).1 = .ok (fs.filter monitorCounts).length :=
  ⟨fun hc rounds => monitorLoop_ok rounds 0 c hc,
    fun fs more hs hev => by simpa using monitorLoop_frames fs c more hs hev 0⟩

/-- A packet id without a payload makes the next round of `monitor` raise `TypeError`. -/
theorem monitorLoop_cut {c : IoTSenseClient} {packetId : ℕ}
    (h : (receivePacket c.socket).1 = .ok (some packetId, none)) (rounds packetCount : ℕ) :
    (monitorLoop (rounds + 1) packetCount c).1 =
      .error (.typeError "object of type 'NoneType' has no len()") := by
  rcases hr : receivePacket c.socket with ⟨r, s⟩
  rw [hr] at h
  subst h
  simp [monitorLoop, hr, pyNot]

/-- A response of one to six payload bytes makes `ping` raise `struct.error`. -/
theorem ping_short_response (c : IoTSenseClient) {seqNum : ℕ} (hseq : seqNum < 65536)
    (hev : RecvEvent.timeout ∉ c.socket.events) {f : Frame} {more : Bytes}
    (hs : c.socket.pending = f.encode ++ more) (hid : f.packetId.toNat = pktIdSystemConfig)
    (hpos : 0 < f.payload.length) (hshort : f.payload.length < 7) :
    (c.ping seqNum).1 = .error (.structError "unpack requires a buffer of 7 bytes") := by
  have hne : pyNot (some f.payload) = false := by
    simp [pyNot, ← List.length_eq_zero]; omega
  rw [ping_of_lt c hseq, (receivePacket_frame hev hs).1]
  dsimp only
  rw [pingVerdict, hid, if_pos ⟨rfl, hne⟩, Option.getD_some, unpackBHI, checkSize,
    if_neg (by simp; omega)]
  rfl

/-- The stream `01 02 01 00` announces a one-byte payload and closes: `receive_packet`
returns packet id 2 with no payload, and `monitor` raises `TypeError` on it. The stream
`01 09 01 00 05` answers a ping with a one-byte payload, and `ping` raises
`struct.error`. -/
theorem receivePacket_truncated :
    let cut : IoTSenseClient := ⟨⟨[1, 2, 1, 0], true, []⟩, []⟩
    let short : IoTSenseClient := ⟨⟨[1, 9, 1, 0, 5], true, []⟩, []⟩
    (receivePacket cut.socket).1 = .ok (some 2, none) ∧
      (cut.monitor 1).1 = .error (.typeError "object of type 'NoneType' has no len()") ∧
      (short.ping 1).1 = .error (.structError "unpack requires a buffer of 7 bytes") := by
  intro cut short
  have h₁ : (receivePacket cut.socket).1 = .ok (some 2, none) :=
    receivePacket_cut (by decide) rfl (by decide) (by decide)
  exact ⟨h₁, monitorLoop_cut h₁ 0 0,
    @ping_short_response short 1 (by decide) (by decide) ⟨1, 9, [5], by decide⟩ [] (by decide)
      rfl (by decide) (by decide)⟩

end IoTSenseClient

namespace IoTSenseClient

end IoTSenseClient

namespace IoTSenseClient

end IoTSenseClient

end ZephyrIo.IoTSenseTool

import ZephyrIo.IoTSenseFraming

/-!
# The receive thread of the router test's `TCPClient`

`TCPClient._receive_loop` appends each `recv` result to a local buffer and runs the framing
loop over it. Driven by any sequence of chunks, it keeps exactly the packets and the
incomplete tail that one run of the framing loop over their concatenation produces
(`receiveLoop_chunks`): nothing is lost, duplicated or reordered at a chunk boundary.

The loop never resynchronises, though: `IoTSensePacket.unpack` returns a packet for every
buffer of four bytes or more, and no version is checked, so the skip-one-byte branch is
dead and a stray byte becomes the version of a bogus packet (`receiveLoop_stray_byte`).
-/

namespace ZephyrIo.RouterTcpTest

/-- What one `recv` call gets: bytes (`b''` once the server has closed), `socket.timeout`,
or any other exception. -/
inductive RecvResult
  | data (bytes : Bytes)
  | timeout
  | error
  deriving DecidableEq, Repr

namespace TCPClient

/-- `TCPClient._receive_loop`, from its local `buffer` and `self.received_packets`, over the
results of its successive `recv` calls; the list ends where `self.running` is cleared. -/
def receiveLoop (buffer : Bytes) (received : List IoTSensePacket) :
    List RecvResult → Bytes × List IoTSensePacket
  | [] => (buffer, received)
  | .data data :: rest =>
    if data = [] then (buffer, received)
    else
      let (buffer, received) := parsePackets (buffer ++ data) received
      receiveLoop buffer received rest
  | .timeout :: rest => receiveLoop buffer received rest
  | .error :: _ => (buffer, received)

/-- Between chunks the loop holds what one run of the framing loop makes of everything
received so far. -/
theorem receiveLoop_data (chunks : List Bytes) (hne : ∀ c ∈ chunks, c ≠ []) {buffer : Bytes}
    {received : List IoTSensePacket} (hb : parsePackets buffer received = (buffer, received)) :
    receiveLoop buffer received (chunks.map .data) =
      parsePackets (buffer ++ chunks.flatten) received := by
  induction chunks generalizing buffer received with
  | nil => simpa using hb.symm
  | cons c cs ih =>
    have hc := hne c (List.mem_cons_self _ _)
    rw [List.map_cons, receiveLoop, if_neg hc, List.flatten_cons, ← List.append_assoc,
      parsePackets_append (buffer ++ c)]
    exact ih (fun c' h => hne c' (List.mem_cons_of_mem _ h))
      (parsePackets_incomplete _ (parsePackets_fst_incomplete _ _))

theorem mapM_pack_toPacket (fs : List Frame) :
    (fs.map Frame.toPacket).mapM IoTSensePacket.pack = .ok (fs.map Frame.encode) := by
  induction fs with
  | nil => rfl
  | cons f fs ih => simp only [List.map_cons, List.mapM_cons, Frame.pack_toPacket, ih]; rfl

theorem receiveLoop_chunks (chunks : List Bytes) (hne : ∀ c ∈ chunks, c ≠ []) :
    let (buffer, received) := receiveLoop [] [] (chunks.map .data)
    (∃ wire : List Bytes, received.mapM IoTSensePacket.pack = .ok wire ∧
        wire.flatten ++ buffer = chunks.flatten ∧
        ∀ p ∈ received, p.payload.length = p.payloadLen) ∧
      (buffer.length < 4 ∨ buffer.length - 4 < (readBBH buffer).2.2) ∧
      (buffer, received) = parsePackets chunks.flatten [] := by
  rw [receiveLoop_data chunks hne (parsePackets_of_lt [] (by simp)), List.nil_append]
  obtain ⟨fs, r, hs, hr, hp⟩ := parsePackets_spec chunks.flatten []
  rw [hp]
  exact ⟨⟨_, mapM_pack_toPacket fs, hs.symm, by simp [Frame.toPacket]⟩, hr, rfl⟩

/-- A cut inside the header of a packet with a 3-byte payload. -/
theorem receiveLoop_chunks_header_cut :
    (∀ c ∈ [[1, 9], [3, 0, 1, 52, 18]], c ≠ []) ∧
      let (buffer, received) := receiveLoop [] [] ([[1, 9], [3, 0, 1, 52, 18]].map .data)
      (∃ wire : List Bytes, received.mapM IoTSensePacket.pack = .ok wire ∧
          wire.flatten ++ buffer = [[1, 9], [3, 0, 1, 52, 18]].flatten ∧
          ∀ p ∈ received, p.payload.length = p.payloadLen) ∧
        (buffer.length < 4 ∨ buffer.length - 4 < (readBBH buffer).2.2) ∧
        (buffer, received) = parsePackets [[1, 9], [3, 0, 1, 52, 18]].flatten [] :=
  ⟨by decide, receiveLoop_chunks [[1, 9], [3, 0, 1, 52, 18]] (by decide)⟩

/-- A stray `0x00` in front of the well-formed packet `IoTSensePacket(0x01)` is read as the
version of a bogus packet that swallows the real one. -/
theorem receiveLoop_stray_byte :
    receiveLoop [] [] [.data [0, 1, 1, 0, 0], .data []] = ([], [⟨0, 1, 1, [0]⟩]) := by
  have hu : IoTSensePacket.unpack [0, 1, 1, 0, 0] = some ⟨0, 1, 1, [0]⟩ := by decide
  have hp : parsePackets [0, 1, 1, 0, 0] [] = ([], [⟨0, 1, 1, [0]⟩]) := by
    rw [parsePackets_of_unpack [] (by decide) hu, if_pos (by decide)]
    exact parsePackets_of_lt _ (by decide)
  rw [receiveLoop, if_neg (by decide), List.nil_append, hp]
  rfl

end TCPClient

end ZephyrIo.RouterTcpTest

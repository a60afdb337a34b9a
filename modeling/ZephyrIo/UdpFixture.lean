import ZephyrIo.Struct

/-!
# The test harness's `UdpServer`

`UdpServer` (`scripts/pylib/pytest-test-harness/src/test_harness/fixtures/udp.py`) records
the sender of each datagram `recv_from` returns, and `send_to` without an address, like
`reply`, goes back to that sender. The network is an input of each operation: what
`recvfrom` receives before the timeout, how many datagrams `clear` finds waiting, whether
`bind` succeeds, what `sendto` raises. `run` plays any sequence of operations and reports, for each, its result,
the datagram it returned to its caller and the datagram it transmitted.

Over any such run `_last_sender` is the sender of the last datagram returned and `_socket`
is set exactly when the last `start` or `stop` was a `start` (`run_lastSender`,
`run_socket`); so every send, from every reachable state, goes where the history says
(`sendTo_history`).
-/

namespace ZephyrIo.UdpFixture

/-- `(ip, port)` as `recvfrom` reports it. -/
structure Addr where
  ip : String
  port : ℕ
  deriving DecidableEq, Repr

/-- `UdpPacket(data, address)`. -/
structure UdpPacket where
  data : Bytes
  address : Addr
  deriving DecidableEq, Repr

/-- What `sendto` raises: an `OSError` (a datagram over 65507 bytes, a host that does not
resolve, an unreachable network), the `OverflowError` of a port outside `0..65535`, or the
`TypeError` of a host name that does not encode. -/
inductive SendError
  | osError (msg : String)
  | overflowError (msg : String)
  | typeError (msg : String)
  deriving DecidableEq, Repr

def SendError.toPyError : SendError → PyError
  | .osError msg => .osError msg
  | .overflowError msg => .overflowError msg
  | .typeError msg => .typeError msg

/-- The fields of the server; `socket` says whether `_socket` is not `None`. -/
structure UdpServer where
  port : ℕ
  bindAddress : String
  bufferSize : ℕ
  socket : Bool
  lastSender : Option Addr
  deriving DecidableEq, Repr

namespace UdpServer

/-- `UdpServer(port, bind_address, buffer_size)`. -/
def new (port : ℕ) (bindAddress : String) (bufferSize : ℕ) : UdpServer :=
  ⟨port, bindAddress, bufferSize, false, none⟩

/-- `start()`: `bind` fails with the OS's message, or succeeds and a port of 0 becomes the
ephemeral port the OS chose; `_socket` is set before `bind` runs. -/
def start (s : UdpServer) (bindError : Option String) (ephemeralPort : ℕ) :
    Except PyError Unit × UdpServer :=
  if s.socket then (.ok (), s)
  else
    match bindError with
    | some msg => (.error (.osError msg), { s with socket := true })
    | none =>
      (.ok (), { s with socket := true, port := if s.port = 0 then ephemeralPort else s.port })

def stop (s : UdpServer) : UdpServer := { s with socket := false }

/-- `recv_from(timeout)`, given the datagram `recvfrom` receives before the timeout, if
any. -/
def recvFrom (s : UdpServer) (timeout : String) (arrival : Option (Bytes × Addr)) :
    Except PyError UdpPacket × UdpServer :=
  if !s.socket then (.error (.runtimeError "UDP server not started"), s)
  else
    match arrival with
    | none => (.error (.timeoutError ("No UDP packet received within " ++ timeout ++ "s")), s)
    | some (data, addr) => (.ok ⟨data.take s.bufferSize, addr⟩, { s with lastSender := some addr })

def recv (s : UdpServer) (timeout : String) (arrival : Option (Bytes × Addr)) :
    Except PyError Bytes × UdpServer :=
  let (packet, s) := s.recvFrom timeout arrival
  (packet.map UdpPacket.data, s)

/-- `send_to(data, address)`, given what `sendto` raises, if anything: the byte count
`sendto` returns, and the datagram it transmits. -/
def sendTo (s : UdpServer) (data : Bytes) (address : Option Addr) (sendError : Option SendError) :
    Except PyError ℕ × Option (Bytes × Addr) :=
  if !s.socket then (.error (.runtimeError "UDP server not started"), none)
  else
    match address.or s.lastSender with
    | none => (.error (.runtimeError "No destination address (no packets received yet)"), none)
    | some dest =>
      match sendError with
      | some e => (.error e.toPyError, none)
      | none => (.ok data.length, some (data, dest))

def reply (s : UdpServer) (data : Bytes) (sendError : Option SendError) :
    Except PyError ℕ × Option (Bytes × Addr) :=
  s.sendTo data s.lastSender sendError

/-- `clear()`, given how many datagrams are waiting: it drains them and records no
sender. -/
def clear (s : UdpServer) (waiting : ℕ) : ℕ := if !s.socket then 0 else waiting

end UdpServer

/-- One operation of a test on the server, with what the network does during it. -/
inductive Op
  | start (bindError : Option String) (ephemeralPort : ℕ)
  | stop
  | recv (timeout : String) (arrival : Option (Bytes × Addr))
  | recvFrom (timeout : String) (arrival : Option (Bytes × Addr))
  | clear (waiting : ℕ)
  | sendTo (data : Bytes) (address : Option Addr) (sendError : Option SendError)
  | reply (data : Bytes) (sendError : Option SendError)

/-- What an operation returns or raises. -/
inductive Value
  | none
  | bytes (data : Bytes)
  | packet (p : UdpPacket)
  | int (n : ℕ)
  deriving DecidableEq, Repr

/-- An operation's result, the datagram its `recv_from` returned, and the datagram it
transmitted. -/
structure Outcome where
  result : Except PyError Value
  returned : Option UdpPacket
  sent : Option (Bytes × Addr)

namespace UdpServer

def step (s : UdpServer) : Op → UdpServer × Outcome
  | .start e p => ((s.start e p).2, ⟨(s.start e p).1.map fun _ => .none, none, none⟩)
  | .stop => (s.stop, ⟨.ok .none, none, none⟩)
  | .recv t a => ((s.recv t a).2, ⟨(s.recv t a).1.map .bytes, (s.recvFrom t a).1.toOption, none⟩)
  | .recvFrom t a => ((s.recvFrom t a).2, ⟨(s.recvFrom t a).1.map .packet, (s.recvFrom t a).1.toOption, none⟩)
  | .clear w => (s, ⟨.ok (.int (s.clear w)), none, none⟩)
  | .sendTo d a e => (s, ⟨(s.sendTo d a e).1.map .int, none, (s.sendTo d a e).2⟩)
  | .reply d e => (s, ⟨(s.reply d e).1.map .int, none, (s.reply d e).2⟩)

def run (s : UdpServer) : List Op → UdpServer × List Outcome
  | [] => (s, [])
  | op :: ops =>
    let (s', o) := s.step op
    let (s'', outs) := run s' ops
    (s'', o :: outs)

/-- The sender of the last datagram a run returned to its caller. -/
def lastReturned : List Outcome → Option Addr
  | [] => none
  | o :: outs => (lastReturned outs).or (o.returned.map UdpPacket.address)

/-- Whether `_socket` is set after the operations: the last `start` or `stop` decides. -/
def startedAfter (started : Bool) : List Op → Bool
  | [] => started
  | .start .. :: ops => startedAfter true ops
  | .stop :: ops => startedAfter false ops
  | _ :: ops => startedAfter started ops

/-- A send as the spec describes it: a `RuntimeError` while the server is not started or
with nowhere to go; else `sendto`'s own error with nothing sent, or one datagram to the
destination. -/
def sendOutcome (started : Bool) (dest : Option Addr) (data : Bytes) (sendError : Option SendError) :
    Outcome :=
  if !started then ⟨.error (.runtimeError "UDP server not started"), none, none⟩
  else
    match dest, sendError with
    | none, _ => ⟨.error (.runtimeError "No destination address (no packets received yet)"), none, none⟩
    | some _, some e => ⟨.error e.toPyError, none, none⟩
    | some d, none => ⟨.ok (.int data.length), none, some (data, d)⟩

theorem step_lastSender (s : UdpServer) (op : Op) :
    (s.step op).1.lastSender = ((s.step op).2.returned.map UdpPacket.address).or s.lastSender := by
  cases op with
  | start e p => cases hs : s.socket <;> cases e <;> simp [step, start, hs]
  | recv t a | recvFrom t a =>
    cases hs : s.socket <;> rcases a with _ | ⟨d, a⟩ <;> simp [step, recv, recvFrom, hs, Except.toOption]
  | stop | clear | sendTo | reply => rfl

theorem step_socket (s : UdpServer) (op : Op) :
    (s.step op).1.socket = startedAfter s.socket [op] := by
  cases op with
  | start e p => cases hs : s.socket <;> cases e <;> simp [step, start, startedAfter, hs]
  | recv t a | recvFrom t a =>
    cases hs : s.socket <;> rcases a with _ | ⟨d, a⟩ <;>
      simp [step, recv, recvFrom, startedAfter, hs]
  | stop | clear | sendTo | reply => rfl

theorem startedAfter_cons (b : Bool) (op : Op) (ops : List Op) :
    startedAfter b (op :: ops) = startedAfter (startedAfter b [op]) ops := by
  cases op <;> rfl

theorem run_cons (s : UdpServer) (op : Op) (ops : List Op) :
    s.run (op :: ops) = (((s.step op).1.run ops).1, (s.step op).2 :: ((s.step op).1.run ops).2) :=
  rfl

theorem run_lastSender (s : UdpServer) (ops : List Op) :
    (s.run ops).1.lastSender = (lastReturned (s.run ops).2).or s.lastSender := by
  induction ops generalizing s with
  | nil => rfl
  | cons op ops ih => rw [run_cons, lastReturned, ih, step_lastSender, Option.or_assoc]

theorem run_socket (s : UdpServer) (ops : List Op) :
    (s.run ops).1.socket = startedAfter s.socket ops := by
  induction ops generalizing s with
  | nil => rfl
  | cons op ops ih => rw [run_cons, ih, step_socket, ← startedAfter_cons]

theorem step_sendTo (s : UdpServer) (data : Bytes) (address : Option Addr)
    (sendError : Option SendError) :
    s.step (.sendTo data address sendError) =
      (s, sendOutcome s.socket (address.or s.lastSender) data sendError) := by
  cases hs : s.socket <;> rcases h : address.or s.lastSender with _ | d <;> cases sendError <;>
    simp [step, sendTo, sendOutcome, hs, h, Except.map]

/-- After any sequence of operations from a fresh server, `_last_sender` is the sender of
the last datagram `recv_from` returned, and `send_to` and `reply`, whatever `sendto` does,
send exactly where that history says, or raise and change nothing. -/
theorem sendTo_history (port : ℕ) (bindAddress : String) (bufferSize : ℕ) (ops : List Op)
    (data : Bytes) (address : Option Addr) (sendError : Option SendError) :
    let r := (UdpServer.new port bindAddress bufferSize).run ops
    r.1.lastSender = lastReturned r.2 ∧
      r.1.step (.sendTo data address sendError) =
        (r.1, sendOutcome (startedAfter false ops) (address.or (lastReturned r.2)) data sendError) ∧
      r.1.step (.reply data sendError) =
        (r.1, sendOutcome (startedAfter false ops) (lastReturned r.2) data sendError) := by
  intro r
  have hl : r.1.lastSender = lastReturned r.2 := by
    simpa [new] using run_lastSender (UdpServer.new port bindAddress bufferSize) ops
  have hs : r.1.socket = startedAfter false ops := run_socket _ ops
  refine ⟨hl, by rw [step_sendTo, hl, hs], ?_⟩
  have := step_sendTo r.1 data r.1.lastSender sendError
  rw [Option.or_self] at this
  rw [show r.1.step (.reply data sendError) = r.1.step (.sendTo data r.1.lastSender sendError)
    from rfl, this, hl, hs]

end UdpServer

end ZephyrIo.UdpFixture

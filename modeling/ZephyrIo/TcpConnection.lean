import ZephyrIo.FixtureConfig

/-!
# The `tcp_connection` fixtures

`test_harness`'s `tcp_connection` (`fixtures/tcp.py`) opens a socket, sets its timeout and
connects, up to ten times: a connection is yielded and closed at teardown, an `OSError`
(`ConnectionRefusedError`, `TimeoutError`, `socket.gaierror`, an unreachable network) closes
the socket and the next attempt follows, and after ten of them it raises `ConnectionError`.
What `settimeout` raises comes before the `try`, and any exception of `connect` that is not
an `OSError` is not caught: either escapes with that attempt's socket open.
`zephyr_io_harness`'s `tcp_connection` makes one attempt and closes its socket in a
`finally`.

`sock.connect((ip, port))` on an `AF_INET` socket checks its address in the order of
CPython's `getsockaddrarg`: the host name is encoded (an ASCII name as it is, any other by
the `idna` codec; a codec failure or a NUL byte is a `TypeError`), the port must fit a C
`int`, the host is resolved (`socket.gaierror` if it does not resolve), and only then must
the port lie in `0..65535`. Both port errors are the same `OverflowError`. So an unresolvable
host with port 70000 raises `gaierror`, which the fixture retries.

The environment is an input: what the `idna` codec makes of a host, what `settimeout`
raises, and `answer i`, what the resolver and the network do with the `i`-th `connect`. A run
gives what the fixture yields or raises and the sockets still open after teardown
(`tcpConnection_spec`).
-/

namespace ZephyrIo.TcpConnection

open FixtureConfig

/-- What the resolver and the network do with one `connect`: the host does not resolve, or
it resolves and the peer accepts, or it resolves and the connection fails with an `OSError`
(`ConnectionRefusedError`, `TimeoutError`, an unreachable network). -/
inductive Answer
  | unresolved
  | accept
  | refuse
  deriving DecidableEq, Repr

/-- The exceptions that leave a connection fixture: those of `settimeout` and `connect`
(`osError` stands for every `OSError`), and the fixture's own `ConnectionError`. -/
inductive ConnectError
  | valueError (msg : String)
  | typeError (msg : String)
  | overflowError (msg : String)
  | osError
  | connectionError (msg : String)
  deriving DecidableEq, Repr

/-- The host name `connect` resolves: an ASCII name as it is, any other through the `idna`
codec (`none` when the codec raises); a NUL character is refused after encoding. -/
def encodeHost (idna : String → Option String) (host : String) : Except ConnectError String :=
  match if host.toList.all (·.toNat < 128) then some host else idna host with
  | none => .error (.typeError "encoding of hostname failed")
  | some name =>
    if '\x00' ∈ name.toList then .error (.typeError "host name must not contain null character")
    else .ok name

/-- Whether the port parses as a C `int`. -/
def fitsCInt (port : ℤ) : Bool := -2147483648 ≤ port && port ≤ 2147483647

/-- Whether the port is one `connect` takes. -/
def portInRange (port : ℤ) : Bool := 0 ≤ port && port ≤ 65535

/-- What `connect` raises for a port that is not a C `int` or not in `0..65535`. -/
def portError : ConnectError := .overflowError "connect(): port must be 0-65535."

/-- `sock.connect((ip, port))`, in `getsockaddrarg`'s order: encode the host, parse the
port, resolve the host, check the port's range, and connect. -/
def connect (idna : String → Option String) (ip : String) (port : ℤ) (answer : Answer) :
    Except ConnectError Unit :=
  match encodeHost idna ip with
  | .error e => .error e
  | .ok _ =>
    if !fitsCInt port then .error portError
    else
      match answer with
      | .unresolved => .error .osError
      | .accept => if !portInRange port then .error portError else .ok ()
      | .refuse => if !portInRange port then .error portError else .error .osError

/-- The `for attempt in range(10)` loop of `test_harness`'s `tcp_connection`, with
`remaining` attempts left from `attempt` and `out i` what the `i`-th `connect` does: the
socket it yields or the exception it raises, and the sockets left open when setup ends. -/
def TestHarness.connectLoop (config : TcpConfig) (settimeoutError : Option ConnectError)
    (out : ℕ → Except ConnectError Unit) : ℕ → ℕ → Except ConnectError ℕ × List ℕ
  | 0, _ =>
    (.error (.connectionError ("Failed to connect to " ++ config.ip ++ ":" ++ toString config.port)),
      [])
  | remaining + 1, attempt =>
    match settimeoutError with
    | some e => (.error e, [attempt])
    | none =>
      match out attempt with
      | .ok () => (.ok attempt, [attempt])
      | .error e =>
        if e = .osError then connectLoop config settimeoutError out remaining (attempt + 1)
        else (.error e, [attempt])

/-- The fixture from setup through teardown: what it yields or raises, and the sockets open
at the end; teardown closes the socket it yielded. -/
def TestHarness.tcpConnection (config : TcpConfig) (settimeoutError : Option ConnectError)
    (idna : String → Option String) (answer : ℕ → Answer) : Except ConnectError ℕ × List ℕ :=
  match TestHarness.connectLoop config settimeoutError
      (fun i => connect idna config.ip config.port (answer i)) 10 0 with
  | (.ok sock, opened) => (.ok sock, opened.erase sock)
  | r => r

/-- `zephyr_io_harness`'s `tcp_connection`: one socket; its `finally` closes it whatever
`connect` does, but `settimeout` runs before the `try`. -/
def ZephyrIoHarness.tcpConnection (config : TcpConfig) (settimeoutError : Option ConnectError)
    (idna : String → Option String) (answer : ℕ → Answer) : Except ConnectError ℕ × List ℕ :=
  match settimeoutError with
  | some e => (.error e, [0])
  | none => ((connect idna config.ip config.port (answer 0)).map fun _ => 0, [])

/-- The host name's errors are `TypeError`s. -/
theorem encodeHost_error {idna : String → Option String} {host : String} {e : ConnectError}
    (h : encodeHost idna host = .error e) : ∃ msg, e = .typeError msg := by
  unfold encodeHost at h
  split at h
  · cases h
    exact ⟨_, rfl⟩
  · split at h <;> cases h
    exact ⟨_, rfl⟩

/-- `connect` raises its `OverflowError` exactly when the host encodes and the port is not a
C `int`, or when the host resolves and the port is outside `0..65535`. -/
theorem connect_eq_portError (idna : String → Option String) (ip : String) (port : ℤ)
    (answer : Answer) :
    connect idna ip port answer = .error portError ↔
      (∃ name, encodeHost idna ip = .ok name) ∧
        (fitsCInt port = false ∨ answer ≠ .unresolved ∧ portInRange port = false) := by
  rcases hh : encodeHost idna ip with e | name
  · -- the host's own `TypeError` comes first
    obtain ⟨msg, rfl⟩ := encodeHost_error hh
    simp [connect, hh, portError]
  · cases answer <;> cases hf : fitsCInt port <;> cases hr : portInRange port <;>
      simp [connect, hh, hf, hr, portError]

/-- The retry loop on `connect`'s outcomes once `settimeout` succeeds: the first attempt
whose `connect` does not raise an `OSError`, if there is one among the `remaining`, decides:
its socket is yielded, or what it raised escapes, and its socket alone is open. Else the
loop raises `ConnectionError` with every socket closed. -/
theorem connectLoop_spec (config : TcpConfig) (out : ℕ → Except ConnectError Unit)
    (remaining attempt : ℕ) :
    (∃ i < remaining, (∀ j < i, out (attempt + j) = .error .osError) ∧
        out (attempt + i) ≠ .error .osError ∧
        TestHarness.connectLoop config none out remaining attempt =
          ((out (attempt + i)).map fun _ => attempt + i, [attempt + i])) ∨
      (∀ j < remaining, out (attempt + j) = .error .osError) ∧
        TestHarness.connectLoop config none out remaining attempt =
          (.error (.connectionError ("Failed to connect to " ++ config.ip ++ ":" ++
            toString config.port)), []) := by
  induction remaining generalizing attempt with
  | zero => exact .inr ⟨fun j hj => absurd hj (Nat.not_lt_zero j), rfl⟩
  | succ remaining ih =>
    by_cases ho : out attempt = .error .osError
    · -- an `OSError`: the loop goes on from the next attempt
      have shift : ∀ j, attempt + 1 + j = attempt + (j + 1) := fun j => by omega
      have hstep : TestHarness.connectLoop config none out (remaining + 1) attempt =
          TestHarness.connectLoop config none out remaining (attempt + 1) := by
        simp [TestHarness.connectLoop, ho]
      rw [hstep]
      rcases ih (attempt + 1) with ⟨i, hi, hbefore, hstop, hr⟩ | ⟨hall, hr⟩
      · exact .inl ⟨i + 1, by omega,
          Nat.forall_lt_succ_left.mpr ⟨ho, fun j hj => shift j ▸ hbefore j hj⟩, shift i ▸ hstop,
          shift i ▸ hr⟩
      · exact .inr ⟨Nat.forall_lt_succ_left.mpr ⟨ho, fun j hj => shift j ▸ hall j hj⟩, hr⟩
    · refine .inl ⟨0, Nat.succ_pos _, fun j hj => absurd hj (Nat.not_lt_zero j), ho, ?_⟩
      rcases hout : out attempt with e | _
      · have he : e ≠ .osError := fun he => ho (he ▸ hout)
        simp [TestHarness.connectLoop, hout, he, Except.map]
      · simp [TestHarness.connectLoop, hout, Except.map]

/-- For every fixture config, `idna` codec, `settimeout` behaviour and network,
`test_harness`'s `tcp_connection` makes at most ten attempts, and the first whose `connect`
raises no `OSError` decides: its socket is yielded and closed at teardown, or what it raised
escapes and its socket stays open. After ten `OSError`s it raises `ConnectionError` naming the
address, with every socket closed. What `settimeout` raises escapes at once with the first
socket open. `zephyr_io_harness`'s fixture makes one attempt, whose outcome it passes on, and
closes its socket except after a `settimeout` error. `connect` raises its `OverflowError` only
for a port outside `0..65535`, and for a port that is a C `int` only once the host resolves. -/
theorem tcpConnection_spec (config : TcpConfig) (settimeoutError : Option ConnectError)
    (idna : String → Option String) (answer : ℕ → Answer) :
    (∀ e, settimeoutError = some e →
      TestHarness.tcpConnection config settimeoutError idna answer = (.error e, [0]) ∧
        ZephyrIoHarness.tcpConnection config settimeoutError idna answer = (.error e, [0])) ∧
    (settimeoutError = none →
      ((∃ i < 10, (∀ j < i, connect idna config.ip config.port (answer j) = .error .osError) ∧
          (connect idna config.ip config.port (answer i) = .ok () ∧
              TestHarness.tcpConnection config settimeoutError idna answer = (.ok i, []) ∨
            ∃ e ≠ .osError, connect idna config.ip config.port (answer i) = .error e ∧
              TestHarness.tcpConnection config settimeoutError idna answer = (.error e, [i]))) ∨
        (∀ j < 10, connect idna config.ip config.port (answer j) = .error .osError) ∧
          TestHarness.tcpConnection config settimeoutError idna answer =
            (.error (.connectionError ("Failed to connect to " ++ config.ip ++ ":" ++
              toString config.port)), [])) ∧
      ZephyrIoHarness.tcpConnection config settimeoutError idna answer =
        ((connect idna config.ip config.port (answer 0)).map fun _ => 0, [])) ∧
    ∀ a, connect idna config.ip config.port a = .error portError →
      portInRange config.port = false ∧ (fitsCInt config.port = true → a ≠ .unresolved) := by
  refine ⟨fun e h => by subst h; exact ⟨rfl, rfl⟩, fun h => ⟨?_, by subst h; rfl⟩, fun a ha => ?_⟩
  · subst h
    rcases connectLoop_spec config (fun j => connect idna config.ip config.port (answer j)) 10 0 with
      ⟨i, hi, hbefore, hstop, hr⟩ | ⟨hall, hr⟩
    · simp only [Nat.zero_add] at hbefore hstop hr
      refine .inl ⟨i, hi, hbefore, ?_⟩
      rcases ho : connect idna config.ip config.port (answer i) with e | _
      · refine .inr ⟨e, fun he => hstop (he ▸ ho), rfl, ?_⟩
        simp only [TestHarness.tcpConnection, hr, ho, Except.map]
      · refine .inl ⟨rfl, ?_⟩
        simp only [TestHarness.tcpConnection, hr, ho, Except.map, List.erase_cons_head, List.erase_nil]
    · exact .inr ⟨fun j hj => by simpa using hall j hj, by simp only [TestHarness.tcpConnection, hr]⟩
  · obtain ⟨-, hport⟩ := (connect_eq_portError idna config.ip config.port a).mp ha
    rcases hport with hint | ⟨hres, hrange⟩
    · have : portInRange config.port = false := by
        simp only [fitsCInt, portInRange, Bool.and_eq_false_iff, decide_eq_false_iff_not] at hint ⊢
        omega
      exact ⟨this, fun h => by simp [hint] at h⟩
    · exact ⟨hrange, fun _ => hres⟩

/-- An unresolvable host with port 70000: every attempt raises `gaierror`, so the fixture
retries ten times and raises `ConnectionError`. -/
example : TestHarness.tcpConnection ⟨"nonexistent.invalid", 70000⟩ none (fun _ => none)
    (fun _ => .unresolved) =
      (.error (.connectionError "Failed to connect to nonexistent.invalid:70000"), []) := by
  rfl

end ZephyrIo.TcpConnection

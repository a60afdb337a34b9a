import ZephyrIo.Struct

/-!
# The reading side of a TCP connection, and the `_recv_exact` loop

A `StreamSocket` holds the bytes the peer has written and nobody has read yet, whether the
peer has closed the connection after them, and how the network meets each successive
`recv`: with some bytes ready, or with nothing before the socket's timeout. Every pattern
of short reads and timeouts is one list of `RecvEvent`s, so a statement over all lists is
a statement over all timings. The three clients that read fixed-size fields share one
loop, `recvExact`; they differ only in what they do when it ends early.
-/

namespace ZephyrIo

/-- How the network meets one `recv` call: at most `n` bytes, and at least one, are handed
over, or nothing arrives before the timeout. -/
inductive RecvEvent
  | ready (n : ℕ)
  | timeout
  deriving DecidableEq, Repr

/-- Once `events` is used up, every `recv` gets all the pending bytes it asks for. -/
structure StreamSocket where
  pending : Bytes
  closed : Bool
  events : List RecvEvent
  deriving DecidableEq, Repr

namespace StreamSocket

/-- At most `m` pending bytes; with nothing pending, `b''` once the peer has closed and a
timeout while it has not. `none` is `socket.timeout`. -/
def deliver (s : StreamSocket) (m : ℕ) : Option Bytes × StreamSocket :=
  if s.pending = [] ∧ s.closed = false then (none, s)
  else (some (s.pending.take m), { s with pending := s.pending.drop m })

/-- `sock.recv(k)`. -/
def recv (s : StreamSocket) (k : ℕ) : Option Bytes × StreamSocket :=
  match s.events with
  | [] => s.deliver k
  | .ready n :: es => { s with events := es }.deliver (min k (max n 1))
  | .timeout :: es => (none, { s with events := es })

/-- `s'` has used up some events of `s` from the front. -/
def EventsFrom (s' s : StreamSocket) : Prop := ∃ e, s'.events = s.events.drop e

theorem EventsFrom.refl (s : StreamSocket) : EventsFrom s s := ⟨0, rfl⟩

theorem EventsFrom.trans {s₁ s₂ s₃ : StreamSocket} (h₁ : EventsFrom s₁ s₂)
    (h₂ : EventsFrom s₂ s₃) : EventsFrom s₁ s₃ := by
  obtain ⟨e₁, h₁⟩ := h₁
  obtain ⟨e₂, h₂⟩ := h₂
  exact ⟨e₂ + e₁, by rw [h₁, h₂, List.drop_drop]⟩

theorem EventsFrom.mem {s' s : StreamSocket} (h : EventsFrom s' s) {e : RecvEvent}
    (he : e ∈ s'.events) : e ∈ s.events := by
  obtain ⟨k, hk⟩ := h
  rw [hk] at he
  exact List.mem_of_mem_drop he

theorem EventsFrom.timeout_not_mem {s' s : StreamSocket} (h : EventsFrom s' s)
    (hev : RecvEvent.timeout ∉ s.events) : RecvEvent.timeout ∉ s'.events :=
  fun hm => hev (h.mem hm)

theorem deliver_cases (s : StreamSocket) (m : ℕ) :
    (s.deliver m = (none, s) ∧ s.pending = [] ∧ s.closed = false) ∨
      (s.deliver m = (some (s.pending.take m), { s with pending := s.pending.drop m }) ∧
        (s.pending = [] → s.closed = true)) := by
  unfold deliver
  split_ifs with h
  · exact .inl ⟨rfl, h⟩
  · exact .inr ⟨rfl, fun hp => by simpa [hp] using h⟩

/-- A `recv` that times out reads nothing. -/
theorem recv_none {s s' : StreamSocket} {k : ℕ} (h : s.recv k = (none, s')) :
    s'.pending = s.pending ∧ s'.closed = s.closed ∧ EventsFrom s' s ∧
      (s.events.head? = some .timeout ∨ s.pending = [] ∧ s.closed = false) := by
  unfold recv at h
  split at h
  · rcases deliver_cases s k with ⟨hd, hp⟩ | ⟨hd, -⟩ <;> rw [hd] at h <;> cases h
    exact ⟨rfl, rfl, EventsFrom.refl _, .inr hp⟩
  · rename_i es heq
    rcases deliver_cases { s with events := es } (min k (max _ 1)) with ⟨hd, hp⟩ | ⟨hd, -⟩ <;>
      rw [hd] at h <;> cases h
    exact ⟨rfl, rfl, ⟨1, by simp [heq]⟩, .inr hp⟩
  · rename_i es heq
    cases h
    exact ⟨rfl, rfl, ⟨1, by simp [heq]⟩, .inl (by simp [heq])⟩

private theorem deliver_some {t s' : StreamSocket} {m k : ℕ} {c : Bytes} (hm : m ≤ k)
    (hpos : 0 < k → 0 < m) (hd : t.deliver m = (some c, s')) :
    ∃ j, j ≤ t.pending.length ∧ j ≤ k ∧ c = t.pending.take j ∧
      s' = { t with pending := t.pending.drop j } ∧ (0 < k → (j = 0 ↔ t.pending = [])) ∧
      (t.pending = [] → t.closed = true) := by
  rcases deliver_cases t m with ⟨hd', -⟩ | ⟨hd', hc⟩ <;> rw [hd'] at hd <;> cases hd
  refine ⟨min m t.pending.length, by omega, by omega, ?_, ?_, fun hk => ?_, hc⟩
  · rw [← List.take_take, List.take_length]
  · by_cases hl : m ≤ t.pending.length
    · rw [Nat.min_eq_left hl]
    · rw [Nat.min_eq_right (by omega), List.drop_length, List.drop_eq_nil_of_le (by omega)]
  · have := hpos hk
    rw [← List.length_eq_zero]
    omega

/-- A `recv` that returns hands over the next `j ≤ k` pending bytes and drops exactly them;
it hands over nothing only when nothing is pending. -/
theorem recv_some {s s' : StreamSocket} {k : ℕ} {c : Bytes} (h : s.recv k = (some c, s')) :
    ∃ j, j ≤ s.pending.length ∧ j ≤ k ∧ c = s.pending.take j ∧ s'.pending = s.pending.drop j ∧
      s'.closed = s.closed ∧ EventsFrom s' s ∧ (0 < k → (j = 0 ↔ s.pending = [])) ∧
      (s.pending = [] → s.closed = true) := by
  unfold recv at h
  split at h
  · obtain ⟨j, h₁, h₂, h₃, rfl, h₅, h₆⟩ := deliver_some le_rfl id h
    exact ⟨j, h₁, h₂, h₃, rfl, rfl, EventsFrom.refl _, h₅, h₆⟩
  · rename_i n es heq
    obtain ⟨j, h₁, h₂, h₃, rfl, h₅, h₆⟩ :=
      deliver_some (min_le_left k (max n 1)) (fun hk => by omega) h
    exact ⟨j, h₁, h₂, h₃, rfl, rfl, ⟨1, by simp [heq]⟩, h₅, h₆⟩
  · cases h

end StreamSocket

/-- Python's `not x` for `x : bytes | None`. -/
def pyNot : Option Bytes → Bool
  | none => true
  | some data => data.isEmpty

/-- How the `_recv_exact` loop ends: with the bytes, with `None` at the end of the stream,
or by `socket.timeout` raised from `recv`. -/
inductive Exact
  | bytes (data : Bytes)
  | eof
  | timeout
  deriving DecidableEq, Repr

/-- The loop of `SampleClient._recv_exact`, `PacketClient.recv_exact` and
`IoTSenseClient._recv_exact`, from the bytes `data` read so far. -/
def recvExact (n : ℕ) (data : Bytes) (s : StreamSocket) : Exact × StreamSocket :=
  if data.length < n then
    match s.recv (n - data.length) with
    | (none, s') => (.timeout, s')
    | (some [], s') => (.eof, s')
    | (some (b :: chunk), s') => recvExact n (data ++ b :: chunk) s'
  else (.bytes data, s)
termination_by n - data.length
decreasing_by simp only [List.length_append, List.length_cons]; omega

/-- Where the loop can stop, from `data` read so far on `s`: it has read the next `m`
pending bytes and dropped exactly them, and it returns bytes only once it holds `n`. -/
def ExactEnd (n : ℕ) (data : Bytes) (s : StreamSocket) : Exact × StreamSocket → Prop
  | (e, s') => ∃ m, m ≤ s.pending.length ∧ s'.pending = s.pending.drop m ∧
      s'.closed = s.closed ∧ s'.EventsFrom s ∧
      match e with
      | .bytes d => d = data ++ s.pending.take m ∧ m = n - data.length
      | .eof => m = s.pending.length ∧ m < n - data.length ∧ s.closed = true
      | .timeout => m < n - data.length

theorem recvExact_of_le {n : ℕ} {data : Bytes} (s : StreamSocket) (h : n ≤ data.length) :
    recvExact n data s = (.bytes data, s) := by
  rw [recvExact, if_neg (by omega)]

theorem recvExact_of_recv_none {n : ℕ} {data : Bytes} {s s' : StreamSocket}
    (h : data.length < n) (hr : s.recv (n - data.length) = (none, s')) :
    recvExact n data s = (.timeout, s') := by
  rw [recvExact, if_pos h, hr]

theorem recvExact_of_recv_nil {n : ℕ} {data : Bytes} {s s' : StreamSocket}
    (h : data.length < n) (hr : s.recv (n - data.length) = (some [], s')) :
    recvExact n data s = (.eof, s') := by
  rw [recvExact, if_pos h, hr]

theorem recvExact_of_recv_cons {n : ℕ} {data : Bytes} {s s' : StreamSocket} {b : UInt8}
    {chunk : Bytes} (h : data.length < n) (hr : s.recv (n - data.length) = (some (b :: chunk), s')) :
    recvExact n data s = recvExact n (data ++ b :: chunk) s' := by
  rw [recvExact, if_pos h, hr]

private theorem recv_nil_pending {s s' : StreamSocket} {k : ℕ} (hk : 0 < k)
    (hr : s.recv k = (some [], s')) : s.pending = [] ∧ s.closed = true := by
  obtain ⟨j, hj, -, hcj, -, -, -, hz, hcl⟩ := StreamSocket.recv_some hr
  have hp : s.pending = [] := by
    rcases List.take_eq_nil_iff.mp hcj.symm with h0 | h0
    · exact (hz hk).mp h0
    · exact h0
  exact ⟨hp, hcl hp⟩

theorem recvExact_spec (n : ℕ) (data : Bytes) (s : StreamSocket) :
    ExactEnd n data s (recvExact n data s) := by
  induction data, s using recvExact.induct n with
  | case1 data s hlt s' hr =>
    obtain ⟨hp, hc, he, -⟩ := StreamSocket.recv_none hr
    rw [recvExact_of_recv_none hlt hr]
    exact ⟨0, Nat.zero_le _, hp, hc, he, by omega⟩
  | case2 data s hlt s' hr =>
    obtain ⟨hnil, hcl⟩ := recv_nil_pending (by omega) hr
    obtain ⟨j, -, -, -, hp, hc, he, -, -⟩ := StreamSocket.recv_some hr
    rw [recvExact_of_recv_nil hlt hr]
    exact ⟨0, Nat.zero_le _, by simp [hp, hnil], hc, he, by simp [hnil], by omega, hcl⟩
  | case3 data s hlt b chunk s' hr ih =>
    obtain ⟨j, hj, hjk, hcj, hp, hc, he, -, -⟩ := StreamSocket.recv_some hr
    have hlen : (b :: chunk).length = j := by rw [hcj, List.length_take_of_le hj]
    rw [recvExact_of_recv_cons hlt hr]
    rcases hrec : recvExact n (data ++ b :: chunk) s' with ⟨e, s''⟩
    rw [hrec] at ih
    obtain ⟨m, hm, hp', hc', he', hend⟩ := ih
    rw [hp, List.length_drop] at hm
    simp only [List.length_append, hlen] at hend
    refine ⟨j + m, by omega, by rw [hp', hp, List.drop_drop, Nat.add_comm], hc'.trans hc,
      he'.trans he, ?_⟩
    cases e with
    | bytes d =>
      obtain ⟨rfl, hmn⟩ := hend
      exact ⟨by rw [hcj, hp, List.append_assoc, ← List.take_add], by omega⟩
    | eof =>
      obtain ⟨hml, hmn, hcl⟩ := hend
      exact ⟨by rw [hml, hp, List.length_drop]; omega, by omega, hc ▸ hcl⟩
    | timeout => exact (by omega : j + m < n - data.length)
  | case4 data s hge =>
    rw [recvExact_of_le s (by omega)]
    exact ⟨0, Nat.zero_le _, rfl, rfl, .refl _, by simp, by omega⟩

/-- With no timeout ahead, `recv` returns nothing only on an open stream with nothing
pending. -/
private theorem recv_none_of_ready {s s' : StreamSocket} {k : ℕ}
    (hev : RecvEvent.timeout ∉ s.events) (hr : s.recv k = (none, s')) :
    s.pending = [] ∧ s.closed = false ∧ s'.pending = [] := by
  obtain ⟨hp, -, -, h⟩ := StreamSocket.recv_none hr
  rcases h with h | ⟨hnil, hcl⟩
  · exact absurd (List.mem_of_mem_head? h) hev
  · exact ⟨hnil, hcl, hp.trans hnil⟩

/-- A `recv` that hands bytes to the loop, with no timeout ahead: none is ahead after it,
the close is unchanged, and the pending bytes go down by the `j` bytes the loop gains. -/
private theorem recv_cons_of_ready {n : ℕ} {data : Bytes} {s s' : StreamSocket} {b : UInt8}
    {chunk : Bytes} (hev : RecvEvent.timeout ∉ s.events)
    (hr : s.recv (n - data.length) = (some (b :: chunk), s')) :
    RecvEvent.timeout ∉ s'.events ∧ s'.closed = s.closed ∧ ∃ j ≤ s.pending.length,
      s'.pending.length = s.pending.length - j ∧ (data ++ b :: chunk).length = data.length + j := by
  obtain ⟨j, hj, -, hcj, hp, hc, he, -, -⟩ := StreamSocket.recv_some hr
  refine ⟨he.timeout_not_mem hev, hc, j, hj, by rw [hp, List.length_drop], ?_⟩
  rw [List.length_append, hcj, List.length_take_of_le hj]

/-- With no timeout ahead and the missing bytes already written, the loop returns them. -/
theorem recvExact_ready {n : ℕ} {data : Bytes} {s : StreamSocket}
    (hev : RecvEvent.timeout ∉ s.events) (hlen : n - data.length ≤ s.pending.length) :
    (recvExact n data s).1 = .bytes (data ++ s.pending.take (n - data.length)) := by
  suffices ∃ d, (recvExact n data s).1 = .bytes d by
    obtain ⟨d, hd⟩ := this
    have hspec := recvExact_spec n data s
    rcases hrec : recvExact n data s with ⟨e, s'⟩
    rw [hrec] at hspec hd
    obtain ⟨m, -, -, -, -, hend⟩ := hspec
    subst hd
    obtain ⟨rfl, rfl⟩ := hend
    rfl
  induction data, s using recvExact.induct n with
  | case1 data s hlt s' hr =>
    rw [(recv_none_of_ready hev hr).1, List.length_nil] at hlen; omega
  | case2 data s hlt s' hr =>
    rw [(recv_nil_pending (by omega) hr).1, List.length_nil] at hlen; omega
  | case3 data s hlt b chunk s' hr ih =>
    obtain ⟨hev', -, j, hj, hp, hd⟩ := recv_cons_of_ready hev hr
    rw [recvExact_of_recv_cons hlt hr]
    exact ih hev' (by rw [hp, hd]; omega)
  | case4 data s hge => exact ⟨_, by rw [recvExact_of_le s (by omega)]⟩

/-- With no timeout ahead, a closed connection short of the missing bytes ends the loop
with `None`. -/
theorem recvExact_eof {n : ℕ} {data : Bytes} {s : StreamSocket}
    (hev : RecvEvent.timeout ∉ s.events) (hcl : s.closed = true)
    (hlen : s.pending.length < n - data.length) : (recvExact n data s).1 = .eof := by
  induction data, s using recvExact.induct n with
  | case1 data s hlt s' hr =>
    rw [(recv_none_of_ready hev hr).2.1] at hcl; cases hcl
  | case2 data s hlt s' hr => rw [recvExact_of_recv_nil hlt hr]
  | case3 data s hlt b chunk s' hr ih =>
    obtain ⟨hev', hc, j, hj, hp, hd⟩ := recv_cons_of_ready hev hr
    rw [recvExact_of_recv_cons hlt hr]
    exact ih hev' (hc.trans hcl) (by rw [hp, hd]; omega)
  | case4 data s hge => omega

/-- With no timeout ahead, a stream short of the missing bytes ends the loop without bytes
and with every pending byte read: with `None` at a closed end, or by `socket.timeout` once
nothing more arrives. -/
theorem recvExact_short {n : ℕ} {data : Bytes} {s : StreamSocket}
    (hev : RecvEvent.timeout ∉ s.events) (hlen : s.pending.length < n - data.length) :
    ((recvExact n data s).1 = .eof ∨ (recvExact n data s).1 = .timeout) ∧
      (recvExact n data s).2.pending = [] := by
  induction data, s using recvExact.induct n with
  | case1 data s hlt s' hr =>
    rw [recvExact_of_recv_none hlt hr]
    exact ⟨.inr rfl, (recv_none_of_ready hev hr).2.2⟩
  | case2 data s hlt s' hr =>
    obtain ⟨hnil, -⟩ := recv_nil_pending (by omega) hr
    obtain ⟨j, -, -, -, hp, -⟩ := StreamSocket.recv_some hr
    rw [recvExact_of_recv_nil hlt hr]
    exact ⟨.inl rfl, by rw [hp, hnil, List.drop_nil]⟩
  | case3 data s hlt b chunk s' hr ih =>
    obtain ⟨hev', -, j, hj, hp, hd⟩ := recv_cons_of_ready hev hr
    rw [recvExact_of_recv_cons hlt hr]
    exact ih hev' (by rw [hp, hd]; omega)
  | case4 data s hge => omega

end ZephyrIo

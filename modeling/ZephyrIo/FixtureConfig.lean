import ZephyrIo.PyStr

/-!
# Fixture strings of the test harness

A device of the twister hardware map lists fixtures such as `tcp:192.168.1.100:5000`,
`http:192.168.1.100:8080` or `udp:5000:0.0.0.0`. Each `from_fixture` splits the string at
`':'` and reads the port with `int()`; each `parse_*_fixture` returns the first fixture with
its prefix that `from_fixture` accepts, and logs and skips one it rejects. `test_harness` and `zephyr_io_harness` each write their own
`parse_tcp_fixture`, and the two agree on every list (`parseTcpFixture_agree`).

Writing a config as its fixture string and parsing it gives the config back, for every port
`int()` can read, negative or above `65535` included, behind any fixtures the parser of its
kind skips (`fixture_roundTrip`); an address with a
`':'` in it, an IPv6 address, cannot be written (`fromFixture_colon`). The base URL an
`http_client` requests is the config's, with the path after it (`httpClient_url`).
-/

namespace ZephyrIo.FixtureConfig

open PyStr

/-- The `ValueError`s a `from_fixture` raises: its own, on too few fields, and `int()`'s, on
the port field it cannot read. -/
inductive FixtureError
  | invalidFormat (msg : String)
  | invalidLiteral (literal : String)
  deriving DecidableEq, Repr

/-- `int(field)`. -/
def readInt (field : String) : Except FixtureError ℤ :=
  match PyStr.int field with
  | some n => .ok n
  | none => .error (.invalidLiteral field)

/-- `TcpConfig(ip, port)`, declared with these fields by both harnesses. -/
structure TcpConfig where
  ip : String
  port : ℤ
  deriving DecidableEq, Repr

/-- The defaults of `test_harness`'s `TcpConfig`. -/
def TcpConfig.default : TcpConfig := ⟨"127.0.0.1", 4242⟩

/-- `HttpConfig(host, port, scheme)`. -/
structure HttpConfig where
  host : String
  port : ℤ
  scheme : String
  deriving DecidableEq, Repr

def HttpConfig.default : HttpConfig := ⟨"127.0.0.1", 8080, "http"⟩

/-- `HttpConfig.base_url`: `f'{scheme}://{host}:{port}'`. -/
def HttpConfig.baseUrl (c : HttpConfig) : String :=
  c.scheme ++ "://" ++ c.host ++ ":" ++ toString c.port

/-- `UdpConfig(port, bind_address)`. -/
structure UdpConfig where
  port : ℤ
  bindAddress : String
  deriving DecidableEq, Repr

def UdpConfig.default : UdpConfig := ⟨4243, "127.0.0.1"⟩

/-- `TcpConfig.from_fixture`: `tcp:ip:port`, further fields ignored. -/
def TcpConfig.fromFixture (fixtureStr : String) : Except FixtureError TcpConfig :=
  match split fixtureStr ':' with
  | _ :: ip :: port :: _ => (readInt port).map fun port => ⟨ip, port⟩
  | _ => .error (.invalidFormat ("Invalid TCP fixture format: " ++ fixtureStr))

/-- `HttpConfig.from_fixture`: `http:host:port` or `https:host:port`; the scheme is the
first field. -/
def HttpConfig.fromFixture (fixtureStr : String) : Except FixtureError HttpConfig :=
  match split fixtureStr ':' with
  | scheme :: host :: port :: _ => (readInt port).map fun port => ⟨host, port, scheme⟩
  | _ => .error (.invalidFormat ("Invalid HTTP fixture format: " ++ fixtureStr))

/-- `UdpConfig.from_fixture`: `udp:port`, binding `0.0.0.0`, or `udp:port:bind_address`. -/
def UdpConfig.fromFixture (fixtureStr : String) : Except FixtureError UdpConfig :=
  match split fixtureStr ':' with
  | _ :: port :: rest =>
    (readInt port).map fun port =>
      ⟨port, match rest with
        | bindAddress :: _ => bindAddress
        | [] => "0.0.0.0"⟩
  | _ => .error (.invalidFormat ("Invalid UDP fixture format: " ++ fixtureStr))

/-- The loop of the three `parse_*_fixture`s: nothing without fixtures, else the first
fixture with the prefix that `from_fixture` accepts; a fixture it rejects is logged and
skipped. -/
def firstParsed {α : Type} (hasPrefix : String → Bool)
    (fromFixture : String → Except FixtureError α) : Option (List String) → Option α
  | none => none
  | some fixtures => go fixtures
where
  go : List String → Option α
    | [] => none
    | fixture :: fixtures =>
      if hasPrefix fixture then
        match fromFixture fixture with
        | .ok config => some config
        | .error _ => go fixtures
      else go fixtures

/-- `test_harness`'s `parse_tcp_fixture`. -/
def TestHarness.parseTcpFixture : Option (List String) → Option TcpConfig :=
  firstParsed (startswith · "tcp:") TcpConfig.fromFixture

/-- `test_harness`'s `tcp_config` fixture: the parsed config, or the defaults. -/
def TestHarness.tcpConfig (fixtures : Option (List String)) : TcpConfig :=
  (TestHarness.parseTcpFixture fixtures).getD TcpConfig.default

/-- `zephyr_io_harness`'s `parse_tcp_fixture`, which checks the field count itself and
catches only the `ValueError` of `int()`. -/
def ZephyrIoHarness.parseTcpFixture : Option (List String) → Option TcpConfig
  | none => none
  | some fixtures => go fixtures
where
  go : List String → Option TcpConfig
    | [] => none
    | fixture :: fixtures =>
      if startswith fixture "tcp:" then
        match split fixture ':' with
        | _ :: ip :: port :: _ =>
          match PyStr.int port with
          | some port => some ⟨ip, port⟩
          | none => go fixtures
        | _ => go fixtures
      else go fixtures

/-- `zephyr_io_harness`'s `tcp_config` fixture: the parsed config, or `pytest.skip` with
this reason. -/
def ZephyrIoHarness.tcpConfig (fixtures : Option (List String)) : Except String TcpConfig :=
  match ZephyrIoHarness.parseTcpFixture fixtures with
  | some config => .ok config
  | none => .error "No tcp:ip:port fixture configured for this device"

def parseHttpFixture : Option (List String) → Option HttpConfig :=
  firstParsed (fun f => startswith f "http:" || startswith f "https:") HttpConfig.fromFixture

def httpConfig (fixtures : Option (List String)) : HttpConfig :=
  (parseHttpFixture fixtures).getD HttpConfig.default

def parseUdpFixture : Option (List String) → Option UdpConfig :=
  firstParsed (startswith · "udp:") UdpConfig.fromFixture

def udpConfig (fixtures : Option (List String)) : UdpConfig :=
  (parseUdpFixture fixtures).getD UdpConfig.default

/-- An `HttpClient`, by the base URL its requests go to. -/
structure HttpClient where
  baseUrl : String
  deriving DecidableEq, Repr

/-- `HttpClient(base_url)`: `base_url.rstrip('/')`. -/
def HttpClient.new (baseUrl : String) : HttpClient := ⟨rstrip baseUrl '/'⟩

/-- `HttpClient._url(path)`. -/
def HttpClient.url (c : HttpClient) (path : String) : String :=
  if startswith path "/" then c.baseUrl ++ path else c.baseUrl ++ "/" ++ path

/-- The client the `http_client` fixture yields. -/
def httpClient (config : HttpConfig) : HttpClient := HttpClient.new config.baseUrl

/-! ### The parse loop -/

theorem firstParsed_go {α : Type} (hasPrefix : String → Bool)
    (fromFixture : String → Except FixtureError α) (fixtures : List String) :
    firstParsed.go hasPrefix fromFixture fixtures =
      (fixtures.filter hasPrefix).findSome? fun f => (fromFixture f).toOption := by
  induction fixtures with
  | nil => rfl
  | cons f fs ih =>
    by_cases hp : hasPrefix f
    · rcases hf : fromFixture f with e | c <;>
        simp [firstParsed.go, hp, hf, ih, List.filter_cons, Except.toOption]
    · simp [firstParsed.go, hp, ih, List.filter_cons]

/-- The two harnesses' `parse_tcp_fixture` return the same config for every fixture
list. -/
theorem parseTcpFixture_agree (fixtures : Option (List String)) :
    ZephyrIoHarness.parseTcpFixture fixtures = TestHarness.parseTcpFixture fixtures := by
  rcases fixtures with _ | fixtures
  · rfl
  · induction fixtures with
    | nil => rfl
    | cons f fs ih =>
      simp only [ZephyrIoHarness.parseTcpFixture, TestHarness.parseTcpFixture, firstParsed] at ih ⊢
      simp only [ZephyrIoHarness.parseTcpFixture.go, firstParsed.go, ih]
      split_ifs
      · simp only [TcpConfig.fromFixture, readInt]
        split
        · split <;> rfl
        · rfl
      · rfl

/-! ### Round trips -/

theorem firstParsed_found {α : Type} {hasPrefix : String → Bool}
    {fromFixture : String → Except FixtureError α} {pre post : List String} {x : String} {c : α}
    (hpre : ∀ f ∈ pre, hasPrefix f = true → (fromFixture f).toOption = none)
    (hx : hasPrefix x = true) (hc : fromFixture x = .ok c) :
    firstParsed hasPrefix fromFixture (some (pre ++ x :: post)) = some c := by
  have hskip : (pre.filter hasPrefix).findSome? (fun f => (fromFixture f).toOption) = none :=
    List.findSome?_eq_none_iff.mpr fun f hf => hpre f (List.mem_filter.mp hf).1 (List.mem_filter.mp hf).2
  rw [firstParsed, firstParsed_go, List.filter_append, List.findSome?_append, hskip,
    Option.none_or, List.filter_cons_of_pos hx, List.findSome?_cons, hc]
  rfl

theorem readInt_toString {port : ℤ} (h : port.natAbs < 10 ^ 4300) :
    readInt (toString port) = .ok port := by
  rw [readInt, int_toString port h]

/-- Writing a config as its fixture string and parsing it gives the config back, whatever
comes after it and whatever comes before it that the parser of its kind skips: fixtures of
other kinds, parsed or not, and fixtures of its kind that `from_fixture` rejects.
The strings are `f'tcp:{ip}:{port}'`, `f'{scheme}:{host}:{port}'` for `http` and `https`,
`f'udp:{port}:{bind_address}'`, and `f'udp:{port}'`, which binds `0.0.0.0`. The port is any
integer `int()` reads, with no range check. -/
theorem fixture_roundTrip (address scheme : String) (port : ℤ) (pre post : List String)
    (haddr : ':' ∉ address.toList) (hport : port.natAbs < 10 ^ 4300)
    (hscheme : scheme = "http" ∨ scheme = "https") :
    ((∀ f ∈ pre, startswith f "tcp:" = true → (TcpConfig.fromFixture f).toOption = none) →
      TestHarness.parseTcpFixture (some (pre ++ ("tcp:" ++ address ++ ":" ++ toString port) :: post)) =
        some ⟨address, port⟩) ∧
    ((∀ f ∈ pre, (startswith f "http:" || startswith f "https:") = true →
        (HttpConfig.fromFixture f).toOption = none) →
      parseHttpFixture (some (pre ++ (scheme ++ ":" ++ address ++ ":" ++ toString port) :: post)) =
        some ⟨address, port, scheme⟩) ∧
    ((∀ f ∈ pre, startswith f "udp:" = true → (UdpConfig.fromFixture f).toOption = none) →
      parseUdpFixture (some (pre ++ ("udp:" ++ toString port ++ ":" ++ address) :: post)) =
          some ⟨port, address⟩ ∧
        parseUdpFixture (some (pre ++ ("udp:" ++ toString port) :: post)) =
          some ⟨port, "0.0.0.0"⟩) := by
  have hp := colon_not_mem_toString port
  have hsch : ':' ∉ scheme.toList := by rcases hscheme with rfl | rfl <;> decide
  refine ⟨fun hpre => firstParsed_found hpre ?_ ?_, fun hpre => firstParsed_found hpre ?_ ?_,
    fun hpre => ⟨firstParsed_found hpre ?_ ?_, firstParsed_found hpre ?_ ?_⟩⟩
  · simp only [String.append_assoc, startswith_append]
  · rw [show "tcp:" ++ address = "tcp" ++ ":" ++ address from by rw [String.append_assoc]; rfl,
      TcpConfig.fromFixture, split_three (by decide) haddr hp]
    simp [readInt_toString hport, Except.map]
  · rw [show scheme ++ ":" ++ address ++ ":" ++ toString port =
      (scheme ++ ":") ++ (address ++ ":" ++ toString port) by simp only [String.append_assoc]]
    rcases hscheme with rfl | rfl
    · rw [show "http" ++ ":" = "http:" by decide, startswith_append, Bool.true_or]
    · rw [show "https" ++ ":" = "https:" by decide, startswith_append, Bool.or_true]
  · rw [HttpConfig.fromFixture, split_three hsch haddr hp]
    simp [readInt_toString hport, Except.map]
  · simp only [String.append_assoc, startswith_append]
  · rw [show "udp:" ++ toString port = "udp" ++ ":" ++ toString port from by
      rw [String.append_assoc]; rfl, UdpConfig.fromFixture, split_three (by decide) hp haddr]
    simp [readInt_toString hport, Except.map]
  · simp only [startswith_append]
  · rw [show "udp:" ++ toString port = "udp" ++ ":" ++ toString port from by
      rw [String.append_assoc]; rfl, UdpConfig.fromFixture, split_two (by decide) hp]
    simp [readInt_toString hport, Except.map]

/-- A board whose hardware map lists a TCP fixture, a malformed HTTP one and then the HTTP
fixture: `parse_http_fixture` passes over the first two. -/
theorem fixture_roundTrip_board :
    ':' ∉ "192.168.1.100".toList ∧ (8080 : ℤ).natAbs < 10 ^ 4300 ∧
      (∀ f ∈ ["tcp:192.168.1.100:5000", "http:192.168.1.100"],
        (startswith f "http:" || startswith f "https:") = true →
          (HttpConfig.fromFixture f).toOption = none) ∧
      parseHttpFixture (some (["tcp:192.168.1.100:5000", "http:192.168.1.100"] ++
        ("http" ++ ":" ++ "192.168.1.100" ++ ":" ++ toString (8080 : ℤ)) :: [])) =
          some ⟨"192.168.1.100", 8080, "http"⟩ := by
  have hskip : ∀ f ∈ ["tcp:192.168.1.100:5000", "http:192.168.1.100"],
      (startswith f "http:" || startswith f "https:") = true →
        (HttpConfig.fromFixture f).toOption = none := by
    decide
  exact ⟨by decide, by norm_num, hskip, (fixture_roundTrip "192.168.1.100" "http" 8080
    ["tcp:192.168.1.100:5000", "http:192.168.1.100"] [] (by decide) (by norm_num) (.inl rfl)).2.1 hskip⟩

/-- An address with a `':'` in it, such as an IPv6 address, does not survive
`from_fixture`: the config gets the part before its first `':'`, or the fixture is
rejected. -/
theorem fromFixture_colon (address scheme port : String) (h : ':' ∈ address.toList)
    (hscheme : ':' ∉ scheme.toList) :
    (∀ c, TcpConfig.fromFixture ("tcp:" ++ address ++ ":" ++ port) = .ok c →
      c.ip = ⟨address.toList.takeWhile (· ≠ ':')⟩ ∧ c.ip ≠ address) ∧
    (∀ c, HttpConfig.fromFixture (scheme ++ ":" ++ address ++ ":" ++ port) = .ok c →
      c.host = ⟨address.toList.takeWhile (· ≠ ':')⟩ ∧ c.host ≠ address) := by
  obtain ⟨ys, hys, hn⟩ := eq_takeWhile_colon h
  generalize address.toList.takeWhile (· ≠ ':') = tw at hys hn ⊢
  have hne : (⟨tw⟩ : String) ≠ address := fun he => by
    have hl := congrArg List.length hys
    rw [← he] at hl
    simp at hl
  have hsplit : ∀ a : String, ':' ∉ a.toList →
      ∃ q qs, split (a ++ ":" ++ address ++ ":" ++ port) ':' = a :: ⟨tw⟩ :: q :: qs := by
    intro a ha
    have hs : a ++ ":" ++ address ++ ":" ++ port =
        ⟨a.toList ++ ':' :: (tw ++ ':' :: (ys ++ ':' :: port.toList))⟩ := by
      apply String.ext
      simp only [String.data_append]
      rw [show address.data = address.toList from rfl, hys]
      simp
    rcases hq : split ⟨ys ++ ':' :: port.toList⟩ ':' with _ | ⟨q, qs⟩
    · exact absurd hq (by simp [split, List.splitOn, List.splitOnP_ne_nil])
    · exact ⟨q, qs, by rw [hs, split_append ha, split_append hn, hq]; rfl⟩
  constructor
  · intro c hc
    obtain ⟨q, qs, hq⟩ := hsplit "tcp" (by decide)
    rw [show "tcp:" ++ address = "tcp" ++ ":" ++ address from by rw [String.append_assoc]; rfl,
      TcpConfig.fromFixture, hq] at hc
    dsimp only at hc
    rcases hr : readInt q with _ | n <;> rw [hr] at hc <;> cases hc
    exact ⟨rfl, hne⟩
  · intro c hc
    obtain ⟨q, qs, hq⟩ := hsplit scheme hscheme
    rw [HttpConfig.fromFixture, hq] at hc
    dsimp only at hc
    rcases hr : readInt q with _ | n <;> rw [hr] at hc <;> cases hc
    exact ⟨rfl, hne⟩

/-- `tcp:a:5:6` is accepted, with the ip `a` and the port `5`, not the address `a:5`. -/
theorem fromFixture_colon_accepted :
    ':' ∈ "a:5".toList ∧ ':' ∉ "http".toList ∧
      TcpConfig.fromFixture ("tcp:" ++ "a:5" ++ ":" ++ "6") = .ok ⟨"a", 5⟩ ∧
      (⟨"a", 5⟩ : TcpConfig).ip = ⟨"a:5".toList.takeWhile (· ≠ ':')⟩ ∧
      (⟨"a", 5⟩ : TcpConfig).ip ≠ "a:5" := by
  have hok : TcpConfig.fromFixture ("tcp:" ++ "a:5" ++ ":" ++ "6") = .ok ⟨"a", 5⟩ := rfl
  exact ⟨by decide, by decide, hok, (fromFixture_colon "a:5" "http" "6" (by decide) (by decide)).1 _ hok⟩

/-- The `http_client` fixture keeps the config's base URL, whatever the host: `rstrip('/')`
never cuts it, as it ends with the port's last digit. A request to `path` goes to that URL
followed by the path, with a `'/'` between them when the path does not start with one. -/
theorem httpClient_url (config : HttpConfig) (path : String) :
    (httpClient config).baseUrl = config.baseUrl ∧
      (httpClient config).url path =
        config.baseUrl ++ (if startswith path "/" then path else "/" ++ path) := by
  have hbase : (httpClient config).baseUrl = config.baseUrl := by
    obtain ⟨k, hk, hl⟩ := (toString_chars config.port).2
    have hslash : ∀ j < 10, Nat.digitChar j ≠ '/' := by decide
    refine rstrip_of_getLast? ?_
    rw [HttpConfig.baseUrl, show (config.scheme ++ "://" ++ config.host ++ ":" ++
      toString config.port).toList = (config.scheme ++ "://" ++ config.host ++ ":").toList ++
        (toString config.port).toList from String.data_append _ _, List.getLast?_append, hl]
    simpa using hslash k hk
  refine ⟨hbase, ?_⟩
  rw [HttpClient.url, hbase]
  split_ifs <;> simp [String.append_assoc]

end ZephyrIo.FixtureConfig

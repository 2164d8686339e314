import RamShield.Types.Membership

/-! # Dashboard logins

Failed logins are counted for each client address. Behind a trusted proxy the address
is read from the first entry of `X-Forwarded-For`, but a proxy appends, so that the
first entry is the client's own.
-/

namespace RamShield

/-! ## The client address -/

/-- The bytes that `HeaderValue::to_str` lets through. -/
def visible (byte : Char) : Bool := byte == '\t' || decide (0x20 ≤ byte.toNat ∧ byte.toNat < 0x7f)

def headerText (value : List Char) : Option (List Char) :=
  if value.all visible then some value else none

namespace AddrText

variable (text : AddrText)

def peerIsTrustedProxy (peer : IpAddr) (trusted : List (List Char)) : Bool :=
  trusted.any (text.cidrContains · peer)

def firstEntry (value : List Char) : List Char := trim (value.takeWhile (· != ','))

def xffClient (header : Option (List Char)) : Option IpAddr :=
  header.bind fun value => text.parse (firstEntry value)

/-- The address under which `login_submit` counts a failure. -/
def loginAddress (trusted : List (List Char)) (addr : Option IpAddr)
    (header : Option (List Char)) : IpAddr :=
  match addr with
  | none => .v4 0
  | some peer =>
    if text.peerIsTrustedProxy peer trusted then
      (text.xffClient (header.bind headerText)).getD peer
    else peer

/-- What a proxy sends for a client: its address after the entries the client supplied. -/
def forwarded (client : IpAddr) : Option (List Char) → List Char
  | none => text.write client
  | some supplied => supplied ++ ',' :: ' ' :: text.write client

/-- Plain text whose first entry is this address, dotted or in an IPv6 form. -/
def FirstNames (value : List Char) (ip : IpAddr) : Prop :=
  value.all visible ∧
    match ip with
    | .v4 bits => firstEntry value = writeV4 bits
    | .v6 bits => text.parseV6 (firstEntry value) = some bits

variable {text} {client : IpAddr}

lemma xffClient_eq_some {value : List Char} {ip : IpAddr} :
    text.xffClient (headerText value) = some ip ↔ text.FirstNames value ip := by
  unfold FirstNames headerText
  split
  next hvisible =>
    simp only [hvisible, true_and]
    change text.parse (firstEntry value) = some ip ↔ _
    cases ip with
    | v4 bits => exact text.parse_eq_v4
    | v6 bits => exact text.parse_eq_v6
  next hhidden => simp [hhidden, xffClient]

lemma visible_write : (text.write client).all visible :=
  List.all_eq_true.mpr fun char hchar => by
    have haddr := text.addrChar_write client char hchar
    unfold AddrChar at haddr
    simp only [visible, Bool.or_eq_true, decide_eq_true_eq]
    omega

lemma xffClient_forwarded (supplied : List Char) :
    text.xffClient (headerText (text.forwarded client (some supplied))) =
      text.xffClient (headerText supplied) := by
  have hfirst : (text.forwarded client (some supplied)).takeWhile (· != ',') =
      supplied.takeWhile (· != ',') := by
    rw [forwarded]
    induction supplied with
    | nil => rfl
    | cons char supplied ih => simp [List.takeWhile_cons, ih]
  have hall : (text.forwarded client (some supplied)).all visible = supplied.all visible := by
    simp [forwarded, visible_write, visible]
  rw [headerText, headerText, hall]
  split
  · exact congrArg (text.parse <| trim ·) hfirst
  · rfl

lemma xffClient_write : text.xffClient (headerText (text.write client)) = some client := by
  have hwhole : (text.write client).takeWhile (· != ',') = text.write client :=
    List.takeWhile_eq_self_iff.mpr fun char hchar =>
      bne_iff_ne.mpr (text.addrChar_write client char hchar).plain.2.1
  rw [headerText, if_pos visible_write, xffClient, Option.bind_some, firstEntry, hwhole,
    trim_eq_self fun char hchar => (text.addrChar_write client char hchar).plain.2.2,
    text.parse_write]

variable (text) (client)

/-- Behind a trusted proxy the key is the client's address exactly if the client supplied no
header, or one whose first entry is that address, or one whose first entry is no address
while the client is the proxy itself. From any other peer it is the peer's. -/
theorem loginAddress_iff (trusted : List (List Char)) (peer : IpAddr)
    (supplied header : Option (List Char)) :
    (text.peerIsTrustedProxy peer trusted = true →
      (text.loginAddress trusted (some peer) (some (text.forwarded client supplied)) = client ↔
        ∀ own ∈ supplied, text.FirstNames own client ∨
          peer = client ∧ ∀ ip, ¬ text.FirstNames own ip)) ∧
    (text.peerIsTrustedProxy peer trusted = false →
      text.loginAddress trusted (some peer) header = peer) := by
  refine ⟨fun htrusted => ?_, fun huntrusted => ?_⟩
  · rw [loginAddress, if_pos htrusted, Option.bind_some]
    cases supplied with
    | none => simp [forwarded, xffClient_write]
    | some own =>
      simp only [xffClient_forwarded, Option.mem_some_iff, forall_eq', ← xffClient_eq_some]
      cases text.xffClient (headerText own) <;> simp
  · simp [loginAddress, huntrusted]

/-- A client that supplies its own address, and a peer that is not trusted. -/
theorem loginAddress_iff_honest :
    full.loginAddress ["10.0.0.0/8".toList] (some (.v4 0x0a000001#32))
        (some "203.0.113.7, 203.0.113.7".toList) = .v4 0xcb007107#32 ∧
      full.loginAddress ["10.0.0.0/8".toList] (some (.v4 0xcb007107#32))
        (some "198.51.100.1".toList) = .v4 0xcb007107#32 := by
  have hproxy := loginAddress_iff full (.v4 0xcb007107#32) ["10.0.0.0/8".toList]
    (.v4 0x0a000001#32) (some "203.0.113.7".toList) none
  have hdirect := loginAddress_iff full (.v4 0) ["10.0.0.0/8".toList] (.v4 0xcb007107#32) none
    (some "198.51.100.1".toList)
  refine ⟨(hproxy.1 (by decide +kernel)).mpr ?_, hdirect.2 (by decide +kernel)⟩
  intro own hown
  cases hown
  exact .inl (by unfold FirstNames; decide +kernel)

/-- A client behind a trusted proxy that supplies another address is counted under it. -/
theorem loginAddress_spoofed :
    full.peerIsTrustedProxy (.v4 0x0a000001#32) ["10.0.0.0/8".toList] = true ∧
      full.forwarded (.v4 0xcb007107#32) (some "198.51.100.1".toList) =
        "198.51.100.1, 203.0.113.7".toList ∧
      full.loginAddress ["10.0.0.0/8".toList] (some (.v4 0x0a000001#32))
        (some "198.51.100.1, 203.0.113.7".toList) = .v4 0xc6336401#32 := by
  decide +kernel

end AddrText

end RamShield

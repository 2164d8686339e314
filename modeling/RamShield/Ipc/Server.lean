import RamShield.Protocol.Auth
import RamShield.Types.Command

/-! # The IPC server

From a frame on a connection to a command in the enforcement channel: the keys of
the configuration, the authenticated frame, the request it holds, the role of the
key that signed it and the handlers. The state shared by the connections is the
replay store and the channel; a frame is processed while the others wait, so the
connections are one sequence of frames.
-/

namespace RamShield

open Foundation Foundation.Machine

/-! ## Configuration -/

inductive KeyRole
  | telemetry
  | readOnly
  | operator
  | admin
  deriving DecidableEq

def KeyRole.rank : KeyRole → Nat
  | .telemetry => 0
  | .readOnly => 1
  | .operator => 2
  | .admin => 3

/-- The part of the `ipc` section that decides who may do what. -/
structure IpcConfig where
  authKeys : List String
  keyRoles : List (String × KeyRole)
  requireAuthForMutations : Bool

def splitOnce (text : String) : Option (String × String) :=
  match text.toList.dropWhile (· != ':') with
  | [] => none
  | _ :: rest => some (String.ofList (text.toList.takeWhile (· != ':')), String.ofList rest)

def parseIpcKey (entry : String) : Except String (String × List UInt8) :=
  match splitOnce entry with
  | none => .error ("ipc.auth_keys entry '" ++ entry ++ "' is not 'key_id:hex_key'")
  | some (id, hexStr) =>
    let bytes := textBytes hexStr
    if bytes = [] then .error ("ipc.auth_keys[" ++ id ++ "] has empty hex key")
    else if bytes.length % 2 ≠ 0 then
      .error ("ipc.auth_keys[" ++ id ++ "] has odd-length hex key")
    else if bytes.any fun byte => (hexDigit byte).isNone then
      .error ("ipc.auth_keys[" ++ id ++ "] contains non-hex characters")
    else if bytes.length < 32 then
      .error ("ipc.auth_keys[" ++ id ++ "] hex key must be >= 32 chars (16 bytes)")
    else
      match decodeHex bytes with
      | none => .error ("ipc.auth_keys[" ++ id ++ "] hex decode")
      | some key => .ok (id, key)

def parseIpcKeys : List String → Except String (List (String × List UInt8))
  | [] => .ok []
  | entry :: entries =>
    match parseIpcKey entry with
    | .error reason => .error reason
    | .ok key =>
      match parseIpcKeys entries with
      | .error reason => .error reason
      | .ok keys => .ok (key :: keys)

namespace IpcConfig

/-- The role map: of two entries for a key the later one counts. -/
def roles (config : IpcConfig) : Table String KeyRole :=
  config.keyRoles.foldl (fun roles entry => roles.insert entry.1 entry.2) ∅

def roleOf (config : IpcConfig) (keyId : String) : KeyRole :=
  (config.roles.lookup keyId).getD .telemetry

end IpcConfig

/-! ## Requests -/

/-- `ConnectionReport`, without the metadata that no handler here reads. -/
structure ConnectionReport where
  ip : IpAddr
  bytes : Nat
  statusCode : Nat
  protoFp : Nat
  deriving DecidableEq

inductive Request
  | checkIp (ip : String)
  | blockIp (ip reason : String) (ttlSecs : Option Nat)
  | blockCidr (cidr reason : String) (ttlSecs : Option Nat)
  | unblockIp (ip : String)
  | unblockCidr (cidr : String)
  | getIpStats (ip : String)
  | getStats
  | getStatus
  | reportConnection (ip : String) (bytes statusCode protoFp : Nat)
  | reportConnections (events : List ConnectionReport)
  | flush
  deriving DecidableEq

def Request.isMutation : Request → Bool
  | .blockIp _ _ _ => true
  | .blockCidr _ _ _ => true
  | .unblockIp _ => true
  | .unblockCidr _ => true
  | .flush => true
  | _ => false

/-- `Response`. The bodies of the status and statistics responses are left as JSON. -/
inductive Response
  | ok (message : String) (state : Option String)
  | batchOk (accepted rejected : Nat)
  | error (code : Nat) (message : String)
  | body (value : Json)

structure Principal where
  keyId : String
  role : KeyRole

def requireAtLeast (principal : Principal) (least : KeyRole) : Except String Unit :=
  if least.rank ≤ principal.role.rank then .ok () else .error "insufficient role"

def authorize (principal : Principal) : Request → Except String Unit
  | .reportConnection _ _ _ _ => requireAtLeast principal .telemetry
  | .reportConnections _ => requireAtLeast principal .telemetry
  | .checkIp _ => requireAtLeast principal .readOnly
  | .getIpStats _ => requireAtLeast principal .readOnly
  | .getStats => requireAtLeast principal .readOnly
  | .getStatus => requireAtLeast principal .readOnly
  | .blockIp _ _ _ => requireAtLeast principal .operator
  | .blockCidr _ _ _ => requireAtLeast principal .operator
  | .unblockIp _ => requireAtLeast principal .operator
  | .unblockCidr _ => requireAtLeast principal .operator
  | .flush => requireAtLeast principal .admin

/-! ## Handlers -/

/-- The code, the JSON codecs, and the text forms of addresses and networks. -/
structure Codec where
  hmac : List UInt8 → List UInt8 → List UInt8
  fromSlice : List UInt8 → Option Json
  toVec : Json → Option (List UInt8)
  requestFromSlice : List UInt8 → Except String Request
  requestFromValue : Json → Except String Request
  parseIp : String → Option IpAddr
  showIp : IpAddr → String
  parseCidr : String → Except String IpNetwork
  showCidr : IpNetwork → String

structure IpcIo where
  clock : Clock
  decisionId : Uuid
  room : Bool
  answer : Request → Response

def maxTtlSecs : Nat := 31536000

def sanitizeTtl : Option Nat → Except String Nat
  | some ttl =>
    if maxTtlSecs < ttl then
      .error ("ttl_secs " ++ toString ttl ++ " exceeds max " ++ toString maxTtlSecs ++ " (1 year)")
    else .ok ttl
  | none => .ok 0

def maxReasonLen : Nat := 256

def isControl (char : Char) : Bool := char.toNat < 0x20 || (0x7f ≤ char.toNat && char.toNat < 0xa0)

def validateReason (reason : String) : Except String Unit :=
  if maxReasonLen < reason.utf8ByteSize then
    .error ("reason exceeds the maximum length of " ++ toString maxReasonLen ++ " bytes")
  else if reason.toList.any fun char => isControl char && char != ' ' && char != '\t' then
    .error "reason contains control characters"
  else .ok ()

variable (codec : Codec) (io : IpcIo)

def ipcCommand (actor : String) (ttlSeconds : Nat) (reason : String) (ip : IpAddr)
    (cidr : Option IpNetwork) (action : EnforceAction) : EnforceCommand where
  decisionId := io.decisionId
  policyVersion := 1
  source := "ipc"
  actor := actor
  timestampUtc := io.clock.wallMs / 1000
  ttlSeconds := ttlSeconds
  reason := reason
  ip := ip
  cidr := cidr
  action := action
  evidenceSource := .operator

def trySend (cmd : EnforceCommand) (message : String) : Response × Option EnforceCommand :=
  if io.room then (.ok message (some "pending"), some cmd)
  else (.error 503 "enforcement queue full", none)

def handleBlockIp (actor ip reason : String) (ttlSecs : Option Nat) :
    Response × Option EnforceCommand :=
  match validateReason reason with
  | .error message => (.error 400 message, none)
  | .ok () =>
    match codec.parseIp ip with
    | none => (.error 400 ("invalid ip address: " ++ ip), none)
    | some addr =>
      match sanitizeTtl ttlSecs with
      | .error message => (.error 400 message, none)
      | .ok ttl =>
        trySend io (ipcCommand io actor ttl reason addr none .block)
          ("block queued for " ++ codec.showIp addr)

def handleBlockCidr (actor cidr reason : String) (ttlSecs : Option Nat) :
    Response × Option EnforceCommand :=
  match validateReason reason with
  | .error message => (.error 400 message, none)
  | .ok () =>
    match codec.parseCidr cidr with
    | .error _ => (.error 400 ("invalid CIDR: " ++ cidr), none)
    | .ok network =>
      match sanitizeTtl ttlSecs with
      | .error message => (.error 400 message, none)
      | .ok ttl =>
        let reason := if reason = "" then "manual_cidr_block" else reason
        trySend io (ipcCommand io actor ttl reason network.addr (some network) .block)
          ("CIDR block queued for " ++ codec.showCidr network)

def handleUnblockIp (actor ip : String) : Response × Option EnforceCommand :=
  match codec.parseIp ip with
  | none => (.error 400 ("invalid ip address: " ++ ip), none)
  | some addr =>
    trySend io (ipcCommand io actor 0 "manual_unblock" addr none .unblock)
      ("unblock queued for " ++ codec.showIp addr)

def handleUnblockCidr (actor cidr : String) : Response × Option EnforceCommand :=
  match codec.parseCidr cidr with
  | .error reason => (.error 400 ("invalid CIDR: " ++ cidr ++ " (" ++ reason ++ ")"), none)
  | .ok network =>
    trySend io (ipcCommand io actor 0 "manual_unblock" network.addr (some network) .unblock)
      ("CIDR unblock queued for " ++ codec.showCidr network)

def dispatch (actor : String) : Request → Response × Option EnforceCommand
  | .blockIp ip reason ttlSecs => handleBlockIp codec io actor ip reason ttlSecs
  | .blockCidr cidr reason ttlSecs => handleBlockCidr codec io actor cidr reason ttlSecs
  | .unblockIp ip => handleUnblockIp codec io actor ip
  | .unblockCidr cidr => handleUnblockCidr codec io actor cidr
  | .getStatus => (.ok "ok" none, none)
  | .flush => (.ok "no-op: flush is automatic (pre_aggs window)" none, none)
  | request => (io.answer request, none)

def unauthenticatedMutation : Response :=
  .error 401 ("unauthorized: a state-mutating request requires an authenticated principal; " ++
    "configure ipc.auth_keys, or set ipc.require_auth_for_mutations = false to restore the " ++
    "unauthenticated operator path")

def processRequest (config : IpcConfig) (io : IpcIo) (request : Request) :
    Option Principal → Response × Option EnforceCommand
  | some principal =>
    match authorize principal request with
    | .error message => (.error 403 message, none)
    | .ok () => dispatch codec io principal.keyId request
  | none =>
    if request.isMutation && config.requireAuthForMutations then (unauthenticatedMutation, none)
    else dispatch codec io "admin" request

/-! ## Frames -/

def Codec.authenticator (keys : List (String × List UInt8)) : Authenticator where
  hmac := codec.hmac
  fromSlice := codec.fromSlice
  toVec := codec.toVec
  keys := keys

def parseFrame (config : IpcConfig) (keys : List (String × List UInt8)) (clock : Clock)
    (line : List UInt8) (replay : ReplayStore) :
    Except Response (Request × Option Principal) × ReplayStore :=
  if keys = [] then
    match codec.requestFromSlice line with
    | .error reason => (.error (.error 1 ("parse: " ++ reason)), replay)
    | .ok request => (.ok (request, none), replay)
  else
    match (codec.authenticator keys).verifyFrameAuth clock line replay with
    | (.error reason, replay) => (.error (.error 401 ("unauthorized: " ++ reason)), replay)
    | (.ok (value, keyId), replay) =>
      match codec.requestFromValue value with
      | .error reason => (.error (.error 1 ("parse: " ++ reason)), replay)
      | .ok request => (.ok (request, some ⟨keyId, config.roleOf keyId⟩), replay)

/-- What the connections share. `sent` is every command the channel took. -/
structure IpcServer where
  replay : ReplayStore
  sent : List EnforceCommand

/-- A frame on a connection. -/
structure Delivery where
  connection : Nat
  io : IpcIo
  line : List UInt8

namespace IpcServer

/-- `IpcServer::bind`: nothing seen, nothing sent. -/
def start (keyHasher : String → UInt64) : IpcServer := ⟨.server keyHasher, []⟩

def handleFrame (codec : Codec) (config : IpcConfig) (replay : ReplayStore)
    (delivery : Delivery) : Response × Option EnforceCommand × ReplayStore :=
  match parseIpcKeys config.authKeys with
  | .error _ => (.error 500 "internal configuration error: invalid auth state", none, replay)
  | .ok keys =>
    match parseFrame codec config keys delivery.io.clock delivery.line replay with
    | (.error response, replay) => (response, none, replay)
    | (.ok (request, principal), replay) =>
      let (response, command) := processRequest codec config delivery.io request principal
      (response, command, replay)

def step (codec : Codec) (config : IpcConfig) (server : IpcServer) (delivery : Delivery) :
    IpcServer :=
  let (_, command, replay) := handleFrame codec config server.replay delivery
  ⟨replay, server.sent ++ command.toList⟩

end IpcServer

/-! ## Who sends commands -/

def Request.Commands : Request → Prop
  | .blockIp _ _ _ => True
  | .blockCidr _ _ _ => True
  | .unblockIp _ => True
  | .unblockCidr _ => True
  | _ => False

variable {request : Request} {io} {cmd : EnforceCommand} {codec}

lemma Request.Commands.isMutation (hcommands : request.Commands) : request.isMutation := by
  cases request <;> first | rfl | cases hcommands

lemma Request.Commands.operator_le (hcommands : request.Commands) {principal : Principal}
    (hok : authorize principal request = .ok ()) : KeyRole.operator.rank ≤ principal.role.rank := by
  have hleast : requireAtLeast principal .operator = .ok () := by
    cases request <;> first | exact hok | cases hcommands
  rw [requireAtLeast] at hleast
  split at hleast
  next hrank => exact hrank
  · cases hleast

lemma eq_of_trySend {sent : EnforceCommand} {message : String}
    (hsent : (trySend io cmd message).2 = some sent) : sent = cmd := by
  rw [trySend] at hsent
  split at hsent
  · exact (Option.some.inj hsent).symm
  · cases hsent

lemma dispatch_sends {actor : String} (hsent : (dispatch codec io actor request).2 = some cmd) :
    request.Commands ∧ cmd.actor = actor := by
  cases request with
  | blockIp ip reason ttlSecs =>
    refine ⟨trivial, ?_⟩
    rw [dispatch, handleBlockIp] at hsent
    split at hsent
    · cases hsent
    split at hsent
    · cases hsent
    split at hsent
    · cases hsent
    · rw [eq_of_trySend hsent, ipcCommand]
  | blockCidr cidr reason ttlSecs =>
    refine ⟨trivial, ?_⟩
    rw [dispatch, handleBlockCidr] at hsent
    split at hsent
    · cases hsent
    split at hsent
    · cases hsent
    split at hsent
    · cases hsent
    · rw [eq_of_trySend hsent, ipcCommand]
  | unblockIp ip =>
    refine ⟨trivial, ?_⟩
    rw [dispatch, handleUnblockIp] at hsent
    split at hsent
    · cases hsent
    · rw [eq_of_trySend hsent, ipcCommand]
  | unblockCidr cidr =>
    refine ⟨trivial, ?_⟩
    rw [dispatch, handleUnblockCidr] at hsent
    split at hsent
    · cases hsent
    · rw [eq_of_trySend hsent, ipcCommand]
  | _ => cases hsent

lemma processRequest_sends {config : IpcConfig} {principal : Principal}
    (hsent : (processRequest codec config io request (some principal)).2 = some cmd) :
    KeyRole.operator.rank ≤ principal.role.rank ∧ cmd.actor = principal.keyId := by
  rw [processRequest] at hsent
  split at hsent
  · cases hsent
  next hok =>
    obtain ⟨hcommands, hactor⟩ := dispatch_sends hsent
    exact ⟨hcommands.operator_le hok, hactor⟩

lemma processRequest_none {config : IpcConfig} (hrequire : config.requireAuthForMutations) :
    (processRequest codec config io request none).2 = none := by
  rw [processRequest, hrequire, Bool.and_true]
  split
  · rfl
  next hread =>
    rw [Option.eq_none_iff_forall_ne_some]
    intro cmd hsent
    exact hread (dispatch_sends hsent).1.isMutation

/-- Every entry gives a key. -/
lemma parseIpcKeys_ne_nil {entries : List String} {keys : List (String × List UInt8)}
    (hentries : entries ≠ []) (hkeys : parseIpcKeys entries = .ok keys) : keys ≠ [] := by
  cases entries with
  | nil => exact absurd rfl hentries
  | cons entry entries =>
    rw [parseIpcKeys] at hkeys
    split at hkeys
    · cases hkeys
    split at hkeys
    · cases hkeys
    cases hkeys
    exact List.cons_ne_nil _ _

namespace IpcServer

/-- Accepted, by a key of an operator at least, in whose name the command is sent. -/
def Authorized (codec : Codec) (config : IpcConfig) (replay : ReplayStore) (delivery : Delivery)
    (cmd : EnforceCommand) : Prop :=
  ∃ keys envelope, parseIpcKeys config.authKeys = .ok keys ∧
    ((codec.authenticator keys).verifyFrameAuth delivery.io.clock delivery.line replay).1 =
      .ok (envelope.value, envelope.keyId) ∧
    (codec.authenticator keys).openFrame delivery.line = .ok envelope ∧
    (codec.authenticator keys).Signed envelope ∧
    KeyRole.operator.rank ≤ (config.roleOf envelope.keyId).rank ∧
    cmd.actor = envelope.keyId

variable {config : IpcConfig} {replay : ReplayStore} {delivery : Delivery}
variable {clock : Clock} {line : List UInt8} {principal : Option Principal}

lemma parseFrame_eq_ok {keys : List (String × List UInt8)} (hkeys : keys ≠ []) {request : Request}
    (hparse : (parseFrame codec config keys clock line replay).1 = .ok (request, principal)) :
    ∃ value keyId,
      ((codec.authenticator keys).verifyFrameAuth clock line replay).1 = .ok (value, keyId) ∧
        principal = some ⟨keyId, config.roleOf keyId⟩ := by
  rw [parseFrame, if_neg hkeys] at hparse
  generalize (codec.authenticator keys).verifyFrameAuth clock line replay = outcome at hparse ⊢
  obtain ⟨result, next⟩ := outcome
  cases result with
  | error reason => cases hparse
  | ok accepted =>
    obtain ⟨value, keyId⟩ := accepted
    dsimp only at hparse
    split at hparse
    · cases hparse
    cases hparse
    exact ⟨value, keyId, rfl, rfl⟩

lemma handleFrame_sends {cmd : EnforceCommand}
    (hsent : (handleFrame codec config replay delivery).2.1 = some cmd) :
    ∃ keys request principal, parseIpcKeys config.authKeys = .ok keys ∧
      (parseFrame codec config keys delivery.io.clock delivery.line replay).1 =
        .ok (request, principal) ∧
      (processRequest codec config delivery.io request principal).2 = some cmd := by
  rw [handleFrame] at hsent
  cases hkeys : parseIpcKeys config.authKeys with
  | error reason =>
    rw [hkeys] at hsent
    cases hsent
  | ok keys =>
    rw [hkeys] at hsent
    dsimp only at hsent
    refine ⟨keys, ?_⟩
    generalize parseFrame codec config keys delivery.io.clock delivery.line replay = outcome
      at hsent ⊢
    obtain ⟨result, next⟩ := outcome
    cases result with
    | error response => cases hsent
    | ok parsed => exact ⟨parsed.1, parsed.2, rfl, rfl, hsent⟩

lemma authorized_of_sends (hkeys : config.authKeys ≠ []) {cmd : EnforceCommand}
    (hsent : (handleFrame codec config replay delivery).2.1 = some cmd) :
    Authorized codec config replay delivery cmd := by
  obtain ⟨keys, request, principal, hparsed, hframe, hprocess⟩ := handleFrame_sends hsent
  obtain ⟨value, keyId, hok, rfl⟩ := parseFrame_eq_ok (parseIpcKeys_ne_nil hkeys hparsed) hframe
  obtain ⟨hrole, hactor⟩ := processRequest_sends hprocess
  obtain ⟨envelope, code, hopen, haccepted, -, hcode, hsig, -⟩ := Authenticator.of_ok hok
  obtain ⟨rfl, rfl⟩ := Prod.mk.inj haccepted
  exact ⟨keys, envelope, hparsed, hok, hopen, ⟨code, hcode, hsig⟩, hrole, hactor⟩

lemma sends_nothing (hkeys : config.authKeys = []) (hrequire : config.requireAuthForMutations) :
    (handleFrame codec config replay delivery).2.1 = none := by
  rw [Option.eq_none_iff_forall_ne_some]
  intro cmd hsent
  obtain ⟨keys, request, principal, hparsed, hframe, hprocess⟩ := handleFrame_sends hsent
  rw [hkeys, parseIpcKeys] at hparsed
  cases hparsed
  rw [parseFrame, if_pos rfl] at hframe
  split at hframe
  · cases hframe
  cases hframe
  rw [processRequest_none hrequire] at hprocess
  cases hprocess

lemma step_sent (codec : Codec) (config : IpcConfig) (server : IpcServer) (delivery : Delivery) :
    (step codec config server delivery).sent =
      server.sent ++ (handleFrame codec config server.replay delivery).2.1.toList := rfl

/-- In every state that the server reaches, a frame that sends a command is authorized;
without keys, while mutations require a principal, nothing is ever sent. -/
theorem sent_authorized (codec : Codec) (config : IpcConfig) (keyHasher : String → UInt64)
    (before : List Delivery) (delivery : Delivery) :
    (config.authKeys ≠ [] →
      (step codec config (run (step codec config) (start keyHasher) before) delivery).sent =
          (run (step codec config) (start keyHasher) before).sent ∨
        ∃ cmd,
          (step codec config (run (step codec config) (start keyHasher) before) delivery).sent =
            (run (step codec config) (start keyHasher) before).sent ++ [cmd] ∧
          Authorized codec config (run (step codec config) (start keyHasher) before).replay
            delivery cmd) ∧
      (config.authKeys = [] → config.requireAuthForMutations = true →
        (run (step codec config) (start keyHasher) (before ++ [delivery])).sent = []) := by
  constructor
  · intro hkeys
    generalize run (step codec config) (start keyHasher) before = server
    cases hsent : (handleFrame codec config server.replay delivery).2.1 with
    | none => exact .inl (by rw [step_sent, hsent, Option.toList_none, List.append_nil])
    | some cmd =>
      exact .inr ⟨cmd, by rw [step_sent, hsent, Option.toList_some],
        authorized_of_sends hkeys hsent⟩
  · intro hkeys hrequire
    have hstep : ∀ (server : IpcServer) (delivery : Delivery), server.sent = [] →
        (step codec config server delivery).sent = [] := by
      intro server delivery hnothing
      rw [step_sent, sends_nothing hkeys hrequire, hnothing]
      rfl
    exact run_invariant hstep rfl _

def unblockHost (host : Nat) : Except String Request :=
  .ok (.unblockIp (String.singleton (Char.ofNat host)))

/-- For examples: the request is a byte, which stands for the address to release. -/
def unblocking : Codec where
  hmac := Authenticator.summing.hmac
  fromSlice := Authenticator.summing.fromSlice
  toVec := Authenticator.summing.toVec
  requestFromSlice
    | [_, _, host] => unblockHost host.toNat
    | _ => .error "not a request"
  requestFromValue
    | .object [("request", .array [.u64 host])] => unblockHost host
    | _ => .error "not a request"
  parseIp text := (textBytes text).head?.map fun host => .v4 (BitVec.ofNat 32 host.toNat)
  showIp
    | .v4 host => String.singleton (Char.ofNat host.toNat)
    | .v6 _ => "v6"
  parseCidr _ := .error "not a network"
  showCidr _ := "network"

def oneOperator : IpcConfig where
  authKeys := ["k1:00112233445566778899aabbccddeeff"]
  keyRoles := [("k1", .operator)]
  requireAuthForMutations := true

def signedFrame (connection secs : Nat) (host : UInt8) : Delivery where
  connection := connection
  io := ⟨⟨secs * secNs, secs * secNs⟩, 1, true, fun _ => .ok "" none⟩
  line :=
    let key := (List.range 16).map fun byte => UInt8.ofNat (17 * byte)
    Authenticator.signedLine key 0 [host]

/-- Behind a frame and its replay. -/
theorem sent_authorized_unblocking :
    let before := [signedFrame 0 0 65, signedFrame 1 1 65]
    let server := run (step unblocking oneOperator) (start fun _ => 0) before
    (∃ cmd,
        (step unblocking oneOperator server (signedFrame 1 2 66)).sent = server.sent ++ [cmd] ∧
          Authorized unblocking oneOperator server.replay (signedFrame 1 2 66) cmd) ∧
      (run (step unblocking ⟨[], [], true⟩) (start fun _ => 0)
        (before ++ [signedFrame 1 2 66])).sent = [] := by
  intro before server
  constructor
  · refine ((sent_authorized unblocking oneOperator (fun _ => 0) before (signedFrame 1 2 66)).1
      (by decide)).resolve_left ?_
    decide +kernel
  · exact (sent_authorized unblocking ⟨[], [], true⟩ (fun _ => 0) before
      (signedFrame 1 2 66)).2 rfl rfl

end IpcServer

end RamShield

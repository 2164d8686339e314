import RamShield.Foundation.Run
import RamShield.Types.Basic

/-! # Authenticated frames

The envelope of an IPC frame, its message authentication code and the store of
seen codes. The code itself is a parameter, and so is the JSON codec: nothing is
known of either but that it is a function. A frame is fresh for the clock skew on
either side of its timestamp, and a marker of an accepted frame outlives that
window, so no frame is accepted twice.
-/

namespace RamShield

open Foundation Foundation.Machine List

/-! ## Seen codes -/

structure NonceKey where
  keyIdHash : UInt64
  nonce : List UInt8
  deriving DecidableEq

/-- `ReplayStore`: capacities, the life of a marker in ns, and the markers by arrival. -/
structure ReplayStore where
  cap : Nat
  perKeyCap : Nat
  ttl : Nat
  keyHasher : String → UInt64
  order : List NonceKey
  map : Table NonceKey Instant

namespace ReplayStore

def withPerKeyCap (capacity perKeyCap ttl : Nat) (keyHasher : String → UInt64) : ReplayStore where
  cap := max capacity 1
  perKeyCap := min (max perKeyCap 1) (max capacity 1)
  ttl := ttl
  keyHasher := keyHasher
  order := []
  map := ∅

def server (keyHasher : String → UInt64) : ReplayStore :=
  withPerKeyCap 1024 256 (65 * secNs) keyHasher

def sweep (ttl : Nat) (now : Instant) :
    List NonceKey → Table NonceKey Instant → List NonceKey × Table NonceKey Instant
  | [], map => ([], map)
  | key :: order, map =>
    match map.lookup key with
    | some stamp =>
      if ttl ≤ now - stamp then sweep ttl now order (map.erase key) else (key :: order, map)
    | none => (key :: order, map)

/-- `ReplayStore::check_and_record`. Nothing panics under its lock, so it is not poisoned. -/
def checkAndRecord (store : ReplayStore) (now : Instant) (keyId : String) (nonce : List UInt8) :
    Except String Unit × ReplayStore :=
  let key : NonceKey := ⟨store.keyHasher keyId, nonce⟩
  let (order, map) := sweep store.ttl now store.order store.map
  let store := { store with order := order, map := map }
  if (map.lookup key).any fun stamp => now - stamp < store.ttl then (.error "replay", store)
  else
    let ownKeyCount := (order.filter fun other => other.keyIdHash = key.keyIdHash).length
    if store.cap ≤ map.keys.card ∨ store.perKeyCap ≤ ownKeyCount then (.error "capacity", store)
    else (.ok (), { store with order := order ++ [key], map := map.insert key now })

def Marked (store : ReplayStore) (key : NonceKey) (stamp : Instant) : Prop :=
  store.map.lookup key = some stamp

variable {now : Instant}
variable {store : ReplayStore} {key : NonceKey} {stamp : Instant}

/-- A sweep leaves a marker that is not expired. -/
lemma lookup_sweep {ttl : Nat} (hlive : now - stamp < ttl) {order : List NonceKey}
    {map : Table NonceKey Instant} (hmarked : map.lookup key = some stamp) :
    (sweep ttl now order map).2.lookup key = some stamp := by
  induction order generalizing map with
  | nil => exact hmarked
  | cons head order ih =>
    unfold sweep
    split
    next found hfound =>
      split
      next hexpired =>
        apply ih
        have hother : key ≠ head := by
          rintro rfl
          obtain rfl : stamp = found := Option.some.inj (hmarked.symm.trans hfound)
          exact Nat.not_le.mpr hlive hexpired
        rw [Table.lookup_erase_eq, if_neg hother]
        exact hmarked
      · exact hmarked
    · exact hmarked

/-- While a marker is live, its code is refused. -/
lemma checkAndRecord_marked (hmarked : store.Marked key stamp) (hlive : now - stamp < store.ttl)
    (keyId : String) (nonce : List UInt8) :
    (store.checkAndRecord now keyId nonce).2.Marked key stamp ∧
      (key = ⟨store.keyHasher keyId, nonce⟩ →
        (store.checkAndRecord now keyId nonce).1 = .error "replay") := by
  have hswept : (sweep store.ttl now store.order store.map).2.lookup key = some stamp :=
    lookup_sweep hlive hmarked
  unfold checkAndRecord
  generalize sweep store.ttl now store.order store.map = swept at hswept ⊢
  obtain ⟨order, map⟩ := swept
  dsimp only at hswept ⊢
  split
  · exact ⟨hswept, fun _ => rfl⟩
  next hfresh =>
    have hother : key ≠ ⟨store.keyHasher keyId, nonce⟩ := by
      rintro rfl
      rw [hswept] at hfresh
      simp [hlive] at hfresh
    split
    · exact ⟨hswept, fun heq => absurd heq hother⟩
    refine ⟨?_, fun heq => absurd heq hother⟩
    change (map.insert _ now).lookup key = some stamp
    rw [Table.lookup_insert_eq, if_neg hother]
    exact hswept

lemma marked_of_ok {keyId : String} {nonce : List UInt8}
    (hok : (store.checkAndRecord now keyId nonce).1 = .ok ()) :
    (store.checkAndRecord now keyId nonce).2.Marked ⟨store.keyHasher keyId, nonce⟩ now := by
  unfold checkAndRecord at hok ⊢
  dsimp only at hok ⊢
  split at hok
  · cases hok
  next hfresh =>
    split at hok
    · cases hok
    next hroom =>
      rw [if_neg hfresh, if_neg hroom]
      exact Finmap.lookup_insert _

/-- The limits and the hasher never change. -/
lemma checkAndRecord_frame (store : ReplayStore) (now : Instant) (keyId : String)
    (nonce : List UInt8) :
    (store.checkAndRecord now keyId nonce).2.ttl = store.ttl ∧
      (store.checkAndRecord now keyId nonce).2.keyHasher = store.keyHasher := by
  unfold checkAndRecord
  dsimp only
  split
  · exact ⟨rfl, rfl⟩
  split
  · exact ⟨rfl, rfl⟩
  · exact ⟨rfl, rfl⟩

end ReplayStore

/-! ## Codes -/

def Authenticator.maxClockSkewMs : Nat := 10000

def absDiff (left right : Nat) : Nat := (left - right) + (right - left)

def textBytes (text : String) : List UInt8 := text.toUTF8.toList

def hexDigit (byte : UInt8) : Option UInt8 :=
  if 0x30 ≤ byte ∧ byte ≤ 0x39 then some (byte - 0x30)
  else if 0x61 ≤ byte ∧ byte ≤ 0x66 then some (byte - 0x61 + 10)
  else if 0x41 ≤ byte ∧ byte ≤ 0x46 then some (byte - 0x41 + 10)
  else none

/-- `u8::from_str_radix` of two characters, which takes a plus sign for the first. -/
def hexPair (high low : UInt8) : Option UInt8 :=
  match (if high = 0x2b then some 0 else hexDigit high), hexDigit low with
  | some high, some low => some (high * 16 + low)
  | _, _ => none

def decodeHex : List UInt8 → Option (List UInt8)
  | [] => some []
  | [_] => none
  | high :: low :: rest =>
    match hexPair high low, decodeHex rest with
    | some byte, some bytes => some (byte :: bytes)
    | _, _ => none

def codeDiff (got expected : List UInt8) : UInt8 :=
  (got.zip expected).foldl (fun diff pair => diff ||| (pair.1 ^^^ pair.2)) 0

/-- What is fed to the code: the timestamp, a dot, the key id and the payload. -/
def macInput (tsMs : Nat) (keyId : String) (payload : List UInt8) : List UInt8 :=
  textBytes (toString tsMs) ++ [0x2e] ++ textBytes keyId ++ payload

inductive Json
  | null
  | bool (value : Bool)
  | u64 (value : Nat)
  | number (text : String)
  | string (text : String)
  | array (items : List Json)
  | object (fields : List (String × Json))

/-- What authentication depends on: the code, the JSON codec and the configured
keys. -/
structure Authenticator where
  hmac : List UInt8 → List UInt8 → List UInt8
  fromSlice : List UInt8 → Option Json
  toVec : Json → Option (List UInt8)
  keys : List (String × List UInt8)

structure Envelope where
  value : Json
  keyId : String
  tsMs : Nat
  sig : String
  payload : List UInt8

namespace Authenticator

variable (auth : Authenticator)

def authenticate (nowMs : Nat) (keyId : String) (tsMs : Nat) (sigHex : String)
    (payload : List UInt8) : Except String (List UInt8) :=
  if maxClockSkewMs < absDiff tsMs nowMs then .error "timestamp outside allowed skew window"
  else
    match auth.keys.find? fun entry => entry.1 = keyId with
    | none => .error "unknown key_id"
    | some (_, key) =>
      let expected := auth.hmac key (macInput tsMs keyId payload)
      match decodeHex (textBytes sigHex) with
      | none => .error "malformed signature"
      | some got =>
        if got.length ≠ expected.length then .error "signature length mismatch"
        else if codeDiff got expected ≠ 0 then .error "signature mismatch"
        else .ok expected

def verify (clock : Clock) (keyId : String) (tsMs : Nat) (sigHex : String) (payload : List UInt8)
    (store : ReplayStore) : Except String Unit × ReplayStore :=
  match auth.authenticate clock.wallMs keyId tsMs sigHex payload with
  | .error reason => (.error reason, store)
  | .ok expected => store.checkAndRecord clock.mono keyId expected

/-- The part of `verify_frame_auth` that takes the frame apart. -/
def openFrame (line : List UInt8) : Except String Envelope :=
  match auth.fromSlice line with
  | none => .error "frame is not valid JSON"
  | some (.object fields) =>
    match fields.lookup "auth" with
    | none => .error "missing auth object"
    | some (.object envelope) =>
      match envelope.lookup "key_id" with
      | some (.string keyId) =>
        match envelope.lookup "ts_ms" with
        | some (.u64 tsMs) =>
          match envelope.lookup "sig" with
          | some (.string sig) =>
            let value : Json := .object (fields.filter fun field => field.1 != "auth")
            match auth.toVec value with
            | none => .error "reserialize failed"
            | some payload => .ok ⟨value, keyId, tsMs, sig, payload⟩
          | _ => .error "auth.sig missing"
        | _ => .error "auth.ts_ms missing"
      | _ => .error "auth.key_id missing"
    | some _ => .error "auth is not an object"
  | some _ => .error "frame is not an object"

/-- `verify_frame_auth`: the frame without its envelope, and the key that signed it. -/
def verifyFrameAuth (clock : Clock) (line : List UInt8) (store : ReplayStore) :
    Except String (Json × String) × ReplayStore :=
  match auth.openFrame line with
  | .error reason => (.error reason, store)
  | .ok envelope =>
    match auth.verify clock envelope.keyId envelope.tsMs envelope.sig envelope.payload store with
    | (.error reason, store) => (.error reason, store)
    | (.ok (), store) => (.ok (envelope.value, envelope.keyId), store)

end Authenticator

/-! ## Comparing codes -/

lemma foldl_or_eq_zero {pairs : List (UInt8 × UInt8)} {diff : UInt8} :
    pairs.foldl (fun diff pair => diff ||| (pair.1 ^^^ pair.2)) diff = 0 ↔
      diff = 0 ∧ ∀ pair ∈ pairs, pair.1 = pair.2 := by
  induction pairs generalizing diff with
  | nil => simp
  | cons pair pairs ih =>
    rw [foldl_cons, ih, forall_mem_cons, UInt8.or_eq_zero_iff, UInt8.xor_eq_zero_iff, and_assoc]

/-- The comparison in constant time is equality. -/
lemma codeDiff_eq_zero {got expected : List UInt8} (hlength : got.length = expected.length) :
    codeDiff got expected = 0 ↔ got = expected := by
  unfold codeDiff
  rw [foldl_or_eq_zero, ← List.forall₂_eq_eq_eq, List.forall₂_iff_zip]
  constructor
  · rintro ⟨_, hpairs⟩
    exact ⟨hlength, fun {left right} hmem => hpairs (left, right) hmem⟩
  · rintro ⟨_, hpairs⟩
    exact ⟨rfl, fun pair hmem => hpairs hmem⟩

namespace Authenticator

lemma compare_eq_ok {got expected code : List UInt8} :
    (if got.length ≠ expected.length then .error "signature length mismatch"
      else if codeDiff got expected ≠ 0 then .error "signature mismatch"
      else .ok expected : Except String (List UInt8)) = .ok code ↔
      got = code ∧ code = expected := by
  split
  next hlength =>
    constructor
    · intro hok
      cases hok
    · rintro ⟨rfl, rfl⟩
      exact absurd rfl hlength
  next hlength =>
    have hdiff := codeDiff_eq_zero (not_not.mp hlength)
    split
    next hdiffers =>
      constructor
      · intro hok
        cases hok
      · rintro ⟨rfl, rfl⟩
        exact absurd (hdiff.mpr rfl) hdiffers
    next hsame =>
      obtain rfl := hdiff.mp (not_not.mp hsame)
      rw [Except.ok.injEq]
      constructor
      · rintro rfl
        exact ⟨rfl, rfl⟩
      · rintro ⟨rfl, -⟩
        rfl

def code (auth : Authenticator) (keyId : String) (tsMs : Nat) (payload : List UInt8) :
    Option (List UInt8) :=
  (auth.keys.find? fun entry => entry.1 = keyId).map fun entry =>
    auth.hmac entry.2 (macInput tsMs keyId payload)

variable {auth : Authenticator} {store : ReplayStore}

lemma authenticate_eq_ok {nowMs tsMs : Nat} {keyId sigHex : String} {payload code : List UInt8} :
    auth.authenticate nowMs keyId tsMs sigHex payload = .ok code ↔
      absDiff tsMs nowMs ≤ maxClockSkewMs ∧ auth.code keyId tsMs payload = some code ∧
        decodeHex (textBytes sigHex) = some code := by
  unfold authenticate Authenticator.code
  split
  next hstale =>
    constructor
    · intro hok
      cases hok
    · rintro ⟨hfresh, -⟩
      omega
  next hfresh =>
    split
    next hunknown => simp [hunknown]
    next keyId' key hkey =>
      rw [hkey]
      dsimp only
      split
      next hmalformed => simp [hmalformed]
      next got hgot =>
        rw [compare_eq_ok, hgot]
        simp [Nat.not_lt.mp hfresh, and_comm, eq_comm]

lemma verifyFrameAuth_cases (auth : Authenticator) (clock : Clock) (line : List UInt8)
    (store : ReplayStore) :
    (∃ reason, auth.verifyFrameAuth clock line store = (.error reason, store)) ∨
      ∃ envelope code, auth.openFrame line = .ok envelope ∧
        auth.authenticate clock.wallMs envelope.keyId envelope.tsMs envelope.sig
          envelope.payload = .ok code ∧
        auth.verifyFrameAuth clock line store =
          ((store.checkAndRecord clock.mono envelope.keyId code).1.map
              fun _ => (envelope.value, envelope.keyId),
            (store.checkAndRecord clock.mono envelope.keyId code).2) := by
  rw [verifyFrameAuth]
  cases hopen : auth.openFrame line with
  | error reason => exact .inl ⟨reason, rfl⟩
  | ok envelope =>
    dsimp only
    rw [verify]
    cases hauth : auth.authenticate clock.wallMs envelope.keyId envelope.tsMs envelope.sig
        envelope.payload with
    | error reason => exact .inl ⟨reason, rfl⟩
    | ok code =>
      refine .inr ⟨envelope, code, rfl, hauth, ?_⟩
      dsimp only
      generalize store.checkAndRecord clock.mono envelope.keyId code = outcome
      obtain ⟨result, next⟩ := outcome
      cases result <;> rfl

/-- The signature is the code that one of the keys gives timestamp and payload. -/
def Signed (auth : Authenticator) (envelope : Envelope) : Prop :=
  ∃ code, auth.code envelope.keyId envelope.tsMs envelope.payload = some code ∧
    decodeHex (textBytes envelope.sig) = some code

lemma of_ok {clock : Clock} {line : List UInt8} {accepted : Json × String}
    (hok : (auth.verifyFrameAuth clock line store).1 = .ok accepted) :
    ∃ envelope code, auth.openFrame line = .ok envelope ∧
      accepted = (envelope.value, envelope.keyId) ∧
      absDiff envelope.tsMs clock.wallMs ≤ maxClockSkewMs ∧
      auth.code envelope.keyId envelope.tsMs envelope.payload = some code ∧
      decodeHex (textBytes envelope.sig) = some code ∧
      (store.checkAndRecord clock.mono envelope.keyId code).1 = .ok () ∧
      (auth.verifyFrameAuth clock line store).2 =
        (store.checkAndRecord clock.mono envelope.keyId code).2 := by
  rcases auth.verifyFrameAuth_cases clock line store with
    ⟨reason, hrefused⟩ | ⟨envelope, code, hopen, hauth, hresult⟩
  · rw [hrefused] at hok
    cases hok
  · obtain ⟨hfresh, hcode, hsig⟩ := authenticate_eq_ok.mp hauth
    rw [hresult] at hok ⊢
    refine ⟨envelope, code, hopen, ?_, hfresh, hcode, hsig, ?_, rfl⟩
    all_goals
      generalize store.checkAndRecord clock.mono envelope.keyId code = outcome at hok ⊢
      obtain ⟨result, next⟩ := outcome
      cases result with
      | error reason => cases hok
      | ok accepted => cases hok; rfl

/-! ## Sequences of frames -/

/-- A frame as the server takes it from a connection. -/
structure Frame where
  clock : Clock
  line : List UInt8

def message (auth : Authenticator) (frame : Frame) : Option (String × Nat × List UInt8) :=
  match auth.openFrame frame.line with
  | .error _ => none
  | .ok envelope => some (envelope.keyId, envelope.tsMs, envelope.payload)

def accepts (auth : Authenticator) (store : ReplayStore) (frame : Frame) : Bool :=
  (auth.verifyFrameAuth frame.clock frame.line store).1.isOk

def step (auth : Authenticator) (store : ReplayStore) (frame : Frame) : ReplayStore :=
  (auth.verifyFrameAuth frame.clock frame.line store).2

lemma of_accepts {frame : Frame} (haccepts : auth.accepts store frame) :
    ∃ keyId tsMs payload code, auth.message frame = some (keyId, tsMs, payload) ∧
      absDiff tsMs frame.clock.wallMs ≤ maxClockSkewMs ∧
      auth.code keyId tsMs payload = some code ∧
      (store.checkAndRecord frame.clock.mono keyId code).1 = .ok () ∧
      auth.step store frame = (store.checkAndRecord frame.clock.mono keyId code).2 := by
  obtain ⟨accepted, hok⟩ :
      ∃ accepted, (auth.verifyFrameAuth frame.clock frame.line store).1 = .ok accepted := by
    rw [accepts] at haccepts
    generalize (auth.verifyFrameAuth frame.clock frame.line store).1 = result at haccepts ⊢
    cases result with
    | error reason => cases haccepts
    | ok accepted => exact ⟨accepted, rfl⟩
  obtain ⟨envelope, code, hopen, -, hfresh, hcode, -, hrecord, hstep⟩ := of_ok hok
  refine ⟨envelope.keyId, envelope.tsMs, envelope.payload, code, ?_, hfresh, hcode, hrecord, hstep⟩
  rw [message, hopen]

section

variable (auth)

lemma step_cases (store : ReplayStore) (frame : Frame) :
    auth.step store frame = store ∨
      ∃ keyId code, auth.step store frame =
        (store.checkAndRecord frame.clock.mono keyId code).2 := by
  rw [step]
  rcases auth.verifyFrameAuth_cases frame.clock frame.line store with
    ⟨reason, hrefused⟩ | ⟨envelope, code, -, -, hresult⟩
  · exact .inl (by rw [hrefused])
  · exact .inr ⟨envelope.keyId, code, by rw [hresult]⟩

lemma step_frame (store : ReplayStore) (frame : Frame) :
    (auth.step store frame).ttl = store.ttl ∧
      (auth.step store frame).keyHasher = store.keyHasher := by
  rcases auth.step_cases store frame with hstep | ⟨keyId, code, hstep⟩
  · rw [hstep]
    exact ⟨rfl, rfl⟩
  · rw [hstep]
    exact store.checkAndRecord_frame _ _ _

lemma step_marked {frame : Frame} {key : NonceKey} {stamp : Instant}
    (hmarked : store.Marked key stamp) (hlive : frame.clock.mono - stamp < store.ttl) :
    (auth.step store frame).Marked key stamp := by
  rcases auth.step_cases store frame with hstep | ⟨keyId, code, hstep⟩
  · rw [hstep]
    exact hmarked
  · rw [hstep]
    exact (ReplayStore.checkAndRecord_marked hmarked hlive _ _).1

lemma run_marked {key : NonceKey} {stamp : Instant} {frames : List Frame}
    (hmarked : store.Marked key stamp)
    (hlive : ∀ frame ∈ frames, frame.clock.mono - stamp < store.ttl) :
    (run auth.step store frames).Marked key stamp := by
  induction frames generalizing store with
  | nil => exact hmarked
  | cons frame frames ih =>
    rw [forall_mem_cons] at hlive
    apply ih (auth.step_marked hmarked hlive.1)
    rw [(auth.step_frame store frame).1]
    exact hlive.2

lemma run_frame (store : ReplayStore) (frames : List Frame) :
    (run auth.step store frames).ttl = store.ttl ∧
      (run auth.step store frames).keyHasher = store.keyHasher := by
  have hstep : ∀ (reached : ReplayStore) (frame : Frame),
      reached.ttl = store.ttl ∧ reached.keyHasher = store.keyHasher →
      (auth.step reached frame).ttl = store.ttl ∧
        (auth.step reached frame).keyHasher = store.keyHasher := by
    rintro reached frame ⟨httl, hhasher⟩
    rw [← httl, ← hhasher]
    exact auth.step_frame reached frame
  exact run_invariant hstep ⟨rfl, rfl⟩ frames

end

def InStep (frames : List Frame) : Prop :=
  frames.Pairwise fun earlier later =>
    earlier.clock.mono ≤ later.clock.mono ∧
      earlier.clock.wallNs + later.clock.mono = later.clock.wallNs + earlier.clock.mono

lemma fresh_within {tsMs : Nat} {earlier later : Clock}
    (hearlier : absDiff tsMs earlier.wallMs ≤ maxClockSkewMs)
    (hlater : absDiff tsMs later.wallMs ≤ maxClockSkewMs)
    (hstep : earlier.wallNs + later.mono = later.wallNs + earlier.mono) :
    later.mono - earlier.mono < 65 * secNs := by
  refine Nat.lt_of_not_le fun hlong => ?_
  simp only [absDiff, maxClockSkewMs, Clock.wallMs, msNs, secNs] at hearlier hlater hlong
  omega

/-- A message that was accepted is never accepted again. -/
theorem not_accepts_again (auth : Authenticator) (keyHasher : String → UInt64)
    (before between : List Frame) (first again : Frame)
    (hclocks : InStep (before ++ first :: between ++ [again]))
    (hsame : auth.message again = auth.message first)
    (hfirst : auth.accepts (run auth.step (.server keyHasher) before) first = true) :
    auth.accepts (run auth.step (.server keyHasher) (before ++ first :: between)) again =
      false := by
  rw [Bool.eq_false_iff]
  intro hagain
  rw [run_append, run_cons] at hagain
  generalize hstore : run auth.step (.server keyHasher) before = store at hfirst hagain
  obtain ⟨keyId, tsMs, payload, code, hmessage, hfresh, hcode, hok, hstep⟩ := of_accepts hfirst
  obtain ⟨keyId', tsMs', payload', code', hmessage', hfresh', hcode', hok', -⟩ := of_accepts hagain
  -- The second frame says the same, so it has the same code.
  rw [hsame, hmessage, Option.some.injEq, Prod.mk.injEq, Prod.mk.injEq] at hmessage'
  obtain ⟨rfl, rfl, rfl⟩ := hmessage'
  obtain rfl : code = code' := Option.some.inj (hcode.symm.trans hcode')
  -- The frames after the first one come while its marker lives.
  obtain ⟨hbetween, -, hlast⟩ := pairwise_append.mp hclocks
  obtain ⟨-, hafter, -⟩ := pairwise_append.mp hbetween
  have hwithin := fresh_within hfresh hfresh' (hlast first (by simp) again (by simp)).2
  obtain ⟨httl, hhasher⟩ : store.ttl = 65 * secNs ∧ store.keyHasher = keyHasher := by
    rw [← hstore]
    exact auth.run_frame _ before
  obtain ⟨httl', hhasher'⟩ := auth.step_frame store first
  have hlive : ∀ frame ∈ between,
      frame.clock.mono - first.clock.mono < (auth.step store first).ttl := by
    intro frame hmem
    rw [httl', httl]
    have hearlier := (hlast frame (by simp [hmem]) again (by simp)).1
    exact Nat.lt_of_le_of_lt (Nat.sub_le_sub_right hearlier _) hwithin
  have hmarked := auth.run_marked (hstep ▸ ReplayStore.marked_of_ok hok) hlive
  obtain ⟨httl'', hhasher''⟩ := auth.run_frame (auth.step store first) between
  have hreplay := (ReplayStore.checkAndRecord_marked hmarked
    (by rw [httl'', httl', httl]; exact hwithin) keyId code).2 (by rw [hhasher'', hhasher'])
  rw [hreplay] at hok'
  cases hok'

/-- For examples: signature, timestamp and request, with blanks anywhere; the code sums bytes. -/
def summing : Authenticator where
  hmac key message := [(key ++ message).foldl (· + ·) 0]
  fromSlice line :=
    match line.filter (· != 0x20) with
    | sig :: tsMs :: request =>
      let sigHex := [Nat.digitChar (sig.toNat / 16), Nat.digitChar (sig.toNat % 16)]
      some (.object [("request", .array (request.map fun byte => .u64 byte.toNat)),
        ("auth", .object [("key_id", .string "k1"), ("ts_ms", .u64 tsMs.toNat),
          ("sig", .string (String.ofList sigHex))])])
    | _ => none
  toVec
    | .object [("request", .array items)] =>
      some (items.map fun
        | .u64 value => UInt8.ofNat value
        | _ => 0)
    | _ => none
  keys := [("k1", [3, 1])]

def signedLine (key : List UInt8) (tsMs : UInt8) (request : List UInt8) : List UInt8 :=
  summing.hmac key (macInput tsMs.toNat "k1" request) ++ tsMs :: request

/-- Between two others, and again with a blank in front. -/
theorem not_accepts_again_blank :
    let frame (secs : Nat) (request : List UInt8) : Frame :=
      ⟨⟨secs * secNs, secs * secNs⟩, signedLine [3, 1] 0 request⟩
    let again : Frame := ⟨⟨3 * secNs, 3 * secNs⟩, 0x20 :: signedLine [3, 1] 0 [8]⟩
    summing.accepts (run summing.step (.server fun _ => 0) [frame 0 [7]]) (frame 1 [8]) = true ∧
      summing.accepts (run summing.step (.server fun _ => 0)
        ([frame 0 [7]] ++ frame 1 [8] :: [frame 2 [9]])) again = false := by
  intro frame again
  have hfirst : summing.accepts (run summing.step (.server fun _ => 0) [frame 0 [7]])
      (frame 1 [8]) = true := by decide +kernel
  exact ⟨hfirst, summing.not_accepts_again (fun _ => 0) [frame 0 [7]] [frame 2 [9]] (frame 1 [8])
    again (by simp [InStep, frame, again, secNs]) (by decide +kernel) hfirst⟩

end Authenticator

end RamShield

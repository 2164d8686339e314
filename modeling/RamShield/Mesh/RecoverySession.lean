import RamShield.Mesh.Replica
import RamShield.Mesh.Snapshot

/-! # The receiving side of a recovery

A receiver keeps one assembly per sender. Frames fill its slots, in any order and
with repetitions, once their deltas are in the blocklist; a frame of a newer
generation starts over. The completion of the sender is answered with a proof
when all slots are filled and the digest fits. The proof is sound: it stands for
frames that were all accepted, each with one payload, and the table of assemblies
stays within its bounds.
-/

namespace RamShield

open Foundation Foundation.Machine List Table

def maxRecoveryTotalEntries : Nat := 65536

def maxRecoveryTotalFrames : Nat := 8192

def maxConfiguredPeers : Nat := 256

/-- What frames, completion, assembly and proof of a recovery share. -/
structure RecoveryIdentity where
  generation : Nat
  recoveryId : Uuid
  boundaryLsn : Nat
  snapshotDigest : String
  frameCount : Nat
  deriving DecidableEq

abbrev RecoveryProof := RecoveryIdentity

/-- `RecoveryWireMessage::Frame`. -/
structure RecoveryFrame where
  identity : RecoveryIdentity
  frameIndex : Nat
  payload : RecoveryFramePayload
  deriving DecidableEq

/-- `ReceivedRecovery`, where a frame comes with the deltas of its message. -/
inductive ReceivedRecovery
  | frame (frame : RecoveryFrame)
  | complete (identity : RecoveryIdentity)
  deriving DecidableEq

def ReceivedRecovery.wire : ReceivedRecovery → WireMessage
  | .frame sent => .recovery (.frame sent.identity.generation sent.identity.recoveryId
      sent.identity.snapshotDigest sent.frameIndex sent.identity.frameCount
      sent.payload.blocks sent.payload.unblocks)
  | .complete identity => .recovery (.complete identity.generation identity.recoveryId
      identity.snapshotDigest identity.frameCount)

structure RecoveryAssembly where
  identity : RecoveryIdentity
  frames : List (Option RecoveryFramePayload)
  entryCount : Nat
  completedProof : Option RecoveryProof
  deriving DecidableEq

abbrev RecoverySessions := Table Nat RecoveryAssembly

namespace RecoverySessions

variable (sessions : RecoverySessions)

def totalEntries : Nat := Table.total RecoveryAssembly.entryCount sessions

def totalFrames : Nat := Table.total (fun session => session.frames.length) sessions

def opened (frame : RecoveryFrame) : RecoveryAssembly where
  identity := frame.identity
  frames := (List.replicate frame.identity.frameCount none).set frame.frameIndex
    (some frame.payload)
  entryCount := frame.payload.entryCount
  completedProof := none

/-- The end of `record_recovery_frame`: a new assembly in place of the old one. -/
def openSession (sender : Nat) (frame : RecoveryFrame) : Bool × RecoverySessions :=
  let oldEntries := ((sessions.lookup sender).map RecoveryAssembly.entryCount).getD 0
  let oldFrames := ((sessions.lookup sender).map fun session => session.frames.length).getD 0
  if sessions.totalEntries - oldEntries + frame.payload.entryCount > maxRecoveryTotalEntries ∨
      sessions.totalFrames - oldFrames + frame.identity.frameCount > maxRecoveryTotalFrames then
    (false, sessions)
  else (true, sessions.insert sender (opened frame))

def fill (session : RecoveryAssembly) (frame : RecoveryFrame) : RecoveryAssembly :=
  { session with
    frames := session.frames.set frame.frameIndex (some frame.payload)
    entryCount := session.entryCount + frame.payload.entryCount }

/-- `record_recovery_frame`. An admitted frame has an index below its frame count. -/
def recordRecoveryFrame (sender : Nat) (frame : RecoveryFrame) : Bool × RecoverySessions :=
  match sessions.lookup sender with
  | some current =>
    if current.identity.generation = frame.identity.generation ∧
        current.identity.recoveryId = frame.identity.recoveryId then
      if current.identity.boundaryLsn ≠ frame.identity.boundaryLsn ∨
          current.identity.snapshotDigest ≠ frame.identity.snapshotDigest ∨
          current.identity.frameCount ≠ frame.identity.frameCount then (false, sessions)
      else
        match current.frames[frame.frameIndex]? with
        | none => (false, sessions)
        | some (some existing) => (decide (existing = frame.payload), sessions)
        | some none =>
          if current.entryCount + frame.payload.entryCount > maxRecoveryEntries ∨
              sessions.totalEntries + frame.payload.entryCount > maxRecoveryTotalEntries then
            (false, sessions)
          else (true, sessions.insert sender (fill current frame))
    else if frame.identity.generation ≤ current.identity.generation ∨
        frame.identity.boundaryLsn < current.identity.boundaryLsn ∨ frame.frameIndex ≠ 0 then
      (false, sessions)
    else sessions.openSession sender frame
  | none =>
    if frame.frameIndex ≠ 0 ∨ maxConfiguredPeers ≤ sessions.keys.card then (false, sessions)
    else sessions.openSession sender frame

def completeRecovery (digest : SnapshotDigest) (sessions : RecoverySessions) (sender : Nat)
    (identity : RecoveryIdentity) : Option RecoveryProof × RecoverySessions :=
  match sessions.lookup sender with
  | none => (none, sessions)
  | some session =>
    if session.identity ≠ identity then (none, sessions)
    else
      match session.completedProof with
      | some proof => (some proof, sessions)
      | none =>
        if session.frames.any Option.isNone then (none, sessions)
        else
          match (AworsetSnapshot.assemble (session.frames.filterMap id)).canonicalSnapshot with
          | .error _ => (none, sessions)
          | .ok snapshot =>
            match digest.canonicalSnapshotDigest snapshot with
            | .error _ => (none, sessions)
            | .ok text =>
              if text ≠ identity.snapshotDigest then (none, sessions)
              else (some { identity with snapshotDigest := text },
                sessions.insert sender { session with
                  completedProof := some { identity with snapshotDigest := text } })

end RecoverySessions

def AworsetBlocklist.crdtApplied (blocklist : AworsetBlocklist) (nowMs : Nat)
    (payload : RecoveryFramePayload) : Bool :=
  (payload.blocks.all fun delta =>
    decide (delta.expiresAtMs ≤ nowMs) || !blocklist.needsMergeDelta delta) &&
    payload.unblocks.all fun delta => !blocklist.needsMergeUnblock delta

structure AckResponse where
  accepted : Bool
  ackLsn : Option Nat
  recoveryProof : Option RecoveryProof
  deriving DecidableEq

/-- `acknowledge_with_lsn`, for a message without recovery part, a frame or a
completion. -/
def acknowledgeWithLsn (digest : SnapshotDigest) (sessions : RecoverySessions)
    (blocklist : AworsetBlocklist) (nowMs sender : Nat) (recovery : Option ReceivedRecovery)
    (accepted : Bool) (ackLsn : Option Nat) : AckResponse × RecoverySessions :=
  let respond (accepted : Bool) (proof : Option RecoveryProof) (sessions : RecoverySessions) :=
    ({ accepted := accepted
       ackLsn := if accepted then ackLsn else none
       recoveryProof := if accepted then proof else none : AckResponse }, sessions)
  match recovery, accepted with
  | some (.frame frame), true =>
    if blocklist.crdtApplied nowMs frame.payload then
      let (recorded, sessions) := sessions.recordRecoveryFrame sender frame
      respond recorded none sessions
    else respond false none sessions
  | some (.complete identity), true =>
    let (proof, sessions) := sessions.completeRecovery digest sender identity
    respond proof.isSome proof sessions
  | _, _ => respond accepted none sessions

namespace RecoverySessions

/-! ## What a frame can do -/

inductive Recorded (sessions : RecoverySessions) (sender : Nat) (frame : RecoveryFrame) :
    Bool → RecoverySessions → Prop
  | refused : Recorded sessions sender frame false sessions
  | repeated {current : RecoveryAssembly} (hcurrent : sessions.lookup sender = some current)
      (hidentity : current.identity = frame.identity)
      (hslot : current.frames[frame.frameIndex]? = some (some frame.payload)) :
      Recorded sessions sender frame true sessions
  | filled {current : RecoveryAssembly} (hcurrent : sessions.lookup sender = some current)
      (hidentity : current.identity = frame.identity)
      (hslot : current.frames[frame.frameIndex]? = some none)
      (hentries : current.entryCount + frame.payload.entryCount ≤ maxRecoveryEntries)
      (htotal : sessions.totalEntries + frame.payload.entryCount ≤ maxRecoveryTotalEntries) :
      Recorded sessions sender frame true (sessions.insert sender (fill current frame))
  | opened (hindex : frame.frameIndex = 0)
      (hnewer : ∀ current, sessions.lookup sender = some current →
        current.identity.generation < frame.identity.generation ∧
          current.identity.boundaryLsn ≤ frame.identity.boundaryLsn)
      (hentries : sessions.totalEntries -
        ((sessions.lookup sender).map RecoveryAssembly.entryCount).getD 0 +
          frame.payload.entryCount ≤ maxRecoveryTotalEntries)
      (hframes : sessions.totalFrames -
        ((sessions.lookup sender).map fun session => session.frames.length).getD 0 +
          frame.identity.frameCount ≤ maxRecoveryTotalFrames) :
      Recorded sessions sender frame true (sessions.insert sender (opened frame))

variable {sessions : RecoverySessions} {sender : Nat}

lemma openSession_recorded {frame : RecoveryFrame} (hindex : frame.frameIndex = 0)
    (hnewer : ∀ current, sessions.lookup sender = some current →
      current.identity.generation < frame.identity.generation ∧
        current.identity.boundaryLsn ≤ frame.identity.boundaryLsn) :
    Recorded sessions sender frame (sessions.openSession sender frame).1
      (sessions.openSession sender frame).2 := by
  unfold openSession
  dsimp only
  split
  · exact .refused
  next hroom =>
    rw [not_or, not_lt, not_lt] at hroom
    exact .opened hindex hnewer hroom.1 hroom.2

lemma recordRecoveryFrame_recorded (sessions : RecoverySessions) (sender : Nat)
    (frame : RecoveryFrame) :
    Recorded sessions sender frame (sessions.recordRecoveryFrame sender frame).1
      (sessions.recordRecoveryFrame sender frame).2 := by
  unfold recordRecoveryFrame
  split
  next current hcurrent =>
    split
    next hsame =>
      split
      · exact .refused
      next hrest =>
        -- Incarnation and generation agree already, and the three tests compare the other fields.
        have hidentity : current.identity = frame.identity := by
          obtain ⟨hboundary, hdigest, hcount⟩ := by simpa only [not_or, ne_eq, not_not] using hrest
          generalize current.identity = left at *
          generalize frame.identity = right at *
          cases left
          cases right
          simp_all
        split
        · exact .refused
        next existing hslot =>
          by_cases hequal : existing = frame.payload
          · rw [decide_eq_true hequal]
            exact .repeated hcurrent hidentity (hequal ▸ hslot)
          · rw [decide_eq_false hequal]
            exact .refused
        next hslot =>
          split
          · exact .refused
          next hroom =>
            rw [not_or, not_lt, not_lt] at hroom
            exact .filled hcurrent hidentity hslot hroom.1 hroom.2
    · split
      · exact .refused
      next hnewer =>
        simp only [not_or, not_le, not_lt, ne_eq, not_not] at hnewer
        refine openSession_recorded hnewer.2.2 fun other hother => ?_
        cases hcurrent.symm.trans hother
        exact ⟨hnewer.1, hnewer.2.1⟩
  next hvacant =>
    split
    · exact .refused
    next hroom =>
      simp only [not_or, ne_eq, not_not] at hroom
      refine openSession_recorded hroom.1 fun other hother => ?_
      cases hvacant.symm.trans hother

/-! ## What a completion can do -/

def Whole (digest : SnapshotDigest) (session : RecoveryAssembly) : Prop :=
  (∀ slot ∈ session.frames, slot ≠ none) ∧
    digest.canonicalSnapshotDigest (AworsetSnapshot.assemble (session.frames.filterMap id)) =
      .ok session.identity.snapshotDigest

inductive Completed (digest : SnapshotDigest) (sessions : RecoverySessions) (sender : Nat)
    (identity : RecoveryIdentity) : Option RecoveryProof → RecoverySessions → Prop
  | refused : Completed digest sessions sender identity none sessions
  | again {session : RecoveryAssembly} {proof : RecoveryProof}
      (hsession : sessions.lookup sender = some session)
      (hidentity : session.identity = identity)
      (hproof : session.completedProof = some proof) :
      Completed digest sessions sender identity (some proof) sessions
  | first {session : RecoveryAssembly} (hsession : sessions.lookup sender = some session)
      (hidentity : session.identity = identity) (hwhole : Whole digest session) :
      Completed digest sessions sender identity (some identity)
        (sessions.insert sender { session with completedProof := some identity })

lemma completeRecovery_completed (digest : SnapshotDigest) (sessions : RecoverySessions)
    (sender : Nat) (identity : RecoveryIdentity) :
    Completed digest sessions sender identity
      (sessions.completeRecovery digest sender identity).1
      (sessions.completeRecovery digest sender identity).2 := by
  unfold completeRecovery
  split
  · exact .refused
  next session hsession =>
    split
    · exact .refused
    next hidentity =>
      rw [ne_eq, not_not] at hidentity
      split
      next proof hproof => exact .again hsession hidentity hproof
      split
      · exact .refused
      next hfilled =>
        split
        · exact .refused
        next snapshot hsnapshot =>
          rw [AworsetSnapshot.digest_canonical
            (AworsetSnapshot.canonicalSnapshot_canonical hsnapshot)]
          dsimp only
          split
          · exact .refused
          next hdigest =>
            rw [ne_eq, not_not] at hdigest
            have hwhole : Whole digest session := by
              refine ⟨fun slot hslot hnone => hfilled ?_, ?_⟩
              · exact any_eq_true.mpr ⟨slot, hslot, by rw [hnone]; rfl⟩
              · rw [SnapshotDigest.canonicalSnapshotDigest, hsnapshot, hidentity, ← hdigest]
            rw [hdigest]
            exact .first hsession hidentity hwhole

lemma completeRecovery_isSome_iff {digest : SnapshotDigest} {identity : RecoveryIdentity} :
    (sessions.completeRecovery digest sender identity).1.isSome ↔
      ∃ session, sessions.lookup sender = some session ∧ session.identity = identity ∧
        (session.completedProof.isSome ∨ Whole digest session) := by
  constructor
  · intro hproved
    have hcompleted := completeRecovery_completed digest sessions sender identity
    generalize sessions.completeRecovery digest sender identity = outcome at hcompleted hproved
    obtain ⟨proof, next⟩ := outcome
    cases hcompleted with
    | refused => cases hproved
    | again hsession hidentity hproof =>
      exact ⟨_, hsession, hidentity, .inl (Option.isSome_iff_exists.mpr ⟨_, hproof⟩)⟩
    | first hsession hidentity hwhole => exact ⟨_, hsession, hidentity, .inr hwhole⟩
  · rintro ⟨session, hsession, rfl, hdone⟩
    unfold completeRecovery
    rw [hsession]
    dsimp only
    rw [if_neg (not_not.mpr rfl)]
    -- A proof that was given is given again without looking at the frames.
    cases hproof : session.completedProof with
    | some proof => rfl
    | none =>
      rw [hproof] at hdone
      obtain ⟨hfilled, hdigest⟩ := hdone.resolve_left Bool.false_ne_true
      have hslots : ¬ session.frames.any Option.isNone := by
        intro hsome
        obtain ⟨slot, hslot, hnone⟩ := any_eq_true.mp hsome
        exact hfilled slot hslot (Option.isNone_iff_eq_none.mp hnone)
      dsimp only
      rw [if_neg hslots]
      unfold SnapshotDigest.canonicalSnapshotDigest at hdigest
      cases hsnapshot : (AworsetSnapshot.assemble
          (session.frames.filterMap id)).canonicalSnapshot with
      | error error =>
        rw [hsnapshot] at hdigest
        cases hdigest
      | ok snapshot =>
        rw [hsnapshot] at hdigest
        have htext : digest.hash snapshot = session.identity.snapshotDigest := Except.ok.inj hdigest
        dsimp only
        rw [AworsetSnapshot.digest_canonical
          (AworsetSnapshot.canonicalSnapshot_canonical hsnapshot)]
        dsimp only
        rw [if_neg (not_not.mpr htext)]
        rfl

def heldEntries (frames : List (Option RecoveryFramePayload)) : Nat :=
  (frames.map fun slot => (slot.map RecoveryFramePayload.entryCount).getD 0).sum

lemma heldEntries_set {frames : List (Option RecoveryFramePayload)} {index : Nat}
    (hslot : frames[index]? = some none) (payload : RecoveryFramePayload) :
    heldEntries (frames.set index (some payload)) = heldEntries frames + payload.entryCount := by
  induction frames generalizing index with
  | nil => cases hslot
  | cons slot frames ih =>
    cases index with
    | zero =>
      cases Option.some.inj hslot
      simp [heldEntries, Nat.add_comm]
    | succ index =>
      have hrest := ih hslot
      simp only [heldEntries, set_cons_succ, map_cons, sum_cons] at hrest ⊢
      omega

lemma heldEntries_replicate (count : Nat) : heldEntries (List.replicate count none) = 0 := by
  simp [heldEntries]

end RecoverySessions

open RecoverySessions

/-! ## Runs of the receiver -/

structure AcceptedFrame where
  sender : Nat
  frame : RecoveryFrame
  nowMs : Nat
  blocklist : AworsetBlocklist

/-- Every delta of the frame was merged or dominated, or a block that had expired. -/
def AcceptedFrame.Settled (accepted : AcceptedFrame) : Prop :=
  (∀ delta ∈ accepted.frame.payload.blocks, delta.expiresAtMs ≤ accepted.nowMs ∨
    (accepted.blocklist.register delta.key).superseded delta.dot.counter = true) ∧
  ∀ delta ∈ accepted.frame.payload.unblocks,
    (accepted.blocklist.register delta.key).remove delta.dot.counter =
      accepted.blocklist.register delta.key

/-- A message of a recovery, its admission, its answer, and clock and blocklist then. -/
structure RecoveryEvent where
  sender : Nat
  recovery : ReceivedRecovery
  admittedMs : Nat
  accepted : Bool
  nowMs : Nat
  blocklist : AworsetBlocklist

def RecoveryEvent.Admitted (event : RecoveryEvent) : Prop :=
  event.recovery.wire.valid event.admittedMs = true

instance (event : RecoveryEvent) : Decidable event.Admitted :=
  inferInstanceAs (Decidable (_ = true))

/-- The assemblies, and all frames accepted so far. -/
structure ReceiverTrace where
  sessions : RecoverySessions
  accepted : List AcceptedFrame

/-- The assembly is kept or gives way to a newer generation. -/
def RecoveryIdentity.Precedes (before after : RecoveryIdentity) : Prop :=
  after = before ∨ before.generation < after.generation ∧ before.boundaryLsn ≤ after.boundaryLsn

namespace ReceiverTrace

def start : ReceiverTrace := ⟨∅, []⟩

def step (digest : SnapshotDigest) (trace : ReceiverTrace) (event : RecoveryEvent) :
    ReceiverTrace :=
  let (response, sessions) := acknowledgeWithLsn digest trace.sessions event.blocklist
    event.nowMs event.sender (some event.recovery) event.accepted none
  { sessions := sessions
    accepted :=
      match event.recovery with
      | .frame frame =>
        if response.accepted then
          ⟨event.sender, frame, event.nowMs, event.blocklist⟩ :: trace.accepted
        else trace.accepted
      | .complete _ => trace.accepted }

inductive Stepped (digest : SnapshotDigest) (trace : ReceiverTrace) (event : RecoveryEvent) :
    ReceiverTrace → Prop
  | idle : Stepped digest trace event trace
  | accepted {frame : RecoveryFrame} {sessions : RecoverySessions}
      (hframe : event.recovery = .frame frame)
      (happlied : event.blocklist.crdtApplied event.nowMs frame.payload = true)
      (hrecorded : Recorded trace.sessions event.sender frame true sessions) :
      Stepped digest trace event
        ⟨sessions, ⟨event.sender, frame, event.nowMs, event.blocklist⟩ :: trace.accepted⟩
  | completed {identity proof : RecoveryIdentity} {sessions : RecoverySessions}
      (hcompleted : Completed digest trace.sessions event.sender identity (some proof) sessions) :
      Stepped digest trace event ⟨sessions, trace.accepted⟩

variable (digest : SnapshotDigest) (trace : ReceiverTrace)
variable {frame : RecoveryFrame} (event : RecoveryEvent)

lemma step_stepped : Stepped digest trace event (trace.step digest event) := by
  unfold step acknowledgeWithLsn
  -- A frame or a completion that is refused leaves the sessions as they were.
  cases haccepted : event.accepted with
  | false => cases event.recovery <;> exact .idle
  | true =>
    cases hrecovery : event.recovery with
    | frame frame =>
      dsimp only
      split
      next happlied =>
        have hrecorded := trace.sessions.recordRecoveryFrame_recorded event.sender frame
        generalize trace.sessions.recordRecoveryFrame event.sender frame = outcome at hrecorded
        obtain ⟨recorded, sessions⟩ := outcome
        cases recorded with
        | true => exact .accepted hrecovery happlied hrecorded
        | false =>
          cases hrecorded
          exact .idle
      · exact .idle
    | complete identity =>
      dsimp only
      have hcompleted := completeRecovery_completed digest trace.sessions event.sender identity
      generalize completeRecovery digest trace.sessions event.sender identity = outcome
        at hcompleted ⊢
      obtain ⟨proof, sessions⟩ := outcome
      cases proof with
      | some proof => exact .completed hcompleted
      | none =>
        cases hcompleted
        exact .idle

structure Backed (digest : SnapshotDigest) (accepted : List AcceptedFrame) (sender : Nat)
    (session : RecoveryAssembly) : Prop where
  length : session.frames.length = session.identity.frameCount
  entries : session.entryCount = heldEntries session.frames
  slot {index : Nat} {payload : RecoveryFramePayload} :
    session.frames[index]? = some (some payload) →
      ∃ record ∈ accepted, record.sender = sender ∧
        record.frame = ⟨session.identity, index, payload⟩
  older : ∀ record ∈ accepted, record.sender = sender →
    record.frame.identity.generation ≤ session.identity.generation
  current : ∀ record ∈ accepted, record.sender = sender →
    record.frame.identity.generation = session.identity.generation →
      record.frame.identity = session.identity ∧
        session.frames[record.frame.frameIndex]? = some (some record.frame.payload)
  proved {proof : RecoveryProof} : session.completedProof = some proof →
    proof = session.identity ∧ Whole digest session

namespace Backed

variable {digest} {accepted : List AcceptedFrame} {sender : Nat} {session : RecoveryAssembly}
  {record : AcceptedFrame}

section

variable (hbacked : Backed digest accepted sender session)

include hbacked

lemma cons (hknown : record.sender = sender → record.frame.identity = session.identity ∧
      session.frames[record.frame.frameIndex]? = some (some record.frame.payload)) :
    Backed digest (record :: accepted) sender session where
  length := hbacked.length
  entries := hbacked.entries
  slot := by
    intro index payload hslot
    obtain ⟨old, hold, hrest⟩ := hbacked.slot hslot
    exact ⟨old, mem_cons_of_mem _ hold, hrest⟩
  older := forall_mem_cons.mpr ⟨fun hsender => by rw [(hknown hsender).1], hbacked.older⟩
  current := forall_mem_cons.mpr ⟨fun hsender _ => hknown hsender, hbacked.current⟩
  proved := hbacked.proved

lemma fill (hsender : record.sender = sender)
    (hidentity : session.identity = record.frame.identity)
    (hvacant : session.frames[record.frame.frameIndex]? = some none) :
    Backed digest (record :: accepted) sender (RecoverySessions.fill session record.frame) := by
  have hindex : record.frame.frameIndex < session.frames.length :=
    (List.getElem?_eq_some_iff.mp hvacant).1
  have hself : (RecoverySessions.fill session record.frame).frames[record.frame.frameIndex]? =
      some (some record.frame.payload) := List.getElem?_set_self hindex
  have hrest {index : Nat} (hne : record.frame.frameIndex ≠ index) :
      (RecoverySessions.fill session record.frame).frames[index]? = session.frames[index]? :=
    List.getElem?_set_ne hne
  refine ⟨?_, ?_, ?_, ?_, ?_, ?_⟩
  · exact length_set.trans hbacked.length
  · exact (congrArg (· + _) hbacked.entries).trans
      (heldEntries_set hvacant record.frame.payload).symm
  · intro index payload hheld
    by_cases hhere : record.frame.frameIndex = index
    · subst hhere
      rw [hself, Option.some.injEq, Option.some.injEq] at hheld
      refine ⟨record, mem_cons_self, hsender, ?_⟩
      rw [← hheld]
      exact congrArg (RecoveryFrame.mk · _ _) hidentity.symm
    · rw [hrest hhere] at hheld
      obtain ⟨old, hold, hfound⟩ := hbacked.slot hheld
      exact ⟨old, mem_cons_of_mem _ hold, hfound⟩
  · exact forall_mem_cons.mpr
      ⟨fun _ => (congrArg RecoveryIdentity.generation hidentity).ge, hbacked.older⟩
  · refine forall_mem_cons.mpr ⟨fun _ _ => ⟨hidentity.symm, hself⟩, ?_⟩
    intro old hearlier holdSender hgeneration
    obtain ⟨hsame, hslot⟩ := hbacked.current old hearlier holdSender hgeneration
    refine ⟨hsame, ?_⟩
    rw [hrest, hslot]
    -- The slot of the older frame is taken, that of the new one was not.
    intro hhere
    rw [← hhere, hvacant] at hslot
    cases hslot
  · intro proof hproof
    exact absurd rfl ((hbacked.proved hproof).2.1 none (mem_of_getElem? hvacant))

end

/-- A new assembly is an empty one with its first frame filled in. -/
lemma opened (holder : ∀ old ∈ accepted, old.sender = sender →
      old.frame.identity.generation < record.frame.identity.generation)
    (hsender : record.sender = sender) (hindex : record.frame.frameIndex = 0)
    (hcount : 0 < record.frame.identity.frameCount) :
    Backed digest (record :: accepted) sender (RecoverySessions.opened record.frame) := by
  have hempty : Backed digest accepted sender
      ⟨record.frame.identity, List.replicate record.frame.identity.frameCount none, 0, none⟩ := by
    refine ⟨length_replicate, (heldEntries_replicate _).symm, fun {index payload} hslot => ?_,
      fun old hold hsame => (holder old hold hsame).le, fun old hold hsame hgeneration =>
        absurd hgeneration (holder old hold hsame).ne, nofun⟩
    rw [List.getElem?_replicate] at hslot
    split at hslot <;> cases hslot
  have hfilled := hempty.fill hsender rfl (by rw [hindex, List.getElem?_replicate, if_pos hcount])
  rwa [RecoverySessions.fill, Nat.zero_add] at hfilled

lemma complete (hbacked : Backed digest accepted sender session) (hwhole : Whole digest session) :
    Backed digest accepted sender { session with completedProof := some session.identity } :=
  { hbacked with proved := fun hproof => ⟨(Option.some.inj hproof).symm, hwhole⟩ }

end Backed

/-- What holds in every run of the receiver. -/
structure Sound (digest : SnapshotDigest) (trace : ReceiverTrace) : Prop where
  backed {sender : Nat} {session : RecoveryAssembly} :
    trace.sessions.lookup sender = some session → Backed digest trace.accepted sender session
  known : ∀ record ∈ trace.accepted, ∃ session, trace.sessions.lookup record.sender = some session
  settled : ∀ record ∈ trace.accepted, record.Settled
  entries {sender : Nat} {session : RecoveryAssembly} :
    trace.sessions.lookup sender = some session → session.entryCount ≤ maxRecoveryEntries
  totalEntries : trace.sessions.totalEntries ≤ maxRecoveryTotalEntries
  totalFrames : trace.sessions.totalFrames ≤ maxRecoveryTotalFrames

lemma start_sound : Sound digest start where
  backed hsession := by cases hsession
  known := nofun
  settled := nofun
  entries hsession := by cases hsession
  totalEntries := by decide
  totalFrames := by decide

lemma of_admitted {event : RecoveryEvent} (hadmitted : event.Admitted)
    (hframe : event.recovery = .frame frame) :
    0 < frame.identity.frameCount ∧
      (∀ delta ∈ frame.payload.blocks, delta.dot.admissible) ∧
      ∀ delta ∈ frame.payload.unblocks, delta.dot.admissible := by
  rw [RecoveryEvent.Admitted, hframe] at hadmitted
  simp only [ReceivedRecovery.wire, WireMessage.valid, validDeltas, Bool.and_eq_true,
    decide_eq_true_eq, all_eq_true, ClusterBlockDelta.validWire,
    ClusterUnblockDelta.validWire] at hadmitted
  obtain ⟨⟨⟨⟨_, hcount⟩, _⟩, _⟩, ⟨_, hblocks⟩, hunblocks⟩ := hadmitted
  exact ⟨hcount, fun delta hdelta => ClusterDot.admissible_of_validWire (hblocks delta hdelta).1.1,
    fun delta hdelta => ClusterDot.admissible_of_validWire (hunblocks delta hdelta).2⟩

lemma settled_of_applied {event : RecoveryEvent} (hadmitted : event.Admitted)
    (hframe : event.recovery = .frame frame)
    (happlied : event.blocklist.crdtApplied event.nowMs frame.payload) :
    AcceptedFrame.Settled ⟨event.sender, frame, event.nowMs, event.blocklist⟩ := by
  obtain ⟨_, hblocks, hunblocks⟩ := of_admitted hadmitted hframe
  simp only [AworsetBlocklist.crdtApplied, Bool.and_eq_true, all_eq_true, Bool.or_eq_true,
    decide_eq_true_eq, Bool.not_eq_true'] at happlied
  refine ⟨fun delta hdelta => ?_, fun delta hdelta => ?_⟩
  · refine (happlied.1 delta hdelta).imp_right fun hneedless => ?_
    by_contra hfresh
    have hneeded : event.blocklist.needsMergeDelta delta :=
      AworsetBlocklist.needsMergeDelta_iff.mpr ⟨hblocks delta hdelta, hfresh⟩
    rw [hneedless] at hneeded
    cases hneeded
  · by_contra hdiffers
    have hneeded : event.blocklist.needsMergeUnblock delta :=
      AworsetBlocklist.needsMergeUnblock_iff.mpr ⟨hunblocks delta hdelta, hdiffers⟩
    rw [happlied.2 delta hdelta] at hneeded
    cases hneeded

namespace Sound

variable {digest trace} {sender : Nat}

lemma replace (hsound : Sound digest trace) {accepted : List AcceptedFrame}
    (haccepted : accepted = trace.accepted ∨ ∃ record : AcceptedFrame,
      accepted = record :: trace.accepted ∧ record.sender = sender ∧ record.Settled)
    {next : RecoveryAssembly} (hbacked : Backed digest accepted sender next)
    (hentries : next.entryCount ≤ maxRecoveryEntries)
    (htotalEntries : trace.sessions.totalEntries + next.entryCount ≤ maxRecoveryTotalEntries +
      ((trace.sessions.lookup sender).map RecoveryAssembly.entryCount).getD 0)
    (htotalFrames : trace.sessions.totalFrames + next.frames.length ≤ maxRecoveryTotalFrames +
      ((trace.sessions.lookup sender).map fun session => session.frames.length).getD 0) :
    Sound digest ⟨trace.sessions.insert sender next, accepted⟩ where
  backed := by
    intro other session hsession
    dsimp only at hsession ⊢
    rw [lookup_insert_eq] at hsession
    split at hsession
    next hhere =>
      cases hsession
      exact hhere ▸ hbacked
    next helsewhere =>
      rcases haccepted with rfl | ⟨record, rfl, hsender, _⟩
      · exact hsound.backed hsession
      · exact (hsound.backed hsession).cons fun heq =>
          absurd (heq.symm.trans hsender) helsewhere
  known := by
    intro record hrecord
    dsimp only at hrecord ⊢
    rw [lookup_insert_eq]
    split
    · exact ⟨next, rfl⟩
    next helsewhere =>
      rcases haccepted with rfl | ⟨newest, rfl, hsender, _⟩
      · exact hsound.known record hrecord
      · rcases mem_cons.mp hrecord with rfl | hearlier
        · exact absurd hsender helsewhere
        · exact hsound.known record hearlier
  settled := by
    rcases haccepted with rfl | ⟨newest, rfl, _, hsettled⟩
    · exact hsound.settled
    · exact forall_mem_cons.mpr ⟨hsettled, hsound.settled⟩
  entries := by
    intro other session hsession
    dsimp only at hsession
    rw [lookup_insert_eq] at hsession
    split at hsession
    · cases hsession
      exact hentries
    · exact hsound.entries hsession
  -- The totals change by the difference between the new assembly and the one it replaces.
  totalEntries := by
    have htotal := total_insert RecoveryAssembly.entryCount trace.sessions sender next
    unfold RecoverySessions.totalEntries at htotalEntries ⊢
    dsimp only
    omega
  totalFrames := by
    have htotal := total_insert (fun session : RecoveryAssembly => session.frames.length)
      trace.sessions sender next
    unfold RecoverySessions.totalFrames at htotalFrames ⊢
    dsimp only
    omega

lemma repeated (hsound : Sound digest trace) {record : AcceptedFrame} (hsettled : record.Settled)
    {current : RecoveryAssembly} (hcurrent : trace.sessions.lookup record.sender = some current)
    (hidentity : current.identity = record.frame.identity)
    (hslot : current.frames[record.frame.frameIndex]? = some (some record.frame.payload)) :
    Sound digest ⟨trace.sessions, record :: trace.accepted⟩ where
  backed := by
    intro other session hsession
    refine (hsound.backed hsession).cons fun hhere => ?_
    subst hhere
    cases hcurrent.symm.trans hsession
    exact ⟨hidentity.symm, hslot⟩
  known := forall_mem_cons.mpr ⟨⟨current, hcurrent⟩, hsound.known⟩
  settled := forall_mem_cons.mpr ⟨hsettled, hsound.settled⟩
  entries := hsound.entries
  totalEntries := hsound.totalEntries
  totalFrames := hsound.totalFrames

variable {identity proof : RecoveryIdentity} {sessions : RecoverySessions}

lemma recorded (hsound : Sound digest trace) {record : AcceptedFrame} (hsettled : record.Settled)
    (hcount : 0 < record.frame.identity.frameCount)
    (hrecorded : Recorded trace.sessions record.sender record.frame true sessions) :
    Sound digest ⟨sessions, record :: trace.accepted⟩ := by
  cases hrecorded with
  | repeated hcurrent hidentity hslot => exact hsound.repeated hsettled hcurrent hidentity hslot
  | @filled current hcurrent hidentity hslot hentries htotal =>
    refine hsound.replace (.inr ⟨record, rfl, rfl, hsettled⟩)
      ((hsound.backed hcurrent).fill rfl hidentity hslot) hentries ?_ ?_
    · rw [hcurrent, Option.map_some, Option.getD_some]
      change _ + (current.entryCount + _) ≤ _
      omega
    · rw [hcurrent, Option.map_some, Option.getD_some]
      change _ + (current.frames.set _ _).length ≤ _
      rw [length_set]
      exact Nat.add_le_add_right hsound.totalFrames _
  | opened hindex hnewer hentries hframes =>
    have hold := weight_le_total RecoveryAssembly.entryCount trace.sessions record.sender
    have holdFrames := weight_le_total
      (fun session : RecoveryAssembly => session.frames.length) trace.sessions record.sender
    refine hsound.replace (.inr ⟨record, rfl, rfl, hsettled⟩)
      (.opened ?_ rfl hindex hcount) ?_ ?_ ?_
    · intro old hearlier hsender
      obtain ⟨current, hcurrent⟩ := hsound.known old hearlier
      rw [hsender] at hcurrent
      exact ((hsound.backed hcurrent).older old hearlier hsender).trans_lt
        (hnewer current hcurrent).1
    · change record.frame.payload.entryCount ≤ _
      unfold maxRecoveryTotalEntries at hentries
      unfold maxRecoveryEntries
      omega
    · change _ + record.frame.payload.entryCount ≤ _
      unfold RecoverySessions.totalEntries at hentries ⊢
      omega
    · change _ + (List.set _ _ _).length ≤ _
      rw [length_set, length_replicate]
      unfold RecoverySessions.totalFrames at hframes ⊢
      omega

lemma completed (hsound : Sound digest trace)
    (hcompleted : Completed digest trace.sessions sender identity (some proof) sessions) :
    Sound digest ⟨sessions, trace.accepted⟩ := by
  cases hcompleted with
  | again => exact hsound
  | @first session hsession hidentity hwhole =>
    subst hidentity
    have hentries := hsound.entries hsession
    refine hsound.replace (.inl rfl) ((hsound.backed hsession).complete hwhole) hentries ?_ ?_
    · rw [hsession]
      exact Nat.add_le_add_right hsound.totalEntries _
    · rw [hsession]
      exact Nat.add_le_add_right hsound.totalFrames _

lemma step (hsound : Sound digest trace) {event : RecoveryEvent} (hadmitted : event.Admitted) :
    Sound digest (trace.step digest event) := by
  have hstepped := step_stepped digest trace event
  generalize trace.step digest event = next at hstepped ⊢
  cases hstepped with
  | idle => exact hsound
  | accepted hframe happlied hrecorded =>
    exact hsound.recorded (settled_of_applied hadmitted hframe happlied)
      (of_admitted hadmitted hframe).1 hrecorded
  | completed hcompleted => exact hsound.completed hcompleted

lemma run (digest : SnapshotDigest) {events : List RecoveryEvent}
    (hadmitted : ∀ event ∈ events, event.Admitted) :
    Sound digest (Machine.run (ReceiverTrace.step digest) start events) :=
  (@Along.of_respects _ _ (ReceiverTrace.step digest) (Sound digest)
    (fun _ event => event.Admitted) (fun _ _ hsound hevent => hsound.step hevent) start events
    (start_sound digest) (.of_forall fun event hevent _ => hadmitted event hevent)).last

lemma proved (hsound : Sound digest trace)
    (hproof : (completeRecovery digest trace.sessions sender identity).1 = some proof) :
    proof = identity ∧ ∃ session, trace.sessions.lookup sender = some session ∧
      session.identity = identity ∧ Whole digest session := by
  have hcompleted := completeRecovery_completed digest trace.sessions sender identity
  rw [hproof] at hcompleted
  generalize (completeRecovery digest trace.sessions sender identity).2 = sessions at hcompleted
  cases hcompleted with
  | @again session _ hsession hidentity hstored =>
    obtain ⟨hsame, hwhole⟩ := (hsound.backed hsession).proved hstored
    exact ⟨hsame.trans hidentity, session, hsession, hidentity, hwhole⟩
  | @first session hsession hidentity hwhole => exact ⟨rfl, session, hsession, hidentity, hwhole⟩

end Sound

lemma map_some_filterMap_id {slots : List (Option RecoveryFramePayload)}
    (hfilled : ∀ slot ∈ slots, slot ≠ none) : (slots.filterMap id).map some = slots := by
  induction slots with
  | nil => rfl
  | cons slot slots ih =>
    obtain ⟨payload, rfl⟩ := Option.ne_none_iff_exists'.mp (hfilled slot mem_cons_self)
    have hcons : (some payload :: slots).filterMap id = payload :: slots.filterMap id := rfl
    rw [hcons, map_cons, ih fun other hother => hfilled other (mem_cons_of_mem _ hother)]

lemma identity_step {sender : Nat} {before : RecoveryAssembly}
    (hbefore : trace.sessions.lookup sender = some before) :
    ∃ after, (trace.step digest event).sessions.lookup sender = some after ∧
      before.identity.Precedes after.identity := by
  have hinsert {next : RecoveryAssembly}
      (hnext : event.sender = sender → before.identity.Precedes next.identity) :
      ∃ after, (trace.sessions.insert event.sender next).lookup sender = some after ∧
        before.identity.Precedes after.identity := by
    rw [lookup_insert_eq]
    split
    next hhere => exact ⟨next, rfl, hnext hhere.symm⟩
    · exact ⟨before, hbefore, .inl rfl⟩
  have hstepped := step_stepped digest trace event
  generalize trace.step digest event = next at hstepped ⊢
  cases hstepped with
  | idle => exact ⟨before, hbefore, .inl rfl⟩
  | accepted hframe happlied hrecorded =>
    cases hrecorded with
    | repeated => exact ⟨before, hbefore, .inl rfl⟩
    | filled hcurrent =>
      refine hinsert fun hhere => .inl ?_
      subst hhere
      cases hbefore.symm.trans hcurrent
      rfl
    | opened hindex hnewer =>
      refine hinsert fun hhere => .inr ?_
      subst hhere
      exact hnewer before hbefore
  | completed hcompleted =>
    cases hcompleted with
    | again => exact ⟨before, hbefore, .inl rfl⟩
    | first hsession =>
      refine hinsert fun hhere => .inl ?_
      subst hhere
      cases hbefore.symm.trans hsession
      rfl

/-- In every run of admitted frames and completions from any senders: a proof stands for
frames that were all accepted, each with one payload and with its deltas settled, and
whose snapshot has the digest of the proof; the assemblies stay within their bounds; and
per sender generations increase and boundaries never go back. -/
theorem recovery_acknowledgement_sound (digest : SnapshotDigest) (events : List RecoveryEvent)
    (hadmitted : ∀ event ∈ events, event.Admitted) : let trace := run (step digest) start events
    (∀ sender identity proof,
      (completeRecovery digest trace.sessions sender identity).1 = some proof →
      proof = identity ∧ ∃ payloads : List RecoveryFramePayload,
        payloads.length = proof.frameCount ∧
        (∀ index payload, payloads[index]? = some payload → ∃ record ∈ trace.accepted,
          record.sender = sender ∧ record.frame = ⟨proof, index, payload⟩ ∧ record.Settled) ∧
        (∀ record ∈ trace.accepted, record.sender = sender →
          record.frame.identity.generation = proof.generation →
          payloads[record.frame.frameIndex]? = some record.frame.payload) ∧
        digest.canonicalSnapshotDigest (AworsetSnapshot.assemble payloads) =
          .ok proof.snapshotDigest) ∧
    (∀ sender session, trace.sessions.lookup sender = some session →
      heldEntries session.frames ≤ maxRecoveryEntries) ∧
    Table.total (fun session : RecoveryAssembly => heldEntries session.frames) trace.sessions ≤
      maxRecoveryTotalEntries ∧
    trace.sessions.totalFrames ≤ maxRecoveryTotalFrames ∧
    ∀ event sender before, trace.sessions.lookup sender = some before →
      ∃ after, (trace.step digest event).sessions.lookup sender = some after ∧
        (after.identity = before.identity ∨
          before.identity.generation < after.identity.generation ∧
            before.identity.boundaryLsn ≤ after.identity.boundaryLsn) := by
  intro trace
  have hsound : Sound digest trace := .run digest hadmitted
  refine ⟨?_, ?_, ?_, hsound.totalFrames, fun event _ _ => identity_step digest trace event⟩
  · intro sender identity proof hproof
    obtain ⟨rfl, session, hsession, rfl, hfilled, hdigest⟩ := hsound.proved hproof
    have hbacked := hsound.backed hsession
    have hslots := map_some_filterMap_id hfilled
    have hslot (index : Nat) (payload : RecoveryFramePayload) :
        (session.frames.filterMap id)[index]? = some payload ↔
          session.frames[index]? = some (some payload) := by
      conv_rhs => rw [← hslots, List.getElem?_map]
      simp
    refine ⟨rfl, session.frames.filterMap id, ?_, ?_, ?_, hdigest⟩
    · rw [← hbacked.length]
      exact (length_map some).symm.trans (congrArg List.length hslots)
    · intro index payload hheld
      obtain ⟨record, hrecord, hsender, hframe⟩ := hbacked.slot ((hslot index payload).mp hheld)
      exact ⟨record, hrecord, hsender, hframe, hsound.settled record hrecord⟩
    · intro record hrecord hsender hgeneration
      exact (hslot _ _).mpr (hbacked.current record hrecord hsender hgeneration).2
  · intro sender session hsession
    rw [← (hsound.backed hsession).entries]
    exact hsound.entries hsession
  · rw [← total_congr fun sender session hsession => (hsound.backed hsession).entries]
    exact hsound.totalEntries

/-- A digest for examples: the counters of the snapshot as the digits of one number. -/
def counterDigest : SnapshotDigest where
  hash snapshot :=
    let counters := snapshot.blocks.map (·.dot.counter) ++ snapshot.unblocks.map (·.dot.counter)
    let number := counters.foldl (fun number counter => 31 * number + counter) 1
    String.ofList ((range 64).map fun place => Nat.digitChar (number / 10 ^ place % 10))
  valid snapshot := by
    have hdigit : ∀ digit < 10, (Nat.digitChar digit).isDigit = true := by decide
    simp only [validDigest, String.length_ofList, length_map, length_range, String.toList_ofList,
      beq_self_eq_true, Bool.true_and, all_map, all_eq_true, Function.comp_apply]
    intro place _
    rw [hdigit _ (Nat.mod_lt _ (by decide)), Bool.true_or]

open AworsetBlocklist in
def pairIdentity : RecoveryIdentity :=
  ⟨5, 9, 40, counterDigest.hash ⟨[{ sampleBan with ip := .v4 2 }], [sampleUnban]⟩, 2⟩

open AworsetBlocklist in
/-- Two frames, the second of which comes twice, and the completion. -/
def pairRecovery : List RecoveryEvent :=
  let ban := { sampleBan with ip := .v4 2 }
  let banned := (new 1 1).absorb (90, .block ban)
  let both := banned.absorb (110, .unblock sampleUnban)
  [⟨2, .frame ⟨pairIdentity, 0, ⟨[ban], []⟩⟩, 90, true, 100, banned⟩,
    ⟨2, .frame ⟨pairIdentity, 1, ⟨[], [sampleUnban]⟩⟩, 110, true, 120, both⟩,
    ⟨2, .frame ⟨pairIdentity, 1, ⟨[], [sampleUnban]⟩⟩, 130, true, 140, both⟩,
    ⟨2, .complete pairIdentity, 150, true, 160, both⟩]

/-- The completion is proved, and the proof stands for the accepted frames. -/
theorem recovery_acknowledgement_sound_pair :
    let trace := run (step counterDigest) start pairRecovery
    (completeRecovery counterDigest trace.sessions 2 pairIdentity).1 = some pairIdentity ∧
      ∃ payloads : List RecoveryFramePayload, payloads.length = 2 ∧
        ∀ index payload, payloads[index]? = some payload → ∃ record ∈ trace.accepted,
          record.sender = 2 ∧ record.frame = ⟨pairIdentity, index, payload⟩ ∧ record.Settled := by
  intro trace
  have hproof : (completeRecovery counterDigest trace.sessions 2 pairIdentity).1 =
      some pairIdentity := by decide +kernel
  have hadmitted : ∀ event ∈ pairRecovery, event.Admitted := by decide +kernel
  obtain ⟨_, payloads, hlength, haccepted, _⟩ := (recovery_acknowledgement_sound counterDigest
    pairRecovery hadmitted).1 2 pairIdentity pairIdentity hproof
  exact ⟨hproof, payloads, hlength, haccepted⟩

end ReceiverTrace

end RamShield

import RamShield.Mesh.Collection
import RamShield.Mesh.PeerSync

/-! # What an acknowledgement covers

The acknowledgement of a recovery advances the epoch of a peer, and with it the
peer counts as having seen every removal that was stamped with the epoch before.
The peer has seen the snapshot of the recovery, which was captured earlier. The
two agree exactly when none of these removals was recorded after the capture.
-/

namespace RamShield

open Foundation Foundation.Machine Function

namespace AworsetBlocklist

variable {key : BlockKey} {watermark : Nat} (set : AworsetBlocklist)

/-- Tombstones are never lowered. -/
lemma le_removed_foldl_absorb (deliveries : List (Nat × ClusterDelta))
    (hremoved : (set.register key).removed = some watermark) :
    ∃ raised, ((deliveries.foldl absorb set).register key).removed = some raised ∧
      watermark ≤ raised := by
  rw [register_foldl_absorb]
  exact Register.le_removed_foldl_apply _ hremoved

lemma le_removed_perform (call : BlocklistCall)
    (hremoved : (set.register key).removed = some watermark) :
    ∃ raised, ((set.perform call).register key).removed = some raised ∧ watermark ≤ raised := by
  cases call with
  | prepareBan wallMs ip ttlMs tier => exact ⟨watermark, hremoved, le_rfl⟩
  | recordBan wallMs ip ttlMs tier =>
    exact le_removed_foldl_absorb (set.prepareBan wallMs ip ttlMs tier).2 [(wallMs, .block _)]
      hremoved
  | recordUnban wallMs order ip =>
    rw [perform, recordUnban_eq_absorb]
    exact le_removed_foldl_absorb set _ hremoved
  | mergeDelta wallMs delta => exact le_removed_foldl_absorb set [(wallMs, .block delta)] hremoved
  | mergeUnblockDelta wallMs delta =>
    exact le_removed_foldl_absorb set [(wallMs, .unblock delta)] hremoved
  | restoreSnapshot wallMs snapshot =>
    rw [perform, restoreSnapshot_eq_absorb]
    exact le_removed_foldl_absorb set _ hremoved
  | purgeExpired order nowMs =>
    rw [perform, register_purgeExpired]
    cases (set.register key).live.filter (outlived nowMs) with
    | none => exact ⟨watermark, hremoved, le_rfl⟩
    | some entry => exact (set.register key).le_removed_remove entry.1 hremoved

end AworsetBlocklist

open AworsetBlocklist

/-! ## How old a snapshot is -/

structure Dates (blocklist : AworsetBlocklist) (raisedAt : BlockKey → Nat) (taken : Nat)
    (snapshot : AworsetSnapshot) : Prop where
  held {key : BlockKey} {tombstone : TombstoneState} :
    blocklist.tombstones.lookup key = some tombstone → raisedAt key ≤ taken →
      unblockAt key tombstone ∈ snapshot.unblocks
  below {delta : ClusterUnblockDelta} : delta ∈ snapshot.unblocks →
    ∃ tombstone, blocklist.tombstones.lookup delta.key = some tombstone ∧
      delta.dot.counter ≤ tombstone.counter ∧
      (taken < raisedAt delta.key → delta.dot.counter < tombstone.counter)

namespace Dates

variable {blocklist : AworsetBlocklist} {raisedAt : BlockKey → Nat} {taken : Nat}
  {snapshot : AworsetSnapshot}

lemma capture (hpast : ∀ key, raisedAt key ≤ taken) (order : IterOrder BlockKey) :
    Dates blocklist raisedAt taken (blocklist.exportSnapshot order) where
  held htombstone _ := mem_export.mpr ⟨_, _, htombstone, rfl⟩
  below := by
    intro delta hdelta
    obtain ⟨key, tombstone, htombstone, rfl⟩ := mem_export.mp hdelta
    exact ⟨tombstone, htombstone, le_rfl, fun hlater => absurd hlater (Nat.not_lt.mpr (hpast _))⟩

section

variable (hdates : Dates blocklist raisedAt taken snapshot)

include hdates

lemma canonical {canonical : AworsetSnapshot} (hok : snapshot.canonicalSnapshot = .ok canonical) :
    Dates blocklist raisedAt taken canonical where
  held htombstone hearlier :=
    (AworsetSnapshot.mem_unblocks_canonical hok).mpr (hdates.held htombstone hearlier)
  below hdelta := hdates.below ((AworsetSnapshot.mem_unblocks_canonical hok).mp hdelta)

lemma mem_iff {key : BlockKey} {tombstone : TombstoneState}
    (htombstone : blocklist.tombstones.lookup key = some tombstone) :
    unblockAt key tombstone ∈ snapshot.unblocks ↔ raisedAt key ≤ taken := by
  refine ⟨fun hmem => ?_, hdates.held htombstone⟩
  by_contra hlater
  obtain ⟨current, hcurrent, _, hstrict⟩ := hdates.below hmem
  cases htombstone.symm.trans hcurrent
  exact absurd (hstrict (Nat.lt_of_not_le hlater)) (Nat.lt_irrefl _)

end

end Dates

def raisedBy (blocklist next : AworsetBlocklist) (raisedAt : BlockKey → Nat) (time : Nat)
    (key : BlockKey) : Nat :=
  if (next.register key).removed = (blocklist.register key).removed then raisedAt key else time

lemma Dates.change {blocklist : AworsetBlocklist} {raisedAt : BlockKey → Nat} {taken : Nat}
    {snapshot : AworsetSnapshot} (hdates : Dates blocklist raisedAt taken snapshot)
    (call : BlocklistCall) {time : Nat} (htime : taken < time) :
    Dates (blocklist.perform call)
      (raisedBy blocklist (blocklist.perform call) raisedAt time) taken snapshot where
  held := by
    intro key tombstone htombstone hearlier
    have hcounter : ((blocklist.perform call).register key).removed = some tombstone.counter :=
      congrArg (Option.map TombstoneState.counter) htombstone
    unfold raisedBy at hearlier
    split at hearlier
    -- A counter that did not change was exported as it is; a changed one is too new.
    next hsame =>
      obtain ⟨old, hold, heq⟩ := Option.map_eq_some_iff.mp (hsame.symm.trans hcounter)
      have hexported : unblockAt key tombstone = unblockAt key old := by
        rw [unblockAt, unblockAt, heq]
      rw [hexported]
      exact hdates.held hold hearlier
    · exact absurd hearlier (Nat.not_le.mpr htime)
  below := by
    intro delta hdelta
    obtain ⟨old, hold, hle, hstrict⟩ := hdates.below hdelta
    have hbefore : (blocklist.register delta.key).removed = some old.counter :=
      congrArg (Option.map TombstoneState.counter) hold
    obtain ⟨raised, hraised, habove⟩ := blocklist.le_removed_perform call hbefore
    obtain ⟨tombstone, htombstone, rfl⟩ := Option.map_eq_some_iff.mp hraised
    refine ⟨tombstone, htombstone, hle.trans habove, fun hlater => ?_⟩
    unfold raisedBy at hlater
    split at hlater
    · exact (hstrict hlater).trans_le habove
    next hchanged =>
      have hne : old.counter ≠ tombstone.counter := by
        intro heq
        refine hchanged (hraised.trans ?_)
        rw [hbefore, heq]
      omega

/-! ## What the steps of a sender leave alone -/

def PeerSyncState.Keeps (state next : PeerSyncState) : Prop :=
  next.generation = state.generation ∧
    (next.recoverySnapshot = state.recoverySnapshot ∨ next.recoverySnapshot = none)

namespace PeerSyncState

lemma Keeps.refl (state : PeerSyncState) : state.Keeps state := ⟨rfl, .inl rfl⟩

lemma keeps_acknowledgeRecoveryCursor (state : PeerSyncState) (generation boundaryLsn : Nat) :
    state.Keeps (state.acknowledgeRecoveryCursor generation boundaryLsn) := by
  unfold acknowledgeRecoveryCursor
  split
  · exact ⟨rfl, .inl rfl⟩
  · exact Keeps.refl state

section

variable (state : PeerSyncState) (now : Duration)

lemma keeps_notePeerSuccess : state.Keeps (state.notePeerSuccess now) := by
  unfold notePeerSuccess
  split
  · exact ⟨rfl, .inl rfl⟩
  · exact Keeps.refl state

lemma keeps_begin : state.Keeps (state.begin now).2 := by
  unfold begin
  split
  · exact ⟨rfl, .inl rfl⟩
  · exact ⟨rfl, .inl rfl⟩

lemma keeps_join (recovery : Option RecoveryContext) (outcome : Bool × Option RecoveryProof) :
    state.Keeps (state.join now recovery outcome) := by
  unfold join
  split
  · exact ⟨rfl, .inl rfl⟩
  cases recovery with
  | none => exact ⟨rfl, .inl rfl⟩
  | some context =>
    dsimp only
    split
    · exact ⟨rfl, .inr rfl⟩
    · exact ⟨rfl, .inl rfl⟩

lemma keeps_settle (recovery : Option RecoveryContext)
    (outcome : Option (Bool × Option RecoveryProof)) :
    state.Keeps (state.settle now recovery outcome) := by
  cases outcome with
  | none => exact ⟨rfl, .inl rfl⟩
  | some outcome => exact state.keeps_join now recovery outcome

end

lemma requestFullSync_cases (state : PeerSyncState) (now : Duration) (boundaryLsn : Nat)
    (snapshot : AworsetSnapshot) (recoveryId : Uuid) :
    let next := state.requestFullSync now boundaryLsn snapshot recoveryId
    next = state ∨ next.generation = state.generation + 1 ∧
      ∃ canonical, snapshot.canonicalSnapshot = .ok canonical ∧
        next.recoverySnapshot = some canonical := by
  dsimp only
  unfold requestFullSync
  split
  · exact .inl rfl
  split
  · exact .inl rfl
  next canonical hcanonical =>
    split
    · exact .inl rfl
    · exact .inr ⟨rfl, canonical, hcanonical, rfl⟩

end PeerSyncState

/-! ## Runs of a sender -/

/-- What happens at a sender. -/
inductive SenderAction where
  | change (call : BlocklistCall)
  | capture (order : IterOrder BlockKey)
  | request (peer capture boundaryLsn : Nat) (now : Duration) (recoveryId : Uuid)
  | condition (peer : Nat) (condition : SyncCondition) (now : Duration)
  | success (peer : Nat) (now : Duration)
  | begin (peer : Nat) (now : Duration)
  | finish (peer : Nat) (order : IterOrder BlockKey) (answers : SyncAnswers)
  | join (peer : Nat) (now : Duration)
  | acknowledgeCursor (peer generation boundaryLsn : Nat)

structure SenderTrace where
  sender : MeshSender
  now : Nat
  captures : List (Nat × AworsetSnapshot)
  raisedAt : BlockKey → Nat
  takenAt : Nat → Nat → Nat

namespace SenderTrace

def start (sender : MeshSender) : SenderTrace where
  sender := sender
  now := 0
  captures := []
  raisedAt := fun _ => 0
  takenAt := fun _ _ => 0

/-- A recovery is requested. If it is taken, it is noted when its snapshot was captured. -/
def request (trace : SenderTrace) (peer capture boundaryLsn : Nat) (now : Duration)
    (recoveryId : Uuid) : SenderTrace :=
  match trace.captures[capture]?, trace.sender.peers.lookup peer with
  | some (taken, snapshot), some state =>
    let next := state.requestFullSync now boundaryLsn snapshot recoveryId
    { trace with
      sender := { trace.sender with peers := trace.sender.peers.insert peer next }
      now := trace.now + 1
      takenAt :=
        if next.generation = state.generation then trace.takenAt
        else Function.update trace.takenAt peer
          (Function.update (trace.takenAt peer) next.generation taken) }
  | _, _ => { trace with now := trace.now + 1 }

def step (digest : SnapshotDigest) (trace : SenderTrace) : SenderAction → SenderTrace
  | .change call =>
    let blocklist := trace.sender.replica.blocklist
    { trace with
      sender := { trace.sender with
        replica := { trace.sender.replica with blocklist := blocklist.perform call } }
      now := trace.now + 1
      raisedAt := raisedBy blocklist (blocklist.perform call) trace.raisedAt (trace.now + 1) }
  | .capture order =>
    { trace with
      now := trace.now + 1
      captures := trace.captures ++
        [(trace.now + 1, trace.sender.replica.blocklist.exportSnapshot order)] }
  | .request peer capture boundaryLsn now recoveryId =>
    trace.request peer capture boundaryLsn now recoveryId
  | .condition peer condition now =>
    { trace with
      sender := trace.sender.update peer fun state => state.conditionPeer condition now
      now := trace.now + 1 }
  | .success peer now =>
    { trace with
      sender := trace.sender.update peer fun state => state.notePeerSuccess now
      now := trace.now + 1 }
  | .begin peer now => { trace with sender := trace.sender.begin peer now, now := trace.now + 1 }
  | .finish peer order answers =>
    { trace with sender := trace.sender.finish digest peer order answers, now := trace.now + 1 }
  | .join peer now => { trace with sender := trace.sender.join peer now, now := trace.now + 1 }
  | .acknowledgeCursor peer generation boundaryLsn =>
    { trace with
      sender := trace.sender.update peer fun state =>
        state.acknowledgeRecoveryCursor generation boundaryLsn
      now := trace.now + 1 }

def DatedAt (trace : SenderTrace) (taken : Nat) (snapshot : AworsetSnapshot) : Prop :=
  taken ≤ trace.now ∧ Dates trace.sender.replica.blocklist trace.raisedAt taken snapshot

/-- The times are past, and every snapshot in use was captured when it is noted. -/
structure Sound (trace : SenderTrace) : Prop where
  past (key : BlockKey) : trace.raisedAt key ≤ trace.now
  captured {capture : Nat × AworsetSnapshot} :
    capture ∈ trace.captures → trace.DatedAt capture.1 capture.2
  requested {peer : Nat} {state : PeerSyncState} {snapshot : AworsetSnapshot} :
    trace.sender.peers.lookup peer = some state → state.recoverySnapshot = some snapshot →
      trace.DatedAt (trace.takenAt peer state.generation) snapshot
  sending {peer : Nat} {attempt : SyncAttempt} {outcome : Option (Bool × Option RecoveryProof)}
      {context : RecoveryContext} :
    trace.sender.attempts.lookup peer = some (attempt, outcome) →
      attempt.recovery = some context →
      (∃ state, trace.sender.peers.lookup peer = some state ∧
        context.generation ≤ state.generation) ∧
      ∀ snapshot, attempt.snapshot = some snapshot →
        trace.DatedAt (trace.takenAt peer context.generation) snapshot

lemma DatedAt.later {trace next : SenderTrace} {taken : Nat} {snapshot : AworsetSnapshot}
    (hdated : trace.DatedAt taken snapshot) (hnow : next.now = trace.now + 1)
    (hraised : next.raisedAt = trace.raisedAt)
    (htombstones : next.sender.replica.blocklist.tombstones =
      trace.sender.replica.blocklist.tombstones) : next.DatedAt taken snapshot := by
  unfold DatedAt
  rw [hnow, hraised]
  refine ⟨hdated.1.trans (Nat.le_succ _), fun hheld => hdated.2.held (htombstones ▸ hheld), ?_⟩
  rw [htombstones]
  exact hdated.2.below

namespace Sound

variable {trace : SenderTrace}

section

variable (hsound : trace.Sound)

include hsound

lemma continues {sender : MeshSender}
    (htombstones : sender.replica.blocklist.tombstones = trace.sender.replica.blocklist.tombstones)
    (hcontinues :
      trace.sender.Continues (fun _ => PeerSyncState.Keeps) (fun _ _ _ => True) sender) :
    Sound { trace with sender := sender, now := trace.now + 1 } := by
  have hlater : ∀ {taken : Nat} {snapshot : AworsetSnapshot}, trace.DatedAt taken snapshot →
      DatedAt { trace with sender := sender, now := trace.now + 1 } taken snapshot :=
    fun hdated => hdated.later rfl rfl htombstones
  refine ⟨fun key => (hsound.past key).trans (Nat.le_succ _),
    fun hcapture => hlater (hsound.captured hcapture), ?_, ?_⟩
  · intro peer next snapshot hnext hsnapshot
    obtain ⟨state, hstate, hgeneration, hsame | hnone⟩ := hcontinues.before hnext
    · dsimp only
      rw [hgeneration]
      exact hlater (hsound.requested hstate (hsame ▸ hsnapshot))
    · exact absurd (hnone.symm.trans hsnapshot) nofun
  · intro peer attempt outcome context hattempt hcontext
    -- An attempt that was there before is still dated by the same capture.
    have hearlier : ∀ {earlier : Option (Bool × Option RecoveryProof)},
        trace.sender.attempts.lookup peer = some (attempt, earlier) →
        (∃ state, sender.peers.lookup peer = some state ∧ context.generation ≤ state.generation) ∧
        ∀ snapshot, attempt.snapshot = some snapshot →
          DatedAt { trace with sender := sender, now := trace.now + 1 }
            (trace.takenAt peer context.generation) snapshot := by
      intro earlier hearlier
      obtain ⟨⟨state, hstate, hle⟩, hdated⟩ := hsound.sending hearlier hcontext
      obtain ⟨next, hnext, hkeeps⟩ := hcontinues.after hstate
      exact ⟨⟨next, hnext, hkeeps.1 ▸ hle⟩,
        fun snapshot hsnapshot => hlater (hdated snapshot hsnapshot)⟩
    rcases hcontinues.attempts hattempt with
      hstill | ⟨_, hended, _⟩ | ⟨state, hstate, rfl, _⟩
    · exact hearlier hstill
    · exact hearlier hended
    · have hgenerations := (PeerSyncState.eq_of_context hcontext).1
      obtain ⟨next, hnext, hkeeps⟩ := hcontinues.after hstate
      refine ⟨⟨next, hnext, (hgenerations.trans hkeeps.1.symm).le⟩, fun snapshot hsnapshot => ?_⟩
      dsimp only
      rw [hgenerations]
      exact hlater (hsound.requested hstate hsnapshot)

variable (peer : Nat) (digest : SnapshotDigest)

lemma update {change : PeerSyncState → PeerSyncState}
    (hkeeps : ∀ state, PeerSyncState.Keeps state (change state)) :
    Sound { trace with sender := trace.sender.update peer change, now := trace.now + 1 } :=
  hsound.continues
    (congrArg (fun replica => replica.blocklist.tombstones)
      (trace.sender.replica_update peer change))
    (MeshSender.continues_update (fun _ => PeerSyncState.Keeps.refl) trace.sender peer
      fun state _ => hkeeps state)

lemma change (call : BlocklistCall) : (trace.step digest (.change call)).Sound := by
  have hlater : ∀ {taken : Nat} {snapshot : AworsetSnapshot}, trace.DatedAt taken snapshot →
      (trace.step digest (.change call)).DatedAt taken snapshot :=
    fun hdated => ⟨hdated.1.trans (Nat.le_succ _),
      hdated.2.change call (Nat.lt_succ_of_le hdated.1)⟩
  refine ⟨?_, fun hcapture => hlater (hsound.captured hcapture),
    fun hstate hsnapshot => hlater (hsound.requested hstate hsnapshot), ?_⟩
  · intro key
    change raisedBy _ _ trace.raisedAt (trace.now + 1) key ≤ trace.now + 1
    unfold raisedBy
    split
    · exact (hsound.past key).trans (Nat.le_succ _)
    · exact le_rfl
  · intro peer attempt outcome context hattempt hcontext
    obtain ⟨hstate, hdated⟩ := hsound.sending hattempt hcontext
    exact ⟨hstate, fun snapshot hsnapshot => hlater (hdated snapshot hsnapshot)⟩

lemma capture (order : IterOrder BlockKey) : (trace.step digest (.capture order)).Sound := by
  have hlater : ∀ {taken : Nat} {snapshot : AworsetSnapshot}, trace.DatedAt taken snapshot →
      (trace.step digest (.capture order)).DatedAt taken snapshot :=
    fun hdated => hdated.later rfl rfl rfl
  refine ⟨fun key => (hsound.past key).trans (Nat.le_succ _), ?_,
    fun hstate hsnapshot => hlater (hsound.requested hstate hsnapshot), ?_⟩
  · intro taken hcapture
    rcases List.mem_append.mp hcapture with hearlier | hnew
    · exact hlater (hsound.captured hearlier)
    · cases List.mem_singleton.mp hnew
      exact ⟨le_rfl, Dates.capture (fun key => (hsound.past key).trans (Nat.le_succ _)) order⟩
  · intro peer attempt outcome context hattempt hcontext
    obtain ⟨hstate, hdated⟩ := hsound.sending hattempt hcontext
    exact ⟨hstate, fun snapshot hsnapshot => hlater (hdated snapshot hsnapshot)⟩

lemma request (capture boundaryLsn : Nat) (now : Duration) (recoveryId : Uuid) :
    (trace.request peer capture boundaryLsn now recoveryId).Sound := by
  unfold SenderTrace.request
  split
  next taken snapshot state hcapture hstate =>
    have hdates := hsound.captured (List.mem_of_getElem? hcapture)
    dsimp only
    rcases state.requestFullSync_cases now boundaryLsn snapshot recoveryId with
      hsame | ⟨hnext, canonical, hcanonical, hfixed⟩
    · rw [hsame, if_pos rfl]
      exact hsound.continues rfl
        ⟨MeshSender.rel_insert (fun _ => PeerSyncState.Keeps.refl) hstate
          (PeerSyncState.Keeps.refl state), .inl⟩
    · rw [if_neg (by omega)]
      generalize state.requestFullSync now boundaryLsn snapshot recoveryId = next at hnext hfixed ⊢
      -- the new generation is above those of the peer's state and of its attempt
      have hearlier : ∀ {other generation : Nat},
          (other = peer → generation ≤ state.generation) →
          Function.update trace.takenAt peer
            (Function.update (trace.takenAt peer) next.generation taken) other generation =
              trace.takenAt other generation := by
        intro other generation hle
        by_cases hother : other = peer
        · have hgeneration : generation ≠ next.generation := by
            have := hle hother
            omega
          rw [hother, update_self, update_of_ne hgeneration]
        · rw [update_of_ne hother]
      refine ⟨fun key => (hsound.past key).trans (Nat.le_succ _),
        fun hmem => (hsound.captured hmem).later rfl rfl rfl, ?_, ?_⟩
      · intro other found fixed hfound hrecovery
        dsimp only at hfound ⊢
        rw [Table.lookup_insert_eq] at hfound
        split at hfound
        next heq =>
          cases hfound
          cases hfixed.symm.trans hrecovery
          rw [heq, update_self, update_self]
          exact DatedAt.later ⟨hdates.1, hdates.2.canonical hcanonical⟩ rfl rfl rfl
        next hne =>
          rw [hearlier fun heq => absurd heq hne]
          exact (hsound.requested hfound hrecovery).later rfl rfl rfl
      · intro other attempt outcome context hattempt hcontext
        obtain ⟨⟨found, hfound, hle⟩, hdated⟩ := hsound.sending hattempt hcontext
        dsimp only
        refine ⟨?_, fun fixed hrecovery => ?_⟩
        · rw [Table.lookup_insert_eq]
          split
          next heq =>
            rw [heq] at hfound
            cases hstate.symm.trans hfound
            exact ⟨next, rfl, by omega⟩
          · exact ⟨found, hfound, hle⟩
        · rw [hearlier]
          · exact (hdated fixed hrecovery).later rfl rfl rfl
          · rintro rfl
            cases hstate.symm.trans hfound
            exact hle
  · exact hsound.continues rfl
      (MeshSender.Continues.refl (fun _ => PeerSyncState.Keeps.refl) trace.sender)

lemma step (action : SenderAction) : (trace.step digest action).Sound := by
  cases action with
  | change call => exact hsound.change digest call
  | capture order => exact hsound.capture digest order
  | request peer capture boundaryLsn now recoveryId =>
    exact hsound.request peer capture boundaryLsn now recoveryId
  | condition peer condition now => exact hsound.update peer fun _ => ⟨rfl, .inl rfl⟩
  | success peer now => exact hsound.update peer fun state => state.keeps_notePeerSuccess now
  | begin peer now =>
    exact hsound.continues
      (congrArg (fun replica => replica.blocklist.tombstones) (trace.sender.replica_begin peer now))
      (MeshSender.continues_begin (fun _ => PeerSyncState.Keeps.refl) trace.sender peer now
        fun state => state.keeps_begin now)
  | finish peer order answers =>
    refine hsound.continues ?_
      (MeshSender.continues_finish (fun _ => PeerSyncState.Keeps.refl) digest trace.sender peer
        order answers fun _ _ => trivial)
    rcases trace.sender.replica_finish digest peer order answers with
      hsame | ⟨_, _, _, _, _, _, hended⟩
    · rw [hsame]
    · rw [hended]
      rfl
  | join peer now =>
    exact hsound.continues
      (congrArg (fun replica => replica.blocklist.tombstones) (trace.sender.replica_join peer now))
      (MeshSender.continues_join (fun _ => PeerSyncState.Keeps.refl) trace.sender peer now
        fun attempt outcome _ state => state.keeps_settle now attempt.recovery outcome)
  | acknowledgeCursor peer generation boundaryLsn =>
    exact hsound.update peer fun state =>
      state.keeps_acknowledgeRecoveryCursor generation boundaryLsn

end

end Sound

end SenderTrace

/-- No recovery is under way. -/
structure MeshSender.Idle (sender : MeshSender) : Prop where
  peers {peer : Nat} {state : PeerSyncState} :
    sender.peers.lookup peer = some state → state.recoverySnapshot = none
  attempts : sender.attempts = ∅

namespace SenderTrace

lemma sound_start {sender : MeshSender} (hidle : sender.Idle) : (start sender).Sound where
  past _ := le_rfl
  captured := nofun
  requested hstate hsnapshot := absurd ((hidle.peers hstate).symm.trans hsnapshot) nofun
  sending := by
    intro peer attempt outcome context hattempt
    change sender.attempts.lookup peer = _ at hattempt
    rw [hidle.attempts] at hattempt
    nomatch hattempt

/-! ## The acknowledgement -/

abbrev epochs (trace : SenderTrace) : Table Nat Nat := trace.sender.replica.blocklist.peerEpochs

abbrev tombstones (trace : SenderTrace) : Table BlockKey TombstoneState :=
  trace.sender.replica.blocklist.tombstones

end SenderTrace

lemma MeshReplica.epochOf_peerAcknowledged (replica : MeshReplica) (peer ackedLsn : Nat)
    {nodeId : Nat}
    (hraised : epochOf replica.blocklist.peerEpochs nodeId <
      epochOf (replica.peerAcknowledged peer ackedLsn).blocklist.peerEpochs nodeId) :
    nodeId = peer ∧
      epochOf (replica.peerAcknowledged peer ackedLsn).blocklist.peerEpochs nodeId =
        epochOf replica.blocklist.peerEpochs nodeId + 1 := by
  revert hraised
  unfold peerAcknowledged epochOf
  dsimp only
  rw [Table.lookup_insert_eq]
  split
  next heq =>
    rw [heq, Option.getD_some, satAdd]
    intro hraised
    refine ⟨rfl, ?_⟩
    split at hraised
    next hnewer =>
      rw [if_pos hnewer]
      omega
    · exact absurd hraised (Nat.lt_irrefl _)
  · exact fun hraised => absurd hraised (Nat.lt_irrefl _)

namespace SenderTrace

lemma raise_cases (digest : SnapshotDigest) (trace : SenderTrace) (action : SenderAction)
    {nodeId : Nat}
    (hraised : epochOf trace.epochs nodeId < epochOf (trace.step digest action).epochs nodeId) :
    ∃ peer order answers snapshot context, action = .finish peer order answers ∧
      trace.sender.attempts.lookup peer = some (⟨some snapshot, some context⟩, none) ∧
      trace.sender.nodeIds.lookup peer = some nodeId ∧
      (SyncAttempt.sendRecovery digest snapshot context answers).1 ∧
      epochOf (trace.step digest action).epochs nodeId = epochOf trace.epochs nodeId + 1 := by
  have hstill : ∀ {next : SenderTrace}, next.epochs = trace.epochs →
      ¬epochOf trace.epochs nodeId < epochOf next.epochs nodeId := by
    intro next hsame
    rw [hsame]
    exact Nat.lt_irrefl _
  have hreplica : ∀ {next : SenderTrace}, next.sender.replica = trace.sender.replica →
      ¬epochOf trace.epochs nodeId < epochOf next.epochs nodeId :=
    fun hsame => hstill (congrArg (fun replica => replica.blocklist.peerEpochs) hsame)
  -- Only the end of an attempt writes the epochs.
  cases action with
  | change call =>
    exact absurd hraised (hstill (stamp_perform trace.sender.replica.blocklist call).1)
  | capture order => exact absurd hraised (hreplica rfl)
  | request peer capture boundaryLsn now recoveryId =>
    refine absurd hraised (hreplica ?_)
    change (trace.request peer capture boundaryLsn now recoveryId).sender.replica = _
    unfold request
    split
    · rfl
    · rfl
  | condition peer condition now =>
    exact absurd hraised (hreplica (trace.sender.replica_update peer _))
  | success peer now => exact absurd hraised (hreplica (trace.sender.replica_update peer _))
  | begin peer now => exact absurd hraised (hreplica (trace.sender.replica_begin peer now))
  | join peer now => exact absurd hraised (hreplica (trace.sender.replica_join peer now))
  | acknowledgeCursor peer generation boundaryLsn =>
    exact absurd hraised (hreplica (trace.sender.replica_update peer _))
  | finish peer order answers =>
    rcases trace.sender.replica_finish digest peer order answers with
      hsame | ⟨node, snapshot, context, hattempt, hnode, hproved, hended⟩
    · exact absurd hraised (hreplica hsame)
    · change _ < epochOf (trace.sender.finish digest peer order
        answers).replica.blocklist.peerEpochs nodeId at hraised
      rw [hended] at hraised
      obtain ⟨rfl, hnext⟩ :=
        trace.sender.replica.epochOf_peerAcknowledged node context.boundaryLsn hraised
      refine ⟨peer, order, answers, snapshot, context, rfl, hattempt, hnode, hproved, ?_⟩
      change epochOf (trace.sender.finish digest peer order
        answers).replica.blocklist.peerEpochs nodeId = _
      rw [hended]
      exact hnext

/-- When an acknowledgement raises the epoch of a node, it is the proof of a recovery that was
sent to this node, and the snapshot of the recovery has every tombstone that the epoch passes
exactly when none of those stamped with the epoch before was raised after the capture. -/
theorem acknowledgement_covers_iff (digest : SnapshotDigest) {sender : MeshSender}
    (hidle : sender.Idle) (actions : List SenderAction) (action : SenderAction) (nodeId : Nat) :
    let trace := run (step digest) (start sender) actions
    let next := trace.step digest action
    epochOf trace.epochs nodeId < epochOf next.epochs nodeId →
      ∃ peer order answers snapshot context, action = .finish peer order answers ∧
        trace.sender.attempts.lookup peer = some (⟨some snapshot, some context⟩, none) ∧
        trace.sender.nodeIds.lookup peer = some nodeId ∧
        (SyncAttempt.sendRecovery digest snapshot context answers).1 = true ∧
        ((∀ key tombstone, trace.tombstones.lookup key = some tombstone →
            epochOf trace.epochs nodeId ≤ tombstone.createdAtEpoch →
            tombstone.createdAtEpoch < epochOf next.epochs nodeId →
              unblockAt key tombstone ∈ snapshot.unblocks) ↔
          ∀ key tombstone, trace.tombstones.lookup key = some tombstone →
            tombstone.createdAtEpoch = epochOf trace.epochs nodeId →
              trace.raisedAt key ≤ trace.takenAt peer context.generation) := by
  intro trace next hraised
  have hsound : trace.Sound :=
    @run_invariant SenderTrace SenderAction (step digest) Sound
      (fun _ action hsound => hsound.step digest action) _ (sound_start hidle) actions
  obtain ⟨peer, order, answers, snapshot, context, haction, hattempt, hnode, hproved, hnext⟩ :=
    trace.raise_cases digest action hraised
  change epochOf next.epochs nodeId = _ at hnext
  refine ⟨peer, order, answers, snapshot, context, haction, hattempt, hnode, hproved, ?_⟩
  have hdates := ((hsound.sending hattempt rfl).2 snapshot rfl).2
  refine forall₂_congr fun key tombstone => forall_congr' fun htombstone => ?_
  rw [hdates.mem_iff htombstone]
  refine ⟨fun hcovered heq => hcovered heq.ge ?_, fun hearlier hpast hbelow => hearlier ?_⟩
  · omega
  · omega

def pair : MeshSender where
  replica := .new 1 1
  nodeIds := (∅ : Table Nat Nat).insert 7 2
  peers := (∅ : Table Nat PeerSyncState).insert 7 (.new 0)
  attempts := ∅

lemma idle_pair : pair.Idle where
  peers := by
    intro peer state hstate
    rw [pair, Table.lookup_insert_eq] at hstate
    split at hstate
    · cases hstate
      rfl
    · nomatch hstate
  attempts := rfl

def removal : SenderAction := .change (.mergeUnblockDelta 10 ⟨.v4 1, ⟨2, 1, 1⟩⟩)

def recovering : List SenderAction :=
  [.capture BlockKey.sorted, .request 7 0 40 (.fromMillis 0) 9, .begin 7 (.fromMillis 100)]

def recovered (snapshot : AworsetSnapshot) : SenderAction :=
  .finish 7 BlockKey.sorted
    ⟨true, some (some ⟨1, 9, 40, ReceiverTrace.counterDigest.hash snapshot, 1⟩)⟩

/-- The removal is in the snapshot of a recovery that starts after it. -/
theorem acknowledgement_covers_recovered :
    let trace := run (step ReceiverTrace.counterDigest) (start pair) (removal :: recovering)
    let proven := recovered ⟨[], [⟨.v4 1, ⟨2, 1, 1⟩⟩]⟩
    epochOf (trace.step ReceiverTrace.counterDigest proven).epochs 2 = 1 ∧ ∃ snapshot context,
        trace.sender.attempts.lookup 7 = some (⟨some snapshot, some context⟩, none) ∧
        unblockAt ⟨.v4 1, 2, 1⟩ ⟨1, 0⟩ ∈ snapshot.unblocks := by
  intro trace proven
  have hraised : epochOf (trace.step ReceiverTrace.counterDigest proven).epochs 2 = 1 := by
    decide +kernel
  obtain ⟨peer, order, answers, snapshot, context, haction, hattempt, _, _, hiff⟩ :=
    acknowledgement_covers_iff ReceiverTrace.counterDigest idle_pair (removal :: recovering)
      proven 2 (by decide +kernel)
  obtain ⟨rfl, rfl, rfl⟩ := SenderAction.finish.inj haction
  have hrecovery : (trace.sender.attempts.lookup 7).bind (fun attempt => attempt.1.recovery) =
      some ⟨1, 9, 40⟩ := by decide +kernel
  have htaken : trace.takenAt 7 1 = 2 := by decide +kernel
  refine ⟨hraised, snapshot, context, hattempt, hiff.mpr ?_ _ _ ?_ ?_ ?_⟩
  · intro key tombstone _ _
    rw [hattempt] at hrecovery
    cases hrecovery
    change raisedBy _ _ (fun _ => 0) 1 key ≤ trace.takenAt 7 1
    rw [htaken, raisedBy]
    split
    · exact Nat.zero_le 2
    · exact Nat.le_succ 1
  · decide +kernel
  · decide +kernel
  · decide +kernel

/-- A removal that is recorded while the recovery is under way is not in its snapshot, but the
proof raises the epoch past its stamp. -/
theorem later_removal_passed :
    let trace := run (step ReceiverTrace.counterDigest) (start pair) (recovering ++ [removal])
    trace.tombstones.lookup ⟨.v4 1, 2, 1⟩ = some ⟨1, 0⟩ ∧
      epochOf trace.epochs 2 = 0 ∧
      epochOf (trace.step ReceiverTrace.counterDigest (recovered ⟨[], []⟩)).epochs 2 = 1 ∧
      (trace.sender.attempts.lookup 7).map (fun attempt =>
        (attempt.1.snapshot, attempt.1.recovery)) = some (some ⟨[], []⟩, some ⟨1, 9, 40⟩) := by
  decide +kernel

end SenderTrace

end RamShield

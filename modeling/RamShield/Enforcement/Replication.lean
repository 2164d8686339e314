import RamShield.Mesh.PeerSync
import RamShield.Storage.Page

/-! # Replication of the log to the peers

A tick of the enforcement actor takes up the recoveries that a peer has proved and starts
for every other peer a task, which reads a page of the log and sends it, or requests a
recovery if the log no longer has what the peer misses. A cursor is read when its task is
spawned and written when the task ends. Ticks and tasks are cut at the points where they
wait, and between two such points nothing else happens. What the peers answer is
arbitrary.
-/

namespace RamShield

open Foundation Foundation.Machine Ramwal List Table Option

/-! ## Batches -/

structure WalBatch where
  sourceNodeId : Nat
  startLsn : Nat
  endLsn : Nat
  mutations : List ReplicatedMeshMutation

def MeshMutationAction.kind : MeshMutationAction → MeshMutationKind
  | .block => .block
  | .unblock => .unblock

def MeshMutation.replicated (mutation : MeshMutation) (sourceLsn : Nat) :
    Option ReplicatedMeshMutation :=
  if mutation.schemaVersion ≠ 1 ∨ mutation.originNodeId = 0 ∨ mutation.originCounter = 0 ∨
      mutation.originIncarnation = none then none
  else
    mutation.ip.map fun ip =>
      { sourceLsn := sourceLsn
        originNodeId := mutation.originNodeId
        originIncarnation := mutation.originIncarnation
        originCounter := mutation.originCounter
        ip := ip
        action := mutation.action.kind
        createdAtMs := mutation.createdAtMs
        expiresAtMs := mutation.expiresAtMs
        tier := mutation.tier }

def replicatedMutations : List (Nat × WalEntry) → Option (List ReplicatedMeshMutation)
  | [] => some []
  | (sourceLsn, .meshMutation mutation) :: page =>
    match mutation.replicated sourceLsn, replicatedMutations page with
    | some replicated, some mutations => some (replicated :: mutations)
    | _, _ => none
  | _ :: page => replicatedMutations page

/-! ## Tasks and ticks -/

/-- A task waits to run, for its page, with it, to request a recovery, or for its acknowledgement.
-/
inductive PageStage where
  | spawned
  | reading
  | read (page : Except PageError (List (Nat × WalEntry)))
  | requesting (boundaryLsn : Nat) (snapshot : AworsetSnapshot)
  | sending (batch : WalBatch)

structure PageTask where
  cursor : Nat
  stage : PageStage

inductive ReplicationTick where
  | idle
  | acknowledging (peer generation boundaryLsn : Nat)
  | checking (peer : Nat)

structure Replication where
  site : Ramwal.Site
  sender : MeshSender
  oldestLsn : Option Nat
  barrier : Bool
  cursors : Table Nat Nat
  inflight : Table Nat PageTask
  tick : ReplicationTick
  batches : List (Nat × WalBatch)
  proofs : List (Nat × AworsetSnapshot × RecoveryContext)

namespace Replication

variable (state : Replication) (peer : Nat)

def cursor : Nat := (state.cursors.lookup peer).getD 0

def completedRecovery (state : Replication) (peer : Nat) : Option (Nat × Nat) :=
  (state.sender.peers.lookup peer).bind PeerSyncState.completedRecovery

def recoveryCompletionPending (state : Replication) (peer : Nat) : Bool :=
  (state.sender.peers.lookup peer).any PeerSyncState.recoveryCompletionPending

def settle : Replication :=
  match state.tick, state.completedRecovery peer with
  | .idle, some (generation, boundaryLsn) =>
    { state with
      cursors := state.cursors.insert peer (max (state.cursor peer) boundaryLsn)
      tick := .acknowledging peer generation boundaryLsn }
  | .idle, none => { state with tick := .checking peer }
  | _, _ => state

def acknowledge : Replication :=
  match state.tick with
  | .acknowledging peer generation boundaryLsn =>
    { state with
      sender := state.sender.update peer fun sync =>
        sync.acknowledgeRecoveryCursor generation boundaryLsn
      tick := .checking peer }
  | _ => state

/-- A tick spawns the task of a peer, unless a recovery is under way or a task in flight. -/
def launch : Replication :=
  match state.tick with
  | .checking peer =>
    if state.recoveryCompletionPending peer ∨ (state.inflight.lookup peer).isSome then
      { state with tick := .idle }
    else
      { state with
        inflight := state.inflight.insert peer ⟨state.cursor peer, .spawned⟩
        tick := .idle }
  | _ => state

def captureMeshRecoverySnapshot (order : IterOrder BlockKey) : Option (Nat × AworsetSnapshot) :=
  if state.barrier then
    some (state.site.durableLsn, state.sender.replica.blocklist.exportSnapshot order)
  else none

def captureStage (order : IterOrder BlockKey) : Option PageStage :=
  (state.captureMeshRecoverySnapshot order).map fun capture => .requesting capture.1 capture.2

def startStage (cursor : Nat) (order : IterOrder BlockKey) : Option PageStage :=
  let latestLsn := state.site.durableLsn
  if latestLsn ≤ cursor then none
  else
    let historyGap :=
      match state.oldestLsn with
      | some oldest => decide (satAdd cursor 1 < oldest)
      | none => decide (cursor < latestLsn)
    if historyGap then state.captureStage order else some .reading

def pageStage (cursor : Nat) (order : IterOrder BlockKey) :
    Except PageError (List (Nat × WalEntry)) → Option PageStage
  | .error _ => none
  | .ok [] => state.captureStage order
  | .ok (first :: rest) =>
    if satAdd cursor 1 < first.1 then state.captureStage order
    else
      (replicatedMutations (first :: rest)).map fun mutations => .sending
        { sourceNodeId := state.sender.replica.blocklist.nodeId
          startLsn := first.1
          endLsn := (((first :: rest).getLast?).map Prod.fst).getD cursor
          mutations := mutations }

def proceed (peer cursor : Nat) : Option PageStage → Replication
  | some stage => { state with inflight := state.inflight.insert peer ⟨cursor, stage⟩ }
  | none => { state with inflight := state.inflight.erase peer }

def conclude (batch : WalBatch) (answer : Option (Option Nat)) : Replication :=
  if answer = some (some batch.endLsn) then
    { state with
      cursors := state.cursors.insert peer batch.endLsn
      inflight := state.inflight.erase peer
      batches := state.batches ++ [(peer, batch)] }
  else { state with inflight := state.inflight.erase peer }

def pageLimit : Nat := 16

def startTask (order : IterOrder BlockKey) : Replication :=
  match state.inflight.lookup peer with
  | some ⟨cursor, .spawned⟩ => state.proceed peer cursor (state.startStage cursor order)
  | _ => state

def readPage (format : Format) (decode : List UInt8 → Option WalEntry)
    (state : Replication) (peer : Nat) : Replication :=
  match state.inflight.lookup peer with
  | some ⟨cursor, .reading⟩ =>
    state.proceed peer cursor (some (.read
      ((replayWithLsnPage format decode state.site.disk cursor pageLimit).map Prod.fst)))
  | _ => state

def resumeTask (order : IterOrder BlockKey) : Replication :=
  match state.inflight.lookup peer with
  | some ⟨cursor, .read page⟩ => state.proceed peer cursor (state.pageStage cursor order page)
  | _ => state

def requestRecovery (now : Duration) (recoveryId : Uuid) : Replication :=
  match state.inflight.lookup peer with
  | some ⟨_, .requesting boundaryLsn snapshot⟩ =>
    { state with
      sender := state.sender.update peer fun sync =>
        sync.requestFullSync now boundaryLsn snapshot recoveryId
      inflight := state.inflight.erase peer }
  | _ => state

def answerBatch (answer : Option (Option Nat)) : Replication :=
  match state.inflight.lookup peer with
  | some ⟨_, .sending batch⟩ => state.conclude peer batch answer
  | _ => state

def provedBy (digest : SnapshotDigest) (state : Replication) (peer : Nat) (answers : SyncAnswers) :
    List (Nat × AworsetSnapshot × RecoveryContext) :=
  match state.sender.attempts.lookup peer with
  | some (⟨some snapshot, some context⟩, none) =>
    if (SyncAttempt.sendRecovery digest snapshot context answers).1 then
      [(peer, snapshot, context)]
    else []
  | _ => []

end Replication

/-- Operations of the log and the blocklist, synchronisation, and the parts of ticks and tasks. -/
inductive ReplicationAction where
  | wal (op : WalOp)
  | change (call : BlocklistCall)
  | condition (peer : Nat) (condition : SyncCondition) (now : Duration)
  | success (peer : Nat) (now : Duration)
  | begin (peer : Nat) (now : Duration)
  | finish (peer : Nat) (order : IterOrder BlockKey) (answers : SyncAnswers)
  | join (peer : Nat) (now : Duration)
  | settle (peer : Nat)
  | acknowledge
  | launch
  | start (peer : Nat) (order : IterOrder BlockKey)
  | read (peer : Nat)
  | resume (peer : Nat) (order : IterOrder BlockKey)
  | request (peer : Nat) (now : Duration) (recoveryId : Uuid)
  | answered (peer : Nat) (answer : Option (Option Nat))
  | abandon (peer : Nat)

namespace Replication

def step (format : Format) (decode : List UInt8 → Option WalEntry)
    (digest : SnapshotDigest) (state : Replication) : ReplicationAction → Replication
  | .wal op => { state with site := state.site.step format op }
  | .change call =>
    { state with sender := { state.sender with
      replica := { state.sender.replica with
        blocklist := state.sender.replica.blocklist.perform call } } }
  | .condition peer condition now =>
    { state with
      sender := state.sender.update peer fun sync => sync.conditionPeer condition now }
  | .success peer now =>
    { state with sender := state.sender.update peer fun sync => sync.notePeerSuccess now }
  | .begin peer now => { state with sender := state.sender.begin peer now }
  | .finish peer order answers =>
    { state with
      sender := state.sender.finish digest peer order answers
      proofs := state.proofs ++ state.provedBy digest peer answers }
  | .join peer now => { state with sender := state.sender.join peer now }
  | .settle peer => state.settle peer
  | .acknowledge => state.acknowledge
  | .launch => state.launch
  | .start peer order => state.startTask peer order
  | .read peer => state.readPage format decode peer
  | .resume peer order => state.resumeTask peer order
  | .request peer now recoveryId => state.requestRecovery peer now recoveryId
  | .answered peer answer => state.answerBatch peer answer
  -- the page could not be read, or the task was dropped
  | .abandon peer => { state with inflight := state.inflight.erase peer }

end Replication

/-! ## What a batch contains -/

lemma mem_replicatedMutations {page : List (Nat × WalEntry)}
    {mutations : List ReplicatedMeshMutation} (hpage : replicatedMutations page = some mutations)
    {lsn : Nat} {mutation : MeshMutation} (hmem : (lsn, .meshMutation mutation) ∈ page) :
    ∃ replicated ∈ mutations, mutation.replicated lsn = some replicated := by
  induction page generalizing mutations with
  | nil => nomatch hmem
  | cons item page ih =>
    rw [mem_cons] at hmem
    unfold replicatedMutations at hpage
    split at hpage
    next heq => nomatch heq
    next sourceLsn other rest heq =>
      cases heq
      split at hpage
      next replicated others hreplicated hrest =>
        cases hpage
        rcases hmem with heq | hmem
        · cases heq
          exact ⟨replicated, mem_cons_self, hreplicated⟩
        · obtain ⟨found, hfound, hsame⟩ := ih hrest hmem
          exact ⟨found, mem_cons_of_mem _ hfound, hsame⟩
      · nomatch hpage
    next other rest hother heq =>
      cases heq
      rcases hmem with heq | hmem
      · exact absurd heq.symm (hother lsn mutation)
      · exact ih hpage hmem

structure WalBatch.Complete (decode : List UInt8 → Option WalEntry)
    (appended : List Ramwal.Entry) (cursor : Nat) (batch : WalBatch) : Prop where
  forward : cursor ≤ batch.endLsn
  inside : batch.endLsn ≤ appended.length
  mutations {entry : Ramwal.Entry} {mutation : MeshMutation} : entry ∈ appended →
    cursor < entry.lsn → entry.lsn ≤ batch.endLsn →
    decode entry.payload = some (.meshMutation mutation) →
    ∃ replicated ∈ batch.mutations, mutation.replicated entry.lsn = some replicated

namespace IsPage

variable {decode : List UInt8 → Option WalEntry} {appended window : List Ramwal.Entry}
  {cursor : Nat} {page : List (Nat × WalEntry)}

section

variable (hpage : IsPage decode appended cursor window page)

include hpage

lemma grow {later : List Ramwal.Entry} (hgrows : appended <+: later) :
    IsPage decode later cursor window page :=
  ⟨hpage.consecutive.trans hgrows.isInfix, hpage.after, hpage.decoded⟩

lemma mem_page {entry : Ramwal.Entry} (hmem : entry ∈ window) {content : WalEntry}
    (hcontent : decode entry.payload = some content) :
    (entry.lsn, content) ∈ page := by
  obtain ⟨item, hitem, hlsn, hdecoded⟩ := Wal.exists_mem_of_forall₂ hpage.decoded hmem
  have hpair : item = (entry.lsn, content) :=
    Prod.ext hlsn (Option.some.inj (hdecoded.symm.trans hcontent))
  exact hpair ▸ hitem

lemma lsns {before after : List Ramwal.Entry} (happended : before ++ window ++ after = appended)
    (hnumbered : Numbered appended) :
    page.map Prod.fst = List.range' (before.length + 1) window.length := by
  have hlsns : List.Forall₂ (· = ·) (window.map (·.lsn)) (page.map Prod.fst) := by
    rw [List.forall₂_map_left_iff, List.forall₂_map_right_iff]
    exact hpage.decoded.imp fun _ _ hitem => hitem.1.symm
  rw [List.forall₂_eq_eq_eq] at hlsns
  rw [← hlsns]
  rw [← happended, Numbered, length_append, length_append, ← List.range'_append_1,
    ← List.range'_append_1, map_append, map_append] at hnumbered
  have hfront := append_inj_left hnumbered (by simp)
  rw [Nat.add_comm before.length 1]
  exact append_inj_right hfront (by simp)

end

lemma complete {first : Nat × WalEntry} {rest : List (Nat × WalEntry)}
    (hpage : IsPage decode appended cursor window (first :: rest))
    (hnumbered : Numbered appended) (hroom : appended.length < u64Max)
    (hnext : ¬satAdd cursor 1 < first.1) {mutations : List ReplicatedMeshMutation}
    (hmutations : replicatedMutations (first :: rest) = some mutations) (nodeId : Nat) :
    WalBatch.Complete decode appended cursor
      { sourceNodeId := nodeId
        startLsn := first.1
        endLsn := (((first :: rest).getLast?).map Prod.fst).getD cursor
        mutations := mutations } := by
  obtain ⟨before, after, happended⟩ := hpage.consecutive
  have hlsns := hpage.lsns happended hnumbered
  have hlength : window.length ≠ 0 := by
    rw [hpage.decoded.length_eq]
    exact Nat.succ_ne_zero _
  have hfirst : first.1 = before.length + 1 := by
    have hhead := congrArg List.head? hlsns
    rw [List.head?_range', if_neg hlength] at hhead
    exact Option.some.inj hhead
  have hend : (((first :: rest).getLast?).map Prod.fst).getD cursor =
      before.length + window.length := by
    rw [← List.getLast?_map, hlsns, List.getLast?_range', if_neg hlength, getD_some]
    omega
  have htotal : before.length + window.length ≤ appended.length := by
    rw [← happended, length_append, length_append]
    exact Nat.le_add_right _ _
  have hcursor : before.length = cursor := by
    obtain ⟨entry, hentry, hlsn, _⟩ : ∃ entry ∈ window, first.1 = entry.lsn ∧ _ := by
      obtain ⟨entry, others, hitem, -, hwindow⟩ := List.forall₂_cons_right_iff.mp hpage.decoded
      exact ⟨entry, hwindow ▸ mem_cons_self, hitem⟩
    have hafter := hpage.after entry hentry
    rw [satAdd] at hnext
    omega
  rw [hend]
  refine ⟨by dsimp only; omega, htotal, ?_⟩
  intro entry mutation hmem hafter hbefore hdecoded
  dsimp only at hbefore ⊢
  refine mem_replicatedMutations hmutations (hpage.mem_page ?_ hdecoded)
  -- the records of the log outside the window are outside the bounds
  have hfront := hnumbered.mem_of_prefix ⟨after, happended⟩ hmem (by simpa using hbefore)
  refine (mem_append.mp hfront).resolve_left fun hearlier => ?_
  obtain ⟨front, back, rfl⟩ := append_of_mem hearlier
  rw [← happended] at hnumbered
  simp only [append_assoc, cons_append] at hnumbered
  have hlsn := hnumbered.lsn_eq
  rw [length_append, length_cons] at hcursor
  omega

end IsPage

lemma WalBatch.Complete.grow {decode : List UInt8 → Option WalEntry}
    {appended later : List Ramwal.Entry} {cursor : Nat} {batch : WalBatch}
    (hcomplete : batch.Complete decode appended cursor) (hgrows : appended <+: later)
    (hnumbered : Numbered later) : batch.Complete decode later cursor where
  forward := hcomplete.forward
  inside := hcomplete.inside.trans hgrows.length_le
  mutations hmem hafter hbefore hdecoded :=
    hcomplete.mutations (hnumbered.mem_of_prefix hgrows hmem (hbefore.trans hcomplete.inside))
      hafter hbefore hdecoded

/-! ## The invariant -/

def PageTask.Sound (decode : List UInt8 → Option WalEntry) (appended : List Ramwal.Entry)
    (task : PageTask) : Prop :=
  match task.stage with
  | .spawned | .reading | .read (.error _) => True
  | .read (.ok page) => ∃ window, IsPage decode appended task.cursor window page
  | .requesting boundaryLsn _ => boundaryLsn ≤ appended.length
  | .sending batch => batch.Complete decode appended task.cursor

lemma PageTask.Sound.grow {decode : List UInt8 → Option WalEntry}
    {appended later : List Ramwal.Entry} {task : PageTask} (hsound : task.Sound decode appended)
    (hgrows : appended <+: later) (hnumbered : Numbered later) :
    task.Sound decode later := by
  obtain ⟨cursor, stage⟩ := task
  cases stage with
  | spawned => trivial
  | reading => trivial
  | read page =>
    cases page with
    | error error => trivial
    | ok page =>
      obtain ⟨window, hpage⟩ := hsound
      exact ⟨window, hpage.grow hgrows⟩
  | requesting boundaryLsn snapshot => exact Nat.le_trans hsound hgrows.length_le
  | sending batch => exact WalBatch.Complete.grow hsound hgrows hnumbered

namespace Replication

/-- The record was in an acknowledged batch, or a recovery beyond it was proved. -/
def Delivered (state : Replication) (peer : Nat) (entry : Ramwal.Entry) (mutation : MeshMutation) :
    Prop :=
  (∃ batch replicated, (peer, batch) ∈ state.batches ∧ replicated ∈ batch.mutations ∧
    mutation.replicated entry.lsn = some replicated) ∨
  ∃ snapshot context, (peer, snapshot, context) ∈ state.proofs ∧ entry.lsn ≤ context.boundaryLsn

def Covered (decode : List UInt8 → Option WalEntry) (state : Replication) (peer lsn : Nat) :
    Prop :=
  ∀ entry ∈ state.site.appended, entry.lsn ≤ lsn → ∀ mutation,
    decode entry.payload = some (.meshMutation mutation) → state.Delivered peer entry mutation

def Proved (proofs : List (Nat × AworsetSnapshot × RecoveryContext)) (peer boundaryLsn : Nat) :
    Prop :=
  ∃ snapshot context, (peer, snapshot, context) ∈ proofs ∧ context.boundaryLsn = boundaryLsn

structure Awaits (length : Nat) (proofs : List (Nat × AworsetSnapshot × RecoveryContext))
    (peer : Nat) (sync : PeerSyncState) : Prop where
  boundary {boundaryLsn : Nat} : sync.recoveryBoundaryLsn = some boundaryLsn → boundaryLsn ≤ length
  completed {generation boundaryLsn : Nat} :
    sync.completedRecovery = some (generation, boundaryLsn) →
      boundaryLsn ≤ length ∧ Proved proofs peer boundaryLsn

/-- A peer with a task in flight has no recovery, and the cursor the task was spawned with. -/
structure Sound (format : Format) (decode : List UInt8 → Option WalEntry)
    (state : Replication) : Prop where
  log : ∃ ckptLsn, Holds format state.site ckptLsn
  inside (peer : Nat) : state.cursor peer ≤ state.site.appended.length
  covered (peer : Nat) : state.Covered decode peer (state.cursor peer)
  tasks {peer : Nat} {task : PageTask} : state.inflight.lookup peer = some task →
    task.cursor = state.cursor peer ∧ state.recoveryCompletionPending peer = false ∧
      task.Sound decode state.site.appended
  peers {peer : Nat} {sync : PeerSyncState} : state.sender.peers.lookup peer = some sync →
    Awaits state.site.appended.length state.proofs peer sync
  attempts {peer : Nat} {attempt : SyncAttempt} {outcome : Option (Bool × Option RecoveryProof)}
      {context : RecoveryContext} :
    state.sender.attempts.lookup peer = some (attempt, outcome) →
      attempt.recovery = some context →
      context.boundaryLsn ≤ state.site.appended.length ∧
        ∀ proof, outcome = some (true, some proof) → Proved state.proofs peer context.boundaryLsn

variable {format : Format} {decode : List UInt8 → Option WalEntry} {state : Replication}
variable {peer : Nat} {order : IterOrder BlockKey} {stage : PageStage}
variable {proofs later : List (Nat × AworsetSnapshot × RecoveryContext)}

variable (state) in
lemma cursor_insert (peer lsn other : Nat) :
    cursor { state with cursors := state.cursors.insert peer lsn } other =
      if other = peer then lsn else state.cursor other := by
  rw [cursor, lookup_insert_eq]
  split
  · rfl
  · rfl

lemma Proved.grow {boundaryLsn : Nat} (hproved : Proved proofs peer boundaryLsn)
    (hgrows : proofs ⊆ later) : Proved later peer boundaryLsn := by
  obtain ⟨snapshot, context, hmem, hboundary⟩ := hproved
  exact ⟨snapshot, context, hgrows hmem, hboundary⟩

lemma Awaits.grow {length larger : Nat} {sync : PeerSyncState}
    (hawaits : Awaits length proofs peer sync) (hlength : length ≤ larger)
    (hgrows : proofs ⊆ later) : Awaits larger later peer sync where
  boundary hboundary := (hawaits.boundary hboundary).trans hlength
  completed hcompleted :=
    ⟨(hawaits.completed hcompleted).1.trans hlength, (hawaits.completed hcompleted).2.grow hgrows⟩

namespace Sound

/-- More is logged, acknowledged or proved. -/
lemma grow (hsound : state.Sound format decode) {site : Ramwal.Site}
    (hlog : ∃ ckptLsn, Holds format site ckptLsn)
    (happended : state.site.appended <+: site.appended)
    {batches : List (Nat × WalBatch)} (hbatches : state.batches ⊆ batches)
    {proofs : List (Nat × AworsetSnapshot × RecoveryContext)} (hproofs : state.proofs ⊆ proofs) :
    Sound format decode { state with site := site, batches := batches, proofs := proofs } := by
  have hnumbered : Numbered site.appended := by
    obtain ⟨ckptLsn, hholds⟩ := hlog
    exact hholds.numbered
  refine ⟨hlog, fun peer => (hsound.inside peer).trans happended.length_le, ?_, ?_, ?_, ?_⟩
  · intro peer entry hmem hlsn mutation hdecoded
    have hearlier := hnumbered.mem_of_prefix happended hmem (hlsn.trans (hsound.inside peer))
    rcases hsound.covered peer entry hearlier hlsn mutation hdecoded with
      ⟨batch, replicated, hbatch, hfound⟩ | ⟨snapshot, context, hproof, hboundary⟩
    · exact .inl ⟨batch, replicated, hbatches hbatch, hfound⟩
    · exact .inr ⟨snapshot, context, hproofs hproof, hboundary⟩
  · intro peer task htask
    obtain ⟨hcursor, hfree, htask⟩ := hsound.tasks htask
    exact ⟨hcursor, hfree, htask.grow happended hnumbered⟩
  · intro peer sync hsync
    exact (hsound.peers hsync).grow happended.length_le hproofs
  · intro peer attempt outcome context hattempt hcontext
    obtain ⟨hboundary, hproved⟩ := hsound.attempts hattempt hcontext
    exact ⟨hboundary.trans happended.length_le,
      fun proof houtcome => (hproved proof houtcome).grow hproofs⟩

/-- The task of a peer ends. -/
lemma erase (hsound : state.Sound format decode) (peer : Nat) :
    Sound format decode { state with inflight := state.inflight.erase peer } := by
  refine { hsound with tasks := ?_ }
  intro other task htask
  dsimp only at htask
  rw [lookup_erase_eq] at htask
  split at htask
  · nomatch htask
  · exact hsound.tasks htask

lemma insert (hsound : state.Sound format decode) {peer : Nat} {task : PageTask}
    (hcursor : task.cursor = state.cursor peer)
    (hfree : state.recoveryCompletionPending peer = false)
    (htask : task.Sound decode state.site.appended) :
    Sound format decode { state with inflight := state.inflight.insert peer task } := by
  refine { hsound with tasks := ?_ }
  intro other found hfound
  dsimp only at hfound
  rw [lookup_insert_eq] at hfound
  split at hfound
  next heq =>
    subst heq
    cases hfound
    exact ⟨hcursor, hfree, htask⟩
  · exact hsound.tasks hfound

lemma advance (hsound : state.Sound format decode) {peer lsn : Nat}
    (hidle : state.inflight.lookup peer = none) (hinside : lsn ≤ state.site.appended.length)
    (hcovered : state.Covered decode peer lsn) :
    Sound format decode { state with cursors := state.cursors.insert peer lsn } := by
  have hcursor := state.cursor_insert peer lsn
  refine { hsound with inside := fun other => ?_, covered := fun other => ?_, tasks := ?_ }
  · rw [hcursor]
    split
    · exact hinside
    · exact hsound.inside other
  · rw [hcursor]
    split
    next heq => exact heq ▸ hcovered
    · exact hsound.covered other
  · intro other task htask
    rw [hcursor, if_neg]
    · exact hsound.tasks htask
    · rintro rfl
      exact absurd (hidle.symm.trans htask) nofun

end Sound

/-! ## The transport -/

/-- No new recovery beside the peer's task, and what waits stays sound. -/
structure Advances (state : Replication) (peer : Nat) (sync next : PeerSyncState) : Prop where
  pending : next.recoveryCompletionPending = true →
    sync.recoveryCompletionPending = true ∨ state.inflight.lookup peer = none
  awaits : Awaits state.site.appended.length state.proofs peer sync →
    Awaits state.site.appended.length state.proofs peer next

def Ends (state : Replication) (peer : Nat) (attempt : SyncAttempt)
    (result : Bool × Option RecoveryProof) : Prop :=
  ∀ context proof, attempt.recovery = some context → result = (true, some proof) →
    Proved state.proofs peer context.boundaryLsn

namespace Advances

section

variable (state) (peer) (sync : PeerSyncState)

lemma refl : state.Advances peer sync sync := ⟨.inl, id⟩

lemma notePeerSuccess (now : Duration) : state.Advances peer sync (sync.notePeerSuccess now) := by
  unfold PeerSyncState.notePeerSuccess
  split
  · exact ⟨.inl, fun hawaits => { hawaits with }⟩
  · exact refl state peer sync

lemma begin (now : Duration) : state.Advances peer sync (sync.begin now).2 := by
  unfold PeerSyncState.begin
  split
  · exact ⟨.inl, fun hawaits => { hawaits with }⟩
  · exact ⟨.inl, fun hawaits => { hawaits with }⟩

lemma acknowledgeRecoveryCursor (generation boundaryLsn : Nat) :
    state.Advances peer sync (sync.acknowledgeRecoveryCursor generation boundaryLsn) := by
  unfold PeerSyncState.acknowledgeRecoveryCursor
  split
  · refine ⟨fun hpending => .inl ?_, fun hawaits => ⟨hawaits.boundary, nofun⟩⟩
    rw [PeerSyncState.recoveryCompletionPending, isSome_none, Bool.or_false] at hpending
    rw [PeerSyncState.recoveryCompletionPending, hpending, Bool.true_or]
  · exact refl state peer sync

end

lemma settle {state : Replication} {peer : Nat} {attempt : SyncAttempt}
    {outcome : Option (Bool × Option RecoveryProof)}
    (hattempt : ∀ context, attempt.recovery = some context →
      context.boundaryLsn ≤ state.site.appended.length ∧
        ∀ proof, outcome = some (true, some proof) → Proved state.proofs peer context.boundaryLsn)
    (sync : PeerSyncState) (now : Duration) :
    state.Advances peer sync (sync.settle now attempt.recovery outcome) := by
  have hsame : ∀ planner failed, state.Advances peer sync
      { sync with planner := planner, deliveryFailed := failed } :=
    fun _ _ => ⟨.inl, fun hawaits => { hawaits with }⟩
  cases outcome with
  | none => exact hsame _ _
  | some result =>
    obtain ⟨sent, proof⟩ := result
    rw [PeerSyncState.settle, PeerSyncState.join]
    split
    · exact hsame _ _
    generalize hrecovery : attempt.recovery = recovery
    cases recovery with
    | none => exact hsame _ _
    | some context =>
      dsimp only
      split
      next hsuccess =>
        obtain ⟨rfl, hmatches⟩ := Bool.and_eq_true_iff.mp hsuccess
        cases proof with
        | none => nomatch hmatches
        | some proof =>
          obtain ⟨hinside, hproved⟩ := hattempt context hrecovery
          obtain ⟨_, _, _, hboundary, _⟩ := of_decide_eq_true hmatches
          refine ⟨fun _ => .inl ?_, fun _ => ⟨nofun, ?_⟩⟩
          · rw [PeerSyncState.recoveryCompletionPending, hboundary]
            rfl
          · rintro generation boundaryLsn hcompleted
            cases hcompleted
            exact ⟨hinside, hproved proof rfl⟩
      · exact hsame _ _

lemma requestFullSync {state : Replication} {peer : Nat}
    (hidle : state.inflight.lookup peer = none) {boundaryLsn : Nat}
    (hinside : boundaryLsn ≤ state.site.appended.length) (sync : PeerSyncState) (now : Duration)
    (snapshot : AworsetSnapshot) (recoveryId : Uuid) :
    state.Advances peer sync (sync.requestFullSync now boundaryLsn snapshot recoveryId) := by
  refine ⟨fun _ => .inr hidle, fun hawaits => ?_⟩
  unfold PeerSyncState.requestFullSync
  split
  · exact hawaits
  split
  · exact hawaits
  split
  · exact hawaits
  refine ⟨?_, hawaits.completed⟩
  intro boundary hboundary
  cases hboundary
  exact hinside

end Advances

lemma Sound.continues (hsound : state.Sound format decode) {sender : MeshSender}
    (hcontinues : state.sender.Continues state.Advances state.Ends sender) :
    Sound format decode { state with sender := sender } := by
  refine { hsound with tasks := ?_, peers := ?_, attempts := ?_ }
  · intro peer task htask
    obtain ⟨hcursor, hfree, hstage⟩ := hsound.tasks htask
    refine ⟨hcursor, ?_, hstage⟩
    rw [← Bool.not_eq_true]
    intro hpending
    obtain ⟨next, hnext, hnow⟩ := (any_eq_true _ _).mp hpending
    obtain ⟨sync, hsync, hadvances⟩ := hcontinues.before hnext
    rcases hadvances.pending hnow with hbefore | hidle
    · have hwas : state.recoveryCompletionPending peer := by
        rw [recoveryCompletionPending, hsync]
        exact hbefore
      exact absurd (hfree.symm.trans hwas) Bool.false_ne_true
    · exact absurd (hidle.symm.trans htask) nofun
  · intro peer next hnext
    obtain ⟨sync, hsync, hadvances⟩ := hcontinues.before hnext
    exact hadvances.awaits (hsound.peers hsync)
  · intro peer attempt outcome context hattempt hcontext
    rcases hcontinues.attempts hattempt with
      hstill | ⟨result, hstarted, rfl, hends⟩ | ⟨sync, hsync, rfl, rfl⟩
    · exact hsound.attempts hstill hcontext
    · refine ⟨(hsound.attempts hstarted hcontext).1, fun proof houtcome => ?_⟩
      exact hends context proof hcontext (Option.some.inj houtcome)
    · exact ⟨(hsound.peers hsync).boundary (PeerSyncState.eq_of_context hcontext).2, nofun⟩

lemma Sound.update (hsound : state.Sound format decode) (peer : Nat)
    {change : PeerSyncState → PeerSyncState}
    (hchange : ∀ sync, state.Advances peer sync (change sync)) :
    Sound format decode { state with sender := state.sender.update peer change } :=
  hsound.continues (MeshSender.continues_update (Advances.refl state) state.sender peer
    fun sync _ => hchange sync)

lemma ends_of_finish {digest : SnapshotDigest} {attempt : SyncAttempt}
    (hattempt : state.sender.attempts.lookup peer = some (attempt, none)) (live : AworsetSnapshot)
    (answers : SyncAnswers) :
    Ends { state with proofs := state.proofs ++ state.provedBy digest peer answers } peer attempt
      (attempt.sendSyncSnapshot digest live answers) := by
  intro context proof hrecovery hresult
  obtain ⟨snapshot, recovery⟩ := attempt
  cases hrecovery
  cases snapshot with
  | none => nomatch hresult
  | some snapshot =>
    have hsent : (SyncAttempt.sendRecovery digest snapshot context answers).1 :=
      congrArg Prod.fst hresult
    refine ⟨snapshot, context, mem_append_right _ ?_, rfl⟩
    rw [provedBy, hattempt]
    dsimp only
    rw [if_pos hsent]
    exact mem_singleton_self _

lemma Sound.finish (hsound : state.Sound format decode) (digest : SnapshotDigest) (peer : Nat)
    (order : IterOrder BlockKey) (answers : SyncAnswers) :
    (state.step format decode digest (.finish peer order answers)).Sound format decode := by
  have hnoted : Sound format decode
      { state with proofs := state.proofs ++ state.provedBy digest peer answers } :=
    hsound.grow hsound.log prefix_rfl (List.Subset.refl _) (subset_append_left _ _)
  exact hnoted.continues (MeshSender.continues_finish (Advances.refl _) digest state.sender peer
    order answers fun attempt hattempt => ends_of_finish hattempt _ answers)

lemma Sound.join (hsound : state.Sound format decode) (digest : SnapshotDigest) (peer : Nat)
    (now : Duration) : (state.step format decode digest (.join peer now)).Sound format decode :=
  hsound.continues (MeshSender.continues_join (Advances.refl state) state.sender peer now
    fun _ _ hattempt sync =>
      Advances.settle (fun _ hcontext => hsound.attempts hattempt hcontext) sync now)

/-! ## Ticks -/

section

variable (hsound : state.Sound format decode)

include hsound

lemma Sound.idle_of_completed {completion : Nat × Nat}
    (hcompleted : state.completedRecovery peer = some completion) :
    state.inflight.lookup peer = none := by
  obtain ⟨sync, hsync, hsome⟩ := bind_eq_some_iff.mp hcompleted
  cases htask : state.inflight.lookup peer with
  | none => rfl
  | some task =>
    have hfree := (hsound.tasks htask).2.1
    rw [recoveryCompletionPending, hsync, any_some,
      PeerSyncState.recoveryCompletionPending, hsome, isSome_some, Bool.or_true] at hfree
    nomatch hfree

lemma Sound.settle (peer : Nat) : (state.settle peer).Sound format decode := by
  unfold Replication.settle
  split
  next generation boundaryLsn _ hcompleted =>
    obtain ⟨sync, hsync, hsome⟩ := bind_eq_some_iff.mp hcompleted
    obtain ⟨hinside, snapshot, context, hproof, hboundary⟩ := (hsound.peers hsync).completed hsome
    have hadvanced := hsound.advance (hsound.idle_of_completed hcompleted)
      (max_le (hsound.inside peer) hinside) (by
        intro entry hmem hlsn mutation hdecoded
        rcases le_max_iff.mp hlsn with hbefore | hbelow
        · exact hsound.covered peer entry hmem hbefore mutation hdecoded
        · exact .inr ⟨snapshot, context, hproof, hboundary ▸ hbelow⟩)
    exact { hadvanced with }
  · exact { hsound with }
  · exact hsound

lemma Sound.acknowledge : state.acknowledge.Sound format decode := by
  unfold Replication.acknowledge
  split
  next peer generation boundaryLsn _ =>
    have hupdated := hsound.update peer fun sync =>
      Advances.acknowledgeRecoveryCursor state peer sync generation boundaryLsn
    exact { hupdated with }
  · exact hsound

lemma Sound.launch : state.launch.Sound format decode := by
  unfold Replication.launch
  split
  next peer _ =>
    split
    · exact { hsound with }
    next hfree =>
      rw [not_or, Bool.not_eq_true] at hfree
      have hinserted := @Sound.insert _ _ _ hsound peer ⟨state.cursor peer, .spawned⟩ rfl hfree.1
        trivial
      exact { hinserted with }
  · exact hsound

end

/-! ## Tasks -/

section

variable (hsound : state.Sound format decode)

include hsound

lemma Sound.captureStage (hstage : state.captureStage order = some stage) (cursor : Nat) :
    PageTask.Sound decode state.site.appended ⟨cursor, stage⟩ := by
  unfold Replication.captureStage captureMeshRecoverySnapshot at hstage
  split at hstage
  · cases hstage
    obtain ⟨ckptLsn, hholds⟩ := hsound.log
    exact hholds.durableLsn_le
  · nomatch hstage

lemma Sound.startStage {cursor : Nat} (hstage : state.startStage cursor order = some stage) :
    PageTask.Sound decode state.site.appended ⟨cursor, stage⟩ := by
  unfold Replication.startStage at hstage
  dsimp only at hstage
  split at hstage
  · nomatch hstage
  generalize (match state.oldestLsn with
    | some oldest => decide (satAdd cursor 1 < oldest)
    | none => decide (cursor < state.site.durableLsn)) = historyGap at hstage
  cases historyGap with
  | true => exact hsound.captureStage hstage cursor
  | false =>
    cases hstage
    trivial

lemma Sound.pageStage {cursor : Nat} {page : Except PageError (List (Nat × WalEntry))}
    (hpage : PageTask.Sound decode state.site.appended ⟨cursor, .read page⟩)
    (hstage : state.pageStage cursor order page = some stage) :
    PageTask.Sound decode state.site.appended ⟨cursor, stage⟩ := by
  unfold Replication.pageStage at hstage
  split at hstage
  · nomatch hstage
  · exact hsound.captureStage hstage cursor
  next first rest =>
    split at hstage
    · exact hsound.captureStage hstage cursor
    next hnext =>
      obtain ⟨mutations, hmutations, rfl⟩ := map_eq_some_iff.mp hstage
      obtain ⟨window, hwindow⟩ := hpage
      obtain ⟨ckptLsn, hholds⟩ := hsound.log
      exact hwindow.complete hholds.numbered hholds.room hnext hmutations _

lemma Sound.proceed {task : PageTask} (htask : state.inflight.lookup peer = some task)
    {stage : Option PageStage}
    (hstage : ∀ next, stage = some next →
      PageTask.Sound decode state.site.appended ⟨task.cursor, next⟩) :
    (state.proceed peer task.cursor stage).Sound format decode := by
  obtain ⟨hcursor, hfree, _⟩ := hsound.tasks htask
  cases stage with
  | none => exact hsound.erase peer
  | some next =>
    exact @Sound.insert _ _ _ hsound peer ⟨task.cursor, next⟩ hcursor hfree (hstage next rfl)

lemma Sound.conclude {cursor : Nat} {batch : WalBatch}
    (htask : state.inflight.lookup peer = some ⟨cursor, .sending batch⟩)
    (answer : Option (Option Nat)) : (state.conclude peer batch answer).Sound format decode := by
  unfold Replication.conclude
  split
  · obtain ⟨hcursor, _, hcomplete⟩ := hsound.tasks htask
    have hnoted : Sound format decode { state with batches := state.batches ++ [(peer, batch)] } :=
      hsound.grow hsound.log prefix_rfl (subset_append_left _ _) (List.Subset.refl _)
    have hended := hnoted.erase peer
    refine hended.advance ?_ (WalBatch.Complete.inside hcomplete) ?_
    · dsimp only
      rw [lookup_erase_eq, if_pos rfl]
    · intro entry hmem hlsn mutation hdecoded
      by_cases hbefore : entry.lsn ≤ state.cursor peer
      · exact hended.covered peer entry hmem hbefore mutation hdecoded
      · rw [← hcursor] at hbefore
        obtain ⟨replicated, hfound, hsame⟩ := WalBatch.Complete.mutations hcomplete hmem
          (Nat.lt_of_not_le hbefore) hlsn hdecoded
        exact .inl ⟨batch, replicated, mem_append_right _ (mem_singleton_self _), hfound, hsame⟩
  · exact hsound.erase peer

lemma Sound.startTask (peer : Nat) (order : IterOrder BlockKey) :
    (state.startTask peer order).Sound format decode := by
  unfold Replication.startTask
  split
  next cursor htask => exact hsound.proceed htask fun next hnext => hsound.startStage hnext
  · exact hsound

lemma Sound.readPage (peer : Nat) : (state.readPage format decode peer).Sound format decode := by
  unfold Replication.readPage
  split
  next cursor htask =>
    refine hsound.proceed htask fun next hnext => ?_
    cases hnext
    obtain ⟨ckptLsn, hholds⟩ := hsound.log
    cases hpage : replayWithLsnPage format decode state.site.disk cursor pageLimit with
    | error error => trivial
    | ok result => exact isPage_of_replayWithLsnPage hholds hpage
  · exact hsound

lemma Sound.resumeTask (peer : Nat) (order : IterOrder BlockKey) :
    (state.resumeTask peer order).Sound format decode := by
  unfold Replication.resumeTask
  split
  next cursor page htask =>
    exact hsound.proceed htask fun next hnext => hsound.pageStage (hsound.tasks htask).2.2 hnext
  · exact hsound

lemma Sound.requestRecovery (peer : Nat) (now : Duration) (recoveryId : Uuid) :
    (state.requestRecovery peer now recoveryId).Sound format decode := by
  unfold Replication.requestRecovery
  split
  next cursor boundaryLsn snapshot htask =>
    have hinside : boundaryLsn ≤ state.site.appended.length := (hsound.tasks htask).2.2
    have hidle : (state.inflight.erase peer).lookup peer = none := by
      rw [lookup_erase_eq, if_pos rfl]
    exact (hsound.erase peer).update peer fun sync =>
      @Advances.requestFullSync { state with inflight := state.inflight.erase peer } peer hidle
        boundaryLsn hinside sync now snapshot recoveryId
  · exact hsound

lemma Sound.answerBatch (peer : Nat) (answer : Option (Option Nat)) :
    (state.answerBatch peer answer).Sound format decode := by
  unfold Replication.answerBatch
  split
  next cursor batch htask => exact hsound.conclude htask answer
  · exact hsound

lemma Sound.step (digest : SnapshotDigest) (action : ReplicationAction) :
    (state.step format decode digest action).Sound format decode := by
  cases action with
  | wal op =>
    obtain ⟨ckptLsn, hholds⟩ := hsound.log
    obtain ⟨next, hnext, _⟩ := hholds.step op
    exact hsound.grow ⟨next, hnext⟩ (state.site.appended_prefix_step op) (List.Subset.refl _)
      (List.Subset.refl _)
  | change call => exact { hsound with }
  | condition peer condition now =>
    exact hsound.update peer fun _ => ⟨.inl, fun hawaits => { hawaits with }⟩
  | success peer now =>
    exact hsound.update peer fun sync => Advances.notePeerSuccess state peer sync now
  | begin peer now =>
    exact hsound.continues (MeshSender.continues_begin (Advances.refl state) state.sender peer now
      fun sync => Advances.begin state peer sync now)
  | finish peer order answers => exact hsound.finish digest peer order answers
  | join peer now => exact hsound.join digest peer now
  | settle peer => exact hsound.settle peer
  | acknowledge => exact hsound.acknowledge
  | launch => exact hsound.launch
  | start peer order => exact hsound.startTask peer order
  | read peer => exact hsound.readPage peer
  | resume peer order => exact hsound.resumeTask peer order
  | request peer now recoveryId => exact hsound.requestRecovery peer now recoveryId
  | answered peer answer => exact hsound.answerBatch peer answer
  | abandon peer => exact hsound.erase peer

end

/-! ## Cursors -/

section

variable (state) (peer)

end

def start (site : Ramwal.Site) (sender : MeshSender) (oldestLsn : Option Nat) (barrier : Bool) :
    Replication where
  site := site
  sender := sender
  oldestLsn := oldestLsn
  barrier := barrier
  cursors := ∅
  inflight := ∅
  tick := .idle
  batches := []
  proofs := []

end Replication

/-- The transport as it is started: every peer is new, and nothing is being sent. -/
structure MeshSender.Started (sender : MeshSender) : Prop where
  peers {peer : Nat} {sync : PeerSyncState} : sender.peers.lookup peer = some sync →
    ∃ generation, sync = .new generation
  attempts : sender.attempts = ∅

namespace Replication

lemma sound_start {format : Format} {decode : List UInt8 → Option WalEntry}
    (ops : List WalOp) {sender : MeshSender} (hstarted : sender.Started)
    (oldestLsn : Option Nat) (barrier : Bool) :
    (start (run (Ramwal.Site.step format) .fresh ops) sender oldestLsn barrier).Sound format
      decode where
  log := exists_holds_run format ops
  inside _ := Nat.zero_le _
  covered peer entry hmem hlsn := by
    obtain ⟨ckptLsn, hholds⟩ := exists_holds_run format ops
    obtain ⟨before, after, happended⟩ := append_of_mem hmem
    have hnumbered := hholds.numbered
    change (run (Ramwal.Site.step format) .fresh ops).appended = _ at happended
    rw [happended] at hnumbered
    have hlsn' : entry.lsn ≤ 0 := hlsn
    rw [hnumbered.lsn_eq] at hlsn'
    nomatch hlsn'
  tasks := nofun
  peers hsync := by
    obtain ⟨generation, rfl⟩ := hstarted.peers hsync
    exact ⟨nofun, nofun⟩
  attempts := by
    intro peer attempt outcome context hattempt
    change sender.attempts.lookup peer = _ at hattempt
    rw [hstarted.attempts] at hattempt
    nomatch hattempt

def single : MeshSender where
  replica := .new 1 1
  nodeIds := ∅
  peers := (∅ : Table Nat PeerSyncState).insert 7 (.new 0)
  attempts := ∅

end Replication

end RamShield

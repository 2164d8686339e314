import RamShield.Engine.MeshReplay
import RamShield.Mesh.Convergence

/-! # The two folds of the mesh records

Recovery reads the mesh records twice. `restore_mesh_crdt_from_wal` merges them into the
cluster blocklist, and `replay_mesh_state` folds them into maps of its own, with deadlines
in nanoseconds, from which the blocks of the addresses are projected. Under each key both
folds are registers with the same counters, and their dots live equally long.
-/

namespace RamShield

open Foundation AworsetBlocklist AworsetSnapshot List Table Option

namespace Replay

/-! ## Life times -/

def SameLife (dot : ActiveMeshDot) (payload : DotPayload) : Prop :=
  ∀ nowNs, nowNs < u64Max →
    expired dot.deadlineNs nowNs = decide (payload.expiresAtMs ≤ nowNs / msNs)

variable {nowNs expiresAtMs : Nat} {fold : MeshFold} {mesh : AworsetBlocklist} {key : BlockKey}
  {ip : IpAddr} {active : Table BlockKey ActiveMeshDot} {deadline : Option Nat}

lemma satMul_le_iff {ms : Nat} (hnow : nowNs < u64Max) :
    satMul ms msNs ≤ nowNs ↔ ms ≤ nowNs / msNs := by
  rw [Nat.le_div_iff_mul_le (by decide), satMul, min_le_iff]
  exact or_iff_left (Nat.not_le.mpr hnow)

lemma not_max_le_div (hnow : nowNs < u64Max) : ¬ u64Max ≤ nowNs / msNs :=
  Nat.not_le.mpr (Nat.lt_of_le_of_lt (Nat.div_le_self _ _) hnow)

variable {other : Option Nat} {set : AworsetBlocklist} {mutation : MeshMutation}
  {dot : ActiveMeshDot} {payload : DotPayload}

lemma sameLife_logged {expiresAtMs : Option Nat}
    (hdot : dot.deadlineNs = expiresAtMs.map fun ms => satMul ms msNs)
    (hpayload : payload.expiresAtMs = expiresAtMs.getD u64Max) : SameLife dot payload := by
  intro nowNs hnow
  unfold expired
  rw [hdot, hpayload]
  cases expiresAtMs with
  | none =>
    rw [map_none, getD_none, any_none]
    exact (decide_eq_false (not_max_le_div hnow)).symm
  | some ms =>
    rw [map_some, getD_some, any_some]
    exact decide_eq_decide.mpr (satMul_le_iff hnow)

lemma sameLife_seeded (hdot : dot.deadlineNs = if payload.expiresAtMs = u64Max then none
      else some (satMul payload.expiresAtMs msNs)) : SameLife dot payload := by
  intro nowNs hnow
  unfold expired
  rw [hdot]
  split
  next hnever =>
    rw [hnever, any_none]
    exact (decide_eq_false (not_max_le_div hnow)).symm
  · rw [any_some]
    exact decide_eq_decide.mpr (satMul_le_iff hnow)

/-! ## Parallel folds -/

def Parallel (fold : MeshFold) (mesh : AworsetBlocklist) : Prop :=
  ∀ key, Register.Agrees SameLife (fold.register key) (mesh.register key)

lemma Parallel.act {fold' : MeshFold} {mesh' : AworsetBlocklist}
    (hparallel : Parallel fold mesh) {act : Register ActiveMeshDot → Register ActiveMeshDot}
    {act' : Register DotPayload → Register DotPayload}
    (hfold : ∀ other, fold'.register other =
      if other = key then act (fold.register other) else fold.register other)
    (hmesh : ∀ other, mesh'.register other =
      if other = key then act' (mesh.register other) else mesh.register other)
    (hact : ∀ {left right}, Register.Agrees SameLife left right →
      Register.Agrees SameLife (act left) (act' right)) :
    Parallel fold' mesh' := by
  intro other
  rw [hfold, hmesh]
  split
  · exact hact (hparallel other)
  · exact hparallel other

lemma Parallel.logged (hparallel : Parallel fold mesh) (hkey : checkMutation mutation = .ok key)
    (wallMs : Nat) :
    Parallel (applyMutation fold key mutation) (mergeLogged wallMs mesh key mutation) := by
  obtain ⟨_, hcounter, hnode, hnil⟩ := checkMutation_ok hkey
  have hfold := register_applyMutation fold key hcounter
  have hadmissible : (⟨key.nodeId, key.incarnation, mutation.originCounter⟩ :
      ClusterDot).admissible := by
    simp [ClusterDot.admissible, hnode, hnil]
  unfold dotOp at hfold
  unfold mergeLogged
  cases haction : mutation.action with
  | block =>
    rw [haction] at hfold
    refine hparallel.act hfold (fun other => ?_) fun hagrees =>
      hagrees.add mutation.originCounter (@sameLife_logged _ ⟨mutation.createdAtMs,
        mutation.expiresAtMs.getD u64Max, mutation.tier⟩ mutation.expiresAtMs rfl rfl)
    rw [register_mergeDelta, hadmissible]
    simp only [true_and]
    rfl
  | unblock =>
    rw [haction] at hfold
    refine hparallel.act hfold (fun other => ?_) fun hagrees =>
      hagrees.remove mutation.originCounter
    rw [register_mergeUnblockDelta, hadmissible]
    simp only [true_and]
    rfl

lemma Parallel.restore (hparallel : Parallel fold mesh) {log : List WalEntry}
    (hchecked : Checked log) (wallMs : Nat) :
    ∃ folded restored, foldMesh fold log = .ok folded ∧
      restoreMeshCrdtFromWal wallMs mesh log = .ok restored ∧ Parallel folded restored := by
  induction log generalizing fold mesh with
  | nil => exact ⟨fold, mesh, rfl, rfl, hparallel⟩
  | cons entry log ih =>
    cases entry with
    | meshMutation mutation =>
      obtain ⟨key, hkey⟩ := hchecked mutation mem_cons_self
      rw [foldMesh, restoreMeshCrdtFromWal, hkey]
      exact ih (hparallel.logged hkey wallMs) hchecked.tail
    | _ => exact ih hparallel hchecked.tail

/-! ## The seed -/

lemma register_seedUnblock (hactive : fold.active = ∅) (delta : ClusterUnblockDelta)
    (other : BlockKey) :
    (seedUnblock fold delta).register other =
      if other = delta.key then (fold.register other).remove delta.dot.counter
      else fold.register other := by
  unfold seedUnblock MeshFold.register
  dsimp only
  rw [hactive, lookup_insert_eq]
  by_cases hkey : other = delta.key
  · rw [if_pos hkey, if_pos hkey, hkey]
    apply Register.ext
    · rfl
    · cases fold.tombstones.lookup delta.key with
      | none => simp [Register.remove]
      | some watermark =>
        simp only [Register.remove, getD_some, Option.some.injEq]
        split <;> omega
  · rw [if_neg hkey, if_neg hkey]

lemma register_seedBlock {delta : ClusterBlockDelta}
    (hvacant : fold.active.lookup delta.key = none) (hcounter : delta.dot.counter ≠ 0)
    (other : BlockKey) :
    (seedBlock fold delta).register other =
      if other = delta.key then
        (fold.register other).add delta.dot.counter
          { counter := delta.dot.counter
            sinceNs := satMul delta.createdAtMs msNs
            deadlineNs := if delta.expiresAtMs = u64Max then none
              else some (satMul delta.expiresAtMs msNs)
            tier := delta.tier }
      else fold.register other := by
  have hfresh := fresh_iff fold delta.key hcounter
  rw [hvacant, all_none] at hfresh
  unfold seedBlock
  dsimp only
  rw [Register.add_eq]
  by_cases hsuperseded : (fold.register delta.key).superseded delta.dot.counter
  · rw [if_neg fun habove => hfresh.mp ⟨habove, rfl⟩ hsuperseded]
    by_cases hkey : other = delta.key
    · rw [if_pos hkey, hkey, if_pos hsuperseded]
      rfl
    · rw [if_neg hkey]
      rfl
  · rw [if_pos (hfresh.mpr hsuperseded).1]
    by_cases hkey : other = delta.key
    · rw [if_pos hkey, hkey, if_neg hsuperseded]
      simp [MeshFold.register]
    · rw [if_neg hkey]
      simp [MeshFold.register, Finmap.lookup_insert_of_ne _ hkey]

lemma admissible_of_valid {dot : ClusterDot} (hvalid : invalidDot ip dot = false) :
    dot.admissible ∧ dot.counter ≠ 0 := by
  simp only [invalidDot, Bool.or_eq_false_iff, beq_eq_false_iff_ne] at hvalid
  simp [ClusterDot.admissible, hvalid.1.1.2, hvalid.1.2, hvalid.2]

lemma Parallel.unblocks {unblocks : List ClusterUnblockDelta}
    (hvalid : ∀ delta ∈ unblocks, invalidDot delta.ip delta.dot = false)
    (hparallel : Parallel fold mesh) (hactive : fold.active = ∅) (wallMs : Nat) :
    Parallel (unblocks.foldl seedUnblock fold)
        (unblocks.foldl (fun mesh delta => (mesh.mergeUnblockDelta wallMs delta).2) mesh) ∧
      (unblocks.foldl seedUnblock fold).active = ∅ := by
  induction unblocks generalizing fold mesh with
  | nil => exact ⟨hparallel, hactive⟩
  | cons delta unblocks ih =>
    obtain ⟨hadmissible, _⟩ := admissible_of_valid (hvalid delta mem_cons_self)
    refine ih (fun other hmem => hvalid other (mem_cons_of_mem _ hmem)) ?_ hactive
    refine hparallel.act (register_seedUnblock hactive delta) (fun other => ?_) fun hagrees =>
      hagrees.remove delta.dot.counter
    rw [register_mergeUnblockDelta, hadmissible]
    simp only [true_and]

lemma Parallel.blocks {blocks : List ClusterBlockDelta}
    (hvalid : ∀ delta ∈ blocks, invalidBlock delta = false)
    (hnodup : (blocks.map ClusterBlockDelta.key).Nodup) (hparallel : Parallel fold mesh)
    (hvacant : ∀ delta ∈ blocks, fold.active.lookup delta.key = none) (wallMs : Nat) :
    Parallel (blocks.foldl seedBlock fold)
      (blocks.foldl (fun mesh delta => (mesh.mergeDelta wallMs delta).2) mesh) := by
  induction blocks generalizing fold mesh with
  | nil => exact hparallel
  | cons delta blocks ih =>
    rw [map_cons, nodup_cons] at hnodup
    have hdelta := hvalid delta mem_cons_self
    rw [invalidBlock, Bool.or_eq_false_iff] at hdelta
    obtain ⟨hadmissible, hcounter⟩ := admissible_of_valid hdelta.1
    have hregister := register_seedBlock (hvacant delta mem_cons_self) hcounter
    refine ih (fun other hmem => hvalid other (mem_cons_of_mem _ hmem)) hnodup.2 ?_ ?_
    · refine hparallel.act hregister (fun other => ?_) fun hagrees =>
        hagrees.add delta.dot.counter (@sameLife_seeded _ delta.payload rfl)
      rw [register_mergeDelta, hadmissible]
      simp only [true_and]
    · -- Distinct keys: the dot just placed is not in the way of the others.
      intro other hmem
      have hne : other.key ≠ delta.key := fun heq => hnodup.1 (heq ▸ mem_map_of_mem hmem)
      have hbefore := hvacant other (mem_cons_of_mem _ hmem)
      unfold seedBlock
      dsimp only
      split
      · rw [lookup_insert_eq, if_neg hne, hbefore]
      · exact hbefore

lemma parallel_seed {seed : AworsetSnapshot} (hvalid : seed.validate = .ok ()) (nodeId : Nat)
    (incarnation : Uuid) (wallMs : Nat) :
    Parallel (seedMesh ⟨seed.blocks, seed.unblocks⟩)
      ((AworsetBlocklist.new nodeId incarnation).restoreSnapshot wallMs seed) := by
  unfold validate at hvalid
  split at hvalid
  · cases hvalid
  next hblocks =>
    obtain ⟨hblocks, hnodup⟩ := of_validateDeltas_ok hblocks
    obtain ⟨hunblocks, _⟩ := of_validateDeltas_ok hvalid
    have hempty : Parallel .empty (AworsetBlocklist.new nodeId incarnation) := by
      intro key
      rw [register_new]
      exact .empty
    obtain ⟨htombstones, hactive⟩ :=
      hempty.unblocks (fun delta hmem => (hunblocks delta hmem).1) rfl wallMs
    refine htombstones.blocks (fun delta hmem => (hblocks delta hmem).1) hnodup ?_ wallMs
    intro delta _
    rw [hactive]
    rfl

/-! ## The projection -/

lemma Parallel.live_iff (hparallel : Parallel fold mesh) (hnow : nowNs < u64Max)
    (key : BlockKey) :
    (∃ dot, fold.active.lookup key = some dot ∧ expired dot.deadlineNs nowNs = false) ↔
      key ∈ mesh.activeKeys (nowNs / msNs) := by
  have hlive := (hparallel key).live
  unfold MeshFold.register register at hlive
  dsimp only at hlive
  rw [activeKeys, Finset.mem_filter, mem_keys_iff_lookup]
  generalize fold.active.lookup key = dot, mesh.entries.lookup key = entry at hlive ⊢
  cases dot with
  | none => cases hlive; simp
  | some dot =>
    cases hlive with
    | some hvalue => simp [hvalue.2 nowNs hnow]

lemma Parallel.keys_project (hparallel : Parallel fold mesh) (hnow : nowNs < u64Max)
    (dots : IterOrder BlockKey) :
    (project dots nowNs fold.active).keys = mesh.activeIps (nowNs / msNs) := by
  ext ip
  rw [mem_keys_project, activeIps, Finset.mem_image]
  simp only [← hparallel.live_iff hnow]
  constructor
  · rintro ⟨dot, key, hip, hdot, hlive⟩
    exact ⟨key, ⟨dot, hdot, hlive⟩, hip⟩
  · rintro ⟨key, ⟨dot, hdot, hlive⟩, hip⟩
    exact ⟨dot, key, hip, hdot, hlive⟩

/-- The two folds of the mesh records agree. From a seed that passes the validation and
records that pass the checks, the addresses in the projection of the replay are the active
addresses of the restored blocklist, at every time before the end of the nanosecond clock. -/
theorem mesh_folds_agree {seed : AworsetSnapshot} (hvalid : seed.validate = .ok ()) {wal : Wal}
    {minLsn : Nat} (hchecked : Checked (wal.replayFrom minLsn)) {nowNs : Nat}
    (hnow : nowNs < u64Max) (dots : IterOrder BlockKey) (nodeId : Nat) (incarnation : Uuid)
    (wallMs : Nat) :
    ∃ touched byIp restored,
      replayMeshState dots wal minLsn (some ⟨seed.blocks, seed.unblocks⟩) nowNs =
        .ok (touched, byIp) ∧
      restoreMeshCrdtFromWal wallMs
        ((AworsetBlocklist.new nodeId incarnation).restoreSnapshot wallMs seed)
        (wal.replayFrom minLsn) = .ok restored ∧
      byIp.keys = restored.activeIps (nowNs / msNs) := by
  obtain ⟨folded, restored, hfolded, hrestored, hparallel⟩ :=
    (parallel_seed hvalid nodeId incarnation wallMs).restore hchecked wallMs
  refine ⟨folded.touched, _, restored, ?_, hrestored, hparallel.keys_project hnow dots⟩
  unfold replayMeshState
  simp only [map_some, getD_some, isSome_some, if_true, hfolded]
  rfl

/-- A seeded dot is removed by the log, and another origin blocks the address for one
second. -/
theorem mesh_folds_agree_single :
    let seeded : ClusterBlockDelta := ⟨.v4 1, ⟨1, 1, 5⟩, 0, u64Max, 2⟩
    let removal : MeshMutation := ⟨1, 1, some 1, 5, some (.v4 1), .unblock, 0, none, 0, none, 0⟩
    let block : MeshMutation := ⟨1, 2, some 2, 1, some (.v4 1), .block, 0, some 1000, 2, none, 0⟩
    let wal : Wal := ⟨[.meshMutation removal, .meshMutation block]⟩
    ∃ touched byIp restored,
      replayMeshState BlockKey.sorted wal 0 (some ⟨[seeded], []⟩) 999999999 = .ok (touched, byIp) ∧
      restoreMeshCrdtFromWal 0
        ((AworsetBlocklist.new 9 9).restoreSnapshot 0 ⟨[seeded], []⟩) wal.log = .ok restored ∧
      byIp.keys = restored.activeIps (999999999 / msNs) := by
  intro seeded removal block wal
  have hvalid : validate ⟨[seeded], []⟩ = .ok () := rfl
  have hchecked : Checked (wal.replayFrom 0) := by
    intro record hmem
    rcases mem_cons.mp hmem with heq | hmem
    · cases heq
      exact ⟨_, rfl⟩
    · cases mem_singleton.mp hmem
      exact ⟨_, rfl⟩
  have hnow : 999999999 < u64Max := by decide
  exact mesh_folds_agree hvalid hchecked hnow BlockKey.sorted 9 9 0

/-- At the last nanosecond of the clock a finite expiry that saturates has passed for the
replay, and not for the blocklist. -/
theorem mesh_folds_differ_at_end :
    let record : MeshMutation :=
      ⟨1, 1, some 1, 1, some (.v4 1), .block, 0, some 18446744073710, 2, none, 0⟩
    let wal : Wal := ⟨[.meshMutation record]⟩
    let seed : AworsetSnapshot := ⟨[], []⟩
    seed.validate = .ok () ∧ checkMutation record = .ok ⟨.v4 1, 1, 1⟩ ∧
      (replayMeshState BlockKey.sorted wal 0 (some ⟨[], []⟩) u64Max).toOption.map
        (fun result => result.2.keys) = some ∅ ∧
      (restoreMeshCrdtFromWal 0 ((AworsetBlocklist.new 9 9).restoreSnapshot 0 seed)
        (wal.replayFrom 0)).toOption.map (fun restored => restored.activeIps (u64Max / msNs)) =
          some {.v4 1} := by
  refine ⟨rfl, rfl, ?_, ?_⟩
  · decide +kernel
  · decide +kernel

/-! ## Which deadline is projected -/

def NotLater : Option Nat → Option Nat → Prop
  | _, none => True
  | none, some _ => False
  | some deadline, some other => deadline ≤ other

lemma NotLater.refl (deadline : Option Nat) : NotLater deadline deadline := by
  cases deadline with
  | none => trivial
  | some deadline => exact Nat.le_refl deadline

lemma NotLater.antisymm (hle : NotLater deadline other) (hge : NotLater other deadline) :
    deadline = other := by
  cases deadline with
  | none =>
    cases other with
    | none => rfl
    | some other => exact hle.elim
  | some deadline =>
    cases other with
    | none => exact hge.elim
    | some other => exact congrArg some (Nat.le_antisymm hle hge)

def Latest (nowNs : Nat) (active : Table BlockKey ActiveMeshDot) (ip : IpAddr)
    (deadline : Option Nat) : Prop :=
  (∃ dot, LiveDot nowNs active ip dot ∧ dot.deadlineNs = deadline) ∧
    ∀ dot, LiveDot nowNs active ip dot → NotLater dot.deadlineNs deadline

lemma Latest.unique (hlatest : Latest nowNs active ip deadline)
    (hother : Latest nowNs active ip other) : deadline = other := by
  obtain ⟨⟨dot, hlive, rfl⟩, hall⟩ := hlatest
  obtain ⟨⟨rival, hrival, rfl⟩, hrest⟩ := hother
  exact (hrest dot hlive).antisymm (hall rival hrival)

/-- Every unexpired dot of the address that was created last has the latest deadline. -/
def NewestLatest (nowNs : Nat) (active : Table BlockKey ActiveMeshDot) (ip : IpAddr) : Prop :=
  ∀ dot, LiveDot nowNs active ip dot →
    (∀ other, LiveDot nowNs active ip other → other.sinceNs ≤ dot.sinceNs) →
      ∀ other, LiveDot nowNs active ip other → NotLater other.deadlineNs dot.deadlineNs

lemma project_leading (dots : IterOrder BlockKey) (hdot : active.lookup key = some dot)
    (hlive : expired dot.deadlineNs nowNs = false)
    (hnewest : ∀ other, LiveDot nowNs active key.ip other → other.sinceNs ≤ dot.sinceNs) :
    (project (dots.leading key) nowNs active).lookup key.ip = some dot.block := by
  have hkey : key ∈ active.keys := mem_keys_iff_lookup.mpr ⟨dot, hdot⟩
  have hfirst : candidate nowNs active key.ip key = some dot.block :=
    candidate_eq_some.mpr ⟨rfl, dot, hdot, hlive, rfl⟩
  rw [lookup_project]
  change leader _ ((if key ∈ active.keys then key :: dots.enum (active.keys.erase key)
    else dots.enum active.keys).filterMap _) = _
  rw [if_pos hkey, filterMap_cons_some hfirst]
  refine foldl_challenge_of_le fun block hmem => ?_
  obtain ⟨other, _, hother⟩ := mem_filterMap.mp hmem
  obtain ⟨hip, rival, hrival, hrivalLive, rfl⟩ := candidate_eq_some.mp hother
  exact hnewest rival ⟨other, hip, hrival, hrivalLive⟩

/-- What `replay_mesh_state` makes of a dot of the blocklist. -/
def asReplayDot (entry : Nat × DotPayload) : ActiveMeshDot where
  counter := entry.1
  sinceNs := satMul entry.2.createdAtMs msNs
  deadlineNs :=
    if entry.2.expiresAtMs = u64Max then none else some (satMul entry.2.expiresAtMs msNs)
  tier := entry.2.tier

lemma liveDot_mapValues (hnow : nowNs < u64Max) :
    LiveDot nowNs (set.entries.mapValues asReplayDot) ip dot ↔
      ∃ key entry, key.ip = ip ∧ set.entries.lookup key = some entry ∧
        nowNs / msNs < entry.2.expiresAtMs ∧ asReplayDot entry = dot := by
  have hlife (entry : Nat × DotPayload) : expired (asReplayDot entry).deadlineNs nowNs = false ↔
      nowNs / msNs < entry.2.expiresAtMs := by
    rw [@sameLife_seeded (asReplayDot entry) entry.2 rfl nowNs hnow, decide_eq_false_iff_not,
      Nat.not_le]
  unfold LiveDot
  simp only [lookup_mapValues, map_eq_some_iff]
  constructor
  · rintro ⟨key, hip, ⟨entry, hentry, rfl⟩, hlive⟩
    exact ⟨key, entry, hip, hentry, (hlife entry).mp hlive, rfl⟩
  · rintro ⟨key, entry, hip, hentry, hactive, rfl⟩
    exact ⟨key, hip, ⟨entry, hentry, rfl⟩, (hlife entry).mpr hactive⟩

def Fits (expiresAtMs : Nat) : Prop := expiresAtMs = u64Max ∨ expiresAtMs * msNs < u64Max

lemma Fits.satMul_eq (hfits : Fits expiresAtMs) (hfinite : expiresAtMs ≠ u64Max) :
    satMul expiresAtMs msNs = expiresAtMs * msNs :=
  Nat.min_eq_left (Nat.le_of_lt (hfits.resolve_left hfinite))

lemma Fits.le_max (hfits : Fits expiresAtMs) : expiresAtMs ≤ u64Max := by
  rcases hfits with hnever | hfinite
  · exact Nat.le_of_eq hnever
  · exact Nat.le_trans (Nat.le_mul_of_pos_right _ (by decide)) (Nat.le_of_lt hfinite)

lemma expires_le_of_notLater {entry other : Nat × DotPayload} (hfits : Fits entry.2.expiresAtMs)
    (hother : Fits other.2.expiresAtMs)
    (hle : NotLater (asReplayDot other).deadlineNs (asReplayDot entry).deadlineNs) :
    other.2.expiresAtMs ≤ entry.2.expiresAtMs := by
  unfold asReplayDot at hle
  dsimp only at hle
  by_cases hnever : entry.2.expiresAtMs = u64Max
  · rw [hnever]
    exact hother.le_max
  · rw [if_neg hnever, hfits.satMul_eq hnever] at hle
    by_cases hforever : other.2.expiresAtMs = u64Max
    · rw [if_pos hforever] at hle
      exact hle.elim
    · rw [if_neg hforever, hother.satMul_eq hforever] at hle
      have hmul : other.2.expiresAtMs * msNs ≤ entry.2.expiresAtMs * msNs := hle
      exact Nat.le_of_mul_le_mul_right hmul (by decide)

lemma Latest.activeDeadline (hnow : nowNs < u64Max)
    (hfits : ∀ key entry, set.entries.lookup key = some entry → key.ip = ip →
      Fits entry.2.expiresAtMs)
    (hlatest : Latest nowNs (set.entries.mapValues asReplayDot) ip deadline) :
    ∃ entry : Nat × DotPayload, (asReplayDot entry).deadlineNs = deadline ∧
      ip ∈ set.activeIps (nowNs / msNs) ∧ nowNs / msNs < entry.2.expiresAtMs ∧
      Fits entry.2.expiresAtMs ∧
      set.activeDeadline (nowNs / msNs) ip = entry.2.expiresAtMs := by
  obtain ⟨⟨dot, hlive, hdeadline⟩, hall⟩ := hlatest
  obtain ⟨key, entry, hip, hentry, hactive, rfl⟩ := (liveDot_mapValues hnow).mp hlive
  have hkey : key ∈ set.activeKeys (nowNs / msNs) := by
    refine Finset.mem_filter.mpr ⟨mem_keys_iff_lookup.mpr ⟨entry, hentry⟩, ?_⟩
    rw [hentry]
    exact decide_eq_true hactive
  refine ⟨entry, hdeadline, hip ▸ Finset.mem_image_of_mem _ hkey, hactive,
    hfits key entry hentry hip, Nat.le_antisymm ?_ ?_⟩
  · refine Finset.sup_le fun other hother => ?_
    obtain ⟨hother, hotherIp⟩ := Finset.mem_filter.mp hother
    obtain ⟨hmem, hrival⟩ := Finset.mem_filter.mp hother
    obtain ⟨rival, hlookup⟩ := mem_keys_iff_lookup.mp hmem
    rw [hlookup] at hrival ⊢
    refine expires_le_of_notLater (hfits key entry hentry hip)
      (hfits other rival hlookup hotherIp) ?_
    rw [hdeadline]
    exact hall _ ((liveDot_mapValues hnow).mpr
      ⟨other, rival, hotherIp, hlookup, of_decide_eq_true hrival, rfl⟩)
  · have hmem : key ∈ (set.activeKeys (nowNs / msNs)).filter fun key => key.ip = ip :=
      Finset.mem_filter.mpr ⟨hkey, hip⟩
    refine Nat.le_trans ?_ (Finset.le_sup hmem)
    rw [hentry]
    exact Nat.le_refl _

lemma remaining_le_ttl (hactive : nowNs / msNs < expiresAtMs)
    (hfits : expiresAtMs * msNs < u64Max) :
    divCeil (satMul expiresAtMs msNs - nowNs) secNs ≤
        satAdd (expiresAtMs - nowNs / msNs) 999 / 1000 ∧
      satAdd (expiresAtMs - nowNs / msNs) 999 / 1000 ≤
        divCeil (satMul expiresAtMs msNs - nowNs) secNs + 1 := by
  have hmul : satMul expiresAtMs msNs = expiresAtMs * msNs := Nat.min_eq_left (Nat.le_of_lt hfits)
  have hadd : satAdd (expiresAtMs - nowNs / msNs) 999 = expiresAtMs - nowNs / msNs + 999 := by
    refine Nat.min_eq_left ?_
    unfold msNs u64Max at *
    omega
  rw [hmul, hadd]
  unfold divCeil secNs msNs at *
  omega

/-- The deadline that the replay projects for an address, in every order of the map, is
the latest deadline of its unexpired dots exactly if every dot created last has it; and
where it is, the remaining seconds are those that the blocklist gives, up to the rounding. -/
theorem projection_latest_iff (nowNs : Nat) (ip : IpAddr) :
    (∀ active : Table BlockKey ActiveMeshDot,
      ((∀ dots block, (project dots nowNs active).lookup ip = some block →
          Latest nowNs active ip block.deadlineNs) ∧
        ∀ dots dots', ((project dots nowNs active).lookup ip).map BlockFold.deadlineNs =
          ((project dots' nowNs active).lookup ip).map BlockFold.deadlineNs) ↔
      NewestLatest nowNs active ip) ∧
    ∀ (set : AworsetBlocklist) (dots : IterOrder BlockKey) (block : BlockFold),
      nowNs < u64Max →
      (∀ key entry, set.entries.lookup key = some entry → key.ip = ip → Fits entry.2.expiresAtMs) →
      NewestLatest nowNs (set.entries.mapValues asReplayDot) ip →
      (project dots nowNs (set.entries.mapValues asReplayDot)).lookup ip = some block →
        ∃ secs, (ip, secs) ∈ set.activeBlockTtls (nowNs / msNs) ∧
          remaining block.deadlineNs nowNs ≤ secs ∧
          secs ≤ remaining block.deadlineNs nowNs + 1 := by
  have hsufficient (active : Table BlockKey ActiveMeshDot) (hnewest : NewestLatest nowNs active ip)
      (dots : IterOrder BlockKey) (block : BlockFold)
      (hblock : (project dots nowNs active).lookup ip = some block) :
      Latest nowNs active ip block.deadlineNs := by
    obtain ⟨dot, hlive, rfl, hlast⟩ := project_newest hblock
    exact ⟨⟨dot, hlive, rfl⟩, hnewest dot hlive hlast⟩
  refine ⟨fun active => ⟨?_, ?_⟩, ?_⟩
  · rintro ⟨hlatest, _⟩ dot ⟨key, rfl, hdot, hlive⟩ hlast
    -- An order in which this dot comes first.
    exact (hlatest _ _ (project_leading BlockKey.sorted hdot hlive hlast)).2
  · intro hnewest
    refine ⟨hsufficient active hnewest, fun dots dots' => ?_⟩
    have hkeys : (∃ block, (project dots nowNs active).lookup ip = some block) ↔
        ∃ block, (project dots' nowNs active).lookup ip = some block := by
      rw [← mem_keys_iff_lookup, ← mem_keys_iff_lookup, mem_keys_project, mem_keys_project]
    cases hblock : (project dots nowNs active).lookup ip with
    | none => cases hother : (project dots' nowNs active).lookup ip <;> simp_all
    | some block =>
      obtain ⟨other, hother⟩ := hkeys.mp ⟨block, hblock⟩
      rw [hother]
      exact congrArg some ((hsufficient active hnewest dots block hblock).unique
        (hsufficient active hnewest dots' other hother))
  · intro set dots block hnow hfits hnewest hblock
    obtain ⟨entry, hdeadline, hactiveIp, hactive, hentry, hsup⟩ :=
      (hsufficient _ hnewest dots block hblock).activeDeadline hnow hfits
    have hmem : (ip, if entry.2.expiresAtMs = u64Max then 0
        else satAdd (entry.2.expiresAtMs - nowNs / msNs) 999 / 1000) ∈
          set.activeBlockTtls (nowNs / msNs) := by
      rw [← hsup]
      exact mem_map_of_mem (IpAddr.sorted.mem_enum.mpr hactiveIp)
    refine ⟨_, hmem, ?_⟩
    rw [← hdeadline, remaining, asReplayDot]
    dsimp only
    by_cases hnever : entry.2.expiresAtMs = u64Max
    · rw [if_pos hnever, if_pos hnever, map_none, getD_none]
      exact ⟨Nat.le_refl 0, Nat.zero_le 1⟩
    · rw [if_neg hnever, if_neg hnever, map_some, getD_some]
      exact remaining_le_ttl hactive (hentry.resolve_left hnever)

/-- Of two origins the one that blocked later blocked until half a second from now. -/
theorem projection_latest_iff_origins :
    let key (origin : Nat) : BlockKey := ⟨.v4 1, origin, 1⟩
    let first : Nat × DotPayload := (1, ⟨900, 1800, 2⟩)
    let last : Nat × DotPayload := (1, ⟨1000, 2000, 2⟩)
    let set := { AworsetBlocklist.new 9 9 with
      entries := ((∅ : Table BlockKey (Nat × DotPayload)).insert (key 1) first).insert
        (key 2) last }
    ∃ secs, (IpAddr.v4 1, secs) ∈ set.activeBlockTtls (1500000001 / msNs) ∧
      remaining (some 2000000000) 1500000001 ≤ secs ∧
      secs ≤ remaining (some 2000000000) 1500000001 + 1 := by
  intro key first last set
  have honly (other : BlockKey) (entry : Nat × DotPayload)
      (hentry : set.entries.lookup other = some entry) : entry = last ∨ entry = first := by
    rw [lookup_insert_eq, lookup_insert_eq] at hentry
    split at hentry
    · exact .inl (Option.some.inj hentry).symm
    split at hentry
    · exact .inr (Option.some.inj hentry).symm
    · cases hentry
  -- The dot with the latest creation time is also the last to expire.
  have hnewest : NewestLatest 1500000001 (set.entries.mapValues asReplayDot) (.v4 1) := by
    rintro dot ⟨origin, _, hdot, _⟩ hlast other ⟨second, _, hother, _⟩
    rw [lookup_mapValues, map_eq_some_iff] at hdot hother
    obtain ⟨entry, hentry, rfl⟩ := hdot
    obtain ⟨rival, hrival, rfl⟩ := hother
    rcases honly origin entry hentry with rfl | rfl
    · rcases honly second rival hrival with rfl | rfl
      · exact .refl _
      · change satMul 1800 msNs ≤ satMul 2000 msNs
        decide
    · have hlater := hlast (asReplayDot last) ⟨key 2, rfl, by decide +kernel, by decide +kernel⟩
      exact absurd hlater (by decide +kernel)
  have hfits (other : BlockKey) (entry : Nat × DotPayload)
      (hentry : set.entries.lookup other = some entry) (_ : other.ip = .v4 1) :
      Fits entry.2.expiresAtMs := by
    rcases honly other entry hentry with rfl | rfl
    · exact .inr (by decide)
    · exact .inr (by decide)
  exact (projection_latest_iff 1500000001 (.v4 1)).2 set BlockKey.sorted
    ⟨.manualBlock, 1000000000, some 2000000000⟩ (by decide) hfits hnewest (by decide +kernel)

/-- Of two origins that block an address, one for good and later one for a second, the
replay takes the later one: the address is released when it expires. The blocklist keeps
the address for good. -/
theorem projection_shortens_permanent :
    let permanent : MeshMutation := ⟨1, 1, some 1, 1, some (.v4 1), .block, 1000, none, 2, none, 0⟩
    let brief : MeshMutation := ⟨1, 2, some 2, 1, some (.v4 1), .block, 2000, some 3000, 2, none, 0⟩
    let wal : Wal := ⟨[.meshMutation permanent, .meshMutation brief]⟩
    (replayMeshState BlockKey.sorted wal 0 none 2500000000).toOption.map
        (fun result => (result.2.lookup (.v4 1)).map BlockFold.deadlineNs) =
          some (some (some 3000000000)) ∧
      (restoreMeshCrdtFromWal 0 (AworsetBlocklist.new 9 9) wal.log).toOption.map
        (fun restored => restored.activeBlockTtls 2500) = some [(.v4 1, 0)] := by
  refine ⟨?_, ?_⟩
  · decide +kernel
  · decide +kernel

end Replay

end RamShield

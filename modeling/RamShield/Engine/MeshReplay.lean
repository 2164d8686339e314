import RamShield.Enforcement.Recovery
import RamShield.Engine.RestartSafety
import RamShield.Foundation.Leader

/-! # What recovery makes of a log with mesh records

Recovery folds the local records by address and the mesh records by origin dot,
and where the log has any mesh record of an address the mesh fold decides alone.
Here that is a single question put to the log: does it block the address?
-/

namespace RamShield

open Foundation Replay List Table Option

namespace Replay

/-! ## The mesh fold -/

def foldMeshEntry (fold : MeshFold) : WalEntry → MeshFold
  | .meshMutation mutation =>
    match checkMutation mutation with
    | .ok key => applyMutation fold key mutation
    | .error _ => fold
  | _ => fold

def meshFold (log : List WalEntry) : MeshFold := log.foldl foldMeshEntry .empty

namespace MeshFold

def register (fold : MeshFold) (key : BlockKey) : Register ActiveMeshDot where
  live := (fold.active.lookup key).map fun dot => (dot.counter, dot)
  removed := fold.tombstones.lookup key

def Active (fold : MeshFold) (ip : IpAddr) : Prop := ∃ key ∈ fold.active.keys, key.ip = ip

lemma mem_active_iff {fold : MeshFold} {key : BlockKey} :
    key ∈ fold.active.keys ↔ ∃ value, (fold.register key).live = some value := by
  rw [mem_keys_iff_lookup]
  unfold register
  cases fold.active.lookup key <;> simp

end MeshFold

def dotOp (mutation : MeshMutation) : Register.Op ActiveMeshDot :=
  match mutation.action with
  | .block => .add mutation.originCounter
      { counter := mutation.originCounter
        sinceNs := satMul mutation.createdAtMs msNs
        deadlineNs := mutation.expiresAtMs.map fun ms => satMul ms msNs
        tier := mutation.tier }
  | .unblock => .remove mutation.originCounter

variable (fold : MeshFold)

/-- The test of the source for a new dot. -/
lemma fresh_iff (key : BlockKey) {counter : Nat} (hcounter : counter ≠ 0) :
    ((fold.tombstones.lookup key).getD 0 < counter ∧
        ((fold.active.lookup key).all fun existing => decide (existing.counter < counter))) ↔
      ¬ (fold.register key).superseded counter := by
  rw [Register.superseded_iff]
  unfold MeshFold.register
  cases fold.tombstones.lookup key <;> cases fold.active.lookup key <;> simp <;> omega

variable {mutation : MeshMutation}

lemma register_applyMutation (key : BlockKey) (hcounter : mutation.originCounter ≠ 0)
    (other : BlockKey) :
    (applyMutation fold key mutation).register other =
      if other = key then (fold.register other).apply (dotOp mutation)
        else fold.register other := by
  unfold applyMutation dotOp
  cases mutation.action with
  | block =>
    -- The code reads a missing counter as zero, which no counter of a record is.
    have hfresh := fresh_iff fold key hcounter
    dsimp only [Register.apply]
    rw [Register.add_eq]
    by_cases hsuperseded : (fold.register key).superseded mutation.originCounter
    · rw [if_neg fun hboth => hfresh.mp hboth hsuperseded]
      split
      next heq =>
        subst heq
        rw [if_pos hsuperseded]
        rfl
      · rfl
    · rw [if_pos (hfresh.mpr hsuperseded)]
      split
      next heq =>
        subst heq
        rw [if_neg hsuperseded]
        simp [MeshFold.register]
      next hne => simp [MeshFold.register, Finmap.lookup_insert_of_ne _ hne]
  | unblock =>
    dsimp only [Register.apply]
    by_cases hkey : other = key
    · subst hkey
      rw [if_pos rfl]
      have hlive : (if (fold.active.lookup other).any fun dot =>
            decide (dot.counter ≤ mutation.originCounter) then none
          else (fold.register other).live) =
            ((fold.register other).remove mutation.originCounter).live := by
        unfold MeshFold.register Register.remove
        cases fold.active.lookup other with
        | none => simp
        | some dot =>
          by_cases hcovered : dot.counter ≤ mutation.originCounter
          · simp [Option.filter, hcovered, Nat.not_lt.mpr hcovered]
          · simp [Option.filter, hcovered, Nat.lt_of_not_le hcovered]
      apply Register.ext
      · rw [← hlive]
        split <;> simp [MeshFold.register]
      · rw [Register.removed_remove_eq]
        split <;> simp [MeshFold.register]
    · rw [if_neg hkey]
      split <;>
        simp [MeshFold.register, Finmap.lookup_insert_of_ne _ hkey, Finmap.lookup_erase_ne hkey]

lemma checkMutation_ok {key : BlockKey} (hkey : checkMutation mutation = .ok key) :
    mutation.ip = some key.ip ∧ mutation.originCounter ≠ 0 ∧ key.nodeId ≠ 0 ∧
      key.incarnation.isNil = false := by
  unfold checkMutation at hkey
  split at hkey
  · cases hkey
  next hchecks =>
    split at hkey
    · cases hkey
    next ip hip =>
      split at hkey
      · cases hkey
      split at hkey
      · cases hkey
      split at hkey
      · cases hkey
      next hnil =>
        cases hkey
        rw [not_or, not_or] at hchecks
        exact ⟨hip, hchecks.2.2, hchecks.2.1, Bool.eq_false_iff.mpr hnil⟩

lemma touched_applyMutation (key : BlockKey) (mutation : MeshMutation) :
    (applyMutation fold key mutation).touched = insert key.ip fold.touched := by
  unfold applyMutation
  dsimp only
  split <;> split <;> rfl

lemma active_applyMutation {fold : MeshFold} {key other : BlockKey} {dot : ActiveMeshDot}
    (hdot : (applyMutation fold key mutation).active.lookup other = some dot) :
    fold.active.lookup other = some dot ∨
      other = key ∧ dot.deadlineNs = mutation.expiresAtMs.map fun ms => satMul ms msNs := by
  unfold applyMutation at hdot
  dsimp only at hdot
  split at hdot
  · split at hdot
    · rw [lookup_insert_eq] at hdot
      split at hdot
      next heq =>
        cases hdot
        exact .inr ⟨heq, rfl⟩
      · exact .inl hdot
    · exact .inl hdot
  · split at hdot
    · rw [lookup_erase_eq] at hdot
      split at hdot
      · cases hdot
      · exact .inl hdot
    · exact .inl hdot

end Replay

def WalEntry.subject : WalEntry → Option IpAddr
  | .blockIp ip _ _ _ => ip
  | .meshMutation mutation => mutation.ip
  | _ => none

def WalEntry.deadlineNs : WalEntry → Option Nat
  | .blockIp _ _ ttlSecs tsNs => recordDeadline ttlSecs tsNs
  | .meshMutation mutation => mutation.expiresAtMs.map fun ms => satMul ms msNs
  | _ => none

def Unexpired (log : List WalEntry) (nowNs : Nat) : Prop :=
  ∀ entry ∈ log, expired entry.deadlineNs nowNs = false

instance (log : List WalEntry) (nowNs : Nat) : Decidable (Unexpired log nowNs) :=
  inferInstanceAs (Decidable (∀ entry ∈ log, expired entry.deadlineNs nowNs = false))

namespace Replay

structure MeshFold.From (fold : MeshFold) (log : List WalEntry) : Prop where
  touched {ip : IpAddr} : ip ∈ fold.touched → some ip ∈ log.map WalEntry.subject
  active {key : BlockKey} {dot : ActiveMeshDot} : fold.active.lookup key = some dot →
    key.ip ∈ fold.touched ∧ ∃ entry ∈ log, entry.deadlineNs = dot.deadlineNs

lemma MeshFold.From.mono {fold : MeshFold} {log longer : List WalEntry} (hfrom : fold.From log)
    (hsubset : log ⊆ longer) : fold.From longer where
  touched hmem := map_subset _ hsubset (hfrom.touched hmem)
  active hdot := by
    obtain ⟨htouched, entry, hentry, hdeadline⟩ := hfrom.active hdot
    exact ⟨htouched, entry, hsubset hentry, hdeadline⟩

variable {nowNs : Nat} {active : Table BlockKey ActiveMeshDot} {byIp : Table IpAddr BlockFold}
  (log : List WalEntry)

lemma meshFold_append (entry : WalEntry) :
    meshFold (log ++ [entry]) = foldMeshEntry (meshFold log) entry :=
  foldl_append

lemma meshFold_from : (meshFold log).From log := by
  induction log using List.reverseRecOn with
  | nil => exact ⟨fun hmem => by simp [meshFold, MeshFold.empty] at hmem,
      fun hdot => by simp [meshFold, MeshFold.empty] at hdot⟩
  | append_singleton log entry ih =>
    have hkept : (meshFold log).From (log ++ [entry]) := ih.mono (subset_append_left _ _)
    rw [meshFold_append]
    cases entry with
    | meshMutation mutation =>
      rw [foldMeshEntry]
      split
      next key hkey =>
        obtain ⟨hip, _⟩ := checkMutation_ok hkey
        constructor
        · intro ip hmem
          rw [touched_applyMutation, Finset.mem_insert] at hmem
          rcases hmem with rfl | hmem
          · simp [WalEntry.subject, hip]
          · exact hkept.touched hmem
        · intro other dot hdot
          rw [touched_applyMutation, Finset.mem_insert]
          rcases active_applyMutation hdot with hold | ⟨rfl, hdeadline⟩
          · obtain ⟨htouched, hentry⟩ := hkept.active hold
            exact ⟨.inr htouched, hentry⟩
          · exact ⟨.inl rfl, .meshMutation mutation, mem_append_right _ mem_cons_self,
              hdeadline.symm⟩
      · exact hkept
    | _ => exact hkept

lemma foldIp_from {log : List WalEntry} {ip : IpAddr} {block : BlockFold}
    (hblock : (log.foldl foldIp ∅).lookup ip = some block) :
    some ip ∈ log.map WalEntry.subject ∧ ∃ entry ∈ log, entry.deadlineNs = block.deadlineNs := by
  induction log using List.reverseRecOn generalizing block with
  | nil => simp at hblock
  | append_singleton log entry ih =>
    have hkept {block : BlockFold} (hold : (log.foldl foldIp ∅).lookup ip = some block) :
        some ip ∈ (log ++ [entry]).map WalEntry.subject ∧
          ∃ other ∈ log ++ [entry], other.deadlineNs = block.deadlineNs := by
      obtain ⟨hmem, other, hother, hdeadline⟩ := ih hold
      refine ⟨map_subset _ (subset_append_left _ _) hmem, other, ?_, hdeadline⟩
      exact mem_append_left _ hother
    rw [foldl_append, foldl_cons, foldl_nil] at hblock
    unfold foldIp at hblock
    split at hblock
    · rw [lookup_insert_eq] at hblock
      split at hblock
      next heq =>
        cases hblock
        exact ⟨by simp [WalEntry.subject, heq], _, mem_append_right _ mem_cons_self, rfl⟩
      · exact hkept hblock
    · rw [lookup_erase_eq] at hblock
      split at hblock
      · cases hblock
      · exact hkept hblock
    · exact hkept hblock

/-! ## The projection -/

def ActiveMeshDot.block (dot : ActiveMeshDot) : BlockFold :=
  ⟨(BlockReason.fromReasonStr "mesh_final").getD .manualBlock, dot.sinceNs, dot.deadlineNs⟩

/-- The last loop of `replay_mesh_state`. -/
def project (dots : IterOrder BlockKey) (nowNs : Nat) (active : Table BlockKey ActiveMeshDot) :
    Table IpAddr BlockFold :=
  (dots.enum active.keys).foldl (projectDot nowNs active) ∅

def LiveDot (nowNs : Nat) (active : Table BlockKey ActiveMeshDot) (ip : IpAddr)
    (dot : ActiveMeshDot) : Prop :=
  ∃ key, key.ip = ip ∧ active.lookup key = some dot ∧ expired dot.deadlineNs nowNs = false

def candidate (nowNs : Nat) (active : Table BlockKey ActiveMeshDot) (ip : IpAddr)
    (key : BlockKey) : Option BlockFold :=
  if key.ip = ip then
    (active.lookup key).bind fun dot =>
      if expired dot.deadlineNs nowNs then none else some dot.block
  else none

/-- Each address is a race, and the latest creation time wins. -/
lemma lookup_foldl_projectDot (nowNs : Nat) (active : Table BlockKey ActiveMeshDot) (ip : IpAddr)
    (keys : List BlockKey) (byIp : Table IpAddr BlockFold) :
    (keys.foldl (projectDot nowNs active) byIp).lookup ip =
      (keys.filterMap (candidate nowNs active ip)).foldl (challenge BlockFold.sinceNs)
        (byIp.lookup ip) := by
  -- One key: an expired dot and the dot of another address challenge nobody.
  have hstep (byIp : Table IpAddr BlockFold) (key : BlockKey) :
      (projectDot nowNs active byIp key).lookup ip =
        (candidate nowNs active ip key).toList.foldl (challenge BlockFold.sinceNs)
          (byIp.lookup ip) := by
    unfold projectDot candidate
    cases hdot : active.lookup key with
    | none => simp
    | some dot =>
      cases hexpired : expired dot.deadlineNs nowNs with
      | true => simp [hexpired]
      | false =>
        by_cases hip : key.ip = ip
        · subst hip
          simp only [hexpired, Bool.false_eq_true, if_false, if_true, bind_some,
            toList_some, foldl_cons, foldl_nil]
          cases hexisting : byIp.lookup key.ip with
          | none => simp [challenge, ActiveMeshDot.block]
          | some existing =>
            by_cases hlater : existing.sinceNs < dot.sinceNs
            · simp [challenge, ActiveMeshDot.block, hlater]
            · simp [challenge, ActiveMeshDot.block, hlater, hexisting]
        · simp only [hexpired, Bool.false_eq_true, if_false, hip, toList_none, foldl_nil]
          have hother (block : BlockFold) :
              (byIp.insert key.ip block).lookup ip = byIp.lookup ip := by
            rw [lookup_insert_eq, if_neg (Ne.symm hip)]
          split
          · exact hother _
          split
          · exact hother _
          · rfl
  induction keys generalizing byIp with
  | nil => rfl
  | cons key keys ih =>
    rw [foldl_cons, ih, hstep, filterMap_cons]
    cases candidate nowNs active ip key with
    | none => rfl
    | some block => rfl

lemma lookup_project (dots : IterOrder BlockKey) (nowNs : Nat)
    (active : Table BlockKey ActiveMeshDot) (ip : IpAddr) :
    (project dots nowNs active).lookup ip =
      leader BlockFold.sinceNs ((dots.enum active.keys).filterMap (candidate nowNs active ip)) :=
  lookup_foldl_projectDot nowNs active ip _ ∅

variable {dots : IterOrder BlockKey} {block : BlockFold}

lemma candidate_eq_some :
    candidate nowNs active ip key = some block ↔
      key.ip = ip ∧ ∃ dot, active.lookup key = some dot ∧
        expired dot.deadlineNs nowNs = false ∧ dot.block = block := by
  unfold candidate
  split
  next hip => simp [hip, bind_eq_some_iff]
  next hip => simp [hip]

lemma mem_candidates :
    block ∈ (dots.enum active.keys).filterMap (candidate nowNs active ip) ↔
      ∃ dot, LiveDot nowNs active ip dot ∧ dot.block = block := by
  simp only [mem_filterMap, candidate_eq_some, dots.mem_enum]
  constructor
  · rintro ⟨key, _, hip, dot, hdot, hlive, rfl⟩
    exact ⟨dot, ⟨key, hip, hdot, hlive⟩, rfl⟩
  · rintro ⟨dot, ⟨key, hip, hdot, hlive⟩, rfl⟩
    exact ⟨key, mem_keys_iff_lookup.mpr ⟨dot, hdot⟩, hip, dot, hdot, hlive, rfl⟩

lemma mem_keys_project :
    ip ∈ (project dots nowNs active).keys ↔ ∃ dot, LiveDot nowNs active ip dot := by
  have hnone : (project dots nowNs active).lookup ip = none ↔
      ¬ ∃ dot, LiveDot nowNs active ip dot := by
    rw [lookup_project, leader_eq_none_iff, eq_nil_iff_forall_not_mem]
    simp only [mem_candidates]
    constructor
    · rintro hempty ⟨dot, hlive⟩
      exact hempty dot.block ⟨dot, hlive, rfl⟩
    · rintro hempty block ⟨dot, hlive, _⟩
      exact hempty ⟨dot, hlive⟩
  rw [← not_iff_not, not_mem_keys_iff_lookup, hnone]

lemma project_newest (hblock : (project dots nowNs active).lookup ip = some block) :
    ∃ dot, LiveDot nowNs active ip dot ∧ dot.block = block ∧
      ∀ other, LiveDot nowNs active ip other → other.sinceNs ≤ dot.sinceNs := by
  rw [lookup_project] at hblock
  obtain ⟨hmem, hbest⟩ := leader_spec hblock
  obtain ⟨dot, hlive, rfl⟩ := mem_candidates.mp hmem
  exact ⟨dot, hlive, rfl, fun other hother => hbest _ (mem_candidates.mpr ⟨other, hother, rfl⟩)⟩

/-! ## The question put to the log -/

def Blocks (log : List WalEntry) (ip : IpAddr) : Prop :=
  if ip ∈ (meshFold log).touched then (meshFold log).Active ip
  else ∃ block, (log.foldl foldIp ∅).lookup ip = some block

end Replay

variable {log : List WalEntry}

lemma Checked.foldMesh_eq (hchecked : Checked log) (fold : MeshFold) :
    foldMesh fold log = .ok (log.foldl foldMeshEntry fold) := by
  induction log generalizing fold with
  | nil => rfl
  | cons entry log ih =>
    cases entry with
    | meshMutation record =>
      obtain ⟨key, hkey⟩ := hchecked record mem_cons_self
      rw [foldMesh, foldl_cons, foldMeshEntry, hkey]
      exact ih hchecked.tail _
    | _ => exact ih hchecked.tail fold

variable {nowNs : Nat} {byIp : Table IpAddr BlockFold} {ip : IpAddr}

lemma Checked.replayMeshState (hchecked : Checked log) (hunexpired : Unexpired log nowNs)
    (dots : IterOrder BlockKey) :
    ∃ byIp, Replay.replayMeshState dots ⟨log⟩ 0 none nowNs = .ok ((meshFold log).touched, byIp) ∧
      ∀ ip, (∀ block, byIp.lookup ip = some block → expired block.deadlineNs nowNs = false) ∧
        ((byIp.lookup ip).isSome ↔ (meshFold log).Active ip) := by
  have hfold := hchecked.foldMesh_eq .empty
  change _ = Except.ok (meshFold log) at hfold
  refine ⟨project dots nowNs (meshFold log).active, ?_, fun ip => ⟨fun block hblock => ?_, ?_⟩⟩
  · unfold Replay.replayMeshState
    simp only [map_none, getD_none, isSome_none, Bool.false_eq_true, if_false, hfold]
    rfl
  · obtain ⟨dot, ⟨_, _, _, hlive⟩, rfl, _⟩ := project_newest hblock
    exact hlive
  · rw [isSome_iff_exists, ← mem_keys_iff_lookup, mem_keys_project]
    constructor
    · rintro ⟨dot, key, hip, hdot, _⟩
      exact ⟨key, mem_keys_iff_lookup.mpr ⟨dot, hdot⟩, hip⟩
    · rintro ⟨key, hkey, hip⟩
      obtain ⟨dot, hdot⟩ := mem_keys_iff_lookup.mp hkey
      obtain ⟨_, entry, hentry, hdeadline⟩ := (meshFold_from log).active hdot
      exact ⟨dot, key, hip, hdot, hdeadline ▸ hunexpired entry hentry⟩

lemma Replay.lookup_foldBlocks_iff
    (hbyIp : ∀ ip, (byIp.lookup ip).isSome ↔ (meshFold log).Active ip) (ip : IpAddr) :
    (∃ block, (foldBlocks ∅ log (meshFold log).touched byIp).lookup ip = some block) ↔
      Blocks log ip := by
  have hseed : (∅ : Table IpAddr SeedBlock).mapValues SeedBlock.toFold = ∅ := rfl
  rw [lookup_foldBlocks, hseed, ← isSome_iff_exists, isSome_or, Bool.or_eq_true, hbyIp]
  unfold Blocks
  split
  next htouched => simp [htouched]
  next huntouched =>
    -- An address with an active dot has a mesh record.
    have hinactive : ¬ (meshFold log).Active ip := by
      rintro ⟨key, hkey, rfl⟩
      obtain ⟨dot, hdot⟩ := mem_keys_iff_lookup.mp hkey
      exact huntouched ((meshFold_from log).active hdot).1
    simp [huntouched, hinactive, isSome_iff_exists]

lemma Replay.foldBlocks_unexpired (hunexpired : Unexpired log nowNs) {touched : Finset IpAddr}
    (hbyIp : ∀ block, byIp.lookup ip = some block → expired block.deadlineNs nowNs = false)
    {block : BlockFold} (hblock : (foldBlocks ∅ log touched byIp).lookup ip = some block) :
    expired block.deadlineNs nowNs = false := by
  rw [lookup_foldBlocks, or_eq_some_iff] at hblock
  rcases hblock with hmesh | ⟨_, hlocal⟩
  · exact hbyIp block hmesh
  · obtain ⟨_, entry, hentry, hdeadline⟩ := foldIp_from (filter_eq_some_iff.mp hlocal).1
    rw [← hdeadline]
    exact hunexpired entry hentry

lemma Replay.Blocks.named (hblocks : Blocks log ip) : ip ∈ log.filterMap WalEntry.subject := by
  have hsubject : some ip ∈ log.map WalEntry.subject := by
    unfold Blocks at hblocks
    split at hblocks
    next htouched => exact (meshFold_from log).touched htouched
    obtain ⟨block, hblock⟩ := hblocks
    exact (foldIp_from hblock).1
  exact mem_filterMap.mpr (mem_map.mp hsubject)

lemma Checked.replay (hchecked : Checked log) {clock : Clock}
    (hunexpired : Unexpired log clock.wallNs) (ips : IterOrder IpAddr) (dots : IterOrder BlockKey)
    {ramLimitMb : Nat} (hroom : Room (Store.new.setRamLimitMb ramLimitMb) log.length) :
    ∃ restored recovered,
      replayWalIntoStoreSeeded clock ips dots (Store.new.setRamLimitMb ramLimitMb) ⟨log⟩ 0
        ∅ none = (.ok restored, recovered) ∧
      ∀ ip, recovered.holds ip ↔ Blocks log ip := by
  obtain ⟨byIp, hmesh, hbyIp⟩ := hchecked.replayMeshState hunexpired dots
  have hblocks := lookup_foldBlocks_iff fun ip => (hbyIp ip).2
  generalize hblocked : foldBlocks ∅ log (meshFold log).touched byIp = blocked at hblocks
  have hnamed : blocked.keys ⊆ (log.filterMap WalEntry.subject).toFinset := by
    intro ip hmem
    exact mem_toFinset.mpr ((hblocks ip).mp (mem_keys_iff_lookup.mp hmem)).named
  have hcard : blocked.keys.card ≤ log.length :=
    (Finset.card_le_card hnamed).trans ((toFinset_card_le _).trans (length_filterMap_le _ _))
  obtain ⟨recovered, hreplay, _, _, hholds⟩ := replayWalIntoStoreSeeded_spec ips
    (Store.plain_of_empty rfl).records hmesh hblocked.symm (hroom.mono hcard (le_refl _) rfl)
  refine ⟨_, recovered, hreplay, fun ip => ?_⟩
  rw [hholds, liveLease_isSome, Store.holds_of_empty rfl, ← hblocks]
  constructor
  · rintro (⟨block, hblock, _⟩ | ⟨_, hheld⟩)
    · exact ⟨block, hblock⟩
    · cases hheld
  · rintro ⟨block, hblock⟩
    refine .inl ⟨block, hblock, ?_⟩
    rw [← hblocked] at hblock
    exact foldBlocks_unexpired hunexpired (hbyIp ip).1 hblock

end RamShield

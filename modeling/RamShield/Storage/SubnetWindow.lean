import RamShield.Foundation.Burst
import RamShield.Storage.Record
import RamShield.Types.Network

/-! # The counters of a subnet

`merge_subnet_window` forgets what it counted when the last update is more than a window ago,
not when what it counted is. Updates that follow each other without such a pause accumulate,
so the batch gate sees everything since the last pause.
-/

namespace RamShield

open Foundation Foundation.Machine List

def subnetWindowNs : Nat := 4 * 1000000000

def IpAddr.hostOctet : IpAddr → Option (Fin 256)
  | .v4 bits => some (Fin.ofNat 256 bits.toNat)
  | .v6 _ => none

namespace SubnetRecord

variable (record : SubnetRecord)

def uniqueIps : Nat :=
  (Finset.univ.filter fun octet : Fin 256 => record.hostBitmap.getLsbD octet).card

def markHostV4 (ip : IpAddr) : SubnetRecord :=
  match ip.hostOctet with
  | some octet => { record with hostBitmap := record.hostBitmap ||| 1#256 <<< octet.val }
  | none => record

/-- The loop of `merge_subnet_window` over the members of the batch. -/
def markMembers (members : Option (List IpAddr)) : SubnetRecord :=
  match members with
  | some members => members.foldl markHostV4 record
  | none => record

/-- The gate of `subnet_batch_scan`. For IPv6 `windowedMembers` replaces the bitmap. -/
def isHot (windowedMembers ipThreshold evThreshold : Nat) : Bool :=
  let uniq := if record.network.family = 4 then record.uniqueIps else windowedMembers
  decide (ipThreshold ≤ uniq) && decide (evThreshold ≤ record.totalRps)

end SubnetRecord

/-- A call of `merge_subnet_window` for a subnet. -/
structure WindowCall where
  net : IpNetwork
  events : Nat
  members : Option (List IpAddr)
  nowNs : Nat
  deriving DecidableEq

namespace WindowCall

def octets (call : WindowCall) : List (Fin 256) := (call.members.getD []).filterMap IpAddr.hostOctet

end WindowCall

namespace SubnetRecord

/-- The counters start again when the record has not been updated for a window. -/
def expire (record : SubnetRecord) (nowNs : Nat) : SubnetRecord :=
  if subnetWindowNs < nowNs - record.lastUpdatedNs then
    { record with totalRps := 0, hostBitmap := 0 }
  else record

def count (record : SubnetRecord) (call : WindowCall) : SubnetRecord :=
  { record with totalRps := satAdd record.totalRps call.events }.markMembers call.members

end SubnetRecord

namespace WindowCall

def fresh (call : WindowCall) : SubnetRecord :=
  let record : SubnetRecord :=
    { network := call.net, totalRps := 0, hostBitmap := 0, lastUpdatedNs := call.nowNs }
  record.count call

def update (call : WindowCall) (record : SubnetRecord) : SubnetRecord :=
  -- A clock that was set back does not move the baseline.
  let nowNs := max call.nowNs record.lastUpdatedNs
  { (record.expire nowNs).count call with lastUpdatedNs := nowNs }

end WindowCall

/-- `Store::merge_subnet_window`, on `subnet_table`. -/
def mergeSubnetWindow (key : BitVec 128) (table : Table (BitVec 128) SubnetRecord)
    (call : WindowCall) : Table (BitVec 128) SubnetRecord :=
  match table.lookup key with
  | some record => table.insert key (call.update record)
  | none => table.insert key call.fresh

/-! ## Marking hosts -/

namespace SubnetRecord

section

variable (record : SubnetRecord)
variable (ip : IpAddr) (members : Option (List IpAddr)) (octet : Fin 256)

lemma markMembers_frame :
    ∃ bitmap, record.markMembers members = { record with hostBitmap := bitmap } := by
  unfold markMembers
  split
  next members =>
    induction members generalizing record with
    | nil => exact ⟨_, rfl⟩
    | cons ip members ih =>
      rw [foldl_cons, markHostV4]
      split <;> exact ih _
  · exact ⟨_, rfl⟩

lemma getLsbD_markHostV4 :
    (record.markHostV4 ip).hostBitmap.getLsbD octet ↔
      record.hostBitmap.getLsbD octet ∨ ip.hostOctet = some octet := by
  unfold markHostV4
  split
  next marked hmarked =>
    have hoctet := octet.isLt
    rw [hmarked, Option.some.injEq, Fin.ext_iff]
    simp only [BitVec.getLsbD_or, BitVec.getLsbD_shiftLeft, BitVec.getLsbD_one, Bool.or_eq_true,
      Bool.and_eq_true, decide_eq_true_eq, Bool.not_eq_true', decide_eq_false_iff_not]
    refine or_congr Iff.rfl ?_
    omega
  next hnone => simp [hnone]

lemma getLsbD_markMembers :
    (record.markMembers members).hostBitmap.getLsbD octet ↔
      record.hostBitmap.getLsbD octet ∨ octet ∈ (members.getD []).filterMap IpAddr.hostOctet := by
  unfold markMembers
  split
  next members =>
    rw [Option.getD_some, mem_filterMap]
    induction members generalizing record with
    | nil => simp
    | cons ip members ih =>
      rw [foldl_cons, ih, getLsbD_markHostV4]
      simp only [mem_cons, exists_eq_or_imp, or_assoc]
  · simp

end

end SubnetRecord

/-! ## What the record counts -/

def windowEvents (calls : List WindowCall) : Nat := (calls.map (·.events)).sum

def windowHosts (calls : List WindowCall) : Finset (Fin 256) := (calls.flatMap (·.octets)).toFinset

def windowBurst : List WindowCall → List WindowCall := burst WindowCall.nowNs subnetWindowNs

variable {calls : List WindowCall} {record : SubnetRecord} {call : WindowCall} {now : Nat}

lemma mem_windowHosts {octet : Fin 256} :
    octet ∈ windowHosts calls ↔ ∃ call ∈ calls, octet ∈ call.octets := by
  rw [windowHosts, mem_toFinset, mem_flatMap]

lemma windowEvents_append (first second : List WindowCall) :
    windowEvents (first ++ second) = windowEvents first + windowEvents second := by
  rw [windowEvents, map_append, sum_append]
  rfl

structure SubnetRecord.Counts (record : SubnetRecord) (calls : List WindowCall) : Prop where
  total : record.totalRps = min (windowEvents calls) u64Max
  hosts (octet : Fin 256) : record.hostBitmap.getLsbD octet = true ↔ octet ∈ windowHosts calls
  last : calls.getLast?.map (·.nowNs) = some record.lastUpdatedNs

lemma SubnetRecord.count_frame (record : SubnetRecord) (call : WindowCall) :
    ∃ bitmap, record.count call = { record with
      totalRps := satAdd record.totalRps call.events, hostBitmap := bitmap } :=
  markMembers_frame { record with totalRps := satAdd record.totalRps call.events } call.members

lemma SubnetRecord.counts_count {record : SubnetRecord} {calls : List WindowCall}
    (htotal : record.totalRps = min (windowEvents calls) u64Max)
    (hhosts : ∀ octet : Fin 256, record.hostBitmap.getLsbD octet ↔ octet ∈ windowHosts calls)
    (call : WindowCall) :
    Counts { record.count call with lastUpdatedNs := call.nowNs } (calls ++ [call]) := by
  refine ⟨?_, fun octet => ?_, ?_⟩
  · obtain ⟨bitmap, hbitmap⟩ := record.count_frame call
    rw [hbitmap, windowEvents_append]
    change satAdd record.totalRps call.events = min (windowEvents calls + (call.events + 0)) u64Max
    rw [htotal, satAdd]
    omega
  · change (markMembers _ _).hostBitmap.getLsbD octet = true ↔ _
    rw [getLsbD_markMembers, mem_windowHosts]
    simp only [mem_append, mem_singleton, or_and_right, exists_or, exists_eq_left]
    rw [← mem_windowHosts, ← hhosts]
    rfl
  · rw [List.getLast?_append, List.getLast?_singleton]
    rfl

lemma SubnetRecord.counts_count_empty {record : SubnetRecord} (htotal : record.totalRps = 0)
    (hhosts : record.hostBitmap = 0) (call : WindowCall) :
    Counts { record.count call with lastUpdatedNs := call.nowNs } [call] := by
  apply @counts_count record []
  · rw [htotal]
    rfl
  · intro octet
    simp [hhosts, windowHosts]

lemma WindowCall.counts_fresh (call : WindowCall) : call.fresh.Counts [call] := by
  have hcounts := @SubnetRecord.counts_count_empty
    { network := call.net, totalRps := 0, hostBitmap := 0, lastUpdatedNs := call.nowNs } rfl rfl
    call
  obtain ⟨bitmap, hbitmap⟩ := SubnetRecord.count_frame
    { network := call.net, totalRps := 0, hostBitmap := 0, lastUpdatedNs := call.nowNs } call
  unfold fresh
  rw [hbitmap] at hcounts ⊢
  exact hcounts

lemma WindowCall.counts_update (hcounts : record.Counts calls)
    (hlater : record.lastUpdatedNs ≤ call.nowNs) :
    (call.update record).Counts (Burst.push nowNs subnetWindowNs calls call) := by
  obtain ⟨last, hlast, htime⟩ := Option.map_eq_some_iff.mp hcounts.last
  unfold Burst.push update SubnetRecord.expire
  rw [hlast]
  dsimp only
  rw [Nat.max_eq_left hlater, htime]
  split
  · exact SubnetRecord.counts_count_empty rfl rfl call
  · exact SubnetRecord.counts_count hcounts.total hcounts.hosts call

def CallsInOrder (calls : List WindowCall) : Prop :=
  calls.Pairwise fun first second => first.nowNs ≤ second.nowNs

instance (calls : List WindowCall) : Decidable (CallsInOrder calls) :=
  inferInstanceAs (Decidable (List.Pairwise _ _))

/-- The record holds what was merged since the last pause. -/
lemma exists_counts_burst {table : Table (BitVec 128) SubnetRecord} {key : BitVec 128}
    (hnew : table.lookup key = none) (hcalls : calls ≠ []) (horder : CallsInOrder calls) :
    ∃ record, (run (mergeSubnetWindow key) table calls).lookup key = some record ∧
      record.Counts (windowBurst calls) := by
  induction calls using List.reverseRecOn with
  | nil => exact absurd rfl hcalls
  | append_singleton calls call ih =>
    unfold windowBurst at ih ⊢
    rw [burst_append_singleton, run_append, run_cons, run_nil]
    rcases eq_nil_or_concat calls with rfl | ⟨before, previous, rfl⟩
    · refine ⟨call.fresh, ?_, call.counts_fresh⟩
      unfold mergeSubnetWindow
      rw [run_nil, hnew, Table.lookup_insert_eq, if_pos rfl]
    · obtain ⟨horder, -, hlater⟩ := pairwise_append.mp horder
      obtain ⟨record, hrecord, hcounts⟩ := ih (by simp) horder
      refine ⟨call.update record, ?_, WindowCall.counts_update hcounts ?_⟩
      · unfold mergeSubnetWindow at hrecord ⊢
        rw [hrecord, Table.lookup_insert_eq, if_pos rfl]
      · obtain ⟨last, hlast, htime⟩ := Option.map_eq_some_iff.mp hcounts.last
        rw [← htime]
        exact hlater last ((burst_suffix _ _ _).mem (mem_of_getLast? hlast)) call
          (mem_singleton_self call)

/-! ## The window -/

/-- The calls in `(now - SUBNET_WINDOW_NS - slack, now]`, for a slack of one window. -/
def recentCalls (now : Nat) (calls : List WindowCall) : List WindowCall :=
  calls.filter fun call => now < call.nowNs + subnetWindowNs + subnetWindowNs

/-- The record counts recent events and hosts only. -/
structure SubnetRecord.Windowed (record : SubnetRecord) (now : Nat) (calls : List WindowCall) :
    Prop where
  total : record.totalRps ≤ windowEvents (recentCalls now calls)
  hosts (octet : Fin 256) (hmarked : record.hostBitmap.getLsbD octet = true) :
    octet ∈ windowHosts (recentCalls now calls)

/-- The older calls since the last pause brought no events and no other hosts. -/
structure Settled (now : Nat) (calls : List WindowCall) : Prop where
  events : (∀ call ∈ windowBurst calls, call ∉ recentCalls now calls → call.events = 0) ∨
    u64Max ≤ windowEvents (recentCalls now calls)
  hosts : ∀ call ∈ windowBurst calls, call ∉ recentCalls now calls →
    ∀ octet ∈ call.octets, octet ∈ windowHosts (recentCalls now calls)

lemma mem_recentCalls :
    call ∈ recentCalls now calls ↔
      call ∈ calls ∧ now < call.nowNs + subnetWindowNs + subnetWindowNs := by
  rw [recentCalls, mem_filter, decide_eq_true_eq]

lemma windowEvents_filter_add (calls : List WindowCall) (keep : WindowCall → Bool) :
    windowEvents (calls.filter keep) + windowEvents (calls.filter fun call => !keep call) =
      windowEvents calls := by
  rw [← windowEvents_append]
  exact ((filter_append_perm keep calls).map _).sum_eq

lemma windowEvents_eq_zero_iff : windowEvents calls = 0 ↔ ∀ call ∈ calls, call.events = 0 := by
  rw [windowEvents, List.sum_eq_zero_iff_forall_eq_nat, List.forall_mem_map]

lemma exists_recentCalls_append (now : Nat) (calls : List WindowCall) :
    ∃ earlier, earlier ++ windowBurst calls = calls ∧
      recentCalls now calls = recentCalls now earlier ++ recentCalls now (windowBurst calls) := by
  obtain ⟨earlier, hsplit⟩ := burst_suffix WindowCall.nowNs subnetWindowNs calls
  refine ⟨earlier, hsplit, ?_⟩
  calc recentCalls now calls
      = recentCalls now (earlier ++ windowBurst calls) := congrArg _ hsplit.symm
    _ = recentCalls now earlier ++ recentCalls now (windowBurst calls) := filter_append _ _

lemma recentCalls_windowBurst (horder : CallsInOrder calls) (hcall : call ∈ windowBurst calls)
    (hold : call ∉ recentCalls now calls) :
    recentCalls now calls = recentCalls now (windowBurst calls) := by
  obtain ⟨earlier, hsplit, hrecent⟩ := exists_recentCalls_append now calls
  have hmem : call ∈ calls := hsplit ▸ mem_append_right earlier hcall
  unfold CallsInOrder at horder
  rw [← hsplit, pairwise_append] at horder
  have hnone : recentCalls now earlier = [] := by
    refine filter_eq_nil_iff.mpr fun other hother hnear => hold ?_
    have hle := horder.2.2 other hother call hcall
    have hnear := of_decide_eq_true hnear
    exact mem_recentCalls.mpr ⟨hmem, by omega⟩
  rw [hrecent, hnone, nil_append]

lemma windowEvents_windowBurst_le_iff (horder : CallsInOrder calls) :
    windowEvents (windowBurst calls) ≤ windowEvents (recentCalls now calls) ↔
      ∀ call ∈ windowBurst calls, call ∉ recentCalls now calls → call.events = 0 := by
  obtain ⟨earlier, hsplit, hrecent⟩ := exists_recentCalls_append now calls
  by_cases hall : ∀ call ∈ windowBurst calls, call ∈ recentCalls now calls
  · refine iff_of_true ?_ fun call hcall hold => absurd (hall call hcall) hold
    have hburst : recentCalls now (windowBurst calls) = windowBurst calls :=
      filter_eq_self.mpr fun call hcall => decide_eq_true (mem_recentCalls.mp (hall call hcall)).2
    rw [hrecent, windowEvents_append, hburst]
    exact Nat.le_add_left _ _
  · push Not at hall
    obtain ⟨call, hcall, hold⟩ := hall
    have hsum := windowEvents_filter_add (windowBurst calls)
      fun call => now < call.nowNs + subnetWindowNs + subnetWindowNs
    have hmem : ∀ other ∈ windowBurst calls, other ∈ calls := fun other hother =>
      hsplit ▸ mem_append_right earlier hother
    have hzero : windowEvents (windowBurst calls) ≤ windowEvents (recentCalls now calls) ↔
        windowEvents ((windowBurst calls).filter fun other =>
          !decide (now < other.nowNs + subnetWindowNs + subnetWindowNs)) = 0 := by
      rw [recentCalls_windowBurst horder hcall hold, recentCalls]
      omega
    rw [hzero, windowEvents_eq_zero_iff]
    refine forall_congr' fun other => ?_
    rw [mem_filter, and_imp]
    refine forall_congr' fun hother => ?_
    rw [mem_recentCalls, Bool.not_eq_true', decide_eq_false_iff_not]
    simp only [hmem other hother, true_and]

lemma windowHosts_windowBurst_subset_iff {now : Nat} {calls : List WindowCall} :
    (∀ octet ∈ windowHosts (windowBurst calls), octet ∈ windowHosts (recentCalls now calls)) ↔
      ∀ call ∈ windowBurst calls, call ∉ recentCalls now calls →
        ∀ octet ∈ call.octets, octet ∈ windowHosts (recentCalls now calls) := by
  constructor
  · intro hall call hcall _ octet hoctet
    exact hall octet (mem_windowHosts.mpr ⟨call, hcall, hoctet⟩)
  · intro hold octet hoctet
    obtain ⟨call, hcall, hoctet⟩ := mem_windowHosts.mp hoctet
    by_cases hrecent : call ∈ recentCalls now calls
    · exact mem_windowHosts.mpr ⟨call, hrecent, hoctet⟩
    · exact hold call hcall hrecent octet hoctet

lemma SubnetRecord.Counts.windowed_iff (hcounts : record.Counts (windowBurst calls))
    (horder : CallsInOrder calls) : record.Windowed now calls ↔ Settled now calls := by
  have htotal : record.totalRps ≤ windowEvents (recentCalls now calls) ↔
      windowEvents (windowBurst calls) ≤ windowEvents (recentCalls now calls) ∨
        u64Max ≤ windowEvents (recentCalls now calls) := by
    rw [hcounts.total, min_le_iff]
  rw [windowEvents_windowBurst_le_iff horder] at htotal
  have hhosts := @windowHosts_windowBurst_subset_iff now calls
  constructor
  · rintro ⟨hevents, hmarked⟩
    refine ⟨htotal.mp hevents, hhosts.mp fun octet hoctet => ?_⟩
    exact hmarked octet ((hcounts.hosts octet).mpr hoctet)
  · rintro ⟨hevents, hold⟩
    refine ⟨htotal.mpr hevents, fun octet hoctet => ?_⟩
    exact hhosts.mpr hold octet ((hcounts.hosts octet).mp hoctet)

lemma SubnetRecord.Windowed.le_of_isHot (hwindowed : record.Windowed now calls)
    {windowedMembers ipThreshold evThreshold : Nat}
    (hhot : record.isHot windowedMembers ipThreshold evThreshold) :
    evThreshold ≤ windowEvents (recentCalls now calls) ∧
      (record.network.family = 4 → ipThreshold ≤ (windowHosts (recentCalls now calls)).card) := by
  unfold isHot at hhot
  rw [Bool.and_eq_true, decide_eq_true_eq, decide_eq_true_eq] at hhot
  refine ⟨hhot.2.trans hwindowed.total, fun hfamily => ?_⟩
  rw [if_pos hfamily] at hhot
  refine hhot.1.trans (Finset.card_le_card fun octet hoctet => ?_)
  exact hwindowed.hosts octet (Finset.mem_filter.mp hoctet).2

/-- After calls in the order of their times, the last one at `now`, the record counts recent
events and hosts only exactly if the calls since the last pause are settled. Then the batch
gate passes on recent traffic only. -/
theorem windowed_iff_settled {table : Table (BitVec 128) SubnetRecord} {key : BitVec 128}
    (hnew : table.lookup key = none) {calls : List WindowCall} (hcalls : calls ≠ [])
    (horder : CallsInOrder calls) (now : Nat) :
    ∃ record, (run (mergeSubnetWindow key) table calls).lookup key = some record ∧
      (record.Windowed now calls ↔ Settled now calls) ∧
      (Settled now calls → ∀ windowedMembers ipThreshold evThreshold,
        record.isHot windowedMembers ipThreshold evThreshold = true →
          evThreshold ≤ windowEvents (recentCalls now calls) ∧
            (record.network.family = 4 →
              ipThreshold ≤ (windowHosts (recentCalls now calls)).card)) := by
  obtain ⟨record, hrecord, hcounts⟩ := exists_counts_burst hnew hcalls horder
  have hiff : record.Windowed now calls ↔ Settled now calls := hcounts.windowed_iff horder
  refine ⟨record, hrecord, hiff, ?_⟩
  intro hsettled windowedMembers ipThreshold evThreshold hhot
  exact (hiff.mpr hsettled).le_of_isHot hhot

/-- Hosts of one /24, each with eight events, one host every three seconds. -/
def slowSwarm (hosts : Nat) : List WindowCall :=
  (List.range hosts).map fun host =>
    { net := ⟨.v4 0x0A000000, 24⟩
      events := 8
      members := some [.v4 (0x0A000000 + BitVec.ofNat 32 host)]
      nowNs := host * 3000000000 }

theorem windowed_iff_settled_pulses :
    ∃ record, (run (mergeSubnetWindow 0x0A000000) ∅ (slowSwarm 3)).lookup 0x0A000000 =
      some record ∧ record.isHot 0 3 24 = true ∧ record.Windowed 6000000000 (slowSwarm 3) ∧
        24 ≤ windowEvents (recentCalls 6000000000 (slowSwarm 3)) := by
  obtain ⟨record, hrecord, hiff, hgate⟩ := @windowed_iff_settled ∅ 0x0A000000 rfl (slowSwarm 3)
    (by decide) (by decide) 6000000000
  have hsettled : Settled 6000000000 (slowSwarm 3) := ⟨.inl (by decide +kernel), by decide +kernel⟩
  have hhot : ((run (mergeSubnetWindow 0x0A000000) ∅ (slowSwarm 3)).lookup 0x0A000000).map
      (·.isHot 0 3 24) = some true := by decide +kernel
  rw [hrecord] at hhot
  have hhot := Option.some.inj hhot
  exact ⟨record, hrecord, hhot, hiff.mpr hsettled, (hgate hsettled 0 3 24 hhot).1⟩

/-- The gate, at its default thresholds of 64 hosts and 500 events, passes on a swarm of which
the last two windows saw three hosts and 24 events. -/
theorem slow_swarm_is_hot :
    CallsInOrder (slowSwarm 64) ∧
      (slowSwarm 64).getLast?.map (·.nowNs) = some 189000000000 ∧
      ((run (mergeSubnetWindow 0x0A000000) ∅ (slowSwarm 64)).lookup 0x0A000000).map
        (fun record => (record.totalRps, record.uniqueIps, record.isHot 0 64 500)) =
          some (512, 64, true) ∧
      windowEvents (recentCalls 189000000000 (slowSwarm 64)) = 24 ∧
      (windowHosts (recentCalls 189000000000 (slowSwarm 64))).card = 3 := by
  refine ⟨?_, ?_, ?_, ?_, ?_⟩
  all_goals decide +kernel

end RamShield

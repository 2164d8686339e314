import RamShield.Detection.Merge

/-! # Progress of the adaptive detector

The tracker that a merge builds holds the time of the sample it is about to be given, since
the next bucket is begun first. The tracker's validation takes such a sample only when it is
the first one and its time is zero. So the detector takes at most one sample of an address
and never leaves the warm-up.
-/

namespace RamShield

open Foundation List

namespace IpRecord

/-! ## One merge -/

variable {record : IpRecord} {now : Nat}

lemma adaptive_of_error {det : DetectionConfig} {instRps : Float} {error : DetectorError}
    (herror : (((record.openBucket now).tracker det).update (record.bucketRate instRps) now
      none).1 = .error error) :
    record.adaptive det instRps now = (record, false) := by
  unfold adaptive
  split
  · dsimp only
    rw [← Prod.mk.eta (p := ((record.openBucket now).tracker det).update _ now none), herror]
    rfl
  · rfl

/-- The tracker refuses every sample but a first one at time zero. -/
lemma adaptive_eq_self {record : IpRecord} {now : Nat}
    (hheld : 0 < record.adaptiveSampleCount ∨ now ≠ 0) (det : DetectionConfig)
    (instRps : Float) : record.adaptive det instRps now = (record, false) := by
  obtain ⟨error, herror⟩ := ((record.openBucket now).tracker det).exists_error_update
    (record.bucketRate instRps) none hheld
  exact adaptive_of_error herror

/-- How far the detector has come: the time of its bucket, its samples and its mode. -/
def progress (record : IpRecord) : Nat × Nat × Nat :=
  (record.lastBucketNs, record.adaptiveSampleCount, record.detectorMode)

lemma progress_learn (record : IpRecord) (relativeBreach : Bool) (priorBaseline instRps : Float) :
    (record.learn relativeBreach priorBaseline instRps).progress = record.progress := by
  unfold learn
  split
  · rfl
  · rfl

section

variable (record) (det : DetectionConfig)

lemma progress_score (now : Nat) : (record.score det now).progress = record.progress := by
  unfold score
  dsimp only
  split
  · rfl
  · rfl

lemma progress_judge (now : Nat) (wasBlocked relativeBreach adaptiveBlocked : Bool) :
    (record.judge det now wasBlocked relativeBreach adaptiveBlocked).1.progress =
      record.progress := rfl

lemma progress_merge (agg : IpAgg) (now : Nat) :
    (record.merge det agg now).1.progress =
      ((record.absorb agg).adaptive det agg.instRps now).1.progress := by
  rw [merge, progress_judge, progress_score, progress_learn]

end

lemma progress_merge_eq_self (hheld : 0 < record.adaptiveSampleCount ∨ now ≠ 0)
    (det : DetectionConfig) (agg : IpAgg) :
    (record.merge det agg now).1.progress = record.progress := by
  rw [progress_merge, @adaptive_eq_self (record.absorb agg) now hheld]
  rfl

end IpRecord

/-! ## The first sample -/

def DetectionConfig.firstTracker (det : DetectionConfig) : PerIpRecord where
  baselineRate := 0.0
  variance := 0.1
  cusumS := 0.0
  lastBucketNs := 0
  sampleCount := 0
  recoveryCount := 0
  mode := .warmingUp
  profile := det.profile

/-- The detector takes a first sample at time zero. -/
structure DetectionConfig.TakesFirst (det : DetectionConfig) (rate : Float) : Prop where
  profile : det.profile.isValid
  arithmetic : det.firstTracker.InRange rate 0 none

namespace IpRecord

variable {det : DetectionConfig} {rate : Float} (ip : IpAddr) (agg : IpAgg)

lemma tracker_unseen (det : DetectionConfig) :
    ((((unseen ip agg).absorb agg).openBucket 0).tracker det) = det.firstTracker := by
  have hzero : (F64.ofFloat 0.0).value = 0.0 := by decide +kernel
  have hvariance : (F64.ofFloat 0.1).value = 0.1 := by decide +kernel
  change PerIpRecord.mk (F64.ofFloat 0.0).value (F64.ofFloat 0.1).value (F64.ofFloat 0.0).value
    0 0 0 .warmingUp det.profile = _
  rw [hzero, hvariance]
  rfl

lemma bucketRate_unseen (instRps : Float) :
    ((unseen ip agg).absorb agg).bucketRate instRps = instRps := by
  rw [bucketRate]
  exact if_pos rfl

lemma validate_firstTracker (hrate : nonnegative rate) :
    det.firstTracker.validate rate 0 none =
      if det.profile.isValid = false then some .invalidProfile else none := by
  have hzero : nonnegative 0.0 := by decide +kernel
  have hvariance : positive 0.1 := by decide +kernel
  simp [PerIpRecord.validate, DetectionConfig.firstTracker, hrate, hzero, hvariance]

lemma update_firstTracker (hrate : nonnegative rate) :
    (¬det.TakesFirst rate ∧ ∃ error, (det.firstTracker.update rate 0 none).1 = .error error) ∨
      det.TakesFirst rate ∧ ∃ outcome next,
        det.firstTracker.update rate 0 none = (.ok outcome, next) ∧ next.sampleCount = 1 ∧
          outcome.mode = .warmingUp := by
  rw [PerIpRecord.update, validate_firstTracker hrate]
  split
  next error herror =>
    refine .inl ⟨fun htakes => ?_, error, rfl⟩
    rw [htakes.profile] at herror
    cases herror
  next hvalid =>
    have hprofile : det.profile.isValid := by
      by_contra hinvalid
      rw [if_pos (Bool.eq_false_of_not_eq_true hinvalid)] at hvalid
      cases hvalid
    obtain ⟨error, herror, hrange⟩ | ⟨outcome, next, hnext, hrange, hcount, hmode⟩ :=
      @PerIpRecord.transition_of_warmingUp det.firstTracker rfl
        (show 0 + 1 < cusumWarmupSamples by decide) (show 0 < u64Max by decide) rate 0 none
    · exact .inl ⟨fun htakes => hrange htakes.arithmetic, error, herror⟩
    · exact .inr ⟨⟨hprofile, hrange⟩, outcome, next, hnext, hcount, hmode⟩

lemma progress_merge_unseen {agg : IpAgg} (hrate : nonnegative agg.instRps)
    (det : DetectionConfig) :
    (¬det.TakesFirst agg.instRps ∧ ((unseen ip agg).merge det agg 0).1.progress = (0, 0, 0)) ∨
      det.TakesFirst agg.instRps ∧ ((unseen ip agg).merge det agg 0).1.progress = (0, 1, 0) := by
  rw [progress_merge]
  obtain ⟨hrefused, error, herror⟩ | ⟨htakes, outcome, next, hnext, hcount, hmode⟩ :=
    @update_firstTracker det agg.instRps hrate
  · rw [← tracker_unseen ip agg] at herror
    rw [adaptive_of_error (by rw [bucketRate_unseen]; exact herror)]
    exact .inl ⟨hrefused, rfl⟩
  · rw [← tracker_unseen ip agg] at hnext
    refine .inr ⟨htakes, ?_⟩
    rw [adaptive, if_pos (show ((unseen ip agg).absorb agg).lastBucketNs = 0 ∨ _ from .inl rfl)]
    dsimp only
    rw [bucketRate_unseen, hnext]
    dsimp only [progress]
    rw [hcount, hmode]
    rfl

end IpRecord

/-! ## Merges on the store -/

/-- A call of `merge_record` for an address. -/
structure MergeCall where
  clock : Instant
  agg : IpAgg
  ramLim : Nat
  now : Nat
  subnetKey : Option (BitVec 128)

namespace Store

def merged (det : DetectionConfig) (ip : IpAddr) (store : Store) (call : MergeCall) : Store :=
  (store.mergeRecord call.clock ip call.agg det call.ramLim call.now call.subnetKey).2

def HasRecord (store : Store) (ip : IpAddr) (record : IpRecord) : Prop :=
  store.inner.lookup ip = some ⟨.ipRecord record, none⟩

variable {store : Store} {ip : IpAddr}

lemma HasRecord.merged {record : IpRecord} (hrecord : store.HasRecord ip record)
    (det : DetectionConfig) (call : MergeCall) :
    (Store.merged det ip store call).HasRecord ip (record.merge det call.agg call.now).1 := by
  have hlive : Entry.liveRecord ⟨.ipRecord record, none⟩ call.clock = some record := rfl
  unfold Store.merged mergeRecord updateIp
  rw [hrecord]
  dsimp only
  rw [hlive]
  dsimp only
  rw [if_pos rfl, HasRecord, inner_updateSubnetIndex, Table.lookup_insert_eq, if_pos rfl]

variable {det : DetectionConfig} {call : MergeCall} {calls : List MergeCall}

lemma hasRecord_merged (hnew : store.inner.lookup ip = none)
    (hroom : store.refuses (sizeOfIpAddr + sizeOfEntry) call.ramLim = false)
    (det : DetectionConfig) :
    (store.merged det ip call).HasRecord ip
      ((IpRecord.unseen ip call.agg).merge det call.agg call.now).1 := by
  unfold Store.merged mergeRecord updateIp
  rw [hnew]
  dsimp only
  rw [hroom, if_neg Bool.false_ne_true]
  dsimp only
  rw [if_pos rfl, HasRecord, inner_updateSubnetIndex, publishFresh_inner, Table.lookup_insert_eq,
    if_pos rfl]

def progress (store : Store) (ip : IpAddr) : Nat × Nat × Nat :=
  match store.inner.lookup ip with
  | some ⟨.ipRecord record, _⟩ => record.progress
  | _ => (0, 0, 0)

/-- `adaptive_sample_count` of an address. -/
def adaptiveSampleCount (store : Store) (ip : IpAddr) : Nat := (store.progress ip).2.1

/-- `detector_mode` of an address. -/
def detectorMode (store : Store) (ip : IpAddr) : DetectorMode := .ofCode (store.progress ip).2.2

lemma HasRecord.progress {record : IpRecord} (hrecord : store.HasRecord ip record) :
    store.progress ip = record.progress := by
  rw [Store.progress, hrecord]

/-- After a sample, or away from time zero, the detector stays. -/
lemma HasRecord.progress_run {ip : IpAddr} {store : Store} {record : IpRecord}
    (hrecord : store.HasRecord ip record)
    (hheld : ∀ call ∈ calls, 0 < record.progress.2.1 ∨ call.now ≠ 0) :
    (Machine.run (Store.merged det ip) store calls).progress ip = record.progress := by
  induction calls generalizing store record with
  | nil => exact hrecord.progress
  | cons call calls ih =>
    have hsame := IpRecord.progress_merge_eq_self (hheld call mem_cons_self) det call.agg
    rw [Machine.run_cons, ih (hrecord.merged det call), hsame]
    intro later hlater
    rw [hsame]
    exact hheld later (mem_cons_of_mem call hlater)

def Paced (calls : List MergeCall) : Prop :=
  calls.IsChain fun first second =>
    first.now + 1000000000 ≤ second.now ∧ second.now ≤ first.now + 5000000000

lemma Paced.now_ne_zero (hpaced : Paced (call :: calls)) {later : MergeCall}
    (hlater : later ∈ calls) : later.now ≠ 0 := by
  have hincreasing : (call :: calls).Pairwise fun first second => first.now < second.now := by
    have htrans : IsTrans MergeCall fun first second => first.now < second.now :=
      ⟨fun _ _ _ => Nat.lt_trans⟩
    apply isChain_iff_pairwise.mp
    apply hpaced.imp
    intro first second hpace
    omega
  exact Nat.ne_zero_of_lt ((pairwise_cons.mp hincreasing).1 later hlater)

def Advances (det : DetectionConfig) (ip : IpAddr) (store : Store) (calls : List MergeCall) :
    Prop :=
  (Machine.run (merged det ip) store calls).adaptiveSampleCount ip = calls.length ∧
    (cusumWarmupSamples ≤ calls.length →
      (Machine.run (merged det ip) store calls).detectorMode ip ≠ .warmingUp)

lemma progress_first {store : Store} {ip : IpAddr} (hnew : store.inner.lookup ip = none)
    (hroom : store.refuses (sizeOfIpAddr + sizeOfEntry) call.ramLim = false)
    (hrate : nonnegative call.agg.instRps) (hpaced : Paced (call :: calls)) :
    (Machine.run (merged det ip) store (call :: calls)).progress ip = (0, 1, 0) ∧
        call.now = 0 ∧ det.TakesFirst call.agg.instRps ∨
      (Machine.run (merged det ip) store (call :: calls)).progress ip = (0, 0, 0) ∧
        ¬(call.now = 0 ∧ det.TakesFirst call.agg.instRps) := by
  have hrun := @HasRecord.progress_run det calls ip _ _ (hasRecord_merged hnew hroom det)
    fun later hlater => Or.inr (hpaced.now_ne_zero hlater)
  rw [Machine.run_cons, hrun]
  by_cases hnow : call.now = 0
  · rw [hnow]
    obtain ⟨hrefused, hprogress⟩ | ⟨htakes, hprogress⟩ :=
      IpRecord.progress_merge_unseen ip hrate det
    · exact .inr ⟨hprogress, fun hboth => hrefused hboth.2⟩
    · exact .inl ⟨hprogress, rfl, htakes⟩
  · rw [IpRecord.progress_merge_eq_self (Or.inr hnow)]
    exact .inr ⟨rfl, fun hboth => hnow hboth.1⟩

/-- The calls for which the detector advances: none, or a single one at time zero whose
sample it takes. A failed update leaves the record as it was, in every case. -/
theorem advances_iff {store : Store} {ip : IpAddr} {calls : List MergeCall} (det : DetectionConfig)
    (hnew : store.inner.lookup ip = none)
    (hroom : ∀ call ∈ calls.head?, store.refuses (sizeOfIpAddr + sizeOfEntry) call.ramLim = false)
    (hrates : ∀ call ∈ calls, nonnegative call.agg.instRps) (hpaced : Paced calls) :
    (store.Advances det ip calls ↔
      calls = [] ∨ ∃ call, calls = [call] ∧ call.now = 0 ∧ det.TakesFirst call.agg.instRps) ∧
    ∀ (record : IpRecord) (instRps : Float) (now : Nat) (error : DetectorError),
      (((record.openBucket now).tracker det).update (record.bucketRate instRps) now none).1 =
        .error error → record.adaptive det instRps now = (record, false) := by
  refine ⟨?_, fun _ _ _ _ => IpRecord.adaptive_of_error⟩
  cases calls with
  | nil =>
    have hempty : store.adaptiveSampleCount ip = 0 := by rw [adaptiveSampleCount, progress, hnew]
    exact iff_of_true ⟨hempty, fun hlong => absurd hlong (by decide)⟩ (Or.inl rfl)
  | cons call calls =>
    obtain ⟨hprogress, hnow, htakes⟩ | ⟨hprogress, hrefused⟩ :=
      @progress_first det call calls store ip hnew (hroom call rfl)
        (hrates call mem_cons_self) hpaced
    · -- The first call counts, and no later one does.
      rw [Advances, adaptiveSampleCount, hprogress]
      constructor
      · rintro ⟨hcount, -⟩
        have hlast : calls = [] := by
          apply eq_nil_of_length_eq_zero
          change 1 = calls.length + 1 at hcount
          omega
        exact .inr ⟨call, by rw [hlast], hnow, htakes⟩
      · rintro (hnil | ⟨only, honly, -⟩)
        · cases hnil
        · rw [honly]
          exact ⟨rfl, fun hlong => absurd hlong (show ¬cusumWarmupSamples ≤ 1 by decide)⟩
    · rw [Advances, adaptiveSampleCount, hprogress]
      constructor
      · rintro ⟨hcount, -⟩
        change 0 = calls.length + 1 at hcount
        omega
      · rintro (hnil | ⟨only, honly, hnow, htakes⟩)
        · cases hnil
        · obtain ⟨rfl, rfl⟩ := List.cons.inj honly
          exact absurd ⟨hnow, htakes⟩ hrefused

/-- A merge of ten requests of one clock tick. -/
def tenRequests (now : Nat) : MergeCall where
  clock := 0
  agg := { IpAgg.default with count := 10 }
  ramLim := 1000000
  now := now
  subnetKey := none

theorem advances_at_zero : new.Advances .default (.v4 1) [tenRequests 0] := by
  have htakes : DetectionConfig.default.TakesFirst (tenRequests 0).agg.instRps :=
    ⟨by decide +kernel, by decide +kernel, by decide +kernel, by decide +kernel,
      by decide +kernel, by decide +kernel, by decide +kernel, by decide +kernel⟩
  refine (advances_iff .default rfl ?_ ?_ (isChain_singleton _)).1.mpr
    (.inr ⟨tenRequests 0, rfl, rfl, htakes⟩)
  · rintro _ ⟨⟩
    decide
  · intro call hcall
    rw [mem_singleton.mp hcall]
    decide +kernel

/-- Six calls, a second apart, from the first second on. None is counted. -/
theorem six_calls_uncounted :
    let calls := (List.range 6).map fun second => tenRequests ((second + 1) * 1000000000)
    nonnegative (tenRequests 0).agg.instRps = true ∧ Paced calls ∧
      (Machine.run (merged .default (.v4 1)) new calls).adaptiveSampleCount (.v4 1) = 0 ∧
      (Machine.run (merged .default (.v4 1)) new calls).detectorMode (.v4 1) = .warmingUp := by
  refine ⟨by decide +kernel, ?_, ?_, ?_⟩
  · simp [Paced, List.range, List.range.loop, tenRequests]
  · decide +kernel
  · decide +kernel

end Store

end RamShield

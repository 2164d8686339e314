import RamShield.Foundation.Run
import RamShield.Detection.RateTracker

/-! # How the detector leaves a breach

A breach ends only after the configured number of consecutive samples below the clear
threshold. The recovery count of a record stands for such samples, so a sequence of updates
is followed together with the samples it accepted.
-/

namespace RamShield

open Foundation

structure RateSample where
  rate : Float
  timestampNs : Nat
  context : Option TrafficContext

namespace PerIpRecord

/-- The answer of an update and the record it leaves. -/
def observe (record : PerIpRecord) (sample : RateSample) :
    Except DetectorError DetectionOutcome × PerIpRecord :=
  record.update sample.rate sample.timestampNs sample.context

def observed (record : PerIpRecord) (samples : List RateSample) : PerIpRecord :=
  Machine.run (fun record sample => (record.observe sample).2) record samples

variable (record : PerIpRecord) (sample : RateSample)

def delta : Float :=
  sample.rate - record.baselineRate - (record.thresholds sample.timestampNs sample.context).1

/-- The accumulated score, up to the ceiling. -/
def newCusum : Float :=
  let windupCeiling := (record.thresholds sample.timestampNs sample.context).2 * 3.0
  let newCusum := f64Max (record.workingCusum sample.timestampNs + record.delta sample) 0.0
  if windupCeiling < newCusum then windupCeiling else newCusum

/-- Evidence of recovery: the score falls and is below the clear threshold. -/
def BelowClear : Prop :=
  record.delta sample ≤ 0.0 ∧ record.newCusum sample ≤
    (record.thresholds sample.timestampNs sample.context).2 * record.profile.clearRatio

instance : Decidable (record.BelowClear sample) := inferInstanceAs (Decidable (_ ∧ _))

/-- The recovery count behind a sample in a breach. -/
def recovered : Nat :=
  if record.BelowClear sample then
    satAdd (if record.gapDetected sample.timestampNs = false then record.recoveryCount else 0) 1
  else 0

/-- What an accepted sample does to the record. -/
structure Commits (next : PerIpRecord) : Prop where
  mode : (next.mode, next.cusumS, next.recoveryCount) =
    record.nextMode (record.gapDetected sample.timestampNs) (record.sampleCount + 1)
      (record.delta sample) (record.newCusum sample)
      (record.thresholds sample.timestampNs sample.context).2
  frozen : next.mode = .breached →
    next.baselineRate = record.baselineRate ∧ next.variance = record.variance
  time : next.lastBucketNs = sample.timestampNs
  count : next.sampleCount = record.sampleCount + 1
  profile : next.profile = record.profile

variable {record sample}

def Observes (record : PerIpRecord) (sample : RateSample)
    (result : Except DetectorError DetectionOutcome × PerIpRecord) : Prop :=
  (∃ error, result = (.error error, record)) ∨
    ∃ outcome next, result = (.ok outcome, next) ∧ record.Commits sample next

lemma Observes.guard {refused : Prop} [Decidable refused] {error : DetectorError}
    {rest : Except DetectorError DetectionOutcome × PerIpRecord}
    (hrest : record.Observes sample rest) :
    record.Observes sample (if refused then (.error error, record) else rest) := by
  split
  · exact .inl ⟨error, rfl⟩
  · exact hrest

lemma observe_cases (record : PerIpRecord) (sample : RateSample) :
    record.Observes sample (record.observe sample) := by
  unfold observe update
  split
  · exact .inl ⟨_, rfl⟩
  unfold transition
  dsimp only
  refine .guard (.guard (.guard (.guard (.inr ⟨_, _, rfl, rfl, ?_, rfl, rfl, rfl⟩))))
  intro hbreached
  dsimp only at hbreached ⊢
  rw [if_pos hbreached]
  exact ⟨rfl, rfl⟩

/-! ## Samples that end a breach -/

/-- The samples end with enough accepted ones below the clear threshold, without a gap. -/
inductive Recovering (record : PerIpRecord) : List RateSample → Nat → Prop
  | held : record.mode = .breached → Recovering record [] record.recoveryCount
  | none (samples : List RateSample) : Recovering record samples 0
  | refused {samples : List RateSample} {sample : RateSample} {error : DetectorError}
      {count : Nat} (hcount : Recovering record samples count)
      (hrefused : ((record.observed samples).observe sample).1 = .error error) :
      Recovering record (samples ++ [sample]) count
  | next {samples : List RateSample} {sample : RateSample} {outcome : DetectionOutcome}
      {count : Nat} (hcount : Recovering record samples count)
      (haccepted : ((record.observed samples).observe sample).1 = .ok outcome)
      (hclear : (record.observed samples).BelowClear sample)
      (hgap : count = 0 ∨ (record.observed samples).sampleCount = 0 ∨
        sample.timestampNs - (record.observed samples).lastBucketNs ≤
          record.profile.maxGapToleranceNs) :
      Recovering record (samples ++ [sample]) (count + 1)

lemma observed_append (record : PerIpRecord) (samples : List RateSample) (sample : RateSample) :
    record.observed (samples ++ [sample]) = ((record.observed samples).observe sample).2 := by
  rw [observed, Machine.run_append]
  rfl

lemma profile_observed (record : PerIpRecord) (samples : List RateSample) :
    (record.observed samples).profile = record.profile := by
  induction samples using List.reverseRecOn with
  | nil => rfl
  | append_singleton samples sample ih =>
    rw [observed_append]
    rcases (record.observed samples).observe_cases sample with
      ⟨error, herror⟩ | ⟨outcome, next, hok, hcommits⟩
    · rw [herror, ih]
    · rw [hok, hcommits.profile, ih]

section Commits

variable {next : PerIpRecord} (hcommits : record.Commits sample next)

include hcommits

lemma Commits.of_breached (hmode : record.mode = .breached) :
    record.profile.recoverySamples ≤ record.recovered sample ∧ next.mode = .monitoring ∨
      next.mode = .breached ∧ next.recoveryCount = record.recovered sample := by
  have hnext : (next.mode, next.cusumS, next.recoveryCount) =
      if record.profile.recoverySamples ≤ record.recovered sample then (.monitoring, 0.0, 0)
      else (.breached, record.newCusum sample, record.recovered sample) := by
    rw [hcommits.mode]
    simp only [nextMode, hmode, reduceCtorEq, false_and, if_false, true_and, if_true,
      Bool.not_eq_true]
    rfl
  split at hnext
  next henough => exact .inl ⟨henough, congrArg Prod.fst hnext⟩
  · exact .inr ⟨congrArg Prod.fst hnext, congrArg (·.2.2) hnext⟩

lemma Commits.of_not_breached (hmode : record.mode ≠ .breached) :
    next.recoveryCount = 0 ∧ (record.mode ≠ .warmingUp → next.mode ≠ .warmingUp) := by
  have hnext := hcommits.mode
  unfold nextMode at hnext
  grind

lemma Recovering.recovered {start : PerIpRecord} {samples : List RateSample}
    {outcome : DetectionOutcome} (hrecord : start.observed samples = record)
    (haccepted : record.observe sample = (.ok outcome, next)) {count : Nat}
    (hrecovering : Recovering start samples count) (hcount : record.recoveryCount ≤ count) :
    ∃ count, Recovering start (samples ++ [sample]) count ∧ record.recovered sample ≤ count := by
  subst hrecord
  unfold PerIpRecord.recovered
  have hanswer := congrArg Prod.fst haccepted
  split
  next hclear =>
    split
    next hgap =>
      refine ⟨_, hrecovering.next hanswer hclear (.inr ?_), ?_⟩
      · rw [gapDetected, decide_eq_false_iff_not, profile_observed] at hgap
        omega
      · exact (Nat.min_le_left _ _).trans (Nat.succ_le_succ hcount)
    · exact ⟨_, (Recovering.none samples).next hanswer hclear (.inl rfl), Nat.min_le_left _ _⟩
  · exact ⟨0, .none _, le_rfl⟩

end Commits

lemma exists_recovering (record : PerIpRecord) (samples : List RateSample)
    (hmode : (record.observed samples).mode = .breached) :
    ∃ count, Recovering record samples count ∧ (record.observed samples).recoveryCount ≤ count := by
  induction samples using List.reverseRecOn with
  | nil => exact ⟨_, .held hmode, le_rfl⟩
  | append_singleton samples sample ih =>
    rw [observed_append] at hmode ⊢
    rcases (record.observed samples).observe_cases sample with
      ⟨error, herror⟩ | ⟨outcome, next, hok, hcommits⟩
    · rw [herror] at hmode ⊢
      obtain ⟨count, hrecovering, hcount⟩ := ih hmode
      exact ⟨count, hrecovering.refused (congrArg Prod.fst herror), hcount⟩
    · rw [hok] at hmode ⊢
      by_cases hbefore : (record.observed samples).mode = .breached
      · obtain ⟨count, hrecovering, hcount⟩ := ih hbefore
        rcases hcommits.of_breached hbefore with ⟨-, hends⟩ | ⟨-, hrecovered⟩
        · exact absurd (hends.symm.trans hmode) nofun
        · rw [hrecovered]
          exact Recovering.recovered hcommits rfl hok hrecovering hcount
      · rw [(hcommits.of_not_breached hbefore).1]
        exact ⟨0, .none _, le_rfl⟩

lemma mode_ne_warmingUp (record : PerIpRecord) (samples : List RateSample)
    (hmode : record.mode ≠ .warmingUp) : (record.observed samples).mode ≠ .warmingUp := by
  induction samples using List.reverseRecOn with
  | nil => exact hmode
  | append_singleton samples sample ih =>
    rw [observed_append]
    rcases (record.observed samples).observe_cases sample with
      ⟨error, herror⟩ | ⟨outcome, next, hok, hcommits⟩
    · rw [herror]
      exact ih
    · rw [hok]
      by_cases hbefore : (record.observed samples).mode = .breached
      · rcases hcommits.of_breached hbefore with ⟨-, hends⟩ | ⟨hstays, -⟩
        · exact ne_of_eq_of_ne hends nofun
        · exact ne_of_eq_of_ne hstays nofun
      · exact (hcommits.of_not_breached hbefore).2 ih

/-- Every update of a sequence keeps the record if it is refused, freezes the baseline and
the variance in a breach, ends a breach only behind enough samples of recovery, and never
goes back to the warm-up. -/
theorem breach_hysteresis (record : PerIpRecord) (samples : List RateSample) (sample : RateSample) :
    let state := record.observed samples
    let next := (state.observe sample).2
    (∀ error, (state.observe sample).1 = .error error → next = state) ∧
      (state.mode = .breached → next.mode = .monitoring →
        ∃ count, Recovering record (samples ++ [sample]) count ∧
          record.profile.recoverySamples ≤ count) ∧
      (next.mode = .breached →
        next.baselineRate = state.baselineRate ∧ next.variance = state.variance) ∧
      (state.mode ≠ .warmingUp → ∀ later, (state.observed later).mode ≠ .warmingUp) := by
  intro state next
  have hwarm := fun hmode later => state.mode_ne_warmingUp later hmode
  rcases state.observe_cases sample with ⟨error, herror⟩ | ⟨outcome, committed, hok, hcommits⟩
  · have hnext : next = state := congrArg Prod.snd herror
    rw [hnext]
    refine ⟨fun _ _ => rfl, ?_, fun _ => ⟨rfl, rfl⟩, hwarm⟩
    intro hbreached hmonitoring
    exact absurd (hbreached.symm.trans hmonitoring) nofun
  · obtain rfl : next = committed := congrArg Prod.snd hok
    refine ⟨?_, ?_, hcommits.frozen, hwarm⟩
    · intro error herror
      exact absurd ((congrArg Prod.fst hok).symm.trans herror) nofun
    · intro hbreached hmonitoring
      rcases hcommits.of_breached hbreached with ⟨henough, -⟩ | ⟨hstays, -⟩
      · obtain ⟨count, hrecovering, hcount⟩ := record.exists_recovering samples hbreached
        obtain ⟨total, htotal, hle⟩ := Recovering.recovered hcommits rfl hok hrecovering hcount
        rw [record.profile_observed] at henough
        exact ⟨total, htotal, henough.trans hle⟩
      · exact absurd (hstays.symm.trans hmonitoring) nofun

/-- A record two samples short of its recovery. -/
def breachedRecord : PerIpRecord where
  baselineRate := 10.0
  variance := 1.0
  cusumS := 1.0
  lastBucketNs := 1
  sampleCount := 1
  recoveryCount := 1
  mode := .breached
  profile := ⟨5.0, 1.0, 0.5, 0.05, 0.35, 5, 3, 5000000000⟩

/-- A quiet sample, one that is too old, and a second quiet one. -/
theorem breach_hysteresis_recovers :
    let earlier : List RateSample := [⟨5.0, 2, none⟩, ⟨5.0, 1, none⟩]
    (breachedRecord.observed earlier).mode = .breached ∧
      ((breachedRecord.observed earlier).observe ⟨5.0, 3, none⟩).2.mode = .monitoring ∧
      ∃ count, Recovering breachedRecord (earlier ++ [⟨5.0, 3, none⟩]) count ∧
        breachedRecord.profile.recoverySamples ≤ count := by
  intro earlier
  have hbreached : (breachedRecord.observed earlier).mode = .breached := by decide +kernel
  have hmonitoring : ((breachedRecord.observed earlier).observe ⟨5.0, 3, none⟩).2.mode =
      .monitoring := by decide +kernel
  exact ⟨hbreached, hmonitoring,
    (breach_hysteresis breachedRecord earlier ⟨5.0, 3, none⟩).2.1 hbreached hmonitoring⟩

end PerIpRecord

end RamShield

import RamShield.Foundation.Run
import RamShield.Detection.RateTracker

/-! # The window of the pulse tracker

The tracker keeps a count and the start of its window. The window is opened by the first
sample after the previous one has ended, so it does not slide: samples of the last seconds
that lie before its start are forgotten.
-/

namespace RamShield

open Foundation List

structure PulseSample where
  timeNs : Nat
  isOver : Bool
  deriving DecidableEq

namespace PulseSample

variable (windowSecs threshold : Nat)

def step (state : Nat × Nat) (sample : PulseSample) : Nat × Nat :=
  let (count, start, _) := pulseTrackerStep state.1 state.2 sample.timeNs sample.isOver windowSecs
    threshold
  (count, start)

variable (samples : List PulseSample)

def track : Nat × Nat := Machine.run (step windowSecs threshold) (0, 0) samples

def fires (sample : PulseSample) : Bool :=
  let (count, start) := track windowSecs threshold samples
  (pulseTrackerStep count start sample.timeNs sample.isOver windowSecs threshold).2.2

/-- The start of the window that a sample is counted in. -/
def windowStart (start nowNs : Nat) : Nat :=
  if start = 0 ∨ satMul windowSecs 1000000000 < nowNs - start then nowNs else start

def overSince (since : Nat) : Nat :=
  samples.countP fun sample => sample.isOver && decide (since ≤ sample.timeNs)

def Rising : Prop :=
  (samples.Pairwise fun first second => first.timeNs < second.timeNs) ∧
    ∀ sample ∈ samples, 0 < sample.timeNs ∧ sample.timeNs ≤ u64Max

instance (samples : List PulseSample) : Decidable (Rising samples) :=
  inferInstanceAs (Decidable (_ ∧ _))

structure Remembers (state : Nat × Nat) : Prop where
  count : state.1 = min (overSince samples state.2) 255
  start : state.2 = 0 ∧ samples = [] ∨ ∃ sample ∈ samples, sample.timeNs = state.2

variable {windowSecs threshold samples} {sample : PulseSample}

lemma Rising.earlier (hrising : Rising (samples ++ [sample])) :
    Rising samples ∧ ∀ old ∈ samples, old.timeNs < sample.timeNs := by
  obtain ⟨hpairs, hrange⟩ := hrising
  obtain ⟨hsamples, -, hbefore⟩ := pairwise_append.mp hpairs
  refine ⟨⟨hsamples, fun old hold => hrange old (mem_append_left _ hold)⟩, ?_⟩
  intro old hold
  exact hbefore old hold sample (mem_singleton_self _)

/-- A later start counts less, unless no sample lies between. -/
lemma overSince_eq_iff (samples : List PulseSample) {since later : Nat} (hle : since ≤ later) :
    overSince samples later ≤ overSince samples since ∧
      (overSince samples later = overSince samples since ↔
        ∀ old ∈ samples, old.isOver → since ≤ old.timeNs → later ≤ old.timeNs) := by
  induction samples with
  | nil => simp [overSince]
  | cons sample samples ih =>
    simp only [overSince, countP_cons, forall_mem_cons] at ih ⊢
    cases sample.isOver with
    | false => simpa using ih
    | true =>
      by_cases hlate : later ≤ sample.timeNs
      · simpa [hlate, hle.trans hlate] using ih
      · by_cases hbetween : since ≤ sample.timeNs
        · simp only [hlate, hbetween, Bool.true_and, decide_true, decide_false,
            Bool.false_eq_true, if_true, if_false, true_implies, false_and, iff_false]
          omega
        · simpa [hlate, hbetween] using ih

section Step

variable (hrising : Rising (samples ++ [sample])) {state : Nat × Nat}
  (hremembers : Remembers samples state)

include hrising hremembers

lemma Remembers.start_le : state.2 ≤ sample.timeNs := by
  rcases hremembers.start with ⟨hzero, -⟩ | ⟨first, hfirst, hstart⟩
  · rw [hzero]
    exact Nat.zero_le _
  · rw [← hstart]
    exact (hrising.earlier.2 first hfirst).le

lemma Remembers.le_windowStart :
    sample.timeNs - windowSecs * 1000000000 ≤ windowStart windowSecs state.2 sample.timeNs := by
  have hstart := hremembers.start_le hrising
  unfold windowStart
  split
  · exact Nat.sub_le _ _
  next hstays =>
    rw [not_or, Nat.not_lt, satMul] at hstays
    omega

lemma Remembers.counts :
    (step windowSecs threshold state sample).1 =
      min (overSince (samples ++ [sample]) (windowStart windowSecs state.2 sample.timeNs)) 255 := by
  unfold windowStart
  by_cases hopens : state.2 = 0 ∨ satMul windowSecs 1000000000 < sample.timeNs - state.2
  · have hnone :
        samples.countP (fun old => old.isOver && decide (sample.timeNs ≤ old.timeNs)) = 0 := by
      rw [countP_eq_zero]
      intro old hold
      simp [Nat.not_le.mpr (hrising.earlier.2 old hold)]
    simp only [PulseSample.step, pulseTrackerStep, overSince, if_pos hopens, countP_append,
      countP_singleton, hnone]
    cases sample.isOver with
    | true => simp [satSucc8]
    | false => simp
  · have hstart := hremembers.start_le hrising
    have hcount := hremembers.count
    unfold overSince at hcount
    simp only [PulseSample.step, pulseTrackerStep, overSince, if_neg hopens, countP_append,
      countP_singleton, hcount, hstart, decide_true, Bool.and_true]
    cases sample.isOver with
    | true =>
      simp only [satSucc8, if_true]
      omega
    | false => simp

lemma Remembers.step :
    Remembers (samples ++ [sample]) (step windowSecs threshold state sample) := by
  have hnext : (PulseSample.step windowSecs threshold state sample).2 =
      windowStart windowSecs state.2 sample.timeNs := rfl
  refine ⟨?_, .inr ?_⟩
  · rw [hnext]
    exact hremembers.counts hrising
  · rw [hnext, windowStart]
    split
    · exact ⟨sample, mem_append_right _ (mem_singleton_self _), rfl⟩
    next hstays =>
      rcases hremembers.start with ⟨hzero, -⟩ | ⟨first, hfirst, hstart⟩
      · exact absurd (Or.inl hzero) hstays
      · exact ⟨first, mem_append_left _ hfirst, hstart⟩

end Step

variable (windowSecs threshold) in
lemma remembers_track (hrising : Rising samples) :
    Remembers samples (track windowSecs threshold samples) := by
  induction samples using List.reverseRecOn with
  | nil => exact ⟨rfl, .inl ⟨rfl, rfl⟩⟩
  | append_singleton samples sample ih =>
    rw [track, Machine.run_append]
    exact @Remembers.step windowSecs threshold _ _ hrising _ (ih hrising.earlier.1)

variable (hrising : Rising (samples ++ [sample]))

include hrising

lemma fires_eq_true_iff (hbyte : threshold ≤ 255) (hover : sample.isOver) :
    fires windowSecs threshold samples sample ↔
      threshold ≤ overSince (samples ++ [sample])
        (windowStart windowSecs (track windowSecs threshold samples).2 sample.timeNs) := by
  have hcounts := @Remembers.counts windowSecs threshold _ _ hrising _
    (remembers_track windowSecs threshold hrising.earlier.1)
  have hfires : fires windowSecs threshold samples sample = (sample.isOver &&
      decide (threshold ≤ (step windowSecs threshold (track windowSecs threshold samples)
        sample).1)) := rfl
  rw [hfires, hcounts, hover, Bool.true_and, decide_eq_true_iff, le_min_iff]
  exact and_iff_left hbyte

/-- The tracker answers as over a sliding window, whatever the threshold, if the window it
counts in reaches back to every over-threshold sample of the last seconds, or if its
counter is full. -/
theorem fires_sliding_iff :
    let start := windowStart windowSecs (track windowSecs 1 samples).2 sample.timeNs
    let slidingStart := sample.timeNs - windowSecs * 1000000000
    (∀ threshold, sample.isOver = false → fires windowSecs threshold samples sample = false) ∧
      (sample.isOver = true →
        ((∀ threshold, 1 ≤ threshold → threshold ≤ 255 →
            (fires windowSecs threshold samples sample = true ↔
              threshold ≤ overSince (samples ++ [sample]) slidingStart)) ↔
          255 ≤ overSince (samples ++ [sample]) start ∨
            ∀ old ∈ samples ++ [sample], old.isOver = true → slidingStart ≤ old.timeNs →
              start ≤ old.timeNs)) := by
  intro start slidingStart
  have hreach : slidingStart ≤ start :=
    (remembers_track windowSecs 1 hrising.earlier.1).le_windowStart hrising
  obtain ⟨hle, heq⟩ := overSince_eq_iff (samples ++ [sample]) hreach
  refine ⟨?_, ?_⟩
  · intro threshold hquiet
    rw [fires, hquiet]
    rfl
  · intro hover
    have hfires (threshold : Nat) (hbyte : threshold ≤ 255) :
        fires windowSecs threshold samples sample ↔
          threshold ≤ overSince (samples ++ [sample]) start :=
      fires_eq_true_iff hrising hbyte hover
    rw [← heq]
    constructor
    · intro hslides
      by_contra hneither
      rw [not_or, Nat.not_le] at hneither
      have hmore := hslides (overSince (samples ++ [sample]) start + 1) (by omega) (by omega)
      rw [hfires _ (by omega)] at hmore
      exact Nat.not_succ_le_self _ (hmore.mpr (Nat.lt_of_le_of_ne hle hneither.2))
    · intro hfull threshold _ hbyte
      rw [hfires threshold hbyte]
      omega

omit hrising in
theorem fires_sliding_one :
    fires 1 2 [⟨5, true⟩] ⟨6, true⟩ = true ↔ 2 ≤ overSince [⟨5, true⟩, ⟨6, true⟩] 0 :=
  ((@fires_sliding_iff 1 [⟨5, true⟩] ⟨6, true⟩ (by decide +kernel)).2 rfl).mpr
    (.inr (by decide +kernel)) 2 (by decide) (by decide)

omit hrising in
/-- A burst of two that straddles the end of the window opened by a quiet sample. -/
theorem burst_straddles :
    Rising [⟨1, false⟩, ⟨1000000001, true⟩, ⟨1000000002, true⟩] ∧
      fires 1 2 [⟨1, false⟩, ⟨1000000001, true⟩] ⟨1000000002, true⟩ = false ∧
      overSince [⟨1, false⟩, ⟨1000000001, true⟩, ⟨1000000002, true⟩]
        (1000000002 - 1 * 1000000000) = 2 := by
  decide +kernel

end PulseSample

end RamShield

import RamShield.Foundation.Run
import RamShield.Types.Command

/-! # The admission gate

The gate remembers when it last admitted a mitigation of an address for a reason, and
refuses another one inside the cooldown. What a call does is said at one key.
-/

namespace RamShield

open Foundation List Table Finset

abbrev MitigationKey := IpAddr × BlockReason

/-- `pending_mitigations`: when a key was last admitted. -/
abbrev PendingMitigations := Table MitigationKey Nat

def pendingMitigationCap : Nat := 1048576

/-- Half of the lifetime of the block, 30 s for a permanent one. -/
def cooldownNs (ttlSecs : Nat) : Nat :=
  if ttlSecs = 0 then 30 * secNs else max (satMul ttlSecs secNs / 2) secNs

namespace PendingMitigations

/-- The loop that makes room. The fuel is the number of entries. -/
def evict (order : IterOrder MitigationKey) : Nat → PendingMitigations → PendingMitigations
  | 0, pending => pending
  | fuel + 1, pending =>
    if pending.keys.card < pendingMitigationCap then pending
    else
      match order.enum pending.keys with
      | [] => pending
      | victim :: _ => evict order fuel (pending.erase victim)

def admitMitigation (order : IterOrder MitigationKey) (pending : PendingMitigations)
    (key : MitigationKey) (ttlSecs nowNs : Nat) : Bool × PendingMitigations :=
  if (pending.lookup key).any (nowNs - · < cooldownNs ttlSecs) then (false, pending)
  else
    let pending := if key ∈ pending.keys then pending else evict order pending.keys.card pending
    (true, pending.insert key nowNs)

def retreatMitigation (pending : PendingMitigations) (key : MitigationKey) :
    PendingMitigations :=
  pending.erase key

end PendingMitigations

/-- A call of the gate. The order in which the table is iterated is its own. -/
inductive GateCall
  | admission (order : IterOrder MitigationKey) (key : MitigationKey) (ttlSecs nowNs : Nat)
  | retreat (key : MitigationKey)

namespace GateCall

open PendingMitigations

def step (pending : PendingMitigations) : GateCall → PendingMitigations
  | .admission order key ttlSecs nowNs => (admitMitigation order pending key ttlSecs nowNs).2
  | .retreat key => retreatMitigation pending key

/-- The lifetime and the time with which a call attempts a mitigation of the key. -/
def attempt (key : MitigationKey) : GateCall → Option (Nat × Nat)
  | .admission _ target ttlSecs nowNs => if target = key then some (ttlSecs, nowNs) else none
  | .retreat _ => none

def admitted (pending : PendingMitigations) : GateCall → Bool
  | .admission order key ttlSecs nowNs => (admitMitigation order pending key ttlSecs nowNs).1
  | .retreat _ => false

def time : GateCall → Option Nat
  | .admission _ _ _ nowNs => some nowNs
  | .retreat _ => none

/-- Calls at nondecreasing times. -/
def InOrder (calls : List GateCall) : Prop :=
  calls.Pairwise fun earlier later =>
    ∀ timeNs ∈ earlier.time, ∀ laterNs ∈ later.time, timeNs ≤ laterNs

end GateCall

lemma cooldownNs_pos (ttlSecs : Nat) : 0 < cooldownNs ttlSecs := by
  have hsec : 0 < secNs := by decide
  unfold cooldownNs
  split <;> omega

lemma cooldownNs_le {ttlSecs : Nat} (httl : 2 ≤ ttlSecs) :
    2 * cooldownNs ttlSecs ≤ ttlSecs * secNs := by
  have hlifetime : 2 * secNs ≤ ttlSecs * secNs := Nat.mul_le_mul_right _ httl
  have hsat : satMul ttlSecs secNs ≤ ttlSecs * secNs := Nat.min_le_left _ _
  rw [cooldownNs, if_neg (by omega)]
  omega

namespace PendingMitigations

variable (order : IterOrder MitigationKey)
variable (key : MitigationKey) (fuel : Nat) (pending : PendingMitigations)

lemma lookup_evict :
    (evict order fuel pending).lookup key = none ∨
      (evict order fuel pending).lookup key = pending.lookup key := by
  induction fuel generalizing pending with
  | zero => exact .inr rfl
  | succ fuel ih =>
    unfold evict
    split
    · exact .inr rfl
    split
    · exact .inr rfl
    next victim rest _ =>
      rcases ih (pending.erase victim) with hnone | hsame
      · exact .inl hnone
      · rw [hsame, lookup_erase_eq]
        split
        · exact .inl rfl
        · exact .inr rfl

/-- The loop ends with room for another key. -/
lemma card_evict (hfuel : pending.keys.card ≤ fuel) :
    (evict order fuel pending).keys.card < pendingMitigationCap := by
  have hcap : 0 < pendingMitigationCap := by decide
  induction fuel generalizing pending with
  | zero => exact (Nat.le_zero.mp hfuel).trans_lt hcap
  | succ fuel ih =>
    unfold evict
    split
    next hroom => exact hroom
    next hfull =>
      have hlength := order.length_enum pending.keys
      split
      next hnone =>
        rw [hnone, length_nil] at hlength
        omega
      next victim rest hvictim =>
        have hmem : victim ∈ pending.keys := order.mem_enum.mp (hvictim ▸ mem_cons_self)
        apply ih
        rw [Finmap.keys_erase, card_erase_of_mem hmem]
        omega

/-- The key has no admission inside the cooldown. -/
def Cooled (pending : PendingMitigations) (key : MitigationKey) (ttlSecs nowNs : Nat) : Prop :=
  ∀ stamp ∈ pending.lookup key, stamp + cooldownNs ttlSecs ≤ nowNs

/-- An attempt is admitted and stamped exactly outside the cooldown. -/
lemma admitMitigation_cases (key : MitigationKey) (ttlSecs nowNs : Nat) :
    (Cooled pending key ttlSecs nowNs ∧ admitMitigation order pending key ttlSecs nowNs =
        (true, (if key ∈ pending.keys then pending
          else evict order pending.keys.card pending).insert key nowNs)) ∨
      (¬ Cooled pending key ttlSecs nowNs ∧
        admitMitigation order pending key ttlSecs nowNs = (false, pending)) := by
  have hcooldown := cooldownNs_pos ttlSecs
  have hcooling : (pending.lookup key).any (nowNs - · < cooldownNs ttlSecs) ↔
      ¬ Cooled pending key ttlSecs nowNs := by
    unfold Cooled
    cases pending.lookup key with
    | none => simp
    | some stamp =>
      simp only [Option.any_some, decide_eq_true_eq, Option.mem_some_iff, forall_eq']
      omega
  unfold admitMitigation
  split
  next hrefused => exact .inr ⟨hcooling.mp hrefused, rfl⟩
  next hadmitted => exact .inl ⟨not_not.mp (mt hcooling.mpr hadmitted), rfl⟩

end PendingMitigations

namespace GateCall

open PendingMitigations

variable {pending : PendingMitigations} {key : MitigationKey} {call : GateCall}
  {order : IterOrder MitigationKey} {ttlSecs nowNs : Nat}

lemma admitted_iff :
    admitted pending (.admission order key ttlSecs nowNs) ↔ Cooled pending key ttlSecs nowNs := by
  rcases admitMitigation_cases order pending key ttlSecs nowNs with
    ⟨hcooled, heq⟩ | ⟨hcooling, heq⟩
  · exact iff_of_true (congrArg Prod.fst heq) hcooled
  · exact iff_of_false (by simp [admitted, heq]) hcooling

lemma attempt_eq_some (hattempt : call.attempt key = some (ttlSecs, nowNs)) :
    ∃ order, call = .admission order key ttlSecs nowNs := by
  cases call with
  | admission order target ttlSecs nowNs =>
    rw [attempt, Option.ite_none_right_eq_some] at hattempt
    obtain ⟨rfl, ⟨⟩⟩ := hattempt
    exact ⟨order, rfl⟩
  | retreat target => cases hattempt

lemma stamp_step {holds : Nat → Prop} (hstamp : ∀ stamp ∈ pending.lookup key, holds stamp)
    (hadmits : ∀ pair ∈ call.attempt key, admitted pending call → holds pair.2) :
    ∀ stamp ∈ (step pending call).lookup key, holds stamp := by
  have hdrops {found : Option Nat} (hfound : found = none ∨ found = pending.lookup key) :
      ∀ stamp ∈ found, holds stamp := by
    rcases hfound with rfl | rfl
    · exact nofun
    · exact hstamp
  cases call with
  | admission order target ttlSecs nowNs =>
    rcases admitMitigation_cases order pending target ttlSecs nowNs with
      ⟨_, heq⟩ | ⟨_, heq⟩
    · rw [step, heq, lookup_insert_eq]
      split
      next hkey =>
        intro stamp hnow
        cases hnow
        exact hadmits (ttlSecs, nowNs) (by simp [attempt, hkey]) (congrArg Prod.fst heq)
      · apply hdrops
        split
        · exact .inr rfl
        · exact lookup_evict order key _ _
    · rw [step, heq]
      exact hstamp
  | retreat target =>
    rw [step, retreatMitigation, lookup_erase_eq]
    apply hdrops
    split
    · exact .inl rfl
    · exact .inr rfl

lemma card_step (pending : PendingMitigations) (call : GateCall)
    (hcard : pending.keys.card ≤ pendingMitigationCap) :
    (step pending call).keys.card ≤ pendingMitigationCap := by
  cases call with
  | admission order target ttlSecs nowNs =>
    rcases admitMitigation_cases order pending target ttlSecs nowNs with ⟨_, heq⟩ | ⟨_, heq⟩
    · rw [step, heq, keys_insert]
      split
      next hmem =>
        rw [insert_eq_of_mem hmem]
        exact hcard
      · exact (card_insert_le _ _).trans (card_evict order _ _ le_rfl)
    · rw [step, heq]
      exact hcard
  | retreat target =>
    rw [step, retreatMitigation, Finmap.keys_erase]
    exact (card_le_card (erase_subset _ _)).trans hcard

/-! ## Runs seen from one key -/

section Runs

variable {between : List GateCall} {sinceNs : Nat}

lemma stamp_run {holds : Nat → Prop} (hstamp : ∀ stamp ∈ pending.lookup key, holds stamp)
    (hadmits : ∀ call ∈ between, ∀ pair ∈ call.attempt key, holds pair.2) :
    ∀ stamp ∈ (Machine.run step pending between).lookup key, holds stamp := by
  induction between generalizing pending with
  | nil => exact hstamp
  | cons call between ih =>
    obtain ⟨hfirst, hrest⟩ := forall_mem_cons.mp hadmits
    exact ih (stamp_step hstamp fun pair hpair _ => hfirst pair hpair) hrest

/-- The call is no attempt of the key, or a refused one of a given lifetime. -/
def Refused (key : MitigationKey) (ttlSecs : Nat) (pending : PendingMitigations)
    (call : GateCall) : Prop :=
  ∀ pair ∈ call.attempt key, pair.1 = ttlSecs ∧ admitted pending call = false

lemma next_attempt {previousNs : Nat} (httl : 2 ≤ ttlSecs)
    (hstamp : ∀ stamp ∈ pending.lookup key, stamp = sinceNs)
    (hprevious : previousNs < sinceNs + cooldownNs ttlSecs)
    (hrefused : Machine.Respects step (Refused key ttlSecs) pending between)
    (hgaps : List.IsChain (fun earlier later => 2 * later ≤ 2 * earlier + ttlSecs * secNs)
      (previousNs :: (between.filterMap (attempt key)).map Prod.snd ++ [nowNs])) :
    nowNs < sinceNs + ttlSecs * secNs ∧
      ∀ stamp ∈ (Machine.run step pending between).lookup key, stamp = sinceNs := by
  induction between generalizing pending previousNs with
  | nil =>
    have hhalf := cooldownNs_le httl
    have hgap : 2 * nowNs ≤ 2 * previousNs + ttlSecs * secNs := by simpa using hgaps
    exact ⟨by omega, hstamp⟩
  | cons call between ih =>
    have hnext : ∀ stamp ∈ (step pending call).lookup key, stamp = sinceNs := by
      refine stamp_step hstamp fun pair hpair hadmitted => ?_
      rw [(hrefused.1 pair hpair).2] at hadmitted
      cases hadmitted
    cases hattempt : call.attempt key with
    | none =>
      rw [filterMap_cons_none hattempt] at hgaps
      exact ih hnext hprevious hrefused.2 hgaps
    | some pair =>
      rw [filterMap_cons_some hattempt] at hgaps
      obtain ⟨hlifetime, hanswer⟩ := hrefused.1 pair hattempt
      obtain ⟨order, rfl⟩ := attempt_eq_some hattempt
      -- a refused attempt comes inside the cooldown of the stamp
      have hinside : pair.2 < sinceNs + cooldownNs ttlSecs := by
        rw [← Bool.not_eq_true, admitted_iff, hlifetime] at hanswer
        by_contra houtside
        refine hanswer fun stamp hmem => ?_
        rw [hstamp stamp hmem]
        exact Nat.le_of_not_lt houtside
      exact ih hnext hinside hrefused.2 (isChain_cons_cons.mp hgaps).2

end Runs

/-- The gate holds at most its capacity. Two admissions of a key that was held in between
are a cooldown apart. An attempt behind a retreat is admitted. And a key that is attempted
at gaps of at most half a lifetime is attempted again before the block runs out, and
admitted once the cooldown has passed. -/
theorem gate_laws (before between : List GateCall) (key : MitigationKey)
    (order laterOrder : IterOrder MitigationKey) (ttlSecs laterTtlSecs sinceNs nowNs : Nat) :
    let start := Machine.run step ∅ before
    let first := GateCall.admission order key ttlSecs sinceNs
    let again := GateCall.admission laterOrder key laterTtlSecs nowNs
    let reached := Machine.run step (step start first) between
    start.keys.card ≤ pendingMitigationCap ∧
      (InOrder (first :: between) → admitted start first = true →
        Machine.Along step (key ∈ ·.keys) (step start first) between →
        admitted reached again = true → sinceNs + cooldownNs laterTtlSecs ≤ nowNs) ∧
      ((∀ call ∈ between, call.attempt key = none) →
        admitted (Machine.run step (step start (.retreat key)) between) again = true) ∧
      (2 ≤ ttlSecs → laterTtlSecs = ttlSecs → admitted start first = true →
        Machine.Respects step (Refused key ttlSecs) (step start first) between →
        List.IsChain (fun earlier later => 2 * later ≤ 2 * earlier + ttlSecs * secNs)
          (sinceNs :: (between.filterMap (attempt key)).map Prod.snd ++ [nowNs]) →
        nowNs < sinceNs + ttlSecs * secNs ∧
          (sinceNs + cooldownNs ttlSecs ≤ nowNs → admitted reached again = true)) := by
  intro start first again reached
  have hstamped (hadmitted : admitted start first) :
      (step start first).lookup key = some sinceNs := by
    rcases admitMitigation_cases order start key ttlSecs sinceNs with ⟨_, heq⟩ | ⟨hcooling, _⟩
    · rw [step, heq, lookup_insert_eq, if_pos rfl]
    · exact absurd (admitted_iff.mp hadmitted) hcooling
  refine ⟨?_, ?_, ?_, ?_⟩
  · exact Machine.run_invariant card_step (Nat.zero_le _) before
  · intro hinOrder hfirst hheld hagain
    obtain ⟨stamp, hstamp⟩ := mem_keys_iff_lookup.mp hheld.last
    -- The key is held throughout, so its stamp is that of the first admission or a later one.
    have hsince : sinceNs ≤ stamp := by
      refine stamp_run (by simp [hstamped hfirst]) (fun call hcall pair hpair => ?_) stamp hstamp
      obtain ⟨order, rfl⟩ := attempt_eq_some hpair
      exact (pairwise_cons.mp hinOrder).1 _ hcall sinceNs rfl pair.2 rfl
    have hcooled := admitted_iff.mp hagain stamp hstamp
    omega
  · intro hother
    have herased : ∀ stamp ∈ (step start (.retreat key)).lookup key, False := by
      rw [step, retreatMitigation, Finmap.lookup_erase]
      exact nofun
    have hnone := stamp_run herased fun call hcall pair hpair =>
      absurd ((hother call hcall).symm.trans hpair) nofun
    exact admitted_iff.mpr fun stamp hstamp => (hnone stamp hstamp).elim
  · rintro httl rfl hfirst hrefused hgaps
    obtain ⟨hbefore, hstamp⟩ := next_attempt httl (by simp [hstamped hfirst])
      (Nat.lt_add_of_pos_right (cooldownNs_pos _)) hrefused hgaps
    refine ⟨hbefore, ?_⟩
    intro hpassed
    apply admitted_iff.mpr
    intro stamp hmem
    rw [hstamp stamp hmem]
    exact hpassed

/-- A block of four seconds is refused after one and refreshed after two. -/
theorem gate_laws_refresh :
    let order : IterOrder MitigationKey := ⟨Finset.toList, nodup_toList, mem_toList⟩
    let attempt (ip : BitVec 32) := GateCall.admission order (.v4 ip, .highRps) 4
    let start := Machine.run step ∅ [attempt 1 0, .retreat (.v4 1, .highRps), attempt 2 0]
    let between := [attempt 2 secNs, attempt 1 (2 * secNs)]
    admitted start (attempt 1 secNs) = true ∧
      admitted (Machine.run step (step start (attempt 1 secNs)) between) (attempt 1 (3 * secNs)) =
        true := by
  intro order attempt start between
  have hfirst : admitted start (attempt 1 secNs) = true := by decide +kernel
  have hrefused : Machine.Respects step (Refused (.v4 1, .highRps) 4)
      (step start (attempt 1 secNs)) between := by
    refine ⟨?_, ?_, trivial⟩
    · unfold Refused
      decide +kernel
    · unfold Refused
      decide +kernel
  exact ⟨hfirst, ((gate_laws _ between (.v4 1, .highRps) order order 4 4 secNs (3 * secNs)).2.2.2
    (by decide) rfl hfirst hrefused (by decide)).2 (by decide)⟩

end GateCall

end RamShield

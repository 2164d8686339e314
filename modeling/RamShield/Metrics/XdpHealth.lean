import RamShield.Foundation.Run
import RamShield.Types.Basic

/-! # Health of the XDP projection

The gauges that say how far the kernel's maps may be behind. A failed map update raises the
stale flag at once, and the ticks raise it when the last reconciliation is too long ago.
-/

namespace RamShield

open Foundation Foundation.Machine

/-- The counters and gauges that the reconciliation keeps. -/
structure XdpHealth where
  reconcileSuccesses : Nat
  reconcileFailures : Nat
  lastSuccessUnix : Nat
  ageSeconds : Nat
  projectionActive : Bool
  projectionStale : Nat
  deriving DecidableEq

def xdpProjectionStaleSecs : Nat := 60

namespace XdpHealth

def new : XdpHealth := ⟨0, 0, 0, 0, false, 0⟩

/-- A store into the stale flag that is made only while the projection is active. -/
def storeStale (health : XdpHealth) (stale : Bool) : XdpHealth :=
  if health.projectionActive then { health with projectionStale := stale.toNat } else health

def recordReconcileSuccess (health : XdpHealth) (nowUnix : Nat) : XdpHealth :=
  { health with
    reconcileSuccesses := (health.reconcileSuccesses + 1) % 2 ^ 64
    lastSuccessUnix := nowUnix
    ageSeconds := 0 }.storeStale false

def markXdpProjectionStale (health : XdpHealth) : XdpHealth := health.storeStale true

def recordReconcileFailure (health : XdpHealth) (nowUnix lastSuccessUnix : Nat) : XdpHealth :=
  let health := { health with reconcileFailures := (health.reconcileFailures + 1) % 2 ^ 64 }
  if 0 < lastSuccessUnix then
    let age := nowUnix - lastSuccessUnix
    { health with ageSeconds := age }.storeStale (xdpProjectionStaleSecs < age)
  else health.storeStale true

def setXdpProjectionActive (health : XdpHealth) (active : Bool) : XdpHealth :=
  let health := { health with projectionActive := active }
  if active then
    health.storeStale (health.lastSuccessUnix = 0 ∨ xdpProjectionStaleSecs < health.ageSeconds)
  else { health with projectionStale := 0 }

def tickReconcileAge (health : XdpHealth) (nowUnix : Nat) : XdpHealth :=
  let age := if 0 < health.lastSuccessUnix then nowUnix - health.lastSuccessUnix else 0
  let health := { health with ageSeconds := age }
  if health.lastSuccessUnix = 0 ∨ xdpProjectionStaleSecs < age then health.storeStale true
  else health

/-! ## Calls while the projection is active -/

inductive Call
  | markStale
  | success (nowUnix : Nat)
  | failure (nowUnix lastSuccessUnix : Nat)
  | tick (nowUnix : Nat)
  deriving DecidableEq

def step (health : XdpHealth) : Call → XdpHealth
  | .markStale => health.markXdpProjectionStale
  | .success nowUnix => health.recordReconcileSuccess nowUnix
  | .failure nowUnix lastSuccessUnix => health.recordReconcileFailure nowUnix lastSuccessUnix
  | .tick nowUnix => health.tickReconcileAge nowUnix

def Call.isSuccess : Call → Bool
  | .success _ => true
  | _ => false

/-- A failure that knows of a success is told of one that is long ago. -/
def Call.Keeps : Call → Prop
  | .failure nowUnix lastSuccessUnix =>
    lastSuccessUnix = 0 ∨ xdpProjectionStaleSecs < nowUnix - lastSuccessUnix
  | _ => True

variable {health : XdpHealth} (hactive : health.projectionActive)

include hactive

lemma step_active (call : Call) : (health.step call).projectionActive := by
  cases call <;>
    simp only [step, markXdpProjectionStale, recordReconcileSuccess, recordReconcileFailure,
      tickReconcileAge, storeStale, hactive, if_true] <;>
    repeat' split
  all_goals rfl

lemma step_stale_iff (hstale : health.projectionStale = 1) {call : Call}
    (hcall : call.isSuccess = false) : (health.step call).projectionStale = 1 ↔ call.Keeps := by
  cases call with
  | markStale => simp [step, markXdpProjectionStale, storeStale, hactive, Call.Keeps]
  | success nowUnix => cases hcall
  | failure nowUnix lastSuccessUnix =>
    rcases Nat.eq_zero_or_pos lastSuccessUnix with hzero | hpos
    · simp [step, recordReconcileFailure, storeStale, hactive, Call.Keeps, hzero]
    · simp [step, recordReconcileFailure, storeStale, hactive, Call.Keeps, hpos, hpos.ne']
  | tick nowUnix =>
    refine iff_of_true ?_ trivial
    dsimp only [step, tickReconcileAge]
    generalize (if 0 < health.lastSuccessUnix then _ else _) = age
    split <;> simp [storeStale, hactive, hstale]

/-- Between two successes the flag stays up through every call exactly if no failure is
recorded with a recent success. -/
theorem stale_stays_iff (hstale : health.projectionStale = 1) {calls : List Call}
    (hcalls : ∀ call ∈ calls, call.isSuccess = false) :
    Along step (·.projectionStale = 1) health calls ↔ ∀ call ∈ calls, call.Keeps := by
  induction calls generalizing health with
  | nil => simpa [Along] using hstale
  | cons call calls ih =>
    obtain ⟨hcall, hcalls⟩ := List.forall_mem_cons.mp hcalls
    rw [Along, List.forall_mem_cons, ← step_stale_iff hactive hstale hcall, and_iff_right hstale]
    constructor
    · intro halong
      exact ⟨halong.start, (ih (step_active hactive call) halong.start hcalls).mp halong⟩
    · rintro ⟨hnext, hkeeps⟩
      exact (ih (step_active hactive call) hnext hcalls).mpr hkeeps

omit hactive in
/-- A tick within the minute keeps what a failed update raised, and so do the failures after
it. -/
theorem stale_stays_late :
    Along step (·.projectionStale = 1)
      (run step (new.setXdpProjectionActive true) [.success 100, .markStale])
      [.tick 110, .failure 170 100, .tick 171, .failure 180 0] :=
  (stale_stays_iff (by decide) (by decide) (by decide)).mpr
    (by simp [Call.Keeps, xdpProjectionStaleSecs])

omit hactive in
/-- A failed map update raises the flag, and a failed reconciliation lowers it. -/
theorem failure_clears_stale :
    (run step (new.setXdpProjectionActive true) [.success 100, .markStale]).projectionStale = 1 ∧
      (run step (new.setXdpProjectionActive true)
        [.success 100, .markStale, .failure 110 100]).projectionStale = 0 := by
  decide

end XdpHealth

end RamShield

import RamShield.Ipc.Server

/-! # Ingest of a batch

The loop of `report_connections`: an event is shed, enqueued or rejected, and once enough
events were tried on the channel the rest of the batch is rejected at once. The rest is
computed from the two counters of tried events, so that it takes in the events shed
before it, which are then counted twice.
-/

namespace RamShield

open List

def isLowSignal (report : ConnectionReport) : Bool :=
  report.statusCode < 400 && report.protoFp == 0 && report.bytes ≤ 65536

def shedWatermark (capacity : Nat) : Nat := min (capacity * 3) u64Max / 4

def batchMax : Nat := 8192

/-- An event with what the channel shows it: its length, and whether it takes the event. -/
structure BatchEvent where
  report : ConnectionReport
  depth : Nat
  taken : Bool
  deriving DecidableEq

def BatchEvent.shed (watermark : Nat) (event : BatchEvent) : Bool :=
  watermark ≤ event.depth && isLowSignal event.report

structure IngestMetrics where
  shed : Nat
  rejected : Nat
  ipcEventDrops : Nat
  deriving DecidableEq

/-- The counters of the loop, the metrics, and the events tried and enqueued. -/
structure Ingest where
  accepted : Nat
  rejected : Nat
  shed : Nat
  metrics : IngestMetrics
  attempted : Nat
  enqueued : List ConnectionReport
  deriving DecidableEq

namespace Ingest

def start (metrics : IngestMetrics) : Ingest := ⟨0, 0, 0, metrics, 0, []⟩

variable (state : Ingest)

def noteShed : Ingest :=
  { state with
    shed := state.shed + 1
    metrics := { state.metrics with shed := state.metrics.shed + 1 } }

def reject (count : Nat) : Ingest :=
  { state with
    rejected := state.rejected + count
    metrics :=
      { state.metrics with
        rejected := state.metrics.rejected + count
        ipcEventDrops := state.metrics.ipcEventDrops + count } }

def trySend (event : BatchEvent) : Ingest :=
  let state := { state with attempted := state.attempted + 1 }
  if event.taken then
    { state with
      accepted := state.accepted + 1
      enqueued := state.enqueued ++ [event.report] }
  else state.reject 1

def tried : Nat := state.accepted + state.rejected

/-- The loop of `handle_report_connections`. -/
def loop (watermark total : Nat) : List BatchEvent → Ingest → Ingest
  | [], state => state
  | event :: events, state =>
    if event.shed watermark then loop watermark total events state.noteShed
    else
      let state := state.trySend event
      if batchMax ≤ state.tried ∧ state.tried < total then
        state.reject (total - state.accepted - state.rejected)
      else loop watermark total events state

/-- The counters agree with the metrics and with the channel. -/
structure Agrees (metrics : IngestMetrics) (state : Ingest) : Prop where
  enqueued : state.enqueued.length = state.accepted
  shed : state.metrics.shed = metrics.shed + state.shed
  rejected : state.metrics.rejected = metrics.rejected + state.rejected
  drops : state.metrics.ipcEventDrops = metrics.ipcEventDrops + state.rejected

end Ingest

def handleReportConnections (capacity : Nat) (events : List BatchEvent)
    (metrics : IngestMetrics) : Response × Ingest :=
  let state := Ingest.loop (shedWatermark capacity) (events.length % 2 ^ 32) events (.start metrics)
  (.batchOk state.accepted state.rejected, state)

namespace Ingest

variable {watermark total : Nat} {events : List BatchEvent} {metrics : IngestMetrics}
  {state : Ingest}

lemma Agrees.trySend (hagrees : state.Agrees metrics) (event : BatchEvent) :
    (state.trySend event).Agrees metrics := by
  obtain ⟨henqueued, hshed, hrejected, hdrops⟩ := hagrees
  unfold Ingest.trySend
  dsimp only
  split
  · exact ⟨by rw [length_append, henqueued, length_singleton], hshed, hrejected, hdrops⟩
  · exact ⟨henqueued, hshed, by simp [reject, hrejected, add_assoc],
      by simp [reject, hdrops, add_assoc]⟩

lemma Agrees.loop (hagrees : state.Agrees metrics) :
    (loop watermark total events state).Agrees metrics := by
  induction events generalizing state with
  | nil => exact hagrees
  | cons event events ih =>
    unfold Ingest.loop
    dsimp only
    split
    · exact ih { hagrees with shed := by simp [noteShed, hagrees.shed, add_assoc] }
    have hnext := hagrees.trySend event
    split
    · exact { hnext with
        rejected := by simp [reject, hnext.rejected, add_assoc]
        drops := by simp [reject, hnext.drops, add_assoc] }
    · exact ih hnext

lemma trySend_counts (state : Ingest) (event : BatchEvent) :
    (state.trySend event).tried = state.tried + 1 ∧ (state.trySend event).shed = state.shed ∧
      (state.trySend event).attempted = state.attempted + 1 := by
  unfold trySend tried
  dsimp only
  split
  · exact ⟨Nat.add_right_comm .., rfl, rfl⟩
  · exact ⟨rfl, rfl, rfl⟩

lemma loop_counts (hattempted : state.attempted = state.tried) (hroom : state.tried < batchMax)
    (htotal : state.tried + state.shed + events.length = total) :
    (loop watermark total events state).attempted ≤ batchMax ∧
      ((loop watermark total events state).tried + (loop watermark total events state).shed =
          total ↔
        state.tried + events.countP (!·.shed watermark) < batchMax ∨
          state.shed = 0 ∧
            ∀ event ∈ events.take (batchMax - state.tried), event.shed watermark = false) := by
  induction events generalizing state with
  | nil =>
    rw [length_nil, add_zero] at htotal
    simp [loop, hattempted, hroom, hroom.le, htotal]
  | cons event events ih =>
    rw [length_cons] at htotal
    obtain ⟨room, hlimit⟩ := Nat.exists_eq_add_of_lt hroom
    have hrest : batchMax - state.tried = room + 1 := by omega
    unfold loop
    dsimp only
    rw [hrest, take_succ_cons, countP_cons, forall_mem_cons]
    split
    next hshed =>
      have hnext := @ih state.noteShed hattempted hroom (by simp [tried, noteShed] at *; omega)
      refine ⟨hnext.1, hnext.2.trans ?_⟩
      simp [noteShed, tried, hshed]
    next hkept =>
      obtain ⟨htried, hsame, hattempts⟩ := state.trySend_counts event
      rw [Bool.not_eq_true] at hkept
      simp only [hkept, Bool.not_false, if_true, true_and]
      generalize state.trySend event = next at htried hsame hattempts ⊢
      split
      next hcut =>
        obtain rfl : room = 0 := by omega
        have hall : next.tried = next.accepted + next.rejected := rfl
        refine ⟨by change next.attempted ≤ batchMax; omega, ?_⟩
        change next.accepted + (next.rejected + _) + next.shed = total ↔ _
        simp only [take_zero, not_mem_nil, false_implies, implies_true, and_true]
        omega
      next hgoes =>
        by_cases hmore : next.tried < batchMax
        · have hlater := @ih next (by omega) hmore (by omega)
          rw [htried, hsame, show batchMax - (state.tried + 1) = room by omega] at hlater
          rwa [add_right_comm, add_assoc] at hlater
        · -- The batch ends with the last event that may be tried, and none was shed.
          obtain rfl : events = [] := length_eq_zero_iff.mp (by omega)
          simp [loop]
          omega

/-- No event is shed before the batch is cut short. -/
def Clear (watermark : Nat) (events : List BatchEvent) : Prop :=
  events.countP (!·.shed watermark) < batchMax ∨
    ∀ event ∈ events.take batchMax, event.shed watermark = false

lemma handleReportConnections_size (capacity : Nat) {events : List BatchEvent}
    (hsize : events.length < 2 ^ 32) (metrics : IngestMetrics) :
    let final := (handleReportConnections capacity events metrics).2
    final.attempted ≤ batchMax ∧ (final.accepted + final.rejected + final.shed = events.length ↔
      Clear (shedWatermark capacity) events) := by
  intro final
  have hfinal : final = loop (shedWatermark capacity) events.length events (.start metrics) := by
    rw [← Nat.mod_eq_of_lt hsize]
    rfl
  have hcounts := @loop_counts (shedWatermark capacity) events.length events (.start metrics) rfl
    (show 0 < batchMax by decide) (Nat.zero_add _)
  rw [← hfinal] at hcounts
  refine ⟨hcounts.1, hcounts.2.trans ?_⟩
  simp [Clear, start, tried]

/-- The accounts of a batch are right exactly if no event is shed before it is cut short. -/
theorem handleReportConnections_accounts_iff (capacity : Nat) (events : List BatchEvent)
    (hsize : events.length < 2 ^ 32) (metrics : IngestMetrics) :
    let final := (handleReportConnections capacity events metrics).2
    (final.Agrees metrics ∧ final.accepted + final.rejected + final.shed = events.length ∧
      final.attempted ≤ batchMax) ↔ Clear (shedWatermark capacity) events := by
  intro final
  have hagrees : final.Agrees metrics := Agrees.loop ⟨rfl, rfl, rfl, rfl⟩
  have hfinal := handleReportConnections_size capacity hsize metrics
  rw [and_iff_right hagrees, and_iff_left hfinal.1]
  exact hfinal.2

def telemetry (statusCode : Nat) (taken : Bool) : BatchEvent :=
  ⟨⟨.v4 1, 0, statusCode, 0⟩, 0, taken⟩

/-- One event is enqueued, one is shed and one finds the channel full. -/
theorem handleReportConnections_accounts_mixed :
    let events := [telemetry 200 true, ⟨⟨.v4 2, 0, 200, 0⟩, 1000, true⟩, telemetry 500 false]
    let final := (handleReportConnections 1024 events ⟨0, 0, 0⟩).2
    final.shed = 1 ∧ final.Agrees ⟨0, 0, 0⟩ ∧
      final.accepted + final.rejected + final.shed = 3 ∧ final.attempted ≤ batchMax := by
  intro events final
  exact ⟨by decide, (handleReportConnections_accounts_iff 1024 events (by decide) ⟨0, 0, 0⟩).mpr
    (.inl (by decide))⟩

/-- One event is shed, and the batch is cut short after the next 8192. -/
def overlong : List BatchEvent := telemetry 200 true :: List.replicate 8192 (telemetry 500 true)

theorem handleReportConnections_counts_twice :
    let final := (handleReportConnections 1 overlong ⟨0, 0, 0⟩).2
    final.accepted + final.rejected + final.shed ≠ overlong.length := by
  have hclear : ¬Clear 0 overlong := by
    rw [Clear, overlong, countP_cons, countP_replicate,
      show batchMax = 8191 + 1 from rfl, take_succ_cons, forall_mem_cons]
    rintro (hfew | ⟨hfirst, -⟩)
    · exact absurd hfew (by decide)
    · exact absurd hfirst (by decide)
  have hshort : overlong.length < 2 ^ 32 := by
    rw [overlong, length_cons, length_replicate]
    decide
  exact fun hsize => hclear ((handleReportConnections_size 1 hshort ⟨0, 0, 0⟩).2.mp hsize)

end Ingest

end RamShield

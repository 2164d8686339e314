import RamShield.Enforcement.Service
import RamShield.Foundation.Recall
import RamShield.Foundation.Run

/-! # Repeated decisions

The service together with its dataplane, as a machine that takes commands and, between
them, does anything else that leaves the remembered results alone. The results and
their queue hold the last 65,536 answers that the machine gave, so a repeated decision
is answered from them and changes nothing.
-/

namespace RamShield

open Foundation Foundation.Machine Foundation.Recall List

/-! ## The dataplane of a command -/

/-- A call of `XdpApplier`. -/
inductive XdpCall
  | block (ip : IpAddr) (decisionId : Uuid) (ttlSeconds : Nat)
  | unblock (ip : IpAddr) (decisionId : Uuid)
  | cidrBlock (network : IpNetwork) (decisionId : Uuid) (ttlSeconds : Nat)
  | cidrUnblock (network : IpNetwork) (decisionId : Uuid)
  deriving DecidableEq

def EnforceCommand.xdpCall (cmd : EnforceCommand) : XdpCall :=
  match cmd.action, cmd.cidr with
  | .block, some network => .cidrBlock network cmd.decisionId cmd.ttlSeconds
  | .block, none => .block cmd.ip cmd.decisionId cmd.ttlSeconds
  | .unblock, some network => .cidrUnblock network cmd.decisionId
  | .unblock, none => .unblock cmd.ip cmd.decisionId

/-- The service and the state of its `XdpApplier`. -/
structure Enforcer (Dataplane : Type) where
  service : EnforcementService
  dataplane : Dataplane

section Machine

variable {Dataplane : Type} (apply : Dataplane → XdpCall → Option String × Dataplane)

/-- `enforce_inner` with its dataplane. A call that fails may still have changed it. -/
def Enforcer.enforceInner (enforcer : Enforcer Dataplane) (io : Io) (cmd : EnforceCommand)
    (mutation : Option PendingMeshMutation) (durability : WalDurability) :
    Except EnforcementError EnforceResult × Enforcer Dataplane :=
  let (failure, projected) := apply enforcer.dataplane cmd.xdpCall
  let (result, service) :=
    enforcer.service.enforceInner { io with xdpFailure := failure } cmd mutation durability
  let commits := (enforcer.service.processedResults.lookup cmd.decisionId).isNone && result.isOk
  (result, ⟨service, if commits then projected else enforcer.dataplane⟩)

structure Interlude (Dataplane : Type) where
  change : Enforcer Dataplane → Enforcer Dataplane
  keeps_results (enforcer : Enforcer Dataplane) :
    (change enforcer).service.processedResults = enforcer.service.processedResults
  keeps_order (enforcer : Enforcer Dataplane) :
    (change enforcer).service.processedOrder = enforcer.service.processedOrder

/-- What happens to the service. -/
inductive Invocation (Dataplane : Type)
  | command (io : Io) (cmd : EnforceCommand) (mutation : Option PendingMeshMutation)
      (durability : WalDurability)
  | interlude (between : Interlude Dataplane)

/-- The machine, with the answers it has given so far. -/
structure Answering (Dataplane : Type) where
  enforcer : Enforcer Dataplane
  answers : List EnforceResult

/-- One invocation. Only a command that succeeds is an answer. -/
def Answering.step (state : Answering Dataplane) : Invocation Dataplane → Answering Dataplane
  | .command io cmd mutation durability =>
    let (result, enforcer) := state.enforcer.enforceInner apply io cmd mutation durability
    match result with
    | .ok answer => ⟨enforcer, state.answers ++ [answer]⟩
    | .error _ => ⟨enforcer, state.answers⟩
  | .interlude between => ⟨between.change state.enforcer, state.answers⟩

def Answering.start (service : EnforcementService) (dataplane : Dataplane) : Answering Dataplane :=
  ⟨⟨{ service with processedResults := ∅, processedOrder := [] }, dataplane⟩, []⟩

end Machine

/-! ## The remembered results -/

namespace EnforcementService

/-- The results and their queue hold the last entries of a memory. -/
def Remembers (service : EnforcementService) (memory : List EnforceResult) : Prop :=
  Holds 65536 EnforceResult.decisionId service.processedOrder service.processedResults memory

lemma trimResults_of_le {order : List Uuid} (hle : order.length ≤ 65536)
    (results : Table Uuid EnforceResult) : trimResults order results = (order, results) := by
  cases order with
  | nil => rfl
  | cons oldest order => rw [trimResults, if_neg (Nat.not_lt.mpr hle)]

lemma trimResults_of_full {oldest : Uuid} {order : List Uuid} (hfull : order.length = 65536)
    (results : Table Uuid EnforceResult) :
    trimResults (oldest :: order) results = (order, results.erase oldest) := by
  rw [trimResults, if_pos (by rw [length_cons]; omega), trimResults_of_le hfull.le]

variable {service next : EnforcementService} {io : Io} {cmd : EnforceCommand}
variable {other : EnforcementService} {memory : List EnforceResult}
  {mutation : Option PendingMeshMutation} {durability : WalDurability}

lemma Remembers.rememberResult (hremembers : service.Remembers memory) {result : EnforceResult}
    (hfresh : service.processedResults.lookup result.decisionId = none) :
    (service.rememberResult result).Remembers (memory ++ [result]) := by
  have hlength := hremembers.length_le
  unfold Remembers EnforcementService.rememberResult
  rw [hfresh]
  dsimp only
  by_cases hroom : service.processedOrder.length < 65536
  · rw [trimResults_of_le (by rw [length_append, length_singleton]; omega)]
    exact hremembers.push_room hfresh hroom
  · cases horder : service.processedOrder with
    | nil => simp [horder] at hroom
    | cons oldest newer =>
      rw [horder, length_cons] at hroom hlength
      rw [cons_append, trimResults_of_full (by
        rw [length_append, length_singleton]; omega)]
      unfold Remembers at hremembers
      rw [horder] at hremembers
      exact hremembers.push_full hfresh (by omega)

structure SameResults (service other : EnforcementService) : Prop where
  results : other.processedResults = service.processedResults
  order : other.processedOrder = service.processedOrder

lemma SameResults.refl (service : EnforcementService) : service.SameResults service := ⟨rfl, rfl⟩

lemma SameResults.trans {middle : EnforcementService} (hfirst : service.SameResults middle)
    (hsecond : middle.SameResults other) : service.SameResults other :=
  ⟨hsecond.results.trans hfirst.results, hsecond.order.trans hfirst.order⟩

lemma SameResults.remembers (hsame : service.SameResults other)
    (hremembers : service.Remembers memory) : other.Remembers memory := by
  unfold Remembers
  rw [hsame.results, hsame.order]
  exact hremembers

lemma commit_sameResults {journalled : EnforcementService} {walLsn : Option Nat}
    {outcome : Except EnforcementError Unit}
    (hjournal : service.journalCommand io cmd mutation durability = .ok (walLsn, journalled))
    (hcommit : (journalled.mergeMutation io mutation).commit io cmd = (outcome, next)) :
    service.SameResults next := by
  obtain ⟨wal, last, rfl⟩ := journalCommand_writes hjournal
  obtain ⟨mesh, hmerged⟩ := mergeMutation_writes _ io mutation
  rw [hmerged] at hcommit
  obtain ⟨written, hwritten⟩ := commit_writes _ io cmd
  rw [hcommit] at hwritten
  obtain rfl : next = _ := hwritten
  exact ⟨rfl, rfl⟩

inductive Recollection (service : EnforcementService) (cmd : EnforceCommand) :
    Except EnforcementError EnforceResult → EnforcementService → Prop
  | held {result : EnforceResult}
      (hheld : service.processedResults.lookup cmd.decisionId = some result) :
      Recollection service cmd (.ok result) service
  | failed {error : EnforcementError} {next : EnforcementService}
      (hfresh : service.processedResults.lookup cmd.decisionId = none)
      (hsame : service.SameResults next) : Recollection service cmd (.error error) next
  | new {result : EnforceResult} {before : EnforcementService}
      (hfresh : service.processedResults.lookup cmd.decisionId = none)
      (hsame : service.SameResults before) (hid : result.decisionId = cmd.decisionId) :
      Recollection service cmd (.ok result) (before.rememberResult result)

lemma Executed.recollection {outcome : Except EnforcementError EnforceResult}
    (hexecuted : Executed service io cmd mutation durability outcome next) :
    Recollection service cmd outcome next := by
  cases hexecuted with
  | cached hcached => exact .held hcached
  | unspecified hfresh => exact .failed hfresh (.refl service)
  | unjournalled hfresh => exact .failed hfresh (.refl service)
  | refused hfresh hip hjournal hcommit =>
    exact .failed hfresh (commit_sameResults hjournal hcommit)
  | committed hfresh hip hjournal hcommit =>
    have hsame := commit_sameResults hjournal hcommit
    unfold finish
    split
    · obtain ⟨mesh, suppressions, hban⟩ := originateBan_writes _ io cmd
      rw [hban]
      exact .new hfresh (hsame.trans ⟨rfl, rfl⟩) rfl
    · exact .new hfresh hsame rfl

end EnforcementService

/-! ## Runs -/

section Runs

variable {Dataplane : Type} (apply : Dataplane → XdpCall → Option String × Dataplane)

lemma Enforcer.enforceInner_recollection (enforcer : Enforcer Dataplane) (io : Io)
    (cmd : EnforceCommand) (mutation : Option PendingMeshMutation) (durability : WalDurability) :
    EnforcementService.Recollection enforcer.service cmd
      (enforcer.enforceInner apply io cmd mutation durability).1
      (enforcer.enforceInner apply io cmd mutation durability).2.service :=
  (EnforcementService.enforceInner_executed enforcer.service
    { io with xdpFailure := (apply enforcer.dataplane cmd.xdpCall).1 } cmd mutation
    durability).recollection

/-- The state remembers what its answers leave in memory. -/
def Answering.Consistent (state : Answering Dataplane) : Prop :=
  state.enforcer.service.Remembers (recollect 65536 EnforceResult.decisionId state.answers)

lemma Answering.step_consistent (state : Answering Dataplane) (invocation : Invocation Dataplane)
    (hconsistent : state.Consistent) : (state.step apply invocation).Consistent := by
  unfold Consistent at hconsistent ⊢
  cases invocation with
  | interlude between =>
    exact EnforcementService.SameResults.remembers
      ⟨between.keeps_results _, between.keeps_order _⟩ hconsistent
  | command io cmd mutation durability =>
    rw [step]
    have hrecollection :=
      Enforcer.enforceInner_recollection apply state.enforcer io cmd mutation durability
    generalize state.enforcer.enforceInner apply io cmd mutation durability = outcome
      at hrecollection ⊢
    obtain ⟨result, ⟨service, dataplane⟩⟩ := outcome
    cases hrecollection with
    | held hheld =>
      have hkey := (hconsistent.lookup_iff.mp hheld).2
      dsimp only
      rw [recollect_snoc, hconsistent.remember_eq_of_held (hkey ▸ hheld)]
      exact hconsistent
    | failed hfresh hsame => exact hsame.remembers hconsistent
    | new hfresh hsame hid =>
      rw [← hid] at hfresh
      dsimp only
      rw [recollect_snoc, hconsistent.remember_eq_of_fresh hfresh]
      apply (hsame.remembers hconsistent).rememberResult
      rw [hsame.results]
      exact hfresh

/-- Decisions are idempotent, over every sequence of commands with anything between
them. A command whose decision is among the last 65,536 that were answered gets the
same answer and leaves the service and the dataplane as they are. The results and their
queue hold exactly those decisions, each once. A command that fails is not remembered. -/
theorem Answering.decisions_idempotent (service : EnforcementService) (dataplane : Dataplane)
    (invocations : List (Invocation Dataplane)) :
    let state := run (Answering.step apply) (.start service dataplane) invocations
    let remembered := window 65536 (recollect 65536 EnforceResult.decisionId state.answers)
    (∀ result ∈ remembered, ∀ (io : Io) (cmd : EnforceCommand)
        (mutation : Option PendingMeshMutation) (durability : WalDurability),
      cmd.decisionId = result.decisionId →
        state.enforcer.enforceInner apply io cmd mutation durability =
          (.ok result, state.enforcer)) ∧
    state.enforcer.service.processedOrder = remembered.map EnforceResult.decisionId ∧
    state.enforcer.service.processedOrder.toFinset = state.enforcer.service.processedResults.keys ∧
    state.enforcer.service.processedOrder.length ≤ 65536 ∧
    state.enforcer.service.processedOrder.Nodup ∧
    ∀ (io : Io) (cmd : EnforceCommand) (mutation : Option PendingMeshMutation)
        (durability : WalDurability) (error : EnforcementError) (next : Enforcer Dataplane),
      state.enforcer.enforceInner apply io cmd mutation durability = (.error error, next) →
        next.service.processedResults = state.enforcer.service.processedResults ∧
          next.service.processedOrder = state.enforcer.service.processedOrder ∧
          cmd.decisionId ∉ next.service.processedOrder := by
  intro state remembered
  have hconsistent : state.Consistent :=
    run_invariant (step_consistent apply)
      (show (start service dataplane).Consistent from Holds.empty ..) invocations
  refine ⟨?_, hconsistent.order_eq, ?_, hconsistent.length_le, hconsistent.nodup, ?_⟩
  · intro result hmem io cmd mutation durability hid
    have hheld := hconsistent.lookup_iff.mpr ⟨hmem, hid.symm⟩
    unfold Enforcer.enforceInner EnforcementService.enforceInner
    simp only [hheld, Option.isNone_some, Bool.false_and, Bool.false_eq_true, if_false]
  · ext id
    rw [mem_toFinset, hconsistent.mem_order_iff]
  · intro io cmd mutation durability error next hfailed
    have hrecollection :=
      Enforcer.enforceInner_recollection apply state.enforcer io cmd mutation durability
    rw [hfailed] at hrecollection
    dsimp only at hrecollection
    generalize next.service = after at hrecollection ⊢
    cases hrecollection with
    | failed hfresh hsame =>
      refine ⟨hsame.results, hsame.order, ?_⟩
      rw [hsame.order, hconsistent.mem_order_iff]
      exact Table.not_mem_keys_iff_lookup.mpr hfresh

end Runs

/-- A block that is sent twice: the dataplane, a list of the calls it got, hears of it
once. -/
theorem Answering.decisions_idempotent_retry :
    let apply := fun (calls : List XdpCall) (call : XdpCall) =>
      ((none : Option String), calls ++ [call])
    let block := EnforceCommand.operator 7 .block (.v4 1) 60
    let answer : EnforceResult := ⟨7, true, true, none, true, none⟩
    let first := Invocation.command (.at ⟨0, 0⟩ 0) block none .append
    let state := run (Answering.step apply)
      (.start (EnforcementService.new (Store.new.setRamLimitMb 1) 0) []) [first]
    state.enforcer.dataplane = [.block (.v4 1) 7 60] ∧ state.answers = [answer] ∧
      state.enforcer.enforceInner apply (.at ⟨5, 5⟩ 1) block none .append =
        (.ok answer, state.enforcer) := by
  intro apply block answer first state
  have hanswers : state.answers = [answer] := by decide +kernel
  obtain ⟨hrepeat, _⟩ := Answering.decisions_idempotent apply
    (EnforcementService.new (Store.new.setRamLimitMb 1) 0) [] [first]
  refine ⟨by decide +kernel, hanswers, hrepeat answer ?_ _ _ _ _ rfl⟩
  change answer ∈ window 65536 (recollect 65536 EnforceResult.decisionId state.answers)
  rw [hanswers]
  decide +kernel

end RamShield

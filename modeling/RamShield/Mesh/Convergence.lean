import RamShield.Mesh.Aworset

/-! # Convergence of the cluster blocklist

Two replicas that have merged the same deltas hold the same dots and the same
removal watermarks, whatever the order, the repetitions and the clock readings
of the merges. The clock and the acknowledgement epochs of the tombstones are
local to a replica and do not converge.
-/

namespace RamShield

open Foundation List

/-- A delta as it travels between replicas. -/
inductive ClusterDelta
  | block (delta : ClusterBlockDelta)
  | unblock (delta : ClusterUnblockDelta)
  deriving DecidableEq

namespace ClusterDelta

def dot : ClusterDelta → ClusterDot
  | .block delta => delta.dot
  | .unblock delta => delta.dot

def key : ClusterDelta → BlockKey
  | .block delta => delta.key
  | .unblock delta => delta.key

def op : ClusterDelta → Register.Op DotPayload
  | .block delta => .add delta.dot.counter delta.payload
  | .unblock delta => .remove delta.dot.counter

end ClusterDelta

namespace AworsetBlocklist

def absorb (set : AworsetBlocklist) (delivery : Nat × ClusterDelta) : AworsetBlocklist :=
  match delivery.2 with
  | .block delta => (set.mergeDelta delivery.1 delta).2
  | .unblock delta => (set.mergeUnblockDelta delivery.1 delta).2

variable {deliveries : List (Nat × ClusterDelta)} (nodeId : Nat) (incarnation : Uuid)
  (set : AworsetBlocklist)

lemma register_absorb (delivery : Nat × ClusterDelta) (key : BlockKey) :
    (set.absorb delivery).register key =
      if delivery.2.dot.admissible ∧ key = delivery.2.key then
        (set.register key).apply delivery.2.op
      else set.register key := by
  obtain ⟨wallMs, delta⟩ := delivery
  cases delta with
  | block delta => exact register_mergeDelta set wallMs delta key
  | unblock delta => exact register_mergeUnblockDelta set wallMs delta key

variable (key : BlockKey)

def opsAt (deliveries : List (Nat × ClusterDelta)) : List (Register.Op DotPayload) :=
  (deliveries.filter fun delivery =>
    delivery.2.dot.admissible && decide (key = delivery.2.key)).map fun delivery => delivery.2.op

lemma register_foldl_absorb (deliveries : List (Nat × ClusterDelta)) :
    (deliveries.foldl absorb set).register key =
      (opsAt key deliveries).foldl Register.apply (set.register key) := by
  induction deliveries generalizing set with
  | nil => rfl
  | cons delivery deliveries ih =>
    rw [foldl_cons, ih, register_absorb]
    by_cases hhere : delivery.2.dot.admissible ∧ key = delivery.2.key
    · rw [if_pos hhere]
      simp only [opsAt, filter_cons, hhere.1, decide_eq_true hhere.2, Bool.and_self,
        if_true, map_cons, foldl_cons]
    · rw [if_neg hhere]
      have hskip : (delivery.2.dot.admissible && decide (key = delivery.2.key)) = false := by
        simpa using hhere
      simp only [opsAt, filter_cons, hskip, Bool.false_eq_true, if_false]

lemma mem_opsAt {key : BlockKey} {op : Register.Op DotPayload} : op ∈ opsAt key deliveries ↔
      ∃ delta ∈ deliveries.map Prod.snd,
        delta.dot.admissible ∧ key = delta.key ∧ delta.op = op := by
  simp only [opsAt, mem_map, mem_filter, Bool.and_eq_true, decide_eq_true_eq]
  constructor
  · rintro ⟨delivery, ⟨hmem, hadmissible, hkey⟩, hop⟩
    exact ⟨delivery.2, ⟨delivery, hmem, rfl⟩, hadmissible, hkey, hop⟩
  · rintro ⟨_, ⟨delivery, hmem, rfl⟩, hadmissible, hkey, hop⟩
    exact ⟨delivery, ⟨hmem, hadmissible, hkey⟩, hop⟩

lemma register_new : (new nodeId incarnation).register key = Register.empty := by
  simp [register, new, Register.empty]

lemma represents_foldl_absorb (deliveries : List (Nat × ClusterDelta)) :
    ((deliveries.foldl absorb (new nodeId incarnation)).register key).Represents
      {op | op ∈ opsAt key deliveries} := by
  rw [register_foldl_absorb, register_new]
  simpa using Register.empty_represents.foldl (opsAt key deliveries)

def UniqueDots (deltas : List ClusterDelta) : Prop :=
  ∀ first second, .block first ∈ deltas → .block second ∈ deltas → first.key = second.key →
    first.dot.counter = second.dot.counter → first = second

lemma UniqueDots.functional (hunique : UniqueDots (deliveries.map Prod.snd)) {key : BlockKey}
    {counter : Nat} {first second : DotPayload} (hfirst : .add counter first ∈ opsAt key deliveries)
    (hsecond : .add counter second ∈ opsAt key deliveries) : first = second := by
  obtain ⟨left, hleft, _, hleftKey, hleftOp⟩ := mem_opsAt.mp hfirst
  obtain ⟨right, hright, _, hrightKey, hrightOp⟩ := mem_opsAt.mp hsecond
  cases left with
  | unblock left => cases hleftOp
  | block left =>
    cases right with
    | unblock right => cases hrightOp
    | block right =>
      simp only [ClusterDelta.op, Register.Op.add.injEq] at hleftOp hrightOp
      have hsame := hunique left right hleft hright (hleftKey.symm.trans hrightKey)
        (hleftOp.1.trans hrightOp.1.symm)
      rw [← hleftOp.2, ← hrightOp.2, hsame]

lemma register_converges {first second : List (Nat × ClusterDelta)}
    (hsame : ∀ delta, delta ∈ first.map Prod.snd ↔ delta ∈ second.map Prod.snd)
    (hunique : UniqueDots (first.map Prod.snd)) (node node' : Nat)
    (incarnation incarnation' : Uuid) (key : BlockKey) :
    (first.foldl absorb (new node incarnation)).register key =
      (second.foldl absorb (new node' incarnation')).register key := by
  have hops : {op | op ∈ opsAt key second} = {op | op ∈ opsAt key first} := by
    ext op
    simp only [Set.mem_ofPred_eq, mem_opsAt, hsame]
  have hsecond := represents_foldl_absorb node' incarnation' key second
  rw [hops] at hsecond
  exact (represents_foldl_absorb node incarnation key first).unique
    (fun _ _ _ hleft hright => hunique.functional hleft hright) hsecond

/-- Two fresh replicas that merge the same deltas, in any orders and with any
repetitions, hold the same dots and the same tombstone counters, and answer all
queries alike at every time. -/
theorem blocklist_converges {first second : List (Nat × ClusterDelta)}
    (hsame : ∀ delta, delta ∈ first.map Prod.snd ↔ delta ∈ second.map Prod.snd)
    (hunique : UniqueDots (first.map Prod.snd)) (node node' : Nat)
    (incarnation incarnation' : Uuid) :
    let left := first.foldl absorb (new node incarnation)
    let right := second.foldl absorb (new node' incarnation')
    left.entries = right.entries ∧
      (∀ key, (left.tombstones.lookup key).map TombstoneState.counter =
        (right.tombstones.lookup key).map TombstoneState.counter) ∧
      ∀ nowMs, (∀ ip, left.isBlocked ip nowMs ↔ right.isBlocked ip nowMs) ∧
        left.activeIps nowMs = right.activeIps nowMs ∧
        left.activeBlockTtls nowMs = right.activeBlockTtls nowMs := by
  intro left right
  have hregister : ∀ key, left.register key = right.register key :=
    register_converges hsame hunique node node' incarnation incarnation'
  have hentries : left.entries = right.entries :=
    Finmap.ext_lookup fun key => congrArg Register.live (hregister key)
  refine ⟨hentries, fun key => congrArg Register.removed (hregister key), ?_⟩
  -- Every query reads the entries only.
  intro nowMs
  have hkeys : left.activeKeys nowMs = right.activeKeys nowMs := by
    unfold activeKeys
    rw [hentries]
  have hips : left.activeIps nowMs = right.activeIps nowMs := by
    unfold activeIps
    rw [hkeys]
  refine ⟨?_, hips, ?_⟩
  · intro ip
    unfold isBlocked
    rw [hentries]
  · have hdeadline : left.activeDeadline nowMs = right.activeDeadline nowMs := by
      funext ip
      unfold activeDeadline
      rw [hkeys, hentries]
    unfold activeBlockTtls
    rw [hips, hdeadline]

def sampleBan : ClusterBlockDelta := ⟨.v4 1, ⟨1, 1, 1⟩, 10, u64Max, 2⟩

def sampleUnban : ClusterUnblockDelta := ⟨.v4 1, ⟨1, 1, 1⟩⟩

/-- A replica that sees the removal first and the ban twice ends like one that
sees ban and removal in order. -/
theorem blocklist_converges_reordered :
    ([(20, .block sampleBan), (21, .unblock sampleUnban)].foldl absorb (new 1 1)).entries =
      ([(30, .unblock sampleUnban), (31, .block sampleBan),
        (32, .block sampleBan)].foldl absorb (new 2 2)).entries := by
  refine (blocklist_converges ?_ ?_ 1 2 1 2).1
  · intro delta
    simp only [map_cons, map_nil, mem_cons, not_mem_nil, or_false]
    tauto
  · intro first second hfirst hsecond _ _
    simp only [map_cons, map_nil, mem_cons, not_mem_nil, or_false,
      ClusterDelta.block.injEq, reduceCtorEq] at hfirst hsecond
    rw [hfirst, hsecond]

end AworsetBlocklist

end RamShield

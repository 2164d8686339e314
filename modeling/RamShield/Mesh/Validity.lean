import RamShield.Mesh.Aworset

/-! # What the checkpoint validator demands

`AworsetSnapshot::validate` is checked when a checkpoint is read back, and a
failure ends the boot. Here its demands are an invariant of the blocklist: every
merge of a delta that meets them keeps them, and so do the dots and tombstones
that the node itself produces.
-/

namespace RamShield

open Foundation AworsetSnapshot List Table

/-- The identity checks on a key. -/
structure BlockKey.Valid (key : BlockKey) : Prop where
  specified : key.ip.isUnspecified = false
  nodeId : key.nodeId ≠ 0
  incarnation : key.incarnation.isNil = false

def DotPayload.Valid (payload : DotPayload) : Prop :=
  payload.expiresAtMs = u64Max ∨ payload.createdAtMs ≤ payload.expiresAtMs

/-- What may be held under a key. -/
structure BlockKey.Admits (key : BlockKey) (register : Register DotPayload) : Prop where
  live {counter : Nat} {payload : DotPayload} : register.live = some (counter, payload) →
    key.Valid ∧ counter ≠ 0 ∧ payload.Valid
  removed {counter : Nat} : register.removed = some counter → key.Valid ∧ counter ≠ 0
  separated : register.Separated

namespace BlockKey.Admits

variable {key : BlockKey} {register : Register DotPayload}

lemma empty (key : BlockKey) : key.Admits .empty where
  live h := by cases h
  removed h := by cases h
  separated := Register.empty_separated

lemma add (hadmits : key.Admits register) (hkey : key.Valid) {counter : Nat}
    (hcounter : counter ≠ 0) {payload : DotPayload} (hpayload : payload.Valid) :
    key.Admits (register.add counter payload) where
  live := by
    intro current held hlive
    rcases register.live_add counter payload with hsame | ⟨_, hnew⟩
    · rw [hsame] at hlive
      exact hadmits.live hlive
    · rw [hnew] at hlive
      cases hlive
      exact ⟨hkey, hcounter, hpayload⟩
  removed := by
    intro watermark hremoved
    rw [Register.add_removed] at hremoved
    exact hadmits.removed hremoved
  separated := hadmits.separated.add counter payload

lemma remove (hadmits : key.Admits register) (hkey : key.Valid) {counter : Nat}
    (hcounter : counter ≠ 0) : key.Admits (register.remove counter) where
  live hlive := hadmits.live (Register.live_remove.mp hlive).1
  removed := by
    intro watermark hremoved
    obtain ⟨raised, hraised, _, hwhich⟩ := register.removed_remove counter
    rw [hraised] at hremoved
    cases hremoved
    rcases hwhich with rfl | hold
    · exact ⟨hkey, hcounter⟩
    · exact hadmits.removed hold
  separated := hadmits.separated.remove counter

end BlockKey.Admits

namespace AworsetBlocklist

/-- The blocklist meets the demands, and its next dot will. -/
structure Valid (set : AworsetBlocklist) : Prop where
  admits (key : BlockKey) : key.Admits (set.register key)
  nextDotCounter : set.nextDotCounter ≠ 0

lemma new_valid (nodeId : Nat) (incarnation : Uuid) : (new nodeId incarnation).Valid where
  admits key := .empty key
  nextDotCounter := Nat.one_ne_zero

lemma valid_key {ip : IpAddr} (hip : ip.isUnspecified = false) {dot : ClusterDot}
    (hadmissible : dot.admissible) : BlockKey.Valid ⟨ip, dot.nodeId, dot.incarnation⟩ := by
  simp only [ClusterDot.admissible, Bool.and_eq_true, bne_iff_ne, Bool.not_eq_true'] at hadmissible
  exact ⟨hip, hadmissible.1, hadmissible.2⟩

namespace Valid

variable {set : AworsetBlocklist}

lemma mergeDelta (hvalid : set.Valid) (wallMs : Nat) {delta : ClusterBlockDelta}
    (hip : delta.ip.isUnspecified = false) (hcounter : delta.dot.counter ≠ 0)
    (hpayload : delta.payload.Valid) : (set.mergeDelta wallMs delta).2.Valid where
  admits key := by
    rw [register_mergeDelta]
    split
    next hat =>
      obtain ⟨hadmissible, rfl⟩ := hat
      exact (hvalid.admits _).add (valid_key hip hadmissible) hcounter hpayload
    · exact hvalid.admits key
  nextDotCounter := by
    unfold AworsetBlocklist.mergeDelta
    dsimp only
    repeat' split
    all_goals exact hvalid.nextDotCounter

variable {ip : IpAddr} {delta : ClusterUnblockDelta}

lemma mergeUnblockDelta (hvalid : set.Valid) (wallMs : Nat) (hip : delta.ip.isUnspecified = false)
    (hcounter : delta.dot.counter ≠ 0) : (set.mergeUnblockDelta wallMs delta).2.Valid where
  admits key := by
    rw [register_mergeUnblockDelta]
    split
    next hat =>
      obtain ⟨hadmissible, rfl⟩ := hat
      exact (hvalid.admits _).remove (valid_key hip hadmissible) hcounter
    · exact hvalid.admits key
  nextDotCounter := by
    unfold AworsetBlocklist.mergeUnblockDelta
    dsimp only
    split <;> exact hvalid.nextDotCounter

/-- A dot of the node's own never expires before it was created. -/
lemma prepareBan_payload (set : AworsetBlocklist) (wallMs : Nat) (ip : IpAddr)
    (ttlMs tier : Nat) : (set.prepareBan wallMs ip ttlMs tier).1.payload.Valid := by
  unfold prepareBan DotPayload.Valid ClusterBlockDelta.payload
  dsimp only
  split
  · exact .inl rfl
  rcases Nat.le_total ((set.hlc.tick wallMs 0 0).physMs + ttlMs) u64Max with hfits | hcapped
  · exact .inr (by rw [satAdd, Nat.min_eq_left hfits]; exact Nat.le_add_right _ _)
  · exact .inl (by rw [satAdd, Nat.min_eq_right hcapped])

lemma recordBan (hvalid : set.Valid) (wallMs : Nat) (hip : ip.isUnspecified = false)
    (ttlMs tier : Nat) : (set.recordBan wallMs ip ttlMs tier).2.Valid := by
  have hprepared : (set.prepareBan wallMs ip ttlMs tier).2.Valid :=
    { admits := hvalid.admits
      nextDotCounter := by
        change satAdd set.nextDotCounter 1 ≠ 0
        unfold satAdd u64Max
        omega }
  exact hprepared.mergeDelta wallMs hip hvalid.nextDotCounter
    (prepareBan_payload set wallMs ip ttlMs tier)

lemma prepareUnban (hvalid : set.Valid) {order : IterOrder BlockKey}
    (hdelta : delta ∈ set.prepareUnban order ip) :
    delta.ip.isUnspecified = false ∧ delta.dot.counter ≠ 0 := by
  obtain ⟨key, hkey, rfl⟩ := mem_map.mp hdelta
  obtain ⟨hmem, hip⟩ := Finset.mem_filter.mp (order.mem_enum.mp hkey)
  obtain ⟨⟨counter, payload⟩, hentry⟩ := mem_keys_iff_lookup.mp hmem
  obtain ⟨hkey, hcounter, _⟩ := (hvalid.admits key).live hentry
  refine ⟨hip ▸ hkey.specified, ?_⟩
  simp only [hentry, Option.map_some, Option.getD_some]
  exact hcounter

lemma recordUnban (hvalid : set.Valid) (wallMs : Nat) (order : IterOrder BlockKey)
    (ip : IpAddr) : (set.recordUnban wallMs order ip).2.Valid := by
  have hfold : ∀ (deltas : List ClusterUnblockDelta) (set : AworsetBlocklist), set.Valid →
      (∀ delta ∈ deltas, delta.ip.isUnspecified = false ∧ delta.dot.counter ≠ 0) →
      (deltas.foldl (fun set delta => (set.mergeUnblockDelta wallMs delta).2) set).Valid := by
    intro deltas
    induction deltas with
    | nil => exact fun _ hset _ => hset
    | cons delta deltas ih =>
      intro set hset hdeltas
      obtain ⟨hip, hcounter⟩ := hdeltas delta mem_cons_self
      exact ih _ (hset.mergeUnblockDelta wallMs hip hcounter) fun other hmem =>
        hdeltas other (mem_cons_of_mem _ hmem)
  exact hfold _ set hvalid fun delta hdelta => hvalid.prepareUnban hdelta

lemma register_recordUnban (hvalid : set.Valid) (wallMs : Nat) (order : IterOrder BlockKey)
    (ip : IpAddr) (key : BlockKey) :
    (set.recordUnban wallMs order ip).2.register key =
      if key.ip = ip then
        ((set.register key).live.map fun value => (set.register key).remove value.1).getD
          (set.register key)
      else set.register key := by
  unfold AworsetBlocklist.recordUnban AworsetBlocklist.prepareUnban
  dsimp only
  rw [foldl_map]
  generalize hkeys : order.enum (set.entries.keys.filter fun key => key.ip = ip) = keys
  have hmem (stored : BlockKey) : stored ∈ keys ↔ stored ∈ set.entries.keys ∧ stored.ip = ip := by
    rw [← hkeys, order.mem_enum, Finset.mem_filter]
  have hnodup : (keys.map id).Nodup := by
    rw [map_id, ← hkeys]
    exact order.nodup_enum _
  -- The dots of a valid blocklist are admissible, so each tombstone of the unban is merged.
  have hstep : ∀ stored ∈ keys, ∀ (base : AworsetBlocklist) key,
      (base.mergeUnblockDelta wallMs { ip := ip, dot := ⟨stored.nodeId, stored.incarnation,
        ((set.entries.lookup stored).map Prod.fst).getD 0⟩ }).2.register key =
          if key = id stored then
            (base.register key).remove (((set.entries.lookup stored).map Prod.fst).getD 0)
          else base.register key := by
    intro stored hstored base key
    obtain ⟨hentry, rfl⟩ := (hmem stored).mp hstored
    obtain ⟨⟨counter, payload⟩, hentry⟩ := mem_keys_iff_lookup.mp hentry
    obtain ⟨hvalidKey, _⟩ := (hvalid.admits stored).live hentry
    have hadmissible (counter : Nat) :
        (⟨stored.nodeId, stored.incarnation, counter⟩ : ClusterDot).admissible := by
      simp [ClusterDot.admissible, hvalidKey.nodeId, hvalidKey.incarnation]
    rw [register_mergeUnblockDelta, hadmissible]
    simp only [true_and]
    rfl
  by_cases hkey : key ∈ keys
  · obtain ⟨hentry, hip⟩ := (hmem key).mp hkey
    obtain ⟨entry, hentry⟩ := mem_keys_iff_lookup.mp hentry
    have hlive : (set.register key).live = some entry := hentry
    have hacts := foldl_acts_of_mem register (fun stored register =>
      register.remove (((set.entries.lookup stored).map Prod.fst).getD 0)) hstep hnodup hkey set
    rw [if_pos hip, hlive]
    refine hacts.trans ?_
    simp [hentry]
  · have habsent : ∀ stored ∈ keys, id stored ≠ key := by
      rintro stored hstored rfl
      exact hkey hstored
    have hacts := foldl_acts_of_absent register (fun stored register =>
      register.remove (((set.entries.lookup stored).map Prod.fst).getD 0)) hstep habsent set
    refine hacts.trans ?_
    split
    next hip =>
      have hnone : (set.register key).live = none := by
        rw [hmem] at hkey
        exact not_mem_keys_iff_lookup.mp fun hentry => hkey ⟨hentry, hip⟩
      rw [hnone]
      rfl
    · rfl

end Valid

end AworsetBlocklist

/-! ## The exported snapshot -/

namespace AworsetSnapshot

variable {Delta : Type} {key : Delta → BlockKey} {invalid : Delta → Bool}
  {invalidError duplicateError : String} {seen : Finset BlockKey} {deltas : List Delta}

lemma validateDeltas_ok (hvalid : ∀ delta ∈ deltas, invalid delta = false)
    (hnodup : (deltas.map key).Nodup) (hunseen : ∀ delta ∈ deltas, key delta ∉ seen) :
    validateDeltas key invalid invalidError duplicateError seen deltas = .ok () := by
  induction deltas generalizing seen with
  | nil => rfl
  | cons delta deltas ih =>
    rw [map_cons, nodup_cons] at hnodup
    rw [validateDeltas, hvalid delta mem_cons_self, if_neg (hunseen delta mem_cons_self)]
    refine ih (fun other hmem => hvalid other (mem_cons_of_mem _ hmem)) hnodup.2 ?_
    intro other hmem hseen
    rcases Finset.mem_insert.mp hseen with heq | hold
    · exact hnodup.1 (heq ▸ mem_map.mpr ⟨other, hmem, rfl⟩)
    · exact hunseen other (mem_cons_of_mem _ hmem) hold

lemma of_validateDeltas_ok
    (hok : validateDeltas key invalid invalidError duplicateError seen deltas = .ok ()) :
    (∀ delta ∈ deltas, invalid delta = false ∧ key delta ∉ seen) ∧ (deltas.map key).Nodup := by
  induction deltas generalizing seen with
  | nil => exact ⟨nofun, nodup_nil⟩
  | cons delta deltas ih =>
    unfold validateDeltas at hok
    split at hok
    · cases hok
    next hvalid =>
      split at hok
      · cases hok
      next hunseen =>
        obtain ⟨hrest, hnodup⟩ := ih hok
        refine ⟨?_, ?_⟩
        · intro other hmem
          rcases mem_cons.mp hmem with rfl | hlater
          · exact ⟨Bool.not_eq_true _ ▸ hvalid, hunseen⟩
          · obtain ⟨hother, hnew⟩ := hrest other hlater
            exact ⟨hother, fun hold => hnew (Finset.mem_insert_of_mem hold)⟩
        · rw [map_cons, nodup_cons]
          refine ⟨fun hmem => ?_, hnodup⟩
          obtain ⟨other, hother, heq⟩ := mem_map.mp hmem
          exact (hrest other hother).2 (heq ▸ Finset.mem_insert_self _ _)

lemma invalidDot_eq_false {ip : IpAddr} {dot : ClusterDot}
    (hkey : BlockKey.Valid ⟨ip, dot.nodeId, dot.incarnation⟩) (hcounter : dot.counter ≠ 0) :
    invalidDot ip dot = false := by
  simp [invalidDot, hkey.specified, hkey.nodeId, hkey.incarnation, hcounter]

end AworsetSnapshot

namespace AworsetBlocklist

variable {V Delta : Type} {table : Table BlockKey V} {build : BlockKey → V → Delta}

lemma map_key_export (order : IterOrder BlockKey) {key : Delta → BlockKey}
    (hkey : ∀ stored value, key (build stored value) = stored) :
    (((order.enum table.keys).filterMap fun stored =>
      (table.lookup stored).map (build stored)).map key) = order.enum table.keys := by
  have hpresent : ∀ stored ∈ order.enum table.keys,
      ((table.lookup stored).map (build stored)).map key = some stored := by
    intro stored hstored
    obtain ⟨value, hvalue⟩ := mem_keys_iff_lookup.mp (order.mem_enum.mp hstored)
    rw [hvalue, Option.map_some, Option.map_some, hkey]
  rw [map_filterMap, filterMap_congr hpresent, filterMap_some]

lemma mem_export {order : IterOrder BlockKey} {delta : Delta} :
    (delta ∈ (order.enum table.keys).filterMap fun stored =>
      (table.lookup stored).map (build stored)) ↔
      ∃ stored value, table.lookup stored = some value ∧ build stored value = delta := by
  simp only [mem_filterMap, Option.map_eq_some_iff, order.mem_enum]
  constructor
  · rintro ⟨stored, _, value, hvalue, hbuild⟩
    exact ⟨stored, value, hvalue, hbuild⟩
  · rintro ⟨stored, value, hvalue, hbuild⟩
    exact ⟨stored, mem_keys_iff_lookup.mpr ⟨value, hvalue⟩, value, hvalue, hbuild⟩

lemma Valid.validate_export {set : AworsetBlocklist} (hvalid : set.Valid)
    (order : IterOrder BlockKey) : (set.exportSnapshot order).validate = .ok () := by
  have hblocks : ∀ delta ∈ (set.exportSnapshot order).blocks, invalidBlock delta = false := by
    intro delta hdelta
    obtain ⟨key, ⟨counter, payload⟩, hentry, rfl⟩ := mem_export.mp hdelta
    obtain ⟨hkey, hcounter, hpayload⟩ := (hvalid.admits key).live hentry
    rw [invalidBlock, blockAt, invalidDot_eq_false hkey hcounter, Bool.false_or]
    rcases hpayload with hnever | hordered
    · simp [hnever]
    · simp [Nat.not_lt.mpr hordered]
  have hunblocks : ∀ delta ∈ (set.exportSnapshot order).unblocks,
      invalidDot delta.ip delta.dot = false := by
    intro delta hdelta
    obtain ⟨key, tombstone, htombstone, rfl⟩ := mem_export.mp hdelta
    have hremoved : (set.register key).removed = some tombstone.counter := by
      rw [register, htombstone, Option.map_some]
    obtain ⟨hkey, hcounter⟩ := (hvalid.admits key).removed hremoved
    exact invalidDot_eq_false hkey hcounter
  have hblockKeys : ((set.exportSnapshot order).blocks.map ClusterBlockDelta.key).Nodup := by
    rw [exportSnapshot, map_key_export order fun _ _ => rfl]
    exact order.nodup_enum _
  have hunblockKeys : ((set.exportSnapshot order).unblocks.map ClusterUnblockDelta.key).Nodup := by
    rw [exportSnapshot, map_key_export order fun _ _ => rfl]
    exact order.nodup_enum _
  rw [validate, validateDeltas_ok hblocks hblockKeys fun _ _ => Finset.notMem_empty _]
  exact validateDeltas_ok hunblocks hunblockKeys fun _ _ => Finset.notMem_empty _

end AworsetBlocklist

end RamShield

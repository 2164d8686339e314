import RamShield.Ramwal.Content

/-! # An append that waits for itself

The guard of `append` lives to the end of the call. After a rotation the call takes
the mutex again, for the injected fault of the directory fsync, so an append that
fills its segment never comes back on a mutex that is not re-entrant. No other
append does.
-/

namespace RamShield.Ramwal

open Foundation

namespace Live

/-- A write of so many bytes stays in the buffer, or meets no fault. -/
def Writes (capacity pending length : Nat) (fault : Option Nat) : Prop :=
  fault = none ∨ length ≤ capacity - pending ∧ length < capacity

/-- How many bytes the buffer holds after a write. -/
def heldAfter (capacity pending length : Nat) : Nat :=
  if length ≤ capacity - pending ∧ length < capacity then pending + length
  else if capacity ≤ length then 0 else length

lemma writeAll_cases (capacity : Nat) (fault : Option Nat) (data : List UInt8) (live : Live) :
    ¬ Writes capacity live.inner.pending.length data.length fault ∧
        (∃ failed, live.writeAll capacity fault data = (false, failed)) ∨
      Writes capacity live.inner.pending.length data.length fault ∧ ∃ pending disk,
        live.writeAll capacity fault data =
            (true, ⟨{ live.inner with pending := pending }, disk⟩) ∧
          pending.length = heldAfter capacity live.inner.pending.length data.length := by
  unfold Writes heldAfter writeAll
  dsimp only
  split
  next hfits => exact .inr ⟨.inr hfits, _, _, rfl, List.length_append⟩
  next hlong =>
    cases fault with
    | some landed => exact .inl ⟨by simp [hlong], _, rfl⟩
    | none =>
      refine .inr ⟨.inl rfl, _, _, rfl, ?_⟩
      split <;> rfl

lemma writeEntry_cases (format : Format) (capacity : Nat) (io : WalIo) (entry : Entry)
    (live : Live) :
    let written := Writes capacity live.inner.pending.length headerSize io.headerFault ∧
      Writes capacity (heldAfter capacity live.inner.pending.length headerSize)
        (entry.stored format).length io.payloadFault
    ¬ written ∧ (∃ failed, live.writeEntry format capacity io entry = (false, failed)) ∨
      written ∧ ∃ pending disk, live.writeEntry format capacity io entry =
        (true, ⟨{ live.inner with
          pending := pending, bytes := live.inner.bytes + entry.size format,
          writtenLsn := entry.lsn }, disk⟩) := by
  intro written
  have hheader := live.writeAll_cases capacity io.headerFault (entry.header format).encode
  rw [RecordHeader.length_encode] at hheader
  unfold writeEntry
  rcases hheader with ⟨hfault, failed, hfailed⟩ | ⟨hwrites, pending, disk, hwritten, hheld⟩
  · rw [hfailed]
    exact .inl ⟨fun hboth => hfault hboth.1, _, rfl⟩
  · rw [hwritten]
    dsimp only
    have hpayload := writeAll_cases capacity io.payloadFault (entry.stored format)
      ⟨{ live.inner with pending := pending }, disk⟩
    dsimp only at hpayload
    rw [hheld] at hpayload
    rcases hpayload with ⟨hfault, failed, hfailed⟩ | ⟨hlast, _, _, hwritten, -⟩
    · rw [hfailed]
      exact .inl ⟨fun hboth => hfault hboth.2, _, rfl⟩
    · rw [hwritten]
      exact .inr ⟨⟨hwrites, hlast⟩, _, _, rfl⟩

lemma barrier_cases (durability : Durability) (nowNs : Nat) (fault : Option SyncFault)
    (live : Live) :
    let kept := fault = none ∨ barrierDue durability live.inner.nextSyncDueNs nowNs = false
    ¬ kept ∧ (∃ failed, live.barrier durability nowNs fault = (none, failed)) ∨
      kept ∧ ∃ issued next, live.barrier durability nowNs fault = (some issued, next) ∧
        next.inner.bytes = live.inner.bytes := by
  intro kept
  cases hdue : barrierDue durability live.inner.nextSyncDueNs nowNs with
  | false => exact .inr ⟨.inr hdue, _, _, barrier_of_not_due hdue fault, rfl⟩
  | true =>
    cases fault with
    | none =>
      refine .inr ⟨.inl rfl, ?_⟩
      cases durability with
      | syncEach => exact ⟨_, _, rfl, rfl⟩
      | groupCommit =>
        rw [barrier, if_pos (of_decide_eq_true hdue)]
        exact ⟨_, _, rfl, rfl⟩
      | _ => cases hdue
    | some fault =>
      refine .inl ⟨by simp [kept, hdue], ?_⟩
      cases durability with
      | syncEach => cases fault <;> exact ⟨_, rfl⟩
      | groupCommit =>
        rw [barrier, if_pos (of_decide_eq_true hdue)]
        cases fault <;> exact ⟨_, rfl⟩
      | _ => cases hdue

lemma rotate_iff {live : Live} {io : WalIo} :
    (live.rotate io).1 = .ok true ↔ io.rotateFault = none ∧ io.creates = true := by
  rw [rotate]
  rcases io.rotateFault with _ | (landed | _) <;> simp only [syncInner]
  · cases io.creates <;> simp
  · simp
  · simp

end Live

namespace Wal

/-- An append that is let in, meets no fault, and fills its segment. -/
structure Fills (format : Format) (wal : Wal) (io : WalIo) (payload : List UInt8) : Prop where
  accepted : payload.length ≤ maxRecordSize
  healthy : wal.inner.poisoned = false
  lsn : wal.lsnCounter ≠ u64Max
  uninjected : wal.inner.failNextWrite = false ∧ wal.inner.failNextDiskfull = false
  written : Live.Writes wal.config.bufferCapacity wal.inner.pending.length headerSize
      io.headerFault ∧
    Live.Writes wal.config.bufferCapacity
      (Live.heldAfter wal.config.bufferCapacity wal.inner.pending.length headerSize)
      ((wal.entryOf payload).stored format).length io.payloadFault
  barrier : io.barrierFault = none ∨
    Live.barrierDue wal.config.durability wal.inner.nextSyncDueNs io.nowNs = false
  full : wal.config.segMaxBytes ≤ wal.inner.bytes + (wal.entryOf payload).size format
  rotates : io.rotateFault = none ∧ io.creates = true

variable (format : Format) (wal : Wal) (disk : Disk) (io : WalIo) (payload : List UInt8)

lemma appendEntry_rotates_iff (haccepted : payload.length ≤ maxRecordSize)
    (hhealthy : wal.inner.poisoned = false) (hlsn : wal.lsnCounter ≠ u64Max) :
    (Live.appendEntry format wal.config io (wal.entryOf payload) ⟨wal.inner, disk⟩).1 = .ok true ↔
      Fills format wal io payload := by
  -- The faults are met in the order of the code, and each is excluded by its field of `Fills`.
  unfold Live.appendEntry
  split
  next hinjected =>
    refine iff_of_false nofun fun hfills => ?_
    exact Bool.false_ne_true (hfills.uninjected.1.symm.trans hinjected)
  next hwrite =>
  split
  next hinjected =>
    refine iff_of_false nofun fun hfills => ?_
    exact Bool.false_ne_true (hfills.uninjected.2.symm.trans hinjected)
  next hdiskfull =>
  have hentry := Live.writeEntry_cases format wal.config.bufferCapacity io (wal.entryOf payload)
    ⟨wal.inner, disk⟩
  rcases hentry with ⟨hfault, failed, hfailed⟩ | ⟨hwritten, pending, landed, heq⟩
  · rw [hfailed]
    exact iff_of_false nofun fun hfills => hfault hfills.written
  rw [heq]
  dsimp only
  have hbarrier := Live.barrier_cases wal.config.durability io.nowNs io.barrierFault
    ⟨{ wal.inner with
      pending := pending, bytes := wal.inner.bytes + (wal.entryOf payload).size format,
      writtenLsn := (wal.entryOf payload).lsn }, landed⟩
  rcases hbarrier with ⟨hfault, failed, hfailed⟩ | ⟨hkept, issued, next, heq, hbytes⟩
  · rw [hfailed]
    exact iff_of_false nofun fun hfills => hfault hfills.barrier
  rw [heq]
  dsimp only
  have hcounted : (if issued then next.advanceDurable else next).inner.bytes =
      wal.inner.bytes + (wal.entryOf payload).size format := by
    cases issued <;> exact hbytes
  rw [hcounted]
  split
  next hfull =>
    rw [Live.rotate_iff]
    exact ⟨fun hrotates => ⟨haccepted, hhealthy, hlsn, ⟨Bool.eq_false_iff.mpr hwrite,
      Bool.eq_false_iff.mpr hdiskfull⟩, hwritten, hkept, hfull, hrotates⟩, Fills.rotates⟩
  next hroom => exact iff_of_false nofun fun hfills => hroom hfills.full

/-- On a mutex that is not re-entrant an append comes back unless it fills its segment. -/
theorem append_returns_iff :
    (append false format wal disk io payload).isSome = true ↔ ¬ Fills format wal io payload := by
  rw [append]
  split
  next hlong => exact iff_of_true rfl fun hfills => Nat.not_lt.mpr hfills.accepted hlong
  next hshort =>
    split
    next hpoisoned =>
      exact iff_of_true rfl fun hfills => Bool.false_ne_true (hfills.healthy.symm.trans hpoisoned)
    next hhealthy =>
      split
      next hexhausted => exact iff_of_true rfl fun hfills => hfills.lsn hexhausted
      next hlsn =>
        rw [← appendEntry_rotates_iff format wal disk io payload (Nat.not_lt.mp hshort)
          (Bool.eq_false_iff.mpr hhealthy) hlsn]
        generalize Live.appendEntry format wal.config io _ _ = outcome
        obtain ⟨error | rotated, live⟩ := outcome
        · exact iff_of_true rfl (by simp)
        · cases rotated with
          | false => exact iff_of_true rfl (by simp)
          | true => exact iff_of_false Bool.false_ne_true (not_not.mpr rfl)

def tightSegments : WalConfig where
  durability := .explicit
  compress := false
  segMaxBytes := headerSize
  retentionMaxBytes := 0
  bufferCapacity := 65536

lemma drop_sized (raw : List UInt8) :
    (Except.ok ((leBytes 4 raw.length ++ raw).drop 4) : Except String (List UInt8)) = .ok raw := by
  rw [List.drop_left' (length_leBytes 4 raw.length)]

lemma length_sized_lt (raw : List UInt8) (hsize : raw.length ≤ maxRecordSize) :
    (leBytes 4 raw.length ++ raw).length < 2 ^ 32 := by
  rw [List.length_append, length_leBytes]
  rw [maxRecordSize] at hsize
  omega

/-- A format without compression: the block is the payload. -/
def plainFormat : Format where
  crc _ := 0
  compressBlock raw := raw
  decompressSizePrepended data := .ok (data.drop 4)
  inverts := drop_sized
  bounded := length_sized_lt

/-- The first append to a fresh log with such segments never comes back. -/
theorem append_waits_for_itself :
    ∃ wal disk, openDir plainFormat tightSegments (.healthy 0) ⟨[], none⟩ = (.ok wal, disk) ∧
      append false plainFormat wal disk (.healthy 0) [] = none := by
  refine ⟨_, _, rfl, ?_⟩
  decide +kernel

end Wal

end RamShield.Ramwal

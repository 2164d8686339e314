import RamShield.Ramwal.Wal

/-! # What the segment files hold

Without I/O faults an append adds the bytes of one entry behind those of the active
segment, in the file or in the buffer of the writer, and a rotation closes the file
with all of them fsynced. The segment files are thus the bytes of a list of entries,
cut into groups.
-/

namespace RamShield.Ramwal

open Foundation List

/-! ## The active file -/

/-- The directory ends with the file of the active segment. -/
structure Disk.Ends (disk : Disk) (closed : List (Nat × SegFile)) (segment : Nat)
    (file : SegFile) : Prop where
  segs : disk.segs = closed ++ [(segment, file)]
  below : ∀ seg ∈ closed, seg.1 < segment

lemma lookup_append_of_below {closed rest : List (Nat × SegFile)} {segment : Nat}
    (hbelow : ∀ seg ∈ closed, seg.1 < segment) :
    (closed ++ rest).lookup segment = rest.lookup segment := by
  induction closed with
  | nil => rfl
  | cons seg closed ih =>
    obtain ⟨hseg, hclosed⟩ := forall_mem_cons.mp hbelow
    obtain ⟨index, file⟩ := seg
    rw [cons_append, lookup_cons, ih hclosed]
    have hne : (segment == index) = false := beq_eq_false_iff_ne.mpr (Nat.ne_of_gt hseg)
    rw [hne]

lemma putSeg_append_of_below {closed rest : List (Nat × SegFile)} {segment : Nat}
    (hbelow : ∀ seg ∈ closed, seg.1 < segment) (file : SegFile) :
    putSeg segment file (closed ++ rest) = closed ++ putSeg segment file rest := by
  induction closed with
  | nil => rfl
  | cons seg closed ih =>
    obtain ⟨hseg, hclosed⟩ := forall_mem_cons.mp hbelow
    rw [cons_append, putSeg, if_neg (Nat.not_lt.mpr hseg.le), if_neg (Nat.ne_of_gt hseg),
      ih hclosed, cons_append]

namespace Disk.Ends

variable {disk : Disk} {closed : List (Nat × SegFile)} {segment : Nat} {file : SegFile}

section

variable (hends : disk.Ends closed segment file)

include hends

lemma file_eq : disk.file segment = file := by
  rw [Disk.file, hends.segs, lookup_append_of_below hends.below, lookup_cons_self]
  rfl

lemma put (next : SegFile) : (disk.put segment next).Ends closed segment next where
  segs := by
    rw [Disk.put, hends.segs, putSeg_append_of_below hends.below, putSeg,
      if_neg (Nat.lt_irrefl _), if_pos rfl]
  below := hends.below

lemma write (data : List UInt8) :
    (disk.write segment data).Ends closed segment { file with bytes := file.bytes ++ data } := by
  rw [Disk.write, hends.file_eq]
  exact hends.put _

lemma syncData :
    (disk.syncData segment).Ends closed segment { file with synced := file.bytes.length } := by
  rw [Disk.syncData, hends.file_eq]
  exact hends.put _

lemma create :
    (disk.createTruncate (segment + 1)).Ends (closed ++ [(segment, file)]) (segment + 1)
      ⟨[], 0, false⟩ := by
  have hbelow : ∀ seg ∈ closed ++ [(segment, file)], seg.1 < segment + 1 := by
    intro seg hmem
    rcases mem_append.mp hmem with hclosed | hactive
    · exact Nat.lt_succ_of_lt (hends.below seg hclosed)
    · rw [mem_singleton.mp hactive]
      exact Nat.lt_succ_self segment
  have habsent : disk.file (segment + 1) = .absent := by
    rw [Disk.file, hends.segs, ← append_nil (closed ++ _), lookup_append_of_below hbelow]
    rfl
  refine ⟨?_, hbelow⟩
  rw [Disk.createTruncate, habsent, Disk.put, hends.segs,
    ← append_nil (closed ++ [(segment, file)]), putSeg_append_of_below hbelow, append_nil]
  rfl

/-- An fsync of the directory makes the entries durable. -/
lemma syncDir :
    disk.syncDir.Ends (syncEntries closed) segment { file with entrySynced := true } where
  segs := by
    rw [Disk.syncDir, hends.segs, syncEntries, map_append]
    rfl
  below := by
    intro seg hmem
    obtain ⟨old, hold, rfl⟩ := mem_map.mp hmem
    exact hends.below old hold

end

end Disk.Ends

/-! ## I/O without faults -/

namespace Live

/-- The state under the mutex, with the active file in view. -/
structure At (live : Live) (closed : List (Nat × SegFile)) (file : SegFile)
    (manifest : Option (Option Nat)) : Prop where
  ends : live.disk.Ends closed live.inner.seg file
  manifest : live.disk.manifest = manifest

variable {live : Live} {closed : List (Nat × SegFile)} {file : SegFile}
  {manifest : Option (Option Nat)}

lemma writeAll_healthy (hat : live.At closed file manifest) (capacity : Nat) (data : List UInt8) :
    ∃ pending landed disk, live.writeAll capacity none data =
        (true, ⟨{ live.inner with pending := pending }, disk⟩) ∧
      At ⟨{ live.inner with pending := pending }, disk⟩ closed
        { file with bytes := file.bytes ++ landed } manifest ∧
      landed ++ pending = live.inner.pending ++ data := by
  rw [writeAll]
  dsimp only
  split
  · refine ⟨_, [], _, rfl, ⟨?_, hat.manifest⟩, rfl⟩
    rw [append_nil]
    exact hat.ends
  · refine ⟨_, _, _, rfl, ⟨hat.ends.write _, hat.manifest⟩, ?_⟩
    split
    · rw [append_nil]
    · rw [append_nil]

lemma writeEntry_healthy (hat : live.At closed file manifest) (format : Format)
    (capacity nowNs : Nat) (entry : Entry) :
    ∃ pending landed disk, live.writeEntry format capacity (.healthy nowNs) entry =
        (true, ⟨{ live.inner with
          pending := pending, bytes := live.inner.bytes + entry.size format,
          writtenLsn := entry.lsn }, disk⟩) ∧
      At ⟨{ live.inner with
          pending := pending, bytes := live.inner.bytes + entry.size format,
          writtenLsn := entry.lsn }, disk⟩ closed
        { file with bytes := file.bytes ++ landed } manifest ∧
      landed ++ pending = live.inner.pending ++ entry.encode format := by
  obtain ⟨first, landed, disk, hheader, hfirst, hbytes⟩ :=
    writeAll_healthy hat capacity (entry.header format).encode
  obtain ⟨second, landed', disk', hpayload, hsecond, hbytes'⟩ :=
    writeAll_healthy hfirst capacity (entry.stored format)
  refine ⟨second, landed ++ landed', disk', ?_, ⟨?_, hsecond.manifest⟩, ?_⟩
  · rw [writeEntry, show (WalIo.healthy nowNs).headerFault = none from rfl, hheader]
    dsimp only
    rw [show (WalIo.healthy nowNs).payloadFault = none from rfl, hpayload]
  · have hends := hsecond.ends
    rw [append_assoc] at hends
    exact hends
  · rw [append_assoc, hbytes']
    dsimp only
    rw [← append_assoc, hbytes, append_assoc, Entry.encode]

lemma syncInner_healthy (hat : live.At closed file manifest) :
    ∃ disk, live.syncInner none = (true, ⟨{ live.inner with pending := [] }, disk⟩) ∧
      At ⟨{ live.inner with pending := [] }, disk⟩ closed
        { file with
          bytes := file.bytes ++ live.inner.pending
          synced := (file.bytes ++ live.inner.pending).length } manifest :=
  ⟨_, rfl, (hat.ends.write _).syncData, hat.manifest⟩

def barrierDue (durability : Durability) (nextSyncDueNs nowNs : Nat) : Bool :=
  match durability with
  | .buffered => false
  | .explicit => false
  | .syncEach => true
  | .groupCommit => decide (nextSyncDueNs ≤ nowNs)

variable {durability : Durability} {nowNs : Nat}

lemma barrier_of_not_due (hdue : barrierDue durability live.inner.nextSyncDueNs nowNs = false)
    (fault : Option SyncFault) : live.barrier durability nowNs fault = (some false, live) := by
  cases durability with
  | buffered => rfl
  | explicit => rfl
  | syncEach => cases hdue
  | groupCommit => rw [barrier, if_neg (of_decide_eq_false hdue)]

lemma barrier_of_due (hdue : barrierDue durability live.inner.nextSyncDueNs nowNs)
    (hat : live.At closed file manifest) :
    ∃ due disk, live.barrier durability nowNs none =
        (some true, ⟨{ live.inner with pending := [], nextSyncDueNs := due }, disk⟩) ∧
      At ⟨{ live.inner with pending := [], nextSyncDueNs := due }, disk⟩ closed
        { file with
          bytes := file.bytes ++ live.inner.pending
          synced := (file.bytes ++ live.inner.pending).length } manifest := by
  obtain ⟨disk, hsync, hsynced⟩ := syncInner_healthy hat
  cases durability with
  | buffered => cases hdue
  | explicit => cases hdue
  | syncEach =>
    refine ⟨live.inner.nextSyncDueNs, disk, ?_, hsynced.ends, hsynced.manifest⟩
    rw [barrier, hsync]
  | groupCommit =>
    refine ⟨nowNs + groupCommitWindowNs, disk, ?_, hsynced.ends, hsynced.manifest⟩
    rw [barrier, if_pos (of_decide_eq_true hdue), hsync]

lemma rotate_healthy (hat : live.At closed file manifest) (nowNs : Nat) :
    ∃ disk, live.rotate (.healthy nowNs) =
        (.ok true, ⟨{ live.inner with
          pending := [], bytes := 0, seg := live.inner.seg + 1,
          durableLsn := live.inner.writtenLsn,
          closedSegments :=
            closeSegment live.inner.seg live.inner.writtenLsn live.inner.closedSegments },
          disk⟩) ∧
      disk.Ends (closed ++ [(live.inner.seg, { file with
          bytes := file.bytes ++ live.inner.pending
          synced := (file.bytes ++ live.inner.pending).length })])
        (live.inner.seg + 1) ⟨[], 0, false⟩ ∧
      disk.manifest = manifest := by
  obtain ⟨disk, hsync, hsynced⟩ := syncInner_healthy hat
  refine ⟨disk.createTruncate (live.inner.seg + 1), ?_, hsynced.ends.create, hsynced.manifest⟩
  rw [rotate, show (WalIo.healthy nowNs).rotateFault = none from rfl, hsync]
  rfl

end Live

/-! ## An append -/

/-- The instance takes appends. -/
structure Inner.Ready (inner : Inner) : Prop where
  poisoned : inner.poisoned = false
  failNextWrite : inner.failNextWrite = false
  failNextDiskfull : inner.failNextDiskfull = false
  failNextDirFsync : inner.failNextDirFsync = false

namespace Wal

def retained (inner : Inner) (disk : Disk) (io : WalIo) (maxBytes ckptLsn : Nat) : Disk :=
  if 0 < maxBytes ∧ ckptLsn ≠ 0 then (retain inner disk io maxBytes ckptLsn).2 else disk

inductive Grows (format : Format) (wal : Wal) (disk : Disk) (nowNs : Nat)
    (closed : List (Nat × SegFile)) (file : SegFile) (entry : Entry) : Wal → Disk → Prop
  | buffered (pending landed : List UInt8) (next : Disk)
      (hdue : Live.barrierDue wal.config.durability wal.inner.nextSyncDueNs nowNs = false)
      (hroom : wal.inner.bytes + entry.size format < wal.config.segMaxBytes)
      (hbytes : landed ++ pending = wal.inner.pending ++ entry.encode format)
      (hends : next.Ends closed wal.inner.seg { file with bytes := file.bytes ++ landed })
      (hmanifest : next.manifest = disk.manifest) :
      Grows format wal disk nowNs closed file entry
        { wal with
          lsnCounter := wal.lsnCounter + 1
          inner := { wal.inner with
            pending := pending, bytes := wal.inner.bytes + entry.size format,
            writtenLsn := entry.lsn } } next
  | synced (due : Nat) (next : Disk)
      (hdue : Live.barrierDue wal.config.durability wal.inner.nextSyncDueNs nowNs = true)
      (hroom : wal.inner.bytes + entry.size format < wal.config.segMaxBytes)
      (hends : next.Ends closed wal.inner.seg { file with
        bytes := file.bytes ++ wal.inner.pending ++ entry.encode format
        synced := (file.bytes ++ wal.inner.pending ++ entry.encode format).length })
      (hmanifest : next.manifest = disk.manifest) :
      Grows format wal disk nowNs closed file entry
        { wal with
          lsnCounter := wal.lsnCounter + 1
          inner := { wal.inner with
            pending := [], bytes := wal.inner.bytes + entry.size format,
            writtenLsn := entry.lsn, durableLsn := entry.lsn, nextSyncDueNs := due } } next
  | rotated (due : Nat) (next : Disk) (inner : Inner)
      (hfull : wal.config.segMaxBytes ≤ wal.inner.bytes + entry.size format)
      (hinner : inner = { wal.inner with
        pending := [], bytes := 0, seg := wal.inner.seg + 1, writtenLsn := entry.lsn,
        durableLsn := entry.lsn, nextSyncDueNs := due,
        closedSegments := Live.closeSegment wal.inner.seg entry.lsn wal.inner.closedSegments })
      (hends : next.Ends (syncEntries (closed ++ [(wal.inner.seg, { file with
          bytes := file.bytes ++ wal.inner.pending ++ entry.encode format
          synced := (file.bytes ++ wal.inner.pending ++ entry.encode format).length })]))
        (wal.inner.seg + 1) ⟨[], 0, true⟩)
      (hmanifest : next.manifest = disk.manifest) :
      Grows format wal disk nowNs closed file entry
        { wal with lsnCounter := wal.lsnCounter + 1, inner := inner }
        (retained inner next (.healthy nowNs) wal.config.retentionMaxBytes wal.ckptLsn)

/-- The directory is fsynced, then retention runs. -/
lemma finishRotation_healthy {live : Live} (hready : live.inner.Ready)
    (maxBytes ckptLsn nowNs lsn : Nat) :
    finishRotation true maxBytes ckptLsn (.healthy nowNs) lsn live =
      some (.ok lsn, ⟨live.inner,
        retained live.inner live.disk.syncDir (.healthy nowNs) maxBytes ckptLsn⟩) := by
  rw [finishRotation, retained, hready.failNextDirFsync]
  simp only [locks, Bool.true_or, if_true, Bool.false_eq_true, if_false,
    show (WalIo.healthy nowNs).syncsDir = true from rfl, runRetention]
  by_cases hmax : 0 < maxBytes
  · by_cases hckpt : ckptLsn = 0
    · simp [hmax, hckpt]
    · simp [hmax, hckpt]
  · simp [hmax]

lemma append_healthy {format : Format} {wal : Wal} {disk : Disk} {nowNs : Nat}
    {payload : List UInt8} {closed : List (Nat × SegFile)} {file : SegFile}
    (hready : wal.inner.Ready) (hends : disk.Ends closed wal.inner.seg file)
    (hpayload : payload.length ≤ maxRecordSize) (hlsn : wal.lsnCounter ≠ u64Max) :
    ∃ next nextDisk, append true format wal disk (.healthy nowNs) payload =
        some (.ok wal.lsnCounter, next, nextDisk) ∧
      Grows format wal disk nowNs closed file (wal.entryOf payload) next nextDisk := by
  have hat : Live.At ⟨wal.inner, disk⟩ closed file disk.manifest := ⟨hends, rfl⟩
  generalize hentry : wal.entryOf payload = entry
  obtain ⟨pending, landed, written, hwrite, hwritten, hbytes⟩ :=
    Live.writeEntry_healthy hat format wal.config.bufferCapacity nowNs entry
  rw [append, if_neg (Nat.not_lt.mpr hpayload), hready.poisoned, if_neg Bool.false_ne_true,
    if_neg hlsn]
  dsimp only
  rw [hentry, Live.appendEntry, hready.failNextWrite, hready.failNextDiskfull,
    if_neg Bool.false_ne_true, if_neg Bool.false_ne_true, hwrite]
  dsimp only
  have hall : file.bytes ++ landed ++ pending =
      file.bytes ++ wal.inner.pending ++ entry.encode format := by
    rw [append_assoc, hbytes, append_assoc]
  -- Whether the barrier is due and whether the segment is full: four ways through the code.
  cases hdue : Live.barrierDue wal.config.durability wal.inner.nextSyncDueNs nowNs with
  | false =>
    rw [Live.barrier_of_not_due hdue]
    dsimp only
    by_cases hfull : wal.config.segMaxBytes ≤ wal.inner.bytes + entry.size format
    · obtain ⟨closing, hrotate, hclosed, hmanifest⟩ := Live.rotate_healthy hwritten nowNs
      dsimp only at hclosed
      rw [hall] at hclosed
      rw [if_neg Bool.false_ne_true, if_pos hfull, hrotate]
      dsimp only
      rw [finishRotation_healthy ⟨hready.poisoned, hready.failNextWrite,
        hready.failNextDiskfull, hready.failNextDirFsync⟩]
      exact ⟨_, _, rfl, .rotated wal.inner.nextSyncDueNs closing.syncDir _ hfull rfl
        hclosed.syncDir hmanifest⟩
    · rw [if_neg Bool.false_ne_true, if_neg hfull]
      exact ⟨_, _, rfl, .buffered pending landed written hdue (Nat.not_le.mp hfull) hbytes
        hwritten.ends hwritten.manifest⟩
  | true =>
    obtain ⟨due, flushed, hbarrier, hflushed⟩ := Live.barrier_of_due hdue hwritten
    dsimp only at hbarrier hflushed
    rw [hall] at hflushed
    rw [show (WalIo.healthy nowNs).barrierFault = none from rfl,
      show (WalIo.healthy nowNs).nowNs = nowNs from rfl, hbarrier]
    simp only [if_true, Live.advanceDurable]
    by_cases hfull : wal.config.segMaxBytes ≤ wal.inner.bytes + entry.size format
    · have hdurable : Live.At ⟨{ wal.inner with
          pending := [], bytes := wal.inner.bytes + entry.size format,
          writtenLsn := entry.lsn, durableLsn := entry.lsn, nextSyncDueNs := due }, flushed⟩
          closed _ disk.manifest := ⟨hflushed.ends, hflushed.manifest⟩
      obtain ⟨closing, hrotate, hclosed, hmanifest⟩ := Live.rotate_healthy hdurable nowNs
      dsimp only at hrotate hclosed
      rw [append_nil] at hclosed
      rw [if_pos hfull, hrotate]
      dsimp only
      rw [finishRotation_healthy ⟨hready.poisoned, hready.failNextWrite,
        hready.failNextDiskfull, hready.failNextDirFsync⟩]
      exact ⟨_, _, rfl, .rotated due closing.syncDir _ hfull rfl hclosed.syncDir hmanifest⟩
    · rw [if_neg hfull]
      exact ⟨_, _, rfl, .synced due flushed hdue (Nat.not_le.mp hfull) hflushed.ends
        hflushed.manifest⟩

end Wal

end RamShield.Ramwal

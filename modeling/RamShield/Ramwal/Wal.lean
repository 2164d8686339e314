import RamShield.Ramwal.Recovery

/-! # The RAMWAL writer

Opening, appending with rotation and retention, and the explicit barriers. The
state under the mutex and the directory are passed along together. An attempt to
take the mutex is written out with what the thread already holds: a call that never
comes back has no result.
-/

namespace RamShield.Ramwal

open Foundation

inductive Durability
  | buffered
  | explicit
  | syncEach
  | groupCommit
  deriving DecidableEq

/-- `Config`, without the directory. `compress` is `Compression::Lz4`. -/
structure WalConfig where
  durability : Durability
  compress : Bool
  segMaxBytes : Nat
  retentionMaxBytes : Nat
  bufferCapacity : Nat
  deriving DecidableEq

structure Inner where
  pending : List UInt8
  bytes : Nat
  seg : Nat
  nextSyncDueNs : Nat
  writtenLsn : Nat
  durableLsn : Nat
  closedSegments : List (Nat × Nat)
  poisoned : Bool
  failNextWrite : Bool
  failNextDiskfull : Bool
  failNextDirFsync : Bool
  deriving DecidableEq

structure Wal where
  inner : Inner
  config : WalConfig
  lsnCounter : Nat
  ckptLsn : Nat
  report : RecoveryReport
  deriving DecidableEq

def groupCommitWindowNs : Nat := 100000000

/-- A flush or an fsync that fails. A flush that fails has written some bytes. -/
inductive SyncFault
  | flush (landed : Nat)
  | data
  deriving DecidableEq

/-- The wall clock, the faults of the I/O, and whether a failure is a full disk. -/
structure WalIo where
  nowNs : Nat
  headerFault : Option Nat
  payloadFault : Option Nat
  barrierFault : Option SyncFault
  rotateFault : Option SyncFault
  creates : Bool
  syncsDir : Bool
  removes : Nat → Bool
  full : Bool

def WalIo.healthy (nowNs : Nat) : WalIo where
  nowNs := nowNs
  headerFault := none
  payloadFault := none
  barrierFault := none
  rotateFault := none
  creates := true
  syncsDir := true
  removes _ := true
  full := false

/-- `Error::from_io`. -/
def WalIo.error (io : WalIo) : Error := if io.full then .diskFull else .io

/-! ## Files -/

def putSeg (index : Nat) (file : SegFile) : List (Nat × SegFile) → List (Nat × SegFile)
  | [] => [(index, file)]
  | seg :: segs =>
    if index < seg.1 then (index, file) :: seg :: segs
    else if index = seg.1 then (index, file) :: segs
    else seg :: putSeg index file segs

def SegFile.absent : SegFile := ⟨[], 0, false⟩

namespace Disk

variable (disk : Disk) (index : Nat)

def file : SegFile := (disk.segs.lookup index).getD .absent

def put (file : SegFile) : Disk := { disk with segs := putSeg index file disk.segs }

/-- `write` to a segment. -/
def write (data : List UInt8) : Disk :=
  disk.put index { disk.file index with bytes := (disk.file index).bytes ++ data }

def syncData : Disk :=
  disk.put index { disk.file index with synced := (disk.file index).bytes.length }

def openSegment : Disk := disk.put index (disk.file index)

def createTruncate : Disk := disk.put index { disk.file index with bytes := [], synced := 0 }

end Disk

/-! ## Under the mutex -/

/-- What the mutex protects, and the directory. -/
structure Live where
  inner : Inner
  disk : Disk
  deriving DecidableEq

namespace Live

def poison (live : Live) : Live := { live with inner := { live.inner with poisoned := true } }

/-- `BufWriter::write_all`: what does not fit flushes the buffer, and what is as long as the buffer
goes past it. -/
def writeAll (capacity : Nat) (fault : Option Nat) (data : List UInt8) (live : Live) :
    Bool × Live :=
  let pending := live.inner.pending
  if data.length ≤ capacity - pending.length ∧ data.length < capacity then
    (true, { live with inner := { live.inner with pending := pending ++ data } })
  else
    let direct := if capacity ≤ data.length then data else []
    match fault with
    | some landed =>
      (false, ⟨{ live.inner with pending := pending.drop landed },
        live.disk.write live.inner.seg ((pending ++ direct).take landed)⟩)
    | none =>
      (true, ⟨{ live.inner with pending := if capacity ≤ data.length then [] else data },
        live.disk.write live.inner.seg (pending ++ direct)⟩)

def writeEntry (format : Format) (capacity : Nat) (io : WalIo) (entry : Entry) (live : Live) :
    Bool × Live :=
  match live.writeAll capacity io.headerFault (entry.header format).encode with
  | (false, live) => (false, live)
  | (true, live) =>
    match live.writeAll capacity io.payloadFault (entry.stored format) with
    | (false, live) => (false, live)
    | (true, live) =>
      (true, { live with inner := { live.inner with
        bytes := live.inner.bytes + entry.size format, writtenLsn := entry.lsn } })

def syncInner (fault : Option SyncFault) (live : Live) : Bool × Live :=
  let pending := live.inner.pending
  match fault with
  | some (.flush landed) =>
    (false, ⟨{ live.inner with pending := pending.drop landed },
      live.disk.write live.inner.seg (pending.take landed)⟩)
  | some .data =>
    (false, ⟨{ live.inner with pending := [] }, live.disk.write live.inner.seg pending⟩)
  | none =>
    (true, ⟨{ live.inner with pending := [] },
      (live.disk.write live.inner.seg pending).syncData live.inner.seg⟩)

/-- The barrier of an append: whether one was issued, or nothing if it failed. -/
def barrier (durability : Durability) (nowNs : Nat) (fault : Option SyncFault) (live : Live) :
    Option Bool × Live :=
  match durability with
  | .buffered => (some false, live)
  | .explicit => (some false, live)
  | .syncEach =>
    match live.syncInner fault with
    | (false, live) => (none, live)
    | (true, live) => (some true, live)
  | .groupCommit =>
    if live.inner.nextSyncDueNs ≤ nowNs then
      match live.syncInner fault with
      | (false, live) => (none, live)
      | (true, live) =>
        (some true, { live with
          inner := { live.inner with nextSyncDueNs := nowNs + groupCommitWindowNs } })
    else (some false, live)

def advanceDurable (live : Live) : Live :=
  { live with inner := { live.inner with durableLsn := live.inner.writtenLsn } }

def closeSegment (segment lastLsn : Nat) : List (Nat × Nat) → List (Nat × Nat)
  | [] => [(segment, lastLsn)]
  | entry :: entries =>
    if entry.1 = segment then (entry.1, max entry.2 lastLsn) :: entries
    else entry :: closeSegment segment lastLsn entries

def rotate (io : WalIo) (live : Live) : Except Error Bool × Live :=
  match live.syncInner io.rotateFault with
  | (false, live) => (.error io.error, live.poison)
  | (true, live) =>
    let live := live.advanceDurable
    let inner := { live.inner with
      closedSegments :=
        closeSegment live.inner.seg live.inner.writtenLsn live.inner.closedSegments }
    if io.creates then
      (.ok true, ⟨{ inner with pending := [], bytes := 0, seg := inner.seg + 1 },
        live.disk.createTruncate (inner.seg + 1)⟩)
    else (.error io.error, poison ⟨inner, live.disk⟩)

/-- The body of an append up to the rotation: whether the segment was rotated. -/
def appendEntry (format : Format) (config : WalConfig) (io : WalIo) (entry : Entry)
    (live : Live) : Except Error Bool × Live :=
  if live.inner.failNextWrite then
    (.error .io, poison { live with inner := { live.inner with failNextWrite := false } })
  else if live.inner.failNextDiskfull then
    (.error .diskFull, poison { live with inner := { live.inner with failNextDiskfull := false } })
  else
    match live.writeEntry format config.bufferCapacity io entry with
    | (false, live) => (.error io.error, live.poison)
    | (true, live) =>
      match live.barrier config.durability io.nowNs io.barrierFault with
      | (none, live) => (.error io.error, live.poison)
      | (some issued, live) =>
        let live := if issued then live.advanceDurable else live
        if config.segMaxBytes ≤ live.inner.bytes then live.rotate io
        else (.ok false, live)

end Live

/-! ## The mutex -/

def locks (reentrant held : Bool) : Bool := reentrant || !held

namespace Wal

def lastLsnOf (closed : List (Nat × Nat)) (index : Nat) : Option Nat :=
  ((closed.filter fun entry => entry.1 = index).map (·.2)).max?

/-- The loop of `run_retention_raw`: the files it leaves. -/
def removeLoop (io : WalIo) (active : Nat) (closed : List (Nat × Nat)) (maxBytes safeLsn : Nat) :
    Nat → List (Nat × SegFile) → Except Error Unit × List (Nat × SegFile)
  | _, [] => (.ok (), [])
  | excess, seg :: segs =>
    if 0 < maxBytes ∧ excess = 0 then (.ok (), seg :: segs)
    else
      let keep :=
        let (result, left) := removeLoop io active closed maxBytes safeLsn excess segs
        (result, seg :: left)
      if seg.1 = active then keep
      else
        match lastLsnOf closed seg.1 with
        | none => keep
        | some lastLsn =>
          if safeLsn ≤ lastLsn then keep
          else if io.removes seg.1 then
            removeLoop io active closed maxBytes safeLsn (excess - seg.2.bytes.length) segs
          else (.error io.error, seg :: segs)

variable (wal : Wal) (disk : Disk)

def totalBytes : Nat := (disk.segs.map fun seg => seg.2.bytes.length).sum

/-- `run_retention_raw`, without the mutex. -/
def retain (inner : Inner) (disk : Disk) (io : WalIo) (maxBytes safeLsn : Nat) :
    Except Error Unit × Disk :=
  if inner.poisoned then (.error .poisoned, disk)
  else if safeLsn = 0 then (.ok (), disk)
  else if 0 < maxBytes ∧ totalBytes disk ≤ maxBytes then (.ok (), disk)
  else
    let excess := if 0 < maxBytes then totalBytes disk - maxBytes else 0
    let (result, segs) :=
      removeLoop io inner.seg inner.closedSegments maxBytes safeLsn excess disk.segs
    (result, { disk with segs := segs })

/-- `run_retention` takes the mutex, for the poison flag and again for the metadata. -/
def runRetention (reentrant held : Bool) (maxBytes : Nat) (live : Live) (io : WalIo)
    (safeLsn : Nat) : Option (Except Error Unit × Disk) :=
  if safeLsn = 0 then some (.ok (), live.disk)
  else if locks reentrant held then some (retain live.inner live.disk io maxBytes safeLsn)
  else none

/-- The end of an append that rotated. The guard of the append is still held. -/
def finishRotation (reentrant : Bool) (maxBytes ckptLsn : Nat) (io : WalIo) (lsn : Nat)
    (live : Live) : Option (Except Error Nat × Live) :=
  if locks reentrant true then
    if live.inner.failNextDirFsync then
      some (.error .io, Live.poison
        { live with inner := { live.inner with failNextDirFsync := false } })
    else if io.syncsDir then
      let live := { live with disk := live.disk.syncDir }
      if 0 < maxBytes then
        -- The outcome of retention is ignored, but not that it does not come back.
        match runRetention reentrant true maxBytes live io ckptLsn with
        | none => none
        | some (_, disk) => some (.ok lsn, { live with disk := disk })
      else some (.ok lsn, live)
    else some (.error io.error, live.poison)
  else none

def entryOf (payload : List UInt8) : Entry := ⟨⟨wal.lsnCounter, payload⟩, wal.config.compress⟩

/-- `append`: nothing if the call never comes back. -/
def append (reentrant : Bool) (format : Format) (wal : Wal) (disk : Disk) (io : WalIo)
    (payload : List UInt8) : Option (Except Error Nat × Wal × Disk) :=
  if maxRecordSize < payload.length then
    some (.error (.invalidConfiguration ("record size " ++ toString payload.length ++
      " exceeds max " ++ toString maxRecordSize)), wal, disk)
  -- The mutex is taken here, and the guard lives to the end of the call.
  else if wal.inner.poisoned then some (.error .poisoned, wal, disk)
  else if wal.lsnCounter = u64Max then
    some (.error (.invalidConfiguration "LSN space exhausted"), wal, disk)
  else
    let lsn := wal.lsnCounter
    let next (inner : Inner) : Wal := { wal with inner := inner, lsnCounter := lsn + 1 }
    match Live.appendEntry format wal.config io (wal.entryOf payload) ⟨wal.inner, disk⟩ with
    | (.error error, live) => some (.error error, next live.inner, live.disk)
    | (.ok false, live) => some (.ok lsn, next live.inner, live.disk)
    | (.ok true, live) =>
      match finishRotation reentrant wal.config.retentionMaxBytes wal.ckptLsn io lsn live with
      | none => none
      | some (result, live) => some (result, next live.inner, live.disk)

/-! ## Opening -/

def manifestLsn : Option (Option Nat) → Except Error Nat
  | none => .ok 0
  | some none => .error (.manifest "missing lsn= field")
  | some (some lsn) => .ok lsn

/-- The instance that `open` builds on what recovery found. -/
def recovered (config : WalConfig) (report : RecoveryReport) (segment offset ckptLsn : Nat) :
    Wal where
  inner := {
    pending := []
    bytes := offset
    seg := segment
    nextSyncDueNs := 0
    writtenLsn := report.lastLsn.getD 0
    durableLsn := report.lastLsn.getD 0
    closedSegments :=
      report.segmentReports.filterMap fun seg => seg.lastLsn.map fun lsn => (seg.segment, lsn)
    poisoned := false
    failNextWrite := false
    failNextDiskfull := false
    failNextDirFsync := false }
  config := config
  lsnCounter := report.lastLsn.elim 1 fun last => min (last + 1) u64Max
  ckptLsn := ckptLsn
  report := report

/-- The checks of `open` on its configuration. -/
def checkConfig (config : WalConfig) : Except Error Unit :=
  if config.segMaxBytes < headerSize then
    .error (.invalidConfiguration "seg_max_bytes must be at least one record header")
  else if config.bufferCapacity = 0 then
    .error (.invalidConfiguration "buffer_capacity must be greater than zero")
  else if 0 < config.retentionMaxBytes ∧ config.retentionMaxBytes < headerSize then
    .error (.invalidConfiguration "retention_max_bytes is too small")
  else .ok ()

/-- `Wal::open` on an accessible directory. Its retention runs without a guard. -/
def openDir (format : Format) (config : WalConfig) (io : WalIo) (disk : Disk) :
    Except Error Wal × Disk :=
  match checkConfig config with
  | .error error => (.error error, disk)
  | .ok () =>
    let disk := disk.syncDir
    match recover format disk with
    | .error error => (.error error, disk)
    | .ok (report, (segment, offset), disk) =>
      match manifestLsn disk.manifest with
      | .error error => (.error error, disk)
      | .ok ckptLsn =>
        if report.lastLsn.getD 0 < ckptLsn then
          (.error (.manifest ("checkpoint LSN " ++ toString ckptLsn ++
            " exceeds recovered WAL LSN " ++ toString (report.lastLsn.getD 0))), disk)
        else
          let disk := disk.openSegment segment
          let wal := recovered config report segment offset ckptLsn
          if 0 < config.retentionMaxBytes ∧ ckptLsn ≠ 0 then
            match retain wal.inner disk io config.retentionMaxBytes ckptLsn with
            | (.error error, disk) => (.error error, disk)
            | (.ok (), disk) => (.ok wal, disk)
          else (.ok wal, disk)

/-- Dropping the instance flushes the buffer of the writer. -/
def close : Disk := disk.write wal.inner.seg wal.inner.pending

/-! ## Barriers and checkpoints -/

def flush (fault : Option Nat) (io : WalIo) : Except Error Unit × Wal × Disk :=
  if wal.inner.poisoned then (.error .poisoned, wal, disk)
  else
    let pending := wal.inner.pending
    match fault with
    | some landed =>
      (.error io.error,
        { wal with inner := { wal.inner with pending := pending.drop landed, poisoned := true } },
        disk.write wal.inner.seg (pending.take landed))
    | none =>
      (.ok (), { wal with inner := { wal.inner with pending := [] } },
        disk.write wal.inner.seg pending)

def sync (io : WalIo) : Except Error Unit × Wal × Disk :=
  if wal.inner.poisoned then (.error .poisoned, wal, disk)
  else
    match Live.syncInner io.barrierFault ⟨wal.inner, disk⟩ with
    | (false, live) => (.error io.error, { wal with inner := live.poison.inner }, live.disk)
    | (true, live) => (.ok (), { wal with inner := live.advanceDurable.inner }, live.disk)

/-- `checkpoint`. A fault comes before or after the new manifest is in place. -/
def checkpoint (wal : Wal) (disk : Disk) (io : WalIo) (fault : Option Bool) (lsn : Nat) :
    Except Error Unit × Wal × Disk :=
  if wal.inner.poisoned then (.error .poisoned, wal, disk)
  else if wal.inner.writtenLsn < lsn then
    (.error (.invalidConfiguration ("checkpoint " ++ toString lsn ++ " is beyond current LSN " ++
      toString wal.inner.writtenLsn)), wal, disk)
  else if wal.inner.durableLsn < lsn then
    (.error (.checkpointNotDurable lsn wal.inner.durableLsn), wal, disk)
  else if lsn < wal.ckptLsn then (.error (.checkpointRegression wal.ckptLsn lsn), wal, disk)
  else
    match fault with
    | none =>
      (.ok (), { wal with ckptLsn := lsn }, { disk.syncDir with manifest := some (some lsn) })
    | some replaced =>
      (.error io.error, { wal with inner := { wal.inner with poisoned := true } },
        { disk with manifest := if replaced then some (some lsn) else disk.manifest })

def truncateBefore (io : WalIo) (lsn : Nat) : Except Error Unit × Disk :=
  if wal.inner.poisoned then (.error .poisoned, disk)
  else if wal.ckptLsn < lsn then (.error (.checkpointRequired lsn wal.ckptLsn), disk)
  else retain wal.inner disk io 0 lsn

end Wal

end RamShield.Ramwal

import RamShield.Ramwal.Record

/-! # RAMWAL recovery

The scan of one segment and of a directory of segments, with the repair of a torn
tail. A file remembers how many of its bytes have been fsynced, and whether its
directory entry has.
-/

namespace RamShield.Ramwal

open Foundation List Option

inductive TailState
  | clean
  | partialHeader (offset : Nat)
  | partialPayload (offset expected available : Nat)
  deriving DecidableEq

/-- `Error`, as far as the operations of the log report it. -/
inductive Error
  | io
  | diskFull
  | corruption (segment offset : Nat) (reason : Corruption)
  | manifest (message : String)
  | poisoned
  | checkpointRequired (requested checkpoint : Nat)
  | checkpointNotDurable (requested durable : Nat)
  | checkpointRegression (current requested : Nat)
  | invalidConfiguration (message : String)
  deriving DecidableEq

/-! ## Scanning a segment -/

/-- What stands at a position of a segment: the end of what can be read, or a record. -/
inductive Read
  | tail (state : TailState)
  | record (record : Record) (size : Nat) (rest : List UInt8)

variable (format : Format)

def readRecord (segment lastValid : Nat) (prevLsn : Option Nat) (bytes : List UInt8) :
    Except Error Read :=
  if bytes.length < headerSize then .ok (.tail (.partialHeader lastValid))
  else
    match RecordHeader.decode (bytes.take headerSize) with
    | none => .ok (.tail (.partialHeader lastValid))
    | some (.error reason) => .error (.corruption segment lastValid reason)
    | some (.ok header) =>
      let body := bytes.drop headerSize
      let available := min body.length header.payloadLen
      if available ≠ header.payloadLen then
        .ok (.tail (.partialPayload lastValid header.payloadLen available))
      else
        let payload := body.take header.payloadLen
        match header.verifyCrc format payload with
        | .error reason => .error (.corruption segment lastValid reason)
        | .ok () =>
          if prevLsn.any (header.lsn ≤ ·) then
            .error (.corruption segment lastValid (.lsnViolation (prevLsn.getD 0) header.lsn))
          else
            match format.decodePayload payload header.flags maxRecordSize with
            | .error reason =>
              .error (.corruption segment lastValid (.payloadDecode lastValid header.lsn reason))
            | .ok decoded =>
              .ok (.record ⟨header.lsn, decoded⟩ (headerSize + header.payloadLen)
                (body.drop header.payloadLen))

/-- The outcome of `scan_segment`, with the values it carries from segment to segment. -/
structure Scan where
  lastValid : Nat
  needsTruncate : Bool
  tail : TailState
  prevLsn : Option Nat
  records : List Record
  deriving DecidableEq

def scanLoop (format : Format) (segment : Nat) :
    Nat → Nat → Option Nat → List Record → List UInt8 → Except Error Scan
  | 0, lastValid, prevLsn, records, _ => .ok ⟨lastValid, false, .clean, prevLsn, records⟩
  | turns + 1, lastValid, prevLsn, records, bytes =>
    if bytes = [] then .ok ⟨lastValid, false, .clean, prevLsn, records⟩
    else
      match readRecord format segment lastValid prevLsn bytes with
      | .error error => .error error
      | .ok (.tail state) => .ok ⟨lastValid, true, state, prevLsn, records⟩
      | .ok (.record record size rest) =>
        scanLoop format segment turns (lastValid + size) (some record.lsn)
          (records ++ [record]) rest

def scanSegment (segment : Nat) (prevLsn : Option Nat) (records : List Record)
    (bytes : List UInt8) : Except Error Scan :=
  scanLoop format segment (bytes.length + 1) 0 prevLsn records bytes

/-! ## Scanning a directory -/

/-- Its bytes, how many a crash cannot take, and whether it can take the file. -/
structure SegFile where
  bytes : List UInt8
  synced : Nat
  entrySynced : Bool
  deriving DecidableEq

/-- The segment files in the order of `list_segs`, and `lsn=` of the manifest. -/
structure Disk where
  segs : List (Nat × SegFile)
  manifest : Option (Option Nat)
  deriving DecidableEq

def syncEntries (segs : List (Nat × SegFile)) : List (Nat × SegFile) :=
  segs.map fun seg => (seg.1, { seg.2 with entrySynced := true })

/-- `fsync_dir`. -/
def Disk.syncDir (disk : Disk) : Disk := { disk with segs := syncEntries disk.segs }

structure SegmentReport where
  segment : Nat
  lastLsn : Option Nat
  deriving DecidableEq

structure RecoveryReport where
  firstLsn : Option Nat
  lastLsn : Option Nat
  records : List Record
  segments : Nat
  appendOffset : Nat
  tail : TailState
  repaired : Bool
  truncatedBytes : Nat
  segmentReports : List SegmentReport
  deriving DecidableEq

/-- The variables of the loop of `scan_dir`. -/
structure DirScan where
  prevLsn : Option Nat
  records : List Record
  appendOffset : Nat
  repaired : Bool
  tail : TailState
  truncatedBytes : Nat
  reports : List SegmentReport
  deriving DecidableEq

def DirScan.start : DirScan := ⟨none, [], 0, false, .clean, 0, []⟩

/-- What is left of a torn file; one without a whole record goes to quarantine. -/
def repairTail (segment : Nat) (file : SegFile) (validBytes : Nat) : List (Nat × SegFile) :=
  if 0 < validBytes then
    [(segment, { file with bytes := file.bytes.take validBytes, synced := validBytes })]
  else []

def DirScan.next (state : DirScan) (repair newest : Bool) (segment : Nat) (file : SegFile)
    (scan : Scan) : DirScan where
  prevLsn := scan.prevLsn
  records := scan.records
  appendOffset := if scan.needsTruncate || newest then scan.lastValid else state.appendOffset
  repaired := if scan.needsTruncate then repair else state.repaired
  tail := if scan.needsTruncate || newest then scan.tail else state.tail
  truncatedBytes :=
    if scan.needsTruncate then state.truncatedBytes + (file.bytes.length - scan.lastValid)
    else state.truncatedBytes
  reports := state.reports ++
    [⟨segment, ((scan.records.drop state.records.length).getLast?).map (·.lsn)⟩]

def scanSegs (format : Format) (repair : Bool) :
    DirScan → List (Nat × SegFile) → Except Error (DirScan × List (Nat × SegFile))
  | state, [] => .ok (state, [])
  | state, (segment, file) :: rest =>
    match scanSegment format segment state.prevLsn state.records file.bytes with
    | .error error => .error error
    | .ok scan =>
      if scan.needsTruncate && !rest.isEmpty then
        .error (.corruption segment scan.lastValid (.nonFinalSegmentTail scan.lastValid))
      else
        match scanSegs format repair (state.next repair rest.isEmpty segment file scan) rest with
        | .error error => .error error
        | .ok (last, files) =>
          if scan.needsTruncate && repair then
            .ok (last, repairTail segment file scan.lastValid ++ files)
          else .ok (last, (segment, file) :: files)

/-- The report that `scan_dir` makes of its variables. -/
def DirScan.report (state : DirScan) (segments : Nat) : RecoveryReport where
  firstLsn := (state.records.head?).map (·.lsn)
  lastLsn := state.prevLsn
  records := state.records
  segments := segments
  appendOffset := state.appendOffset
  tail := state.tail
  repaired := state.repaired
  truncatedBytes := state.truncatedBytes
  segmentReports := state.reports

def scanDir (disk : Disk) (repair : Bool) : Except Error (RecoveryReport × Disk) :=
  match scanSegs format repair .start disk.segs with
  | .error error => .error error
  | .ok (state, files) =>
    -- A file was moved to quarantine, so the directory is fsynced.
    let files := if files.length < disk.segs.length then syncEntries files else files
    .ok (state.report disk.segs.length, { disk with segs := files })

/-- `recover`: the report, the segment and offset of the next append, and the directory. -/
def recover (disk : Disk) : Except Error (RecoveryReport × (Nat × Nat) × Disk) :=
  match scanDir format disk true with
  | .error error => .error error
  | .ok (report, disk) =>
    let segment := (report.segmentReports.getLast?).elim 1 (·.segment)
    .ok (report, (segment, report.appendOffset), disk)

/-! ## What a scan reads -/

section Heads

variable {format} {segment lastValid : Nat} {prevLsn : Option Nat} {bytes : List UInt8}

lemma RecordHeader.decode_ne_none (hlength : headerSize ≤ bytes.length) :
    RecordHeader.decode (bytes.take headerSize) ≠ none := by
  have htake : ¬(bytes.take headerSize).length < headerSize := by
    rw [length_take]
    omega
  rw [RecordHeader.decode, if_neg htake]
  dsimp only
  repeat' split
  all_goals exact some_ne_none _

lemma any_le_eq_false_iff {lsn : Nat} :
    prevLsn.any (lsn ≤ ·) = false ↔ ∀ previous ∈ prevLsn, previous < lsn := by
  cases prevLsn with
  | none => simp
  | some previous => simp

structure WholeRecord (format : Format) (bytes : List UInt8) (header : RecordHeader)
    (payload : List UInt8) : Prop where
  length : headerSize ≤ bytes.length
  decode : RecordHeader.decode (bytes.take headerSize) = some (.ok header)
  available : header.payloadLen ≤ (bytes.drop headerSize).length
  checksum : header.verifyCrc format ((bytes.drop headerSize).take header.payloadLen) = .ok ()
  payload : format.decodePayload ((bytes.drop headerSize).take header.payloadLen) header.flags
    maxRecordSize = .ok payload

lemma readRecord_eq_record_iff {record : Record} {size : Nat} {rest : List UInt8} :
    readRecord format segment lastValid prevLsn bytes = .ok (.record record size rest) ↔
      ∃ header, WholeRecord format bytes header record.payload ∧
        (∀ previous ∈ prevLsn, previous < header.lsn) ∧ record.lsn = header.lsn ∧
        size = headerSize + header.payloadLen ∧
        rest = (bytes.drop headerSize).drop header.payloadLen := by
  -- A record that is read has passed the five tests of `WholeRecord` and of the order.
  rw [readRecord]
  constructor
  · intro hread
    split at hread
    · cases hread
    next hlong =>
      split at hread
      · cases hread
      · cases hread
      next header hdecode =>
        dsimp only at hread
        split at hread
        · cases hread
        next havailable =>
          split at hread
          · cases hread
          next hchecksum =>
            split at hread
            · cases hread
            next hviolation =>
              split at hread
              · cases hread
              next decoded hpayload =>
                cases hread
                exact ⟨header, ⟨Nat.not_lt.mp hlong, hdecode, by omega, hchecksum, hpayload⟩,
                  any_le_eq_false_iff.mp (Bool.eq_false_iff.mpr hviolation), rfl, rfl, rfl⟩
  · rintro ⟨header, hwhole, hprev, hlsn, rfl, rfl⟩
    obtain ⟨lsn, payload⟩ := record
    have havailable : min (bytes.drop headerSize).length header.payloadLen = header.payloadLen :=
      Nat.min_eq_right hwhole.available
    rw [if_neg (Nat.not_lt.mpr hwhole.length), hwhole.decode]
    dsimp only
    rw [if_neg (not_not.mpr havailable), hwhole.checksum]
    dsimp only
    rw [any_le_eq_false_iff.mpr hprev, if_neg Bool.false_ne_true, hwhole.payload]
    dsimp only at hlsn ⊢
    rw [hlsn]

lemma readRecord_eq_tail_iff {state : TailState} :
    readRecord format segment lastValid prevLsn bytes = .ok (.tail state) ↔
      (bytes.length < headerSize ∧ state = .partialHeader lastValid) ∨
      ∃ header, headerSize ≤ bytes.length ∧
        RecordHeader.decode (bytes.take headerSize) = some (.ok header) ∧
        (bytes.drop headerSize).length < header.payloadLen ∧
        state = .partialPayload lastValid header.payloadLen (bytes.drop headerSize).length := by
  -- Only the two truncations give a tail; what fails a later test is an error.
  rw [readRecord]
  constructor
  · intro hread
    split at hread
    next hshort =>
      cases hread
      exact .inl ⟨hshort, rfl⟩
    next hlong =>
      right
      split at hread
      next hnone => exact absurd hnone (RecordHeader.decode_ne_none (Nat.not_lt.mp hlong))
      · cases hread
      next header hdecode =>
        dsimp only at hread
        split at hread
        next havailable =>
          have hmissing : (bytes.drop headerSize).length < header.payloadLen := by omega
          rw [Nat.min_eq_left hmissing.le] at hread
          cases hread
          exact ⟨header, Nat.not_lt.mp hlong, hdecode, hmissing, rfl⟩
        next havailable =>
          split at hread
          · cases hread
          split at hread
          · cases hread
          split at hread
          · cases hread
          · cases hread
  · rintro (⟨hshort, rfl⟩ | ⟨header, hlong, hdecode, hmissing, rfl⟩)
    · rw [if_pos hshort]
    · have havailable : min (bytes.drop headerSize).length header.payloadLen ≠
        header.payloadLen := by
        omega
      rw [if_neg (Nat.not_lt.mpr hlong), hdecode]
      dsimp only
      rw [if_pos havailable, Nat.min_eq_left hmissing.le]

end Heads

section Reads

/-- The bytes of a record, whatever stands behind them. -/
def Whole (front : List UInt8) (record : Record) : Prop :=
  ∀ rest, readRecord format 0 0 none (front ++ rest) = .ok (.record record front.length rest)

inductive Reads : List UInt8 → List Record → Prop
  | nil : Reads [] []
  | cons {front rest : List UInt8} {record : Record} {records : List Record}
      (hwhole : Whole format front record) (hrest : Reads rest records) :
      Reads (front ++ rest) (record :: records)

/-- A scan stops here without error: at the end, or at the beginning of a record. -/
def Breaks (bytes : List UInt8) : Prop :=
  bytes = [] ∨ ∃ state, readRecord format 0 0 none bytes = .ok (.tail state)

def tailAt (lastValid : Nat) (bytes : List UInt8) : TailState :=
  if bytes = [] then .clean
  else
    match readRecord format 0 lastValid none bytes with
    | .ok (.tail state) => state
    | _ => .clean

def Rising (prevLsn : Option Nat) (records : List Record) : Prop :=
  (prevLsn.toList ++ records.map Record.lsn).Pairwise (· < ·)

def lastOf (prevLsn : Option Nat) (records : List Record) : Option Nat :=
  ((records.getLast?).map Record.lsn).or prevLsn

variable {format} {prevLsn : Option Nat}

lemma rising_nil (prevLsn : Option Nat) : Rising prevLsn [] := by
  cases prevLsn with
  | none => exact .nil
  | some previous => exact pairwise_singleton _ _

lemma rising_cons {record : Record} {records : List Record} :
    Rising prevLsn (record :: records) ↔
      (∀ previous ∈ prevLsn, previous < record.lsn) ∧ Rising (some record.lsn) records := by
  cases prevLsn with
  | none => simp [Rising]
  | some previous =>
    simp only [Rising, toList_some, singleton_append, map_cons,
      pairwise_cons, mem_cons, mem_some_iff, forall_eq_or_imp, forall_eq']
    constructor
    · rintro ⟨⟨hlt, -⟩, hrest⟩
      exact ⟨hlt, hrest⟩
    · rintro ⟨hlt, hfirst, hrest⟩
      exact ⟨⟨hlt, fun lsn hmem => hlt.trans (hfirst lsn hmem)⟩, hfirst, hrest⟩

lemma lastOf_cons (record : Record) (records : List Record) :
    lastOf prevLsn (record :: records) = lastOf (some record.lsn) records := by
  rw [lastOf, lastOf, List.getLast?_cons]
  cases records.getLast? <;> rfl

lemma lastOf_append (first second : List Record) :
    lastOf prevLsn (first ++ second) = lastOf (lastOf prevLsn first) second := by
  rw [lastOf, lastOf, lastOf, List.getLast?_append]
  cases second.getLast? <;> rfl

lemma rising_append {first second : List Record} :
    Rising prevLsn (first ++ second) ↔
      Rising prevLsn first ∧ Rising (lastOf prevLsn first) second := by
  induction first generalizing prevLsn with
  | nil => exact (and_iff_right (rising_nil prevLsn)).symm
  | cons record first ih => rw [cons_append, rising_cons, ih, rising_cons, lastOf_cons, and_assoc]

namespace Whole

variable {front : List UInt8} {record : Record}

lemma readRecord_eq (hwhole : Whole format front record)
    (hprev : ∀ previous ∈ prevLsn, previous < record.lsn) (segment lastValid : Nat)
    (rest : List UInt8) :
    readRecord format segment lastValid prevLsn (front ++ rest) =
      .ok (.record record front.length rest) := by
  obtain ⟨header, hcomplete, -, hlsn, hsize, hrest⟩ := readRecord_eq_record_iff.mp (hwhole rest)
  exact readRecord_eq_record_iff.mpr ⟨header, hcomplete, hlsn ▸ hprev, hlsn, hsize, hrest⟩

lemma ne_nil (hwhole : Whole format front record) : front ≠ [] := by
  obtain ⟨header, -, -, -, hsize, -⟩ := readRecord_eq_record_iff.mp (hwhole [])
  rw [headerSize] at hsize
  exact ne_nil_of_length_pos (by omega)

end Whole

variable {segment : Nat} {bytes : List UInt8}

lemma exists_whole_of_readRecord {lastValid : Nat} {rest : List UInt8} {record : Record}
    {size : Nat}
    (hread : readRecord format segment lastValid prevLsn bytes = .ok (.record record size rest)) :
    ∃ front, bytes = front ++ rest ∧ Whole format front record ∧
      ∀ previous ∈ prevLsn, previous < record.lsn := by
  obtain ⟨header, hcomplete, hprev, hlsn, -, rfl⟩ := readRecord_eq_record_iff.mp hread
  have hlength := hcomplete.length
  have havailable := hcomplete.available
  rw [length_drop] at havailable
  obtain ⟨front, hfront⟩ : ∃ front, front = bytes.take (headerSize + header.payloadLen) := ⟨_, rfl⟩
  have hsize : front.length = headerSize + header.payloadLen := by
    rw [hfront, length_take]
    omega
  refine ⟨front, ?_, ?_, hlsn ▸ hprev⟩
  · rw [hfront, drop_drop, take_append_drop]
  intro other
  -- Header and payload lie in the front, so the reader finds them before any other rest too.
  have hheader : (front ++ other).take headerSize = bytes.take headerSize := by
    rw [take_append_of_le_length (by omega), hfront, take_take,
      Nat.min_eq_left (Nat.le_add_right _ _)]
  have hbody : (front ++ other).drop headerSize = front.drop headerSize ++ other :=
    drop_append_of_le_length (by omega)
  have hstored : (front.drop headerSize).length = header.payloadLen := by
    rw [length_drop]
    omega
  have hpayload : ((front ++ other).drop headerSize).take header.payloadLen =
      (bytes.drop headerSize).take header.payloadLen := by
    rw [hbody, take_left' hstored, hfront, drop_take, Nat.add_sub_cancel_left]
  refine readRecord_eq_record_iff.mpr ⟨header, ⟨?_, ?_, ?_, ?_, ?_⟩, by simp, hlsn, hsize, ?_⟩
  · rw [length_append]
    omega
  · rw [hheader]
    exact hcomplete.decode
  · rw [hbody, length_append]
    omega
  · rw [hpayload]
    exact hcomplete.checksum
  · rw [hpayload]
    exact hcomplete.payload
  · rw [hbody, drop_left' hstored]

namespace Reads

variable {records : List Record}

section

variable (hreads : Reads format bytes records)

include hreads

lemma length_le : records.length ≤ bytes.length := by
  induction hreads with
  | nil => exact Nat.le_refl _
  | cons hwhole _ ih =>
    have hfront := length_pos_iff.mpr hwhole.ne_nil
    rw [length_cons, length_append]
    omega

lemma scanLoop_eq (hrising : Rising prevLsn records) (segment turns lastValid : Nat)
    (before : List Record) (rest : List UInt8) :
    scanLoop format segment (records.length + turns) lastValid prevLsn before (bytes ++ rest) =
      scanLoop format segment turns (lastValid + bytes.length) (lastOf prevLsn records)
        (before ++ records) rest := by
  induction hreads generalizing prevLsn lastValid before with
  | nil => simp [lastOf]
  | @cons front behind record records hwhole _ ih =>
    obtain ⟨hprev, hbehind⟩ := rising_cons.mp hrising
    have hnonempty : front ++ (behind ++ rest) ≠ [] := append_ne_nil_of_left_ne_nil hwhole.ne_nil _
    rw [length_cons, Nat.add_right_comm, scanLoop, append_assoc, if_neg hnonempty,
      hwhole.readRecord_eq hprev]
    dsimp only
    rw [ih hbehind, lastOf_cons, append_assoc, singleton_append, length_append, Nat.add_assoc]

end

lemma scanSegment_eq (hreads : Reads format bytes records) (hrising : Rising prevLsn records)
    {segment : Nat} {before : List Record} {rest : List UInt8} (hrest : rest ≠ []) :
    ∃ turns, rest.length ≤ turns ∧
      scanSegment format segment prevLsn before (bytes ++ rest) =
        match readRecord format segment bytes.length (lastOf prevLsn records) rest with
        | .error error => .error error
        | .ok (.tail state) =>
          .ok ⟨bytes.length, true, state, lastOf prevLsn records, before ++ records⟩
        | .ok (.record record size behind) =>
          scanLoop format segment turns (bytes.length + size) (some record.lsn)
            (before ++ records ++ [record]) behind := by
  have hle := hreads.length_le
  refine ⟨bytes.length + rest.length - records.length, by omega, ?_⟩
  have hturns : (bytes ++ rest).length + 1 =
      records.length + (bytes.length + rest.length - records.length + 1) := by
    rw [length_append]
    omega
  rw [scanSegment, hturns, hreads.scanLoop_eq hrising, Nat.zero_add, scanLoop, if_neg hrest]

end Reads

lemma exists_tail_of_readRecord {offset : Nat} {state : TailState}
    (hread : readRecord format segment offset prevLsn bytes = .ok (.tail state))
    (lastValid : Nat) : ∃ tail, tail ≠ .clean ∧ ∀ segment prevLsn,
      readRecord format segment lastValid prevLsn bytes = .ok (.tail tail) := by
  rcases readRecord_eq_tail_iff.mp hread with ⟨hshort, -⟩ | ⟨header, hlong, hdecode, hmissing, -⟩
  · exact ⟨_, TailState.noConfusion, fun _ _ => readRecord_eq_tail_iff.mpr (.inl ⟨hshort, rfl⟩)⟩
  · exact ⟨_, TailState.noConfusion, fun _ _ =>
      readRecord_eq_tail_iff.mpr (.inr ⟨header, hlong, hdecode, hmissing, rfl⟩)⟩

lemma Breaks.readRecord_eq (hbreaks : Breaks format bytes) (hnonempty : bytes ≠ [])
    (segment lastValid : Nat) (prevLsn : Option Nat) :
    readRecord format segment lastValid prevLsn bytes =
      .ok (.tail (tailAt format lastValid bytes)) ∧
      tailAt format lastValid bytes ≠ .clean := by
  obtain ⟨state, hread⟩ := hbreaks.resolve_left hnonempty
  obtain ⟨tail, hclean, htail⟩ := exists_tail_of_readRecord hread lastValid
  have hstate : tailAt format lastValid bytes = tail := by rw [tailAt, if_neg hnonempty, htail]
  rw [hstate]
  exact ⟨htail segment prevLsn, hclean⟩

lemma scanSegment_reads {valid torn : List UInt8} {records : List Record}
    (hreads : Reads format valid records) (hrising : Rising prevLsn records)
    (hbreaks : Breaks format torn) (segment : Nat) (before : List Record) :
    scanSegment format segment prevLsn before (valid ++ torn) =
      .ok ⟨valid.length, decide (torn ≠ []), tailAt format valid.length torn,
        lastOf prevLsn records, before ++ records⟩ := by
  by_cases hempty : torn = []
  · have hturns : (valid ++ torn).length + 1 =
      records.length + (valid.length - records.length + 1) := by
      have hle := hreads.length_le
      rw [hempty, append_nil]
      omega
    rw [scanSegment, hturns, hreads.scanLoop_eq hrising, Nat.zero_add, scanLoop, if_pos hempty]
    simp [hempty, tailAt]
  · obtain ⟨turns, -, hscan⟩ := @Reads.scanSegment_eq _ _ _ _ hreads hrising segment before _ hempty
    rw [hscan, (hbreaks.readRecord_eq hempty segment valid.length _).1]
    simp [hempty]

lemma exists_reads_of_scanLoop {turns lastValid : Nat} {before : List Record} {scan : Scan}
    (hturns : bytes.length < turns)
    (hscan : scanLoop format segment turns lastValid prevLsn before bytes = .ok scan) :
    ∃ valid torn records, bytes = valid ++ torn ∧ Reads format valid records ∧
      Rising prevLsn records ∧ Breaks format torn := by
  induction turns generalizing lastValid prevLsn before bytes with
  | zero => exact absurd hturns (Nat.not_lt_zero _)
  | succ turns ih =>
    rw [scanLoop] at hscan
    split at hscan
    next hempty => exact ⟨[], bytes, [], rfl, .nil, rising_nil _, .inl hempty⟩
    next hnonempty =>
      split at hscan
      · cases hscan
      next state hread =>
        obtain ⟨tail, -, htail⟩ := exists_tail_of_readRecord hread 0
        exact ⟨[], bytes, [], rfl, .nil, rising_nil _, .inr ⟨tail, htail 0 none⟩⟩
      next record size rest hread =>
        obtain ⟨front, rfl, hwhole, hprev⟩ := exists_whole_of_readRecord hread
        have hfront := length_pos_iff.mpr hwhole.ne_nil
        rw [length_append] at hturns
        obtain ⟨valid, torn, records, rfl, hreads, hrising, hbreaks⟩ := ih (by omega) hscan
        exact ⟨front ++ valid, torn, record :: records, by rw [append_assoc],
          .cons hwhole hreads, rising_cons.mpr ⟨hprev, hrising⟩, hbreaks⟩

end Reads

/-! ## What a scan of a directory reads -/

/-- How records lie in the files, and what stands behind the newest ones. -/
structure Layout where
  closed : List (Nat × SegFile)
  groups : List (List Record)
  segment : Nat
  file : SegFile
  valid : List UInt8
  torn : List UInt8
  records : List Record

namespace Layout

def all (layout : Layout) : List Record := layout.groups.flatten ++ layout.records

def segs (layout : Layout) : List (Nat × SegFile) :=
  layout.closed ++ [(layout.segment, layout.file)]

/-- The files are as the layout says, and the LSNs grow. -/
structure Valid (format : Format) (layout : Layout) (prevLsn : Option Nat) : Prop where
  closed : List.Forall₂ (fun seg records => Reads format seg.2.bytes records) layout.closed
    layout.groups
  file : layout.file.bytes = layout.valid ++ layout.torn
  reads : Reads format layout.valid layout.records
  breaks : Breaks format layout.torn
  rising : Rising prevLsn layout.all

def report (index : Nat) (records : List Record) : SegmentReport :=
  ⟨index, (records.getLast?).map Record.lsn⟩

def reports (closed : List (Nat × SegFile)) (groups : List (List Record)) : List SegmentReport :=
  List.zipWith (fun seg records => report seg.1 records) closed groups

end Layout

def DirScan.past (state : DirScan) (closed : List (Nat × SegFile))
    (groups : List (List Record)) : DirScan :=
  { state with
    prevLsn := lastOf state.prevLsn groups.flatten
    records := state.records ++ groups.flatten
    reports := state.reports ++ Layout.reports closed groups }

def DirScan.done (format : Format) (state : DirScan) (repair : Bool) (layout : Layout) :
    DirScan where
  prevLsn := lastOf state.prevLsn layout.all
  records := state.records ++ layout.all
  appendOffset := layout.valid.length
  repaired := if layout.torn = [] then state.repaired else repair
  tail := tailAt format layout.valid.length layout.torn
  truncatedBytes := state.truncatedBytes + layout.torn.length
  reports := state.reports ++ Layout.reports layout.closed layout.groups ++
    [Layout.report layout.segment layout.records]

namespace Layout

def kept (layout : Layout) (repair : Bool) : List (Nat × SegFile) :=
  layout.closed ++
    if layout.torn ≠ [] ∧ repair then repairTail layout.segment layout.file layout.valid.length
    else [(layout.segment, layout.file)]

def left (layout : Layout) (repair : Bool) : List (Nat × SegFile) :=
  if layout.torn = [] ∨ repair = false then layout.segs
  else if layout.valid = [] then syncEntries layout.closed
  else layout.closed ++ [(layout.segment, { layout.file with
    bytes := layout.valid, synced := layout.valid.length })]

end Layout

section Directories

variable {format}

lemma scanSegs_past {closed : List (Nat × SegFile)} {groups : List (List Record)}
    (hclosed : List.Forall₂ (fun seg records => Reads format seg.2.bytes records) closed groups)
    {state : DirScan} (hrising : Rising state.prevLsn groups.flatten) (repair : Bool)
    {rest : List (Nat × SegFile)} (hrest : rest ≠ []) :
    scanSegs format repair state (closed ++ rest) =
      (scanSegs format repair (state.past closed groups) rest).map
        fun outcome => (outcome.1, closed ++ outcome.2) := by
  induction hclosed generalizing state with
  | nil =>
    simp only [DirScan.past, lastOf, Layout.reports, flatten_nil, List.getLast?_nil,
      map_none, none_or, append_nil, zipWith_nil_left, nil_append]
    cases scanSegs format repair state rest <;> rfl
  | @cons seg records closed groups hseg _ ih =>
    obtain ⟨segment, file⟩ := seg
    rw [flatten_cons, rising_append] at hrising
    have hnewest : (closed ++ rest).isEmpty = false := by simp [hrest]
    have hscan := scanSegment_reads hseg hrising.1 (.inl rfl) segment state.records
    rw [append_nil] at hscan
    rw [cons_append, scanSegs, hscan, hnewest]
    dsimp only
    rw [if_neg (by simp), ih (by exact hrising.2)]
    have hpast : ∀ scan : Scan, scan.needsTruncate = false →
        scan.prevLsn = lastOf state.prevLsn records → scan.records = state.records ++ records →
        (state.next repair false segment file scan).past closed groups =
          state.past ((segment, file) :: closed) (records :: groups) := by
      intro scan htruncate hprev hrecords
      simp [DirScan.past, DirScan.next, htruncate, hprev, hrecords, lastOf_append,
        Layout.reports, Layout.report]
    rw [hpast _ rfl rfl rfl]
    cases scanSegs format repair (state.past ((segment, file) :: closed) (records :: groups)) rest
      <;> rfl

lemma scanSegs_valid {layout : Layout} {state : DirScan}
    (hvalid : layout.Valid format state.prevLsn) (repair : Bool) :
    scanSegs format repair state layout.segs =
      .ok (state.done format repair layout, layout.kept repair) := by
  obtain ⟨hclosed, hfile, hreads, hbreaks, hrising⟩ := hvalid
  rw [Layout.all, rising_append] at hrising
  have hnewest : Rising (state.past layout.closed layout.groups).prevLsn layout.records := hrising.2
  rw [Layout.segs, scanSegs_past hclosed hrising.1 repair (cons_ne_nil _ _), scanSegs, hfile,
    scanSegment_reads hreads hnewest hbreaks]
  dsimp only
  rw [scanSegs]
  by_cases hempty : layout.torn = []
  · simp [hempty, DirScan.done, DirScan.next, DirScan.past, Layout.kept, Except.map, Layout.all,
      lastOf_append, Layout.report]
  · cases repair <;>
    simp [hempty, DirScan.done, DirScan.next, DirScan.past, Layout.kept, Except.map, Layout.all,
      lastOf_append, Layout.report, hfile]

lemma exists_valid_of_scanSegs {repair : Bool} {state last : DirScan}
    {segs files : List (Nat × SegFile)}
    (hscan : scanSegs format repair state segs = .ok (last, files)) (hsegs : segs ≠ []) :
    ∃ layout : Layout, layout.segs = segs ∧ layout.Valid format state.prevLsn := by
  induction segs generalizing state last files with
  | nil => exact absurd rfl hsegs
  | cons seg rest ih =>
    obtain ⟨segment, file⟩ := seg
    rw [scanSegs] at hscan
    split at hscan
    · cases hscan
    next scan hsegment =>
      obtain ⟨valid, torn, records, hfile, hreads, hrising, hbreaks⟩ :=
        exists_reads_of_scanLoop (Nat.lt_succ_self _) hsegment
      rw [hfile, scanSegment_reads hreads hrising hbreaks] at hsegment
      cases hsegment
      split at hscan
      · cases hscan
      next hfinal =>
        split at hscan
        · cases hscan
        next behind kept hrest =>
          by_cases hempty : rest = []
          · subst hempty
            exact ⟨⟨[], [], segment, file, valid, torn, records⟩, rfl, .nil, hfile, hreads,
              hbreaks, hrising⟩
          · -- Only the last segment may be torn.
            have htorn : torn = [] := by
              by_contra htorn
              exact hfinal (by simp [htorn, hempty])
            obtain ⟨layout, rfl, hvalid⟩ := ih hrest hempty
            refine ⟨{ layout with
              closed := (segment, file) :: layout.closed
              groups := records :: layout.groups }, rfl, .cons ?_ hvalid.closed, hvalid.file,
              hvalid.reads, hvalid.breaks, ?_⟩
            · rw [htorn, append_nil] at hfile
              change Reads format file.bytes records
              rw [hfile]
              exact hreads
            · rw [Layout.all, flatten_cons, append_assoc]
              exact rising_append.mpr ⟨hrising, hvalid.rising⟩

variable {layout : Layout} {disk : Disk}

/-- Files that do not hold a whole record are gone. -/
lemma Layout.kept_eq_left {prevLsn : Option Nat} (hvalid : layout.Valid format prevLsn)
    (repair : Bool) :
    (if (layout.kept repair).length < layout.segs.length then syncEntries (layout.kept repair)
      else layout.kept repair) = layout.left repair := by
  rw [kept, left, segs]
  by_cases hempty : layout.torn = []
  · simp [hempty]
  · cases repair with
    | false => simp
    | true =>
      by_cases hnone : layout.valid = []
      · simp [hempty, hnone, repairTail]
      · have hpos : 0 < layout.valid.length := length_pos_iff.mpr hnone
        simp [hempty, hnone, repairTail, hpos, hvalid.file]

lemma scanDir_valid (hvalid : layout.Valid format none) (hsegs : disk.segs = layout.segs)
    (repair : Bool) :
    scanDir format disk repair =
      .ok ((DirScan.start.done format repair layout).report disk.segs.length,
        { disk with segs := layout.left repair }) := by
  rw [scanDir, hsegs, @scanSegs_valid format layout .start hvalid]
  dsimp only
  rw [layout.kept_eq_left hvalid]

lemma scanDir_stops {closed rest : List (Nat × SegFile)} {groups : List (List Record)}
    {segment : Nat} {file : SegFile} {valid bytes : List UInt8} {records : List Record}
    (hsegs : disk.segs = closed ++ (segment, file) :: rest)
    (hclosed : List.Forall₂ (fun seg records => Reads format seg.2.bytes records) closed groups)
    (hfile : file.bytes = valid ++ bytes) (hreads : Reads format valid records)
    (hrising : Rising none (groups.flatten ++ records)) (hbytes : bytes ≠ []) {error : Error}
    (hstops : let lastValid := valid.length
      ∀ prevLsn, readRecord format segment lastValid prevLsn bytes = .error error ∨
        rest ≠ [] ∧ error = .corruption segment lastValid (.nonFinalSegmentTail lastValid) ∧
          ∃ state, readRecord format segment lastValid prevLsn bytes = .ok (.tail state))
    (repair : Bool) : scanDir format disk repair = .error error := by
  rw [rising_append] at hrising
  have hnewest : Rising (DirScan.start.past closed groups).prevLsn records := hrising.2
  obtain ⟨turns, -, hsegment⟩ := @Reads.scanSegment_eq _ _ _ _ hreads hnewest segment
    (DirScan.start.past closed groups).records _ hbytes
  rw [scanDir, hsegs, @scanSegs_past _ _ _ hclosed .start hrising.1 _ _ (cons_ne_nil _ _),
    scanSegs, hfile, hsegment]
  rcases hstops (lastOf (DirScan.start.past closed groups).prevLsn records) with
    hread | ⟨hrest, rfl, state, hread⟩
  · rw [hread]
    rfl
  · rw [hread]
    simp only [Bool.true_and, isEmpty_eq_false_iff.mpr hrest, Bool.not_false, if_true]
    rfl

lemma scanDir_cases {left : Disk} {repair : Bool} {report : RecoveryReport}
    (hscan : scanDir format disk repair = .ok (report, left)) :
    (disk.segs = [] ∧ report = DirScan.start.report 0 ∧ left = disk) ∨
      ∃ layout : Layout, disk.segs = layout.segs ∧ layout.Valid format none ∧
        report = (DirScan.start.done format repair layout).report disk.segs.length ∧
        left = { disk with segs := layout.left repair } := by
  by_cases hsegs : disk.segs = []
  · left
    obtain ⟨segs, manifest⟩ := disk
    subst hsegs
    cases hscan
    exact ⟨rfl, rfl, rfl⟩
  · right
    obtain ⟨layout, hlayout, hvalid⟩ : ∃ layout : Layout,
        layout.segs = disk.segs ∧ layout.Valid format none := by
      rw [scanDir] at hscan
      split at hscan
      · cases hscan
      next hloop => exact exists_valid_of_scanSegs hloop hsegs
    rw [scanDir_valid hvalid hlayout.symm] at hscan
    cases hscan
    exact ⟨layout, hlayout.symm, hvalid, rfl, rfl⟩

/-- Files with whole records only are left alone. -/
lemma scanDir_reads {groups : List (List Record)}
    (hreads : List.Forall₂ (fun seg records => Reads format seg.2.bytes records) disk.segs groups)
    (hrising : Rising none groups.flatten) (repair : Bool) :
    ∃ report, scanDir format disk repair = .ok (report, disk) ∧
      report.records = groups.flatten ∧ report.lastLsn = lastOf none groups.flatten ∧
      report.tail = .clean ∧ report.truncatedBytes = 0 ∧ report.repaired = false := by
  rcases eq_nil_or_concat' groups with rfl | ⟨before, records, rfl⟩
  · obtain ⟨segs, manifest⟩ := disk
    obtain rfl := List.forall₂_nil_right_iff.mp hreads
    exact ⟨_, rfl, rfl, rfl, rfl, rfl, rfl⟩
  · have hbefore := List.forall₂_take_append _ _ _ hreads
    obtain ⟨⟨segment, file⟩, rest, hfile, hrest, hdrop⟩ :=
      List.forall₂_cons_right_iff.mp (List.forall₂_drop_append _ _ _ hreads)
    obtain rfl := List.forall₂_nil_right_iff.mp hrest
    rw [flatten_append, flatten_singleton] at hrising ⊢
    obtain ⟨layout, hlayout⟩ : ∃ layout : Layout, layout =
        ⟨disk.segs.take before.length, before, segment, file, file.bytes, [], records⟩ := ⟨_, rfl⟩
    have hsegs : disk.segs = layout.segs := by rw [hlayout, Layout.segs, ← hdrop, take_append_drop]
    have hvalid : layout.Valid format none := by
      rw [hlayout]
      exact ⟨hbefore, (append_nil _).symm, hfile, .inl rfl, hrising⟩
    have hscan := scanDir_valid hvalid hsegs repair
    have hleft : layout.left repair = disk.segs := by
      rw [Layout.left, hsegs, if_pos (.inl (by rw [hlayout]))]
    rw [hleft, hlayout] at hscan
    exact ⟨_, hscan, rfl, rfl, rfl, rfl, rfl⟩

/-- The next append goes behind the last record. -/
lemma recover_valid (hvalid : layout.Valid format none) (hsegs : disk.segs = layout.segs) :
    recover format disk =
      .ok ((DirScan.start.done format true layout).report disk.segs.length,
        (layout.segment, layout.valid.length), { disk with segs := layout.left true }) := by
  rw [recover, scanDir_valid hvalid hsegs]
  dsimp only [DirScan.report, DirScan.done]
  rw [List.getLast?_concat]
  rfl

lemma recover_empty (hsegs : disk.segs = []) :
    recover format disk = .ok (DirScan.start.report 0, (1, 0), disk) := by
  obtain ⟨segs, manifest⟩ := disk
  subst hsegs
  rfl

end Directories

end RamShield.Ramwal

import RamShield.Ramwal.Recovery

/-! # What recovery makes of appended entries

The bytes of an entry are a whole record as long as what is stored is not over the
limit of the reader. Recovery then returns every whole entry, and the beginning of one
at the end of the log is a torn tail. The header of an entry over the limit makes
recovery fail.
-/

namespace RamShield.Ramwal

open Foundation Entry List

/-! ## Reading entries back -/

section Reading

variable {format : Format} {entry : Entry}

lemma decode_take_encode (haccepted : entry.Accepted) (rest : List UInt8) :
    RecordHeader.decode ((entry.encode format ++ rest).take headerSize) =
      if entry.Readable format then some (.ok (entry.header format))
      else some (.error (.invalidLength 14 (entry.stored format).length)) := by
  rw [encode, append_assoc, take_left' (RecordHeader.length_encode _),
    RecordHeader.decode_encode (header_fits haccepted), header_payloadLen haccepted]
  split
  next hlong => exact (if_neg (Nat.not_le.mpr hlong)).symm
  next hshort => exact (if_pos (Nat.not_lt.mp hshort)).symm

lemma drop_encode (rest : List UInt8) :
    (entry.encode format ++ rest).drop headerSize = entry.stored format ++ rest := by
  rw [encode, append_assoc, drop_left' (RecordHeader.length_encode _)]

lemma whole_encode (haccepted : entry.Accepted) (hreadable : entry.Readable format) :
    Whole format (entry.encode format) entry.toRecord := by
  intro rest
  have hlength := @header_payloadLen format _ haccepted
  refine readRecord_eq_record_iff.mpr ⟨entry.header format, ⟨?_, ?_, ?_, ?_, ?_⟩, by simp, rfl,
    ?_, ?_⟩
  · rw [length_append, length_encode, size]
    omega
  · rw [decode_take_encode haccepted, if_pos hreadable]
  · rw [drop_encode, hlength, length_append]
    exact Nat.le_add_right _ _
  · rw [drop_encode, hlength, take_left]
    exact if_neg (not_not.mpr rfl)
  · rw [drop_encode, hlength, take_left]
    exact decodePayload_encodePayload haccepted.payload entry.compress
  · rw [hlength, length_encode, size]
  · rw [drop_encode, hlength, drop_left]

lemma readRecord_unreadable {segment lastValid : Nat} {prevLsn : Option Nat}
    (haccepted : entry.Accepted) (hlong : ¬entry.Readable format)
    {bytes : List UInt8} (hheader : bytes.take headerSize = (entry.header format).encode) :
    readRecord format segment lastValid prevLsn bytes =
      .error (.corruption segment lastValid (.invalidLength 14 (entry.stored format).length)) := by
  have hlength : ¬bytes.length < headerSize := by
    have hlength := congrArg List.length hheader
    rw [length_take, RecordHeader.length_encode] at hlength
    omega
  have htake : bytes.take headerSize = (entry.encode format ++ []).take headerSize := by
    rw [hheader, append_nil, encode, take_left' (RecordHeader.length_encode _)]
  rw [readRecord, if_neg hlength, htake, decode_take_encode haccepted, if_neg hlong]

lemma breaks_start (haccepted : entry.Accepted) {start : List UInt8}
    (hreadable : headerSize ≤ start.length → entry.Readable format)
    (hpart : start <+: entry.encode format)
    (hproper : start.length < (entry.encode format).length) : Breaks format start := by
  obtain ⟨missing, hmissing⟩ := hpart
  refine .inr ?_
  by_cases hshort : start.length < headerSize
  · exact ⟨_, readRecord_eq_tail_iff.mpr (.inl ⟨hshort, rfl⟩)⟩
  · -- The header is there, so the payload is not.
    have hheader : start.take headerSize = (entry.encode format ++ []).take headerSize := by
      rw [append_nil, ← hmissing, take_append_of_le_length (Nat.not_lt.mp hshort)]
    refine ⟨_, readRecord_eq_tail_iff.mpr (.inr ⟨entry.header format, Nat.not_lt.mp hshort, ?_, ?_,
      rfl⟩)⟩
    · rw [hheader, decode_take_encode haccepted, if_pos (hreadable (Nat.not_lt.mp hshort))]
    · rw [length_encode, size] at hproper
      rw [header_payloadLen haccepted, length_drop]
      omega

end Reading

/-! ## Scanning a log -/

def Ascends : Option Nat → List Entry → Prop
  | _, [] => True
  | prevLsn, entry :: entries =>
    (∀ previous ∈ prevLsn, previous < entry.lsn) ∧ Ascends (some entry.lsn) entries

def lastLsn : Option Nat → List Entry → Option Nat
  | prevLsn, [] => prevLsn
  | _, entry :: entries => lastLsn (some entry.lsn) entries

lemma rising_map_toRecord {prevLsn : Option Nat} {entries : List Entry} :
    Rising prevLsn (entries.map toRecord) ↔ Ascends prevLsn entries := by
  induction entries generalizing prevLsn with
  | nil => exact iff_of_true (rising_nil prevLsn) trivial
  | cons entry entries ih => rw [map_cons, rising_cons, ih, Ascends]

lemma lastOf_map_toRecord (prevLsn : Option Nat) (entries : List Entry) :
    lastOf prevLsn (entries.map toRecord) = lastLsn prevLsn entries := by
  induction entries generalizing prevLsn with
  | nil => exact Option.none_or
  | cons entry entries ih => rw [map_cons, lastOf_cons, ih, lastLsn]

lemma ascends_append {prevLsn : Option Nat} {first second : List Entry} :
    Ascends prevLsn (first ++ second) ↔
      Ascends prevLsn first ∧ Ascends (lastLsn prevLsn first) second := by
  rw [← rising_map_toRecord, map_append, rising_append, rising_map_toRecord,
    lastOf_map_toRecord, rising_map_toRecord]

section Scanning

variable (format : Format)

def encodeAll (entries : List Entry) : List UInt8 := entries.flatMap (encode format)

@[simp] lemma encodeAll_nil : encodeAll format [] = [] := rfl

lemma encodeAll_append (first second : List Entry) :
    encodeAll format (first ++ second) = encodeAll format first ++ encodeAll format second :=
  flatMap_append

lemma encodeAll_cons (entry : Entry) (entries : List Entry) :
    encodeAll format (entry :: entries) = entry.encode format ++ encodeAll format entries := rfl

def Sound (entries : List Entry) : Prop := ∀ entry ∈ entries, entry.Accepted ∧ entry.Readable format

def Torn (start : List UInt8) : Prop :=
  start = [] ∨ ∃ entry : Entry, entry.Accepted ∧
    (headerSize ≤ start.length → entry.Readable format) ∧
    start <+: entry.encode format ∧ start.length < (entry.encode format).length

variable {format}

lemma Torn.breaks {start : List UInt8} (htorn : Torn format start) : Breaks format start := by
  rcases htorn with hempty | ⟨entry, haccepted, hreadable, hpart, hproper⟩
  · exact .inl hempty
  · exact breaks_start haccepted hreadable hpart hproper

lemma Sound.reads {entries : List Entry} (hsound : Sound format entries) :
    Reads format (encodeAll format entries) (entries.map toRecord) := by
  induction entries with
  | nil => exact .nil
  | cons entry entries ih =>
    obtain ⟨⟨haccepted, hreadable⟩, hrest⟩ := forall_mem_cons.mp hsound
    exact .cons (whole_encode haccepted hreadable) (ih hrest)

lemma encodeAll_eq_nil_iff {entries : List Entry} :
    encodeAll format entries = [] ↔ entries = [] := by
  cases entries with
  | nil => exact iff_of_true rfl rfl
  | cons entry entries =>
    exact iff_of_false (append_ne_nil_of_left_ne_nil (entry.encode_ne_nil format) _)
      (cons_ne_nil _ _)

variable (format) in
def Clean (seg : Nat × SegFile) (entries : List Entry) : Prop :=
  seg.2.bytes = encodeAll format entries

def reportOf (index : Nat) (entries : List Entry) : SegmentReport :=
  ⟨index, (entries.getLast?).map (·.lsn)⟩

lemma report_map_toRecord (index : Nat) (entries : List Entry) :
    Layout.report index (entries.map toRecord) = reportOf index entries := by
  rw [Layout.report, List.getLast?_map, Option.map_map]
  rfl

def recordsOf (groups : List (List Entry)) : List (List Record) :=
  groups.map fun entries => entries.map toRecord

lemma flatten_recordsOf (groups : List (List Entry)) :
    (recordsOf groups).flatten = groups.flatten.map toRecord :=
  map_flatten.symm

/-- Files that hold entries hold their records. -/
lemma reads_clean {closed : List (Nat × SegFile)} {groups : List (List Entry)}
    (hclean : List.Forall₂ (Clean format) closed groups) (hsound : Sound format groups.flatten) :
    List.Forall₂ (fun seg records => Reads format seg.2.bytes records) closed
      (recordsOf groups) := by
  induction hclean with
  | nil => exact .nil
  | @cons seg entries closed groups hseg _ ih =>
    rw [flatten_cons] at hsound
    have hbytes : seg.2.bytes = encodeAll format entries := hseg
    refine .cons ?_ (ih fun entry hmem => hsound entry (mem_append_right _ hmem))
    rw [hbytes]
    exact Sound.reads fun entry hmem => hsound entry (mem_append_left _ hmem)

def Layout.ofEntries (format : Format) (closed : List (Nat × SegFile))
    (groups : List (List Entry)) (segment : Nat) (file : SegFile) (entries : List Entry)
    (start : List UInt8) : Layout where
  closed := closed
  groups := recordsOf groups
  segment := segment
  file := file
  valid := encodeAll format entries
  torn := start
  records := entries.map toRecord

section Torn

variable {closed : List (Nat × SegFile)} {groups : List (List Entry)} {segment : Nat}
  {file : SegFile} {entries : List Entry} {start : List UInt8}

lemma Layout.all_ofEntries :
    (ofEntries format closed groups segment file entries start).all =
      (groups.flatten ++ entries).map toRecord := by
  rw [all, map_append, ← flatten_recordsOf]
  rfl

lemma Layout.valid_ofEntries (hclean : List.Forall₂ (Clean format) closed groups)
    (hfile : file.bytes = encodeAll format entries ++ start) (hbreaks : Breaks format start)
    (hsound : Sound format (groups.flatten ++ entries))
    (hascends : Ascends none (groups.flatten ++ entries)) :
    (ofEntries format closed groups segment file entries start).Valid format none where
  closed := reads_clean hclean fun entry hmem => hsound entry (mem_append_left _ hmem)
  file := hfile
  reads := Sound.reads fun entry hmem => hsound entry (mem_append_right _ hmem)
  breaks := hbreaks
  rising := by
    rw [all_ofEntries, rising_map_toRecord]
    exact hascends

variable (format) in
def repaired (closed : List (Nat × SegFile)) (segment : Nat) (file : SegFile)
    (entries : List Entry) (start : List UInt8) : List (Nat × SegFile) :=
  if start = [] then closed ++ [(segment, file)]
  else if entries = [] then syncEntries closed
  else closed ++ [(segment, { file with
    bytes := encodeAll format entries, synced := (encodeAll format entries).length })]

lemma Layout.left_ofEntries :
    (ofEntries format closed groups segment file entries start).left true =
      repaired format closed segment file entries start := by
  rw [left, repaired]
  simp only [ofEntries, segs, Bool.true_eq_false, or_false, encodeAll_eq_nil_iff]

/-- Every whole entry is recovered, and the next append follows. -/
lemma recover_torn {disk : Disk} (hsegs : disk.segs = closed ++ [(segment, file)])
    (hclean : List.Forall₂ (Clean format) closed groups)
    (hfile : file.bytes = encodeAll format entries ++ start) (htorn : Torn format start)
    (hsound : Sound format (groups.flatten ++ entries))
    (hascends : Ascends none (groups.flatten ++ entries)) :
    ∃ report, recover format disk = .ok (report, (segment, (encodeAll format entries).length),
        { disk with segs := repaired format closed segment file entries start }) ∧
      report.records = (groups.flatten ++ entries).map toRecord ∧
      report.lastLsn = lastLsn none (groups.flatten ++ entries) ∧
      report.segmentReports =
        List.zipWith (fun seg entries => reportOf seg.1 entries) closed groups ++
          [reportOf segment entries] := by
  have hvalid := @Layout.valid_ofEntries _ _ _ segment _ _ _ hclean hfile htorn.breaks hsound
    hascends
  have hrecover := recover_valid hvalid hsegs
  rw [Layout.left_ofEntries] at hrecover
  refine ⟨_, hrecover, Layout.all_ofEntries, ?_, ?_⟩
  · change lastOf none (Layout.all _) = _
    rw [Layout.all_ofEntries, lastOf_map_toRecord]
  · change Layout.reports closed (recordsOf groups) ++
      [Layout.report segment (entries.map toRecord)] = _
    rw [report_map_toRecord, Layout.reports, recordsOf, zipWith_map_right]
    simp only [report_map_toRecord]

end Torn

lemma scanDir_stops_behind {disk : Disk} {closed rest : List (Nat × SegFile)}
    {groups : List (List Entry)} {segment : Nat} {file : SegFile} {before : List Entry}
    {bytes : List UInt8} (hsegs : disk.segs = closed ++ (segment, file) :: rest)
    (hclean : List.Forall₂ (Clean format) closed groups)
    (hfile : file.bytes = encodeAll format before ++ bytes)
    (hsound : Sound format (groups.flatten ++ before))
    (hascends : Ascends none (groups.flatten ++ before)) (hbytes : bytes ≠ []) {error : Error}
    (hstops : let lastValid := (encodeAll format before).length
      ∀ prevLsn, readRecord format segment lastValid prevLsn bytes = .error error ∨
        rest ≠ [] ∧ error = .corruption segment lastValid (.nonFinalSegmentTail lastValid) ∧
          ∃ state, readRecord format segment lastValid prevLsn bytes = .ok (.tail state)) :
    scanDir format disk true = .error error := by
  have hrising := rising_map_toRecord.mpr hascends
  rw [map_append, ← flatten_recordsOf] at hrising
  exact scanDir_stops hsegs
    (reads_clean hclean fun entry hmem => hsound entry (mem_append_left _ hmem)) hfile
    (Sound.reads fun entry hmem => hsound entry (mem_append_right _ hmem)) hrising hbytes
    hstops true

end Scanning

end RamShield.Ramwal

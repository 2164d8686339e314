import RamShield.Ramwal.Reopen

/-! # Crashes

A crash takes the buffer of the writer, any of the bytes of a file that were written
after its last fsync, and any file whose directory entry was created after the last
fsync of the directory. Reopening then recovers the whole entries in what is left. The
log keeps what it reported as durable exactly if those entries lie within the bytes
that no crash can take.
-/

namespace RamShield.Ramwal

open Foundation Foundation.Machine List

/-- A crash: which of the files that it can take stay, and how much of each file does. -/
structure Crash where
  keeps : Nat → Bool
  cut : Nat → Nat

def Crash.survivor (crash : Crash) (seg : Nat × SegFile) : Option (Nat × SegFile) :=
  if seg.2.entrySynced || crash.keeps seg.1 then
    let bytes := seg.2.bytes.take (max seg.2.synced (crash.cut seg.1))
    some (seg.1, ⟨bytes, bytes.length, true⟩)
  else none

/-- The directory after a crash. A manifest is fsynced before it is renamed into place. -/
def Disk.crash (disk : Disk) (crash : Crash) : Disk :=
  { disk with segs := disk.segs.filterMap crash.survivor }

def Disk.safeBytes (disk : Disk) : Nat :=
  (disk.segs.map fun seg => if seg.2.entrySynced then seg.2.synced else 0).sum

def Crash.worst : Crash := ⟨fun _ => false, fun _ => 0⟩

/-! ## What a crash leaves -/

lemma safeBytes_cons (seg : Nat × SegFile) (segs : List (Nat × SegFile))
    (manifest : Option (Option Nat)) :
    Disk.safeBytes ⟨seg :: segs, manifest⟩ =
      (if seg.2.entrySynced then seg.2.synced else 0) + Disk.safeBytes ⟨segs, manifest⟩ := rfl

lemma Disk.safeBytes_le_crash {disk : Disk}
    (hsynced : ∀ seg ∈ disk.segs, seg.2.synced ≤ seg.2.bytes.length) :
    (∀ crash, disk.safeBytes ≤ Wal.totalBytes (disk.crash crash)) ∧
      Wal.totalBytes (disk.crash .worst) = disk.safeBytes := by
  obtain ⟨segs, manifest⟩ := disk
  -- Segment by segment: one with a durable entry keeps at least its synced bytes, another may
  -- be gone.
  induction segs with
  | nil => exact ⟨fun crash => Nat.le_refl _, rfl⟩
  | cons seg segs ih =>
    obtain ⟨hseg, hrest⟩ := forall_mem_cons.mp hsynced
    obtain ⟨hle, hworst⟩ := ih hrest
    dsimp only [Disk.crash] at hle hworst ⊢
    constructor
    · intro crash
      have hle := hle crash
      rw [filterMap_cons, safeBytes_cons, Crash.survivor]
      cases hentry : seg.2.entrySynced with
      | true =>
        rw [Bool.true_or, if_pos rfl, if_pos rfl]
        dsimp only
        rw [totalBytes_cons, length_take]
        omega
      | false =>
        rw [if_neg Bool.false_ne_true]
        split
        · omega
        next left hleft =>
          rw [totalBytes_cons]
          omega
    · rw [filterMap_cons, safeBytes_cons, Crash.survivor]
      cases hentry : seg.2.entrySynced with
      | true =>
        rw [Bool.true_or, if_pos rfl, if_pos rfl]
        dsimp only
        rw [totalBytes_cons, hworst, length_take, Crash.worst, Nat.max_zero]
        omega
      | false =>
        rw [Bool.false_or, Crash.worst, if_neg Bool.false_ne_true, if_neg Bool.false_ne_true,
          Nat.zero_add]
        exact hworst

lemma Crash.survivor_durable (crash : Crash) {seg : Nat × SegFile}
    (hdurable : seg.2.synced = seg.2.bytes.length ∧ seg.2.entrySynced) :
    crash.survivor seg = some seg := by
  obtain ⟨index, bytes, synced, entrySynced⟩ := seg
  dsimp only at hdurable
  obtain ⟨rfl, rfl⟩ := hdurable
  rw [survivor, Bool.true_or, if_pos rfl]
  dsimp only
  rw [take_of_length_le (le_max_left _ _)]

lemma Crash.filterMap_durable (crash : Crash) {segs : List (Nat × SegFile)}
    (hdurable : ∀ seg ∈ segs, seg.2.synced = seg.2.bytes.length ∧ seg.2.entrySynced) :
    segs.filterMap crash.survivor = segs := by
  induction segs with
  | nil => rfl
  | cons seg segs ih =>
    obtain ⟨hseg, hrest⟩ := forall_mem_cons.mp hdurable
    rw [filterMap_cons, crash.survivor_durable hseg, ih hrest]

/-! ## Reopening after a crash -/

section Reopening

variable {format : Format}
variable {disk : Disk}

/-- Recovery of files that hold entries and nothing else. -/
lemma recover_clean {groups : List (List Entry)}
    (hclean : List.Forall₂ (Clean format) disk.segs groups) (hsound : Sound format groups.flatten)
    (hascends : Ascends none groups.flatten) :
    ∃ report position, recover format disk = .ok (report, position, disk) ∧
      report.records = groups.flatten.map Entry.toRecord := by
  have hrising : Rising none (recordsOf groups).flatten := by
    rw [flatten_recordsOf, rising_map_toRecord]
    exact hascends
  obtain ⟨report, hscan, hrecords, -⟩ := scanDir_reads (reads_clean hclean hsound) hrising true
  rw [recover, hscan]
  exact ⟨report, _, rfl, by rw [hrecords, flatten_recordsOf]⟩

variable {entries whole : List Entry} {written : Nat}

lemma Ascends.of_isPrefix {prevLsn : Option Nat} (hascends : Ascends prevLsn entries)
    (hbegins : whole <+: entries) : Ascends prevLsn whole := by
  obtain ⟨rest, rfl⟩ := hbegins
  exact (ascends_append.mp hascends).1

/-- Every record whose header is within the first bytes can be read. -/
def Legible (format : Format) (entries : List Entry) (written : Nat) : Prop :=
  ∀ before entry after, entries = before ++ entry :: after →
    (encodeAll format before).length + headerSize ≤ written → entry.Readable format

lemma exists_first_illegible (hillegible : ¬Legible format entries written) :
    ∃ before entry after, entries = before ++ entry :: after ∧
      (∀ other ∈ before, other.Readable format) ∧ ¬entry.Readable format ∧
      (encodeAll format before).length + headerSize ≤ written := by
  rw [Legible] at hillegible
  push Not at hillegible
  obtain ⟨before, entry, after, rfl, hwritten, hlong⟩ := hillegible
  obtain ⟨first, bad, rest, hsplit, hfirst, hbad⟩ :=
    @exists_first_unreadable format (before ++ [entry]) fun hall => hlong (hall entry (by simp))
  refine ⟨first, bad, rest ++ after, ?_, hfirst, hbad, ?_⟩
  · rw [← cons_append, ← append_assoc, ← hsplit, append_assoc]
    rfl
  · have hle : (encodeAll format first).length ≤ (encodeAll format before).length := by
      obtain ⟨others, hothers⟩ : first <+: before := by
        refine prefix_of_prefix_length_le ⟨_, hsplit.symm⟩ (prefix_append _ [entry]) ?_
        have hlength := congrArg List.length hsplit
        simp only [length_append, length_cons, length_nil] at hlength
        omega
      rw [← hothers, encodeAll_append, length_append]
      exact Nat.le_add_right _ _
    omega

lemma Legible.of_cut {start : List UInt8} (hlegible : Legible format entries written)
    (haccepted : ∀ entry ∈ entries, entry.Accepted)
    (hcut : Cut (Entry.encode format) entries whole start)
    (hwritten : (encodeAll format whole).length + start.length ≤ written) :
    Sound format whole ∧ Torn format start := by
  have hwhole : Sound format whole := by
    intro entry hmem
    obtain ⟨rest, rfl⟩ := hcut.whole_isPrefix
    refine ⟨haccepted entry (mem_append_left _ hmem), ?_⟩
    obtain ⟨before, after, rfl⟩ := append_of_mem hmem
    refine hlegible before entry (after ++ rest) (by simp) ?_
    rw [encodeAll_append, encodeAll_cons, length_append, length_append,
      Entry.length_encode, Entry.size] at hwritten
    omega
  refine ⟨hwhole, ?_⟩
  cases hcut with
  | clean _ rest => exact .inl rfl
  | torn _ rest entry _ hpart hproper hnonempty =>
    refine .inr ⟨entry, haccepted entry (by simp), fun hheader => ?_, hpart, hproper⟩
    exact hlegible whole entry rest rfl (by omega)

lemma Stored.recover_crash {segment : Nat} {pending : List UInt8} {appended : List Entry}
    {view : View} (hstored : Stored format disk segment pending appended 0 view)
    (hlegible : Legible format appended (Wal.totalBytes disk)) (crash : Crash) :
    ∃ whole start report position next,
      Cut (Entry.encode format) appended whole start ∧
      (encodeAll format whole).length + start.length = Wal.totalBytes (disk.crash crash) ∧
      recover format (disk.crash crash).syncDir = .ok (report, position, next) ∧
      next.manifest = disk.manifest ∧ report.records = whole.map Entry.toRecord := by
  have haccepted : ∀ entry ∈ appended, entry.Accepted := fun entry hmem => hstored.accepted hmem
  have hascends := hstored.ascends_kept
  have htotal := hstored.totalBytes_eq
  have hkept : view.groups.flatten ++ view.entries = appended := hstored.kept_eq
  rw [View.kept] at hascends
  have hsegs : (disk.crash crash).segs =
      view.closed ++ (crash.survivor (segment, view.file)).toList := by
    rw [Disk.crash, hstored.ends.segs, filterMap_append,
      crash.filterMap_durable hstored.durable, filterMap_cons]
    cases crash.survivor (segment, view.file) <;> rfl
  rw [← hkept] at haccepted hlegible ⊢
  by_cases hsurvives : (view.file.entrySynced || crash.keeps segment)
  · -- The active file is cut somewhere.
    rw [Crash.survivor, if_pos hsurvives, Option.toList_some] at hsegs
    dsimp only at hsegs
    generalize max view.file.synced (crash.cut segment) = count at hsegs
    obtain ⟨start, hcut, htake⟩ := exists_cut (Entry.encode format) view.entries
      (min count view.file.bytes.length)
    generalize wholeFrames _ _ view.entries = whole at hcut htake
    have hbytes : view.file.bytes.take count = encodeAll format whole ++ start := by
      rw [encodeAll, ← htake, ← encodeAll, ← hstored.active, take_append_of_le_length
        (Nat.min_le_right _ _), take_eq_take_min]
    have hwhole := hcut.append_left view.groups.flatten
    have hleft : (encodeAll format (view.groups.flatten ++ whole)).length + start.length =
        (encodeAll format view.groups.flatten).length + (view.file.bytes.take count).length := by
      rw [encodeAll_append, length_append, hbytes, length_append, Nat.add_assoc]
    obtain ⟨hsound, htorn⟩ := hlegible.of_cut haccepted hwhole (by
      rw [hleft, htotal, length_take]
      omega)
    have hends : (disk.crash crash).Ends view.closed segment
        ⟨view.file.bytes.take count, (view.file.bytes.take count).length, true⟩ :=
      ⟨hsegs, hstored.ends.below⟩
    obtain ⟨report, hrecover, hrecords, -⟩ := recover_torn hends.syncDir.segs
      (clean_syncEntries hstored.clean) hbytes htorn hsound
      (hascends.of_isPrefix hwhole.whole_isPrefix)
    refine ⟨_, start, report, _, _, hwhole, ?_, hrecover, rfl, hrecords⟩
    rw [hleft, ← totalBytes_clean hstored.clean disk.manifest, Wal.totalBytes, Wal.totalBytes,
      hsegs, map_append, sum_append]
    rfl
  · -- The active file is gone, and the log ends with the closed segments.
    rw [Crash.survivor, if_neg hsurvives, Option.toList_none, append_nil] at hsegs
    have hclean : List.Forall₂ (Clean format) (disk.crash crash).syncDir.segs view.groups := by
      rw [Disk.syncDir, hsegs]
      exact clean_syncEntries hstored.clean
    have hcut : Cut (Entry.encode format) (view.groups.flatten ++ view.entries)
        view.groups.flatten [] := .clean _ _
    obtain ⟨hsound, -⟩ := hlegible.of_cut haccepted hcut (by
      rw [htotal, length_nil]
      omega)
    obtain ⟨report, position, hrecover, hrecords⟩ :=
      recover_clean hclean hsound (ascends_append.mp hascends).1
    refine ⟨view.groups.flatten, [], report, position, _, hcut, ?_, hrecover, rfl, hrecords⟩
    rw [← totalBytes_clean hstored.clean disk.manifest, ← hsegs]
    rfl

lemma openDir_of_recover {config : WalConfig} (hconfig : Wal.checkConfig config = .ok ())
    {next : Disk} {report : RecoveryReport} {position : Nat × Nat}
    (hrecover : recover format disk.syncDir = .ok (report, position, next))
    (hmanifest : Wal.manifestLsn next.manifest = .ok 0) (io : WalIo) :
    ∃ wal last, Wal.openDir format config io disk = (.ok wal, last) ∧ wal.report = report := by
  obtain ⟨segment, offset⟩ := position
  refine ⟨Wal.recovered config report segment offset 0, next.openSegment segment, ?_, rfl⟩
  rw [Wal.openDir, hconfig]
  dsimp only
  rw [hrecover]
  dsimp only
  rw [hmanifest]
  dsimp only
  rw [if_neg (Nat.not_lt_zero _), if_neg fun hretains => hretains.2 rfl]

end Reopening

/-! ## What was reported as durable -/

/-- `durable_lsn`, as the open instance reports it. -/
def Site.durableLsn (site : Site) : Nat := site.wal.elim 0 (·.inner.durableLsn)

/-- A log, and the greatest `durable_lsn` that any of its instances reported. -/
structure Observed where
  site : Site
  reported : Nat

namespace Observed

def fresh : Observed := ⟨.fresh, 0⟩

def step (format : Format) (log : Observed) (op : WalOp) : Observed :=
  ⟨log.site.step format op, max log.reported (log.site.step format op).durableLsn⟩

/-- After any crash reopening recovers a prefix, with every record reported as durable. -/
def Survives (format : Format) (log : Observed) : Prop :=
  ∀ crash config, Wal.checkConfig config = .ok () → ∃ wal disk,
      Wal.openDir format config (.healthy 0) (log.site.disk.crash crash) = (.ok wal, disk) ∧
      wal.report.records <+: log.site.appended.map Entry.toRecord ∧
      ∀ entry ∈ log.site.appended, entry.lsn ≤ log.reported → entry.toRecord ∈ wal.report.records

def Readable (format : Format) (log : Observed) : Prop :=
  Legible format log.site.appended (Wal.totalBytes log.site.disk)

/-- The entries that were reported as durable lie within the bytes that no crash takes. -/
def Covered (format : Format) (log : Observed) : Prop :=
  (encodeAll format (log.site.appended.take log.reported)).length ≤ log.site.disk.safeBytes

end Observed

/-! ## Numbers -/

lemma Numbered.lsn_eq {before after : List Entry} {entry : Entry}
    (hnumbered : Numbered (before ++ entry :: after)) : entry.lsn = before.length + 1 := by
  have hget : ((before ++ entry :: after).map (·.lsn))[before.length]? = some entry.lsn := by simp
  rw [hnumbered, List.getElem?_range' (by simp), Nat.one_mul, Nat.add_comm] at hget
  exact (Option.some.inj hget).symm

lemma Numbered.mem_of_prefix {appended later : List Entry} (hnumbered : Numbered later)
    (hgrows : appended <+: later) {entry : Entry} (hmem : entry ∈ later)
    (hlsn : entry.lsn ≤ appended.length) : entry ∈ appended := by
  obtain ⟨rest, rfl⟩ := hgrows
  rcases mem_append.mp hmem with hearlier | hrest
  · exact hearlier
  · obtain ⟨before, after, rfl⟩ := append_of_mem hrest
    rw [← append_assoc] at hnumbered
    have hnumber := hnumbered.lsn_eq
    rw [length_append] at hnumber
    omega

lemma Numbered.contains_iff {appended whole : List Entry} (hnumbered : Numbered appended)
    (hbegins : whole <+: appended) {reported : Nat} (hreported : reported ≤ appended.length) :
    (∀ entry ∈ appended, entry.lsn ≤ reported →
        entry.toRecord ∈ whole.map Entry.toRecord) ↔ reported ≤ whole.length := by
  obtain ⟨rest, rfl⟩ := hbegins
  constructor
  · intro hcontains
    by_contra hshort
    cases rest with
    | nil =>
      rw [append_nil] at hreported
      exact hshort hreported
    | cons next rest =>
      have hlsn := hnumbered.lsn_eq
      obtain ⟨entry, hmem, hrecord⟩ := mem_map.mp (hcontains next (by simp) (by omega))
      have hbefore := (pairwise_append.mp hnumbered.pairwise).2.2 entry hmem next (by simp)
      exact absurd (congrArg Record.lsn hrecord) (Nat.ne_of_lt hbefore)
  · intro hle entry hmem hlsn
    exact mem_map_of_mem (hnumbered.mem_of_prefix (prefix_append _ _) hmem (hlsn.trans hle))

/-! ## Every crash -/

section Crashes

variable {format : Format} {disk : Disk} {segment : Nat} {pending : List UInt8}
  {appended : List Entry} {view : View}

lemma Stored.synced_le (hstored : Stored format disk segment pending appended 0 view) :
    ∀ seg ∈ disk.segs, seg.2.synced ≤ seg.2.bytes.length := by
  rw [hstored.ends.segs, forall_mem_append]
  refine ⟨fun seg hmem => (hstored.durable seg hmem).1.le, ?_⟩
  rw [forall_mem_singleton]
  exact hstored.synced

lemma Stored.crash_none (hstored : Stored format disk segment pending appended 0 view) :
    ∃ crash left, Stored format (disk.crash crash) segment pending appended 0 left ∧
      Wal.totalBytes (disk.crash crash) = Wal.totalBytes disk := by
  have hsurvivor : Crash.survivor ⟨fun _ => true, fun _ => view.file.bytes.length⟩
      (segment, view.file) = some (segment, ⟨view.file.bytes, view.file.bytes.length, true⟩) := by
    rw [Crash.survivor, Bool.or_true, if_pos rfl]
    dsimp only
    rw [take_of_length_le (le_max_right _ _)]
  have hsegs : (disk.crash ⟨fun _ => true, fun _ => view.file.bytes.length⟩).segs =
      view.closed ++ [(segment, ⟨view.file.bytes, view.file.bytes.length, true⟩)] := by
    rw [Disk.crash, hstored.ends.segs, filterMap_append,
      Crash.filterMap_durable _ hstored.durable, filterMap_cons, hsurvivor]
    rfl
  have hcrashed : Stored format (disk.crash ⟨fun _ => true, fun _ => view.file.bytes.length⟩)
      segment pending appended 0
      { view with file := ⟨view.file.bytes, view.file.bytes.length, true⟩ } :=
    { hstored with
      ends := ⟨hsegs, hstored.ends.below⟩
      synced := Nat.le_refl _ }
  exact ⟨_, _, hcrashed, by rw [hcrashed.totalBytes_eq, hstored.totalBytes_eq]⟩

variable {log : Observed}

lemma Stored.readable_of_survives
    (hstored : Stored format log.site.disk segment pending log.site.appended 0 view)
    (hsurvives : log.Survives format) : log.Readable format := by
  by_contra hillegible
  obtain ⟨before, entry, after, happended, hreadable, hlong, hwritten⟩ :=
    exists_first_illegible hillegible
  obtain ⟨crash, left, hcrashed, htotal⟩ := hstored.crash_none
  have hsynced := hcrashed.syncDir
  obtain ⟨segment, offset, length, hrecover⟩ := hsynced.recover_unreadable
    (hsynced.kept_eq.trans happended) hreadable hlong (by
      rw [hsynced.totalBytes_eq, ← hcrashed.totalBytes_eq, htotal]
      exact hwritten)
  obtain ⟨wal, last, hopen, -⟩ := hsurvives crash smallSegments rfl
  rw [Wal.openDir, show Wal.checkConfig smallSegments = .ok () from rfl] at hopen
  dsimp only at hopen
  rw [hrecover] at hopen
  cases hopen

lemma Stored.survives_iff
    (hstored : Stored format log.site.disk segment pending log.site.appended 0 view)
    (hreported : log.reported ≤ log.site.appended.length) :
    log.Survives format ↔ log.Readable format ∧ log.Covered format := by
  obtain ⟨hsafe, hworst⟩ := Disk.safeBytes_le_crash hstored.synced_le
  constructor
  · -- The worst crash leaves the safe bytes only, so what it keeps is covered by them.
    intro hsurvives
    have hreadable := hstored.readable_of_survives hsurvives
    refine ⟨hreadable, ?_⟩
    obtain ⟨whole, start, report, position, next, hcut, hleft, hrecover, hmanifest, hrecords⟩ :=
      hstored.recover_crash hreadable .worst
    obtain ⟨wal, last, hopen, -, hcontains⟩ := hsurvives .worst smallSegments rfl
    obtain ⟨wal', last', hopen', hreport⟩ := openDir_of_recover
      (show Wal.checkConfig smallSegments = .ok () from rfl) hrecover
      (hmanifest ▸ hstored.manifest) (.healthy 0)
    obtain ⟨hwal, -⟩ := Prod.mk.inj (hopen.symm.trans hopen')
    obtain rfl : wal = wal' := Except.ok.inj hwal
    rw [hreport, hrecords, hstored.numbered.contains_iff hcut.whole_isPrefix hreported,
      hcut.le_length_iff (Entry.encode_ne_nil format) hreported] at hcontains
    rw [Observed.Covered, ← hworst, ← hleft]
    exact hcontains
  · rintro ⟨hreadable, hcovered⟩ crash config hconfig
    obtain ⟨whole, start, report, position, next, hcut, hleft, hrecover, hmanifest, hrecords⟩ :=
      hstored.recover_crash hreadable crash
    obtain ⟨wal, last, hopen, hreport⟩ := openDir_of_recover hconfig hrecover
      (hmanifest ▸ hstored.manifest) (.healthy 0)
    refine ⟨wal, last, hopen, ?_⟩
    rw [hreport, hrecords, hstored.numbered.contains_iff hcut.whole_isPrefix hreported,
      hcut.le_length_iff (Entry.encode_ne_nil format) hreported]
    refine ⟨hcut.whole_isPrefix.map _, ?_⟩
    have hkept : (encodeAll format whole).length + start.length ≥ log.site.disk.safeBytes :=
      hleft ▸ hsafe crash
    exact hcovered.trans hkept

end Crashes

/-! ## Runs -/

section Runs

variable {format : Format}

lemma Site.appended_prefix_step (site : Site) (op : WalOp) :
    site.appended <+: (site.step format op).appended := by
  have hreopen : ∀ config, site.appended <+: (site.reopen format config).appended := by
    intro config
    rw [Site.reopen]
    split
    · exact prefix_rfl
    · exact prefix_rfl
  obtain ⟨disk, wal, appended⟩ := site
  cases wal with
  | none =>
    cases op with
    | reopen config => exact hreopen config
    | _ => exact prefix_rfl
  | some wal =>
    cases op with
    | append nowNs payload =>
      have hstep : Site.step format ⟨disk, some wal, appended⟩ (.append nowNs payload) =
          Site.operate format ⟨disk, some wal, appended⟩ wal (.append nowNs payload) := rfl
      rw [hstep, Site.operate]
      split
      · exact prefix_rfl
      · exact prefix_rfl
      · exact prefix_append _ _
    | reopen config => exact hreopen config
    | _ => exact prefix_rfl

variable {site : Site} {ckptLsn : Nat}

section

variable (hholds : Holds format site ckptLsn)

include hholds

lemma Holds.stored : site = .fresh ∨ ∃ segment pending view,
      Stored format site.disk segment pending site.appended ckptLsn view := by
  cases hholds with
  | fresh => exact .inl rfl
  | closed hstored => exact .inr ⟨_, _, _, hstored⟩
  | live hstored htracks => exact .inr ⟨_, _, _, hstored⟩

lemma Holds.numbered : Numbered site.appended := by
  rcases hholds.stored with rfl | ⟨_, _, _, hstored⟩
  · rfl
  · exact hstored.numbered

lemma Holds.room : site.appended.length < u64Max := by
  rcases hholds.stored with rfl | ⟨_, _, _, hstored⟩
  · decide
  · exact hstored.room

lemma Holds.durableLsn_le : site.durableLsn ≤ site.appended.length := by
  cases hholds with
  | fresh => exact Nat.le_refl 0
  | closed hstored => exact Nat.zero_le _
  | live hstored htracks => exact htracks.durable

end

lemma Observed.holds_run (format : Format) {ops : List WalOp}
    (hops : ∀ op ∈ ops, ∀ lsn, op ≠ .checkpoint lsn) :
    Holds format (run (Observed.step format) .fresh ops).site 0 ∧
      (run (Observed.step format) .fresh ops).reported ≤
        (run (Observed.step format) .fresh ops).site.appended.length := by
  have hstep : ∀ (log : Observed) (op : WalOp),
      Holds format log.site 0 ∧ log.reported ≤ log.site.appended.length →
      (∀ lsn, op ≠ WalOp.checkpoint lsn) →
      Holds format (log.step format op).site 0 ∧
        (log.step format op).reported ≤ (log.step format op).site.appended.length := by
    rintro log op ⟨hholds, hreported⟩ hother
    obtain ⟨next, hnext, hsame⟩ := hholds.step op
    rw [hsame hother] at hnext
    refine ⟨hnext, max_le ?_ hnext.durableLsn_le⟩
    exact hreported.trans (log.site.appended_prefix_step op).length_le
  have hstart : Holds format Observed.fresh.site 0 ∧
      Observed.fresh.reported ≤ Observed.fresh.site.appended.length := ⟨.fresh, Nat.le_refl 0⟩
  exact (Along.of_respects hstep hstart (.of_forall fun op hmem _ => hops op hmem)).last

lemma Observed.survives_fresh (format : Format) : Observed.fresh.Survives format := by
  intro crash config hconfig
  obtain ⟨wal, view, hopen, -, hrecords, -⟩ := openDir_fresh format hconfig (.healthy 0)
  refine ⟨wal, _, hopen, ?_, nofun⟩
  rw [hrecords]
  exact nil_prefix

/-- After any appends, barriers and reopenings, the log survives every crash if and only if
recovery accepts every header that reached a file, and the entries reported as durable lie
within fsynced bytes of files whose directory entry is durable. -/
theorem Observed.survives_iff_covered (format : Format) (ops : List WalOp)
    (hops : ∀ op ∈ ops, ∀ lsn, op ≠ .checkpoint lsn) :
    let log := run (Observed.step format) .fresh ops
    log.Survives format ↔ log.Readable format ∧ log.Covered format := by
  intro log
  obtain ⟨hholds, hreported⟩ : Holds format log.site 0 ∧
      log.reported ≤ log.site.appended.length := Observed.holds_run format hops
  rcases hholds.stored with hfresh | ⟨segment, pending, view, hstored⟩
  · generalize log = observed at hfresh hreported ⊢
    obtain ⟨site, reported⟩ := observed
    subst hfresh
    obtain rfl : reported = 0 := Nat.le_zero.mp hreported
    refine ⟨fun _ => ⟨?_, Nat.le_refl 0⟩, fun _ => Observed.survives_fresh format⟩
    intro before entry after happended
    exact absurd happended.symm (by simp [Site.fresh])
  · exact hstored.survives_iff hreported

def syncEachConfig : WalConfig := ⟨.syncEach, false, 67108864, 0, 65536⟩

def bufferedConfig : WalConfig := ⟨.buffered, false, 67108864, 0, 65536⟩

/-- A log that was opened twice before the append survives every crash: the second open
fsyncs the directory with the first segment in it. -/
theorem Observed.survives_reopened :
    (run (Observed.step Wal.plainFormat) .fresh
      [.reopen syncEachConfig, .reopen syncEachConfig, .append 0 []]).Survives Wal.plainFormat := by
  refine (Observed.survives_iff_covered Wal.plainFormat
    [.reopen syncEachConfig, .reopen syncEachConfig, .append 0 []] (by simp)).mpr ⟨?_, ?_⟩
  · intro before entry after happended _
    have hall : ∀ entry ∈ (run (Observed.step Wal.plainFormat) .fresh
        [.reopen syncEachConfig, .reopen syncEachConfig, .append 0 []]).site.appended,
        entry.Readable Wal.plainFormat := by decide +kernel
    exact hall entry (happended ▸ by simp)
  · rw [Observed.Covered]
    decide +kernel

def Observed.recovered (format : Format) (config : WalConfig) (crash : Crash) (log : Observed) :
    Option (List Record) :=
  (Wal.openDir format config (.healthy 0) (log.site.disk.crash crash)).1.toOption.map
    (·.report.records)

/-- One empty record was appended and reported as durable, and the worst crash takes it. -/
def Observed.LosesRecord (config : WalConfig) (log : Observed) : Prop :=
  log.site.appended.map Entry.toRecord = [⟨1, []⟩] ∧ log.reported = 1 ∧
    log.recovered Wal.plainFormat config .worst = some []

instance (config : WalConfig) (log : Observed) : Decidable (log.LosesRecord config) :=
  inferInstanceAs (Decidable (_ ∧ _))

/-- A record that was reported as durable is lost: in the first segment of a new directory,
whose entry no fsync of the directory has covered, and after a clean reopening of a log
that was never fsynced, which reports what it reads as durable. -/
theorem Observed.crash_loses_durable :
    (run (Observed.step Wal.plainFormat) .fresh
        [.reopen syncEachConfig, .append 0 []]).LosesRecord syncEachConfig ∧
      (run (Observed.step Wal.plainFormat) .fresh
        [.reopen bufferedConfig, .append 0 [], .reopen bufferedConfig]).LosesRecord
          bufferedConfig := by
  decide +kernel

end Runs

end RamShield.Ramwal

import RamShield.Ramwal.Locking
import RamShield.Ramwal.Log

/-! # Closing and opening the log

A clean close leaves a directory that recovery reads back whole, unless a record is
stored longer than recovery accepts. Opening builds an instance that agrees with the
directory, so the invariant of the log holds over every run, through any number of
instances.
-/

namespace RamShield.Ramwal

open Foundation Foundation.Machine List Option

/-! ## The metadata after a scan -/

def seeded (closed : List (Nat × SegFile)) (groups : List (List Entry)) : List (Nat × Nat) :=
  List.zipWith (fun seg group => (seg.1, groupLast group)) closed groups

variable {closed : List (Nat × SegFile)} {groups : List (List Entry)} {segment : Nat}
  {disk : Disk}

lemma exists_of_mem_seeded {entry : Nat × Nat} (hmem : entry ∈ seeded closed groups) :
    ∃ seg ∈ closed, entry.1 = seg.1 := by
  induction closed generalizing groups with
  | nil => cases hmem
  | cons seg closed ih =>
    cases groups with
    | nil => cases hmem
    | cons group groups =>
      rcases mem_cons.mp hmem with rfl | hmem
      · exact ⟨seg, mem_cons_self, rfl⟩
      · obtain ⟨other, hother, hindex⟩ := ih hmem
        exact ⟨other, mem_cons_of_mem _ hother, hindex⟩

lemma lastLsnOf_seeded {newest : List (Nat × Nat)} {related : Nat × SegFile → List Entry → Prop}
    (hall : List.Forall₂ related closed groups)
    (hascending : closed.Pairwise fun earlier later => earlier.1 < later.1)
    (hbelow : ∀ seg ∈ closed, seg.1 < segment) (hnewest : ∀ entry ∈ newest, entry.1 = segment) :
    List.Forall₂
      (fun seg group =>
        Wal.lastLsnOf (seeded closed groups ++ newest) seg.1 = some (groupLast group))
      closed groups := by
  induction hall with
  | nil => exact .nil
  | @cons seg group closed groups _ hrest ih =>
    obtain ⟨hfirst, hlater⟩ := pairwise_cons.mp hascending
    obtain ⟨hseg, hclosed⟩ := forall_mem_cons.mp hbelow
    have hcons : seeded (seg :: closed) (group :: groups) ++ newest =
        (seg.1, groupLast group) :: (seeded closed groups ++ newest) := rfl
    rw [hcons]
    refine .cons ?_ ?_
    · have habsent : ∀ entry ∈ seeded closed groups ++ newest, entry.1 ≠ seg.1 := by
        intro entry hmem
        rcases mem_append.mp hmem with hmem | hmem
        · obtain ⟨other, hother, hindex⟩ := exists_of_mem_seeded hmem
          rw [hindex]
          exact Nat.ne_of_gt (hfirst other hother)
        · rw [hnewest entry hmem]
          exact Nat.ne_of_gt hseg
      rw [Wal.lastLsnOf_cons, if_pos rfl, Wal.lastLsnOf_eq_none habsent]
      rfl
    · have hmembers := (List.forall₂_and_left _ _).mpr
        ⟨fun other (hmem : other ∈ closed) => hmem, ih hlater hclosed⟩
      refine hmembers.imp ?_
      rintro other group' ⟨hmem, hlast⟩
      rw [Wal.lastLsnOf_cons, if_neg (Nat.ne_of_lt (hfirst other hmem)), hlast]

lemma filterMap_reports (hnonempty : ∀ group ∈ groups, group ≠ []) :
    (List.zipWith (fun seg entries => reportOf seg.1 entries) closed groups).filterMap
        (fun seg => seg.lastLsn.map fun lsn => (seg.segment, lsn)) = seeded closed groups := by
  induction closed generalizing groups with
  | nil => rfl
  | cons seg closed ih =>
    cases groups with
    | nil => rfl
    | cons group groups =>
      obtain ⟨hgroup, hgroups⟩ := forall_mem_cons.mp hnonempty
      have hreport : (reportOf seg.1 group).lastLsn = some (groupLast group) := by
        rw [reportOf, groupLast, List.getLast?_eq_some_getLast hgroup]
        rfl
      rw [zipWith_cons_cons, filterMap_cons, hreport]
      exact congrArg _ (ih hgroups)

lemma mem_of_lastLsnOf {closed : List (Nat × Nat)} {index last : Nat}
    (hlast : Wal.lastLsnOf closed index = some last) : (index, last) ∈ closed := by
  rw [Wal.lastLsnOf] at hlast
  obtain ⟨entry, hmem, hvalue⟩ := mem_map.mp (List.max?_mem hlast)
  obtain ⟨hentry, hindex⟩ := mem_filter.mp hmem
  obtain ⟨found, value⟩ := entry
  obtain rfl : found = index := of_decide_eq_true hindex
  obtain rfl : value = last := hvalue
  exact hentry

lemma Numbered.getLast? {entries : List Entry} (hnumbered : Numbered entries)
    (hnonempty : entries ≠ []) : (entries.getLast?).map (·.lsn) = some entries.length := by
  rw [← List.getLast?_map, hnumbered, List.getLast?_range', if_neg]
  · simp
  · rw [length_eq_zero_iff]
    exact hnonempty

lemma Stored.lastLsn_kept {format : Format} {pending : List UInt8} {appended : List Entry}
    {ckptLsn : Nat} {view : View}
    (hstored : Stored format disk segment pending appended ckptLsn view) :
    lastLsn none view.kept = if appended = [] then none else some appended.length := by
  rw [lastLsn_eq, or_none]
  by_cases hempty : appended = []
  · have hkept : view.kept = [] := (append_eq_nil_iff.mp (hstored.history.symm.trans hempty)).2
    rw [if_pos hempty, hkept]
    rfl
  · have hlast := hstored.numbered.getLast? hempty
    have hkept : view.kept ≠ [] := by
      -- Otherwise the last entry was dropped, but it is not below the checkpoint.
      intro hkept
      obtain ⟨entry, hentry, hlsn⟩ := map_eq_some_iff.mp hlast
      have hmem : entry ∈ appended := mem_of_getLast? hentry
      rw [hstored.history, hkept, append_nil] at hmem
      have hbelow := hstored.covered entry hmem
      have hckpt := hstored.checkpoint
      omega
    rw [if_neg hempty, ← hlast, hstored.history, List.getLast?_append_of_ne_nil _ hkept]

/-! ## Opening -/

lemma Disk.Ends.openSegment {file : SegFile} (hends : disk.Ends closed segment file) :
    disk.openSegment segment = disk := by
  have hput := (hends.put file).segs
  rw [Disk.openSegment, hends.file_eq, Disk.put, ← hends.segs] at *
  exact congrArg (Disk.mk · disk.manifest) hput

section Unreadable

variable {format : Format}

lemma totalBytes_cons (seg : Nat × SegFile) (segs : List (Nat × SegFile))
    (manifest : Option (Option Nat)) :
    Wal.totalBytes ⟨seg :: segs, manifest⟩ = seg.2.bytes.length + Wal.totalBytes ⟨segs, manifest⟩ :=
  rfl

lemma totalBytes_clean {segs : List (Nat × SegFile)} {groups : List (List Entry)}
    (hclean : List.Forall₂ (Clean format) segs groups) (manifest : Option (Option Nat)) :
    Wal.totalBytes ⟨segs, manifest⟩ = (encodeAll format groups.flatten).length := by
  induction hclean with
  | nil => rfl
  | @cons seg entries segs groups hseg _ ih =>
    have hbytes : seg.2.bytes = encodeAll format entries := hseg
    rw [totalBytes_cons, ih, hbytes, flatten_cons, encodeAll_append, length_append]

/-- The first record that recovery cannot read. -/
lemma exists_first_unreadable {entries : List Entry}
    (hlong : ¬∀ entry ∈ entries, entry.Readable format) :
    ∃ before entry after, entries = before ++ entry :: after ∧
      (∀ other ∈ before, other.Readable format) ∧ ¬entry.Readable format := by
  induction entries with
  | nil => exact absurd (nofun) hlong
  | cons head entries ih =>
    by_cases hhead : head.Readable format
    · obtain ⟨before, entry, after, rfl, hbefore, hentry⟩ :=
        ih fun hall => hlong (forall_mem_cons.mpr ⟨hhead, hall⟩)
      exact ⟨head :: before, entry, after, rfl, forall_mem_cons.mpr ⟨hhead, hbefore⟩, hentry⟩
    · exact ⟨[], head, entries, rfl, nofun, hhead⟩

variable {entry : Entry}

lemma header_of_prefix {file pending first rest : List UInt8}
    (hbytes : file ++ pending = first ++ (entry.encode format ++ rest))
    (hwritten : first.length + headerSize ≤ file.length) :
    ∃ bytes, file = first ++ bytes ∧ bytes.take headerSize = (entry.header format).encode := by
  obtain ⟨bytes, rfl⟩ : first <+: file :=
    prefix_of_prefix_length_le ⟨_, hbytes.symm⟩ (prefix_append _ _) (by omega)
  refine ⟨bytes, rfl, ?_⟩
  rw [append_assoc, append_cancel_left_eq] at hbytes
  rw [length_append] at hwritten
  rw [← take_append_of_le_length (by omega), hbytes, Entry.encode, append_assoc,
    take_left' (RecordHeader.length_encode _)]

variable {rest : List (Nat × SegFile)} {file : SegFile} {entries after before : List Entry}

lemma recover_unreadable {bytes : List UInt8}
    (hsegs : disk.segs = closed ++ (segment, file) :: rest)
    (hclean : List.Forall₂ (Clean format) closed groups)
    (hfile : file.bytes = encodeAll format before ++ bytes)
    (hsound : Sound format (groups.flatten ++ before))
    (hascends : Ascends none (groups.flatten ++ before)) (haccepted : entry.Accepted)
    (hlong : ¬entry.Readable format)
    (hheader : bytes.take headerSize = (entry.header format).encode) :
    ∃ bad offset length, recover format disk =
      .error (.corruption bad offset (.invalidLength 14 length)) := by
  have hbytes : bytes ≠ [] := by
    rintro rfl
    exact absurd hheader.symm (ne_nil_of_length_eq_add_one (RecordHeader.length_encode _))
  rw [recover, scanDir_stops_behind hsegs hclean hfile hsound hascends hbytes
    fun _ => .inl (readRecord_unreadable haccepted hlong hheader)]
  exact ⟨_, _, _, rfl⟩

lemma exists_group (hflatten : groups.flatten = before ++ entry :: after) :
    ∃ earlier inside rest later, groups = earlier ++ (inside ++ entry :: rest) :: later ∧
      before = earlier.flatten ++ inside := by
  rcases flatten_eq_append_iff.mp hflatten with
    ⟨earlier, others, rfl, rfl, hothers⟩ | ⟨earlier, inside, next, rest, later, rfl, rfl, hnext⟩
  · obtain ⟨empty, rest, later, rfl, hempty, -⟩ := flatten_eq_cons_iff.mp hothers.symm
    refine ⟨earlier ++ empty, [], rest, later, by simp, ?_⟩
    rw [flatten_append, flatten_eq_nil_iff.mpr hempty]
    simp
  · obtain ⟨rfl, -⟩ := List.cons.inj hnext
    exact ⟨earlier, inside, rest, later, rfl, rfl⟩

/-- A record of the log is in the newest file or in an older one. -/
lemma splits_kept {entry : Entry} (hkept : groups.flatten ++ entries = before ++ entry :: after) :
    (∃ inside, before = groups.flatten ++ inside ∧ entries = inside ++ entry :: after) ∨
      ∃ later, groups.flatten = before ++ entry :: later := by
  rcases append_eq_append_iff.mp hkept with ⟨inside, rfl, hentries⟩ | ⟨later, hgroups, hentry⟩
  · exact .inl ⟨inside, rfl, hentries⟩
  · cases later with
    | nil =>
      rw [append_nil] at hgroups
      exact .inl ⟨[], by rw [hgroups, append_nil], hentry.symm⟩
    | cons next later =>
      obtain ⟨rfl, -⟩ := List.cons.inj hentry
      exact .inr ⟨later, hgroups⟩

lemma recover_unreadable_of_kept {more pending : List UInt8} {entry : Entry}
    (hsegs : disk.segs = closed ++ (segment, file) :: rest)
    (hclean : List.Forall₂ (Clean format) closed groups)
    (hfile : file.bytes ++ pending = encodeAll format entries ++ more)
    (hkept : groups.flatten ++ entries = before ++ entry :: after)
    (haccepted : ∀ other ∈ groups.flatten ++ entries, other.Accepted)
    (hascends : Ascends none (groups.flatten ++ entries))
    (hreadable : ∀ other ∈ before, other.Readable format) (hlong : ¬entry.Readable format)
    (hwritten : (encodeAll format before).length + headerSize ≤
      (encodeAll format groups.flatten).length + file.bytes.length) :
    ∃ bad offset length, recover format disk =
      .error (.corruption bad offset (.invalidLength 14 length)) := by
  rw [hkept] at haccepted hascends
  rw [ascends_append] at hascends
  have hsound : Sound format before := fun other hmem =>
    ⟨haccepted other (mem_append_left _ hmem), hreadable other hmem⟩
  have hentry : entry.Accepted := haccepted entry (by simp)
  rcases splits_kept hkept with ⟨inside, rfl, rfl⟩ | ⟨later, hgroups⟩
  · -- The record is in the newest file.
    have hbytes : file.bytes ++ pending = encodeAll format inside ++
        (entry.encode format ++ (encodeAll format after ++ more)) := by
      rw [hfile, encodeAll_append, encodeAll_cons, append_assoc, append_assoc]
    rw [encodeAll_append, length_append] at hwritten
    obtain ⟨bytes, hfile, hheader⟩ := header_of_prefix hbytes (by omega)
    exact recover_unreadable hsegs hclean hfile hsound hascends.1 hentry hlong hheader
  · -- The record is in an older one.
    obtain ⟨earlier, inside, others, behind, hsplit, rfl⟩ := exists_group hgroups
    rw [hsplit] at hclean
    obtain ⟨⟨bad, old⟩, between, hold, -, hdrop⟩ :=
      List.forall₂_cons_right_iff.mp (List.forall₂_drop_append _ _ _ hclean)
    have hclosed : disk.segs = closed.take earlier.length ++
        (bad, old) :: (between ++ (segment, file) :: rest) := by
      rw [hsegs, ← cons_append, ← hdrop, ← append_assoc, take_append_drop]
    have hbytes : old.bytes =
        encodeAll format inside ++ (entry.encode format ++ encodeAll format others) := by
      rw [← encodeAll_cons, ← encodeAll_append]
      exact hold
    exact recover_unreadable hclosed (List.forall₂_take_append _ _ _ hclean) hbytes hsound
      hascends.1 hentry hlong
      (by rw [Entry.encode, append_assoc, take_left' (RecordHeader.length_encode _)])

end Unreadable

namespace Stored

variable {format : Format} {appended : List Entry} {ckptLsn : Nat} {view : View}

section

variable (hstored : Stored format disk segment [] appended ckptLsn view)

include hstored

lemma sound_kept (hreadable : ∀ entry ∈ view.kept, entry.Readable format) :
    Sound format view.kept :=
  fun entry hmem => ⟨hstored.accepted (hstored.mem_appended hmem), hreadable entry hmem⟩

lemma recover_kept (hsound : Sound format view.kept) :
    ∃ report, recover format disk =
        .ok (report, (segment, (encodeAll format view.entries).length), disk) ∧
      report.records = view.kept.map Entry.toRecord ∧
      report.lastLsn = lastLsn none view.kept ∧
      report.segmentReports =
        List.zipWith (fun seg entries => reportOf seg.1 entries) view.closed view.groups ++
          [reportOf segment view.entries] := by
  have hactive : view.file.bytes = encodeAll format view.entries ++ [] := by
    rw [append_nil, ← hstored.active, append_nil]
  obtain ⟨report, hrecover, hreport⟩ :=
    recover_torn hstored.ends.segs hstored.clean hactive (.inl rfl) hsound hstored.ascends_kept
  refine ⟨report, ?_, hreport⟩
  rw [hrecover, repaired, if_pos rfl, ← hstored.ends.segs]

/-- The instance that opening builds agrees with the directory. -/
lemma tracks_recovered {report : RecoveryReport}
    (hlast : report.lastLsn = lastLsn none view.kept)
    (hreports : report.segmentReports =
      List.zipWith (fun seg entries => reportOf seg.1 entries) view.closed view.groups ++
        [reportOf segment view.entries])
    (config : WalConfig) :
    report.lastLsn.getD 0 = appended.length ∧
      Tracks format (Wal.recovered config report segment (encodeAll format view.entries).length
        ckptLsn) appended view := by
  have hnumber : report.lastLsn.getD 0 = appended.length := by
    rw [hlast, hstored.lastLsn_kept]
    split
    next hempty => rw [hempty]; rfl
    · rfl
  have hcounter : report.lastLsn.elim 1 (fun last => min (last + 1) u64Max) =
      appended.length + 1 := by
    rw [hlast, hstored.lastLsn_kept]
    split
    next hempty => rw [hempty]; rfl
    · exact min_eq_left hstored.room
  -- The reports seed the metadata of the closed segments, and one more entry for the active
  -- segment if it holds a record.
  obtain ⟨newest, hnewest, hclosed⟩ : ∃ newest : List (Nat × Nat),
      (∀ entry ∈ newest, entry.1 = segment ∧ entry.2 ≤ appended.length) ∧
      report.segmentReports.filterMap (fun seg => seg.lastLsn.map fun lsn => (seg.segment, lsn)) =
        seeded view.closed view.groups ++ newest := by
    refine ⟨((reportOf segment view.entries).lastLsn.map fun lsn => (segment, lsn)).toList, ?_, ?_⟩
    · intro entry hmem
      rw [mem_toList, map_eq_some_iff] at hmem
      obtain ⟨lsn, hlsn, rfl⟩ := hmem
      obtain ⟨last, hlast, rfl⟩ := map_eq_some_iff.mp hlsn
      have hkept : last ∈ view.kept := mem_append_right _ (mem_of_getLast? hlast)
      exact ⟨rfl, hstored.numbered.lsn_le (hstored.mem_appended hkept)⟩
    · rw [hreports, filterMap_append, filterMap_reports hstored.nonempty, filterMap_cons]
      cases hlsn : (reportOf segment view.entries).lastLsn <;> rfl
  have hbelow := hstored.ends.below
  refine ⟨hnumber, ?_⟩
  exact {
    ready := ⟨rfl, rfl, rfl, rfl⟩
    bytes := rfl
    written := hnumber
    counter := hcounter
    durable := hnumber.le
    checkpoint := hstored.checkpoint.trans hnumber.ge
    metadata := by
      simp only [Wal.recovered, hclosed]
      exact lastLsnOf_seeded hstored.clean hstored.ascending hbelow fun entry hmem =>
        (hnewest entry hmem).1
    active := by
      simp only [Wal.recovered, hclosed, hnumber]
      intro last hlast
      rcases mem_append.mp (mem_of_lastLsnOf hlast) with hmem | hmem
      · obtain ⟨seg, hseg, hindex⟩ := exists_of_mem_seeded hmem
        exact absurd hindex (Nat.ne_of_gt (hbelow seg hseg))
      · exact (hnewest _ hmem).2
    bounded := by
      simp only [Wal.recovered, hclosed]
      intro entry hmem
      rcases mem_append.mp hmem with hmem | hmem
      · obtain ⟨seg, hseg, hindex⟩ := exists_of_mem_seeded hmem
        rw [hindex]
        exact (hbelow seg hseg).le
      · exact (hnewest entry hmem).1.le }

end

variable {pending : List UInt8} {config : WalConfig}

lemma openDir_eq (hstored : Stored format disk.syncDir segment [] appended ckptLsn view)
    (hsound : Sound format view.kept) (hconfig : Wal.checkConfig config = .ok ()) (io : WalIo) :
    ∃ wal : Wal, wal.report.records = view.kept.map Entry.toRecord ∧ wal.ckptLsn = ckptLsn ∧
      wal.inner.seg = segment ∧ wal.inner.pending = [] ∧ Tracks format wal appended view ∧
      Wal.openDir format config io disk =
        if 0 < config.retentionMaxBytes ∧ ckptLsn ≠ 0 then
          match Wal.retain wal.inner disk.syncDir io config.retentionMaxBytes ckptLsn with
          | (.error error, disk) => (.error error, disk)
          | (.ok (), disk) => (.ok wal, disk)
        else (.ok wal, disk.syncDir) := by
  obtain ⟨report, hrecover, hrecords, hlast, hreports⟩ := hstored.recover_kept hsound
  obtain ⟨hnumber, htracks⟩ := hstored.tracks_recovered hlast hreports config
  refine ⟨_, hrecords, rfl, rfl, rfl, htracks, ?_⟩
  rw [Wal.openDir, hconfig]
  dsimp only
  rw [hrecover]
  dsimp only
  rw [hstored.manifest]
  dsimp only
  rewrite [hnumber, if_neg (Nat.not_lt.mpr hstored.checkpoint), hstored.ends.openSegment]
  rfl

lemma clean_segs (hstored : Stored format disk segment [] appended ckptLsn view) :
    List.Forall₂ (Clean format) disk.segs (view.groups ++ [view.entries]) := by
  have hactive := hstored.active
  rw [append_nil] at hactive
  rw [hstored.ends.segs]
  exact rel_append hstored.clean (.cons hactive .nil)

lemma totalBytes_eq (hstored : Stored format disk segment pending appended ckptLsn view) :
    Wal.totalBytes disk =
      (encodeAll format view.groups.flatten).length + view.file.bytes.length := by
  rw [← totalBytes_clean hstored.clean disk.manifest, Wal.totalBytes, Wal.totalBytes,
    hstored.ends.segs, map_append, sum_append]
  rfl

lemma recover_unreadable (hstored : Stored format disk segment pending appended ckptLsn view)
    {before after : List Entry} {entry : Entry} (hkept : view.kept = before ++ entry :: after)
    (hreadable : ∀ other ∈ before, other.Readable format) (hlong : ¬entry.Readable format)
    (hwritten : (encodeAll format before).length + headerSize ≤ Wal.totalBytes disk) :
    ∃ bad offset length, recover format disk =
      .error (.corruption bad offset (.invalidLength 14 length)) := by
  rw [hstored.totalBytes_eq] at hwritten
  have hfile : view.file.bytes ++ pending = encodeAll format view.entries ++ [] := by
    rw [append_nil]
    exact hstored.active
  exact recover_unreadable_of_kept hstored.ends.segs hstored.clean hfile hkept
    (fun other hmem => hstored.accepted (hstored.mem_appended hmem)) hstored.ascends_kept hreadable
    hlong hwritten

/-- A record that recovery cannot read keeps the log from opening. -/
lemma openDir_unreadable (hstored : Stored format disk.syncDir segment [] appended ckptLsn view)
    (hlong : ¬Sound format view.kept) (hconfig : Wal.checkConfig config = .ok ()) (io : WalIo) :
    ∃ bad offset length, Wal.openDir format config io disk =
      (.error (.corruption bad offset (.invalidLength 14 length)), disk.syncDir) := by
  obtain ⟨before, entry, after, hkept, hreadable, hentry⟩ :=
    exists_first_unreadable fun hall => hlong (hstored.sound_kept hall)
  have hwritten : (encodeAll format before).length + headerSize ≤ Wal.totalBytes disk.syncDir := by
    have hactive := hstored.active
    rw [append_nil] at hactive
    rw [hstored.totalBytes_eq, hactive, ← length_append, ← encodeAll_append,
      ← View.kept, hkept, encodeAll_append, encodeAll_cons, length_append, length_append,
      Entry.length_encode, Entry.size]
    omega
  obtain ⟨bad, offset, length, hrecover⟩ :=
    hstored.recover_unreadable hkept hreadable hentry hwritten
  refine ⟨bad, offset, length, ?_⟩
  rw [Wal.openDir, hconfig]
  dsimp only
  rw [hrecover]

end Stored

/-- Retention without I/O faults succeeds. -/
lemma Wal.retain_healthy {inner : Inner} (hpoisoned : inner.poisoned = false) (disk : Disk)
    (nowNs maxBytes safeLsn : Nat) :
    (Wal.retain inner disk (.healthy nowNs) maxBytes safeLsn).1 = .ok () := by
  have hloop : ∀ excess segs,
    (Wal.removeLoop (.healthy nowNs) inner.seg inner.closedSegments maxBytes
      safeLsn excess segs).1 = .ok () := by
    intro excess segs
    induction segs generalizing excess with
    | nil => rfl
    | cons seg segs ih =>
      rw [Wal.removeLoop]
      split
      · rfl
      dsimp only
      split
      · exact ih excess
      split
      · exact ih excess
      split
      · exact ih excess
      · exact ih _
  rw [Wal.retain, hpoisoned, if_neg Bool.false_ne_true]
  split
  · rfl
  split
  · rfl
  · exact hloop _ _

lemma Stored.opens {format : Format} {appended : List Entry} {ckptLsn : Nat} {view : View}
    (hstored : Stored format disk.syncDir segment [] appended ckptLsn view)
    (hsound : Sound format view.kept) {config : WalConfig}
    (hconfig : Wal.checkConfig config = .ok ()) (nowNs : Nat) :
    ∃ wal next left, Wal.openDir format config (.healthy nowNs) disk = (.ok wal, next) ∧
      wal.report.records = view.kept.map Entry.toRecord ∧ wal.ckptLsn = ckptLsn ∧
      Stored format next wal.inner.seg wal.inner.pending appended ckptLsn left ∧
      Tracks format wal appended left := by
  obtain ⟨wal, hrecords, hckpt, rfl, hpending, htracks, hopen⟩ :=
    hstored.openDir_eq hsound hconfig (.healthy nowNs)
  rw [← hpending] at hstored
  rw [hopen]
  split
  · have hok := Wal.retain_healthy htracks.ready.poisoned disk.syncDir nowNs
      config.retentionMaxBytes ckptLsn
    obtain ⟨count, hretained⟩ : ∃ count, Stored format (Wal.retain wal.inner disk.syncDir
        (.healthy nowNs) config.retentionMaxBytes ckptLsn).2 wal.inner.seg wal.inner.pending
        appended ckptLsn (view.drop count) :=
      hstored.retain rfl htracks.metadata (Nat.le_refl _)
    generalize Wal.retain wal.inner disk.syncDir (.healthy nowNs) config.retentionMaxBytes
      ckptLsn = outcome at hok hretained ⊢
    obtain ⟨result, next⟩ := outcome
    obtain rfl : result = .ok () := hok
    exact ⟨wal, next, _, rfl, hrecords, hckpt, hretained, htracks.drop count⟩
  · exact ⟨wal, _, _, rfl, hrecords, hckpt, hstored, htracks⟩

lemma openDir_fresh (format : Format) {config : WalConfig}
    (hconfig : Wal.checkConfig config = .ok ()) (io : WalIo) :
    ∃ wal view, Wal.openDir format config io ⟨[], none⟩ = (.ok wal, ⟨[(1, .absent)], none⟩) ∧
      wal.ckptLsn = 0 ∧ wal.report.records = [] ∧
      Stored format ⟨[(1, .absent)], none⟩ wal.inner.seg wal.inner.pending [] 0 view ∧
      Tracks format wal [] view := by
  refine ⟨Wal.recovered config (DirScan.start.report 0) 1 0 0, ⟨[], [], [], .absent, []⟩, ?_, rfl,
    rfl, ?_, ?_⟩
  · rw [Wal.openDir, hconfig]
    dsimp only
    rw [recover_empty rfl]
    dsimp only [Wal.manifestLsn, Disk.syncDir]
    rw [if_neg (Nat.not_lt_zero _), if_neg fun hretains => hretains.2 rfl]
    rfl
  · exact {
      ends := ⟨rfl, nofun⟩
      ascending := .nil
      clean := .nil
      nonempty := nofun
      active := rfl
      history := rfl
      numbered := rfl
      room := Nat.zero_lt_of_lt (Nat.lt_succ_self _)
      payloads := nofun
      manifest := rfl
      checkpoint := Nat.le_refl 0
      covered := nofun
      durable := nofun
      synced := Nat.le_refl 0 }
  · exact {
      ready := ⟨rfl, rfl, rfl, rfl⟩
      bytes := rfl
      written := rfl
      counter := rfl
      durable := Nat.le_refl 0
      checkpoint := Nat.le_refl 0
      metadata := .nil
      active := fun last hmem => absurd hmem (not_mem_none _)
      bounded := nofun }

/-! ## Runs -/

section Runs

variable {format : Format}
variable {site : Site} {ckptLsn : Nat}

section

variable (hholds : Holds format site ckptLsn)

include hholds

/-- What a directory looks like once its instance is dropped. -/
lemma Holds.flushed :
    site = .fresh ∧ ckptLsn = 0 ∨
      ∃ segment view, Stored format site.flushed segment [] site.appended ckptLsn view := by
  cases hholds with
  | fresh => exact .inl ⟨rfl, rfl⟩
  | closed hstored => exact .inr ⟨_, _, hstored⟩
  | live hstored htracks => exact .inr ⟨_, _, hstored.flush⟩

lemma Holds.ckptLsn_eq : site.ckptLsn = ckptLsn := by
  cases hholds with
  | fresh => rfl
  | closed hstored =>
    simp only [Site.ckptLsn, hstored.manifest]
    rfl
  | live hstored htracks => rfl

lemma Holds.reopen (config : WalConfig) : Holds format (site.reopen format config) ckptLsn := by
  rw [Site.reopen]
  cases hconfig : Wal.checkConfig config with
  | error error =>
    rw [Wal.openDir, hconfig]
    rcases hholds.flushed with ⟨rfl, rfl⟩ | ⟨segment, view, hstored⟩
    · exact .fresh
    · exact .closed hstored
  | ok _ =>
    rcases hholds.flushed with ⟨rfl, rfl⟩ | ⟨segment, view, hstored⟩
    · obtain ⟨wal, view, hopen, hckpt, -, hstored, htracks⟩ :=
        openDir_fresh format hconfig (.healthy 0)
      rw [show Site.fresh.flushed = ⟨[], none⟩ from rfl, hopen]
      dsimp only
      rw [← hckpt] at hstored ⊢
      exact .live hstored htracks
    · have hsynced := hstored.syncDir
      by_cases hsound : Sound format view.kept
      · obtain ⟨wal, next, view, hopen, -, hckpt, hnext, htracks⟩ :=
          hsynced.opens hsound hconfig 0
        rw [hopen]
        rw [← hckpt] at hnext ⊢
        exact .live hnext htracks
      · obtain ⟨bad, offset, length, hopen⟩ :=
          hsynced.openDir_unreadable hsound hconfig (.healthy 0)
        rw [hopen]
        exact .closed hsynced

lemma Holds.step (op : WalOp) :
    ∃ next, Holds format (site.step format op) next ∧
      ((∀ lsn, op ≠ .checkpoint lsn) → next = ckptLsn) := by
  have hclosed : site.wal = none → ∃ next, Holds format (site.step format op) next ∧
      ((∀ lsn, op ≠ .checkpoint lsn) → next = ckptLsn) := by
    intro hwal
    obtain ⟨disk, wal, appended⟩ := site
    subst hwal
    cases op with
    | reopen config => exact ⟨_, hholds.reopen config, fun _ => rfl⟩
    | _ => exact ⟨_, hholds, fun _ => rfl⟩
  cases hlive : hholds with
  | fresh => exact hclosed rfl
  | closed hstored => exact hclosed rfl
  | live hstored htracks =>
    cases op with
    | append nowNs payload => exact ⟨_, .append hstored htracks nowNs payload, fun _ => rfl⟩
    | flush => exact ⟨_, .flush hstored htracks, fun _ => rfl⟩
    | sync => exact ⟨_, .sync hstored htracks, fun _ => rfl⟩
    | checkpoint lsn =>
      obtain ⟨next, hnext⟩ := Holds.checkpoint hstored htracks lsn
      exact ⟨next, hnext, fun hother => absurd rfl (hother lsn)⟩
    | truncateBefore lsn => exact ⟨_, .truncateBefore hstored htracks lsn, fun _ => rfl⟩
    | reopen config => exact ⟨_, hholds.reopen config, fun _ => rfl⟩

end

lemma exists_holds_run (format : Format) (ops : List WalOp) :
    ∃ ckptLsn, Holds format (run (Site.step format) .fresh ops) ckptLsn := by
  have hstep : ∀ site op, (∃ ckptLsn, Holds format site ckptLsn) →
      ∃ ckptLsn, Holds format (site.step format op) ckptLsn := by
    rintro site op ⟨ckptLsn, hholds⟩
    obtain ⟨next, hnext, -⟩ := hholds.step op
    exact ⟨next, hnext⟩
  exact run_invariant hstep ⟨0, .fresh⟩ ops

/-! ## Retention keeps what is needed -/

/-- The segment files are the bytes of these entries, cut into segments. -/
def Disk.Carries (format : Format) (disk : Disk) (entries : List Entry) : Prop :=
  ∃ groups, List.Forall₂ (Clean format) disk.segs groups ∧ groups.flatten = entries

lemma Holds.openDir_ne_manifest (hholds : Holds format site ckptLsn) (config : WalConfig)
    (message : String) :
    (Wal.openDir format config (.healthy 0) site.flushed).1 ≠ .error (.manifest message) := by
  intro hmanifest
  cases hconfig : Wal.checkConfig config with
  | error error =>
    rw [Wal.openDir, hconfig] at hmanifest
    obtain rfl : error = .manifest message := Except.error.inj hmanifest
    rw [Wal.checkConfig] at hconfig
    repeat' split at hconfig
    all_goals cases hconfig
  | ok _ =>
    rcases hholds.flushed with ⟨rfl, -⟩ | ⟨segment, view, hstored⟩
    · obtain ⟨wal, view, hopen, -⟩ := openDir_fresh format hconfig (.healthy 0)
      rw [show Site.fresh.flushed = ⟨[], none⟩ from rfl, hopen] at hmanifest
      cases hmanifest
    · by_cases hsound : Sound format view.kept
      · obtain ⟨wal, next, left, hopen, -⟩ := hstored.syncDir.opens hsound hconfig 0
        rw [hopen] at hmanifest
        cases hmanifest
      · obtain ⟨bad, offset, length, hopen⟩ :=
          hstored.syncDir.openDir_unreadable hsound hconfig (.healthy 0)
        rw [hopen] at hmanifest
        cases hmanifest

/-- Whatever the operations, the segment files and the buffer of the writer hold a suffix
of what was appended, with every entry from the checkpoint on, and a later open reports
no error of the manifest. -/
theorem Site.retention_keeps_history (format : Format) (ops : List WalOp) :
    let site := run (Site.step format) .fresh ops
    ∃ entries, site.flushed.Carries format entries ∧ entries <:+ site.appended ∧
      site.appended.map (·.lsn) = List.range' 1 site.appended.length ∧
      (∀ entry ∈ site.appended, site.ckptLsn ≤ entry.lsn → entry ∈ entries) ∧
      ∀ config message,
        (Wal.openDir format config (.healthy 0) site.flushed).1 ≠ .error (.manifest message) := by
  intro site
  obtain ⟨ckptLsn, hholds⟩ : ∃ ckptLsn, Holds format site ckptLsn := exists_holds_run format ops
  have hmanifest := hholds.openDir_ne_manifest
  rw [hholds.ckptLsn_eq]
  rcases hholds.flushed with ⟨hfresh, rfl⟩ | ⟨segment, view, hstored⟩
  · rw [hfresh] at hmanifest ⊢
    exact ⟨[], ⟨[], .nil, rfl⟩, nil_suffix, rfl, nofun, hmanifest⟩
  · refine ⟨view.kept, ⟨_, hstored.clean_segs, ?_⟩, ⟨view.dropped, hstored.history.symm⟩,
      hstored.numbered, ?_, hmanifest⟩
    · rw [flatten_append, flatten_singleton, View.kept]
    · intro entry hmem hle
      rw [hstored.history] at hmem
      rcases mem_append.mp hmem with hdropped | hkept
      · exact absurd (hstored.covered entry hdropped) (Nat.not_lt.mpr hle)
      · exact hkept

def smallSegments : WalConfig := ⟨.explicit, false, headerSize, headerSize, 1⟩

/-- Of two entries behind a checkpoint of the second, the first segment is deleted. -/
theorem Site.retention_keeps_history_small :
    let site := run (Site.step Wal.plainFormat) .fresh
      [.reopen smallSegments, .append 0 [], .append 0 [], .sync, .checkpoint 2, .truncateBefore 2]
    site.ckptLsn = 2 ∧ site.flushed.segs.map (·.1) = [2, 3] ∧
      ∃ entries, site.flushed.Carries Wal.plainFormat entries ∧
        (⟨⟨2, []⟩, false⟩ : Entry) ∈ entries := by
  refine ⟨by decide +kernel, by decide +kernel, ?_⟩
  obtain ⟨entries, hcarries, -, -, hneeded, -⟩ := Site.retention_keeps_history Wal.plainFormat
    [.reopen smallSegments, .append 0 [], .append 0 [], .sync, .checkpoint 2, .truncateBefore 2]
  exact ⟨entries, hcarries, hneeded _ (by decide +kernel) (by decide +kernel)⟩

/-! ## What append accepts and recovery returns -/

lemma holds_run_zero (format : Format) {ops : List WalOp}
    (hops : ∀ op ∈ ops, ∀ lsn, op ≠ .checkpoint lsn) :
    Holds format (run (Site.step format) .fresh ops) 0 := by
  have hstep : ∀ site op, Holds format site 0 → (∀ lsn, op ≠ WalOp.checkpoint lsn) →
      Holds format (site.step format op) 0 := by
    intro site op hholds hother
    obtain ⟨next, hnext, hsame⟩ := hholds.step op
    rw [hsame hother] at hnext
    exact hnext
  exact (Along.of_respects hstep .fresh (.of_forall fun op hmem _ => hops op hmem)).last

lemma Stored.kept_eq {disk : Disk} {segment : Nat} {pending : List UInt8}
    {appended : List Entry} {view : View}
    (hstored : Stored format disk segment pending appended 0 view) : view.kept = appended := by
  have hdropped : view.dropped = [] :=
    eq_nil_iff_forall_not_mem.mpr fun entry hmem =>
      absurd (hstored.covered entry hmem) (Nat.not_lt_zero _)
  rw [hstored.history, hdropped, nil_append]

lemma Holds.openDir_corruption (hholds : Holds format site 0) {entry : Entry}
    (hmem : entry ∈ site.appended) (hlong : ¬entry.Readable format) {config : WalConfig}
    (hconfig : Wal.checkConfig config = .ok ()) :
    ∃ segment offset reason, (Wal.openDir format config (.healthy 0) site.flushed).1 =
      .error (.corruption segment offset reason) := by
  rcases hholds.flushed with ⟨rfl, -⟩ | ⟨segment, view, hstored⟩
  · cases hmem
  · have hunsound : ¬Sound format view.kept := by
      intro hsound
      rw [hstored.kept_eq] at hsound
      exact hlong (hsound entry hmem).2
    obtain ⟨bad, offset, length, hopen⟩ :=
      hstored.syncDir.openDir_unreadable hunsound hconfig (.healthy 0)
    rw [hopen]
    exact ⟨bad, offset, _, rfl⟩

/-- After appends, barriers and reopenings, a clean close and an open return exactly what
was appended if and only if no stored payload is over the limit on raw ones. -/
theorem Site.reopen_returns_appended_iff (format : Format) (ops : List WalOp)
    (hops : ∀ op ∈ ops, ∀ lsn, op ≠ .checkpoint lsn) (config : WalConfig)
    (hconfig : Wal.checkConfig config = .ok ()) : let site := run (Site.step format) .fresh ops
    (∃ wal disk, Wal.openDir format config (.healthy 0) site.flushed = (.ok wal, disk) ∧
        wal.report.records = site.appended.map Entry.toRecord) ↔
      ∀ entry ∈ site.appended, (entry.stored format).length ≤ maxRecordSize := by
  intro site
  have hholds : Holds format site 0 := holds_run_zero format hops
  constructor
  · rintro ⟨wal, disk, hopen, -⟩ entry hmem
    by_contra hlong
    obtain ⟨segment, offset, reason, herror⟩ := hholds.openDir_corruption hmem hlong hconfig
    rw [hopen] at herror
    cases herror
  · intro hreadable
    rcases hholds.flushed with ⟨hfresh, -⟩ | ⟨segment, view, hstored⟩
    · obtain ⟨wal, view, hopen, -, hrecords, -⟩ := openDir_fresh format hconfig (.healthy 0)
      rw [hfresh]
      exact ⟨wal, _, hopen, hrecords⟩
    · have hkept := hstored.kept_eq
      obtain ⟨wal, next, left, hopen, hrecords, -⟩ := hstored.syncDir.opens
        (hstored.syncDir.sound_kept fun entry hmem => hreadable entry (hkept ▸ hmem)) hconfig 0
      refine ⟨wal, next, hopen, ?_⟩
      rw [← hkept]
      exact hrecords

def lz4Config : WalConfig := ⟨.explicit, true, 67108864, 0, 65536⟩

/-- A record that is stored as it is, and behind a reopening one that is compressed. -/
theorem Site.reopen_returns_appended_both :
    let ops := [.reopen lz4Config, .append 0 [7], .reopen lz4Config, .append 1 (replicate 80 9)]
    let site := run (Site.step Wal.plainFormat) .fresh ops
    ∃ wal disk, Wal.openDir Wal.plainFormat lz4Config (.healthy 0) site.flushed = (.ok wal, disk) ∧
      wal.report.records = [⟨1, [7]⟩, ⟨2, replicate 80 9⟩] := by
  intro ops site
  obtain ⟨wal, disk, hopen, hrecords⟩ := (Site.reopen_returns_appended_iff Wal.plainFormat ops
    (by simp [ops]) lz4Config rfl).mpr (by decide +kernel)
  refine ⟨wal, disk, hopen, hrecords.trans ?_⟩
  decide +kernel

/-- A payload of the greatest length under a compressor that does not shorten it: the
append succeeds, and reopening reports corruption. -/
theorem Site.reopen_rejects_block :
    ∃ payload : List UInt8, payload.length = maxRecordSize ∧
      let site := run (Site.step Wal.plainFormat) .fresh [.reopen lz4Config, .append 0 payload]
      site.appended.map Entry.toRecord = [⟨1, payload⟩] ∧ ∃ segment offset reason,
          (Wal.openDir Wal.plainFormat lz4Config (.healthy 0) site.flushed).1 =
            .error (.corruption segment offset reason) := by
  have hlength : (List.replicate maxRecordSize (0 : UInt8)).length = maxRecordSize :=
    length_replicate
  generalize List.replicate maxRecordSize (0 : UInt8) = payload at hlength
  refine ⟨payload, hlength, ?_⟩
  intro site
  have hholds : Holds Wal.plainFormat site 0 := holds_run_zero Wal.plainFormat (by simp)
  have happended : site.appended = [⟨⟨1, payload⟩, true⟩] := by
    obtain ⟨next, nextDisk, happend, -⟩ : ∃ next nextDisk, Wal.append true Wal.plainFormat
        (Wal.recovered lz4Config (DirScan.start.report 0) 1 0 0) ⟨[(1, .absent)], none⟩
        (.healthy 0) payload = some (.ok 1, next, nextDisk) ∧ _ :=
      Wal.append_healthy ⟨rfl, rfl, rfl, rfl⟩
        (⟨rfl, nofun⟩ : Disk.Ends _ [] 1 .absent)
        hlength.le (by decide)
    have hsite : site = Site.operate Wal.plainFormat ⟨⟨[(1, .absent)], none⟩,
        some (Wal.recovered lz4Config (DirScan.start.report 0) 1 0 0), []⟩
        (Wal.recovered lz4Config (DirScan.start.report 0) 1 0 0) (.append 0 payload) := rfl
    rw [hsite, Site.operate, happend]
    rfl
  refine ⟨by rw [happended]; rfl, ?_⟩
  refine hholds.openDir_corruption (happended ▸ mem_singleton_self _) ?_ rfl
  rw [Entry.Readable, Entry.stored, Format.encodePayload]
  have hcompressed : (true && decide (compressMinBytes < payload.length)) := by
    rw [hlength]
    rfl
  rw [if_pos hcompressed, Format.compressPrependSize, length_append, length_leBytes]
  change ¬ 4 + payload.length ≤ _
  omega

end Runs

end RamShield.Ramwal

import RamShield.Foundation.Run
import RamShield.Ramwal.Encoding
import RamShield.Ramwal.Retention

/-! # The log as a machine

A log directory with its instance, open or not, under appends, barriers, checkpoints,
truncation and reopening, on I/O without faults and with a re-entrant mutex. In every
run the segment files are the bytes of a suffix of what was appended, with nothing
missing from the checkpoint on, and the metadata of retention is exact.
-/

namespace RamShield.Ramwal

open Foundation Foundation.Machine List

/-- An operation on the log. -/
inductive WalOp
  | append (nowNs : Nat) (payload : List UInt8)
  | flush
  | sync
  | checkpoint (lsn : Nat)
  | truncateBefore (lsn : Nat)
  | reopen (config : WalConfig)

/-- A log directory, the instance on it, and every entry whose append succeeded. -/
structure Site where
  disk : Disk
  wal : Option Wal
  appended : List Entry

namespace Site

def fresh : Site := ⟨⟨[], none⟩, none, []⟩

def flushed (site : Site) : Disk :=
  match site.wal with
  | none => site.disk
  | some wal => wal.close site.disk

def ckptLsn (site : Site) : Nat :=
  match site.wal with
  | none => (Wal.manifestLsn site.disk.manifest).toOption.getD 0
  | some wal => wal.ckptLsn

def reopen (format : Format) (config : WalConfig) (site : Site) : Site :=
  match Wal.openDir format config (.healthy 0) site.flushed with
  | (.error _, disk) => ⟨disk, none, site.appended⟩
  | (.ok wal, disk) => ⟨disk, some wal, site.appended⟩

def operate (format : Format) (site : Site) (wal : Wal) : WalOp → Site
  | .append nowNs payload =>
    match Wal.append true format wal site.disk (.healthy nowNs) payload with
    | none => site
    | some (.error _, wal, disk) => ⟨disk, some wal, site.appended⟩
    | some (.ok _, next, disk) => ⟨disk, some next, site.appended ++ [wal.entryOf payload]⟩
  | .flush =>
    let (_, wal, disk) := wal.flush site.disk none (.healthy 0)
    ⟨disk, some wal, site.appended⟩
  | .sync =>
    let (_, wal, disk) := wal.sync site.disk (.healthy 0)
    ⟨disk, some wal, site.appended⟩
  | .checkpoint lsn =>
    let (_, wal, disk) := wal.checkpoint site.disk (.healthy 0) none lsn
    ⟨disk, some wal, site.appended⟩
  | .truncateBefore lsn =>
    let (_, disk) := wal.truncateBefore site.disk (.healthy 0) lsn
    ⟨disk, some wal, site.appended⟩
  | .reopen config => site.reopen format config

/-- One operation. A log that is not open can only be opened. -/
def step (format : Format) (site : Site) (op : WalOp) : Site :=
  match site.wal, op with
  | some wal, op => site.operate format wal op
  | none, .reopen config => site.reopen format config
  | none, _ => site

end Site

/-! ## The invariant -/

/-- How the entries lie: deleted by retention, in closed segments, in the active one. -/
structure View where
  dropped : List Entry
  closed : List (Nat × SegFile)
  groups : List (List Entry)
  file : SegFile
  entries : List Entry

def View.kept (view : View) : List Entry := view.groups.flatten ++ view.entries

def View.drop (view : View) (count : Nat) : View :=
  { view with
    dropped := view.dropped ++ (view.groups.take count).flatten
    closed := view.closed.drop count
    groups := view.groups.drop count }

def groupLast (group : List Entry) : Nat := ((group.getLast?).map (·.lsn)).getD 0

def Numbered (entries : List Entry) : Prop := entries.map (·.lsn) = List.range' 1 entries.length

structure Stored (format : Format) (disk : Disk) (segment : Nat) (pending : List UInt8)
    (appended : List Entry) (ckptLsn : Nat) (view : View) : Prop where
  ends : disk.Ends view.closed segment view.file
  ascending : view.closed.Pairwise fun earlier later => earlier.1 < later.1
  clean : List.Forall₂ (Clean format) view.closed view.groups
  nonempty : ∀ group ∈ view.groups, group ≠ []
  active : view.file.bytes ++ pending = encodeAll format view.entries
  history : appended = view.dropped ++ view.kept
  numbered : Numbered appended
  room : appended.length < u64Max
  payloads : ∀ entry ∈ appended, entry.payload.length ≤ maxRecordSize
  manifest : Wal.manifestLsn disk.manifest = .ok ckptLsn
  checkpoint : ckptLsn ≤ appended.length
  covered : ∀ entry ∈ view.dropped, entry.lsn < ckptLsn
  durable : ∀ seg ∈ view.closed, seg.2.synced = seg.2.bytes.length ∧ seg.2.entrySynced = true
  synced : view.file.synced ≤ view.file.bytes.length

/-- The instance agrees with the directory. -/
structure Tracks (format : Format) (wal : Wal) (appended : List Entry) (view : View) : Prop where
  ready : wal.inner.Ready
  bytes : wal.inner.bytes = (encodeAll format view.entries).length
  written : wal.inner.writtenLsn = appended.length
  counter : wal.lsnCounter = appended.length + 1
  durable : wal.inner.durableLsn ≤ appended.length
  checkpoint : wal.ckptLsn ≤ wal.inner.durableLsn
  metadata : List.Forall₂
    (fun seg group => Wal.lastLsnOf wal.inner.closedSegments seg.1 = some (groupLast group))
    view.closed view.groups
  active : ∀ last ∈ Wal.lastLsnOf wal.inner.closedSegments wal.inner.seg,
    last ≤ wal.inner.writtenLsn
  bounded : ∀ entry ∈ wal.inner.closedSegments, entry.1 ≤ wal.inner.seg

/-- The states of a run, with the checkpoint in force. -/
inductive Holds (format : Format) : Site → Nat → Prop
  | fresh : Holds format .fresh 0
  | closed {disk : Disk} {appended : List Entry} {segment ckptLsn : Nat} {view : View}
      (hstored : Stored format disk segment [] appended ckptLsn view) :
      Holds format ⟨disk, none, appended⟩ ckptLsn
  | live {disk : Disk} {wal : Wal} {appended : List Entry} {view : View}
      (hstored : Stored format disk wal.inner.seg wal.inner.pending appended wal.ckptLsn view)
      (htracks : Tracks format wal appended view) :
      Holds format ⟨disk, some wal, appended⟩ wal.ckptLsn

/-! ## Numbers -/

namespace Numbered

variable {entries : List Entry}

lemma append_last (hnumbered : Numbered entries) {entry : Entry}
    (hlsn : entry.lsn = entries.length + 1) : Numbered (entries ++ [entry]) := by
  rw [Numbered, map_append, hnumbered, length_append, length_singleton,
    List.range'_concat, map_singleton, hlsn, Nat.mul_comm, Nat.mul_one, Nat.add_comm 1]

lemma pairwise (hnumbered : Numbered entries) :
    entries.Pairwise fun earlier later => earlier.lsn < later.lsn := by
  have hpairwise : (entries.map (·.lsn)).Pairwise (· < ·) := by
    rw [hnumbered]
    exact pairwise_lt_range'
  exact pairwise_map.mp hpairwise

lemma lsn_le (hnumbered : Numbered entries) {entry : Entry} (hmem : entry ∈ entries) :
    entry.lsn ≤ entries.length := by
  have hlsn : entry.lsn ∈ entries.map (·.lsn) := mem_map_of_mem hmem
  rw [hnumbered, mem_range'_1] at hlsn
  omega

end Numbered

lemma ascends_of_pairwise {entries : List Entry} {prevLsn : Option Nat}
    (hpairwise : entries.Pairwise fun earlier later => earlier.lsn < later.lsn)
    (hprev : ∀ previous ∈ prevLsn, ∀ entry ∈ entries, previous < entry.lsn) :
    Ascends prevLsn entries := by
  induction entries generalizing prevLsn with
  | nil => trivial
  | cons entry entries ih =>
    obtain ⟨hentry, hrest⟩ := pairwise_cons.mp hpairwise
    refine ⟨fun previous hmem => hprev previous hmem entry mem_cons_self, ih hrest ?_⟩
    intro previous hmem
    cases hmem
    exact hentry

lemma lastLsn_eq (prevLsn : Option Nat) (entries : List Entry) :
    lastLsn prevLsn entries = ((entries.getLast?).map (·.lsn)).or prevLsn := by
  induction entries generalizing prevLsn with
  | nil => rfl
  | cons entry entries ih =>
    rw [lastLsn, ih, List.getLast?_cons]
    cases entries.getLast? <;> rfl

lemma groupLast_spec {group : List Entry} (hnonempty : group ≠ [])
    (hpairwise : group.Pairwise fun earlier later => earlier.lsn < later.lsn) :
    (∃ entry ∈ group, entry.lsn = groupLast group) ∧
      ∀ entry ∈ group, entry.lsn ≤ groupLast group := by
  obtain ⟨first, last, rfl⟩ : ∃ first last, group = first ++ [last] :=
    ⟨_, _, (dropLast_append_getLast hnonempty).symm⟩
  have hlast : groupLast (first ++ [last]) = last.lsn := by
    rw [groupLast, List.getLast?_concat]
    rfl
  rw [hlast]
  refine ⟨⟨last, by simp, rfl⟩, ?_⟩
  intro entry hmem
  rcases mem_append.mp hmem with hfirst | hmem
  · exact ((pairwise_append.mp hpairwise).2.2 entry hfirst last (by simp)).le
  · rw [mem_singleton.mp hmem]

variable {closed : List (Nat × SegFile)}

lemma clean_syncEntries {format : Format} {groups : List (List Entry)}
    (hclean : List.Forall₂ (Clean format) closed groups) :
    List.Forall₂ (Clean format) (syncEntries closed) groups := by
  rw [syncEntries, List.forall₂_map_left_iff]
  exact hclean

lemma ascending_syncEntries
    (hascending : closed.Pairwise fun earlier later => earlier.1 < later.1) :
    (syncEntries closed).Pairwise fun earlier later => earlier.1 < later.1 := by
  rw [syncEntries, pairwise_map]
  exact hascending

lemma durable_syncEntries (hsynced : ∀ seg ∈ closed, seg.2.synced = seg.2.bytes.length) :
    ∀ seg ∈ syncEntries closed, seg.2.synced = seg.2.bytes.length ∧ seg.2.entrySynced := by
  intro seg hmem
  obtain ⟨old, hold, rfl⟩ := mem_map.mp hmem
  exact ⟨hsynced old hold, rfl⟩

namespace Stored

variable {format : Format} {disk next : Disk} {segment : Nat} {pending : List UInt8}
  {appended : List Entry} {ckptLsn : Nat} {view : View}

lemma pairwise_kept (hstored : Stored format disk segment pending appended ckptLsn view) :
    view.kept.Pairwise fun earlier later => earlier.lsn < later.lsn := by
  have hall := hstored.numbered.pairwise
  rw [hstored.history] at hall
  exact (pairwise_append.mp hall).2.1

lemma ascends_kept (hstored : Stored format disk segment pending appended ckptLsn view) :
    Ascends none view.kept :=
  ascends_of_pairwise hstored.pairwise_kept fun _ hmem => absurd hmem (Option.not_mem_none _)

variable {entry : Entry}

section

variable (hstored : Stored format disk segment pending appended ckptLsn view)

include hstored

lemma mem_appended (hmem : entry ∈ view.kept) : entry ∈ appended := by
  rw [hstored.history]
  exact mem_append_right _ hmem

lemma accepted (hmem : entry ∈ appended) : entry.Accepted where
  lsn := by
    have hle := hstored.numbered.lsn_le hmem
    have hroom := hstored.room
    rw [u64Max] at hroom
    omega
  payload := hstored.payloads entry hmem

lemma pairwise_groups :
    (∀ group ∈ view.groups, group.Pairwise fun earlier later => earlier.lsn < later.lsn) ∧
      view.groups.Pairwise fun earlier later =>
        ∀ left ∈ earlier, ∀ right ∈ later, left.lsn < right.lsn :=
  pairwise_flatten.mp (pairwise_append.mp hstored.pairwise_kept).1

/-- The last LSNs of the closed segments grow. -/
lemma ascending_lasts : (view.groups.map groupLast).Pairwise (· ≤ ·) := by
  obtain ⟨hinside, hacross⟩ := hstored.pairwise_groups
  rw [pairwise_map]
  refine List.Pairwise.imp_of_mem ?_ hacross
  intro earlier later hearlier hlater hbefore
  obtain ⟨⟨left, hleft, hlast⟩, -⟩ :=
    groupLast_spec (hstored.nonempty earlier hearlier) (hinside earlier hearlier)
  obtain ⟨⟨right, hright, hlast'⟩, -⟩ :=
    groupLast_spec (hstored.nonempty later hlater) (hinside later hlater)
  rw [← hlast, ← hlast']
  exact (hbefore left hleft right hright).le

lemma flush :
    Stored format (disk.write segment pending) segment [] appended ckptLsn
      { view with file := { view.file with bytes := view.file.bytes ++ pending } } :=
  { hstored with
    ends := hstored.ends.write pending
    active := by
      rw [append_nil]
      exact hstored.active
    synced := by
      have hsynced := hstored.synced
      dsimp only
      rw [length_append]
      omega }

lemma barrier :
    Stored format ((disk.write segment pending).syncData segment) segment [] appended ckptLsn
      { view with file := { view.file with
          bytes := view.file.bytes ++ pending
          synced := (view.file.bytes ++ pending).length } } :=
  { hstored with
    ends := (hstored.ends.write pending).syncData
    active := by
      rw [append_nil]
      exact hstored.active
    synced := Nat.le_refl _ }

/-- The directory is fsynced. -/
lemma syncDir :
    Stored format disk.syncDir segment pending appended ckptLsn
      { view with
        closed := syncEntries view.closed
        file := { view.file with entrySynced := true } } :=
  { hstored with
    ends := hstored.ends.syncDir
    ascending := ascending_syncEntries hstored.ascending
    clean := clean_syncEntries hstored.clean
    durable := durable_syncEntries fun seg hmem => (hstored.durable seg hmem).1 }

lemma grow {file : SegFile} {buffered : List UInt8} (hends : next.Ends view.closed segment file)
    (hmanifest : next.manifest = disk.manifest)
    (hbytes : file.bytes ++ buffered = view.file.bytes ++ pending ++ entry.encode format)
    (hsynced : file.synced ≤ file.bytes.length) (hlsn : entry.lsn = appended.length + 1)
    (hroom : appended.length + 1 < u64Max) (hpayload : entry.payload.length ≤ maxRecordSize) :
    Stored format next segment buffered (appended ++ [entry]) ckptLsn
      { view with file := file, entries := view.entries ++ [entry] } :=
  { hstored with
    ends := hends
    active := by
      rw [hbytes, hstored.active, encodeAll_append, encodeAll_cons, encodeAll_nil, append_nil]
    history := by
      rw [hstored.history, View.kept, View.kept]
      simp only [append_assoc]
    numbered := hstored.numbered.append_last hlsn
    room := by
      rw [length_append]
      exact hroom
    payloads := by
      rw [forall_mem_append]
      exact ⟨hstored.payloads, by simpa using hpayload⟩
    manifest := by
      rw [hmanifest]
      exact hstored.manifest
    checkpoint := by
      rw [length_append]
      exact hstored.checkpoint.trans (Nat.le_add_right _ _)
    synced := hsynced }

end

lemma rotate (hstored : Stored format disk segment [] appended ckptLsn view)
    (hentries : view.entries ≠ []) (hfull : view.file.synced = view.file.bytes.length)
    (hends : next.Ends (syncEntries (view.closed ++ [(segment, view.file)])) (segment + 1)
      ⟨[], 0, true⟩) (hmanifest : next.manifest = disk.manifest) :
    Stored format next (segment + 1) [] appended ckptLsn
      { view with
        closed := syncEntries (view.closed ++ [(segment, view.file)])
        groups := view.groups ++ [view.entries]
        file := ⟨[], 0, true⟩
        entries := [] } :=
  { hstored with
    ends := hends
    ascending := by
      apply ascending_syncEntries
      rw [pairwise_append]
      refine ⟨hstored.ascending, pairwise_singleton _ _, ?_⟩
      intro seg hmem last hlast
      rw [mem_singleton.mp hlast]
      exact hstored.ends.below seg hmem
    clean := by
      apply clean_syncEntries
      refine rel_append hstored.clean (.cons ?_ .nil)
      have hactive := hstored.active
      rw [append_nil] at hactive
      exact hactive
    nonempty := by
      rw [forall_mem_append]
      exact ⟨hstored.nonempty, by simpa using hentries⟩
    active := rfl
    history := by
      rw [hstored.history, View.kept, View.kept]
      simp
    manifest := by
      rw [hmanifest]
      exact hstored.manifest
    durable := by
      apply durable_syncEntries
      rw [forall_mem_append]
      exact ⟨fun seg hmem => (hstored.durable seg hmem).1, by simpa using hfull⟩
    synced := Nat.le_refl _ }

section

variable (hstored : Stored format disk segment pending appended ckptLsn view)

include hstored

lemma drop {count : Nat} (hends : next.Ends (view.closed.drop count) segment view.file)
    (hmanifest : next.manifest = disk.manifest)
    (hbelow : ∀ last ∈ (view.groups.map groupLast).take count, last < ckptLsn) :
    Stored format next segment pending appended ckptLsn (view.drop count) :=
  { hstored with
    ends := hends
    ascending := hstored.ascending.sublist (drop_sublist _ _)
    clean := List.forall₂_drop count hstored.clean
    nonempty := fun group hmem => hstored.nonempty group (mem_of_mem_drop hmem)
    history := by
      rw [hstored.history, View.kept, View.kept, View.drop]
      dsimp only
      rw [append_assoc, ← append_assoc (view.groups.take count).flatten,
        ← flatten_append, take_append_drop]
    manifest := by
      rw [hmanifest]
      exact hstored.manifest
    covered := by
      refine forall_mem_append.mpr ⟨hstored.covered, ?_⟩
      intro entry hmem
      obtain ⟨group, hgroup, hentry⟩ := mem_flatten.mp hmem
      have hmember : group ∈ view.groups := mem_of_mem_take hgroup
      have hle := (groupLast_spec (hstored.nonempty group hmember)
        (hstored.pairwise_groups.1 group hmember)).2 entry hentry
      rw [← map_take] at hbelow
      exact Nat.lt_of_le_of_lt hle (hbelow _ (mem_map_of_mem hgroup))
    durable := fun seg hmem => hstored.durable seg (mem_of_mem_drop hmem) }

lemma advance {lsn : Nat} (hforward : ckptLsn ≤ lsn) (hwritten : lsn ≤ appended.length) :
    Stored format { disk.syncDir with manifest := some (some lsn) } segment pending appended lsn
      { view with
        closed := syncEntries view.closed
        file := { view.file with entrySynced := true } } :=
  { hstored.syncDir with
    ends := ⟨hstored.syncDir.ends.segs, hstored.syncDir.ends.below⟩
    manifest := rfl
    checkpoint := hwritten
    covered := fun entry hmem => Nat.lt_of_lt_of_le (hstored.covered entry hmem) hforward }

/-- Retention up to the checkpoint keeps the invariant. -/
lemma retain {inner : Inner} (hsegment : inner.seg = segment)
    (hmetadata : List.Forall₂
      (fun seg group => Wal.lastLsnOf inner.closedSegments seg.1 = some (groupLast group))
      view.closed view.groups)
    {io : WalIo} {maxBytes safeLsn : Nat} (hsafe : safeLsn ≤ ckptLsn) :
    ∃ count, Stored format (Wal.retain inner disk io maxBytes safeLsn).2 segment pending appended
      ckptLsn (view.drop count) := by
  subst hsegment
  have hlasts : List.Forall₂
      (fun seg last => Wal.lastLsnOf inner.closedSegments seg.1 = some last) view.closed
      (view.groups.map groupLast) := List.forall₂_map_right_iff.mpr hmetadata
  obtain ⟨count, hends, hmanifest, hbelow⟩ :
      ∃ count, (Wal.retain inner disk io maxBytes safeLsn).2.Ends (view.closed.drop count)
          inner.seg view.file ∧
        (Wal.retain inner disk io maxBytes safeLsn).2.manifest = disk.manifest ∧
        ∀ last ∈ (view.groups.map groupLast).take count, last < safeLsn :=
    Wal.retain_drops hstored.ends hlasts hstored.ascending_lasts
  exact ⟨count, hstored.drop hends hmanifest fun last hmem =>
    Nat.lt_of_lt_of_le (hbelow last hmem) hsafe⟩

end

end Stored

namespace Tracks

variable {format : Format} {wal : Wal} {appended : List Entry} {view : View}

section

variable (htracks : Tracks format wal appended view)

include htracks

lemma drop (count : Nat) : Tracks format wal appended (view.drop count) :=
  { htracks with metadata := List.forall₂_drop count htracks.metadata }

lemma metadata_closeSegment (hbelow : ∀ seg ∈ view.closed, seg.1 < wal.inner.seg)
    {entry : Entry} (hlsn : wal.inner.writtenLsn ≤ entry.lsn) (file : SegFile) :
    List.Forall₂
      (fun seg group => Wal.lastLsnOf
        (Live.closeSegment wal.inner.seg entry.lsn wal.inner.closedSegments) seg.1 =
          some (groupLast group))
      (syncEntries (view.closed ++ [(wal.inner.seg, file)]))
      (view.groups ++ [view.entries ++ [entry]]) := by
  rw [syncEntries, List.forall₂_map_left_iff]
  refine rel_append ?_ (.cons ?_ .nil)
  · have hmembers : List.Forall₂ (fun seg group => seg ∈ view.closed ∧
        Wal.lastLsnOf wal.inner.closedSegments seg.1 = some (groupLast group))
        view.closed view.groups :=
      (List.forall₂_and_left _ _).mpr ⟨fun _ hmem => hmem, htracks.metadata⟩
    refine hmembers.imp ?_
    rintro seg group ⟨hmem, hlast⟩
    rw [Wal.lastLsnOf_closeSegment, if_neg (Nat.ne_of_lt (hbelow seg hmem)), hlast]
  · rw [Wal.lastLsnOf_closeSegment, if_pos rfl, groupLast, List.getLast?_concat]
    have hactive := htracks.active
    cases hold : Wal.lastLsnOf wal.inner.closedSegments wal.inner.seg with
    | none => rfl
    | some old =>
      rw [hold] at hactive
      have hle : old ≤ entry.lsn := (hactive old rfl).trans hlsn
      simp [max_eq_right hle]

/-- A barrier, or a new checkpoint. -/
lemma settle {pending : List UInt8} {durableLsn ckptLsn : Nat}
    (hdurable : durableLsn ≤ appended.length) (hckpt : ckptLsn ≤ durableLsn) (file : SegFile) :
    Tracks format
      { wal with
        ckptLsn := ckptLsn
        inner := { wal.inner with pending := pending, durableLsn := durableLsn } }
      appended { view with file := file } :=
  { htracks with
    ready := { htracks.ready with }
    durable := hdurable
    checkpoint := hckpt }

/-- The directory entries are durable. -/
lemma syncDir : Tracks format wal appended { view with closed := syncEntries view.closed } :=
  { htracks with
    metadata := by
      rw [syncEntries, List.forall₂_map_left_iff]
      exact htracks.metadata }

end

variable {entry : Entry}

lemma grow (htracks : Tracks format wal appended view) (hlsn : entry.lsn = appended.length + 1)
    {pending : List UInt8} {due durableLsn : Nat} (hdurable : durableLsn ≤ appended.length + 1)
    (hckpt : wal.ckptLsn ≤ durableLsn) (file : SegFile) :
    Tracks format
      { wal with
        lsnCounter := wal.lsnCounter + 1
        inner := { wal.inner with
          pending := pending, bytes := wal.inner.bytes + entry.size format,
          writtenLsn := entry.lsn, durableLsn := durableLsn, nextSyncDueNs := due } }
      (appended ++ [entry]) { view with file := file, entries := view.entries ++ [entry] } :=
  { htracks with
    ready := { htracks.ready with }
    bytes := by
      rw [encodeAll_append, length_append, htracks.bytes, encodeAll_cons, encodeAll_nil,
        append_nil, Entry.length_encode]
    written := by rw [length_append, hlsn, length_singleton]
    counter := by rw [length_append, htracks.counter, length_singleton]
    durable := by rwa [length_append]
    checkpoint := hckpt
    active := fun last hmem => by
      have hle := htracks.active last hmem
      rw [htracks.written] at hle
      dsimp only
      omega }

lemma rotate (htracks : Tracks format wal appended view)
    (hbelow : ∀ seg ∈ view.closed, seg.1 < wal.inner.seg) (hlsn : entry.lsn = appended.length + 1)
    (hckpt : wal.ckptLsn ≤ appended.length) (due : Nat) (file : SegFile) :
    Tracks format
      { wal with
        lsnCounter := wal.lsnCounter + 1
        inner := { wal.inner with
          pending := [], bytes := 0, seg := wal.inner.seg + 1, writtenLsn := entry.lsn,
          durableLsn := entry.lsn, nextSyncDueNs := due,
          closedSegments := Live.closeSegment wal.inner.seg entry.lsn wal.inner.closedSegments } }
      (appended ++ [entry])
      { view with
        closed := syncEntries (view.closed ++ [(wal.inner.seg, file)])
        groups := view.groups ++ [view.entries ++ [entry]]
        file := ⟨[], 0, true⟩
        entries := [] } := by
  have hgrown := @grow _ _ _ _ _ htracks hlsn [] due entry.lsn hlsn.le (by omega) file
  have hbounded := @Wal.le_of_mem_closeSegment _ entry.lsn _ htracks.bounded
  refine { hgrown with
    ready := { hgrown.ready with }
    bytes := rfl
    metadata := htracks.metadata_closeSegment hbelow (by rw [htracks.written]; omega) file
    active := fun last hmem => ?_
    bounded := fun entry hmem => (hbounded entry hmem).trans (Nat.le_succ _) }
  dsimp only at hmem
  rw [Wal.lastLsnOf_eq_none fun entry hentry =>
    Nat.ne_of_lt (Nat.lt_succ_of_le (hbounded entry hentry))] at hmem
  cases hmem

end Tracks

/-! ## One operation -/

section Operations

variable {format : Format} {disk : Disk} {wal : Wal} {appended : List Entry} {view : View}

section

variable (hstored : Stored format disk wal.inner.seg wal.inner.pending appended wal.ckptLsn view)
  (htracks : Tracks format wal appended view)

include hstored htracks

lemma Holds.append (nowNs : Nat) (payload : List UInt8) :
    Holds format (Site.operate format ⟨disk, some wal, appended⟩ wal (.append nowNs payload))
      wal.ckptLsn := by
  rw [Site.operate]
  by_cases hpayload : payload.length ≤ maxRecordSize
  swap
  · rw [Wal.append, if_pos (Nat.not_le.mp hpayload)]
    exact .live hstored htracks
  by_cases hlsn : wal.lsnCounter = u64Max
  · rw [Wal.append, if_neg (Nat.not_lt.mpr hpayload), htracks.ready.poisoned,
      if_neg Bool.false_ne_true, if_pos hlsn]
    exact .live hstored htracks
  -- The append is let in: what it writes is said once, by `Grows`.
  obtain ⟨next, nextDisk, happend, hgrows⟩ :
      ∃ next nextDisk, Wal.append true format wal disk (.healthy nowNs) payload =
          some (.ok wal.lsnCounter, next, nextDisk) ∧
        Wal.Grows format wal disk nowNs view.closed view.file (wal.entryOf payload) next nextDisk :=
    Wal.append_healthy htracks.ready hstored.ends hpayload hlsn
  rw [happend]
  dsimp only
  have hentry : (wal.entryOf payload).lsn = appended.length + 1 := htracks.counter
  have hroom : appended.length + 1 < u64Max := by
    have hroom := hstored.room
    rw [htracks.counter] at hlsn
    omega
  have hckpt := htracks.checkpoint
  cases hgrows with
  | buffered pending landed _ hdue hfits hbytes hends hmanifest =>
    refine .live (hstored.grow hends hmanifest ?_ ?_ hentry hroom hpayload)
      (htracks.grow hentry (htracks.durable.trans (Nat.le_succ _)) hckpt _)
    · rw [append_assoc, hbytes, append_assoc]
    · have hsynced := hstored.synced
      dsimp only
      rw [length_append]
      omega
  | synced due _ hdue hfits hends hmanifest =>
    refine .live (hstored.grow hends hmanifest (append_nil _) (Nat.le_refl _) hentry hroom
      hpayload) (htracks.grow hentry hentry.le ?_ _)
    rw [hentry]
    exact hckpt.trans (htracks.durable.trans (Nat.le_succ _))
  | rotated due nextDisk inner hfull hinner hends hmanifest =>
    subst hinner
    generalize hbytes : view.file.bytes ++ wal.inner.pending ++
      (wal.entryOf payload).encode format = bytes at hends
    -- The closing segment is first seen as the active one, with all its bytes in the file.
    have hgrown := hstored.grow
      (hstored.ends.put ⟨bytes, bytes.length, view.file.entrySynced⟩) rfl
      ((append_nil _).trans hbytes.symm) (Nat.le_refl _) hentry hroom hpayload
    have hrotated := hgrown.rotate (by simp) rfl hends hmanifest
    have hnext := htracks.rotate hstored.ends.below hentry (hckpt.trans htracks.durable) due
      ⟨bytes, bytes.length, view.file.entrySynced⟩
    rw [Wal.retained]
    split
    · obtain ⟨count, hretained⟩ := hrotated.retain rfl hnext.metadata (Nat.le_refl _)
      exact .live hretained (hnext.drop count)
    · exact .live hrotated hnext

lemma Holds.flush :
    Holds format (Site.operate format ⟨disk, some wal, appended⟩ wal .flush) wal.ckptLsn := by
  rw [Site.operate, Wal.flush, htracks.ready.poisoned, if_neg Bool.false_ne_true]
  exact .live hstored.flush (htracks.settle htracks.durable htracks.checkpoint _)

lemma Holds.sync :
    Holds format (Site.operate format ⟨disk, some wal, appended⟩ wal .sync) wal.ckptLsn := by
  rw [Site.operate, Wal.sync, htracks.ready.poisoned, if_neg Bool.false_ne_true]
  have hwritten := htracks.written
  refine .live hstored.barrier (htracks.settle hwritten.le ?_ _)
  rw [hwritten]
  exact htracks.checkpoint.trans htracks.durable

lemma Holds.truncateBefore (lsn : Nat) :
    Holds format (Site.operate format ⟨disk, some wal, appended⟩ wal (.truncateBefore lsn))
      wal.ckptLsn := by
  rw [Site.operate, Wal.truncateBefore, htracks.ready.poisoned, if_neg Bool.false_ne_true]
  dsimp only
  split
  · exact .live hstored htracks
  next hcovered =>
    obtain ⟨count, hretained⟩ := hstored.retain rfl htracks.metadata (Nat.not_lt.mp hcovered)
    exact .live hretained (htracks.drop count)

/-- A checkpoint that is accepted moves forward. -/
lemma Holds.checkpoint (lsn : Nat) :
    ∃ ckptLsn, Holds format
      (Site.operate format ⟨disk, some wal, appended⟩ wal (.checkpoint lsn)) ckptLsn := by
  rw [Site.operate, Wal.checkpoint, htracks.ready.poisoned, if_neg Bool.false_ne_true]
  dsimp only
  split
  · exact ⟨_, .live hstored htracks⟩
  split
  · exact ⟨_, .live hstored htracks⟩
  next hdurable =>
    split
    · exact ⟨_, .live hstored htracks⟩
    next hforward =>
      have hle := Nat.not_lt.mp hdurable
      have hadvanced := hstored.advance (Nat.not_lt.mp hforward) (hle.trans htracks.durable)
      exact ⟨lsn, .live hadvanced (htracks.syncDir.settle htracks.durable hle _)⟩

end

end Operations

end RamShield.Ramwal

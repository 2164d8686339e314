import RamShield.Ramwal.Crash
import RamShield.Storage.Wal

/-! # Pages of an open log

A page is read from the files of a log while it is open, without repair. What the
writer still buffers is not in the files, and their end may be torn, so a page shows
an earlier state of the log. Retention may have deleted the beginning. In any case a
page is a stretch of consecutive records of what was appended.
-/

namespace RamShield

open Foundation List

namespace Ramwal

/-! ## Scanning without repair -/

def verifyDir (format : Format) (disk : Disk) : Except Error RecoveryReport :=
  (scanDir format disk false).map Prod.fst

section Verifying

variable {format : Format}

lemma exists_recover_of_verifyDir {disk : Disk} {report : RecoveryReport}
    (hverify : verifyDir format disk = .ok report) :
    ∃ repaired position next, recover format disk = .ok (repaired, position, next) ∧
      repaired.records = report.records := by
  rw [verifyDir] at hverify
  cases hscan : scanDir format disk false with
  | error error =>
    rw [hscan] at hverify
    cases hverify
  | ok outcome =>
    rw [hscan] at hverify
    cases hverify
    rcases scanDir_cases hscan with ⟨hempty, hreport, -⟩ | ⟨layout, hsegs, hvalid, hreport, -⟩
    · exact ⟨_, _, _, recover_empty hempty, by rw [hreport]⟩
    · exact ⟨_, _, _, recover_valid hvalid hsegs, by rw [hreport]; rfl⟩

/-- Recovery reads the first records that retention left. -/
lemma Stored.records_of_recover {disk next : Disk} {segment : Nat} {pending : List UInt8}
    {appended : List Entry} {ckptLsn : Nat} {view : View}
    (hstored : Stored format disk segment pending appended ckptLsn view) {position : Nat × Nat}
    (hrecover : recover format disk = .ok (report, position, next)) :
    ∃ whole, whole <+: view.kept ∧ report.records = whole.map Entry.toRecord := by
  by_cases hlegible : Legible format view.kept (Wal.totalBytes disk)
  · have haccepted : ∀ entry ∈ view.kept, entry.Accepted := fun entry hmem =>
      hstored.accepted (hstored.mem_appended hmem)
    obtain ⟨start, hcut, htake⟩ :=
      exists_cut (Entry.encode format) view.entries view.file.bytes.length
    generalize wholeFrames _ _ view.entries = whole at hcut htake
    have hbytes : view.file.bytes = encodeAll format whole ++ start := by
      rw [encodeAll, ← htake, ← encodeAll, ← hstored.active, take_left]
    have hwhole := hcut.append_left view.groups.flatten
    rw [View.kept] at hlegible haccepted
    obtain ⟨hsound, htorn⟩ := hlegible.of_cut haccepted hwhole (by
      rw [hstored.totalBytes_eq, encodeAll_append, length_append, hbytes,
        length_append, Nat.add_assoc])
    have hascends := hstored.ascends_kept
    rw [View.kept] at hascends
    obtain ⟨other, hother, hrecords, -⟩ := recover_torn hstored.ends.segs hstored.clean hbytes
      htorn hsound (hascends.of_isPrefix hwhole.whole_isPrefix)
    rw [hother] at hrecover
    cases hrecover
    exact ⟨_, hwhole.whole_isPrefix, hrecords⟩
  · obtain ⟨before, entry, after, hkept, hreadable, hlong, hwritten⟩ :=
      exists_first_illegible hlegible
    obtain ⟨_, _, _, hfails⟩ := hstored.recover_unreadable hkept hreadable hlong hwritten
    rw [hfails] at hrecover
    cases hrecover

lemma filter_lsn_eq_dropWhile {entries : List Entry}
    (hpairwise : entries.Pairwise fun earlier later => earlier.lsn < later.lsn) (minLsn : Nat) :
    entries.filter (fun entry => decide (minLsn < entry.lsn)) =
      entries.dropWhile (fun entry => decide (entry.lsn ≤ minLsn)) := by
  induction entries with
  | nil => rfl
  | cons entry entries ih =>
    obtain ⟨hentry, hrest⟩ := pairwise_cons.mp hpairwise
    by_cases hafter : minLsn < entry.lsn
    · rw [dropWhile_cons_of_neg (by simpa using hafter), filter_eq_self]
      intro other hmem
      rcases mem_cons.mp hmem with rfl | hmem
      · exact decide_eq_true hafter
      · exact decide_eq_true (hafter.trans (hentry other hmem))
    · rw [filter_cons_of_neg (by simpa using hafter),
        dropWhile_cons_of_pos (by simpa using hafter), ih hrest]

lemma Holds.infix_of_verifyDir {site : Site} {ckptLsn : Nat} (hholds : Holds format site ckptLsn)
    (hverify : verifyDir format site.disk = .ok report) (minLsn : Nat) :
    ∃ window, window <:+: site.appended ∧ (∀ entry ∈ window, minLsn < entry.lsn) ∧
      report.records.filter (fun record => decide (minLsn < record.lsn)) =
        window.map Entry.toRecord := by
  rcases hholds.stored with rfl | ⟨segment, pending, view, hstored⟩
  · cases hverify
    exact ⟨[], nil_infix, nofun, rfl⟩
  · obtain ⟨repaired, position, next, hrecover, hsame⟩ := exists_recover_of_verifyDir hverify
    obtain ⟨whole, hbegins, hrecords⟩ := hstored.records_of_recover hrecover
    have hpairwise := hstored.pairwise_kept.sublist hbegins.sublist
    refine ⟨whole.filter fun entry => decide (minLsn < entry.lsn), ?_, ?_, ?_⟩
    · rw [filter_lsn_eq_dropWhile hpairwise]
      have hkept : view.kept <:+ site.appended := ⟨view.dropped, hstored.history.symm⟩
      exact ((dropWhile_suffix _).isInfix.trans hbegins.isInfix).trans hkept.isInfix
    · intro entry hmem
      exact of_decide_eq_true (mem_filter.mp hmem).2
    · rw [← hsame, hrecords, filter_map]
      rfl

end Verifying

end Ramwal

/-! ## Pages -/

/-- Why a page cannot be read. -/
inductive PageError
  | invalidInput
  | wal (error : Ramwal.Error)
  | serde
  deriving DecidableEq

def decodePage (decode : List UInt8 → Option WalEntry) :
    List Ramwal.Record → Option (List (Nat × WalEntry))
  | [] => some []
  | record :: records =>
    match decode record.payload, decodePage decode records with
    | some entry, some page => some ((record.lsn, entry) :: page)
    | _, _ => none

def replayWithLsnPage (format : Ramwal.Format) (decode : List UInt8 → Option WalEntry)
    (disk : Ramwal.Disk) (minLsnExclusive limit : Nat) :
    Except PageError (List (Nat × WalEntry) × Bool) :=
  if limit = 0 then .error .invalidInput
  else
    match Ramwal.verifyDir format disk with
    | .error error => .error (.wal error)
    | .ok report =>
      let selected := (report.records.filter fun record =>
        decide (minLsnExclusive < record.lsn)).take (limit + 1)
      let hasMore := decide (limit < selected.length)
      match decodePage decode (if hasMore then selected.dropLast else selected) with
      | none => .error .serde
      | some page => .ok (page, hasMore)

/-- A page of the records of a log: consecutive records after an LSN, decoded. -/
structure IsPage (decode : List UInt8 → Option WalEntry) (appended : List Ramwal.Entry)
    (minLsn : Nat) (window : List Ramwal.Entry) (page : List (Nat × WalEntry)) : Prop where
  consecutive : window <:+: appended
  after : ∀ entry ∈ window, minLsn < entry.lsn
  decoded : List.Forall₂
    (fun entry item => item.1 = entry.lsn ∧ decode entry.payload = some item.2) window page

variable {decode : List UInt8 → Option WalEntry} {page : List (Nat × WalEntry)}

lemma forall₂_decodePage {entries : List Ramwal.Entry}
    (hdecode : decodePage decode (entries.map Ramwal.Entry.toRecord) = some page) :
    List.Forall₂ (fun entry item => item.1 = entry.lsn ∧ decode entry.payload = some item.2)
      entries page := by
  induction entries generalizing page with
  | nil =>
    cases hdecode
    exact .nil
  | cons entry entries ih =>
    rw [map_cons, decodePage] at hdecode
    split at hdecode
    next item rest hitem hrest =>
      cases hdecode
      exact .cons ⟨rfl, hitem⟩ (ih hrest)
    · cases hdecode

lemma isPage_of_replayWithLsnPage {format : Ramwal.Format} {site : Ramwal.Site} {ckptLsn : Nat}
    (hholds : Ramwal.Holds format site ckptLsn) {minLsn limit : Nat} {hasMore : Bool}
    (hpage : replayWithLsnPage format decode site.disk minLsn limit = .ok (page, hasMore)) :
    ∃ window, IsPage decode site.appended minLsn window page := by
  rw [replayWithLsnPage] at hpage
  split at hpage
  · cases hpage
  cases hverify : Ramwal.verifyDir format site.disk with
  | error error =>
    rw [hverify] at hpage
    cases hpage
  | ok report =>
    rw [hverify] at hpage
    dsimp only at hpage
    obtain ⟨window, hwindow, hafter, hrecords⟩ := hholds.infix_of_verifyDir hverify minLsn
    rw [hrecords] at hpage
    split at hpage
    · cases hpage
    next decoded hdecode =>
      cases hpage
      -- what is selected are the first records of the window
      obtain ⟨count, hselected⟩ : ∃ count,
          (if decide (limit < ((window.map Ramwal.Entry.toRecord).take (limit + 1)).length)
            then ((window.map Ramwal.Entry.toRecord).take (limit + 1)).dropLast
            else (window.map Ramwal.Entry.toRecord).take (limit + 1)) =
              (window.take count).map Ramwal.Entry.toRecord := by
        split
        · refine ⟨min (limit + 1) window.length - 1, ?_⟩
          rw [dropLast_eq_take, take_take, length_take, length_map,
            map_take, Nat.min_eq_left (by omega)]
        · exact ⟨limit + 1, (map_take ..).symm⟩
      rw [hselected] at hdecode
      have htaken := take_prefix count window
      exact ⟨window.take count, htaken.isInfix.trans hwindow,
        fun entry hmem => hafter entry (mem_of_mem_take hmem),
        forall₂_decodePage hdecode⟩

end RamShield

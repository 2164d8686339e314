import RamShield.Ramwal.Content

/-! # Retention

What retention deletes is a prefix of the closed segments, each of them with its last
LSN below the safe one. This rests on the metadata: the entry of a closed segment is
its last LSN, and the last LSNs grow from segment to segment.
-/

namespace RamShield.Ramwal

open Foundation List

namespace Wal

/-! ## The metadata of closed segments -/

lemma lastLsnOf_cons (entry : Nat × Nat) (closed : List (Nat × Nat)) (index : Nat) :
    lastLsnOf (entry :: closed) index =
      if entry.1 = index then some ((lastLsnOf closed index).elim entry.2 (max entry.2))
      else lastLsnOf closed index := by
  rw [lastLsnOf, filter_cons]
  by_cases hindex : entry.1 = index
  · rw [if_pos (decide_eq_true hindex), if_pos hindex, map_cons, List.max?_cons]
    rfl
  · rw [if_neg (by simpa using hindex), if_neg hindex]
    rfl

lemma lastLsnOf_closeSegment (segment last : Nat) (closed : List (Nat × Nat)) (index : Nat) :
    lastLsnOf (Live.closeSegment segment last closed) index =
      if index = segment then some ((lastLsnOf closed segment).elim last (max · last))
      else lastLsnOf closed index := by
  induction closed with
  | nil =>
    rw [Live.closeSegment, lastLsnOf_cons]
    by_cases hindex : index = segment
    · rw [if_pos hindex.symm, if_pos hindex]
      rfl
    · rw [if_neg (Ne.symm hindex), if_neg hindex]
  | cons entry closed ih =>
    rw [Live.closeSegment]
    by_cases hentry : entry.1 = segment
    · rw [if_pos hentry, lastLsnOf_cons, lastLsnOf_cons, lastLsnOf_cons]
      by_cases hindex : index = segment
      · subst hindex
        rw [if_pos hentry, if_pos rfl, if_pos hentry]
        cases lastLsnOf closed index with
        | none => rfl
        | some other => exact congrArg some (max_right_comm _ _ _)
      · have hne : entry.1 ≠ index := fun heq => hindex (heq.symm.trans hentry)
        rw [if_neg hne, if_neg hindex, if_neg hne]
    · rw [if_neg hentry, lastLsnOf_cons, ih, lastLsnOf_cons, lastLsnOf_cons, if_neg hentry]
      by_cases hindex : index = segment
      · have hne : entry.1 ≠ index := fun heq => hentry (heq.trans hindex)
        rw [if_neg hne, if_pos hindex, if_pos hindex]
      · rw [if_neg hindex, if_neg hindex]

lemma le_of_mem_closeSegment {segment last : Nat} {closed : List (Nat × Nat)}
    (hbounded : ∀ entry ∈ closed, entry.1 ≤ segment) :
    ∀ entry ∈ Live.closeSegment segment last closed, entry.1 ≤ segment := by
  induction closed with
  | nil =>
    intro entry hmem
    rw [mem_singleton.mp hmem]
  | cons head closed ih =>
    obtain ⟨hhead, hrest⟩ := forall_mem_cons.mp hbounded
    rw [Live.closeSegment]
    split
    · exact forall_mem_cons.mpr ⟨hhead, hrest⟩
    · exact forall_mem_cons.mpr ⟨hhead, ih hrest⟩

lemma lastLsnOf_eq_none {closed : List (Nat × Nat)} {index : Nat}
    (habsent : ∀ entry ∈ closed, entry.1 ≠ index) : lastLsnOf closed index = none := by
  induction closed with
  | nil => rfl
  | cons entry closed ih =>
    obtain ⟨hentry, hrest⟩ := forall_mem_cons.mp habsent
    rw [lastLsnOf_cons, if_neg hentry, ih hrest]

/-! ## The loop -/

variable {io : WalIo} {active : Nat} {metadata : List (Nat × Nat)} {maxBytes safeLsn : Nat}

lemma removeLoop_keeps {segs : List (Nat × SegFile)}
    (hkeeps : ∀ seg ∈ segs, seg.1 = active ∨ ∀ last ∈ lastLsnOf metadata seg.1, safeLsn ≤ last)
    (excess : Nat) : (removeLoop io active metadata maxBytes safeLsn excess segs).2 = segs := by
  induction segs generalizing excess with
  | nil => rfl
  | cons seg segs ih =>
    obtain ⟨hseg, hrest⟩ := forall_mem_cons.mp hkeeps
    have hkeep : (removeLoop io active metadata maxBytes safeLsn excess segs).2 = segs :=
      ih hrest excess
    rw [removeLoop]
    split
    · rfl
    dsimp only
    rw [hkeep]
    split
    · rfl
    next hactive =>
      split
      · rfl
      next last hlast => rw [if_pos (hseg.resolve_left hactive last hlast)]

lemma exists_mem_of_forall₂ {Left Right : Type} {related : Left → Right → Prop}
    {lefts : List Left} {rights : List Right} (hall : List.Forall₂ related lefts rights)
    {left : Left} (hmem : left ∈ lefts) : ∃ right ∈ rights, related left right := by
  induction hall with
  | nil => cases hmem
  | @cons head other lefts rights hhead _ ih =>
    rcases mem_cons.mp hmem with rfl | hmem
    · exact ⟨other, mem_cons_self, hhead⟩
    · obtain ⟨right, hright, hrelated⟩ := ih hmem
      exact ⟨right, mem_cons_of_mem _ hright, hrelated⟩

variable {closed : List (Nat × SegFile)} {lasts : List Nat}

lemma removeLoop_drops
    (hlasts : List.Forall₂ (fun seg last => lastLsnOf metadata seg.1 = some last) closed lasts)
    (hascending : lasts.Pairwise (· ≤ ·)) (hactive : ∀ seg ∈ closed, seg.1 ≠ active)
    (file : SegFile) (excess : Nat) :
    ∃ count, (removeLoop io active metadata maxBytes safeLsn excess
        (closed ++ [(active, file)])).2 = closed.drop count ++ [(active, file)] ∧
      ∀ last ∈ lasts.take count, last < safeLsn := by
  induction hlasts generalizing excess with
  | nil =>
    refine ⟨0, removeLoop_keeps ?_ excess, nofun⟩
    intro seg hmem
    rw [nil_append, mem_singleton] at hmem
    exact .inl (by rw [hmem])
  | @cons seg last closed lasts hlast hrest ih =>
    obtain ⟨hseg, hclosed⟩ := forall_mem_cons.mp hactive
    obtain ⟨hhead, htail⟩ := pairwise_cons.mp hascending
    by_cases hbelow : safeLsn ≤ last
    · -- The later ones are not below the safe LSN either, so nothing is deleted.
      refine ⟨0, removeLoop_keeps ?_ excess, nofun⟩
      intro other hmem
      rcases mem_append.mp hmem with hmem | hmem
      · right
        intro value hvalue
        rcases mem_cons.mp hmem with rfl | hmem
        · obtain rfl : last = value := Option.some.inj (hlast.symm.trans hvalue)
          exact hbelow
        · obtain ⟨found, hfound, hlookup⟩ := exists_mem_of_forall₂ hrest hmem
          obtain rfl : found = value := Option.some.inj (hlookup.symm.trans hvalue)
          exact hbelow.trans (hhead found hfound)
      · exact .inl (by rw [mem_singleton.mp hmem])
    · rw [cons_append, removeLoop]
      split
      · exact ⟨0, rfl, nofun⟩
      dsimp only
      rw [hlast]
      dsimp only
      rw [if_neg hbelow]
      split
      · obtain ⟨count, hdrop, htaken⟩ := ih htail hclosed (excess - seg.2.bytes.length)
        refine ⟨count + 1, hdrop, ?_⟩
        rw [take_succ_cons, forall_mem_cons]
        exact ⟨Nat.not_le.mp hbelow, htaken⟩
      · exact ⟨0, rfl, nofun⟩

/-- Retention deletes such a prefix and nothing else. -/
lemma retain_drops {inner : Inner} {disk : Disk} {file : SegFile}
    (hends : disk.Ends closed inner.seg file)
    (hlasts : List.Forall₂ (fun seg last => lastLsnOf inner.closedSegments seg.1 = some last)
      closed lasts) (hascending : lasts.Pairwise (· ≤ ·)) :
    ∃ count, (retain inner disk io maxBytes safeLsn).2.Ends (closed.drop count) inner.seg file ∧
      (retain inner disk io maxBytes safeLsn).2.manifest = disk.manifest ∧
      ∀ last ∈ lasts.take count, last < safeLsn := by
  have hnothing : ∃ count, disk.Ends (closed.drop count) inner.seg file ∧
      disk.manifest = disk.manifest ∧ ∀ last ∈ lasts.take count, last < safeLsn :=
    ⟨0, hends, rfl, nofun⟩
  rw [retain]
  split
  · exact hnothing
  split
  · exact hnothing
  split
  · exact hnothing
  obtain ⟨count, hdrop, htaken⟩ : ∃ count, (removeLoop io inner.seg inner.closedSegments
        maxBytes safeLsn (if 0 < maxBytes then totalBytes disk - maxBytes else 0)
        (closed ++ [(inner.seg, file)])).2 = closed.drop count ++ [(inner.seg, file)] ∧
      ∀ last ∈ lasts.take count, last < safeLsn :=
    removeLoop_drops hlasts hascending (fun seg hmem => Nat.ne_of_lt (hends.below seg hmem)) file _
  refine ⟨count, ⟨?_, fun seg hmem => hends.below seg (mem_of_mem_drop hmem)⟩, rfl, htaken⟩
  dsimp only
  rw [hends.segs, hdrop]

end Wal

end RamShield.Ramwal

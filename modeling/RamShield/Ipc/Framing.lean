import RamShield.Mesh.Frame

/-! # Lines on an IPC connection

`handle_connection` reads in pieces, hands every complete line on and keeps the rest. A
line is checked against its limit when its newline has come, and before that only where
the limit is below the byte budget of the connection. No request ends the connection here,
and no timeout.
-/

namespace RamShield

open Foundation List

structure ConnectionLimits where
  maxBytes : Nat
  maxLineLength : Nat
  deriving DecidableEq

/-- The inner loop: frames for `parse_frame` and the rest, or none if a line is too long. -/
def splitFrames (maxLine : Nat) (buf : List UInt8) : List (List UInt8) × Option (List UInt8) :=
  match hfound : buf.findIdx? (· == newline) with
  | none => ([], some buf)
  | some pos =>
    if maxLine < pos then ([], none)
    else
      let rest := splitFrames maxLine (buf.drop (pos + 1))
      (buf.take (pos + 1) :: rest.1, rest.2)
termination_by buf.length
decreasing_by
  obtain ⟨before, after, rfl, rfl, -⟩ := exists_of_findIdx hfound
  simp
  omega

/-- The frames handed on, the rest after each inner loop, and whether it was closed early. -/
structure Served where
  frames : List (List UInt8)
  tails : List (List UInt8)
  closed : Bool
  deriving DecidableEq

/-- The outer loop, with the bytes read so far. -/
def serve (limits : ConnectionLimits) (total : Nat) (buf : List UInt8) : List (List UInt8) → Served
  | [] => ⟨[], [], false⟩
  | chunk :: reads =>
    if limits.maxBytes ≤ total then ⟨[], [], true⟩
    else if chunk = [] then ⟨[], [], false⟩
    else
      match splitFrames limits.maxLineLength (buf ++ chunk) with
      | (frames, none) => ⟨frames, [], true⟩
      | (frames, some tail) =>
        if limits.maxLineLength < limits.maxBytes ∧ limits.maxLineLength < tail.length then
          ⟨frames, [tail], true⟩
        else
          let rest := serve limits (total + chunk.length) tail reads
          ⟨frames ++ rest.frames, tail :: rest.tails, rest.closed⟩

/-! ## The inner loop -/

variable {maxLine : Nat} {text more tail : List UInt8}

lemma line_induction {motive : List UInt8 → Prop} (text : List UInt8)
    (hopen : ∀ text, newline ∉ text → motive text)
    (hline : ∀ before after, newline ∉ before → motive after →
      motive (before ++ newline :: after)) : motive text := by
  by_cases hmem : newline ∈ text
  · obtain ⟨before, after, hsplit, hnot⟩ := eq_append_cons_of_mem hmem
    exact hsplit ▸ hline before after hnot (line_induction after hopen hline)
  · exact hopen text hmem
termination_by text.length
decreasing_by
  rw [hsplit, length_append, length_cons]
  omega

lemma splitFrames_open (hopen : newline ∉ text) : splitFrames maxLine text = ([], some text) := by
  unfold splitFrames
  split
  · rfl
  next pos hfound =>
    obtain ⟨before, after, rfl, -, -⟩ := exists_of_findIdx hfound
    exact absurd (by simp) hopen

lemma splitFrames_line {before : List UInt8} (hopen : newline ∉ before) (after : List UInt8) :
    splitFrames maxLine (before ++ newline :: after) =
      if maxLine < before.length then ([], none)
      else ((before ++ [newline]) :: (splitFrames maxLine after).1,
        (splitFrames maxLine after).2) := by
  rw [splitFrames]
  split
  next hnone => exact absurd (by simp) (not_mem_of_findIdx hnone)
  next pos hfound =>
    obtain ⟨first, rest, hsplit, rfl, hfirst⟩ := exists_of_findIdx hfound
    obtain ⟨rfl, rfl⟩ := first_unique hopen hfirst hsplit
    rw [take_length_add_append, drop_length_add_append]
    rfl

/-- The rest of the buffer is an open line. -/
lemma splitFrames_tail (htail : tail ∈ (splitFrames maxLine text).2) :
    newline ∉ tail ∧ tail.length ≤ text.length := by
  induction text using line_induction with
  | hopen text hopen =>
    rw [splitFrames_open hopen, Option.mem_some_iff] at htail
    exact htail ▸ ⟨hopen, le_rfl⟩
  | hline before after hopen ih =>
    rw [splitFrames_line hopen] at htail
    split at htail
    · cases htail
    · refine ⟨(ih htail).1, (ih htail).2.trans ?_⟩
      simp
      omega

/-- More text joins the rest of the buffer. -/
lemma splitFrames_append (text more : List UInt8) :
    splitFrames maxLine (text ++ more) =
      match splitFrames maxLine text with
      | (frames, none) => (frames, none)
      | (frames, some tail) => (frames ++ (splitFrames maxLine (tail ++ more)).1,
          (splitFrames maxLine (tail ++ more)).2) := by
  induction text using line_induction with
  | hopen text hopen =>
    rw [splitFrames_open hopen]
    rfl
  | hline before after hopen ih =>
    rw [append_assoc, cons_append, splitFrames_line hopen, splitFrames_line hopen, ih]
    by_cases hlong : maxLine < before.length
    · rw [if_pos hlong, if_pos hlong]
    · rw [if_neg hlong, if_neg hlong]
      obtain ⟨frames, tail | tail⟩ := splitFrames maxLine after
      · rfl
      · rfl

/-- An open line that is too long stays so. -/
lemma splitFrames_long (hopen : newline ∉ tail) (hlong : maxLine < tail.length) :
    (splitFrames maxLine (tail ++ more)).1 = [] ∧
      ∀ rest ∈ (splitFrames maxLine (tail ++ more)).2, maxLine < rest.length := by
  by_cases hmem : newline ∈ more
  · obtain ⟨before, after, rfl, hnot⟩ := eq_append_cons_of_mem hmem
    rw [← append_assoc, splitFrames_line (by simp [hopen, hnot]), if_pos (by simp; omega)]
    exact ⟨rfl, nofun⟩
  · rw [splitFrames_open (by simp [hopen, hmem])]
    simp
    omega

lemma splitFrames_lines (text : List UInt8) :
    (splitFrames maxLine text).1 =
        ((text.splitOn newline).dropLast.takeWhile (·.length ≤ maxLine)).map (· ++ [newline]) ∧
      ((∀ rest ∈ (splitFrames maxLine text).2, maxLine < rest.length) ↔
        ∃ line ∈ text.splitOn newline, maxLine < line.length) := by
  induction text using line_induction with
  | hopen text hopen =>
    rw [splitFrames_open hopen, splitOn_eq_singleton hopen]
    simp
  | hline before after hopen ih =>
    rw [splitFrames_line hopen, splitOn_append_cons_self_of_not_mem hopen,
      dropLast_cons_of_ne_nil (splitOn_ne_nil _ _), takeWhile_cons]
    by_cases hlong : maxLine < before.length
    · simp [hlong]
    · refine ⟨by simp [hlong, Nat.not_lt.mp hlong, ih.1], ?_⟩
      simpa [hlong] using ih.2

/-! ## Whole connections -/

variable {limits : ConnectionLimits}

lemma serve_spec {reads : List (List UInt8)}
    (hreads : ∀ chunk ∈ reads, chunk ≠ [] ∧ chunk.length ≤ 8192) {total : Nat}
    (hstream : total + reads.flatten.length < limits.maxBytes) (hopen : newline ∉ tail)
    (htotal : tail.length ≤ total) (hline : tail.length ≤ limits.maxLineLength) :
    (serve limits total tail reads).frames =
        (splitFrames limits.maxLineLength (tail ++ reads.flatten)).1 ∧
      ((serve limits total tail reads).closed ↔
        ∀ rest ∈ (splitFrames limits.maxLineLength (tail ++ reads.flatten)).2,
          limits.maxLineLength < rest.length) ∧
      ∀ rest ∈ (serve limits total tail reads).tails,
        rest.length ≤ min limits.maxLineLength limits.maxBytes + 8192 := by
  induction reads generalizing total tail with
  | nil =>
    simp [serve, splitFrames_open hopen]
    omega
  | cons chunk reads ih =>
    obtain ⟨⟨hchunk, hsize⟩, hreads⟩ := forall_mem_cons.mp hreads
    rw [flatten_cons, length_append] at hstream
    rw [flatten_cons, ← append_assoc, splitFrames_append, serve, if_neg (by omega), if_neg hchunk]
    have hrest := @splitFrames_tail limits.maxLineLength (tail ++ chunk)
    generalize splitFrames limits.maxLineLength (tail ++ chunk) = split at hrest ⊢
    obtain ⟨frames, _ | rest⟩ := split
    · exact ⟨rfl, by simp, nofun⟩
    obtain ⟨hagain, hlength⟩ := hrest rfl
    rw [length_append] at hlength
    have hbound : rest.length ≤ min limits.maxLineLength limits.maxBytes + 8192 := by omega
    dsimp only
    split
    next hlong =>
      obtain ⟨hnone, hclosed⟩ := @splitFrames_long _ reads.flatten rest hagain hlong.2
      exact ⟨by rw [hnone, append_nil], by simpa using hclosed, by simpa using hbound⟩
    next hshort =>
      obtain ⟨hframes, hclosed, htails⟩ := @ih rest hreads (total + chunk.length) (by omega)
        hagain (by omega) (by omega)
      exact ⟨by rw [hframes], hclosed, forall_mem_cons.mpr ⟨hbound, htails⟩⟩

/-- Framing does not depend on the reads. -/
theorem serve_independent_of_reads (limits : ConnectionLimits) (reads : List (List UInt8))
    (hreads : ∀ chunk ∈ reads, chunk ≠ [] ∧ chunk.length ≤ 8192)
    (hstream : reads.flatten.length < limits.maxBytes) :
    (serve limits 0 [] reads).frames = ((reads.flatten.splitOn newline).dropLast.takeWhile
        (·.length ≤ limits.maxLineLength)).map (· ++ [newline]) ∧
      ((serve limits 0 [] reads).closed ↔
        ∃ line ∈ reads.flatten.splitOn newline, limits.maxLineLength < line.length) ∧
      ∀ tail ∈ (serve limits 0 [] reads).tails,
        tail.length ≤ min limits.maxLineLength limits.maxBytes + 8192 := by
  obtain ⟨hframes, hclosed, htails⟩ := @serve_spec [] limits reads hreads 0 (by omega) not_mem_nil
    le_rfl (Nat.zero_le _)
  obtain ⟨hsplit, hlong⟩ := @splitFrames_lines limits.maxLineLength reads.flatten
  exact ⟨hframes.trans hsplit, hclosed.trans hlong, htails⟩

/-- A line in two reads, and a longer one that is not complete. -/
theorem serve_independent_of_reads_two :
    (serve ⟨100, 2⟩ 0 [] [[1], [2, newline, 3, 4, 5]]).frames = [[1, 2, newline]] ∧
      (serve ⟨100, 2⟩ 0 [] [[1], [2, newline, 3, 4, 5]]).closed := by
  obtain ⟨hframes, hclosed, -⟩ := serve_independent_of_reads ⟨100, 2⟩
    [[1], [2, newline, 3, 4, 5]] (by decide) (by decide)
  exact ⟨hframes.trans (by decide), hclosed.mpr (by decide)⟩

end RamShield

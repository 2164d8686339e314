import RamShield.Foundation.Delimiter

/-! # Frames on a connection

`read_bounded_frame`: one newline-terminated frame, read from a connection in pieces. A
reader hands out its bytes in reads of at most the size of the buffer it is given.
-/

namespace RamShield

open Foundation List

def maxFrame : Nat := 64 * 1024

def readBuffer : Nat := 4096

def newline : UInt8 := 0x0A

/-- Why no frame is read. -/
inductive FrameError
  | tooLarge
  | incomplete
  | failed
  deriving DecidableEq

def pushFrameBytes (line bytes : List UInt8) : Except FrameError (Bool × List UInt8) :=
  match bytes.findIdx? (· == newline) with
  | some stop =>
    if line.length + stop > maxFrame then .error .tooLarge
    else .ok (true, line ++ bytes.take (stop + 1))
  | none =>
    if line.length + bytes.length > maxFrame then .error .tooLarge
    else .ok (false, line ++ bytes)

/-- The bytes of one read: at least one, and no more than the buffer holds. -/
structure Chunk where
  bytes : List UInt8
  nonempty : bytes ≠ []
  length_le : bytes.length ≤ readBuffer

/-- What a reader answers. After its last answer it is at the end of its stream. -/
inductive Read
  | received (chunk : Chunk)
  | failed

def readLine (line : List UInt8) : List Read → Except FrameError (Option (List UInt8)) × List Read
  | [] => (if line = [] then .ok none else .error .incomplete, [])
  | .failed :: reads => (.error .failed, reads)
  | .received chunk :: reads =>
    match pushFrameBytes line chunk.bytes with
    | .error error => (.error error, reads)
    | .ok (true, frame) => (.ok (some frame), reads)
    | .ok (false, line) => readLine line reads

def readBoundedFrame (reads : List Read) : Except FrameError (Option (List UInt8)) × List Read :=
  readLine [] reads

def lineBuffers (line : List UInt8) : List Read → List (List UInt8)
  | [] => [line]
  | .failed :: _ => [line]
  | .received chunk :: reads =>
    match pushFrameBytes line chunk.bytes with
    | .error _ => [line]
    | .ok (true, frame) => [line, frame]
    | .ok (false, next) => line :: lineBuffers next reads

/-! ## One read -/

variable {line frame rest : List UInt8}

lemma pushFrameBytes_open {bytes : List UInt8} (hopen : newline ∉ bytes) :
    pushFrameBytes line bytes =
      if line.length + bytes.length > maxFrame then .error .tooLarge
      else .ok (false, line ++ bytes) := by
  unfold pushFrameBytes
  cases hfound : bytes.findIdx? (· == newline) with
  | none => rfl
  | some stop =>
    obtain ⟨before, after, rfl, _, _⟩ := exists_of_findIdx hfound
    exact absurd (by simp) hopen

lemma pushFrameBytes_end {before after : List UInt8} (hbefore : newline ∉ before) :
    pushFrameBytes line (before ++ newline :: after) =
      if line.length + before.length > maxFrame then .error .tooLarge
      else .ok (true, line ++ (before ++ [newline])) := by
  unfold pushFrameBytes
  cases hfound : (before ++ newline :: after).findIdx? (· == newline) with
  | none => exact absurd (by simp) (not_mem_of_findIdx hfound)
  | some stop =>
    obtain ⟨first, rest, hsplit, rfl, hfirst⟩ := exists_of_findIdx hfound
    obtain ⟨rfl, rfl⟩ := first_unique hbefore hfirst hsplit
    have htake : (before ++ newline :: after).take (before.length + 1) = before ++ [newline] := by
      rw [take_length_add_append]
      rfl
    dsimp only
    rw [htake]

/-- A read is short of the end of the frame, or has it. -/
lemma Chunk.cases_newline (chunk : Chunk) :
    newline ∉ chunk.bytes ∨
      ∃ before after, chunk.bytes = before ++ newline :: after ∧ newline ∉ before := by
  by_cases hmem : newline ∈ chunk.bytes
  · obtain ⟨before, after, hsplit, hnot⟩ := eq_append_cons_of_mem hmem
    exact .inr ⟨before, after, hsplit, hnot⟩
  · exact .inl hmem

/-! ## Whole frames -/

/-- The line never grows beyond the largest frame and its newline. -/
lemma length_lineBuffers (hline : line.length ≤ maxFrame) (reads : List Read) :
    ∀ buffer ∈ lineBuffers line reads, buffer.length ≤ maxFrame + 1 := by
  induction reads generalizing line with
  | nil =>
    intro buffer hbuffer
    obtain rfl := mem_singleton.mp hbuffer
    omega
  | cons read reads ih =>
    have honly : ∀ buffer ∈ [line], buffer.length ≤ maxFrame + 1 := by
      intro buffer hbuffer
      obtain rfl := mem_singleton.mp hbuffer
      omega
    cases read with
    | failed => exact honly
    | received chunk =>
      rw [lineBuffers]
      -- A chunk is taken only if the line with it fits, the newline not counted.
      rcases chunk.cases_newline with hopen | ⟨before, after, hsplit, hbefore⟩
      · rw [pushFrameBytes_open hopen]
        split_ifs with hlarge
        · exact honly
        · intro buffer hbuffer
          rcases mem_cons.mp hbuffer with rfl | hlater
          · omega
          · refine ih ?_ buffer hlater
            rw [length_append]
            omega
      · rw [hsplit, pushFrameBytes_end hbefore]
        split_ifs with hlarge
        · exact honly
        · intro buffer hbuffer
          rcases mem_cons.mp hbuffer with rfl | hlast
          · omega
          · obtain rfl := mem_singleton.mp hlast
            rw [length_append, length_append, length_singleton]
            omega

def Chunk.stream (chunks : List Chunk) : List UInt8 := chunks.flatMap Chunk.bytes

lemma Chunk.stream_cons (chunk : Chunk) (chunks : List Chunk) :
    Chunk.stream (chunk :: chunks) = chunk.bytes ++ Chunk.stream chunks := flatMap_cons

lemma length_le_of_open {more : List UInt8} (hopen : newline ∉ line)
    (hstream : line ++ more = frame ++ newline :: rest) : line.length ≤ frame.length := by
  rcases append_eq_append_iff.mp hstream with ⟨tail, rfl, _⟩ | ⟨tail, rfl, htail⟩
  · rw [length_append]
    exact Nat.le_add_right _ _
  · cases tail with
    | nil => rw [append_nil]
    | cons byte tail =>
      obtain ⟨rfl, _⟩ := List.cons.inj htail
      exact absurd (by simp) hopen

lemma readLine_frame {chunks : List Chunk} (reads : List Read) (hframe : newline ∉ frame)
    (hopen : newline ∉ line) (hstream : line ++ Chunk.stream chunks = frame ++ newline :: rest) :
    (frame.length ≤ maxFrame →
      ∃ used unused dropped, chunks = used ++ unused ∧
        line ++ Chunk.stream used = frame ++ newline :: dropped ∧
        readLine line (chunks.map .received ++ reads) =
          (.ok (some (frame ++ [newline])), unused.map .received ++ reads)) ∧
      (maxFrame < frame.length →
        (readLine line (chunks.map .received ++ reads)).1 = .error .tooLarge) := by
  -- The induction is on the reads; the line so far is the beginning of the frame.
  induction chunks generalizing line with
  | nil =>
    rw [Chunk.stream, flatMap_nil, append_nil] at hstream
    exact absurd (by rw [hstream]; simp) hopen
  | cons chunk chunks ih =>
    rw [Chunk.stream_cons, ← append_assoc] at hstream
    rw [map_cons, cons_append, readLine]
    rcases chunk.cases_newline with hmore | ⟨before, after, hsplit, hbefore⟩
    · have hnext : newline ∉ line ++ chunk.bytes := by simp [hopen, hmore]
      have hlength := length_le_of_open hnext hstream
      rw [length_append] at hlength
      obtain ⟨hread, hrejected⟩ := ih hnext hstream
      rw [pushFrameBytes_open hmore]
      constructor
      · intro hfits
        obtain ⟨used, unused, dropped, rfl, hused, hanswer⟩ := hread hfits
        refine ⟨chunk :: used, unused, dropped, rfl, ?_, ?_⟩
        · rw [Chunk.stream_cons, ← append_assoc, hused]
        · rw [if_neg (by omega)]
          exact hanswer
      · intro hlarge
        split_ifs with hfull
        · rfl
        · exact hrejected hlarge
    · have hcut : (line ++ before) ++ newline :: (after ++ Chunk.stream chunks) =
          frame ++ newline :: rest := by
        rw [← hstream, hsplit]
        simp
      obtain ⟨rfl, _⟩ := first_unique (by simp [hopen, hbefore]) hframe hcut
      rw [length_append, hsplit, pushFrameBytes_end hbefore]
      refine ⟨fun hfits => ⟨[chunk], chunks, after, rfl, ?_, ?_⟩, fun hlarge => ?_⟩
      · rw [Chunk.stream, flatMap_singleton, hsplit]
        simp
      · rw [if_neg (by omega), append_assoc]
      · rw [if_pos (by omega)]

/-- Framing does not depend on the reads. A frame that fits is returned with its newline,
and what the last read has behind the newline is left to no later frame; a longer frame is
rejected; and the buffer stays within the largest frame and its newline. -/
theorem framing_independent_of_reads {frame rest : List UInt8} {chunks : List Chunk}
    (reads : List Read) (hframe : newline ∉ frame)
    (hstream : Chunk.stream chunks = frame ++ newline :: rest) :
    (frame.length ≤ maxFrame →
      ∃ used unused dropped, chunks = used ++ unused ∧
        Chunk.stream used = frame ++ newline :: dropped ∧
        readBoundedFrame (chunks.map .received ++ reads) =
          (.ok (some (frame ++ [newline])), unused.map .received ++ reads)) ∧
      (maxFrame < frame.length →
        (readBoundedFrame (chunks.map .received ++ reads)).1 = .error .tooLarge) ∧
      ∀ buffer ∈ lineBuffers [] (chunks.map .received ++ reads), buffer.length ≤ maxFrame + 1 := by
  obtain ⟨hread, hrejected⟩ := readLine_frame reads hframe not_mem_nil hstream
  exact ⟨hread, hrejected, length_lineBuffers (Nat.zero_le _) _⟩

/-- A frame of two bytes that comes in two reads, the second with a byte to spare. -/
theorem framing_independent_of_reads_two :
    let first : Chunk := ⟨[1], nofun, by decide⟩
    let second : Chunk := ⟨[2, newline, 3], nofun, by decide⟩
    ∃ used unused dropped, [first, second] = used ++ unused ∧
      Chunk.stream used = [1, 2] ++ newline :: dropped ∧
      readBoundedFrame ([first, second].map .received ++ []) =
        (.ok (some ([1, 2] ++ [newline])), unused.map .received ++ []) :=
  (@framing_independent_of_reads [1, 2] [3] [⟨[1], nofun, by decide⟩,
    ⟨[2, newline, 3], nofun, by decide⟩] [] (by decide) rfl).1 (by decide)

end RamShield

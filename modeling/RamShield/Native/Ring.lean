import RamShield.Types.Basic

/-! # The walk over a TPACKET_V3 block

The kernel fills blocks of a mapped ring with packets. Each packet has a header with the offset
of the next one. The walk trusts no number that it reads: it checks every offset against the
block and the mapping before it follows it.
-/

namespace RamShield.Tpacket

open List

def isizeMax : Nat := 2 ^ 63 - 1

def checkedAdd (left right : Nat) : Option Nat :=
  if left + right ≤ u64Max then some (left + right) else none

def checkedMul (left right : Nat) : Option Nat :=
  if left * right ≤ u64Max then some (left * right) else none

def checkedRangeEnd (start length limit : Nat) : Option Nat :=
  (checkedAdd start length).filter (· ≤ limit)

def blockDescSize : Nat := 48

/-- The size of `Tpacket3Hdr`. -/
def headerSize : Nat := 48

/-- The alignment of `Tpacket3Hdr`. -/
def headerAlign : Nat := 4

def tpacketAlignment : Nat := 16

/-- `Tpacket3Hdr`, with the fields that the walk reads. -/
structure Tpacket3Hdr where
  nextOffset : Nat
  snaplen : Nat
  mac : Nat

/-- `TpacketBlockDesc`, with the fields that the walk reads. -/
structure TpacketBlockDesc where
  numPkts : Nat
  offsetToFirstPkt : Nat
  blkLen : Nat

/-- A geometry that the setup of the ring accepts. -/
structure RingGeometry where
  blockSize : Nat
  blockNr : Nat
  frameSize : Nat
  positive : 0 < blockSize ∧ 0 < blockNr ∧ 0 < frameSize
  mapped : blockSize * blockNr ≤ isizeMax

def RingGeometry.ringLen (ring : RingGeometry) : Nat := ring.blockSize * ring.blockNr

def validTpacketBlockLen (blkLen blockSize : Nat) : Bool :=
  blockDescSize ≤ blkLen ∧ blkLen ≤ blockSize

def checkedTpacketHeaderOffset (blockIdx blockSize ringLen blkLen off : Nat) : Option Nat :=
  if validTpacketBlockLen blkLen blockSize = false ∨ off < blockDescSize ∨
      off % headerAlign ≠ 0 then none
  else do
    let _ ← checkedRangeEnd off headerSize blkLen
    let _ ← checkedRangeEnd off headerSize blockSize
    let blockBase ← checkedMul blockIdx blockSize
    let blockEnd ← checkedRangeEnd blockBase blockSize ringLen
    let headerAbs ← checkedAdd blockBase off
    let headerEnd ← checkedRangeEnd headerAbs headerSize ringLen
    if headerAbs < blockEnd ∧ headerEnd ≤ blockEnd then some headerAbs else none

def checkedTpacketPacketOffsets (blockIdx blockSize ringLen blkLen off mac snaplen : Nat) :
    Option (Nat × Nat) := do
  let headerAbs ← checkedTpacketHeaderOffset blockIdx blockSize ringLen blkLen off
  let packetRel ← checkedAdd off mac
  let packetRelEnd ← checkedRangeEnd packetRel snaplen blkLen
  let _ ← checkedRangeEnd packetRel snaplen blockSize
  let blockBase ← checkedMul blockIdx blockSize
  let blockEnd ← checkedRangeEnd blockBase blockSize ringLen
  let packetAbs ← checkedAdd blockBase packetRel
  let packetAbsEnd ← checkedRangeEnd packetAbs snaplen ringLen
  if blockBase ≤ packetAbs ∧ packetAbsEnd ≤ blockEnd ∧ packetRelEnd ≤ blkLen then
    some (headerAbs, packetAbs)
  else none

def checkedNextTpacketOffset (off next : Nat) (isLast : Bool) (blkLen blockSize : Nat) :
    Except String (Option Nat) :=
  if next = 0 then
    if isLast then .ok none else .error "zero tp_next_offset before final packet"
  else
    match checkedAdd next (tpacketAlignment - 1) with
    | none => .error "tp_next_offset alignment overflow"
    | some sum =>
      let aligned := sum / tpacketAlignment * tpacketAlignment
      if aligned < headerSize then
        .error "tp_next_offset does not advance past the current header"
      else
        match checkedAdd off aligned with
        | none => .error "tp_next_offset addition overflow"
        | some nextOff =>
          if (checkedRangeEnd nextOff headerSize blkLen).isNone then
            .error "next packet header exceeds declared block"
          else if (checkedRangeEnd nextOff headerSize blockSize).isNone then
            .error "next packet header exceeds block size"
          else .ok (some nextOff)

/-! ## The walk -/

/-- A header that is read: its offsets, and start and length of the slice handed on. -/
structure Visit where
  off : Nat
  headerAbs : Nat
  packet : Option (Nat × Nat)
  deriving DecidableEq

/-- The loop over the packets of a block. The headers are whatever the mapping holds. -/
def RingGeometry.walk (ring : RingGeometry) (blockIdx blkLen : Nat)
    (headers : Nat → Tpacket3Hdr) : Nat → Nat → List Visit
  | 0, _ => []
  | remaining + 1, off =>
    match checkedTpacketHeaderOffset blockIdx ring.blockSize ring.ringLen blkLen off with
    | none => []
    | some headerAbs =>
      let header := headers headerAbs
      match checkedTpacketPacketOffsets blockIdx ring.blockSize ring.ringLen blkLen off header.mac
          header.snaplen with
      | none => [⟨off, headerAbs, none⟩]
      | some (_, packetOff) =>
        if header.mac ≤ ring.frameSize ∧ header.snaplen ≤ ring.frameSize then
          ⟨off, headerAbs, some (packetOff, header.snaplen)⟩ ::
            match checkedNextTpacketOffset off header.nextOffset (remaining = 0) blkLen
                ring.blockSize with
            | .ok (some nextOff) => ring.walk blockIdx blkLen headers remaining nextOff
            | .ok none => ring.walk blockIdx blkLen headers remaining off
            | .error _ => []
        else [⟨off, headerAbs, none⟩]

/-- `TP_STATUS_KERNEL`. -/
def tpStatusKernel : Nat := 0

/-- What is done with a block: the visits, the status written back, and the next block. -/
def RingGeometry.takeBlock (ring : RingGeometry) (blockIdx : Nat) (desc : TpacketBlockDesc)
    (headers : Nat → Tpacket3Hdr) : List Visit × Nat × Nat :=
  (if validTpacketBlockLen desc.blkLen ring.blockSize then
      ring.walk blockIdx desc.blkLen headers desc.numPkts desc.offsetToFirstPkt
    else [],
    tpStatusKernel, (blockIdx + 1) % ring.blockNr)

/-! ## What the checks establish -/

lemma checkedAdd_eq_some {left right sum : Nat} :
    checkedAdd left right = some sum ↔ left + right = sum ∧ sum ≤ u64Max := by
  rw [checkedAdd]
  split <;> simp <;> omega

lemma checkedMul_eq_some {left right product : Nat} :
    checkedMul left right = some product ↔ left * right = product ∧ product ≤ u64Max := by
  rw [checkedMul]
  split <;> simp <;> omega

lemma checkedRangeEnd_eq_some {start length limit stop : Nat} :
    checkedRangeEnd start length limit = some stop ↔
      start + length = stop ∧ stop ≤ u64Max ∧ stop ≤ limit := by
  simp [checkedRangeEnd, Option.filter_eq_some_iff, checkedAdd_eq_some, and_assoc]

def alignedOffset (next : Nat) : Nat :=
  (next + (tpacketAlignment - 1)) / tpacketAlignment * tpacketAlignment

lemma checkedNext_eq_some {off next nextOff blkLen blockSize : Nat} {isLast : Bool}
    (hlength : blkLen ≤ blockSize) (hsize : blkLen ≤ u64Max) :
    checkedNextTpacketOffset off next isLast blkLen blockSize = .ok (some nextOff) ↔
      next ≠ 0 ∧ headerSize ≤ alignedOffset next ∧ off + alignedOffset next = nextOff ∧
        nextOff + headerSize ≤ blkLen := by
  unfold checkedNextTpacketOffset alignedOffset
  split
  next hzero => split <;> simp [hzero]
  next hnext =>
    split
    next hover =>
      have hlarge : u64Max < next + 15 := by
        by_contra hsmall
        simp [checkedAdd, tpacketAlignment, Nat.not_lt.mp hsmall] at hover
      simp [headerSize, tpacketAlignment]
      omega
    next sum hsum =>
      obtain ⟨rfl, hsum⟩ := checkedAdd_eq_some.mp hsum
      generalize (next + (tpacketAlignment - 1)) / tpacketAlignment * tpacketAlignment = aligned
      simp only [checkedRangeEnd, checkedAdd]
      repeat' split
      all_goals simp_all
      all_goals omega

lemma checkedNext_eq_none {off next blkLen blockSize : Nat} {isLast : Bool}
    (hnone : checkedNextTpacketOffset off next isLast blkLen blockSize = .ok none) : isLast := by
  unfold checkedNextTpacketOffset at hnone
  dsimp only at hnone
  repeat' split at hnone
  all_goals first | assumption | cases hnone

namespace RingGeometry

/-- The header at an offset lies in the block. -/
def HeaderAt (ring : RingGeometry) (blkLen off : Nat) : Prop :=
  (blockDescSize ≤ blkLen ∧ blkLen ≤ ring.blockSize) ∧ blockDescSize ≤ off ∧
    off % headerAlign = 0 ∧ off + headerSize ≤ blkLen

/-- The bytes lie in the block and in the mapping. -/
def Holds (ring : RingGeometry) (blockIdx start length : Nat) : Prop :=
  blockIdx * ring.blockSize ≤ start ∧
    start + length ≤ blockIdx * ring.blockSize + ring.blockSize ∧ start + length ≤ ring.ringLen

inductive SafeFrom (ring : RingGeometry) (blockIdx : Nat) : Nat → List Visit → Prop
  | nil (off : Nat) : SafeFrom ring blockIdx off []
  | cons {off nextOff : Nat} {packet : Option (Nat × Nat)} {visits : List Visit}
      (hroom : off + headerSize ≤ ring.blockSize)
      (hpacket : ∀ slice ∈ packet, ring.Holds blockIdx slice.1 slice.2)
      (hnext : off + headerSize ≤ nextOff) (hlater : SafeFrom ring blockIdx nextOff visits) :
      SafeFrom ring blockIdx off (⟨off, blockIdx * ring.blockSize + off, packet⟩ :: visits)

variable {ring : RingGeometry} {blockIdx blkLen off : Nat} {headers : Nat → Tpacket3Hdr}
  (hidx : blockIdx < ring.blockNr)

include hidx

lemma block_mapped :
    blockIdx * ring.blockSize + ring.blockSize ≤ ring.ringLen ∧ ring.ringLen ≤ u64Max := by
  refine ⟨?_, ring.mapped.trans (by decide)⟩
  rw [ringLen, ← Nat.succ_mul, Nat.mul_comm ring.blockSize]
  exact Nat.mul_le_mul_right _ hidx

lemma checkedHeader_iff {headerAbs : Nat} :
    checkedTpacketHeaderOffset blockIdx ring.blockSize ring.ringLen blkLen off = some headerAbs ↔
      ring.HeaderAt blkLen off ∧ blockIdx * ring.blockSize + off = headerAbs := by
  have hblock := block_mapped hidx
  have hpos : 0 < headerSize := by decide
  generalize hbase : blockIdx * ring.blockSize = base at hblock
  simp [checkedTpacketHeaderOffset, HeaderAt, validTpacketBlockLen, Option.bind_eq_some_iff,
    checkedRangeEnd_eq_some, checkedMul_eq_some, checkedAdd_eq_some, hbase]
  omega

lemma checkedPacket_iff {mac snaplen headerAbs packetAbs : Nat} :
    checkedTpacketPacketOffsets blockIdx ring.blockSize ring.ringLen blkLen off mac snaplen =
        some (headerAbs, packetAbs) ↔
      ring.HeaderAt blkLen off ∧ off + mac + snaplen ≤ blkLen ∧
        blockIdx * ring.blockSize + off = headerAbs ∧
          blockIdx * ring.blockSize + (off + mac) = packetAbs := by
  have hblock := block_mapped hidx
  simp only [checkedTpacketPacketOffsets, Option.bind_eq_bind, Option.bind_eq_some_iff,
    checkedHeader_iff hidx, checkedRangeEnd_eq_some, checkedMul_eq_some, checkedAdd_eq_some]
  generalize blockIdx * ring.blockSize = base at hblock ⊢
  simp [HeaderAt]
  omega

lemma walk_safe (remaining : Nat) :
    ring.SafeFrom blockIdx off (ring.walk blockIdx blkLen headers remaining off) := by
  have hblock := block_mapped hidx
  fun_induction walk ring blockIdx blkLen headers remaining off with
  | case1 off | case2 _ off => exact .nil off
  | case3 _ off headerAbs hheader | case5 _ off headerAbs hheader =>
    obtain ⟨⟨hlength, -, -, hinside⟩, rfl⟩ := (checkedHeader_iff hidx).mp hheader
    exact .cons (by omega) nofun le_rfl (.nil _)
  | case4 remaining off headerAbs hheader header _ packetOff hpacket _ ih =>
    obtain ⟨⟨hlength, -, -, hinside⟩, rfl⟩ := (checkedHeader_iff hidx).mp hheader
    obtain ⟨-, hends, -, rfl⟩ := (checkedPacket_iff hidx).mp hpacket
    have hslice : ∀ slice ∈ some (blockIdx * ring.blockSize + (off + header.mac), header.snaplen),
        ring.Holds blockIdx slice.1 slice.2 := by
      rintro slice ⟨⟩
      dsimp only [Holds]
      omega
    split
    next hnext =>
      obtain ⟨-, hadvance, rfl, -⟩ := (checkedNext_eq_some hlength.2 (by omega)).mp hnext
      exact .cons (by omega) hslice (by omega) (ih _)
    next hlast =>
      cases of_decide_eq_true (checkedNext_eq_none hlast)
      exact .cons (by omega) hslice le_rfl (.nil _)
    next => exact .cons (by omega) hslice le_rfl (.nil _)

lemma SafeFrom.facts {visits : List Visit} (hsafe : ring.SafeFrom blockIdx off visits) :
    (∀ visit ∈ visits, off ≤ visit.off ∧ ring.Holds blockIdx visit.headerAbs headerSize ∧
      ∀ slice ∈ visit.packet, ring.Holds blockIdx slice.1 slice.2) ∧
    visits.Pairwise (·.off < ·.off) ∧
    (visits ≠ [] → off + headerSize * visits.length ≤ ring.blockSize) := by
  have hblock := block_mapped hidx
  have hpos : 0 < headerSize := by decide
  induction hsafe with
  | nil => simp
  | @cons off nextOff packet visits hroom hpacket hnext hlater ih =>
    obtain ⟨hall, hincreases, hlength⟩ := ih
    refine ⟨forall_mem_cons.mpr ⟨⟨le_rfl, ?_, hpacket⟩, fun other hother => ?_⟩,
      pairwise_cons.mpr ⟨fun other hother => ?_, hincreases⟩, fun _ => ?_⟩
    · dsimp only [Holds]
      omega
    · obtain ⟨hle, hrest⟩ := hall other hother
      exact ⟨by omega, hrest⟩
    · have hle := (hall other hother).1
      dsimp only
      omega
    · cases visits with
      | nil => simpa using hroom
      | cons other visits =>
        have hrest := hlength (cons_ne_nil _ _)
        rw [length_cons, Nat.mul_succ]
        omega

/-- Whatever the descriptor and the headers say, only headers and packets of the block are
read, the offsets increase, and the block is handed back before more headers were seen than
it has room for. -/
theorem takeBlock_safe (desc : TpacketBlockDesc) (headers : Nat → Tpacket3Hdr) :
    let taken := ring.takeBlock blockIdx desc headers
    (∀ visit ∈ taken.1, ring.Holds blockIdx visit.headerAbs headerSize ∧
      ∀ slice ∈ visit.packet, ring.Holds blockIdx slice.1 slice.2) ∧
    taken.1.Pairwise (·.off < ·.off) ∧ headerSize * taken.1.length ≤ ring.blockSize ∧
    taken.2.1 = tpStatusKernel ∧ taken.2.2 < ring.blockNr := by
  have hsafe : ∃ off, ring.SafeFrom blockIdx off (ring.takeBlock blockIdx desc headers).1 := by
    rw [takeBlock]
    split
    · exact ⟨_, walk_safe hidx _⟩
    · exact ⟨0, .nil 0⟩
  obtain ⟨off, hsafe⟩ := hsafe
  obtain ⟨hall, hincreases, hlength⟩ := hsafe.facts hidx
  refine ⟨fun visit hvisit => (hall visit hvisit).2, hincreases, ?_, rfl,
    Nat.mod_lt _ ring.positive.2.1⟩
  by_cases hnil : (ring.takeBlock blockIdx desc headers).1 = []
  · simp [hnil]
  · exact (Nat.le_add_left _ _).trans (hlength hnil)

/-! ## Consistent blocks -/

/-- The packets that were handed on, by their offset and their slice. -/
def handedOn (visits : List Visit) : List (Nat × Nat × Nat) :=
  visits.filterMap fun visit => visit.packet.map (visit.off, ·)

/-- The packet of the header at an offset. -/
def packetAt (headers : Nat → Tpacket3Hdr) (base off : Nat) : Nat × Nat × Nat :=
  (off, base + (off + (headers (base + off)).mac), (headers (base + off)).snaplen)

/-- Headers and packets lie in the block, and next offsets point to headers. -/
def Consistent (headers : Nat → Tpacket3Hdr) (base blkLen : Nat) : List Nat → Prop
  | [] => True
  | off :: offs => blockDescSize ≤ off ∧ off + headerSize ≤ blkLen ∧
      off + (headers (base + off)).mac + (headers (base + off)).snaplen ≤ blkLen ∧
      (∀ next ∈ offs.head?, off + headerSize ≤ next ∧
        off + (headers (base + off)).nextOffset = next) ∧
      Consistent headers base blkLen offs

/-- Headers are aligned, packets fit a frame, and next offsets are multiples of sixteen. -/
def Walkable (ring : RingGeometry) (headers : Nat → Tpacket3Hdr) (base : Nat) : List Nat → Prop
  | [] => True
  | off :: offs => off % headerAlign = 0 ∧ (headers (base + off)).mac ≤ ring.frameSize ∧
      (headers (base + off)).snaplen ≤ ring.frameSize ∧
      (offs ≠ [] → (headers (base + off)).nextOffset % tpacketAlignment = 0) ∧
      Walkable ring headers base offs

omit hidx in
lemma handedOn_walk_head {remaining : Nat} {packet : Nat × Nat × Nat}
    {packets : List (Nat × Nat × Nat)}
    (hhead : handedOn (ring.walk blockIdx blkLen headers remaining off) = packet :: packets) :
    packet.1 = off := by
  cases remaining with
  | zero => cases hhead
  | succ remaining =>
    rw [walk] at hhead
    dsimp only at hhead
    split at hhead
    · cases hhead
    split at hhead
    · cases hhead
    split at hhead
    · exact congrArg Prod.fst (List.cons.inj hhead).1.symm
    · cases hhead

lemma walk_complete_iff {offs : List Nat}
    (hvalid : blockDescSize ≤ blkLen ∧ blkLen ≤ ring.blockSize)
    (hconsistent : Consistent headers (blockIdx * ring.blockSize) blkLen offs)
    (hfirst : ∀ first ∈ offs.head?, off = first) :
    handedOn (ring.walk blockIdx blkLen headers offs.length off) =
        offs.map (packetAt headers (blockIdx * ring.blockSize)) ↔
      ring.Walkable headers (blockIdx * ring.blockSize) offs := by
  have hblock := block_mapped hidx
  have hsize : blkLen ≤ u64Max := by omega
  have hpos : 0 < headerSize := by decide
  induction offs generalizing off with
  | nil => simp [walk, handedOn, Walkable]
  | cons this offs ih =>
    obtain rfl := hfirst this rfl
    obtain ⟨hdesc, hheader, hpacket, hnext, hrest⟩ := hconsistent
    rw [length_cons, map_cons, Walkable, walk]
    by_cases halign : off % headerAlign = 0
    · rw [(checkedHeader_iff hidx).mpr ⟨⟨hvalid, hdesc, halign, hheader⟩, rfl⟩]
      dsimp only
      rw [(checkedPacket_iff hidx).mpr ⟨⟨hvalid, hdesc, halign, hheader⟩, hpacket, rfl, rfl⟩]
      dsimp only
      split
      next hsmall =>
        rw [and_iff_right halign, and_iff_right hsmall.1, and_iff_right hsmall.2]
        refine (cons_inj_right _).trans ?_
        cases offs with
        | nil =>
          refine iff_of_true ?_ ⟨nofun, trivial⟩
          split <;> rfl
        | cons next offs =>
          obtain ⟨hafter, hpoints⟩ := hnext next rfl
          generalize (headers (blockIdx * ring.blockSize + off)).nextOffset = offset at hpoints ⊢
          have hround : alignedOffset offset = offset ↔ offset % tpacketAlignment = 0 := by
            unfold alignedOffset tpacketAlignment
            omega
          -- The walk rounds the offset up, so it meets the next packet exactly if the offset is a
          -- multiple of sixteen.
          by_cases hsixteen : offset % tpacketAlignment = 0
          · have hok := (@checkedNext_eq_some off offset next _ _
              (decide ((next :: offs).length = 0)) hvalid.2 hsize).mpr
                ⟨by omega, by omega, by omega, hrest.2.1⟩
            rw [hok]
            exact (ih hrest (by simp)).trans (by simp [hsixteen])
          · refine iff_of_false (fun heq => ?_) fun hboth => hsixteen (hboth.1 nofun)
            split at heq
            next nextOff hok =>
              obtain ⟨-, -, hsum, -⟩ := (checkedNext_eq_some hvalid.2 hsize).mp hok
              have hhead : next = nextOff := handedOn_walk_head heq
              exact hsixteen (hround.mp (by omega))
            next hlast => cases of_decide_eq_true (checkedNext_eq_none hlast)
            next => cases heq
      next hlarge =>
        exact iff_of_false nofun fun hwalkable => hlarge ⟨hwalkable.2.1, hwalkable.2.2.1⟩
    · have hnone : checkedTpacketHeaderOffset blockIdx ring.blockSize ring.ringLen blkLen off =
          none := by
        rw [checkedTpacketHeaderOffset, if_pos (.inr (.inr halign))]
      rw [hnone]
      exact iff_of_false nofun fun hwalkable => halign hwalkable.1

/-- In a consistent block every packet is handed on once exactly if the walk can get past all
of them. -/
theorem takeBlock_complete_iff {desc : TpacketBlockDesc} {offs : List Nat}
    (hvalid : validTpacketBlockLen desc.blkLen ring.blockSize = true)
    (hcount : offs.length = desc.numPkts)
    (hfirst : ∀ first ∈ offs.head?, desc.offsetToFirstPkt = first)
    (hconsistent : Consistent headers (blockIdx * ring.blockSize) desc.blkLen offs) :
    handedOn (ring.takeBlock blockIdx desc headers).1 =
        offs.map (packetAt headers (blockIdx * ring.blockSize)) ↔
      ring.Walkable headers (blockIdx * ring.blockSize) offs := by
  rw [takeBlock, if_pos hvalid, ← hcount]
  exact walk_complete_iff hidx (of_decide_eq_true hvalid) hconsistent hfirst

/-- The geometry of the native producer. -/
def native : RingGeometry := ⟨2 ^ 20, 8, 2048, by decide, by decide⟩

/-- A block with one header behind the descriptor and one elsewhere. -/
def twoHeaders (first second : Tpacket3Hdr) (position : Nat) : Tpacket3Hdr :=
  if position = blockDescSize then first else second

omit hidx in
theorem takeBlock_safe_two :
    headerSize * (native.takeBlock 0 ⟨2, 48, 4096⟩
      (twoHeaders ⟨1600, 1500, 82⟩ ⟨0, 1500, 82⟩)).1.length ≤ native.blockSize :=
  (@takeBlock_safe native 0 (by decide) _ _).2.2.1

omit hidx in
theorem takeBlock_complete_two :
    handedOn (native.takeBlock 0 ⟨2, 48, 4096⟩ (twoHeaders ⟨1600, 1500, 82⟩ ⟨0, 1500, 82⟩)).1 =
      [(48, 130, 1500), (1648, 1730, 1500)] :=
  (@takeBlock_complete_iff native 0 _ (by decide) ⟨2, 48, 4096⟩ [48, 1648] (by decide) rfl
    (by simp) (by simp [Consistent, twoHeaders, blockDescSize, headerSize])).mpr
    (by simp [Walkable, twoHeaders, blockDescSize, headerAlign, tpacketAlignment, native])

omit hidx in
/-- A packet of 3000 bytes hides itself and the packet after it. -/
theorem large_packet_hides :
    Consistent (twoHeaders ⟨3088, 3000, 82⟩ ⟨0, 100, 82⟩) 0 4096 [48, 3136] ∧
      (native.takeBlock 0 ⟨2, 48, 4096⟩ (twoHeaders ⟨3088, 3000, 82⟩ ⟨0, 100, 82⟩)).1 =
        [⟨48, 48, none⟩] :=
  ⟨by simp [Consistent, twoHeaders, blockDescSize, headerSize], by decide⟩

end RingGeometry

end RamShield.Tpacket

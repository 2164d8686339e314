import RamShield.Types.Basic

/-! # Frames of the native capture

The parser that finds the source address of a captured frame, behind VLAN tags, extension
headers and overlays. It reads a slice at offsets that the frame itself supplies: a read
outside the slice and a sum above `usize::MAX` panic, and so does a recursion without end.
What it finds depends on the bytes alone and not on where in a slice they stand.
-/

namespace RamShield.Native

open List

/-! ## Reading a slice -/

inductive Fault
  | index
  | overflow
  | depth
  deriving DecidableEq

/-- A parse that panics, finds nothing, or finds a value. -/
abbrev Parser := OptionT (Except Fault)

/-- The bytes of a slice from an offset on. The methods count from there. -/
structure Window where
  rest : List UInt8
  off : Nat
  usizeMax : Nat

namespace Window

variable (w : Window)

/-- `frame.len() >= off + count`, for a count above zero. -/
def has (count : Nat) : Parser Bool :=
  if w.usizeMax < w.off + count then throwThe Fault .overflow
  else pure (count ≤ w.rest.length)

def need (count : Nat) : Parser Unit := do guard (← w.has count)

/-- `frame[off + start..off + start + count]`. -/
def slice (start count : Nat) : Parser (List UInt8) := do
  if ← w.has (start + count) then return (w.rest.drop start).take count
  else throwThe Fault .index

/-- `frame[off + index]`. -/
def byte (index : Nat) : Parser UInt8 := do return (← w.slice index 1).headD 0

def u16 (index : Nat) : Parser Nat := do
  return (← w.byte index).toNat * 256 + (← w.byte (index + 1)).toNat

/-- The slice from a later offset on. A sum that overflows is found at the next read. -/
def past (count : Nat) : Window := { w with rest := w.rest.drop count, off := w.off + count }

end Window

/-! ## Headers -/

inductive Family
  | v4
  | v6
  deriving DecidableEq

def etherFamily (ether : Nat) : Option Family :=
  if ether = 0x0800 then some .v4 else if ether = 0x86dd then some .v6 else none

/-- The loop over VLAN tags. -/
def skipTags (w : Window) : Nat → Nat → Nat → Parser (Nat × Nat)
  | 0, eth, off => pure (eth, off)
  | turns + 1, eth, off => do
    if eth ≠ 0x8100 ∧ eth ≠ 0x88a8 then return (eth, off)
    else
      w.need (off + 4)
      skipTags w turns (← w.u16 (off + 2)) (off + 4)

def etherHeader (w : Window) : Parser (Family × Nat) := do
  w.need 14
  let (eth, off) ← skipTags w 4 (← w.u16 12) 14
  match etherFamily eth with
  | some family => return (family, off)
  | none => failure

/-- Source octets, the protocol behind the header and its offset, and whether it is a fragment. -/
structure Header where
  ip : List UInt8
  proto : UInt8
  size : Nat
  fragmented : Bool
  deriving DecidableEq

def ipv4Header (w : Window) : Parser Header := do
  w.need 20
  let ihl := ((← w.byte 0) &&& 0x0f).toNat * 4
  guard (20 ≤ ihl)
  w.need ihl
  let flagsFrag ← w.u16 6
  let proto ← w.byte 9
  return ⟨← w.slice 12 4, proto, ihl, flagsFrag &&& 0x1fff ≠ 0 ∨ flagsFrag &&& 0x2000 ≠ 0⟩

def skipExtensions (w : Window) : Nat → UInt8 → Nat → Bool → Parser (UInt8 × Nat × Bool)
  | 0, next, cursor, fragmented => pure (next, cursor, fragmented)
  | turns + 1, next, cursor, fragmented => do
    if next = 0 ∨ next = 43 ∨ next = 60 then
      w.need (cursor + 2)
      let len := ((← w.byte (cursor + 1)).toNat + 1) * 8
      let next ← w.byte cursor
      guard (w.off + cursor + len ≤ w.usizeMax)
      w.need (cursor + len)
      skipExtensions w turns next (cursor + len) fragmented
    else if next = 44 then
      w.need (cursor + 8)
      skipExtensions w turns (← w.byte cursor) (cursor + 8) true
    else if next = 51 then
      w.need (cursor + 2)
      let len := ((← w.byte (cursor + 1)).toNat + 2) * 4
      let next ← w.byte cursor
      w.need (cursor + len)
      skipExtensions w turns next (cursor + len) fragmented
    else return (next, cursor, fragmented || next == 50)

def ipv6Header (w : Window) : Parser Header := do
  w.need 40
  let ip ← w.slice 8 16
  let (next, cursor, fragmented) ← skipExtensions w 8 (← w.byte 6) 40 false
  return ⟨ip, next, cursor, fragmented⟩

namespace Family

def header : Family → Window → Parser Header
  | .v4 => ipv4Header
  | .v6 => ipv6Header

def headerLen : Family → Nat
  | .v4 => 20
  | .v6 => 40

def encapsulated : Family → UInt8
  | .v4 => 4
  | .v6 => 41

end Family

/-! ## Packets -/

/-- The source address, protocol and flags of a packet, and whether it came in an overlay. -/
structure Seen where
  ip : List UInt8
  proto : UInt8
  syn : Bool
  fragmented : Bool
  overlay : Bool
  deriving DecidableEq

section Overlay

-- An overlay is parsed as the packet inside, and nothing means that there is none.
variable (parse : Family → Window → Parser Seen)

def innerEthernet (inner : Window) : Parser (Option Seen) := do
  if ← inner.has 14 then
    match etherFamily (← inner.u16 12) with
    | some family => some <$> parse family (inner.past 14)
    | none => return none
  else return none

variable (family : Family)

/-- An IPv4 packet may carry both families, an IPv6 packet only its own. -/
def greFollows (innerProto : Nat) (l4 : Window) : Parser Bool :=
  match family with
  | .v4 => pure (etherFamily innerProto).isSome
  | .v6 => if innerProto = 0x86dd then l4.has 44 else pure false

def greOverlay (l4 : Window) : Parser (Option Seen) := do
  if ← l4.has 4 then
    let flags ← l4.u16 0
    let innerProto ← l4.u16 2
    if flags &&& 0x4F00 = 0 ∧ (← greFollows family innerProto l4) then
      let inner := l4.past (4 + (if flags &&& 0x8000 ≠ 0 then 4 else 0) +
        (if flags &&& 0x2000 ≠ 0 then 4 else 0) + (if flags &&& 0x1000 ≠ 0 then 4 else 0))
      some <$> parse (if innerProto = 0x0800 then .v4 else .v6) inner
    else return none
  else return none

def udpOverlay (l4 : Window) : Parser (Option Seen) := do
  if ← l4.has 8 then
    let sport ← l4.u16 0
    let dport ← l4.u16 2
    if sport = 4789 ∨ dport = 4789 then
      l4.need 16
      guard ((← l4.byte 8) &&& 0x08 ≠ 0)
      innerEthernet parse (l4.past 16)
    else if sport = 6081 ∨ dport = 6081 then
      l4.need 8
      let first ← l4.byte 0
      guard (first >>> 6 = 0)
      innerEthernet parse (l4.past (8 + (first &&& 0x3f).toNat * 4))
    else return none
  else return none

def overlay (proto : UInt8) (l4 : Window) : Parser (Option Seen) := do
  if proto = family.encapsulated then
    if ← l4.has family.headerLen then some <$> parse family l4 else return none
  else if proto = 47 then greOverlay parse family l4
  else if proto = 17 then udpOverlay parse l4
  else return none

def tcpSyn (proto : UInt8) (l4 : Window) : Parser Bool := do
  if proto = 6 then
    if ← l4.has 14 then
      let flags ← l4.byte 13
      return flags &&& 0x02 ≠ 0 ∧ flags &&& 0x10 = 0
    else return false
  else return false

def parseUpper (header : Header) (l4 : Window) : Parser Seen := do
  if header.fragmented then return ⟨header.ip, header.proto, false, true, false⟩
  else
    match ← overlay parse family header.proto l4 with
    | some seen => return { seen with overlay := true }
    | none => return ⟨header.ip, header.proto, ← tcpSyn header.proto l4, false, false⟩

end Overlay

/-- `parse_ipv4` and `parse_ipv6`, nested as deep as the fuel allows. -/
def parseIp : Nat → Family → Window → Parser Seen
  | 0, _, _ => throwThe Fault .depth
  | depth + 1, family, w => do
    let header ← family.header w
    parseUpper (parseIp depth) family header (w.past header.size)

/-- `parse_l3`, where no recursion is deeper than one twentieth of the frame. -/
def parseL3 (usizeMax : Nat) (frame : List UInt8) : Parser Seen := do
  let w : Window := ⟨frame, 0, usizeMax⟩
  let (family, off) ← etherHeader w
  parseIp (frame.length / 20 + 1) family (w.past off)

/-! ## Two windows on the same bytes -/

def Agree {α : Type} (more : List UInt8) (post : α → Prop) (left right : Parser α) : Prop :=
  ∃ result, left.run = .ok result ∧
    (∀ value ∈ result, post value ∧ right.run = .ok (some value)) ∧
    (more = [] → right.run = .ok result)

namespace Agree

variable {α β : Type} {more : List UInt8} {post : α → Prop} {post' : β → Prop}
  {left right : Parser α} {next next' : α → Parser β}

lemma found {value : α} (hpost : post value) : Agree more post (pure value) (pure value) :=
  ⟨some value, rfl, fun _ hmem => Option.some.inj hmem ▸ ⟨hpost, rfl⟩, fun _ => rfl⟩

lemma missed : Agree more post failure failure := ⟨none, rfl, nofun, fun _ => rfl⟩

lemma bind (hfirst : Agree more post left right)
    (hnext : ∀ value, post value → Agree more post' (next value) (next' value)) :
    Agree more post' (left >>= next) (right >>= next') := by
  obtain ⟨_ | value, hleft, hfound, hright⟩ := hfirst
  · refine ⟨none, by rw [OptionT.run_bind, hleft]; rfl, nofun, fun hmore => ?_⟩
    rw [OptionT.run_bind, hright hmore]
    rfl
  · obtain ⟨hpost, hright⟩ := hfound value rfl
    rw [Agree, OptionT.run_bind, OptionT.run_bind, hleft, hright]
    exact hnext value hpost

lemma guarded {p : Prop} [Decidable p] {next next' : Unit → Parser β}
    (hnext : p → Agree more post' (next ()) (next' ())) :
    Agree more post' (guard p >>= next) (guard p >>= next') := by
  by_cases hp : p
  · simpa only [guard, if_pos hp, pure_bind] using hnext hp
  · simp only [guard, if_neg hp]
    exact missed

end Agree

/-- Sums behind the window do not overflow: offsets past the end of the frame are short. -/
structure Window.Fits (w : Window) : Prop where
  reads : w.off + w.rest.length + 3000 ≤ w.usizeMax
  moves : w.rest ≠ [] → w.off + w.rest.length + 3300 ≤ w.usizeMax

lemma Window.Fits.start {usizeMax : Nat} (hmax : 2 ^ 32 ≤ usizeMax + 1) {frame : List UInt8}
    (hlength : 2 * frame.length ≤ usizeMax) : (⟨frame, 0, usizeMax⟩ : Window).Fits where
  reads := by
    dsimp only
    omega
  moves _ := by
    dsimp only
    omega

lemma Window.Fits.has {w : Window} (hw : w.Fits) {count : Nat}
    (hcount : count ≤ w.rest.length + 3000) :
    w.has count = pure (decide (count ≤ w.rest.length)) := by
  have hreads := hw.reads
  exact if_neg (by omega)

lemma Window.length_rest_past (w : Window) (count : Nat) :
    (w.past count).rest.length = w.rest.length - count :=
  length_drop

lemma Window.Fits.past {w : Window} (hw : w.Fits) {count : Nat} (hpos : 0 < w.rest.length)
    (hcount : count ≤ w.rest.length + 300) : (w.past count).Fits := by
  have hmoves := hw.moves (ne_nil_of_length_pos hpos)
  have hlength := w.length_rest_past count
  have hoff : (w.past count).off = w.off + count := rfl
  have hmax : (w.past count).usizeMax = w.usizeMax := rfl
  refine ⟨by omega, fun hnonempty => ?_⟩
  have := length_pos_iff.mpr hnonempty
  omega

structure Window.Same (more : List UInt8) (w w' : Window) : Prop where
  fits : w.Fits
  fits' : w'.Fits
  rest_eq : w'.rest = w.rest ++ more

lemma Window.Fits.same {w : Window} (hw : w.Fits) : w.Same [] w := ⟨hw, hw, (append_nil _).symm⟩

namespace Window.Same

variable {more : List UInt8} {w w' : Window} {count start : Nat} {β : Type} {post : β → Prop}

lemma past (hsame : Same [] w w') (hpos : 0 < w.rest.length)
    (hcount : count ≤ w.rest.length + 300) : (w.past count).Same [] (w'.past count) := by
  obtain ⟨hw, hw', hrest⟩ := hsame
  rw [append_nil] at hrest
  refine ⟨hw.past hpos hcount, hw'.past (hrest ▸ hpos) (hrest ▸ hcount), ?_⟩
  rw [append_nil]
  exact congrArg (List.drop count) hrest

lemma has (hsame : Same [] w w') (hcount : count ≤ w.rest.length + 3000)
    {next next' : Bool → Parser β}
    (hshort : w.rest.length < count → Agree [] post (next false) (next' false))
    (hlong : count ≤ w.rest.length → Agree [] post (next true) (next' true)) :
    Agree [] post (w.has count >>= next) (w'.has count >>= next') := by
  have hrest := hsame.rest_eq.trans (append_nil _)
  rw [hsame.fits.has hcount, hsame.fits'.has (hrest ▸ hcount), hrest, pure_bind, pure_bind]
  by_cases hle : count ≤ w.rest.length
  · rw [decide_eq_true hle]
    exact hlong hle
  · rw [decide_eq_false hle]
    exact hshort (Nat.lt_of_not_le hle)

variable (hsame : w.Same more w')

include hsame

lemma length_rest : w'.rest.length = w.rest.length + more.length := by
  rw [hsame.rest_eq, length_append]

lemma need (hcount : count ≤ w.rest.length + 3000) :
    Agree more (fun _ => count ≤ w.rest.length) (w.need count) (w'.need count) := by
  have hlength := hsame.length_rest
  rw [Window.need, Window.need, hsame.fits.has hcount, hsame.fits'.has (by omega), pure_bind,
    pure_bind]
  by_cases hle : count ≤ w.rest.length
  · rw [guard, guard, if_pos (decide_eq_true hle), if_pos (decide_eq_true (by omega))]
    exact .found hle
  · rw [guard, if_neg (by simpa using hle)]
    refine ⟨none, rfl, nofun, ?_⟩
    rintro rfl
    rw [guard, if_neg (by simpa [hlength] using hle)]
    rfl

lemma slice (hcount : start + count ≤ w.rest.length) :
    Agree more (fun _ => True) (w.slice start count) (w'.slice start count) := by
  have hlength := hsame.length_rest
  rw [Window.slice, Window.slice, hsame.fits.has (by omega), hsame.fits'.has (by omega), pure_bind,
    pure_bind, decide_eq_true hcount, decide_eq_true (by omega), hsame.rest_eq,
    drop_append_of_le_length (by omega), take_append_of_le_length]
  · exact .found trivial
  · rw [length_drop]
    omega

lemma byte (hcount : count < w.rest.length) :
    Agree more (fun _ => True) (w.byte count) (w'.byte count) :=
  .bind (hsame.slice hcount) fun _ _ => .found trivial

lemma u16 (hcount : count + 1 < w.rest.length) :
    Agree more (fun _ => True) (w.u16 count) (w'.u16 count) :=
  .bind (hsame.byte (by omega)) fun _ _ => .bind (hsame.byte hcount) fun _ _ => .found trivial

end Window.Same

lemma toNat_and_le (byte mask : UInt8) : (byte &&& mask).toNat ≤ mask.toNat := by
  rw [UInt8.toNat_and]
  exact Nat.and_le_right

/-! ### Their headers -/

section Headers

variable {more : List UInt8} {w w' : Window} (hsame : w.Same more w')

include hsame

lemma skipTags_agree (turns eth : Nat) {off : Nat} (hlow : 14 ≤ off)
    (hoff : off ≤ w.rest.length) :
    Agree more (fun result => 14 ≤ result.2 ∧ result.2 ≤ w.rest.length) (skipTags w turns eth off)
      (skipTags w' turns eth off) := by
  induction turns generalizing eth off with
  | zero => exact .found ⟨hlow, hoff⟩
  | succ turns ih =>
    rw [skipTags, skipTags]
    split
    · exact .found ⟨hlow, hoff⟩
    · refine .bind (hsame.need (by omega)) fun _ hlong => ?_
      exact .bind (hsame.u16 (by omega)) fun eth _ => ih eth (by omega) hlong

lemma etherHeader_agree :
    Agree more (fun found => 14 ≤ found.2 ∧ found.2 ≤ w.rest.length) (etherHeader w)
      (etherHeader w') := by
  refine .bind (hsame.need (Nat.le_add_left ..)) fun _ hlong => ?_
  refine .bind (hsame.u16 hlong) fun eth _ => ?_
  refine .bind (skipTags_agree hsame 4 eth le_rfl hlong) fun (eth, off) hoff => ?_
  dsimp only
  cases etherFamily eth with
  | none => exact .missed
  | some family => exact .found hoff

lemma ipv4Header_agree :
    Agree more (fun header => 20 ≤ header.size ∧ header.size ≤ w.rest.length) (ipv4Header w)
      (ipv4Header w') := by
  refine .bind (hsame.need (by omega)) fun _ hlong => ?_
  refine .bind (hsame.byte (by omega)) fun first _ => .guarded fun hlow => ?_
  have hihl : (first &&& 0x0f).toNat ≤ 0x0f := toNat_and_le ..
  refine .bind (hsame.need (by omega)) fun _ hheader => ?_
  refine .bind (hsame.u16 (by omega)) fun _ _ => .bind (hsame.byte (by omega)) fun _ _ => ?_
  exact .bind (hsame.slice (by omega)) fun _ _ => .found ⟨hlow, hheader⟩

lemma skipExtensions_agree (turns : Nat) (next : UInt8) {cursor : Nat} (fragmented : Bool)
    (hlow : 40 ≤ cursor) (hcursor : cursor ≤ w.rest.length) :
    Agree more (fun result => 40 ≤ result.2.1 ∧ result.2.1 ≤ w.rest.length)
      (skipExtensions w turns next cursor fragmented)
      (skipExtensions w' turns next cursor fragmented) := by
  induction turns generalizing next cursor fragmented with
  | zero => exact .found ⟨hlow, hcursor⟩
  | succ turns ih =>
    have hmax {v : Window} (hv : v.Fits) {len : Nat} (hlen : len ≤ 3000)
        (hrest : w.rest.length ≤ v.rest.length) : v.off + cursor + len ≤ v.usizeMax := by
      have := hv.reads
      omega
    rw [skipExtensions, skipExtensions]
    split
    · refine .bind (hsame.need (by omega)) fun _ hshort => ?_
      refine .bind (hsame.byte (by omega)) fun len _ => ?_
      refine .bind (hsame.byte (by omega)) fun next _ => ?_
      have hlen := len.toNat_lt
      rw [guard, guard, if_pos (hmax hsame.fits (by omega) le_rfl),
        if_pos (hmax hsame.fits' (by omega) (by rw [hsame.length_rest]; omega))]
      simp only [pure_bind]
      exact .bind (hsame.need (by omega)) fun _ hlong => ih next fragmented (by omega) hlong
    · split
      · refine .bind (hsame.need (by omega)) fun _ hlong => ?_
        exact .bind (hsame.byte (by omega)) fun next _ => ih next true (by omega) hlong
      · split
        · refine .bind (hsame.need (by omega)) fun _ hshort => ?_
          refine .bind (hsame.byte (by omega)) fun len _ => ?_
          refine .bind (hsame.byte (by omega)) fun next _ => ?_
          have hlen := len.toNat_lt
          exact .bind (hsame.need (by omega)) fun _ hlong => ih next fragmented (by omega) hlong
        · exact .found ⟨hlow, hcursor⟩

lemma header_agree (family : Family) :
    Agree more (fun header => 20 ≤ header.size ∧ header.size ≤ w.rest.length) (family.header w)
      (family.header w') := by
  cases family with
  | v4 => exact ipv4Header_agree hsame
  | v6 =>
    refine .bind (hsame.need (by omega)) fun _ hlong => .bind (hsame.slice (by omega)) fun _ _ =>
      .bind (hsame.byte (by omega)) fun next _ => ?_
    refine .bind (skipExtensions_agree hsame 8 next false le_rfl hlong) fun _ hcursor => ?_
    exact .found (hcursor.imp_left (Nat.le_trans (by decide)))

end Headers

/-! ### Their packets -/

section Overlay

variable {parse parse' : Family → Window → Parser Seen} {l4 l4' : Window}
  (hsame : l4.Same [] l4')
  (hparse : ∀ family {inner inner' : Window}, inner.Same [] inner' →
    inner.rest.length ≤ l4.rest.length →
    Agree [] (fun _ => True) (parse family inner) (parse' family inner'))

include hsame hparse

lemma parse_past {count : Nat} (hpos : 0 < l4.rest.length)
    (hcount : count ≤ l4.rest.length + 300) (family : Family) :
    Agree [] (fun _ => True) (some <$> parse family (l4.past count))
      (some <$> parse' family (l4'.past count)) := by
  refine .bind (hparse family (hsame.past hpos hcount) ?_) fun _ _ => .found trivial
  rw [Window.length_rest_past]
  omega

lemma innerEthernet_agree :
    Agree [] (fun _ => True) (innerEthernet parse l4) (innerEthernet parse' l4') := by
  refine hsame.has (by omega) (fun _ => .found trivial) fun hlong => ?_
  refine .bind (hsame.u16 (by omega)) fun ether _ => ?_
  cases etherFamily ether with
  | none => exact .found trivial
  | some family => exact parse_past hsame hparse (by omega) (by omega) family

lemma greOverlay_agree (family : Family) :
    Agree [] (fun _ => True) (greOverlay parse family l4) (greOverlay parse' family l4') := by
  refine hsame.has (by omega) (fun _ => .found trivial) fun hlong => ?_
  refine .bind (hsame.u16 (by omega)) fun flags _ => .bind (hsame.u16 (by omega)) fun inner _ => ?_
  refine @Agree.bind _ _ _ (fun _ => True) _ _ _ _ _ ?_ fun follows _ => ?_
  · cases family with
    | v4 => exact .found trivial
    | v6 =>
      rw [greFollows, greFollows]
      split
      · rw [← bind_pure (l4.has 44), ← bind_pure (l4'.has 44)]
        exact hsame.has (by omega) (fun _ => .found trivial) fun _ => .found trivial
      · exact .found trivial
  · split
    · refine parse_past hsame hparse (by omega) ?_ _
      split <;> split <;> split <;> omega
    · exact .found trivial

lemma udpOverlay_agree :
    Agree [] (fun _ => True) (udpOverlay parse l4) (udpOverlay parse' l4') := by
  refine hsame.has (by omega) (fun _ => .found trivial) fun hlong => ?_
  have hinner {count : Nat} (hcount : count ≤ 260) : Agree [] (fun _ => True)
      (innerEthernet parse (l4.past count)) (innerEthernet parse' (l4'.past count)) :=
    innerEthernet_agree (hsame.past (by omega) (by omega)) fun family _ _ hinner hlength =>
      hparse family hinner (by rw [Window.length_rest_past] at hlength; omega)
  refine .bind (hsame.u16 (by omega)) fun sport _ => .bind (hsame.u16 (by omega)) fun dport _ => ?_
  split
  · refine .bind (hsame.need (by omega)) fun _ hvxlan => ?_
    exact .bind (hsame.byte (by omega)) fun _ _ => .guarded fun _ => hinner (by decide)
  · split
    · refine .bind (hsame.need (by omega)) fun _ _ => ?_
      refine .bind (hsame.byte (by omega)) fun first _ => .guarded fun _ => hinner ?_
      have hoptions : (first &&& 0x3f).toNat ≤ 0x3f := toNat_and_le ..
      omega
    · exact .found trivial

lemma overlay_agree (family : Family) (proto : UInt8) :
    Agree [] (fun _ => True) (overlay parse family proto l4) (overlay parse' family proto l4') := by
  rw [overlay, overlay]
  split
  · refine hsame.has ?_ (fun _ => .found trivial) fun hlong => ?_
    · cases family <;> simp only [Family.headerLen] <;> omega
    · exact .bind (hparse family hsame le_rfl) fun _ _ => .found trivial
  · split
    · exact greOverlay_agree hsame hparse family
    · split
      · exact udpOverlay_agree hsame hparse
      · exact .found trivial

lemma parseUpper_agree (family : Family) (header : Header) :
    Agree [] (fun _ => True) (parseUpper parse family header l4)
      (parseUpper parse' family header l4') := by
  rw [parseUpper, parseUpper]
  split
  · exact .found trivial
  refine .bind (overlay_agree hsame hparse family header.proto) fun inner _ => ?_
  cases inner with
  | some seen => exact .found trivial
  | none =>
    refine @Agree.bind _ _ _ (fun _ => True) _ _ _ _ _ ?_ fun syn _ => .found trivial
    rw [tcpSyn, tcpSyn]
    split
    · refine hsame.has (by omega) (fun _ => .found trivial) fun hlong => ?_
      exact .bind (hsame.byte (by omega)) fun flags _ => .found trivial
    · exact .found trivial

end Overlay

lemma parseIp_agree {w w' : Window} (hsame : w.Same [] w') {depth depth' : Nat}
    (hdepth : w.rest.length < 20 * depth) (hdepth' : w.rest.length < 20 * depth')
    (family : Family) :
    Agree [] (fun _ => True) (parseIp depth family w) (parseIp depth' family w') := by
  induction depth generalizing depth' w w' family with
  | zero => omega
  | succ depth ih =>
    obtain ⟨depth', rfl⟩ : ∃ fewer, depth' = fewer + 1 := ⟨depth' - 1, by omega⟩
    refine .bind (header_agree hsame family) fun header hsize => ?_
    refine parseUpper_agree (hsame.past (by omega) (by omega)) ?_ family header
    intro inner w w' hinner hlength
    rw [Window.length_rest_past] at hlength
    exact ih hinner (by omega) (by omega) inner

/-- No frame makes the parser read outside its bytes, overflow a sum or recurse deeper than
one twentieth of its length. A slice fills half of the address space at most. -/
theorem parseL3_safe {usizeMax : Nat} (hmax : 2 ^ 32 ≤ usizeMax + 1) {frame : List UInt8}
    (hlength : 2 * frame.length ≤ usizeMax) : ∃ seen, (parseL3 usizeMax frame).run = .ok seen := by
  suffices hagree : Agree [] (fun _ => True) (parseL3 usizeMax frame) (parseL3 usizeMax frame) by
    obtain ⟨result, hrun, -⟩ := hagree
    exact ⟨result, hrun⟩
  have hw := Window.Fits.start hmax hlength
  refine .bind (etherHeader_agree hw.same) fun (family, off) hoff => ?_
  have hfuel : frame.length - off < 20 * (frame.length / 20 + 1) := by omega
  rw [← length_drop] at hfuel
  dsimp only at hoff
  exact parseIp_agree (hw.same.past (by dsimp only; omega) (by dsimp only; omega)) hfuel
    hfuel family

/-- Behind a VLAN tag, an IPv4 packet in an IPv4 packet: the inner source is found. -/
theorem parseL3_safe_tunnel :
    let packet (proto : UInt8) (source : List UInt8) : List UInt8 :=
      [0x45, 0, 0, 40, 0, 0, 0, 0, 64, proto, 0, 0] ++ source ++ [198, 51, 100, 1]
    let parsed := (parseL3 (2 ^ 64 - 1) (replicate 12 0 ++ [0x81, 0, 0, 1, 0x08, 0] ++
      packet 4 [10, 0, 0, 1] ++ packet 6 [203, 0, 113, 7])).run
    (∃ seen, parsed = .ok seen) ∧
      parsed = .ok (some ⟨[203, 0, 113, 7], 6, false, false, true⟩) :=
  ⟨parseL3_safe (by decide) (by decide), by decide +kernel⟩

end RamShield.Native

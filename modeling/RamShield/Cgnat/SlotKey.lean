import RamShield.Cgnat.Shm
import RamShield.Foundation.Mixer

/-! # Keys of the rule table

The key of a network is a mixer applied to the address combined with the prefix length. The
mixer is a bijection of 32-bit words, so two networks have one key exactly if the combinations
are the same. The combination is an exclusive or with the low bits of the address, where a long
prefix has address bits of its own: there a network shares its key with others.
-/

namespace RamShield

open Foundation Foundation.Machine List BitVec

/-! ## The key functions -/

/-- `subnet_key` of the daemon. -/
def shmSubnetKey (network : BitVec 32) (prefixLen : BitVec 8) : BitVec 64 :=
  let h := network ^^^ prefixLen.setWidth 32
  let h := h ^^^ h >>> 16
  let h := h * 0x85ebca6b#32
  let h := h ^^^ h >>> 13
  let h := h * 0xc2b2ae35#32
  let h := h ^^^ h >>> 16
  h.setWidth 64

/-- `ramshield_subnet_key` of the C header. -/
def ramshieldSubnetKey (network : BitVec 32) (prefixLen : BitVec 8) : BitVec 64 :=
  let h := network ^^^ prefixLen.setWidth 32
  let h := h ^^^ h >>> 16
  let h := h * 0x85ebca6b#32
  let h := h ^^^ h >>> 13
  let h := h * 0xc2b2ae35#32
  let h := h ^^^ h >>> 16
  h.setWidth 64

def ipv4Mask (prefixLen : BitVec 8) : BitVec 32 := 0xffffffff#32 <<< (32 - prefixLen.toNat)

def ramshieldIpv4SubnetKey (clientIp : BitVec 32) (prefixLen : BitVec 8) : BitVec 64 :=
  if 32 < prefixLen.toNat ∨ prefixLen = 0 then 0
  else ramshieldSubnetKey (clientIp &&& ipv4Mask prefixLen) prefixLen

/-- `ramshield_shm_read_ipv4_ex`. -/
def ShmTable.readIpv4Ex (table : ShmTable) (clientIp : BitVec 32) (prefixLen : BitVec 8)
    (nowMs : Nat) : ShmLookup :=
  if prefixLen = 0 ∨ 32 < prefixLen.toNat then .invalid
  else table.readEx (ramshieldIpv4SubnetKey clientIp prefixLen) nowMs

def shmMix (h : BitVec 32) : BitVec 32 :=
  let h := h ^^^ h >>> 16
  let h := h * 0x85ebca6b#32
  let h := h ^^^ h >>> 13
  let h := h * 0xc2b2ae35#32
  h ^^^ h >>> 16

/-- The mixer loses nothing. -/
lemma shmMix_injective : Function.Injective shmMix := by
  have hfirst : Function.Injective fun h : BitVec 32 => h ^^^ h >>> 16 :=
    xor_ushiftRight_injective (by decide)
  have hsecond : Function.Injective fun h : BitVec 32 => h * 0x85ebca6b#32 :=
    @mul_injective_of_inverse 32 _ 0xa5cb9243#32 (by decide)
  have hthird : Function.Injective fun h : BitVec 32 => h ^^^ h >>> 13 :=
    xor_ushiftRight_injective (by decide)
  have hfourth : Function.Injective fun h : BitVec 32 => h * 0xc2b2ae35#32 :=
    @mul_injective_of_inverse 32 _ 0x7ed1b41d#32 (by decide)
  exact hfirst.comp (hfourth.comp (hthird.comp (hsecond.comp hfirst)))

lemma shmSubnetKey_eq (network : BitVec 32) (prefixLen : BitVec 8) :
    shmSubnetKey network prefixLen = (shmMix (network ^^^ prefixLen.setWidth 32)).setWidth 64 := rfl

lemma shmSubnetKey_eq_iff {first second : BitVec 32} {firstLen secondLen : BitVec 8} :
    shmSubnetKey first firstLen = shmSubnetKey second secondLen ↔
      first ^^^ firstLen.setWidth 32 = second ^^^ secondLen.setWidth 32 := by
  rw [shmSubnetKey_eq, shmSubnetKey_eq]
  constructor
  · intro hkey
    refine shmMix_injective (eq_of_toNat_eq ?_)
    have hnat := congrArg BitVec.toNat hkey
    rw [toNat_setWidth_of_le (by decide), toNat_setWidth_of_le (by decide)] at hnat
    exact hnat
  · intro hword
    rw [hword]

/-! ## Networks -/

/-- A normalized IPv4 network with a prefix length from 1 to 32. -/
@[ext]
structure RuleNetwork where
  network : BitVec 32
  prefixLen : BitVec 8
  positive : prefixLen ≠ 0
  bounded : prefixLen.toNat ≤ 32
  normalized : network &&& ipv4Mask prefixLen = network

namespace RuleNetwork

def word (net : RuleNetwork) : BitVec 32 := net.network ^^^ net.prefixLen.setWidth 32

def key (net : RuleNetwork) : BitVec 64 := shmSubnetKey net.network net.prefixLen

def ofClient (clientIp : BitVec 32) (prefixLen : BitVec 8) (hpositive : prefixLen ≠ 0)
    (hbounded : prefixLen.toNat ≤ 32) : RuleNetwork where
  network := clientIp &&& ipv4Mask prefixLen
  prefixLen := prefixLen
  positive := hpositive
  bounded := hbounded
  normalized := by rw [BitVec.and_assoc, BitVec.and_self]

lemma key_eq_iff {first second : RuleNetwork} : first.key = second.key ↔
    first.word = second.word := shmSubnetKey_eq_iff

lemma key_eq_zero_iff {net : RuleNetwork} : net.key = 0 ↔ net.word = 0 := by
  have hzero : shmSubnetKey 0 0 = 0 := by decide
  rw [key, ← hzero, shmSubnetKey_eq_iff]
  rfl

lemma readIpv4Ex_eq (table : ShmTable) (clientIp : BitVec 32) {prefixLen : BitVec 8}
    (hpositive : prefixLen ≠ 0) (hbounded : prefixLen.toNat ≤ 32) (nowMs : Nat) :
    table.readIpv4Ex clientIp prefixLen nowMs =
      table.readEx (ofClient clientIp prefixLen hpositive hbounded).key nowMs := by
  have hshort : ¬32 < prefixLen.toNat := Nat.not_lt.mpr hbounded
  rw [ShmTable.readIpv4Ex, if_neg (not_or.mpr ⟨hpositive, hshort⟩), ramshieldIpv4SubnetKey,
    if_neg (not_or.mpr ⟨hshort, hpositive⟩)]
  rfl

/-- Prefixes up to 27 bits leave the low bits to the length. -/
lemma eq_of_word_eq {first second : RuleNetwork} (hfirst : first.prefixLen.toNat ≤ 27)
    (hsecond : second.prefixLen.toNat ≤ 27) (hword : first.word = second.word) :
    first = second := by
  have hlow : ∀ net : RuleNetwork, net.prefixLen.toNat ≤ 27 →
      net.word.setWidth 5 = net.prefixLen.setWidth 5 := by
    intro net hshort
    have hnetwork : net.network.setWidth 5 = 0 := by
      rw [← net.normalized, setWidth_and]
      ext index hindex
      simp only [ipv4Mask, getElem_and, getElem_setWidth, getLsbD_shiftLeft]
      simp only [show index < 32 - net.prefixLen.toNat by omega, decide_true, Bool.not_true,
        Bool.and_false, Bool.false_and]
      simp
    rw [word, setWidth_xor, hnetwork, setWidth_setWidth_of_le _ (by decide)]
    exact zero_xor
  have hlen : first.prefixLen = second.prefixLen := by
    have hboth := congrArg BitVec.toNat
      ((hlow first hfirst).symm.trans ((congrArg _ hword).trans (hlow second hsecond)))
    simp only [toNat_setWidth] at hboth
    exact eq_of_toNat_eq (by omega)
  refine RuleNetwork.ext ?_ hlen
  unfold word at hword
  rw [hlen] at hword
  exact (xor_left_inj _).mp hword

end RuleNetwork

/-! ## Publishing for networks -/

inductive RuleCall
  | publish (net : RuleNetwork) (nowMs ttlMs : Nat) (tier : BitVec 8) (maxRps : BitVec 16)
      (isShared : Bool)
  | clear (slot : ShmSlot) (nowMs : Nat)

def RuleCall.shmCall : RuleCall → ShmCall
  | .publish net nowMs ttlMs tier maxRps isShared =>
    .publish ⟨nowMs, net.key, ttlMs, tier, maxRps, isShared⟩
  | .clear slot nowMs => .clear slot nowMs

def RuleCall.PublishesLive (call : RuleCall) (net : RuleNetwork) (nowMs : Nat) : Prop :=
  match call with
  | .publish published publishedMs ttlMs _ _ _ => published = net ∧ nowMs < satAdd publishedMs ttlMs
  | .clear _ _ => False

def RuleCall.Within (networks : Set RuleNetwork) : RuleCall → Prop
  | .publish net _ _ _ _ _ => net ∈ networks
  | .clear _ _ => True

def ruleTable (calls : List RuleCall) : ShmTable :=
  (run ShmRun.step .new (calls.map RuleCall.shmCall)).table

variable {net : RuleNetwork} {call : PublishCall} {hash : BitVec 64} {nowMs : Nat}
  {rule : ShmRuleSnapshot}

lemma ShmRun.exists_publish_of_latest {calls : List ShmCall} {slot : ShmSlot}
    (hlatest : (run step new calls).latest hash = some (slot, rule)) :
    ∃ call, .publish call ∈ calls ∧ call.clientHash = hash ∧ call.rule = rule := by
  induction calls using List.reverseRecOn with
  | nil => cases hlatest
  | append_singleton calls last ih =>
    have hbefore : (run step new calls).latest hash = some (slot, rule) →
        ∃ call, .publish call ∈ calls ++ [last] ∧ call.clientHash = hash ∧ call.rule = rule := by
      intro hlatest
      obtain ⟨call, hcall, hrest⟩ := ih hlatest
      exact ⟨call, mem_append_left _ hcall, hrest⟩
    rw [run_append, run_cons, run_nil] at hlatest
    cases last with
    | publish call =>
      unfold step at hlatest
      dsimp only at hlatest
      split at hlatest
      · rw [Function.update_apply] at hlatest
        split at hlatest
        next hsame =>
          obtain ⟨selected, _, hplaced⟩ := Option.map_eq_some_iff.mp hlatest
          cases hplaced
          exact ⟨call, mem_append_right _ (mem_singleton_self _), hsame.symm, rfl⟩
        · exact hbefore hlatest
      · exact hbefore hlatest
    | clear cleared nowMs =>
      unfold step at hlatest
      dsimp only at hlatest
      split at hlatest
      · exact hbefore (Option.filter_eq_some_iff.mp hlatest).1
      · exact hbefore hlatest

lemma exists_publishesLive {calls : List RuleCall}
    (hordered : ShmRun.Ordered (calls.map RuleCall.shmCall) nowMs)
    (hfound : (ruleTable calls).readEx hash nowMs = .found rule) :
    hash ≠ 0 ∧ ∃ call ∈ calls, ∃ net : RuleNetwork, net.key = hash ∧
      call.PublishesLive net nowMs := by
  have hhash : hash ≠ 0 := by
    rintro rfl
    cases hfound
  refine ⟨hhash, ?_⟩
  rw [ruleTable, ShmRun.readEx_run hordered hhash, ShmRun.answer] at hfound
  split at hfound
  next slot stored hlatest =>
    split at hfound
    next hlive =>
      obtain ⟨published, hpublished, hkey, hrule⟩ := ShmRun.exists_publish_of_latest hlatest
      obtain ⟨call, hcall, hsame⟩ := mem_map.mp hpublished
      cases call with
      | publish net publishedMs ttlMs tier maxRps isShared =>
        cases hsame
        refine ⟨_, hcall, net, hkey, rfl, ?_⟩
        rw [← hrule] at hlive
        exact hlive
      | clear slot clearedMs => cases hsame
    · cases hfound
  · cases hfound

lemma ShmRun.answer_publish {run : ShmRun} (hstable : run.table.Stable)
    (hfits : (run.table.publishRule call).1) (hlive : nowMs < call.rule.expiresAtMs) :
    (run.step (.publish call)).answer call.clientHash nowMs = .found call.rule := by
  rcases ShmTable.publishRule_cases hstable call with
    ⟨_, hresult⟩ | ⟨_, slot, hcandidate, hresult⟩
  · rw [hresult] at hfits
    cases hfits
  · unfold answer step
    dsimp only
    rw [hfits, if_pos rfl, Function.update_self, hcandidate, Option.map_some]
    exact if_pos hlive

lemma publishRule_new (hhash : call.clientHash ≠ 0) : (ShmRun.new.table.publishRule call).1 := by
  by_contra hfails
  rcases (ShmTable.publishRule_eq_false_iff ShmRun.stable_new call).mp
    (Bool.eq_false_of_not_eq_true hfails) with hzero | hall
  · exact hhash hzero
  · have hprobe : 0 < shmProbeLimit := by decide
    exact (hall _ (mem_map_of_mem (mem_range.mpr hprobe))).1 rfl

lemma ordered_singleton (net : RuleNetwork) :
    ShmRun.Ordered ([RuleCall.publish net 0 1 3 0 true].map RuleCall.shmCall) 0 := by
  refine ⟨pairwise_singleton _ _, fun call hcall => ?_⟩
  rw [mem_singleton.mp hcall]
  exact Nat.le_refl 0

lemma readEx_ruleTable_singleton (hkey : net.key ≠ 0) :
    ∃ rule, (ruleTable [.publish net 0 1 3 0 true]).readEx net.key 0 = .found rule := by
  refine ⟨PublishCall.rule ⟨0, net.key, 1, 3, 0, true⟩, ?_⟩
  rw [ruleTable, ShmRun.readEx_run (ordered_singleton net) hkey]
  exact @ShmRun.answer_publish ⟨0, net.key, 1, 3, 0, true⟩ 0 .new ShmRun.stable_new
    (publishRule_new hkey) (show 0 < satAdd 0 1 by decide)

/-- A client finds a rule only if a live one was published for its own network. -/
def HitsOwnOnly (networks : Set RuleNetwork) (clientIp : BitVec 32) (own : RuleNetwork) : Prop :=
  ∀ (calls : List RuleCall) (nowMs : Nat) (rule : ShmRuleSnapshot),
    (∀ call ∈ calls, call.Within networks) →
    ShmRun.Ordered (calls.map RuleCall.shmCall) nowMs →
    (ruleTable calls).readIpv4Ex clientIp own.prefixLen nowMs = .found rule →
      ∃ call ∈ calls, call.PublishesLive own nowMs

lemma RuleCall.within_of_publishesLive {networks : Set RuleNetwork} {call : RuleCall}
    (hwithin : call.Within networks) (hlive : call.PublishesLive net nowMs) : net ∈ networks := by
  cases call with
  | publish published publishedMs ttlMs tier maxRps isShared => exact hlive.1 ▸ hwithin
  | clear slot clearedMs => exact hlive.elim

/-- The key functions of the daemon and of the C header are the same; networks have the same
key exactly if their addresses combined with their prefix lengths are the same; and the lookups
of a client hit its own network only exactly if no other network of the set has that
combination, zero apart. -/
theorem hitsOwnOnly_iff (networks : Set RuleNetwork) (clientIp : BitVec 32)
    {prefixLen : BitVec 8} (hpositive : prefixLen ≠ 0) (hbounded : prefixLen.toNat ≤ 32) :
    let own := RuleNetwork.ofClient clientIp prefixLen hpositive hbounded
    (∀ network len, shmSubnetKey network len = ramshieldSubnetKey network len) ∧
    (∀ first second : RuleNetwork, first.key = second.key ↔
      first.network ^^^ first.prefixLen.setWidth 32 =
        second.network ^^^ second.prefixLen.setWidth 32) ∧
    (HitsOwnOnly networks clientIp own ↔
      ∀ net ∈ networks, net ≠ own → net.word = own.word → own.word = 0) := by
  intro own
  refine ⟨fun _ _ => rfl, fun _ _ => RuleNetwork.key_eq_iff, ?_⟩
  have hread : ∀ table nowMs, ShmTable.readIpv4Ex table clientIp own.prefixLen nowMs =
      table.readEx own.key nowMs := fun table nowMs =>
    RuleNetwork.readIpv4Ex_eq table clientIp hpositive hbounded nowMs
  constructor
  · intro hhits net hnet hother hword
    by_contra hnonzero
    -- A rule for the other network alone is found.
    have hkey := RuleNetwork.key_eq_iff.mpr hword
    have hzero := fun hkey => hnonzero (hword ▸ RuleNetwork.key_eq_zero_iff.mp hkey)
    obtain ⟨rule, hfound⟩ := readEx_ruleTable_singleton hzero
    rw [hkey, ← hread] at hfound
    obtain ⟨call, hcall, hlive⟩ := hhits [.publish net 0 1 3 0 true] 0 rule
      (forall_mem_singleton.mpr hnet) (ordered_singleton net) hfound
    rw [mem_singleton.mp hcall] at hlive
    exact hother hlive.1
  · intro happart calls nowMs rule hwithin hordered hfound
    rw [hread] at hfound
    obtain ⟨hkey, call, hcall, net, hsame, hlive⟩ := exists_publishesLive hordered hfound
    refine ⟨call, hcall, ?_⟩
    by_cases hown : net = own
    · exact hown ▸ hlive
    · have hnet := RuleCall.within_of_publishesLive (hwithin call hcall) hlive
      have hzero := happart net hnet hown (RuleNetwork.key_eq_iff.mp hsame)
      exact absurd (RuleNetwork.key_eq_zero_iff.mpr hzero) hkey

/-- Among networks with prefixes of at most 27 bits a lookup hits its own. -/
theorem hitsOwnOnly_of_short :
    HitsOwnOnly { net | net.prefixLen.toNat ≤ 27 } 0x0A000038
      (.ofClient 0x0A000038 24 (by decide) (by decide)) :=
  (hitsOwnOnly_iff { net | net.prefixLen.toNat ≤ 27 } 0x0A000038 (by decide)
    (by decide)).2.2.mpr fun _ hshort hother hword =>
      absurd (RuleNetwork.eq_of_word_eq hshort (by decide) hword) hother

/-- A rule that was published for 10.0.0.0/24 is found by the lookup of 10.0.0.56/32. -/
theorem host_hits_subnet_rule :
    let subnet := RuleNetwork.ofClient 0x0A000038 24 (by decide) (by decide)
    (ruleTable [.publish subnet 0 1000 3 0 true]).readIpv4Ex 0x0A000038 32 0 =
        .found (PublishCall.rule ⟨0, subnet.key, 1000, 3, 0, true⟩) ∧
      subnet.network = 0x0A000000 ∧ subnet.prefixLen ≠ 32 := by
  refine ⟨?_, ?_, ?_⟩
  all_goals decide +kernel

end RamShield

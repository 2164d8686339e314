import RamShield.Protocol.Auth

/-! # The order of the replay store

The store drops expired markers only from the front of its queue, and reads from its map
whether a marker is live. Since the clock never goes back the queue is sorted by stamp,
and a sweep leaves exactly the live markers.
-/

namespace RamShield.ReplayStore

open Foundation Foundation.Machine List Table

def isLive (ttl : Nat) (now : Instant) (map : Table NonceKey Instant) (key : NonceKey) : Bool :=
  (map.lookup key).any fun stamp => now - stamp < ttl

/-- The queue holds the markers of the map, once each and the oldest first. -/
structure Ordered (order : List NonceKey) (map : Table NonceKey Instant) : Prop where
  nodup : order.Nodup
  mem : ∀ key, key ∈ order ↔ key ∈ map.keys
  sorted : order.Pairwise fun first second => ∀ earlier later,
    map.lookup first = some earlier → map.lookup second = some later → earlier ≤ later

lemma ordered_nil : Ordered [] ∅ := ⟨nodup_nil, by simp, List.Pairwise.nil⟩

variable {key : NonceKey} {order : List NonceKey} {map : Table NonceKey Instant}
variable {ttl : Nat} {now : Instant}

namespace Ordered

lemma card_keys (hordered : Ordered order map) : map.keys.card = order.length := by
  have hkeys : map.keys = order.toFinset := by
    ext key
    rw [mem_toFinset, hordered.mem]
  rw [hkeys, toFinset_card_of_nodup hordered.nodup]

lemma tail (hordered : Ordered (key :: order) map) : Ordered order (map.erase key) := by
  have hnodup := nodup_cons.mp hordered.nodup
  have hsorted := (pairwise_cons.mp hordered.sorted).2
  refine ⟨hnodup.2, fun other => ?_, hsorted.imp fun hle earlier later hfirst hsecond => ?_⟩
  · rw [Finmap.keys_erase, Finset.mem_erase, ← hordered.mem, mem_cons]
    constructor
    · exact fun hin => ⟨fun heq => hnodup.1 (heq ▸ hin), .inr hin⟩
    · exact fun hin => hin.2.resolve_left hin.1
  · rw [lookup_erase_eq] at hfirst hsecond
    split at hfirst
    · cases hfirst
    split at hsecond
    · cases hsecond
    exact hle earlier later hfirst hsecond

lemma live_of_front (hordered : Ordered (key :: order) map) {stamp : Instant}
    (hstamp : map.lookup key = some stamp) (hlive : now - stamp < ttl) {other : NonceKey}
    {found : Instant} (hfound : map.lookup other = some found) : now - found < ttl := by
  have hin := (hordered.mem other).mpr (mem_keys_iff_lookup.mpr ⟨found, hfound⟩)
  rcases mem_cons.mp hin with rfl | hother
  · rwa [← Option.some.inj (hstamp.symm.trans hfound)]
  · have hle := (pairwise_cons.mp hordered.sorted).1 other hother _ _ hstamp hfound
    exact lt_of_le_of_lt (Nat.sub_le_sub_left hle _) hlive

lemma sweep (hordered : Ordered order map) :
    Ordered (sweep ttl now order map).1 (sweep ttl now order map).2 ∧
      (ReplayStore.sweep ttl now order map).1 = order.filter (isLive ttl now map) ∧
      ∀ key stamp, (ReplayStore.sweep ttl now order map).2.lookup key = some stamp ↔
        map.lookup key = some stamp ∧ now - stamp < ttl := by
  induction order generalizing map with
  | nil =>
    refine ⟨hordered, rfl, fun key stamp => (and_iff_left_of_imp fun hstamp => ?_).symm⟩
    exact absurd ((hordered.mem key).mpr (mem_keys_iff_lookup.mpr ⟨stamp, hstamp⟩)) not_mem_nil
  | cons key order ih =>
    obtain ⟨stamp, hstamp⟩ := mem_keys_iff_lookup.mp ((hordered.mem key).mp mem_cons_self)
    have hnodup := nodup_cons.mp hordered.nodup
    simp only [ReplayStore.sweep, hstamp]
    split
    next hexpired =>
      obtain ⟨hnext, hleft, hmap⟩ := ih hordered.tail
      refine ⟨hnext, ?_, fun other found => ?_⟩
      · rw [hleft, filter_cons_of_neg (by simpa [isLive, hstamp] using hexpired)]
        refine filter_congr fun other hother => ?_
        have hne : other ≠ key := fun heq => hnodup.1 (heq ▸ hother)
        rw [isLive, isLive, lookup_erase_eq, if_neg hne]
      · rw [hmap, lookup_erase_eq]
        split
        next heq =>
          subst heq
          rw [hstamp]
          constructor
          · nofun
          · rintro ⟨hsame, hlive⟩
            cases hsame
            exact absurd hexpired (Nat.not_le.mpr hlive)
        · rfl
    next hlive =>
      have hall := @hordered.live_of_front _ _ _ ttl now stamp hstamp (Nat.not_le.mp hlive)
      refine ⟨hordered, (filter_eq_self.mpr fun other hother => ?_).symm,
        fun other found => (and_iff_left_of_imp hall).symm⟩
      obtain ⟨found, hfound⟩ := mem_keys_iff_lookup.mp ((hordered.mem other).mp hother)
      rw [isLive, hfound]
      exact decide_eq_true (hall hfound)

/-- A new marker at the end of the queue. -/
lemma push (hordered : Ordered order map) (hnew : map.lookup key = none)
    (hbefore : ∀ other stamp, map.lookup other = some stamp → stamp ≤ now) :
    Ordered (order ++ [key]) (map.insert key now) := by
  have hne : ∀ other ∈ order, other ≠ key := by
    rintro other hother rfl
    exact not_mem_keys_iff_lookup.mpr hnew ((hordered.mem other).mp hother)
  refine ⟨?_, fun other => ?_, pairwise_append.mpr ⟨?_, pairwise_singleton _ _, ?_⟩⟩
  · exact nodup_append.mpr ⟨hordered.nodup, nodup_singleton _, by simpa using hne⟩
  · rw [keys_insert, Finset.mem_insert, mem_append, mem_singleton, or_comm, hordered.mem]
  · refine hordered.sorted.imp_of_mem fun hfirst hsecond hle => ?_
    simpa [lookup_insert_eq, hne _ hfirst, hne _ hsecond] using hle
  · intro first hfirst second hsecond earlier later hearlier hlater
    obtain rfl := mem_singleton.mp hsecond
    rw [lookup_insert_eq, if_neg (hne first hfirst)] at hearlier
    rw [lookup_insert_eq, if_pos rfl] at hlater
    exact Option.some.inj hlater ▸ hbefore first earlier hearlier

end Ordered

/-! ## Calls -/

/-- One call of `check_and_record`. -/
structure Call where
  now : Instant
  keyId : String
  nonce : List UInt8
  deriving DecidableEq

variable (store : ReplayStore) (call : Call)

def record : Except String Unit × ReplayStore := store.checkAndRecord call.now call.keyId call.nonce

def step : ReplayStore := (store.record call).2

def marker : NonceKey := ⟨store.keyHasher call.keyId, call.nonce⟩

/-- The live markers, the oldest first. -/
def live (now : Instant) : List NonceKey := store.order.filter (isLive store.ttl now store.map)

/-- The marker is not live, and both capacities have room for it. -/
def Fits : Prop :=
  store.marker call ∉ store.live call.now ∧ (store.live call.now).length < store.cap ∧
    (store.live call.now).countP (·.keyIdHash = store.keyHasher call.keyId) < store.perKeyCap

variable {store call} {start : ReplayStore} {clock : Instant}

lemma record_cases (hordered : Ordered store.order store.map) :
    let swept := sweep store.ttl call.now store.order store.map
    store.Fits call ∧ swept.2.lookup (store.marker call) = none ∧ store.record call =
        (.ok (), { store with
          order := swept.1 ++ [store.marker call]
          map := swept.2.insert (store.marker call) call.now }) ∨
      ¬store.Fits call ∧ ∃ reason,
        store.record call = (.error reason, { store with order := swept.1, map := swept.2 }) := by
  obtain ⟨hnext, hleft, hmap⟩ := @Ordered.sweep _ _ store.ttl call.now hordered
  unfold record checkAndRecord Fits live marker
  rw [← hleft]
  generalize sweep store.ttl call.now store.order store.map = swept at *
  dsimp only
  rw [hnext.card_keys, ← countP_eq_length_filter, hnext.mem]
  cases hlookup : swept.2.lookup ⟨store.keyHasher call.keyId, call.nonce⟩ with
  | some stamp =>
    rw [if_pos (by simpa using ((hmap _ stamp).mp hlookup).2)]
    exact .inr ⟨fun hfits => hfits.1 (mem_keys_iff_lookup.mpr ⟨stamp, hlookup⟩), _, rfl⟩
  | none =>
    have hnew := not_mem_keys_iff_lookup.mpr hlookup
    rw [if_neg (by simp)]
    split
    next hfull =>
      refine .inr ⟨fun hfits => ?_, _, rfl⟩
      have hroom := hfits.2
      omega
    next hroom =>
      rw [not_or, Nat.not_le, Nat.not_le] at hroom
      exact .inl ⟨⟨hnew, hroom⟩, rfl, rfl⟩

/-- What holds of a store made as `start`, whatever was asked of it. -/
structure Sound (start store : ReplayStore) (clock : Instant) : Prop where
  limits : { store with order := [], map := ∅ } = start
  ordered : Ordered store.order store.map
  before : ∀ key stamp, store.Marked key stamp → stamp ≤ clock
  within : store.order.length ≤ store.cap
  ownWithin : ∀ hash, store.order.countP (·.keyIdHash = hash) ≤ store.perKeyCap

lemma Sound.step (hsound : Sound start store clock) (hclock : clock ≤ call.now) :
    Sound start (store.step call) call.now := by
  obtain ⟨hlimits, hordered, hbefore, hwithin, hown⟩ := hsound
  obtain ⟨hnext, hleft, hmap⟩ := @Ordered.sweep _ _ store.ttl call.now hordered
  have hstamps : ∀ key stamp, (sweep store.ttl call.now store.order store.map).2.lookup key =
      some stamp → stamp ≤ call.now := by
    intro key stamp hstamp
    exact (hbefore key stamp ((hmap key stamp).mp hstamp).1).trans hclock
  unfold ReplayStore.step
  rcases @record_cases store call hordered with ⟨hfits, hnew, heq⟩ | ⟨-, reason, heq⟩
  · rw [heq]
    refine ⟨hlimits, hnext.push hnew hstamps, fun key stamp hmarked => ?_, ?_, fun hash => ?_⟩
    · rw [Marked, lookup_insert_eq] at hmarked
      split at hmarked
      · exact (Option.some.inj hmarked).ge
      · exact hstamps key stamp hmarked
    · rw [length_append, hleft]
      exact hfits.2.1
    · rw [countP_append, hleft, countP_singleton]
      split
      next hhash =>
        rw [← of_decide_eq_true hhash]
        exact hfits.2.2
      next => exact (filter_sublist.countP_le).trans (hown hash)
  · rw [heq]
    refine ⟨hlimits, hnext, hstamps, ?_, fun hash => ?_⟩
    · rw [hleft]
      exact (length_filter_le _ _).trans hwithin
    · rw [hleft]
      exact (filter_sublist.countP_le).trans (hown hash)

lemma sound_run (hempty : start.order = [] ∧ start.map = ∅) {calls : List Call}
    (hclock : (calls ++ [call]).Pairwise (·.now ≤ ·.now)) :
    Sound start (run step start calls) call.now := by
  induction calls using List.reverseRecOn generalizing call with
  | nil =>
    obtain ⟨horder, hmap⟩ := hempty
    refine ⟨?_, ?_, ?_, ?_, ?_⟩ <;> simp [run, horder, hmap, ordered_nil, Marked]
    rw [← horder, ← hmap]
  | append_singleton calls last ih =>
    obtain ⟨hcalls, -, hlast⟩ := pairwise_append.mp hclock
    have hnext := (ih hcalls).step le_rfl
    rw [run_append]
    exact { hnext with before := fun key stamp hmarked =>
      (hnext.before key stamp hmarked).trans (hlast last (by simp) call (by simp)) }

/-- Whatever is asked of a store at times that never go back, its queue and its map agree,
no capacity is exceeded, no live marker is dropped, and a call is accepted exactly if it
fits. The per-key capacity of a store made by `new` is `capacity`. -/
theorem replay_store_exact (capacity perKeyCap ttl : Nat) (keyHasher : String → UInt64)
    (calls : List Call) (call : Call) (hclock : (calls ++ [call]).Pairwise (·.now ≤ ·.now)) :
    let start := withPerKeyCap capacity perKeyCap ttl keyHasher
    let store := run step start calls
    Sound start store call.now ∧
      (∀ key stamp, store.Marked key stamp → call.now - stamp < ttl →
        (store.step call).Marked key stamp) ∧
      ((store.record call).1 = .ok () ↔ store.Fits call) := by
  intro start store
  have hsound : Sound start store call.now := sound_run ⟨rfl, rfl⟩ hclock
  have httl : store.ttl = ttl := congrArg ReplayStore.ttl hsound.limits
  refine ⟨hsound, fun key stamp hmarked hlive => ?_, ?_⟩
  · rw [← httl] at hlive
    exact (checkAndRecord_marked hmarked hlive call.keyId call.nonce).1
  · rcases @record_cases store call hsound.ordered with ⟨hfits, -, heq⟩ | ⟨hfits, _, heq⟩
    · simp [heq, hfits]
    · simp [heq, hfits]

/-- A code that comes back once its marker has expired is recorded again. -/
theorem replay_store_exact_expired :
    let start := withPerKeyCap 2 1 5 fun _ => 0
    let calls : List Call := [⟨0, "a", [1]⟩, ⟨3, "a", [1]⟩]
    Sound start (run step start calls) 5 ∧
      ((run step start calls).record ⟨5, "a", [1]⟩).1 = .ok () := by
  have hexact := replay_store_exact 2 1 5 (fun _ => 0) [⟨0, "a", [1]⟩, ⟨3, "a", [1]⟩] ⟨5, "a", [1]⟩
    (by decide)
  exact ⟨hexact.1, hexact.2.2.mpr (by unfold Fits; decide)⟩

end RamShield.ReplayStore

import RamShield.Foundation.Table

/-! # Bucketed deadline queue

Keys wait in buckets numbered by the time at which they are due. A slot records
the bucket of a key and its position there, so that a key is detached in
constant time by moving the last card of the bucket into its place. In a
well-formed queue the slots and the cards describe each other, and all that
matters of the queue is `lease`: the bucket, if any, in which a key waits.
-/

namespace Foundation

open List Table Option Finset

/-- Slots `key ↦ (bucket, position)` and buckets `bucket ↦ cards`. -/
structure DeadlineQueue (K : Type) where
  slots : Table K (Nat × Nat)
  buckets : Table Nat (List K)

namespace DeadlineQueue

variable {K : Type} [DecidableEq K]

def empty : DeadlineQueue K := ⟨∅, ∅⟩

variable (queue : DeadlineQueue K)

def lease (key : K) : Option Nat := (queue.slots.lookup key).map Prod.fst

def swapRemove (cards : List K) (pos : Nat) : List K :=
  match cards.getLast? with
  | none => cards
  | some last => (cards.set pos last).dropLast

/-- Write a bucket back, dropping it when no card is left. -/
def putBucket (bucket : Nat) (cards : List K) : DeadlineQueue K :=
  if cards = [] then { queue with buckets := queue.buckets.erase bucket }
  else { queue with buckets := queue.buckets.insert bucket cards }

def fixSlot (moved : Option K) (pos : Nat) : DeadlineQueue K :=
  match moved with
  | none => queue
  | some key =>
    match queue.slots.lookup key with
    | none => queue
    | some slot => { queue with slots := queue.slots.insert key (slot.1, pos) }

/-- Take a key out. Where its position is wrong the bucket is searched. -/
def detach (key : K) : DeadlineQueue K :=
  match queue.slots.lookup key with
  | none => queue
  | some (bucket, pos) =>
    let queue := { queue with slots := queue.slots.erase key }
    match queue.buckets.lookup bucket with
    | none => queue
    | some cards =>
      if pos < cards.length then
        let found := if cards[pos]? = some key then some pos else cards.idxOf? key
        match found with
        | some pos =>
          let cards := swapRemove cards pos
          (queue.fixSlot cards[pos]? pos).putBucket bucket cards
        | none => queue.putBucket bucket cards
      else queue.putBucket bucket cards

def schedule (key : K) (bucket : Nat) : DeadlineQueue K :=
  let queue := queue.detach key
  let cards := (queue.buckets.lookup bucket).getD []
  { slots := queue.slots.insert key (bucket, cards.length)
    buckets := queue.buckets.insert bucket (cards ++ [key]) }

def popBucket (bucket : Nat) : List K × DeadlineQueue K :=
  let cards := (queue.buckets.lookup bucket).getD []
  (cards,
    { slots := cards.foldl (fun slots key => slots.erase key) queue.slots
      buckets := queue.buckets.erase bucket })

def drainLoop (now : Nat) : Nat → DeadlineQueue K → List K × DeadlineQueue K
  | 0, queue => ([], queue)
  | fuel + 1, queue =>
    match queue.buckets.keys.min with
    | ⊤ => ([], queue)
    | (bucket : Nat) =>
      if now < bucket then ([], queue)
      else
        let (cards, rest) := queue.popBucket bucket
        let (due, final) := drainLoop now fuel rest
        (cards ++ due, final)

def drainDue (now : Nat) : List K × DeadlineQueue K := drainLoop now queue.buckets.keys.card queue

/-! ## Well-formed queues -/

/-- Slots and cards describe each other, and no bucket is empty. -/
structure WellFormed : Prop where
  slot_iff (key : K) (bucket pos : Nat) : queue.slots.lookup key = some (bucket, pos) ↔
    ∃ cards, queue.buckets.lookup bucket = some cards ∧ cards[pos]? = some key
  nonempty {bucket : Nat} {cards : List K} : queue.buckets.lookup bucket = some cards → cards ≠ []

lemma empty_wellFormed : WellFormed (empty : DeadlineQueue K) where
  slot_iff key bucket pos := by simp [empty]
  nonempty h := by simp [empty] at h

@[simp] lemma lease_empty (key : K) : (empty : DeadlineQueue K).lease key = none := by
  simp [lease, empty]

variable {queue} {key : K} {bucket pos : Nat} {cards : List K}

def cardsOf (queue : DeadlineQueue K) (bucket : Nat) : List K :=
  (queue.buckets.lookup bucket).getD []

omit [DecidableEq K] in
lemma exists_card_iff : (∃ cards, queue.buckets.lookup bucket = some cards ∧
    cards[pos]? = some key) ↔ (queue.cardsOf bucket)[pos]? = some key := by
  unfold cardsOf
  cases queue.buckets.lookup bucket <;> simp

lemma wellFormed_of_cards (hslots : ∀ key bucket pos, queue.slots.lookup key =
    some (bucket, pos) ↔ (queue.cardsOf bucket)[pos]? = some key)
    (hnonempty : ∀ bucket, queue.buckets.lookup bucket ≠ some []) : queue.WellFormed where
  slot_iff key bucket pos := (hslots key bucket pos).trans exists_card_iff.symm
  nonempty {bucket} _ hlookup hnil := hnonempty bucket (hnil ▸ hlookup)

namespace WellFormed

variable (hwf : queue.WellFormed)

include hwf

lemma slot_iff_card : queue.slots.lookup key = some (bucket, pos) ↔
    (queue.cardsOf bucket)[pos]? = some key :=
  (hwf.slot_iff key bucket pos).trans exists_card_iff

lemma card_unique {bucket' pos' : Nat} (hcard : (queue.cardsOf bucket)[pos]? = some key)
    (hcard' : (queue.cardsOf bucket')[pos']? = some key) : bucket = bucket' ∧ pos = pos' := by
  rw [← hwf.slot_iff_card] at hcard hcard'
  rw [hcard, Option.some.injEq, Prod.mk.injEq] at hcard'
  exact hcard'

lemma lease_iff : queue.lease key = some bucket ↔ key ∈ queue.cardsOf bucket := by
  rw [mem_iff_getElem?]
  simp only [← hwf.slot_iff_card]
  simp [lease]

lemma cardsOf_nodup (bucket : Nat) : (queue.cardsOf bucket).Nodup := by
  rw [nodup_iff_getElem?_ne_getElem?]
  intro first second hlt hbound heq
  have hsecond := List.getElem?_eq_getElem hbound
  have hsame := (hwf.card_unique (heq.trans hsecond) hsecond).2
  omega

lemma last_slot (hlast : (queue.cardsOf bucket).getLast? = some key) :
    queue.slots.lookup key = some (bucket, (queue.cardsOf bucket).length - 1) := by
  rw [hwf.slot_iff_card, ← List.getLast?_eq_getElem?]
  exact hlast

end WellFormed

/-! ## Removing one card -/

omit [DecidableEq K] in
lemma getElem?_swapRemove (hpos : pos < cards.length) (index : Nat) :
    (swapRemove cards pos)[index]? =
      if index < cards.length - 1 then if index = pos then cards.getLast? else cards[index]?
      else none := by
  have hne : cards ≠ [] := ne_nil_of_length_pos (Nat.zero_lt_of_lt hpos)
  rw [swapRemove, List.getLast?_eq_some_getLast hne]
  simp only [List.getElem?_dropLast, length_set, List.getElem?_set]
  split
  next hindex =>
    by_cases heq : pos = index
    · simp [heq]
    · simp [heq, Ne.symm heq]
  · rfl

omit [DecidableEq K] in
lemma getElem?_concat_iff {index : Nat} {card : K} : (cards ++ [card])[index]? = some key ↔
    cards[index]? = some key ∨ index = cards.length ∧ key = card := by
  rw [List.getElem?_append]
  split
  next hlt => simp [Nat.ne_of_lt hlt]
  next hge =>
    rw [List.getElem?_eq_none (Nat.le_of_not_lt hge)]
    by_cases heq : index = cards.length
    · simp [heq, eq_comm]
    · have hpos : index - cards.length ≠ 0 := by omega
      simp [heq, hpos]

omit [DecidableEq K] in
@[simp] lemma putBucket_slots (queue : DeadlineQueue K) (bucket : Nat) (cards : List K) :
    (queue.putBucket bucket cards).slots = queue.slots := by
  unfold putBucket
  split <;> rfl

omit [DecidableEq K] in
lemma cardsOf_insert (queue : DeadlineQueue K) (slots : Table K (Nat × Nat)) (bucket other : Nat)
    (cards : List K) : cardsOf ⟨slots, queue.buckets.insert bucket cards⟩ other =
      if other = bucket then cards else queue.cardsOf other := by
  rw [cardsOf, lookup_insert_eq]
  split <;> rfl

omit [DecidableEq K] in
lemma cardsOf_putBucket (queue : DeadlineQueue K) (bucket other : Nat) (cards : List K) :
    (queue.putBucket bucket cards).cardsOf other =
      if other = bucket then cards else queue.cardsOf other := by
  unfold putBucket
  split
  next hnil =>
    rw [cardsOf, lookup_erase_eq]
    split
    · exact hnil.symm
    · rfl
  · exact cardsOf_insert ..

omit [DecidableEq K] in
lemma putBucket_nonempty {other : Nat} (hnonempty : queue.buckets.lookup other ≠ some []) :
    (queue.putBucket bucket cards).buckets.lookup other ≠ some [] := by
  unfold putBucket
  split
  · rw [lookup_erase_eq]
    split
    · simp
    · exact hnonempty
  next hcards =>
    rw [lookup_insert_eq]
    split
    · simpa using hcards
    · exact hnonempty

@[simp] lemma fixSlot_buckets (queue : DeadlineQueue K) (moved : Option K) (pos : Nat) :
    (queue.fixSlot moved pos).buckets = queue.buckets := by
  unfold fixSlot
  split
  · rfl
  · split <;> rfl

lemma detach_of_absent (hslot : queue.slots.lookup key = none) : queue.detach key = queue := by
  simp [DeadlineQueue.detach, hslot]

namespace WellFormed

section

variable (hwf : queue.WellFormed) (hslot : queue.slots.lookup key = some (bucket, pos))

include hwf hslot

/-- With a right position the search branch is gone. -/
lemma detach_eq : queue.detach key =
    (fixSlot { queue with slots := queue.slots.erase key }
      (swapRemove (queue.cardsOf bucket) pos)[pos]? pos).putBucket bucket
        (swapRemove (queue.cardsOf bucket) pos) := by
  obtain ⟨cards, hcards, hpos⟩ := (hwf.slot_iff key bucket pos).mp hslot
  obtain ⟨hbound, _⟩ := List.getElem?_eq_some_iff.mp hpos
  simp only [DeadlineQueue.detach, cardsOf, hslot, hcards, hbound, hpos, if_true, getD_some]

lemma pos_lt : pos < (queue.cardsOf bucket).length :=
  (List.getElem?_eq_some_iff.mp (hwf.slot_iff_card.mp hslot)).1

lemma getElem?_swapRemove_iff {index : Nat} {other : K} :
    (swapRemove (queue.cardsOf bucket) pos)[index]? = some other ↔ other ≠ key ∧
      if (queue.cardsOf bucket).getLast? = some other then index = pos
      else (queue.cardsOf bucket)[index]? = some other := by
  have hbound := hwf.pos_lt hslot
  have hpos := hwf.slot_iff_card.mp hslot
  have hunique {first second : Nat} {card : K} (hfirst : (queue.cardsOf bucket)[first]? = some card)
      (hsecond : (queue.cardsOf bucket)[second]? = some card) : first = second :=
    (hwf.card_unique hfirst hsecond).2
  rw [getElem?_swapRemove hbound, List.getLast?_eq_getElem?]
  -- The detached card: a second occurrence would be at the same position.
  by_cases hother : other = key
  · subst hother
    simp only [ne_eq, not_true_eq_false, false_and, iff_false]
    split_ifs with hlt hgap
    · exact fun hlast => absurd (hunique hpos hlast) (by omega)
    · exact fun hat => hgap (hunique hat hpos)
    · simp
  have hgap : (queue.cardsOf bucket)[pos]? ≠ some other := by
    rw [hpos, Ne, Option.some.injEq]
    exact Ne.symm hother
  simp only [ne_eq, hother, not_false_eq_true, true_and]
  by_cases hlast : (queue.cardsOf bucket)[(queue.cardsOf bucket).length - 1]? = some other
  · rw [if_pos hlast, hlast]
    constructor
    · intro hat
      split_ifs at hat with hlt heq
      · exact heq
      · exact absurd (hunique hat hlast) (by omega)
    · rintro rfl
      rw [if_pos rfl, if_pos]
      by_contra hend
      rw [show index = (queue.cardsOf bucket).length - 1 by omega] at hgap
      exact hgap hlast
  · rw [if_neg hlast]
    split_ifs with hlt heq
    · exact iff_of_false hlast (heq ▸ hgap)
    · rfl
    · refine iff_of_false nofun fun hat => hlast ?_
      obtain ⟨hshort, _⟩ := List.getElem?_eq_some_iff.mp hat
      rw [← hat]
      congr 1
      omega

lemma detach_slots (other : K) : (queue.detach key).slots.lookup other =
    if other = key then none
    else if (queue.cardsOf bucket).getLast? = some other then
      some (bucket, pos)
    else queue.slots.lookup other := by
  have hpos := hwf.slot_iff_card.mp hslot
  rw [hwf.detach_eq hslot, putBucket_slots]
  have hmoved (card : K) : (swapRemove (queue.cardsOf bucket) pos)[pos]? = some card ↔
      card ≠ key ∧ (queue.cardsOf bucket).getLast? = some card := by
    rw [hwf.getElem?_swapRemove_iff hslot, hpos, Option.some.injEq]
    refine and_congr_right fun hne => ?_
    split
    next hlast => exact iff_of_true rfl hlast
    next hlast => exact iff_of_false (Ne.symm hne) hlast
  cases hcard : (swapRemove (queue.cardsOf bucket) pos)[pos]? with
  | none =>
    simp only [fixSlot, lookup_erase_eq]
    split
    · rfl
    next hother =>
      rw [if_neg]
      intro hlast
      cases hcard.symm.trans ((hmoved other).mpr ⟨hother, hlast⟩)
  | some moved =>
    obtain ⟨hne, hlast⟩ := (hmoved moved).mp hcard
    simp only [fixSlot, lookup_erase_eq, if_neg hne, hwf.last_slot hlast, hlast]
    rw [lookup_insert_eq, lookup_erase_eq]
    by_cases hother : other = moved
    · simp [hother, hne]
    · simp [hother, Ne.symm hother]

lemma cardsOf_detach (target : Nat) : (queue.detach key).cardsOf target =
    if target = bucket then swapRemove (queue.cardsOf bucket) pos else queue.cardsOf target := by
  rw [hwf.detach_eq hslot, cardsOf_putBucket]
  simp only [cardsOf, fixSlot_buckets]

end

variable (hwf : queue.WellFormed)

include hwf

lemma detach (key : K) : (queue.detach key).WellFormed := by
  cases hslot : queue.slots.lookup key with
  | none =>
    rw [detach_of_absent hslot]
    exact hwf
  | some slot =>
    obtain ⟨bucket, pos⟩ := slot
    refine wellFormed_of_cards (fun other target index => ?_) fun target => ?_
    · rw [hwf.detach_slots hslot, hwf.cardsOf_detach hslot]
      by_cases htarget : target = bucket
      · subst htarget
        rw [if_pos rfl, hwf.getElem?_swapRemove_iff hslot]
        by_cases hother : other = key
        · simp [hother]
        · rw [if_neg hother]
          split
          · simp [hother, eq_comm]
          · simp [hother, hwf.slot_iff_card]
      · rw [if_neg htarget]
        refine Iff.trans ?_ hwf.slot_iff_card
        split
        next hother =>
          subst hother
          simp [hslot, Ne.symm htarget]
        · split
          next hlast => simp [hwf.last_slot hlast, Ne.symm htarget]
          · rfl
    · rw [hwf.detach_eq hslot]
      apply putBucket_nonempty
      rw [fixSlot_buckets]
      exact fun hnil => hwf.nonempty hnil rfl

lemma lease_detach (key other : K) :
    (queue.detach key).lease other = if other = key then none else queue.lease other := by
  cases hslot : queue.slots.lookup key with
  | none =>
    rw [detach_of_absent hslot]
    split
    next heq =>
      subst heq
      simp [lease, hslot]
    · rfl
  | some slot =>
    obtain ⟨bucket, pos⟩ := slot
    rw [lease, lease, hwf.detach_slots hslot]
    split
    · rfl
    · split
      next hlast =>
        rw [hwf.last_slot hlast]
        rfl
      · rfl

/-! ## Scheduling -/

lemma schedule (key : K) (bucket : Nat) : (queue.schedule key bucket).WellFormed := by
  have hdetached := hwf.detach key
  have hgone : (queue.detach key).slots.lookup key = none := by
    have hlease := hwf.lease_detach key key
    rw [if_pos rfl] at hlease
    exact map_eq_none_iff.mp hlease
  unfold DeadlineQueue.schedule
  generalize queue.detach key = rest at hdetached hgone
  change WellFormed ⟨rest.slots.insert key (bucket, (rest.cardsOf bucket).length),
    rest.buckets.insert bucket (rest.cardsOf bucket ++ [key])⟩
  refine wellFormed_of_cards (fun other target index => ?_) fun target => ?_
  · have habsent : (rest.cardsOf target)[index]? ≠ some key := by
      rw [Ne, ← hdetached.slot_iff_card, hgone]
      nofun
    rw [cardsOf_insert, lookup_insert_eq]
    by_cases htarget : target = bucket
    · subst htarget
      rw [if_pos rfl, getElem?_concat_iff, ← hdetached.slot_iff_card]
      by_cases hother : other = key
      · subst hother
        simp [hgone, eq_comm]
      · simp [hother]
    · rw [if_neg htarget]
      by_cases hother : other = key
      · simp [hother, habsent, Ne.symm htarget]
      · rw [if_neg hother]
        exact hdetached.slot_iff_card
  · rw [lookup_insert_eq]
    split
    · simp
    · exact fun hnil => hdetached.nonempty hnil rfl

lemma lease_schedule (key other : K) (bucket : Nat) :
    (queue.schedule key bucket).lease other =
      if other = key then some bucket else queue.lease other := by
  have hdetach := hwf.lease_detach key other
  unfold DeadlineQueue.schedule
  unfold lease at hdetach ⊢
  rw [lookup_insert_eq]
  split
  · rfl
  next hother =>
    rw [if_neg hother] at hdetach
    exact hdetach

end WellFormed

/-! ## Draining -/

lemma lookup_foldl_erase {V : Type} (keys : List K) (table : Table K V) (key : K) :
    (keys.foldl (fun rest key => rest.erase key) table).lookup key =
      if key ∈ keys then none else table.lookup key := by
  induction keys generalizing table with
  | nil => simp
  | cons head tail ih =>
    rw [foldl_cons, ih, lookup_erase_eq]
    by_cases hhead : key = head
    · simp [hhead]
    · simp [hhead]

lemma WellFormed.mem_bucket (hwf : queue.WellFormed) :
    key ∈ (queue.popBucket bucket).1 ↔ queue.lease key = some bucket :=
  hwf.lease_iff.symm

lemma popBucket_slots (queue : DeadlineQueue K) (bucket : Nat) (key : K) :
    (queue.popBucket bucket).2.slots.lookup key =
      if key ∈ (queue.popBucket bucket).1 then none else queue.slots.lookup key :=
  lookup_foldl_erase _ _ _

section

variable (hwf : queue.WellFormed) (bucket)

include hwf

lemma WellFormed.lease_popBucket (key : K) :
    (queue.popBucket bucket).2.lease key =
      if queue.lease key = some bucket then none else queue.lease key := by
  have hslots := popBucket_slots queue bucket key
  rw [lease, hslots]
  by_cases hlease : queue.lease key = some bucket
  · rw [if_pos hlease, if_pos (hwf.mem_bucket.mpr hlease)]
    rfl
  · rw [if_neg hlease, if_neg (fun hmem => hlease (hwf.mem_bucket.mp hmem))]
    rfl

lemma WellFormed.popBucket : (queue.popBucket bucket).2.WellFormed := by
  have hbuckets (target : Nat) : (queue.popBucket bucket).2.buckets.lookup target =
      if target = bucket then none else queue.buckets.lookup target :=
    lookup_erase_eq _ _ _
  refine wellFormed_of_cards (fun key target pos => ?_) fun target => ?_
  · rw [popBucket_slots, cardsOf, hbuckets]
    by_cases htarget : target = bucket
    · subst htarget
      rw [if_pos rfl]
      refine iff_of_false (fun hslot => ?_) nofun
      split at hslot
      · cases hslot
      next hout => exact hout (hwf.mem_bucket.mpr (by simp [lease, hslot]))
    · rw [if_neg htarget]
      refine Iff.trans ?_ hwf.slot_iff_card
      split
      next hin =>
        refine iff_of_false nofun fun hslot => htarget ?_
        simpa [lease, hslot] using hwf.mem_bucket.mp hin
      · rfl
  · rw [hbuckets]
    split
    · nofun
    · exact fun hnil => hwf.nonempty hnil rfl

lemma WellFormed.popBucket_nodup : (queue.popBucket bucket).1.Nodup := hwf.cardsOf_nodup bucket

end

lemma WellFormed.lease_mem_keys (hwf : queue.WellFormed)
    (hlease : queue.lease key = some bucket) :
    bucket ∈ queue.buckets.keys := by
  obtain ⟨slot, hslot, rfl⟩ := map_eq_some_iff.mp hlease
  obtain ⟨cards, hcards, _⟩ := (hwf.slot_iff key slot.1 slot.2).mp hslot
  exact mem_keys_iff_lookup.mpr ⟨cards, hcards⟩

lemma card_keys_popBucket (queue : DeadlineQueue K) (hbucket : bucket ∈ queue.buckets.keys) :
    (queue.popBucket bucket).2.buckets.keys.card + 1 = queue.buckets.keys.card := by
  have hkeys : (queue.popBucket bucket).2.buckets.keys = queue.buckets.keys.erase bucket := by
    ext target
    simp [DeadlineQueue.popBucket, Finmap.mem_keys]
  rw [hkeys, card_erase_add_one hbucket]

/-- What a drain did: it took exactly the due keys, each once. -/
structure Drained (queue : DeadlineQueue K) (now : Nat)
    (result : List K × DeadlineQueue K) : Prop where
  wellFormed : result.2.WellFormed
  nodup : result.1.Nodup
  mem_iff (key : K) : key ∈ result.1 ↔ ∃ bucket, queue.lease key = some bucket ∧ bucket ≤ now
  lease_eq (key : K) : result.2.lease key = (queue.lease key).filter fun bucket => now < bucket

lemma WellFormed.drained_of_none_due (hwf : queue.WellFormed) {now : Nat}
    (hlate : ∀ bucket ∈ queue.buckets.keys, now < bucket) :
    Drained queue now ([], queue) where
  wellFormed := hwf
  nodup := nodup_nil
  mem_iff key := by
    simp only [not_mem_nil, false_iff, not_exists, not_and, Nat.not_le]
    intro bucket hlease
    exact hlate bucket (hwf.lease_mem_keys hlease)
  lease_eq key := by
    cases hlease : queue.lease key with
    | none => rfl
    | some bucket =>
      have hafter := hlate bucket (hwf.lease_mem_keys hlease)
      rw [filter_some, if_pos (decide_eq_true hafter)]

lemma WellFormed.drainLoop (hwf : queue.WellFormed) (now fuel : Nat)
    (hfuel : queue.buckets.keys.card ≤ fuel) : Drained queue now (drainLoop now fuel queue) := by
  induction fuel generalizing queue with
  | zero =>
    apply hwf.drained_of_none_due
    intro bucket hbucket
    have hpos := card_pos.mpr ⟨bucket, hbucket⟩
    omega
  | succ fuel ih =>
    unfold DeadlineQueue.drainLoop
    split
    next hnone =>
      apply hwf.drained_of_none_due
      intro bucket hbucket
      rw [min_eq_top.mp hnone] at hbucket
      simp at hbucket
    next first hfirst =>
      split
      next hlate =>
        apply hwf.drained_of_none_due
        intro bucket hbucket
        exact Nat.lt_of_lt_of_le hlate (min_le_of_eq hbucket hfirst)
      next hdue =>
        have hmem := mem_of_min hfirst
        have hcard := card_keys_popBucket queue hmem
        have hrest := ih (hwf.popBucket first) (by omega)
        -- The first bucket goes out now, the other due ones with the rest.
        refine ⟨hrest.wellFormed, ?_, ?_, ?_⟩
        · refine nodup_append.mpr ⟨hwf.popBucket_nodup first, hrest.nodup, ?_⟩
          rintro left hleft right hright rfl
          obtain ⟨bucket, hlease, _⟩ := (hrest.mem_iff left).mp hright
          rw [hwf.lease_popBucket, if_pos (hwf.mem_bucket.mp hleft)] at hlease
          cases hlease
        · intro key
          rw [mem_append, hwf.mem_bucket, hrest.mem_iff, hwf.lease_popBucket]
          by_cases hlease : queue.lease key = some first
          · simp only [hlease, true_or, true_iff]
            exact ⟨first, rfl, Nat.le_of_not_lt hdue⟩
          · simp [hlease]
        · intro key
          rw [hrest.lease_eq, hwf.lease_popBucket]
          by_cases hlease : queue.lease key = some first
          · rw [hlease, if_pos rfl, filter_some, if_neg (by simpa using hdue)]
            rfl
          · simp [hlease]

/-- A drain takes exactly the due keys; its fuel always suffices. -/
lemma WellFormed.drainDue (hwf : queue.WellFormed) (now : Nat) :
    Drained queue now (queue.drainDue now) :=
  hwf.drainLoop now _ (Nat.le_refl _)

end DeadlineQueue

end Foundation

import DecisionTables.Proofs.Engine.Recency

/-!
# Larger caches

A cache that is made larger loses no hit. Two caches of different capacities that are asked for the
same things run apart: what the larger finds the smaller may miss, in which case it moves no key,
and storing under a key may move it in the larger while it drives another key out of the smaller.
Still the keys of the smaller stay among those of the larger, in the same order, because the two
hold the same keys for as long as the smaller has room.
-/

namespace DecisionTables.Cache

variable {α : Type}

/-! ## The keys after an access -/

/-- Keys with one of them moved to the end. -/
def moved (key : CacheKey) (keys : List CacheKey) : List CacheKey :=
  (keys.filter fun other => other ≠ key) ++ [key]

section Keys

variable {cache : Cache α} {key : CacheKey} {item : α}

theorem found_of_mem (present : key ∈ cache.keys) : ∃ item, cache.get? key = some item := by
  rw [← Option.ne_none_iff_exists']
  exact fun missing => get?_eq_none_iff.mp missing present

theorem keys_lookup :
    (cache.lookup key).2.keys = if key ∈ cache.keys then moved key cache.keys else cache.keys := by
  split
  · rename_i present
    obtain ⟨item, found⟩ := found_of_mem present
    rw [lookup_of_found found]
    exact keys_touch cache.entries
  · rename_i absent
    rw [lookup_of_missing (get?_eq_none_iff.mpr absent)]
    rfl

theorem isSome_lookup : (cache.lookup key).1.isSome = true ↔ key ∈ cache.keys := by
  constructor
  · intro given
    by_contra absent
    rw [lookup_of_missing (get?_eq_none_iff.mpr absent)] at given
    cases given
  · intro present
    obtain ⟨item, found⟩ := found_of_mem present
    rw [lookup_of_found found]
    rfl

theorem keys_store :
    (cache.store key item).2.keys =
      if key ∈ cache.keys then moved key cache.keys
      else (cache.keys ++ [key]).rtake cache.capacity := by
  split
  · rename_i present
    obtain ⟨kept, found⟩ := found_of_mem present
    rw [store_of_found found]
    exact keys_touch cache.entries
  · rename_i absent
    rw [store_of_missing (get?_eq_none_iff.mpr absent)]
    simp [keys, List.rtake, List.map_drop]

end Keys

/-! ## Keys within others -/

section Lists

variable {key : CacheKey} {keys others : List CacheKey} {capacity larger : Nat}

/-- Keys without a certain one are still among others when that one is moved. -/
theorem sublist_moved (part : keys.Sublist others) (absent : key ∉ keys) :
    (keys ++ [key]).Sublist (moved key others) := by
  have kept : (keys.filter fun other => other ≠ key) = keys :=
    List.filter_eq_self.mpr fun other among => decide_eq_true fun same => absent (same ▸ among)
  have filtered := part.filter fun other => decide (other ≠ key)
  rw [kept] at filtered
  exact filtered.append_right [key]

/-- The ends of two lists are one a part of the other if no more is cut off the longer one. -/
theorem rtake_sublist_rtake (part : keys.Sublist others)
    (cut : others.length - larger ≤ keys.length - capacity) :
    (keys.rtake capacity).Sublist (others.rtake larger) :=
  (part.drop _).trans (List.drop_sublist_drop_left others cut)

/-- Whether the keys of a cache of some capacity are among those of a larger one, in the same order.
As long as the smaller cache has room, it has driven out no key, so that both hold the same. -/
structure Within (capacity : Nat) (keys others : List CacheKey) : Prop where
  ordered : keys.Sublist others
  same_of_room : keys.length < capacity → keys = others

namespace Within

variable (within : Within capacity keys others)

include within

/-- What the larger cache holds in addition, it holds because the smaller is full. -/
theorem full (absent : key ∉ keys) (present : key ∈ others) : capacity ≤ keys.length := by
  by_contra room
  exact absent (within.same_of_room (Nat.lt_of_not_le room) ▸ present)

/-- A key that both caches hold is moved in both. -/
theorem move (distinct : others.Nodup) (present : key ∈ keys) :
    Within capacity (moved key keys) (moved key others) := by
  refine ⟨(within.ordered.filter _).append_right [key], fun room => ?_⟩
  rw [moved, length_filter_concat (distinct.sublist within.ordered) present] at room
  rw [within.same_of_room room]

/-- A key that only the larger cache holds is moved in it. -/
theorem moveLarger (absent : key ∉ keys) (present : key ∈ others) :
    Within capacity keys (moved key others) := by
  refine ⟨(List.sublist_append_left ..).trans (sublist_moved within.ordered absent), ?_⟩
  exact fun room => absurd (within.full absent present) (Nat.not_le_of_lt room)

/-- A key that only the larger cache holds is added to the smaller, which is full and stays so. -/
theorem addSmaller (absent : key ∉ keys) (present : key ∈ others) :
    Within capacity ((keys ++ [key]).rtake capacity) (moved key others) := by
  have full := within.full absent present
  refine ⟨(List.drop_sublist ..).trans (sublist_moved within.ordered absent), fun room => ?_⟩
  rw [List.rtake, List.length_drop, List.length_append] at room
  omega

/-- A key that neither cache holds is added to both. If the larger has to give up its first key, the
smaller does as well. -/
theorem add (le : capacity ≤ larger) (fits : others.length ≤ larger) (key : CacheKey) :
    Within capacity ((keys ++ [key]).rtake capacity) ((others ++ [key]).rtake larger) := by
  have same (room : keys.length < capacity) : keys.length = others.length :=
    congrArg List.length (within.same_of_room room)
  constructor
  · refine rtake_sublist_rtake (within.ordered.append_right [key]) ?_
    rw [List.length_append, List.length_append]
    omega
  · intro room
    rw [List.rtake, List.length_drop, List.length_append, List.length_singleton] at room
    have small : keys.length < capacity := by omega
    rw [within.same_of_room small, rtake_of_length_le, rtake_of_length_le]
    · rw [List.length_append, List.length_singleton, ← same small]
      omega
    · rw [List.length_append, List.length_singleton, ← same small]
      omega

end Within

end Lists

/-! ## Two caches after the same accesses -/

section Run

variable {small large : Cache α} {touched : List CacheKey} {capacity larger : Nat}

/-- An access to both caches leaves the keys of the smaller within those of the larger. -/
theorem Within.access (within : Within capacity small.keys large.keys)
    (size : small.capacity = capacity) (le : capacity ≤ large.capacity)
    (tracks : large.Tracks touched) (access : Access α) :
    Within capacity (small.access access).2.keys (large.access access).2.keys := by
  have moves {key : CacheKey} (present : key ∈ small.keys) :=
    within.move tracks.distinct present
  have among {key : CacheKey} (present : key ∈ small.keys) : key ∈ large.keys :=
    within.ordered.subset present
  cases access with
  | clear => exact ⟨List.Sublist.refl [], fun _ => rfl⟩
  | lookup key =>
      change Within _ (small.lookup key).2.keys (large.lookup key).2.keys
      rw [keys_lookup, keys_lookup]
      by_cases present : key ∈ small.keys
      · rw [if_pos present, if_pos (among present)]
        exact moves present
      · rw [if_neg present]
        split
        · rename_i inLarge
          exact within.moveLarger present inLarge
        · exact within
  | store key item =>
      change Within _ (small.store key item).2.keys (large.store key item).2.keys
      rw [keys_store, keys_store, size]
      by_cases present : key ∈ small.keys
      · rw [if_pos present, if_pos (among present)]
        exact moves present
      · rw [if_neg present]
        split
        · rename_i inLarge
          exact within.addSmaller present inLarge
        · exact within.add le (tracks ▸ latest_length_le) key

/-- What is a hit in the smaller cache is one in the larger. -/
theorem Within.isHit (within : Within capacity small.keys large.keys) (access : Access α)
    (hit : (small.access access).1.isHit = true) : (large.access access).1.isHit = true := by
  cases access with
  | clear => cases hit
  | store => cases hit
  | lookup key => exact isSome_lookup.mpr (within.ordered.subset (isSome_lookup.mp hit))

variable {positive : 0 < capacity} {positiveToo : 0 < larger}

theorem within_after (le : capacity ≤ larger) (accesses : List (Access α)) :
    Within capacity ((empty capacity positive).after accesses).keys
      ((empty larger positiveToo).after accesses).keys := by
  induction accesses using List.reverseRecOn with
  | nil => exact ⟨List.Sublist.refl [], fun _ => rfl⟩
  | append_singleton accesses last ih =>
      rw [after_concat, after_concat]
      refine ih.access (capacity_after ..) ?_ (tracks_after positiveToo accesses) last
      exact le.trans_eq (capacity_after (empty larger positiveToo) accesses).symm

end Run

/-! ## No hit is lost -/

/-- What a larger cache has over a smaller one that is accessed in the same way. -/
structure LosesNoHit (small large : Cache α) (accesses : List (Access α)) : Prop where
  /-- After every part of the accesses from the first on, the keys of the smaller cache are among
  those of the larger, in the same order. -/
  ordered : ∀ part, part <+: accesses → (small.after part).keys.Sublist (large.after part).keys
  /-- Every lookup that is a hit in the smaller cache is one in the larger. -/
  hits : List.Forall₂ (fun less more => less.isHit = true → more.isHit = true)
    (small.history accesses) (large.history accesses)

/-- A cache that is made larger loses no hit, whatever it is asked for. -/
theorem losesNoHit_of_le (capacity larger : Nat) (positive : 0 < capacity) (le : capacity ≤ larger)
    (accesses : List (Access α)) :
    LosesNoHit (empty capacity positive) (empty larger (positive.trans_le le)) accesses := by
  refine ⟨fun part _ => (within_after le part).ordered, ?_⟩
  induction accesses using List.reverseRecOn with
  | nil => exact .nil
  | append_singleton accesses last ih =>
      rw [history_concat, history_concat]
      exact List.rel_append ih (.cons ((within_after le accesses).isHit last) .nil)

/-- Six accesses in which a cache of two and a cache of three run apart: the first lookup misses in
the smaller one, and the last store drives a key out of it that the larger one keeps. -/
def divergence : List (Access Nat) :=
  [.store ⟨"m", "a"⟩ 1, .store ⟨"m", "b"⟩ 2, .store ⟨"m", "c"⟩ 3, .lookup ⟨"m", "a"⟩,
    .store ⟨"m", "a"⟩ 4, .lookup ⟨"m", "c"⟩]

theorem divergence_losesNoHit :
    0 < 2 ∧ 2 ≤ 3 ∧
      ((empty 2 (by decide)).after divergence).entries = [(⟨"m", "a"⟩, 4), (⟨"m", "c"⟩, 3)] ∧
      ((empty 3 (by decide)).after divergence).entries =
        [(⟨"m", "b"⟩, 2), (⟨"m", "a"⟩, 1), (⟨"m", "c"⟩, 3)] ∧
      LosesNoHit (empty 2 (by decide)) (empty 3 (by decide)) divergence :=
  ⟨by decide, by decide, by decide, by decide,
    losesNoHit_of_le 2 3 (by decide) (by decide) divergence⟩

end DecisionTables.Cache

import Mathlib.Data.Finset.Card
import Mathlib.Data.List.DropRight
import DecisionTables.Engine.Cache

/-!
# Recency of the keys of a cache

What a cache holds is determined by its history: a key is touched when it is stored or found, and
the keys that are present are the last distinct ones that were touched since the cache was cleared,
as many as its capacity allows. This module keeps the history of a cache beside it, shows that every
access keeps the two in step, and derives what the history says of the keys, of their order and of
the items they are bound to.
-/

namespace DecisionTables.Cache

variable {α : Type}

/-! ## Accesses and what is seen of them -/

/-- What a cache is asked for. -/
inductive Access (α : Type) where
  | lookup (key : CacheKey)
  | store (key : CacheKey) (item : α)
  | clear

/-- An access together with what it gave. -/
inductive Event (α : Type) where
  | looked (key : CacheKey) (found : Option α)
  | stored (key : CacheKey) (given kept : α)
  | cleared (count : Nat)

def Access.isLookup : Access α → Bool
  | .lookup _ => true
  | _ => false

/-- Whether an event is a lookup that found its key. -/
def Event.isHit : Event α → Bool
  | .looked _ found => found.isSome
  | _ => false

/-- What an access gives, and the cache after it. -/
def access (cache : Cache α) : Access α → Event α × Cache α
  | .lookup key =>
      let (found, cache) := cache.lookup key
      (.looked key found, cache)
  | .store key item =>
      let (kept, cache) := cache.store key item
      (.stored key item kept, cache)
  | .clear =>
      let (count, cache) := cache.clear
      (.cleared count, cache)

def after (cache : Cache α) (accesses : List (Access α)) : Cache α :=
  accesses.foldl (fun cache access => (cache.access access).2) cache

/-- What is seen of some accesses, one after the other. -/
def history (cache : Cache α) : List (Access α) → List (Event α)
  | [] => []
  | access :: rest => (cache.access access).1 :: history (cache.access access).2 rest

theorem after_concat (cache : Cache α) (accesses : List (Access α)) (last : Access α) :
    cache.after (accesses ++ [last]) = ((cache.after accesses).access last).2 :=
  List.foldl_concat ..

theorem history_concat (cache : Cache α) (accesses : List (Access α)) (last : Access α) :
    cache.history (accesses ++ [last]) =
      cache.history accesses ++ [((cache.after accesses).access last).1] := by
  induction accesses generalizing cache with
  | nil => rfl
  | cons access rest ih => exact congrArg (_ :: ·) (ih _)

/-! ## Touches -/

/-- The keys touched since the cache was cleared, the last one at the end, with what an event adds.
A key is touched when it is stored or found. -/
def Event.record (touched : List CacheKey) : Event α → List CacheKey
  | .looked key (some _) => touched ++ [key]
  | .looked _ none => touched
  | .stored key _ _ => touched ++ [key]
  | .cleared _ => []

/-- The keys touched since the cache was cleared, the last one at the end. -/
def touches (events : List (Event α)) : List CacheKey :=
  events.foldl Event.record []

/-- The keys touched after the last touch of a key. -/
def since (key : CacheKey) (touched : List CacheKey) : List CacheKey :=
  touched.rtakeWhile fun other => other ≠ key

/-- The last distinct keys touched, as many as a capacity allows, in the order of their last
touches. -/
def latest (capacity : Nat) (touched : List CacheKey) : List CacheKey :=
  touched.dedup.rtake capacity

section Since

variable {key other last : CacheKey} {touched : List CacheKey}

theorem since_concat :
    since key (touched ++ [last]) = if last = key then [] else since key touched ++ [last] := by
  rw [since, List.rtakeWhile_concat]
  by_cases same : last = key
  · simp [same]
  · simp [same, since]

theorem since_cons_of_mem (among : key ∈ touched) :
    since key (other :: touched) = since key touched := by
  induction touched using List.reverseRecOn with
  | nil => cases among
  | append_singleton touched last ih =>
      rw [← List.cons_append, since_concat, since_concat]
      by_cases same : last = key
      · rw [if_pos same, if_pos same]
      · have before : key ∈ touched := by simpa [Ne.symm same] using among
        rw [ih before]

theorem since_cons_self (untouched : key ∉ touched) : since key (key :: touched) = touched := by
  induction touched using List.reverseRecOn with
  | nil => exact (since_concat : since key ([] ++ [key]) = _).trans (if_pos rfl)
  | append_singleton touched last ih =>
      rw [List.mem_append, List.mem_singleton, not_or] at untouched
      rw [← List.cons_append, since_concat, if_neg (Ne.symm untouched.2), ih untouched.1]

end Since

/-! ## The last distinct keys -/

section Latest

variable {key other : CacheKey} {touched : List CacheKey} {capacity : Nat}

theorem rtake_of_length_le {keys : List CacheKey} (fits : keys.length ≤ capacity) :
    keys.rtake capacity = keys := by
  rw [List.rtake, Nat.sub_eq_zero_of_le fits, List.drop_zero]

theorem rtake_append {front back : List CacheKey} (fills : capacity ≤ back.length) :
    (front ++ back).rtake capacity = back.rtake capacity := by
  have within : back.length - capacity + front.length = (front ++ back).length - capacity := by
    rw [List.length_append]
    omega
  rw [List.rtake, List.rtake, ← within, Nat.add_comm, List.drop_length_add_append]

/-- A list of keys ends with as many of them as a capacity allows, and begins with keys only if they
are that many. -/
theorem exists_eq_append_rtake (capacity : Nat) (keys : List CacheKey) :
    ∃ front, keys = front ++ keys.rtake capacity ∧
      (front = [] ∨ (keys.rtake capacity).length = capacity) := by
  refine ⟨keys.take (keys.length - capacity), (List.take_append_drop ..).symm, ?_⟩
  obtain fits | exceeds := Nat.le_total keys.length capacity
  · exact .inl (by rw [Nat.sub_eq_zero_of_le fits, List.take_zero])
  · exact .inr (by rw [List.rtake, List.length_drop]; omega)

@[simp] theorem latest_nil : latest capacity [] = [] :=
  List.rtake_nil ..

theorem latest_nodup : (latest capacity touched).Nodup :=
  (List.nodup_dedup touched).sublist (List.drop_sublist ..)

theorem latest_length_le : (latest capacity touched).length ≤ capacity := by
  rw [latest, List.rtake, List.length_drop]
  omega

theorem dedup_concat :
    (touched ++ [key]).dedup = (touched.dedup.filter fun other => other ≠ key) ++ [key] := by
  induction touched with
  | nil => rfl
  | cons first touched ih =>
      rw [List.cons_append, List.dedup_cons, List.dedup_cons, ih]
      by_cases among : first ∈ touched
      · simp [among]
      · by_cases same : first = key
        · simp [same ▸ among, same]
        · simp [among, same]

theorem length_filter_concat {keys : List CacheKey} (nodup : keys.Nodup) (among : key ∈ keys) :
    ((keys.filter fun other => other ≠ key) ++ [key]).length = keys.length := by
  have erased : (keys.filter fun other => other ≠ key) = keys.erase key := by
    rw [nodup.erase_eq_filter]
    exact List.filter_congr fun other _ => by simp [bne, beq_eq_decide]
  have positive := List.length_pos_of_mem among
  rw [erased, List.length_append, List.length_erase_of_mem among, List.length_singleton]
  omega

/-- Touching a key that is among the last distinct ones moves it to their end. -/
theorem latest_concat_of_mem (among : key ∈ latest capacity touched) :
    latest capacity (touched ++ [key]) =
      ((latest capacity touched).filter fun other => other ≠ key) ++ [key] := by
  obtain ⟨front, splits, fills⟩ := exists_eq_append_rtake capacity touched.dedup
  have nodup := splits ▸ List.nodup_dedup touched
  have absent : key ∉ front := fun before => List.disjoint_of_nodup_append nodup before among
  have kept : (front.filter fun other => other ≠ key) = front :=
    List.filter_eq_self.mpr fun other before =>
      decide_eq_true fun same => absent (same ▸ before)
  have moved := length_filter_concat latest_nodup among
  rw [latest, dedup_concat, splits, List.filter_append, kept, List.append_assoc]
  change (front ++ ((latest capacity touched).filter _ ++ [key])).rtake capacity = _
  rcases fills with rfl | fills
  · exact rtake_of_length_le (moved ▸ latest_length_le)
  · rw [rtake_append (moved ▸ fills.ge)]
    exact rtake_of_length_le (moved ▸ fills.le)

/-- Touching another key adds it to the last distinct ones, of which the first gives way if they
are more than the capacity allows. -/
theorem latest_concat_of_not_mem (absent : key ∉ latest capacity touched) :
    latest capacity (touched ++ [key]) = (latest capacity touched ++ [key]).rtake capacity := by
  obtain ⟨front, splits, fills⟩ := exists_eq_append_rtake capacity touched.dedup
  have kept : ((latest capacity touched).filter fun other => other ≠ key) =
      latest capacity touched :=
    List.filter_eq_self.mpr fun other among =>
      decide_eq_true fun same => absent (same ▸ among)
  rw [latest, dedup_concat, splits, List.filter_append]
  change ((front.filter _ ++ (latest capacity touched).filter _) ++ [key]).rtake capacity = _
  rw [kept, List.append_assoc]
  rcases fills with rfl | fills
  · rfl
  · refine rtake_append ?_
    rw [List.length_append, latest, fills]
    exact Nat.le_add_right ..

theorem rtake_cons {keys : List CacheKey} :
    (key :: keys).rtake capacity =
      if keys.length < capacity then key :: keys else keys.rtake capacity := by
  split
  · rename_i fits
    exact rtake_of_length_le fits
  · rename_i exceeds
    have moved : ([key] ++ keys).rtake capacity = keys.rtake capacity :=
      rtake_append (Nat.le_of_not_lt exceeds)
    exact moved

/-- A key is among the last distinct ones if it was touched, and after its last touch fewer others
were than the capacity allows. -/
theorem mem_latest_iff :
    key ∈ latest capacity touched ↔
      key ∈ touched ∧ (since key touched).toFinset.card < capacity := by
  induction touched with
  | nil => simp
  | cons first touched ih =>
      have later (among : key ∈ touched) : key ∈ latest capacity touched ↔
          key ∈ first :: touched ∧ (since key (first :: touched)).toFinset.card < capacity := by
        rw [ih, since_cons_of_mem among]
        simp [among]
      have never (absent : key ∉ touched) : key ∉ latest capacity touched := fun among =>
        absent (ih.mp among).1
      have others (among : key ∉ touched) (other : key ≠ first) :
          ¬(key ∈ first :: touched ∧ (since key (first :: touched)).toFinset.card < capacity) :=
        fun shown => (List.mem_cons.mp shown.1).elim other among
      rw [latest, List.dedup_cons]
      by_cases again : first ∈ touched
      · rw [if_pos again]
        by_cases among : key ∈ touched
        · exact later among
        · exact iff_of_false (never among) (others among fun same => among (same ▸ again))
      rw [if_neg again, rtake_cons, ← List.card_toFinset]
      by_cases same : key = first
      · subst same
        rw [since_cons_self again]
        by_cases fits : touched.toFinset.card < capacity
        · rw [if_pos fits]
          exact iff_of_true List.mem_cons_self ⟨List.mem_cons_self, fits⟩
        · rw [if_neg fits]
          exact iff_of_false (never again) fun shown => fits shown.2
      · have unmoved : key ∈ (if touched.toFinset.card < capacity then first :: touched.dedup
            else touched.dedup.rtake capacity) ↔ key ∈ latest capacity touched := by
          split
          · rename_i fits
            rw [List.card_toFinset] at fits
            rw [List.mem_cons, or_iff_right same, latest, rtake_of_length_le fits.le]
          · rfl
        rw [unmoved]
        by_cases among : key ∈ touched
        · exact later among
        · exact iff_of_false (never among) (others among same)

/-- The last distinct keys stand in the order of their last touches. -/
theorem latest_ordered :
    (latest capacity touched).Pairwise fun earlier later => later ∈ since earlier touched := by
  refine List.Pairwise.sublist (List.drop_sublist ..) ?_
  induction touched with
  | nil => exact .nil
  | cons first touched ih =>
      have kept : touched.dedup.Pairwise fun earlier later =>
          later ∈ since earlier (first :: touched) :=
        ih.imp_of_mem fun among _ later => by rwa [since_cons_of_mem (List.mem_dedup.mp among)]
      rw [List.dedup_cons]
      split
      · exact kept
      · rename_i new
        refine kept.cons fun later among => ?_
        rw [since_cons_self new]
        exact List.mem_dedup.mp among

end Latest

/-! ## Keys and bindings -/

/-- The keys that are present, the least recently touched first. -/
def keys (cache : Cache α) : List CacheKey :=
  cache.entries.map Prod.fst

section Bindings

variable {cache : Cache α} {key other : CacheKey} {item : α}

theorem mem_of_get? (found : cache.get? key = some item) : (key, item) ∈ cache.entries := by
  obtain ⟨⟨other, kept⟩, first, rfl⟩ := Option.map_eq_some_iff.mp found
  have same : other = key := by simpa using List.find?_some first
  subst same
  exact List.mem_of_find?_eq_some first

theorem get?_eq_none_iff : cache.get? key = none ↔ key ∉ cache.keys := by
  rw [get?, Option.map_eq_none_iff, List.find?_eq_none, keys, List.mem_map]
  constructor
  · intro differs present
    rcases present with ⟨entry, member, same⟩
    exact differs entry member (decide_eq_true same)
  · intro absent entry member same
    exact absent ⟨entry, member, of_decide_eq_true same⟩

/-- If keys are distinct, an entry is what is found under its key. -/
theorem get?_eq_some_iff (distinct : cache.keys.Nodup) :
    cache.get? key = some item ↔ (key, item) ∈ cache.entries := by
  refine ⟨mem_of_get?, fun member => ?_⟩
  cases found : cache.get? key with
  | none => exact absurd (List.mem_map_of_mem member) (get?_eq_none_iff.mp found)
  | some other =>
      have equal := List.inj_on_of_nodup_map distinct (mem_of_get? found) member rfl
      cases equal
      rfl

theorem keys_touch (entries : List (CacheKey × α)) :
    (touch key item entries).map Prod.fst =
      ((entries.map Prod.fst).filter fun other => other ≠ key) ++ [key] := by
  rw [touch, List.map_append, List.filter_map]
  rfl

theorem mem_touch_iff {entries : List (CacheKey × α)} {entry : CacheKey × α} :
    entry ∈ touch key item entries ↔ (entry ∈ entries ∧ entry.1 ≠ key) ∨ entry = (key, item) := by
  simp [touch]

end Bindings

/-! ## One access -/

section Step

variable {cache : Cache α} {key : CacheKey} {item other : α}

/-- A lookup that finds its key moves it to the end. -/
theorem lookup_of_found (found : cache.get? key = some item) :
    cache.lookup key =
      (some item,
        { cache with entries := touch key item cache.entries, hits := cache.hits + 1 }) := by
  rw [lookup, found]

theorem lookup_of_missing (missing : cache.get? key = none) :
    cache.lookup key = (none, { cache with misses := cache.misses + 1 }) := by
  rw [lookup, missing]

/-- Storing under a key that is present moves it to the end and keeps its item. -/
theorem store_of_found (found : cache.get? key = some item) (other : α) :
    cache.store key other = (item, { cache with entries := touch key item cache.entries }) := by
  rw [store, found]

/-- Storing under a missing key adds it at the end, and the first key gives way if there are too
many. -/
theorem store_of_missing (missing : cache.get? key = none) (item : α) :
    cache.store key item =
      (item, { cache with entries := (cache.entries ++ [(key, item)]).rtake cache.capacity }) := by
  rw [store, missing]
  rfl

theorem capacity_access (cache : Cache α) (access : Access α) :
    (cache.access access).2.capacity = cache.capacity := by
  cases access with
  | clear => rfl
  | lookup key =>
      cases found : cache.get? key with
      | none => simp only [Cache.access, lookup_of_missing found]
      | some item => simp only [Cache.access, lookup_of_found found]
  | store key item =>
      cases found : cache.get? key with
      | none => simp only [Cache.access, store_of_missing found]
      | some present => simp only [Cache.access, store_of_found found]

/-- Whether the keys of a cache are the last distinct ones of its history. -/
def Tracks (cache : Cache α) (touched : List CacheKey) : Prop :=
  cache.keys = latest cache.capacity touched

theorem Tracks.distinct {touched : List CacheKey} (tracks : cache.Tracks touched) :
    cache.keys.Nodup :=
  tracks ▸ latest_nodup

theorem Tracks.touch {touched : List CacheKey} (tracks : cache.Tracks touched)
    (found : cache.get? key = some item) :
    (Cache.touch key item cache.entries).map Prod.fst =
      latest cache.capacity (touched ++ [key]) := by
  have among : key ∈ latest cache.capacity touched := by
    rw [← tracks]
    exact List.mem_map_of_mem (mem_of_get? found)
  rw [keys_touch, latest_concat_of_mem among, ← tracks]
  rfl

/-- An access keeps a cache in step with its history. -/
theorem Tracks.access {touched : List CacheKey} (tracks : cache.Tracks touched)
    (access : Access α) :
    (cache.access access).2.Tracks ((cache.access access).1.record touched) := by
  cases access with
  | clear => exact latest_nil.symm
  | lookup key =>
      cases found : cache.get? key with
      | none =>
          simp only [Cache.access, lookup_of_missing found]
          exact tracks
      | some item =>
          simp only [Cache.access, lookup_of_found found]
          exact tracks.touch found
  | store key item =>
      cases found : cache.get? key with
      | none =>
          have absent : key ∉ latest cache.capacity touched := tracks ▸ get?_eq_none_iff.mp found
          simp only [Cache.access, store_of_missing found]
          refine Eq.trans ?_ (latest_concat_of_not_mem absent).symm
          rw [← tracks, keys, keys, List.rtake, List.map_drop]
          simp [List.rtake]
      | some present =>
          simp only [Cache.access, store_of_found found]
          exact tracks.touch found

theorem get?_touch_self (cache : Cache α) (entries : List (CacheKey × α)) :
    Cache.get? { cache with entries := touch key item entries } key = some item := by
  have none : (entries.filter fun entry => entry.1 ≠ key).find? (fun entry => entry.1 = key) =
      none := by
    rw [List.find?_eq_none]
    intro entry among
    simpa using List.of_mem_filter among
  rw [get?, touch, List.find?_append, none]
  simp

theorem get?_of_touch {moved : CacheKey} {present : α} (distinct : cache.keys.Nodup)
    (found : cache.get? moved = some present)
    (bound : Cache.get? { cache with entries := touch moved present cache.entries } key =
      some item) : cache.get? key = some item := by
  obtain ⟨among, _⟩ | same := mem_touch_iff.mp (mem_of_get? bound)
  · exact (get?_eq_some_iff distinct).mpr among
  · cases same
    exact found

/-- A key that is bound after an access was bound to the same item before, or was missing and has
been stored with the item. -/
theorem get?_of_access (distinct : cache.keys.Nodup) {access : Access α}
    (bound : (cache.access access).2.get? key = some item) :
    cache.get? key = some item ∨ cache.get? key = none ∧ access = .store key item := by
  cases access with
  | clear => cases bound
  | lookup moved =>
      cases found : cache.get? moved with
      | none =>
          simp only [Cache.access, lookup_of_missing found] at bound
          exact .inl bound
      | some present =>
          simp only [Cache.access, lookup_of_found found] at bound
          exact .inl (get?_of_touch distinct found bound)
  | store moved given =>
      cases found : cache.get? moved with
      | none =>
          simp only [Cache.access, store_of_missing found] at bound
          obtain before | new := List.mem_append.mp (List.mem_of_mem_drop (mem_of_get? bound))
          · exact .inl ((get?_eq_some_iff distinct).mpr before)
          · cases List.mem_singleton.mp new
            exact .inr ⟨found, rfl⟩
      | some present =>
          simp only [Cache.access, store_of_found found] at bound
          exact .inl (get?_of_touch distinct found bound)

/-- Storing under a missing key binds it, since there is room for at least one key. -/
theorem get?_store_of_missing {touched : List CacheKey} (tracks : cache.Tracks touched)
    (missing : cache.get? key = none) (item : α) :
    (cache.store key item).2.get? key = some item := by
  have distinct := (tracks.access (.store key item)).distinct
  simp only [Cache.access, store_of_missing missing] at distinct ⊢
  rw [get?_eq_some_iff distinct]
  change (key, item) ∈ (cache.entries ++ [(key, item)]).rtake cache.capacity
  obtain ⟨room, equal⟩ := Nat.exists_eq_add_one.mpr cache.positive
  rw [equal, List.rtake_concat_succ]
  exact List.mem_append_right _ (List.mem_singleton_self _)

/-- An access counts as a hit if it is a lookup that finds its key, and as a miss if it is one that
does not. -/
theorem counts_access (cache : Cache α) (access : Access α) :
    (cache.access access).2.hits =
        cache.hits + (if (cache.access access).1.isHit then 1 else 0) ∧
      (cache.access access).2.hits + (cache.access access).2.misses =
        cache.hits + cache.misses + (if access.isLookup then 1 else 0) := by
  cases access with
  | clear => exact ⟨rfl, rfl⟩
  | lookup key =>
      cases found : cache.get? key with
      | none =>
          simp only [Cache.access, lookup_of_missing found]
          exact ⟨rfl, rfl⟩
      | some item =>
          simp only [Cache.access, lookup_of_found found]
          exact ⟨rfl, Nat.add_right_comm ..⟩
  | store key item =>
      cases found : cache.get? key with
      | none =>
          simp only [Cache.access, store_of_missing found]
          exact ⟨rfl, rfl⟩
      | some present =>
          simp only [Cache.access, store_of_found found]
          exact ⟨rfl, rfl⟩

end Step

/-! ## Histories -/

section Run

variable {capacity : Nat} {positive : 0 < capacity} {accesses : List (Access α)} {key : CacheKey}
  {item : α}

theorem capacity_after (cache : Cache α) (accesses : List (Access α)) :
    (cache.after accesses).capacity = cache.capacity := by
  induction accesses using List.reverseRecOn with
  | nil => rfl
  | append_singleton accesses last ih => rw [after_concat, capacity_access, ih]

/-- The keys of a cache are the last distinct ones of its history. -/
theorem tracks_after (positive : 0 < capacity) (accesses : List (Access α)) :
    ((empty capacity positive).after accesses).Tracks
      (touches ((empty capacity positive).history accesses)) := by
  induction accesses using List.reverseRecOn with
  | nil => exact latest_nil.symm
  | append_singleton accesses last ih =>
      rw [after_concat, history_concat, touches, List.foldl_concat]
      exact ih.access last

/-- Whether a key has been bound to an item since it was last missing: the item was stored under the
missing key, and the key has been bound to it at every point since. -/
def BoundSinceMissing (start : Cache α) (accesses : List (Access α)) (key : CacheKey) (item : α) :
    Prop :=
  ∃ before later, accesses = before ++ .store key item :: later ∧
    (start.after before).get? key = none ∧
    ∀ part, part <+: later →
      (start.after (before ++ .store key item :: part)).get? key = some item

theorem boundSinceMissing_after
    (bound : ((empty capacity positive).after accesses).get? key = some item) :
    BoundSinceMissing (empty capacity positive) accesses key item := by
  induction accesses using List.reverseRecOn with
  | nil => cases bound
  | append_singleton accesses last ih =>
      have distinct := (tracks_after positive accesses).distinct
      have now := bound
      rw [after_concat] at bound
      obtain already | ⟨missing, rfl⟩ := get?_of_access distinct bound
      · obtain ⟨before, later, rfl, missing, throughout⟩ := ih already
        refine ⟨before, later ++ [last], by simp, missing, fun part within => ?_⟩
        obtain rfl | within := List.prefix_concat_iff.mp within
        · simpa using now
        · exact throughout part within
      · refine ⟨accesses, [], rfl, missing, fun part within => ?_⟩
        rw [List.prefix_nil.mp within]
        exact now

/-- The hits are the lookups that found their key, and every lookup is a hit or a miss. -/
theorem counts_after (positive : 0 < capacity) (accesses : List (Access α)) :
    ((empty capacity positive).after accesses).hits =
        ((empty capacity positive).history accesses).countP Event.isHit ∧
      ((empty capacity positive).after accesses).hits +
          ((empty capacity positive).after accesses).misses =
        accesses.countP Access.isLookup := by
  induction accesses using List.reverseRecOn with
  | nil => exact ⟨rfl, rfl⟩
  | append_singleton accesses last ih =>
      obtain ⟨hits, lookups⟩ := counts_access ((empty capacity positive).after accesses) last
      rw [after_concat, history_concat, List.countP_append, List.countP_append,
        List.countP_singleton, List.countP_singleton, ← ih.1, ← ih.2]
      exact ⟨hits, lookups⟩

end Run

/-! ## Least recently used -/

/-- What the history of a cache says of what it holds after some accesses. -/
structure LeastRecentlyUsed (start : Cache α) (accesses : List (Access α)) : Prop where
  distinct : (start.after accesses).keys.Nodup
  bounded : (start.after accesses).keys.length ≤ start.capacity
  /-- A key is present if it was touched since the cache was cleared and fewer distinct other keys
  than the capacity were touched after its last touch. -/
  present_iff : ∀ key, key ∈ (start.after accesses).keys ↔
    key ∈ touches (start.history accesses) ∧
      (since key (touches (start.history accesses))).toFinset.card < start.capacity
  /-- Of two keys that are present, the later one was touched after the last touch of the earlier
  one. -/
  ordered : (start.after accesses).keys.Pairwise fun earlier later =>
    later ∈ since earlier (touches (start.history accesses))
  /-- A present key is bound to an item, the one that was stored when it was last missing. -/
  bound : ∀ key ∈ (start.after accesses).keys, ∃ item,
    (start.after accesses).get? key = some item ∧ BoundSinceMissing start accesses key item
  /-- As long as a key is bound, storing under it gives the item that it is bound to and leaves it
  bound to that, and so does looking it up. -/
  kept : ∀ key item, (start.after accesses).get? key = some item →
    (∀ other, ((start.after accesses).store key other).1 = item ∧
      ((start.after accesses).store key other).2.get? key = some item) ∧
    ((start.after accesses).lookup key).1 = some item ∧
      ((start.after accesses).lookup key).2.get? key = some item
  /-- A lookup of a key that is not present finds nothing, and storing under it binds it. -/
  missing : ∀ key, key ∉ (start.after accesses).keys →
    ((start.after accesses).lookup key).1 = none ∧
      ∀ item, ((start.after accesses).store key item).1 = item ∧
        ((start.after accesses).store key item).2.get? key = some item
  cleared : (start.after accesses).clear.1 = (start.after accesses).keys.length
  lookups : (start.after accesses).hits + (start.after accesses).misses =
    accesses.countP Access.isLookup
  hits : (start.after accesses).hits = (start.history accesses).countP Event.isHit

/-- A cache that starts empty holds the keys that were touched last. -/
theorem after_leastRecentlyUsed (capacity : Nat) (positive : 0 < capacity)
    (accesses : List (Access α)) : LeastRecentlyUsed (empty capacity positive) accesses := by
  have tracks := tracks_after positive accesses
  have size : ((empty capacity positive).after accesses).capacity = capacity :=
    capacity_after ..
  have last : ((empty capacity positive).after accesses).keys =
      latest capacity (touches ((empty capacity positive).history accesses)) :=
    tracks.trans (by rw [size])
  constructor
  case distinct => exact tracks.distinct
  case bounded => exact last ▸ latest_length_le
  case present_iff =>
    intro key
    rw [last]
    exact mem_latest_iff
  case ordered =>
    rw [last]
    exact latest_ordered
  case bound =>
    intro key present
    cases found : ((empty capacity positive).after accesses).get? key with
    | none => exact absurd present (get?_eq_none_iff.mp found)
    | some item => exact ⟨item, rfl, boundSinceMissing_after found⟩
  case kept =>
    intro key item found
    refine ⟨fun other => ?_, ?_⟩
    · rw [store_of_found found]
      exact ⟨rfl, get?_touch_self ..⟩
    · rw [lookup_of_found found]
      exact ⟨rfl, get?_touch_self ((empty capacity positive).after accesses) _⟩
  case missing =>
    intro key absent
    have missing := get?_eq_none_iff.mpr absent
    refine ⟨?_, fun item => ⟨?_, get?_store_of_missing tracks missing item⟩⟩
    · rw [lookup_of_missing missing]
    · rw [store_of_missing missing]
  case cleared => exact (List.length_map ..).symm
  case lookups => exact (counts_after positive accesses).2
  case hits => exact (counts_after positive accesses).1

/-- Five accesses to a cache of two: the lookup saves the first key from the third store, and the
last store binds the second key anew. -/
def revival : List (Access Nat) :=
  [.store ⟨"m", "a"⟩ 1, .store ⟨"m", "b"⟩ 2, .lookup ⟨"m", "a"⟩, .store ⟨"m", "c"⟩ 3,
    .store ⟨"m", "b"⟩ 4]

theorem revival_leastRecentlyUsed :
    0 < 2 ∧ ((empty 2 (by decide)).after revival).entries = [(⟨"m", "c"⟩, 3), (⟨"m", "b"⟩, 4)] ∧
      LeastRecentlyUsed (empty 2 (by decide)) revival :=
  ⟨by decide, by decide, after_leastRecentlyUsed 2 (by decide) revival⟩

end DecisionTables.Cache

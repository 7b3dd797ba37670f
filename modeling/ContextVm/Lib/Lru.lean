import Mathlib.Data.List.AList

/-! A bounded cache that gives up its least recently used entry when it is full. -/

namespace ContextVm

/-- What a table reads after an insertion is the new value, or an old one. -/
theorem lookup_insert_cases {κ ν : Type} [DecidableEq κ] {table : AList fun _ : κ => ν}
    {key other : κ} {value read : ν} (known : (table.insert key value).lookup other = some read) :
    (other = key ∧ read = value) ∨ table.lookup other = some read := by
  by_cases same : other = key
  · grind [AList.lookup_insert, Option.some.inj]
  · simp_all

/-- A cache of at most `cap` entries, kept with the most recently used one in front. -/
structure Lru (κ ν : Type) where
  /-- The largest number of entries held at once. -/
  cap : Nat
  /-- The entries in order of use, no key appearing twice. -/
  map : AList (fun _ : κ => ν)
  /-- A cache always has room for one entry. -/
  pos : 0 < cap
  /-- The capacity is never exceeded. -/
  bounded : map.entries.length ≤ cap

namespace Lru

variable {κ ν : Type}

/-- The empty cache of a given capacity, where zero is read as one. -/
def withCapacity (cap : Nat) : Lru κ ν where
  cap := max cap 1
  map := ∅
  pos := by omega
  bounded := by simp

/-- The number of entries held. -/
def len (cache : Lru κ ν) : Nat := cache.map.entries.length

/-- The entries as pairs, most recently used first. -/
def iter (cache : Lru κ ν) : List (κ × ν) :=
  cache.map.entries.map fun entry => (entry.1, entry.2)

/-- The key that has gone longest without being used. -/
def lruKey (cache : Lru κ ν) : Option κ :=
  cache.map.entries.getLast?.map Sigma.fst

/-- No cache is over its capacity. -/
theorem len_le_cap (cache : Lru κ ν) : cache.len ≤ cache.cap := cache.bounded

/-- There are as many keys as entries. -/
theorem length_keys (map : AList (fun _ : κ => ν)) : map.keys.length = map.entries.length := by
  rw [AList.keys, List.keys, List.length_map]

/-- An iteration meets every entry once. -/
theorem length_iter (cache : Lru κ ν) : cache.iter.length = cache.len := List.length_map _

/-- An iteration meets no key twice. -/
theorem nodup_keys_iter (cache : Lru κ ν) : (cache.iter.map Prod.fst).Nodup := by
  rw [iter, List.map_map]
  exact cache.map.keys_nodup

variable [DecidableEq κ]

/-- Read a value without counting the read as a use. -/
def peek (cache : Lru κ ν) (key : κ) : Option ν := cache.map.lookup key

/-- Remove one key. -/
def pop (cache : Lru κ ν) (key : κ) : Lru κ ν where
  cap := cache.cap
  map := cache.map.erase key
  pos := cache.pos
  bounded := Nat.le_trans (List.kerase_sublist key _).length_le cache.bounded

/-- Drop the entry that has gone longest without being used. -/
def evict (cache : Lru κ ν) : Lru κ ν where
  cap := cache.cap
  map := ⟨cache.map.entries.dropLast, cache.map.nodupKeys.sublist (List.dropLast_sublist _)⟩
  pos := cache.pos
  bounded := Nat.le_trans (List.dropLast_sublist _).length_le cache.bounded

/-- Drop all entries. -/
def clear (cache : Lru κ ν) : Lru κ ν where
  cap := cache.cap
  map := ∅
  pos := cache.pos
  bounded := Nat.zero_le _

/-- Whether writing `key` has to give up another entry first. -/
def Overflows (cache : Lru κ ν) (key : κ) : Prop :=
  -- Only a key that is not yet held needs room of its own.
  cache.peek key = none ∧ cache.len = cache.cap

instance (cache : Lru κ ν) (key : κ) : Decidable (cache.Overflows key) :=
  decidable_of_iff ((cache.peek key).isNone = true ∧ cache.len = cache.cap)
    (by rw [Overflows, Option.isNone_iff_eq_none])

/-- Make room for `key`, giving up the least recently used entry when that is needed. -/
def makeRoom (cache : Lru κ ν) (key : κ) : Lru κ ν :=
  if cache.Overflows key then cache.evict else cache

/-- The key given up when `key` is written. -/
def victim (cache : Lru κ ν) (key : κ) : Option κ :=
  if cache.Overflows key then cache.lruKey else none

/-- After making room, the written key fits. -/
theorem makeRoom_fits (cache : Lru κ ν) (key : κ) (value : ν) :
    ((cache.makeRoom key).map.insert key value).entries.length ≤ cache.cap := by
  have pos := cache.pos
  have bounded := cache.bounded
  -- Writing a key puts it before the others, so the keys but this one must leave a place free.
  rw [← length_keys, AList.keys_insert, List.length_cons]
  by_cases overflow : cache.Overflows key
  · -- One entry was dropped, so one more than what is left is the capacity.
    have shrunk : (cache.makeRoom key).map.keys.length = cache.cap - 1 := by
      rw [length_keys, makeRoom, if_pos overflow]
      simpa [evict, len] using congrArg (· - 1) overflow.2
    have := (List.erase_sublist (a := key) (l := (cache.makeRoom key).map.keys)).length_le
    omega
  · rw [makeRoom, if_neg overflow]
    by_cases held : key ∈ cache.map
    · -- Rewriting a held key leaves the number of entries alone.
      have := List.length_erase_of_mem (AList.mem_keys.mp held)
      have := length_keys cache.map
      omega
    · -- A new key was let in because the cache was not full.
      have absent : cache.peek key = none := AList.lookup_eq_none.mpr held
      have room : cache.map.entries.length ≠ cache.cap := fun full => overflow ⟨absent, full⟩
      have := (List.erase_sublist (a := key) (l := cache.map.keys)).length_le
      have := length_keys cache.map
      omega

/-- Write a key, counting the write as its latest use. -/
def put (cache : Lru κ ν) (key : κ) (value : ν) : Lru κ ν where
  cap := cache.cap
  map := (cache.makeRoom key).map.insert key value
  pos := cache.pos
  bounded := cache.makeRoom_fits key value

/-- Write a key and report the entry it replaced or pushed out. -/
def push (cache : Lru κ ν) (key : κ) (value : ν) : Lru κ ν × Option (κ × ν) :=
  (cache.put key value,
    match cache.peek key with
    | some replaced => some (key, replaced)
    | none => (cache.victim key).bind fun lost => (cache.peek lost).map fun old => (lost, old))

/-- Change the value of a held key in place, without counting that as a use. -/
def replace (cache : Lru κ ν) (key : κ) (value : ν) : Lru κ ν where
  cap := cache.cap
  map := cache.map.replace key value
  pos := cache.pos
  bounded := by
    -- The keys stay as they are, and there are as many entries as keys.
    rw [← length_keys, AList.keys_replace, length_keys]
    exact cache.bounded

/-- Read a value and count the read as a use. -/
def get (cache : Lru κ ν) (key : κ) : Option ν × Lru κ ν :=
  match cache.peek key with
  | some value => (some value, cache.put key value)
  | none => (none, cache)

/-! Observations of each operation through `peek`. -/

/-- A new cache holds nothing. -/
@[simp] theorem peek_withCapacity (cap : Nat) (key : κ) :
    (withCapacity cap : Lru κ ν).peek key = none := rfl

/-- A removal keeps the capacity. -/
@[simp] theorem cap_pop (cache : Lru κ ν) (key : κ) : (cache.pop key).cap = cache.cap := rfl

/-- So does a write. -/
@[simp] theorem cap_put (cache : Lru κ ν) (key : κ) (value : ν) :
    (cache.put key value).cap = cache.cap := rfl

/-- A removal takes its key away, and no other. -/
theorem peek_pop (cache : Lru κ ν) (key other : κ) :
    (cache.pop key).peek other = if other = key then none else cache.peek other := by
  by_cases same : other = key
  · subst same
    simp [peek, pop]
  · simp only [peek, pop, if_neg same]
    exact AList.lookup_erase_ne same

/-- Erasing a held key leaves fewer entries. -/
theorem length_erase_lt {map : AList (fun _ : κ => ν)} {key : κ} {value : ν}
    (held : map.lookup key = some value) : (map.erase key).entries.length < map.entries.length := by
  have present : key ∈ map.keys := by
    rw [← AList.mem_keys, ← AList.lookup_isSome, held]
    rfl
  -- The keys lose the one that was held.
  have shorter := List.length_erase_of_mem present
  have positive := List.length_pos_of_mem present
  rw [← AList.keys_erase] at shorter
  simp only [← length_keys]
  omega

/-- Removing a held key leaves fewer entries. -/
theorem len_pop_lt {cache : Lru κ ν} {key : κ} {value : ν} (held : cache.peek key = some value) :
    (cache.pop key).len < cache.len :=
  length_erase_lt held

/-- Removing several keys takes these away, and no other. -/
theorem peek_foldl_pop (keys : List κ) (cache : Lru κ ν) (other : κ) :
    (keys.foldl pop cache).peek other = if other ∈ keys then none else cache.peek other := by
  -- The induction is on the keys still to be removed.
  induction keys generalizing cache with
  | nil => simp
  | cons key rest ih => grind [peek_pop]

/-- Removing several keys keeps the capacity. -/
theorem cap_foldl_pop (keys : List κ) (cache : Lru κ ν) :
    (keys.foldl pop cache).cap = cache.cap := by
  induction keys generalizing cache with
  | nil => rfl
  | cons key rest ih => rw [List.foldl_cons, ih, cap_pop]

section

variable (cache : Lru κ ν)
include cache

/-- A removed key is gone. -/
@[simp] theorem peek_pop_self (key : κ) : (cache.pop key).peek key = none := by
  simp [peek_pop]

/-- A reading is an entry of the iteration. -/
theorem peek_eq_some_iff (key : κ) (value : ν) :
    cache.peek key = some value ↔ (key, value) ∈ cache.iter := by
  -- Without two entries of one key, a reading and an entry are the same thing.
  have found : cache.peek key = some value ↔
      (⟨key, value⟩ : Sigma fun _ : κ => ν) ∈ cache.map.entries :=
    AList.mem_lookup_iff
  rw [found]
  simp [iter]

/-- Dropping the oldest entry hides that key and no other. -/
theorem peek_evict (key : κ) :
    cache.evict.peek key = if cache.lruKey = some key then none else cache.peek key := by
  -- The entries split into those kept and the last one, whose key none of the others shares.
  rcases List.eq_nil_or_concat cache.map.entries with empty | ⟨kept, last, split⟩
  · simp [evict, peek, lruKey, empty, AList.lookup]
  · have distinct : (kept ++ [last]).NodupKeys := by
      simpa [← List.concat_eq_append, ← split] using cache.map.nodupKeys
    have lookedUp : cache.peek key = List.dlookup key (kept ++ [last]) := by
      simp [peek, AList.lookup, split]
    have keptOnly : cache.evict.peek key = List.dlookup key kept := by
      simp [evict, peek, AList.lookup, split]
    have oldest : cache.lruKey = some last.1 := by simp [lruKey, split]
    rw [keptOnly, lookedUp, oldest, List.dlookup_append]
    by_cases same : last.1 = key
    · -- The dropped key occurs nowhere else.
      have unique : key ∉ kept.keys := by grind
      simp [same, List.dlookup_eq_none.mpr unique]
    · grind

/-- A write adds its key, and takes away that of the victim. -/
theorem peek_put (key other : κ) (value : ν) :
    (cache.put key value).peek other =
      if other = key then some value
      else if cache.victim key = some other then none else cache.peek other := by
  by_cases same : other = key
  · subst same
    simp [peek, put]
  · -- Another key reads what is left after making room.
    have unwritten : (cache.put key value).peek other = (cache.makeRoom key).peek other :=
      AList.lookup_insert_ne same
    rw [if_neg same, unwritten, makeRoom, victim]
    by_cases overflow : cache.Overflows key
    · simp only [if_pos overflow, peek_evict]
    · simp [if_neg overflow]

/-- A written key is held. -/
@[simp] theorem peek_put_self (key : κ) (value : ν) :
    (cache.put key value).peek key = some value := by
  simp [peek_put]

/-- A write with room for it takes nothing away. -/
theorem peek_put_of_fits {key other : κ} (value : ν)
    (fits : ¬ cache.Overflows key) (distinct : other ≠ key) :
    (cache.put key value).peek other = cache.peek other := by
  simp [peek_put, distinct, victim, fits]

end

/-- A victim is held, and is not the key that is written. -/
theorem victim_held {cache : Lru κ ν} {key lost : κ} (given : cache.victim key = some lost) :
    cache.peek lost ≠ none ∧ lost ≠ key := by
  unfold victim at given
  split at given
  · rename_i overflow
    -- The oldest key is that of an entry, while the written key has none.
    have held : cache.peek lost ≠ none := by
      simp only [lruKey, Option.map_eq_some_iff] at given
      obtain ⟨entry, last, named⟩ := given
      have member : (entry.1, entry.2) ∈ cache.iter :=
        List.mem_map.mpr ⟨entry, List.mem_of_getLast? last, rfl⟩
      rw [← named, (peek_eq_some_iff cache entry.1 entry.2).mpr member]
      simp
    exact ⟨held, fun same => held (same ▸ overflow.1)⟩
  · cases given

/-- A change in place is read under its key, if that is held, and nowhere else. -/
theorem peek_replace {cache : Lru κ ν} {key : κ} {old : ν} (held : cache.peek key = some old)
    (value : ν) (other : κ) :
    (cache.replace key value).peek other =
      if other = key then some value else cache.peek other := by
  show List.dlookup other (List.kreplace key value cache.map.entries) = _
  unfold peek AList.lookup at held ⊢
  generalize cache.map.entries = entries at held ⊢
  -- The first entry is the one that is changed, or the change is further back.
  induction entries with
  | nil => cases held
  | cons entry rest ih =>
    obtain ⟨name, content⟩ := entry
    by_cases here : key = name
    · subst here
      rw [List.kreplace, List.lookmap_cons_some _ _ (by simp; rfl)]
      by_cases same : other = key
      · subst same
        simp
      · rw [List.dlookup_cons_ne _ _ same, List.dlookup_cons_ne _ _ same, if_neg same]
    · rw [List.dlookup_cons_ne _ _ here] at held
      rw [List.kreplace, List.lookmap_cons_none _ _ (by simp [here])]
      by_cases same : other = name
      · grind
      · rw [List.dlookup_cons_ne _ _ same, List.dlookup_cons_ne _ _ same]
        exact ih held

/-- A replacement neither adds nor removes a key. -/
theorem isSome_peek_replace (cache : Lru κ ν) (key other : κ) (value : ν) :
    ((cache.replace key value).peek other).isSome = (cache.peek other).isSome := by
  -- A key is held when it is among the keys, which stay as they are.
  apply Bool.eq_iff_iff.mpr
  show ((cache.map.replace key value).lookup other).isSome ↔ (cache.map.lookup other).isSome
  rw [AList.lookup_isSome, AList.lookup_isSome, AList.mem_replace]

/-- A use reads what is held. -/
@[simp] theorem get_fst (cache : Lru κ ν) (key : κ) : (cache.get key).1 = cache.peek key := by
  -- Both branches return what was found.
  unfold get
  split <;> simp_all

/-- A use changes no reading. -/
@[simp] theorem peek_get (cache : Lru κ ν) (key other : κ) :
    (cache.get key).2.peek other = cache.peek other := by
  unfold get
  split
  · rename_i value found
    -- The key is already held, so nothing is pushed out.
    have fits : ¬ cache.Overflows key := fun overflow => by simp [overflow.1] at found
    by_cases same : other = key
    · subst same
      simp [found]
    · exact peek_put_of_fits cache value fits same
  · rfl

/-- Writing a held key has no victim. -/
theorem victim_of_held {cache : Lru κ ν} {key : κ} {value : ν}
    (held : cache.peek key = some value) :
    cache.victim key = none := by
  have fits : ¬ cache.Overflows key := fun overflow => by simp [overflow.1] at held
  simp [victim, fits]

/-- The victim depends on the capacity and the order of keys alone. -/
theorem victim_congr {one other : Lru κ ν} (room : one.cap = other.cap)
    (keys : one.map.keys = other.map.keys) (key : κ) : one.victim key = other.victim key := by
  have held : one.peek key = none ↔ other.peek key = none := by
    simp only [peek, AList.lookup_eq_none, AList.mem_keys, keys]
  have len : one.len = other.len := by rw [len, len, ← length_keys, ← length_keys, keys]
  have oldest : one.lruKey = other.lruKey := by
    have last (cache : Lru κ ν) : cache.lruKey = cache.map.keys.getLast? := by
      rw [lruKey, AList.keys, List.keys, List.getLast?_map]
    rw [last, last, keys]
  have overflow : one.Overflows key ↔ other.Overflows key := by
    rw [Overflows, Overflows, held, len, room]
  unfold victim
  rw [oldest]
  exact if_congr overflow rfl rfl

/-- The value that was written last does not matter to the victim. -/
theorem victim_put (cache : Lru κ ν) (key next : κ) (value other : ν) :
    (cache.put key value).victim next = (cache.put key other).victim next := by
  -- The same key is in front of the same others.
  have keys : (cache.put key value).map.keys = (cache.put key other).map.keys := by
    simp only [put, AList.keys_insert]
  exact victim_congr (by rw [cap_put, cap_put]) keys next

/-- Using the key itself does not change its victim. -/
@[simp] theorem victim_get (cache : Lru κ ν) (key : κ) :
    (cache.get key).2.victim key = cache.victim key := by
  cases found : cache.peek key with
  | none => simp [get, found]
  | some value =>
    -- The key is held before and after the read, so neither write needs room.
    have still : (cache.get key).2.peek key = some value := by rw [peek_get, found]
    rw [victim_of_held found, victim_of_held still]

/-- A use keeps the capacity. -/
@[simp] theorem cap_get (cache : Lru κ ν) (key : κ) : (cache.get key).2.cap = cache.cap := by
  unfold get
  split <;> rfl

/-! Observations of each operation through the entries in order of use. -/

/-- What no iteration meets is not held. -/
theorem peek_eq_none_iff (cache : Lru κ ν) (key : κ) :
    cache.peek key = none ↔ key ∉ cache.iter.map Prod.fst := by
  rw [iter, List.map_map]
  exact AList.lookup_eq_none

/-- Erasing a key from entries that have each key once leaves the entries of the other keys. -/
theorem map_kerase {entries : List (Sigma fun _ : κ => ν)} (distinct : entries.NodupKeys)
    (key : κ) : (entries.kerase key).map (fun entry => (entry.1, entry.2)) =
      (entries.map fun entry => (entry.1, entry.2)).filter fun item => item.1 ≠ key := by
  -- Entry by entry: the first one with the key is the only one.
  induction entries with
  | nil => rfl
  | cons entry rest ih =>
    obtain ⟨unique, others⟩ := List.nodupKeys_cons.mp distinct
    by_cases here : key = entry.1
    · rw [List.kerase_cons_eq here]
      have kept : (rest.map fun other => (other.1, other.2)).filter (fun item => item.1 ≠ key) =
          rest.map fun other => (other.1, other.2) := by
        grind [List.filter_eq_self, List.mem_map_of_mem]
      rw [List.map_cons, List.filter_cons, if_neg (by simp [here]), kept]
    · grind [List.kerase_cons_ne]

/-- A removal leaves the other entries in their order. -/
theorem iter_pop (cache : Lru κ ν) (key : κ) :
    (cache.pop key).iter = cache.iter.filter fun item => item.1 ≠ key :=
  map_kerase cache.map.nodupKeys key

/-- A new key comes first, and pushes the last one out of a full cache. -/
theorem iter_put {cache : Lru κ ν} {key : κ} (absent : cache.peek key = none) (value : ν) :
    (cache.put key value).iter =
      (key, value) :: if cache.len = cache.cap then cache.iter.dropLast else cache.iter := by
  -- Making room takes no key in, so the written one is still new.
  have still : key ∉ (cache.makeRoom key).map := by
    rw [← AList.lookup_eq_none]
    unfold makeRoom
    split
    · exact (peek_evict cache key).trans (by rw [absent, ite_self])
    · exact absent
  have entries : (cache.put key value).iter = (key, value) :: (cache.makeRoom key).iter := by
    simp only [iter, put, AList.entries_insert_of_notMem still, List.map_cons]
  rw [entries, makeRoom]
  by_cases full : cache.len = cache.cap
  · rw [if_pos ⟨absent, full⟩, if_pos full]
    simp only [evict, iter, List.map_dropLast]
  · rw [if_neg (fun overflow => full overflow.2), if_neg full]

/-- An overflowing cache stays full. -/
theorem len_put_of_overflows {cache : Lru κ ν} {key : κ} (overflow : cache.Overflows key)
    (value : ν) : (cache.put key value).len = cache.cap := by
  have pos := cache.pos
  have full : cache.iter.length = cache.cap := (length_iter cache).trans overflow.2
  rw [← length_iter, iter_put overflow.1, if_pos overflow.2, List.length_cons, List.length_dropLast]
  omega

/-- An overflowing write has a victim. -/
theorem victim_isSome {cache : Lru κ ν} {key : κ} (overflow : cache.Overflows key) :
    (cache.victim key).isSome = true := by
  have pos := cache.pos
  have full : cache.map.entries.length = cache.cap := overflow.2
  rw [victim, if_pos overflow, lruKey, Option.isSome_map, ← Option.ne_none_iff_isSome]
  intro empty
  rw [List.getLast?_eq_none_iff.mp empty, List.length_nil] at full
  omega

/-- A victim that is written again overflows the cache again. -/
theorem overflows_put_victim {cache : Lru κ ν} {key lost : κ} (given : cache.victim key = some lost)
    (value : ν) : (cache.put key value).Overflows lost := by
  grind [victim, Overflows, put, peek_put, victim_held, len_put_of_overflows]

/-- A push returns the last entry of a full cache. -/
theorem push_snd {cache : Lru κ ν} {key : κ} (absent : cache.peek key = none) (value : ν) :
    (cache.push key value).2 =
      if cache.len = cache.cap then cache.iter.getLast? else none := by
  simp only [push, absent, victim, Overflows, true_and]
  by_cases full : cache.len = cache.cap
  · rw [if_pos full, if_pos full]
    -- The last entry is what its key reads.
    cases last : cache.map.entries.getLast? with
    | none => simp [lruKey, iter, last, List.getLast?_map]
    | some entry =>
      have read : cache.peek entry.1 = some entry.2 :=
        AList.mem_lookup_iff.mpr (List.mem_of_getLast? last)
      simp [lruKey, iter, last, List.getLast?_map, read]
  · grind

end Lru

end ContextVm

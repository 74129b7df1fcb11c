import Mathlib.Data.List.Nodup
import Mathlib.Algebra.Order.Ring.Int

/-!
# The worker's replay cache

`NonceCache` of `worker/app/protocol/replay.py`: a bounded dictionary from
nonces to the instants at which they expire, at a one-second clock.

Results:
1. `consume_eq_true_iff`: a nonce is consumed exactly when it is not live and
   fewer than `maxEntries` nonces are.
2. `live_consume_iff`: a consumed nonce is live until its TTL has passed, and no
   later call makes a nonce free earlier.
-/

namespace Trackpal.Worker

/-- Bounded in-memory replay cache. The proofs are the checks of
`__post_init__` and the uniqueness of dictionary keys. -/
structure NonceCache where
  ttlSeconds : Int
  maxEntries : Nat
  entries : List (String × Int)
  ttlSeconds_pos : 0 < ttlSeconds
  maxEntries_pos : 0 < maxEntries
  keys_nodup : (entries.map Prod.fst).Nodup

namespace NonceCache

def new (ttlSeconds : Int) (maxEntries : Nat) (ht : 0 < ttlSeconds) (hm : 0 < maxEntries) :
    NonceCache :=
  ⟨ttlSeconds, maxEntries, [], ht, hm, List.nodup_nil⟩

/-- `_purge`: drop the nonces whose expiry is at or before `now`. -/
def purge (cache : NonceCache) (now : Int) : NonceCache :=
  { cache with
    entries := cache.entries.filter fun entry => now < entry.2
    keys_nodup := cache.keys_nodup.sublist (List.filter_sublist.map Prod.fst) }

/-- `self._entries[nonce] = now + self.ttl_seconds` for an absent nonce. -/
def insert (cache : NonceCache) (nonce : String) (now : Int)
    (h : nonce ∉ cache.entries.map Prod.fst) : NonceCache :=
  { cache with
    entries := (nonce, now + cache.ttlSeconds) :: cache.entries
    keys_nodup := List.nodup_cons.mpr ⟨h, cache.keys_nodup⟩ }

/-- `consume`: the next cache, and whether the nonce was free. -/
def consume (cache : NonceCache) (nonce : String) (now : Int) : NonceCache × Bool :=
  let purged := cache.purge now
  if h : nonce ∈ purged.entries.map Prod.fst then (purged, false)
  else if purged.maxEntries ≤ purged.entries.length then (purged, false)
  else (purged.insert nonce now h, true)

/-- The nonce is recorded and has not expired at `now`. -/
def Live (cache : NonceCache) (nonce : String) (now : Int) : Prop :=
  ∃ expiry, (nonce, expiry) ∈ cache.entries ∧ now < expiry

/-- The entries that `purge` keeps. -/
def liveEntries (cache : NonceCache) (now : Int) : List (String × Int) :=
  (cache.purge now).entries

variable {cache : NonceCache} {nonce nonce' : String} {now now' : Int}

theorem mem_purge {entry : String × Int} :
    entry ∈ (cache.purge now).entries ↔ entry ∈ cache.entries ∧ now < entry.2 := by
  simp [purge]

theorem mem_keys_purge : nonce ∈ (cache.purge now).entries.map Prod.fst ↔ cache.Live nonce now := by
  simp only [List.mem_map, mem_purge, Live]
  constructor
  · rintro ⟨⟨_, expiry⟩, ⟨hmem, hlt⟩, rfl⟩
    exact ⟨expiry, hmem, hlt⟩
  · rintro ⟨expiry, hmem, hlt⟩
    exact ⟨(nonce, expiry), ⟨hmem, hlt⟩, rfl⟩

theorem consume_of_live (h : cache.Live nonce now) :
    cache.consume nonce now = (cache.purge now, false) := by
  simp only [consume]
  rw [dif_pos (mem_keys_purge.mpr h)]

theorem consume_of_not_live (h : ¬ cache.Live nonce now)
    (hroom : (cache.liveEntries now).length < cache.maxEntries) :
    cache.consume nonce now =
      ((cache.purge now).insert nonce now (mt mem_keys_purge.mp h), true) := by
  have hroom' : ¬ (cache.purge now).maxEntries ≤ (cache.purge now).entries.length :=
    not_le.mpr hroom
  simp only [consume]
  rw [dif_neg (mt mem_keys_purge.mp h), if_neg hroom']

theorem consume_cases (cache : NonceCache) (nonce : String) (now : Int) :
    cache.consume nonce now = (cache.purge now, false) ∨
      ∃ h : nonce ∉ (cache.purge now).entries.map Prod.fst,
        cache.consume nonce now = ((cache.purge now).insert nonce now h, true) := by
  simp only [consume]
  split
  · exact .inl rfl
  · next h =>
    split
    · exact .inl rfl
    · exact .inr ⟨h, rfl⟩

theorem consume_eq_true_iff :
    (cache.consume nonce now).2 = true ↔
      ¬ cache.Live nonce now ∧ (cache.liveEntries now).length < cache.maxEntries := by
  constructor
  · intro h
    refine ⟨fun hlive => ?_, ?_⟩
    · rw [consume_of_live hlive] at h
      cases h
    · by_contra hfull
      have hfull' : (cache.purge now).maxEntries ≤ (cache.purge now).entries.length :=
        not_lt.mp hfull
      simp only [consume, if_pos hfull'] at h
      split at h <;> cases h
  · rintro ⟨hlive, hroom⟩
    rw [consume_of_not_live hlive hroom]

theorem live_consume_iff (hle : now ≤ now') : (cache.consume nonce now).1.Live nonce' now' ↔
    cache.Live nonce' now' ∨
      (cache.consume nonce now).2 = true ∧ nonce' = nonce ∧ now' < now + cache.ttlSeconds := by
  have hpurge : (cache.purge now).Live nonce' now' ↔ cache.Live nonce' now' := by
    constructor
    · rintro ⟨expiry, hmem, hlt⟩
      exact ⟨expiry, (mem_purge.mp hmem).1, hlt⟩
    · rintro ⟨expiry, hmem, hlt⟩
      exact ⟨expiry, mem_purge.mpr ⟨hmem, lt_of_le_of_lt hle hlt⟩, hlt⟩
  obtain hc | ⟨_, hc⟩ := consume_cases cache nonce now
  · rw [hc, hpurge]
    simp
  · rw [hc, ← hpurge]
    constructor
    · rintro ⟨expiry, hmem, hlt⟩
      rcases List.mem_cons.mp hmem with heq | hmem
      · cases heq
        exact .inr ⟨rfl, rfl, hlt⟩
      · exact .inl ⟨expiry, hmem, hlt⟩
    · rintro (⟨expiry, hmem, hlt⟩ | ⟨-, rfl, hlt⟩)
      · exact ⟨expiry, List.mem_cons_of_mem _ hmem, hlt⟩
      · exact ⟨_, List.mem_cons_self, hlt⟩

@[simp] theorem ttlSeconds_consume : (cache.consume nonce now).1.ttlSeconds = cache.ttlSeconds := by
  obtain hc | ⟨_, hc⟩ := consume_cases cache nonce now <;>
    rw [hc] <;> rfl

@[simp] theorem maxEntries_consume : (cache.consume nonce now).1.maxEntries = cache.maxEntries := by
  obtain hc | ⟨_, hc⟩ := consume_cases cache nonce now <;>
    rw [hc] <;> rfl

end NonceCache

end Trackpal.Worker

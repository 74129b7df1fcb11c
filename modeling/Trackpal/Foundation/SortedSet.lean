import Trackpal.Foundation.FiniteMap
import Mathlib.Algebra.Order.Ring.Int

/-!
# Sorted sets under a key that expires

The members of a sorted set have integer scores, and its key may have an instant at which it
disappears. A sorted set that loses its last member loses its key. When the scores are instants,
a set that is pruned and whose expiry is moved on by every command still has all that a window
before the present can ask for.

Results:
1. `countFrom_le_zcard`: the cardinality bounds what is counted.
2. `outlives_expire`: a key whose expiry is moved on outlives its scores.
-/

namespace Trackpal.Foundation

structure SortedSet (μ : Type*) where
  scores : FiniteMap μ Int
  expiresAt : Option Int

namespace SortedSet

variable {μ : Type*}

/-- There is no key. -/
def empty : SortedSet μ := ⟨.empty, none⟩

/-- What a command finds at an instant. -/
def live (s : SortedSet μ) (now : Int) : SortedSet μ :=
  if s.expiresAt.any (· ≤ now) then empty else s

/-- The members whose scores are not in a range. -/
def outside (s : SortedSet μ) (low high : Int) : FiniteMap μ Int :=
  s.scores.keep fun score => !(decide (low ≤ score) && decide (score ≤ high))

def zremrangebyscore (s : SortedSet μ) (low high : Int) : SortedSet μ :=
  if (s.outside low high).size = 0 then empty else ⟨s.outside low high, s.expiresAt⟩

def zcard (s : SortedSet μ) : Nat := s.scores.size

/-- `EXPIRE`, which does nothing without a key. -/
def expire (s : SortedSet μ) (now seconds : Int) : SortedSet μ :=
  if s.zcard = 0 then s else { s with expiresAt := some (now + seconds) }

/-- `TTL`: `-2` without a key, and `-1` without an expiry. -/
def ttl (s : SortedSet μ) (now : Int) : Int :=
  if s.zcard = 0 then -2 else s.expiresAt.elim (-1) (· - now)

/-- The number of members with at least a score. -/
def countFrom (s : SortedSet μ) (score : Int) : Nat := (s.scores.keep (score ≤ ·)).size

/-- `ZADD` of one member. -/
def zadd [DecidableEq μ] (s : SortedSet μ) (member : μ) (score : Int) : SortedSet μ :=
  { s with scores := s.scores.put member score }

/-- No score is later than an instant. -/
def Past (s : SortedSet μ) (now : Int) : Prop :=
  ∀ member score, s.scores.get member = some score → score ≤ now

/-- The key is still there a window after every score. -/
def Outlives (s : SortedSet μ) (window : Int) : Prop :=
  ∀ member score, s.scores.get member = some score →
    ∃ expiry, s.expiresAt = some expiry ∧ score + window ≤ expiry

variable {s : SortedSet μ} {now now' low high score window : Int} {member : μ}

/-! ## What is counted -/

theorem mem_keep_iff {m : FiniteMap μ Int} {p : Int → Bool} :
    member ∈ (m.keep p).keys ↔ ∃ score, m.get member = some score ∧ p score = true := by
  rw [(m.keep p).mem_keys, FiniteMap.get_keep]
  cases m.get member with
  | none => simp
  | some score => cases hp : p score <;> simp [Option.filter, hp]

theorem get_ne_some {m : FiniteMap μ Int} (h : m.size = 0) : m.get member ≠ some score := by
  intro hget
  have hmem : member ∈ m.keys := by
    rw [m.mem_keys, hget]
    rfl
  rw [Finset.card_eq_zero.mp h] at hmem
  exact absurd hmem (Finset.notMem_empty member)

theorem get_outside : (s.outside low high).get member = some score ↔
    s.scores.get member = some score ∧ ¬(low ≤ score ∧ score ≤ high) := by
  unfold outside
  rw [FiniteMap.get_keep, Option.filter_eq_some_iff]
  simp [imp_iff_not_or]

theorem countFrom_le_zcard : s.countFrom score ≤ s.zcard := by
  refine Finset.card_le_card fun member hmember => ?_
  obtain ⟨found, hget, -⟩ := mem_keep_iff.mp hmember
  rw [s.scores.mem_keys, hget]
  rfl

theorem countFrom_eq_zero (h : ∀ member found, s.scores.get member = some found → found < score) :
    s.countFrom score = 0 := by
  refine Finset.card_eq_zero.mpr (Finset.eq_empty_of_forall_notMem fun member hmember => ?_)
  obtain ⟨found, hget, hle⟩ := mem_keep_iff.mp hmember
  exact not_lt.mpr (of_decide_eq_true hle) (h member found hget)

@[simp] theorem countFrom_empty : (empty : SortedSet μ).countFrom score = 0 :=
  countFrom_eq_zero nofun

/-- A key that has disappeared had only scores from before the window. -/
theorem countFrom_live (h : s.Outlives window) (hscore : now - window < score) :
    (s.live now).countFrom score = s.countFrom score := by
  unfold live
  split
  · next hexpired =>
    obtain ⟨expiry, hexpiry, hle⟩ := (Option.any_eq_true _ _).mp hexpired
    rw [countFrom_empty]
    refine (countFrom_eq_zero fun member found hget => ?_).symm
    obtain ⟨expiry', hexpiry', hfound⟩ := h member found hget
    obtain rfl : expiry = expiry' := Option.some.inj (hexpiry.symm.trans hexpiry')
    have hpast : expiry ≤ now := of_decide_eq_true hle
    omega
  · rfl

/-- What is pruned has lower scores than what is counted. -/
theorem countFrom_zremrangebyscore (h : high < score) :
    (s.zremrangebyscore low high).countFrom score = s.countFrom score := by
  have hleft : ∀ {member : μ} found, s.scores.get member = some found → score ≤ found →
      (s.outside low high).get member = some found :=
    fun found hget hle => get_outside.mpr ⟨hget, fun hin => by omega⟩
  unfold zremrangebyscore
  split
  · next hnone =>
    rw [countFrom_empty]
    refine (countFrom_eq_zero fun member found hget => ?_).symm
    by_contra hle
    exact get_ne_some hnone (hleft found hget (not_lt.mp hle))
  · refine congrArg Finset.card (Finset.ext fun member => ?_)
    constructor
    · intro hmember
      obtain ⟨found, hget, hle⟩ := mem_keep_iff.mp hmember
      exact mem_keep_iff.mpr ⟨found, (get_outside.mp hget).1, hle⟩
    · intro hmember
      obtain ⟨found, hget, hle⟩ := mem_keep_iff.mp hmember
      exact mem_keep_iff.mpr ⟨found, hleft found hget (of_decide_eq_true hle), hle⟩

@[simp] theorem countFrom_expire {seconds : Int} :
    (s.expire now seconds).countFrom score = s.countFrom score := by
  unfold expire
  split <;> rfl

/-- A new member counts once. -/
theorem countFrom_zadd [DecidableEq μ] {added : Int} (hnew : s.scores.get member = none) :
    (s.zadd member added).countFrom score = s.countFrom score + if score ≤ added then 1 else 0 := by
  have hold : member ∉ (s.scores.keep (score ≤ ·)).keys := by
    intro hmember
    obtain ⟨found, hget, -⟩ := mem_keep_iff.mp hmember
    rw [hnew] at hget
    cases hget
  have hkeys : ((s.zadd member added).scores.keep (score ≤ ·)).keys =
      if score ≤ added then insert member (s.scores.keep (score ≤ ·)).keys
      else (s.scores.keep (score ≤ ·)).keys := by
    ext other
    rw [mem_keep_iff, zadd]
    by_cases hother : other = member
    · subst hother
      by_cases hle : score ≤ added <;> simp [hle, hold]
    · rw [FiniteMap.get_put_of_ne hother, ← mem_keep_iff]
      by_cases hle : score ≤ added <;> simp [hle, hother]
  unfold countFrom FiniteMap.size
  rw [hkeys]
  split
  · rw [Finset.card_insert_of_notMem hold]
  · rfl

/-! ## The scores are past, and the key outlives them -/

theorem past_empty : (empty : SortedSet μ).Past now := nofun

theorem outlives_empty : (empty : SortedSet μ).Outlives window := nofun

theorem Past.mono (h : s.Past now) (hle : now ≤ now') : s.Past now' :=
  fun member score hget => (h member score hget).trans hle

theorem Past.live (h : s.Past now) : (s.live now').Past now := by
  unfold SortedSet.live
  split
  · exact past_empty
  · exact h

theorem Past.zremrangebyscore (h : s.Past now) : (s.zremrangebyscore low high).Past now := by
  unfold SortedSet.zremrangebyscore
  split
  · exact past_empty
  · intro member score hget
    exact h member score (get_outside.mp hget).1

theorem Past.zadd [DecidableEq μ] (h : s.Past now) : (s.zadd member now).Past now := by
  intro other score hget
  by_cases hother : other = member
  · subst hother
    rw [SortedSet.zadd, FiniteMap.get_put_self] at hget
    exact (Option.some.inj hget).symm.le
  · rw [SortedSet.zadd, FiniteMap.get_put_of_ne hother] at hget
    exact h other score hget

theorem Past.expire {seconds : Int} (h : s.Past now) : (s.expire now' seconds).Past now := by
  unfold SortedSet.expire
  split
  · exact h
  · exact h

theorem outlives_expire (h : s.Past now) : (s.expire now window).Outlives window := by
  unfold expire
  split
  · next hnone => exact fun member score hget => absurd hget (get_ne_some hnone)
  · intro member score hget
    exact ⟨now + window, rfl, Int.add_le_add_right (h member score hget) window⟩

end SortedSet

end Trackpal.Foundation

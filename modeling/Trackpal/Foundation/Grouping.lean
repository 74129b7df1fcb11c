import Mathlib.Data.List.Chain

/-!
# Grouping consecutive entries

Entries with a key, and the groups of those that follow each other with the same key. A list
of groups is written as its entries, one by one; grouping them gives the list back exactly
when no two groups that follow each other have the same key.

Results:
1. `flatMap_filter_perm`: the entries of each key, key by key, are the entries.
2. `mem_of_collect`, `collect_map`: the values that are collected under a key are those of its
   entries, and what is read of the values does not change the groups.
-/

namespace Trackpal.Foundation

variable {κ ν : Type*}

def entries (groups : List (κ × List ν)) : List (κ × ν) :=
  groups.flatMap fun g => g.2.map (g.1, ·)

/-- Groups that follow each other have different keys. -/
def Separated (groups : List (κ × List ν)) : Prop := (groups.map Prod.fst).IsChain (· ≠ ·)

variable [DecidableEq κ]

/-- Put values in front, into the first group if that has their key. -/
def join (key : κ) (values : List ν) : List (κ × List ν) → List (κ × List ν)
  | [] => [(key, values)]
  | (next, others) :: groups =>
    if key = next then (next, values ++ others) :: groups
    else (key, values) :: (next, others) :: groups

def group : List (κ × ν) → List (κ × List ν)
  | [] => []
  | (key, value) :: rest => join key [value] (group rest)

variable {key : κ} {values : List ν} {groups : List (κ × List ν)} {rest : List (κ × ν)}

namespace GroupingLemmas

theorem separated_join (h : Separated groups) : Separated (join key values groups) := by
  unfold Separated at h ⊢
  cases groups with
  | nil => exact List.isChain_singleton _
  | cons first groups =>
    obtain ⟨next, others⟩ := first
    dsimp only [join]
    split
    · exact h
    · next hne => exact List.isChain_cons_cons.mpr ⟨hne, h⟩

theorem join_append (key : κ) (first : ν) (values : List ν) (groups : List (κ × List ν)) :
    join key [first] (join key values groups) = join key (first :: values) groups := by
  cases groups with
  | nil => exact if_pos rfl
  | cons next groups =>
    obtain ⟨next, others⟩ := next
    by_cases heq : key = next
    · simp only [join, if_pos heq, List.nil_append, List.cons_append]
    · simp only [join, if_neg heq, if_pos, List.singleton_append]

theorem group_map_append (hne : values ≠ []) :
    group (values.map (key, ·) ++ rest) = join key values (group rest) := by
  induction values with
  | nil => exact absurd rfl hne
  | cons value values ih =>
    cases values with
    | nil => rfl
    | cons next values =>
      show join key [value] (group ((next :: values).map (key, ·) ++ rest)) = _
      rw [ih (List.cons_ne_nil _ _), join_append]

theorem length_join_le : (join key values groups).length ≤ groups.length + 1 := by
  cases groups with
  | nil => exact Nat.le_refl _
  | cons next groups =>
    obtain ⟨next, others⟩ := next
    dsimp only [join]
    split
    · exact Nat.le_succ _
    · exact Nat.le_refl _

theorem length_group_entries_le (hne : ∀ g ∈ groups, g.2 ≠ []) :
    (group (entries groups)).length ≤ groups.length := by
  induction groups with
  | nil => exact Nat.le_refl _
  | cons first groups ih =>
    show (group (first.2.map (first.1, ·) ++ entries groups)).length ≤ groups.length + 1
    rw [group_map_append (hne first List.mem_cons_self)]
    have hrest := ih fun g hg => hne g (List.mem_cons_of_mem _ hg)
    exact Nat.le_trans length_join_le (Nat.succ_le_succ hrest)

end GroupingLemmas

open GroupingLemmas

/-- Groups that follow each other have different keys. -/
theorem separated_group : Separated (group rest) := by
  induction rest with
  | nil => exact List.isChain_nil
  | cons entry rest ih => exact separated_join ih

theorem group_entries (hne : ∀ g ∈ groups, g.2 ≠ []) (h : Separated groups) :
    group (entries groups) = groups := by
  induction groups with
  | nil => rfl
  | cons first groups ih =>
    obtain ⟨hhead, htail⟩ := List.isChain_cons.mp h
    show group (first.2.map (first.1, ·) ++ entries groups) = first :: groups
    rw [group_map_append (hne first List.mem_cons_self),
      ih (fun g hg => hne g (List.mem_cons_of_mem _ hg)) htail]
    cases groups with
    | nil => rfl
    | cons next groups => exact if_neg (hhead next.1 rfl)

/-- Grouping that gives as many groups as there were gives the groups back. -/
theorem group_entries_of_length (hne : ∀ g ∈ groups, g.2 ≠ [])
    (h : (group (entries groups)).length = groups.length) : group (entries groups) = groups := by
  induction groups with
  | nil => rfl
  | cons first groups ih =>
    have hne' : ∀ g ∈ groups, g.2 ≠ [] := fun g hg => hne g (List.mem_cons_of_mem _ hg)
    have hgroup : group (entries (first :: groups)) =
        join first.1 first.2 (group (entries groups)) :=
      group_map_append (hne first List.mem_cons_self)
    rw [hgroup] at h ⊢
    have hle := length_group_entries_le hne'
    -- a group that is joined to the next one is lost
    cases hrest : group (entries groups) with
    | nil =>
      rw [hrest] at h
      have hnil : groups = [] := List.length_eq_zero_iff.mp (Nat.succ.inj h).symm
      rw [hnil]
      rfl
    | cons next others =>
      rw [hrest] at h hle
      obtain ⟨next, values⟩ := next
      dsimp only [join] at h ⊢
      split at h
      · rw [List.length_cons, List.length_cons] at h
        rw [List.length_cons] at hle
        omega
      · next hkey =>
        have hih := ih hne' (by rw [hrest]; exact Nat.succ.inj h)
        rw [if_neg hkey, ← hrest, hih]

theorem flatMap_filter_perm {ρ : Type*} {keyOf : ρ → κ} {keys : List κ} {rows : List ρ}
    (hnodup : keys.Nodup) (hall : ∀ row ∈ rows, keyOf row ∈ keys) :
    (keys.flatMap fun key => rows.filter fun row => keyOf row == key).Perm rows := by
  induction keys generalizing rows with
  | nil =>
    rw [List.eq_nil_iff_forall_not_mem.mpr fun row hrow => List.not_mem_nil (hall row hrow)]
    exact List.Perm.refl _
  | cons key keys ih =>
    obtain ⟨hfresh, hnodup⟩ := List.nodup_cons.mp hnodup
    have hrest : (keys.flatMap fun k => rows.filter fun row => keyOf row == k) =
        keys.flatMap fun k => (rows.filter fun row => !(keyOf row == key)).filter
          fun row => keyOf row == k := by
      refine List.flatMap_congr fun k hk => ?_
      rw [List.filter_filter]
      refine List.filter_congr fun row _ => ?_
      cases hkey : keyOf row == k with
      | false => rfl
      | true =>
        have hne : (keyOf row == key) = false :=
          beq_false_of_ne fun heq => hfresh (heq ▸ (beq_iff_eq.mp hkey).symm ▸ hk)
        rw [hne]
        rfl
    have hothers : ∀ row ∈ rows.filter fun row => !(keyOf row == key), keyOf row ∈ keys := by
      intro row hrow
      obtain ⟨hmem, hne⟩ := List.mem_filter.mp hrow
      rw [Bool.not_eq_true', beq_eq_false_iff_ne] at hne
      exact (List.mem_cons.mp (hall row hmem)).resolve_left hne
    rw [List.flatMap_cons, hrest]
    exact ((ih hnodup hothers).append_left _).trans (List.filter_append_perm _ rows)

/-! ## Entries under their keys -/

/-- Put a value behind those of its key, or behind all groups. -/
def addTo (key : κ) (value : ν) : List (κ × List ν) → List (κ × List ν)
  | [] => [(key, [value])]
  | (next, values) :: groups =>
    if next = key then (next, values ++ [value]) :: groups
    else (next, values) :: addTo key value groups

/-- The values of each key, the keys in the order of their first entries. -/
def collect (rows : List (κ × ν)) : List (κ × List ν) :=
  rows.foldl (fun groups row => addTo row.1 row.2 groups) []

namespace GroupingLemmas

variable {value : ν}

theorem keys_addTo {other : κ} (hne : other ≠ key) :
    other ∈ (addTo key value groups).map Prod.fst ↔ other ∈ groups.map Prod.fst := by
  induction groups with
  | nil => simp [addTo, hne]
  | cons first groups ih =>
    rw [addTo]
    split
    · rfl
    · rw [List.map_cons, List.map_cons, List.mem_cons, List.mem_cons, ih]

theorem nodup_addTo (h : (groups.map Prod.fst).Nodup) :
    ((addTo key value groups).map Prod.fst).Nodup := by
  induction groups with
  | nil => simp [addTo]
  | cons first groups ih =>
    obtain ⟨hfirst, hrest⟩ := List.nodup_cons.mp h
    rw [addTo]
    split
    · exact List.nodup_cons.mpr ⟨hfirst, hrest⟩
    next hne => exact List.nodup_cons.mpr ⟨fun hmem => hfirst ((keys_addTo hne).mp hmem), ih hrest⟩

theorem mem_addTo {g : κ × List ν} {v : ν} (hg : g ∈ addTo key value groups) (hv : v ∈ g.2) :
    (g.1, v) = (key, value) ∨ ∃ g' ∈ groups, g'.1 = g.1 ∧ v ∈ g'.2 := by
  induction groups with
  | nil =>
    obtain rfl := List.mem_singleton.mp hg
    obtain rfl := List.mem_singleton.mp hv
    exact .inl rfl
  | cons first groups ih =>
    rw [addTo] at hg
    split at hg
    next heq =>
      obtain rfl | hg := List.mem_cons.mp hg
      · obtain hv | hv := List.mem_append.mp hv
        · exact .inr ⟨first, List.mem_cons_self, rfl, hv⟩
        · obtain rfl := List.mem_singleton.mp hv
          exact .inl (congrArg (·, v) heq)
      · exact .inr ⟨g, List.mem_cons_of_mem _ hg, rfl, hv⟩
    · obtain rfl | hg := List.mem_cons.mp hg
      · exact .inr ⟨_, List.mem_cons_self, rfl, hv⟩
      · obtain heq | ⟨g', hg', heq, hv⟩ := ih hg
        · exact .inl heq
        · exact .inr ⟨g', List.mem_cons_of_mem _ hg', heq, hv⟩

theorem addTo_map {μ : Type*} (f : ν → μ) :
    addTo key (f value) (groups.map fun g => (g.1, g.2.map f)) =
      (addTo key value groups).map fun g => (g.1, g.2.map f) := by
  induction groups with
  | nil => rfl
  | cons first groups ih =>
    rw [List.map_cons, addTo, addTo]
    split
    · rw [List.map_cons, List.map_append]
      rfl
    · rw [List.map_cons, ih]

end GroupingLemmas

variable {rows : List (κ × ν)}

theorem nodup_collect : ((collect rows).map Prod.fst).Nodup := by
  unfold collect
  induction rows using List.reverseRecOn with
  | nil => exact List.nodup_nil
  | append_singleton rows row ih =>
    rw [List.foldl_append]
    exact nodup_addTo ih

theorem mem_of_collect {g : κ × List ν} {v : ν} (hg : g ∈ collect rows) (hv : v ∈ g.2) :
    (g.1, v) ∈ rows := by
  unfold collect at hg
  induction rows using List.reverseRecOn generalizing g with
  | nil => nomatch hg
  | append_singleton rows row ih =>
    rw [List.foldl_append] at hg
    obtain heq | ⟨g', hg', heq, hv⟩ := mem_addTo hg hv
    · exact List.mem_append_right _ (heq ▸ List.mem_singleton_self _)
    · exact List.mem_append_left _ (heq ▸ ih hg' hv)

theorem collect_map {μ : Type*} (f : ν → μ) :
    collect (rows.map fun row => (row.1, f row.2)) =
      (collect rows).map fun g => (g.1, g.2.map f) := by
  unfold collect
  induction rows using List.reverseRecOn with
  | nil => rfl
  | append_singleton rows row ih =>
    rw [List.map_append, List.foldl_append, List.foldl_append, ih]
    exact addTo_map f

end Trackpal.Foundation

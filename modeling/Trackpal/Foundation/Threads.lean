import Mathlib.Data.List.ReduceOption

/-!
# Threads

The threads of a concurrent system, by number. A thread is started under the next number;
the number of a thread that has ended stays taken.

Results:
1. `running_spawn`, `running_put`: the running threads after one has started, has moved or has
   ended.
2. `forall_put`, `forall_spawn`: what holds of every thread after one has moved or has started.
-/

namespace Trackpal.Foundation

structure Threads (π : Type*) where
  list : List (Option π)
deriving DecidableEq, Repr

namespace Threads

variable {π : Type*} {ts : Threads π} {pid other : Nat} {p q : π} {next : Option π}

/-- No thread has been started. -/
def none : Threads π := ⟨[]⟩

/-- Where the thread `pid` stands. -/
def get (ts : Threads π) (pid : Nat) : Option π := (ts.list[pid]?).join

/-- The threads that have not ended. -/
def running (ts : Threads π) : List π := ts.list.reduceOption

/-- The thread `pid` has moved, or has ended. -/
def put (ts : Threads π) (pid : Nat) (next : Option π) : Threads π := ⟨ts.list.set pid next⟩

/-- A thread is started. -/
def spawn (ts : Threads π) (p : π) : Threads π := ⟨ts.list ++ [some p]⟩

/-- Change every thread. -/
def map (ts : Threads π) (f : π → π) : Threads π := ⟨ts.list.map (Option.map f)⟩

theorem mem_running : p ∈ ts.running ↔ ∃ pid, ts.get pid = some p := by
  unfold running get
  rw [List.reduceOption_mem_iff, List.mem_iff_getElem?]
  refine exists_congr fun pid => ?_
  cases hpid : ts.list[pid]? with
  | none => simp
  | some thread => cases thread <;> simp

theorem mem_running_of_get (h : ts.get pid = some p) : p ∈ ts.running := mem_running.mpr ⟨pid, h⟩

theorem lt_of_get (h : ts.get pid = some p) : pid < ts.list.length := by
  unfold get at h
  rcases Nat.lt_or_ge pid ts.list.length with hlt | hge
  · exact hlt
  · rw [List.getElem?_eq_none hge] at h
    cases h

theorem get_put_self (h : ts.get pid = some p) : (ts.put pid next).get pid = next := by
  unfold put get
  rw [List.getElem?_set_self (lt_of_get h)]
  rfl

theorem get_put_of_ne (h : other ≠ pid) : (ts.put pid next).get other = ts.get other := by
  unfold put get
  rw [List.getElem?_set_ne (Ne.symm h)]

theorem get_map {f : π → π} : (ts.map f).get pid = (ts.get pid).map f := by
  unfold map get
  rw [List.getElem?_map]
  cases hpid : ts.list[pid]? with
  | none => rfl
  | some thread => cases thread <;> rfl

/-- A thread is one of the old ones, or the one that was started. -/
theorem get_spawn :
    (ts.spawn p).get pid = some q ↔ ts.get pid = some q ∨ pid = ts.list.length ∧ q = p := by
  unfold spawn get
  rcases Nat.lt_trichotomy pid ts.list.length with hlt | heq | hgt
  · rw [List.getElem?_append_left hlt]
    simp [Nat.ne_of_lt hlt]
  · subst heq
    simp [eq_comm]
  · have hlen : (ts.list ++ [some p]).length ≤ pid := by
      rw [List.length_append]
      exact hgt
    rw [List.getElem?_eq_none hlen, List.getElem?_eq_none (Nat.le_of_lt hgt)]
    simp [Nat.ne_of_gt hgt]

/-! ## The running threads -/

theorem running_spawn : (ts.spawn p).running = ts.running ++ [p] := by
  show (ts.list ++ [some p]).reduceOption = _
  rw [List.reduceOption_append]
  rfl

theorem running_put (h : ts.get pid = some p) :
    ∃ before after, ts.running = before ++ p :: after ∧
      ∀ next, (ts.put pid next).running = before ++ next.toList ++ after := by
  have hlt := lt_of_get h
  have hthread : ts.list[pid] = some p := by
    have hsome : ts.list[pid]? = some (some p) := Option.join_eq_some_iff.mp h
    rw [List.getElem?_eq_getElem hlt] at hsome
    exact Option.some.inj hsome
  refine ⟨(ts.list.take pid).reduceOption, (ts.list.drop (pid + 1)).reduceOption, ?_,
    fun next => ?_⟩
  · show ts.list.reduceOption = _
    conv_lhs => rw [← List.take_append_drop pid ts.list, List.drop_eq_getElem_cons hlt, hthread]
    rw [List.reduceOption_append, List.reduceOption_cons_of_some]
  · show (ts.list.set pid next).reduceOption = _
    rw [List.set_eq_take_append_cons_drop, if_pos hlt, List.reduceOption_append]
    cases next with
    | none => simp
    | some q => simp

/-! ## Every thread -/

theorem forall_put {P : π → Prop} (h : ∀ q ∈ ts.running, P q) (hnext : ∀ q, next = some q → P q) :
    ∀ q ∈ (ts.put pid next).running, P q := by
  intro q hq
  have hmem : some q ∈ ts.list.set pid next := List.reduceOption_mem_iff.mp hq
  rcases List.mem_or_eq_of_mem_set hmem with hold | hnew
  · exact h q (List.reduceOption_mem_iff.mpr hold)
  · exact hnext q hnew.symm

theorem forall_spawn {P : π → Prop} (h : ∀ q ∈ ts.running, P q) (hp : P p) :
    ∀ q ∈ (ts.spawn p).running, P q := by
  intro q hq
  obtain ⟨pid, hget⟩ := mem_running.mp hq
  rcases get_spawn.mp hget with hold | ⟨-, rfl⟩
  · exact h q (mem_running_of_get hold)
  · exact hp

theorem forall_map {P : π → Prop} {f : π → π} (h : ∀ q ∈ ts.running, P (f q)) :
    ∀ q ∈ (ts.map f).running, P q := by
  intro q hq
  obtain ⟨pid, hget⟩ := mem_running.mp hq
  rw [get_map] at hget
  obtain ⟨p, hp, rfl⟩ := Option.map_eq_some_iff.mp hget
  exact h p (mem_running_of_get hp)

end Threads

end Trackpal.Foundation

import Mathlib.Data.List.Basic

/-!
# Histories

A history is a list of what happened, the latest first. A property of an entry can look at the
entries before it.

Results:
1. `Everywhere.mono_of_mem`: the rule of consequence.
2. `Everywhere.append`, `everywhere_of_subset`: how a history that has a property everywhere is
   made.
-/

namespace Trackpal.Foundation

variable {α : Type*}

def Everywhere (p : α → List α → Prop) : List α → Prop
  | [] => True
  | entry :: earlier => p entry earlier ∧ Everywhere p earlier

instance Everywhere.decidable {p : α → List α → Prop}
    [∀ entry earlier, Decidable (p entry earlier)] :
    (history : List α) → Decidable (Everywhere p history)
  | [] => .isTrue trivial
  | entry :: earlier => @instDecidableAnd (p entry earlier) (Everywhere p earlier) _
      (Everywhere.decidable earlier)

variable {p q : α → List α → Prop} {history : List α}

theorem everywhere_iff : Everywhere p history ↔
    ∀ later entry earlier, history = later ++ entry :: earlier → p entry earlier := by
  induction history with
  | nil => simp [Everywhere]
  | cons head rest ih =>
    constructor
    · rintro ⟨hhead, hrest⟩ later entry earlier heq
      cases later with
      | nil =>
        cases heq
        exact hhead
      | cons first later =>
        obtain ⟨rfl, hsplit⟩ := List.cons.inj heq
        exact ih.mp hrest later entry earlier hsplit
    · intro h
      refine ⟨h [] head rest rfl, ih.mpr fun later entry earlier heq => ?_⟩
      exact h (head :: later) entry earlier (by rw [heq, List.cons_append])

theorem Everywhere.mono_of_mem (h : Everywhere p history)
    (hpq : ∀ entry ∈ history, ∀ earlier, p entry earlier → q entry earlier) :
    Everywhere q history := by
  induction history with
  | nil => trivial
  | cons head rest ih =>
    exact ⟨hpq head List.mem_cons_self rest h.1,
      ih h.2 fun entry hentry => hpq entry (List.mem_cons_of_mem head hentry)⟩

theorem Everywhere.append {entries : List α} (h : Everywhere p history)
    (hentries : ∀ entry ∈ entries, ∀ earlier, p entry earlier) :
    Everywhere p (entries ++ history) := by
  induction entries with
  | nil => exact h
  | cons entry entries ih =>
    exact ⟨hentries entry List.mem_cons_self _,
      ih fun other hother => hentries other (List.mem_cons_of_mem entry hother)⟩

theorem everywhere_of_subset
    (h : ∀ entry ∈ history, ∀ earlier, earlier ⊆ history → p entry earlier) :
    Everywhere p history := by
  refine everywhere_iff.mpr fun later entry earlier heq => ?_
  refine h entry ?_ earlier fun other hother => ?_
  · rw [heq]
    exact List.mem_append_right later List.mem_cons_self
  · rw [heq]
    exact List.mem_append_right later (List.mem_cons_of_mem entry hother)

end Trackpal.Foundation

import Mathlib.Data.List.Nodup
import Trackpal.Foundation.Text

/-!
# Numbered menus

A menu shows options, each under a text. An answer that is the text of an option should do what the
option says, and any other answer nothing. The entries of a list are shown under their numbers, and
an answer may be read more leniently than they are written.

Results:
1. `pick_of_numbered`: the number of an entry picks the entry.
2. `answers_pick_iff`: the answers that a lenient reading gets wrong.
-/

namespace Trackpal.Foundation

variable {α ω : Type*}

/-! ## Numbers -/

/-- The digits in front. -/
def leadingNat (text : List Char) : Option Nat :=
  let digits := text.takeWhile Char.isDigit
  if digits = [] then none else some (Nat.ofDigitChars 10 digits 0)

/-- `parseInt` with the base 10; `none` is NaN. -/
def leadingInt (text : String) : Option Int :=
  match text.toList.dropWhile isBlank with
  | '-' :: rest => (leadingNat rest).map fun n => -(n : Int)
  | '+' :: rest => (leadingNat rest).map Int.ofNat
  | rest => (leadingNat rest).map Int.ofNat

/-! ## Options -/

def numbered (entries : List α) : List (String × α) :=
  entries.zipIdx.map fun (a, i) => (toString (i + 1), a)

/-- The entry that an answer picks, where the first number stands for the entry at `start`. -/
def pickNumbered (entries : List α) (start : Nat) (text : String) : Option α :=
  match leadingInt text with
  | some number => if 0 < number then entries[start + number.toNat - 1]? else none
  | none => none

def Answers (options : List (String × ω)) (idle : ω) (text : String) (result : ω) : Prop :=
  (∀ w, (text, w) ∈ options → result = w) ∧ ((∀ w, (text, w) ∉ options) → result = idle)

def numberedOptions (accept : α → ω) (entries : List α) : List (String × ω) :=
  (numbered entries).map fun entry => (entry.1, accept entry.2)

/-- An answer picks an entry that is not shown under it. -/
def strays (entries visible : List α) (start : Nat) (text : String) : Bool :=
  (pickNumbered entries start text).isSome && text ∉ (numbered visible).map Prod.fst

variable {entries visible : List α} {start : Nat} {text : String} {a : α} {w result idle : ω}
  {options nav : List (String × ω)} {accept : α → ω}

theorem toString_injective : Function.Injective (toString : Nat → String) := by
  intro m n h
  have hdigits := congrArg String.toList h
  simp only [Nat.toString_eq_repr, Nat.toList_repr] at hdigits
  have hvalues := congrArg (Nat.ofDigitChars 10 · 0) hdigits
  simpa using hvalues

namespace MenusLemmas

theorem isBlank_of_isDigit {c : Char} (h : c.isDigit = true) :
    isBlank c = false ∧ c ≠ '-' ∧ c ≠ '+' := by
  obtain ⟨hfirst, hlast⟩ : 48 ≤ c.toNat ∧ c.toNat ≤ 57 := by
    simpa [Char.isDigit, UInt32.le_iff_toNat_le] using h
  refine ⟨?_, ?_, ?_⟩
  · unfold isBlank
    simp only [Bool.or_eq_false_iff, Bool.and_eq_false_iff, decide_eq_false_iff_not]
    omega
  · rintro rfl
    exact absurd hfirst (by decide)
  · rintro rfl
    exact absurd hfirst (by decide)

end MenusLemmas

open MenusLemmas

theorem leadingInt_toString {n : Nat} : leadingInt (toString n) = some (n : Int) := by
  have hall : ∀ c ∈ Nat.toDigits 10 n, c.isDigit = true := fun c hc =>
    Nat.isDigit_of_mem_toDigits (by decide) (by decide) hc
  have hread : leadingNat (Nat.toDigits 10 n) = some n := by
    unfold leadingNat
    dsimp only
    rw [List.takeWhile_eq_self_iff.mpr hall, if_neg Nat.toDigits_ne_nil,
      Nat.ofDigitChars_ten_toDigits]
  have hlist : (toString n).toList = Nat.toDigits 10 n := by
    rw [Nat.toString_eq_repr, Nat.toList_repr]
  unfold leadingInt
  rw [hlist]
  cases hdigits : Nat.toDigits 10 n with
  | nil => exact absurd hdigits Nat.toDigits_ne_nil
  | cons c rest =>
    obtain ⟨hblank, hminus, hplus⟩ := isBlank_of_isDigit (hall c (by rw [hdigits]; exact .head _))
    rw [hdigits] at hread
    rw [List.dropWhile_cons_of_neg (by rw [hblank]; exact Bool.false_ne_true)]
    split
    · next heq => exact absurd (List.cons.inj heq).1 hminus
    · next heq => exact absurd (List.cons.inj heq).1 hplus
    · rw [hread]
      rfl

theorem mem_numbered : (text, a) ∈ numbered entries ↔
    ∃ i, text = toString (i + 1) ∧ entries[i]? = some a := by
  unfold numbered
  rw [List.mem_map]
  constructor
  · rintro ⟨⟨b, i⟩, hmem, heq⟩
    obtain ⟨rfl, rfl⟩ := Prod.mk.inj heq
    exact ⟨i, rfl, List.mk_mem_zipIdx_iff_getElem?.mp hmem⟩
  · rintro ⟨i, rfl, hget⟩
    exact ⟨(a, i), List.mk_mem_zipIdx_iff_getElem?.mpr hget, rfl⟩

theorem mem_numbered_toString {k : Nat} : (toString k, a) ∈ numbered entries ↔
    0 < k ∧ entries[k - 1]? = some a := by
  rw [mem_numbered]
  constructor
  · rintro ⟨i, hi, hget⟩
    obtain rfl := toString_injective hi
    exact ⟨by omega, hget⟩
  · rintro ⟨hk, hget⟩
    exact ⟨k - 1, congrArg toString (by omega), hget⟩

theorem pickNumbered_nil : pickNumbered ([] : List α) start text = none := by
  unfold pickNumbered
  split
  · split <;> rfl
  · rfl

theorem mem_of_pickNumbered (h : pickNumbered entries start text = some a) : a ∈ entries := by
  unfold pickNumbered at h
  split at h
  · split at h
    · exact List.mem_of_getElem? h
    · cases h
  · cases h

theorem pick_of_numbered (hvisible : visible <+: entries.drop start)
    (h : (text, a) ∈ numbered visible) : pickNumbered entries start text = some a := by
  obtain ⟨i, rfl, hget⟩ := mem_numbered.mp h
  unfold pickNumbered
  rw [leadingInt_toString]
  dsimp only
  rw [if_pos (by omega)]
  have hplace : start + ((i + 1 : Nat) : Int).toNat - 1 = start + i := by omega
  rw [hplace, ← List.getElem?_drop]
  obtain ⟨rest, hentries⟩ := hvisible
  rw [← hentries, List.getElem?_append_left (List.getElem?_eq_some_iff.mp hget).1]
  exact hget

theorem mem_numberedOptions : (text, w) ∈ numberedOptions accept visible ↔
    ∃ a, (text, a) ∈ numbered visible ∧ accept a = w := by
  unfold numberedOptions
  rw [List.mem_map]
  constructor
  · rintro ⟨⟨key, a⟩, hmem, heq⟩
    obtain ⟨rfl, rfl⟩ := Prod.mk.inj heq
    exact ⟨a, hmem, rfl⟩
  · rintro ⟨a, hmem, rfl⟩
    exact ⟨(text, a), hmem, rfl⟩

theorem answers_of_not_mem (h : ∀ w, (text, w) ∉ options) :
    Answers options idle text result ↔ result = idle :=
  ⟨fun hanswers => hanswers.2 h, fun hresult => ⟨fun w hmem => absurd hmem (h w), fun _ => hresult⟩⟩

theorem answers_of_mem (hmem : (text, w) ∈ options)
    (hunique : ∀ w', (text, w') ∈ options → w' = w) :
    Answers options idle text result ↔ result = w :=
  ⟨fun hanswers => hanswers.1 w hmem, fun hresult =>
    ⟨fun w' hmem' => hresult.trans (hunique w' hmem').symm, fun hnone => absurd hmem (hnone w)⟩⟩

theorem answers_of_nodup (hnodup : (options.map Prod.fst).Nodup) (hmem : (text, w) ∈ options) :
    Answers options idle text result ↔ result = w :=
  answers_of_mem hmem fun _ hmem' =>
    (Prod.mk.inj (List.inj_on_of_nodup_map hnodup hmem' hmem rfl)).2

theorem answers_pick_iff (hvisible : visible <+: entries.drop start)
    (hnav : ∀ w, (text, w) ∉ nav)
    (hresult : result = (pickNumbered entries start text).elim idle accept)
    (haccept : ∀ a, accept a ≠ idle) :
    Answers (numberedOptions accept visible ++ nav) idle text result ↔
      strays entries visible start text = false := by
  have hmem : ∀ w, (text, w) ∈ numberedOptions accept visible ++ nav ↔
      ∃ a, (text, a) ∈ numbered visible ∧ accept a = w := fun w => by
    rw [List.mem_append, or_iff_left (hnav w), mem_numberedOptions]
  unfold strays
  by_cases hshown : ∃ a, (text, a) ∈ numbered visible
  · obtain ⟨a, ha⟩ := hshown
    have hpick := pick_of_numbered hvisible ha
    have hkey : text ∈ (numbered visible).map Prod.fst := List.mem_map.mpr ⟨_, ha, rfl⟩
    refine (answers_of_mem ((hmem _).mpr ⟨a, ha, rfl⟩) fun w' hw' => ?_).trans
      (iff_of_true (by rw [hresult, hpick]; rfl) (by simp [hkey]))
    obtain ⟨b, hb, rfl⟩ := (hmem w').mp hw'
    rw [Option.some.inj ((pick_of_numbered hvisible hb).symm.trans hpick)]
  · have hkey : text ∉ (numbered visible).map Prod.fst := fun hmem => by
      obtain ⟨⟨key, a⟩, ha, rfl⟩ := List.mem_map.mp hmem
      exact hshown ⟨a, ha⟩
    rw [answers_of_not_mem fun w hw => hshown (((hmem w).mp hw).imp fun _ h => h.1),
      decide_eq_true hkey, Bool.and_true, hresult]
    cases pickNumbered entries start text with
    | none => exact iff_of_true rfl rfl
    | some a => exact iff_of_false (haccept a) Bool.false_ne_true.symm

theorem answers_nav (hkey : ∀ a, (text, a) ∉ numbered visible) :
    Answers (numberedOptions accept visible ++ nav) idle text result ↔
      Answers nav idle text result := by
  have hmem w : (text, w) ∈ numberedOptions accept visible ++ nav ↔ (text, w) ∈ nav := by
    rw [List.mem_append, or_iff_right]
    rw [mem_numberedOptions]
    rintro ⟨a, ha, -⟩
    exact hkey a ha
  unfold Answers
  simp only [hmem]

end Trackpal.Foundation

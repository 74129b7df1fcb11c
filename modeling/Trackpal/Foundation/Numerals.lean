import Mathlib.Data.List.TakeWhile
import Mathlib.Data.Rat.Defs
import Mathlib.Algebra.Order.Field.Rat
import Mathlib.Algebra.Field.Rat

/-!
# Numerals of decimal numbers

A numeral has a sign, digits in front of a point and behind it, and an exponent. A text is read
from left to right.

Results:
1. `readNumeral10_iff`: a text is read as a numeral exactly if it is spelled so.
2. `spells_unique`: a text is spelled by one numeral at most.
-/

namespace Trackpal.Foundation

structure Numeral where
  negative : Bool
  whole : List Char
  fraction : List Char
  exponent : Int
deriving DecidableEq

def digitsValue (digits : List Char) : Nat := Nat.ofDigitChars 10 digits 0

def Numeral.value (n : Numeral) : ℚ :=
  (if n.negative then -1 else 1) *
    (digitsValue n.whole + digitsValue n.fraction / 10 ^ n.fraction.length) * 10 ^ n.exponent

/-! ## Spelling -/

inductive SpellsSign : List Char → Bool → Prop where
  | none : SpellsSign [] false
  | plus : SpellsSign ['+'] false
  | minus : SpellsSign ['-'] true

def AllDigits (digits : List Char) : Prop := ∀ c ∈ digits, c.isDigit = true

inductive SpellsFraction : List Char → List Char → Prop where
  | none : SpellsFraction [] []
  | point {digits : List Char} (h : AllDigits digits) : SpellsFraction ('.' :: digits) digits

inductive SpellsExponent : List Char → Int → Prop where
  | none : SpellsExponent [] 0
  | power {mark : Char} {sign digits : List Char} {negative : Bool}
      (hmark : mark = 'e' ∨ mark = 'E') (hsign : SpellsSign sign negative)
      (hdigits : AllDigits digits) (hne : digits ≠ []) :
      SpellsExponent (mark :: (sign ++ digits))
        (if negative then -(digitsValue digits : Int) else digitsValue digits)

structure Spells (text : List Char) (n : Numeral) : Prop where
  parts : ∃ sign point power, text = sign ++ (n.whole ++ (point ++ power)) ∧
    SpellsSign sign n.negative ∧ SpellsFraction point n.fraction ∧
    SpellsExponent power n.exponent
  digits : AllDigits n.whole
  some : n.whole ≠ [] ∨ n.fraction ≠ []

/-! ## Reading -/

def readSign : List Char → Bool × List Char
  | '-' :: rest => (true, rest)
  | '+' :: rest => (false, rest)
  | text => (false, text)

def readDigits10 (text : List Char) : List Char × List Char :=
  (text.takeWhile Char.isDigit, text.dropWhile Char.isDigit)

def readFraction : List Char → List Char × List Char
  | '.' :: rest => readDigits10 rest
  | text => ([], text)

def readExponent : List Char → Option Int
  | [] => some 0
  | mark :: rest =>
    if mark = 'e' ∨ mark = 'E' then
      let signed := readSign rest
      if signed.2 ≠ [] ∧ signed.2.all Char.isDigit then
        some (if signed.1 then -(digitsValue signed.2 : Int) else digitsValue signed.2)
      else none
    else none

def readNumeral10 (text : List Char) : Option Numeral :=
  let (negative, text) := readSign text
  let (whole, text) := readDigits10 text
  let (fraction, text) := readFraction text
  if whole = [] ∧ fraction = [] then none
  else (readExponent text).map fun exponent => { negative, whole, fraction, exponent }

namespace NumeralsLemmas

variable {text digits rest sign : List Char} {negative : Bool} {n : Numeral}

theorem not_digit_mark {c : Char} (h : c = '+' ∨ c = '-' ∨ c = '.' ∨ c = 'e' ∨ c = 'E') :
    c.isDigit = false := by
  obtain rfl | rfl | rfl | rfl | rfl := h <;> rfl

theorem readDigits10_append (hdigits : AllDigits digits)
    (hrest : ∀ c ∈ rest.head?, c.isDigit = false) :
    readDigits10 (digits ++ rest) = (digits, rest) := by
  have htake : rest.takeWhile Char.isDigit = [] ∧ rest.dropWhile Char.isDigit = rest := by
    cases rest with
    | nil => exact ⟨rfl, rfl⟩
    | cons c rest =>
      have hc := hrest c rfl
      rw [List.takeWhile_cons_of_neg (by rw [hc]; exact Bool.false_ne_true),
        List.dropWhile_cons_of_neg (by rw [hc]; exact Bool.false_ne_true)]
      exact ⟨rfl, rfl⟩
  unfold readDigits10
  rw [List.takeWhile_append_of_pos hdigits, List.dropWhile_append_of_pos hdigits, htake.1, htake.2,
    List.append_nil]

theorem readDigits10_spec : AllDigits (readDigits10 text).1 ∧
    text = (readDigits10 text).1 ++ (readDigits10 text).2 :=
  ⟨fun _ hc => (List.mem_takeWhile_imp hc : _), List.takeWhile_append_dropWhile.symm⟩

theorem readSign_append (hsign : SpellsSign sign negative)
    (hrest : ∀ c ∈ rest.head?, c ≠ '+' ∧ c ≠ '-') : readSign (sign ++ rest) = (negative, rest) := by
  cases hsign with
  | plus => rfl
  | minus => rfl
  | none =>
    cases rest with
    | nil => rfl
    | cons c rest =>
      obtain ⟨hplus, hminus⟩ := hrest c rfl
      rw [List.nil_append]
      unfold readSign
      split
      · next heq => exact absurd (List.cons.inj heq).1 hminus
      · next heq => exact absurd (List.cons.inj heq).1 hplus
      · rfl

theorem spells_readSign : ∃ sign, SpellsSign sign (readSign text).1 ∧
    text = sign ++ (readSign text).2 := by
  unfold readSign
  split
  · exact ⟨['-'], .minus, rfl⟩
  · exact ⟨['+'], .plus, rfl⟩
  · exact ⟨[], .none, rfl⟩

theorem spells_readFraction : ∃ point, SpellsFraction point (readFraction text).1 ∧
    text = point ++ (readFraction text).2 := by
  unfold readFraction
  split
  · next rest =>
    obtain ⟨hdigits, hsplit⟩ := @readDigits10_spec rest
    exact ⟨'.' :: (readDigits10 rest).1, .point hdigits, congrArg ('.' :: ·) hsplit⟩
  · exact ⟨[], .none, rfl⟩

theorem spells_readExponent {exponent : Int} (h : readExponent text = some exponent) :
    SpellsExponent text exponent := by
  cases text with
  | nil =>
    rw [← Option.some.inj h]
    exact .none
  | cons mark rest =>
    unfold readExponent at h
    dsimp only at h
    by_cases hmark : mark = 'e' ∨ mark = 'E'
    · rw [if_pos hmark] at h
      obtain ⟨sign, hsign, hrest⟩ := @spells_readSign rest
      by_cases hboth : (readSign rest).2 ≠ [] ∧ (readSign rest).2.all Char.isDigit
      · rw [if_pos hboth] at h
        rw [← Option.some.inj h]
        have hpower := SpellsExponent.power hmark hsign (List.all_eq_true.mp hboth.2) hboth.1
        rwa [← hrest] at hpower
      · rw [if_neg hboth] at h
        nomatch h
    · rw [if_neg hmark] at h
      nomatch h

theorem head_of_exponent {power : List Char} {exponent : Int} (h : SpellsExponent power exponent) :
    ∀ c ∈ power.head?, c = 'e' ∨ c = 'E' := by
  cases h with
  | none => exact fun c hc => nomatch hc
  | power hmark => exact fun c hc => Option.some.inj hc ▸ hmark

theorem readExponent_of_spells {power : List Char} {exponent : Int}
    (h : SpellsExponent power exponent) : readExponent power = some exponent := by
  cases h with
  | none => rfl
  | @power mark sign digits negative hmark hsign hdigits hne =>
    have hsigned : readSign (sign ++ digits) = (negative, digits) := by
      refine readSign_append hsign fun c hc => ?_
      have hdigit := hdigits c (List.mem_of_mem_head? hc)
      constructor <;> rintro rfl <;> exact absurd hdigit (by decide)
    unfold readExponent
    dsimp only
    rw [if_pos hmark, hsigned, if_pos ⟨hne, List.all_eq_true.mpr hdigits⟩]

theorem head_of_parts {point power fraction : List Char} {exponent : Int}
    (hpoint : SpellsFraction point fraction) (hpower : SpellsExponent power exponent) :
    ∀ c ∈ (point ++ power).head?, c = '.' ∨ c = 'e' ∨ c = 'E' := by
  cases hpoint with
  | none => exact fun c hc => .inr (head_of_exponent hpower c hc)
  | point => exact fun c hc => .inl (Option.some.inj hc).symm

theorem readFraction_append {point power fraction : List Char} {exponent : Int}
    (hpoint : SpellsFraction point fraction) (hpower : SpellsExponent power exponent) :
    readFraction (point ++ power) = (fraction, power) := by
  have hhead : ∀ c ∈ power.head?, c.isDigit = false := fun c hc =>
    not_digit_mark (.inr (.inr (.inr (head_of_exponent hpower c hc))))
  cases hpoint with
  | point hdigits => exact readDigits10_append hdigits hhead
  | none =>
    rw [List.nil_append]
    cases power with
    | nil => rfl
    | cons c power =>
      unfold readFraction
      split
      · next heq =>
        obtain hc | hc := head_of_exponent hpower c rfl
        · exact absurd ((List.cons.inj heq).1.symm.trans hc) (by decide)
        · exact absurd ((List.cons.inj heq).1.symm.trans hc) (by decide)
      · rfl

end NumeralsLemmas

open NumeralsLemmas

variable {text : List Char} {n : Numeral}

theorem readNumeral10_iff : readNumeral10 text = some n ↔ Spells text n := by
  constructor
  · intro h
    unfold readNumeral10 at h
    dsimp only at h
    split at h
    · nomatch h
    next hnone =>
    obtain ⟨exponent, hexponent, rfl⟩ := Option.map_eq_some_iff.mp h
    obtain ⟨sign, hsign, hsplit⟩ := @spells_readSign text
    obtain ⟨hdigits, hwhole⟩ := @readDigits10_spec (readSign text).2
    obtain ⟨point, hpoint, hfraction⟩ := @spells_readFraction (readDigits10 (readSign text).2).2
    refine ⟨⟨sign, point, _, ?_, hsign, hpoint, spells_readExponent hexponent⟩, hdigits, ?_⟩
    · dsimp only
      rw [← hfraction, ← hwhole, ← hsplit]
    · by_contra hboth
      rw [not_or, not_not, not_not] at hboth
      exact hnone hboth
  · rintro ⟨⟨sign, point, power, rfl, hsign, hpoint, hpower⟩, hdigits, hsome⟩
    have hafter := head_of_parts hpoint hpower
    have hhead : ∀ c ∈ (n.whole ++ (point ++ power)).head?, c ≠ '+' ∧ c ≠ '-' := by
      intro c hc
      rw [List.head?_append] at hc
      obtain hmem | ⟨-, hmem⟩ := Option.or_eq_some_iff.mp hc
      · have hdigit := hdigits c (List.mem_of_mem_head? hmem)
        constructor <;> rintro rfl <;> exact absurd hdigit (by decide)
      · obtain rfl | rfl | rfl := hafter c hmem <;> exact ⟨by decide, by decide⟩
    unfold readNumeral10
    rw [readSign_append hsign hhead]
    dsimp only
    rw [readDigits10_append hdigits fun c hc => not_digit_mark (.inr (.inr (hafter c hc))),
      readFraction_append hpoint hpower]
    dsimp only
    rw [if_neg fun hboth => hsome.elim (· hboth.1) (· hboth.2), readExponent_of_spells hpower]
    rfl

theorem spells_unique {m : Numeral} (hn : Spells text n) (hm : Spells text m) : n = m :=
  Option.some.inj ((readNumeral10_iff.mpr hn).symm.trans (readNumeral10_iff.mpr hm))

end Trackpal.Foundation

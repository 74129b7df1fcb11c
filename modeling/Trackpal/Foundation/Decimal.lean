import Mathlib.Algebra.Order.Ring.Rat
import Mathlib.Tactic.FieldSimp
import Mathlib.Tactic.Linarith
import Mathlib.Tactic.Positivity
import Mathlib.Tactic.Ring
import Trackpal.Foundation.Numerals
import Trackpal.Foundation.Text

/-!
# Decimal numbers

A decimal number has a sign, a coefficient and an exponent of ten, or is an infinity or no number.
It is built from a text exactly, within the limits of the exponents, and is quantized to some
places within the precision of a context.

Results:
1. `quantize_isSome_iff`: a number is quantized exactly if it is not within half a unit of the
   precision.
2. `value_of_quantize_iff`: quantizing keeps exactly the numbers of that many places.
-/

namespace Trackpal.Foundation

structure Dec where
  negative : Bool
  coefficient : Nat
  exponent : Int
deriving DecidableEq

namespace Dec

/-- The number without its sign. -/
def magnitude (d : Dec) : ℚ := d.coefficient * 10 ^ d.exponent

def value (d : Dec) : ℚ := (if d.negative then -1 else 1) * d.magnitude

def digits (d : Dec) : Nat := (Nat.toDigits 10 d.coefficient).length

/-- The exponent of the first digit. -/
def adjusted (d : Dec) : Int := d.exponent + d.digits - 1

def ofNumeral (n : Numeral) : Dec where
  negative := n.negative
  coefficient := digitsValue (n.whole ++ n.fraction)
  exponent := n.exponent - n.fraction.length

end Dec

inductive Decimal where
  | finite (d : Dec)
  | infinity (negative : Bool)
  | nan (negative : Bool) (signaling : Bool)
deriving DecidableEq

/-! ## The constructor -/

def maxPrec : Nat := 999999999999999999
def maxEmax : Int := 999999999999999999
def minEtiny : Int := -1999999999999999997

def Numeral.representable (n : Numeral) : Bool :=
  let d := Dec.ofNumeral n
  n.fraction.length ≤ maxPrec && d.digits ≤ maxPrec && minEtiny ≤ d.exponent &&
    d.adjusted ≤ maxEmax

/-- The diagnostic digits of no number. -/
def isPayload (digits : List Char) : Bool :=
  digits.all Char.isDigit && (digits.dropWhile (· = '0')).length ≤ maxPrec

def readLetters (negative : Bool) (word : List Char) : Option Decimal :=
  if word = ['i', 'n', 'f'] ∨ word = ['i', 'n', 'f', 'i', 'n', 'i', 't', 'y'] then
    some (.infinity negative)
  else
    match word with
    | 'n' :: 'a' :: 'n' :: payload => if isPayload payload then some (.nan negative false) else none
    | 's' :: 'n' :: 'a' :: 'n' :: payload =>
      if isPayload payload then some (.nan negative true) else none
    | _ => none

def readWord (text : List Char) : Option Decimal :=
  readLetters (readSign text).1 ((readSign text).2.map Char.toLower)

/-- The decimal number of a text of ASCII: `none` is an invalid operation. -/
def decimalOfAscii (text : List Char) : Option Decimal :=
  match readWord text with
  | some word => some word
  | none =>
    (readNumeral10 text).bind fun n =>
      if n.representable then some (.finite (.ofNumeral n)) else none

/-- A text in ASCII: without white space at its ends and without underscores, and with the digits of
ASCII for those of Unicode. -/
def numericAscii (text : String) : List Char :=
  ((stripBy isSpace text).toList.filter (· ≠ '_')).map fun c =>
    ((decimalValue c).map Nat.digitChar).getD c

def decimalOfText (text : String) : Option Decimal := decimalOfAscii (numericAscii text)

/-! ## Quantizing -/

def roundHalfEven (n m : Nat) : Nat :=
  if m < 2 * (n % m) ∨ m = 2 * (n % m) ∧ (n / m) % 2 = 1 then n / m + 1 else n / m

/-- The coefficient of a number at so many places. -/
def rescale (places : Nat) (d : Dec) : Nat :=
  roundHalfEven (d.coefficient * 10 ^ (d.exponent + places).toNat)
    (10 ^ (-(d.exponent + places)).toNat)

/-- A number at so many places: an invalid operation if it has more digits than the precision. -/
def quantize (precision places : Nat) (d : Dec) : Option Dec :=
  let coefficient := rescale places d
  if (Nat.toDigits 10 coefficient).length ≤ precision then
    some { negative := d.negative, coefficient, exponent := -places }
  else none

namespace DecimalLemmas

variable {n m limit precision places whole : Nat} {d : Dec}

theorem roundHalfEven_of_dvd (hm : 0 < m) : roundHalfEven (whole * m) m = whole := by
  unfold roundHalfEven
  rw [Nat.mul_mod_left, Nat.mul_div_cancel _ hm, if_neg (by omega)]

theorem roundHalfEven_lt_iff (hm : 0 < m) (heven : limit % 2 = 0) :
    roundHalfEven n m < limit ↔ 2 * n + m < 2 * (limit * m) := by
  have hdiv := Nat.div_add_mod n m
  have hmod := Nat.mod_lt n hm
  unfold roundHalfEven
  generalize n / m = q, n % m = r at *
  obtain hlow | rfl | hhigh : q + 1 < limit ∨ limit = q + 1 ∨ limit ≤ q := by omega
  · have hprod : (q + 2) * m ≤ limit * m := Nat.mul_le_mul_right m hlow
    rw [Nat.add_mul, Nat.mul_comm] at hprod
    split <;> omega
  · -- The last quotient is odd, so that a tie is rounded up to the limit.
    rw [Nat.add_mul, Nat.mul_comm q m]
    split <;> omega
  · have hprod : limit * m ≤ q * m := Nat.mul_le_mul_right m hhigh
    rw [Nat.mul_comm q m] at hprod
    split <;> omega

theorem ten_pow_pos (k : Nat) : (0 : ℚ) < 10 ^ k := by positivity

theorem magnitude_mul :
    d.magnitude * 10 ^ places * (10 ^ (-(d.exponent + places)).toNat : Nat) =
      (d.coefficient * 10 ^ (d.exponent + places).toNat : Nat) := by
  have hexponent : d.exponent + places + (-(d.exponent + places)).toNat =
      (d.exponent + places).toNat := by omega
  have hpow : (10 : ℚ) ^ d.exponent * 10 ^ places * 10 ^ (-(d.exponent + places)).toNat =
      10 ^ (d.exponent + places).toNat := by
    rw [← zpow_natCast, ← zpow_natCast, ← zpow_natCast, ← zpow_add₀ (by norm_num),
      ← zpow_add₀ (by norm_num), hexponent]
  unfold Dec.magnitude
  push_cast
  rw [← hpow]
  ring

theorem quantize_eq (h : 0 < precision) :
    quantize precision places d = if rescale places d < 10 ^ precision then
      some { negative := d.negative, coefficient := rescale places d, exponent := -places }
    else none := by
  unfold quantize
  dsimp only
  rw [if_congr (Nat.length_toDigits_le_iff (by decide) h) rfl rfl]

theorem letters_cases {negative : Bool} {word : List Char} {w : Decimal}
    (h : readLetters negative word = some w) :
    (w = .infinity negative ∨ ∃ signaling, w = .nan negative signaling) ∧
      ∃ c ∈ word.head?, c = 'i' ∨ c = 'n' ∨ c = 's' := by
  unfold readLetters at h
  split at h
  next hinfinity =>
    refine ⟨.inl (Option.some.inj h).symm, 'i', ?_, .inl rfl⟩
    obtain rfl | rfl := hinfinity <;> rfl
  · split at h
    next payload =>
      split at h
      · exact ⟨.inr ⟨false, (Option.some.inj h).symm⟩, 'n', rfl, .inr (.inl rfl)⟩
      · nomatch h
    next payload _ =>
      split at h
      · exact ⟨.inr ⟨true, (Option.some.inj h).symm⟩, 's', rfl, .inr (.inr rfl)⟩
      · nomatch h
    · nomatch h

theorem not_numeral_head {c : Char} (h : c.toLower = 'i' ∨ c.toLower = 'n' ∨ c.toLower = 's') :
    c.isDigit = false ∧ c ≠ '.' := by
  constructor
  · by_contra hdigit
    rw [Bool.not_eq_false] at hdigit
    -- A digit lies below the capital letters.
    have hlower : c.toLower = c := by
      have hle : c.val ≤ 57 := of_decide_eq_true (Bool.and_eq_true _ _ ▸ hdigit).2
      unfold Char.toLower
      exact dif_neg fun hcapital => absurd (UInt32.le_trans hcapital.1 hle) (by decide)
    rw [hlower] at h
    obtain rfl | rfl | rfl := h <;> exact absurd hdigit (by decide)
  · rintro rfl
    exact absurd h (by decide)

theorem readNumeral10_of_word {text : List Char} {w : Decimal} (h : readWord text = some w) :
    readNumeral10 text = none := by
  obtain ⟨-, c, hhead, hc⟩ := letters_cases h
  cases htext : (readSign text).2 with
  | nil =>
    rw [htext] at hhead
    nomatch hhead
  | cons first rest =>
    rw [htext] at hhead
    obtain rfl := Option.some.inj hhead
    obtain ⟨hdigit, hpoint⟩ := not_numeral_head hc
    have hwhole : readDigits10 (first :: rest) = ([], first :: rest) := by
      unfold readDigits10
      rw [List.takeWhile_cons_of_neg (by rw [hdigit]; exact Bool.false_ne_true),
        List.dropWhile_cons_of_neg (by rw [hdigit]; exact Bool.false_ne_true)]
    have hfraction : readFraction (first :: rest) = ([], first :: rest) := by
      unfold readFraction
      split
      next heq => exact absurd (List.cons.inj heq).1 hpoint
      · rfl
    unfold readNumeral10
    dsimp only
    rw [htext, hwhole]
    dsimp only
    rw [hfraction]
    rfl

end DecimalLemmas

open DecimalLemmas

variable {precision places whole : Nat} {d : Dec} {n : Numeral}

theorem value_ofNumeral : (Dec.ofNumeral n).value = n.value := by
  have hten : (10 : ℚ) ≠ 0 := by norm_num
  unfold Dec.value Dec.magnitude Numeral.value Dec.ofNumeral
  dsimp only
  have hdigits : digitsValue (n.whole ++ n.fraction) =
      digitsValue n.whole * 10 ^ n.fraction.length + digitsValue n.fraction := by
    unfold digitsValue
    rw [Nat.ofDigitChars_append, Nat.ofDigitChars_eq_ofDigitChars_zero, Nat.mul_comm]
  rw [hdigits, zpow_sub₀ hten, zpow_natCast]
  push_cast
  field_simp

theorem magnitude_nonneg : 0 ≤ d.magnitude :=
  mul_nonneg (Nat.cast_nonneg _) (zpow_nonneg (by norm_num) _)

theorem value_of_nonneg (h : 0 ≤ d.value) : d.value = d.magnitude := by
  have hmagnitude := @magnitude_nonneg d
  unfold Dec.value at h ⊢
  split at h
  · rw [if_pos (by assumption)]
    linarith
  · rw [if_neg (by assumption), one_mul]

/-- A number of that many places is kept, up to the precision. -/
theorem quantize_of_whole (hprecision : 0 < precision)
    (hwhole : d.magnitude * 10 ^ places = whole) :
    quantize precision places d = if whole < 10 ^ precision then
      some { negative := d.negative, coefficient := whole, exponent := -places } else none := by
  have hscale := @magnitude_mul places d
  rw [hwhole, ← Nat.cast_mul] at hscale
  have hrescale : rescale places d = whole := by
    unfold rescale
    rw [← Nat.cast_injective hscale]
    exact roundHalfEven_of_dvd (by positivity)
  rw [quantize_eq hprecision, hrescale]

theorem quantize_isSome_iff (hprecision : 0 < precision) :
    (quantize precision places d).isSome = true ↔
      d.magnitude * 10 ^ places < 10 ^ precision - 1 / 2 := by
  have hscale := @magnitude_mul places d
  have hrounded : rescale places d < 10 ^ precision ↔
      2 * (d.coefficient * 10 ^ (d.exponent + places).toNat) +
        10 ^ (-(d.exponent + places)).toNat <
      2 * (10 ^ precision * 10 ^ (-(d.exponent + places)).toNat) :=
    roundHalfEven_lt_iff (by positivity) (by rw [Nat.pow_mod]; simp [hprecision.ne'])
  generalize d.coefficient * 10 ^ (d.exponent + places).toNat = n at hscale hrounded
  have hden : 0 < 10 ^ (-(d.exponent + places)).toNat := by positivity
  generalize 10 ^ (-(d.exponent + places)).toNat = m at hscale hrounded hden
  have hm : (0 : ℚ) < m := Nat.cast_pos.mpr hden
  have hcast : 2 * n + m < 2 * (10 ^ precision * m) ↔
      d.magnitude * 10 ^ places * m < (10 ^ precision - 1 / 2) * m := by
    rw [hscale, ← @Nat.cast_lt ℚ]
    push_cast
    constructor <;> intro h <;> linarith
  rw [quantize_eq hprecision, ← mul_lt_mul_iff_left₀ hm, ← hcast, ← hrounded]
  by_cases hlt : rescale places d < 10 ^ precision
  · rw [if_pos hlt]
    exact ⟨fun _ => hlt, fun _ => rfl⟩
  · rw [if_neg hlt]
    exact ⟨fun h => Bool.noConfusion h, fun h => absurd h hlt⟩

theorem magnitude_of_places {negative : Bool} :
    Dec.magnitude { negative, coefficient := whole, exponent := -places } * 10 ^ places =
      whole := by
  unfold Dec.magnitude
  dsimp only
  rw [zpow_neg, zpow_natCast, mul_assoc, inv_mul_cancel₀ (ten_pow_pos places).ne', mul_one]

theorem exists_of_quantize {q : Dec} (h : quantize precision places d = some q) :
    ∃ whole : Nat, q.magnitude * 10 ^ places = whole := by
  unfold quantize at h
  dsimp only at h
  split at h
  · rw [← Option.some.inj h]
    exact ⟨rescale places d, magnitude_of_places⟩
  · nomatch h

theorem value_of_quantize_iff {q : Dec} (hprecision : 0 < precision) (hnonneg : 0 ≤ d.value)
    (h : quantize precision places d = some q) :
    d.value = q.value ↔ ∃ whole : Nat, d.value * 10 ^ places = whole := by
  constructor
  · intro heq
    rw [heq] at hnonneg ⊢
    rw [value_of_nonneg hnonneg]
    exact exists_of_quantize h
  · rintro ⟨whole, hwhole⟩
    rw [value_of_nonneg hnonneg] at hwhole
    rw [quantize_of_whole hprecision hwhole] at h
    split at h
    · have hq := Option.some.inj h
      have hmagnitude : d.magnitude = q.magnitude := by
        apply mul_right_cancel₀ (ten_pow_pos places).ne'
        rw [hwhole, ← hq, magnitude_of_places]
      have hsign : d.negative = q.negative := by rw [← hq]
      unfold Dec.value
      rw [hmagnitude, hsign]
    · nomatch h

end Trackpal.Foundation

import Mathlib.Tactic.IntervalCases
import Mathlib.Tactic.NormNum
import Trackpal.Foundation.Decimal

/-!
# Prices in messages

The console writes the price of a plan with its currency, and reads one from a message.

Results:
1. `parsePriceInput_exact_iff`: a message is parsed exactly if it is no NaN and no infinity, and its
   number is within the limits of exponents and of the precision.
2. `parse_formatPrice`: every stored price is read back from its text.
-/

namespace Trackpal.Console

open Trackpal.Foundation

/-- The exception of the decimal context. -/
inductive InvalidOperation where
  | signal
deriving DecidableEq

/-! ## Reading -/

def precision : Nat := 28

/-- `parsed < 0`: a comparison with no number signals. -/
def isNegative : Decimal → Except InvalidOperation Bool
  | .finite d => .ok (d.value < 0)
  | .infinity negative => .ok negative
  | .nan _ _ => .error .signal

/-- `parsed.quantize(Decimal("0.01"))`: an infinity has no places. -/
def quantizeCents : Decimal → Except InvalidOperation Decimal
  | .finite d =>
    match quantize precision 2 d with
    | some q => .ok (.finite q)
    | none => .error .signal
  | .infinity _ => .error .signal
  | .nan _ true => .error .signal
  | .nan negative false => .ok (.nan negative false)

/-- `parsed != quantized`. -/
def differs : Decimal → Decimal → Bool
  | .finite a, .finite b => a.value ≠ b.value
  | .infinity a, .infinity b => a ≠ b
  | _, _ => true

def priceText (value : String) : String :=
  .ofList ((stripBy isSpace value).toList.map fun c => if c = ',' then '.' else c)

def parsePriceInput (value : String) : Except InvalidOperation (Option Decimal) :=
  match decimalOfText (priceText value) with
  | none => .ok none
  | some parsed => do
    if ← isNegative parsed then return none
    if differs parsed (← quantizeCents parsed) then return none
    return some parsed

/-! ## Writing -/

/-- `f"{amount:.2f}"`. -/
def fixed2 (amount : Dec) : List Char :=
  let cents := rescale 2 amount
  (if amount.negative then ['-'] else []) ++ (Nat.toDigits 10 (cents / 100) ++
    ['.', (cents / 10 % 10).digitChar, (cents % 10).digitChar])

/-- `replace(".", ",", 1)`. -/
def commaForPoint : List Char → List Char
  | [] => []
  | c :: rest => if c = '.' then ',' :: rest else c :: commaForPoint rest

def shownSymbol (symbol : Option String) : Option String := symbol.filter (· ≠ "")

/-- `format_price`: `onRequest` is the translated text for no price. -/
def formatPrice (onRequest : String → String) (amount : Option Dec) (symbol : Option String)
    (locale : String) : String :=
  match amount with
  | none => onRequest locale
  | some amount =>
    match shownSymbol symbol with
    | none => .ofList (fixed2 amount)
    | some symbol =>
      if locale = "es" then symbol ++ " " ++ .ofList (commaForPoint (fixed2 amount))
      else symbol ++ " " ++ .ofList (fixed2 amount)

/-- What follows on the symbol and a blank. -/
def numericPart (symbol : Option String) (text : String) : String :=
  match shownSymbol symbol with
  | none => text
  | some symbol => .ofList (text.toList.drop (symbol.toList.length + 1))

/-- A price that a plan can store: not negative, with twelve digits at most, two of them behind the
point. -/
structure StoredPrice where
  cents : Nat
  max_digits : cents < 10 ^ 12

def StoredPrice.amount (p : StoredPrice) : Dec :=
  { negative := false, coefficient := p.cents, exponent := -2 }

/-! ## What a message denotes -/

def Denotes (value : String) (n : Numeral) : Prop := Spells (numericAscii (priceText value)) n

/-- Not negative, with two digits behind the point at most. -/
def IsPrice (q : ℚ) : Prop := ∃ cents : Nat, q * 10 ^ 2 = cents

/-- A message is parsed exactly: without an exception, to the price that it denotes if it denotes
one, and to none otherwise. -/
def ParsedExactly (value : String) : Prop :=
  ∃ result, parsePriceInput value = .ok result ∧
    (∀ parsed, result = some parsed → ∃ d n, parsed = .finite d ∧ Denotes value n ∧
      IsPrice n.value ∧ d.value = n.value) ∧
    ∀ n, Denotes value n → IsPrice n.value → result ≠ none

/-- A message is no NaN and no infinity but a negative one, and a number that is not negative stays
below what the precision rounds up to, and is within the limits of exponents if it is a price. -/
structure Fits (value : String) : Prop where
  word : ∀ w, readWord (numericAscii (priceText value)) = some w → w = .infinity true
  precise : ∀ n, Denotes value n → 0 ≤ n.value → n.representable = true →
    n.value * 10 ^ 2 < 10 ^ precision - 1 / 2
  limits : ∀ n, Denotes value n → IsPrice n.value → n.representable = true

namespace PricesLemmas

variable {value : String} {text : List Char} {d : Dec} {n : Numeral} {w : Decimal} {q : ℚ}

theorem nonneg_of_isPrice (h : IsPrice q) : 0 ≤ q := by
  obtain ⟨cents, hcents⟩ := h
  have hnonneg : (0 : ℚ) ≤ q * 10 ^ 2 := by
    rw [hcents]
    exact Nat.cast_nonneg _
  exact nonneg_of_mul_nonneg_left hnonneg (by norm_num)

theorem denotes_iff : Denotes value n ↔ readNumeral10 (numericAscii (priceText value)) = some n :=
  readNumeral10_iff.symm

theorem decimal_of_word (h : readWord text = some w) : decimalOfAscii text = some w := by
  unfold decimalOfAscii
  rw [h]

theorem decimal_of_numeral (hword : readWord text = none) (h : readNumeral10 text = some n) :
    decimalOfAscii text =
      if n.representable = true then some (.finite (.ofNumeral n)) else none := by
  unfold decimalOfAscii
  rw [hword, h]
  rfl

theorem parse_none (h : decimalOfText (priceText value) = none) :
    parsePriceInput value = .ok none := by
  unfold parsePriceInput
  rw [h]

theorem parse_infinity {negative : Bool}
    (h : decimalOfText (priceText value) = some (.infinity negative)) :
    parsePriceInput value = if negative then .ok none else .error .signal := by
  unfold parsePriceInput
  rw [h]
  cases negative <;> rfl

theorem parse_nan {negative signaling : Bool}
    (h : decimalOfText (priceText value) = some (.nan negative signaling)) :
    parsePriceInput value = .error .signal := by
  unfold parsePriceInput
  rw [h]
  rfl

theorem parse_negative (h : decimalOfText (priceText value) = some (.finite d))
    (hneg : d.value < 0) : parsePriceInput value = .ok none := by
  unfold parsePriceInput
  rw [h]
  dsimp only [isNegative]
  rw [decide_eq_true hneg]
  rfl

theorem parse_nonneg (h : decimalOfText (priceText value) = some (.finite d))
    (hnonneg : 0 ≤ d.value) :
    parsePriceInput value = match quantize precision 2 d with
      | none => .error .signal
      | some q => .ok (if d.value = q.value then some (.finite d) else none) := by
  unfold parsePriceInput
  rw [h]
  dsimp only [isNegative, quantizeCents]
  rw [decide_eq_false (not_lt.mpr hnonneg)]
  cases quantize precision 2 d with
  | none => rfl
  | some q =>
    change (if differs (.finite d) (.finite q) = true then _ else _) =
      Except.ok (if d.value = q.value then _ else _)
    by_cases heq : d.value = q.value
    · rw [if_pos heq, if_neg (by simpa [differs] using heq)]
      rfl
    · rw [if_neg heq, if_pos (by simpa [differs] using heq)]
      rfl

theorem exact_of_none (h : parsePriceInput value = .ok none) :
    ParsedExactly value ↔ ∀ n, Denotes value n → ¬IsPrice n.value := by
  constructor
  · rintro ⟨result, hparse, -, hprice⟩ n hdenotes hisPrice
    exact hprice n hdenotes hisPrice (Except.ok.inj (hparse.symm.trans h))
  · intro hno
    refine ⟨none, h, ?_, fun n hdenotes hisPrice => absurd hisPrice (hno n hdenotes)⟩
    exact fun parsed hparsed => nomatch hparsed

theorem not_exact_of_error (h : parsePriceInput value = .error .signal) : ¬ParsedExactly value := by
  rintro ⟨result, hparse, -⟩
  rw [h] at hparse
  nomatch hparse

theorem not_denotes_of_word (h : readWord (numericAscii (priceText value)) = some w) :
    ¬Denotes value n := by
  rw [denotes_iff, DecimalLemmas.readNumeral10_of_word h]
  exact fun hn => nomatch hn

theorem exact_iff_of_word (h : readWord (numericAscii (priceText value)) = some w) :
    ParsedExactly value ↔ Fits value := by
  have hdecimal : decimalOfText (priceText value) = some w := decimal_of_word h
  have hfits : Fits value ↔ w = .infinity true :=
    ⟨fun hfits => hfits.word w h, fun hw =>
      ⟨fun w' h' => Option.some.inj (h'.symm.trans h) ▸ hw,
        fun n hn => absurd hn (not_denotes_of_word h),
        fun n hn => absurd hn (not_denotes_of_word h)⟩⟩
  rw [hfits]
  obtain rfl | ⟨signaling, rfl⟩ := (DecimalLemmas.letters_cases h).1
  · cases hsign : (readSign (numericAscii (priceText value))).1 with
    | true =>
      rw [hsign] at hdecimal
      rw [exact_of_none (parse_infinity hdecimal)]
      exact ⟨fun _ => rfl, fun _ n hn => absurd hn (not_denotes_of_word h)⟩
    | false =>
      rw [hsign] at hdecimal
      exact ⟨fun hexact => absurd hexact (not_exact_of_error (parse_infinity hdecimal)),
        fun hw => nomatch hw⟩
  · exact ⟨fun hexact => absurd hexact (not_exact_of_error (parse_nan hdecimal)),
      fun hw => nomatch hw⟩

theorem exact_iff_of_numeral (hword : readWord (numericAscii (priceText value)) = none)
    (hn : readNumeral10 (numericAscii (priceText value)) = some n) :
    ParsedExactly value ↔ (0 ≤ n.value → n.representable = true →
      n.value * 10 ^ 2 < 10 ^ precision - 1 / 2) ∧ (IsPrice n.value → n.representable = true) := by
  have hdenotes : Denotes value n := denotes_iff.mpr hn
  have hunique : ∀ m, Denotes value m → m = n := fun m hm => spells_unique hm hdenotes
  have hdecimal : decimalOfText (priceText value) = _ := decimal_of_numeral hword hn
  have hnone : parsePriceInput value = .ok none →
      (ParsedExactly value ↔ ¬IsPrice n.value) := fun h => by
    rw [exact_of_none h]
    exact ⟨fun hno => hno n hdenotes, fun hno m hm => hunique m hm ▸ hno⟩
  have hvalue := @value_ofNumeral n
  by_cases hrep : n.representable = true
  · rw [if_pos hrep] at hdecimal
    obtain hneg | hnonneg := lt_or_ge n.value 0
    · rw [hnone (parse_negative hdecimal (hvalue ▸ hneg))]
      exact ⟨fun _ => ⟨fun h => absurd h (not_le.mpr hneg), fun _ => hrep⟩,
        fun _ hprice => absurd (nonneg_of_isPrice hprice) (not_le.mpr hneg)⟩
    · have hparse := parse_nonneg hdecimal (hvalue ▸ hnonneg)
      have hsome := @quantize_isSome_iff precision 2 (.ofNumeral n) (by decide)
      rw [← value_of_nonneg (hvalue ▸ hnonneg), hvalue] at hsome
      cases hquantize : quantize precision 2 (.ofNumeral n) with
      | none =>
        rw [hquantize] at hparse hsome
        refine ⟨fun hexact => absurd hexact (not_exact_of_error hparse), fun hfits => ?_⟩
        exact absurd (hsome.mpr (hfits.1 hnonneg hrep)) Bool.false_ne_true
      | some q =>
        rw [hquantize] at hparse hsome
        refine ⟨fun _ => ⟨fun _ _ => hsome.mp rfl, fun _ => hrep⟩, fun _ => ?_⟩
        have hkept := value_of_quantize_iff (by decide) (hvalue ▸ hnonneg) hquantize
        rw [hvalue] at hkept
        dsimp only at hparse
        rw [hvalue] at hparse
        by_cases heq : n.value = q.value
        · rw [if_pos heq] at hparse
          refine ⟨_, hparse, ?_, fun m hm _ h => nomatch h⟩
          intro parsed hparsed
          exact ⟨_, n, (Option.some.inj hparsed).symm, hdenotes, hkept.mp heq, hvalue⟩
        · rw [if_neg heq] at hparse
          exact (hnone hparse).mpr fun hprice => heq (hkept.mpr hprice)
  · rw [if_neg hrep] at hdecimal
    rw [hnone (parse_none hdecimal)]
    exact ⟨fun hno => ⟨fun _ h => absurd h hrep, fun hprice => absurd hprice hno⟩,
      fun hfits hprice => hrep (hfits.2 hprice)⟩

end PricesLemmas

open PricesLemmas

theorem parsePriceInput_exact_iff {value : String} : ParsedExactly value ↔ Fits value := by
  cases hword : readWord (numericAscii (priceText value)) with
  | some w => exact exact_iff_of_word hword
  | none =>
    have hnoWord : ∀ w, readWord (numericAscii (priceText value)) = some w → w = .infinity true :=
      fun w h => absurd (hword.symm.trans h) (Option.some_ne_none w).symm
    cases hn : readNumeral10 (numericAscii (priceText value)) with
    | none =>
      have hno : ∀ n, ¬Denotes value n := fun n h =>
        absurd (hn.symm.trans (denotes_iff.mp h)) (Option.some_ne_none n).symm
      have hdecimal : decimalOfText (priceText value) = none := by
        unfold decimalOfText decimalOfAscii
        rw [hword, hn]
        rfl
      rw [exact_of_none (parse_none hdecimal)]
      exact ⟨fun _ => ⟨hnoWord, fun n h => absurd h (hno n), fun n h => absurd h (hno n)⟩,
        fun _ n h => absurd h (hno n)⟩
    | some n =>
      have hdenotes : Denotes value n := denotes_iff.mpr hn
      rw [exact_iff_of_numeral hword hn]
      constructor
      · rintro ⟨hprecise, hlimits⟩
        refine ⟨hnoWord, fun m hm => ?_, fun m hm => ?_⟩
        · exact spells_unique hm hdenotes ▸ hprecise
        · exact spells_unique hm hdenotes ▸ hlimits
      · exact fun hfits => ⟨hfits.precise n hdenotes, hfits.limits n hdenotes⟩

/-! ## The text of a price -/

namespace PricesLemmas

variable {c : Char} {l digits rest : List Char} {p : StoredPrice}

theorem exists_digitChar (h : c.isDigit = true) : ∃ k < 10, c = k.digitChar := by
  obtain ⟨hlow, hhigh⟩ := Char.isDigit_iff_toNat.mp h
  change 48 ≤ c.toNat at hlow
  change c.toNat ≤ 57 at hhigh
  refine ⟨c.toNat - 48, by omega, ?_⟩
  rw [← Char.ofNat_toNat c]
  generalize c.toNat = n at hlow hhigh
  interval_cases n <;> rfl

theorem digitChar_spec : ∀ k < 10, isSpace k.digitChar = false ∧ k.digitChar ≠ '_' ∧
    k.digitChar ≠ ',' ∧ k.digitChar ≠ '.' ∧ decimalValue k.digitChar = some k := by
  decide

theorem not_space (h : c.isDigit = true ∨ c = '.' ∨ c = ',') : isSpace c = false := by
  obtain h | rfl | rfl := h
  · obtain ⟨k, hk, rfl⟩ := exists_digitChar h
    exact (digitChar_spec k hk).1
  · decide
  · decide

theorem stripBy_ofList (h : ∀ c ∈ l, c.isDigit = true ∨ c = '.' ∨ c = ',') :
    stripBy isSpace (.ofList l) = .ofList l :=
  stripBy_eq_self fun c hc => not_space (h c (by rwa [String.toList_ofList] at hc))

theorem priceText_ofList (h : ∀ c ∈ l, c.isDigit = true ∨ c = '.' ∨ c = ',') :
    priceText (.ofList l) = .ofList (l.map fun c => if c = ',' then '.' else c) := by
  unfold priceText
  rw [stripBy_ofList h, String.toList_ofList]

theorem numericAscii_ofList (h : ∀ c ∈ l, c.isDigit = true ∨ c = '.') :
    numericAscii (.ofList l) = l := by
  have hkept : ∀ c ∈ l, c ≠ '_' ∧ ((decimalValue c).map Nat.digitChar).getD c = c := by
    intro c hc
    obtain hdigit | rfl := h c hc
    · obtain ⟨k, hk, rfl⟩ := exists_digitChar hdigit
      obtain ⟨-, hline, -, -, hvalue⟩ := digitChar_spec k hk
      rw [hvalue]
      exact ⟨hline, rfl⟩
    · exact ⟨by decide, by decide⟩
  unfold numericAscii
  rw [stripBy_ofList fun c hc => (h c hc).imp_right .inl, String.toList_ofList,
    List.filter_eq_self.mpr fun c hc => decide_eq_true (hkept c hc).1]
  exact (List.map_congr_left fun c hc => (hkept c hc).2).trans (List.map_id l)

theorem commaForPoint_append (h : AllDigits digits) :
    commaForPoint (digits ++ '.' :: rest) = digits ++ ',' :: rest := by
  induction digits with
  | nil => rfl
  | cons c digits ih =>
    obtain ⟨k, hk, rfl⟩ := exists_digitChar (h c List.mem_cons_self)
    rw [List.cons_append]
    unfold commaForPoint
    rw [if_neg (digitChar_spec k hk).2.2.2.1, ih fun c hc => h c (List.mem_cons_of_mem _ hc)]
    rfl

/-- The digits behind the point. -/
def hundredths (p : StoredPrice) : List Char :=
  [(p.cents / 10 % 10).digitChar, (p.cents % 10).digitChar]

def numeral (p : StoredPrice) : Numeral :=
  { negative := false, whole := Nat.toDigits 10 (p.cents / 100), fraction := hundredths p,
    exponent := 0 }

theorem allDigits_whole : AllDigits (numeral p).whole := fun _ hc =>
  Nat.isDigit_of_mem_toDigits (by decide) (by decide) hc

theorem allDigits_hundredths : AllDigits (hundredths p) := by
  intro c hc
  have hlow (n : Nat) : (n % 10).digitChar.isDigit = true := by
    rw [Nat.isDigit_digitChar]
    exact decide_eq_true (Nat.mod_lt n (by decide))
  obtain rfl | hc := List.mem_cons.mp hc
  · exact hlow _
  · obtain rfl := List.mem_singleton.mp hc
    exact hlow _

theorem rescale_amount : rescale 2 p.amount = p.cents := by
  change roundHalfEven (p.cents * 1) 1 = p.cents
  exact DecimalLemmas.roundHalfEven_of_dvd (by decide)

theorem fixed2_amount : fixed2 p.amount = (numeral p).whole ++ '.' :: (numeral p).fraction := by
  unfold fixed2
  rw [rescale_amount]
  rfl

theorem ofNumeral_numeral : Dec.ofNumeral (numeral p) = p.amount := by
  have hcents : digitsValue ((numeral p).whole ++ (numeral p).fraction) = p.cents := by
    unfold digitsValue numeral hundredths
    rw [Nat.ofDigitChars_append, Nat.ofDigitChars_ten_toDigits,
      Nat.ofDigitChars_cons_digitChar_of_lt_ten (Nat.mod_lt _ (by decide)),
      Nat.ofDigitChars_cons_digitChar_of_lt_ten (Nat.mod_lt _ (by decide)), Nat.ofDigitChars_nil]
    omega
  unfold Dec.ofNumeral
  rw [hcents]
  rfl

theorem representable_numeral : (numeral p).representable = true := by
  have hdigits : p.amount.digits ≤ 12 :=
    (Nat.length_toDigits_le_iff (by decide) (by decide)).mpr p.max_digits
  unfold Numeral.representable
  rw [ofNumeral_numeral]
  have hadjusted : p.amount.adjusted ≤ 9 := by
    unfold Dec.adjusted
    change (-2 : Int) + p.amount.digits - 1 ≤ 9
    omega
  dsimp only
  rw [Bool.and_eq_true, Bool.and_eq_true, Bool.and_eq_true]
  refine ⟨⟨⟨decide_eq_true ?_, decide_eq_true ?_⟩, decide_eq_true ?_⟩, decide_eq_true ?_⟩
  · change 2 ≤ maxPrec
    decide
  · exact Nat.le_trans hdigits (by decide)
  · change minEtiny ≤ -2
    decide
  · exact Int.le_trans hadjusted (by decide)

theorem parse_digits {mark : Char} (hmark : mark = '.' ∨ mark = ',') :
    parsePriceInput (.ofList ((numeral p).whole ++ mark :: (numeral p).fraction)) =
      .ok (some (.finite p.amount)) := by
  have hnocomma {l : List Char} (h : AllDigits l) :
      l.map (fun c => if c = ',' then '.' else c) = l := by
    refine (List.map_congr_left fun c hc => ?_).trans (List.map_id l)
    obtain ⟨k, hk, rfl⟩ := exists_digitChar (h c hc)
    exact if_neg (digitChar_spec k hk).2.2.1
  have htext : priceText (.ofList ((numeral p).whole ++ mark :: (numeral p).fraction)) =
      .ofList ((numeral p).whole ++ '.' :: (numeral p).fraction) := by
    rw [priceText_ofList, List.map_append, List.map_cons, hnocomma allDigits_whole,
      hnocomma (l := (numeral p).fraction) allDigits_hundredths]
    · obtain rfl | rfl := hmark <;> rfl
    · intro c hc
      obtain hc | hc := List.mem_append.mp hc
      · exact .inl (allDigits_whole c hc)
      · obtain rfl | hc := List.mem_cons.mp hc
        · exact .inr hmark
        · exact .inl (allDigits_hundredths c hc)
  have hascii : numericAscii (.ofList ((numeral p).whole ++ '.' :: (numeral p).fraction)) =
      (numeral p).whole ++ '.' :: (numeral p).fraction := by
    refine numericAscii_ofList fun c hc => ?_
    obtain hc | hc := List.mem_append.mp hc
    · exact .inl (allDigits_whole c hc)
    · obtain rfl | hc := List.mem_cons.mp hc
      · exact .inr rfl
      · exact .inl (allDigits_hundredths c hc)
  have hspells : Spells ((numeral p).whole ++ '.' :: (numeral p).fraction) (numeral p) := by
    refine ⟨⟨[], _, [], ?_, .none, .point allDigits_hundredths, .none⟩, allDigits_whole, ?_⟩
    · rw [List.append_nil]
      rfl
    · exact .inr (List.cons_ne_nil _ _)
  have hread := readNumeral10_iff.mpr hspells
  have hword : readWord ((numeral p).whole ++ '.' :: (numeral p).fraction) = none := by
    cases h : readWord ((numeral p).whole ++ '.' :: (numeral p).fraction) with
    | none => rfl
    | some w =>
      rw [DecimalLemmas.readNumeral10_of_word h] at hread
      nomatch hread
  have hdecimal : decimalOfText (priceText
      (.ofList ((numeral p).whole ++ mark :: (numeral p).fraction))) = some (.finite p.amount) := by
    unfold decimalOfText
    rw [htext, hascii, decimal_of_numeral hword hread, if_pos representable_numeral,
      ofNumeral_numeral]
  have hmagnitude : p.amount.magnitude * 10 ^ 2 = p.cents := magnitude_of_places
  have hvalue : p.amount.value = p.amount.magnitude := by
    unfold Dec.value
    exact one_mul _
  have hquantize := @quantize_of_whole precision _ _ _ (by decide) hmagnitude
  rw [if_pos (Nat.lt_trans p.max_digits (by decide))] at hquantize
  rw [parse_nonneg hdecimal (hvalue ▸ magnitude_nonneg), hquantize]
  exact congrArg Except.ok (if_pos rfl)

end PricesLemmas

theorem parse_formatPrice (onRequest : String → String) (p : StoredPrice) (symbol : Option String)
    (locale : String) :
    parsePriceInput (numericPart symbol (formatPrice onRequest (some p.amount) symbol locale)) =
      .ok (some (.finite p.amount)) := by
  have hdrop (symbol : String) (l : List Char) :
      (.ofList ((symbol ++ " " ++ String.ofList l).toList.drop (symbol.toList.length + 1)) :
        String) = .ofList l := by
    rw [String.toList_append, String.toList_append, List.append_assoc,
      List.drop_length_add_append]
    exact congrArg String.ofList String.toList_ofList
  unfold numericPart formatPrice
  dsimp only
  cases shownSymbol symbol with
  | none =>
    dsimp only
    rw [fixed2_amount]
    exact parse_digits (.inl rfl)
  | some symbol =>
    dsimp only
    by_cases hes : locale = "es"
    · rw [if_pos hes, hdrop, fixed2_amount, commaForPoint_append allDigits_whole]
      exact parse_digits (.inr rfl)
    · rw [if_neg hes, hdrop, fixed2_amount]
      exact parse_digits (.inl rfl)

/-! ## Every message and every price -/

/-- Messages are parsed exactly as long as they fit, and every stored price is read back. -/
theorem prices_exact (value : String) (onRequest : String → String) (p : StoredPrice)
    (symbol : Option String) (locale : String) :
    (ParsedExactly value ↔ Fits value) ∧
      parsePriceInput (numericPart symbol (formatPrice onRequest (some p.amount) symbol locale)) =
        .ok (some (.finite p.amount)) :=
  ⟨parsePriceInput_exact_iff, parse_formatPrice onRequest p symbol locale⟩

/-- The word for no number signals in the comparison with zero. -/
theorem nan_signals : ¬ParsedExactly "NaN" := by
  have hparse : parsePriceInput "NaN" = .error .signal := by
    decide +kernel
  rintro ⟨result, hresult, -⟩
  rw [hparse] at hresult
  nomatch hresult

end Trackpal.Console

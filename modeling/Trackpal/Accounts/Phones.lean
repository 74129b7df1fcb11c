import Trackpal.Accounts.Usernames
import Trackpal.Console.Navigation
import Trackpal.Foundation.Regex

/-!
# Phones that are stored and looked up

A phone that is stored has passed `validate_phone`, and one that is looked up `normalize_phone`.

Results:
1. `normalizePhone_identifier`: every identifier of a stored phone is looked up as that phone.
2. `agrees_iff`.
-/

namespace Trackpal.Accounts.Phones

open Trackpal.Foundation Console Usernames

/-! ## The library -/

/-- What the program uses of `phonenumbers`. -/
structure PhoneNumbers where
  Number : Type
  /-- `parse(text, None)`: `none` for a `NumberParseException`. -/
  parse : String → Option Number
  /-- `is_valid_number`. -/
  isValid : Number → Bool
  /-- `format_number(number, E164)`. -/
  e164 : Number → String

/-- The E.164 form of a valid number is a plus with digits behind it, and reads as that number. -/
structure PhoneNumbers.Documented (lib : PhoneNumbers) : Prop where
  e164_digits : ∀ n, lib.isValid n = true → ∃ digits : String, lib.e164 n = "+" ++ digits ∧
    digits ≠ "" ∧ ∀ c ∈ digits.toList, 0x30 ≤ c.toNat ∧ c.toNat ≤ 0x39
  parse_e164 : ∀ n, lib.isValid n = true → ∃ m, lib.parse (lib.e164 n) = some m ∧
    lib.isValid m = true ∧ lib.e164 m = lib.e164 n

/-! ## Validation -/

def phoneError (message code : String) : InputValidationError := ⟨"phone", message, code⟩

def blankPhone (required : Bool) : Except InputValidationError (Option String) :=
  if required then .error (phoneError "Phone is required." "phone_required") else .ok none

/-- `ext|x|extension|#`. -/
def extensionWords : List (List Char) :=
  [['e', 'x', 't'], ['x'], ['e', 'x', 't', 'e', 'n', 's', 'i', 'o', 'n'], ['#']]

/-- `\s*(?:ext|x|extension|#)\s*\d` at the start of a text. -/
def startsExtension (text : List Char) : Bool :=
  let rest := text.dropWhile isSpace
  extensionWords.any fun word =>
    decide (word <+: rest.map Regex.foldCase) &&
      ((rest.drop word.length).dropWhile isSpace).head?.any isDecimal

/-- `\d\s*(?:ext|x|extension|#)\s*\d` somewhere in a text. -/
def hasExtension : List Char → Bool
  | [] => false
  | c :: rest => (isDecimal c && startsExtension rest) || hasExtension rest

/-- `[\d\s\-().]`. -/
def isPhoneChar (c : Char) : Bool :=
  isDecimal c || isSpace c || c ∈ ['-', '(', ')', '.']

/-- `raw[1:] if raw.startswith("+") else raw`. -/
def dropPlus : List Char → List Char
  | '+' :: rest => rest
  | raw => raw

variable (lib : PhoneNumbers)

/-- The number of a text that has a plus in front. -/
def parsePhone (raw : String) : Except InputValidationError (Option String) :=
  match lib.parse raw with
  | none => .error (phoneError "Phone number could not be parsed." "phone_parse_error")
  | some n =>
    if !lib.isValid n then
      .error (phoneError "Phone number is not a valid international number." "phone_invalid")
    else .ok (some (.ofList ((lib.e164 n).toList.dropWhile (· = '+'))))

def validatePhone (value : Option String) (required : Bool) :
    Except InputValidationError (Option String) :=
  match value with
  | none => blankPhone required
  | some value =>
    let raw := stripPhoneSuffixes (strip value)
    let digits := dropPlus raw.toList
    if strip value = "" then blankPhone required
    else if strip raw = "" then blankPhone required
    else if !raw.toList.any isDecimal then
      .error (phoneError "Phone must contain at least one digit." "phone_no_digits")
    else if '+' ∈ digits then
      .error (phoneError "Phone number contains invalid plus sign placement." "phone_invalid_plus")
    else if hasExtension digits then
      .error (phoneError "Phone number contains extension or unsupported suffix."
        "phone_extension_suffix")
    else if digits.filter (!isPhoneChar ·) ≠ [] then
      .error (phoneError "Phone number contains invalid characters." "phone_invalid_chars")
    else parsePhone lib (if raw.toList.head? = some '+' then raw else "+" ++ raw)

/-! ## Identifiers -/

def IsIdentifier (phone id : String) : Prop :=
  ∃ plus ∈ ["", "+"], ∃ suffix ∈ ["", "@c.us", "@s.whatsapp.net"],
    id = plus ++ phone ++ suffix ∨
    ∃ device : String, (∀ c ∈ device.toList, c ≠ '@' ∧ isSpace c = false) ∧
      (id = plus ++ phone ++ ":" ++ device ++ suffix ∨
        id = plus ++ phone ++ suffix ++ ":" ++ device)

/-- `normalize_phone` takes the text for a LID. -/
def isLid (text : String) : Bool := occursIn "@lid" (strip text)

/-- The text is a valid number: digits, spaces, hyphens, dots and parentheses, with or without a
plus in front. -/
def IsNumber (text : String) : Prop :=
  ∃ (body : String) (n : lib.Number), (text = body ∨ text = "+" ++ body) ∧
    (∀ c ∈ body.toList, isPhoneChar c = true) ∧ (∃ c ∈ body.toList, isDecimal c = true) ∧
    lib.parse ("+" ++ body) = some n ∧ lib.isValid n = true

/-- What is stored for a text is its own normal form and that of its identifiers, and nothing is
stored for a LID. -/
structure Agrees (text : String) (required : Bool) : Prop where
  stored : ∀ phone, validatePhone lib (some text) required = .ok (some phone) →
    normalizePhone (some phone) = some phone ∧
    (∀ required', validatePhone lib (some phone) required' = .ok (some phone)) ∧
    ∀ id, IsIdentifier phone id → normalizePhone (some id) = some phone
  lid : isLid text = true → ∀ phone, validatePhone lib (some text) required ≠ .ok (some phone)

variable {lib} {text phone id : String} {required : Bool} {chars : List Char}

namespace PhonesLemmas

open NavigationLemmas

/-! ## Characters -/

theorem isDecimal_of_ascii {c : Char} (h : 0x30 ≤ c.toNat ∧ c.toNat ≤ 0x39) :
    isDecimal c = true := by
  refine List.any_eq_true.mpr ⟨0x30, List.mem_cons_self, ?_⟩
  rw [decide_eq_true h.1, decide_eq_true (by omega : c.toNat < 0x30 + 10)]
  rfl

theorem not_phoneChar : isPhoneChar '+' = false ∧
    ['e', 'x', '#'].all (!isPhoneChar ·) = true ∧ ['E', 'X'].all (!isPhoneChar ·) = true := by
  decide +kernel

theorem upper_spec : ∀ n < 0xdf, 0x41 ≤ n → Char.ofNat (n + 32) ∈ ['e', 'x', '#'] →
    Char.ofNat n ∈ ['E', 'X'] := by
  decide +kernel

theorem fold_not_extension {c : Char} (h : isPhoneChar c = true) :
    Regex.foldCase c ∉ ['e', 'x', '#'] := by
  intro hmem
  have hnot : isPhoneChar c = false := by
    unfold Regex.foldCase at hmem
    dsimp only at hmem
    split at hmem
    · next hupper =>
      have hcapital := upper_spec c.toNat (by omega) (by omega) hmem
      rw [Char.ofNat_toNat] at hcapital
      simpa using List.all_eq_true.mp not_phoneChar.2.2 c hcapital
    split at hmem
    · exact absurd hmem (by decide)
    split at hmem
    · exact absurd hmem (by decide)
    split at hmem
    · exact absurd hmem (by decide)
    · simpa using List.all_eq_true.mp not_phoneChar.2.1 c hmem
  rw [hnot] at h
  cases h

theorem first_of_extension {word : List Char} (h : word ∈ extensionWords) :
    ∃ first ∈ word, first ∈ ['e', 'x', '#'] := by
  have hall : (extensionWords.all fun word => word.any fun c => decide (c ∈ ['e', 'x', '#'])) =
      true := by
    decide
  obtain ⟨first, hin, hletter⟩ := List.any_eq_true.mp (List.all_eq_true.mp hall word h)
  exact ⟨first, hin, of_decide_eq_true hletter⟩

theorem hasExtension_of_phoneChars (h : ∀ c ∈ chars, isPhoneChar c = true) :
    hasExtension chars = false := by
  induction chars with
  | nil => rfl
  | cons c rest ih =>
    have hstarts : startsExtension rest = false := by
      unfold startsExtension
      refine List.any_eq_false.mpr fun word hword hmatch => ?_
      have hmatched := of_decide_eq_true (Bool.and_eq_true_iff.mp hmatch).1
      -- The first letter of a word would be a character of the number.
      obtain ⟨first, hin, hletter⟩ := first_of_extension hword
      obtain ⟨d, hd, rfl⟩ := List.mem_map.mp (hmatched.subset hin)
      have hdrop : d ∈ rest := (List.dropWhile_suffix _).subset hd
      exact fold_not_extension (h d (List.mem_cons_of_mem _ hdrop)) hletter
    rw [hasExtension, hstarts, Bool.and_false, Bool.false_or]
    exact ih fun c hc => h c (List.mem_cons_of_mem _ hc)

/-! ## Stored phones -/

theorem dropPlus_of_phoneChars (h : ∀ c ∈ chars, isPhoneChar c = true) :
    dropPlus chars = chars := by
  unfold dropPlus
  split
  · next rest =>
    have hplus := h '+' List.mem_cons_self
    rw [not_phoneChar.1] at hplus
    cases hplus
  · rfl

theorem eq_of_dropPlus {raw : String} : raw.toList = dropPlus raw.toList ∧
      raw.toList.head? ≠ some '+' ∨ raw = "+" ++ .ofList (dropPlus raw.toList) := by
  unfold dropPlus
  split
  · next rest hraw =>
    refine Or.inr ?_
    rw [← String.toList_inj, hraw, String.toList_append]
    exact congrArg _ String.toList_ofList.symm
  · next hnot =>
    refine Or.inl ⟨rfl, fun hhead => ?_⟩
    cases hraw : raw.toList with
    | nil => rw [hraw] at hhead; cases hhead
    | cons c rest =>
      rw [hraw] at hhead
      cases hhead
      exact hnot rest hraw

theorem plain_of {raw body : String} (hraw : raw = body ∨ raw = "+" ++ body)
    (hchars : ∀ c ∈ body.toList, isPhoneChar c = true) : dropPlus raw.toList = body.toList ∧
      (if raw.toList.head? = some '+' then raw else "+" ++ raw) = "+" ++ body := by
  obtain rfl | rfl := hraw
  · refine ⟨dropPlus_of_phoneChars hchars, if_neg fun hhead => ?_⟩
    have hplus := hchars '+' (List.mem_of_mem_head? (Option.mem_def.mpr hhead))
    rw [not_phoneChar.1] at hplus
    cases hplus
  · have hlist : ("+" ++ body).toList = '+' :: body.toList := by
      rw [String.toList_append]
      rfl
    rw [hlist]
    exact ⟨rfl, if_pos rfl⟩

theorem strip_ne_empty {raw : String} {c : Char} (hc : c ∈ raw.toList)
    (hspace : isSpace c = false) : strip raw ≠ "" := by
  intro hempty
  have hnil : (raw.toList.dropWhile isSpace).rdropWhile isSpace = [] := by
    rw [← toList_stripBy, show stripBy isSpace raw = "" from hempty]
    rfl
  have hall := List.rdropWhile_eq_nil_iff.mp hnil
  have hfront : raw.toList.dropWhile isSpace = [] := by
    cases hdrop : raw.toList.dropWhile isSpace with
    | nil => rfl
    | cons d rest =>
      have hd := head_dropWhile (p := isSpace) (l := raw.toList) d (by rw [hdrop]; rfl)
      rw [hall d (by rw [hdrop]; exact List.mem_cons_self)] at hd
      cases hd
  rw [List.dropWhile_eq_nil_iff] at hfront
  rw [hfront c hc] at hspace
  cases hspace

theorem parsePhone_eq_ok {raw : String} : parsePhone lib raw = .ok (some phone) ↔
    ∃ n, lib.parse raw = some n ∧ lib.isValid n = true ∧
      phone = .ofList ((lib.e164 n).toList.dropWhile (· = '+')) := by
  unfold parsePhone
  cases hparse : lib.parse raw with
  | none => simp
  | some n =>
    dsimp only
    by_cases hvalid : lib.isValid n = true
    · rw [hvalid]
      constructor
      · intro h
        exact ⟨n, rfl, hvalid, (Option.some.inj (Except.ok.inj h)).symm⟩
      · rintro ⟨m, hm, _, rfl⟩
        rw [Option.some.inj hm]
        rfl
    · rw [Bool.not_eq_true] at hvalid
      rw [hvalid]
      constructor
      · intro h
        cases h
      · rintro ⟨m, hm, hm', _⟩
        rw [← Option.some.inj hm, hvalid] at hm'
        cases hm'

end PhonesLemmas

open PhonesLemmas

/-- A text is stored if what stands in front of its suffixes is a number, as the digits of the
E.164 form of that number. -/
theorem validatePhone_eq_ok : validatePhone lib (some text) required = .ok (some phone) ↔
    ∃ (body : String) (n : lib.Number),
      (stripPhoneSuffixes (strip text) = body ∨ stripPhoneSuffixes (strip text) = "+" ++ body) ∧
      (∀ c ∈ body.toList, isPhoneChar c = true) ∧ (∃ c ∈ body.toList, isDecimal c = true) ∧
      lib.parse ("+" ++ body) = some n ∧ lib.isValid n = true ∧
      phone = .ofList ((lib.e164 n).toList.dropWhile (· = '+')) := by
  have hblank : blankPhone required ≠ .ok (some phone) := by
    unfold blankPhone
    split <;> simp
  generalize hraw : stripPhoneSuffixes (strip text) = raw
  unfold validatePhone
  dsimp only
  rw [hraw]
  constructor
  · intro h
    split at h
    · exact absurd h hblank
    split at h
    · exact absurd h hblank
    split at h
    · cases h
    next hdigit =>
    split at h
    · cases h
    split at h
    · cases h
    split at h
    · cases h
    next hjunk =>
    obtain ⟨n, hparse, hvalid, hphone⟩ := parsePhone_eq_ok.mp h
    have hchars : ∀ c ∈ dropPlus raw.toList, isPhoneChar c = true := by
      rw [ne_eq, not_not, List.filter_eq_nil_iff] at hjunk
      exact fun c hc => by simpa using hjunk c hc
    have hform : raw = .ofList (dropPlus raw.toList) ∨
        raw = "+" ++ .ofList (dropPlus raw.toList) := by
      refine eq_of_dropPlus.imp (fun heq => ?_) id
      rw [← heq.1, String.ofList_toList]
    rw [← String.toList_ofList (l := dropPlus raw.toList)] at hchars
    rw [(plain_of hform hchars).2] at hparse
    refine ⟨_, n, hform, hchars, ?_, hparse, hvalid, hphone⟩
    obtain ⟨c, hc, hdecimal⟩ := List.any_eq_true.mp (by simpa using hdigit)
    rw [String.toList_ofList]
    obtain heq | heq := @eq_of_dropPlus raw
    · exact ⟨c, heq.1 ▸ hc, hdecimal⟩
    · rw [heq, String.toList_append] at hc
      obtain hplus | hmem := List.mem_append.mp hc
      · rw [List.mem_singleton.mp hplus] at hdecimal
        exact absurd hdecimal (by decide +kernel)
      · rw [String.toList_ofList] at hmem
        exact ⟨c, hmem, hdecimal⟩
  · rintro ⟨body, n, hform, hchars, ⟨c, hc, hdecimal⟩, hparse, hvalid, hphone⟩
    obtain ⟨hdrop, hplus⟩ := plain_of hform hchars
    have hmem : c ∈ raw.toList := by
      obtain rfl | rfl := hform
      · exact hc
      · rw [String.toList_append]
        exact List.mem_append_right _ hc
    have hspace := (NavigationLemmas.of_isDecimal hdecimal).1
    have htext : strip text ≠ "" := by
      rintro hempty
      rw [hempty] at hraw
      rw [← hraw] at hmem
      cases hmem
    have hjunk : body.toList.filter (!isPhoneChar ·) = [] :=
      List.filter_eq_nil_iff.mpr fun d hd => by simp [hchars d hd]
    have hno : '+' ∉ body.toList := fun hin => by
      have hin' := hchars '+' hin
      rw [not_phoneChar.1] at hin'
      cases hin'
    rw [if_neg htext, if_neg (strip_ne_empty hmem hspace), List.any_eq_true.mpr ⟨c, hmem, hdecimal⟩,
      hdrop, if_neg hno, hasExtension_of_phoneChars hchars, hjunk, hplus]
    exact parsePhone_eq_ok.mpr ⟨n, hparse, hvalid, hphone⟩

namespace PhonesLemmas

open NavigationLemmas

/-! ## Canonical phones -/

theorem digits_of_valid (hlib : lib.Documented) {n : lib.Number} (hvalid : lib.isValid n = true) :
    ∃ digits : String, .ofList ((lib.e164 n).toList.dropWhile (· = '+')) = digits ∧
      lib.e164 n = "+" ++ digits ∧ digits ≠ "" ∧ ∀ c ∈ digits.toList, isDecimal c = true := by
  obtain ⟨digits, hform, hne, hdigits⟩ := hlib.e164_digits n hvalid
  refine ⟨digits, ?_, hform, hne, fun c hc => isDecimal_of_ascii (hdigits c hc)⟩
  have hplus : ∀ c ∈ digits.toList, c ≠ '+' := by
    rintro c hc rfl
    exact absurd (hdigits _ hc).1 (by decide)
  have hlist : (lib.e164 n).toList = '+' :: digits.toList := by
    rw [hform, String.toList_append]
    rfl
  have hdrop : digits.toList.dropWhile (· = '+') = digits.toList := by
    cases hcases : digits.toList with
    | nil => rfl
    | cons c rest =>
      rw [List.dropWhile_cons_of_neg (by simpa using hplus c (by rw [hcases]; simp))]
  rw [hlist, List.dropWhile_cons_of_pos rfl, hdrop, String.ofList_toList]

theorem validatePhone_digits (hlib : lib.Documented) {n : lib.Number}
    (hvalid : lib.isValid n = true) (hform : lib.e164 n = "+" ++ phone) (hne : phone ≠ "")
    (hdigits : ∀ c ∈ phone.toList, isDecimal c = true) :
    validatePhone lib (some phone) required = .ok (some phone) := by
  obtain ⟨m, hparse, hvalid', hsame⟩ := hlib.parse_e164 n hvalid
  have hstrip : strip phone = phone := stripBy_eq_self fun c hc => (of_isDecimal (hdigits c hc)).1
  refine validatePhone_eq_ok.mpr
    ⟨phone, m, Or.inl ?_, fun c hc => ?_, ?_, hform ▸ hparse, hvalid', ?_⟩
  · rw [hstrip, stripPhoneSuffixes_of_isDecimal hdigits]
  · unfold isPhoneChar
    rw [hdigits c hc]
    rfl
  · cases hcases : phone.toList with
    | nil => exact absurd (String.toList_inj.mp hcases) hne
    | cons c rest => exact ⟨c, List.mem_cons_self, hdigits c (by rw [hcases]; simp)⟩
  · obtain ⟨digits, hdrop, hform', _, _⟩ := digits_of_valid hlib hvalid'
    rw [hsame, hform, ← String.toList_inj, String.toList_append, String.toList_append] at hform'
    rw [hdrop, String.toList_inj.mp (List.append_cancel_left hform')]

/-! ## Identifiers -/

theorem not_lid {front back : List Char} (hfront : '@' ∉ front) (hback : '@' ∉ back)
    (hhead : back.head? ≠ some 'l') : ¬['@', 'l', 'i', 'd'] <:+: front ++ '@' :: back := by
  rintro ⟨pre, post, h⟩
  rw [List.append_assoc] at h
  obtain ⟨mid, hmid, hrest⟩ | ⟨mid, hmid, hrest⟩ := List.append_eq_append_iff.mp h
  · cases mid with
    | nil => exact hhead (by rw [← (List.cons.inj hrest).2]; rfl)
    | cons c mid => exact hfront (by rw [hmid, ← (List.cons.inj hrest).1]; simp)
  · cases mid with
    | nil => exact hhead (by rw [(List.cons.inj hrest).2]; rfl)
    | cons c mid => exact hback (by rw [(List.cons.inj hrest).2]; simp)

/-- What may stand behind the digits of an identifier. -/
structure IsRest (rest : List Char) : Prop where
  head : ∀ c ∈ rest.head?, c = '@' ∨ c = ':'
  noSpace : ∀ c ∈ rest, isSpace c = false
  noLid : '@' ∉ rest ∨ ∃ front back, rest = front ++ '@' :: back ∧ '@' ∉ front ∧ '@' ∉ back ∧
    back.head? ≠ some 'l'

theorem takeWhile_front {front rest : List Char} (hat : '@' ∉ front) (hcolon : ':' ∉ front)
    (hhead : ∀ c ∈ rest.head?, c = '@' ∨ c = ':') :
    ((front ++ rest).takeWhile (· ≠ '@')).takeWhile (· ≠ ':') = front := by
  have hat' : ∀ c ∈ front, decide (c ≠ '@') = true := fun c hc =>
    decide_eq_true fun heq => hat (heq ▸ hc)
  have hcolon' : ∀ c ∈ front, decide (c ≠ ':') = true := fun c hc =>
    decide_eq_true fun heq => hcolon (heq ▸ hc)
  rw [List.takeWhile_append_of_pos hat', List.takeWhile_append_of_pos hcolon']
  cases rest with
  | nil => simp
  | cons c rest =>
    obtain rfl | rfl := hhead c rfl
    · simp
    · simp

theorem normalizePhone_rest {plus rest : List Char} (hplus : plus ∈ [[], ['+']]) (hne : phone ≠ "")
    (hdigits : ∀ c ∈ phone.toList, isDecimal c = true) (hrest : IsRest rest) :
    normalizePhone (some (.ofList (plus ++ phone.toList ++ rest))) = some phone := by
  have hplus' : ∀ c ∈ plus, c = '+' := by
    intro c hc
    simp only [List.mem_cons, List.not_mem_nil, or_false] at hplus
    obtain rfl | rfl := hplus
    · cases hc
    · exact List.mem_singleton.mp hc
  have hfront : ∀ c ∈ plus ++ phone.toList, isSpace c = false ∧ c ≠ '@' ∧ c ≠ ':' := by
    intro c hc
    obtain hc | hc := List.mem_append.mp hc
    · rw [hplus' c hc]
      decide
    · exact of_isDecimal (hdigits c hc)
  have hat : '@' ∉ plus ++ phone.toList := fun hmem => (hfront _ hmem).2.1 rfl
  have hcolon : ':' ∉ plus ++ phone.toList := fun hmem => (hfront _ hmem).2.2 rfl
  have hstrip : strip (.ofList (plus ++ phone.toList ++ rest)) =
      .ofList (plus ++ phone.toList ++ rest) := by
    refine stripBy_eq_self fun c hc => ?_
    rw [String.toList_ofList] at hc
    obtain hc | hc := List.mem_append.mp hc
    · exact (hfront c hc).1
    · exact hrest.noSpace c hc
  have hsome : (String.ofList (plus ++ phone.toList ++ rest)) ≠ "" := by
    rw [ne_eq, ← String.toList_inj, String.toList_ofList]
    intro hnil
    rw [List.append_assoc] at hnil
    exact hne (String.toList_inj.mp (List.append_eq_nil_iff.mp
      (List.append_eq_nil_iff.mp hnil).2).1)
  have hlid : occursIn "@lid" (.ofList (plus ++ phone.toList ++ rest)) = false := by
    refine decide_eq_false ?_
    rw [String.toList_ofList, String.toList_ofList]
    obtain hnone | ⟨front, back, rfl, hf, hb, hhead⟩ := hrest.noLid
    · intro hin
      have hmem : '@' ∈ plus ++ phone.toList ++ rest := 
        hin.subset List.mem_cons_self
      exact (List.mem_append.mp hmem).elim hat hnone
    · rw [← List.append_assoc]
      exact not_lid (fun hmem => (List.mem_append.mp hmem).elim hat hf) hb hhead
  have hfilter : (plus ++ phone.toList).filter isDecimal = phone.toList := by
    have hnil : plus.filter isDecimal = [] := List.filter_eq_nil_iff.mpr fun c hc => by
      rw [hplus' c hc]
      decide
    rw [List.filter_append, hnil, List.nil_append, List.filter_eq_self.mpr hdigits]
  unfold normalizePhone
  rw [Option.bind_some]
  dsimp only
  rw [hstrip, if_neg hsome, hlid, if_neg Bool.false_ne_true]
  unfold stripPhoneSuffixes
  rw [String.toList_ofList, String.toList_ofList, takeWhile_front hat hcolon hrest.head, hfilter,
    String.ofList_toList, if_neg hne]

theorem suffix_cases {suffix : String} (h : suffix ∈ ["", "@c.us", "@s.whatsapp.net"]) :
    suffix.toList = [] ∨ ∃ c back, suffix.toList = '@' :: c :: back ∧ c ≠ 'l' ∧
      '@' ∉ c :: back ∧ suffix.toList.all (!isSpace ·) = true := by
  simp only [List.mem_cons, List.not_mem_nil, or_false] at h
  obtain rfl | rfl | rfl := h
  · exact Or.inl rfl
  · exact Or.inr ⟨'c', ['.', 'u', 's'], by decide⟩
  · exact Or.inr ⟨'s', "." ++ "whatsapp.net" |>.toList, by decide⟩

theorem isRest_suffix {suffix : String} (h : suffix ∈ ["", "@c.us", "@s.whatsapp.net"]) :
    IsRest suffix.toList := by
  obtain hnil | ⟨c, back, hlist, hc, hback, hspace⟩ := suffix_cases h
  · rw [hnil]
    exact ⟨(fun _ h => nomatch h), (fun _ h => nomatch h), Or.inl List.not_mem_nil⟩
  · refine ⟨fun d hd => ?_, fun d hd => by simpa using List.all_eq_true.mp hspace d hd,
      Or.inr ⟨[], c :: back, hlist, List.not_mem_nil, hback, ?_⟩⟩
    · rw [hlist] at hd
      exact Or.inl (Option.some.inj hd).symm
    · exact fun heq => hc (Option.some.inj heq)

theorem isRest_device_suffix {suffix device : String}
    (h : suffix ∈ ["", "@c.us", "@s.whatsapp.net"])
    (hdevice : ∀ c ∈ device.toList, c ≠ '@' ∧ isSpace c = false) :
    IsRest (':' :: device.toList ++ suffix.toList) := by
  have hat : '@' ∉ ':' :: device.toList := fun hmem => by
    obtain heq | hmem := List.mem_cons.mp hmem
    · exact absurd heq (by decide)
    · exact (hdevice _ hmem).1 rfl
  refine ⟨fun c hc => Or.inr (Option.some.inj hc).symm, fun c hc => ?_, ?_⟩
  · obtain hc | hc := List.mem_append.mp hc
    · obtain rfl | hc := List.mem_cons.mp hc
      · decide
      · exact (hdevice c hc).2
    · exact (isRest_suffix h).noSpace c hc
  · obtain hnil | ⟨c, back, hlist, hc, hback, _⟩ := suffix_cases h
    · refine Or.inl ?_
      rw [hnil, List.append_nil]
      exact hat
    · exact Or.inr ⟨_, c :: back, by rw [hlist], hat, hback,
        fun heq => hc (Option.some.inj heq)⟩

theorem isRest_suffix_device {suffix device : String}
    (h : suffix ∈ ["", "@c.us", "@s.whatsapp.net"])
    (hdevice : ∀ c ∈ device.toList, c ≠ '@' ∧ isSpace c = false) :
    IsRest (suffix.toList ++ ':' :: device.toList) := by
  have hat : '@' ∉ ':' :: device.toList := fun hmem => by
    obtain heq | hmem := List.mem_cons.mp hmem
    · exact absurd heq (by decide)
    · exact (hdevice _ hmem).1 rfl
  obtain hnil | ⟨c, back, hlist, hc, hback, hspace⟩ := suffix_cases h
  · have hrest := @isRest_device_suffix "" device List.mem_cons_self hdevice
    rw [hnil]
    rwa [show "".toList = [] from rfl, List.append_nil] at hrest
  · refine ⟨fun d hd => ?_, fun d hd => ?_, Or.inr ⟨[], c :: back ++ ':' :: device.toList, ?_,
      List.not_mem_nil, ?_, fun heq => hc (Option.some.inj heq)⟩⟩
    · rw [hlist] at hd
      exact Or.inl (Option.some.inj hd).symm
    · obtain hd | hd := List.mem_append.mp hd
      · simpa using List.all_eq_true.mp hspace d hd
      · obtain rfl | hd := List.mem_cons.mp hd
        · decide
        · exact (hdevice d hd).2
    · rw [hlist]
      rfl
    · exact fun hmem => (List.mem_append.mp hmem).elim hback hat

theorem exists_rest (h : IsIdentifier phone id) : ∃ plus rest, plus ∈ [[], ['+']] ∧ IsRest rest ∧
    id = .ofList (plus ++ phone.toList ++ rest) := by
  obtain ⟨plus, hplus, suffix, hsuffix, hid⟩ := h
  have hplus' : plus.toList ∈ [[], ['+']] := by
    simp only [List.mem_cons, List.not_mem_nil, or_false] at hplus ⊢
    obtain rfl | rfl := hplus
    · exact Or.inl rfl
    · exact Or.inr rfl
  obtain hid | ⟨device, hdevice, hid | hid⟩ := hid
  · refine ⟨plus.toList, suffix.toList, hplus', isRest_suffix hsuffix, ?_⟩
    rw [hid, ← String.toList_inj, String.toList_ofList, String.toList_append, String.toList_append]
  · refine ⟨plus.toList, _, hplus', isRest_device_suffix hsuffix hdevice, ?_⟩
    rw [hid, ← String.toList_inj, String.toList_ofList]
    simp only [String.toList_append, List.append_assoc, List.cons_append]
    rfl
  · refine ⟨plus.toList, _, hplus', isRest_suffix_device hsuffix hdevice, ?_⟩
    rw [hid, ← String.toList_inj, String.toList_ofList]
    simp only [String.toList_append, List.append_assoc]
    rfl

end PhonesLemmas

theorem canonical_of_stored (hlib : lib.Documented)
    (h : validatePhone lib (some text) required = .ok (some phone)) : phone ≠ "" ∧
      (∀ c ∈ phone.toList, isDecimal c = true) ∧
      ∃ n, lib.isValid n = true ∧ lib.e164 n = "+" ++ phone := by
  obtain ⟨_, n, _, _, _, _, hvalid, rfl⟩ := validatePhone_eq_ok.mp h
  obtain ⟨digits, hdrop, hform, hne, hdigits⟩ := digits_of_valid hlib hvalid
  rw [hdrop]
  exact ⟨hne, hdigits, n, hvalid, hform⟩

theorem normalizePhone_identifier (hlib : lib.Documented)
    (h : validatePhone lib (some text) required = .ok (some phone)) (hid : IsIdentifier phone id) :
    normalizePhone (some id) = some phone := by
  obtain ⟨hne, hdigits, _⟩ := canonical_of_stored hlib h
  obtain ⟨plus, rest, hplus, hrest, rfl⟩ := exists_rest hid
  exact normalizePhone_rest hplus hne hdigits hrest

/-- The two functions agree on a text, exactly if it is not a LID whose front is a number. -/
theorem agrees_iff (hlib : lib.Documented) (text : String) (required : Bool) :
    Agrees lib text required ↔
      ¬(isLid text = true ∧ IsNumber lib (stripPhoneSuffixes (strip text))) := by
  constructor
  · rintro hagrees ⟨hlid, body, n, hform, hchars, hdigit, hparse, hvalid⟩
    exact hagrees.lid hlid _
      (validatePhone_eq_ok.mpr ⟨body, n, hform, hchars, hdigit, hparse, hvalid, rfl⟩)
  · intro hnot
    refine ⟨fun phone h => ?_, fun hlid phone h => hnot ⟨hlid, ?_⟩⟩
    · obtain ⟨hne, hdigits, n, hvalid, hform⟩ := canonical_of_stored hlib h
      exact ⟨NavigationLemmas.normalizePhone_of_isDecimal hdigits hne,
        fun _ => validatePhone_digits hlib hvalid hform hne hdigits,
        fun id hid => normalizePhone_identifier hlib h hid⟩
    · obtain ⟨body, n, hform, hchars, hdigit, hparse, hvalid, _⟩ := validatePhone_eq_ok.mp h
      exact ⟨body, n, hform, hchars, hdigit, hparse, hvalid⟩

def exPhones : PhoneNumbers where
  Number := Unit
  parse text := if text = "+573001234567" then some () else none
  isValid _ := true
  e164 _ := "+573001234567"

theorem exPhones_documented : exPhones.Documented where
  e164_digits _ _ := by
    have hdigits : "573001234567".toList.all
        (fun c => decide (0x30 ≤ c.toNat ∧ c.toNat ≤ 0x39)) = true := by decide
    exact ⟨"573001234567", rfl, by decide, fun c hc =>
      of_decide_eq_true (List.all_eq_true.mp hdigits c hc)⟩
  parse_e164 _ _ := ⟨(), rfl, rfl, rfl⟩

theorem agrees_plain : exPhones.Documented ∧ (Agrees exPhones "+57 300-1234567" false ↔
      ¬(isLid "+57 300-1234567" = true ∧
        IsNumber exPhones (stripPhoneSuffixes (strip "+57 300-1234567")))) :=
  ⟨exPhones_documented, agrees_iff exPhones_documented "+57 300-1234567" false⟩

/-- A LID whose digits are a valid number is stored as that number. -/
theorem lid_stored : normalizePhone (some "573001234567@lid") = none ∧
    validatePhone exPhones (some "573001234567@lid") false = .ok (some "573001234567") ∧
    ¬Agrees exPhones "573001234567@lid" false := by
  have hreads : isLid "573001234567@lid" = true ∧
      normalizePhone (some "573001234567@lid") = none ∧
      stripPhoneSuffixes (strip "573001234567@lid") = "573001234567" ∧
      "573001234567".toList.all isPhoneChar = true ∧
      "573001234567".toList.any isDecimal = true := by
    decide +kernel
  obtain ⟨hlid, hnone, hfront, hchars, hdigit⟩ := hreads
  have hstored : validatePhone exPhones (some "573001234567@lid") false =
      .ok (some "573001234567") :=
    validatePhone_eq_ok.mpr ⟨"573001234567", (), Or.inl hfront, List.all_eq_true.mp hchars,
      List.any_eq_true.mp hdigit, rfl, rfl, rfl⟩
  exact ⟨hnone, hstored, fun hagrees => hagrees.lid hlid _ hstored⟩

end Trackpal.Accounts.Phones

import Trackpal.Foundation.Text

/-!
# Commands and addresses

What the console compares a message with, and the phones and addresses that it derives from the
fields of a request.

Results:
1. `normalizePhone_idem`: a normalized phone is its own normal form.
2. `mem_closeJids_admin`, `mem_closeJids_target`: the chats that a closed shortcut lists.
-/

namespace Trackpal.Console

open Trackpal.Foundation

/-! ## Messages -/

/-- `str.upper`, as far as the result is written in letters of a command. -/
def upperChar (c : Char) : List Char :=
  match c.toNat with
  | 0xdf => ['S', 'S']
  | 0x131 => ['I']
  | 0x17f => ['S']
  | 0xfb00 => ['F', 'F']
  | 0xfb01 => ['F', 'I']
  | 0xfb02 => ['F', 'L']
  | 0xfb03 => ['F', 'F', 'I']
  | 0xfb04 => ['F', 'F', 'L']
  | 0xfb05 | 0xfb06 => ['S', 'T']
  | _ => [c.toUpper]

def strip (text : String) : String := stripBy isSpace text

def upper (text : String) : String := .ofList (text.toList.flatMap upperChar)

def clean (message : String) : String := lower (strip message)

def isBack (message : String) : Bool := clean message = "9"

def cancelAliases : List String := ["cancelar", "cancel", "salir", "cerrar", "exit", "close"]

def isCancel (message : String) : Bool :=
  clean message = "0" || clean message ∈ cancelAliases

/-- `stripped.upper() in ("CONFIRMAR", "CONFIRM")`. -/
def confirms (message : String) : Bool :=
  upper (strip message) = "CONFIRMAR" || upper (strip message) = "CONFIRM"

/-- `msg_lower.strip().lower() in ("confirmar", "confirm")`. -/
def confirmsLower (message : String) : Bool :=
  clean message = "confirmar" || clean message = "confirm"

def otherDigits : List (Nat × Nat) :=
  [(0xb2, 0xb3), (0xb9, 0xb9), (0x1369, 0x1371), (0x19da, 0x19da), (0x2070, 0x2070),
    (0x2074, 0x2079), (0x2080, 0x2089), (0x2460, 0x2468), (0x2474, 0x247c), (0x2488, 0x2490),
    (0x24ea, 0x24ea), (0x24f5, 0x24fd), (0x24ff, 0x24ff), (0x2776, 0x277e), (0x2780, 0x2788),
    (0x278a, 0x2792), (0x10a40, 0x10a43), (0x10e60, 0x10e68), (0x11052, 0x1105a),
    (0x1f100, 0x1f10a)]

/-- `str.isdigit`. -/
def isDigits (text : String) : Bool :=
  text ≠ "" && text.toList.all fun c =>
    isDecimal c || otherDigits.any fun range => range.1 ≤ c.toNat && c.toNat ≤ range.2

/-! ## Phones and addresses -/

def stripPhoneSuffixes (raw : String) : String :=
  .ofList ((raw.toList.takeWhile (· ≠ '@')).takeWhile (· ≠ ':'))

def normalizePhone (value : Option String) : Option String :=
  value.bind fun value =>
    let raw := strip value
    if raw = "" then none
    else if occursIn "@lid" raw then none
    else
      let digits := String.ofList ((stripPhoneSuffixes raw).toList.filter isDecimal)
      if digits = "" then none else some digits

/-- A text that is there and not empty. -/
def truthy (value : Option String) : Option String := value.filter (· ≠ "")

/-- The address without its device, if it has the suffix. -/
def canonicalWith (suffix jid : String) : Option String :=
  if suffix.toList <:+ jid.toList then
    let localPart := jid.toList.take (jid.length - suffix.length)
    some (.ofList (localPart.takeWhile (· ≠ ':') ++ suffix.toList))
  else none

def canonicalJid (jid : Option String) : Option String :=
  (truthy jid).map fun jid =>
    (canonicalWith "@s.whatsapp.net" jid).getD ((canonicalWith "@c.us" jid).getD jid)

def phoneJid (phone : String) : String := phone ++ "@s.whatsapp.net"

def jidPhone (jid : Option String) : Option String :=
  (truthy jid).bind fun jid =>
    if occursIn "@s.whatsapp.net" jid then
      normalizePhone (some (stripPhoneSuffixes jid))
    else none

def clientContextCloseJids (targetPhone targetJid adminJid : Option String) : List String :=
  let values := [canonicalJid adminJid, canonicalJid targetJid,
    (normalizePhone targetPhone).map phoneJid]
  (values.filterMap truthy).eraseDups

def clientContextNotificationTarget (targetPhone targetJid targetLid : Option String) :
    Option String :=
  truthy (canonicalJid targetJid) <|> (normalizePhone targetPhone).map phoneJid <|>
    canonicalJid targetLid

variable {raw phone : String} {targetPhone targetJid adminJid : Option String} {jid : String}

/-! ## Canonical phones -/

namespace NavigationLemmas

theorem decimal_spec : ∀ first ∈ decimalZeros, ∀ k < 10,
    (((0x09 ≤ first + k && first + k ≤ 0x0d) || (0x1c ≤ first + k && first + k ≤ 0x20) ||
      first + k = 0x85 || first + k = 0xa0 || first + k = 0x1680 ||
      (0x2000 ≤ first + k && first + k ≤ 0x200a) || first + k = 0x2028 || first + k = 0x2029 ||
      first + k = 0x202f || first + k = 0x205f || first + k = 0x3000) = false) ∧
      first + k ≠ 0x40 ∧ first + k ≠ 0x3a := by
  decide +kernel

theorem of_isDecimal {c : Char} (h : isDecimal c = true) :
    isSpace c = false ∧ c ≠ '@' ∧ c ≠ ':' := by
  obtain ⟨first, hfirst, hrange⟩ := List.any_eq_true.mp h
  simp only [Bool.and_eq_true, decide_eq_true_eq] at hrange
  obtain ⟨hspace, hat, hcolon⟩ := decimal_spec first hfirst (c.toNat - first) (by omega)
  rw [Nat.add_sub_cancel' hrange.1] at hspace hat hcolon
  refine ⟨hspace, ?_, ?_⟩
  · rintro rfl
    exact hat rfl
  · rintro rfl
    exact hcolon rfl

theorem stripPhoneSuffixes_of_isDecimal (h : ∀ c ∈ phone.toList, isDecimal c = true) :
    stripPhoneSuffixes phone = phone := by
  have hat : phone.toList.takeWhile (· ≠ '@') = phone.toList :=
    List.takeWhile_eq_self_iff.mpr fun c hc => by simpa using (of_isDecimal (h c hc)).2.1
  have hcolon : phone.toList.takeWhile (· ≠ ':') = phone.toList :=
    List.takeWhile_eq_self_iff.mpr fun c hc => by simpa using (of_isDecimal (h c hc)).2.2
  unfold stripPhoneSuffixes
  rw [hat, hcolon, String.ofList_toList]

theorem normalizePhone_of_isDecimal (h : ∀ c ∈ phone.toList, isDecimal c = true)
    (hne : phone ≠ "") : normalizePhone (some phone) = some phone := by
  have hstrip : strip phone = phone := stripBy_eq_self fun c hc => (of_isDecimal (h c hc)).1
  have hlid : occursIn "@lid" phone = false := by
    refine decide_eq_false fun hin => ?_
    have hmem : '@' ∈ phone.toList := hin.subset (by decide)
    exact (of_isDecimal (h '@' hmem)).2.1 rfl
  unfold normalizePhone
  rw [Option.bind_some]
  dsimp only
  rw [hstrip, if_neg hne, hlid, if_neg Bool.false_ne_true, stripPhoneSuffixes_of_isDecimal h,
    List.filter_eq_self.mpr h, String.ofList_toList, if_neg hne]

end NavigationLemmas

open NavigationLemmas

theorem isDecimal_of_normalizePhone (h : normalizePhone targetPhone = some phone) :
    phone ≠ "" ∧ ∀ c ∈ phone.toList, isDecimal c = true := by
  obtain ⟨raw, -, h⟩ := Option.bind_eq_some_iff.mp h
  dsimp only at h
  split at h
  · cases h
  split at h
  · cases h
  split at h
  · cases h
  next hne =>
  rw [← Option.some.inj h]
  refine ⟨hne, fun c hc => ?_⟩
  rw [String.toList_ofList] at hc
  exact (List.mem_filter.mp hc).2

theorem normalizePhone_idem (h : normalizePhone targetPhone = some phone) :
    normalizePhone (some phone) = some phone :=
  normalizePhone_of_isDecimal (isDecimal_of_normalizePhone h).2 (isDecimal_of_normalizePhone h).1

theorem truthy_of_normalizePhone (h : normalizePhone (some raw) = some phone) :
    truthy (some raw) = some raw := by
  refine Option.filter_eq_some_iff.mpr ⟨rfl, decide_eq_true ?_⟩
  rintro rfl
  have hempty : strip "" = "" := stripBy_eq_self fun c hc => absurd hc List.not_mem_nil
  unfold normalizePhone at h
  rw [Option.bind_some, hempty, if_pos rfl] at h
  cases h

/-! ## The chats that a closed shortcut lists -/

theorem mem_closeJids_admin (h : canonicalJid adminJid = some jid) (hne : jid ≠ "") :
    jid ∈ clientContextCloseJids targetPhone targetJid adminJid := by
  refine List.mem_eraseDups.mpr (List.mem_filterMap.mpr ⟨some jid, ?_, ?_⟩)
  · simp [h]
  · simp [truthy, Option.filter, hne]

theorem mem_closeJids_target (h : canonicalJid targetJid = some jid) (hne : jid ≠ "") :
    jid ∈ clientContextCloseJids targetPhone targetJid adminJid := by
  refine List.mem_eraseDups.mpr (List.mem_filterMap.mpr ⟨some jid, ?_, ?_⟩)
  · simp [h]
  · simp [truthy, Option.filter, hne]

/-! ## Digits and words -/

namespace NavigationLemmas

theorem lower_decimal_spec : ∀ first ∈ decimalZeros, ∀ k < 10,
    first + k ≠ 0x212a ∧ first + k ≠ 0xd3 ∧ first + k ≠ 0xda ∧
      ¬(65 ≤ first + k ∧ first + k ≤ 90) := by
  decide +kernel

theorem lowerChar_of_isDecimal {c : Char} (h : isDecimal c = true) : lowerChar c = c := by
  obtain ⟨first, hfirst, hrange⟩ := List.any_eq_true.mp h
  simp only [Bool.and_eq_true, decide_eq_true_eq] at hrange
  obtain ⟨hkelvin, ho, hu, hletter⟩ := lower_decimal_spec first hfirst (c.toNat - first) (by omega)
  rw [Nat.add_sub_cancel' hrange.1] at hkelvin ho hu hletter
  unfold lowerChar
  rw [if_neg hkelvin, if_neg ho, if_neg hu]
  unfold Char.toLower
  rw [dif_neg]
  rintro ⟨hA, hZ⟩
  exact hletter ⟨hA, hZ⟩

theorem lower_ne_word {text word : String} (h : ∃ c ∈ text.toList, isDecimal c = true)
    (hword : word.toList.all (fun c => !isDecimal c) = true) : lower text ≠ word := by
  rintro rfl
  obtain ⟨c, hc, hdecimal⟩ := h
  have hmem : lowerChar c ∈ (lower text).toList := by
    unfold lower
    rw [String.toList_ofList]
    exact List.mem_map_of_mem hc
  have hnot := List.all_eq_true.mp hword _ hmem
  rw [lowerChar_of_isDecimal hdecimal, hdecimal] at hnot
  cases hnot

theorem lower_singleton {text : String} {digit : Char} (h : ∃ c ∈ text.toList, isDecimal c = true)
    (hlower : lower text = .ofList [digit]) : text = .ofList [digit] := by
  obtain ⟨c, hc, hdecimal⟩ := h
  have hlist : text.toList.map lowerChar = [digit] := by
    have hchars := congrArg String.toList hlower
    unfold lower at hchars
    rwa [String.toList_ofList, String.toList_ofList] at hchars
  obtain ⟨d, hd, hdigit⟩ := List.map_eq_singleton_iff.mp hlist
  rw [hd, List.mem_singleton] at hc
  rw [← hc, lowerChar_of_isDecimal hdecimal] at hdigit
  rw [← String.ofList_toList (s := text), hd, ← hc, hdigit]

theorem words_spec : ∀ word ∈ cancelAliases ++ ["menu", "menú", "/menu", "ayuda"],
    word.toList.all (fun c => !isDecimal c) = true := by
  decide +kernel

end NavigationLemmas

/-! ## Stripping twice -/

section Strip

variable {message : String}

theorem strip_strip : strip (strip message) = strip message := stripBy_idem

theorem clean_strip : clean (strip message) = clean message := by
  unfold clean
  rw [strip_strip]

theorem isBack_strip : isBack (strip message) = isBack message := by
  unfold isBack
  rw [clean_strip]

theorem isCancel_strip : isCancel (strip message) = isCancel message := by
  unfold isCancel
  rw [clean_strip]

end Strip

end Trackpal.Console

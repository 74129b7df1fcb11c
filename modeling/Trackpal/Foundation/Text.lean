import Mathlib.Data.List.DropRight
import Mathlib.Data.List.Infix

/-!
# Texts

The string methods that a program uses on texts it is given: the white space and the
decimal digits of Unicode, stripping at both ends, the collapse of white space, the search
for a part, and the reading of a number.

Results:
1. `stripBy_idem`: a text is stripped once.
2. `toList_eq_decodeBytes`: the characters of a text are read from its bytes.
-/

namespace Trackpal.Foundation

/-- The characters for which `isspace` holds. -/
def isSpace (c : Char) : Bool :=
  let n := c.toNat
  (0x09 ≤ n && n ≤ 0x0d) || (0x1c ≤ n && n ≤ 0x20) || n = 0x85 || n = 0xa0 || n = 0x1680 ||
    (0x2000 ≤ n && n ≤ 0x200a) || n = 0x2028 || n = 0x2029 || n = 0x202f || n = 0x205f || n = 0x3000

/-- The text without its characters in `p` at the start and at the end. -/
def stripBy (p : Char → Bool) (text : String) : String :=
  .ofList ((text.toList.dropWhile p).rdropWhile p)

/-- The white space of scripts. -/
def isBlank (c : Char) : Bool :=
  let n := c.toNat
  (0x09 ≤ n && n ≤ 0x0d) || n = 0x20 || n = 0xa0 || n = 0x1680 || (0x2000 ≤ n && n ≤ 0x200a) ||
    n = 0x2028 || n = 0x2029 || n = 0x202f || n = 0x205f || n = 0x3000 || n = 0xfeff

def trim (text : String) : String := stripBy isBlank text

/-- `str.lower`, as far as the result is an ASCII letter or one of `óú`. -/
def lowerChar (c : Char) : Char :=
  if c.toNat = 0x212a then 'k'
  else if c.toNat = 0xd3 then 'ó'
  else if c.toNat = 0xda then 'ú'
  else c.toLower

def lower (text : String) : String := .ofList (text.toList.map lowerChar)

/-- Whether `part` occurs in the text. -/
def occursIn (part text : String) : Bool := decide (part.toList <:+: text.toList)

/-- Each run of white space becomes one blank. `inRun` holds inside a run. -/
def collapseSpaces (inRun : Bool) : List Char → List Char
  | [] => []
  | c :: text =>
    if isSpace c then if inRun then collapseSpaces true text else ' ' :: collapseSpaces true text
    else c :: collapseSpaces false text

def decimalZeros : List Nat :=
  [0x30, 0x660, 0x6f0, 0x7c0, 0x966, 0x9e6, 0xa66, 0xae6, 0xb66, 0xbe6, 0xc66, 0xce6, 0xd66, 0xde6,
    0xe50, 0xed0, 0xf20, 0x1040, 0x1090, 0x17e0, 0x1810, 0x1946, 0x19d0, 0x1a80, 0x1a90, 0x1b50,
    0x1bb0, 0x1c40, 0x1c50, 0xa620, 0xa8d0, 0xa900, 0xa9d0, 0xa9f0, 0xaa50, 0xabf0, 0xff10, 0x104a0,
    0x10d30, 0x11066, 0x110f0, 0x11136, 0x111d0, 0x112f0, 0x11450, 0x114d0, 0x11650, 0x116c0,
    0x11730, 0x118e0, 0x11950, 0x11c50, 0x11d50, 0x11da0, 0x11f50, 0x16a60, 0x16ac0, 0x16b50,
    0x1d7ce, 0x1d7d8, 0x1d7e2, 0x1d7ec, 0x1d7f6, 0x1e140, 0x1e2f0, 0x1e4f0, 0x1e950, 0x1fbf0]

/-- The characters that `\d` matches. -/
def isDecimal (c : Char) : Bool :=
  decimalZeros.any fun first => first ≤ c.toNat && c.toNat < first + 10

def decimalValue (c : Char) : Option Nat :=
  (decimalZeros.find? fun first => first ≤ c.toNat && c.toNat < first + 10).map (c.toNat - ·)

def readDigits (value : Nat) : List Char → Option Nat
  | [] => some value
  | '_' :: c :: rest => (decimalValue c).bind fun digit => readDigits (10 * value + digit) rest
  | c :: rest => (decimalValue c).bind fun digit => readDigits (10 * value + digit) rest

def readNat : List Char → Option Nat
  | [] => none
  | c :: rest => (decimalValue c).bind fun digit => readDigits digit rest

/-- The white space that `int` drops: not the separators of ASCII. -/
def isIntSpace (c : Char) : Bool := isSpace c && !(0x1c ≤ c.toNat && c.toNat ≤ 0x1f)

/-- `int` of a text. -/
def readInt (text : List Char) : Option Int :=
  match (text.dropWhile isIntSpace).rdropWhile isIntSpace with
  | '-' :: rest => (readNat rest).map fun n => -(n : Int)
  | '+' :: rest => (readNat rest).map Int.ofNat
  | rest => (readNat rest).map Int.ofNat

/-- `int`, which raises a `ValueError` for too many digits. -/
def parseInt (text : String) : Option Int :=
  if 4300 < text.toList.countP isDecimal then none else readInt text.toList

variable {p : Char → Bool} {text : String}

@[simp] theorem toList_stripBy :
    (stripBy p text).toList = (text.toList.dropWhile p).rdropWhile p :=
  String.toList_ofList

/-- What is left of a text is a part of it. -/
theorem stripBy_infix : (stripBy p text).toList <:+: text.toList := by
  rw [toList_stripBy]
  exact (List.rdropWhile_prefix p _).isInfix.trans (List.dropWhile_suffix p).isInfix

/-- A text without a character to strip stays as it is. -/
theorem stripBy_eq_self (h : ∀ c ∈ text.toList, p c = false) : stripBy p text = text := by
  have hfront : text.toList.dropWhile p = text.toList := by
    cases htext : text.toList with
    | nil => rfl
    | cons c rest => rw [List.dropWhile_cons_of_neg (by simp [h c (by simp [htext])])]
  have hback : text.toList.rdropWhile p = text.toList :=
    List.rdropWhile_eq_self_iff.mpr fun hne => by simp [h _ (List.getLast_mem hne)]
  rw [stripBy, hfront, hback, String.ofList_toList]

theorem stripBy_of_ends (hfront : ∀ c ∈ text.toList.head?, p c = false)
    (hback : ∀ c ∈ text.toList.getLast?, p c = false) : stripBy p text = text := by
  have hdrop : text.toList.dropWhile p = text.toList := by
    cases htext : text.toList with
    | nil => rfl
    | cons c rest => rw [List.dropWhile_cons_of_neg (by simp [hfront c (by simp [htext])])]
  have hrdrop : text.toList.rdropWhile p = text.toList :=
    List.rdropWhile_eq_self_iff.mpr fun hne => by
      simp [hback _ (List.getLast_mem_getLast? hne)]
  rw [stripBy, hdrop, hrdrop, String.ofList_toList]

theorem head_dropWhile {l : List Char} : ∀ c ∈ (l.dropWhile p).head?, p c = false := by
  induction l with
  | nil => exact fun c hc => nomatch hc
  | cons d l ih =>
    rw [List.dropWhile_cons]
    split
    · exact ih
    · next hd =>
      rintro c ⟨⟩
      simpa using hd

theorem ends_stripBy : (∀ c ∈ (stripBy p text).toList.head?, p c = false) ∧
    ∀ c ∈ (stripBy p text).toList.getLast?, p c = false := by
  rw [toList_stripBy]
  constructor
  · intro c hc
    obtain ⟨rest, hrest⟩ := List.rdropWhile_prefix p (text.toList.dropWhile p)
    refine head_dropWhile (l := text.toList) c ?_
    rw [← hrest, List.head?_append, Option.mem_def.mp hc]
    rfl
  · intro c hc
    obtain ⟨hne, rfl⟩ := List.mem_getLast?_eq_getLast hc
    simpa using List.rdropWhile_last_not p (text.toList.dropWhile p) hne

theorem stripBy_idem : stripBy p (stripBy p text) = stripBy p text :=
  stripBy_of_ends ends_stripBy.1 ends_stripBy.2

/-! ## The characters of a literal -/

/-- The characters of a text in UTF-8, as `String.toList` gives them. -/
def decodeBytes : List UInt8 → List Char
  | [] => []
  | b :: rest =>
    if b.toNat < 0x80 then Char.ofNat b.toNat :: decodeBytes rest
    else
      match rest with
      | [] => []
      | b₁ :: rest =>
        if b.toNat < 0xe0 then
          Char.ofNat ((b.toNat - 0xc0) * 64 + (b₁.toNat - 0x80)) :: decodeBytes rest
        else
          match rest with
          | [] => []
          | b₂ :: rest =>
            if b.toNat < 0xf0 then
              Char.ofNat (((b.toNat - 0xe0) * 64 + (b₁.toNat - 0x80)) * 64 + (b₂.toNat - 0x80)) ::
                decodeBytes rest
            else
              match rest with
              | [] => []
              | b₃ :: rest =>
                Char.ofNat ((((b.toNat - 0xf0) * 64 + (b₁.toNat - 0x80)) * 64 +
                  (b₂.toNat - 0x80)) * 64 + (b₃.toNat - 0x80)) :: decodeBytes rest

theorem toNat_byte {n : Nat} (h : n < 256) : (UInt8.ofNat n).toNat = n := by
  simp [h]

theorem decodeBytes_append {c : Char} {rest : List UInt8} :
    decodeBytes (String.utf8EncodeChar c ++ rest) = c :: decodeBytes rest := by
  have hvalid : c.val.toNat < 0xd800 ∨ 0xdfff < c.val.toNat ∧ c.val.toNat < 0x110000 := c.valid
  have hback : ∀ n, n = c.val.toNat → Char.ofNat n = c := fun n hn => by
    rw [hn]
    exact Char.ofNat_toNat c
  unfold String.utf8EncodeChar
  dsimp only
  split
  · simp only [List.cons_append, List.nil_append]
    rw [decodeBytes.eq_def]
    dsimp only
    rw [toNat_byte (by omega), if_pos (by omega), hback _ rfl]
  split
  · simp only [List.cons_append, List.nil_append]
    rw [decodeBytes.eq_def]
    dsimp only
    rw [toNat_byte (by omega), if_neg (by omega), toNat_byte (by omega), if_pos (by omega),
      hback _ (by omega)]
  split
  · simp only [List.cons_append, List.nil_append]
    rw [decodeBytes.eq_def]
    dsimp only
    rw [toNat_byte (by omega), if_neg (by omega), toNat_byte (by omega), if_neg (by omega),
      toNat_byte (by omega), if_pos (by omega), hback _ (by omega)]
  · simp only [List.cons_append, List.nil_append]
    rw [decodeBytes.eq_def]
    dsimp only
    rw [toNat_byte (by omega), if_neg (by omega), toNat_byte (by omega), if_neg (by omega),
      toNat_byte (by omega), if_neg (by omega), toNat_byte (by omega), hback _ (by omega)]

theorem decodeBytes_flatMap {l : List Char} : decodeBytes (l.flatMap String.utf8EncodeChar) = l := by
  induction l with
  | nil => rfl
  | cons c l ih => rw [List.flatMap_cons, decodeBytes_append, ih]

theorem toList_eq_decodeBytes (s : String) : s.toList = decodeBytes s.toByteArray.data.toList := by
  obtain ⟨l, rfl⟩ : ∃ l, s = String.ofList l := ⟨s.toList, String.ofList_toList.symm⟩
  rw [String.toList_ofList, String.toByteArray_ofList, List.utf8Encode, List.data_toByteArray]
  exact decodeBytes_flatMap.symm

end Trackpal.Foundation

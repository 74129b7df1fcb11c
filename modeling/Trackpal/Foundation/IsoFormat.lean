import Mathlib.Data.Nat.Digits.Defs
import Mathlib.Algebra.Order.Group.Unbundled.Int

/-!
# Date-times as texts

Numbers of a fixed width in a base up to sixteen, and aware date-times in the extended
format of ISO 8601, written and read. The reader takes the forms with separators, down to
the hour, with a fraction of six digits and an offset; it does not take the other forms of
the standard. A year is between 1 and 9999 and an offset is less than a day.

Results:
1. `read_write`: a numeral is read back.
2. `fromisoformat_isoformat`: a date-time is read back.
-/

namespace Trackpal.Foundation

/-! ## Numerals -/

def digitValue (c : Char) : Option Nat :=
  if '0' ≤ c ∧ c ≤ '9' then some (c.toNat - 48)
  else if 'a' ≤ c ∧ c ≤ 'f' then some (c.toNat - 87)
  else if 'A' ≤ c ∧ c ≤ 'F' then some (c.toNat - 55)
  else none

/-- A number with a fixed count of digits. -/
def writeNumeral (base : Nat) : Nat → Nat → List Char
  | 0, _ => []
  | width + 1, n => Nat.digitChar (n / base ^ width % base) :: writeNumeral base width n

def readNumeral (base : Nat) : Nat → Nat → List Char → Option (Nat × List Char)
  | 0, value, text => some (value, text)
  | _ + 1, _, [] => none
  | width + 1, value, c :: text => do
    let digit ← digitValue c
    if digit < base then readNumeral base width (value * base + digit) text else none

theorem digitValue_digitChar {d : Nat} (h : d < 16) : digitValue (Nat.digitChar d) = some d := by
  have hall : ∀ d < 16, digitValue (Nat.digitChar d) = some d := by decide
  exact hall d h

theorem read_write_append {base width value n : Nat} {rest : List Char} (hpos : 0 < base)
    (hbase : base ≤ 16) : readNumeral base width value (writeNumeral base width n ++ rest) =
      some (value * base ^ width + n % base ^ width, rest) := by
  induction width generalizing value with
  | zero => simp [readNumeral, writeNumeral, Nat.mod_one]
  | succ width ih =>
    have hdigit : n / base ^ width % base < base := Nat.mod_lt _ hpos
    rw [writeNumeral, List.cons_append, readNumeral,
      digitValue_digitChar (Nat.lt_of_lt_of_le hdigit hbase), Option.bind_eq_bind,
      Option.bind_some, if_pos hdigit, ih, Nat.mod_pow_succ]
    congr 2
    ring

theorem read_write {base width n : Nat} {rest : List Char} (hpos : 0 < base) (hbase : base ≤ 16)
    (h : n < base ^ width) :
    readNumeral base width 0 (writeNumeral base width n ++ rest) = some (n, rest) := by
  rw [read_write_append hpos hbase, Nat.zero_mul, Nat.zero_add, Nat.mod_eq_of_lt h]

/-! ## Date-times -/

/-- The fields of a `datetime`; the offset is in microseconds, and missing for a naive one. -/
structure DateTime where
  year : Nat
  month : Nat
  day : Nat
  hour : Nat
  minute : Nat
  second : Nat
  microsecond : Nat
  offset : Option Int
deriving DecidableEq, Repr

namespace DateTime

def isLeap (year : Nat) : Bool := year % 4 = 0 && (year % 100 ≠ 0 || year % 400 = 0)

def daysInMonth (year month : Nat) : Nat :=
  if month = 2 then if isLeap year then 29 else 28
  else if month ∈ [4, 6, 9, 11] then 30 else 31

/-- What the constructors check. -/
def Valid (dt : DateTime) : Prop :=
  1 ≤ dt.year ∧ dt.year ≤ 9999 ∧ 1 ≤ dt.month ∧ dt.month ≤ 12 ∧ 1 ≤ dt.day ∧
    dt.day ≤ daysInMonth dt.year dt.month ∧ dt.hour < 24 ∧ dt.minute < 60 ∧ dt.second < 60 ∧
    dt.microsecond < 1000000 ∧ ∀ offset ∈ dt.offset, offset.natAbs < 86400000000

instance (dt : DateTime) : Decidable dt.Valid := by
  unfold Valid
  exact inferInstance

def daysBefore (dt : DateTime) : Nat :=
  (dt.year - 1) * 365 + (dt.year - 1) / 4 - (dt.year - 1) / 100 + (dt.year - 1) / 400 +
    ((List.range (dt.month - 1)).map fun m => daysInMonth dt.year (m + 1)).sum + (dt.day - 1)

def instant (dt : DateTime) : Int :=
  ((((dt.daysBefore : Int) - 719162) * 24 + dt.hour) * 60 + dt.minute) * 60000000 +
    dt.second * 1000000 + dt.microsecond - dt.offset.getD 0

/-! ## Texts -/

def writeFraction (microsecond : Nat) : List Char :=
  if microsecond = 0 then [] else '.' :: writeNumeral 10 6 microsecond

def writeOffset (offset : Int) : List Char :=
  let total := offset.natAbs
  (if offset < 0 then '-' else '+') :: (writeNumeral 10 2 (total / 3600000000) ++
    ':' :: (writeNumeral 10 2 (total / 60000000 % 60) ++
      if total % 60000000 = 0 then []
      else ':' :: (writeNumeral 10 2 (total / 1000000 % 60) ++ writeFraction (total % 1000000))))

def isoformat (dt : DateTime) : List Char :=
  writeNumeral 10 4 dt.year ++ '-' :: (writeNumeral 10 2 dt.month ++ '-' ::
    (writeNumeral 10 2 dt.day ++ 'T' :: (writeNumeral 10 2 dt.hour ++ ':' ::
      (writeNumeral 10 2 dt.minute ++ ':' :: (writeNumeral 10 2 dt.second ++
        (writeFraction dt.microsecond ++ (dt.offset.map writeOffset).getD []))))))

/-- Read a character that has to be there. -/
def expect (c : Char) : List Char → Option (List Char)
  | [] => none
  | c' :: text => if c' = c then some text else none

/-- `HH[:MM[:SS[.ffffff]]]`. -/
def readClock (text : List Char) : Option ((Nat × Nat × Nat × Nat) × List Char) := do
  let (hour, text) ← readNumeral 10 2 0 text
  match expect ':' text with
  | none => some ((hour, 0, 0, 0), text)
  | some text =>
    let (minute, text) ← readNumeral 10 2 0 text
    match expect ':' text with
    | none => some ((hour, minute, 0, 0), text)
    | some text =>
      let (second, text) ← readNumeral 10 2 0 text
      match expect '.' text with
      | none => some ((hour, minute, second, 0), text)
      | some text =>
        let (microsecond, text) ← readNumeral 10 6 0 text
        some ((hour, minute, second, microsecond), text)

def readOffset : List Char → Option (Option Int)
  | [] => some none
  | sign :: text => do
    let ((hour, minute, second, microsecond), rest) ← readClock text
    let total : Int := ((hour * 60 + minute) * 60 + second) * 1000000 + microsecond
    if rest ≠ [] then none
    else if sign = '+' then some (some total)
    else if sign = '-' then some (some (-total))
    else none

/-- What the constructors accept. -/
def check (dt : DateTime) : Option DateTime := if dt.Valid then some dt else none

def fromisoformat (text : List Char) : Option DateTime := do
  let (year, text) ← readNumeral 10 4 0 text
  let text ← expect '-' text
  let (month, text) ← readNumeral 10 2 0 text
  let text ← expect '-' text
  let (day, text) ← readNumeral 10 2 0 text
  match text with
  | [] => check ⟨year, month, day, 0, 0, 0, 0, none⟩
  | _ :: text =>
    let ((hour, minute, second, microsecond), text) ← readClock text
    let offset ← readOffset text
    check ⟨year, month, day, hour, minute, second, microsecond, offset⟩

example : fromisoformat "2026-03-01T09:30:00.000250-05:00".toList =
    some ⟨2026, 3, 1, 9, 30, 0, 250, some (-18000000000)⟩ := by decide +kernel

/-! ## Reading back -/

variable {hour minute second microsecond : Nat} {rest : List Char} {offset : Int} {dt : DateTime}

theorem expect_cons {c : Char} {text : List Char} : expect c (c :: text) = some text := if_pos rfl

theorem expect_of_ne {c : Char} (h : rest.head? ≠ some c) : expect c rest = none := by
  cases rest with
  | nil => rfl
  | cons c' text => exact if_neg fun heq => h (by rw [heq]; rfl)

theorem read_two {n : Nat} (h : n < 100) :
    readNumeral 10 2 0 (writeNumeral 10 2 n ++ rest) = some (n, rest) :=
  read_write (by decide) (by decide) h

theorem readClock_long (hhour : hour < 100) (hminute : minute < 100) (hsecond : second < 100)
    (hmicrosecond : microsecond < 1000000) (hrest : rest.head? ≠ some '.') :
    readClock (writeNumeral 10 2 hour ++ ':' :: (writeNumeral 10 2 minute ++ ':' ::
      (writeNumeral 10 2 second ++ (writeFraction microsecond ++ rest)))) =
        some ((hour, minute, second, microsecond), rest) := by
  unfold readClock
  rw [read_two hhour]
  simp only [Option.bind_eq_bind, Option.bind_some, expect_cons, read_two hminute, read_two hsecond]
  by_cases hzero : microsecond = 0
  · rw [hzero, writeFraction, if_pos rfl, List.nil_append, expect_of_ne hrest]
  · have hmicros : readNumeral 10 6 0 (writeNumeral 10 6 microsecond ++ rest) =
        some (microsecond, rest) := read_write (by decide) (by decide) hmicrosecond
    rw [writeFraction, if_neg hzero, List.cons_append, expect_cons]
    simp only [hmicros, Option.bind_some]

theorem readClock_short (hhour : hour < 100) (hminute : minute < 100)
    (hrest : rest.head? ≠ some ':') :
    readClock (writeNumeral 10 2 hour ++ ':' :: (writeNumeral 10 2 minute ++ rest)) =
      some ((hour, minute, 0, 0), rest) := by
  unfold readClock
  rw [read_two hhour]
  simp only [Option.bind_eq_bind, Option.bind_some, expect_cons, read_two hminute,
    expect_of_ne hrest]

theorem clock_total (n : Nat) : ((n / 3600000000 * 60 + n / 60000000 % 60) * 60 +
    n / 1000000 % 60) * 1000000 + n % 1000000 = n := by
  have hhours : n / 3600000000 = n / 60000000 / 60 := by rw [Nat.div_div_eq_div_mul]
  have hminutes : n / 60000000 = n / 1000000 / 60 := by rw [Nat.div_div_eq_div_mul]
  omega

theorem readOffset_writeOffset (h : offset.natAbs < 86400000000) :
    readOffset (writeOffset offset) = some (some offset) := by
  have hclock : readClock (writeOffset offset).tail = some ((offset.natAbs / 3600000000,
      offset.natAbs / 60000000 % 60, offset.natAbs / 1000000 % 60, offset.natAbs % 1000000), []) := by
    unfold writeOffset
    dsimp only [List.tail_cons]
    split
    · next hzero =>
      have hseconds : offset.natAbs / 1000000 % 60 = 0 := by omega
      have hmicros : offset.natAbs % 1000000 = 0 := by omega
      rw [hseconds, hmicros]
      exact readClock_short (by omega) (by omega) (by simp)
    · have hlong : readClock (writeNumeral 10 2 (offset.natAbs / 3600000000) ++ ':' ::
          (writeNumeral 10 2 (offset.natAbs / 60000000 % 60) ++ ':' ::
            (writeNumeral 10 2 (offset.natAbs / 1000000 % 60) ++
              (writeFraction (offset.natAbs % 1000000) ++ [])))) = _ :=
        readClock_long (by omega) (by omega) (by omega) (by omega) (by simp)
      rwa [List.append_nil] at hlong
  have htotal : (((offset.natAbs / 3600000000 : Nat) * 60 + (offset.natAbs / 60000000 % 60 : Nat)) *
      60 + (offset.natAbs / 1000000 % 60 : Nat)) * 1000000 + (offset.natAbs % 1000000 : Nat) =
        (offset.natAbs : Int) := by
    exact_mod_cast clock_total offset.natAbs
  have hsplit : writeOffset offset =
      (if offset < 0 then '-' else '+') :: (writeOffset offset).tail := rfl
  rw [hsplit, readOffset, hclock]
  simp only [Option.bind_eq_bind, Option.bind_some, ne_eq, not_true_eq_false, if_false, htotal]
  split
  · next hneg =>
    rw [if_neg (by decide), if_pos rfl]
    congr 2
    omega
  · next hneg =>
    rw [if_pos rfl]
    congr 2
    omega

theorem fromisoformat_isoformat (h : dt.Valid) : fromisoformat (isoformat dt) = some dt := by
  have hvalid := h
  obtain ⟨-, hyear, -, hmonth, -, hday, hhour, hminute, hsecond, hmicrosecond, hoffset⟩ := h
  have hdays : daysInMonth dt.year dt.month ≤ 31 := by
    unfold daysInMonth
    split_ifs <;> omega
  have hyears : ∀ rest, readNumeral 10 4 0 (writeNumeral 10 4 dt.year ++ rest) =
      some (dt.year, rest) := fun _ =>
    read_write (by decide) (by decide) (Nat.lt_of_le_of_lt hyear (by decide))
  -- the text of the offset starts with its sign
  have hsign : ((dt.offset.map writeOffset).getD []).head? ≠ some '.' := by
    cases dt.offset with
    | none => simp
    | some offset =>
      show some (if offset < 0 then '-' else '+') ≠ some '.'
      split <;> decide
  have hread : readOffset ((dt.offset.map writeOffset).getD []) = some dt.offset := by
    cases heq : dt.offset with
    | none => rfl
    | some offset => exact readOffset_writeOffset (hoffset offset (by rw [heq]; rfl))
  unfold fromisoformat isoformat
  rw [hyears]
  simp only [Option.bind_eq_bind, Option.bind_some, expect_cons,
    read_two (by omega : dt.month < 100), read_two (by omega : dt.day < 100),
    readClock_long (by omega : dt.hour < 100) (by omega : dt.minute < 100)
      (by omega : dt.second < 100) hmicrosecond hsign, hread]
  exact if_pos hvalid

end DateTime

end Trackpal.Foundation

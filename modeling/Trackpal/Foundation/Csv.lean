import Mathlib.Data.List.Basic

/-!
# Comma-separated values

A writer that quotes a field only where it must, and ends each row with a carriage return and
a line feed, and the reader of the same dialect as a machine over the characters of a file.

Results:
1. `read_field`: the reader gets a written field back, wherever the field begins.
2. `parse_write`: reading what was written gives the rows back, for every list of rows.
-/

namespace Trackpal.Foundation.Csv

abbrev Text := List Char

/-! ## The writer -/

/-- The characters for which a field is quoted. -/
def special (c : Char) : Bool := c = ',' || c = '"' || c = '\r' || c = '\n'

/-- A quote in a quoted field is doubled. -/
def escape (c : Char) : Text := if c = '"' then ['"', '"'] else [c]

def writeField (field : Text) : Text :=
  if field.any special then '"' :: field.flatMap escape ++ ['"'] else field

/-- The fields of a row after the first. -/
def writeRest (fields : List Text) : Text := fields.flatMap fun field => ',' :: writeField field

def writeRow : List Text → Text
  | [] => ['\r', '\n']
  | [[]] => ['"', '"', '\r', '\n']
  | field :: fields => writeField field ++ writeRest fields ++ ['\r', '\n']

/-- A file as it is written. -/
def write (rows : List (List Text)) : Text := rows.flatMap writeRow

/-! ## The reader -/

/-- Where the reader is. -/
inductive Mode where
  | startRecord
  | startField
  | inField
  | inQuotedField
  | quoteInQuotedField
  /-- After a carriage return, which ends a row with or without a line feed. -/
  | eatNewline
deriving DecidableEq, Repr

/-- The field and the row that are being read, and the rows that were read before. -/
structure Reader where
  mode : Mode
  field : Text
  row : List Text
  rows : List (List Text)
deriving DecidableEq, Repr

namespace Reader

/-- Nothing was read. -/
def start : Reader := ⟨.startRecord, [], [], []⟩

def endField (r : Reader) : Reader := ⟨.startField, [], r.row ++ [r.field], r.rows⟩

def endRow (r : Reader) (row : List Text) (c : Char) : Reader :=
  ⟨if c = '\r' then .eatNewline else .startRecord, [], [], r.rows ++ [row]⟩

/-- A character of the field. -/
def push (r : Reader) (c : Char) (mode : Mode) : Reader :=
  { r with mode, field := r.field ++ [c] }

/-- A character outside of quotes. -/
def plain (r : Reader) (c : Char) : Reader :=
  if c = '\r' || c = '\n' then r.endRow (r.row ++ [r.field]) c
  else if c = ',' then r.endField
  else r.push c .inField

/-- A character at the start of a field. -/
def first (r : Reader) (c : Char) : Reader :=
  if c = '"' then { r with mode := .inQuotedField } else r.plain c

/-- A character at the start of a row. -/
def fresh (r : Reader) (c : Char) : Reader :=
  if c = '\r' || c = '\n' then r.endRow [] c else r.first c

def read (r : Reader) (c : Char) : Reader :=
  match r.mode with
  | .startRecord => r.fresh c
  | .startField => r.first c
  | .inField => r.plain c
  | .inQuotedField =>
    if c = '"' then { r with mode := .quoteInQuotedField } else r.push c .inQuotedField
  | .quoteInQuotedField => if c = '"' then r.push c .inQuotedField else r.plain c
  | .eatNewline => if c = '\n' then { r with mode := .startRecord } else r.fresh c

/-- The rows at the end of the file. -/
def finish (r : Reader) : List (List Text) :=
  match r.mode with
  | .startRecord | .eatNewline => r.rows
  | _ => r.rows ++ [r.row ++ [r.field]]

end Reader

/-- The rows of a file. -/
def parse (text : Text) : List (List Text) := (text.foldl Reader.read .start).finish

/-! ## Reading what was written -/

variable {r : Reader} {c : Char} {field : Text}

/-- The field has been read, and a comma or the end of the row comes next. -/
structure Complete (r : Reader) (field : Text) (row : List Text) (rows : List (List Text)) :
    Prop where
  field : r.field = field
  row : r.row = row
  rows : r.rows = rows
  mode : r.mode = .startField ∨ r.mode = .inField ∨ r.mode = .quoteInQuotedField

namespace CsvLemmas

theorem special_eq_false (h : special c = false) : c ≠ ',' ∧ c ≠ '"' ∧ c ≠ '\r' ∧ c ≠ '\n' := by
  simpa [special, and_assoc] using h

theorem read_complete {row : List Text} {rows : List (List Text)} (h : Complete r field row rows)
    (hc : c ≠ '"') : r.read c = r.plain c := by
  unfold Reader.read
  rcases h.mode with hmode | hmode | hmode
  · rw [hmode]
    exact if_neg hc
  · rw [hmode]
  · rw [hmode]
    exact if_neg hc

theorem read_comma {row : List Text} {rows : List (List Text)} (h : Complete r field row rows) :
    r.read ',' = ⟨.startField, [], row ++ [field], rows⟩ := by
  rw [read_complete h (by decide), ← h.row, ← h.field, ← h.rows]
  rfl

theorem read_return {row : List Text} {rows : List (List Text)} (h : Complete r field row rows) :
    r.read '\r' = ⟨.eatNewline, [], [], rows ++ [row ++ [field]]⟩ := by
  rw [read_complete h (by decide), ← h.row, ← h.field, ← h.rows]
  rfl

theorem read_plain {text before : Text} {row : List Text} {rows : List (List Text)}
    (htext : ∀ c ∈ text, special c = false) :
    text.foldl Reader.read ⟨.inField, before, row, rows⟩ =
      ⟨.inField, before ++ text, row, rows⟩ := by
  induction text generalizing before with
  | nil => simp
  | cons c text ih =>
    obtain ⟨hcomma, hquote, hreturn, hfeed⟩ := special_eq_false (htext c List.mem_cons_self)
    have hread : (Reader.mk .inField before row rows).read c =
        ⟨.inField, before ++ [c], row, rows⟩ := by
      simp [Reader.read, Reader.plain, Reader.push, hcomma, hreturn, hfeed]
    rw [List.foldl_cons, hread, ih fun c hc => htext c (List.mem_cons_of_mem _ hc)]
    simp

theorem read_escaped {text before : Text} {row : List Text} {rows : List (List Text)} :
    (text.flatMap escape).foldl Reader.read ⟨.inQuotedField, before, row, rows⟩ =
      ⟨.inQuotedField, before ++ text, row, rows⟩ := by
  induction text generalizing before with
  | nil => simp
  | cons c text ih =>
    have hread : (escape c).foldl Reader.read ⟨.inQuotedField, before, row, rows⟩ =
        ⟨.inQuotedField, before ++ [c], row, rows⟩ := by
      unfold escape
      split
      · next hquote =>
        subst hquote
        rfl
      · next hquote => simp [Reader.read, Reader.push, hquote]
    rw [List.flatMap_cons, List.foldl_append, hread, ih]
    simp

end CsvLemmas

open CsvLemmas

theorem read_field (row : List Text) (rows : List (List Text)) (field : Text) :
    Complete ((writeField field).foldl Reader.read ⟨.startField, [], row, rows⟩) field row rows := by
  unfold writeField
  split
  · have hquoted : (field.flatMap escape).foldl Reader.read ⟨.inQuotedField, [], row, rows⟩ =
        ⟨.inQuotedField, field, row, rows⟩ := read_escaped
    rw [List.cons_append, List.foldl_cons, List.foldl_append]
    show Complete ((['"'] : Text).foldl Reader.read
      ((field.flatMap escape).foldl Reader.read ⟨.inQuotedField, [], row, rows⟩)) field row rows
    rw [hquoted]
    exact ⟨rfl, rfl, rfl, .inr (.inr rfl)⟩
  · next hplain =>
    have hspecial : ∀ c ∈ field, special c = false := by simpa using hplain
    cases field with
    | nil => exact ⟨rfl, rfl, rfl, .inl rfl⟩
    | cons c field =>
      obtain ⟨hcomma, hquote, hreturn, hfeed⟩ := special_eq_false (hspecial c List.mem_cons_self)
      have hfirst : (Reader.mk .startField [] row rows).read c = ⟨.inField, [c], row, rows⟩ := by
        simp [Reader.read, Reader.first, Reader.plain, Reader.push, hcomma, hquote, hreturn, hfeed]
      rw [List.foldl_cons, hfirst, read_plain fun c hc => hspecial c (List.mem_cons_of_mem _ hc)]
      exact ⟨rfl, rfl, rfl, .inr (.inl rfl)⟩

namespace CsvLemmas

theorem read_rest {row : List Text} {rows : List (List Text)} {fields : List Text}
    (h : Complete r field row rows) :
    ((writeRest fields ++ ['\r', '\n']).foldl Reader.read r) =
      ⟨.startRecord, [], [], rows ++ [row ++ field :: fields]⟩ := by
  induction fields generalizing r field row with
  | nil =>
    show (r.read '\r').read '\n' = _
    rw [read_return h]
    rfl
  | cons next fields ih =>
    have hnext := read_field (row ++ [field]) rows next
    show ((writeField next ++ writeRest fields) ++ ['\r', '\n']).foldl Reader.read (r.read ',') = _
    rw [read_comma h, List.append_assoc, List.foldl_append, ih hnext]
    simp

theorem fresh_of_row {field : Text} {fields : List Text} (h : field ≠ [] ∨ fields ≠ [])
    (rows : List (List Text)) :
    (writeField field ++ writeRest fields ++ ['\r', '\n']).foldl Reader.read
        ⟨.startRecord, [], [], rows⟩ =
      (writeField field ++ writeRest fields ++ ['\r', '\n']).foldl Reader.read
        ⟨.startField, [], [], rows⟩ := by
  have hfresh : ∀ c : Char, c ≠ '\r' → c ≠ '\n' →
      (Reader.mk .startRecord [] [] rows).read c = (Reader.mk .startField [] [] rows).read c := by
    intro c hreturn hfeed
    by_cases hquote : c = '"'
    · simp [Reader.read, Reader.fresh, Reader.first, hquote]
    · by_cases hcomma : c = ','
      · simp [Reader.read, Reader.fresh, Reader.first, Reader.plain, Reader.endField, hcomma]
      · simp [Reader.read, Reader.fresh, Reader.first, Reader.plain, Reader.push, hreturn, hfeed,
          hquote, hcomma]
  unfold writeField
  split
  · rw [List.cons_append, List.cons_append, List.cons_append, List.foldl_cons, List.foldl_cons,
      hfresh '"' (by decide) (by decide)]
  · next hplain =>
    cases field with
    | nil =>
      cases fields with
      | nil => simp at h
      | cons next fields =>
        show List.foldl _ ((Reader.mk .startRecord [] [] rows).read ',') _ =
          List.foldl _ ((Reader.mk .startField [] [] rows).read ',') _
        rw [hfresh ',' (by decide) (by decide)]
    | cons c field =>
      have hspecial : special c = false := by
        have hall : ∀ c' ∈ c :: field, special c' = false := by simpa using hplain
        exact hall c List.mem_cons_self
      obtain ⟨-, -, hreturn, hfeed⟩ := special_eq_false hspecial
      rw [List.cons_append, List.cons_append, List.foldl_cons, List.foldl_cons,
        hfresh c hreturn hfeed]

theorem read_row (row : List Text) (rows : List (List Text)) :
    (writeRow row).foldl Reader.read ⟨.startRecord, [], [], rows⟩ =
      ⟨.startRecord, [], [], rows ++ [row]⟩ := by
  unfold writeRow
  split
  · rfl
  · rfl
  · next field fields hne =>
    have hsome : field ≠ [] ∨ fields ≠ [] := by
      by_contra hnone
      obtain ⟨rfl, rfl⟩ := not_or.mp hnone |>.imp not_not.mp not_not.mp
      exact hne rfl rfl
    rw [fresh_of_row hsome, List.append_assoc, List.foldl_append, read_rest (read_field [] rows field)]
    rfl

end CsvLemmas

theorem parse_write (rows : List (List Text)) : parse (write rows) = rows := by
  have hread : ∀ before : List (List Text),
      (write rows).foldl Reader.read ⟨.startRecord, [], [], before⟩ =
        ⟨.startRecord, [], [], before ++ rows⟩ := by
    induction rows with
    | nil => simp [write]
    | cons row rows ih =>
      intro before
      show (writeRow row ++ write rows).foldl _ _ = _
      rw [List.foldl_append, read_row, ih, List.append_assoc]
      rfl
  show ((write rows).foldl Reader.read ⟨.startRecord, [], [], []⟩).finish = rows
  rw [hread []]
  rfl

end Trackpal.Foundation.Csv

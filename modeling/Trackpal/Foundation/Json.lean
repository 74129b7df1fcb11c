import Mathlib.Data.List.Basic
import Mathlib.Data.Rat.Defs

/-!
# JSON values

JSON values as a program in JavaScript sees them that has just parsed them: what a property of a
value is, what a spread of it copies, which values count as true, and when two of them are the same.
A property without a value is left out when the value is written, so a missing one and an undefined
one are not told apart.

Results:
1. `get_put_self`, `get_put_of_ne`: the properties of a spread.
2. `anyKey_put`: a key that occurs in a spread occurs in the value or was put there.
-/

namespace Trackpal.Foundation

inductive Json where
  | null
  | bool (value : Bool)
  | num (value : Rat)
  | str (value : String)
  | arr (items : List Json)
  | obj (fields : List (String × Json))
deriving Inhabited

namespace Json

/-- `Object.entries`. -/
def entries : Json → List (String × Json)
  | .arr items => items.zipIdx.map fun (item, i) => (toString i, item)
  | .str text => text.toList.zipIdx.map fun (c, i) => (toString i, .str c.toString)
  | .obj fields => fields
  | _ => []

/-- `value[key]`. -/
def get (value : Json) (key : String) : Option Json := value.entries.lookup key

/-- `{ ...value, [key]: field }`. -/
def put (value : Json) (key : String) (field : Option Json) : Json :=
  .obj (value.entries.filter (fun entry => entry.1 ≠ key) ++ (field.map fun v => (key, v)).toList)

/-- `{ ...value, ...fields }`. -/
def merge (value : Json) (fields : List (String × Option Json)) : Json :=
  fields.foldl (fun value entry => value.put entry.1 entry.2) value

def isRecord : Json → Bool
  | .obj _ => true
  | _ => false

def isArray : Json → Bool
  | .arr _ => true
  | _ => false

def items : Json → List Json
  | .arr items => items
  | _ => []

/-- The string that a value is. -/
def text : Json → Option String
  | .str text => some text
  | _ => none

/-- The string under a key. -/
def textAt (value : Json) (key : String) : Option String := (value.get key).bind text

def itemsAt (value : Json) (key : String) : List Json := ((value.get key).map items).getD []

def truthy : Json → Bool
  | .null => false
  | .bool b => b
  | .num n => n ≠ 0
  | .str s => s ≠ ""
  | _ => true

/-- `===` of two values of one parse; objects are compared by identity. -/
def same : Json → Json → Bool
  | .null, .null => true
  | .bool a, .bool b => a = b
  | .num a, .num b => a = b
  | .str a, .str b => a = b
  | _, _ => false

/-- `value ?? …`: there is a value, and it is not `null`. -/
def present : Option Json → Option Json
  | some .null => none
  | value => value

/-- `value || other`. -/
def orElse (value other : Option Json) : Option Json := if value.any truthy then value else other

mutual

def anyKey (p : String → Bool) : Json → Bool
  | .arr items => anyKeyItems p items
  | .obj fields => anyKeyFields p fields
  | _ => false

def anyKeyItems (p : String → Bool) : List Json → Bool
  | [] => false
  | item :: rest => anyKey p item || anyKeyItems p rest

def anyKeyFields (p : String → Bool) : List (String × Json) → Bool
  | [] => false
  | (key, value) :: rest => p key || anyKey p value || anyKeyFields p rest

end

variable {value item : Json} {field : Option Json} {key key' : String} {p : String → Bool}
  {list : List Json} {fields : List (String × Json)}

theorem lookup_filter_ne (h : key' ≠ key) :
    (fields.filter fun entry => entry.1 ≠ key).lookup key' = fields.lookup key' := by
  induction fields with
  | nil => rfl
  | cons entry rest ih =>
    obtain ⟨first, v⟩ := entry
    by_cases hfirst : first = key
    · have hne : (key' == first) = false := by simpa [hfirst] using h
      rw [List.filter_cons_of_neg (by simp [hfirst]), ih, List.lookup_cons, hne]
    · rw [List.filter_cons_of_pos (by simp [hfirst]), List.lookup_cons, List.lookup_cons, ih]

theorem lookup_filter_self : (fields.filter fun entry => entry.1 ≠ key).lookup key = none := by
  rw [List.lookup_eq_none_iff]
  intro entry hentry
  have hne := of_decide_eq_true (List.mem_filter.mp hentry).2
  simpa using Ne.symm hne

@[simp] theorem get_put_self : (value.put key field).get key = field := by
  show List.lookup key (_ ++ _) = field
  rw [List.lookup_append, lookup_filter_self]
  cases field <;> simp

theorem get_put_of_ne (h : key' ≠ key) : (value.put key field).get key' = value.get key' := by
  show List.lookup key' (_ ++ _) = value.entries.lookup key'
  rw [List.lookup_append, lookup_filter_ne h]
  cases field with
  | none => simp
  | some v =>
    have hne : (key' == key) = false := by simpa using h
    simp [List.lookup_cons, hne]

@[simp] theorem isRecord_put : (value.put key field).isRecord = true := rfl

theorem textAt_put_of_ne (h : key' ≠ key) :
    (value.put key field).textAt key' = value.textAt key' := by
  unfold textAt
  rw [get_put_of_ne h]

@[simp] theorem textAt_put_self : (value.put key field).textAt key = field.bind text := by
  unfold textAt
  rw [get_put_self]

theorem itemsAt_put_of_ne (h : key' ≠ key) :
    (value.put key field).itemsAt key' = value.itemsAt key' := by
  unfold itemsAt
  rw [get_put_of_ne h]

@[simp] theorem itemsAt_put_arr : (value.put key (some (.arr list))).itemsAt key = list := by
  unfold itemsAt
  rw [get_put_self]
  rfl

theorem get_merge_of_notMem {fields : List (String × Option Json)} (h : key ∉ fields.map (·.1)) :
    (value.merge fields).get key = value.get key := by
  induction fields generalizing value with
  | nil => rfl
  | cons entry rest ih =>
    rw [List.map_cons, List.mem_cons, not_or] at h
    exact (ih h.2).trans (get_put_of_ne h.1)

theorem merge_append (fields more : List (String × Option Json)) :
    value.merge (fields ++ more) = (value.merge fields).merge more := List.foldl_append

theorem anyKeyItems_eq_false :
    anyKeyItems p list = false ↔ ∀ item ∈ list, item.anyKey p = false := by
  induction list with
  | nil => simp [anyKeyItems]
  | cons item rest ih => simp [anyKeyItems, ih]

theorem anyKeyFields_eq_false : anyKeyFields p fields = false ↔
    ∀ entry ∈ fields, p entry.1 = false ∧ entry.2.anyKey p = false := by
  induction fields with
  | nil => simp [anyKeyFields]
  | cons entry rest ih =>
    obtain ⟨key, v⟩ := entry
    simp [anyKeyFields, ih, and_assoc]

mutual

theorem anyKey_mono {q : String → Bool} (hp : ∀ key, q key = false → p key = false) :
    ∀ value : Json, value.anyKey q = false → value.anyKey p = false
  | .arr items, h => anyKeyItems_mono hp items h
  | .obj fields, h => anyKeyFields_mono hp fields h
  | .null, _ => rfl
  | .bool _, _ => rfl
  | .num _, _ => rfl
  | .str _, _ => rfl

theorem anyKeyItems_mono {q : String → Bool} (hp : ∀ key, q key = false → p key = false) :
    ∀ items : List Json, anyKeyItems q items = false → anyKeyItems p items = false
  | [], _ => rfl
  | item :: rest, h => by
    unfold anyKeyItems at h ⊢
    rw [Bool.or_eq_false_iff] at h ⊢
    exact ⟨anyKey_mono hp item h.1, anyKeyItems_mono hp rest h.2⟩

theorem anyKeyFields_mono {q : String → Bool} (hp : ∀ key, q key = false → p key = false) :
    ∀ fields : List (String × Json), anyKeyFields q fields = false → anyKeyFields p fields = false
  | [], _ => rfl
  | (key, value) :: rest, h => by
    unfold anyKeyFields at h ⊢
    rw [Bool.or_eq_false_iff, Bool.or_eq_false_iff] at h ⊢
    exact ⟨⟨hp key h.1.1, anyKey_mono hp value h.1.2⟩, anyKeyFields_mono hp rest h.2⟩

end

theorem anyKey_entries (hindex : ∀ i : Nat, p (toString i) = false) (h : value.anyKey p = false) :
    ∀ entry ∈ value.entries, p entry.1 = false ∧ entry.2.anyKey p = false := by
  cases value with
  | arr items =>
    intro entry hentry
    obtain ⟨⟨item, i⟩, hmem, rfl⟩ := List.mem_map.mp hentry
    exact ⟨hindex i, anyKeyItems_eq_false.mp h item (List.fst_mem_of_mem_zipIdx hmem)⟩
  | str text =>
    intro entry hentry
    obtain ⟨⟨c, i⟩, hmem, rfl⟩ := List.mem_map.mp hentry
    exact ⟨hindex i, rfl⟩
  | obj fields => exact anyKeyFields_eq_false.mp h
  | _ => exact fun entry hentry => nomatch hentry

theorem anyKey_put (hindex : ∀ i : Nat, p (toString i) = false) (hvalue : value.anyKey p = false)
    (hkey : p key = false) (hfield : ∀ v ∈ field, v.anyKey p = false) :
    (value.put key field).anyKey p = false := by
  refine anyKeyFields_eq_false.mpr fun entry hentry => ?_
  rcases List.mem_append.mp hentry with hentry | hentry
  · exact anyKey_entries hindex hvalue entry (List.mem_filter.mp hentry).1
  · cases field with
    | none => cases hentry
    | some v =>
      rw [List.mem_singleton.mp hentry]
      exact ⟨hkey, hfield v rfl⟩

theorem anyKey_merge {fields : List (String × Option Json)}
    (hindex : ∀ i : Nat, p (toString i) = false)
    (hfields : ∀ entry ∈ fields, p entry.1 = false ∧ ∀ v ∈ entry.2, v.anyKey p = false)
    (hvalue : value.anyKey p = false) : (value.merge fields).anyKey p = false := by
  induction fields generalizing value with
  | nil => exact hvalue
  | cons entry rest ih =>
    obtain ⟨hkey, hfield⟩ := hfields entry List.mem_cons_self
    exact ih (fun entry hentry => hfields entry (List.mem_cons_of_mem _ hentry))
      (anyKey_put hindex hvalue hkey hfield)

theorem anyKey_get (hindex : ∀ i : Nat, p (toString i) = false) (h : value.anyKey p = false) :
    ∀ v ∈ value.get key, v.anyKey p = false := by
  intro v hv
  obtain ⟨front, back, hsplit, -⟩ := List.lookup_eq_some_iff.mp hv
  refine (anyKey_entries hindex h (key, v) ?_).2
  rw [hsplit]
  exact List.mem_append_right _ List.mem_cons_self

end Json

end Trackpal.Foundation

import Trackpal.Foundation.Text

/-!
# Regular expressions

Patterns in the syntax of Python's `re`, as far as literals, character classes, groups,
repetitions, anchors and back references go. `compile` reads a pattern. `Pattern.run` gives its
matches at a place of a text in the order in which backtracking finds them, so that the
first of them is the one that counts, and `search` tries the places from left to right.

Results:
1. `reads_of_mem_run`: a match reads a part of the text, from its place on.
2. `of_searchFrom`: a match that is found is the first one at its place.
-/

namespace Trackpal.Foundation.Regex

/-! ## Syntax -/

/-- A character, a range of characters, or a class with a name. -/
inductive Item
  | char (c : Char)
  | range (first last : Char)
  | digit (negated : Bool)
  | space (negated : Bool)
deriving DecidableEq, Repr

/-- What matches one character. -/
inductive CharClass
  | any
  | item (item : Item)
  | set (negated : Bool) (items : List Item)
deriving DecidableEq, Repr

inductive Pattern
  | empty
  | one (k : CharClass)
  | wordBoundary
  | lineStart
  | lineEnd
  | seq (a b : Pattern)
  | alt (a b : Pattern)
  | rep (body : Pattern) (least : Nat) (most : Option Nat) (lazy : Bool)
  | group (i : Nat) (body : Pattern)
  | backref (i : Nat)
deriving DecidableEq, Repr

/-- The flags `i`, `s` and `m`. -/
structure Flags where
  ignoreCase : Bool
  dotAll : Bool
  multiline : Bool
deriving DecidableEq, Repr

/-! ## Reading a pattern -/

def classEscape : Char → Option Item
  | 'd' => some (.digit false)
  | 'D' => some (.digit true)
  | 's' => some (.space false)
  | 'S' => some (.space true)
  | _ => none

def charEscape : Char → Char
  | 'n' => '\n'
  | 'r' => '\r'
  | 't' => '\t'
  | c => c

def escaped (c : Char) : Item := (classEscape c).getD (.char (charEscape c))

/-- The members of a set, up to its bracket. -/
def readItems : List Char → Option (List Item × List Char)
  | [] => none
  | ']' :: rest => some ([], rest)
  | '\\' :: c :: rest => (readItems rest).map fun read => (escaped c :: read.1, read.2)
  | a :: '-' :: b :: rest =>
    -- A hyphen before the bracket stands for itself.
    if b = ']' then some ([.char a, .char '-'], rest)
    else (readItems rest).map fun read => (.range a b :: read.1, read.2)
  | c :: rest => (readItems rest).map fun read => (.char c :: read.1, read.2)

def readSet : List Char → Option (CharClass × List Char)
  | '^' :: rest => (readItems rest).map fun read => (.set true read.1, read.2)
  | rest => (readItems rest).map fun read => (.set false read.1, read.2)

def readCount (rest : List Char) : Nat × List Char :=
  ((rest.takeWhile Char.isDigit).foldl (fun n c => 10 * n + (c.toNat - '0'.toNat)) 0,
    rest.dropWhile Char.isDigit)

def readBounds (rest : List Char) : Option (Nat × Option Nat × List Char) :=
  let least := readCount rest
  match least.2 with
  | '\x7d' :: rest => some (least.1, some least.1, rest)
  | ',' :: '\x7d' :: rest => some (least.1, none, rest)
  | ',' :: rest =>
    let most := readCount rest
    match most.2 with
    | '\x7d' :: rest => some (least.1, some most.1, rest)
    | _ => none
  | _ => none

/-- A repetition, which is lazy if a question mark follows. -/
def repeated (body : Pattern) (least : Nat) (most : Option Nat) :
    List Char → Pattern × List Char
  | '?' :: rest => (.rep body least most true, rest)
  | rest => (.rep body least most false, rest)

def readRepetition (body : Pattern) : List Char → Option (Pattern × List Char)
  | '*' :: rest => some (repeated body 0 none rest)
  | '+' :: rest => some (repeated body 1 none rest)
  | '?' :: rest => some (repeated body 0 (some 1) rest)
  | '\x7b' :: rest => (readBounds rest).map fun read => repeated body read.1 read.2.1 read.2.2
  | rest => some (body, rest)

/-- One after the other. -/
def Pattern.andThen (a : Pattern) : Pattern → Pattern
  | .empty => a
  | b => .seq a b

def closed (wrap : Pattern → Pattern) :
    Pattern × Nat × List Char → Option (Pattern × Nat × List Char)
  | (body, next, ')' :: rest) => some (wrap body, next, rest)
  | _ => none

mutual

/-- Alternatives. The groups are counted from `next` on. -/
def readPattern (fuel next : Nat) (text : List Char) : Option (Pattern × Nat × List Char) :=
  match fuel with
  | 0 => none
  | fuel + 1 =>
    match readSequence fuel next text with
    | some (a, next, '|' :: rest) =>
      (readPattern fuel next rest).map fun read => (.alt a read.1, read.2)
    | read => read

def readSequence (fuel next : Nat) (text : List Char) : Option (Pattern × Nat × List Char) :=
  match fuel with
  | 0 => none
  | fuel + 1 =>
    match text with
    | [] => some (.empty, next, [])
    | '|' :: rest => some (.empty, next, '|' :: rest)
    | ')' :: rest => some (.empty, next, ')' :: rest)
    | text =>
      (readAtom fuel next text).bind fun atom =>
        (readRepetition atom.1 atom.2.2).bind fun repetition =>
          (readSequence fuel atom.2.1 repetition.2).map fun read =>
            (repetition.1.andThen read.1, read.2)

def readAtom (fuel next : Nat) (text : List Char) : Option (Pattern × Nat × List Char) :=
  match fuel with
  | 0 => none
  | fuel + 1 =>
    match text with
    | [] => none
    | '(' :: '?' :: ':' :: rest => (readPattern fuel next rest).bind (closed id)
    | '(' :: rest => (readPattern fuel (next + 1) rest).bind (closed (.group next))
    | '[' :: rest => (readSet rest).map fun read => (.one read.1, next, read.2)
    | '.' :: rest => some (.one .any, next, rest)
    | '^' :: rest => some (.lineStart, next, rest)
    | '$' :: rest => some (.lineEnd, next, rest)
    | '\\' :: 'b' :: rest => some (.wordBoundary, next, rest)
    | '\\' :: c :: rest =>
      if c.isDigit then some (.backref (c.toNat - '0'.toNat), next, rest)
      else some (.one (.item (escaped c)), next, rest)
    | c :: rest => some (.one (.item (.char c)), next, rest)

end

def readFlags (text : List Char) : Flags × List Char :=
  match text with
  | '(' :: '?' :: rest =>
    match rest.takeWhile Char.isAlpha, rest.dropWhile Char.isAlpha with
    | c :: letters, ')' :: rest =>
      (⟨(c :: letters).contains 'i', (c :: letters).contains 's', (c :: letters).contains 'm'⟩,
        rest)
    | _, _ => (⟨false, false, false⟩, text)
  | _ => (⟨false, false, false⟩, text)

def compileChars (regex : List Char) : Option (Flags × Pattern) :=
  let read := readFlags regex
  match readPattern (3 * read.2.length + 3) 1 read.2 with
  | some (pattern, _, []) => some (read.1, pattern)
  | _ => none

/-- `re.compile`. -/
def compile (regex : String) : Option (Flags × Pattern) := compileChars regex.toList

/-! ## One character -/

structure Unicode where
  isAlnum : Char → Bool
  isAlnum_ascii : ∀ c, c.toNat < 128 → isAlnum c = c.isAlphanum
  isAlnum_of_decimal : ∀ c, isDecimal c = true → isAlnum c = true
  isAlnum_of_space : ∀ c, isSpace c = true → isAlnum c = false

/-- The letter that stands for `c` when case is ignored: the lower case in ASCII and Latin-1,
and the ASCII letters to which four others fold. -/
def foldCase (c : Char) : Char :=
  let n := c.toNat
  if (0x41 ≤ n ∧ n ≤ 0x5a) ∨ (0xc0 ≤ n ∧ n ≤ 0xde ∧ n ≠ 0xd7) then Char.ofNat (n + 32)
  else if n = 0x130 ∨ n = 0x131 then 'i'
  else if n = 0x17f then 's'
  else if n = 0x212a then 'k'
  else c

def inRange (first last c : Char) : Bool := first.toNat ≤ c.toNat && c.toNat ≤ last.toNat

def Item.accepts (flags : Flags) (c : Char) : Item → Bool
  | .char d => c = d || (flags.ignoreCase && foldCase c = foldCase d)
  | .range first last =>
    inRange first last c || (flags.ignoreCase &&
      (inRange first last (foldCase c) || inRange first last (foldCase c).toUpper))
  | .digit negated => isDecimal c != negated
  | .space negated => isSpace c != negated

def CharClass.accepts (flags : Flags) (c : Char) : CharClass → Bool
  | .any => flags.dotAll || c ≠ '\n'
  | .item i => i.accepts flags c
  | .set negated items => items.any (·.accepts flags c) != negated

/-! ## Matching -/

/-- A part of a text, with what stands before it, the latest first, and behind it. -/
structure Span where
  before : List Char
  text : List Char
  after : List Char
deriving DecidableEq, Repr

/-- A place in a text: what has been read, the latest first, what has not, and the groups
that have been set, the latest first. -/
structure Cursor where
  before : List Char
  rest : List Char
  groups : List (Nat × Span)
deriving DecidableEq, Repr

/-- What has been read from `s` to `t`. -/
def Cursor.readTo (s t : Cursor) : List Char := s.rest.take (s.rest.length - t.rest.length)

/-- Whether a letter, a digit or an underscore stands at one side. -/
def wordAt (unicode : Unicode) (side : List Char) : Bool :=
  side.head?.any fun c => unicode.isAlnum c || c = '_'

def readAgain (flags : Flags) : List Char → Cursor → List Cursor
  | [], s => [s]
  | d :: text, s =>
    match s.rest with
    | [] => []
    | c :: rest =>
      if (Item.char d).accepts flags c then
        readAgain flags text { s with before := c :: s.before, rest }
      else []

/-- Exactly `n` steps. -/
def exactly (step : Cursor → List Cursor) : Nat → Cursor → List Cursor
  | 0, s => [s]
  | n + 1, s => (step s).flatMap (exactly step n)

/-- Up to `n` steps, each of which reads something: as many as possible first, or as few. -/
def upTo (step : Cursor → List Cursor) (lazy : Bool) : Nat → Cursor → List Cursor
  | 0, s => [s]
  | n + 1, s =>
    let more := (step s).flatMap fun t =>
      if t.rest.length < s.rest.length then upTo step lazy n t else []
    if lazy then s :: more else more ++ [s]

/-- The matches from a place on, in the order in which they are tried. -/
def Pattern.run (unicode : Unicode) (flags : Flags) : Pattern → Cursor → List Cursor
  | .empty, s => [s]
  | .one k, s =>
    match s.rest with
    | [] => []
    | c :: rest => if k.accepts flags c then [{ s with before := c :: s.before, rest }] else []
  | .wordBoundary, s => if wordAt unicode s.before != wordAt unicode s.rest then [s] else []
  | .lineStart, s =>
    if s.before = [] ∨ flags.multiline ∧ s.before.head? = some '\n' then [s] else []
  | .lineEnd, s =>
    if s.rest = [] ∨ s.rest = ['\n'] ∨ flags.multiline ∧ s.rest.head? = some '\n' then [s] else []
  | .seq a b, s => (a.run unicode flags s).flatMap (b.run unicode flags)
  | .alt a b, s => a.run unicode flags s ++ b.run unicode flags s
  | .rep body least most lazy, s =>
    (exactly (body.run unicode flags) least s).flatMap fun t =>
      upTo (body.run unicode flags) lazy (most.elim t.rest.length (· - least)) t
  | .group i body, s =>
    (body.run unicode flags s).map fun t =>
      { t with groups := (i, ⟨s.before, s.readTo t, t.rest⟩) :: t.groups }
  | .backref i, s =>
    match s.groups.lookup i with
    | none => []
    | some span => readAgain flags span.text s

structure Match where
  start : Cursor
  stop : Cursor
deriving DecidableEq, Repr

/-- `m.span(i)` and `m.group(i)`. -/
def Match.group (m : Match) (i : Nat) : Option Span := m.stop.groups.lookup i

/-- The first match from a place on. -/
def searchFrom (unicode : Unicode) (flags : Flags) (pattern : Pattern) (before : List Char) :
    List Char → Option Match
  | [] => (pattern.run unicode flags ⟨before, [], []⟩).head?.map fun t => ⟨⟨before, [], []⟩, t⟩
  | c :: rest =>
    ((pattern.run unicode flags ⟨before, c :: rest, []⟩).head?.map fun t =>
      ⟨⟨before, c :: rest, []⟩, t⟩).or
      (searchFrom unicode flags pattern (c :: before) rest)

/-- `re.search`. -/
def search (unicode : Unicode) (regex : String) (text : List Char) : Option Match :=
  (compile regex).bind fun compiled => searchFrom unicode compiled.1 compiled.2 [] text

/-- The matches from a place on that do not overlap. None of them is empty. -/
def findFrom (unicode : Unicode) (flags : Flags) (pattern : Pattern) :
    Nat → List Char → List Char → List Match
  | 0, _, _ => []
  | fuel + 1, before, rest =>
    match searchFrom unicode flags pattern before rest with
    | none => []
    | some m => m :: findFrom unicode flags pattern fuel m.stop.before m.stop.rest

/-- `re.finditer`, for a pattern that matches no empty text. -/
def finditer (unicode : Unicode) (regex : String) (text : List Char) : List Match :=
  ((compile regex).map fun compiled =>
    findFrom unicode compiled.1 compiled.2 (text.length + 1) [] text).getD []

def subFrom (unicode : Unicode) (flags : Flags) (pattern : Pattern) (replacement : List Char) :
    Nat → List Char → List Char → List Char
  | 0, _, rest => rest
  | fuel + 1, before, rest =>
    match searchFrom unicode flags pattern before rest with
    | none => rest
    | some m =>
      Cursor.readTo ⟨before, rest, []⟩ m.start ++ (replacement ++
        subFrom unicode flags pattern replacement fuel m.stop.before m.stop.rest)

/-- `re.sub`, for a pattern that matches no empty text. -/
def sub (unicode : Unicode) (regex : String) (replacement text : List Char) : List Char :=
  ((compile regex).map fun compiled =>
    subFrom unicode compiled.1 compiled.2 replacement (text.length + 1) [] text).getD text

/-! ## What a match reads -/

/-- `text` is read from `s` to `t`. -/
def Reads (s t : Cursor) (text : List Char) : Prop :=
  t.before = text.reverse ++ s.before ∧ s.rest = text ++ t.rest

/-- The text around a place, from its start. -/
def Cursor.whole (s : Cursor) : List Char := s.before.reverse ++ s.rest

section

variable {unicode : Unicode} {flags : Flags} {pattern : Pattern} {step : Cursor → List Cursor}
  {s t u : Cursor} {text text' : List Char} {n : Nat} {lazy : Bool} {i : Nat}

theorem Reads.refl (s : Cursor) : Reads s s [] := ⟨rfl, rfl⟩

theorem Reads.trans (h : Reads s t text) (h' : Reads t u text') : Reads s u (text ++ text') := by
  obtain ⟨hbefore, hrest⟩ := h
  obtain ⟨hbefore', hrest'⟩ := h'
  exact ⟨by rw [hbefore', hbefore, List.reverse_append, List.append_assoc],
    by rw [hrest, hrest', List.append_assoc]⟩

theorem Reads.whole (h : Reads s t text) : t.whole = s.whole := by
  rw [Cursor.whole, Cursor.whole, h.1, h.2, List.reverse_append, List.reverse_reverse,
    List.append_assoc]

theorem Reads.readTo (h : Reads s t text) : s.readTo t = text := by
  have hlength : s.rest.length - t.rest.length = text.length := by
    rw [h.2, List.length_append, Nat.add_sub_cancel]
  rw [Cursor.readTo, hlength, h.2, List.take_left]

theorem rel_of_mem_exactly {R : Cursor → Cursor → Prop} (hrefl : ∀ s, R s s)
    (htrans : ∀ s t u, R s t → R t u → R s u) (hstep : ∀ s t, t ∈ step s → R s t)
    (h : t ∈ exactly step n s) : R s t := by
  induction n generalizing s with
  | zero =>
    rw [List.mem_singleton.mp h]
    exact hrefl s
  | succ n ih =>
    obtain ⟨u, hu, ht⟩ := List.mem_flatMap.mp h
    exact htrans s u t (hstep s u hu) (ih ht)

/-- What up to `n` steps lead to: nothing has been done, or there was a step first. -/
theorem mem_upTo_cases (h : t ∈ upTo step lazy (n + 1) s) :
    t = s ∨ ∃ u, u ∈ step s ∧ t ∈ upTo step lazy n u := by
  have hmore : t = s ∨ t ∈ (step s).flatMap fun u =>
      if u.rest.length < s.rest.length then upTo step lazy n u else [] := by
    unfold upTo at h
    dsimp only at h
    split at h
    · exact List.mem_cons.mp h
    · exact (List.mem_append.mp h).symm.imp_left List.mem_singleton.mp
  refine hmore.imp_right fun hflat => ?_
  obtain ⟨u, hu, ht⟩ := List.mem_flatMap.mp hflat
  split at ht
  · exact ⟨u, hu, ht⟩
  · cases ht

theorem rel_of_mem_upTo {R : Cursor → Cursor → Prop} (hrefl : ∀ s, R s s)
    (htrans : ∀ s t u, R s t → R t u → R s u) (hstep : ∀ s t, t ∈ step s → R s t)
    (h : t ∈ upTo step lazy n s) : R s t := by
  induction n generalizing s with
  | zero =>
    rw [List.mem_singleton.mp h]
    exact hrefl s
  | succ n ih =>
    obtain rfl | ⟨u, hu, ht⟩ := mem_upTo_cases h
    · exact hrefl t
    · exact htrans s u t (hstep s u hu) (ih ht)

theorem mem_run_one {k : CharClass} (h : t ∈ (Pattern.one k).run unicode flags s) :
    ∃ c rest, k.accepts flags c = true ∧ s.rest = c :: rest ∧
      t = { s with before := c :: s.before, rest } := by
  unfold Pattern.run at h
  split at h
  · cases h
  · next c rest hrest =>
    split at h
    · next haccepts => exact ⟨c, rest, haccepts, hrest, List.mem_singleton.mp h⟩
    · cases h

theorem exists_reads_again (h : t ∈ readAgain flags text s) : ∃ text', Reads s t text' := by
  induction text generalizing s with
  | nil =>
    rw [List.mem_singleton.mp h]
    exact ⟨[], .refl s⟩
  | cons d text ih =>
    unfold readAgain at h
    split at h
    · cases h
    · next c rest hrest =>
      split at h
      · obtain ⟨text', hreads⟩ := ih h
        have hone : Reads s { s with before := c :: s.before, rest } [c] := ⟨rfl, hrest⟩
        exact ⟨[c] ++ text', hone.trans hreads⟩
      · cases h

theorem mem_run_group {body : Pattern} (h : t ∈ (Pattern.group i body).run unicode flags s) :
    ∃ u ∈ body.run unicode flags s,
      t = { u with groups := (i, ⟨s.before, s.readTo u, u.rest⟩) :: u.groups } := by
  obtain ⟨u, hu, rfl⟩ := List.mem_map.mp h
  exact ⟨u, hu, rfl⟩

theorem exists_reads_trans (s t u : Cursor) (h : ∃ text, Reads s t text)
    (h' : ∃ text, Reads t u text) : ∃ text, Reads s u text := by
  obtain ⟨text, h⟩ := h
  obtain ⟨text', h'⟩ := h'
  exact ⟨text ++ text', h.trans h'⟩

theorem reads_of_mem_run (h : t ∈ pattern.run unicode flags s) : ∃ text, Reads s t text := by
  induction pattern generalizing s t with
  | empty =>
    rw [List.mem_singleton.mp h]
    exact ⟨[], .refl s⟩
  | one k =>
    obtain ⟨c, rest, -, hrest, rfl⟩ := mem_run_one h
    exact ⟨[c], rfl, hrest⟩
  | wordBoundary | lineStart | lineEnd =>
    unfold Pattern.run at h
    split at h
    · rw [List.mem_singleton.mp h]
      exact ⟨[], .refl s⟩
    · cases h
  | seq a b iha ihb =>
    obtain ⟨u, hu, ht⟩ := List.mem_flatMap.mp h
    exact exists_reads_trans s u t (iha hu) (ihb ht)
  | alt a b iha ihb => exact (List.mem_append.mp h).elim iha ihb
  | rep body least most lazy ih =>
    have hrefl : ∀ s, ∃ text, Reads s s text := fun s => ⟨[], .refl s⟩
    obtain ⟨u, hu, ht⟩ := List.mem_flatMap.mp h
    exact exists_reads_trans s u t
      (rel_of_mem_exactly hrefl exists_reads_trans (fun _ _ hstep => ih hstep) hu)
      (rel_of_mem_upTo hrefl exists_reads_trans (fun _ _ hstep => ih hstep) ht)
  | group i body ih =>
    obtain ⟨u, hu, rfl⟩ := mem_run_group h
    obtain ⟨text, hbefore, hrest⟩ := ih hu
    exact ⟨text, hbefore, hrest⟩
  | backref i =>
    unfold Pattern.run at h
    split at h
    · cases h
    · exact exists_reads_again h

theorem of_searchFrom {before rest : List Char} {m : Match}
    (h : searchFrom unicode flags pattern before rest = some m) :
    (pattern.run unicode flags m.start).head? = some m.stop ∧ m.start.groups = [] ∧
      m.start.whole = before.reverse ++ rest := by
  induction rest generalizing before with
  | nil =>
    obtain ⟨t, ht, rfl⟩ := Option.map_eq_some_iff.mp h
    exact ⟨ht, rfl, rfl⟩
  | cons c rest ih =>
    obtain hhere | ⟨-, hlater⟩ := Option.or_eq_some_iff.mp h
    · obtain ⟨t, ht, rfl⟩ := Option.map_eq_some_iff.mp hhere
      exact ⟨ht, rfl, rfl⟩
    · obtain ⟨hhead, hgroups, hwhole⟩ := ih hlater
      refine ⟨hhead, hgroups, ?_⟩
      rw [hwhole, List.reverse_cons, List.append_assoc]
      rfl

end

/-! ## An alphabet -/

namespace AlphabetLemmas

theorem isAlphanum_iff {c : Char} : c.isAlphanum = true ↔
    (0x41 ≤ c.toNat ∧ c.toNat ≤ 0x5a) ∨ (0x61 ≤ c.toNat ∧ c.toNat ≤ 0x7a) ∨
      (0x30 ≤ c.toNat ∧ c.toNat ≤ 0x39) := by
  unfold Char.isAlphanum
  delta Char.isAlpha
  delta Char.isUpper Char.isLower
  simp only [Char.isDigit, Bool.or_eq_true, Bool.and_eq_true, decide_eq_true_eq, UInt32.le_iff_toNat_le, ge_iff_le]
  exact or_assoc

theorem decimal_ranges {c : Char} (h : isDecimal c = true) :
    (0x30 ≤ c.toNat ∧ c.toNat ≤ 0x39) ∨ (0x660 ≤ c.toNat ∧ c.toNat < 0x1680) ∨
      (0x1680 < c.toNat ∧ c.toNat < 0x2000) ∨ 0x3000 < c.toNat := by
  obtain ⟨first, hfirst, hrange⟩ := List.any_eq_true.mp h
  rw [Bool.and_eq_true, decide_eq_true_eq, decide_eq_true_eq] at hrange
  have htable : ∀ first ∈ decimalZeros, first = 0x30 ∨ (0x660 ≤ first ∧ first + 10 ≤ 0x1680) ∨
      (0x1680 < first ∧ first + 10 ≤ 0x2000) ∨ 0x3000 < first := by decide
  have hcases := htable first hfirst
  omega

theorem alnum_ascii (c : Char) (h : c.toNat < 128) :
    (c.isAlphanum || isDecimal c) = c.isAlphanum := by
  cases hdecimal : isDecimal c with
  | false => exact Bool.or_false _
  | true =>
    rw [Bool.or_true, isAlphanum_iff.mpr]
    have hranges := decimal_ranges hdecimal
    omega

theorem alnum_space (c : Char) (h : isSpace c = true) : (c.isAlphanum || isDecimal c) = false := by
  rw [Bool.or_eq_false_iff, ← Bool.not_eq_true, ← Bool.not_eq_true, isAlphanum_iff]
  unfold isSpace at h
  simp only [Bool.or_eq_true, Bool.and_eq_true, decide_eq_true_eq] at h
  refine ⟨by omega, fun hdecimal => ?_⟩
  have hranges := decimal_ranges hdecimal
  omega

end AlphabetLemmas

open AlphabetLemmas

def Unicode.ascii : Unicode where
  isAlnum c := c.isAlphanum || isDecimal c
  isAlnum_ascii := alnum_ascii
  isAlnum_of_decimal c h := by rw [h, Bool.or_true]
  isAlnum_of_space := alnum_space

end Trackpal.Foundation.Regex

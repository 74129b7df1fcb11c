import Trackpal.Foundation.Regex

/-!
# What stands next to a match

A pattern with one group of a fixed number of characters of a class, as patterns for codes
have. For a kind of characters, such as the digits, two analyses of the pattern around the
group tell whether a character of the kind can stand directly before or behind what the group
reads.

Results:
1. `head_of_lazy`: behind a lazy repetition the first match is the earliest one.
2. `span_of_search`: what the group of the first match reads, and what stands next to it.
-/

namespace Trackpal.Foundation.Regex

/-! ## Kinds of characters -/

/-- What can be told from a class about a kind of characters: that it matches none of the
kind, none but the kind, or all of the kind. -/
structure ClassTable where
  avoids : CharClass → Bool
  within : CharClass → Bool
  covers : CharClass → Bool

structure Kind (unicode : Unicode) extends ClassTable where
  holds : Char → Bool
  isAlnum : ∀ c, holds c = true → unicode.isAlnum c = true
  of_avoids : ∀ flags k c, avoids k = true → k.accepts flags c = true → holds c = false
  of_within : ∀ flags k c, within k = true → k.accepts flags c = true → holds c = true
  of_covers : ∀ flags k c, covers k = true → holds c = true → k.accepts flags c = true

variable {unicode : Unicode} {flags : Flags} {pattern : Pattern} {step : Cursor → List Cursor}
  {s t u : Cursor} {n : Nat} {lazy : Bool} (kind : Kind unicode) (table : ClassTable)

def Kind.Clear (side : List Char) : Prop := ∀ c ∈ side.head?, kind.holds c = false

instance (side : List Char) : Decidable (kind.Clear side) :=
  decidable_of_iff ((side.head?.all fun c => !kind.holds c) = true) (by
    unfold Kind.Clear
    cases side.head? with
    | none => simp
    | some c => simp)

/-! ## The analyses -/

/-- Whether what has been read ends outside the kind, if it did so before or not. -/
def Pattern.keepsClear : Pattern → Bool → Bool
  | .empty, b => b
  | .one k, _ => table.avoids k
  | .wordBoundary, b => b
  | .lineStart, _ => true
  | .lineEnd, b => b
  | .seq a a', b => a'.keepsClear (a.keepsClear b)
  | .alt a a', b => a.keepsClear b && a'.keepsClear b
  | .rep body least _ _, b => body.keepsClear false && (least ≠ 0 || b)
  | .group _ body, b => body.keepsClear b
  | .backref _, _ => false

/-- Whether a match begins outside the kind, if what follows it does so or not. -/
def Pattern.startsClear : Pattern → Bool → Bool
  | .empty, b => b
  | .one k, _ => table.avoids k
  | .wordBoundary, b => b
  | .lineStart, b => b
  | .lineEnd, _ => true
  | .seq a a', b => a.startsClear (a'.startsClear b)
  | .alt a a', b => a.startsClear b && a'.startsClear b
  | .rep body least _ _, b => body.startsClear false && (least ≠ 0 || b)
  | .group _ body, b => body.startsClear b
  | .backref _, _ => false

def Pattern.sets (i : Nat) : Pattern → Bool
  | .seq a b => a.sets i || b.sets i
  | .alt a b => a.sets i || b.sets i
  | .rep body _ _ _ => body.sets i
  | .group j body => j = i || body.sets i
  | _ => false

/-- A pattern with a group of `count` characters of a class: what stands before the group,
and what stands behind it. -/
structure Shape where
  init : List Pattern
  k : CharClass
  count : Nat
  last : Pattern
deriving DecidableEq, Repr

def codeGroup (k : CharClass) (count : Nat) : Pattern := .group 1 (.rep (.one k) count (some count) false)

def codeOf : Pattern → Option (CharClass × Nat)
  | .group 1 (.rep (.one k) n (some m) false) => if n = m then some (k, n) else none
  | _ => none

def Pattern.shape : Pattern → Option Shape
  | .seq a b =>
    match codeOf a with
    | some code => some ⟨[], code.1, code.2, b⟩
    | none => b.shape.map fun shape => { shape with init := a :: shape.init }
  | p => (codeOf p).map fun code => ⟨[], code.1, code.2, .empty⟩

def endClear (patterns : List Pattern) : Bool :=
  patterns.foldr (fun p b => p.keepsClear table b) false

/-- No character of the kind stands directly before the group. -/
def Shape.clearBefore (shape : Shape) : Bool :=
  endClear table shape.init.reverse ||
    match shape.init.reverse with
    -- The earliest group is found, so that it cannot begin one character earlier.
    | .rep (.one _) 0 none true :: earlier =>
      shape.last = .empty && table.covers shape.k && endClear table earlier
    | .wordBoundary :: _ => table.within shape.k && shape.count ≠ 0
    | _ => false

/-- No character of the kind stands directly behind the group. -/
def Shape.clearAfter (shape : Shape) : Bool :=
  shape.last.startsClear table false ||
    match shape.last with
    | .wordBoundary => table.within shape.k && shape.count ≠ 0
    | _ => false

/-! ## Repetitions -/

theorem last_of_exactly (h : t ∈ exactly step n s) : n = 0 ∧ t = s ∨ ∃ u, t ∈ step u := by
  induction n generalizing s with
  | zero => exact Or.inl ⟨rfl, List.mem_singleton.mp h⟩
  | succ n ih =>
    obtain ⟨u, hu, ht⟩ := List.mem_flatMap.mp h
    obtain ⟨-, rfl⟩ | hlast := ih ht
    · exact Or.inr ⟨s, hu⟩
    · exact Or.inr hlast

theorem last_of_upTo (h : t ∈ upTo step lazy n s) : t = s ∨ ∃ u, t ∈ step u := by
  induction n generalizing s with
  | zero => exact Or.inl (List.mem_singleton.mp h)
  | succ n ih =>
    obtain rfl | ⟨u, hu, ht⟩ := mem_upTo_cases h
    · exact Or.inl rfl
    · obtain rfl | hlast := ih ht
      · exact Or.inr ⟨s, hu⟩
      · exact Or.inr hlast

theorem first_of_exactly (h : t ∈ exactly step n s) : n = 0 ∧ t = s ∨ ∃ u, u ∈ step s := by
  cases n with
  | zero => exact Or.inl ⟨rfl, List.mem_singleton.mp h⟩
  | succ n =>
    obtain ⟨u, hu, -⟩ := List.mem_flatMap.mp h
    exact Or.inr ⟨u, hu⟩

theorem first_of_upTo (h : t ∈ upTo step lazy n s) : t = s ∨ ∃ u, u ∈ step s := by
  cases n with
  | zero => exact Or.inl (List.mem_singleton.mp h)
  | succ n => exact (mem_upTo_cases h).imp_right fun ⟨u, hu, _⟩ => ⟨u, hu⟩

theorem mem_upTo_lazy : s ∈ upTo step true n s := by
  cases n with
  | zero => exact List.mem_singleton_self s
  | succ n => exact List.mem_cons_self

theorem head_of_lazy {f : Cursor → List Cursor}
    (h : ((upTo step true n s).flatMap f).head? = some t) :
    (f s).head? = some t ∨
      ∃ u, ∃ v ∈ upTo step true n s, v ∈ step u ∧ f u = [] ∧ (f v).head? = some t := by
  induction n generalizing s with
  | zero =>
    rw [upTo, List.flatMap_singleton] at h
    exact Or.inl h
  | succ n ih =>
    unfold upTo at h
    dsimp only at h
    rw [if_pos rfl, List.flatMap_cons] at h
    cases hs : f s with
    | cons a l =>
      rw [hs] at h
      exact Or.inl h
    | nil =>
      rw [hs, List.nil_append, List.flatMap_assoc, List.head?_flatMap] at h
      obtain ⟨v, hv, hhead⟩ := List.exists_of_findSome?_eq_some h
      split at hhead
      · next hprogress =>
        have hmore : ∀ w ∈ upTo step true n v, w ∈ upTo step true (n + 1) s := fun w hw =>
          List.mem_cons_of_mem s (List.mem_flatMap.mpr ⟨v, hv, by rwa [if_pos hprogress]⟩)
        obtain hfirst | ⟨u, w, hw, hlater⟩ := ih hhead
        · exact Or.inr ⟨s, v, hmore v mem_upTo_lazy, hv, hs, hfirst⟩
        · exact Or.inr ⟨u, w, hmore w hw, hlater⟩
      · cases hhead

/-! ## The analyses are sound -/

variable {kind} {b : Bool} {side : List Char} {c : Char} {i : Nat} {k : CharClass}

theorem clear_nil : kind.Clear [] := fun _ hc => nomatch hc

theorem clear_cons : kind.Clear (c :: side) ↔ kind.holds c = false :=
  ⟨fun h => h c rfl, fun h _ hd => Option.some.inj hd ▸ h⟩

theorem holds_of_space (h : isSpace c = true) : kind.holds c = false := by
  cases hc : kind.holds c with
  | false => rfl
  | true =>
    have halnum := kind.isAlnum c hc
    rw [unicode.isAlnum_of_space c h] at halnum
    cases halnum

theorem clear_of_newline (h : side.head? = some '\n') : kind.Clear side := by
  intro c hc
  rw [h] at hc
  cases hc
  exact holds_of_space (by decide)

/-- What is read ends outside the kind where the analysis says so. -/
theorem clear_of_keepsClear (h : t ∈ pattern.run unicode flags s)
    (hb : b = true → kind.Clear s.before) (hkeeps : pattern.keepsClear kind.toClassTable b = true) :
    kind.Clear t.before := by
  induction pattern generalizing b s t with
  | empty =>
    rw [List.mem_singleton.mp h]
    exact hb hkeeps
  | one k =>
    obtain ⟨c, rest, haccepts, -, rfl⟩ := mem_run_one h
    exact clear_cons.mpr (kind.of_avoids flags k c hkeeps haccepts)
  | wordBoundary | lineEnd =>
    unfold Pattern.run at h
    split at h
    · rw [List.mem_singleton.mp h]
      exact hb hkeeps
    · cases h
  | lineStart =>
    unfold Pattern.run at h
    split at h
    · next hline =>
      rw [List.mem_singleton.mp h]
      obtain hnil | ⟨-, hnewline⟩ := hline
      · rw [hnil]
        exact clear_nil
      · exact clear_of_newline hnewline
    · cases h
  | seq a a' iha iha' =>
    obtain ⟨u, hu, ht⟩ := List.mem_flatMap.mp h
    exact iha' ht (fun hkept => iha hu hb hkept) hkeeps
  | alt a a' iha iha' =>
    obtain ⟨hfirst, hsecond⟩ := Bool.and_eq_true_iff.mp hkeeps
    exact (List.mem_append.mp h).elim (iha · hb hfirst) (iha' · hb hsecond)
  | rep body least most lazy ih =>
    obtain ⟨hbody, hleast⟩ := Bool.and_eq_true_iff.mp hkeeps
    have hstep : ∀ {s t}, t ∈ body.run unicode flags s → kind.Clear t.before :=
      fun hstep => ih (b := false) hstep (fun hfalse => absurd hfalse Bool.false_ne_true) hbody
    obtain ⟨u, hu, ht⟩ := List.mem_flatMap.mp h
    obtain rfl | ⟨w, hw⟩ := last_of_upTo ht
    · obtain ⟨hzero, rfl⟩ | ⟨w, hw⟩ := last_of_exactly hu
      · refine hb ?_
        simpa [hzero] using hleast
      · exact hstep hw
    · exact hstep hw
  | group j body ih =>
    obtain ⟨u, hu, rfl⟩ := mem_run_group h
    have hclear := ih hu hb hkeeps
    exact hclear
  | backref j => cases hkeeps

/-- A match begins outside the kind where the analysis says so. -/
theorem clear_of_startsClear (h : t ∈ pattern.run unicode flags s)
    (hb : b = true → kind.Clear t.rest) (hstarts : pattern.startsClear kind.toClassTable b = true) :
    kind.Clear s.rest := by
  induction pattern generalizing b s t with
  | empty =>
    rw [← List.mem_singleton.mp h]
    exact hb hstarts
  | one k =>
    obtain ⟨c, rest, haccepts, hrest, -⟩ := mem_run_one h
    rw [hrest]
    exact clear_cons.mpr (kind.of_avoids flags k c hstarts haccepts)
  | wordBoundary | lineStart =>
    unfold Pattern.run at h
    split at h
    · rw [← List.mem_singleton.mp h]
      exact hb hstarts
    · cases h
  | lineEnd =>
    unfold Pattern.run at h
    split at h
    · next hline =>
      obtain hnil | hlast | ⟨-, hnewline⟩ := hline
      · rw [hnil]
        exact clear_nil
      · exact clear_of_newline (by rw [hlast]; rfl)
      · exact clear_of_newline hnewline
    · cases h
  | seq a a' iha iha' =>
    obtain ⟨u, hu, ht⟩ := List.mem_flatMap.mp h
    exact iha hu (fun hkept => iha' ht hb hkept) hstarts
  | alt a a' iha iha' =>
    obtain ⟨hfirst, hsecond⟩ := Bool.and_eq_true_iff.mp hstarts
    exact (List.mem_append.mp h).elim (iha · hb hfirst) (iha' · hb hsecond)
  | rep body least most lazy ih =>
    obtain ⟨hbody, hleast⟩ := Bool.and_eq_true_iff.mp hstarts
    have hstep : ∀ {s t}, t ∈ body.run unicode flags s → kind.Clear s.rest :=
      fun hstep => ih (b := false) hstep (fun hfalse => absurd hfalse Bool.false_ne_true) hbody
    obtain ⟨u, hu, ht⟩ := List.mem_flatMap.mp h
    obtain ⟨hzero, rfl⟩ | ⟨w, hw⟩ := first_of_exactly hu
    · obtain rfl | ⟨w, hw⟩ := first_of_upTo ht
      · refine hb ?_
        simpa [hzero] using hleast
      · exact hstep hw
    · exact hstep hw
  | group j body ih =>
    obtain ⟨u, hu, rfl⟩ := mem_run_group h
    have hclear := ih hu hb hstarts
    exact hclear
  | backref j => cases hstarts

/-! ## Groups -/

theorem groups_of_readAgain {text : List Char} (h : t ∈ readAgain flags text s) :
    t.groups = s.groups := by
  induction text generalizing s with
  | nil => rw [List.mem_singleton.mp h]
  | cons d text ih =>
    unfold readAgain at h
    split at h
    · cases h
    · split at h
      · have hgroups := ih h
        exact hgroups
      · cases h

theorem lookup_of_mem_run (h : t ∈ pattern.run unicode flags s) (hsets : pattern.sets i = false) :
    t.groups.lookup i = s.groups.lookup i := by
  induction pattern generalizing s t with
  | empty => rw [List.mem_singleton.mp h]
  | one k =>
    obtain ⟨c, rest, -, -, rfl⟩ := mem_run_one h
    rfl
  | wordBoundary | lineStart | lineEnd =>
    unfold Pattern.run at h
    split at h
    · rw [List.mem_singleton.mp h]
    · cases h
  | seq a a' iha iha' =>
    obtain ⟨hfirst, hsecond⟩ := Bool.or_eq_false_iff.mp hsets
    obtain ⟨u, hu, ht⟩ := List.mem_flatMap.mp h
    exact (iha' ht hsecond).trans (iha hu hfirst)
  | alt a a' iha iha' =>
    obtain ⟨hfirst, hsecond⟩ := Bool.or_eq_false_iff.mp hsets
    exact (List.mem_append.mp h).elim (iha · hfirst) (iha' · hsecond)
  | rep body least most lazy ih =>
    let R : Cursor → Cursor → Prop := fun s t => t.groups.lookup i = s.groups.lookup i
    have htrans : ∀ s t u, R s t → R t u → R s u := fun s t u hst htu => htu.trans hst
    have hstep : ∀ s t, t ∈ body.run unicode flags s → R s t := fun s t hstep => ih hstep hsets
    obtain ⟨u, hu, ht⟩ := List.mem_flatMap.mp h
    exact htrans s u t (rel_of_mem_exactly (R := R) (fun _ => rfl) htrans hstep hu)
      (rel_of_mem_upTo (R := R) (fun _ => rfl) htrans hstep ht)
  | group j body ih =>
    obtain ⟨hne, hbody⟩ := Bool.or_eq_false_iff.mp hsets
    obtain ⟨u, hu, rfl⟩ := mem_run_group h
    have hij : (i == j) = false := by
      rw [beq_eq_false_iff_ne]
      exact Ne.symm (of_decide_eq_false hne)
    dsimp only
    rw [List.lookup_cons, hij]
    exact ih hu hbody
  | backref j =>
    unfold Pattern.run at h
    split at h
    · cases h
    · rw [groups_of_readAgain h]

/-! ## The group of a code -/

theorem of_mem_exactly_one (h : t ∈ exactly ((Pattern.one k).run unicode flags) n s) :
    ∃ text, text.length = n ∧ (∀ c ∈ text, k.accepts flags c = true) ∧ Reads s t text ∧
      t.groups = s.groups := by
  induction n generalizing s with
  | zero =>
    obtain rfl := List.mem_singleton.mp h
    exact ⟨[], rfl, List.forall_mem_nil _, Reads.refl t, rfl⟩
  | succ n ih =>
    obtain ⟨u, hu, ht⟩ := List.mem_flatMap.mp h
    obtain ⟨c, rest, haccepts, hrest, rfl⟩ := mem_run_one hu
    obtain ⟨text, hlength, hall, hreads, hgroups⟩ := ih ht
    have hone : Reads s { s with before := c :: s.before, rest } [c] := ⟨rfl, hrest⟩
    exact ⟨c :: text, by rw [List.length_cons, hlength],
      List.forall_mem_cons.mpr ⟨haccepts, hall⟩, hone.trans hreads, hgroups⟩

theorem exactly_one_ne_nil {text rest : List Char} (hlength : text.length = n)
    (hall : ∀ c ∈ text, k.accepts flags c = true) (hrest : s.rest = text ++ rest) :
    exactly ((Pattern.one k).run unicode flags) n s ≠ [] := by
  induction n generalizing s text with
  | zero => exact List.cons_ne_nil _ _
  | succ n ih =>
    obtain ⟨c, text, rfl⟩ := List.exists_cons_of_length_eq_add_one hlength
    rw [List.forall_mem_cons] at hall
    rw [List.cons_append] at hrest
    have hone : (Pattern.one k).run unicode flags s =
        [{ s with before := c :: s.before, rest := text ++ rest }] := by
      unfold Pattern.run
      rw [hrest]
      dsimp only
      rw [if_pos hall.1]
    rw [exactly, hone, List.flatMap_singleton]
    exact ih (Nat.succ.inj hlength) hall.2 rfl

theorem of_mem_code (h : t ∈ (codeGroup k n).run unicode flags s) :
    ∃ text, text.length = n ∧ (∀ c ∈ text, k.accepts flags c = true) ∧ Reads s t text ∧
      t.groups = (1, ⟨s.before, text, t.rest⟩) :: s.groups := by
  obtain ⟨u, hu, rfl⟩ := mem_run_group h
  obtain ⟨w, hw, hmore⟩ := List.mem_flatMap.mp hu
  rw [Option.elim_some, Nat.sub_self] at hmore
  obtain rfl := List.mem_singleton.mp hmore
  obtain ⟨text, hlength, hall, hreads, hgroups⟩ := of_mem_exactly_one hw
  refine ⟨text, hlength, hall, hreads, ?_⟩
  dsimp only
  rw [hreads.readTo, hgroups]

theorem code_ne_nil {text rest : List Char} (hlength : text.length = n)
    (hall : ∀ c ∈ text, k.accepts flags c = true) (hrest : s.rest = text ++ rest) :
    (codeGroup k n).run unicode flags s ≠ [] := by
  obtain ⟨u, hu⟩ := List.exists_mem_of_ne_nil _ (exactly_one_ne_nil hlength hall hrest)
  have hrep : u ∈ (Pattern.rep (.one k) n (some n) false).run unicode flags s := by
    refine List.mem_flatMap.mpr ⟨u, hu, ?_⟩
    rw [Option.elim_some, Nat.sub_self]
    exact List.mem_singleton_self u
  exact List.ne_nil_of_mem (List.mem_map_of_mem hrep)

/-! ## The shape of a pattern -/

/-- The matches of patterns in a row. -/
def runAll (unicode : Unicode) (flags : Flags) : List Pattern → Cursor → List Cursor
  | [], s => [s]
  | p :: patterns, s => (p.run unicode flags s).flatMap (runAll unicode flags patterns)

theorem runAll_append {patterns patterns' : List Pattern} :
    runAll unicode flags (patterns ++ patterns') s =
      (runAll unicode flags patterns s).flatMap (runAll unicode flags patterns') := by
  induction patterns generalizing s with
  | nil => rw [List.nil_append, runAll, List.flatMap_singleton]
  | cons p patterns ih =>
    rw [List.cons_append, runAll, runAll, List.flatMap_assoc]
    congr 1
    funext u
    exact ih

theorem runAll_singleton {p : Pattern} : runAll unicode flags [p] s = p.run unicode flags s := by
  rw [runAll]
  exact List.flatMap_singleton' _

theorem reads_of_mem_runAll {patterns : List Pattern} (h : t ∈ runAll unicode flags patterns s) :
    ∃ text, Reads s t text := by
  induction patterns generalizing s with
  | nil =>
    obtain rfl := List.mem_singleton.mp h
    exact ⟨[], .refl t⟩
  | cons p patterns ih =>
    obtain ⟨u, hu, ht⟩ := List.mem_flatMap.mp h
    exact exists_reads_trans s u t (reads_of_mem_run hu) (ih ht)

theorem of_codeOf {code : CharClass × Nat} (h : codeOf pattern = some code) :
    pattern = codeGroup code.1 code.2 := by
  unfold codeOf at h
  split at h
  · next k n m =>
    split at h
    · next heq =>
      subst heq
      rw [← Option.some.inj h]
      rfl
    · cases h
  · cases h

variable {shape : Shape}

theorem run_of_shape (h : pattern.shape = some shape) : pattern.run unicode flags s =
    (runAll unicode flags shape.init s).flatMap fun u =>
      ((codeGroup shape.k shape.count).run unicode flags u).flatMap
        (shape.last.run unicode flags) := by
  have hlone : ∀ {p : Pattern}, (codeOf p).map (fun code => (⟨[], code.1, code.2, .empty⟩ : Shape)) =
      some shape → p.run unicode flags s = (runAll unicode flags shape.init s).flatMap fun u =>
        ((codeGroup shape.k shape.count).run unicode flags u).flatMap
          (shape.last.run unicode flags) := by
    intro p hmap
    obtain ⟨code, hcode, rfl⟩ := Option.map_eq_some_iff.mp hmap
    rw [of_codeOf hcode, runAll, List.flatMap_singleton]
    exact (List.flatMap_singleton' _).symm
  induction pattern generalizing s shape with
  | seq a b iha ihb =>
    unfold Pattern.shape at h
    split at h
    · next code hcode =>
      rw [← Option.some.inj h, of_codeOf hcode, runAll, List.flatMap_singleton]
      rfl
    · obtain ⟨inner, hinner, rfl⟩ := Option.map_eq_some_iff.mp h
      dsimp only
      rw [runAll, List.flatMap_assoc, Pattern.run]
      congr 1
      funext u
      exact ihb hinner fun hmap => by
        obtain ⟨code, hcode, rfl⟩ := Option.map_eq_some_iff.mp hmap
        rw [of_codeOf hcode, runAll, List.flatMap_singleton]
        exact (List.flatMap_singleton' _).symm
  | _ => exact hlone h

theorem clear_of_endClear {patterns : List Pattern}
    (h : u ∈ runAll unicode flags patterns.reverse s) (hend : endClear kind.toClassTable patterns = true) :
    kind.Clear u.before := by
  induction patterns generalizing u with
  | nil => cases hend
  | cons p patterns ih =>
    rw [List.reverse_cons, runAll_append] at h
    obtain ⟨w, hw, hu⟩ := List.mem_flatMap.mp h
    rw [runAll_singleton] at hu
    exact clear_of_keepsClear hu (fun hb => ih hw hb) hend

theorem clear_of_boundary {text : List Char} (hword : wordAt unicode side = !wordAt unicode text)
    (htext : ∃ c ∈ text.head?, kind.holds c = true) : kind.Clear side := by
  obtain ⟨c, hc, hholds⟩ := htext
  have hside : wordAt unicode text = true := by
    unfold wordAt
    rw [Option.mem_def.mp hc, Option.any_some, kind.isAlnum c hholds, Bool.true_or]
  rw [hside] at hword
  intro d hd
  cases hheld : kind.holds d with
  | false => rfl
  | true =>
    unfold wordAt at hword
    rw [Option.mem_def.mp hd, Option.any_some, kind.isAlnum d hheld, Bool.true_or] at hword
    cases hword

theorem of_mem_wordBoundary (h : t ∈ Pattern.wordBoundary.run unicode flags s) :
    t = s ∧ wordAt unicode s.before = !wordAt unicode s.rest := by
  unfold Pattern.run at h
  split at h
  · next hword =>
    refine ⟨List.mem_singleton.mp h, ?_⟩
    cases hbefore : wordAt unicode s.before <;> cases hrest : wordAt unicode s.rest <;>
      simp_all
  · cases h

theorem clear_of_clearBefore {v : Cursor} (hshape : shape.clearBefore kind.toClassTable = true)
    (hu : u ∈ runAll unicode flags shape.init s)
    (hv : v ∈ (codeGroup shape.k shape.count).run unicode flags u)
    (hearliest : ∀ k' earlier, shape.init.reverse = .rep (.one k') 0 none true :: earlier →
      u ∈ runAll unicode flags earlier.reverse s ∨
        ∃ w, u ∈ (Pattern.one k').run unicode flags w ∧
          ((codeGroup shape.k shape.count).run unicode flags w).flatMap
            (shape.last.run unicode flags) = []) :
    kind.Clear u.before := by
  obtain ⟨text, hlength, hall, hreads, -⟩ := of_mem_code hv
  rw [← List.reverse_reverse shape.init] at hu
  obtain hend | hcase := Bool.or_eq_true_iff.mp hshape
  · exact clear_of_endClear hu hend
  split at hcase
  · next k' earlier hinit =>
    obtain ⟨⟨hlast, hcovers⟩, hend⟩ := by simpa only [Bool.and_eq_true] using hcase
    obtain hearly | ⟨w, hw, hnone⟩ := hearliest k' earlier hinit
    · exact clear_of_endClear hearly hend
    · obtain ⟨c, rest, -, hrest, rfl⟩ := mem_run_one hw
      refine clear_cons.mpr ?_
      cases hc : kind.holds c with
      | false => rfl
      | true =>
        -- The group would begin at this character.
        have hread : w.rest = (c :: text).take shape.count ++ ((c :: text).drop shape.count ++
            v.rest) := by
          rw [← List.append_assoc, List.take_append_drop, hrest]
          exact congrArg (c :: ·) hreads.2
        refine absurd hnone ?_
        rw [of_decide_eq_true hlast]
        rw [show Pattern.empty.run unicode flags = fun s => [s] from rfl, List.flatMap_singleton']
        refine code_ne_nil ?_ (fun d hd => ?_) hread
        · rw [List.length_take, List.length_cons, hlength]
          omega
        · obtain rfl | hd := List.mem_cons.mp (List.mem_of_mem_take hd)
          · exact kind.of_covers flags _ d hcovers hc
          · exact hall d hd
  · next earlier hinit =>
    obtain ⟨hwithin, hcount⟩ := Bool.and_eq_true_iff.mp hcase
    rw [hinit, List.reverse_cons, runAll_append] at hu
    obtain ⟨w, -, hboundary⟩ := List.mem_flatMap.mp hu
    rw [runAll_singleton] at hboundary
    obtain ⟨rfl, hword⟩ := of_mem_wordBoundary hboundary
    obtain ⟨c, text, rfl⟩ := List.exists_cons_of_ne_nil fun hnil : text = [] => by
      rw [hnil] at hlength
      exact of_decide_eq_true hcount hlength.symm
    refine clear_of_boundary hword ⟨c, ?_, kind.of_within flags _ c hwithin (hall c (.head _))⟩
    rw [hreads.2]
    rfl
  · cases hcase

theorem clear_of_clearAfter {v : Cursor} (hshape : shape.clearAfter kind.toClassTable = true)
    (hv : v ∈ (codeGroup shape.k shape.count).run unicode flags u)
    (ht : t ∈ shape.last.run unicode flags v) : kind.Clear v.rest := by
  obtain ⟨text, hlength, hall, hreads, -⟩ := of_mem_code hv
  obtain hstarts | hcase := Bool.or_eq_true_iff.mp hshape
  · exact clear_of_startsClear ht (fun hfalse => absurd hfalse Bool.false_ne_true) hstarts
  split at hcase
  · next hlast =>
    obtain ⟨hwithin, hcount⟩ := Bool.and_eq_true_iff.mp hcase
    rw [hlast] at ht
    obtain ⟨-, hword⟩ := of_mem_wordBoundary ht
    obtain ⟨text, c, rfl⟩ := (List.eq_nil_or_concat' text).resolve_left fun hnil => by
      rw [hnil] at hlength
      exact of_decide_eq_true hcount hlength.symm
    have hside : wordAt unicode v.rest = !wordAt unicode v.before := by rw [hword, Bool.not_not]
    refine clear_of_boundary hside ⟨c, ?_,
      kind.of_within flags _ c hwithin (hall c (List.mem_append_right _ (.head _)))⟩
    rw [hreads.1, List.reverse_append]
    rfl
  · cases hcase

variable {regex : String} {text : List Char} {m : Match}

theorem span_of_search (hcompile : compile regex = some (flags, pattern))
    (hshape : pattern.shape = some shape) (hsets : shape.last.sets 1 = false)
    (h : search unicode regex text = some m) :
    ∃ span, m.group 1 = some span ∧ span.before.reverse ++ (span.text ++ span.after) = text ∧
      span.text.length = shape.count ∧ (∀ c ∈ span.text, shape.k.accepts flags c = true) ∧
      ∀ kind : Kind unicode, (shape.clearBefore kind.toClassTable = true → kind.Clear span.before) ∧
        (shape.clearAfter kind.toClassTable = true → kind.Clear span.after) := by
  unfold search at h
  rw [hcompile, Option.bind_some] at h
  obtain ⟨hhead, -, hwhole⟩ := of_searchFrom h
  let rest : Cursor → List Cursor := fun u =>
    ((codeGroup shape.k shape.count).run unicode flags u).flatMap (shape.last.run unicode flags)
  have hfound : ∃ u ∈ runAll unicode flags shape.init m.start, (rest u).head? = some m.stop ∧
      ∀ k' earlier, shape.init.reverse = .rep (.one k') 0 none true :: earlier →
        u ∈ runAll unicode flags earlier.reverse m.start ∨
          ∃ w, u ∈ (Pattern.one k').run unicode flags w ∧ rest w = [] := by
    rw [run_of_shape hshape] at hhead
    by_cases hlazy : ∃ k' earlier, shape.init.reverse = .rep (.one k') 0 none true :: earlier
    · obtain ⟨k', earlier, hinit⟩ := hlazy
      rw [← List.reverse_reverse shape.init, hinit, List.reverse_cons, runAll_append,
        List.flatMap_assoc, List.head?_flatMap] at hhead
      obtain ⟨w, hw, hhead⟩ := List.exists_of_findSome?_eq_some hhead
      have hrun : ∀ u ∈ upTo ((Pattern.one k').run unicode flags) true w.rest.length w,
          u ∈ runAll unicode flags shape.init m.start := fun u hu => by
        rw [← List.reverse_reverse shape.init, hinit, List.reverse_cons, runAll_append]
        refine List.mem_flatMap.mpr ⟨w, hw, ?_⟩
        rw [runAll_singleton]
        exact List.mem_flatMap.mpr ⟨w, List.mem_singleton_self w, hu⟩
      rw [runAll_singleton, Pattern.run, exactly, List.flatMap_singleton] at hhead
      obtain hfirst | ⟨u, v, hv, hstep, hnone, hfirst⟩ := head_of_lazy hhead
      · refine ⟨w, hrun w mem_upTo_lazy, hfirst, fun k'' earlier' hinit' => ?_⟩
        obtain ⟨-, rfl⟩ := List.cons.inj (hinit.symm.trans hinit')
        exact Or.inl hw
      · refine ⟨v, hrun v hv, hfirst, fun k'' earlier' hinit' => ?_⟩
        obtain ⟨hsame, -⟩ := List.cons.inj (hinit.symm.trans hinit')
        cases hsame
        exact Or.inr ⟨u, hstep, hnone⟩
    · rw [List.head?_flatMap] at hhead
      obtain ⟨u, hu, hhead⟩ := List.exists_of_findSome?_eq_some hhead
      exact ⟨u, hu, hhead, fun k' earlier hinit => absurd ⟨k', earlier, hinit⟩ hlazy⟩
  obtain ⟨u, hu, hrest, hearliest⟩ := hfound
  obtain ⟨v, hv, hlast⟩ := List.mem_flatMap.mp (List.mem_of_mem_head? hrest)
  obtain ⟨code, hlength, hall, hreads, hgroups⟩ := of_mem_code hv
  refine ⟨⟨u.before, code, v.rest⟩, ?_, ?_, hlength, hall, fun kind => ⟨fun hbefore => ?_,
    fun hafter => clear_of_clearAfter hafter hv hlast⟩⟩
  · rw [Match.group, lookup_of_mem_run hlast hsets, hgroups]
    rfl
  · rw [← hreads.2]
    obtain ⟨read, hinit⟩ := reads_of_mem_runAll hu
    exact hinit.whole.trans hwhole
  · exact clear_of_clearBefore hbefore hu hv hearliest

end Trackpal.Foundation.Regex

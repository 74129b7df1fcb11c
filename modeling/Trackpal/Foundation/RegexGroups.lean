import Trackpal.Foundation.RegexSides

/-!
# What a group reads

The text of a group was read by the pattern that stands in it, so that its length and its characters
can be told where this is a repetition of one class.
-/

namespace Trackpal.Foundation.Regex

/-- What stands in the groups with a number. -/
def Pattern.bodies (i : Nat) : Pattern → List Pattern
  | .seq a b => a.bodies i ++ b.bodies i
  | .alt a b => a.bodies i ++ b.bodies i
  | .rep body _ _ _ => body.bodies i
  | .group j body => if j = i then body :: body.bodies i else body.bodies i
  | _ => []

variable {unicode : Unicode} {flags : Flags} {pattern : Pattern} {s t : Cursor} {k : CharClass}
  {n i least most : Nat} {span : Span} {m : Match} {text : List Char} {regex : String}

/-- A group was set before, or its text was read by what stands in it. -/
theorem of_mem_groups (h : t ∈ pattern.run unicode flags s) (hspan : (i, span) ∈ t.groups) :
    (i, span) ∈ s.groups ∨
      ∃ body ∈ pattern.bodies i, ∃ u, ∃ v ∈ body.run unicode flags u, span.text = u.readTo v := by
  induction pattern generalizing s t with
  | empty =>
    rw [List.mem_singleton.mp h] at hspan
    exact Or.inl hspan
  | one k =>
    obtain ⟨c, rest, -, -, rfl⟩ := mem_run_one h
    exact Or.inl hspan
  | wordBoundary | lineStart | lineEnd =>
    unfold Pattern.run at h
    split at h
    · rw [List.mem_singleton.mp h] at hspan
      exact Or.inl hspan
    · cases h
  | seq a b iha ihb =>
    obtain ⟨u, hu, ht⟩ := List.mem_flatMap.mp h
    rcases ihb ht hspan with hbefore | ⟨body, hbody, hread⟩
    · rcases iha hu hbefore with hbefore | ⟨body, hbody, hread⟩
      · exact Or.inl hbefore
      · exact Or.inr ⟨body, List.mem_append_left _ hbody, hread⟩
    · exact Or.inr ⟨body, List.mem_append_right _ hbody, hread⟩
  | alt a b iha ihb =>
    rcases List.mem_append.mp h with ht | ht
    · rcases iha ht hspan with hbefore | ⟨body, hbody, hread⟩
      · exact Or.inl hbefore
      · exact Or.inr ⟨body, List.mem_append_left _ hbody, hread⟩
    · rcases ihb ht hspan with hbefore | ⟨body, hbody, hread⟩
      · exact Or.inl hbefore
      · exact Or.inr ⟨body, List.mem_append_right _ hbody, hread⟩
  | rep body least most lazy ih =>
    let R : Cursor → Cursor → Prop := fun s t => (i, span) ∈ t.groups → (i, span) ∈ s.groups ∨
      ∃ inner ∈ body.bodies i, ∃ u, ∃ v ∈ inner.run unicode flags u, span.text = u.readTo v
    have htrans : ∀ s t u, R s t → R t u → R s u := fun s t u hst htu hu =>
      (htu hu).elim hst Or.inr
    obtain ⟨u, hu, ht⟩ := List.mem_flatMap.mp h
    exact htrans s u t (rel_of_mem_exactly (R := R) (fun _ => Or.inl) htrans (fun _ _ => ih) hu)
      (rel_of_mem_upTo (R := R) (fun _ => Or.inl) htrans (fun _ _ => ih) ht) hspan
  | group j body ih =>
    obtain ⟨u, hu, rfl⟩ := mem_run_group h
    rcases List.mem_cons.mp hspan with heq | hbefore
    · cases heq
      refine Or.inr ⟨body, ?_, s, u, hu, rfl⟩
      rw [Pattern.bodies, if_pos rfl]
      exact List.mem_cons_self
    · rcases ih hu hbefore with hstart | ⟨inner, hinner, hread⟩
      · exact Or.inl hstart
      · refine Or.inr ⟨inner, ?_, hread⟩
        rw [Pattern.bodies]
        split
        · exact List.mem_cons_of_mem _ hinner
        · exact hinner
  | backref j =>
    unfold Pattern.run at h
    split at h
    · cases h
    · rw [groups_of_readAgain h] at hspan
      exact Or.inl hspan

theorem of_mem_upTo_one {lazy : Bool} (h : t ∈ upTo ((Pattern.one k).run unicode flags) lazy n s) :
    ∃ text, text.length ≤ n ∧ (∀ c ∈ text, k.accepts flags c = true) ∧ Reads s t text := by
  induction n generalizing s with
  | zero =>
    obtain rfl := List.mem_singleton.mp h
    exact ⟨[], Nat.le_refl 0, List.forall_mem_nil _, Reads.refl t⟩
  | succ n ih =>
    obtain rfl | ⟨u, hu, ht⟩ := mem_upTo_cases h
    · exact ⟨[], Nat.zero_le _, List.forall_mem_nil _, Reads.refl t⟩
    · obtain ⟨c, rest, haccepts, hrest, rfl⟩ := mem_run_one hu
      obtain ⟨text, hlength, hall, hreads⟩ := ih ht
      have hone : Reads s { s with before := c :: s.before, rest } [c] := ⟨rfl, hrest⟩
      exact ⟨c :: text, Nat.succ_le_succ hlength, List.forall_mem_cons.mpr ⟨haccepts, hall⟩,
        hone.trans hreads⟩

theorem of_mem_rep_one {lazy : Bool} (hle : least ≤ most)
    (h : t ∈ (Pattern.rep (.one k) least (some most) lazy).run unicode flags s) :
    (least ≤ (s.readTo t).length ∧ (s.readTo t).length ≤ most) ∧
      ∀ c ∈ s.readTo t, k.accepts flags c = true := by
  obtain ⟨u, hu, hmore⟩ := List.mem_flatMap.mp h
  rw [Option.elim_some] at hmore
  obtain ⟨first, hlength, hall, hfirst, -⟩ := of_mem_exactly_one hu
  obtain ⟨second, hlength', hall', hsecond⟩ := of_mem_upTo_one hmore
  rw [(hfirst.trans hsecond).readTo, List.length_append]
  exact ⟨by omega, fun c hc => (List.mem_append.mp hc).elim (hall c) (hall' c)⟩

theorem of_mem_findFrom {before rest : List Char}
    (h : m ∈ findFrom unicode flags pattern n before rest) :
    m.stop ∈ pattern.run unicode flags m.start ∧ m.start.groups = [] := by
  induction n generalizing before rest with
  | zero => cases h
  | succ n ih =>
    unfold findFrom at h
    split at h
    · cases h
    · next first hsearch =>
      rcases List.mem_cons.mp h with rfl | hlater
      · obtain ⟨hhead, hgroups, -⟩ := of_searchFrom hsearch
        exact ⟨List.mem_of_head? hhead, hgroups⟩
      · exact ih hlater

/-- The groups with this number hold one repetition of the class. -/
def repeatsIn (regex : String) (i : Nat) (k : CharClass) (least most : Nat) : Bool :=
  (compile regex).all fun compiled =>
    (compiled.2.bodies i).all (· = .rep (.one k) least (some most) false)

theorem text_of_group (hle : least ≤ most) (hrepeats : repeatsIn regex i k least most = true)
    (h : m ∈ finditer unicode regex text) (hspan : m.group i = some span) :
    (least ≤ span.text.length ∧ span.text.length ≤ most) ∧
      ∃ flags, ∀ c ∈ span.text, k.accepts flags c = true := by
  unfold finditer at h
  unfold repeatsIn at hrepeats
  cases hcompile : compile regex with
  | none =>
    rw [hcompile] at h
    cases h
  | some compiled =>
    rw [hcompile] at h hrepeats
    obtain ⟨hrun, hgroups⟩ := of_mem_findFrom h
    obtain ⟨before, after, hlookup, -⟩ := List.lookup_eq_some_iff.mp hspan
    obtain hstart | ⟨body, hbody, u, v, hv, htext⟩ := @of_mem_groups unicode compiled.1 compiled.2
      m.start m.stop i span hrun (hlookup ▸ List.mem_append_right _ List.mem_cons_self)
    · rw [hgroups] at hstart
      cases hstart
    · rw [of_decide_eq_true (List.all_eq_true.mp hrepeats body hbody)] at hv
      obtain ⟨hlength, hall⟩ := of_mem_rep_one hle hv
      rw [htext]
      exact ⟨hlength, compiled.1, hall⟩

end Trackpal.Foundation.Regex

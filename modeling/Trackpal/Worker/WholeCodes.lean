import Trackpal.Foundation.RegexSides
import Trackpal.Worker.Extractor

/-!
# Whole codes

Which of the patterns of the catalogue can cut a code out of a longer number, and when a code
that the extractor finds stands in the email as it is, with no digit next to it (for
Universal+, no letter or digit).
-/

namespace Trackpal.Worker

open Trackpal.Protocol Trackpal.Foundation Trackpal.Foundation.Regex AlphabetLemmas

/-! ## Digits and letters -/

namespace WholeCodeLemmas

theorem foldCase_of_decimal {c : Char} (h : isDecimal c = true) : foldCase c = c := by
  obtain ⟨first, hfirst, hrange⟩ := List.any_eq_true.mp h
  rw [Bool.and_eq_true, decide_eq_true_eq, decide_eq_true_eq] at hrange
  have htable : ∀ first ∈ decimalZeros, (first = 0x30 ∨ 0x17f < first) ∧
      (first + 10 ≤ 0x212a ∨ 0x212a < first) := by decide
  obtain ⟨hlow, hhigh⟩ := htable first hfirst
  unfold foldCase
  dsimp only
  rw [if_neg (by omega), if_neg (by omega), if_neg (by omega), if_neg (by omega)]

theorem toNat_ofNat {n : Nat} (h : n < 0xd800) : (Char.ofNat n).toNat = n := by
  have hvalid : n.isValidChar := Or.inl h
  unfold Char.ofNat
  rw [dif_pos hvalid]
  rfl

theorem eq_of_foldCase {c d : Char} (hascii : d.toNat < 128) (hsign : d.isAlphanum = false)
    (h : foldCase c = foldCase d) : c = d := by
  have hd : ¬((0x41 ≤ d.toNat ∧ d.toNat ≤ 0x5a) ∨ (0x61 ≤ d.toNat ∧ d.toNat ≤ 0x7a) ∨
      (0x30 ≤ d.toNat ∧ d.toNat ≤ 0x39)) := fun hin => by
    rw [isAlphanum_iff.mpr hin] at hsign
    cases hsign
  have hsame : foldCase d = d := by
    unfold foldCase
    dsimp only
    rw [if_neg (by omega), if_neg (by omega), if_neg (by omega), if_neg (by omega)]
  rw [hsame] at h
  unfold foldCase at h
  dsimp only at h
  split at h
  · next hrange =>
    have hto : d.toNat = c.toNat + 32 := by
      rw [← h]
      exact toNat_ofNat (by omega)
    omega
  split at h
  · subst h
    exact absurd hsign (by decide)
  split at h
  · subst h
    exact absurd hsign (by decide)
  split at h
  · subst h
    exact absurd hsign (by decide)
  · exact h

end WholeCodeLemmas

open WholeCodeLemmas

def avoidsDigit : Item → Bool
  | .char c => !isDecimal c && !isDecimal (foldCase c)
  | .range _ _ => false
  | .digit negated => negated
  | .space negated => !negated

def digitTable : ClassTable where
  avoids
    | .item i => avoidsDigit i
    | .set false items => items.all avoidsDigit
    | _ => false
  within k := k = .item (.digit false)
  covers k := k = .item (.digit false)

/-- The letters and digits. Nothing more is told from a class than that it matches one sign
of ASCII, or space. -/
def alnumTable : ClassTable where
  avoids
    | .item (.char c) => c.toNat < 128 && !c.isAlphanum
    | .item (.space false) => true
    | _ => false
  within _ := false
  covers _ := false

namespace WholeCodeLemmas

variable {unicode : Unicode} {flags : Flags} {c : Char} {item : Item} {k : CharClass}

theorem decimal_of_space (unicode : Unicode) (h : isSpace c = true) : isDecimal c = false := by
  cases hc : isDecimal c with
  | false => rfl
  | true =>
    have hspace := unicode.isAlnum_of_space c h
    rw [unicode.isAlnum_of_decimal c hc] at hspace
    cases hspace

theorem of_avoidsDigit (unicode : Unicode) (h : avoidsDigit item = true)
    (haccepts : item.accepts flags c = true) : isDecimal c = false := by
  cases item with
  | char d =>
    obtain ⟨hd, hfold⟩ := Bool.and_eq_true_iff.mp h
    rw [Bool.not_eq_true'] at hd hfold
    obtain heq | hcase := Bool.or_eq_true_iff.mp haccepts
    · rw [of_decide_eq_true heq]
      exact hd
    · cases hc : isDecimal c with
      | false => rfl
      | true =>
        have hsame := of_decide_eq_true (Bool.and_eq_true_iff.mp hcase).2
        rw [foldCase_of_decimal hc] at hsame
        rw [← hsame, hc] at hfold
        cases hfold
  | range first last => cases h
  | digit negated =>
    obtain rfl : negated = true := h
    simpa [Item.accepts] using haccepts
  | space negated =>
    obtain rfl : negated = false := by simpa [avoidsDigit] using h
    exact decimal_of_space unicode (by simpa [Item.accepts] using haccepts)

theorem decimal_iff : (CharClass.item (.digit false)).accepts flags c = isDecimal c := by
  simp [CharClass.accepts, Item.accepts]

theorem of_avoidsDigits (unicode : Unicode) (h : digitTable.avoids k = true)
    (haccepts : k.accepts flags c = true) : isDecimal c = false := by
  unfold digitTable at h
  dsimp only at h
  split at h
  · exact of_avoidsDigit unicode h haccepts
  · next items =>
    have hany : (items.any fun item => item.accepts flags c) = true := by
      simpa [CharClass.accepts] using haccepts
    obtain ⟨item, hitem, haccepts⟩ := List.any_eq_true.mp hany
    exact of_avoidsDigit unicode (List.all_eq_true.mp h item hitem) haccepts
  · cases h

theorem of_avoidsAlnum (h : alnumTable.avoids k = true) (haccepts : k.accepts flags c = true) :
    unicode.isAlnum c = false := by
  cases k with
  | item item =>
    cases item with
    | char d =>
      obtain ⟨hascii, hsign⟩ := Bool.and_eq_true_iff.mp h
      rw [decide_eq_true_eq] at hascii
      rw [Bool.not_eq_true'] at hsign
      have heq : c = d := by
        obtain heq | hcase := Bool.or_eq_true_iff.mp haccepts
        · exact of_decide_eq_true heq
        · exact eq_of_foldCase hascii hsign (of_decide_eq_true (Bool.and_eq_true_iff.mp hcase).2)
      rw [heq, unicode.isAlnum_ascii d hascii]
      exact hsign
    | space negated =>
      cases negated with
      | false =>
        exact unicode.isAlnum_of_space c (by simpa [CharClass.accepts, Item.accepts] using haccepts)
      | true => nomatch h
    | range first last => nomatch h
    | digit negated => nomatch h
  | any => nomatch h
  | set negated items => nomatch h


end WholeCodeLemmas

open WholeCodeLemmas

def digits (unicode : Unicode) : Kind unicode where
  toClassTable := digitTable
  holds := isDecimal
  isAlnum := unicode.isAlnum_of_decimal
  of_avoids _ _ _ := of_avoidsDigits unicode
  of_within _ _ _ h haccepts := by
    rw [of_decide_eq_true h, decimal_iff] at haccepts
    exact haccepts
  of_covers _ _ _ h hholds := by
    rw [of_decide_eq_true h, decimal_iff]
    exact hholds

def lettersAndDigits (unicode : Unicode) : Kind unicode where
  toClassTable := alnumTable
  holds := unicode.isAlnum
  isAlnum _ h := h
  of_avoids _ _ _ := of_avoidsAlnum
  of_within _ _ _ h := nomatch h
  of_covers _ _ _ h := nomatch h

/-! ## The deciding match -/

/-- The functions of the library, with `re.search` as the patterns define it. -/
def Python.withSearch (python : Python) (unicode : Unicode) : Python :=
  { python with
    search := fun regex text =>
      ((Regex.search unicode regex text.toList).bind (·.group 1)).map fun span =>
        .ofList span.text }

/-- The rule that finds the result of `extract_from_body`, and what its group reads. -/
def decidingMatch (unicode : Unicode) (body serviceKey : String) (subject : Option String) :
    Option (ExtractionRule × Span) :=
  if subject.any fun subject => !matchSubject subject serviceKey then none
  else
    match getServiceEntry serviceKey with
    | none => none
    | some entry =>
      (bodiesToTry body serviceKey).findSome? fun candidateBody =>
        entry.extractionRules.findSome? fun rule =>
          ((search unicode rule.regex candidateBody.toList).bind (·.group 1)).map fun span =>
            (rule, span)

/-- What may not stand next to a code of the service. -/
def besides (unicode : Unicode) (serviceKey : String) : Kind unicode :=
  if serviceKey = "universal_plus" then lettersAndDigits unicode else digits unicode

def besidesTable (serviceKey : String) : ClassTable :=
  if serviceKey = "universal_plus" then alnumTable else digitTable

def ruleShape (rule : ExtractionRule) : Option (Flags × Pattern × Shape) :=
  (compile rule.regex).bind fun compiled =>
    compiled.2.shape.map fun shape => (compiled.1, compiled.2, shape)

/-- Whether a rule lets such a character stand directly before its group. -/
def openBefore (serviceKey : String) (rule : ExtractionRule) : Bool :=
  (ruleShape rule).all fun read => !read.2.2.clearBefore (besidesTable serviceKey)

/-- Whether a rule lets such a character stand directly behind its group. -/
def openAfter (serviceKey : String) (rule : ExtractionRule) : Bool :=
  (ruleShape rule).all fun read => !read.2.2.clearAfter (besidesTable serviceKey)

/-! ## Where a code stands -/

/-- The text without its white space. -/
def visible (text : List Char) : List Char := text.filter fun c => !isSpace c

/-- The code stands between `before` and `after` in the email, where the deciding match found
it in the body that was tried. -/
def Stands (text : String) (span : Span) (before after : List Char) : Prop :=
  text.toList = before ++ (span.text ++ after) ∧ visible before = visible span.before.reverse ∧
    visible after = visible span.after

/-- The code stands in the email as it is, with none of the kind next to it. -/
def Whole {unicode : Unicode} (kind : Kind unicode) (text : String) (span : Span) : Prop :=
  ∃ before after, Stands text span before after ∧ kind.Clear before.reverse ∧ kind.Clear after

/-- White space stands between two characters of the code in the email. -/
def Glued (text : String) (span : Span) : Prop :=
  ∃ before first c last after, text.toList = before ++ (first ++ c :: last) ++ after ∧
    isSpace c = true ∧ visible first ≠ [] ∧ visible last ≠ [] ∧
    visible before = visible span.before.reverse ∧ visible (first ++ last) = span.text ∧
    visible after = visible span.after

namespace WholeCodeLemmas

variable {kind : Kind unicode} {text : String} {span : Span} {before after l : List Char}

theorem visible_append {a b : List Char} : visible (a ++ b) = visible a ++ visible b :=
  List.filter_append _ _

theorem visible_eq_self (h : ∀ c ∈ l, isSpace c = false) : visible l = l :=
  List.filter_eq_self.mpr fun c hc => by rw [h c hc]; rfl

theorem not_glued (hvisible : ∀ c ∈ span.text, isSpace c = false)
    (h : Stands text span before after) : ¬Glued text span := by
  obtain ⟨htext, hbefore, -⟩ := h
  rintro ⟨before', first, c, last, after', htext', hspace, hfirst, hlast, hbefore', hcode, -⟩
  rw [htext, List.append_assoc, List.append_assoc, ← List.append_assoc before'] at htext'
  have hlength : (visible first).length < span.text.length := by
    rw [← hcode, visible_append, List.length_append]
    exact Nat.lt_add_of_pos_right (List.length_pos_of_ne_nil hlast)
  obtain ⟨rest, hsplit, hrest⟩ | ⟨rest, hsplit, hrest⟩ := List.append_eq_append_iff.mp htext'
  · -- The code begins before the white space, behind `first`.
    have hvisibleRest : visible rest = visible first := by
      have hboth := congrArg visible hsplit
      rw [visible_append, visible_append, hbefore, hbefore'] at hboth
      exact (List.append_cancel_left hboth).symm
    obtain ⟨more, hmore, htail⟩ | ⟨more, hmore, htail⟩ := List.append_eq_append_iff.mp hrest
    · have hle := congrArg List.length (congrArg visible hmore)
      rw [visible_append, hvisibleRest, visible_eq_self hvisible, List.length_append] at hle
      omega
    · cases more with
      | nil =>
        rw [List.append_nil] at hmore
        rw [hmore, hvisibleRest.symm, visible_eq_self fun c hc => hvisible c (hmore ▸ hc)] at hlength
        exact absurd hlength (Nat.lt_irrefl _)
      | cons d more =>
        obtain ⟨rfl, -⟩ := List.cons.inj htail
        rw [hvisible c (hmore ▸ List.mem_append_right _ List.mem_cons_self)] at hspace
        cases hspace
  · -- The text before the code would hold `first`.
    have hboth := congrArg visible hsplit
    rw [visible_append, visible_append, hbefore, hbefore', List.append_assoc] at hboth
    have hnil := List.append_right_eq_self.mp hboth.symm
    exact hfirst (List.append_eq_nil_iff.mp hnil).1

theorem stands_unique (hvisible : ∀ c ∈ span.text, isSpace c = false) (hne : span.text ≠ [])
    {before' after' : List Char} (h : Stands text span before after)
    (h' : Stands text span before' after') : before = before' ∧ after = after' := by
  obtain ⟨c, code, hcode⟩ := List.exists_cons_of_ne_nil hne
  have hc : isSpace c = false := hvisible c (hcode ▸ List.mem_cons_self)
  have hle : ∀ {b a b' a' : List Char}, text.toList = b ++ (span.text ++ a) →
      text.toList = b' ++ (span.text ++ a') → visible b = visible b' →
      ∀ rest, b' = b ++ rest → rest = [] := by
    intro b a b' a' htext htext' hsame rest hrest
    cases rest with
    | nil => rfl
    | cons d rest =>
      rw [htext, hrest, List.append_assoc] at htext'
      have htail := List.append_cancel_left htext'
      rw [hcode, List.cons_append, List.cons_append] at htail
      obtain ⟨rfl, -⟩ := List.cons.inj htail
      rw [hrest, visible_append] at hsame
      have hnil := List.append_right_eq_self.mp hsame.symm
      rw [visible, List.filter_cons_of_pos (by rw [hc]; rfl)] at hnil
      cases hnil
  obtain ⟨htext, hbefore, -⟩ := h
  obtain ⟨htext', hbefore', -⟩ := h'
  have hboth : before = before' := by
    obtain ⟨rest, hsplit, -⟩ | ⟨rest, hsplit, -⟩ :=
      List.append_eq_append_iff.mp (htext.symm.trans htext')
    · rw [hsplit, hle htext htext' (hbefore.trans hbefore'.symm) rest hsplit, List.append_nil]
    · rw [hsplit, hle htext' htext (hbefore'.trans hbefore.symm) rest hsplit, List.append_nil]
  subst hboth
  exact ⟨rfl, List.append_cancel_left (List.append_cancel_left (htext.symm.trans htext'))⟩

theorem whole_of_stands (hvisible : ∀ c ∈ span.text, isSpace c = false) (hne : span.text ≠ [])
    (h : Stands text span before after) :
    Whole kind text span ↔ kind.Clear before.reverse ∧ kind.Clear after := by
  refine ⟨fun ⟨before', after', hstands, hclear⟩ => ?_, fun hclear => ⟨before, after, h, hclear⟩⟩
  obtain ⟨rfl, rfl⟩ := stands_unique hvisible hne h hstands
  exact hclear

theorem filter_eq_append {keep : Char → Bool} {text rest : List Char}
    (h : l.filter keep = text ++ rest) :
    (∃ after, l = text ++ after ∧ after.filter keep = rest) ∨
      ∃ first c last after, l = first ++ c :: (last ++ after) ∧ keep c = false ∧
        text = first ++ last.filter keep ∧ last.filter keep ≠ [] ∧ after.filter keep = rest := by
  induction text generalizing l with
  | nil => exact Or.inl ⟨l, rfl, h⟩
  | cons d text ih =>
    cases l with
    | nil => cases h
    | cons c l =>
      cases hc : keep c with
      | true =>
        rw [List.filter_cons_of_pos hc] at h
        obtain ⟨rfl, htail⟩ := List.cons.inj h
        obtain ⟨after, rfl, hafter⟩ | ⟨first, c', last, after, rfl, hkeep, rfl, hne, hafter⟩ := ih htail
        · exact Or.inl ⟨after, rfl, hafter⟩
        · exact Or.inr ⟨c :: first, c', last, after, rfl, hkeep, rfl, hne, hafter⟩
      | false =>
        rw [List.filter_cons_of_neg (by rw [hc]; exact Bool.false_ne_true)] at h
        obtain ⟨last, after, rfl, hlast, hafter⟩ := List.filter_eq_append_iff.mp h
        exact Or.inr ⟨[], c, last, after, rfl, hc, hlast.symm, by rw [hlast]; exact nofun, hafter⟩

theorem visible_filter {keep : Char → Bool} (hkeep : ∀ c, isSpace c = false → keep c = true) :
    visible (l.filter keep) = visible l := by
  rw [visible, visible, List.filter_filter]
  refine List.filter_congr fun c _ => ?_
  cases hc : isSpace c with
  | true => rfl
  | false => rw [hkeep c hc]; rfl

theorem clear_filter {keep : Char → Bool} (hkeep : ∀ c, isSpace c = false → keep c = true)
    (h : kind.Clear (l.filter keep)) : kind.Clear l := by
  intro c hc
  cases hholds : kind.holds c with
  | false => rfl
  | true =>
    obtain ⟨l, rfl⟩ : ∃ l', l = c :: l' := List.head?_eq_some_iff.mp hc
    have hspace : isSpace c = false := by
      cases hs : isSpace c with
      | false => rfl
      | true => rw [holds_of_space hs] at hholds; cases hholds
    rw [List.filter_cons_of_pos (hkeep c hspace)] at h
    rw [clear_cons.mp h] at hholds
    cases hholds

theorem stands_of_filter {keep : Char → Bool} (hkeep : ∀ c, isSpace c = false → keep c = true)
    (hdropped : ∀ c, keep c = false → isSpace c = true) (hne : span.text ≠ [])
    (hvisible : ∀ c ∈ span.text, isSpace c = false)
    (h : text.toList.filter keep = span.before.reverse ++ (span.text ++ span.after)) :
    Glued text span ∨ ∃ before after, Stands text span before after ∧
      (kind.Clear span.before → kind.Clear before.reverse) ∧
      (kind.Clear span.after → kind.Clear after) := by
  obtain ⟨d, code, hcode⟩ := List.exists_cons_of_ne_nil hne
  obtain ⟨front, back, htext, hfront, hback⟩ := List.filter_eq_append_iff.mp h
  rw [hcode, List.cons_append] at hback
  -- What has been removed before the code belongs to the text before it.
  obtain ⟨gap, back, rfl, hgap, -, hback⟩ := List.filter_eq_cons_iff.mp hback
  have hbefore : (front ++ gap).filter keep = span.before.reverse := by
    rw [List.filter_append, hfront, List.filter_eq_nil_iff.mpr hgap, List.append_nil]
  have hd : isSpace d = false := hvisible d (hcode ▸ List.mem_cons_self)
  have hrest : ∀ c ∈ code, isSpace c = false := fun c hc =>
    hvisible c (hcode ▸ List.mem_cons_of_mem d hc)
  have hclear : kind.Clear span.before → kind.Clear (front ++ gap).reverse := fun hclear =>
    clear_filter hkeep (by rw [List.filter_reverse, hbefore, List.reverse_reverse]; exact hclear)
  obtain ⟨after, rfl, hafter⟩ | ⟨first, c, last, after, rfl, hc, hsplit, hlast, hafter⟩ :=
    filter_eq_append hback
  · refine Or.inr ⟨front ++ gap, after, ⟨?_, ?_, ?_⟩, hclear, fun hclear => ?_⟩
    · rw [htext, hcode, List.append_assoc, List.cons_append]
    · rw [← hbefore, visible_filter hkeep]
    · rw [← hafter, visible_filter hkeep]
    · exact clear_filter hkeep (hafter ▸ hclear)
  · refine Or.inl ⟨front ++ gap, d :: first, c, last, after, ?_, hdropped c hc, ?_, ?_, ?_, ?_, ?_⟩
    · rw [htext]
      simp only [List.append_assoc, List.cons_append]
    · rw [visible, List.filter_cons_of_pos (by rw [hd]; rfl)]
      exact List.cons_ne_nil _ _
    · intro hnil
      refine hlast ?_
      rw [← visible_filter hkeep, visible_eq_self fun c hc => hrest c ?_] at hnil
      · exact hnil
      · rw [hsplit]
        exact List.mem_append_right first hc
    · rw [← hbefore, visible_filter hkeep]
    · rw [visible_append, ← visible_filter (l := last) hkeep, ← visible_append, List.cons_append,
        ← hsplit, ← hcode, visible_eq_self hvisible]
    · rw [← hafter, visible_filter hkeep]

theorem collapseSpaces_cons {inRun : Bool} {c : Char} (h : isSpace c = false) :
    collapseSpaces inRun (c :: l) = c :: collapseSpaces false l := by
  rw [collapseSpaces, h]
  rfl

theorem collapseSpaces_front {code last : List Char} (hvisible : ∀ c ∈ code, isSpace c = false)
    (h : collapseSpaces false l = code ++ last) :
    ∃ after, l = code ++ after ∧ last = collapseSpaces false after := by
  induction code generalizing l with
  | nil => exact ⟨l, rfl, h.symm⟩
  | cons d code ih =>
    rw [List.forall_mem_cons] at hvisible
    cases l with
    | nil => cases h
    | cons c l =>
      cases hc : isSpace c with
      | true =>
        rw [collapseSpaces, if_pos hc, if_neg Bool.false_ne_true] at h
        obtain ⟨rfl, -⟩ := List.cons.inj h
        exact absurd hvisible.1 (by decide)
      | false =>
        rw [collapseSpaces_cons hc] at h
        obtain ⟨rfl, htail⟩ := List.cons.inj h
        obtain ⟨after, rfl, hlast⟩ := ih hvisible.2 htail
        exact ⟨after, rfl, hlast⟩

theorem collapseSpaces_eq_append {inRun : Bool} {first code last : List Char} (hne : code ≠ [])
    (hvisible : ∀ c ∈ code, isSpace c = false)
    (h : collapseSpaces inRun l = first ++ (code ++ last)) :
    ∃ before after, l = before ++ (code ++ after) ∧ first = collapseSpaces inRun before ∧
      last = collapseSpaces false after := by
  induction l generalizing inRun first with
  | nil =>
    have hnil := (List.append_eq_nil_iff.mp h.symm).2
    exact absurd (List.append_eq_nil_iff.mp hnil).1 hne
  | cons c l ih =>
    cases hc : isSpace c with
    | true =>
      cases inRun with
      | true =>
        rw [collapseSpaces, if_pos hc, if_pos rfl] at h
        obtain ⟨before, after, rfl, hfirst, hlast⟩ := ih h
        refine ⟨c :: before, after, rfl, ?_, hlast⟩
        rw [collapseSpaces, if_pos hc, if_pos rfl]
        exact hfirst
      | false =>
        rw [collapseSpaces, if_pos hc, if_neg Bool.false_ne_true] at h
        cases first with
        | nil =>
          obtain ⟨d, code, rfl⟩ := List.exists_cons_of_ne_nil hne
          obtain ⟨rfl, -⟩ := List.cons.inj h
          exact absurd (hvisible ' ' List.mem_cons_self) (by decide)
        | cons d first =>
          obtain ⟨rfl, htail⟩ := List.cons.inj h
          obtain ⟨before, after, rfl, hfirst, hlast⟩ := ih htail
          refine ⟨c :: before, after, rfl, ?_, hlast⟩
          rw [collapseSpaces, if_pos hc, if_neg Bool.false_ne_true, hfirst]
    | false =>
      cases first with
      | nil =>
        rw [collapseSpaces_cons hc] at h
        have hfront : collapseSpaces false (c :: l) = code ++ last := by
          rw [collapseSpaces_cons hc]
          exact h
        obtain ⟨after, hsplit, hlast⟩ := collapseSpaces_front hvisible hfront
        exact ⟨[], after, hsplit, rfl, hlast⟩
      | cons d first =>
        rw [collapseSpaces_cons hc] at h
        obtain ⟨rfl, htail⟩ := List.cons.inj h
        obtain ⟨before, after, rfl, hfirst, hlast⟩ := ih htail
        refine ⟨c :: before, after, rfl, ?_, hlast⟩
        rw [collapseSpaces_cons hc, hfirst]

theorem visible_collapseSpaces {inRun : Bool} : visible (collapseSpaces inRun l) = visible l := by
  have hspace : ∀ {c : Char} {l : List Char}, isSpace c = true → visible (c :: l) = visible l :=
    fun hc => List.filter_cons_of_neg (by rw [hc]; exact Bool.false_ne_true)
  induction l generalizing inRun with
  | nil => rfl
  | cons c l ih =>
    cases hc : isSpace c with
    | true =>
      rw [collapseSpaces, if_pos hc, hspace hc]
      split
      · exact ih
      · exact (hspace (by decide)).trans ih
    | false =>
      rw [collapseSpaces_cons hc, visible, visible, List.filter_cons_of_pos (by rw [hc]; rfl),
        List.filter_cons_of_pos (by rw [hc]; rfl)]
      exact congrArg (c :: ·) ih

theorem clear_collapseSpaces : kind.Clear (collapseSpaces false l) ↔ kind.Clear l := by
  cases l with
  | nil => rfl
  | cons c l =>
    cases hc : isSpace c with
    | true =>
      rw [collapseSpaces, if_pos hc, if_neg Bool.false_ne_true, clear_cons, clear_cons,
        holds_of_space hc]
      exact iff_of_true (holds_of_space (by decide)) rfl
    | false => rw [collapseSpaces_cons hc, clear_cons, clear_cons]

theorem collapseSpaces_concat {inRun : Bool} {c : Char} (h : isSpace c = false) :
    collapseSpaces inRun (l ++ [c]) = collapseSpaces inRun l ++ [c] := by
  induction l generalizing inRun with
  | nil => exact collapseSpaces_cons h
  | cons d l ih =>
    rw [List.cons_append, collapseSpaces, collapseSpaces]
    split
    · split
      · exact ih
      · rw [ih, List.cons_append]
    · rw [ih, List.cons_append]

theorem clear_of_collapsed {inRun : Bool} (h : kind.Clear (collapseSpaces inRun l).reverse) :
    kind.Clear l.reverse := by
  intro c hc
  obtain ⟨l', hl⟩ := List.head?_eq_some_iff.mp hc
  obtain rfl : l = l'.reverse ++ [c] := by
    rw [← List.reverse_cons, ← hl, List.reverse_reverse]
  cases hs : isSpace c with
  | true => exact holds_of_space hs
  | false =>
    rw [collapseSpaces_concat hs, List.reverse_append] at h
    exact clear_cons.mp h

theorem clear_append_spaces {side spaces : List Char} (hspaces : ∀ c ∈ spaces, isSpace c = true) :
    kind.Clear (side ++ spaces) ↔ kind.Clear side := by
  cases side with
  | nil =>
    refine iff_of_true (fun c hc => holds_of_space (hspaces c ?_)) clear_nil
    exact List.mem_of_mem_head? hc
  | cons c side => rw [List.cons_append, clear_cons, clear_cons]

theorem visible_spaces {spaces : List Char} (hspaces : ∀ c ∈ spaces, isSpace c = true) :
    visible spaces = [] :=
  List.filter_eq_nil_iff.mpr fun c hc => by rw [hspaces c hc]; exact Bool.false_ne_true

theorem stands_of_collapsed (hne : span.text ≠ []) (hvisible : ∀ c ∈ span.text, isSpace c = false)
    (h : (stripBy isSpace (.ofList (collapseSpaces false text.toList))).toList =
      span.before.reverse ++ (span.text ++ span.after)) :
    ∃ before after, Stands text span before after ∧
      (kind.Clear span.before → kind.Clear before.reverse) ∧
      (kind.Clear after ↔ kind.Clear span.after) := by
  rw [toList_stripBy, String.toList_ofList] at h
  let collapsed := collapseSpaces false text.toList
  have hfront : ∀ c ∈ collapsed.takeWhile isSpace, isSpace c = true := fun _ => List.mem_takeWhile_imp
  have hback : ∀ c ∈ (collapsed.dropWhile isSpace).rtakeWhile isSpace, isSpace c = true :=
    fun _ => List.mem_rtakeWhile_imp
  have hcollapsed : collapsed = (collapsed.takeWhile isSpace ++ span.before.reverse) ++
      (span.text ++ (span.after ++ (collapsed.dropWhile isSpace).rtakeWhile isSpace)) := by
    have hdropped : (collapsed.dropWhile isSpace).rdropWhile isSpace ++
        (collapsed.dropWhile isSpace).rtakeWhile isSpace = collapsed.dropWhile isSpace :=
      List.rdropWhile_append_rtakeWhile
    rw [show (collapsed.dropWhile isSpace).rdropWhile isSpace = _ from h] at hdropped
    calc collapsed = collapsed.takeWhile isSpace ++ collapsed.dropWhile isSpace :=
          List.takeWhile_append_dropWhile.symm
      _ = collapsed.takeWhile isSpace ++ (span.before.reverse ++ (span.text ++ span.after) ++
          (collapsed.dropWhile isSpace).rtakeWhile isSpace) :=
        congrArg (collapsed.takeWhile isSpace ++ ·) hdropped.symm
      _ = _ := by simp only [List.append_assoc]
  obtain ⟨before, after, htext, hbefore, hafter⟩ := collapseSpaces_eq_append hne hvisible hcollapsed
  refine ⟨before, after, ⟨htext, ?_, ?_⟩, fun hclear => ?_, ?_⟩
  · rw [← visible_collapseSpaces, ← hbefore, visible_append, visible_spaces hfront, List.nil_append]
  · rw [← visible_collapseSpaces, ← hafter, visible_append, visible_spaces hback, List.append_nil]
  · suffices h : kind.Clear (collapseSpaces false before).reverse from clear_of_collapsed h
    rw [← hbefore, List.reverse_append, List.reverse_reverse]
    exact (clear_append_spaces fun c hc => hfront c (List.mem_reverse.mp hc)).mpr hclear
  · rw [← clear_collapseSpaces, ← hafter]
    exact clear_append_spaces hback

variable {python : Python} {body serviceKey : String} {subject : Option String}
  {rule : ExtractionRule} {entry : ServiceEntry}

def codeClasses : List CharClass :=
  [.item (.digit false), .set false [.range 'A' 'Z', .range '0' '9']]

theorem foldCase_of_space (h : isSpace c = true) : foldCase c = c ∧ c.toUpper = c := by
  unfold isSpace at h
  simp only [Bool.or_eq_true, Bool.and_eq_true, decide_eq_true_eq] at h
  constructor
  · unfold foldCase
    dsimp only
    rw [if_neg (by omega), if_neg (by omega), if_neg (by omega), if_neg (by omega)]
  · unfold Char.toUpper
    refine dif_neg fun hlower => ?_
    have hlow : 97 ≤ c.toNat := hlower.1
    have hhigh : c.toNat ≤ 122 := hlower.2
    omega

theorem not_space_of_code (unicode : Unicode) (hk : k ∈ codeClasses)
    (h : k.accepts flags c = true) : isSpace c = false := by
  cases hs : isSpace c with
  | false => rfl
  | true =>
    obtain ⟨hfold, hupper⟩ := foldCase_of_space hs
    obtain rfl | hk := List.mem_cons.mp hk
    · rw [decimal_iff, decimal_of_space unicode hs] at h
      cases h
    · obtain rfl := List.mem_singleton.mp hk
      unfold isSpace at hs
      simp only [Bool.or_eq_true, Bool.and_eq_true, decide_eq_true_eq] at hs
      simp only [CharClass.accepts, Item.accepts, hfold, hupper, inRange] at h
      simp at h
      omega

/-- `ruleShape`, from the bytes of the pattern. -/
def byteShape (rule : ExtractionRule) : Option (Flags × Pattern × Shape) :=
  (compileChars (decodeBytes rule.regex.toByteArray.data.toList)).bind fun compiled =>
    compiled.2.shape.map fun shape => (compiled.1, compiled.2, shape)

theorem ruleShape_eq : ruleShape rule = byteShape rule := by
  rw [ruleShape, compile, toList_eq_decodeBytes]
  rfl

/-- What the patterns for codes have in common, and that none of Disney+ or HBO Max is open at a
side that the normalisation changes. -/
def checkCode (serviceKey serviceName : String) (shape : Shape) : Bool :=
  !shape.last.sets 1 && shape.count ≠ 0 && shape.k ∈ codeClasses &&
    (serviceName ≠ "Disney+" || shape.clearBefore (besidesTable serviceKey) &&
      shape.clearAfter (besidesTable serviceKey)) &&
    (serviceName ≠ "HBO Max" || shape.clearBefore (besidesTable serviceKey))

theorem catalog_codes : ∀ item ∈ catalogV1, ∀ rule ∈ item.2.extractionRules, rule.type = .code →
    ((byteShape rule).any fun read => checkCode item.1 item.2.serviceName read.2.2) = true := by
  decide +kernel

theorem of_catalog_codes (hitem : (serviceKey, entry) ∈ catalogV1)
    (hrule : rule ∈ entry.extractionRules) (hcode : rule.type = .code) :
    ∃ read, ruleShape rule = some read ∧ read.2.2.last.sets 1 = false ∧ read.2.2.count ≠ 0 ∧
      read.2.2.k ∈ codeClasses ∧
      (entry.serviceName = "Disney+" →
        openBefore serviceKey rule = false ∧ openAfter serviceKey rule = false) ∧
      (entry.serviceName = "HBO Max" → openBefore serviceKey rule = false) := by
  obtain ⟨read, hread, hcheck⟩ := (Option.any_eq_true _ _).mp (catalog_codes _ hitem rule hrule hcode)
  rw [← ruleShape_eq] at hread
  unfold checkCode at hcheck
  simp only [Bool.and_eq_true, Bool.or_eq_true, Bool.not_eq_true', decide_eq_true_eq] at hcheck
  obtain ⟨⟨⟨⟨hsets, hcount⟩, hclass⟩, hdisney⟩, hhbo⟩ := hcheck
  have hopen : ∀ {b : Bool}, b = true → (!b) = false := fun h => by rw [h]; rfl
  refine ⟨read, hread, hsets, hcount, hclass, fun hname => ?_, fun hname => ?_⟩
  · obtain ⟨hbefore, hafter⟩ := hdisney.resolve_left (not_not_intro hname)
    rw [openBefore, openAfter, hread]
    exact ⟨hopen hbefore, hopen hafter⟩
  · rw [openBefore, hread]
    exact hopen (hhbo.resolve_left (not_not_intro hname))

theorem toClassTable_besides {serviceKey : String} :
    (besides unicode serviceKey).toClassTable = besidesTable serviceKey := by
  unfold besides besidesTable
  split <;> rfl

theorem extractFromBody_withSearch :
    extractFromBody (python.withSearch unicode) body serviceKey subject =
      (decidingMatch unicode body serviceKey subject).map fun hit =>
        ⟨.ofList hit.2.text, hit.1.type, serviceKey⟩ := by
  unfold extractFromBody decidingMatch
  split
  · rfl
  cases getServiceEntry serviceKey with
  | none => rfl
  | some entry =>
    dsimp only
    rw [List.map_findSome?]
    congr 1
    funext candidateBody
    rw [Function.comp_apply, List.map_findSome?]
    congr 1
    funext rule
    rw [Function.comp_apply, Option.map_map]
    unfold Python.withSearch
    rw [Option.map_map]
    rfl

theorem of_decidingMatch
    (h : decidingMatch unicode body serviceKey subject = some (rule, span)) :
    ∃ entry candidateBody m, getServiceEntry serviceKey = some entry ∧
      rule ∈ entry.extractionRules ∧
      (candidateBody = body ∨ candidateBody = normalizeBody body serviceKey) ∧
      search unicode rule.regex candidateBody.toList = some m ∧ m.group 1 = some span := by
  unfold decidingMatch at h
  split at h
  · cases h
  cases hentry : getServiceEntry serviceKey with
  | none =>
    rw [hentry] at h
    cases h
  | some entry =>
    rw [hentry] at h
    obtain ⟨candidateBody, hcandidate, hrules⟩ := List.exists_of_findSome?_eq_some h
    obtain ⟨rule', hrule, hspan⟩ := List.exists_of_findSome?_eq_some hrules
    obtain ⟨span', hfound, heq⟩ := Option.map_eq_some_iff.mp hspan
    cases heq
    obtain ⟨m, hm, hgroup⟩ := Option.bind_eq_some_iff.mp hfound
    refine ⟨entry, candidateBody, m, rfl, hrule, ?_, hm, hgroup⟩
    unfold bodiesToTry at hcandidate
    dsimp only at hcandidate
    split at hcandidate
    · simpa using hcandidate
    · exact Or.inl (List.mem_singleton.mp hcandidate)

theorem of_code (h : decidingMatch unicode body serviceKey subject = some (rule, span))
    (hcode : rule.type = .code) :
    ∃ entry, (serviceKey, entry) ∈ catalogV1 ∧ getServiceEntry serviceKey = some entry ∧
      rule ∈ entry.extractionRules ∧ span.text ≠ [] ∧ (∀ c ∈ span.text, isSpace c = false) ∧
      (openBefore serviceKey rule = false → (besides unicode serviceKey).Clear span.before) ∧
      (openAfter serviceKey rule = false → (besides unicode serviceKey).Clear span.after) ∧
      (body.toList = span.before.reverse ++ (span.text ++ span.after) ∨
        (normalizeBody body serviceKey).toList =
          span.before.reverse ++ (span.text ++ span.after)) := by
  obtain ⟨entry, candidateBody, m, hentry, hrule, hcandidate, hm, hgroup⟩ := of_decidingMatch h
  have hitem : (serviceKey, entry) ∈ catalogV1 := by
    obtain ⟨front, back, hmem, -⟩ := List.lookup_eq_some_iff.mp hentry
    rw [hmem]
    exact List.mem_append_right front List.mem_cons_self
  obtain ⟨⟨flags, pattern, shape⟩, hruleShape, hsets, hcount, hclass, -⟩ :=
    of_catalog_codes hitem hrule hcode
  obtain ⟨compiled, hcompile, hshape⟩ := Option.bind_eq_some_iff.mp hruleShape
  obtain ⟨shape', hshape', heq⟩ := Option.map_eq_some_iff.mp hshape
  cases heq
  obtain ⟨span', hspan', hsplit, hlength, hall, hsides⟩ := span_of_search hcompile hshape' hsets hm
  obtain rfl : span' = span := Option.some.inj (hspan'.symm.trans hgroup)
  obtain ⟨hbefore, hafter⟩ := hsides (besides unicode serviceKey)
  rw [toClassTable_besides] at hbefore hafter
  refine ⟨entry, hitem, hentry, hrule, fun hnil => hcount ?_, fun c hc =>
    not_space_of_code unicode hclass (hall c hc), fun hopen => hbefore ?_, fun hopen => hafter ?_,
    ?_⟩
  · rw [← hlength, hnil]
    rfl
  · rw [openBefore, hruleShape] at hopen
    simpa using hopen
  · rw [openAfter, hruleShape] at hopen
    simpa using hopen
  · obtain rfl | rfl := hcandidate
    · exact Or.inl hsplit.symm
    · exact Or.inr hsplit.symm

end WholeCodeLemmas

open WholeCodeLemmas

variable {unicode : Unicode} {python : Python} {body serviceKey : String}
  {subject : Option String} {result : ExtractedCode}

/-- **Whole codes.** A code that is found in a body (or in a subject, in place of the body) is
read by one rule at one place. It stands in the email as it is, with nothing of its kind next to
it, if and only if nothing of the kind stands at a side at which the rule is open, and no white
space has been removed inside it. -/
theorem whole_iff
    (h : extractFromBody (python.withSearch unicode) body serviceKey subject = some result)
    (hcode : result.resultType = .code) :
    ∃ rule span, decidingMatch unicode body serviceKey subject = some (rule, span) ∧
      result.value = .ofList span.text ∧
      (Whole (besides unicode serviceKey) body span ↔ ¬Glued body span ∧
        (openBefore serviceKey rule = true → (besides unicode serviceKey).Clear span.before) ∧
        (openAfter serviceKey rule = true → (besides unicode serviceKey).Clear span.after)) := by
  rw [extractFromBody_withSearch] at h
  obtain ⟨⟨rule, span⟩, hhit, rfl⟩ := Option.map_eq_some_iff.mp h
  refine ⟨rule, span, hhit, rfl, ?_⟩
  obtain ⟨entry, hitem, hentry, hrule, hne, hvisible, hbefore, hafter, hbody⟩ := of_code hhit hcode
  obtain ⟨-, -, -, -, -, hdisney, hhbo⟩ := of_catalog_codes hitem hrule hcode
  have hopen : ∀ {b : Bool} {p : Prop}, (b = false → p) → (b = true → p) → p := fun hfalse htrue =>
    (Bool.eq_false_or_eq_true _).elim htrue hfalse
  -- A code that stands in the email as in the body that was tried.
  have hraw : body.toList = span.before.reverse ++ (span.text ++ span.after) →
      (Whole (besides unicode serviceKey) body span ↔ ¬Glued body span ∧
        (openBefore serviceKey rule = true → (besides unicode serviceKey).Clear span.before) ∧
        (openAfter serviceKey rule = true → (besides unicode serviceKey).Clear span.after)) := by
    intro hsplit
    have hstands : Stands body span span.before.reverse span.after := ⟨hsplit, rfl, rfl⟩
    rw [whole_of_stands hvisible hne hstands, List.reverse_reverse]
    exact ⟨fun ⟨hb, ha⟩ => ⟨not_glued hvisible hstands, fun _ => hb, fun _ => ha⟩,
      fun ⟨_, hb, ha⟩ => ⟨hopen hbefore hb, hopen hafter ha⟩⟩
  obtain hsplit | hsplit := hbody
  · exact hraw hsplit
  unfold normalizeBody at hsplit
  rw [hentry] at hsplit
  dsimp only at hsplit
  split at hsplit
  · next hname =>
    obtain ⟨hnotBefore, hnotAfter⟩ := hdisney hname
    rw [String.toList_ofList] at hsplit
    have hcases : Glued body span ∨ ∃ before after, Stands body span before after ∧
        ((besides unicode serviceKey).Clear span.before →
          (besides unicode serviceKey).Clear before.reverse) ∧
        ((besides unicode serviceKey).Clear span.after →
          (besides unicode serviceKey).Clear after) := by
      refine stands_of_filter (fun c hc => ?_) (fun c hc => ?_) hne hvisible hsplit
      · rw [decide_eq_true_eq]
        refine ⟨?_, ?_, ?_⟩ <;> rintro rfl <;> exact absurd hc (by decide)
      · rw [decide_eq_false_iff_not] at hc
        by_contra hspace
        refine hc ⟨?_, ?_, ?_⟩ <;> rintro rfl <;> exact hspace (by decide)
    obtain hglued | ⟨before, after, hstands, hb, ha⟩ := hcases
    · refine iff_of_false (fun ⟨before, after, hstands, _⟩ => not_glued hvisible hstands hglued)
        fun hcondition => hcondition.1 hglued
    · rw [whole_of_stands hvisible hne hstands, hnotBefore, hnotAfter]
      exact iff_of_true ⟨hb (hbefore hnotBefore), ha (hafter hnotAfter)⟩
        ⟨not_glued hvisible hstands, nofun, nofun⟩
  split at hsplit
  · next hname =>
    have hnotBefore := hhbo hname
    obtain ⟨before, after, hstands, hb, ha⟩ : ∃ before after, Stands body span before after ∧
        ((besides unicode serviceKey).Clear span.before →
          (besides unicode serviceKey).Clear before.reverse) ∧
        ((besides unicode serviceKey).Clear after ↔
          (besides unicode serviceKey).Clear span.after) :=
      stands_of_collapsed hne hvisible hsplit
    rw [whole_of_stands hvisible hne hstands, ha, hnotBefore]
    exact ⟨fun ⟨_, hclear⟩ => ⟨not_glued hvisible hstands, nofun, fun _ => hclear⟩,
      fun ⟨_, _, hclear⟩ => ⟨hb (hbefore hnotBefore), hopen hafter hclear⟩⟩
  · exact hraw hsplit

/-! ## Codes that are not whole -/

def Complete (kind : Kind unicode) (text value : String) : Prop :=
  ∃ before after, text.toList = before ++ (value.toList ++ after) ∧ kind.Clear before.reverse ∧
    kind.Clear after

namespace WholeCodeLemmas

theorem not_complete {kind : Kind unicode} {text value : String}
    (h : ∀ i ∈ List.range (text.toList.length + 1), (text.toList.drop i).take value.toList.length =
      value.toList → ¬(kind.Clear (text.toList.take i).reverse ∧
        kind.Clear (text.toList.drop (i + value.toList.length)))) :
    ¬Complete kind text value := by
  rintro ⟨before, after, htext, hclear⟩
  have hbefore : text.toList.take before.length = before := by rw [htext, List.take_left]
  have hdrop : text.toList.drop before.length = value.toList ++ after := by
    rw [htext, List.drop_left]
  refine h before.length ?_ ?_ ⟨by rw [hbefore]; exact hclear.1, ?_⟩
  · rw [List.mem_range, htext, List.length_append]
    omega
  · rw [hdrop, List.take_left]
  · rw [← List.drop_drop, hdrop, List.drop_left]
    exact hclear.2

theorem search_bytes {regex : String} {text : List Char} : search unicode regex text =
    (compileChars (decodeBytes regex.toByteArray.data.toList)).bind fun compiled =>
      searchFrom unicode compiled.1 compiled.2 [] text := by
  rw [search, compile, toList_eq_decodeBytes]

end WholeCodeLemmas

def exUnicode : Unicode := .ascii

def exPython : Python where
  search _ _ := none
  lower text := text
  isoformat _ := ""
  hexdigest _ := .ofList (List.replicate 64 '0')
  hexdigest_length := length_zeros
  hexdigest_digits := isHexDigit_zeros

theorem extracted_from_number : extractFromBody (exPython.withSearch exUnicode)
    "Enter this code 1234567" "spotify" none = some ⟨"123456", .code, "spotify"⟩ := by
  have hmatch : (decidingMatch exUnicode "Enter this code 1234567" "spotify" none).map
      (fun hit => (hit.2.text, hit.1.type)) = some (['1', '2', '3', '4', '5', '6'], .code) := by
    rw [decidingMatch]
    simp only [search_bytes, toList_eq_decodeBytes]
    decide +kernel
  obtain ⟨hit, hhit, heq⟩ := Option.map_eq_some_iff.mp hmatch
  obtain ⟨htext, htype⟩ := Prod.mk.inj heq
  rw [extractFromBody_withSearch, hhit, Option.map_some, htext, htype]

/-- The first six digits of a longer number. -/
theorem code_cut_out :
    extractFromBody (exPython.withSearch exUnicode) "Enter this code 1234567" "spotify" none =
      some ⟨"123456", .code, "spotify"⟩ ∧
    ¬Complete (digits exUnicode) "Enter this code 1234567" "123456" := by
  constructor
  · exact extracted_from_number
  · refine not_complete ?_
    simp only [toList_eq_decodeBytes]
    decide +kernel

/-- The deciding match of a longer number. -/
theorem cut_out_not_whole : ∃ rule span,
    decidingMatch exUnicode "Enter this code 1234567" "spotify" none = some (rule, span) ∧
      ¬Whole (digits exUnicode) "Enter this code 1234567" span := by
  obtain ⟨rule, span, hhit, -, hwhole⟩ := whole_iff extracted_from_number rfl
  refine ⟨rule, span, hhit, fun h => ?_⟩
  obtain ⟨-, -, hclear⟩ := hwhole.mp h
  have hbroken : (decidingMatch exUnicode "Enter this code 1234567" "spotify" none).any
      (fun hit => openAfter "spotify" hit.1 &&
        !decide ((besides exUnicode "spotify").Clear hit.2.after)) = true := by
    unfold decidingMatch openAfter
    simp only [search_bytes, ruleShape_eq, toList_eq_decodeBytes]
    decide +kernel
  rw [hhit, Option.any_some, Bool.and_eq_true, Bool.not_eq_true', decide_eq_false_iff_not]
    at hbroken
  exact hbroken.2 (hclear hbroken.1)

end Trackpal.Worker

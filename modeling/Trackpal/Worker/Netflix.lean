import Mathlib.Data.List.Dedup
import Trackpal.Foundation.RegexGroups
import Trackpal.Foundation.StableSort

/-!
# The code of a Netflix page

`extract_netflix_verify_code` of `netflix/resolver.py`, with its patterns. The decoding of entities
is a parameter.
-/

namespace Trackpal.Worker.Netflix

open Trackpal.Foundation Regex

/-! ## Windows -/

def placeholders : List (List Char) :=
  ["0000", "000000", "1234", "123456", "1111", "2222", "3333", "4444", "5555", "6666", "7777",
    "8888", "9999"].map String.toList

/-- `_looks_like_placeholder`. -/
def looksLikePlaceholder (code : List Char) : Bool :=
  code.dedup.length = 1 || placeholders.contains code

def windowsOf (digits : List Char) (size : Nat) : List (List Char) :=
  if size ≤ digits.length then
    (List.range (digits.length - size + 1)).map fun index => (digits.drop index).take size
  else []

/-- `_digit_windows`. -/
def digitWindows (digits : List Char) : List (List Char) := [6, 5, 4].flatMap (windowsOf digits)

/-! ## What the patterns find -/

def otpPattern : String :=
  "(?is)<div[^>]*data-uia=\"travel-verification-otp\"[^>]*" ++
    "class=\"[^\"]*challenge-code[^\"]*\"[^>]*>(.*?)</div>"

def otpTagPattern : String :=
  "(?is)(<div[^>]*data-uia=\"travel-verification-otp\"[^>]*" ++
    "class=\"[^\"]*challenge-code[^\"]*\"[^>]*>)"

def attributePattern : String :=
  "aria-label=\"(\\d\x7b4,6\x7d)\"|data-[a-zA-Z0-9_-]+=\"[^\"]*(\\d\x7b4,6\x7d)[^\"]*\""

def namedPattern : String :=
  "(?is)<[^>]+data-uia=\"[^\"]*(?:code|otp|pin)[^\"]*\"[^>]*>(.*?)</[^>]+>"

def classedPattern : String :=
  "(?is)<(span|div)[^>]+class=\"[^\"]*(?:challenge-code|code|otp|pin)" ++
    "[^\"]*\"[^>]*>(.*?)</\\1>"

def scriptPattern : String := "(?is)<script[^>]*>\\s*(\\\x7b.*?\\\x7d)\\s*</script>"

def fieldPattern : String :=
  "\"(?:otp|code|pin)[^\"]*\"\\s*:\\s*\"?(\\d\x7b4,8\x7d)\"?"

/-- Digits that are taken from a page. `content`, which the code does not have, is all the digits of
the element, the attribute or the field that they are taken from. -/
structure Candidate where
  score : Nat
  code : List Char
  content : List Char
deriving DecidableEq, Repr

section

variable (unicode : Unicode) (unescape : List Char → List Char)

/-- The digits, without the tags and with the entities decoded. -/
def digitContent (raw : List Char) : List Char :=
  (unescape (sub unicode "<[^>]+>" [' '] raw)).filter isDecimal

/-- The contents of the elements that a pattern finds. -/
def elements (regex : String) (i : Nat) (text : List Char) : List (List Char) :=
  (finditer unicode regex text).filterMap fun m =>
    (m.group i).map fun span => digitContent unicode unescape span.text

def isQuote (c : Char) : Bool := c = '"'

/-- The text between the quotes around a span. -/
def quoted (span : Span) : List Char :=
  (span.before.takeWhile (!isQuote ·)).reverse ++ (span.text ++ span.after.takeWhile (!isQuote ·))

/-- The first group that is not empty. -/
def attributeValue (m : Match) : Option Span :=
  ((m.group 1).filter (·.text ≠ [])).or ((m.group 2).filter (·.text ≠ []))

/-- The values in the attributes of the marked elements, with all the digits of the attribute. -/
def attributes (text : List Char) : List (List Char × List Char) :=
  (finditer unicode otpTagPattern text).flatMap fun tag =>
    (tag.group 1).toList.flatMap fun tag =>
      (finditer unicode attributePattern tag.text).filterMap fun m =>
        (attributeValue m).map fun span =>
          (span.text, digitContent unicode unescape (quoted span))

/-- The value of a field from the span on: a text, or a number. -/
def fieldValue (span : Span) : List Char :=
  span.text ++ if span.before.head?.any isQuote then span.after.takeWhile (!isQuote ·)
    else span.after.takeWhile fun c => c ∉ [',', ']', '\x7d'] && !isSpace c

/-- The values in the scripts, with all the digits of the field. -/
def scriptFields (text : List Char) : List (List Char × List Char) :=
  (finditer unicode scriptPattern text).flatMap fun block =>
    (block.group 1).toList.flatMap fun block =>
      (finditer unicode fieldPattern block.text).filterMap fun m =>
        (m.group 1).map fun span =>
          (span.text, digitContent unicode unescape (fieldValue span))

/-- What the patterns find on a page: the contents of elements, and values with all the digits of
their attribute or field. -/
structure Found where
  otp : List (List Char)
  attributes : List (List Char × List Char)
  named : List (List Char)
  classed : List (List Char)
  fields : List (List Char × List Char)
deriving DecidableEq, Repr

def found (text : List Char) : Found where
  otp := elements unicode unescape otpPattern 1 text
  attributes := attributes unicode unescape text
  named := elements unicode unescape namedPattern 1 text
  classed := elements unicode unescape classedPattern 2 text
  fields := scriptFields unicode unescape text

end

/-! ## The code -/

/-- A candidate, with the score of six digits or that of fewer. -/
def scored (six fewer : Nat) (content digit : List Char) : Candidate :=
  ⟨if digit.length = 6 then six else fewer, digit, content⟩

def windowCandidates (six fewer : Nat) (contents : List (List Char)) : List Candidate :=
  contents.flatMap fun digits =>
    ((digitWindows digits).filter (!looksLikePlaceholder ·)).map (scored six fewer digits)

def attributeCandidates (values : List (List Char × List Char)) : List Candidate :=
  (values.filter (!looksLikePlaceholder ·.1)).map fun value => scored 8 7 value.2 value.1

def candidates (page : Found) : List Candidate :=
  windowCandidates 10 9 page.otp ++ (attributeCandidates page.attributes ++
    (windowCandidates 8 5 page.named ++ windowCandidates 7 4 page.classed))

def byScore (a b : Candidate) : Bool := b.score ≤ a.score

def isFieldCode (value : List Char × List Char) : Bool :=
  4 ≤ value.1.length && value.1.length ≤ 6 && !looksLikePlaceholder value.1

/-- What is returned, with the content that it is taken from. -/
def chosen (page : Found) : Option Candidate :=
  match (candidates page).mergeSort byScore with
  | first :: _ => some first
  | [] => (page.fields.find? isFieldCode).map fun value => ⟨0, value.1, value.2⟩

def extractNetflixVerifyCode (unicode : Unicode) (unescape : List Char → List Char)
    (text : List Char) : Option (List Char) :=
  (chosen (found unicode unescape text)).map (·.code)

/-- The windows of some sizes that are no placeholders. -/
def showing (sizes : List Nat) (content : List Char) : List (List Char) :=
  (sizes.flatMap (windowsOf content)).filter (!looksLikePlaceholder ·)

def isWhole (content : List Char) : Bool := content.length ≤ 6 && !looksLikePlaceholder content

/-- Of the contents that show something, whether they are codes as a whole. -/
def shown (sizes : List Nat) (contents : List (List Char)) : List Bool :=
  (contents.filter fun content => showing sizes content ≠ []).map isWhole

/-- Of the values that are codes, whether they are all the digits of their attribute or field. -/
def valued (p : List Char → Bool) (values : List (List Char × List Char)) : List Bool :=
  (values.filter fun value => !looksLikePlaceholder value.1 && p value.1).map fun value =>
    decide (value.1 = value.2)

/-- Of what shows a code in the elements and their attributes, in the order of preference, whether it
is the code as a whole. -/
def elementRanking (page : Found) : List Bool :=
  shown [6] page.otp ++ (shown [5, 4] page.otp ++ (valued (·.length = 6) page.attributes ++
    (shown [6] page.named ++ (valued (·.length ≠ 6) page.attributes ++ (shown [6] page.classed ++
      (shown [5, 4] page.named ++ shown [5, 4] page.classed))))))

/-- The same of the whole page: the scripts come last. -/
def ranking (page : Found) : List Bool :=
  elementRanking page ++ valued (fun value => 4 ≤ value.length && value.length ≤ 6) page.fields

/-- The contents of all that the patterns find. -/
def Found.contents (page : Found) : List (List Char) :=
  page.otp ++ (page.named ++ (page.classed ++
    (page.attributes.map Prod.snd ++ page.fields.map Prod.snd)))

/-- A code that is returned is all the digits of what it is taken from, and placeholders give none. -/
structure CodeDisplayed (page : Found) : Prop where
  whole : ∀ candidate, chosen page = some candidate → candidate.code = candidate.content
  placeholders : (∀ content ∈ page.contents, looksLikePlaceholder content = true) →
    chosen page = none

namespace NetflixLemmas

variable {unicode : Unicode} {unescape : List Char → List Char} {text : List Char} {page : Found}
  {digits window content : List Char} {sizes : List Nat} {cs : List (List Char)}
  {six fewer k : Nat} {candidate : Candidate}

/-! ## Windows -/

theorem of_windowsOf {size : Nat} (h : window ∈ windowsOf digits size) :
    window <:+: digits ∧ window.length = size := by
  unfold windowsOf at h
  split at h
  · next hle =>
    obtain ⟨index, hindex, rfl⟩ := List.mem_map.mp h
    have hlt := List.mem_range.mp hindex
    refine ⟨(List.take_prefix _ _).isInfix.trans (List.drop_suffix _ _).isInfix, ?_⟩
    rw [List.length_take, List.length_drop]
    omega
  · cases h

theorem of_showing (h : window ∈ showing sizes content) :
    window <:+: content ∧ window.length ∈ sizes ∧ looksLikePlaceholder window = false := by
  obtain ⟨hwindow, hnew⟩ := List.mem_filter.mp h
  obtain ⟨size, hsize, hmem⟩ := List.mem_flatMap.mp hwindow
  obtain ⟨hpart, hlength⟩ := of_windowsOf hmem
  exact ⟨hpart, hlength ▸ hsize, by simpa using hnew⟩

theorem windowsOf_self : windowsOf digits digits.length = [digits] := by
  unfold windowsOf
  rw [if_pos (Nat.le_refl _), Nat.sub_self]
  exact congrArg ([·]) (List.take_length (l := digits))

/-- A content that is a code as a whole shows itself first. -/
theorem showing_self {larger smaller : List Nat} (hlarger : ∀ size ∈ larger, digits.length < size)
    (hnew : looksLikePlaceholder digits = false) :
    ∃ rest, showing (larger ++ digits.length :: smaller) digits = digits :: rest := by
  have hnone : larger.flatMap (windowsOf digits) = [] :=
    List.flatMap_eq_nil_iff.mpr fun size hsize => if_neg (Nat.not_le_of_lt (hlarger size hsize))
  rw [showing, List.flatMap_append, hnone, List.nil_append, List.flatMap_cons, windowsOf_self,
    List.singleton_append, List.filter_cons_of_pos (by rw [hnew]; rfl)]
  exact ⟨_, rfl⟩

/-- The first window of six digits is the content exactly when this is a code as a whole. -/
theorem whole_six {rest : List (List Char)} (h : showing [6] content = window :: rest) :
    window = content ↔ isWhole content = true := by
  obtain ⟨hpart, hlength, hnew⟩ := of_showing (h ▸ List.mem_cons_self)
  have hlength := List.mem_singleton.mp hlength
  unfold isWhole
  rw [Bool.and_eq_true, decide_eq_true_eq, Bool.not_eq_true']
  constructor
  · rintro rfl
    exact ⟨hlength.le, hnew⟩
  · rintro ⟨hle, -⟩
    exact hpart.eq_of_length (by have := hpart.length_le; omega)

/-- The same of fewer digits, for a content that shows nothing of six. -/
theorem whole_fewer {rest : List (List Char)} (hsix : showing [6] content = [])
    (h : showing [5, 4] content = window :: rest) : window = content ↔ isWhole content = true := by
  obtain ⟨hpart, hlength, hnew⟩ := of_showing (h ▸ List.mem_cons_self)
  have hfour : 4 ≤ window.length ∧ window.length ≤ 5 := by
    simp only [List.mem_cons, List.not_mem_nil, or_false] at hlength
    omega
  unfold isWhole
  rw [Bool.and_eq_true, decide_eq_true_eq, Bool.not_eq_true']
  constructor
  · rintro rfl
    exact ⟨by omega, hnew⟩
  · rintro ⟨hle, hcontent⟩
    have hge := hpart.length_le
    have hcases : content.length = 6 ∨ content.length = 5 ∨ content.length = 4 := by omega
    obtain hcase | hcase | hcase := hcases
    · obtain ⟨rest, hself⟩ := @showing_self content [] [] (fun _ hmem => nomatch hmem) hcontent
      rw [hcase, List.nil_append, hsix] at hself
      cases hself
    · obtain ⟨rest, hself⟩ := @showing_self content [] [4] (fun _ hmem => nomatch hmem) hcontent
      rw [hcase, List.nil_append, h] at hself
      exact (List.cons.inj hself).1
    · obtain ⟨rest, hself⟩ := @showing_self content [5] [] (by simp [hcase]) hcontent
      rw [hcase, List.singleton_append, h] at hself
      exact (List.cons.inj hself).1

/-! ## The order of the candidates -/

/-- The first of the candidates with the highest score comes first. -/
theorem head_byScore {l : List Candidate} {ks : List Nat} (hks : ks.Pairwise (· > ·))
    (hmem : ∀ c ∈ l, c.score ∈ ks) :
    (l.mergeSort byScore).head? = (ks.flatMap fun k => l.filter (·.score = k)).head? := by
  have htrans (a b c : Candidate) (hab : byScore a b = true) (hbc : byScore b c = true) :
      byScore a c = true :=
    decide_eq_true (Nat.le_trans (of_decide_eq_true hbc) (of_decide_eq_true hab))
  have htotal (a b : Candidate) : byScore a b || byScore b a := by
    simpa [byScore] using Nat.le_total b.score a.score
  cases hsort : l.mergeSort byScore with
  | nil =>
    have hnil : l = [] := by
      have hlength := @List.length_mergeSort _ byScore l
      rw [hsort] at hlength
      exact List.eq_nil_of_length_eq_zero hlength.symm
    rw [hnil, List.flatMap_eq_nil_iff.mpr fun _ _ => List.filter_nil]
  | cons first rest =>
    have hfirst : first ∈ l := List.mem_mergeSort.mp (hsort ▸ List.mem_cons_self)
    have hle : ∀ c ∈ l, c.score ≤ first.score := by
      intro c hc
      rw [← @List.mem_mergeSort _ byScore, hsort] at hc
      rcases List.mem_cons.mp hc with rfl | hc
      · exact Nat.le_refl _
      · have hsorted := List.pairwise_mergeSort htrans htotal l
        rw [hsort] at hsorted
        exact of_decide_eq_true ((List.pairwise_cons.mp hsorted).1 c hc)
    have hkeep : l.filter (·.score = first.score) =
        (l.mergeSort byScore).filter (·.score = first.score) := by
      rw [← mergeSort_filter htrans htotal, List.mergeSort_of_pairwise]
      refine List.pairwise_of_forall_mem_list fun a ha b hb => decide_eq_true ?_
      have ha := of_decide_eq_true (List.mem_filter.mp ha).2
      have hb := of_decide_eq_true (List.mem_filter.mp hb).2
      omega
    obtain ⟨higher, lower, hsplit⟩ := List.append_of_mem (hmem first hfirst)
    have hhigher : (higher.flatMap fun k => l.filter (·.score = k)) = [] := by
      refine List.flatMap_eq_nil_iff.mpr fun k hk => List.filter_eq_nil_iff.mpr fun c hc hscore => ?_
      rw [hsplit] at hks
      have hgt := (List.pairwise_append.mp hks).2.2 k hk first.score List.mem_cons_self
      have hcle := hle c hc
      rw [of_decide_eq_true hscore] at hcle
      omega
    rw [hsplit, List.flatMap_append, hhigher, List.nil_append, List.flatMap_cons, hkeep, hsort]
    simp

/-- The windows of some sizes, as candidates with one score. -/
def windowsAt (score : Nat) (sizes : List Nat) (cs : List (List Char)) : List Candidate :=
  cs.flatMap fun content => (showing sizes content).map fun window => ⟨score, window, content⟩

theorem filter_windowCandidates (hne : six ≠ fewer) :
    (windowCandidates six fewer cs).filter (·.score = k) =
      if k = six then windowsAt six [6] cs
      else if k = fewer then windowsAt fewer [5, 4] cs else [] := by
  have hsix : ∀ content, ∀ window ∈ showing [6] content, window.length = 6 := fun content window h =>
    List.mem_singleton.mp (of_showing h).2.1
  have hfewer : ∀ content, ∀ window ∈ showing [5, 4] content, window.length ≠ 6 := by
    intro content window h
    have hmem := (of_showing h).2.1
    simp only [List.mem_cons, List.not_mem_nil, or_false] at hmem
    omega
  have hsplit (content : List Char) :
      ((digitWindows content).filter (!looksLikePlaceholder ·)).map (scored six fewer content) =
        (showing [6] content).map (⟨six, ·, content⟩) ++
          (showing [5, 4] content).map (⟨fewer, ·, content⟩) := by
    change ((([6] ++ [5, 4]).flatMap (windowsOf content)).filter _).map _ = _
    rw [List.flatMap_append, List.filter_append, List.map_append]
    refine congrArg₂ (· ++ ·) (List.map_congr_left fun window h => ?_)
      (List.map_congr_left fun window h => ?_)
    · exact congrArg (Candidate.mk · window content) (if_pos (hsix content window h))
    · exact congrArg (Candidate.mk · window content) (if_neg (hfewer content window h))
  unfold windowCandidates windowsAt
  simp only [hsplit, List.filter_flatMap, List.filter_append, List.filter_map, Function.comp_def]
  split
  · next hk => simp [hk, hne.symm]
  split
  · next hk => simp [hk, hne]
  · next hk hk' => simp [Ne.symm hk, Ne.symm hk']

/-- The values with one score. -/
def valuesAt (score : Nat) (p : List Char → Bool) (values : List (List Char × List Char)) :
    List Candidate :=
  (values.filter fun value => !looksLikePlaceholder value.1 && p value.1).map fun value =>
    ⟨score, value.1, value.2⟩

theorem filter_attributes {values : List (List Char × List Char)} :
    (attributeCandidates values).filter (·.score = k) =
      if k = 8 then valuesAt 8 (·.length = 6) values
      else if k = 7 then valuesAt 7 (·.length ≠ 6) values else [] := by
  have hfilter (p : List Char → Bool)
      (hp : ∀ value : List Char, decide ((if value.length = 6 then 8 else 7) = k) = p value) :
      (attributeCandidates values).filter (·.score = k) = valuesAt k p values := by
    unfold attributeCandidates valuesAt
    rw [List.filter_map, List.filter_filter]
    simp only [Function.comp_def, scored, hp, Bool.and_comm]
    refine List.map_congr_left fun value h => ?_
    have hscore := (Bool.and_eq_true _ _).mp (List.mem_filter.mp h).2
    exact congrArg (Candidate.mk · value.1 value.2) (of_decide_eq_true ((hp value.1).trans hscore.1))
  split
  · next hk => exact hk ▸ hfilter _ fun value => by rw [hk]; split <;> simp [*]
  split
  · next hk => exact hk ▸ hfilter _ fun value => by rw [hk]; split <;> simp [*]
  · next hk hk' =>
    refine (hfilter (fun _ => false) fun value => ?_).trans ?_
    · split <;> simp [Ne.symm hk, Ne.symm hk']
    · simp [valuesAt]

/-! ## What is chosen -/

/-- The first candidate is the content as a whole if the first entry says so. -/
def Agree (l : List Candidate) (entries : List Bool) : Prop :=
  (l.head?.map fun c => decide (c.code = c.content)) = entries.head?

theorem Agree.append {l l' : List Candidate} {entries entries' : List Bool} (h : Agree l entries)
    (h' : l = [] → Agree l' entries') : Agree (l ++ l') (entries ++ entries') := by
  cases l with
  | nil =>
    have hnil : entries = [] := List.head?_eq_none_iff.mp h.symm
    rw [hnil]
    exact h' rfl
  | cons c l =>
    cases entries with
    | nil => cases h
    | cons entry entries => exact h

theorem agree_valuesAt {score : Nat} {p : List Char → Bool}
    {values : List (List Char × List Char)} :
    Agree (valuesAt score p values) (valued p values) := by
  unfold Agree valuesAt valued
  rw [List.head?_map, List.head?_map, Option.map_map]
  rfl

theorem agree_windowsAt {score : Nat} (h : ∀ content ∈ cs, ∀ window rest,
      showing sizes content = window :: rest → (window = content ↔ isWhole content = true)) :
    Agree (windowsAt score sizes cs) (shown sizes cs) := by
  unfold windowsAt shown
  induction cs with
  | nil => rfl
  | cons content cs ih =>
    rw [List.forall_mem_cons] at h
    rw [List.flatMap_cons]
    cases hshowing : showing sizes content with
    | nil =>
      rw [List.filter_cons_of_neg (by simp [hshowing])]
      exact ih h.2
    | cons window rest =>
      rw [List.filter_cons_of_pos (by simp [hshowing])]
      refine congrArg some (Bool.eq_iff_iff.mpr ?_)
      rw [decide_eq_true_iff]
      exact h.1 window rest hshowing

theorem showing_of_windowsAt {score : Nat} (h : windowsAt score sizes cs = []) :
    ∀ content ∈ cs, showing sizes content = [] := fun content hcontent =>
  List.map_eq_nil_iff.mp (List.flatMap_eq_nil_iff.mp h content hcontent)

theorem agree_six {score : Nat} : Agree (windowsAt score [6] cs) (shown [6] cs) :=
  agree_windowsAt fun _ _ _ _ => whole_six

theorem agree_fewer {score score' : Nat} (h : windowsAt score [6] cs = []) :
    Agree (windowsAt score' [5, 4] cs) (shown [5, 4] cs) :=
  agree_windowsAt fun content hcontent _ _ => whole_fewer (showing_of_windowsAt h content hcontent)

/-- The candidates in the order of their scores. -/
def ranked (page : Found) : List Candidate :=
  windowsAt 10 [6] page.otp ++ (windowsAt 9 [5, 4] page.otp ++
    (valuesAt 8 (·.length = 6) page.attributes ++ (windowsAt 8 [6] page.named ++
      (valuesAt 7 (·.length ≠ 6) page.attributes ++ (windowsAt 7 [6] page.classed ++
        (windowsAt 5 [5, 4] page.named ++ windowsAt 4 [5, 4] page.classed))))))

theorem score_mem (h : candidate ∈ candidates page) : candidate.score ∈ [10, 9, 8, 7, 5, 4] := by
  have hscored {six fewer : Nat} {content digit : List Char} (hsix : six ∈ [10, 9, 8, 7, 5, 4])
      (hfewer : fewer ∈ [10, 9, 8, 7, 5, 4]) :
      (scored six fewer content digit).score ∈ [10, 9, 8, 7, 5, 4] := by
    unfold scored
    dsimp only
    split
    · exact hsix
    · exact hfewer
  have hwindows {six fewer : Nat} {cs : List (List Char)} (hsix : six ∈ [10, 9, 8, 7, 5, 4])
      (hfewer : fewer ∈ [10, 9, 8, 7, 5, 4]) (hmem : candidate ∈ windowCandidates six fewer cs) :
      candidate.score ∈ [10, 9, 8, 7, 5, 4] := by
    obtain ⟨content, -, hmem⟩ := List.mem_flatMap.mp hmem
    obtain ⟨window, -, rfl⟩ := List.mem_map.mp hmem
    exact hscored hsix hfewer
  unfold candidates at h
  rw [List.mem_append, List.mem_append, List.mem_append] at h
  obtain h | h | h | h := h
  · exact hwindows (by decide) (by decide) h
  · obtain ⟨value, -, rfl⟩ := List.mem_map.mp h
    exact hscored (by decide) (by decide)
  · exact hwindows (by decide) (by decide) h
  · exact hwindows (by decide) (by decide) h

theorem head_candidates : ((candidates page).mergeSort byScore).head? = (ranked page).head? := by
  rw [@head_byScore _ [10, 9, 8, 7, 5, 4] (by decide) fun _ => score_mem]
  refine congrArg List.head? ?_
  have hotp {cs : List (List Char)} {k : Nat} := @filter_windowCandidates cs 10 9 k (by decide)
  have hnamed {cs : List (List Char)} {k : Nat} := @filter_windowCandidates cs 8 5 k (by decide)
  have hclassed {cs : List (List Char)} {k : Nat} := @filter_windowCandidates cs 7 4 k (by decide)
  unfold candidates ranked
  simp [hotp, hnamed, hclassed, filter_attributes]

theorem agree_ranked : Agree (ranked page) (elementRanking page) :=
  agree_six.append fun hotp => (agree_fewer hotp).append fun _ => agree_valuesAt.append fun _ =>
    agree_six.append fun hnamed => agree_valuesAt.append fun _ => agree_six.append fun hclassed =>
      (agree_fewer hnamed).append fun _ => agree_fewer hclassed

theorem chosen_eq : chosen page = ((ranked page).head?.or
    ((page.fields.find? isFieldCode).map fun value =>
      ⟨0, value.1, value.2⟩)) := by
  rw [← head_candidates]
  unfold chosen
  split
  · next first rest hsort => rw [hsort]; rfl
  · next hsort => rw [hsort]; rfl

/-- The first entry tells whether the code is all the digits of what it is taken from. -/
theorem ranking_chosen : ((chosen page).map fun c => decide (c.code = c.content)) =
    (ranking page).head? := by
  have hagree := @agree_ranked page
  rw [chosen_eq]
  unfold ranking
  unfold Agree at hagree
  cases hranked : ranked page with
  | nil =>
    rw [hranked] at hagree
    rw [List.head?_eq_none_iff.mp hagree.symm, List.nil_append, List.head?_nil, Option.none_or,
      Option.map_map]
    unfold valued
    rw [List.head?_map, List.head?_filter]
    have hcode : isFieldCode = fun value => !looksLikePlaceholder value.1 &&
        (4 ≤ value.1.length && value.1.length ≤ 6) := funext fun value => Bool.and_comm _ _
    rw [hcode]
    rfl
  | cons first rest =>
    rw [hranked] at hagree
    cases hentries : elementRanking page with
    | nil =>
      rw [hentries] at hagree
      cases hagree
    | cons entry entries =>
      rw [hentries] at hagree
      exact hagree

/-! ## What a candidate is -/

/-- Four to six digits that are no placeholder, from a content of the page. -/
structure Sound (page : Found) (candidate : Candidate) : Prop where
  content : candidate.content ∈ page.contents
  length : 4 ≤ candidate.code.length ∧ candidate.code.length ≤ 6
  notPlaceholder : looksLikePlaceholder candidate.code = false
  digits : ∀ c ∈ candidate.code, isDecimal c = true

/-- What is found are digits, and those of an attribute are four to six. -/
structure AllDigits (page : Found) : Prop where
  elements : ∀ content ∈ page.otp ++ (page.named ++ page.classed), ∀ c ∈ content, isDecimal c = true
  attributes : ∀ value ∈ page.attributes,
    (4 ≤ value.1.length ∧ value.1.length ≤ 6) ∧ ∀ c ∈ value.1, isDecimal c = true
  fields : ∀ value ∈ page.fields, ∀ c ∈ value.1, isDecimal c = true

theorem digits_of_accepts {flags : Flags} {c : Char}
    (h : (CharClass.item (.digit false)).accepts flags c = true) : isDecimal c = true :=
  (Bool.bne_false _).symm.trans h

theorem of_attributes {value : List Char × List Char}
    (h : value ∈ attributes unicode unescape text) :
    (4 ≤ value.1.length ∧ value.1.length ≤ 6) ∧ ∀ c ∈ value.1, isDecimal c = true := by
  obtain ⟨tag, -, h⟩ := List.mem_flatMap.mp h
  obtain ⟨tagSpan, -, h⟩ := List.mem_flatMap.mp h
  obtain ⟨m, hm, h⟩ := List.mem_filterMap.mp h
  obtain ⟨span, hspan, rfl⟩ := Option.map_eq_some_iff.mp h
  have hgroup : m.group 1 = some span ∨ m.group 2 = some span := by
    rcases Option.or_eq_some_iff.mp hspan with hfirst | ⟨-, hsecond⟩
    · exact .inl (Option.filter_eq_some_iff.mp hfirst).1
    · exact .inr (Option.filter_eq_some_iff.mp hsecond).1
  have hrepeats : repeatsIn attributePattern 1 (.item (.digit false)) 4 6 = true ∧
      repeatsIn attributePattern 2 (.item (.digit false)) 4 6 = true := by
    decide +kernel
  obtain ⟨hlength, flags, hall⟩ := hgroup.elim (text_of_group (by decide) hrepeats.1 hm)
    (text_of_group (by decide) hrepeats.2 hm)
  exact ⟨hlength, fun c hc => digits_of_accepts (hall c hc)⟩

theorem of_scriptFields {value : List Char × List Char}
    (h : value ∈ scriptFields unicode unescape text) : ∀ c ∈ value.1, isDecimal c = true := by
  obtain ⟨block, -, h⟩ := List.mem_flatMap.mp h
  obtain ⟨blockSpan, -, h⟩ := List.mem_flatMap.mp h
  obtain ⟨m, hm, h⟩ := List.mem_filterMap.mp h
  obtain ⟨span, hspan, rfl⟩ := Option.map_eq_some_iff.mp h
  have hrepeats : repeatsIn fieldPattern 1 (.item (.digit false)) 4 8 = true := by decide +kernel
  obtain ⟨-, flags, hall⟩ := text_of_group (by decide) hrepeats hm hspan
  exact fun c hc => digits_of_accepts (hall c hc)

theorem of_elements {regex : String} {i : Nat} (h : content ∈ elements unicode unescape regex i text) :
    ∀ c ∈ content, isDecimal c = true := by
  obtain ⟨m, -, h⟩ := List.mem_filterMap.mp h
  obtain ⟨span, -, rfl⟩ := Option.map_eq_some_iff.mp h
  exact fun c hc => (List.mem_filter.mp hc).2

theorem digits_found : AllDigits (found unicode unescape text) := by
  refine ⟨fun content hcontent => ?_, fun value h => ?_, fun value h => ?_⟩
  · dsimp only [found] at hcontent
    rw [List.mem_append, List.mem_append] at hcontent
    obtain h | h | h := hcontent
    · exact of_elements h
    · exact of_elements h
    · exact of_elements h
  · dsimp only [found] at h
    exact of_attributes h
  · dsimp only [found] at h
    exact of_scriptFields h

theorem sound_of_candidates (hpage : AllDigits page) (h : candidate ∈ candidates page) :
    Sound page candidate := by
  have hwindows {six fewer : Nat} {cs : List (List Char)} (hmem : candidate ∈ windowCandidates six fewer cs)
      (hsubset : cs ⊆ page.otp ++ (page.named ++ page.classed)) : Sound page candidate := by
    obtain ⟨content, hcontent, hmem⟩ := List.mem_flatMap.mp hmem
    obtain ⟨window, hwindow, rfl⟩ := List.mem_map.mp hmem
    obtain ⟨hpart, hsize, hnew⟩ := @of_showing window content [6, 5, 4] hwindow
    have hfound := hsubset hcontent
    have hcontents : content ∈ page.contents := by
      rw [Found.contents, ← List.append_assoc page.named, ← List.append_assoc]
      exact List.mem_append_left _ hfound
    simp only [List.mem_cons, List.not_mem_nil, or_false] at hsize
    exact ⟨hcontents, by simp only [scored]; omega, hnew,
      fun c hc => hpage.elements content hfound c (hpart.subset hc)⟩
  unfold candidates at h
  rw [List.mem_append, List.mem_append, List.mem_append] at h
  obtain h | h | h | h := h
  · exact hwindows h (List.subset_append_left _ _)
  · obtain ⟨value, hvalue, rfl⟩ := List.mem_map.mp h
    obtain ⟨hvalue, hnew⟩ := List.mem_filter.mp hvalue
    obtain ⟨hlength, hdigits⟩ := hpage.attributes value hvalue
    refine ⟨?_, hlength, (Bool.not_eq_true' _).mp hnew, hdigits⟩
    exact List.mem_append_right _ (List.mem_append_right _ (List.mem_append_right _
      (List.mem_append_left _ (List.mem_map_of_mem hvalue))))
  · exact hwindows h (List.subset_append_of_subset_right _ (List.subset_append_left _ _))
  · exact hwindows h (List.subset_append_of_subset_right _ (List.subset_append_right _ _))

theorem sound_of_chosen (hpage : AllDigits page) (h : chosen page = some candidate) :
    Sound page candidate := by
  unfold chosen at h
  split at h
  · next first rest hsort =>
    obtain rfl := Option.some.inj h
    exact sound_of_candidates hpage (List.mem_mergeSort.mp (hsort ▸ List.mem_cons_self))
  · obtain ⟨value, hfind, rfl⟩ := Option.map_eq_some_iff.mp h
    have hvalue := List.mem_of_find?_eq_some hfind
    have hcode := List.find?_some hfind
    simp only [isFieldCode, Bool.and_eq_true, decide_eq_true_eq, Bool.not_eq_true'] at hcode
    refine ⟨?_, hcode.1, hcode.2, hpage.fields value hvalue⟩
    exact List.mem_append_right _ (List.mem_append_right _ (List.mem_append_right _
      (List.mem_append_right _ (List.mem_map_of_mem hvalue))))

theorem isDecimal_of_extract {code : List Char}
    (h : extractNetflixVerifyCode unicode unescape text = some code) :
    ∀ c ∈ code, isDecimal c = true := by
  obtain ⟨candidate, hchosen, rfl⟩ := Option.map_eq_some_iff.mp h
  exact (sound_of_chosen digits_found hchosen).digits

/-- A single marked element that is a code as a whole is chosen. -/
theorem chosen_of_otp (hotp : page.otp = [digits])
    (hle : 4 ≤ digits.length) (hge : digits.length ≤ 6) (hnew : looksLikePlaceholder digits = false) :
    ∃ score, chosen page = some ⟨score, digits, digits⟩ := by
  have hfirst {sizes : List Nat} {rest : List (List Char)} {score : Nat} {l : List Candidate}
      (h : showing sizes digits = digits :: rest) :
      (windowsAt score sizes [digits] ++ l).head? = some ⟨score, digits, digits⟩ := by
    unfold windowsAt
    rw [List.flatMap_cons, h]
    rfl
  rw [chosen_eq]
  unfold ranked
  rw [hotp]
  have hcases : digits.length = 6 ∨ digits.length = 5 ∨ digits.length = 4 := by omega
  obtain hcase | hcase := hcases
  · obtain ⟨rest, hself⟩ := @showing_self digits [] [] (fun _ hmem => nomatch hmem) hnew
    rw [hcase, List.nil_append] at hself
    exact ⟨10, by rw [hfirst hself]; rfl⟩
  · have hnone : windowsAt 10 [6] [digits] = [] := by
      refine List.flatMap_eq_nil_iff.mpr fun content hcontent => ?_
      rw [List.mem_singleton.mp hcontent, showing, List.flatMap_singleton, windowsOf,
        if_neg (by omega)]
      rfl
    have hself : ∃ rest, showing [5, 4] digits = digits :: rest := by
      obtain hcase | hcase := hcase
      · obtain ⟨rest, hself⟩ := @showing_self digits [] [4] (fun _ hmem => nomatch hmem) hnew
        exact ⟨rest, by rw [hcase] at hself; exact hself⟩
      · obtain ⟨rest, hself⟩ := @showing_self digits [5] [] (by simp [hcase]) hnew
        exact ⟨rest, by rw [hcase] at hself; exact hself⟩
    obtain ⟨rest, hself⟩ := hself
    rw [hnone, List.nil_append]
    exact ⟨9, by rw [hfirst hself]; rfl⟩

end NetflixLemmas

open NetflixLemmas

/-- **The code of a page.** What is returned are four to six digits of the page that are no
placeholder, and a single marked element that shows a code is preferred. The code is displayed
exactly when the first thing that shows one, in the order of preference, is a code as a whole. -/
theorem verify_code_iff (unicode : Unicode) (unescape : List Char → List Char) (text : List Char) :
    (∀ code, extractNetflixVerifyCode unicode unescape text = some code →
      (4 ≤ code.length ∧ code.length ≤ 6) ∧ looksLikePlaceholder code = false ∧
        (∀ c ∈ code, isDecimal c = true) ∧
        ∃ content ∈ (found unicode unescape text).contents, ∃ score,
          chosen (found unicode unescape text) = some ⟨score, code, content⟩) ∧
    (∀ digits, (found unicode unescape text).otp = [digits] → 4 ≤ digits.length →
      digits.length ≤ 6 → looksLikePlaceholder digits = false →
        extractNetflixVerifyCode unicode unescape text = some digits) ∧
    (CodeDisplayed (found unicode unescape text) ↔
      (ranking (found unicode unescape text)).head? ≠ some false) := by
  have hpage : AllDigits (found unicode unescape text) := digits_found
  unfold extractNetflixVerifyCode
  generalize found unicode unescape text = page at hpage
  refine ⟨fun code h => ?_, fun digits hotp hle hge hnew => ?_, ?_⟩
  · obtain ⟨candidate, hchosen, rfl⟩ := Option.map_eq_some_iff.mp h
    have hsound := sound_of_chosen hpage hchosen
    exact ⟨hsound.length, hsound.notPlaceholder, hsound.digits, candidate.content, hsound.content,
      candidate.score, hchosen⟩
  · obtain ⟨score, hchosen⟩ := chosen_of_otp hotp hle hge hnew
    rw [hchosen]
    rfl
  rw [← ranking_chosen]
  constructor
  · intro h hcut
    obtain ⟨candidate, hchosen, hne⟩ := Option.map_eq_some_iff.mp hcut
    exact of_decide_eq_false hne (h.whole candidate hchosen)
  · intro h
    have hwhole : ∀ candidate, chosen page = some candidate →
        candidate.code = candidate.content := fun candidate hchosen => by
      by_contra hne
      exact h (by rw [hchosen, Option.map_some, decide_eq_false hne])
    refine ⟨hwhole, fun hplaceholders => Option.eq_none_iff_forall_ne_some.mpr ?_⟩
    intro candidate hchosen
    have hsound := sound_of_chosen hpage hchosen
    have hplaceholder := hplaceholders _ hsound.content
    rw [← hwhole candidate hchosen, hsound.notPlaceholder] at hplaceholder
    cases hplaceholder

/-! ## Codes that are cut -/

/-- A placeholder is cut. -/
theorem placeholder_is_cut : ¬ ∀ text, CodeDisplayed (found .ascii id text) := by
  intro h
  have hpage : found .ascii id "<div class=\"pin\">123456</div>".toList =
      ⟨[], [], [], ["123456".toList], []⟩ := by
    decide +kernel
  have hcut : (ranking ⟨[], [], [], ["123456".toList], []⟩).head? = some false := by decide
  rw [← ranking_chosen, ← hpage] at hcut
  obtain ⟨candidate, hchosen, hne⟩ := Option.map_eq_some_iff.mp hcut
  exact of_decide_eq_false hne ((h _).whole candidate hchosen)

/-- Of an attribute only the last four digits are found. -/
example : ((finditer .ascii attributePattern "data-code=\"482913\"".toList).filterMap
    attributeValue).map (·.text) = ["2913".toList] := by
  decide +kernel

end Trackpal.Worker.Netflix

import Trackpal.Worker.Pipeline

/-!
# The newest email of a round

What a round of `execute_lookup` delivers, in terms of the emails that it has fetched: their
instants and their places in the list, without the sort, the indices and the pops of the
candidate loop. A link of Netflix counts with the OTP that its resolution comes to; the
resolver is asked about the links in the order in which the emails count.
-/

namespace Trackpal.Worker

open Trackpal.Protocol Trackpal.Foundation

abbrev Fetched := EmailMessage × Nat

def newer (a b : Fetched) : Bool :=
  b.1.receivedAt < a.1.receivedAt || (a.1.receivedAt = b.1.receivedAt && a.2 < b.2)

namespace Lookup

variable (lookup : Lookup) (resolutions : Nat → Resolution)

/-- The email matches the target address, and was received at or after the cutoff. -/
def counts (email : EmailMessage) : Bool :=
  filterTargetEmails lookup.python [email] lookup.command.targetEmail ≠ [] &&
    lookup.cutoff ≤ email.receivedAt

/-- The resolver is asked about the email. -/
def yieldsLink (email : EmailMessage) : Bool :=
  lookup.command.serviceKey = "netflix" &&
    (extractFromEmail lookup.python lookup.command.serviceKey email.parsed).any
      (·.resultType = .url)

def valueAt (calls : Nat) (email : EmailMessage) : Option String :=
  match extractFromEmail lookup.python lookup.command.serviceKey email.parsed with
  | none => none
  | some result =>
    if lookup.yieldsLink email then
      match (resolutions calls).answer with
      | .answered otp => otp.filter (· ≠ "")
      | _ => none
    else some result.value

/-- A new value of an email. -/
def yields (calls : Nat) (email : EmailMessage) (value : String) : Prop :=
  lookup.valueAt resolutions calls email = some value ∧
    ⟨email.messageId, lookup.fingerprint email value⟩ ∉ lookup.command.excludedDeliveries

def linksBefore (emails : List EmailMessage) (entry : Fetched) : Nat :=
  emails.zipIdx.countP fun other =>
    lookup.counts other.1 && newer other entry && lookup.yieldsLink other.1

structure Delivers (emails : List EmailMessage) (entry : Fetched) (value : String) : Prop where
  fetched : emails[entry.2]? = some entry.1
  counts : lookup.counts entry.1 = true
  yields : lookup.yields resolutions (lookup.linksBefore emails entry) entry.1 value

def Answers : Prop :=
  ∀ call, (resolutions call).readAt < lookup.deadline ∧
    ∃ otp, (resolutions call).answer = .answered otp

end Lookup

namespace NewestLemmas

variable {lookup : Lookup} {resolutions : Nat → Resolution} {calls : Nat}
  {email : EmailMessage} {emails : List EmailMessage} {value : String}

/-! ## One email -/

def callsAfter (lookup : Lookup) (calls : Nat) (email : EmailMessage) : Nat :=
  calls + if lookup.yieldsLink email then 1 else 0

theorem judge_eq (hanswers : lookup.Answers resolutions) {result : ExtractedCode}
    (hresult : extractFromEmail lookup.python lookup.command.serviceKey email.parsed =
      some result) :
    lookup.judge resolutions calls email result =
      (match lookup.valueAt resolutions calls email with
        | some value => lookup.deliver email .code value
        | none => .passedOver, callsAfter lookup calls email) := by
  have hlink : lookup.yieldsLink email = true ↔
      lookup.command.serviceKey = "netflix" ∧ result.resultType = .url := by
    unfold Lookup.yieldsLink
    rw [hresult]
    simp
  unfold Lookup.judge Lookup.valueAt callsAfter
  rw [hresult]
  dsimp only
  by_cases hurl : lookup.command.serviceKey = "netflix" ∧ result.resultType = .url
  · obtain ⟨hread, otp, hotp⟩ := hanswers calls
    rw [if_pos hurl, if_pos (hlink.mpr hurl), if_pos (hlink.mpr hurl), if_neg (by omega), hotp]
    dsimp only
    cases otp with
    | none => rfl
    | some value =>
      by_cases hempty : value = ""
      · rw [Option.getD_some, if_pos hempty, Option.filter_some, if_neg (by simp [hempty])]
      · rw [Option.getD_some, if_neg hempty, Option.filter_some, if_pos (by simp [hempty])]
  · rw [if_neg hurl, if_neg (fun h => hurl (hlink.mp h)), if_neg (fun h => hurl (hlink.mp h))]
    have hcode : result.resultType = .code := by
      cases htype : result.resultType with
      | code => rfl
      | url => exact absurd ⟨url_of_extracted hresult htype, htype⟩ hurl
    rw [hcode]
    rfl

theorem deliver_eq_passedOver {resultType : ResultType} :
    lookup.deliver email resultType value = .passedOver ↔
      ⟨email.messageId, lookup.fingerprint email value⟩ ∈ lookup.command.excludedDeliveries := by
  unfold Lookup.deliver
  split
  · next h => exact iff_of_true rfl h
  · next h => exact iff_of_false (fun heq => by cases heq) h

theorem walk_cons (hanswers : lookup.Answers resolutions) (calls : Nat) (email : EmailMessage)
    (rest : List EmailMessage) :
    (∃ value, lookup.yields resolutions calls email value ∧
      lookup.walk resolutions calls (email :: rest) =
        some (email, .delivered .code value (lookup.fingerprint email value))) ∨
    (∀ value, ¬ lookup.yields resolutions calls email value) ∧
      lookup.walk resolutions calls (email :: rest) =
        lookup.walk resolutions (callsAfter lookup calls email) rest := by
  rw [Lookup.walk]
  cases hresult : extractFromEmail lookup.python lookup.command.serviceKey email.parsed with
  | none =>
    refine .inr ⟨?_, ?_⟩
    · rintro value ⟨hvalue, -⟩
      unfold Lookup.valueAt at hvalue
      rw [hresult] at hvalue
      cases hvalue
    · unfold callsAfter Lookup.yieldsLink
      rw [hresult]
      simp
  | some result =>
    dsimp only
    rw [judge_eq hanswers hresult]
    cases hvalue : lookup.valueAt resolutions calls email with
    | none =>
      refine .inr ⟨?_, rfl⟩
      rintro value ⟨hsome, -⟩
      rw [hvalue] at hsome
      cases hsome
    | some value =>
      dsimp only
      by_cases hnew : ⟨email.messageId, lookup.fingerprint email value⟩ ∈
          lookup.command.excludedDeliveries
      · refine .inr ⟨?_, ?_⟩
        · rintro other ⟨hsome, hother⟩
          rw [hvalue] at hsome
          rw [← Option.some.inj hsome] at hother
          exact hother hnew
        · rw [deliver_eq_passedOver.mpr hnew]
      · refine .inl ⟨value, ⟨hvalue, hnew⟩, ?_⟩
        unfold Lookup.deliver
        rw [if_neg hnew]

/-! ## The walk -/

theorem walk_eq (hanswers : lookup.Answers resolutions) (calls : Nat) (emails : List EmailMessage) :
    (∃ before email after value, emails = before ++ email :: after ∧
      lookup.yields resolutions (calls + before.countP lookup.yieldsLink) email value ∧
      lookup.walk resolutions calls emails =
        some (email, .delivered .code value (lookup.fingerprint email value)) ∧
      ∀ front other back, before = front ++ other :: back → ∀ value,
        ¬ lookup.yields resolutions (calls + front.countP lookup.yieldsLink) other value) ∨
    lookup.walk resolutions calls emails = none ∧
      ∀ front other back, emails = front ++ other :: back → ∀ value,
        ¬ lookup.yields resolutions (calls + front.countP lookup.yieldsLink) other value := by
  induction emails generalizing calls with
  | nil =>
    refine .inr ⟨rfl, fun front other back h => ?_⟩
    cases front <;> cases h
  | cons email rest ih =>
    have hcalls : ∀ front : List EmailMessage,
        callsAfter lookup calls email + front.countP lookup.yieldsLink =
          calls + (email :: front).countP lookup.yieldsLink := by
      intro front
      unfold callsAfter
      rw [List.countP_cons]
      omega
    rcases walk_cons hanswers calls email rest with ⟨value, hyields, hwalk⟩ | ⟨hnone, hwalk⟩
    · refine .inl ⟨[], email, rest, value, rfl, hyields, hwalk, fun front other back h => ?_⟩
      cases front <;> cases h
    -- the email is passed over; the first one of a front is this one, or one of the rest
    have hpassed : ∀ before : List EmailMessage,
        (∀ front other back, before = front ++ other :: back → ∀ value, ¬ lookup.yields resolutions
          (callsAfter lookup calls email + front.countP lookup.yieldsLink) other value) →
        ∀ front other back, email :: before = front ++ other :: back → ∀ value,
          ¬ lookup.yields resolutions (calls + front.countP lookup.yieldsLink) other value := by
      intro before hbefore front other back hsplit value
      cases front with
      | nil =>
        cases hsplit
        exact hnone value
      | cons first front =>
        obtain ⟨rfl, htail⟩ := List.cons.inj hsplit
        rw [← hcalls]
        exact hbefore front other back htail value
    rw [hwalk]
    rcases ih (callsAfter lookup calls email) with
      ⟨before, found, after, value, rfl, hyields, hfound, hbefore⟩ | ⟨hrest, hbefore⟩
    · rw [hcalls] at hyields
      exact .inl ⟨email :: before, found, after, value, rfl, hyields, hfound,
        hpassed before hbefore⟩
    · exact .inr ⟨hrest, hpassed rest hbefore⟩

/-! ## The order of the emails -/

/-- The emails that count, with their places, in their order. -/
def entries (lookup : Lookup) (emails : List EmailMessage) : List Fetched :=
  (emails.zipIdx.mergeSort (List.zipIdxLE fun a b => newerFirst a.parsed b.parsed)).filter
    fun entry => lookup.counts entry.1

theorem newerFirst_trans (a b c : EmailMessage) (hab : newerFirst a.parsed b.parsed)
    (hbc : newerFirst b.parsed c.parsed) : newerFirst a.parsed c.parsed :=
  ExtractorLemmas.newerFirst_trans _ _ _ hab hbc

theorem newerFirst_total (a b : EmailMessage) :
    newerFirst a.parsed b.parsed || newerFirst b.parsed a.parsed :=
  ExtractorLemmas.newerFirst_total _ _

theorem filterTargetEmails_eq (lookup : Lookup) (emails : List EmailMessage) :
    filterTargetEmails lookup.python emails lookup.command.targetEmail =
      emails.filter fun email =>
        filterTargetEmails lookup.python [email] lookup.command.targetEmail ≠ [] := by
  unfold filterTargetEmails
  refine List.filter_congr fun email _ => ?_
  rw [List.filter_singleton]
  generalize (_ || _ : Bool) = matches'
  cases matches' <;> rfl

theorem ordered_eq (lookup : Lookup) (emails : List EmailMessage) :
    lookup.ordered emails = (entries lookup emails).map Prod.fst := by
  unfold Lookup.ordered recentFirst entries
  rw [filterTargetEmails_eq, List.filter_filter,
    mergeSort_filter newerFirst_trans newerFirst_total, ← List.mergeSort_zipIdx,
    List.filter_map]
  congr 1
  refine List.filter_congr fun entry _ => ?_
  rw [Function.comp_apply, Bool.and_comm]
  rfl

theorem mem_entries {entry : Fetched} : entry ∈ entries lookup emails ↔
    emails[entry.2]? = some entry.1 ∧ lookup.counts entry.1 = true := by
  unfold entries
  rw [List.mem_filter, List.mem_mergeSort, List.mem_zipIdx_iff_getElem?]

theorem newer_asymm {a b : Fetched} (h : newer a b = true) : newer b a = false := by
  unfold newer at h ⊢
  simp only [Bool.or_eq_true, Bool.and_eq_true, decide_eq_true_eq] at h
  simp only [Bool.or_eq_false_iff, Bool.and_eq_false_iff, decide_eq_false_iff_not]
  omega

theorem pairwise_entries (lookup : Lookup) (emails : List EmailMessage) :
    (entries lookup emails).Pairwise fun a b => newer a b = true := by
  have hsorted := List.pairwise_mergeSort (List.zipIdxLE_trans newerFirst_trans)
    (List.zipIdxLE_total newerFirst_total) emails.zipIdx
  have hplaces : (emails.zipIdx.mergeSort
      (List.zipIdxLE fun a b => newerFirst a.parsed b.parsed)).Pairwise fun a b => a.2 ≠ b.2 := by
    refine List.Pairwise.perm ?_ (List.mergeSort_perm _ _).symm fun h => Ne.symm h
    have hnodup : (emails.zipIdx.map Prod.snd).Nodup := by
      rw [List.zipIdx_map_snd]
      exact List.nodup_range'
    exact List.pairwise_map.mp hnodup
  refine ((hsorted.and hplaces).imp fun {a b} ⟨hle, hne⟩ => ?_).sublist List.filter_sublist
  unfold List.zipIdxLE newerFirst EmailMessage.parsed at hle
  unfold newer
  simp only [decide_eq_true_eq] at hle
  simp only [Bool.or_eq_true, Bool.and_eq_true, decide_eq_true_eq]
  split at hle
  · split at hle
    · have := of_decide_eq_true hle
      omega
    · omega
  · cases hle

theorem linksBefore_eq {before after : List Fetched} {entry : Fetched}
    (h : entries lookup emails = before ++ entry :: after) :
    lookup.linksBefore emails entry = (before.map Prod.fst).countP lookup.yieldsLink := by
  have hperm : (entries lookup emails).Perm (emails.zipIdx.filter fun other =>
      lookup.counts other.1) := (List.mergeSort_perm _ _).filter _
  have hsorted := pairwise_entries lookup emails
  rw [h] at hsorted hperm
  obtain ⟨-, hback, hfront⟩ := List.pairwise_append.mp hsorted
  have hbefore : ∀ other ∈ before, newer other entry = true :=
    fun other hother => hfront other hother entry List.mem_cons_self
  have hafter : ∀ other ∈ entry :: after, newer other entry = false := by
    intro other hother
    rcases List.mem_cons.mp hother with rfl | hrest
    · cases hself : newer other other with
      | false => rfl
      | true => rw [newer_asymm hself] at hself; cases hself
    · exact newer_asymm ((List.pairwise_cons.mp hback).1 other hrest)
  calc lookup.linksBefore emails entry
      = (emails.zipIdx.filter fun other => lookup.counts other.1).countP fun other =>
          newer other entry && lookup.yieldsLink other.1 := by
        unfold Lookup.linksBefore
        rw [List.countP_filter]
        refine List.countP_congr fun other _ => ?_
        rw [Bool.and_assoc, Bool.and_comm (lookup.counts other.1)]
    _ = (before ++ entry :: after).countP fun other =>
          newer other entry && lookup.yieldsLink other.1 := (hperm.countP_eq _).symm
    _ = before.countP (fun other => lookup.yieldsLink other.1) + 0 := by
        rw [List.countP_append]
        congr 1
        · refine List.countP_congr fun other hother => ?_
          rw [hbefore other hother, Bool.true_and]
        · rw [List.countP_eq_zero]
          intro other hother
          rw [hafter other hother, Bool.false_and]
          exact Bool.false_ne_true
    _ = (before.map Prod.fst).countP lookup.yieldsLink := by
        rw [List.countP_map]
        rfl

theorem delivers_iff {before after : List Fetched} {entry : Fetched}
    (h : entries lookup emails = before ++ entry :: after) :
    lookup.Delivers resolutions emails entry value ↔
      lookup.yields resolutions ((before.map Prod.fst).countP lookup.yieldsLink) entry.1 value := by
  have hmem : entry ∈ entries lookup emails := by
    rw [h]
    exact List.mem_append_right _ List.mem_cons_self
  obtain ⟨hfetched, hcounts⟩ := mem_entries.mp hmem
  rw [← linksBefore_eq h]
  exact ⟨fun hdelivers => hdelivers.yields, fun hyields => ⟨hfetched, hcounts, hyields⟩⟩

theorem not_delivers {before after : List Fetched}
    (h : entries lookup emails = before ++ after)
    (hnone : ∀ front other back, before.map Prod.fst = front ++ other :: back → ∀ value,
      ¬ lookup.yields resolutions (0 + front.countP lookup.yieldsLink) other value) :
    ∀ entry ∈ before, ∀ value, ¬ lookup.Delivers resolutions emails entry value := by
  intro entry hentry value hdelivers
  obtain ⟨front, back, rfl⟩ := List.append_of_mem hentry
  rw [List.append_assoc, List.cons_append] at h
  refine hnone (front.map Prod.fst) entry.1 (back.map Prod.fst) ?_ value ?_
  · rw [List.map_append, List.map_cons]
  · rw [Nat.zero_add]
    exact (delivers_iff h).mp hdelivers

end NewestLemmas

open NewestLemmas

variable {lookup : Lookup} {round : Round} {emails : List EmailMessage}

/-- **The newest email.** A round that has fetched its emails, with a resolver that answers before
the deadline, returns the newest email that counts with a new value, the first one in the order of
the fetch among those of its instant, with its identity, its value and its fingerprint; without
such an email it ends without a result. Its candidate loop ends before its fuel does, and an index
of the extractor is that of the email which the value was extracted from. -/
theorem runRound_eq_newest (hfetched : lookup.fetched round = some emails)
    (hanswers : lookup.Answers round.resolutions) :
    ((∃ entry value, lookup.Delivers round.resolutions emails entry value) →
      ∃ entry value, lookup.Delivers round.resolutions emails entry value ∧
        (∀ other value', lookup.Delivers round.resolutions emails other value' → other ≠ entry →
          newer entry other = true) ∧
        lookup.runRound round = .returns (foundOutcome .code value entry.1.messageId
          (lookup.fingerprint entry.1 value))) ∧
    ((¬ ∃ entry value, lookup.Delivers round.resolutions emails entry value) →
      lookup.runRound round =
        if lookup.deadline ≤ round.doneAt then .returns notFoundOutcome else .goesOn) ∧
    (∀ candidates fuel, candidates.length ≤ fuel →
      lookup.candidateLoop round.resolutions fuel 0 candidates =
        lookup.candidateLoop round.resolutions candidates.length 0 candidates) ∧
    ∀ candidates extracted, lookup.extract candidates = some extracted →
      ∃ email, candidates[extracted.sourceIndex]? = some email ∧
        extractFromEmail lookup.python lookup.command.serviceKey email.parsed =
          some extracted.result := by
  have hround := PipelineLemmas.runRound_of_fetched hfetched
  have hwalk := walk_eq hanswers 0 (lookup.ordered emails)
  refine ⟨fun hsome => ?_, fun hnone => ?_, fun candidates fuel hfuel => ?_,
    fun candidates extracted hextract => ?_⟩
  · rcases hwalk with ⟨before, email, after, value, hsplit, hyields, hwalk, hbefore⟩ |
      ⟨hwalk, hnone⟩
    · rw [ordered_eq] at hsplit
      obtain ⟨before, tail, hentries, rfl, htail⟩ := List.map_eq_append_iff.mp hsplit
      obtain ⟨entry, after, rfl, rfl, rfl⟩ := List.map_eq_cons_iff.mp htail
      rw [Nat.zero_add] at hyields
      refine ⟨entry, value, (delivers_iff hentries).mpr hyields, fun other value' hother hne => ?_, ?_⟩
      · have hmem := mem_entries.mpr ⟨hother.fetched, hother.counts⟩
        have hsorted := pairwise_entries lookup emails
        rw [hentries] at hmem hsorted
        rcases List.mem_append.mp hmem with hfront | hback
        · exact absurd hother (not_delivers hentries hbefore other hfront value')
        · rcases List.mem_cons.mp hback with rfl | hback
          · exact absurd rfl hne
          · exact (List.pairwise_cons.mp (List.pairwise_append.mp hsorted).2.1).1 other hback
      · rw [hround, hwalk]
        rfl
    · obtain ⟨entry, value, hdelivers⟩ := hsome
      rw [ordered_eq] at hnone
      have hmem := mem_entries.mpr ⟨hdelivers.fetched, hdelivers.counts⟩
      exact absurd hdelivers (not_delivers (List.append_nil _).symm hnone entry hmem value)
  · rcases hwalk with ⟨before, email, after, value, hsplit, hyields, -, -⟩ | ⟨hwalk, -⟩
    · rw [ordered_eq] at hsplit
      obtain ⟨before, tail, hentries, rfl, htail⟩ := List.map_eq_append_iff.mp hsplit
      obtain ⟨entry, after, rfl, rfl, rfl⟩ := List.map_eq_cons_iff.mp htail
      rw [Nat.zero_add] at hyields
      exact absurd ⟨entry, value, (delivers_iff hentries).mpr hyields⟩ hnone
    · rw [hround, hwalk]
  · rw [PipelineLemmas.candidateLoop_eq_walk hfuel, PipelineLemmas.candidateLoop_eq_walk le_rfl]
  · obtain ⟨-, email, -, -, hemail, hresult, -⟩ := extractNewestWithSource_eq_some hextract
    exact ⟨email, hemail, hresult⟩

def exLinkPython : Python where
  search := fun regex text =>
    if regex = (travelVerifyRegex "\\[" "\\]" "\\]").regex ∧ text = "[link]" then some "link"
    else if regex = (signInRegex "Enter this code to sign in").regex ∧ text = "code 4829" then
      some "4829"
    else none
  lower := id
  isoformat := fun _ => ""
  hexdigest := fun _ => .ofList (List.replicate 64 '0')
  hexdigest_length := length_zeros
  hexdigest_digits := isHexDigit_zeros

def exLinkMessage (body : String) (receivedAt : Int) : Message :=
  ⟨.text body, some "Netflix: Your sign-in code", some (some body), .instant receivedAt, "netflix",
    some ["ana@example.com"]⟩

def exLinkEmail (body : String) (receivedAt : Int) : EmailMessage :=
  ⟨"Netflix: Your sign-in code", body, receivedAt, some body, some "netflix", ["ana@example.com"]⟩

def exLinkLookup : Lookup :=
  ⟨exLinkPython, ⟨"netflix", "ana@example.com", 5, by decide, some 0, 55, by decide, none, []⟩, 0, 0⟩

def exLinkRound : Round :=
  ⟨1, some fun _ => .searched [some (exLinkMessage "code 4829" 10), some (exLinkMessage "[link]" 20)],
    fun _ => ⟨2, .answered none⟩, 3⟩

/-- The code of the older email is delivered. -/
theorem older_code_delivered : exLinkLookup.runRound exLinkRound =
    .returns (foundOutcome .code "4829" (some "code 4829")
      (exLinkLookup.fingerprint (exLinkEmail "code 4829" 10) "4829")) := by
  have hfetched : exLinkLookup.fetched exLinkRound =
      some [exLinkEmail "code 4829" 10, exLinkEmail "[link]" 20] := by decide +kernel
  have hanswers : exLinkLookup.Answers exLinkRound.resolutions :=
    fun _ => ⟨show (2 : Int) < exLinkLookup.deadline by decide +kernel, none, rfl⟩
  obtain ⟨hfound, -⟩ := runRound_eq_newest hfetched hanswers
  have hcode : exLinkLookup.Delivers exLinkRound.resolutions
      [exLinkEmail "code 4829" 10, exLinkEmail "[link]" 20] (exLinkEmail "code 4829" 10, 0) "4829" :=
    ⟨rfl, by decide +kernel, by decide +kernel, List.not_mem_nil⟩
  obtain ⟨⟨email, place⟩, value, hdelivers, -, hround⟩ := hfound ⟨_, _, hcode⟩
  rw [hround]
  have hfetchedAt := hdelivers.fetched
  have hvalue := hdelivers.yields.1
  match place with
  | 0 =>
    obtain rfl := Option.some.inj hfetchedAt
    obtain rfl : "4829" = value := Option.some.inj (hcode.yields.1.symm.trans hvalue)
    rfl
  | 1 =>
    obtain rfl := Option.some.inj hfetchedAt
    have hnone : exLinkLookup.valueAt exLinkRound.resolutions
        (exLinkLookup.linksBefore [exLinkEmail "code 4829" 10, exLinkEmail "[link]" 20]
          (exLinkEmail "[link]" 20, 1)) (exLinkEmail "[link]" 20) = none := by decide +kernel
    cases hnone.symm.trans hvalue
  | place + 2 => cases hfetchedAt

end Trackpal.Worker

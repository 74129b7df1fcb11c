import Trackpal.Worker.GmailImap

/-!
# The lookup pipeline

`execute_lookup` of `pipeline/runner.py`, round by round: the fetch, the candidate loop
with its pops, and the pause. What a round reads from the clock, from IMAP and from
Netflix is data of the round. Instants and durations are microseconds.

The candidate loop sorts what is left of the emails once more each time. It comes
to one walk through the emails of the round in the order of the sort.

Results:
1. `provenance_of_delivered`: the email that a lookup delivers was parsed from a message that one
   of its searches found.
2. `found_of_returns`: a found outcome comes from a fetched email that counts, with a key that the
   command does not exclude.
-/

namespace Trackpal.Worker

open Trackpal.Protocol Trackpal.Foundation

/-! ## Commands and outcomes -/

structure LookupExclusion where
  messageId : Option String
  fingerprint : String
deriving DecidableEq, Repr

/-- The members of a lookup command that `execute_lookup` reads. -/
structure LookupParameters where
  serviceKey : String
  targetEmail : String
  windowMinutes : Nat
  windowMinutes_pos : 0 < windowMinutes
  searchAfter : Option Int
  timeoutSeconds : Nat
  timeoutSeconds_pos : 0 < timeoutSeconds
  deadlineAt : Option Int
  excludedDeliveries : List LookupExclusion

theorem window_pos : 0 < 5 := by decide

theorem timeout_pos : 0 < 55 := by decide

/-- Build a successful normalized result. -/
def foundOutcome (resultType : ResultType) (resultValue : String) (messageId : Option String)
    (fingerprint : String) : LookupOutcome :=
  ⟨.found, some resultType, some resultValue, messageId, some fingerprint, none, none⟩

/-- Build a valid lookup with no matching result. -/
def notFoundOutcome : LookupOutcome := ⟨.notFound, none, none, none, none, none, none⟩

def retryableOutcome (errorCode errorDetail : String) : LookupOutcome :=
  ⟨.retryableFailure, none, none, none, none, some errorCode, some errorDetail⟩

def terminalOutcome (errorCode errorDetail : String) : LookupOutcome :=
  ⟨.terminalFailure, none, none, none, none, some errorCode, some errorDetail⟩

def safeProviderDetail (errorCode : String) : String :=
  (([("auth_failed", "Authentication failed — check mailbox credentials"),
      ("provider_config_error", "Mailbox configuration error — check settings")].lookup
    errorCode).getD "Provider error — check mailbox configuration")

def fetchTimeout : LookupOutcome :=
  retryableOutcome "fetch_timeout" "Email fetch timed out before the lookup deadline"

def fetchFailed : LookupOutcome :=
  retryableOutcome "fetch_failed" "Email fetch failed after retries"

def resolveTimeout : LookupOutcome :=
  retryableOutcome "resolve_timeout" "Netflix resolution timed out before the lookup deadline"

/-- The only code of a `NonTransientProviderError`. -/
def authFailed : LookupOutcome := terminalOutcome "auth_failed" (safeProviderDetail "auth_failed")

/-- The outcomes other than `found`. -/
def plainOutcomes : List LookupOutcome :=
  [notFoundOutcome, fetchTimeout, fetchFailed, authFailed, resolveTimeout]

def microseconds : Int := 1000000

/-- `_effective_timeout_seconds`. -/
def effectiveTimeout (command : LookupParameters) (now : Int) : Int :=
  match command.deadlineAt with
  | none => command.timeoutSeconds * microseconds
  | some deadlineAt => min (command.timeoutSeconds * microseconds) (max 0 (deadlineAt - now))

/-! ## The fetch -/

def maxFetchAttempts : Nat := 3

/-- `_fetch_with_retry`, with the sessions that its attempts meet. -/
def fetchWithRetry (python : Python) (sessions : Nat → Session) :
    (attempts attempt : Nat) → FetchResult
  | 0, _ => .failed
  | attempts + 1, attempt =>
    match fetchSync python (sessions attempt) with
    | .failed => fetchWithRetry python sessions attempts (attempt + 1)
    | result => result

def filterTargetEmails (python : Python) (emails : List EmailMessage) (targetEmail : String) :
    List EmailMessage :=
  let target := python.lower (stripBy isSpace targetEmail)
  emails.filter fun email =>
    occursIn target (python.lower email.subject) || occursIn target (python.lower email.body) ||
      target ∈ email.toRecipients.map python.lower

/-! ## One candidate -/

/-- What `netflix.resolve` comes to. -/
inductive ResolverAnswer where
  | timeout
  | raised
  | answered (otp : Option String)
deriving DecidableEq, Repr

structure Resolution where
  readAt : Int
  answer : ResolverAnswer
deriving DecidableEq, Repr

/-- What a candidate with a result comes to. -/
inductive Verdict where
  /-- It is popped, and the loop goes on. -/
  | passedOver
  | timedOut
  | raised
  | delivered (resultType : ResultType) (resultValue fingerprint : String)
deriving DecidableEq, Repr

/-- What a lookup runs with: its command, its instants `extraction_now` and `deadline`,
and Python's library. -/
structure Lookup where
  python : Python
  command : LookupParameters
  extractionNow : Int
  startedAt : Int

namespace Lookup

variable (lookup : Lookup)

def deadline : Int := lookup.startedAt + effectiveTimeout lookup.command lookup.extractionNow

/-- The instant from which on emails count. -/
def cutoff : Int :=
  extractionCutoff lookup.command.windowMinutes lookup.extractionNow lookup.command.searchAfter

/-- `compute_fingerprint` of a value found in an email. -/
def fingerprint (email : EmailMessage) (value : String) : String :=
  lookup.python.hexdigest <|
    match email.messageId.filter (· ≠ "") with
    | some messageId => lookup.command.serviceKey ++ "|" ++ messageId ++ "|" ++ value
    | none =>
      lookup.command.serviceKey ++ "|" ++ (email.sender.filter (· ≠ "")).getD "unknown" ++ "|" ++
        lookup.python.isoformat email.receivedAt ++ "|" ++ email.subject ++ "|" ++ value

def deliver (email : EmailMessage) (resultType : ResultType) (value : String) : Verdict :=
  if ⟨email.messageId, lookup.fingerprint email value⟩ ∈ lookup.command.excludedDeliveries then
    .passedOver
  else .delivered resultType value (lookup.fingerprint email value)

/-- A candidate with its result. A link of Netflix is resolved first; `calls` counts the
resolutions of the round. -/
def judge (resolutions : Nat → Resolution) (calls : Nat) (email : EmailMessage)
    (result : ExtractedCode) : Verdict × Nat :=
  if lookup.command.serviceKey = "netflix" ∧ result.resultType = .url then
    let resolution := resolutions calls
    if lookup.deadline - resolution.readAt ≤ 0 then (.timedOut, calls)
    else
      match resolution.answer with
      | .timeout => (.timedOut, calls + 1)
      | .raised => (.raised, calls + 1)
      | .answered otp =>
        let value := otp.getD ""
        if value = "" then (.passedOver, calls + 1)
        else (lookup.deliver email .code value, calls + 1)
  else (lookup.deliver email result.resultType result.value, calls)

end Lookup

/-! ## One round -/

/-- Where a lookup stands. -/
inductive Progress where
  | goesOn
  | returns (outcome : LookupOutcome)
  | raises
deriving DecidableEq, Repr

/-- What one turn of the `while` loop reads: the clock before the fetch and after the
candidates, the sessions of the fetch (`none`: it runs into the deadline), and the
resolutions. -/
structure Round where
  pollAt : Int
  sessions : Option (Nat → Session)
  resolutions : Nat → Resolution
  doneAt : Int

def Verdict.progress (email : EmailMessage) : Verdict → Progress
  | .passedOver => .goesOn
  | .timedOut => .returns resolveTimeout
  | .raised => .raises
  | .delivered resultType value fingerprint =>
    .returns (foundOutcome resultType value email.messageId fingerprint)

namespace Lookup

variable (lookup : Lookup)

/-- The newest result of the candidates. -/
def extract (candidates : List EmailMessage) : Option ExtractedEmail :=
  extractNewestWithSource lookup.python (candidates.map EmailMessage.parsed)
    lookup.command.serviceKey lookup.command.windowMinutes lookup.extractionNow
    lookup.command.searchAfter

def candidateLoop (resolutions : Nat → Resolution) :
    (fuel calls : Nat) → List EmailMessage → Progress
  | 0, _, _ => .goesOn
  | fuel + 1, calls, candidates =>
    match lookup.extract candidates with
    | none => .goesOn
    | some extracted =>
      match candidates[extracted.sourceIndex]? with
      | none => .raises
      | some email =>
        match lookup.judge resolutions calls email extracted.result with
        | (.passedOver, calls) =>
          candidateLoop resolutions fuel calls (candidates.eraseIdx extracted.sourceIndex)
        | (verdict, _) => verdict.progress email

/-- One turn of the `while` loop. -/
def runRound (round : Round) : Progress :=
  if lookup.deadline - round.pollAt ≤ 0 then .returns notFoundOutcome
  else
    match round.sessions with
    | none => .returns fetchTimeout
    | some sessions =>
      match fetchWithRetry lookup.python sessions maxFetchAttempts 0 with
      | .rejected => .returns authFailed
      | .failed => .returns fetchFailed
      | .emails emails =>
        let candidates := filterTargetEmails lookup.python emails lookup.command.targetEmail
        match lookup.candidateLoop round.resolutions candidates.length 0 candidates with
        | .goesOn =>
          if lookup.deadline - round.doneAt ≤ 0 then .returns notFoundOutcome else .goesOn
        | progress => progress

/-- `execute_lookup`. It goes on after the last round given. -/
def executeLookup : List Round → Progress
  | [] => .goesOn
  | round :: rounds =>
    match lookup.runRound round with
    | .goesOn => executeLookup rounds
    | progress => progress

def excluding (keys : List LookupExclusion) : Lookup :=
  { lookup with command := { lookup.command with excludedDeliveries := keys } }

/-! ## The walk through the emails of a round -/

/-- The first email in a list that is not passed over, and its verdict. -/
def walk (resolutions : Nat → Resolution) :
    (calls : Nat) → List EmailMessage → Option (EmailMessage × Verdict)
  | _, [] => none
  | calls, email :: rest =>
    match extractFromEmail lookup.python lookup.command.serviceKey email.parsed with
    | none => walk resolutions calls rest
    | some result =>
      match lookup.judge resolutions calls email result with
      | (.passedOver, calls) => walk resolutions calls rest
      | (verdict, _) => some (email, verdict)

/-- The candidates of a round in the order in which they count: those for the target
address, received at or after the cutoff, the newest first. -/
def ordered (emails : List EmailMessage) : List EmailMessage :=
  recentFirst EmailMessage.parsed lookup.cutoff
    (filterTargetEmails lookup.python emails lookup.command.targetEmail)

def fetched (round : Round) : Option (List EmailMessage) :=
  if lookup.deadline ≤ round.pollAt then none
  else
    round.sessions.bind fun sessions =>
      match fetchWithRetry lookup.python sessions maxFetchAttempts 0 with
      | .emails emails => some emails
      | _ => none

/-- The email at which a lookup ends, and its verdict: the first one that is not passed
over, in the first round that has one. -/
def ending : List Round → Option (EmailMessage × Verdict)
  | [] => none
  | round :: rounds =>
    match lookup.fetched round with
    | none => none
    | some emails =>
      match lookup.walk round.resolutions 0 (lookup.ordered emails) with
      | some last => some last
      | none => if lookup.deadline ≤ round.doneAt then none else ending rounds

def delivered (rounds : List Round) : Option EmailMessage :=
  match lookup.ending rounds with
  | some (email, .delivered _ _ _) => some email
  | _ => none

end Lookup

namespace PipelineLemmas

variable {lookup : Lookup} {resolutions : Nat → Resolution} {calls fuel : Nat}
  {email : EmailMessage} {verdict : Verdict} {outcome : LookupOutcome}

/-! ## The candidate loop -/

theorem walk_of_none {before rest : List EmailMessage}
    (h : ∀ other ∈ before,
      extractFromEmail lookup.python lookup.command.serviceKey other.parsed = none) :
    lookup.walk resolutions calls (before ++ rest) = lookup.walk resolutions calls rest := by
  induction before with
  | nil => rfl
  | cons other before ih =>
    rw [List.cons_append, Lookup.walk, h other List.mem_cons_self]
    exact ih fun x hx => h x (List.mem_cons_of_mem other hx)

theorem candidateLoop_eq_walk {candidates : List EmailMessage}
    (hfuel : candidates.length ≤ fuel) :
    lookup.candidateLoop resolutions fuel calls candidates =
      match lookup.walk resolutions calls
          (recentFirst EmailMessage.parsed lookup.cutoff candidates) with
      | none => .goesOn
      | some (email, verdict) => verdict.progress email := by
  -- induction on the fuel: a turn that goes on has popped a candidate
  induction fuel generalizing calls candidates with
  | zero =>
    cases List.length_eq_zero_iff.mp (Nat.le_zero.mp hfuel)
    simp [Lookup.candidateLoop, recentFirst, Lookup.walk]
  | succ fuel ih =>
    rw [Lookup.candidateLoop]
    cases hextract : lookup.extract candidates with
    | none =>
      have hnone := extractNewestWithSource_eq_none hextract
      have hwalk := @walk_of_none lookup resolutions calls _ [] hnone
      rw [List.append_nil, Lookup.walk] at hwalk
      rw [Lookup.cutoff, hwalk]
    | some extracted =>
      obtain ⟨before, email, after, hsorted, hemail, hresult, hbefore, hpopped⟩ :=
        extractNewestWithSource_eq_some hextract
      rw [Lookup.cutoff, hsorted, walk_of_none hbefore, Lookup.walk, hresult]
      dsimp only
      rw [hemail]
      dsimp only
      rcases hjudge : lookup.judge resolutions calls email extracted.result with ⟨verdict, calls'⟩
      cases verdict with
      | passedOver =>
        dsimp only
        have hlt := (List.getElem?_eq_some_iff.mp hemail).1
        have hlength := List.length_eraseIdx_of_lt hlt
        rw [ih (by omega), Lookup.cutoff, hpopped, walk_of_none hbefore]
      | timedOut => rfl
      | raised => rfl
      | delivered resultType value fingerprint => rfl

theorem walk_eq_some {emails : List EmailMessage}
    (h : lookup.walk resolutions calls emails = some (email, verdict)) :
    email ∈ emails ∧ verdict ≠ .passedOver ∧ ∃ calls' result,
      extractFromEmail lookup.python lookup.command.serviceKey email.parsed = some result ∧
      (lookup.judge resolutions calls' email result).1 = verdict := by
  induction emails generalizing calls with
  | nil => cases h
  | cons other rest ih =>
    have hrest : ∀ calls', lookup.walk resolutions calls' rest = some (email, verdict) →
        email ∈ other :: rest ∧ verdict ≠ .passedOver ∧ ∃ calls' result,
          extractFromEmail lookup.python lookup.command.serviceKey email.parsed = some result ∧
          (lookup.judge resolutions calls' email result).1 = verdict := by
      intro calls' hwalk
      obtain ⟨hmem, hspec⟩ := ih hwalk
      exact ⟨List.mem_cons_of_mem other hmem, hspec⟩
    rw [Lookup.walk] at h
    split at h
    · exact hrest calls h
    next result hresult =>
    split at h
    · next calls' hjudge => exact hrest calls' h
    · next verdict' calls' hpassed hjudge =>
      cases h
      refine ⟨List.mem_cons_self, ?_, calls, result, hresult, by rw [hjudge]⟩
      rintro rfl
      exact hpassed rfl

theorem judge_eq_delivered {result : ExtractedCode} {resultType : ResultType}
    {value fingerprint : String}
    (hresult : extractFromEmail lookup.python lookup.command.serviceKey email.parsed = some result)
    (h : (lookup.judge resolutions calls email result).1 =
      .delivered resultType value fingerprint) :
    (resultType = .code ∧ fingerprint = lookup.fingerprint email value) ∧
      ⟨email.messageId, fingerprint⟩ ∉ lookup.command.excludedDeliveries := by
  have hdeliver : ∀ resultType' value',
      lookup.deliver email resultType' value' = .delivered resultType value fingerprint →
      (resultType' = resultType ∧ fingerprint = lookup.fingerprint email value) ∧
        ⟨email.messageId, fingerprint⟩ ∉ lookup.command.excludedDeliveries := by
    intro resultType' value' hdelivered
    unfold Lookup.deliver at hdelivered
    split at hdelivered
    · cases hdelivered
    · next hnew =>
      cases hdelivered
      exact ⟨⟨rfl, rfl⟩, hnew⟩
  unfold Lookup.judge at h
  split at h
  · dsimp only at h
    split at h
    · cases h
    split at h
    · cases h
    · cases h
    · split at h
      · cases h
      · obtain ⟨⟨rfl, hfingerprint⟩, hnew⟩ := hdeliver _ _ h
        exact ⟨⟨rfl, hfingerprint⟩, hnew⟩
  · next hplain =>
    obtain ⟨⟨rfl, hfingerprint⟩, hnew⟩ := hdeliver _ _ h
    refine ⟨⟨?_, hfingerprint⟩, hnew⟩
    cases htype : result.resultType with
    | code => rfl
    | url => exact absurd ⟨url_of_extracted hresult htype, htype⟩ hplain

theorem walk_excluding {keys : List LookupExclusion} {emails : List EmailMessage}
    (h : ∀ email ∈ emails, ∀ value, ⟨email.messageId, lookup.fingerprint email value⟩ ∈ keys ↔
      ⟨email.messageId, lookup.fingerprint email value⟩ ∈ lookup.command.excludedDeliveries) :
    (lookup.excluding keys).walk resolutions calls emails =
      lookup.walk resolutions calls emails := by
  induction emails generalizing calls with
  | nil => rfl
  | cons email rest ih =>
    have hdeliver (resultType : ResultType) (value : String) :
        (lookup.excluding keys).deliver email resultType value =
          lookup.deliver email resultType value :=
      if_congr (h email List.mem_cons_self value) rfl rfl
    have hjudge (result : ExtractedCode) :
        (lookup.excluding keys).judge resolutions calls email result =
          lookup.judge resolutions calls email result := by
      unfold Lookup.judge
      simp only [hdeliver]
      rfl
    have ih (calls : Nat) := @ih calls fun other hother =>
      h other (List.mem_cons_of_mem email hother)
    rw [Lookup.walk, Lookup.walk]
    simp only [hjudge, ih]
    rfl

/-! ## The rounds -/

variable {round : Round} {rounds : List Round}

theorem runRound_of_fetched {emails : List EmailMessage} (h : lookup.fetched round = some emails) :
    lookup.runRound round =
      match lookup.walk round.resolutions 0 (lookup.ordered emails) with
      | some (email, verdict) => verdict.progress email
      | none => if lookup.deadline ≤ round.doneAt then .returns notFoundOutcome else .goesOn := by
  unfold Lookup.fetched at h
  split at h
  · cases h
  next htime =>
  obtain ⟨sessions, hsessions, hfetch⟩ := Option.bind_eq_some_iff.mp h
  split at hfetch
  · next emails' hemails =>
    cases hfetch
    rw [Lookup.runRound, if_neg (fun hle => htime (sub_nonpos.mp hle)), hsessions]
    dsimp only
    rw [hemails]
    dsimp only
    rw [candidateLoop_eq_walk le_rfl]
    unfold Lookup.ordered
    cases hwalk : lookup.walk round.resolutions 0 (recentFirst EmailMessage.parsed lookup.cutoff
      (filterTargetEmails lookup.python emails lookup.command.targetEmail)) with
    | none => simp only [sub_nonpos]
    | some last =>
      obtain ⟨email, verdict⟩ := last
      have hpassed := (walk_eq_some hwalk).2.1
      cases verdict with
      | passedOver => exact absurd rfl hpassed
      | timedOut => rfl
      | raised => rfl
      | delivered resultType value fingerprint => rfl
  · cases hfetch

/-- Without emails a round ends in the same way whatever is excluded. -/
theorem runRound_of_not_fetched (h : lookup.fetched round = none) :
    ∃ outcome ∈ plainOutcomes, ∀ keys,
      (lookup.excluding keys).runRound round = .returns outcome := by
  unfold Lookup.fetched at h
  split at h
  · next htime =>
    exact ⟨notFoundOutcome, by simp [plainOutcomes], fun _ => if_pos (sub_nonpos.mpr htime)⟩
  next htime =>
  have hlate : ¬lookup.deadline - round.pollAt ≤ 0 := fun hle => htime (sub_nonpos.mp hle)
  cases hsessions : round.sessions with
  | none =>
    refine ⟨fetchTimeout, by simp [plainOutcomes], fun _ => (if_neg hlate).trans ?_⟩
    rw [hsessions]
  | some sessions =>
    rw [hsessions, Option.bind_some] at h
    cases hfetch : fetchWithRetry lookup.python sessions maxFetchAttempts 0 with
    | rejected =>
      refine ⟨authFailed, by simp [plainOutcomes], fun _ => (if_neg hlate).trans ?_⟩
      rw [hsessions]
      dsimp only [Lookup.excluding]
      rw [hfetch]
    | failed =>
      refine ⟨fetchFailed, by simp [plainOutcomes], fun _ => (if_neg hlate).trans ?_⟩
      rw [hsessions]
      dsimp only [Lookup.excluding]
      rw [hfetch]
    | emails emails =>
      rw [hfetch] at h
      cases h

/-- A lookup depends on its exclusions only for the emails that it fetches behind the cutoff. -/
theorem executeLookup_excluding {keys : List LookupExclusion}
    (h : ∀ round ∈ rounds, ∀ emails, lookup.fetched round = some emails → ∀ email ∈ emails,
      lookup.cutoff ≤ email.receivedAt → ∀ value,
        (⟨email.messageId, lookup.fingerprint email value⟩ ∈ keys ↔
          ⟨email.messageId, lookup.fingerprint email value⟩ ∈ lookup.command.excludedDeliveries)) :
    (lookup.excluding keys).executeLookup rounds = lookup.executeLookup rounds := by
  induction rounds with
  | nil => rfl
  | cons round rounds ih =>
    have hround : (lookup.excluding keys).runRound round = lookup.runRound round := by
      cases hfetched : lookup.fetched round with
      | none =>
        obtain ⟨outcome, -, hplain⟩ := runRound_of_not_fetched hfetched
        exact (hplain keys).trans (hplain lookup.command.excludedDeliveries).symm
      | some emails =>
        rw [runRound_of_fetched hfetched,
          @runRound_of_fetched (lookup.excluding keys) _ _ hfetched]
        have hwalk := @walk_excluding lookup round.resolutions 0 keys (lookup.ordered emails)
          fun email hemail => by
            obtain ⟨hcandidate, hrecent⟩ := List.mem_filter.mp (List.mem_mergeSort.mp hemail)
            exact h round List.mem_cons_self emails hfetched email
              (List.mem_of_mem_filter hcandidate) (of_decide_eq_true hrecent)
        rw [← hwalk]
        rfl
    rw [Lookup.executeLookup, Lookup.executeLookup, hround,
      ih fun other hother => h other (List.mem_cons_of_mem round hother)]

theorem executeLookup_of_ending (h : lookup.executeLookup rounds = .returns outcome) :
    (∃ email verdict, lookup.ending rounds = some (email, verdict) ∧
      verdict.progress email = .returns outcome) ∨
    lookup.ending rounds = none ∧ outcome ∈ plainOutcomes := by
  induction rounds with
  | nil => cases h
  | cons round rounds ih =>
    rw [Lookup.executeLookup] at h
    rw [Lookup.ending]
    cases hfetched : lookup.fetched round with
    | none =>
      obtain ⟨outcome', hplain, hround⟩ := runRound_of_not_fetched hfetched
      rw [show lookup.runRound round = _ from hround lookup.command.excludedDeliveries] at h
      cases h
      exact .inr ⟨rfl, hplain⟩
    | some emails =>
      have hround := runRound_of_fetched hfetched
      dsimp only
      cases hwalk : lookup.walk round.resolutions 0 (lookup.ordered emails) with
      | none =>
        rw [hwalk] at hround
        dsimp only at hround ⊢
        split at hround
        · next hdone =>
          rw [hround] at h
          cases h
          rw [if_pos hdone]
          exact .inr ⟨rfl, by simp [plainOutcomes]⟩
        · next hdone =>
          rw [hround] at h
          rw [if_neg hdone]
          exact ih h
      | some last =>
        obtain ⟨email, verdict⟩ := last
        rw [hwalk] at hround
        dsimp only at hround
        refine .inl ⟨email, verdict, rfl, ?_⟩
        rw [hround] at h
        have hpassed := (walk_eq_some hwalk).2.1
        cases verdict with
        | passedOver => exact absurd rfl hpassed
        | timedOut => exact h
        | raised => exact h
        | delivered resultType value fingerprint => exact h

theorem ending_eq_some {email : EmailMessage} {verdict : Verdict}
    (h : lookup.ending rounds = some (email, verdict)) :
    ∃ round ∈ rounds, ∃ emails, lookup.fetched round = some emails ∧
      lookup.walk round.resolutions 0 (lookup.ordered emails) = some (email, verdict) := by
  induction rounds with
  | nil => cases h
  | cons round rounds ih =>
    rw [Lookup.ending] at h
    split at h
    · cases h
    next emails hfetched =>
    split at h
    · next last hwalk =>
      cases h
      exact ⟨round, List.mem_cons_self, emails, hfetched, hwalk⟩
    · split at h
      · cases h
      · obtain ⟨round', hmem, hspec⟩ := ih h
        exact ⟨round', List.mem_cons_of_mem round hmem, hspec⟩

theorem fetchWithRetry_emails {python : Python} {sessions : Nat → Session} {attempts attempt : Nat}
    {emails : List EmailMessage}
    (h : fetchWithRetry python sessions attempts attempt = .emails emails) :
    ∃ attempt', fetchSync python (sessions attempt') = .emails emails := by
  induction attempts generalizing attempt with
  | zero => cases h
  | succ attempts ih =>
    rw [fetchWithRetry] at h
    split at h
    · exact ih h
    · exact ⟨attempt, h⟩

end PipelineLemmas

open PipelineLemmas

variable {lookup : Lookup} {outcome : LookupOutcome} {rounds : List Round}

/-- What a lookup returns: a code from the email that it delivers, with that email's
identity and the fingerprint of the code; or one of the plain outcomes. -/
theorem executeLookup_returns (h : lookup.executeLookup rounds = .returns outcome) :
    (∃ email value, lookup.delivered rounds = some email ∧
      outcome = foundOutcome .code value email.messageId (lookup.fingerprint email value)) ∨
    lookup.delivered rounds = none ∧ outcome ∈ plainOutcomes := by
  rcases executeLookup_of_ending h with ⟨email, verdict, hending, hprogress⟩ | ⟨hending, hplain⟩
  · obtain ⟨round, -, emails, -, hwalk⟩ := ending_eq_some hending
    obtain ⟨-, -, calls, result, hresult, hjudge⟩ := walk_eq_some hwalk
    unfold Lookup.delivered
    rw [hending]
    cases verdict with
    | passedOver => cases hprogress
    | timedOut =>
      cases hprogress
      exact .inr ⟨rfl, by simp [plainOutcomes]⟩
    | raised => cases hprogress
    | delivered resultType value fingerprint =>
      obtain ⟨⟨rfl, rfl⟩, -⟩ := judge_eq_delivered hresult hjudge
      cases hprogress
      exact .inl ⟨email, value, rfl, rfl⟩
  · refine .inr ⟨?_, hplain⟩
    rw [Lookup.delivered, hending]

theorem found_of_returns (h : lookup.executeLookup rounds = .returns outcome)
    (hkind : outcome.kind = .found) :
    ∃ round ∈ rounds, ∃ emails, lookup.fetched round = some emails ∧ ∃ email ∈ emails,
      lookup.cutoff ≤ email.receivedAt ∧ ∃ value,
        outcome = foundOutcome .code value email.messageId (lookup.fingerprint email value) ∧
        ⟨email.messageId, lookup.fingerprint email value⟩ ∉ lookup.command.excludedDeliveries := by
  rcases executeLookup_of_ending h with ⟨email, verdict, hending, hprogress⟩ | ⟨-, hplain⟩
  · obtain ⟨round, hround, emails, hfetched, hwalk⟩ := ending_eq_some hending
    obtain ⟨hmem, -, calls, result, hresult, hjudge⟩ := walk_eq_some hwalk
    obtain ⟨hcandidate, hrecent⟩ := List.mem_filter.mp (List.mem_mergeSort.mp hmem)
    refine ⟨round, hround, emails, hfetched, email, List.mem_of_mem_filter hcandidate,
      of_decide_eq_true hrecent, ?_⟩
    cases verdict with
    | passedOver => cases hprogress
    | timedOut =>
      cases hprogress
      cases hkind
    | raised => cases hprogress
    | delivered resultType value fingerprint =>
      obtain ⟨⟨rfl, rfl⟩, hnew⟩ := judge_eq_delivered hresult hjudge
      cases hprogress
      exact ⟨value, rfl, hnew⟩
  · have hall : ∀ outcome ∈ plainOutcomes, outcome.kind ≠ .found := by decide
    exact absurd hkind (hall outcome hplain)

theorem provenance_of_delivered {email : EmailMessage} (h : lookup.delivered rounds = some email) :
    ∃ round ∈ rounds, ∃ sessions attempt hits message, round.sessions = some sessions ∧
      sessions attempt = .searched hits ∧ some message ∈ hits ∧
      parseMessage lookup.python message = some email := by
  unfold Lookup.delivered at h
  split at h
  · next email' resultType value fingerprint hending =>
    cases h
    obtain ⟨round, hround, emails, hfetched, hwalk⟩ := ending_eq_some hending
    have hmem := (walk_eq_some hwalk).1
    unfold Lookup.fetched at hfetched
    split at hfetched
    · cases hfetched
    obtain ⟨sessions, hsessions, hfetch⟩ := Option.bind_eq_some_iff.mp hfetched
    split at hfetch
    · next hemails =>
      cases hfetch
      obtain ⟨attempt, hattempt⟩ := fetchWithRetry_emails hemails
      obtain ⟨hits, hhits, hparsed⟩ := fetchSync_emails hattempt
      have hemail : email ∈ emails :=
        List.mem_of_mem_filter (List.mem_of_mem_filter (List.mem_mergeSort.mp hmem))
      obtain ⟨message, hmessage, hparse⟩ := hparsed email hemail
      exact ⟨round, hround, sessions, attempt, hits, message, hsessions, hhits, hmessage, hparse⟩
    · cases hfetch
  · cases h

end Trackpal.Worker

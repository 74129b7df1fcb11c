import Trackpal.Worker.Pipeline
import Trackpal.Coordinator.Columns
import Trackpal.Network.Redelivery

/-!
# From the mailbox to the delivery log

An outcome that `execute_lookup` returns, in the callback that `send` makes of it, up
to the commit of `complete`. The worker takes the identity of an email from its
`Message-ID` as it is, and the delivery log has room for 500 characters.
-/

namespace Trackpal.Network

open Trackpal.Protocol Trackpal.Registry Trackpal.Worker Trackpal.Backend Trackpal.Coordinator

def readEnvelope (delivery : CallbackDelivery) (verified : VerifiedHeaders) :
    Option LookupCallbackEnvelope :=
  ((EncryptedBody.modelValidate delivery.request.body).bind
    (decryptPayload · verified.keys.encryption)).bind LookupCallbackEnvelope.modelValidate

def IdentityFits (email : EmailMessage) : Prop :=
  ∀ messageId, email.messageId = some messageId → admissible 500 messageId = true

namespace OutcomeAppliedLemmas

variable {lookup : Lookup} {rounds : List Round} {outcome : LookupOutcome}
  {job : MailLookupJob}

theorem admissible_hexdigest (python : Python) (raw : String) :
    admissible 128 (python.hexdigest raw) = true := by
  have hnul : '\x00' ∉ (python.hexdigest raw).toList := by
    intro hmem
    have hdigit := List.all_eq_true.mp (python.hexdigest_digits raw) '\x00' hmem
    exact absurd hdigit (by decide)
  simp [admissible, python.hexdigest_length, hnul]

theorem columnsFit_error (h : lookup.executeLookup rounds = .returns outcome) :
    columnsFit (errorColumns outcome) = true := by
  rcases executeLookup_returns h with ⟨email, value, -, rfl⟩ | ⟨-, hplain⟩
  · rfl
  · have hauth : authFailed = terminalOutcome "auth_failed"
        "Authentication failed — check mailbox credentials" := by
      decide
    simp only [plainOutcomes, List.mem_cons, List.not_mem_nil, or_false] at hplain
    rcases hplain with rfl | rfl | rfl | rfl | rfl
    · rfl
    · exact columnsFit_failure ((admissible_ofList 100 _).trans (by decide))
        ((admissible_ofList 1000 _).trans (by decide))
    · exact columnsFit_failure ((admissible_ofList 100 _).trans (by decide))
        ((admissible_ofList 1000 _).trans (by decide))
    · rw [hauth]
      exact columnsFit_failure ((admissible_ofList 100 _).trans (by decide))
        ((admissible_ofList 1000 _).trans (by decide))
    · exact columnsFit_failure ((admissible_ofList 100 _).trans (by decide))
        ((admissible_ofList 1000 _).trans (by decide))

theorem recordDelivery_of_returns (hrow : columnsFit (jobColumns job) = true)
    (h : lookup.executeLookup rounds = .returns outcome) :
    recordDelivery job outcome = .ok () ↔
      ∀ email, lookup.delivered rounds = some email → IdentityFits email := by
  have hservice : admissible 64 job.serviceKey = true := by
    simp only [columnsFit, jobColumns, List.all_cons, Bool.and_eq_true, Option.all_some] at hrow
    exact hrow.1
  rw [recordDelivery_eq_ok]
  rcases executeLookup_returns h with ⟨email, value, hdelivered, rfl⟩ | ⟨hdelivered, hplain⟩
  · have hcolumns : columnsFit (deliveryColumns job.serviceKey email.messageId
        (lookup.fingerprint email value)) = email.messageId.all (admissible 500) := by
      simp [columnsFit, deliveryColumns, hservice, Lookup.fingerprint, admissible_hexdigest]
    constructor
    · intro hfits other hother messageId hid
      rw [hdelivered] at hother
      cases hother
      have hall := hfits rfl _ rfl
      change columnsFit (deliveryColumns job.serviceKey email.messageId
        (lookup.fingerprint email value)) = true at hall
      rw [hcolumns, hid] at hall
      exact hall
    · intro hfits _ found hfound
      cases hfound
      change columnsFit (deliveryColumns job.serviceKey email.messageId
        (lookup.fingerprint email value)) = true
      rw [hcolumns]
      cases hid : email.messageId with
      | none => rfl
      | some messageId => exact hfits email hdelivered messageId hid
  · have hkind : outcome.kind ≠ .found := by
      have hall : ∀ outcome ∈ plainOutcomes, outcome.kind ≠ .found := by decide +kernel
      exact hall outcome hplain
    refine iff_of_true (fun hfound => absurd hfound hkind) fun email hemail => ?_
    rw [hdelivered] at hemail
    cases hemail

theorem foundComplete_of_returns (h : lookup.executeLookup rounds = .returns outcome)
    (hkind : outcome.kind = .found) : foundComplete outcome ≠ none := by
  rcases executeLookup_returns h with ⟨email, value, -, rfl⟩ | ⟨-, hplain⟩
  · simp [foundComplete, foundOutcome]
  · have hall : ∀ outcome ∈ plainOutcomes, outcome.kind ≠ .found := by decide +kernel
    exact absurd hkind (hall outcome hplain)

end OutcomeAppliedLemmas

open OutcomeAppliedLemmas RedeliveryLemmas

/-- The backend reads the identity and the outcome that the worker wrote. With the lease
held and the job active and in time, `complete` applies the outcome without raising
exactly if the email that the lookup delivers, if any, has an identity that fits. That
identity is the stripped `Message-ID` of a message that a search of the lookup found. -/
theorem computed_outcome_applied_iff {lookup : Lookup} {rounds : List Round} {c : CallbackSend}
    {executors : UUID → Option LookupExecutor} {settings : Settings} {job : MailLookupJob}
    {lease : Option LookupLease} {inserted : Bool} {checkedAt settledAt : Int}
    (hreturns : lookup.executeLookup rounds = .returns c.envelope.outcome)
    (hheld : LeaseHeld job lease c.callback checkedAt)
    (hbudget : 0 < remainingLookupBudget settings job checkedAt)
    (hkept : 0 < resultTtl settings job.expiresAt settledAt)
    (hrow : columnsFit (jobColumns job) = true) :
    readEnvelope (c.delivery executors) (verifiedHeaders c) = some c.envelope ∧
      ((∃ result, completeOnPostgres settings (some job) lease c.callback inserted checkedAt
          settledAt = .ok result ∧ result.isApplied = true) ↔
        ∀ email, lookup.delivered rounds = some email → IdentityFits email) ∧
      ∀ email, lookup.delivered rounds = some email →
        ∃ round ∈ rounds, ∃ sessions attempt hits message, round.sessions = some sessions ∧
          sessions attempt = .searched hits ∧ some message ∈ hits ∧
          messageIdOf message.messageId = some email.messageId := by
  refine ⟨envelope_of_delivery, ?_, ?_⟩
  · rw [completeOnPostgres_of_held hheld hbudget hrow (columnsFit_error hreturns),
      ← recordDelivery_of_returns hrow hreturns]
    have happlied : (complete settings (some job) lease c.callback inserted checkedAt
        settledAt).isApplied = true := by
      refine (complete_applied_iff hheld).mpr ⟨hbudget, fun hkind => ?_⟩
      exact ⟨foundComplete_of_returns hreturns hkind, fun _ => hkept⟩
    change (∃ result, (recordDelivery job c.envelope.outcome).map _ = .ok result ∧ _) ↔ _
    cases recordDelivery job c.envelope.outcome with
    | error refused => simp [Except.map]
    | ok recorded => simpa [Except.map] using happlied
  · intro email hemail
    obtain ⟨round, hround, sessions, attempt, hits, message, hsessions, hhits, hmessage, hparse⟩ :=
      provenance_of_delivered hemail
    refine ⟨round, hround, sessions, attempt, hits, message, hsessions, hhits, hmessage, ?_⟩
    exact messageId_of_parseMessage hparse

def exPython : Python where
  search := fun regex text =>
    if regex = "Enter this code.*?(\\d\x7b6\x7d)" ∧ text = "Enter this code 482913" then
      some "482913"
    else none
  lower := fun text => .ofList (text.toList.map Char.toLower)
  isoformat := fun _ => "1970-01-01T00:16:40+00:00"
  hexdigest := fun raw => .ofList <| Nat.toDigits 16 <|
    if raw = "spotify|m1@mail.spotify.com|482913" then
      0x7513b5ae52ef50b8511012aa30d927bc86c8db60e510b427cd0a6b8f26830467
    else 0xf21022406b3d8047147a3474f3370bb11ce1ad806801d51ee92710e82a4f6c8d
  hexdigest_length := by
    intro raw
    rw [String.length_ofList]
    split <;> decide +kernel
  hexdigest_digits := by
    intro raw
    rw [String.toList_ofList]
    split <;> decide +kernel

def exLookupWith (command : LookupParameters) : Lookup := ⟨exPython, command, 1000 * second, 0⟩

def exLookup : Lookup :=
  ⟨exPython, ⟨"spotify", "ana@example.com", 5, window_pos, none, 55, timeout_pos, none, []⟩,
    1000 * second, 0⟩

/-- The email with the code, under a `Message-ID`. -/
def exMessage (messageId : String) : Message :=
  ⟨.text messageId, some "Your Spotify login code", some (some "Enter this code 482913"),
    .instant (1000 * second), "no-reply@spotify.com", some ["ana@example.com"]⟩

def exRound (messageId : String) : Round :=
  ⟨1, some fun _ => .searched [some (exMessage messageId)], fun _ => ⟨0, .timeout⟩, 2⟩

def exEmail (messageId : String) : EmailMessage :=
  ⟨"Your Spotify login code", "Enter this code 482913", 1000 * second, some messageId,
    some "no-reply@spotify.com", ["ana@example.com"]⟩

def exFoundSend (messageId : String) : CallbackSend :=
  { exSend with
    envelope := ⟨⟨1⟩, ⟨8⟩, foundOutcome .code "482913" (some messageId)
      (exLookup.fingerprint (exEmail messageId) "482913")⟩ }

namespace OutcomeAppliedLemmas

variable {messageId : String}

theorem parseMessage_exMessage (hid : messageIdOf (.text messageId) = some (some messageId)) :
    parseMessage exPython (exMessage messageId) = some (exEmail messageId) := by
  have hrecipients : extractRecipients exPython ["ana@example.com"] = ["ana@example.com"] := by
    decide +kernel
  change (messageIdOf (.text messageId) >>= _) = _
  rw [hid]
  change some _ = _
  rw [hrecipients]
  rfl

theorem fetched_exRound {command : LookupParameters}
    (htime : 1 < (exLookupWith command).deadline)
    (hid : messageIdOf (.text messageId) = some (some messageId)) :
    (exLookupWith command).fetched (exRound messageId) = some [exEmail messageId] := by
  have hkept : ([some (exMessage messageId)].rtake maxMessages).filterMap id =
      [exMessage messageId] := by
    simp [List.rtake, maxMessages]
  have hfetch : fetchSync exPython (.searched [some (exMessage messageId)]) =
      .emails [exEmail messageId] := by
    refine fetchSync_searched ?_
    rw [hkept]
    simp [parseMessage_exMessage hid]
  have hretry : fetchWithRetry (exLookupWith command).python
      (fun _ => .searched [some (exMessage messageId)]) maxFetchAttempts 0 =
        .emails [exEmail messageId] := by
    show fetchWithRetry exPython (fun _ => .searched [some (exMessage messageId)]) (2 + 1) 0 = _
    rw [fetchWithRetry, hfetch]
  have hsessions : (exRound messageId).sessions =
      some fun _ => .searched [some (exMessage messageId)] := rfl
  have hintime : ¬(exLookupWith command).deadline ≤ (exRound messageId).pollAt := not_le.mpr htime
  rw [Lookup.fetched, if_neg hintime]
  simp only [hsessions, Option.bind_some, hretry]

theorem walk_exRound {command : LookupParameters} (hservice : command.serviceKey = "spotify")
    (haddress : command.targetEmail = "ana@example.com")
    (hcutoff : (exLookupWith command).cutoff ≤ 1000 * second)
    (hnew : ⟨some messageId, (exLookupWith command).fingerprint (exEmail messageId) "482913"⟩ ∉
      command.excludedDeliveries) :
    (exLookupWith command).walk (exRound messageId).resolutions 0
        ((exLookupWith command).ordered [exEmail messageId]) =
      some (exEmail messageId, .delivered .code "482913"
        ((exLookupWith command).fingerprint (exEmail messageId) "482913")) := by
  have htarget : filterTargetEmails exPython [exEmail messageId] command.targetEmail =
      [exEmail messageId] := by
    rw [haddress, filterTargetEmails]
    refine List.filter_cons_of_pos ((Bool.or_eq_true _ _).mpr (.inr ?_))
    show decide (exPython.lower (Foundation.stripBy Foundation.isSpace "ana@example.com") ∈
      ["ana@example.com"].map exPython.lower) = true
    decide +kernel
  have hordered : (exLookupWith command).ordered [exEmail messageId] = [exEmail messageId] := by
    show recentFirst EmailMessage.parsed (exLookupWith command).cutoff
      (filterTargetEmails exPython [exEmail messageId] command.targetEmail) = _
    have hkeep : [exEmail messageId].filter
        (fun email => (exLookupWith command).cutoff ≤ email.parsed.receivedAt) =
          [exEmail messageId] := List.filter_cons_of_pos (decide_eq_true hcutoff)
    rw [htarget, recentFirst, hkeep]
    exact List.mergeSort_singleton _
  have hextract : extractFromEmail (exLookupWith command).python
      (exLookupWith command).command.serviceKey (exEmail messageId).parsed =
        some ⟨"482913", .code, "spotify"⟩ := by
    show extractFromEmail exPython command.serviceKey
      ⟨"Your Spotify login code", "Enter this code 482913", 1000 * second⟩ = _
    rw [hservice]
    decide +kernel
  have hdeliver : (exLookupWith command).deliver (exEmail messageId) .code "482913" =
      .delivered .code "482913" ((exLookupWith command).fingerprint (exEmail messageId) "482913") :=
    if_neg hnew
  have hjudge : (exLookupWith command).judge (exRound messageId).resolutions 0 (exEmail messageId)
      ⟨"482913", .code, "spotify"⟩ = (.delivered .code "482913"
        ((exLookupWith command).fingerprint (exEmail messageId) "482913"), 0) := by
    rw [Lookup.judge, if_neg (by simp), hdeliver]
  rw [hordered, Lookup.walk, hextract]
  dsimp only
  rw [hjudge]

theorem executeLookup_exRound {command : LookupParameters}
    (hservice : command.serviceKey = "spotify")
    (haddress : command.targetEmail = "ana@example.com")
    (htime : 1 < (exLookupWith command).deadline)
    (hcutoff : (exLookupWith command).cutoff ≤ 1000 * second)
    (hnew : ⟨some messageId, (exLookupWith command).fingerprint (exEmail messageId) "482913"⟩ ∉
      command.excludedDeliveries)
    (hid : messageIdOf (.text messageId) = some (some messageId)) :
    (exLookupWith command).executeLookup [exRound messageId] =
        .returns (foundOutcome .code "482913" (some messageId)
          ((exLookupWith command).fingerprint (exEmail messageId) "482913")) ∧
      (exLookupWith command).delivered [exRound messageId] = some (exEmail messageId) := by
  have hfetched := fetched_exRound htime hid
  have hround := PipelineLemmas.runRound_of_fetched hfetched
  rw [walk_exRound hservice haddress hcutoff hnew] at hround
  constructor
  · rw [Lookup.executeLookup, hround]
    rfl
  · rw [Lookup.delivered, Lookup.ending, hfetched]
    dsimp only
    rw [walk_exRound hservice haddress hcutoff hnew]

theorem executeLookup_exLookup (hid : messageIdOf (.text messageId) = some (some messageId)) :
    exLookup.executeLookup [exRound messageId] = .returns (exFoundSend messageId).envelope.outcome ∧
      exLookup.delivered [exRound messageId] = some (exEmail messageId) :=
  @executeLookup_exRound messageId exLookup.command rfl rfl (by decide +kernel) (by decide +kernel)
    (List.not_mem_nil) hid

theorem exFound_held :
    LeaseHeld exAssigned (some ⟨⟨7⟩, ⟨8⟩, 1170 * second⟩) (exFoundSend messageId).callback
      (1001 * second) :=
  ⟨rfl, .inr rfl, 1170 * second, rfl, by decide⟩

theorem refused_of_long {result : CallbackResult} (hlong : admissible 500 messageId = false) :
    completeOnPostgres .default (some exAssigned) (some ⟨⟨7⟩, ⟨8⟩, 1170 * second⟩)
      (exFoundSend messageId).callback true (1001 * second) (1001 * second) ≠ .ok result := by
  have hrefused : recordDelivery exAssigned (exFoundSend messageId).callback.outcome =
      .error .insertDelivery := by
    refine if_neg ?_
    simp [columnsFit, deliveryColumns, exFoundSend, CallbackSend.callback, foundOutcome, hlong]
  rw [completeOnPostgres_of_held exFound_held (by decide) (by decide +kernel) rfl, hrefused]
  intro hok
  cases hok

end OutcomeAppliedLemmas

/-- The code from an email with an ordinary identity is applied. -/
theorem exFound_applied : ∃ result,
    completeOnPostgres .default (some exAssigned) (some ⟨⟨7⟩, ⟨8⟩, 1170 * second⟩)
      (exFoundSend "m1@mail.spotify.com").callback true (1001 * second) (1001 * second) =
        .ok result ∧ result.isApplied = true := by
  obtain ⟨hreturns, hdelivered⟩ := @executeLookup_exLookup "m1@mail.spotify.com" (by decide +kernel)
  refine (@computed_outcome_applied_iff exLookup [exRound "m1@mail.spotify.com"]
    (exFoundSend "m1@mail.spotify.com") (fun _ => none) .default exAssigned _ true _ _ hreturns
    exFound_held (by decide) (by decide) (by decide +kernel)).2.1.mpr ?_
  intro email hemail messageId hid
  rw [hdelivered] at hemail
  cases hemail
  cases hid
  decide +kernel

/-- A `Message-ID` of a given length. -/
def exMessageId (length : Nat) : String := .ofList (List.replicate length 'a')

theorem length_exMessageId (length : Nat) : (exMessageId length).length = length := by
  rw [exMessageId, String.length_ofList, List.length_replicate]

theorem messageIdOf_exMessageId {length : Nat} (hpos : 0 < length) :
    messageIdOf (.text (exMessageId length)) = some (some (exMessageId length)) := by
  have hchars : ∀ c ∈ (exMessageId length).toList, c = 'a' := by
    intro c hc
    rw [exMessageId, String.toList_ofList] at hc
    exact List.eq_of_mem_replicate hc
  refine messageIdOf_text ?_ ?_ ?_
  · intro hempty
    have hlength := length_exMessageId length
    rw [hempty, String.length_empty] at hlength
    omega
  · intro c hc
    rw [hchars c hc]
    decide
  · intro c hc
    rw [hchars c hc]
    decide

/-- An identity that the delivery log has no room for: `complete` raises, although the
lease is held and the job is active and in time. -/
theorem long_message_id_refused :
    ¬ ∀ (lookup : Lookup) (rounds : List Round) (c : CallbackSend)
        (executors : UUID → Option LookupExecutor) (settings : Settings) (job : MailLookupJob)
        (lease : Option LookupLease) (inserted : Bool) (checkedAt settledAt : Int),
      lookup.executeLookup rounds = .returns c.envelope.outcome →
      LeaseHeld job lease c.callback checkedAt →
      0 < remainingLookupBudget settings job checkedAt →
      0 < resultTtl settings job.expiresAt settledAt →
      columnsFit (jobColumns job) = true →
      readEnvelope (c.delivery executors) (verifiedHeaders c) = some c.envelope ∧
        ∃ result, completeOnPostgres settings (some job) lease c.callback inserted checkedAt
          settledAt = .ok result ∧ result.isApplied = true := by
  intro h
  have hlong : admissible 500 (exMessageId 501) = false := by
    rw [admissible, length_exMessageId]
    rfl
  obtain ⟨-, result, hresult, -⟩ := h exLookup [exRound (exMessageId 501)]
    (exFoundSend (exMessageId 501)) (fun _ => none) .default exAssigned
    (some ⟨⟨7⟩, ⟨8⟩, 1170 * second⟩) true (1001 * second) (1001 * second)
    (executeLookup_exLookup (messageIdOf_exMessageId (by decide))).1 exFound_held (by decide)
    (by decide) (by decide +kernel)
  exact refused_of_long hlong hresult

end Trackpal.Network

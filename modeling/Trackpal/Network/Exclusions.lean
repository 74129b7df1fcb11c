import Mathlib.Logic.Equiv.Nat
import Trackpal.Worker.Pipeline
import Trackpal.Worker.Runtime
import Trackpal.Backend.Transport
import Trackpal.Coordinator.DeliveryLog
import Trackpal.Network.OutcomeApplied

/-!
# Codes that were delivered before

`_build_envelope` lists the deliveries since `search_after`, the worker skips the emails
received before `search_after` and those that are listed, and the delivery log refuses
a key that it has. An email is known by its identity and the fingerprint of its code.

Results:
1. `command_of_envelope`: the worker reads the window and the exclusions of the envelope.
2. `delivered_never_found`.
-/

namespace Trackpal.Network

open Trackpal.Protocol Trackpal.Worker Trackpal.Backend Trackpal.Coordinator
  OutcomeAppliedLemmas

structure DatetimeText where
  str : Int → String
  parse : String → Option Int
  parse_str : ∀ instant, parse (str instant) = some instant

/-! ## The envelope -/

def lookupSearchAfter (windowMinutes : Int) (job : MailLookupJob) : Int :=
  job.requestedAt - windowMinutes * minute

/-- `_build_envelope`, with the address and the decrypted password of the mailbox.
`none` is the `RuntimeError` for a missing credential or an expired deadline. -/
def buildEnvelope (texts : DatetimeText) (settings : Settings) (windowMinutes : Int)
    (callbackUrl targetEmail : String) (mailbox : Option (String × String))
    (log : List MailCodeDeliveryLog) (job : MailLookupJob) (leaseId : UUID)
    (expiresAt now : Int) : Option ExecutionEnvelope :=
  match mailbox with
  | none | some (_, "") => none
  | some (mailboxEmail, appPassword) =>
    let searchAfter := lookupSearchAfter windowMinutes job
    if remainingLookupBudget settings job now ≤ 0 then none
    else
      some {
        jobId := job.id
        leaseId := leaseId
        leaseExpiresAt := texts.str expiresAt
        callbackUrl := callbackUrl
        mailboxEmail := mailboxEmail
        appPassword := appPassword
        serviceKey := job.serviceKey
        targetEmail := targetEmail
        windowMinutes := windowMinutes
        searchAfter := texts.str searchAfter
        timeoutSeconds := remainingLookupBudget settings job now
        deadlineAt := texts.str (lookupDeadline settings job)
        excludedDeliveries :=
          (listDeliveryKeysSince log job.deliveryScope searchAfter).map fun key =>
            (key.messageId, key.fingerprint) }

/-! ## The command -/

theorem toNat_pos (value : Int) (h : 0 < value) : 0 < value.toNat := by omega

theorem default_window_pos : 0 < 5 := by decide

theorem default_timeout_pos : 0 < 55 := by decide

def readPositive (fields : Fields) (key : String) (default : {n : Nat // 0 < n}) :
    Option {n : Nat // 0 < n} :=
  match fields.get key with
  | none => some default
  | some (.num value) => if h : 0 < value then some ⟨value.toNat, toNat_pos value h⟩ else none
  | some _ => none

def itemsList : Items → List Json
  | .nil => []
  | .cons value rest => value :: itemsList rest

/-- `LookupExclusion.model_validate`. -/
def readExclusion : Json → Option LookupExclusion
  | .obj fields =>
    if fields.keys.all (fun key => key ∈ ["message_id", "fingerprint"]) then do
      let messageId ← optionalField fields "message_id" Json.toStr
      let fingerprint ← (fields.get "fingerprint").bind Json.toStr
      some ⟨messageId, fingerprint⟩
    else none
  | _ => none

def readExclusions (fields : Fields) : Option (List LookupExclusion) :=
  match fields.get "excluded_deliveries" with
  | none => some []
  | some (.arr items) => (itemsList items).mapM readExclusion
  | some _ => none

/-- `LookupCommand.model_validate`: what `execute_lookup` reads of the command. -/
def readParameters (texts : DatetimeText) (fields : Fields) : Option LookupParameters := do
  let _ ← LookupCommand.modelValidate fields
  let serviceKey ← (fields.get "service_key").bind Json.toStr
  let targetEmail ← (fields.get "target_email").bind Json.toStr
  let windowMinutes ← readPositive fields "window_minutes" ⟨5, default_window_pos⟩
  let searchAfter ← optionalField fields "search_after" fun value => value.toStr.bind texts.parse
  let timeoutSeconds ← readPositive fields "timeout_seconds" ⟨55, default_timeout_pos⟩
  let deadlineAt ← optionalField fields "deadline_at" fun value => value.toStr.bind texts.parse
  let excludedDeliveries ← readExclusions fields
  some {
    serviceKey, targetEmail
    windowMinutes := windowMinutes.1
    windowMinutes_pos := windowMinutes.2
    searchAfter
    timeoutSeconds := timeoutSeconds.1
    timeoutSeconds_pos := timeoutSeconds.2
    deadlineAt, excludedDeliveries }

namespace ExclusionLemmas

variable {texts : DatetimeText} {envelope : ExecutionEnvelope} {command : LookupParameters}
  {settings : Settings} {windowMinutes expiresAt now : Int} {callbackUrl targetEmail : String}
  {mailbox : Option (String × String)} {log : List MailCodeDeliveryLog} {job : MailLookupJob}
  {leaseId : UUID}

theorem readExclusion_excludedDelivery (delivery : Option String × String) :
    readExclusion (excludedDelivery delivery) = some ⟨delivery.1, delivery.2⟩ := by
  obtain ⟨messageId, fingerprint⟩ := delivery
  cases messageId <;>
    simp [excludedDelivery, readExclusion, Fields.ofList, Fields.keys, dumpOptional, optionalField,
      Json.toStr]

theorem itemsList_jsonArray (values : List Json) : itemsList (jsonArray values) = values := by
  induction values with
  | nil => rfl
  | cons value rest ih => rw [jsonArray, itemsList, ih]

theorem readExclusions_payload :
    readExclusions envelope.payload =
      some (envelope.excludedDeliveries.map fun delivery => ⟨delivery.1, delivery.2⟩) := by
  have hget : envelope.payload.get "excluded_deliveries" =
      some (.arr (jsonArray (envelope.excludedDeliveries.map excludedDelivery))) := by
    simp [ExecutionEnvelope.payload, Fields.ofList]
  rw [readExclusions, hget]
  dsimp only
  rw [itemsList_jsonArray]
  induction envelope.excludedDeliveries with
  | nil => rfl
  | cons delivery rest ih =>
    rw [List.map_cons, List.mapM_cons, readExclusion_excludedDelivery, ih]
    rfl

theorem searchAfter_payload :
    optionalField envelope.payload "search_after" (fun value => value.toStr.bind texts.parse) =
      (texts.parse envelope.searchAfter).map some := by
  have hget : envelope.payload.get "search_after" = some (.str envelope.searchAfter) := by
    simp [ExecutionEnvelope.payload, Fields.ofList]
  rw [optionalField, hget]
  rfl

theorem wellTyped_payload (hwindow : 0 < envelope.windowMinutes)
    (htimeout : 0 < envelope.timeoutSeconds) :
    LookupCommand.wellTyped envelope.payload = true := by
  have hkeys : envelope.payload.keys.all (fun key => key ∈ LookupCommand.allFields) = true := rfl
  have hrequired : LookupCommand.requiredFields.all
      (fun key => ((envelope.payload.get key).map Json.isStr).getD false) = true := rfl
  have hpositive : ∀ key value, envelope.payload.get key = some (.num value) → 0 < value →
      positiveField envelope.payload key = true := by
    intro key value hget hpos
    rw [positiveField, hget]
    exact decide_eq_true hpos
  rw [LookupCommand.wellTyped, hkeys, hrequired, hpositive "window_minutes" _ rfl hwindow,
    hpositive "timeout_seconds" _ rfl htimeout]
  rfl

theorem modelValidate_payload (hwindow : 0 < envelope.windowMinutes)
    (htimeout : 0 < envelope.timeoutSeconds) :
    LookupCommand.modelValidate envelope.payload =
      some ⟨some envelope.jobId, some envelope.leaseId, some envelope.callbackUrl⟩ := by
  rw [LookupCommand.modelValidate, if_pos (wellTyped_payload hwindow htimeout)]
  rfl

theorem readParameters_payload {searchAfter deadlineAt : Int}
    (hwindow : 0 < envelope.windowMinutes) (htimeout : 0 < envelope.timeoutSeconds)
    (hsearch : texts.parse envelope.searchAfter = some searchAfter)
    (hdeadline : texts.parse envelope.deadlineAt = some deadlineAt) :
    readParameters texts envelope.payload = some {
      serviceKey := envelope.serviceKey
      targetEmail := envelope.targetEmail
      windowMinutes := envelope.windowMinutes.toNat
      windowMinutes_pos := by omega
      searchAfter := some searchAfter
      timeoutSeconds := envelope.timeoutSeconds.toNat
      timeoutSeconds_pos := by omega
      deadlineAt := some deadlineAt
      excludedDeliveries :=
        envelope.excludedDeliveries.map fun delivery => ⟨delivery.1, delivery.2⟩ } := by
  have hidentity : LookupCommand.modelValidate envelope.payload =
      some ⟨some envelope.jobId, some envelope.leaseId, some envelope.callbackUrl⟩ :=
    modelValidate_payload hwindow htimeout
  have hservice : (envelope.payload.get "service_key").bind Json.toStr =
      some envelope.serviceKey := rfl
  have haddress : (envelope.payload.get "target_email").bind Json.toStr =
      some envelope.targetEmail := rfl
  have hpositive : ∀ key value default, envelope.payload.get key = some (.num value) →
      ∀ h : 0 < value, readPositive envelope.payload key default =
        some ⟨value.toNat, by omega⟩ := by
    intro key value default hget hpos
    rw [readPositive, hget]
    exact dif_pos hpos
  have hend : optionalField envelope.payload "deadline_at"
      (fun value => value.toStr.bind texts.parse) = (texts.parse envelope.deadlineAt).map some :=
    rfl
  rw [readParameters, hidentity, hservice, haddress, searchAfter_payload, hend,
    readExclusions_payload, hsearch, hdeadline,
    hpositive "window_minutes" _ _ rfl hwindow,
    hpositive "timeout_seconds" _ _ rfl htimeout]
  rfl

theorem envelope_of_built
    (h : buildEnvelope texts settings windowMinutes callbackUrl targetEmail mailbox log job leaseId
      expiresAt now = some envelope) :
    envelope.searchAfter = texts.str (lookupSearchAfter windowMinutes job) ∧
      envelope.excludedDeliveries =
        (listDeliveryKeysSince log job.deliveryScope (lookupSearchAfter windowMinutes job)).map
          fun key => (key.messageId, key.fingerprint) := by
  unfold buildEnvelope at h
  split at h
  · cases h
  · cases h
  · dsimp only at h
    split at h
    · cases h
    · cases h
      exact ⟨rfl, rfl⟩

end ExclusionLemmas

open ExclusionLemmas

section

variable {texts : DatetimeText} {envelope : ExecutionEnvelope} {settings : Settings}
  {windowMinutes expiresAt now : Int} {callbackUrl targetEmail : String}
  {mailbox : Option (String × String)} {log : List MailCodeDeliveryLog} {job : MailLookupJob}
  {leaseId : UUID} {lookup : Lookup} {rounds : List Round} {outcome : LookupOutcome}

/-- The delivery of an email that is logged for the job happened no earlier than the email
was received, whenever the lookup fetches it. -/
def DeliveredAfterReceipt (log : List MailCodeDeliveryLog) (scope : DeliveryScope)
    (lookup : Lookup) (rounds : List Round) : Prop :=
  ∀ entry ∈ log, entry.scope = scope →
    ∀ round ∈ rounds, ∀ emails, lookup.fetched round = some emails → ∀ email ∈ emails, ∀ value,
      entry.key = ⟨email.messageId, lookup.fingerprint email value⟩ →
      email.receivedAt ≤ entry.deliveredAt

section

variable
    (hbuilt : buildEnvelope texts settings windowMinutes callbackUrl targetEmail mailbox log job
      leaseId expiresAt now = some envelope)
    (hread : readParameters texts envelope.payload = some lookup.command)
    (hreceived : DeliveredAfterReceipt log job.deliveryScope lookup rounds)

include hbuilt hread

theorem command_of_envelope :
    lookup.command.searchAfter = some (lookupSearchAfter windowMinutes job) ∧
      lookup.command.excludedDeliveries =
        (listDeliveryKeysSince log job.deliveryScope (lookupSearchAfter windowMinutes job)).map
          fun key => ⟨key.messageId, key.fingerprint⟩ := by
  obtain ⟨hsearch, hexcluded⟩ := envelope_of_built hbuilt
  simp only [readParameters, Option.bind_eq_bind, Option.bind_eq_some_iff, searchAfter_payload,
    readExclusions_payload] at hread
  obtain ⟨_, _, _, _, _, _, _, _, searchAfter, hsearch', _, _, _, _, excluded, hexcluded',
    hcommand⟩ := hread
  rw [← Option.some.inj hcommand]
  dsimp only
  rw [hsearch, texts.parse_str] at hsearch'
  cases hsearch'
  cases hexcluded'
  refine ⟨rfl, ?_⟩
  show envelope.excludedDeliveries.map _ = _
  rw [hexcluded, List.map_map]
  rfl

theorem logged_of_excluded {messageId : Option String} {fingerprint : String}
    (h : ⟨messageId, fingerprint⟩ ∈ lookup.command.excludedDeliveries) :
    Logged log job.deliveryScope ⟨messageId, fingerprint⟩ := by
  rw [(command_of_envelope hbuilt hread).2] at h
  obtain ⟨key, hlisted, hkey⟩ := List.mem_map.mp h
  obtain ⟨rfl, rfl⟩ := LookupExclusion.mk.inj hkey
  exact logged_of_listed hlisted

include hreceived

/-- The delivery lies in the window of the backend, since the email lies in the worker's. -/
theorem excluded_iff_logged :
    ∀ round ∈ rounds, ∀ emails, lookup.fetched round = some emails → ∀ email ∈ emails,
      lookup.cutoff ≤ email.receivedAt → ∀ value,
        (⟨email.messageId, lookup.fingerprint email value⟩ ∈ lookup.command.excludedDeliveries ↔
          Logged log job.deliveryScope
            ⟨email.messageId, lookup.fingerprint email value⟩) := by
  intro round hround emails hfetched email hemail hrecent value
  obtain ⟨hsearch, hexcluded⟩ := command_of_envelope hbuilt hread
  have hcutoff : lookup.cutoff = lookupSearchAfter windowMinutes job := by
    rw [Lookup.cutoff, extractionCutoff, hsearch]
    rfl
  refine ⟨logged_of_excluded hbuilt hread, ?_⟩
  rintro ⟨entry, hentry, hscope, hkey⟩
  have hbefore := hreceived entry hentry hscope round hround emails hfetched email hemail value hkey
  rw [hexcluded]
  exact List.mem_map_of_mem (mem_listDeliveryKeysSince.mpr
    ⟨entry, hentry, hscope, (hcutoff ▸ hrecent).trans hbefore, hkey⟩)

theorem not_logged_of_found
    (hreturns : lookup.executeLookup rounds = .returns outcome) (hkind : outcome.kind = .found) :
    ∃ type value fingerprint, foundComplete outcome = some (type, value, fingerprint) ∧
      ¬Logged log job.deliveryScope ⟨outcome.messageId, fingerprint⟩ := by
  obtain ⟨round, hround, emails, hfetched, email, hemail, hrecent, value, rfl, hnew⟩ :=
    found_of_returns hreturns hkind
  refine ⟨.code, value, lookup.fingerprint email value, rfl, ?_⟩
  rwa [excluded_iff_logged hbuilt hread hreceived round hround emails hfetched email hemail hrecent]
    at hnew

end

/-- Every delivery that is logged for a scope. -/
def allExclusions (log : List MailCodeDeliveryLog) (scope : DeliveryScope) :
    List LookupExclusion :=
  (log.filter (·.scope = scope)).map fun entry => ⟨entry.key.messageId, entry.key.fingerprint⟩

/-- Codes that were delivered before do not end a lookup. The outcome that a lookup computes
from the envelope is not a found one with a key that is logged for the job; `complete`
does not suppress it as a duplicate; an email is passed over as delivered only if
it is logged; and the lookup runs as one that excludes exactly what is logged. -/
theorem delivered_never_found
    (hbuilt : buildEnvelope texts settings windowMinutes callbackUrl targetEmail mailbox log job
      leaseId expiresAt now = some envelope)
    (hread : readParameters texts envelope.payload = some lookup.command)
    (hreceived : DeliveredAfterReceipt log job.deliveryScope lookup rounds)
    (hreturns : lookup.executeLookup rounds = .returns outcome) :
    (outcome.kind = .found → ∃ fingerprint, outcome.fingerprint = some fingerprint ∧
        ¬Logged log job.deliveryScope ⟨outcome.messageId, fingerprint⟩) ∧
      (∀ (final : MailLookupJob) (lease : Option LookupLease) (callback : VerifiedCallback)
          (checkedAt recordedAt settledAt : Int) (held : MailLookupJob) (flushed : List JobStatus)
          (result : Option (ResultType × String × Int)),
        callback.outcome = outcome → final.deliveryScope = job.deliveryScope →
        complete settings (some final) lease callback
            (insertedOutcome log final outcome recordedAt) checkedAt settledAt =
          .applied held flushed result →
        held.resultType = some duplicateSuppressed →
        final.resultType = some duplicateSuppressed) ∧
      (∀ email resultType value, lookup.deliver email resultType value = .passedOver →
        Logged log job.deliveryScope ⟨email.messageId, lookup.fingerprint email value⟩) ∧
      (lookup.excluding (allExclusions log job.deliveryScope)).executeLookup rounds =
        .returns outcome := by
  refine ⟨fun hkind => ?_, ?_, ?_, ?_⟩
  · obtain ⟨type, value, fingerprint, hfound, hnew⟩ :=
      not_logged_of_found hbuilt hread hreceived hreturns hkind
    refine ⟨fingerprint, ?_, hnew⟩
    unfold foundComplete at hfound
    split at hfound
    · next hfingerprint =>
      cases hfound
      exact hfingerprint
    · cases hfound
  · intro final lease callback checkedAt recordedAt settledAt held flushed result houtcome hscope
      happlied hsuppressed
    rcases inserted_of_suppressed happlied hsuppressed with hbefore | ⟨hkind, hrefused⟩
    · exact hbefore
    rw [houtcome] at hkind
    obtain ⟨type, value, fingerprint, hfound, hnew⟩ :=
      not_logged_of_found hbuilt hread hreceived hreturns hkind
    have hinserted : insertedOutcome log final outcome recordedAt = true := by
      rw [insertedOutcome, hfound, hscope]
      exact recordDeliveryAtomic_inserted.mpr hnew
    rw [hinserted] at hrefused
    cases hrefused
  · intro email resultType value hpassed
    unfold Lookup.deliver at hpassed
    split at hpassed
    · next hexcluded => exact logged_of_excluded hbuilt hread hexcluded
    · cases hpassed
  · refine (PipelineLemmas.executeLookup_excluding fun round hround emails hfetched email hemail hrecent value =>
      ?_).trans hreturns
    rw [excluded_iff_logged hbuilt hread hreceived round hround emails hfetched email hemail
      hrecent]
    simp [allExclusions, Logged, LoggedKey.ext_iff, and_assoc]

end

/-- One bar for each number before the instant. -/
def exTally (instant : Int) : String :=
  .ofList (.replicate (Equiv.intEquivNat instant) '|')

def exTexts : DatetimeText where
  str instant :=
    if instant = 90 * second then "1970-01-01 00:01:30+00:00"
    else if instant = 1110 * second then "1970-01-01 00:18:30+00:00"
    else if instant = 1170 * second then "1970-01-01 00:19:30+00:00"
    else exTally instant
  parse text :=
    if text = "1970-01-01 00:01:30+00:00" then some (90 * second)
    else if text = "1970-01-01 00:18:30+00:00" then some (1110 * second)
    else if text = "1970-01-01 00:19:30+00:00" then some (1170 * second)
    else some (Equiv.intEquivNat.symm text.toList.length)
  parse_str instant := by
    have htally : ∀ text : String, text.toList.head? = some '1' → exTally instant ≠ text := by
      rintro _ htext rfl
      simp [exTally, List.head?_replicate] at htext
    split
    · next h => simp [h]
    split
    · next h => simp [h]
    split
    · next h => simp [h]
    rw [if_neg (htally _ (by decide +kernel)), if_neg (htally _ (by decide +kernel)),
      if_neg (htally _ (by decide +kernel)), exTally, String.toList_ofList]
    simp

def exSpotifyJob : MailLookupJob := { exAssigned with serviceKey := "spotify" }

def exDelivery : MailCodeDeliveryLog :=
  ⟨exSpotifyJob.deliveryScope, ⟨some "m0@mail.spotify.com", "f0"⟩, 600 * second⟩

def exCommand : LookupParameters :=
  ⟨"spotify", "ana@example.com", 15, by decide, some (90 * second), 109, by decide,
    some (1110 * second), [⟨some "m0@mail.spotify.com", "f0"⟩]⟩

def exSpotifyEnvelope : ExecutionEnvelope :=
  ⟨⟨1⟩, ⟨8⟩, "1970-01-01 00:19:30+00:00", "https://backend/complete", "box@gmail.com", "secret",
    "spotify", "ana@example.com", 15, "1970-01-01 00:01:30+00:00", 109,
    "1970-01-01 00:18:30+00:00", [(some "m0@mail.spotify.com", "f0")]⟩

namespace ExclusionLemmas

theorem exSpotifyEnvelope_built :
    buildEnvelope exTexts .default 15 "https://backend/complete" "ana@example.com"
      (some ("box@gmail.com", "secret")) [exDelivery] exSpotifyJob ⟨8⟩ (1170 * second)
      (1001 * second) = some exSpotifyEnvelope := by
  have hlisted : listDeliveryKeysSince [exDelivery] exSpotifyJob.deliveryScope
      (lookupSearchAfter 15 exSpotifyJob) = [exDelivery.key] := by
    rw [listDeliveryKeysSince, List.filter_cons_of_pos (by decide), List.filter_nil,
      List.mergeSort_singleton]
    rfl
  simp only [buildEnvelope, hlisted]
  decide +kernel

theorem exSpotifyEnvelope_read : readParameters exTexts exSpotifyEnvelope.payload = some exCommand :=
  readParameters_payload (by decide) (by decide) (by decide +kernel) (by decide +kernel)

theorem exRound_received :
    DeliveredAfterReceipt [exDelivery] exSpotifyJob.deliveryScope (exLookupWith exCommand)
      [exRound "m1@mail.spotify.com"] := by
  intro entry hentry _ round hround emails hfetched email hemail value hkey
  rw [List.mem_singleton.mp hround,
    fetched_exRound (by decide +kernel) (by decide +kernel)] at hfetched
  cases hfetched
  rw [List.mem_singleton.mp hentry, List.mem_singleton.mp hemail] at hkey
  have hid : some "m0@mail.spotify.com" = some "m1@mail.spotify.com" :=
    congrArg LoggedKey.messageId hkey
  exact absurd hid (by decide)

end ExclusionLemmas

/-- The second code of the day is delivered, and only the first is excluded. -/
theorem second_code_delivered :
    ¬Logged [exDelivery] exSpotifyJob.deliveryScope ⟨some "m1@mail.spotify.com",
        (exLookupWith exCommand).fingerprint (exEmail "m1@mail.spotify.com") "482913"⟩ := by
  have hreturns := (@executeLookup_exRound "m1@mail.spotify.com" exCommand rfl rfl
    (by decide +kernel) (by decide +kernel) (by decide +kernel) (by decide +kernel)).1
  obtain ⟨fingerprint, hfingerprint, hnew⟩ :=
    (delivered_never_found exSpotifyEnvelope_built exSpotifyEnvelope_read exRound_received hreturns).1 rfl
  cases hfingerprint
  exact hnew

end Trackpal.Network

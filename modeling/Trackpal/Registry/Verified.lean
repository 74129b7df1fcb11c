import Trackpal.Registry.Concurrent

/-!
# Only verified destinations are dispatched to

A destination is trusted while a challenge of it succeeded and the row has not
been pointed anywhere else since. Two races break this. A verification writes
its verdict without looking at the row again, so it blesses a destination that an
update put there while its challenge was under way. And an update that changes
the destination of a quarantined row does not write the quarantine, because its
session loaded it as set; a verification that commits in between has lifted it.
-/

namespace Trackpal.Registry

open Trackpal.Protocol Trackpal.Backend Trackpal.Foundation

/-- A challenge of the destination succeeded, and every change of the row's
destination after it was to that destination. -/
def Trusted (log : List Event) (destination : Destination) : Prop :=
  ∃ request newer older, log = newer ++ .challenged request destination :: older ∧
    ∀ destination', .changed destination' ∈ newer → destination' = destination

/-- The verdict of a successful verification still fits the stored row. The row
has the challenged address and mode; it has the challenged secret, unless the
commit writes it; and nothing else was written since the challenge. -/
structure StillFits (log : List Event) (request : Nat) (session : Session)
    (stored : LookupExecutor) (destination : Destination) : Prop where
  baseUrl : stored.baseUrl = destination.baseUrl
  transportMode : stored.transportMode = destination.transportMode
  secret : stored.secretEncrypted = destination.secret ∨
    session.loaded.secretEncrypted ≠ destination.secret
  unchanged : ∀ newer older, log = newer ++ .challenged request destination :: older →
    ∀ destination', .changed destination' ∈ newer → destination' = destination

def QuarantineWritten (session : Session) (stored : LookupExecutor) : Prop :=
  session.loaded.requiresReverification = false ∨ stored.requiresReverification = true

/-- The condition on a step: neither race happens. -/
def Undisturbed (s : State) : Action → Prop
  | .commit request _ => ∀ session stored, s.sessions request = some session →
      s.rows session.loaded.id = some stored →
      match session.operation with
      | .verify _ => ∀ destination, session.challenged = some destination →
          StillFits (s.log session.loaded.id) request session stored destination
      | .update fields => destinationChanged session.loaded fields = true →
          QuarantineWritten session stored
      | _ => True
  | _ => True

/-! ## What a session holds at its commit -/

namespace VerifiedLemmas

/-- The session leaves the destination alone, sets the quarantine or leaves it,
and gives no trust: it enables only what may be enabled. -/
structure Plain (session : Session) (held : LookupExecutor) : Prop where
  destination : held.destination = session.loaded.destination
  quarantine : held.requiresReverification = session.loaded.requiresReverification ∨
    held.requiresReverification = true
  lastVerifiedAt : held.lastVerifiedAt = session.loaded.lastVerifiedAt ∨ held.lastVerifiedAt = none
  lifecycle : held.lifecycleStatus = session.loaded.lifecycleStatus ∨
    held.lifecycleStatus ≠ .active ∨
    session.operation = .setLifecycle .active ∧ mayEnable session.loaded = true

/-- The session has verified a destination, which it holds. -/
structure Verdict (session : Session) (held : LookupExecutor) : Prop where
  verify : ∃ confirmation, session.operation = .verify confirmation
  challenged : session.challenged = some held.destination
  baseUrl : held.baseUrl = session.loaded.baseUrl
  transportMode : held.transportMode = session.loaded.transportMode

/-- The session has changed the destination, and quarantines the row. -/
structure Redirection (session : Session) (held : LookupExecutor) : Prop where
  update : ∃ fields, session.operation = .update fields ∧
    destinationChanged session.loaded fields = true
  quarantine : held.requiresReverification = true

variable {session : Session} {held : LookupExecutor} {now : Int}

theorem plain_updateHealth {status : HealthStatus} {error : Option String} :
    Plain session (session.loaded.updateHealth status error now) :=
  ⟨rfl, .inl rfl, .inl rfl, .inl rfl⟩

theorem plain_verificationFailed : Plain session (verificationFailed session.loaded now) :=
  ⟨rfl, .inr rfl, .inr rfl, .inl rfl⟩

theorem held_update {fields : LookupExecutor.Update} (hop : session.operation = .update fields) :
    Plain session (updateLookupExecutor session.loaded fields now) ∨
      Redirection session (updateLookupExecutor session.loaded fields now) := by
  unfold updateLookupExecutor
  split
  · next hchanged => exact .inr ⟨⟨fields, hop, hchanged⟩, rfl⟩
  · next hchanged =>
    refine .inl ⟨?_, .inl rfl, .inl rfl, .inl rfl⟩
    -- every member that is set has the loaded value
    obtain ⟨hurl, hmode⟩ : (∀ url, fields.baseUrl = some url → url = session.loaded.baseUrl) ∧
        ∀ mode, fields.transportMode = some mode → mode = session.loaded.transportMode := by
      simpa [destinationChanged, Option.any_eq_true] using hchanged
    have hurl' : fields.baseUrl.getD session.loaded.baseUrl = session.loaded.baseUrl := by
      cases hfield : fields.baseUrl with
      | none => rfl
      | some url => exact hurl url hfield
    have hmode' : fields.transportMode.getD session.loaded.transportMode =
        session.loaded.transportMode := by
      cases hfield : fields.transportMode with
      | none => rfl
      | some mode => exact hmode mode hfield
    simp only [LookupExecutor.destination, LookupExecutor.update, hurl', hmode']

theorem verdict_of_succeeded {confirmation : Option String}
    {answer : Except ChallengeError ChallengeResult} {view : ExecutorView}
    (hop : session.operation = .verify confirmation) (hanswer : session.answer = some answer)
    (hview : verificationCandidate session.loaded = some view)
    (haccepted : challengeAccepted session.loaded answer = true)
    (hheld : verificationSucceeded session.loaded now = some held) : Verdict session held := by
  have hchallenged : session.challenged = some (viewDestination view) := by
    have hcandidate : session.candidate = some view := by rw [Session.candidate, hop]; exact hview
    rw [Session.challenged, hanswer, hcandidate]
    exact if_pos haccepted
  unfold verificationCandidate challengeCandidate at hview
  obtain ⟨trusted, htrusted, rfl⟩ := Option.map_eq_some_iff.mp hheld
  unfold trustKey at htrusted
  split at hview
  · next hpending =>
    rw [if_pos hpending] at htrusted
    unfold LookupExecutor.promotePendingSecret at htrusted
    split at hview
    · next encrypted version hsecret hversion =>
      cases hview
      rw [hsecret, hversion] at htrusted
      cases htrusted
      exact ⟨⟨confirmation, hop⟩, hchallenged, rfl, rfl⟩
    · cases hview
  · next hpending =>
    rw [if_neg hpending] at htrusted
    cases hview
    cases htrusted
    exact ⟨⟨confirmation, hop⟩, hchallenged, rfl, rfl⟩

theorem held_verify {confirmation : Option String}
    {answer : Except ChallengeError ChallengeResult}
    (hop : session.operation = .verify confirmation) (hanswer : session.answer = some answer)
    (hheld : session.held now = some held) : Plain session held ∨ Verdict session held := by
  simp only [Session.held, hop, hanswer] at hheld
  unfold verifyExecutor at hheld
  split at hheld
  · cases hheld
  · next row hfailed =>
    cases hheld
    left
    split at hfailed
    · cases hfailed
    split at hfailed
    · cases hfailed
      exact plain_verificationFailed
    · split at hfailed
      · split at hfailed <;> cases hfailed
      · cases hfailed
        exact plain_verificationFailed
  · next row hverified =>
    cases hheld
    right
    split at hverified
    · cases hverified
    split at hverified
    · cases hverified
    · next view hview =>
      split at hverified
      · next haccepted =>
        split at hverified
        · next row' hrow =>
          cases hverified
          exact verdict_of_succeeded hop hanswer hview haccepted hrow
        · cases hverified
      · cases hverified

theorem held_cases (hheld : session.held now = some held) :
    Plain session held ∨ Verdict session held ∨ Redirection session held := by
  cases hop : session.operation with
  | update fields =>
    simp only [Session.held, hop] at hheld
    cases hheld
    rcases held_update hop with h | h
    · exact .inl h
    · exact .inr (.inr h)
  | verify confirmation =>
    cases hanswer : session.answer with
    | none => simp [Session.held, hop, hanswer] at hheld
    | some answer =>
      rcases held_verify hop hanswer hheld with h | h
      · exact .inl h
      · exact .inr (.inl h)
  | test =>
    cases hanswer : session.answer with
    | none => simp [Session.held, hop, hanswer] at hheld
    | some answer =>
      simp only [Session.held, hop, hanswer] at hheld
      cases hheld
      left
      unfold testExecutor
      split
      · exact plain_updateHealth
      · exact plain_verificationFailed
  | setLifecycle lifecycle =>
    simp only [Session.held, hop, setLifecycle] at hheld
    split at hheld
    · cases hheld
    · next henabled =>
      cases hheld
      refine .inl ⟨rfl, .inl rfl, .inl rfl, ?_⟩
      by_cases hactive : lifecycle = .active
      · subst hactive
        exact .inr (.inr ⟨hop, by simpa using henabled⟩)
      · exact .inr (.inl hactive)
  | rotate plainSecret =>
    simp only [Session.held, hop] at hheld
    cases hheld
    exact .inl ⟨rfl, .inl rfl, .inl rfl, .inl rfl⟩
  | handoff health =>
    simp only [Session.held, hop] at hheld
    cases hheld
    cases health with
    | accepted => exact .inl plain_updateHealth
    | quarantine safeError => exact .inl ⟨rfl, .inr rfl, .inl rfl, .inl rfl⟩
    | failure status error => exact .inl plain_updateHealth

end VerifiedLemmas

open VerifiedLemmas

/-! ## What a commit leaves -/

/-- If the mark of the row is lifted, its destination is trusted. -/
def Vouched (log : List Event) (row : LookupExecutor) : Prop :=
  row.requiresReverification = false → Trusted log row.destination

namespace CommitLemmas

variable {log : List Event} {destination destination' : Destination} {request : Nat}
  {session : Session} {held stored : LookupExecutor}

theorem trusted_of_mem (hmem : .challenged request destination ∈ log)
    (hunchanged : ∀ newer older, log = newer ++ .challenged request destination :: older →
      ∀ destination', .changed destination' ∈ newer → destination' = destination) :
    Trusted log destination := by
  obtain ⟨newer, older, hlog⟩ := List.append_of_mem hmem
  exact ⟨request, newer, older, hlog, hunchanged newer older hlog⟩

theorem trusted_cons {event : Event} (h : Trusted log destination)
    (hevent : ∀ destination', event = .changed destination' → destination' = destination) :
    Trusted (event :: log) destination := by
  obtain ⟨request, newer, older, hlog, hunchanged⟩ := h
  refine ⟨request, event :: newer, older, by rw [hlog]; rfl, fun destination' hmem => ?_⟩
  rcases List.mem_cons.mp hmem with heq | hmem
  · exact hevent destination' heq.symm
  · exact hunchanged destination' hmem

theorem vouched_logChallenge {row : LookupExecutor} (h : Vouched log row) :
    Vouched (logChallenge log request session) row := by
  intro hlifted
  unfold logChallenge
  split
  · exact trusted_cons (h hlifted) fun _ heq => by cases heq
  · exact h hlifted

theorem trusted_logChange (h : Trusted log destination) (hheld : held.destination = destination) :
    Trusted (logChange log stored held) destination := by
  unfold logChange
  split
  · exact h
  · exact trusted_cons h fun destination' heq => by
      cases heq
      exact hheld

theorem destination_writeRow (h : held.destination = session.loaded.destination) :
    (writeRow session.loaded held stored).destination = stored.destination := by
  obtain ⟨hurl, hmode, hsecret⟩ := Destination.mk.inj h
  simp only [LookupExecutor.destination, writeRow, netChange_of_eq hurl, netChange_of_eq hmode,
    netChange_of_eq hsecret]

theorem plain_writeRow (h : Plain session held) :
    ((writeRow session.loaded held stored).requiresReverification = false →
      stored.requiresReverification = false) ∧
    ((writeRow session.loaded held stored).lastVerifiedAt.isSome = true →
      stored.lastVerifiedAt.isSome = true) ∧
    ((writeRow session.loaded held stored).lifecycleStatus = .active →
      stored.lifecycleStatus = .active ∨
        session.operation = .setLifecycle .active ∧ mayEnable session.loaded = true) := by
  refine ⟨fun hlifted => ?_, fun hverified => ?_, fun hactive => ?_⟩
  · rcases h.quarantine with heq | heq
    · simpa only [writeRow, netChange_of_eq heq] using hlifted
    · rcases netChange_cases session.loaded.requiresReverification held.requiresReverification
        stored.requiresReverification with ⟨_, hw⟩ | ⟨_, hw⟩
      · simpa only [writeRow, hw] using hlifted
      · rw [writeRow, hw, heq] at hlifted
        cases hlifted
  · rcases h.lastVerifiedAt with heq | heq
    · simpa only [writeRow, netChange_of_eq heq] using hverified
    · rcases netChange_cases session.loaded.lastVerifiedAt held.lastVerifiedAt
        stored.lastVerifiedAt with ⟨_, hw⟩ | ⟨_, hw⟩
      · simpa only [writeRow, hw] using hverified
      · rw [writeRow, hw, heq] at hverified
        cases hverified
  · rcases h.lifecycle with heq | hne | henabled
    · simp only [writeRow, netChange_of_eq heq] at hactive
      exact .inl hactive
    · rcases netChange_cases session.loaded.lifecycleStatus held.lifecycleStatus
        stored.lifecycleStatus with ⟨_, hw⟩ | ⟨_, hw⟩
      · simp only [writeRow, hw] at hactive
        exact .inl hactive
      · simp only [writeRow, hw] at hactive
        exact absurd hactive hne
    · exact .inr henabled

theorem vouched_plain (h : Plain session held) (hvouched : Vouched log stored) :
    Vouched (logChange log stored (writeRow session.loaded held stored))
      (writeRow session.loaded held stored) := by
  intro hlifted
  have hdest : (writeRow session.loaded held stored).destination = stored.destination :=
    destination_writeRow h.destination
  rw [logChange, if_pos hdest, hdest]
  exact hvouched ((plain_writeRow h).1 hlifted)

theorem vouched_verdict (h : Verdict session held)
    (hmem : .challenged request held.destination ∈ log)
    (hfits : StillFits log request session stored held.destination) :
    Vouched (logChange log stored (writeRow session.loaded held stored))
      (writeRow session.loaded held stored) := by
  intro _
  have hdest : (writeRow session.loaded held stored).destination = held.destination := by
    have hsecret : netChange session.loaded.secretEncrypted held.secretEncrypted
        stored.secretEncrypted = held.secretEncrypted := by
      rcases netChange_cases session.loaded.secretEncrypted held.secretEncrypted
        stored.secretEncrypted with ⟨heq, hw⟩ | ⟨_, hw⟩
      · rw [hw]
        exact hfits.secret.resolve_right fun hne => hne heq.symm
      · exact hw
    simp only [LookupExecutor.destination, writeRow, netChange_of_eq h.baseUrl,
      netChange_of_eq h.transportMode, hsecret, hfits.baseUrl, hfits.transportMode]
  rw [hdest]
  exact trusted_logChange (trusted_of_mem hmem hfits.unchanged) hdest

theorem marked_redirection (h : Redirection session held)
    (hwritten : QuarantineWritten session stored) :
    (writeRow session.loaded held stored).requiresReverification = true := by
  rcases netChange_cases session.loaded.requiresReverification held.requiresReverification
    stored.requiresReverification with ⟨heq, hw⟩ | ⟨_, hw⟩
  · rcases hwritten with hloaded | hstored
    · rw [h.quarantine, hloaded] at heq
      cases heq
    · rw [writeRow, hw, hstored]
  · rw [writeRow, hw, h.quarantine]

end CommitLemmas

open CommitLemmas

/-! ## The invariant -/

structure Invariant (s : State) : Prop where
  rows_id : ∀ id row, s.rows id = some row → row.id = id
  /-- An active row, and a row with a verification date, is vouched for. -/
  vouched : ∀ id row, s.rows id = some row →
    row.lifecycleStatus = .active ∨ row.lastVerifiedAt.isSome = true → Vouched (s.log id) row
  /-- Rows are never deleted. -/
  loaded : ∀ request session, s.sessions request = some session →
    (s.rows session.loaded.id).isSome = true
  challenged : ∀ request session destination, s.sessions request = some session →
    session.challenged = some destination →
    .challenged request destination ∈ s.log session.loaded.id
  /-- The row that a checked request is about to enable is vouched for, however it
  has changed since the check. -/
  enabling : ∀ request session row, s.sessions request = some session →
    session.operation = .setLifecycle .active → mayEnable session.loaded = true →
    s.rows session.loaded.id = some row → Vouched (s.log session.loaded.id) row

theorem Invariant.empty : Invariant State.empty where
  rows_id _ _ h := nomatch h
  vouched _ _ h := nomatch h
  loaded _ _ h := nomatch h
  challenged _ _ _ h := nomatch h
  enabling _ _ _ h := nomatch h

variable {s s' : State}

theorem Invariant.create {executor : LookupExecutor} (hinv : Invariant s)
    (h : step s (.create executor) = some s') : Invariant s' := by
  simp only [step] at h
  split at h
  · next hnew =>
    obtain ⟨hfree, hdraft⟩ := hnew
    cases h
    -- no request can have loaded a row that does not exist yet
    have hother : ∀ request session, s.sessions request = some session →
        session.loaded.id ≠ executor.id := by
      intro request session hsession heq
      have hsome := hinv.loaded request session hsession
      rw [heq, Option.isNone_iff_eq_none.mp hfree] at hsome
      cases hsome
    have hdraft' : executor.lifecycleStatus = .draft ∧ executor.lastVerifiedAt = none := by
      have heq := of_decide_eq_true hdraft
      exact ⟨by rw [heq]; rfl, by rw [heq]; rfl⟩
    refine ⟨fun id row hrow => ?_, fun id row hrow htrust => ?_, fun request session hsession => ?_,
      fun request session destination hsession hchallenged => ?_,
      fun request session row hsession hop hmay hrow => ?_⟩
    · rcases eq_or_ne id executor.id with rfl | hne
      · simp only [Function.update_self, Option.some.injEq] at hrow
        rw [hrow]
      · simp only [Function.update_of_ne hne] at hrow
        exact hinv.rows_id id row hrow
    · rcases eq_or_ne id executor.id with rfl | hne
      · simp only [Function.update_self, Option.some.injEq] at hrow
        subst hrow
        simp [hdraft'.1, hdraft'.2] at htrust
      · simp only [Function.update_of_ne hne] at hrow ⊢
        exact hinv.vouched id row hrow htrust
    · simp only [Function.update_of_ne (hother request session hsession)]
      exact hinv.loaded request session hsession
    · simp only [Function.update_of_ne (hother request session hsession)]
      exact hinv.challenged request session destination hsession hchallenged
    · simp only [Function.update_of_ne (hother request session hsession)] at hrow ⊢
      exact hinv.enabling request session row hsession hop hmay hrow
  · cases h

theorem session_update {sessions : Nat → Option Session} {at' request : Nat}
    {entry : Option Session} {session : Session}
    (h : Function.update sessions at' entry request = some session) :
    request = at' ∧ entry = some session ∨ request ≠ at' ∧ sessions request = some session := by
  rcases eq_or_ne request at' with rfl | hne
  · rw [Function.update_self] at h
    exact .inl ⟨rfl, h⟩
  · rw [Function.update_of_ne hne] at h
    exact .inr ⟨hne, h⟩

theorem Invariant.read {id : UUID} {operation : Operation} (hinv : Invariant s)
    (h : step s (.read id operation) = some s') : Invariant s' := by
  simp only [step] at h
  split at h
  · next executor hexecutor =>
    split at h
    · cases h
      have hid : executor.id = id := hinv.rows_id id executor hexecutor
      refine ⟨hinv.rows_id, hinv.vouched, fun request session hsession => ?_,
        fun request session destination hsession hchallenged => ?_,
        fun request session row hsession hop hmay hrow => ?_⟩
      · rcases session_update hsession with ⟨_, hnew⟩ | ⟨_, hsession⟩
        · cases hnew
          rw [hid, hexecutor]
          rfl
        · exact hinv.loaded request session hsession
      · rcases session_update hsession with ⟨_, hnew⟩ | ⟨_, hsession⟩
        · cases hnew
          simp [Session.challenged] at hchallenged
        · exact hinv.challenged request session destination hsession hchallenged
      · rcases session_update hsession with ⟨_, hnew⟩ | ⟨_, hsession⟩
        · cases hnew
          dsimp only at hmay hrow ⊢
          rw [hid] at hrow ⊢
          rw [hexecutor] at hrow
          cases hrow
          -- a row that may be enabled has a verification date
          simp only [mayEnable, decide_eq_true_eq] at hmay
          exact hinv.vouched id executor hexecutor (.inr hmay.2.2)
        · exact hinv.enabling request session row hsession hop hmay hrow
    · cases h
  · cases h

theorem Invariant.challenge {request : Nat} {answer : Except ChallengeError ChallengeResult}
    (hinv : Invariant s) (h : step s (.challenge request answer) = some s') : Invariant s' := by
  simp only [step] at h
  split at h
  · next session hsession =>
    split at h
    · cases h
      have hvouched : ∀ id row, Vouched (s.log id) row →
          Vouched (Function.update s.log session.loaded.id (logChallenge (s.log session.loaded.id)
            request { session with answer := some answer }) id) row := by
        intro id row hrow
        rcases eq_or_ne id session.loaded.id with rfl | hne
        · rw [Function.update_self]
          exact vouched_logChallenge hrow
        · rwa [Function.update_of_ne hne]
      refine ⟨hinv.rows_id,
        fun id row hrow htrust => hvouched id row (hinv.vouched id row hrow htrust),
        fun request' session' hsession' => ?_,
        fun request' session' destination hsession' hchallenged => ?_,
        fun request' session' row hsession' hop hmay hrow => ?_⟩
      · rcases session_update hsession' with ⟨_, hnew⟩ | ⟨_, hsession'⟩
        · cases hnew
          exact hinv.loaded request session hsession
        · exact hinv.loaded request' session' hsession'
      · rcases session_update hsession' with ⟨rfl, hnew⟩ | ⟨_, hsession'⟩
        · cases hnew
          simp only [Function.update_self, logChallenge, hchallenged]
          exact List.mem_cons_self
        · have hmem := hinv.challenged request' session' destination hsession' hchallenged
          dsimp only
          rcases eq_or_ne session'.loaded.id session.loaded.id with heq | hne
          · rw [heq, Function.update_self]
            rw [heq] at hmem
            unfold logChallenge
            split
            · exact List.mem_cons_of_mem _ hmem
            · exact hmem
          · rwa [Function.update_of_ne hne]
      · rcases session_update hsession' with ⟨_, hnew⟩ | ⟨_, hsession'⟩
        · cases hnew
          exact hvouched _ row (hinv.enabling request session row hsession hop hmay hrow)
        · exact hvouched _ row (hinv.enabling request' session' row hsession' hop hmay hrow)
    · cases h
  · cases h

/-- What an undisturbed commit leaves of the row: it is still vouched for if it was,
and it is vouched for if it is active or has a verification date. -/
theorem commit_vouched {request : Nat} {now : Int} {session : Session} {held stored : LookupExecutor}
    (hinv : Invariant s) (hok : Undisturbed s (.commit request now))
    (hsession : s.sessions request = some session) (hheld : session.held now = some held)
    (hstored : s.rows session.loaded.id = some stored) :
    (Vouched (s.log session.loaded.id) stored →
      Vouched (logChange (s.log session.loaded.id) stored (writeRow session.loaded held stored))
        (writeRow session.loaded held stored)) ∧
    ((writeRow session.loaded held stored).lifecycleStatus = .active ∨
        (writeRow session.loaded held stored).lastVerifiedAt.isSome = true →
      Vouched (logChange (s.log session.loaded.id) stored (writeRow session.loaded held stored))
        (writeRow session.loaded held stored)) := by
  have hcond := hok session stored hsession hstored
  rcases held_cases hheld with hplain | hverdict | hredirection
  · refine ⟨vouched_plain hplain, fun htrust => vouched_plain hplain ?_⟩
    obtain ⟨_, hverified, hactive⟩ := @plain_writeRow _ _ stored hplain
    rcases htrust with htrust | htrust
    · rcases hactive htrust with hactive | ⟨hop, hmay⟩
      · exact hinv.vouched _ stored hstored (.inl hactive)
      · exact hinv.enabling request session stored hsession hop hmay hstored
    · exact hinv.vouched _ stored hstored (.inr (hverified htrust))
  · obtain ⟨confirmation, hop⟩ := hverdict.verify
    rw [hop] at hcond
    have hvouched := vouched_verdict hverdict
      (hinv.challenged request session held.destination hsession hverdict.challenged)
      (hcond held.destination hverdict.challenged)
    exact ⟨fun _ => hvouched, fun _ => hvouched⟩
  · obtain ⟨fields, hop, hchanged⟩ := hredirection.update
    rw [hop] at hcond
    have hmarked := marked_redirection hredirection (hcond hchanged)
    have hvouched : Vouched (logChange (s.log session.loaded.id) stored
        (writeRow session.loaded held stored)) (writeRow session.loaded held stored) := by
      intro hlifted
      rw [hmarked] at hlifted
      cases hlifted
    exact ⟨fun _ => hvouched, fun _ => hvouched⟩

theorem Invariant.commit {request : Nat} {now : Int} (hinv : Invariant s)
    (hok : Undisturbed s (.commit request now)) (h : step s (.commit request now) = some s') :
    Invariant s' := by
  simp only [step] at h
  split at h
  · next session hsession =>
    split at h
    · next held stored hheld hstored =>
      cases h
      obtain ⟨hkeeps, htrusted⟩ := commit_vouched hinv hok hsession hheld hstored
      have hold : ∀ request' session', Function.update s.sessions request none request' =
          some session' → s.sessions request' = some session' := by
        intro request' session' hsession'
        rcases session_update hsession' with ⟨_, hnew⟩ | ⟨_, hsession'⟩
        · cases hnew
        · exact hsession'
      refine ⟨fun id row hrow => ?_, fun id row hrow htrust => ?_,
        fun request' session' hsession' => ?_,
        fun request' session' destination hsession' hchallenged => ?_,
        fun request' session' row hsession' hop hmay hrow => ?_⟩
      · rcases eq_or_ne id session.loaded.id with rfl | hne
        · simp only [Function.update_self, Option.some.injEq] at hrow
          rw [← hrow]
          exact hinv.rows_id _ stored hstored
        · simp only [Function.update_of_ne hne] at hrow
          exact hinv.rows_id id row hrow
      · rcases eq_or_ne id session.loaded.id with rfl | hne
        · simp only [Function.update_self, Option.some.injEq] at hrow ⊢
          subst hrow
          exact htrusted htrust
        · simp only [Function.update_of_ne hne] at hrow ⊢
          exact hinv.vouched id row hrow htrust
      · have hsome := hinv.loaded request' session' (hold request' session' hsession')
        dsimp only
        rcases eq_or_ne session'.loaded.id session.loaded.id with heq | hne
        · rw [heq, Function.update_self]
          rfl
        · rwa [Function.update_of_ne hne]
      · have hmem :=
          hinv.challenged request' session' destination (hold request' session' hsession')
          hchallenged
        dsimp only
        rcases eq_or_ne session'.loaded.id session.loaded.id with heq | hne
        · rw [heq, Function.update_self]
          rw [heq] at hmem
          unfold logChange
          split
          · exact hmem
          · exact List.mem_cons_of_mem _ hmem
        · rwa [Function.update_of_ne hne]
      · have hsession'' := hold request' session' hsession'
        dsimp only at hrow ⊢
        rcases eq_or_ne session'.loaded.id session.loaded.id with heq | hne
        · rw [heq, Function.update_self] at hrow ⊢
          cases hrow
          refine hkeeps ?_
          rw [← heq] at hstored ⊢
          exact hinv.enabling request' session' stored hsession'' hop hmay hstored
        · rw [Function.update_of_ne hne] at hrow ⊢
          exact hinv.enabling request' session' row hsession'' hop hmay hrow
    · cases h
  · cases h

theorem Invariant.abandon {request : Nat} (hinv : Invariant s)
    (h : step s (.abandon request) = some s') : Invariant s' := by
  cases h
  have hold : ∀ request' session', Function.update s.sessions request none request' =
      some session' → s.sessions request' = some session' := by
    intro request' session' hsession'
    rcases session_update hsession' with ⟨_, hnew⟩ | ⟨_, hsession'⟩
    · cases hnew
    · exact hsession'
  exact ⟨hinv.rows_id, hinv.vouched,
    fun request' session' hsession' => hinv.loaded request' session' (hold _ _ hsession'),
    fun request' session' destination hsession' =>
      hinv.challenged request' session' destination (hold _ _ hsession'),
    fun request' session' row hsession' =>
      hinv.enabling request' session' row (hold _ _ hsession')⟩

theorem Invariant.step {action : Action} (hinv : Invariant s) (hok : Undisturbed s action)
    (h : Registry.step s action = some s') : Invariant s' := by
  cases action with
  | create executor => exact hinv.create h
  | read id operation => exact hinv.read h
  | challenge request answer => exact hinv.challenge h
  | commit request now => exact hinv.commit hok h
  | abandon request => exact hinv.abandon h

theorem Invariant.reachable (h : Reachable Undisturbed s) : Invariant s :=
  Reaches.invariant h .empty fun _ _ _ hinv hok hstep => hinv.step hok hstep

/-! ## Dispatchable executors -/

/-- In every undisturbed run, the address, the transport mode and the active secret
of a dispatchable executor were together challenged with success, and the row has
not been pointed anywhere else since. -/
theorem dispatchable_trusted (h : Reachable Undisturbed s) (id : UUID) (executor : LookupExecutor)
    (hrow : s.rows id = some executor) (hdispatchable : executor.dispatchable = true) :
    Trusted (s.log id) executor.destination := by
  obtain ⟨hactive, hlifted⟩ : executor.lifecycleStatus = .active ∧
      executor.requiresReverification = false := by
    simpa [LookupExecutor.dispatchable] using hdispatchable
  exact (Invariant.reachable h).vouched id executor hrow (.inl hactive) hlifted

/-! ## The first race -/

def exDraft : LookupExecutor := createExecutor ⟨7⟩ "https://a.test" .https 1 "secret"

def exAnswer : Except ChallengeError ChallengeResult := .ok ⟨⟨7⟩, 1, .str "0.1.0", 1⟩

/-- A failed test quarantines the draft. A verification loads it and challenges the
first address; an update points the row to a second one; the verification
commits. -/
def exRace : List Action :=
  [.create exDraft,
    .read ⟨7⟩ .test, .challenge 0 (.error .urlError), .commit 0 1,
    .read ⟨7⟩ (.verify none), .challenge 1 exAnswer,
    .read ⟨7⟩ (.update ⟨some "https://b.test", none, none⟩), .commit 2 2,
    .commit 1 3]

def exBlessed : LookupExecutor :=
  ⟨⟨7⟩, "https://b.test", .https, .active, .healthy, false, 1, ⟨"secret"⟩, 1, none, none, some 3,
    some 3, some 3, none⟩

/-- The executor is dispatchable at the second address, which nobody challenged. -/
theorem update_blessed :
    ¬ ∀ (s : State) (id : UUID) (executor : LookupExecutor), Reachable Always s →
      s.rows id = some executor → executor.dispatchable = true →
      Trusted (s.log id) executor.destination := by
  intro h
  have hrun : (exec step State.empty exRace).map (fun s => (s.rows ⟨7⟩, s.log ⟨7⟩)) =
      some (some exBlessed, [.changed exBlessed.destination, .challenged 1 exDraft.destination,
        .changed exDraft.destination]) := by decide
  obtain ⟨s, hs, heq⟩ := Option.map_eq_some_iff.mp hrun
  obtain ⟨hrow, hlog⟩ := Prod.mk.inj heq
  obtain ⟨request, newer, older, hsplit, _⟩ :=
    h s ⟨7⟩ exBlessed (reaches_of_exec hs) hrow (by decide)
  rw [hlog] at hsplit
  have hmem : Event.challenged request exBlessed.destination ∈
      [Event.changed exBlessed.destination, .challenged 1 exDraft.destination,
        .changed exDraft.destination] := by
    rw [hsplit]
    exact List.mem_append_right _ List.mem_cons_self
  simp [exBlessed, exDraft, createExecutor, LookupExecutor.destination] at hmem

def exVerification : List Action :=
  [.create exDraft, .read ⟨7⟩ (.verify none), .challenge 0 exAnswer]

def exVerified : LookupExecutor :=
  { exDraft with
    lifecycleStatus := .active
    healthStatus := .healthy
    lastVerifiedAt := some 3
    lastHealthCheckAt := some 3
    lastSuccessAt := some 3 }

def exSession : Session := ⟨.verify none, exDraft, some exAnswer⟩

theorem undisturbed_exSession {s : State} (hsession : s.sessions 0 = some exSession)
    (hrow : s.rows ⟨7⟩ = some exDraft)
    (hlog : s.log ⟨7⟩ = [.challenged 0 exDraft.destination, .changed exDraft.destination]) :
    Undisturbed s (.commit 0 3) := by
  intro session stored hsession' hrow'
  rw [hsession] at hsession'
  cases hsession'
  rw [show exSession.loaded.id = ⟨7⟩ from rfl] at hrow' ⊢
  rw [hrow] at hrow'
  cases hrow'
  intro destination hchallenged
  obtain rfl : exDraft.destination = destination := Option.some.inj hchallenged
  refine ⟨rfl, rfl, .inl rfl, fun newer older hsplit destination' hmem => ?_⟩
  rw [hlog] at hsplit
  cases newer with
  | nil => cases hmem
  | cons event newer =>
    have hlast : Event.challenged 0 exDraft.destination ∈ [Event.changed exDraft.destination] := by
      rw [(List.cons.inj hsplit).2]
      exact List.mem_append_right _ List.mem_cons_self
    simp at hlast

/-- The verified executor is dispatchable and trusted. -/
theorem verified_dispatchable : ∃ s, Reachable Undisturbed s ∧ s.rows ⟨7⟩ = some exVerified ∧
    exVerified.dispatchable = true ∧ Trusted (s.log ⟨7⟩) exVerified.destination := by
  have hrun : (exec step State.empty exVerification).map
      (fun s => (s.sessions 0, s.rows ⟨7⟩, s.log ⟨7⟩)) = some (some exSession, some exDraft,
        [.challenged 0 exDraft.destination, .changed exDraft.destination]) := rfl
  have hcommit : ((exec step State.empty exVerification).bind fun s =>
      (step s (.commit 0 3)).map fun s' => s'.rows ⟨7⟩) = some (some exVerified) := rfl
  obtain ⟨s, hs, hfacts⟩ := Option.map_eq_some_iff.mp hrun
  rw [hs, Option.bind_some] at hcommit
  obtain ⟨s', hs', hrow'⟩ := Option.map_eq_some_iff.mp hcommit
  simp only [Prod.mk.injEq] at hfacts
  have hreach : Reachable Undisturbed s := by
    refine reaches_of_exec_ok (fun action hmem s => ?_) hs
    simp only [exVerification, List.mem_cons, List.not_mem_nil, or_false] at hmem
    rcases hmem with rfl | rfl | rfl <;> trivial
  have hreach' : Reachable Undisturbed s' :=
    .tail hreach (undisturbed_exSession hfacts.1 hfacts.2.1 hfacts.2.2) hs'
  exact ⟨s', hreach', hrow', rfl, dispatchable_trusted hreach' ⟨7⟩ exVerified hrow' rfl⟩

end Trackpal.Registry

import Trackpal.Subscriptions.History

/-!
# Failed reminders

Whether a reminder that failed is sent again: `mark_reminder_failed` counts the failures of
a log, but a poll returns only reminders without a log, and one that is due again breaks
the whole poll. A late report of a failure can also take a reminder out of `sent`.
-/

namespace Trackpal.Subscriptions

open Trackpal.Protocol Trackpal.Foundation

/-! ## What is asked of retries -/

/-- No log of the reminder is sent or has three failures. -/
def Outstanding (logs : ReminderLogs) (key : ReminderKey) : Prop :=
  ∀ log ∈ logs.rows, log.key = key → log.status ≠ .sent ∧ log.attemptCount < 3

instance (logs : ReminderLogs) (key : ReminderKey) : Decidable (Outstanding logs key) :=
  inferInstanceAs (Decidable (∀ log ∈ _, _ → _))

def World.timesReturned (w : World) (key : ReminderKey) : Nat :=
  w.returned.countP fun r => r.2 = key

/-- How many of these sends were not reported. -/
def World.unreported (w : World) (key : ReminderKey) : Nat :=
  w.returned.countP fun r => r.2 = key && decide (r.1 ∉ w.reported)

/-- What is asked of the step `a` from `w` to `w'`. -/
structure RetryContract (env : Environment) (w : World) (a : Action) (w' : World) : Prop where
  /-- A poll returns the due reminders that are not settled. -/
  retried : ∀ p, a = .poll p → ∀ item ∈ due env p, Outstanding w.logs item.key →
    ∃ other ∈ returned env w.logs p, other.key = item.key
  /-- A poll returns no reminder that was sent. -/
  not_again : ∀ p, a = .poll p → ∀ item ∈ returned env w.logs p, ∀ log ∈ w.logs.rows,
    log.key = item.key → log.status ≠ .sent
  /-- A reminder that was sent stays so. -/
  stays_sent : ∀ id log, w.logs.get id = some log → log.status = .sent →
    ∃ log', w'.logs.get id = some log' ∧ log'.status = .sent
  /-- The returns of a reminder are bounded. -/
  bounded : ∀ key, w'.timesReturned key ≤ 3 + w'.unreported key

/-- The steps that keep it: a poll all of whose due reminders are new, or all of them settled;
and a failure that is not the third one of a reminder already sent. -/
def keepsContract (env : Environment) (w : World) : Action → Bool
  | .poll p => Fresh env w.logs p || (due env p).all fun item => !Outstanding w.logs item.key
  | .markSent _ _ => true
  | .markFailed logId _ =>
    (w.logs.get logId).all fun log => log.status ≠ .sent || log.attemptCount < 2

/-! ## When a step keeps it -/

variable {env : Environment} {w w' w₀ : World} {a : Action} {p : Poll} {id logId : UUID}
  {log : ReminderLog} {key : ReminderKey} {reason : Option String}

namespace RetryLemmas

theorem retried_iff : (∀ item ∈ due env p, Outstanding w.logs item.key →
    ∃ other ∈ returned env w.logs p, other.key = item.key) ↔
      keepsContract env w (.poll p) = true := by
  simp only [keepsContract, Bool.or_eq_true, decide_eq_true_eq, List.all_eq_true,
    Bool.not_eq_true', decide_eq_false_iff_not]
  constructor
  · intro h
    by_cases hfresh : Fresh env w.logs p
    · exact Or.inl hfresh
    · refine Or.inr fun item hitem hout => ?_
      obtain ⟨other, hother, -⟩ := h item hitem hout
      exact hfresh (fresh_of_returned hother)
  · rintro (hfresh | hsettled) item hitem hout
    · exact ⟨item, by rwa [returned_of_fresh hfresh], rfl⟩
    · exact absurd hout (hsettled item hitem)

theorem status_markFailed (hsent : log.status = .sent) :
    (log.markFailed reason).status = .sent ↔ log.attemptCount < 2 := by
  unfold ReminderLog.markFailed
  dsimp only
  split
  · next hthird => exact iff_of_false (by decide) (by omega)
  · next hthird => exact iff_of_true hsent (by omega)

theorem stays_sent (hstep : step env w a = some w') (hkeeps : keepsContract env w a = true)
    (hget : w.logs.get id = some log) (hsent : log.status = .sent) :
    ∃ log', w'.logs.get id = some log' ∧ log'.status = .sent := by
  refine ⟨a.rewrite log, get_after hstep hget, ?_⟩
  cases a with
  | poll p => exact hsent
  | markSent logId now =>
    rw [Action.rewrite]
    split
    · rfl
    · exact hsent
  | markFailed logId reason =>
    rw [Action.rewrite]
    split
    · next hid =>
      rw [← hid, Table.key_of_get hget, keepsContract, hget] at hkeeps
      simp only [Option.all_some, hsent, ne_eq, not_true_eq_false, decide_false, Bool.false_or,
        decide_eq_true_eq] at hkeeps
      exact (status_markFailed hsent).mpr hkeeps
    · exact hsent

theorem keeps_of_stays_sent
    (hstays : ∀ id log, w.logs.get id = some log → log.status = .sent →
      ∃ log', w'.logs.get id = some log' ∧ log'.status = .sent)
    (hstep : step env w (.markFailed logId reason) = some w') :
    keepsContract env w (.markFailed logId reason) = true := by
  cases hget : w.logs.get logId with
  | none => simp only [keepsContract, hget, Option.all_none]
  | some log =>
    simp only [keepsContract, hget, Option.all_some, Bool.or_eq_true, decide_eq_true_eq]
    by_cases hsent : log.status = .sent
    · obtain ⟨log', hget', hsent'⟩ := hstays logId log hget hsent
      rw [get_after hstep hget] at hget'
      cases hget'
      rw [Action.rewrite, if_pos (Table.key_of_get hget)] at hsent'
      exact Or.inr ((status_markFailed hsent).mp hsent')
    · exact Or.inl hsent

theorem timesReturned_le (h : Once w) : w.timesReturned key ≤ 1 := by
  have hcount : w.timesReturned key = (w.returned.map (·.2)).count key := by
    rw [World.timesReturned, List.count, List.countP_map]
    rfl
  rw [hcount]
  exact List.nodup_iff_count_le_one.mp h.nodup key

end RetryLemmas

open RetryLemmas

theorem sent_forever (h : Reaches (step env) (fun w a => keepsContract env w a = true) w w')
    (hget : w.logs.get id = some log) (hsent : log.status = .sent) :
    ∃ log', w'.logs.get id = some log' ∧ log'.status = .sent := by
  refine Reaches.invariant (I := fun w => ∃ log', w.logs.get id = some log' ∧ log'.status = .sent)
    h ⟨log, hget, hsent⟩ fun w₁ a w₂ hbefore hkeeps hstep => ?_
  obtain ⟨log', hget', hsent'⟩ := hbefore
  exact stays_sent hstep hkeeps hget' hsent'

/-- After a history whose steps keep the contract, a step keeps it if and only if it is a poll
all of whose due reminders are new or settled, or a report that is not the third failure of a
reminder already sent. -/
theorem contract_iff (hstart : w₀.returned = [])
    (h : Reaches (step env) (fun w a => keepsContract env w a = true) w₀ w)
    (hstep : step env w a = some w') :
    RetryContract env w a w' ↔ keepsContract env w a = true := by
  have honce : Once w' := once_after (once_of_reaches h hstart) hstep
  constructor
  · intro hcontract
    cases a with
    | poll p => exact retried_iff.mp (hcontract.retried p rfl)
    | markSent logId now => rfl
    | markFailed logId reason => exact keeps_of_stays_sent hcontract.stays_sent hstep
  · intro hkeeps
    exact
      { retried := fun p hp => retried_iff.mpr (hp ▸ hkeeps)
        not_again := fun p _ item hitem log hlog hkey => by
          have hnot := not_logged_of_returned hitem
          rw [logged_iff.mpr ⟨log, hlog, hkey⟩] at hnot
          cases hnot
        stays_sent := fun id log hget hsent => stays_sent hstep hkeeps hget hsent
        bounded := fun key => by
          have hle : w'.timesReturned key ≤ 1 := timesReturned_le honce
          omega }

/-- In a history whose steps keep the contract, a sent reminder stays so to the end; and the next
step keeps the contract if and only if it is one of these steps. -/
theorem retries_kept (hstart : w₀.returned = [])
    (h : Reaches (step env) (fun w a => keepsContract env w a = true) w₀ w) :
    (∀ id log, w.logs.get id = some log → log.status = .sent →
      ∀ w', Reaches (step env) (fun w a => keepsContract env w a = true) w w' →
        ∃ log', w'.logs.get id = some log' ∧ log'.status = .sent) ∧
    ∀ a w', step env w a = some w' → (RetryContract env w a w' ↔ keepsContract env w a = true) :=
  ⟨fun _ _ hget hsent _ hrun => sent_forever hrun hget hsent,
    fun _ _ hstep => contract_iff hstart h hstep⟩

def exWorld : World where
  logs := Table.empty
  returned := []
  reported := []

def exSent : List Action := [.poll (exPoll 0), .markSent ⟨7⟩ minute]

def exFailed : List Action := [.poll (exPoll 0), .markFailed ⟨7⟩ none]

/-- A late failure of a reminder that was sent keeps the contract. -/
theorem late_failure_keeps : ∃ w w', w.timesReturned exKey = 1 ∧
    RetryContract exEnvironment w (.markFailed ⟨7⟩ none) w' := by
  have hrun : (execWhere (step exEnvironment) (keepsContract exEnvironment) exWorld exSent).any
      (fun w => w.timesReturned exKey = 1 &&
        keepsContract exEnvironment w (.markFailed ⟨7⟩ none)) = true := by
    decide +kernel
  obtain ⟨w, hreach, hw⟩ := exists_of_execWhere hrun
  obtain ⟨htimes, hkeeps⟩ := Bool.and_eq_true_iff.mp hw
  exact ⟨w, _, of_decide_eq_true htimes, ((retries_kept rfl hreach).2 _ _ rfl).mpr hkeeps⟩

/-- A reminder that failed once is due at a poll half an hour later, which ends normally and
returns nothing. -/
theorem failed_not_returned : ∃ w, Reaches (step exEnvironment) Always exWorld w ∧
    (due exEnvironment (exPoll (30 * minute))).map Item.key = [exKey] ∧
    Outstanding w.logs exKey ∧
    (generateReminderPayloads exEnvironment w.logs (exPoll (30 * minute))).map (·.items) =
      some [] := by
  have hrun : (execWhere (step exEnvironment) (fun _ _ => true) exWorld exFailed).any
      (fun w => decide (Outstanding w.logs exKey) && decide
        ((generateReminderPayloads exEnvironment w.logs (exPoll (30 * minute))).map (·.items) =
          some [])) = true := by
    decide +kernel
  obtain ⟨w, hreach, hw⟩ := exists_of_execWhere hrun
  obtain ⟨hout, hnone⟩ := Bool.and_eq_true_iff.mp hw
  exact ⟨w, hreach.mono fun _ _ _ => trivial, by decide +kernel, of_decide_eq_true hout,
    of_decide_eq_true hnone⟩

end Trackpal.Subscriptions

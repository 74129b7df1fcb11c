import Trackpal.Subscriptions.History

/-!
# A batch with a reminder that was logged before

What a poll does when some of its due reminders have a log already. The first of them
breaks the transaction; whether the poll ends normally then depends on what it still reads.
-/

namespace Trackpal.Subscriptions

open Trackpal.Protocol Trackpal.Foundation Trackpal.Foundation.Batch ReminderLemmas

variable (env : Environment) (logs : ReminderLogs) (poll : Poll)

/-- The only reminder that is due has a log, and nothing comes after it: its subscription is
the last one of the page, and there is no other page. -/
def LastLogged : Prop :=
  poll.hasMore = false ∧ ∃ sub item, poll.page.getLast? = some sub ∧ dueOf env poll sub = [item] ∧
    due env poll = [item] ∧ logged logs item.key = true

/-- The poll ends normally, returns the due reminders that had no log, and has committed a log
for each of them. -/
structure Isolated : Prop where
  normally : (generateReminderPayloads env logs poll).isSome = true
  nodup : ((returned env logs poll).map Item.key).Nodup
  exact_iff : ∀ key, key ∈ (returned env logs poll).map Item.key ↔
    key ∈ (due env poll).map Item.key ∧ logged logs key = false
  committed : ∀ item ∈ returned env logs poll,
    (record logs (returned env logs poll)).get item.log.id = some item.log

variable {env logs poll} {b b' : Batch Item} {c : Candidate} {sub : Subscription}

namespace IsolationLemmas

variable {token : Option String} {warningDay : Int}

theorem error_recipient {recipient : Recipient × Option String}
    (htoken : decryptValue env c.tenant.evolutionInstanceToken = some token) :
    (∃ b', remindRecipient env logs poll c warningDay b recipient = .error b') ↔
      BreaksEarly Item.key (logged logs) b (dueFor poll c token warningDay recipient) := by
  unfold remindRecipient dueFor
  cases recipient.2.filter (· ≠ "") with
  | none => exact iff_of_false (by rintro ⟨b', h⟩; cases h) not_breaksEarly_nil
  | some phone =>
    rw [htoken]
    dsimp only [Option.map_some, Option.toList_some]
    rw [breaksEarly_singleton]
    split
    · next hbroken => exact iff_of_true ⟨b, rfl⟩ hbroken
    · next hbroken => exact iff_of_false (by rintro ⟨b', h⟩; cases h) hbroken

theorem error_day (htoken : decryptValue env c.tenant.evolutionInstanceToken = some token)
    (hphone : ∃ recipient ∈ c.recipients, (recipient.2.filter (· ≠ "")).isSome = true) :
    (∃ b', remindDay env logs poll c b warningDay = .error b') ↔
      BreaksEarly Item.key (logged logs) b (dueOn poll c token warningDay) := by
  unfold remindDay dueOn
  split
  · exact iff_of_false (by rintro ⟨b', h⟩; cases h) not_breaksEarly_nil
  · split
    · next hbroken =>
      refine iff_of_true ⟨b, rfl⟩ (breaksEarly_of_broken hbroken fun hnone => ?_)
      obtain ⟨recipient, hmem, hsome⟩ := hphone
      obtain ⟨phone, hphone⟩ := Option.isSome_iff_exists.mp hsome
      have hempty := List.flatMap_eq_nil_iff.mp hnone recipient hmem
      rw [dueFor, hphone] at hempty
      cases hempty
    · exact error_foldlM (fun _ _ _ => stop_recipient htoken) fun _ _ _ => error_recipient htoken

theorem due_of_no_phone
    (hphone : ¬∃ recipient ∈ c.recipients, (recipient.2.filter (· ≠ "")).isSome = true) :
    c.due env poll = [] := by
  refine List.eq_nil_iff_forall_not_mem.mpr fun item hitem => hphone ?_
  obtain ⟨_, _, recipient, phone, -, -, -, hmem, hsome, -⟩ := mem_candidate_due.mp hitem
  exact ⟨recipient, hmem, by rw [hsome]; rfl⟩

theorem isolate_eq_none {result : Except (Batch Item) (Batch Item)} :
    isolate result = none ↔ ∃ b, result = .error b ∧ b.broken = true := by
  cases result with
  | ok b => exact iff_of_false (by rintro ⟨⟩) (by rintro ⟨_, h, -⟩; cases h)
  | error b =>
    rw [isolate]
    split
    · next h => exact iff_of_true rfl ⟨b, rfl, h⟩
    · next h =>
      refine iff_of_false (by rintro ⟨⟩) ?_
      rintro ⟨_, heq, hbroken⟩
      cases heq
      exact h hbroken

theorem isolate_remindSubscription :
    isolate (remindSubscription env logs poll b sub) = none ↔
      b.broken = true ∨ BreaksEarly Item.key (logged logs) b (dueOf env poll sub) := by
  by_cases hbroken : b.broken = true
  · exact iff_of_true (isolate_eq_none.mpr ⟨b, if_pos hbroken, hbroken⟩) (Or.inl hbroken)
  rw [or_iff_right hbroken]
  have hstop : stop (remindSubscription env logs poll b sub) = _ := stop_remindSubscription
  by_cases hdue : dueOf env poll sub = []
  · -- where nothing is due, the transaction is as it was
    rw [hdue, insertAll_nil] at hstop
    rw [hdue]
    refine iff_of_false (fun hnone => ?_) not_breaksEarly_nil
    obtain ⟨b', hresult, hbroken'⟩ := isolate_eq_none.mp hnone
    rw [hresult] at hstop
    subst hstop
    exact hbroken hbroken'
  rw [isolate_eq_none]
  unfold remindSubscription
  rw [if_neg hbroken]
  unfold dueOf at hdue ⊢
  cases hc : candidate env poll sub with
  | none => exact absurd (by rw [hc]; rfl) hdue
  | some c =>
    rw [hc, Option.map_some, Option.getD_some] at hdue
    have hphone : ∃ recipient ∈ c.recipients, (recipient.2.filter (· ≠ "")).isSome = true := by
      by_contra hnone
      exact hdue (due_of_no_phone hnone)
    obtain ⟨item, hitem⟩ := List.exists_mem_of_ne_nil _ hdue
    obtain ⟨token, _, _, _, htoken, -⟩ := mem_candidate_due.mp hitem
    have hraises : (∃ b', c.settings.days.foldlM (remindDay env logs poll c) b = .error b') ↔
        BreaksEarly Item.key (logged logs) b (c.settings.days.flatMap (dueOn poll c token)) :=
      error_foldlM (fun _ _ _ => stop_day htoken) fun _ _ _ => error_day htoken hphone
    rw [Option.map_some, Option.getD_some, due_eq htoken, ← hraises]
    refine exists_congr fun b' => and_iff_left_of_imp fun herror => ?_
    obtain ⟨day, -, before, hday⟩ := error_of_foldlM herror
    exact broken_of_day htoken hday

theorem loop_eq_none {subs : List Subscription} :
    (subs ++ [sub]).foldlM (fun b sub => isolate (remindSubscription env logs poll b sub)) b = none ↔
      (b.insertAll Item.key (logged logs) (subs.flatMap (dueOf env poll))).broken = true ∨
      BreaksEarly Item.key (logged logs)
        (b.insertAll Item.key (logged logs) (subs.flatMap (dueOf env poll)))
        (dueOf env poll sub) := by
  rw [List.foldlM_append]
  cases hfirst : subs.foldlM (fun b sub => isolate (remindSubscription env logs poll b sub)) b with
  | none => exact iff_of_true rfl (Or.inl (loop_none hfirst))
  | some b₁ =>
    rw [← loop_some hfirst, ← isolate_remindSubscription]
    show (([sub].foldlM (fun b sub => isolate (remindSubscription env logs poll b sub)) b₁) = none) ↔ _
    rw [List.foldlM_cons]
    cases isolate (remindSubscription env logs poll b₁ sub) with
    | none => exact iff_of_true rfl rfl
    | some b₂ => exact iff_of_false (by rintro ⟨⟩) (by rintro ⟨⟩)

end IsolationLemmas

open IsolationLemmas

theorem rows_of_whole {rows : List Item}
    (h : (start.insertAll Item.key (logged logs) rows).broken = false) :
    (start.insertAll Item.key (logged logs) rows).rows = rows :=
  (of_insertAll h List.nodup_nil).1

/-- A poll whose reminders are not fresh ends normally only if nothing is read after the one that
has a log. -/
theorem lastLogged_of_isSome (hsome : (generateReminderPayloads env logs poll).isSome = true)
    (hfresh : ¬Fresh env logs poll) : LastLogged env logs poll := by
  have hempty : poll.page ≠ [] := by
    intro hempty
    refine hfresh ?_
    rw [Fresh, due, hempty]
    exact ⟨List.nodup_nil, by simp⟩
  obtain ⟨subs, sub, hpage⟩ := List.eq_nil_or_concat' poll.page |>.resolve_left hempty
  have hdue : due env poll = subs.flatMap (dueOf env poll) ++ dueOf env poll sub := by
    rw [due, hpage, List.flatMap_append, List.flatMap_singleton]
  have hbroken : (start.insertAll Item.key (logged logs) (due env poll)).broken = true := by
    by_contra hwhole
    exact hfresh (fits_of_insertAll (by simpa using hwhole))
  unfold generateReminderPayloads at hsome
  rw [if_neg hempty] at hsome
  cases hloop : poll.page.foldlM
      (fun b sub => isolate (remindSubscription env logs poll b sub)) start with
  | none =>
    rw [hloop] at hsome
    cases hsome
  | some b =>
    have hb : b = start.insertAll Item.key (logged logs) (due env poll) := loop_some hloop
    rw [hloop] at hsome
    subst hb
    have hlast : poll.page.getLast? = some sub := by rw [hpage, List.getLast?_concat]
    have hmore : poll.hasMore = false := by
      cases hmore : poll.hasMore with
      | false => rfl
      | true => simp [hmore, hlast, hbroken, guard] at hsome
    have hrows : (start.insertAll Item.key (logged logs) (due env poll)).rows = [] := by
      by_contra hrows
      simp [hrows, hbroken, guard] at hsome
    have hends := (not_congr loop_eq_none).mp (by rw [← hpage, hloop]; exact Option.some_ne_none _)
    obtain ⟨hwhole, hlate⟩ := not_or.mp hends
    have hwhole' : (start.insertAll Item.key (logged logs) (subs.flatMap (dueOf env poll))).broken =
        false := by simpa using hwhole
    -- nothing was inserted, so that nothing is due before the last subscription
    have hfirst : subs.flatMap (dueOf env poll) = [] := by
      have hprefix : subs.flatMap (dueOf env poll) <+:
          (start.insertAll Item.key (logged logs) (due env poll)).rows := by
        rw [hdue, insertAll_append]
        conv_lhs => rw [← rows_of_whole hwhole']
        exact prefix_insertAll
      rw [hrows] at hprefix
      exact List.prefix_nil.mp hprefix
    rw [hfirst, List.nil_append] at hdue
    rw [hfirst, insertAll_nil] at hlate
    have hnonempty : dueOf env poll sub ≠ [] := by
      intro hnone
      rw [hdue, hnone] at hbroken
      cases hbroken
    obtain ⟨before, item, hitems⟩ :=
      (List.eq_nil_or_concat' (dueOf env poll sub)).resolve_left hnonempty
    -- nor before the last reminder
    have hbefore : before = [] := by
      have hwhole : (start.insertAll Item.key (logged logs) before).broken = false := by
        by_contra hbroken
        exact hlate ⟨before, [item], hitems, List.cons_ne_nil _ _, by simpa using hbroken⟩
      have hprefix : before <+: (start.insertAll Item.key (logged logs) (due env poll)).rows := by
        rw [hdue, hitems, insertAll_append]
        conv_lhs => rw [← rows_of_whole hwhole]
        exact prefix_insertAll
      rw [hrows] at hprefix
      exact List.prefix_nil.mp hprefix
    rw [hbefore, List.nil_append] at hitems
    have hone : due env poll = [item] := by rw [hdue, hitems]
    refine ⟨hmore, sub, item, hlast, hitems, hone, ?_⟩
    by_contra hlogged
    refine hfresh ?_
    rw [Fresh, hone]
    exact ⟨List.nodup_singleton _, fun other hother => by
      rw [List.mem_singleton.mp hother]
      simpa using hlogged⟩

theorem isSome_of_fresh (h : Fresh env logs poll) :
    (generateReminderPayloads env logs poll).isSome = true := by
  unfold generateReminderPayloads
  split
  · rfl
  · cases hloop : poll.page.foldlM
        (fun b sub => isolate (remindSubscription env logs poll b sub)) start with
    | none =>
      have hbroken := loop_none hloop
      rw [← due, insertAll_of_fits h] at hbroken
      cases hbroken
    | some b =>
      have hb := loop_some hloop
      rw [← due, insertAll_of_fits h] at hb
      subst hb
      simp

theorem isSome_of_lastLogged (h : LastLogged env logs poll) :
    (generateReminderPayloads env logs poll).isSome = true := by
  obtain ⟨hmore, sub, item, hlast, hitem, hone, hlogged⟩ := h
  obtain ⟨subs, hpage⟩ : ∃ subs, poll.page = subs ++ [sub] :=
    ⟨_, (List.dropLast_append_getLast? sub hlast).symm⟩
  have hfirst : subs.flatMap (dueOf env poll) = [] := by
    rw [due, hpage, List.flatMap_append, List.flatMap_singleton, hitem] at hone
    exact List.append_left_eq_self.mp hone
  have hbatch : start.insertAll Item.key (logged logs) (due env poll) = ⟨[], true⟩ := by
    rw [hone, insertAll_cons, insertAll_nil]
    simp [Batch.insert, start, hlogged]
  have hends : poll.page.foldlM
      (fun b sub => isolate (remindSubscription env logs poll b sub)) start ≠ none := by
    rw [hpage]
    refine (not_congr loop_eq_none).mpr ?_
    rw [hfirst, insertAll_nil, hitem, breaksEarly_singleton]
    simp [start]
  obtain ⟨b, hloop⟩ := Option.ne_none_iff_exists'.mp hends
  have hb : b = start.insertAll Item.key (logged logs) (due env poll) := loop_some hloop
  rw [hbatch] at hb
  unfold generateReminderPayloads
  rw [if_neg (by rw [hpage]; exact List.concat_ne_nil _ _), hloop, hb, hmore]
  rfl

/-- A poll ends normally if and only if its reminders are fresh or nothing is read after the one
that has a log. -/
theorem isSome_iff : (generateReminderPayloads env logs poll).isSome = true ↔
    Fresh env logs poll ∨ LastLogged env logs poll := by
  constructor
  · intro hsome
    by_cases hfresh : Fresh env logs poll
    · exact Or.inl hfresh
    · exact Or.inr (lastLogged_of_isSome hsome hfresh)
  · rintro (hfresh | hlast)
    · exact isSome_of_fresh hfresh
    · exact isSome_of_lastLogged hlast

/-- Reminders with a log are skipped, and the others returned and committed, if and only if there
are none with a log or with a key that occurs twice, or the one with a log is the only one that
is due and nothing comes after it. -/
theorem isolated_iff (hids : NewIds logs (returned env logs poll)) :
    Isolated env logs poll ↔ Fresh env logs poll ∨ LastLogged env logs poll := by
  refine ⟨fun h => isSome_iff.mp h.normally, fun h => ?_⟩
  by_cases hfresh : Fresh env logs poll
  · exact
      { normally := isSome_of_fresh hfresh
        nodup := by
          rw [returned_of_fresh hfresh]
          exact hfresh.1
        exact_iff := fun key => by
          rw [returned_of_fresh hfresh]
          refine (and_iff_left_of_imp fun hkey => ?_).symm
          obtain ⟨item, hitem, rfl⟩ := List.mem_map.mp hkey
          exact hfresh.2 item hitem
        committed := fun item hitem => get_record hids hitem }
  · have hlast := h.resolve_left hfresh
    have hnone : returned env logs poll = [] := by rw [returned_eq, if_neg hfresh]
    obtain ⟨-, sub, item, -, -, hone, hlogged⟩ := hlast
    exact
      { normally := isSome_iff.mpr h
        nodup := by
          rw [hnone]
          exact List.nodup_nil
        exact_iff := fun key => by
          rw [hnone, hone]
          refine iff_of_false List.not_mem_nil ?_
          rintro ⟨hkey, hnew⟩
          rw [List.mem_singleton.mp hkey] at hnew
          exact Bool.false_ne_true (hnew.symm.trans hlogged)
        committed := fun item hitem => by
          rw [hnone] at hitem
          cases hitem }

def exLog : ReminderLog where
  id := ⟨9⟩
  tenantId := ⟨2⟩
  subscriptionId := ⟨1⟩
  recipientType := .tenant
  recipientPhone := "525512345678"
  daysBeforeExpiry := 3
  sentForDate := 0
  status := .sent
  attemptCount := 0
  lastError := none
  sentAt := some 0

def exLogs : ReminderLogs := ⟨[exLog], List.nodup_singleton _⟩

def exBoth : Poll :=
  { exPoll minute with
    rows := exRows { exSettings with recipientMode := "both" }
    uuid4 := fun key => if key.recipientType = .tenant then ⟨7⟩ else ⟨8⟩ }

/-- Two subscriptions, each with a reminder for the tenant and one for its client. -/
def exFour : Poll :=
  { exBoth with
    rows := { exBoth.rows with
      subscriptions := ⟨[exSubscription, { exSubscription with id := ⟨4⟩ }], by decide⟩ }
    uuid4 := fun key =>
      ⟨10 * key.subscriptionId.int + if key.recipientType = .tenant then 0 else 1⟩ }

/-- The log of the day before does not keep the reminders of a poll back. -/
theorem four_reminders_isolated :
    Isolated exEnvironment ⟨[{ exLog with sentForDate := -1 }], List.nodup_singleton _⟩ exFour ∧
    (due exEnvironment exFour).length = 4 :=
  ⟨(isolated_iff (by decide +kernel)).mpr (Or.inl (by decide +kernel)), by decide +kernel⟩

/-- The reminder of the client has no log, and the poll that comes to it ends in an exception. -/
theorem logged_reminder_drops_others :
    (due exEnvironment exBoth).map (fun item => (item.key.recipientType, logged exLogs item.key)) =
      [(.tenant, true), (.client, false)] ∧
    (generateReminderPayloads exEnvironment exLogs exBoth).isSome = false ∧
    ¬Isolated exEnvironment exLogs exBoth := by
  have hraises : (generateReminderPayloads exEnvironment exLogs exBoth).isSome = false := by
    decide +kernel
  exact ⟨by decide +kernel, hraises, fun h => Bool.false_ne_true (hraises.symm.trans h.normally)⟩

end Trackpal.Subscriptions

import Trackpal.Foundation.Table
import Trackpal.Foundation.UniqueBatch
import Trackpal.Protocol.Wire
import Trackpal.Subscriptions.Schedule
import Mathlib.Data.List.Sort

/-!
# One poll for reminders

`generate_reminder_payloads`, over the rows that it reads and the logs that exist. A flush
that violates the unique constraint happens where `begin_nested` flushes the pending log,
before there is a savepoint: it rolls the transaction back and expires every row that was
loaded. From then on the read of an attribute raises, also in the handler that is to skip
the subscription, and so does the commit. The cursor is the one that `_parse_cursor` has read.

Results:
1. `returned_eq`: a poll returns every reminder that is due, if no two of them have one key
   and none has a log; otherwise it returns none.
-/

namespace Trackpal.Subscriptions

open Trackpal.Protocol Trackpal.Foundation

/-! ## Rows -/

inductive SubscriptionStatus where
  | active
  | expired
  | cancelled
deriving DecidableEq, Repr

structure Client where
  fullName : String
  username : String
  phone : Option String
deriving DecidableEq

structure Service where
  name : String
deriving DecidableEq

structure Subscription where
  id : UUID
  tenantId : UUID
  client : Option Client
  service : Option Service
  streamingEmail : String
  expiresAt : Int
  status : SubscriptionStatus
deriving DecidableEq

structure Tenant where
  plan : String
  whatsappPhone : Option String
  evolutionInstanceName : Option String
  evolutionInstanceToken : Option String
deriving DecidableEq

structure TenantSettings where
  locale : String
  timezone : String
deriving DecidableEq

inductive Recipient where
  | tenant
  | client
deriving DecidableEq, Repr

inductive LogStatus where
  | pending
  | sent
  | failed
deriving DecidableEq, Repr

/-- The columns of `uq_subscription_reminder_dedupe`. -/
structure ReminderKey where
  subscriptionId : UUID
  daysBeforeExpiry : Int
  sentForDate : Int
  recipientType : Recipient
deriving DecidableEq, Repr

/-- A row of `subscription_reminder_logs`. -/
structure ReminderLog where
  id : UUID
  tenantId : UUID
  subscriptionId : UUID
  recipientType : Recipient
  recipientPhone : String
  daysBeforeExpiry : Int
  sentForDate : Int
  status : LogStatus
  attemptCount : Nat
  lastError : Option String
  sentAt : Option Int
deriving DecidableEq, Repr

def ReminderLog.key (log : ReminderLog) : ReminderKey where
  subscriptionId := log.subscriptionId
  daysBeforeExpiry := log.daysBeforeExpiry
  sentForDate := log.sentForDate
  recipientType := log.recipientType

/-- The table `subscription_reminder_logs`. -/
abbrev ReminderLogs := Table ReminderLog.id

/-- A log with the key exists. -/
def logged (logs : ReminderLogs) (key : ReminderKey) : Bool := logs.rows.any (·.key = key)

/-- The rows that a poll reads; the maps are those of `load_batched_reminder_data`. -/
structure Rows where
  subscriptions : Table Subscription.id
  settings : UUID → Option ReminderSettings
  tenants : UUID → Option Tenant
  tenantSettings : UUID → Option TenantSettings

/-- One call: its time, its arguments, and the id that the log of a reminder draws. -/
structure Poll where
  rows : Rows
  now : Int
  cursor : Option (Int × Option UUID)
  pageSize : Nat
  uuid4 : ReminderKey → UUID

/-- What the program finds around it: the zones, and what `Fernet` makes of a token, where it
does not raise. -/
structure Environment where
  zoneInfo : ZoneInfo
  decrypt : String → Option String

/-! ## The page -/

def afterCursor (cursor : Option (Int × Option UUID)) (sub : Subscription) : Bool :=
  match cursor with
  | none => true
  | some (cursorDt, none) => cursorDt < sub.expiresAt
  | some (cursorDt, some cursorId) =>
    cursorDt < sub.expiresAt || sub.expiresAt = cursorDt && cursorId.int < sub.id.int

/-- `ORDER BY expires_at ASC, id ASC`. -/
def expiresBefore (a b : Subscription) : Bool :=
  a.expiresAt < b.expiresAt || a.expiresAt = b.expiresAt && a.id.int ≤ b.id.int

/-- The rows of the query, one more than the page has. -/
def Poll.selected (poll : Poll) : List Subscription :=
  ((poll.rows.subscriptions.select fun sub => sub.status = .active && poll.now < sub.expiresAt &&
    afterCursor poll.cursor sub).insertionSort fun a b => expiresBefore a b).take (poll.pageSize + 1)

def Poll.hasMore (poll : Poll) : Bool := poll.pageSize < poll.selected.length

def Poll.page (poll : Poll) : List Subscription :=
  if poll.hasMore then poll.selected.take poll.pageSize else poll.selected

/-! ## The message -/

/-- `value or default`. -/
def orElse (value : Option String) (default : String) : String :=
  (value.filter (· ≠ "")).getD default

structure Catalog where
  day : String
  days : String
  expiring (serviceName clientName days dayWord streamingEmail : String) : String

def catalogEn : Catalog where
  day := "day"
  days := "days"
  expiring serviceName clientName days dayWord streamingEmail :=
    "⚠️ *Reminder*\n\nThe subscription for *" ++ serviceName ++ "* for *" ++ clientName ++
      "* expires in " ++ days ++ " " ++ dayWord ++ ".\n\n📧 Account: " ++ streamingEmail ++
      "\n\nManage from your dashboard or send *MENU* for more options."

def catalogEs : Catalog where
  day := "día"
  days := "días"
  expiring serviceName clientName days dayWord streamingEmail :=
    "⚠️ *Recordatorio*\n\nLa suscripción a *" ++ serviceName ++ "* para *" ++ clientName ++
      "* vence en " ++ days ++ " " ++ dayWord ++ ".\n\n📧 Cuenta: " ++ streamingEmail ++
      "\n\nGestiona desde tu panel o envía *MENU* para más opciones."

def catalog (locale : String) : Catalog := if locale = "es" then catalogEs else catalogEn

def renderReminderMessage (serviceName clientName : String) (days : Int)
    (streamingEmail locale : String) : String :=
  let texts := catalog locale
  let dayWord := if days = 1 then texts.day else texts.days
  texts.expiring serviceName clientName (toString days) dayWord streamingEmail

/-! ## One subscription -/

def resolveRecipients (mode : String) (tenant : Tenant) (client : Client) :
    List (Recipient × Option String) :=
  if mode = "tenant_only" then [(.tenant, tenant.whatsappPhone)]
  else if mode = "client_only" then [(.client, client.phone)]
  else [(.tenant, tenant.whatsappPhone), (.client, client.phone)]

/-- `decrypt_value`; `none` where it raises. -/
def decryptValue (env : Environment) : Option String → Option (Option String)
  | none => some none
  | some token => (env.decrypt token).map some

/-- What the loop knows of a subscription that no check has skipped. -/
structure Candidate where
  sub : Subscription
  tenant : Tenant
  settings : ReminderSettings
  tenantSettings : Option TenantSettings
  client : Client
  zone : Zone

/-- `tenant_settings.timezone or "UTC"`. -/
def tzName (tenantSettings : Option TenantSettings) : String :=
  orElse (tenantSettings.map (·.timezone)) "UTC"

/-- The checks of the loop, each of which skips the subscription. -/
def candidate (env : Environment) (poll : Poll) (sub : Subscription) : Option Candidate := do
  let settings := poll.rows.settings sub.tenantId
  let tenantSettings := poll.rows.tenantSettings sub.tenantId
  let tenant ← poll.rows.tenants sub.tenantId
  guard (tenant.plan = "pro")
  let settings ← settings
  guard (settings.remindersEnabled = true)
  let zone ← env.zoneInfo (tzName tenantSettings)
  guard (isReminderTimeOk env.zoneInfo poll.now settings.reminderTime (tzName tenantSettings) = true)
  let client ← sub.client
  return { sub, tenant, settings, tenantSettings, client, zone }

/-- `settings.warning_days or [7, 3, 1]`. -/
def ReminderSettings.days (settings : ReminderSettings) : List Int :=
  match settings.warningDays with
  | none | some [] => [7, 3, 1]
  | some days => days

/-- What a poll returns for a reminder. The rest of the payload repeats the log. -/
structure Item where
  log : ReminderLog
  message : String
  evolutionInstanceName : String
  evolutionInstanceToken : String
deriving DecidableEq

def Item.key (item : Item) : ReminderKey := item.log.key

namespace Candidate

variable (c : Candidate)

/-- The key of the log that a poll at `now` makes. -/
def key (now warningDay : Int) (recipientType : Recipient) : ReminderKey where
  subscriptionId := c.sub.id
  daysBeforeExpiry := warningDay
  sentForDate := c.zone.localDate now
  recipientType := recipientType

/-- The log and the payload of a reminder. -/
def item (poll : Poll) (token : Option String) (warningDay : Int) (recipientType : Recipient)
    (phone : String) : Item where
  log :=
    { id := poll.uuid4 (c.key poll.now warningDay recipientType)
      tenantId := c.sub.tenantId
      subscriptionId := c.sub.id
      recipientType := recipientType
      recipientPhone := phone
      daysBeforeExpiry := warningDay
      sentForDate := c.zone.localDate poll.now
      status := .pending
      attemptCount := 0
      lastError := none
      sentAt := none }
  message := renderReminderMessage ((c.sub.service.map (·.name)).getD "Servicio")
    (orElse (some c.client.fullName) (orElse (some c.client.username) "Cliente")) warningDay
    c.sub.streamingEmail (orElse (c.tenantSettings.map (·.locale)) "en")
  evolutionInstanceName := orElse c.tenant.evolutionInstanceName ""
  evolutionInstanceToken := orElse token ""

def recipients : List (Recipient × Option String) :=
  resolveRecipients c.settings.recipientMode c.tenant c.client

end Candidate

variable (env : Environment) (logs : ReminderLogs) (poll : Poll)

def remindRecipient (c : Candidate) (warningDay : Int) (b : Batch Item)
    (recipient : Recipient × Option String) : Except (Batch Item) (Batch Item) :=
  match recipient.2.filter (· ≠ "") with
  | none => .ok b
  | some phone =>
    -- the locale and the token are read from rows that a failed flush has expired
    if b.broken then .error b
    else
      match decryptValue env c.tenant.evolutionInstanceToken with
      | none => .error b
      | some token =>
        .ok (b.insert Item.key (logged logs) (c.item poll token warningDay recipient.1 phone))

def remindDay (c : Candidate) (b : Batch Item) (warningDay : Int) :
    Except (Batch Item) (Batch Item) :=
  if computeDaysUntilExpiry c.zone c.sub.expiresAt poll.now ≠ warningDay then .ok b
  -- `settings.recipient_mode` is read from a row that a failed flush has expired
  else if b.broken then .error b
  else c.recipients.foldlM (remindRecipient env logs poll c warningDay) b

def remindSubscription (b : Batch Item) (sub : Subscription) : Except (Batch Item) (Batch Item) :=
  -- so is `sub.tenant_id`
  if b.broken then .error b
  else
    match candidate env poll sub with
    | none => .ok b
    | some c => c.settings.days.foldlM (remindDay env logs poll c) b

/-- The handler of the turn: it reads `sub.id`, which raises after a failed flush. -/
def isolate : Except (Batch Item) (Batch Item) → Option (Batch Item)
  | .ok b => some b
  | .error b => if b.broken then none else some b

structure Response where
  items : List Item
  /-- The expiry and the id that the text of the cursor holds. -/
  nextCursor : Option (Int × UUID)

/-- `generate_reminder_payloads`; `none` where it raises. What it returns is committed. -/
def generateReminderPayloads : Option Response :=
  if poll.page = [] then some { items := [], nextCursor := none }
  else do
    let b ← poll.page.foldlM (fun b sub => isolate (remindSubscription env logs poll b sub))
      Batch.start
    -- the commit raises
    guard ¬(b.rows ≠ [] ∧ b.broken = true)
    let last := if poll.hasMore then poll.page.getLast? else none
    -- and so does the read of the last row
    guard ¬(last.isSome = true ∧ b.broken = true)
    return { items := b.rows, nextCursor := last.map fun sub => (sub.expiresAt, sub.id) }

/-- The items of a poll; none where it raises. -/
def returned : List Item := ((generateReminderPayloads env logs poll).map (·.items)).getD []

/-! ## The reminders that are due -/

def Candidate.due (c : Candidate) : List Item :=
  match decryptValue env c.tenant.evolutionInstanceToken with
  | none => []
  | some token => c.settings.days.flatMap fun warningDay =>
    if computeDaysUntilExpiry c.zone c.sub.expiresAt poll.now ≠ warningDay then []
    else c.recipients.flatMap fun recipient =>
      ((recipient.2.filter (· ≠ "")).map (c.item poll token warningDay recipient.1)).toList

def dueOf (sub : Subscription) : List Item := ((candidate env poll sub).map (·.due env poll)).getD []

def due : List Item := poll.page.flatMap (dueOf env poll)

/-- No two of the reminders that are due have one key, and none has a log. -/
def Fresh : Prop := Batch.Fits Item.key (logged logs) (due env poll)

instance : Decidable (Fresh env logs poll) := inferInstanceAs (Decidable (Batch.Fits ..))

/-! ## The loops insert what is due -/

variable {env logs poll} {b b' : Batch Item} {c : Candidate} {warningDay : Int} {sub : Subscription}

namespace ReminderLemmas

open Batch

/-- The items of a recipient. -/
def dueFor (poll : Poll) (c : Candidate) (token : Option String) (warningDay : Int)
    (recipient : Recipient × Option String) : List Item :=
  ((recipient.2.filter (· ≠ "")).map (c.item poll token warningDay recipient.1)).toList

/-- The items of a warning day. -/
def dueOn (poll : Poll) (c : Candidate) (token : Option String) (warningDay : Int) : List Item :=
  if computeDaysUntilExpiry c.zone c.sub.expiresAt poll.now ≠ warningDay then []
  else c.recipients.flatMap (dueFor poll c token warningDay)

theorem due_eq {token : Option String}
    (htoken : decryptValue env c.tenant.evolutionInstanceToken = some token) :
    c.due env poll = c.settings.days.flatMap (dueOn poll c token) := by
  unfold Candidate.due
  rw [htoken]
  rfl

theorem stop_recipient_of_none {recipient : Recipient × Option String}
    (htoken : decryptValue env c.tenant.evolutionInstanceToken = none) :
    stop (remindRecipient env logs poll c warningDay b recipient) = b := by
  unfold remindRecipient
  cases recipient.2.filter (· ≠ "") with
  | none => rfl
  | some phone =>
    rw [htoken]
    dsimp only
    split <;> rfl

theorem stop_recipient {token : Option String} {recipient : Recipient × Option String}
    (htoken : decryptValue env c.tenant.evolutionInstanceToken = some token) :
    stop (remindRecipient env logs poll c warningDay b recipient) =
      b.insertAll Item.key (logged logs) (dueFor poll c token warningDay recipient) := by
  unfold remindRecipient dueFor
  cases recipient.2.filter (· ≠ "") with
  | none => rfl
  | some phone =>
    rw [htoken]
    dsimp only
    split
    · next hbroken => exact (insertAll_of_broken hbroken).symm
    · rfl

theorem broken_of_recipient {token : Option String} {recipient : Recipient × Option String}
    (htoken : decryptValue env c.tenant.evolutionInstanceToken = some token)
    (h : remindRecipient env logs poll c warningDay b recipient = .error b') : b'.broken = true := by
  unfold remindRecipient at h
  rw [htoken] at h
  cases hphone : recipient.2.filter (· ≠ "") with
  | none =>
    rw [hphone] at h
    cases h
  | some phone =>
    rw [hphone] at h
    dsimp only at h
    split at h
    · next hbroken =>
      cases h
      exact hbroken
    · cases h

theorem broken_of_day {token : Option String}
    (htoken : decryptValue env c.tenant.evolutionInstanceToken = some token)
    (h : remindDay env logs poll c b warningDay = .error b') : b'.broken = true := by
  unfold remindDay at h
  split at h
  · cases h
  · split at h
    · next hbroken =>
      cases h
      exact hbroken
    · obtain ⟨recipient, -, before, hrecipient⟩ := error_of_foldlM h
      exact broken_of_recipient htoken hrecipient

theorem stop_day {token : Option String}
    (htoken : decryptValue env c.tenant.evolutionInstanceToken = some token) :
    stop (remindDay env logs poll c b warningDay) =
      b.insertAll Item.key (logged logs) (dueOn poll c token warningDay) := by
  unfold remindDay dueOn
  split
  · rfl
  · split
    · next hbroken => exact (insertAll_of_broken hbroken).symm
    · exact stop_foldlM (fun _ _ _ => stop_recipient htoken)
        fun _ _ _ _ h => Or.inl (broken_of_recipient htoken h)

theorem stop_day_of_none (htoken : decryptValue env c.tenant.evolutionInstanceToken = none) :
    stop (remindDay env logs poll c b warningDay) = b := by
  unfold remindDay
  split
  · rfl
  · split
    · rfl
    · have hnone : c.recipients.flatMap (fun _ => ([] : List Item)) = [] :=
        List.flatMap_eq_nil_iff.mpr fun _ _ => rfl
      have hall : stop (c.recipients.foldlM (remindRecipient env logs poll c warningDay) b) =
          b.insertAll Item.key (logged logs) (c.recipients.flatMap fun _ => []) :=
        stop_foldlM (fun _ _ _ => stop_recipient_of_none htoken)
          fun _ _ _ _ _ => Or.inr fun _ _ => rfl
      rw [hall, hnone, insertAll_nil]

end ReminderLemmas

open ReminderLemmas Batch

theorem stop_remindSubscription :
    stop (remindSubscription env logs poll b sub) =
      b.insertAll Item.key (logged logs) (dueOf env poll sub) := by
  unfold remindSubscription dueOf
  split
  · next hbroken => exact (insertAll_of_broken hbroken).symm
  · cases candidate env poll sub with
    | none => rfl
    | some c =>
      show stop (c.settings.days.foldlM (remindDay env logs poll c) b) =
        b.insertAll Item.key (logged logs) (c.due env poll)
      cases htoken : decryptValue env c.tenant.evolutionInstanceToken with
      | none =>
        have hnone : c.due env poll = c.settings.days.flatMap fun _ => [] := by
          simp [Candidate.due, htoken]
        rw [hnone]
        exact stop_foldlM (fun _ _ _ => stop_day_of_none htoken)
          fun _ _ _ _ _ => Or.inr fun _ _ => rfl
      | some token =>
        rw [due_eq htoken]
        exact stop_foldlM (fun _ _ _ => stop_day htoken)
          fun _ _ _ _ h => Or.inl (broken_of_day htoken h)

namespace ReminderLemmas

theorem stop_of_isolate {result : Except (Batch Item) (Batch Item)} (h : isolate result = some b) :
    stop result = b := by
  cases result with
  | ok _ =>
    cases h
    rfl
  | error _ =>
    rw [isolate] at h
    split at h
    · cases h
    · cases h
      rfl

theorem broken_of_isolate {result : Except (Batch Item) (Batch Item)} (h : isolate result = none) :
    (stop result).broken = true := by
  cases result with
  | ok _ => cases h
  | error _ =>
    rw [isolate] at h
    split at h
    · assumption
    · cases h

variable {subs : List Subscription}

theorem loop_some (h : subs.foldlM (fun b sub => isolate (remindSubscription env logs poll b sub)) b =
    some b') : b' = b.insertAll Item.key (logged logs) (subs.flatMap (dueOf env poll)) := by
  induction subs generalizing b with
  | nil =>
    cases h
    rfl
  | cons sub subs ih =>
    rw [List.foldlM_cons] at h
    obtain ⟨b₁, hfirst, hrest⟩ := Option.bind_eq_some_iff.mp h
    rw [List.flatMap_cons, insertAll_append, ← stop_remindSubscription, stop_of_isolate hfirst]
    exact ih hrest

theorem loop_none (h : subs.foldlM (fun b sub => isolate (remindSubscription env logs poll b sub)) b =
    none) : (b.insertAll Item.key (logged logs) (subs.flatMap (dueOf env poll))).broken = true := by
  induction subs generalizing b with
  | nil => cases h
  | cons sub subs ih =>
    rw [List.foldlM_cons] at h
    rw [List.flatMap_cons, insertAll_append, ← stop_remindSubscription]
    cases hfirst : isolate (remindSubscription env logs poll b sub) with
    | none =>
      rw [insertAll_of_broken (broken_of_isolate hfirst)]
      exact broken_of_isolate hfirst
    | some b₁ =>
      rw [hfirst] at h
      rw [stop_of_isolate hfirst]
      exact ih h

end ReminderLemmas

theorem returned_of_fresh (h : Fresh env logs poll) : returned env logs poll = due env poll := by
  unfold returned generateReminderPayloads
  have hall := insertAll_of_fits h
  split
  · next hempty => simp [due, hempty]
  · cases hloop : poll.page.foldlM
        (fun b sub => isolate (remindSubscription env logs poll b sub)) start with
    | none =>
      have hbroken := loop_none hloop
      rw [← due, hall] at hbroken
      cases hbroken
    | some b =>
      have hb := loop_some hloop
      rw [← due, hall] at hb
      subst hb
      simp

theorem fresh_of_returned {item : Item} (h : item ∈ returned env logs poll) :
    Fresh env logs poll := by
  unfold returned generateReminderPayloads at h
  split at h
  · cases h
  · cases hloop : poll.page.foldlM
        (fun b sub => isolate (remindSubscription env logs poll b sub)) start with
    | none =>
      rw [hloop] at h
      cases h
    | some b =>
      have hb := loop_some hloop
      rw [← due] at hb
      rw [hloop] at h
      cases hbroken : b.broken with
      | false =>
        rw [hb] at hbroken
        exact fits_of_insertAll hbroken
      | true =>
        -- the commit raises, unless there is nothing to commit
        cases hrows : b.rows with
        | nil =>
          simp [hbroken, hrows, guard] at h
          split at h <;> cases h
        | cons first rest => simp [hbroken, hrows] at h

theorem returned_eq :
    returned env logs poll = if Fresh env logs poll then due env poll else [] := by
  split
  · next h => exact returned_of_fresh h
  · next h => exact List.eq_nil_iff_forall_not_mem.mpr fun _ hitem => h (fresh_of_returned hitem)

/-! ## What a due reminder says -/

variable {item : Item}

theorem mem_due : item ∈ due env poll ↔ ∃ sub ∈ poll.page, ∃ c, candidate env poll sub = some c ∧
    item ∈ c.due env poll := by
  unfold due dueOf
  rw [List.mem_flatMap]
  refine exists_congr fun sub => and_congr_right fun _ => ?_
  cases candidate env poll sub with
  | none => simp
  | some c => simp

theorem mem_candidate_due : item ∈ c.due env poll ↔ ∃ token day recipient phone,
    decryptValue env c.tenant.evolutionInstanceToken = some token ∧ day ∈ c.settings.days ∧
      computeDaysUntilExpiry c.zone c.sub.expiresAt poll.now = day ∧ recipient ∈ c.recipients ∧
      recipient.2.filter (· ≠ "") = some phone ∧ item = c.item poll token day recipient.1 phone := by
  unfold Candidate.due
  cases decryptValue env c.tenant.evolutionInstanceToken with
  | none => simp
  | some token =>
    simp only [List.mem_flatMap]
    constructor
    · rintro ⟨day, hday, hitem⟩
      split at hitem
      · cases hitem
      · next hdue =>
        obtain ⟨recipient, hrecipient, hphone⟩ := List.mem_flatMap.mp hitem
        rw [Option.mem_toList, Option.map_eq_some_iff] at hphone
        obtain ⟨phone, hphone, rfl⟩ := hphone
        exact ⟨token, day, recipient, phone, rfl, hday, not_not.mp hdue, hrecipient, hphone, rfl⟩
    · rintro ⟨token', day, recipient, phone, htoken, hday, hdue, hrecipient, hphone, rfl⟩
      cases htoken
      refine ⟨day, hday, ?_⟩
      rw [if_neg (not_not.mpr hdue)]
      refine List.mem_flatMap.mpr ⟨recipient, hrecipient, ?_⟩
      rw [hphone]
      simp

theorem candidate_eq_some : candidate env poll sub = some c ↔
    c.sub = sub ∧ poll.rows.tenants sub.tenantId = some c.tenant ∧ c.tenant.plan = "pro" ∧
      poll.rows.settings sub.tenantId = some c.settings ∧ c.settings.remindersEnabled = true ∧
      poll.rows.tenantSettings sub.tenantId = c.tenantSettings ∧
      env.zoneInfo (tzName c.tenantSettings) = some c.zone ∧
      isReminderTimeOk env.zoneInfo poll.now c.settings.reminderTime (tzName c.tenantSettings) =
        true ∧
      sub.client = some c.client := by
  obtain ⟨csub, tenant, settings, tenantSettings, client, zone⟩ := c
  simp only [candidate, Option.bind_eq_bind, Option.bind_eq_some_iff, Option.guard_eq_some', Option.pure_def,
    Option.some.injEq, Candidate.mk.injEq]
  constructor
  · rintro ⟨tenant', htenant, -, hplan, settings', hsettings, -, henabled, zone', hzone, -, htime,
      client', hclient, rfl, rfl, rfl, rfl, rfl, rfl⟩
    exact ⟨rfl, htenant, hplan, hsettings, henabled, rfl, hzone, htime, hclient⟩
  · rintro ⟨rfl, htenant, hplan, hsettings, henabled, rfl, hzone, htime, hclient⟩
    exact ⟨tenant, htenant, (), hplan, settings, hsettings, (), henabled, zone, hzone, (), htime,
      client, hclient, rfl, rfl, rfl, rfl, rfl, rfl⟩

theorem of_mem_page (h : sub ∈ poll.page) : sub ∈ poll.rows.subscriptions.rows ∧
    sub.status = .active ∧ poll.now < sub.expiresAt := by
  have hselected : sub ∈ poll.selected := by
    unfold Poll.page at h
    split at h
    · exact List.mem_of_mem_take h
    · exact h
  have hsorted := List.mem_of_mem_take hselected
  rw [List.mem_insertionSort] at hsorted
  obtain ⟨hmem, hcond⟩ := List.mem_filter.mp hsorted
  simp only [Bool.and_eq_true, decide_eq_true_eq] at hcond
  exact ⟨hmem, hcond.1.1, hcond.1.2⟩

/-! ## Example data -/

def exEnvironment : Environment where
  zoneInfo name := if name = "UTC" then some { offset := fun _ => 0 } else none
  decrypt token := some token

def exTenant : Tenant where
  plan := "pro"
  whatsappPhone := some "525512345678"
  evolutionInstanceName := some "ana"
  evolutionInstanceToken := some "t0"

def exClient : Client where
  fullName := "Luis"
  username := "luis"
  phone := some "525587654321"

def exSubscription : Subscription where
  id := ⟨1⟩
  tenantId := ⟨2⟩
  client := some exClient
  service := some { name := "Netflix" }
  streamingEmail := "ana@example.com"
  expiresAt := 3 * dayLength + 720 * minute
  status := .active

def exSettings : ReminderSettings :=
  { defaultSettings with reminderTime := "00:00", remindersEnabled := true }

def exRows (settings : ReminderSettings) : Rows where
  subscriptions := ⟨[exSubscription], by simp⟩
  settings _ := some settings
  tenants _ := some exTenant
  tenantSettings _ := none

def exPoll (now : Int) : Poll where
  rows := exRows exSettings
  now := now
  cursor := none
  pageSize := 100
  uuid4 _ := ⟨7⟩

def exKey : ReminderKey where
  subscriptionId := ⟨1⟩
  daysBeforeExpiry := 3
  sentForDate := 0
  recipientType := .tenant

example : (returned exEnvironment Table.empty (exPoll 0)).map Item.key = [exKey] := by
  decide +kernel

end Trackpal.Subscriptions

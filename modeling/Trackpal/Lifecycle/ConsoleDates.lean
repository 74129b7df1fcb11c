import Trackpal.Lifecycle.Integrity

/-!
# The expiry dates that the console shows

A tenant creates, reactivates or renews a subscription in the console: the prompt shows a date, and
the confirmation stores an instant. The jobs read the instant in the zone of the tenant. A date is
its day since the epoch.
-/

namespace Trackpal.Lifecycle.ConsoleDates

open Trackpal.Protocol Trackpal.Foundation Trackpal.Subscriptions MutationLemmas IntegrityLemmas

/-! ## Date-times -/

/-- An aware date-time: its instant, and how far its own clock is ahead of UTC. -/
structure Moment where
  instant : Int
  offset : Int
deriving DecidableEq, Repr

namespace Moment

def ofDateTime (dt : DateTime) : Moment := ⟨dt.instant, dt.offset.getD 0⟩

/-- The sum with a `timedelta`, which keeps the offset of a text. -/
def addDays (m : Moment) (days : Int) : Moment := { m with instant := m.instant + days * dayLength }

def formatShortDate (m : Moment) : Int := (m.instant + m.offset) / dayLength

end Moment

/-- `datetime.now(tz)`. -/
structure Now (zone : Zone) where
  time : DateTime
  valid : time.Valid
  offset : time.offset = some (zone.offset time.instant)

/-- `_calculate_subscription_expiry`, which raises for another duration. -/
def calculateSubscriptionExpiry (startsAt : Moment) (durationType : String)
    (customExpiresAt : Option Moment) : Option Moment :=
  if durationType = "custom" then customExpiresAt
  else if durationType = "1_month" then some (startsAt.addDays 30)
  else if durationType = "3_months" then some (startsAt.addDays 90)
  else if durationType = "6_months" then some (startsAt.addDays 180)
  else if durationType = "9_months" then some (startsAt.addDays 270)
  else if durationType = "1_year" then some (startsAt.addDays 365)
  else none

/-- `_parse_iso_date`, for the dates with two digits in the month and in the day. -/
def parseIsoDate (value : String) : Option DateTime := do
  let (year, text) ← readNumeral 10 4 0 (stripBy isSpace value).toList
  let text ← DateTime.expect '-' text
  let (month, text) ← readNumeral 10 2 0 text
  let text ← DateTime.expect '-' text
  let (day, text) ← readNumeral 10 2 0 text
  if text = [] then DateTime.check ⟨year, month, day, 0, 0, 0, 0, some 0⟩ else none

/-! ## The dialogs -/

/-- What a dialog collects of the times; the date-times are texts. -/
structure TempData where
  startsAt : List Char
  durationType : String
  expiresAt : Option (List Char)
deriving DecidableEq

/-- `SUBSCRIPTIONS_DURATION_MAP`. -/
def durationMap (msg : String) : Option String :=
  if msg = "1" then some "1_month"
  else if msg = "2" then some "3_months"
  else if msg = "3" then some "6_months"
  else if msg = "4" then some "9_months"
  else if msg = "5" then some "1_year"
  else if msg = "6" then some "custom"
  else none

/-- The messages for the duration and, where it asks for one, for the date. -/
structure Answers where
  duration : String
  date : String

def collect (startsAt : DateTime) (answers : Answers) : Option TempData := do
  let durationType ← durationMap answers.duration
  if durationType = "custom" then
    let expiresAt ← parseIsoDate answers.date
    some ⟨startsAt.isoformat, durationType, some expiresAt.isoformat⟩
  else some ⟨startsAt.isoformat, durationType, none⟩

/-- The expiry in `_build_subscription_create_confirm` and `_build_subscription_reactivate_confirm`;
the one in `_build_subscription_renew_confirm` starts at the expiry before. -/
def promptExpiry (base : Moment) (data : TempData) : Option Moment :=
  match data.expiresAt with
  | some raw => (DateTime.fromisoformat raw).map .ofDateTime
  | none => calculateSubscriptionExpiry base data.durationType none

def readTime (raw : List Char) : Except Failure DateTime :=
  match DateTime.fromisoformat raw with
  | some dt => .ok dt
  | none => .error (.valueError "Invalid isoformat string")

def readExpiresAt (data : TempData) : Except Failure (Option DateTime) :=
  match data.expiresAt with
  | some raw => (readTime raw).map some
  | none => .ok none

/-- What else a dialog collects for a subscription that it creates. -/
structure Draft where
  clientId : UUID
  serviceId : UUID
  planId : UUID
  streamingEmail : String
  streamingPassword : Option String
  profileName : Option String
  profilePin : Option String

variable (dir : Directory) (fernet : Fernet) (req : Request)

/-- `_handle_subscriptions_create_confirm`, behind the look for a duplicate. -/
def createConfirm (draft : Draft) (data : TempData) : Program Db Failure (Option Subscription) := do
  let startsAt ← liftExcept (readTime data.startsAt)
  let expiresAt ← liftExcept (readExpiresAt data)
  let payload : SubscriptionCreate :=
    { clientId := draft.clientId
      serviceId := draft.serviceId
      planId := draft.planId
      streamingEmail := draft.streamingEmail
      streamingPassword := draft.streamingPassword
      profileName := draft.profileName
      profilePin := draft.profilePin
      durationType := data.durationType
      startsAt := startsAt
      expiresAt := expiresAt }
  liftExcept payload.validate
  createSubscription dir fernet req payload

/-- `_handle_subscriptions_reactivate_confirm`. -/
def reactivateConfirm (subscriptionId : UUID) (data : TempData) :
    Program Db Failure (Option Subscription) := do
  let startsAt ← liftExcept (readTime data.startsAt)
  let expiresAt ← liftExcept (readExpiresAt data)
  reactivateSubscription req subscriptionId data.durationType (some startsAt) expiresAt none

/-- `_handle_subscriptions_renew_confirm`. -/
def renewConfirm (subscriptionId : UUID) (data : TempData) :
    Program Db Failure (Option Subscription) := do
  let expiresAt ← liftExcept (readExpiresAt data)
  renewSubscription req subscriptionId data.durationType expiresAt none

inductive Dialog where
  | create (draft : Draft)
  | reactivate (subscriptionId : UUID)
  | renew (subscriptionId : UUID)

/-- The date-time that a duration is added to; the database returns its timestamps in UTC. -/
def Dialog.base (dialog : Dialog) (tenantId : UUID) (db : Db) (startsAt : DateTime) :
    Option Moment :=
  match dialog with
  | .create _ | .reactivate _ => some (.ofDateTime startsAt)
  | .renew subscriptionId =>
    ((db.subscriptions.get subscriptionId).filter (·.tenantId = tenantId)).map (⟨·.expiresAt, 0⟩)

def Dialog.prompt (dialog : Dialog) (tenantId : UUID) (db : Db) (startsAt : DateTime)
    (answers : Answers) : Option Moment := do
  let base ← dialog.base tenantId db startsAt
  let data ← collect startsAt answers
  promptExpiry base data

def Dialog.confirm (dialog : Dialog) (data : TempData) : Program Db Failure (Option Subscription) :=
  match dialog with
  | .create draft => createConfirm dir fernet req draft data
  | .reactivate subscriptionId => reactivateConfirm req subscriptionId data
  | .renew subscriptionId => renewConfirm req subscriptionId data

def detailDate (sub : Subscription) : Int := Moment.formatShortDate ⟨sub.expiresAt, 0⟩

structure DatesAgree (zone : Zone) (shown : Moment) (sub : Subscription) : Prop where
  prompt : ∀ now, computeDaysUntilExpiry zone sub.expiresAt now =
    shown.formatShortDate - zone.localDate now
  detail : ∀ now, computeDaysUntilExpiry zone sub.expiresAt now =
    detailDate sub - zone.localDate now

def KeepsDate (timeOfDay offset : Int) : Prop :=
  0 ≤ timeOfDay + offset ∧ timeOfDay + offset < dayLength

/-- The offset of the date-time that the duration is added to, and the one of the zone at the end of
the duration, keep the date; for a typed date, the one of the zone at its beginning in UTC. -/
def KeepsDates (zone : Zone) (base : Moment) (answers : Answers) : Prop :=
  match (durationMap answers.duration).bind Lifecycle.durationMap with
  | some days =>
    KeepsDate (base.instant % dayLength) base.offset ∧
      KeepsDate (base.instant % dayLength) (zone.offset (base.instant + days * dayLength))
  | none =>
    ∀ date, parseIsoDate answers.date = some date → KeepsDate 0 (zone.offset date.instant)

variable {dir fernet req} {zone : Zone} {db after : Db} {sub : Subscription} {id : UUID}
  {base shown : Moment} {data : TempData} {answers : Answers} {startsAt date : DateTime}
  {dialog : Dialog} {draft : Draft}

def Stores (calculated : Except Failure Int) (result : Option Subscription) (s : Session Db) :
    Prop :=
  ∀ sub ∈ result, calculated = .ok sub.expiresAt ∧ s.persisted.subscriptions.get sub.id = some sub

namespace ConsoleDatesLemmas

theorem triple_stored {calculated : Except Failure Int} {eventType : EventType}
    {notes errCode : String} {w : Db} (hcalculated : calculated = .ok sub.expiresAt)
    (hget : w.subscriptions.get sub.id = some sub) :
    Triple (Wrote db w) (finish req sub eventType notes errCode) (Stores calculated) (Kept db) := by
  refine Triple.consequence triple_finish (fun _ h => h) ?_ fun _ _ h => h
  rintro _ s ⟨rfl, h⟩ _ ⟨⟩
  rw [h]
  exact ⟨hcalculated, hget⟩

theorem triple_createSubscription {payload : SubscriptionCreate} :
    Triple (Wrote db db) (createSubscription dir fernet req payload)
      (Stores (calculateExpiration (some payload.startsAt.instant) (some payload.durationType)
        (payload.expiresAt.map (·.instant)))) (Kept db) := by
  unfold createSubscription
  refine Triple.bind _ triple_validateIds fun _ => Triple.pull fun _ => ?_
  refine Triple.bind _ triple_raiseIf fun _ => Triple.pull fun _ => ?_
  refine Triple.bind _ triple_liftExcept fun calculated => Triple.pull fun hcalculated => ?_
  refine Triple.bind _ triple_read fun read => Triple.pull fun hread => ?_
  obtain rfl : db = read := hread.symm
  refine Triple.bind _ triple_raiseIf fun _ => Triple.pull fun hnew => ?_
  refine Triple.bind _ triple_change fun _ => Triple.bind _ triple_flush fun _ => ?_
  exact triple_stored hcalculated (Table.get_insert_self (by simpa using hnew))

theorem triple_reactivateSubscription {durationType : String} {startsAt expiresAt : Option DateTime}
    {notes : Option String} :
    Triple (Wrote db db) (reactivateSubscription req id durationType startsAt expiresAt notes)
      (Stores (calculateExpiration (some ((startsAt.map (·.instant)).getD req.now))
        (some durationType) (expiresAt.map (·.instant)))) (Kept db) := by
  unfold reactivateSubscription
  refine Triple.bind _ triple_get fun found => Triple.pull fun hfound => ?_
  cases found with
  | none => exact Triple.pure fun _ _ _ h => nomatch h
  | some sub =>
    obtain ⟨hget, rfl, -⟩ := of_get hfound
    refine Triple.bind _ triple_liftExcept fun calculated => Triple.pull fun hcalculated => ?_
    refine Triple.bind _ triple_change fun _ => ?_
    exact triple_stored hcalculated (get_put_self (by rw [hget]; rfl))

theorem triple_renewSubscription {durationType : String} {expiresAt : Option DateTime}
    {notes : Option String} {row : Subscription}
    (hrow : (db.subscriptions.get id).filter (·.tenantId = req.tenantId) = some row) :
    Triple (Wrote db db) (renewSubscription req id durationType expiresAt notes)
      (Stores (calculateExpiration (some row.expiresAt) (some durationType)
        (expiresAt.map (·.instant)))) (Kept db) := by
  unfold renewSubscription
  refine Triple.bind _ triple_get fun found => Triple.pull fun hfound => ?_
  obtain rfl : found = some row := hfound.trans hrow
  obtain ⟨hget, rfl, -⟩ := of_get hfound
  refine Triple.bind _ triple_liftExcept fun calculated => Triple.pull fun hcalculated => ?_
  refine Triple.bind _ triple_change fun _ => ?_
  exact triple_stored hcalculated (get_put_self (by rw [hget]; rfl))

theorem of_collect (h : collect startsAt answers = some data) :
    data.startsAt = startsAt.isoformat ∧ durationMap answers.duration = some data.durationType ∧
      ((∃ date, data.durationType = "custom" ∧ parseIsoDate answers.date = some date ∧
          data.expiresAt = some date.isoformat) ∨
        data.durationType ≠ "custom" ∧ data.expiresAt = none) := by
  obtain ⟨durationType, hduration, h⟩ := Option.bind_eq_some_iff.mp h
  by_cases hcustom : durationType = "custom"
  · rw [if_pos hcustom] at h
    obtain ⟨date, hdate, h⟩ := Option.bind_eq_some_iff.mp h
    rw [← Option.some.inj h]
    exact ⟨rfl, hduration, .inl ⟨date, hcustom, hdate, rfl⟩⟩
  · rw [if_neg hcustom] at h
    rw [← Option.some.inj h]
    exact ⟨rfl, hduration, .inr ⟨hcustom, rfl⟩⟩

theorem of_parseIsoDate {value : String} (h : parseIsoDate value = some date) :
    date.Valid ∧ date.offset = some 0 ∧ date.instant % dayLength = 0 := by
  unfold parseIsoDate at h
  simp only [Option.bind_eq_bind, Option.bind_eq_some_iff] at h
  obtain ⟨⟨year, _⟩, -, _, -, ⟨month, _⟩, -, _, -, ⟨day, _⟩, -, h⟩ := h
  dsimp only at h
  split_ifs at h
  unfold DateTime.check at h
  split_ifs at h with hvalid
  rw [← Option.some.inj h]
  refine ⟨hvalid, rfl, ?_⟩
  simp only [DateTime.instant, dayLength, minute]
  simp
  omega

theorem calculateExpiration_days {days startsAt : Int} {durationType : String}
    (hcustom : durationType ≠ "custom") (hdays : Lifecycle.durationMap durationType = some days) :
    calculateExpiration (some startsAt) (some durationType) none =
      .ok (startsAt + days * dayLength) := by
  unfold calculateExpiration
  rw [if_neg fun h => hcustom (Option.some.inj h), Option.bind_some, hdays]

theorem calculateSubscriptionExpiry_eq {durationType : String} (hcustom : durationType ≠ "custom") :
    calculateSubscriptionExpiry base durationType none =
      (Lifecycle.durationMap durationType).map base.addDays := by
  unfold calculateSubscriptionExpiry Lifecycle.durationMap
  rw [if_neg hcustom]
  split_ifs <;> rfl

theorem readTime_isoformat {dt : DateTime} (h : dt.Valid) : readTime dt.isoformat = .ok dt := by
  unfold readTime
  rw [DateTime.fromisoformat_isoformat h]

theorem of_prompt (hcollect : collect startsAt answers = some data)
    (hprompt : promptExpiry base data = some shown) :
    ∃ expiresAt, readExpiresAt data = .ok expiresAt ∧
      calculateExpiration (some base.instant) (some data.durationType)
        (expiresAt.map (·.instant)) = .ok shown.instant ∧
      ((∃ date, parseIsoDate answers.date = some date ∧ shown = ⟨date.instant, 0⟩ ∧
          (durationMap answers.duration).bind Lifecycle.durationMap = none) ∨
        ∃ days, shown = base.addDays days ∧
          (durationMap answers.duration).bind Lifecycle.durationMap = some days) := by
  obtain ⟨-, hduration, ⟨date, hcustom, hdate, hdata⟩ | ⟨hcustom, hdata⟩⟩ := of_collect hcollect
  · obtain ⟨hvalid, hoffset, -⟩ := of_parseIsoDate hdate
    have hread : readExpiresAt data = .ok (some date) := by
      unfold readExpiresAt
      rw [hdata]
      dsimp only
      rw [readTime_isoformat hvalid]
      rfl
    have hshown : shown = ⟨date.instant, 0⟩ := by
      unfold promptExpiry at hprompt
      rw [hdata] at hprompt
      dsimp only at hprompt
      rw [DateTime.fromisoformat_isoformat hvalid] at hprompt
      rw [← Option.some.inj hprompt, Moment.ofDateTime, hoffset]
      rfl
    refine ⟨some date, hread, ?_, .inl ⟨date, hdate, hshown, ?_⟩⟩
    · rw [hcustom, hshown]
      rfl
    · rw [hduration, hcustom]
      rfl
  · have hread : readExpiresAt data = .ok none := by
      unfold readExpiresAt
      rw [hdata]
    unfold promptExpiry at hprompt
    rw [hdata] at hprompt
    dsimp only at hprompt
    rw [calculateSubscriptionExpiry_eq hcustom] at hprompt
    obtain ⟨days, hdays, rfl⟩ := Option.map_eq_some_iff.mp hprompt
    refine ⟨none, hread, calculateExpiration_days hcustom hdays, .inr ⟨days, rfl, ?_⟩⟩
    rw [hduration]
    exact hdays

theorem triple_confirm {expiresAt : Option DateTime} {expiry : Int}
    (hbase : dialog.base req.tenantId db startsAt = some base)
    (hstart : readTime data.startsAt = .ok startsAt)
    (hread : readExpiresAt data = .ok expiresAt)
    (hexpiry : calculateExpiration (some base.instant) (some data.durationType)
      (expiresAt.map (·.instant)) = .ok expiry) :
    Triple (Wrote db db) (dialog.confirm dir fernet req data) (Stores (.ok expiry)) (Kept db) := by
  have hstored : ∀ instant, instant = base.instant →
      calculateExpiration (some instant) (some data.durationType) (expiresAt.map (·.instant)) =
        .ok expiry := by
    rintro _ rfl
    exact hexpiry
  cases dialog with
  | create draft =>
    obtain rfl : Moment.ofDateTime startsAt = base := Option.some.inj hbase
    refine Triple.bind _ triple_liftExcept fun start => Triple.pull fun h => ?_
    obtain rfl : startsAt = start := Except.ok.inj (hstart.symm.trans h)
    refine Triple.bind _ triple_liftExcept fun expires => Triple.pull fun h => ?_
    obtain rfl : expiresAt = expires := Except.ok.inj (hread.symm.trans h)
    refine Triple.bind _ triple_liftExcept fun _ => Triple.pull fun _ => ?_
    rw [← hstored _ rfl]
    exact triple_createSubscription
  | reactivate id =>
    obtain rfl : Moment.ofDateTime startsAt = base := Option.some.inj hbase
    refine Triple.bind _ triple_liftExcept fun start => Triple.pull fun h => ?_
    obtain rfl : startsAt = start := Except.ok.inj (hstart.symm.trans h)
    refine Triple.bind _ triple_liftExcept fun expires => Triple.pull fun h => ?_
    obtain rfl : expiresAt = expires := Except.ok.inj (hread.symm.trans h)
    rw [← hstored _ rfl]
    exact triple_reactivateSubscription
  | renew id =>
    obtain ⟨row, hrow, rfl⟩ := Option.map_eq_some_iff.mp hbase
    refine Triple.bind _ triple_liftExcept fun expires => Triple.pull fun h => ?_
    obtain rfl : expiresAt = expires := Except.ok.inj (hread.symm.trans h)
    rw [← hstored _ rfl]
    exact triple_renewSubscription hrow

theorem date_eq_iff {instant offset : Int} :
    (instant + offset) / dayLength = instant / dayLength ↔
      KeepsDate (instant % dayLength) offset := by
  have hday : dayLength = 86400000000 := rfl
  unfold KeepsDate
  rw [hday]
  omega

theorem timeOfDay_addDays {instant days : Int} :
    (instant + days * dayLength) % dayLength = instant % dayLength :=
  Int.add_mul_emod_self_right ..

theorem datesAgree_iff (hinstant : sub.expiresAt = shown.instant) :
    DatesAgree zone shown sub ↔
      KeepsDate (shown.instant % dayLength) shown.offset ∧
        KeepsDate (shown.instant % dayLength) (zone.offset shown.instant) := by
  have hlocal : zone.localDate sub.expiresAt =
      (shown.instant + zone.offset shown.instant) / dayLength := by
    rw [hinstant]
    rfl
  have hdetail : detailDate sub = shown.instant / dayLength := by
    unfold detailDate Moment.formatShortDate
    rw [hinstant, Int.add_zero]
  have hprompt : shown.formatShortDate = (shown.instant + shown.offset) / dayLength := rfl
  rw [← date_eq_iff, ← date_eq_iff]
  constructor
  · rintro ⟨hpromptAgrees, hdetailAgrees⟩
    have hp := hpromptAgrees 0
    have hd := hdetailAgrees 0
    unfold computeDaysUntilExpiry at hp hd
    rw [hlocal, hprompt] at hp
    rw [hlocal, hdetail] at hd
    omega
  · rintro ⟨hp, hd⟩
    refine ⟨fun now => ?_, fun now => ?_⟩ <;> unfold computeDaysUntilExpiry
    · rw [hlocal, hprompt]
      omega
    · rw [hlocal, hdetail]
      omega

end ConsoleDatesLemmas

open ConsoleDatesLemmas

/-- The dates of the prompt and of the detail are the day that the jobs count to exactly if the
offsets keep the date of UTC. -/
theorem dates_agree_iff (dir : Directory) (fernet : Fernet) {req : Request} (now : Now zone)
    {dialog : Dialog} {answers : Answers}
    (hbase : dialog.base req.tenantId db now.time = some base)
    (hcollect : collect now.time answers = some data)
    (hshown : dialog.prompt req.tenantId db now.time answers = some shown)
    (hrun : (dialog.confirm dir fernet req data).run db = (.ok (some sub), after)) :
    after.subscriptions.get sub.id = some sub ∧ sub.expiresAt = shown.instant ∧
      (DatesAgree zone shown sub ↔ KeepsDates zone base answers) := by
  have hprompt : promptExpiry base data = some shown := by
    unfold Dialog.prompt at hshown
    rwa [hbase, Option.bind_eq_bind, Option.bind_some, hcollect, Option.bind_eq_bind,
      Option.bind_some] at hshown
  obtain ⟨expiresAt, hread, hexpiry, hcases⟩ := of_prompt hcollect hprompt
  have hstart : readTime data.startsAt = .ok now.time := by
    rw [(of_collect hcollect).1]
    exact readTime_isoformat now.valid
  have hstores : Triple (· = .start db) (dialog.confirm dir fernet req data)
      (Stores (.ok shown.instant)) (Kept db) :=
    Triple.consequence (triple_confirm hbase hstart hread hexpiry)
      (fun s h => by rw [h]; exact ⟨rfl, rfl⟩) (fun _ _ h => h) fun _ _ h => h
  obtain ⟨s, rfl, hstored⟩ := hstores.run.1 _ _ hrun
  obtain ⟨hinstant, hget⟩ := hstored sub rfl
  have hinstant : sub.expiresAt = shown.instant := (Except.ok.inj hinstant).symm
  refine ⟨hget, hinstant, (datesAgree_iff hinstant).trans ?_⟩
  unfold KeepsDates
  obtain ⟨date, hdate, rfl, hdays⟩ | ⟨days, rfl, hdays⟩ := hcases
  · -- a typed date is at midnight, and the prompt shows it in UTC
    rw [hdays]
    have hmidnight := (of_parseIsoDate hdate).2.2
    simp only [hmidnight]
    constructor
    · rintro ⟨-, h⟩ date' hdate'
      rwa [Option.some.inj (hdate'.symm.trans hdate)]
    · exact fun h => ⟨⟨Int.le_refl 0, by decide⟩, h date hdate⟩
  · rw [hdays]
    simp only [Moment.addDays, timeOfDay_addDays]

def exWest : Zone := ⟨fun _ => -18000000000⟩

def exNow : Now exWest where
  time := { exStart with hour := 7, offset := some (-18000000000) }
  valid := by decide
  offset := rfl

def exTyped : Answers := ⟨"6", "1970-02-01"⟩

def exData : TempData where
  startsAt := exNow.time.isoformat
  durationType := "custom"
  expiresAt := some "1970-02-01T00:00:00+00:00".toList

def exShown : Moment := ⟨31 * dayLength, 0⟩

def exReactivated : Subscription :=
  { exRow with
    durationType := "custom"
    startsAt := 12 * 3600000000
    expiresAt := 31 * dayLength }

theorem collect_exData : collect exNow.time exTyped = some exData := by decide +kernel

theorem prompt_exShown :
    (Dialog.reactivate ⟨1⟩).prompt ⟨2⟩ exDb exNow.time exTyped = some exShown := by decide +kernel

theorem confirm_exReactivated :
    ((Dialog.reactivate ⟨1⟩).confirm exDirectory exFernet exRequest exData).run exDb =
      (.ok (some exReactivated),
        (((Dialog.reactivate ⟨1⟩).confirm exDirectory exFernet exRequest exData).run exDb).2) := by
  refine Prod.ext ?_ rfl
  decide +kernel

/-- The agreement of the dates for the one that was typed. -/
theorem typed_date_agrees_iff :
    DatesAgree exWest exShown exReactivated ↔ KeepsDates exWest (.ofDateTime exNow.time) exTyped :=
  (dates_agree_iff exDirectory exFernet exNow rfl collect_exData prompt_exShown
    confirm_exReactivated).2.2

/-- West of Greenwich, the subscription of a typed date expires the day before for the jobs. -/
theorem typed_date_west :
    exShown.formatShortDate = 31 ∧ detailDate exReactivated = 31 ∧
      exWest.localDate exReactivated.expiresAt = 30 ∧
      ((Dialog.reactivate ⟨1⟩).prompt ⟨2⟩ exDb exNow.time exTyped = some exShown) ∧
      ((((Dialog.reactivate ⟨1⟩).confirm exDirectory exFernet exRequest exData).run exDb
        ).2.subscriptions.get ⟨1⟩) = some exReactivated ∧
      ¬DatesAgree exWest exShown exReactivated := by
  refine ⟨by decide, by decide, by decide, prompt_exShown, by decide +kernel, fun h => ?_⟩
  have hday := h.prompt 0
  revert hday
  decide

end Trackpal.Lifecycle.ConsoleDates

import Trackpal.Foundation.Freshness
import Trackpal.Foundation.Runs

/-!
# The settings cache of the browser

The settings store keeps six resources. An epoch tells the answers to the loads of a former session
from those of the present one; the failures, the updates and the API key do not look at it.
-/

namespace Trackpal.Browser.Settings

open Trackpal.Foundation

/-! ## The store -/

abbrev CallId := Nat

inductive Resource where
  | reminderSettings
  | tenantSettings
  | timezones
  | currencyOptions
  | mailbox
  | publicApiKey
deriving DecidableEq, Repr

/-- Each resource has a value, a flag and a promise. The value is `null`, or `[]` for the time
zones, where it is `none` here. -/
structure SettingsState (Data : Type) where
  value : Resource → Option Data
  loaded : Resource → Bool
  inFlight : Resource → Option CallId
  settingsLoadError : Option String
  settingsEpoch : Nat

variable {Data : Type}

/-- The message for a load that fails, if the store shows one. -/
def fallback : Resource → Option String
  | .reminderSettings => some "Failed to load reminder settings"
  | .tenantSettings => some "Failed to load tenant settings"
  | .publicApiKey => some "Failed to load public API key"
  | .timezones | .currencyOptions | .mailbox => none

namespace SettingsState

def initial (settingsEpoch : Nat) : SettingsState Data :=
  { value := fun _ => none, loaded := fun _ => false, inFlight := fun _ => none,
    settingsLoadError := none, settingsEpoch }

def setValue (c : SettingsState Data) (r : Resource) (value : Option Data) (loaded : Bool) :
    SettingsState Data :=
  { c with value := Function.update c.value r value, loaded := Function.update c.loaded r loaded }

def setInFlight (c : SettingsState Data) (r : Resource) (inFlight : Option CallId) :
    SettingsState Data :=
  { c with inFlight := Function.update c.inFlight r inFlight }

def setError (c : SettingsState Data) (settingsLoadError : Option String) : SettingsState Data :=
  { c with settingsLoadError }

/-- The `try` branch of a load, with the epoch of its start. -/
def loadDone (c : SettingsState Data) (epoch : Nat) (r : Resource) (data : Option Data) :
    SettingsState Data :=
  if c.settingsEpoch = epoch then
    let c := (c.setValue r data true).setInFlight r none
    if (fallback r).isSome then c.setError none else c
  else c

/-- The `catch` branch of a load. -/
def loadFailed (c : SettingsState Data) (r : Resource) (detail : Option String) :
    SettingsState Data :=
  match fallback r with
  | some fallback => (c.setInFlight r none).setError (some (detail.getD fallback))
  | none => (c.setValue r none false).setInFlight r none

def clearSettingsCache (c : SettingsState Data) : SettingsState Data :=
  .initial (c.settingsEpoch + 1)

end SettingsState

/-! ## Its calls -/

inductive Call where
  | load (r : Resource)
  | updateReminderSettings
  | updateTenantSettings
  | savePublicApiKeyOrigins
  | regeneratePublicApiKey
  | revokePublicApiKey
deriving DecidableEq, Repr

def Call.resource : Call → Resource
  | .load r => r
  | .updateReminderSettings => .reminderSettings
  | .updateTenantSettings => .tenantSettings
  | .savePublicApiKeyOrigins | .regeneratePublicApiKey | .revokePublicApiKey => .publicApiKey

def SettingsState.updated (c : SettingsState Data) (data : Option Data) : Call → SettingsState Data
  | .load _ => c
  | .updateReminderSettings => c.setValue .reminderSettings data true
  | .updateTenantSettings => c.setValue .tenantSettings data true
  | .savePublicApiKeyOrigins | .regeneratePublicApiKey =>
    (c.setValue .publicApiKey data true).setInFlight .publicApiKey none
  | .revokePublicApiKey => (c.setValue .publicApiKey none true).setInFlight .publicApiKey none

structure Flight where
  id : CallId
  call : Call
  epoch : Nat
deriving DecidableEq, Repr

/-- The store and its calls. The ledger and the keys that were revoked belong to no variable of the
source. -/
structure State (Data : Type) where
  settings : SettingsState Data
  flights : List Flight
  ledger : Ledger Resource
  revoked : List String

inductive Action (Data : Type) where
  | call (call : Call)
  | respond (i : Nat) (answer : Except (Option String) (Option Data))
  | clearSettingsCache

variable (apiKey : Data → String)

namespace State

def initial : State Data :=
  { settings := .initial 0, flights := [], ledger := .initial, revoked := [] }

/-- A call up to its await. A load that is cached or in flight makes no request. -/
def start (s : State Data) (call : Call) : State Data :=
  let flights := s.flights ++ [⟨s.ledger.now, call, s.settings.settingsEpoch⟩]
  match call with
  | .load r =>
    if s.settings.loaded r ∨ (s.settings.inFlight r).isSome then s
    else
      { s with
        settings := s.settings.setInFlight r s.ledger.now
        flights := flights
        ledger := s.ledger.tick }
  | _ => { s with flights := flights, ledger := s.ledger.tick }

/-- What a call does when it is answered. -/
def land (s : State Data) (flight : Flight) : Except (Option String) (Option Data) → State Data
  | .ok data =>
    match flight.call with
    | .load r =>
      { s with
        settings := s.settings.loadDone flight.epoch r data
        ledger :=
          if s.settings.settingsEpoch = flight.epoch then s.ledger.store r ⟨flight.id, flight.id⟩
          else s.ledger }
    | call =>
      { s with
        settings := s.settings.updated data call
        ledger := s.ledger.renew call.resource flight.id
        revoked :=
          if call = .revokePublicApiKey then
            (s.settings.value .publicApiKey).toList.map apiKey ++ s.revoked
          else s.revoked }
  | .error detail =>
    match flight.call with
    | .load r => { s with settings := s.settings.loadFailed r detail }
    | _ => s

end State

def step (s : State Data) : Action Data → Option (State Data)
  | .call call => some (s.start call)
  | .respond i answer =>
    s.flights[i]?.map fun flight =>
      { s with flights := s.flights.eraseIdx i }.land apiKey flight answer
  | .clearSettingsCache =>
    some { s with settings := s.settings.clearSettingsCache, ledger := s.ledger.clear }

/-- A load of the resource, of the session that goes on. -/
def State.current (s : State Data) (r : Resource) (flight : Flight) : Bool :=
  flight.call = .load r && s.ledger.clearedAt ≤ flight.id

structure Good (s : State Data) : Prop where
  /-- What is cached is noted in the ledger. -/
  noted : ∀ r, s.ledger.held r = none → s.settings.value r = none ∧ s.settings.loaded r = false
  /-- Nothing cached is of a call from before the last clearing, or of a load from before the last
  update. -/
  fresh : s.ledger.Fresh
  /-- At most one load of the session is in flight for a resource. -/
  single : ∀ r, s.flights.countP (s.current r) ≤ 1
  /-- A revoked key is not cached. -/
  key : ∀ data, s.settings.value .publicApiKey = some data → apiKey data ∉ s.revoked

def LateFailureKept (s : State Data) (a : Action Data) (s' : State Data) : Prop :=
  ∀ i detail flight, a = .respond i (.error detail) → s.flights[i]? = some flight →
    flight.id < s.ledger.clearedAt → s'.settings = s.settings

/-- The failure of a load of the resource would change the store. -/
def State.disturbed (s : State Data) (r : Resource) (detail : Option String) : Bool :=
  (s.settings.inFlight r).isSome ||
    match fallback r with
    | some fallback => s.settings.settingsLoadError ≠ some (detail.getD fallback)
    | none => (s.settings.value r).isSome || s.settings.loaded r

/-- The answer would bring back a revoked key. -/
def State.revives (s : State Data) (r : Resource) (data : Option Data) : Bool :=
  r = .publicApiKey && data.any fun data => apiKey data ∈ s.revoked

/-- An update is answered after a clearing, a load after an update, one of the two with a revoked
key, or a load fails after a clearing. -/
def breaksOn (s : State Data) (f : Flight) : Except (Option String) (Option Data) → Bool
  | .ok data =>
    match f.call with
    | .load r =>
      s.ledger.clearedAt ≤ f.id && (f.id < s.ledger.changedAt r || s.revives apiKey r data)
    | .revokePublicApiKey => f.id < s.ledger.clearedAt
    | call => f.id < s.ledger.clearedAt || s.revives apiKey call.resource data
  | .error detail =>
    match f.call with
    | .load r => f.id < s.ledger.clearedAt && s.disturbed r detail
    | _ => false

def breaks (s : State Data) : Action Data → Bool
  | .respond i answer => s.flights[i]?.any fun flight => breaksOn apiKey s flight answer
  | _ => false

/-- What holds besides of every state. -/
structure Tracked (s : State Data) : Prop where
  cleared : s.ledger.clearedAt ≤ s.ledger.now
  started : ∀ f ∈ s.flights, f.id < s.ledger.now
  epoch : ∀ f ∈ s.flights, f.epoch ≤ s.settings.settingsEpoch ∧
    (s.settings.settingsEpoch = f.epoch ↔ s.ledger.clearedAt ≤ f.id)
  joined : ∀ f ∈ s.flights, ∀ r, s.current r f = true → s.settings.inFlight r = some f.id ∨
    r = .publicApiKey ∧ s.settings.loaded .publicApiKey = true

variable {apiKey} {s s' : State Data} {c : SettingsState Data} {a : Action Data} {r r' : Resource}
  {value : Option Data} {data : Option Data} {detail : Option String} {loaded : Bool}
  {call : Call} {epoch id i : Nat} {flight : Flight}

namespace SettingsLemmas

theorem value_setValue (c : SettingsState Data) (r : Resource) (value : Option Data)
    (loaded : Bool) (r' : Resource) :
    (c.setValue r value loaded).value r' = if r' = r then value else c.value r' :=
  Function.update_apply c.value r value r'

theorem loaded_setValue (c : SettingsState Data) (r : Resource) (value : Option Data)
    (loaded : Bool) (r' : Resource) :
    (c.setValue r value loaded).loaded r' = if r' = r then loaded else c.loaded r' :=
  Function.update_apply c.loaded r loaded r'

theorem inFlight_setInFlight {inFlight : Option CallId} :
    (c.setInFlight r inFlight).inFlight r' = if r' = r then inFlight else c.inFlight r' :=
  Function.update_apply c.inFlight r inFlight r'

theorem loadDone_of_eq (h : c.settingsEpoch = epoch) :
    (c.loadDone epoch r data).value = (c.setValue r data true).value ∧
      (c.loadDone epoch r data).loaded = (c.setValue r data true).loaded ∧
      (c.loadDone epoch r data).inFlight = (c.setInFlight r none).inFlight ∧
      (c.loadDone epoch r data).settingsEpoch = c.settingsEpoch := by
  unfold SettingsState.loadDone
  rw [if_pos h]
  dsimp only
  split <;> exact ⟨rfl, rfl, rfl, rfl⟩

theorem loadFailed_parts : (c.loadFailed r detail).inFlight = (c.setInFlight r none).inFlight ∧
    (c.loadFailed r detail).settingsEpoch = c.settingsEpoch ∧
    ∀ r', ((c.loadFailed r detail).value r' = c.value r' ∧
        (c.loadFailed r detail).loaded r' = c.loaded r') ∨
      r' ≠ .publicApiKey ∧ (c.loadFailed r detail).value r' = none ∧
        (c.loadFailed r detail).loaded r' = false := by
  unfold SettingsState.loadFailed
  cases hfallback : fallback r with
  | some message => exact ⟨rfl, rfl, fun r' => Or.inl ⟨rfl, rfl⟩⟩
  | none =>
    refine ⟨rfl, rfl, fun r' => ?_⟩
    have hvalue := value_setValue c r none false r'
    have hloaded := loaded_setValue c r none false r'
    by_cases hr : r' = r
    · rw [if_pos hr] at hvalue hloaded
      refine Or.inr ⟨fun hkey => ?_, hvalue, hloaded⟩
      rw [← hr, hkey] at hfallback
      cases hfallback
    · rw [if_neg hr] at hvalue hloaded
      exact Or.inl ⟨hvalue, hloaded⟩

theorem loadFailed_eq_self :
    s.settings.loadFailed r detail = s.settings ↔ s.disturbed r detail = false := by
  obtain ⟨⟨value, loaded, inFlight, loadError, epoch⟩, flights, ledger, revoked⟩ := s
  unfold SettingsState.loadFailed State.disturbed
  dsimp only
  rw [Bool.or_eq_false_iff, Option.isSome_eq_false_iff, Option.isNone_iff_eq_none]
  cases fallback r with
  | some message =>
    dsimp only [SettingsState.setError, SettingsState.setInFlight]
    rw [SettingsState.mk.injEq, Function.update_eq_self_iff, decide_eq_false_iff_not, not_not]
    exact ⟨fun h => ⟨h.2.2.1.symm, h.2.2.2.1.symm⟩, fun h => ⟨rfl, rfl, h.1.symm, h.2.symm, rfl⟩⟩
  | none =>
    dsimp only [SettingsState.setValue, SettingsState.setInFlight]
    rw [SettingsState.mk.injEq, Function.update_eq_self_iff, Function.update_eq_self_iff,
      Function.update_eq_self_iff, Bool.or_eq_false_iff, Option.isSome_eq_false_iff,
      Option.isNone_iff_eq_none]
    exact ⟨fun h => ⟨h.2.2.1.symm, h.1.symm, h.2.1.symm⟩,
      fun h => ⟨h.2.1.symm, h.2.2.symm, h.1.symm, rfl, rfl⟩⟩

theorem updated_parts (hcall : ∀ r, call ≠ .load r) :
    (∀ r, (c.updated data call).value r = if r = call.resource then
      (if call = .revokePublicApiKey then none else data) else c.value r) ∧
    (∀ r, (c.updated data call).loaded r = if r = call.resource then true else c.loaded r) ∧
    (∀ r, (c.updated data call).inFlight r = c.inFlight r ∨
      r = .publicApiKey ∧ call.resource = .publicApiKey) ∧
    (c.updated data call).settingsEpoch = c.settingsEpoch := by
  have hinFlight : ∀ r, (c.setInFlight .publicApiKey none).inFlight r = c.inFlight r ∨
      r = .publicApiKey := by
    intro r
    rw [inFlight_setInFlight]
    exact (Decidable.em (r = .publicApiKey)).elim Or.inr fun hr => Or.inl (if_neg hr)
  cases call with
  | load r => exact absurd rfl (hcall r)
  | updateReminderSettings | updateTenantSettings =>
    exact ⟨value_setValue c _ data true, loaded_setValue c _ data true, fun r => Or.inl rfl, rfl⟩
  | savePublicApiKeyOrigins | regeneratePublicApiKey =>
    exact ⟨value_setValue c _ data true, loaded_setValue c _ data true,
      fun r => (hinFlight r).imp_right fun hr => ⟨hr, rfl⟩, rfl⟩
  | revokePublicApiKey =>
    exact ⟨value_setValue c _ none true, loaded_setValue c _ none true,
      fun r => (hinFlight r).imp_right fun hr => ⟨hr, rfl⟩, rfl⟩

theorem land_update (hcall : ∀ r, flight.call ≠ .load r) :
    s.land apiKey flight (.ok data) =
      { s with
        settings := s.settings.updated data flight.call
        ledger := s.ledger.renew flight.call.resource flight.id
        revoked :=
          if flight.call = .revokePublicApiKey then
            (s.settings.value .publicApiKey).toList.map apiKey ++ s.revoked
          else s.revoked } := by
  obtain ⟨id, call, epoch⟩ := flight
  cases call with
  | load r => exact absurd rfl (hcall r)
  | _ => rfl

theorem breaksOn_update (hcall : ∀ r, flight.call ≠ .load r) :
    breaksOn apiKey s flight (.ok data) = (decide (flight.id < s.ledger.clearedAt) ||
      (flight.call ≠ .revokePublicApiKey && s.revives apiKey flight.call.resource data)) := by
  obtain ⟨id, call, epoch⟩ := flight
  cases call with
  | load r => exact absurd rfl (hcall r)
  | updateReminderSettings | updateTenantSettings | savePublicApiKeyOrigins
  | regeneratePublicApiKey => rfl
  | revokePublicApiKey => exact (Bool.or_false _).symm

theorem revives_eq_false : s.revives apiKey r data = false ↔
    (r = .publicApiKey → ∀ key, data = some key → apiKey key ∉ s.revoked) := by
  unfold State.revives
  rw [Bool.and_eq_false_iff, decide_eq_false_iff_not, ← imp_iff_not_or]
  cases data <;> simp

theorem single_erase (h : ∀ r, s.flights.countP (s.current r) ≤ 1) :
    ∀ r, (s.flights.eraseIdx i).countP (s.current r) ≤ 1 := fun r =>
  Nat.le_trans countP_eraseIdx_le (h r)

theorem single_append (h : ∀ r, s.flights.countP (s.current r) ≤ 1)
    (hnew : ∀ r, s.current r flight = true → s.flights.countP (s.current r) = 0) :
    ∀ r, (s.flights ++ [flight]).countP (s.current r) ≤ 1 := by
  intro r
  rw [List.countP_append, List.countP_singleton]
  split
  · next hcurrent =>
    have hzero := hnew r hcurrent
    omega
  · exact h r

theorem countP_eq_zero (ht : Tracked s) (hloaded : s.settings.loaded r = false)
    (hinFlight : s.settings.inFlight r = none) : s.flights.countP (s.current r) = 0 := by
  refine List.countP_eq_zero.mpr fun f hf hcurrent => ?_
  obtain hid | ⟨hr, hkey⟩ := ht.joined f hf r hcurrent
  · rw [hinFlight] at hid
    cases hid
  · rw [hr, hkey] at hloaded
    cases hloaded

theorem start_update (hcall : ∀ r, call ≠ .load r) : s.start call =
    { s with
      flights := s.flights ++ [⟨s.ledger.now, call, s.settings.settingsEpoch⟩]
      ledger := s.ledger.tick } := by
  cases call with
  | load r => exact absurd rfl (hcall r)
  | _ => rfl

theorem sound_start (ht : Tracked s) (h : Good apiKey s) :
    Tracked (s.start call) ∧ Good apiKey (s.start call) := by
  have hnew : ∀ f ∈ s.flights ++ [⟨s.ledger.now, call, s.settings.settingsEpoch⟩],
      f ∈ s.flights ∨ f = ⟨s.ledger.now, call, s.settings.settingsEpoch⟩ := fun f hf =>
    (List.mem_append.mp hf).imp_right List.mem_singleton.mp
  have hstarted : ∀ f ∈ s.flights ++ [⟨s.ledger.now, call, s.settings.settingsEpoch⟩],
      f.id < s.ledger.now + 1 := by
    intro f hf
    obtain hf | rfl := hnew f hf
    · exact Nat.lt_succ_of_lt (ht.started f hf)
    · exact Nat.lt_succ_self _
  have hepoch : ∀ f ∈ s.flights ++ [⟨s.ledger.now, call, s.settings.settingsEpoch⟩],
      f.epoch ≤ s.settings.settingsEpoch ∧
        (s.settings.settingsEpoch = f.epoch ↔ s.ledger.clearedAt ≤ f.id) := by
    intro f hf
    obtain hf | rfl := hnew f hf
    · exact ht.epoch f hf
    · exact ⟨Nat.le_refl _, iff_of_true rfl ht.cleared⟩
  have hcurrent : ∀ r, s.current r ⟨s.ledger.now, call, s.settings.settingsEpoch⟩ =
      decide (call = .load r) := by
    intro r
    unfold State.current
    rw [decide_eq_true ht.cleared, Bool.and_true]
  by_cases hcall : ∃ r, call = .load r
  · obtain ⟨r, rfl⟩ := hcall
    unfold State.start
    dsimp only
    split
    · exact ⟨ht, h⟩
    next hrequest =>
    obtain ⟨hloaded, hinFlight⟩ := not_or.mp hrequest
    rw [Bool.not_eq_true] at hloaded
    rw [Option.not_isSome_iff_eq_none] at hinFlight
    have hzero := countP_eq_zero ht hloaded hinFlight
    refine ⟨⟨Nat.le_succ_of_le ht.cleared, hstarted, hepoch, fun f hf r' hf' => ?_⟩,
      h.noted, h.fresh, fun r' => ?_, h.key⟩
    · rw [inFlight_setInFlight]
      obtain hf | rfl := hnew f hf
      · obtain hid | hkey := ht.joined f hf r' hf'
        · refine Or.inl ?_
          rw [if_neg fun hr => ?_]
          · exact hid
          · rw [hr, hinFlight] at hid
            cases hid
        · exact Or.inr hkey
      · have hr : Call.load r = .load r' := of_decide_eq_true ((hcurrent r').symm.trans hf')
        cases hr
        exact Or.inl (if_pos rfl)
    · refine single_append h.single (fun r' hr' => ?_) r'
      have hr : Call.load r = .load r' := of_decide_eq_true ((hcurrent r').symm.trans hr')
      rw [← Call.load.inj hr]
      exact hzero
  · have hcall' : ∀ r, call ≠ .load r := fun r hr => hcall ⟨r, hr⟩
    rw [start_update hcall']
    refine ⟨⟨Nat.le_succ_of_le ht.cleared, hstarted, hepoch, fun f hf r' hf' => ?_⟩,
      h.noted, h.fresh, fun r' => ?_, h.key⟩
    · obtain hf | rfl := hnew f hf
      · exact ht.joined f hf r' hf'
      · exact absurd (of_decide_eq_true ((hcurrent r').symm.trans hf')) (hcall' r')
    · exact single_append h.single (fun r' hr' =>
        absurd (of_decide_eq_true ((hcurrent r').symm.trans hr')) (hcall' r')) r'

theorem good_rest (h : Good apiKey s) : Good apiKey { s with flights := s.flights.eraseIdx i } :=
  ⟨h.noted, h.fresh, single_erase h.single, h.key⟩

theorem good_loadDone (h : Good apiKey s) (hepoch : s.settings.settingsEpoch = epoch)
    (hsince : s.ledger.clearedAt ≤ id) :
    Good apiKey (s.land apiKey ⟨id, .load r, epoch⟩ (.ok data)) ↔
      (decide (id < s.ledger.changedAt r) || s.revives apiKey r data) = false := by
  obtain ⟨hvalue, hloaded, -, -⟩ := @loadDone_of_eq _ _ r data _ hepoch
  have hland : s.land apiKey ⟨id, .load r, epoch⟩ (.ok data) =
      { s with
        settings := s.settings.loadDone epoch r data
        ledger := s.ledger.store r ⟨id, id⟩ } :=
    congrArg (fun ledger => State.mk _ _ ledger _) (if_pos hepoch)
  rw [hland, Bool.or_eq_false_iff, decide_eq_false_iff_not, Nat.not_lt, revives_eq_false]
  constructor
  · intro hgood
    have hfresh := (Ledger.fresh_store h.fresh).mp hgood.fresh
    refine ⟨hfresh.2, fun hr key hkey => hgood.key key ?_⟩
    exact (congrFun hvalue .publicApiKey).trans
      ((value_setValue _ _ _ _ _).trans ((if_pos hr.symm).trans hkey))
  · intro ⟨hchanged, hkey⟩
    refine ⟨fun r' hheld => ?_, ?_, h.single, fun key hheld => ?_⟩
    · have hheld' : (s.ledger.store r ⟨id, id⟩).held r' = none := hheld
      rw [Ledger.held_store] at hheld'
      split at hheld'
      · cases hheld'
      · next hr =>
        obtain ⟨hvalue', hloaded'⟩ := h.noted r' hheld'
        refine ⟨(congrFun hvalue r').trans ?_, (congrFun hloaded r').trans ?_⟩
        · rw [value_setValue, if_neg hr, hvalue']
        · rw [loaded_setValue, if_neg hr, hloaded']
    · exact (Ledger.fresh_store h.fresh).mpr ⟨hsince, hchanged⟩
    · have hheld' : (s.settings.setValue r data true).value .publicApiKey = some key :=
        (congrFun hvalue .publicApiKey).symm.trans hheld
      rw [value_setValue] at hheld'
      split at hheld'
      · next hr => exact hkey hr.symm key hheld'
      · exact h.key key hheld'

theorem good_updated (h : Good apiKey s) (hcall : ∀ r, flight.call ≠ .load r) :
    Good apiKey (s.land apiKey flight (.ok data)) ↔ breaksOn apiKey s flight (.ok data) = false := by
  obtain ⟨hvalue, hloaded, -, -⟩ := @updated_parts _ s.settings data _ hcall
  rw [land_update hcall, breaksOn_update hcall, Bool.or_eq_false_iff, decide_eq_false_iff_not,
    Nat.not_lt, ← Ledger.fresh_renew h.fresh, Bool.and_eq_false_iff, decide_eq_false_iff_not,
    not_not, revives_eq_false]
  constructor
  · intro hgood
    refine ⟨hgood.fresh, ?_⟩
    by_cases hrevoke : flight.call = .revokePublicApiKey
    · exact Or.inl hrevoke
    · refine Or.inr fun hr key hkey => ?_
      have hnot := hgood.key key ?_
      · rw [if_neg hrevoke] at hnot
        exact hnot
      · exact (hvalue _).trans ((if_pos hr.symm).trans ((if_neg hrevoke).trans hkey))
  · intro ⟨hfresh, hkey⟩
    refine ⟨fun r hheld => ?_, hfresh, h.single, fun key hheld => ?_⟩
    · have hheld' : (s.ledger.renew flight.call.resource flight.id).held r = none := hheld
      rw [Ledger.held_renew] at hheld'
      split at hheld'
      · cases hheld'
      · next hr =>
        obtain ⟨hvalue', hloaded'⟩ := h.noted r hheld'
        exact ⟨(hvalue r).trans ((if_neg hr).trans hvalue'),
          (hloaded r).trans ((if_neg hr).trans hloaded')⟩
    · have hheld' := (hvalue .publicApiKey).symm.trans hheld
      dsimp only
      by_cases hr : Resource.publicApiKey = flight.call.resource
      · rw [if_pos hr] at hheld'
        split at hheld'
        · cases hheld'
        · next hrevoke =>
          rw [if_neg hrevoke]
          exact hkey.resolve_left hrevoke hr.symm key hheld'
      · rw [if_neg hr] at hheld'
        have hrevoke : flight.call ≠ .revokePublicApiKey := fun heq => hr (by rw [heq]; rfl)
        rw [if_neg hrevoke]
        exact h.key key hheld'

theorem land_late (hepoch : s.settings.settingsEpoch ≠ epoch) :
    s.land apiKey ⟨id, .load r, epoch⟩ (.ok data) = s := by
  unfold State.land SettingsState.loadDone
  dsimp only
  rw [if_neg hepoch, if_neg hepoch]

theorem good_done (h : Good apiKey s)
    (hepoch : s.settings.settingsEpoch = flight.epoch ↔ s.ledger.clearedAt ≤ flight.id) :
    Good apiKey (s.land apiKey flight (.ok data)) ↔
      breaksOn apiKey s flight (.ok data) = false := by
  by_cases hcall : ∃ r, flight.call = .load r
  · obtain ⟨id, call, epoch⟩ := flight
    obtain ⟨r, rfl⟩ : ∃ r, call = .load r := hcall
    unfold breaksOn
    dsimp only at hepoch ⊢
    by_cases hsame : s.settings.settingsEpoch = epoch
    · rw [decide_eq_true (hepoch.mp hsame), Bool.true_and]
      exact good_loadDone h hsame (hepoch.mp hsame)
    · rw [decide_eq_false fun hsince => hsame (hepoch.mpr hsince), Bool.false_and,
        land_late hsame]
      exact iff_of_true h rfl
  · exact good_updated h fun r hr => hcall ⟨r, hr⟩

theorem good_failed (h : Good apiKey s) : Good apiKey (s.land apiKey flight (.error detail)) := by
  obtain ⟨id, call, epoch⟩ := flight
  cases call with
  | load r =>
    obtain ⟨-, -, hvalue⟩ := @loadFailed_parts _ s.settings r detail
    refine ⟨fun r' hheld => ?_, h.fresh, h.single, fun key hheld => ?_⟩
    · obtain ⟨hsame, hloaded⟩ | ⟨-, hnone⟩ := hvalue r'
      · exact (h.noted r' hheld).imp hsame.trans hloaded.trans
      · exact hnone
    · obtain ⟨hsame, -⟩ | ⟨hne, -⟩ := hvalue .publicApiKey
      · exact h.key key (hsame.symm.trans hheld)
      · exact absurd rfl hne
  | _ => exact h

theorem land_failed_settings :
    (s.land apiKey flight (.error detail)).settings = s.settings ↔
      ∀ r, flight.call = .load r → s.disturbed r detail = false := by
  obtain ⟨id, call, epoch⟩ := flight
  cases call with
  | load r =>
    refine Iff.trans loadFailed_eq_self ?_
    exact ⟨fun h r' hr' => Call.load.inj hr' ▸ h, fun h => h r rfl⟩
  | _ => exact iff_of_true rfl fun r hr => nomatch hr

theorem breaksOn_failed : breaksOn apiKey s flight (.error detail) = false ↔
    (flight.id < s.ledger.clearedAt → ∀ r, flight.call = .load r →
      s.disturbed r detail = false) := by
  obtain ⟨id, call, epoch⟩ := flight
  unfold breaksOn
  dsimp only
  cases call with
  | load r =>
    dsimp only
    rw [Bool.and_eq_false_iff, decide_eq_false_iff_not, ← imp_iff_not_or]
    exact ⟨fun h hlate r' hr' => Call.load.inj hr' ▸ h hlate, fun h hlate => h hlate r rfl⟩
  | _ => exact iff_of_true rfl fun _ r hr => nomatch hr

end SettingsLemmas

open SettingsLemmas

theorem good_step (ht : Tracked s) (h : Good apiKey s) (hstep : step apiKey s a = some s') :
    Good apiKey s' ∧ LateFailureKept s a s' ↔ breaks apiKey s a = false := by
  cases a with
  | call call =>
    rw [← Option.some.inj hstep]
    exact iff_of_true ⟨(sound_start ht h).2, fun i detail flight haction => nomatch haction⟩ rfl
  | clearSettingsCache =>
    rw [← Option.some.inj hstep]
    refine iff_of_true ⟨⟨fun r _ => ⟨rfl, rfl⟩, Ledger.fresh_clear, fun r => ?_,
      fun key hheld => nomatch hheld⟩, fun i detail flight haction => nomatch haction⟩ rfl
    refine Nat.le_trans (Nat.le_of_eq (List.countP_eq_zero.mpr fun f hf => ?_)) (Nat.zero_le 1)
    have hid : ¬s.ledger.now ≤ f.id := Nat.not_le.mpr (ht.started f hf)
    simp [State.current, Ledger.clear, hid]
  | respond i answer =>
    obtain ⟨flight, hflight, hland⟩ := Option.map_eq_some_iff.mp hstep
    have hbreaks : breaks apiKey s (.respond i answer) = breaksOn apiKey s flight answer := by
      unfold breaks
      dsimp only
      rw [hflight, Option.any_some]
    rw [hbreaks, ← hland]
    have hrest : Good apiKey { s with flights := s.flights.eraseIdx i } := good_rest h
    have hepoch := (ht.epoch flight (List.mem_of_getElem? hflight)).2
    cases answer with
    | ok data =>
      have hdone := @good_done _ _ _ data flight hrest hepoch
      have hkept : LateFailureKept s (.respond i (.ok data))
          ({ s with flights := s.flights.eraseIdx i }.land apiKey flight (.ok data)) :=
        fun j detail flight' haction => by cases haction
      exact (and_iff_left hkept).trans hdone
    | error detail =>
      rw [and_iff_right (good_failed hrest), breaksOn_failed]
      have hkept := @land_failed_settings _ apiKey { s with flights := s.flights.eraseIdx i } detail flight
      constructor
      · intro hlate hid
        exact hkept.mp (hlate i detail flight rfl hflight hid)
      · intro hok j detail' flight' haction hflight' hid
        cases haction
        rw [hflight] at hflight'
        cases hflight'
        exact hkept.mpr (hok hid)

namespace SettingsLemmas

theorem tracked_rest (ht : Tracked s) : Tracked { s with flights := s.flights.eraseIdx i } :=
  ⟨ht.1, fun f hf => ht.2 f (List.mem_of_mem_eraseIdx hf),
    fun f hf => ht.3 f (List.mem_of_mem_eraseIdx hf),
    fun f hf => ht.4 f (List.mem_of_mem_eraseIdx hf)⟩

theorem tracked_of_joined {settings : SettingsState Data} {ledger : Ledger Resource}
    {revoked : List String} (ht : Tracked s)
    (hsettings : settings.settingsEpoch = s.settings.settingsEpoch)
    (hledger : ledger.now = s.ledger.now ∧ ledger.clearedAt = s.ledger.clearedAt)
    (hloaded : s.settings.loaded .publicApiKey = true → settings.loaded .publicApiKey = true)
    (hjoined : ∀ r, settings.inFlight r = s.settings.inFlight r ∨
      r = .publicApiKey ∧ settings.loaded .publicApiKey = true ∨
      (s.flights.eraseIdx i).countP (s.current r) = 0) :
    Tracked ⟨settings, s.flights.eraseIdx i, ledger, revoked⟩ := by
  obtain ⟨hnow, hcleared⟩ := hledger
  refine ⟨?_, fun f hf => ?_, fun f hf => ?_, fun f hf r hcurrent => ?_⟩
  · dsimp only
    rw [hnow, hcleared]
    exact ht.cleared
  · dsimp only
    rw [hnow]
    exact ht.started f (List.mem_of_mem_eraseIdx hf)
  · dsimp only
    rw [hsettings, hcleared]
    exact ht.epoch f (List.mem_of_mem_eraseIdx hf)
  · unfold State.current at hcurrent
    dsimp only at hcurrent ⊢
    rw [hcleared] at hcurrent
    obtain hsame | hkey | hzero := hjoined r
    · rw [hsame]
      exact (ht.joined f (List.mem_of_mem_eraseIdx hf) r hcurrent).imp_right (And.imp_right hloaded)
    · exact Or.inr hkey
    · exact absurd hcurrent (List.countP_eq_zero.mp hzero f hf)

theorem joined_setInFlight (h : Good apiKey s) (hflight : s.flights[i]? = some ⟨id, .load r, epoch⟩)
    (hsince : s.ledger.clearedAt ≤ id) (r' : Resource) :
    (c.setInFlight r none).inFlight r' = c.inFlight r' ∨
      (s.flights.eraseIdx i).countP (s.current r') = 0 := by
  rw [inFlight_setInFlight]
  by_cases hr : r' = r
  · refine Or.inr (countP_eraseIdx_eq_zero hflight ?_ (h.single r'))
    unfold State.current
    rw [hr, decide_eq_true rfl, decide_eq_true hsince]
    rfl
  · exact Or.inl (if_neg hr)

theorem tracked_done (ht : Tracked s) (h : Good apiKey s) (hflight : s.flights[i]? = some flight) :
    Tracked ({ s with flights := s.flights.eraseIdx i }.land apiKey flight (.ok data)) := by
  have hepoch := (ht.epoch flight (List.mem_of_getElem? hflight)).2
  by_cases hcall : ∃ r, flight.call = .load r
  · obtain ⟨id, call, epoch⟩ := flight
    obtain ⟨r, rfl⟩ : ∃ r, call = .load r := hcall
    by_cases hsame : s.settings.settingsEpoch = epoch
    · obtain ⟨-, hloaded, hinFlight, hsettings⟩ := @loadDone_of_eq _ _ r data _ hsame
      unfold State.land
      dsimp only
      rw [if_pos hsame]
      refine tracked_of_joined ht hsettings ⟨rfl, rfl⟩ (fun hkey => ?_) fun r' => ?_
      · rw [hloaded, loaded_setValue]
        split
        · rfl
        · exact hkey
      · rw [hinFlight]
        exact (joined_setInFlight h hflight (hepoch.mp hsame) r').imp_right Or.inr
    · have hland : ({ s with flights := s.flights.eraseIdx i } : State Data).land apiKey
          ⟨id, .load r, epoch⟩ (.ok data) = { s with flights := s.flights.eraseIdx i } :=
        land_late hsame
      rw [hland]
      exact tracked_rest ht
  · have hcall' : ∀ r, flight.call ≠ .load r := fun r hr => hcall ⟨r, hr⟩
    obtain ⟨-, hloaded, hinFlight, hsettings⟩ := @updated_parts _ s.settings data _ hcall'
    rw [land_update hcall']
    refine tracked_of_joined ht hsettings ⟨rfl, rfl⟩ (fun hkey => ?_) fun r => ?_
    · rw [hloaded]
      split
      · rfl
      · exact hkey
    · obtain hsame | ⟨hr, hresource⟩ := hinFlight r
      · exact Or.inl hsame
      · refine Or.inr (Or.inl ⟨hr, ?_⟩)
        rw [hloaded, if_pos hresource.symm]

theorem tracked_failed (ht : Tracked s) (h : Good apiKey s) (hflight : s.flights[i]? = some flight)
    (hok : breaksOn apiKey s flight (.error detail) = false) :
    Tracked ({ s with flights := s.flights.eraseIdx i }.land apiKey flight (.error detail)) := by
  obtain ⟨id, call, epoch⟩ := flight
  cases call with
  | load r =>
    by_cases hlate : id < s.ledger.clearedAt
    · have hsame : s.settings.loadFailed r detail = s.settings :=
        loadFailed_eq_self.mpr (breaksOn_failed.mp hok hlate r rfl)
      unfold State.land
      dsimp only
      rw [hsame]
      exact tracked_rest ht
    · obtain ⟨hinFlight, hsettings, hvalue⟩ :=
        @loadFailed_parts _ s.settings r detail
      refine tracked_of_joined ht hsettings ⟨rfl, rfl⟩ (fun hkey => ?_) fun r' => ?_
      · obtain ⟨-, hloaded⟩ | ⟨hne, -⟩ := hvalue .publicApiKey
        · exact hloaded.trans hkey
        · exact absurd rfl hne
      · rw [hinFlight]
        exact (joined_setInFlight h hflight (Nat.not_lt.mp hlate) r').imp_right Or.inr
  | _ => exact tracked_rest ht

theorem tracked_step (ht : Tracked s) (h : Good apiKey s) (hok : breaks apiKey s a = false)
    (hstep : step apiKey s a = some s') : Tracked s' := by
  cases a with
  | call call =>
    rw [← Option.some.inj hstep]
    exact (sound_start ht h).1
  | clearSettingsCache =>
    rw [← Option.some.inj hstep]
    have hlate : ∀ f ∈ s.flights, ¬s.ledger.now ≤ f.id := fun f hf =>
      Nat.not_le.mpr (ht.started f hf)
    refine ⟨Nat.le_refl _, ht.started, fun f hf => ?_, fun f hf r hcurrent => ?_⟩
    · have hepoch := (ht.epoch f hf).1
      refine ⟨Nat.le_succ_of_le hepoch, iff_of_false (fun heq => ?_) (hlate f hf)⟩
      exact Nat.not_succ_le_self _ (heq ▸ hepoch)
    · have hid : s.ledger.now ≤ f.id :=
        of_decide_eq_true ((Bool.and_eq_true _ _).mp hcurrent).2
      exact absurd hid (hlate f hf)
  | respond i answer =>
    obtain ⟨flight, hflight, hland⟩ := Option.map_eq_some_iff.mp hstep
    rw [← hland]
    cases answer with
    | ok data => exact tracked_done ht h hflight
    | error detail =>
      unfold breaks at hok
      dsimp only at hok
      rw [hflight, Option.any_some] at hok
      exact tracked_failed ht h hflight hok

theorem settings_of_reaches
    (h : Reaches (step apiKey) (fun s a => breaks apiKey s a = false) .initial s) :
    Tracked s ∧ Good apiKey s := by
  refine h.invariant (I := fun s => Tracked s ∧ Good apiKey s) ⟨?_, ?_⟩ ?_
  · exact ⟨Nat.le_refl 0, fun _ hf => absurd hf List.not_mem_nil,
      fun _ hf => absurd hf List.not_mem_nil, fun _ hf => absurd hf List.not_mem_nil⟩
  · exact ⟨fun _ _ => ⟨rfl, rfl⟩, Ledger.fresh_initial, fun _ => Nat.zero_le 1,
      fun _ hheld => nomatch hheld⟩
  · intro s a s' ⟨ht, hgood⟩ hok hstep
    exact ⟨tracked_step ht hgood hok hstep, ((good_step ht hgood hstep).mpr hok).1⟩

end SettingsLemmas

/-- Until an action breaks it, the cache keeps to the session, to the last update and to one load
at a time; such an action ends that. -/
theorem settings_good_iff
    (h : Reaches (step apiKey) (fun s a => breaks apiKey s a = false) .initial s)
    (hstep : step apiKey s a = some s') :
    Good apiKey s ∧ (Good apiKey s' ∧ LateFailureKept s a s' ↔ breaks apiKey s a = false) := by
  obtain ⟨ht, hgood⟩ := settings_of_reaches h
  exact ⟨hgood, good_step ht hgood hstep⟩

/-- Settings are loaded and updated. The cache is cleared with a load of the mailbox in flight, a key
is made and revoked, and the settings and the mailbox are loaded again. -/
def exSaved : List (Action String) :=
  [.call (.load .tenantSettings), .respond 0 (.ok (some "first")), .call .updateTenantSettings,
    .respond 0 (.ok (some "second")), .call (.load .mailbox), .clearSettingsCache,
    .call .regeneratePublicApiKey, .respond 1 (.ok (some "key")), .call .revokePublicApiKey,
    .respond 1 (.ok none), .call (.load .tenantSettings), .call (.load .mailbox)]

/-- The load of the settings may be answered; a failure of the first load of the mailbox would reset
the second one. -/
theorem settings_good_iff_saved : ∃ s loaded failed : State String,
    s.settings.settingsEpoch = 1 ∧ s.revoked = ["key"] ∧
    step (fun key => key) s (.respond 1 (.ok (some "second"))) = some loaded ∧
    step (fun key => key) s (.respond 0 (.error none)) = some failed ∧
    Good (fun key => key) s ∧ Good (fun key => key) loaded ∧
    ¬(Good (fun key => key) failed ∧ LateFailureKept s (.respond 0 (.error none)) failed) := by
  have hexec : (execWhere (step fun key => key) (fun s a => !breaks (fun key => key) s a)
      .initial exSaved).any (fun s : State String =>
        s.settings.settingsEpoch = 1 ∧ s.revoked = ["key"] ∧
          (breaks (fun key => key) s (.respond 1 (.ok (some "second"))) = false ∧
            breaks (fun key => key) s (.respond 0 (.error none)) = true) ∧
          s.flights.map (·.call) =
            [.load .mailbox, .load .tenantSettings, .load .mailbox]) = true := by
    decide +kernel
  obtain ⟨s, hreach, hs⟩ := exists_of_execWhere hexec
  obtain ⟨hepoch, hrevoked, ⟨hloaded, hfailed⟩, hcalls⟩ := of_decide_eq_true hs
  obtain ⟨late, rest, hlate, -, hrest⟩ := List.map_eq_cons_iff.mp hcalls
  obtain ⟨current, others, hcurrent, -, -⟩ := List.map_eq_cons_iff.mp hrest
  have hreach : Reaches (step fun key => key) (fun s a => breaks (fun key => key) s a = false)
      .initial s := hreach.mono fun _ _ hok => by simpa using hok
  have hanswered : step (fun key => key) s (.respond 1 (.ok (some "second"))) = some _ :=
    congrArg (Option.map _) (show s.flights[1]? = some current by rw [hlate, hcurrent]; rfl)
  have hrefused : step (fun key => key) s (.respond 0 (.error none)) = some _ :=
    congrArg (Option.map _) (show s.flights[0]? = some late by rw [hlate]; rfl)
  have hgood := settings_good_iff hreach hanswered
  refine ⟨s, _, _, hepoch, hrevoked, hanswered, hrefused, hgood.1, (hgood.2.mpr hloaded).1,
    fun hkept => ?_⟩
  have hbroken := (settings_good_iff hreach hrefused).2.mp hkept
  rw [hfailed] at hbroken
  cases hbroken

/-- A load that was requested before an update replaces what the update stored. -/
theorem update_lost : ∃ s : State String, Reaches (step fun key => key) Always .initial s ∧
    s.settings.value .tenantSettings = some "old" ∧ ¬Good (fun key => key) s := by
  have htrace : (exec (step fun key => key) (State.initial : State String)
      [.call (.load .tenantSettings), .call .updateTenantSettings, .respond 1 (.ok (some "new")),
        .respond 0 (.ok (some "old"))]).any (fun s : State String =>
          s.settings.value .tenantSettings = some "old" ∧
            s.ledger.held .tenantSettings = some ⟨0, 0⟩ ∧
            s.ledger.changedAt .tenantSettings = 2) = true := by
    decide +kernel
  obtain ⟨s, hexec, hs⟩ := (Option.any_eq_true _ _).mp htrace
  obtain ⟨hvalue, hheld, hchanged⟩ := of_decide_eq_true hs
  refine ⟨s, reaches_of_exec hexec, hvalue, fun hgood => ?_⟩
  have hfresh := (hgood.fresh .tenantSettings _ hheld).2
  rw [hchanged] at hfresh
  exact absurd hfresh (by decide)

end Trackpal.Browser.Settings

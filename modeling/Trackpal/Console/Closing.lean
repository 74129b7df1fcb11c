import Trackpal.Console.Answers

/-!
# The shortcut is closed

A message that cancels closes the shortcut: the record is deleted, the response lists the chats to
close, and no later message is read under the record. The dispatcher tests for it behind the
subscription flow and behind the discovery of a client.
-/

namespace Trackpal.Console.Shortcut

open Trackpal.Foundation

def ownSteps : Kind → Step → Bool
  | .active, step => step ∈ activeSteps
  | .inactive, step => step ∈ inactiveSteps
  | .ambiguous, _ => false
  | .unregistered, step => step ≠ .subscriptionActive

def Action.opens : Action → Bool
  | .start .. => true
  | _ => false

/-- What the answer to a cancel leaves: a response that lists the chats of the admin and of the
target, no record, and nothing to read a later message under, as long as none is opened. -/
structure Closed (lib : Library) (tenantId : Nat) (data : Context) (result : Outcome × Store) :
    Prop where
  response : ∃ response, result.1 = .response response ∧ response.closed = true ∧
    response.closeJids = clientContextCloseJids data.temp.targetPhone data.temp.targetJid
      (some data.temp.adminJid) ∧
    (∀ jid, jid ≠ "" → canonicalJid (some data.temp.adminJid) = some jid →
      jid ∈ response.closeJids) ∧
    ∀ jid, jid ≠ "" → canonicalJid data.temp.targetJid = some jid → jid ∈ response.closeJids
  cleared : result.2.context = none
  later : ∀ actions s turn text, (∀ a ∈ actions, Action.opens a = false) →
    exec (step lib tenantId) ⟨result.2, none⟩ actions = some s →
    handleActiveClientContext lib tenantId turn s.store text = (.fallThrough, s.store)

variable {lib : Library} {tenantId : Nat} {turn : Turn} {store : Store} {data : Context}
  {text : String}

namespace ClosingLemmas

open AnswersLemmas

theorem cancel_words : ∀ word ∈ "0" :: cancelAliases, isCancel word = true ∧
    word ≠ "1" ∧ word ≠ "2" ∧ word ≠ "3" ∧ word ≠ "4" ∧ word ≠ "5" := by
  decide

theorem clean_of_isCancel (h : isCancel text = true) : clean text ∈ "0" :: cancelAliases := by
  unfold isCancel at h
  simpa only [Bool.or_eq_true, decide_eq_true_eq, List.mem_cons] using h

theorem handle_of_none (h : store.context = none) :
    handleActiveClientContext lib tenantId turn store text = (.fallThrough, store) := by
  unfold handleActiveClientContext
  rw [h]

theorem context_of_exec {actions : List Action} {s s' : State} (hs : s.store.context = none)
    (hactions : ∀ a ∈ actions, Action.opens a = false)
    (h : exec (step lib tenantId) s actions = some s') : s'.store.context = none := by
  induction actions generalizing s with
  | nil =>
    cases h
    exact hs
  | cons a actions ih =>
    rw [exec_cons] at h
    obtain ⟨s₁, hstep, hrest⟩ := Option.bind_eq_some_iff.mp h
    refine ih ?_ (fun b hb => hactions b (List.mem_cons_of_mem _ hb)) hrest
    cases a with
    | start targetPhone targetLid targetJid adminJid =>
      cases hactions _ List.mem_cons_self
    | message turn text =>
      cases hstep
      rw [handle_of_none hs]
      exact hs
    | expire =>
      cases hstep
      rfl
    | elsewhere db session =>
      cases hstep
      exact hs

theorem closed_closing :
    Closed lib tenantId data (.response (closing data.temp [.closed] []), store.clear) where
  response := ⟨closing data.temp [.closed] [], rfl, rfl, rfl,
    fun _ hne h => mem_closeJids_admin h hne, fun _ hne h => mem_closeJids_target h hne⟩
  cleared := rfl
  later _ _ _ _ hactions hexec := handle_of_none (context_of_exec rfl hactions hexec)

theorem activeClientMenu_of_cancel {client : Client} (h : isCancel text = true) :
    (handleCtxActiveClientMenu tenantId store data client (clean text)).2 = store.save data := by
  obtain ⟨-, h1, h2, h3, h4, h5⟩ := cancel_words _ (clean_of_isCancel h)
  unfold handleCtxActiveClientMenu
  dsimp only
  rw [if_neg h1, if_neg h2, if_neg h3, if_neg h4, if_neg h5]

theorem inactiveClientMenu_of_cancel {client : Client} (h : isCancel text = true) :
    (handleCtxInactiveClientMenu tenantId turn store data client (clean text)).2 =
      store.save data := by
  obtain ⟨-, h1, h2, h3, h4, -⟩ := cancel_words _ (clean_of_isCancel h)
  unfold handleCtxInactiveClientMenu
  dsimp only
  rw [if_neg h1, if_neg h2, if_neg h3, if_neg h4]

theorem route_of_cancel {step : Step} {kind : Kind} {blocked subscribing : Bool} :
    route step kind true blocked subscribing = .close ↔ ownSteps kind step = true := by
  by_cases hsub : step = .subscriptionActive
  · subst hsub
    refine iff_of_false ?_ ?_
    · unfold route
      rw [if_pos rfl]
      split <;> exact fun h => by cases h
    · cases kind <;> decide
  unfold route
  rw [if_neg hsub]
  cases kind with
  | ambiguous => exact iff_of_false (fun h => by cases h) Bool.false_ne_true
  | unregistered => exact iff_of_true rfl (decide_eq_true hsub)
  | active =>
    unfold ownSteps
    by_cases hin : step ∈ activeSteps <;> simp [hin]
  | inactive =>
    unfold ownSteps
    by_cases hin : step ∈ inactiveSteps <;> simp [hin]

theorem routeOf_of_cancel (h : isCancel text = true) :
    routeOf tenantId store data text = .close ↔
      ownSteps (kindOf store.db tenantId (normalizePhone data.temp.targetPhone)) data.step =
        true := by
  unfold routeOf
  rw [(cancel_words _ (clean_of_isCancel h)).1]
  exact route_of_cancel

theorem not_closed_of_save {outcome : Outcome} {data' : Context} :
    ¬Closed lib tenantId data (outcome, store.save data') :=
  fun h => (Option.some_ne_none _) h.cleared

theorem not_closed_of_outcome {outcome : Outcome} (h : ∀ response, outcome ≠ .response response) :
    ¬Closed lib tenantId data (outcome, store) :=
  fun hclosed => by
    obtain ⟨response, heq, -⟩ := hclosed.response
    exact h response heq

end ClosingLemmas

open ClosingLemmas AnswersLemmas

/-- A cancel closes the shortcut if and only if the step is one of a dialog about a target of its
kind: not that of the subscription flow, nor one that is left for the menu of a client that is
found. -/
theorem closed_iff (lib : Library) (tenantId : Nat) (turn : Turn) (store : Store) (data : Context)
    (text : String) (hctx : store.context = some data) (hcancel : isCancel text = true) :
    Closed lib tenantId data (handleActiveClientContext lib tenantId turn store text) ↔
      ownSteps (kindOf store.db tenantId (normalizePhone data.temp.targetPhone)) data.step =
        true := by
  rw [← routeOf_of_cancel hcancel]
  unfold handleActiveClientContext
  rw [hctx]
  dsimp only
  cases hroute : routeOf tenantId store data text with
  | close => exact iff_of_true closed_closing rfl
  | handler handler =>
    have hnone := (of_route hroute).2.2.1
    rw [(cancel_words _ (clean_of_isCancel hcancel)).1] at hnone
    cases hnone
  | reset first handler =>
    refine iff_of_false (fun h => ?_) fun h => by cases h
    have hcleared := h.cleared
    dsimp only at hcleared
    obtain ⟨hkind, rfl, rfl⟩ | ⟨hkind, rfl, rfl⟩ := of_route_reset hroute
    · obtain ⟨phone, client, hphone, hactive⟩ := registration_of_active hkind
      rw [hphone, hactive, clientOf, runHandler, forClient,
        activeClientMenu_of_cancel hcancel] at hcleared
      cases hcleared
    · obtain ⟨phone, client, hphone, hinactive⟩ := registration_of_inactive hkind
      rw [hphone, hinactive, clientOf, runHandler, forClient,
        inactiveClientMenu_of_cancel hcancel] at hcleared
      cases hcleared
  | finished =>
    refine iff_of_false (fun h => ?_) fun h => by cases h
    dsimp only at h
    split at h
    · exact not_closed_of_save h
    · exact not_closed_of_save h
    · have hcleared := h.cleared
      rw [activeClientMenu_of_cancel hcancel] at hcleared
      cases hcleared
  | console | clear | raise =>
    exact iff_of_false (not_closed_of_outcome fun _ h => by cases h) fun h => by cases h

/-- The first menu of a contact that is not registered. -/
theorem closed_iff_unregistered : isCancel "0" = true ∧
    Closed exLibrary 2
      (opened (some "34600111222") none none "34600999888@s.whatsapp.net" none)
      (handleActiveClientContext exLibrary 2 exTurn ⟨exDatabase,
        some (opened (some "34600111222") none none "34600999888@s.whatsapp.net" none), none, 0⟩
        "0") := by
  refine ⟨by decide, (closed_iff exLibrary 2 exTurn ⟨exDatabase,
    some (opened (some "34600111222") none none "34600999888@s.whatsapp.net" none), none, 0⟩ _ "0" rfl
    (by decide)).mpr ?_⟩
  decide +kernel

/-- A cancel at the first menu of a client that exists is answered with the menu again. -/
theorem cancel_is_ignored : ∃ s data, exec (step exLibrary 1) exStart [exOpen] = some s ∧
    s.store.context = some data ∧ data.step = .menu ∧ isCancel "0" = true ∧
    ¬Closed exLibrary 1 data (handleActiveClientContext exLibrary 1 exTurn s.store "0") := by
  have hrun : ((exec (step exLibrary 1) exStart [exOpen]).any fun s =>
      s.store.context.any fun data => data.step = .menu &&
        (handleActiveClientContext exLibrary 1 exTurn s.store "0").2.context.isSome) = true := by
    decide +kernel
  obtain ⟨s, hexec, hs⟩ := (Option.any_eq_true _ _).mp hrun
  obtain ⟨data, hctx, hdata⟩ := (Option.any_eq_true _ _).mp hs
  rw [Bool.and_eq_true, decide_eq_true_eq] at hdata
  refine ⟨s, data, hexec, hctx, hdata.1, by decide, fun h => ?_⟩
  have hcleared := h.cleared
  rw [Option.isSome_iff_ne_none] at hdata
  exact hdata.2 hcleared

end Trackpal.Console.Shortcut

import Trackpal.Console.Codigo
import Trackpal.Foundation.Paging
import Trackpal.Foundation.Runs

/-!
# The pages of the code services

Both lookup dialogs show the services of a tenant in pages of seven: a service under its number, the
previous page under 8, the next one under 9 and a way out under 0.

Results:
1. `paged_reaches`: the page of a session is there, in every state reached.
2. `honest_iff`.
-/

namespace Trackpal.Console.Codigo

open Trackpal.Foundation

/-! ## Pages -/

/-- What a page shows: the services under their numbers, whether the previous and the next page are
offered, and whether the way out leads to the main menu. -/
structure ServicePage where
  services : List (Nat × String)
  prev : Bool
  next : Bool
  menu : Bool
deriving DecidableEq, Repr

/-- `_build_service_page`, and `_build_unauth_service_page` with `startedFromMenu := false`. -/
def buildServicePage (effectiveKeys : List String) (page : Nat) (startedFromMenu : Bool) :
    ServicePage :=
  let start := page * pageSize
  let stop := min (start + pageSize) effectiveKeys.length
  let pages := totalPages effectiveKeys
  { services := (List.range (stop - start)).filterMap fun i =>
      effectiveKeys[start + i]?.map fun key => (i + 1, key)
    prev := 1 < pages && 0 < page
    next := 1 < pages && page + 1 < pages
    menu := startedFromMenu }

/-! ## Dialogs -/

/-- The ways to a page: a sender who is not an admin, and the admin with a keyword or the menu. -/
inductive Dialog where
  | unauthenticated
  | direct
  | fromMenu
deriving DecidableEq, Repr

namespace Dialog

variable (dialog : Dialog) (turn : Turn) (tenantId : Nat)

/-- A message of the dialog: `entry` tells that a dialog of the admin would begin from the menu. -/
def answer (store : Store) (entry : Bool) (message : String) : Response × Store :=
  match dialog with
  | .unauthenticated => handleUnauthenticatedCodigo turn tenantId store message
  | .direct | .fromMenu => handleTenantCodigo turn tenantId store entry message

def page (session : Session) : ServicePage :=
  buildServicePage session.temp.effectiveKeys session.temp.currentPage (dialog = .fromMenu)

/-- The session is at a page of the dialog. -/
structure At (store : Store) (session : Session) : Prop where
  stored : store.session = some session
  step : session.step = .service
  direct : dialog = .direct → session.temp.startedFromMenu = false
  menu : dialog = .fromMenu → session.temp.startedFromMenu = true

/-- A message, with what else decides on it. -/
structure Action where
  turn : Turn
  entry : Bool
  message : String

def step (store : Store) (action : Action) : Option Store :=
  some (dialog.answer action.turn tenantId store action.entry action.message).2

/-- The stores of a dialog, from one without a session. -/
def Reachable (store : Store) : Prop :=
  ∃ jobs, Reaches (dialog.step tenantId) Always ⟨jobs, none⟩ store

def selected (store : Store) : Option String :=
  store.session.bind fun session =>
    if session.step = .email then session.temp.serviceKey else none

/-- The stores that the inputs shown for the previous and the next page lead to. -/
inductive Navigates (store : Store) : Store → Prop
  | here : Navigates store store
  | prev {store' : Store} {session : Session} {message : String} : Navigates store store' →
      dialog.At store' session → (dialog.page session).prev = true → strip message = "8" →
      Navigates store (dialog.answer turn tenantId store' false message).2
  | next {store' : Store} {session : Session} {message : String} : Navigates store store' →
      dialog.At store' session → (dialog.page session).next = true → strip message = "9" →
      Navigates store (dialog.answer turn tenantId store' false message).2

/-- The page says what its options do, and every service can be chosen. -/
structure Honest (store : Store) (session : Session) : Prop where
  exists_page : session.temp.currentPage < totalPages session.temp.effectiveKeys
  shown : ∀ number key entry message, (number, key) ∈ (dialog.page session).services →
    parseInt (strip message) = some (number : Int) →
    selected (dialog.answer turn tenantId store entry message).2 = some key
  unshown : ∀ (index : Int) entry message,
    (∀ number key, (number, key) ∈ (dialog.page session).services → (number : Int) ≠ index) →
    parseInt (strip message) = some index →
    selected (dialog.answer turn tenantId store entry message).2 = none
  prev : ∀ entry message, (dialog.page session).prev = true → strip message = "8" →
    (dialog.answer turn tenantId store entry message).2.session =
      some { session with
        temp := { session.temp with currentPage := session.temp.currentPage - 1 } }
  next : ∀ entry message, (dialog.page session).next = true → strip message = "9" →
    (dialog.answer turn tenantId store entry message).2.session =
      some { session with
        temp := { session.temp with currentPage := session.temp.currentPage + 1 } }
  -- The main menu is of no use in a chat that the answer closes.
  cancel : ∀ entry message, strip message = "0" →
    (dialog.answer turn tenantId store entry message).2.session = none ∧
      ((dialog.page session).menu = true →
        (dialog.answer turn tenantId store entry message).1.closed = false)
  reachable : ∀ key ∈ session.temp.effectiveKeys, ∃ store' session' number,
    Navigates dialog turn tenantId store store' ∧ dialog.At store' session' ∧
      (number, key) ∈ (dialog.page session').services

end Dialog

/-- The page of a session is there. -/
def Paged (session : Option Session) : Prop :=
  ∀ s, session = some s →
    s.temp.effectiveKeys ≠ [] ∧ s.temp.currentPage < totalPages s.temp.effectiveKeys

variable {dialog : Dialog} {turn : Turn} {tenantId : Nat} {store : Store} {session : Session}
  {msg message : String} {keys : List String}

namespace ServicePagesLemmas

open CodigoLemmas NavigationLemmas

/-! ## Numbers -/

theorem isDecimal_of_decimalValue {c : Char} {digit : Nat} (h : decimalValue c = some digit) :
    isDecimal c = true := by
  unfold decimalValue at h
  obtain ⟨first, hfind, _⟩ := Option.map_eq_some_iff.mp h
  have hrange := List.find?_some hfind
  exact List.any_eq_true.mpr ⟨first, List.mem_of_find?_eq_some hfind, hrange⟩

theorem exists_decimal_of_readNat {text : List Char} {n : Nat} (h : readNat text = some n) :
    ∃ c ∈ text, isDecimal c = true := by
  cases text with
  | nil => cases h
  | cons c rest =>
    obtain ⟨digit, hdigit, _⟩ := Option.bind_eq_some_iff.mp h
    exact ⟨c, List.mem_cons_self, isDecimal_of_decimalValue hdigit⟩

theorem exists_decimal {text : String} {index : Int} (h : parseInt text = some index) :
    ∃ c ∈ text.toList, isDecimal c = true := by
  unfold parseInt at h
  split at h
  · cases h
  have hsub : ∀ c ∈ (text.toList.dropWhile isIntSpace).rdropWhile isIntSpace, c ∈ text.toList :=
    fun c hc => (List.dropWhile_suffix _).subset ((List.rdropWhile_prefix _ _).subset hc)
  unfold readInt at h
  split at h
  · next rest hrest =>
    cases hn : readNat rest with
    | none => simp [hn] at h
    | some n =>
      obtain ⟨c, hc, hdecimal⟩ := exists_decimal_of_readNat hn
      exact ⟨c, hsub c (hrest ▸ List.mem_cons_of_mem _ hc), hdecimal⟩
  · next rest hrest =>
    cases hn : readNat rest with
    | none => simp [hn] at h
    | some n =>
      obtain ⟨c, hc, hdecimal⟩ := exists_decimal_of_readNat hn
      exact ⟨c, hsub c (hrest ▸ List.mem_cons_of_mem _ hc), hdecimal⟩
  · cases hn : readNat ((text.toList.dropWhile isIntSpace).rdropWhile isIntSpace) with
    | none => simp [hn] at h
    | some n =>
      obtain ⟨c, hc, hdecimal⟩ := exists_decimal_of_readNat hn
      exact ⟨c, hsub c hc, hdecimal⟩

theorem digits_spec : (parseInt "0" = some 0 ∧ parseInt "8" = some 8 ∧ parseInt "9" = some 9) ∧
    (strip "0" = "0" ∧ strip "8" = "8" ∧ strip "9" = "9") ∧ lower "0" = "0" ∧ lower "9" = "9" := by
  decide +kernel

theorem strip_of_cancel {index : Int} (h : parseInt (strip message) = some index)
    (hcancel : isCancel message = true) : strip message = "0" := by
  have halias : clean message ∉ cancelAliases := fun hmem =>
    lower_ne_word (exists_decimal h) (words_spec _ (List.mem_append_left _ hmem)) rfl
  unfold isCancel at hcancel
  rw [decide_eq_false halias, Bool.or_false, decide_eq_true_eq] at hcancel
  exact lower_singleton (exists_decimal h) hcancel

theorem isCancel_of_number {index : Int} (h : parseInt (strip message) = some index)
    (hzero : index ≠ 0) : isCancel message = false := by
  by_contra hcancel
  rw [strip_of_cancel h (by simpa using hcancel)] at h
  exact hzero (Option.some.inj (h.symm.trans digits_spec.1.1))

theorem strip_of_back {index : Int} (h : parseInt (strip message) = some index)
    (hback : isBack message = true) : strip message = "9" :=
  lower_singleton (exists_decimal h) (of_decide_eq_true hback)

theorem isBack_of_number {index : Int} (h : parseInt (strip message) = some index)
    (hnine : index ≠ 9) : isBack message = false := by
  by_contra hback
  rw [strip_of_back h (by simpa using hback)] at h
  exact hnine (Option.some.inj (h.symm.trans digits_spec.1.2.2))

/-! ## What a page shows -/

theorem mem_services {page number : Nat} {menu : Bool} {key : String} :
    (number, key) ∈ (buildServicePage keys page menu).services ↔
      0 < number ∧ number ≤ pageSize ∧ keys[page * pageSize + (number - 1)]? = some key := by
  unfold buildServicePage
  simp only [List.mem_filterMap, List.mem_range, Option.map_eq_some_iff, Prod.mk.injEq]
  constructor
  · rintro ⟨i, hi, key, hkey, rfl, rfl⟩
    refine ⟨by omega, by omega, ?_⟩
    rw [Nat.add_sub_cancel]
    exact hkey
  · rintro ⟨hpos, hle, hkey⟩
    obtain ⟨hlt, _⟩ := List.getElem?_eq_some_iff.mp hkey
    refine ⟨number - 1, by omega, key, hkey, by omega, rfl⟩

theorem serviceAt_eq (temp : TempData) {number : Nat} (h : 0 < number) :
    serviceAt temp number = temp.effectiveKeys[temp.currentPage * pageSize + (number - 1)]? := by
  have hcast : (temp.currentPage : Int) * pageSize = ((temp.currentPage * pageSize : Nat) : Int) :=
    (Int.natCast_mul _ _).symm
  unfold serviceAt
  dsimp only
  rw [hcast, if_neg (by omega)]
  congr 1
  omega

/-! ## The page of a session -/

theorem totalPages_eq : totalPages keys = pageCount pageSize keys := rfl

theorem totalPages_pos (h : keys ≠ []) : 0 < totalPages keys := by
  rw [totalPages_eq, lt_pageCount (by decide), Nat.zero_mul]
  exact List.length_pos_iff.mpr h

theorem paged_none : Paged none := fun _ h => nomatch h

theorem paged_of {s : Session} (hkeys : s.temp.effectiveKeys ≠ [])
    (hpage : s.temp.currentPage < totalPages s.temp.effectiveKeys) : Paged (some s) :=
  fun _ hs => Option.some.inj hs ▸ ⟨hkeys, hpage⟩

theorem paged_same {s s' : Session} (h : Paged (some s))
    (hkeys : s'.temp.effectiveKeys = s.temp.effectiveKeys)
    (hpage : s'.temp.currentPage = s.temp.currentPage) : Paged (some s') := by
  obtain ⟨hne, hlt⟩ := h s rfl
  refine paged_of ?_ ?_
  · rw [hkeys]
    exact hne
  · rw [hkeys, hpage]
    exact hlt

theorem paged_begun {entry : Bool} (h : keys ≠ []) : Paged (some (begun keys entry)) :=
  paged_of h (totalPages_pos h)

theorem paged_turnPage {page : Nat} (h : Paged (some session))
    (hpage : page < totalPages session.temp.effectiveKeys) :
    Paged (turnPage store session page).2.session :=
  paged_of (h session rfl).1 hpage

theorem paged_backToServices {result : Response × Store}
    (h : backToServices turn store session = some result) : Paged result.2.session := by
  unfold backToServices at h
  dsimp only at h
  generalize (if session.temp.effectiveKeys = [] then turn.effectiveKeys
    else session.temp.effectiveKeys) = keys at h
  split at h
  · cases h
  · next hkeys =>
    rw [← Option.some.inj h]
    exact paged_of hkeys (totalPages_pos hkeys)

theorem paged_restart : Paged (restart turn store).2.session := by
  unfold restart
  split
  · exact paged_none
  · next hkeys => exact paged_begun hkeys

/-! ## The dialog of a sender -/

theorem paged_unauthService (hstored : store.session = some session) (h : Paged (some session)) :
    Paged (handleUnauthCodigoService store session msg).2.session := by
  have hself : Paged store.session := hstored ▸ h
  unfold handleUnauthCodigoService
  dsimp only
  split
  · exact paged_none
  split
  · exact paged_none
  split
  · exact hself
  split
  · next hnext => exact paged_turnPage h hnext.2.2
  split
  · next hprev =>
    have hlt := (h session rfl).2
    exact paged_turnPage h (by omega)
  split
  · exact hself
  · exact paged_same h rfl rfl

theorem paged_unauthEmail (hstored : store.session = some session) (h : Paged (some session)) :
    Paged (handleUnauthCodigoEmail turn store session msg).2.session := by
  unfold handleUnauthCodigoEmail
  split
  · exact paged_none
  split
  · exact hstored ▸ h
  split
  · exact paged_none
  · exact paged_same h rfl rfl

theorem paged_unauthEmailConfirm (hstored : store.session = some session)
    (h : Paged (some session)) :
    Paged (handleUnauthCodigoEmailConfirm turn tenantId store session msg).2.session := by
  have hself : Paged store.session := hstored ▸ h
  unfold handleUnauthCodigoEmailConfirm
  split
  · exact paged_same h rfl rfl
  split
  · cases hback : backToServices turn store session with
    | none => exact paged_none
    | some result => exact paged_backToServices hback
  split
  · exact paged_none
  split
  · exact hself
  split
  · exact paged_none
  split
  · exact hself
  split
  · exact hself
  · exact paged_same h rfl rfl

theorem paged_unauthResult (hstored : store.session = some session) (h : Paged (some session)) :
    Paged (handleUnauthCodigoResult turn tenantId store session msg).2.session := by
  have hself : Paged store.session := hstored ▸ h
  unfold handleUnauthCodigoResult
  split
  · exact paged_none
  split
  · exact paged_restart
  split
  · exact paged_restart
  split
  · exact hself
  split
  · split
    · exact paged_restart
    split
    · exact paged_none
    split
    · exact paged_restart
    · exact paged_same h rfl rfl
  split
  · exact paged_restart
  split
  · exact paged_none
  · exact hself

theorem paged_unauthenticated (h : Paged store.session) :
    Paged (handleUnauthenticatedCodigo turn tenantId store message).2.session := by
  unfold handleUnauthenticatedCodigo
  dsimp only
  cases hstored : store.session with
  | none =>
    dsimp only
    unfold startUnauthCodigo
    split
    · exact h
    split
    · exact h
    split
    · exact h
    · next hkeys => exact paged_begun hkeys
  | some session =>
    rw [hstored] at h
    dsimp only
    cases session.step with
    | service =>
      dsimp only
      exact paged_unauthService hstored h
    | email =>
      dsimp only
      exact paged_unauthEmail hstored h
    | emailConfirm =>
      dsimp only
      exact paged_unauthEmailConfirm hstored h
    | awaitingResult =>
      dsimp only
      exact paged_unauthResult hstored h

/-! ## The dialog of an admin -/

theorem paged_startCodigoFlow {entry : Bool} (h : Paged store.session) :
    Paged (startCodigoFlow turn store entry).2.session := by
  unfold startCodigoFlow
  split
  · exact h
  split
  · exact h
  · next hkeys => exact paged_begun hkeys

theorem paged_restartTenant : Paged (restartTenant turn store).2.session := by
  unfold restartTenant
  split
  · exact paged_none
  · next hkeys => exact paged_begun hkeys

theorem handleCodigoService_eq (hkeys : session.temp.effectiveKeys ≠ []) :
    handleCodigoService turn store session msg =
      if isCancel msg then (.cancelled, store.clear)
      else if isBack msg then (.cancelled, store.clear)
      else
        match parseInt (strip msg) with
        | none => (.invalidService, store)
        | some index =>
          let pages := totalPages session.temp.effectiveKeys
          if index = 9 ∧ 1 < pages ∧ session.temp.currentPage + 1 < pages then
            (.servicePrompt session.temp.effectiveKeys (session.temp.currentPage + 1),
              (turnPage store session (session.temp.currentPage + 1)).2)
          else if index = 8 ∧ 1 < pages ∧ 0 < session.temp.currentPage then
            (.servicePrompt session.temp.effectiveKeys (session.temp.currentPage - 1),
              (turnPage store session (session.temp.currentPage - 1)).2)
          else if index < 1 ∨ (pageSize : Int) < index then (.invalidService, store)
          else
            match serviceAt session.temp index with
            | none => (.invalidService, store)
            | some serviceKey =>
              (.emailPrompt serviceKey, (chooseService store session serviceKey).2) := by
  obtain ⟨step, effectiveKeys, currentPage⟩ := session
  unfold handleCodigoService
  generalize isCancel msg = cancels, isBack msg = back, parseInt (strip msg) = number
  dsimp only at hkeys ⊢
  rewrite [if_neg hkeys, if_neg hkeys, if_neg hkeys]
  rfl

theorem paged_codigoService (hstored : store.session = some session) (h : Paged (some session)) :
    Paged (handleCodigoService turn store session msg).2.session := by
  have hself : Paged store.session := hstored ▸ h
  rw [handleCodigoService_eq (h session rfl).1]
  split
  · exact paged_none
  split
  · exact paged_none
  split
  · exact hself
  dsimp only
  split
  · next hnext => exact paged_turnPage h hnext.2.2
  split
  · next hprev =>
    have hlt := (h session rfl).2
    exact paged_turnPage h (by omega)
  split
  · exact hself
  split
  · exact hself
  · exact paged_same h rfl rfl

theorem paged_codigoEmail (hstored : store.session = some session) (h : Paged (some session)) :
    Paged (handleCodigoEmail turn store session msg).2.session := by
  unfold handleCodigoEmail
  split
  · exact paged_none
  split
  · exact hstored ▸ h
  split
  · exact paged_none
  · exact paged_same h rfl rfl

theorem paged_codigoEmailConfirm (hstored : store.session = some session)
    (h : Paged (some session)) :
    Paged (handleCodigoEmailConfirm turn store session msg).2.session := by
  unfold handleCodigoEmailConfirm
  split
  · exact paged_same h rfl rfl
  split
  · exact paged_same h rfl rfl
  split
  · cases hback : backToServices turn store session with
    | none => exact paged_none
    | some result => exact paged_backToServices hback
  split
  · exact paged_none
  · exact hstored ▸ h

theorem paged_codigoAwaitingResult (hstored : store.session = some session)
    (h : Paged (some session)) :
    Paged (handleCodigoAwaitingResult turn tenantId store session msg).2.session := by
  unfold handleCodigoAwaitingResult
  split
  · exact paged_none
  split
  · exact paged_startCodigoFlow paged_none
  split
  · split
    · exact paged_same h rfl rfl
    · exact paged_restartTenant
  split
  · exact paged_restartTenant
  split
  · exact paged_none
  · exact hstored ▸ h

theorem paged_processMessage (hstored : store.session = some session) (h : Paged (some session)) :
    Paged (processMessage turn tenantId store session message).2.session := by
  unfold processMessage
  dsimp only
  split
  · exact paged_none
  split
  · exact hstored ▸ h
  unfold routeCodigoFlow
  cases session.step with
  | service =>
    dsimp only
    exact paged_codigoService hstored h
  | email =>
    dsimp only
    exact paged_codigoEmail hstored h
  | emailConfirm =>
    dsimp only
    exact paged_codigoEmailConfirm hstored h
  | awaitingResult =>
    dsimp only
    exact paged_codigoAwaitingResult hstored h

theorem paged_orchestrate {reply : Reply} (h : Paged store.session) :
    Paged (orchestrate turn tenantId store reply).2.session := by
  unfold orchestrate
  cases hstored : store.session with
  | none => exact h
  | some session =>
    rw [hstored] at h
    dsimp only
    split
    · rw [hstored]
      exact h
    split
    · rw [hstored]
      exact h
    · exact paged_same h rfl rfl

theorem paged_tenant {entry : Bool} (h : Paged store.session) :
    Paged (handleTenantCodigo turn tenantId store entry message).2.session := by
  unfold handleTenantCodigo
  cases hstored : store.session with
  | none =>
    dsimp only
    exact paged_orchestrate (paged_startCodigoFlow h)
  | some session =>
    rw [hstored] at h
    dsimp only
    exact paged_orchestrate (paged_processMessage hstored h)

end ServicePagesLemmas

open ServicePagesLemmas

theorem paged_reaches (h : dialog.Reachable tenantId store) : Paged store.session := by
  obtain ⟨jobs, hreaches⟩ := h
  refine hreaches.invariant (I := fun store => Paged store.session) paged_none
    fun s action s' hs _ hstep => ?_
  cases hstep
  cases dialog with
  | unauthenticated => exact paged_unauthenticated hs
  | direct => exact paged_tenant hs
  | fromMenu => exact paged_tenant hs

namespace ServicePagesLemmas

open CodigoLemmas NavigationLemmas

/-! ## What a message does at a page -/

theorem shaped_reaches (h : dialog.Reachable tenantId store) : Shaped store.session := by
  obtain ⟨jobs, hreaches⟩ := h
  refine hreaches.invariant (I := fun store => Shaped store.session) shaped_none
    fun s action s' hs _ hstep => ?_
  have hmoves : ∃ abandoned jobId, Moves tenantId action.turn.newId s abandoned jobId s' := by
    cases hstep
    cases dialog with
    | unauthenticated => exact ⟨_, _, moves_unauthenticated hs⟩
    | direct => exact ⟨_, _, moves_tenant hs⟩
    | fromMenu => exact ⟨_, _, moves_tenant hs⟩
  obtain ⟨_, _, hmoves⟩ := hmoves
  cases hmoves with
  | keeps _ _ hshaped => exact hshaped
  | drops _ _ hshaped => exact hshaped
  | cancels _ _ hshaped => exact hshaped
  | creates _ _ hshaped => exact hshaped

/-- What a number makes of a page: the dialog of an admin has a bound on it. -/
def pick (bounded : Bool) (store : Store) (session : Session) (index : Int) : Store :=
  let pages := totalPages session.temp.effectiveKeys
  if index = 9 ∧ 1 < pages ∧ session.temp.currentPage + 1 < pages then
    (turnPage store session (session.temp.currentPage + 1)).2
  else if index = 8 ∧ 1 < pages ∧ 0 < session.temp.currentPage then
    (turnPage store session (session.temp.currentPage - 1)).2
  else if bounded = true ∧ (index < 1 ∨ (pageSize : Int) < index) then store
  else
    match serviceAt session.temp index with
    | none => store
    | some serviceKey => (chooseService store session serviceKey).2

theorem unauth_number {index : Int} (hat : dialog.At store session)
    (hkeys : session.temp.effectiveKeys ≠ []) (hcancel : isCancel message = false)
    (hnumber : parseInt (strip message) = some index) :
    (handleUnauthenticatedCodigo turn tenantId store message).2 =
      pick false store session index := by
  unfold handleUnauthenticatedCodigo
  rw [hat.stored]
  dsimp only
  rw [hat.step]
  dsimp only
  unfold handleUnauthCodigoService pick
  rw [strip_strip, isCancel_strip, hcancel, hnumber]
  simp only [hkeys, if_false, Bool.false_eq_true, false_and]
  split
  · rfl
  split
  · rfl
  cases serviceAt session.temp index with
  | none => rfl
  | some serviceKey => rfl

theorem quiet_codigoService (hstored : store.session = some session) (hquiet : Quiet session)
    (hkeys : session.temp.effectiveKeys ≠ []) :
    ∀ s, (handleCodigoService turn store session msg).2.session = some s → Quiet s := by
  have hself : ∀ s, store.session = some s → Quiet s := fun s hs =>
    Option.some.inj (hstored.symm.trans hs) ▸ hquiet
  rw [handleCodigoService_eq hkeys]
  split
  · exact fun s hs => nomatch hs
  split
  · exact fun s hs => nomatch hs
  split
  · exact hself
  dsimp only
  split
  · exact fun s hs => Option.some.inj hs ▸ ⟨hquiet.job, hquiet.intent⟩
  split
  · exact fun s hs => Option.some.inj hs ▸ ⟨hquiet.job, hquiet.intent⟩
  split
  · exact hself
  split
  · exact hself
  · exact fun s hs => Option.some.inj hs ▸ ⟨hquiet.job, hquiet.intent⟩

theorem tenant_service {entry : Bool} (hat : dialog.At store session) (hquiet : Quiet session)
    (hkeys : session.temp.effectiveKeys ≠ []) (hcancel : isCancel message = false)
    (hwords : ∀ word ∈ ["menu", "menú", "/menu", "ayuda"], lower (strip message) ≠ word) :
    (handleTenantCodigo turn tenantId store entry message).2 =
      (handleCodigoService turn store session (strip message)).2 := by
  have hmenu : lower (strip message) ∉ ["menu", "menú", "/menu"] := fun hmem =>
    hwords _ (List.mem_append_left ["ayuda"] hmem) rfl
  have hprocess : processMessage turn tenantId store session message =
      handleCodigoService turn store session (strip message) := by
    unfold processMessage routeCodigoFlow
    dsimp only
    rw [isCancel_strip, hcancel, hat.step]
    rw [if_neg fun h => h.2.elim Bool.false_ne_true hmenu,
      if_neg fun h => hwords "ayuda" (by decide) h.2]
  unfold handleTenantCodigo
  rw [hat.stored]
  dsimp only
  rw [hprocess, orchestrate_quiet (quiet_codigoService hat.stored hquiet hkeys)]

theorem tenant_number {index : Int} {entry : Bool} (hat : dialog.At store session)
    (hquiet : Quiet session) (hkeys : session.temp.effectiveKeys ≠ [])
    (hcancel : isCancel message = false) (hback : isBack message = false)
    (hnumber : parseInt (strip message) = some index) :
    (handleTenantCodigo turn tenantId store entry message).2 = pick true store session index := by
  rw [tenant_service hat hquiet hkeys hcancel fun word hword =>
    lower_ne_word (exists_decimal hnumber) (words_spec word (List.mem_append_right _ hword)),
    handleCodigoService_eq hkeys]
  unfold pick
  rw [strip_strip, isCancel_strip, isBack_strip, hcancel, hback, hnumber]
  simp only [if_false, Bool.false_eq_true, true_and]
  split
  · rfl
  split
  · rfl
  split
  · rfl
  cases serviceAt session.temp index with
  | none => rfl
  | some serviceKey => rfl

theorem tenant_back {entry : Bool} (hat : dialog.At store session) (hquiet : Quiet session)
    (hkeys : session.temp.effectiveKeys ≠ [])
    (hmessage : strip message = "9") :
    (handleTenantCodigo turn tenantId store entry message).2.session = none := by
  have hnumber : parseInt (strip message) = some 9 := hmessage ▸ digits_spec.1.2.2
  have hcancel : isCancel message = false := isCancel_of_number hnumber (by decide)
  have hback : isBack message = true := by
    unfold isBack clean
    rw [hmessage, digits_spec.2.2.2]
    rfl
  rw [tenant_service hat hquiet hkeys hcancel fun word hword =>
    lower_ne_word (exists_decimal hnumber) (words_spec word (List.mem_append_right _ hword)),
    handleCodigoService_eq hkeys, isCancel_strip, isBack_strip, hcancel, hback]
  rfl

theorem back_at (turn : Turn) (tenantId : Nat) (entry : Bool) (hat : dialog.At store session)
    (hquiet : Quiet session) (hkeys : session.temp.effectiveKeys ≠ [])
    (hadmin : dialog ≠ .unauthenticated)
    (hmessage : strip message = "9") :
    (dialog.answer turn tenantId store entry message).2.session = none := by
  cases dialog with
  | unauthenticated => exact absurd rfl hadmin
  | direct => exact tenant_back hat hquiet hkeys hmessage
  | fromMenu => exact tenant_back hat hquiet hkeys hmessage

theorem cancel_at (turn : Turn) (tenantId : Nat) (entry : Bool) (hat : dialog.At store session)
    (hkeys : session.temp.effectiveKeys ≠ []) (hmessage : strip message = "0") :
    isCancel message = true ∧
      (dialog.answer turn tenantId store entry message).2.session = none := by
  have hcancel : isCancel message = true := by
    unfold isCancel clean
    rw [hmessage, digits_spec.2.2.1]
    rfl
  have hunauth : (handleUnauthenticatedCodigo turn tenantId store message).2.session = none := by
    unfold handleUnauthenticatedCodigo
    rw [hat.stored]
    dsimp only
    rw [hat.step]
    dsimp only
    unfold handleUnauthCodigoService
    rw [isCancel_strip, hcancel]
    simp only [hkeys, if_false, if_true]
    rfl
  have htenant : (handleTenantCodigo turn tenantId store entry message).2.session = none := by
    unfold handleTenantCodigo processMessage
    rw [hat.stored]
    dsimp only
    rw [isCancel_strip, hcancel, hat.step, if_pos ⟨by decide, Or.inl rfl⟩]
    rfl
  cases dialog with
  | unauthenticated => exact ⟨hcancel, hunauth⟩
  | direct => exact ⟨hcancel, htenant⟩
  | fromMenu => exact ⟨hcancel, htenant⟩

theorem answer_number {index : Int} {entry : Bool} (hat : dialog.At store session)
    (hquiet : Quiet session) (hkeys : session.temp.effectiveKeys ≠ [])
    (hcancel : isCancel message = false)
    (hback : dialog ≠ .unauthenticated → isBack message = false)
    (hnumber : parseInt (strip message) = some index) :
    (dialog.answer turn tenantId store entry message).2 =
      pick (dialog ≠ .unauthenticated) store session index := by
  cases dialog with
  | unauthenticated => exact unauth_number hat hkeys hcancel hnumber
  | direct => exact tenant_number hat hquiet hkeys hcancel (hback (by decide)) hnumber
  | fromMenu => exact tenant_number hat hquiet hkeys hcancel (hback (by decide)) hnumber

theorem selected_of_service (hat : dialog.At store session) : Dialog.selected store = none := by
  unfold Dialog.selected
  rw [hat.stored, Option.bind_some, hat.step]
  rfl

theorem selected_chooseService {serviceKey : String} :
    Dialog.selected (chooseService store session serviceKey).2 = some serviceKey := rfl

/-! ## A single page -/

theorem selected_pick {bounded : Bool} {index : Int} (hat : dialog.At store session)
    (hsingle : session.temp.effectiveKeys.length ≤ pageSize)
    (hfirst : session.temp.currentPage = 0) :
    Dialog.selected (pick bounded store session index) =
      if 0 < index then session.temp.effectiveKeys[index.toNat - 1]? else none := by
  have hpages : ¬1 < totalPages session.temp.effectiveKeys := by
    rw [Nat.not_lt, totalPages_eq, pageCount_le_one (by decide)]
    exact hsingle
  unfold pick
  dsimp only
  rw [if_neg fun h => hpages h.2.1, if_neg fun h => hpages h.2.1]
  by_cases hpos : 0 < index
  · rw [if_pos hpos]
    obtain ⟨number, rfl⟩ := Int.eq_ofNat_of_zero_le hpos.le
    have hnumber : 0 < number := by omega
    rw [serviceAt_eq _ hnumber, hfirst, Nat.zero_mul, Nat.zero_add, Int.toNat_natCast]
    split
    · next hbound =>
      rw [selected_of_service hat, List.getElem?_eq_none (by omega)]
    · cases session.temp.effectiveKeys[number - 1]? with
      | none => exact selected_of_service hat
      | some serviceKey => exact selected_chooseService
  · rw [if_neg hpos]
    have hnone : serviceAt session.temp index = none := by
      unfold serviceAt
      dsimp only
      rw [hfirst, if_pos (by omega)]
    rw [hnone]
    split
    · exact selected_of_service hat
    · exact selected_of_service hat

theorem honest_of_single (hat : dialog.At store session) (hquiet : Quiet session)
    (hkeys : session.temp.effectiveKeys ≠ [])
    (hpage : session.temp.currentPage < totalPages session.temp.effectiveKeys)
    (hsingle : session.temp.effectiveKeys.length ≤ pageSize) (hmenu : dialog ≠ .fromMenu) :
    dialog.Honest turn tenantId store session := by
  have hpages : totalPages session.temp.effectiveKeys ≤ 1 := by
    rw [totalPages_eq, pageCount_le_one (by decide)]
    exact hsingle
  have hfirst : session.temp.currentPage = 0 := by omega
  have hprev : (dialog.page session).prev = false := by
    unfold Dialog.page buildServicePage
    dsimp only
    rw [decide_eq_false (by omega)]
    rfl
  have hnext : (dialog.page session).next = false := by
    unfold Dialog.page buildServicePage
    dsimp only
    rw [decide_eq_false (by omega)]
    rfl
  have hmem : ∀ number key, (number, key) ∈ (dialog.page session).services ↔
      0 < number ∧ number ≤ pageSize ∧ session.temp.effectiveKeys[number - 1]? = some key := by
    intro number key
    unfold Dialog.page
    rw [mem_services, hfirst, Nat.zero_mul, Nat.zero_add]
  refine ⟨hpage, fun number key entry message hshown hnumber => ?_,
    fun index entry message hunshown hnumber => ?_, fun _ _ h => absurd h (by rw [hprev]; decide),
    fun _ _ h => absurd h (by rw [hnext]; decide), fun entry message hzero => ?_,
    fun key hkey => ?_⟩
  · obtain ⟨hpos, hle, hat'⟩ := (hmem number key).mp hshown
    have hle' : number ≤ 7 := hle
    rw [answer_number hat hquiet hkeys (isCancel_of_number hnumber (by omega))
      (fun _ => isBack_of_number hnumber (by omega)) hnumber, selected_pick hat hsingle hfirst,
      if_pos (by omega), Int.toNat_natCast]
    exact hat'
  · by_cases hcancel : isCancel message = true
    · obtain ⟨_, hnone⟩ := cancel_at turn tenantId entry hat hkeys
        (strip_of_cancel hnumber hcancel)
      unfold Dialog.selected
      rw [hnone]
      rfl
    rw [Bool.not_eq_true] at hcancel
    by_cases hback : dialog ≠ .unauthenticated ∧ isBack message = true
    · have hnone := back_at turn tenantId entry hat hquiet hkeys
        hback.1 (strip_of_back hnumber hback.2)
      unfold Dialog.selected
      rw [hnone]
      rfl
    rw [answer_number hat hquiet hkeys hcancel (fun h => by simpa [h] using hback) hnumber,
      selected_pick hat hsingle hfirst]
    split
    · next hpos =>
      cases hget : session.temp.effectiveKeys[index.toNat - 1]? with
      | none => rfl
      | some key =>
        obtain ⟨hlt, _⟩ := List.getElem?_eq_some_iff.mp hget
        have hshown := (hmem index.toNat key).mpr ⟨by omega, by omega, hget⟩
        exact absurd (Int.toNat_of_nonneg hpos.le) (hunshown _ _ hshown)
    · rfl
  · obtain ⟨_, hnone⟩ := cancel_at turn tenantId entry hat hkeys hzero
    have hdirect : (dialog.page session).menu = false := decide_eq_false hmenu
    exact ⟨hnone, fun h => absurd h (by rw [hdirect]; decide)⟩
  · obtain ⟨k, hk, hget⟩ := List.getElem_of_mem hkey
    refine ⟨store, session, k + 1, .here, hat, (hmem _ _).mpr ⟨by omega, by omega, ?_⟩⟩
    rw [Nat.add_sub_cancel, List.getElem?_eq_getElem hk, hget]

/-! ## Several pages -/

theorem reachable_begun (dialog : Dialog) (tenantId : Nat) (hkeys : keys ≠ []) :
    ∃ jobs, dialog.Reachable tenantId ⟨jobs, some (begun keys (dialog = .fromMenu))⟩ ∧
    dialog.At ⟨jobs, some (begun keys (dialog = .fromMenu))⟩ (begun keys (dialog = .fromMenu)) := by
  have hkeyword : lower (strip "codigo") ∈ codigoKeywords := by decide +kernel
  let jobs : Jobs := Table.empty
  let turn : Turn := ⟨true, keys, fun _ => none, 0, true⟩
  let store : Store := ⟨jobs, none⟩
  have hunauth : (handleUnauthenticatedCodigo turn tenantId store "codigo").2 =
      ⟨jobs, some (begun keys false)⟩ := by
    unfold handleUnauthenticatedCodigo startUnauthCodigo
    dsimp only [store]
    rw [if_neg fun h => h hkeyword]
    simp only [turn, hkeys, Bool.not_true, Bool.false_eq_true, if_false]
    rfl
  have htenant : ∀ entry, (handleTenantCodigo turn tenantId store entry "codigo").2 =
      ⟨jobs, some (begun keys entry)⟩ := by
    intro entry
    unfold handleTenantCodigo startCodigoFlow
    dsimp only [store]
    simp only [turn, hkeys, Bool.not_true, Bool.false_eq_true, if_false]
    rfl
  have hstep : (dialog.answer turn tenantId store (dialog = .fromMenu) "codigo").2 =
      ⟨jobs, some (begun keys (dialog = .fromMenu))⟩ := by
    cases dialog with
    | unauthenticated => exact hunauth
    | direct => exact htenant false
    | fromMenu => exact htenant true
  refine ⟨jobs, ⟨jobs, .tail (a := ⟨turn, dialog = .fromMenu, "codigo"⟩) .refl trivial ?_⟩,
    rfl, rfl, ?_, ?_⟩
  · unfold Dialog.step
    rw [← hstep]
  · rintro rfl
    rfl
  · rintro rfl
    rfl

theorem closed_tenant {entry : Bool} :
    (handleTenantCodigo turn tenantId store entry message).1.closed = isCancel message := by
  unfold handleTenantCodigo
  generalize isCancel message = closed
  cases store.session with
  | none => rfl
  | some session => rfl

theorem not_honest_of_menu (hat : Dialog.At .fromMenu store session)
    (hkeys : session.temp.effectiveKeys ≠ []) :
    ¬Dialog.Honest .fromMenu turn tenantId store session := by
  intro hhonest
  have hopen := (hhonest.cancel false "0" digits_spec.2.1.1).2 rfl
  have hclosed : (Dialog.answer .fromMenu turn tenantId store false "0").1.closed = true :=
    closed_tenant.trans (cancel_at turn tenantId false hat hkeys digits_spec.2.1.1).1
  rw [hopen] at hclosed
  cases hclosed

theorem next_begun {menu : Bool} (hlong : pageSize < keys.length) :
    (buildServicePage keys 0 menu).next = true := by
  have hpages : 1 < totalPages keys := by
    rw [totalPages_eq, lt_pageCount (by decide), Nat.one_mul]
    exact hlong
  unfold buildServicePage
  dsimp only
  rw [Nat.zero_add, decide_eq_true hpages]
  rfl

theorem not_honest_of_next (hat : Dialog.At .direct store session) (hquiet : Quiet session)
    (hlong : pageSize < session.temp.effectiveKeys.length) (hfirst : session.temp.currentPage = 0) :
    ¬Dialog.Honest .direct turn tenantId store session := by
  intro hhonest
  have hkeys : session.temp.effectiveKeys ≠ [] := by
    intro h
    rw [h] at hlong
    exact absurd hlong (by decide)
  have hnext : (Dialog.page .direct session).next = true := by
    unfold Dialog.page
    rw [hfirst]
    exact next_begun hlong
  have hstays := hhonest.next false "9" hnext digits_spec.2.1.2.2
  rw [back_at turn tenantId false hat hquiet hkeys (by decide) digits_spec.2.1.2.2] at hstays
  cases hstays

theorem not_honest_of_eight (hat : Dialog.At .unauthenticated store session)
    (hquiet : Quiet session) (hlong : pageSize < session.temp.effectiveKeys.length)
    (hfirst : session.temp.currentPage = 0) :
    ¬Dialog.Honest .unauthenticated turn tenantId store session := by
  intro hhonest
  have hkeys : session.temp.effectiveKeys ≠ [] := by
    intro h
    rw [h] at hlong
    exact absurd hlong (by decide)
  have hnumber : parseInt (strip "8") = some 8 := digits_spec.2.1.2.1 ▸ digits_spec.1.2.1
  have hnone := hhonest.unshown 8 false "8" (fun number key hshown hindex => by
    unfold Dialog.page at hshown
    obtain ⟨_, hle, _⟩ := mem_services.mp hshown
    have hle' : number ≤ 7 := hle
    omega) hnumber
  rw [answer_number hat hquiet hkeys (isCancel_of_number hnumber (by decide))
    (fun h => absurd rfl h) hnumber] at hnone
  have hsome : serviceAt session.temp 8 = some (session.temp.effectiveKeys[7]) := by
    have heq := serviceAt_eq session.temp (by decide : 0 < 8)
    rw [hfirst, Nat.zero_mul, Nat.zero_add] at heq
    exact heq.trans (List.getElem?_eq_getElem hlong)
  unfold pick at hnone
  dsimp only at hnone
  rw [if_neg (fun h => absurd h.1 (by decide)), if_neg (fun h => by omega),
    if_neg (fun h => absurd h.1 (by decide)), hsome] at hnone
  cases hnone

end ServicePagesLemmas

/-- Every option of every page that a dialog can be at does what the page says, exactly if the
services fit on one page and the way out of it is not the main menu. -/
theorem honest_iff (dialog : Dialog) (turn : Turn) (tenantId : Nat) (keys : List String)
    (hkeys : keys ≠ []) :
    (∀ store session, dialog.Reachable tenantId store → dialog.At store session →
        session.temp.effectiveKeys = keys → dialog.Honest turn tenantId store session) ↔
      keys.length ≤ pageSize ∧ dialog ≠ .fromMenu := by
  constructor
  · intro hall
    obtain ⟨jobs, hreachable, hat⟩ := reachable_begun dialog tenantId hkeys
    have hhonest := hall _ _ hreachable hat rfl
    have hmenu : dialog ≠ .fromMenu := by
      rintro rfl
      exact not_honest_of_menu hat hkeys hhonest
    refine ⟨?_, hmenu⟩
    by_contra hlong
    have hlong' : pageSize < keys.length := by omega
    cases dialog with
    | unauthenticated => exact not_honest_of_eight hat ⟨rfl, rfl⟩ hlong' rfl hhonest
    | direct => exact not_honest_of_next hat ⟨rfl, rfl⟩ hlong' rfl hhonest
    | fromMenu => exact hmenu rfl
  · rintro ⟨hsingle, hmenu⟩ store session hreachable hat rfl
    have hpage := (paged_reaches hreachable session hat.stored).2
    have hquiet := CodigoLemmas.quiet_of_shaped hat.stored (shaped_reaches hreachable)
      (by rw [hat.step]; decide)
    exact honest_of_single hat hquiet hkeys hpage hsingle hmenu

def exServices : List String := ["netflix", "disney"]

def exManyServices : List String :=
  ["netflix", "disney", "hbo_max", "prime_video", "spotify", "universal_plus", "max", "crunchyroll"]

def exServicesTurn : Turn := ⟨true, exServices, fun _ => none, 0, true⟩

/-- Both services fit on one page. -/
theorem honest_two_services : exServices ≠ [] ∧
    ((∀ store session, Dialog.direct.Reachable 1 store → Dialog.direct.At store session →
        session.temp.effectiveKeys = exServices →
        Dialog.direct.Honest exServicesTurn 1 store session) ↔
      exServices.length ≤ pageSize ∧ Dialog.direct ≠ .fromMenu) :=
  ⟨by decide, honest_iff .direct exServicesTurn 1 exServices (by decide)⟩

/-- With eight services the nine of the first page ends the dialog of an admin, and its eight
selects a service that the page of a sender does not show. -/
theorem pages_not_honest : ∃ direct unauthenticated : Store,
    Dialog.direct.Reachable 1 direct ∧ Dialog.unauthenticated.Reachable 1 unauthenticated ∧
    direct.session = some (begun exManyServices false) ∧
    unauthenticated.session = some (begun exManyServices false) ∧
    (Dialog.direct.page (begun exManyServices false)).next = true ∧
    (Dialog.direct.answer exServicesTurn 1 direct false "9").2.session = none ∧
    (Dialog.unauthenticated.page (begun exManyServices false)).services.all (·.1 ≠ 8) = true ∧
    Dialog.selected (Dialog.unauthenticated.answer exServicesTurn 1 unauthenticated false "8").2 =
      some "crunchyroll" := by
  obtain ⟨jobs, hdirect, hat⟩ := reachable_begun .direct 1 (by decide : exManyServices ≠ [])
  obtain ⟨jobs', hunauth, hat'⟩ :=
    reachable_begun .unauthenticated 1 (by decide : exManyServices ≠ [])
  refine ⟨_, _, hdirect, hunauth, rfl, rfl, next_begun (by decide), ?_, by decide, ?_⟩
  · exact back_at _ _ _ hat ⟨rfl, rfl⟩ (by decide) (by decide) digits_spec.2.1.2.2
  · have hnumber : parseInt (strip "8") = some 8 := digits_spec.2.1.2.1 ▸ digits_spec.1.2.1
    rw [answer_number hat' ⟨rfl, rfl⟩ (by decide) (isCancel_of_number hnumber (by decide))
      (fun h => absurd rfl h) hnumber]
    rfl

end Trackpal.Console.Codigo

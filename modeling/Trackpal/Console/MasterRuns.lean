import Trackpal.Console.Master
import Trackpal.Foundation.Runs

/-!
# Only an authenticated master acts

The messages of one phone, one after another, while the login, the conversation, the counter of
failures and the lock expire at any moment between them. The history says what was sent and done.

Results:
1. `holds_of_reaches`: the stored login was written by a login of the phone, and the stored
   conversation belongs to the flow that the history shows as open.
2. `only_master_acts`.
-/

namespace Trackpal.Console.Master

open Foundation Accounts MasterLemmas

/-! ## Runs -/

inductive Record where
  | auth
  | session
  | fails
  | lock
deriving DecidableEq, Repr

def State.expire (s : State) : Record → State
  | .auth => { s with auth := none }
  | .session => { s with session := none }
  | .fails => { s with fails := none }
  | .lock => { s with lock := none }

inductive Action where
  | message (w : World) (text : String)
  | expire (record : Record)

/-- What has happened. -/
inductive Event where
  | turn (w : World) (text : String) (reply : Reply) (effects : List Effect)
  | expired (record : Record)

/-- The records of the phone, and what has happened, with the latest first. -/
structure Run where
  state : State
  history : List Event

def initial : Run := ⟨⟨none, none, none, none⟩, []⟩

variable (v : Validators) (settings : Lockout.Settings)

def step (run : Run) : Action → Option Run
  | .message w text =>
    let turn := process v w settings run.state text
    some ⟨turn.state, .turn w text turn.reply turn.effects :: run.history⟩
  | .expire record => some ⟨run.state.expire record, .expired record :: run.history⟩

/-! ## What the history shows -/

def Effect.endsLogin : Effect → Bool
  | .loggedIn _ | .loggedOut | .lockedOut => true
  | _ => false

def Effect.begins : Effect → Option Flow
  | .begun flow => some flow
  | _ => none

def Effect.item : Effect → Option Item
  | .took item => some item
  | _ => none

namespace Event

def endsLogin : Event → Bool
  | .turn _ _ _ effects => effects.any Effect.endsLogin
  | .expired record => record = .auth

def begins : Event → Option Flow
  | .turn _ _ _ effects => effects.findSome? Effect.begins
  | .expired _ => none

/-- The values that are given, with their messages. -/
def items : Event → List (String × Item)
  | .turn _ text _ effects => (effects.filterMap Effect.item).map fun item => (text, item)
  | .expired _ => []

def prompt : Event → Option (World × Reply)
  | .turn w _ reply _ => if reply.asks.isSome then some (w, reply) else none
  | .expired _ => none

end Event

def openFlow : List Event → Option Flow
  | [] => none
  | event :: history => if event.endsLogin then none else event.begins.or (openFlow history)

/-- The values that were given since the last flow has begun, with their messages. -/
def collected : List Event → List (String × Item)
  | [] => []
  | event :: history =>
    if event.begins.isSome then [] else collected history ++ event.items

def lastPrompt (history : List Event) : Option (World × Reply) := history.findSome? Event.prompt

/-- The data of the values that were given. -/
def gathered (history : List Event) : TempData :=
  (collected history).foldl (fun data entry => data.store entry.2) .empty

def Flow.root : Flow → Flow
  | .create => .create
  | .none | .auth | .list | .detail | .edit | .deactivate | .delete => .list

def Flow.isActive (flow : Flow) : Bool := flow ∉ [.none, .auth]

/-- A login of the phone as a master. -/
def LoggedIn (history : List Event) (auth : AuthSession) : Prop :=
  ∃ w text reply effects, .turn w text reply effects ∈ history ∧ .loggedIn auth ∈ effects ∧
    IsLogin w text auth

def Prompted (history : List Event) (call : Call) : Prop :=
  ∃ w reply, lastPrompt history = some (w, reply) ∧ reply.asks = some call ∧ reply.NamesTenant w

/-- What is required of a call that a message makes. -/
structure Authorised (run : Run) (w : World) (text : String) (call : Call) : Prop where
  unlocked : run.state.inForce w = none
  login : ∃ auth, run.state.auth = some auth ∧ auth.role = "master" ∧ LoggedIn run.history auth
  confirmed : ∀ id, call = .deactivate id ∨ call = .delete id →
    Confirmar text ∧ Prompted run.history call
  collected : ∀ payload, call = .create payload →
    openFlow run.history = some .create ∧ payload = (gathered run.history).payload ∧
      (gathered run.history).Ready .confirm ∧
      ∀ entry ∈ collected run.history, entry.2.ReadFrom v entry.1

/-! ## The invariant -/

/-- What the stored records have to do with the history. -/
structure Holds (run : Run) : Prop where
  login : ∀ auth, run.state.auth = some auth → auth.role = "master" ∧ LoggedIn run.history auth
  isOpen : ∀ s, run.state.auth.isSome → run.state.session = some s → s.flow ≠ .none →
    s.flow ≠ .auth ∧ openFlow run.history = some s.flow.root
  prompted : ∀ s call, run.state.session = some s → s.flow = call.flow →
    call ∈ [.deactivate (s.selectedTenantId.getD ""), .delete (s.selectedTenantId.getD "")] →
    Prompted run.history call
  gathered : ∀ s, run.state.session = some s → s.flow = .create →
    s.tempData = gathered run.history ∧ s.tempData.Ready s.step
  read : ∀ entry ∈ collected run.history, entry.2.ReadFrom v entry.1

variable {v settings} {w : World} {text : String} {run : Run} {history : List Event}

namespace MasterRunsLemmas

theorem openFlow_cons {event : Event} (hends : event.endsLogin = false)
    (hbegins : event.begins = none) : openFlow (event :: history) = openFlow history := by
  rw [openFlow, hends, hbegins]
  rfl

theorem collected_cons {event : Event} (hbegins : event.begins = none) :
    collected (event :: history) = collected history ++ event.items := by
  rw [collected, hbegins]
  rfl

theorem collected_silent {event : Event} (hbegins : event.begins = none)
    (hitems : event.items = []) : collected (event :: history) = collected history := by
  rw [collected_cons hbegins, hitems, List.append_nil]

theorem prompted_cons {event : Event} {call : Call} (h : event.prompt = none)
    (hprompted : Prompted history call) : Prompted (event :: history) call := by
  obtain ⟨w, reply, hlast, hrest⟩ := hprompted
  refine ⟨w, reply, ?_, hrest⟩
  unfold lastPrompt
  rw [List.findSome?_cons, h]
  exact hlast

theorem prompt_of_asks {reply : Reply} {effects : List Effect} (h : reply.asks = none) :
    (Event.turn w text reply effects).prompt = none := by
  dsimp only [Event.prompt]
  rw [h]
  rfl

theorem prompted_turn {reply : Reply} {effects : List Effect} {call : Call}
    (hasks : reply.asks = some call) (hnames : reply.NamesTenant w) :
    Prompted (.turn w text reply effects :: history) call := by
  refine ⟨w, reply, ?_, hasks, hnames⟩
  unfold lastPrompt
  rw [List.findSome?_cons]
  dsimp only [Event.prompt]
  rw [hasks]
  rfl

theorem loggedIn_cons {event : Event} {auth : AuthSession} (h : LoggedIn history auth) :
    LoggedIn (event :: history) auth := by
  obtain ⟨w, text, reply, effects, hmem, hrest⟩ := h
  exact ⟨w, text, reply, effects, List.mem_cons_of_mem _ hmem, hrest⟩

theorem flow_of_confirmed {id : String} {call : Call}
    (h : call ∈ [.deactivate id, .delete id]) : call.flow ∈ [.deactivate, .delete] := by
  simp only [List.mem_cons, List.not_mem_nil, or_false] at h
  obtain rfl | rfl := h <;> simp [Call.flow]

variable {state : State} {event : Event}

theorem holds_silent (h : Holds v run) (hprompt : event.prompt = none)
    (hbegins : event.begins = none) (hitems : event.items = [])
    (hauth : state.auth = none ∨ state.auth = run.state.auth ∧ event.endsLogin = false)
    (hsession : ∀ s, state.session = some s →
      run.state.session = some s ∨ s.flow = .none ∨ s.flow = .auth ∧ state.auth = none) :
    Holds v ⟨state, event :: run.history⟩ := by
  have hcollected : collected (event :: run.history) = collected run.history :=
    collected_silent hbegins hitems
  constructor
  · intro auth hstored
    obtain hnone | ⟨hsame, -⟩ := hauth
    · cases hnone.symm.trans hstored
    · obtain ⟨hrole, hlogin⟩ := h.login auth (hsame.symm.trans hstored)
      exact ⟨hrole, loggedIn_cons hlogin⟩
  · intro s hsome hstored hactive
    obtain hnone | ⟨hsame, hends⟩ := hauth
    · rw [hnone] at hsome
      cases hsome
    · obtain hold | hnone | ⟨-, hnone⟩ := hsession s hstored
      · rw [openFlow_cons hends hbegins]
        exact h.isOpen s (hsame ▸ hsome) hold hactive
      · exact absurd hnone hactive
      · rw [hnone] at hsome
        cases hsome
  · intro s call hstored hflow hcall
    have hmem := flow_of_confirmed hcall
    obtain hold | hnone | ⟨hauth, -⟩ := hsession s hstored
    · exact prompted_cons hprompt (h.prompted s call hold hflow hcall)
    · rw [← hflow, hnone] at hmem
      simp at hmem
    · rw [← hflow, hauth] at hmem
      simp at hmem
  · intro s hstored hflow
    obtain hold | hnone | ⟨hauth, -⟩ := hsession s hstored
    · unfold Master.gathered
      rw [hcollected]
      exact h.gathered s hold hflow
    · cases hnone.symm.trans hflow
    · cases hauth.symm.trans hflow
  · rw [hcollected]
    exact h.read

theorem holds_session {s : Session} (h : Holds v run)
    (hopen : s.flow ≠ .auth ∧ openFlow (event :: run.history) = some s.flow.root)
    (hprompted : ∀ call, s.flow = call.flow →
      call ∈ [.deactivate (s.selectedTenantId.getD ""), .delete (s.selectedTenantId.getD "")] →
      Prompted (event :: run.history) call)
    (hgathered : s.flow = .create →
      s.tempData = gathered (event :: run.history) ∧ s.tempData.Ready s.step)
    (hread : ∀ entry ∈ collected (event :: run.history), entry.2.ReadFrom v entry.1) :
    Holds v ⟨{ run.state with session := some s }, event :: run.history⟩ where
  login auth hstored := by
    obtain ⟨hrole, hlogin⟩ := h.login auth hstored
    exact ⟨hrole, loggedIn_cons hlogin⟩
  isOpen s' _ hstored _ := by
    obtain rfl := Option.some.inj hstored
    exact hopen
  prompted s' call hstored hflow hcall := by
    obtain rfl := Option.some.inj hstored
    exact hprompted call hflow hcall
  gathered s' hstored hflow := by
    obtain rfl := Option.some.inj hstored
    exact hgathered hflow
  read := hread

theorem root_of_mem {flow : Flow} (h : flow ∈ [.list, .detail, .edit]) :
    flow ≠ .none ∧ flow.root = .list := by
  simp only [List.mem_cons, List.not_mem_nil, or_false] at h
  obtain rfl | rfl | rfl := h <;> exact ⟨nofun, rfl⟩

theorem confirmed_unique {id : String} {call call' : Call} (hflow : call.flow = call'.flow)
    (h : call ∈ [.deactivate id, .delete id]) (h' : call' ∈ [.deactivate id, .delete id]) :
    call = call' := by
  simp only [List.mem_cons, List.not_mem_nil, or_false] at h h'
  obtain rfl | rfl := h <;> obtain rfl | rfl := h' <;> first | rfl | cases hflow

theorem not_confirmed {flow : Flow} {call : Call} {id : String} (hflow : flow = call.flow)
    (hother : flow ∉ [.deactivate, .delete]) : call ∉ [.deactivate id, .delete id] :=
  fun hcall => hother (hflow ▸ flow_of_confirmed hcall)

theorem holds_does {out : Outcome} (h : Holds v run) (hauth : run.state.auth.isSome)
    (hdoes : Does v w text run.state.session out) :
    Holds v ⟨{ run.state with session := out.session },
      .turn w text out.reply out.effects :: run.history⟩ := by
  generalize hsession : run.state.session = session at hdoes
  cases hdoes with
  | cleared hasks =>
    refine holds_silent h (prompt_of_asks hasks) rfl rfl (.inr ⟨rfl, rfl⟩) ?_
    rintro s ⟨⟩
  | kept hasks =>
    refine holds_silent h (prompt_of_asks hasks) rfl rfl (.inr ⟨rfl, rfl⟩) fun s hs => .inl ?_
    exact hsession.trans hs
  | reset =>
    refine holds_silent h rfl rfl rfl (.inr ⟨rfl, rfl⟩) fun s hs => .inr (.inl ?_)
    rw [← Option.some.inj hs]
    rfl
  | listed hasks hflow =>
    refine holds_session h ⟨by simp [hflow], by rw [hflow]; rfl⟩ ?_ (by simp [hflow])
      fun entry hentry => absurd hentry List.not_mem_nil
    intro call hcall hmem
    exact absurd hmem (not_confirmed hcall (by simp [hflow]))
  | creates hasks hflow hstep hdata =>
    refine holds_session h ⟨by simp [hflow], by rw [hflow]; rfl⟩ ?_ ?_
      fun entry hentry => absurd hentry List.not_mem_nil
    · intro call hcall hmem
      exact absurd hmem (not_confirmed hcall (by simp [hflow]))
    · intro _
      rw [hdata, hstep]
      exact ⟨rfl, trivial⟩
  | @moved s s' reply hasks hflow hnext =>
    obtain ⟨hactive, hroot⟩ := root_of_mem hflow
    have hopen := (h.isOpen s hauth hsession hactive).2
    have hnext' : s'.flow ∈ [.list, .detail, .edit] := List.mem_cons_of_mem _ hnext
    have hother : s'.flow ∉ [.auth, .create, .deactivate, .delete] := by
      simp only [List.mem_cons, List.not_mem_nil, or_false] at hnext
      obtain hnext | hnext := hnext <;> simp [hnext]
    simp only [List.mem_cons, List.not_mem_nil, or_false, not_or] at hother
    refine holds_session h ⟨hother.1, ?_⟩ ?_ (fun hcreate => absurd hcreate hother.2.1) ?_
    · rw [openFlow_cons rfl rfl, hopen, hroot, (root_of_mem hnext').2]
    · intro call hcall hmem
      exact absurd hmem (not_confirmed hcall (by simp [hother]))
    · rw [collected_silent rfl rfl]
      exact h.read
  | @asked s s' reply call hflow hasks hnames hnext hcall =>
    have hopen := (h.isOpen s hauth hsession (by simp [hflow])).2
    have hmem := flow_of_confirmed hcall
    rw [← hnext] at hmem
    simp only [List.mem_cons, List.not_mem_nil, or_false] at hmem
    refine holds_session h ⟨?_, ?_⟩ ?_ ?_ ?_
    · obtain hmem | hmem := hmem <;> simp [hmem]
    · rw [openFlow_cons rfl rfl, hopen, hflow]
      obtain hmem | hmem := hmem <;> rw [hmem] <;> rfl
    · intro call' hcall' hmem'
      rw [confirmed_unique (hcall'.symm.trans hnext) hmem' hcall]
      exact prompted_turn hasks hnames
    · obtain hmem | hmem := hmem <;> simp [hmem]
    · rw [collected_silent rfl rfl]
      exact h.read
  | @took s s' reply item hasks hflow hnext hread hdata hready =>
    have hopen := (h.isOpen s hauth hsession (by simp [hflow])).2
    obtain ⟨hgathered, hbefore⟩ := h.gathered s hsession hflow
    have hcollected : collected (.turn w text reply [.took item] :: run.history) =
        collected run.history ++ [(text, item)] := collected_cons rfl
    refine holds_session h ⟨by simp [hnext], ?_⟩ ?_ (fun _ => ⟨?_, hready hbefore⟩) ?_
    · rw [openFlow_cons rfl rfl, hopen, hflow, hnext]
    · intro call hcall hmem
      exact absurd hmem (not_confirmed hcall (by simp [hnext]))
    · unfold gathered
      rw [hcollected, List.foldl_append, hdata, hgathered]
      rfl
    · rw [hcollected]
      intro entry hentry
      obtain hentry | hentry := List.mem_append.mp hentry
      · exact h.read entry hentry
      · rw [List.mem_singleton.mp hentry]
        exact hread
  | called hasks hnext =>
    refine holds_silent h (prompt_of_asks hasks) rfl rfl (.inr ⟨rfl, rfl⟩) fun s hs => .inl ?_
    obtain hnext | hnext := hnext
    · cases hnext.symm.trans hs
    · rw [hsession, ← hnext]
      exact hs
  | confirmed hasks _ _ _ hnext =>
    refine holds_silent h (prompt_of_asks hasks) rfl rfl (.inr ⟨rfl, rfl⟩) fun s hs => .inl ?_
    obtain hnext | hnext := hnext
    · cases hnext.symm.trans hs
    · rw [hsession, ← hnext]
      exact hs
  | @askedAgain s reply call hasks hnames _ hflow hcall =>
    have hmem := flow_of_confirmed hcall
    rw [← hflow] at hmem
    simp only [List.mem_cons, List.not_mem_nil, or_false] at hmem
    have hactive : s.flow ≠ .none := by obtain hmem | hmem := hmem <;> simp [hmem]
    obtain ⟨hauthFlow, hopen⟩ := h.isOpen s hauth hsession hactive
    refine holds_session h ⟨hauthFlow, ?_⟩ ?_ ?_ ?_
    · rw [openFlow_cons rfl rfl, hopen]
    · intro call' hcall' hmem'
      rw [confirmed_unique (hcall'.symm.trans hflow) hmem' hcall]
      exact prompted_turn hasks hnames
    · obtain hmem | hmem := hmem <;> simp [hmem]
    · rw [collected_silent rfl rfl]
      exact h.read
  | @created s reply session hasks _ hflow hstep hnext =>
    have hopen := (h.isOpen s hauth hsession (by simp [hflow])).2
    obtain ⟨hgathered, hready⟩ := h.gathered s hsession hflow
    cases session with
    | none =>
      refine holds_silent h (prompt_of_asks hasks) rfl rfl (.inr ⟨rfl, rfl⟩) ?_
      rintro s ⟨⟩
    | some s' =>
      obtain ⟨hflow', hdata, hkeeps⟩ := hnext s' rfl
      refine holds_session h ⟨by simp [hflow'], ?_⟩ ?_ (fun _ => ⟨?_, ?_⟩) ?_
      · rw [openFlow_cons rfl rfl, hopen, hflow, hflow']
      · intro call hcall hmem
        exact absurd hmem (not_confirmed hcall (by simp [hflow']))
      · unfold gathered
        rw [collected_silent rfl rfl, hdata, hgathered]
        rfl
      · exact hkeeps (hstep ▸ hready)
      · rw [collected_silent rfl rfl]
        exact h.read

theorem master_eq_auth (h : Holds v run) : run.state.master = run.state.auth := by
  unfold State.master
  cases hauth : run.state.auth with
  | none => rfl
  | some auth => rw [Option.filter_some, if_pos (by simpa using (h.login auth hauth).1)]

theorem holds_login {turn : Turn} (h : Holds v run) (hnone : run.state.auth = none)
    (hlogin : LoginDoes w text run.state turn) :
    Holds v ⟨turn.state, .turn w text turn.reply turn.effects :: run.history⟩ := by
  cases hlogin with
  | quiet hasks hauth hsession =>
    have hauth' := hauth.elim id fun hsame => hsame.trans hnone
    refine holds_silent h (prompt_of_asks hasks) rfl rfl (.inl hauth') fun s hs => ?_
    obtain hold | hlogin := hsession s hs
    · exact .inl (hold.symm.trans hs)
    · exact .inr (.inr ⟨hlogin, hauth'⟩)
  | lockedOut hasks hauth hsession =>
    refine holds_silent h (prompt_of_asks hasks) rfl rfl (.inl (hauth.trans hnone)) fun s hs => ?_
    cases hsession.symm.trans hs
  | @loggedIn reply state auth hasks hwritten hauth hsession =>
    constructor
    · intro auth' hstored
      obtain rfl := Option.some.inj (hauth.symm.trans hstored)
      refine ⟨?_, w, text, reply, _, List.mem_cons_self, List.mem_singleton_self _, hwritten⟩
      obtain ⟨username, user, -, hrole, rfl⟩ := hwritten
      exact hrole
    · intro s _ hstored
      cases hsession.symm.trans hstored
    · intro s call hstored
      cases hsession.symm.trans hstored
    · intro s hstored
      cases hsession.symm.trans hstored
    · rw [collected_silent rfl rfl]
      exact h.read

end MasterRunsLemmas

open MasterRunsLemmas

theorem holds_initial : Holds v initial where
  login auth h := by cases h
  isOpen s _ h := by cases h
  prompted s call h := by cases h
  gathered s h := by cases h
  read entry h := absurd h List.not_mem_nil

theorem holds_handles {turn : Turn} (h : Holds v run)
    (hhandles : Handles v w text run.state turn) :
    Holds v ⟨turn.state, .turn w text turn.reply turn.effects :: run.history⟩ := by
  cases hhandles with
  | locked hasks =>
    exact holds_silent h (prompt_of_asks hasks) rfl rfl (.inr ⟨rfl, rfl⟩) fun s hs => .inl hs
  | loggedOut =>
    refine holds_silent h rfl rfl rfl (.inl rfl) fun s hs => ?_
    cases hs
  | console _ hmaster hdoes =>
    rw [master_eq_auth h] at hmaster
    exact holds_does h (by rw [hmaster]; rfl) hdoes
  | login _ hmaster hlogin =>
    exact holds_login h ((master_eq_auth h).symm.trans hmaster) hlogin

theorem holds_step {run' : Run} {action : Action} (h : Holds v run)
    (hstep : step v settings run action = some run') : Holds v run' := by
  cases action with
  | message w text =>
    obtain rfl := Option.some.inj hstep
    exact holds_handles h process_spec
  | expire record =>
    obtain rfl := Option.some.inj hstep
    cases record with
    | auth => exact holds_silent h rfl rfl rfl (.inl rfl) fun s hs => .inl hs
    | session =>
      refine holds_silent h rfl rfl rfl (.inr ⟨rfl, rfl⟩) fun s hs => ?_
      cases hs
    | fails | lock => exact holds_silent h rfl rfl rfl (.inr ⟨rfl, rfl⟩) fun s hs => .inl hs

theorem holds_of_reaches {ok : Run → Action → Prop}
    (h : Reaches (step v settings) ok initial run) : Holds v run :=
  h.invariant holds_initial fun _ _ _ hholds _ hstep => holds_step hholds hstep

/-! ## What a call requires -/

theorem authorised_of_does {call : Call} {out : Outcome} {auth : AuthSession} (h : Holds v run)
    (hlock : run.state.inForce w = none) (hauth : run.state.auth = some auth)
    (hdoes : Does v w text run.state.session out) (hcall : .called call ∈ out.effects) :
    Authorised v run w text call := by
  have hlogin : ∃ auth, run.state.auth = some auth ∧ auth.role = "master" ∧
      LoggedIn run.history auth := ⟨auth, hauth, h.login auth hauth⟩
  generalize hsession : run.state.session = session at hdoes
  cases hdoes with
  | cleared | kept | reset | moved | asked => cases hcall
  | listed | creates | took => cases List.mem_singleton.mp hcall
  | called _ _ _ hcreate hflow =>
    obtain rfl := Effect.called.inj (List.mem_singleton.mp hcall)
    refine ⟨hlock, hlogin, ?_, fun payload hpayload => absurd hpayload (hcreate payload)⟩
    rintro id (rfl | rfl) <;> cases hflow
  | @confirmed s reply _ call' _ hconfirmar hflow hmem =>
    obtain rfl := Effect.called.inj (List.mem_singleton.mp hcall)
    refine ⟨hlock, hlogin, fun _ _ => ⟨hconfirmar, h.prompted s _ hsession hflow hmem⟩, ?_⟩
    rintro payload rfl
    simp at hmem
  | @askedAgain s reply call' _ _ hconfirmar hflow hmem =>
    obtain rfl := Effect.called.inj (List.mem_singleton.mp hcall)
    refine ⟨hlock, hlogin, fun _ _ => ⟨hconfirmar, h.prompted s _ hsession hflow hmem⟩, ?_⟩
    rintro payload rfl
    simp at hmem
  | @created s reply _ _ _ hflow hstep =>
    obtain rfl := Effect.called.inj (List.mem_singleton.mp hcall)
    refine ⟨hlock, hlogin, ?_, ?_⟩
    · rintro id (h | h) <;> cases h
    · intro payload hpayload
      obtain rfl := Call.create.inj hpayload
      obtain ⟨hgathered, hready⟩ := h.gathered s hsession hflow
      have hopen := (h.isOpen s (by rw [hauth]; rfl) hsession (by simp [hflow])).2
      rw [← hgathered]
      exact ⟨by rw [hopen, hflow]; rfl, rfl, hstep ▸ hready, h.read⟩

/-- For every sequence of messages of a phone, and every expiry of its records between them: a call
that changes a tenant is made under a login that is stored and no lock, a confirmed call is that of
the last prompt, a tenant is created with the values of the open flow, and the flow that the
console goes on with has begun under the login that is stored. -/
theorem only_master_acts {ok : Run → Action → Prop}
    (h : Reaches (step v settings) ok initial run) :
    (∀ w text call, .called call ∈ (process v w settings run.state text).effects →
      Authorised v run w text call) ∧
    ∀ s, run.state.master.isSome → run.state.session = some s → s.flow.isActive = true →
      openFlow run.history = some s.flow.root := by
  have hholds := holds_of_reaches h
  constructor
  · intro w text call hcall
    have hhandles : Handles v w text run.state (process v w settings run.state text) := process_spec
    generalize process v w settings run.state text = turn at hhandles hcall
    cases hhandles with
    | locked => cases hcall
    | loggedOut => cases List.mem_singleton.mp hcall
    | console hlock hmaster hdoes =>
      rw [master_eq_auth hholds] at hmaster
      exact authorised_of_does hholds hlock hmaster hdoes hcall
    | login _ _ hlogin =>
      cases hlogin with
      | quiet => cases hcall
      | lockedOut | loggedIn => cases List.mem_singleton.mp hcall
  · intro s hmaster hsession hactive
    rw [master_eq_auth hholds] at hmaster
    refine (hholds.isOpen s hmaster hsession ?_).2
    intro hnone
    rw [hnone] at hactive
    cases hactive

/-! ## Example -/

def exTenant : Tenant := ⟨"t1", "Ana", "ana", none, none, true, none⟩

def exUser : User := ⟨"u1", "root", "master"⟩

def exWorld : World where
  now := 0
  usedBackup := false
  hasDb := true
  authenticate username password :=
    if username = "root" ∧ password = "secret" then some exUser else none
  getByUsername username := if username = "root" then some exUser else none
  tenants := [exTenant]
  getTenant id := if id = "t1" then some exTenant else none
  getTenantByUsername username := if username = "ana" then some exTenant else none
  result _ := .success (some exTenant) none

def exValidators : Validators := ⟨.ok, fun value => .ok (some value), .ok⟩

def exSettings : Lockout.Settings := ⟨3, 600, 900⟩

def exActions : List Action :=
  ["hola", "root", "secret", "1", "1", "2"].map (.message exWorld)

def exPrompted (run : Run) : Bool :=
  (process exValidators exWorld exSettings run.state "Confirmar").effects =
    [.called (.deactivate "t1")]

theorem exActions_prompted : (execWhere (step exValidators exSettings) (fun _ _ => true) initial
    exActions).any exPrompted = true := by decide +kernel

/-- The master logs in and confirms a deactivation. -/
theorem only_master_acts_confirmed :
    ∃ run, Authorised exValidators run exWorld "Confirmar" (.deactivate "t1") := by
  obtain ⟨run, hreaches, hprompted⟩ := exists_of_execWhere exActions_prompted
  refine ⟨run, (only_master_acts hreaches).1 exWorld "Confirmar" _ ?_⟩
  rw [of_decide_eq_true hprompted]
  exact List.mem_singleton_self _

end Trackpal.Console.Master

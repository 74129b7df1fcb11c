import Mathlib.Data.List.Basic
import Trackpal.Foundation.Menus
import Trackpal.Foundation.Paging
import Trackpal.Foundation.Runs

/-!
# The simulators of the demo

Three machines imitate the consoles: the console of a client, the simulator of the pro plan and the
search for an access code. Each shows its options under numbers and reads an answer with `parseInt`,
from the whole list and not from the page.
-/

namespace Trackpal.Browser.Simulators

open Trackpal.Foundation

/-! ## Messages -/

inductive Role where
  | bot
  | user
deriving DecidableEq, Repr

inductive Line where
  | option (key label : String)
  | text (text : String)
deriving DecidableEq, Repr

structure Message where
  id : Nat
  role : Role
  lines : List Line
deriving DecidableEq, Repr

def nextMessageId (messages : List Message) : Nat :=
  match messages.getLast? with
  | some last => last.id + 1
  | none => 1

def appendMessage (messages : List Message) (role : Role) (lines : List Line) : List Message :=
  messages ++ [⟨nextMessageId messages, role, lines⟩]

/-- The texts that the options of a message stand under. -/
def keys (lines : List Line) : List String :=
  lines.filterMap fun
    | .option key _ => some key
    | .text _ => none

/-- `Math.max(1, Math.ceil(items.length / pageSize))`. -/
def totalPages {α : Type} (items : List α) (pageSize : Nat) : Nat :=
  max 1 (pageCount pageSize items)

theorem totalPages_pos {α : Type} {items : List α} {size : Nat} : 0 < totalPages items size :=
  Nat.lt_of_lt_of_le Nat.zero_lt_one (Nat.le_max_left _ _)

/-! ## The console of a client -/

namespace ClientConsole

structure Client where
  id : String
  fullName : String
  phone : Option String
  isActive : Bool
deriving DecidableEq, Repr

structure Subscription where
  id : String
  clientId : String
  serviceName : String
  planName : String
  startsAt : String
  expiresAt : String
  status : String
deriving DecidableEq, Repr

/-- The texts. An item is what stands behind its number. -/
structure Copy where
  selectClients : Nat → Nat → String
  clientItem : Client → String
  emptyClients : String
  menu : Client → List Line
  profile : Client → String → String → String
  subscriptionsHeader : Client → Nat → Nat → String
  subscriptionItem : Nat → Subscription → String
  emptySubscriptions : String
  inactiveSubscriptions : String
  expiredSubscriptions : String
  invalid : String
  noNextPage : String
  cancelled : String
  back : String
  cancel : String
  next : String
  accessCode : String

inductive Screen where
  | select
  | menu
  | profile
  | subscriptions
  | accessCode
  | back
  | cancelled
deriving DecidableEq, Repr

structure State where
  screen : Screen
  page : Nat
  clients : List Client
  subscriptions : List Subscription
  selectedClientId : Option String
  referenceTime : String
  messages : List Message
deriving DecidableEq, Repr

inductive Event where
  | message (text : String)
  | reset

def clientPageSize : Nat := 4

def subscriptionPageSize : Nat := 3

/-- `getTime` of a date, with `none` for NaN. -/
abbrev GetTime := String → Option Int

variable (getTime : GetTime) (copy : Copy) (state : State)

def State.say (role : Role) (lines : List Line) : State :=
  { state with messages := appendMessage state.messages role lines }

def State.withBot (text : String) : State := state.say .bot [.text text]

def selectedClient : Option Client :=
  state.clients.find? fun client => some client.id = state.selectedClientId

def clientSubscriptions : List Subscription :=
  state.subscriptions.filter fun subscription => some subscription.clientId = state.selectedClientId

def activeSubscriptions : List Subscription :=
  (clientSubscriptions state).filter fun subscription =>
    subscription.status = "active" && (getTime subscription.expiresAt).any fun expiresAt =>
      (getTime state.referenceTime).any fun reference => reference < expiresAt

/-- `getTime() <= getTime()`. -/
def hasExpired (subscription : Subscription) : Bool :=
  (getTime subscription.expiresAt).any fun expiresAt =>
    (getTime state.referenceTime).any fun reference => expiresAt ≤ reference

def emptySubscriptionMessage (client : Client) : String :=
  if !client.isActive then copy.inactiveSubscriptions
  else if (clientSubscriptions state).any fun subscription =>
      subscription.status = "expired" || hasExpired getTime state subscription then
    copy.expiredSubscriptions
  else copy.emptySubscriptions

def visibleClients : List Client := page clientPageSize state.clients state.page

def clientSelectionMessage : List Line :=
  let total := totalPages state.clients clientPageSize
  Line.text (copy.selectClients (state.page + 1) total) ::
    (numbered (visibleClients state)).map
      (fun entry => Line.option entry.1 (copy.clientItem entry.2)) ++
    [Line.option "0" copy.cancel, .option "9" copy.back] ++
    if state.page < total - 1 then [Line.option "8" copy.next] else []

def menuState (client : Client) : State :=
  { state with screen := .menu, page := 0 }.say .bot (copy.menu client)

def subscriptionsMessage (client : Client) (subscriptions : List Subscription) (page : Nat)
    (next : Bool) : List Line :=
  Line.text (copy.subscriptionsHeader client (page + 1)
      (totalPages subscriptions subscriptionPageSize)) ::
    ((Foundation.page subscriptionPageSize subscriptions page).zipIdx.map fun (subscription, i) =>
      Line.text (copy.subscriptionItem (i + 1) subscription)) ++
    (if next then [Line.option "8" copy.next] else []) ++
    [Line.option "9" copy.back, .option "0" copy.cancel]

def rootState (clients : List Client) (subscriptions : List Subscription) (referenceTime : String) :
    State :=
  let state : State := ⟨.select, 0, clients, subscriptions, none, referenceTime, []⟩
  if clients ≠ [] then state.say .bot (clientSelectionMessage copy state)
  else state.withBot copy.emptyClients

def createClientConsoleState (clients : List Client) (subscriptions : List Subscription)
    (referenceTime : String) : State :=
  rootState copy clients subscriptions referenceTime

def onSelect (text : String) : State :=
  let said := state.say .user [.text text]
  if text = "0" then { said with screen := .cancelled }.withBot copy.cancelled
  else if text = "9" then { said with screen := .back }.withBot copy.back
  else if text = "8" then
    if totalPages state.clients clientPageSize - 1 ≤ state.page then said.withBot copy.noNextPage
    else
      let next := { said with page := state.page + 1 }
      next.say .bot (clientSelectionMessage copy next)
  else
    match pickNumbered state.clients (state.page * clientPageSize) text with
    | some client => menuState copy { said with selectedClientId := some client.id } client
    | none => said.withBot copy.invalid

def onMenu (text : String) : State :=
  let said := state.say .user [.text text]
  if text = "0" then { said with screen := .cancelled }.withBot copy.cancelled
  else if text = "9" then
    let next := { said with screen := .select, selectedClientId := none, page := 0 }
    next.say .bot (clientSelectionMessage copy next)
  else
    match selectedClient state with
    | none => { said with screen := .select }.withBot copy.emptyClients
    | some client =>
      if text = "1" then
        { said with screen := .profile, page := 0 }.withBot
          (copy.profile client "" (if client.isActive then "active" else "inactive"))
      else if text = "2" then
        let subscriptions := activeSubscriptions getTime state
        let next := { said with screen := .subscriptions, page := 0 }
        if subscriptions = [] then next.withBot (emptySubscriptionMessage getTime copy state client)
        else next.say .bot (subscriptionsMessage copy client subscriptions 0
          (1 < totalPages subscriptions subscriptionPageSize))
      else if text = "3" then
        { said with screen := .accessCode, page := 0 }.withBot copy.accessCode
      else said.withBot copy.invalid

/-- The screens of the profile and of the access code. -/
def onDetail (text : String) : State :=
  let said := state.say .user [.text text]
  if text = "0" then { said with screen := .cancelled }.withBot copy.cancelled
  else if text = "9" then
    match selectedClient state with
    | some client => menuState copy { said with page := 0 } client
    | none => { said with screen := .select, selectedClientId := none }.withBot copy.emptyClients
  else said.withBot copy.invalid

def onSubscriptions (text : String) : State :=
  let said := state.say .user [.text text]
  if text = "0" then { said with screen := .cancelled }.withBot copy.cancelled
  else
    match selectedClient state with
    | none => { said with screen := .select, selectedClientId := none }.withBot copy.emptyClients
    | some client =>
      let subscriptions := activeSubscriptions getTime state
      let total := totalPages subscriptions subscriptionPageSize
      if text = "8" then
        if total - 1 ≤ state.page then said.withBot copy.noNextPage
        else
          { said with page := state.page + 1 }.say .bot
            (subscriptionsMessage copy client subscriptions (state.page + 1) false)
      else if text = "9" then
        if 0 < state.page then
          { said with page := state.page - 1 }.say .bot
            (subscriptionsMessage copy client subscriptions (state.page - 1)
              (state.page - 1 < total - 1))
        else menuState copy { said with page := 0 } client
      else said.withBot copy.invalid

def transitionClientConsole : Event → State
  | .reset => rootState copy state.clients state.subscriptions state.referenceTime
  | .message text =>
    let text := trim text
    match state.screen with
    | .select => onSelect copy state text
    | .menu => onMenu getTime copy state text
    | .profile | .accessCode => onDetail copy state text
    | .subscriptions => onSubscriptions getTime copy state text
    | .back | .cancelled => state.say .user [.text text]

end ClientConsole

/-! ## The simulator of the pro plan -/

namespace ProSimulator

structure MenuItem where
  id : String
  label : String
deriving DecidableEq, Repr

/-- The texts. A number of pages is `none` where it is infinite or NaN. -/
structure Copy where
  welcome : String
  requestMode : String
  operationMode : String
  rolePrompt : String
  tenantAdminRole : String
  clientRole : String
  tenantAdminMenu : Nat → Option Nat → String
  clientMenu : Nat → Option Nat → String
  unavailable : String
  invalid : String
  noNextPage : String
  cancelled : String
  cancel : String
  back : String
  next : String

inductive Mode where
  | request
  | operation
deriving DecidableEq, Repr

inductive ConsoleRole where
  | tenantAdmin
  | client
deriving DecidableEq, Repr

inductive Screen where
  | mode
  | role
  | menu
deriving DecidableEq, Repr

structure State where
  screen : Screen
  mode : Option Mode
  role : Option ConsoleRole
  page : Nat
  tenantAdminPageSize : Nat
  tenantAdminItems : List MenuItem
  clientItems : List MenuItem
  messages : List Message
deriving DecidableEq, Repr

inductive Event where
  | message (text : String)
  | selectMode (mode : Mode)
  | reset

/-- `PAGE_SIZE`. -/
def defaultPageSize : Nat := 4

variable (copy : Copy) (state : State)

def State.say (role : Role) (lines : List Line) : State :=
  { state with messages := appendMessage state.messages role lines }

def State.withBot (text : String) : State := state.say .bot [.text text]

def menuItems : List MenuItem :=
  if state.role = some .client then state.clientItems else state.tenantAdminItems

def pageSize : Nat :=
  if state.role = some .client then defaultPageSize else state.tenantAdminPageSize

/-- `totalPages`; a division by zero gives no number. -/
def menuPages : Option Nat :=
  if pageSize state = 0 then none else some (totalPages (menuItems state) (pageSize state))

/-- `page < totalPages - 1`, which holds below infinity and not for NaN. -/
def hasNext : Bool :=
  match menuPages state with
  | some total => state.page < total - 1
  | none => menuItems state ≠ []

/-- `page >= totalPages - 1`. -/
def atEnd : Bool :=
  match menuPages state with
  | some total => total - 1 ≤ state.page
  | none => false

def visibleItems : List MenuItem := page (pageSize state) (menuItems state) state.page

def menuMessage : List Line :=
  Line.text (if state.role = some .client then copy.clientMenu (state.page + 1) (menuPages state)
      else copy.tenantAdminMenu (state.page + 1) (menuPages state)) ::
    (numbered (visibleItems state)).map (fun entry => Line.option entry.1 entry.2.label) ++
    [Line.option "0" copy.cancel, .option "9" copy.back] ++
    if hasNext state then [Line.option "8" copy.next] else []

def modeMessage : List Line :=
  [.text copy.welcome, .option "1" copy.requestMode, .option "2" copy.operationMode,
    .option "0" copy.cancel]

def roleMessage : List Line :=
  [.text copy.rolePrompt, .option "1" copy.tenantAdminRole, .option "2" copy.clientRole,
    .option "0" copy.cancel, .option "9" copy.back]

def rootState (tenantAdminItems clientItems : List MenuItem) (tenantAdminPageSize : Nat) : State :=
  State.say ⟨.mode, none, none, 0, tenantAdminPageSize, tenantAdminItems, clientItems, []⟩ .bot
    (modeMessage copy)

def createProSimulatorState (tenantAdminItems clientItems : List MenuItem)
    (tenantAdminPageSize : Nat) : State :=
  rootState copy tenantAdminItems clientItems tenantAdminPageSize

/-- Back to the start. -/
def restart : State :=
  rootState copy state.tenantAdminItems state.clientItems state.tenantAdminPageSize

def chooseMode : Mode → State
  | .request =>
    { state with screen := .mode, mode := some .request, role := none, page := 0 }.withBot
      copy.requestMode
  | .operation =>
    { state with screen := .role, mode := some .operation, role := none, page := 0 }.say .bot
      (roleMessage copy)

/-- `selected`. -/
def selectedItem (text : String) : Option MenuItem :=
  pickNumbered (menuItems state) (state.page * pageSize state) text

/-- The screen of the modes. -/
def onMode (text : String) : State :=
  let said := state.say .user [.text text]
  if text = "0" then (restart copy state).withBot copy.cancelled
  else if text = "1" then chooseMode copy said .request
  else if text = "2" then chooseMode copy said .operation
  else said.withBot copy.invalid

/-- The screen of the roles. -/
def onRole (text : String) : State :=
  let said := state.say .user [.text text]
  let enter (role : ConsoleRole) : State :=
    let next := { said with screen := .menu, role := some role, page := 0 }
    next.say .bot (menuMessage copy next)
  if text = "0" then (restart copy state).withBot copy.cancelled
  else if text = "9" then (restart copy state).say .bot (modeMessage copy)
  else if text = "1" then enter .tenantAdmin
  else if text = "2" then enter .client
  else said.withBot copy.invalid

def onItems (text : String) : State :=
  let said := state.say .user [.text text]
  if text = "0" then (restart copy state).withBot copy.cancelled
  else if text = "9" then
    if 0 < state.page then
      let next := { said with page := state.page - 1 }
      next.say .bot (menuMessage copy next)
    else
      { said with screen := .role, role := none, page := 0 }.say .bot (roleMessage copy)
  else if text = "8" then
    if atEnd state then said.withBot copy.noNextPage
    else
      let next := { said with page := state.page + 1 }
      next.say .bot (menuMessage copy next)
  else
    match selectedItem state text with
    | some _ => said.withBot copy.unavailable
    | none => said.withBot copy.invalid

def transitionProSimulator : Event → State
  | .reset => restart copy state
  | .selectMode mode => chooseMode copy state mode
  | .message text =>
    let text := trim text
    match state.screen with
    | .mode => onMode copy state text
    | .role => onRole copy state text
    | .menu => onItems copy state text

end ProSimulator

/-! ## The search for an access code -/

namespace CodeSimulator

structure Service where
  id : String
  name : String
deriving DecidableEq, Repr

structure Copy where
  welcome : String
  servicePrompt : List Line → List Line
  emptyServices : String
  invalidService : String
  emailPrompt : String → String
  invalidEmail : String
  searching : String
  codeFound : String → String → String
  invalidStart : String
  busy : String
  cancelled : Option String
  back : Option String
  invalidNavigation : Option String

inductive Step where
  | idle
  | service
  | email
  | processing
  | complete
  | empty
deriving DecidableEq, Repr

structure State where
  step : Step
  services : List Service
  selectedService : Option Service
  email : Option String
  code : Option String
  messages : List Message
deriving DecidableEq, Repr

inductive Event where
  | message (text : String)
  | processingComplete
  | back
  | reset

/-- The functions on texts that know Unicode: `toLocaleLowerCase`, and `normalize` with the marks
removed. -/
structure Script where
  lower : String → String
  withoutMarks : String → String

variable (script : Script) (copy : Copy) (state : State)

def State.say (role : Role) (lines : List Line) : State :=
  { state with messages := appendMessage state.messages role lines }

def State.withBot (text : String) : State := state.say .bot [.text text]

def normalizeCommand (value : String) : String :=
  let normalized := script.withoutMarks (script.lower (trim value))
  if normalized = "codigo" then "code" else normalized

def formatServices (services : List Service) : List Line :=
  (numbered services).map fun entry => .option entry.1 entry.2.name

/-- One sign, some text, a dot inside of the rest, and neither blanks nor another sign. -/
def isValidSimulatorEmail (value : String) : Bool :=
  let value := (trim value).toList
  let name := value.takeWhile (· ≠ '@')
  let domain := (value.dropWhile (· ≠ '@')).drop 1
  name ≠ [] && '@' ∉ domain && !value.any isBlank && (domain.drop 1).dropLast.contains '.'

/-- `charCodeAt(0)`. -/
def charCode (c : Char) : Nat :=
  if c.toNat < 0x10000 then c.toNat else 0xd800 + (c.toNat - 0x10000) / 0x400

def generateFictitiousCode (serviceId email : String) : String :=
  let text := serviceId ++ ":" ++ script.lower email
  let hash := text.toList.foldl (fun hash c => (hash * 31 + charCode c) % 2 ^ 32) 7
  let digits := Nat.toDigits 10 (hash % 1000000)
  .ofList (List.replicate (6 - digits.length) '0' ++ digits)

def createSimulatorState (services : List Service) : State :=
  ⟨.idle, services, none, none, none, [⟨1, .bot, [.text copy.welcome]⟩]⟩

/-- The dialog is forgotten. -/
def State.forget (step : Step) : State :=
  { state with step := step, selectedService := none, email := none, code := none }

def serviceOf (text : String) : Option Service := pickNumbered state.services 0 text

def onMessage (text : String) : State :=
  let said := state.say .user [.text text]
  if state.step = .processing then said.withBot copy.busy
  else if text = "0" then (said.withBot (copy.cancelled.getD copy.invalidStart)).forget .idle
  else if state.step = .service ∧ text = "8" then
    said.withBot (copy.invalidNavigation.getD copy.invalidService)
  else
    match state.step with
    | .idle | .complete | .empty =>
      if normalizeCommand script text ≠ "code" then said.withBot copy.invalidStart
      else if state.services = [] then { said.withBot copy.emptyServices with step := .empty }
      else (said.say .bot (copy.servicePrompt (formatServices state.services))).forget .service
    | .service =>
      match serviceOf state text with
      | none => said.withBot copy.invalidService
      | some service =>
        { said.withBot (copy.emailPrompt service.name) with
          step := .email, selectedService := some service, email := none, code := none }
    | .email =>
      if !isValidSimulatorEmail text then said.withBot copy.invalidEmail
      else { said.withBot copy.searching with
        step := .processing, email := some (script.lower text), code := none }
    | .processing => said

def transitionSimulator : Event → State
  | .reset => createSimulatorState copy state.services
  | .back =>
    match state.step with
    | .email =>
      (state.say .bot (copy.servicePrompt (formatServices state.services))).forget .service
    | .service | .complete | .empty =>
      (state.withBot (copy.back.getD copy.invalidStart)).forget .idle
    | .idle | .processing => state
  | .processingComplete =>
    match state.step, state.selectedService, state.email with
    | .processing, some service, some email =>
      if email = "" then state
      else
        let code := generateFictitiousCode script service.id email
        { state with step := .complete, code := some code }.withBot
          (copy.codeFound service.name code)
    | _, _, _ => state
  | .message text => onMessage script copy state (trim text)

end CodeSimulator

namespace ClientConsole

variable (getTime : GetTime) (copy : Copy) (state : State)

def PageExists : Prop :=
  match state.screen with
  | .select => state.page < totalPages state.clients clientPageSize
  | .subscriptions =>
    state.page < totalPages (activeSubscriptions getTime state) subscriptionPageSize
  | _ => True

def waits : Bool := state.screen = .select || state.screen = .menu

structure View where
  screen : Screen
  page : Nat
  selectedClientId : Option String
deriving DecidableEq, Repr

def view : View := ⟨state.screen, state.page, state.selectedClientId⟩

/-- The options besides the clients of a page. -/
def navigation : List (String × View) :=
  [("0", { view state with screen := .cancelled }), ("9", { view state with screen := .back })] ++
    if state.page < totalPages state.clients clientPageSize - 1 then
      [("8", { view state with page := state.page + 1 })] else []

def options : List (String × View) :=
  match state.screen with
  | .select =>
    if state.clients = [] then []
    else numberedOptions (fun client => ⟨.menu, 0, some client.id⟩) (visibleClients state) ++
      navigation state
  | .menu =>
    [("1", ⟨.profile, 0, state.selectedClientId⟩),
      ("2", ⟨.subscriptions, 0, state.selectedClientId⟩),
      ("3", ⟨.accessCode, 0, state.selectedClientId⟩), ("9", ⟨.select, 0, none⟩),
      ("0", { view state with screen := .cancelled })]
  | _ => []

/-- A message does what the screen says. -/
def Obeys (text : String) : Prop :=
  Answers (options state) (view state) (trim text)
    (view (transitionClientConsole getTime copy state (.message text)))

/-- The words of the navigation work without a client, and a number that is read from the text
stands for a client of another page, or is written in another way. -/
def disobeys (text : String) : Bool :=
  state.screen = .select &&
    if state.clients = [] then text ∈ ["0", "9"]
    else text ∉ ["0", "8", "9"] &&
      strays state.clients (visibleClients state) (state.page * clientPageSize) text

end ClientConsole

namespace ProSimulator

variable (copy : Copy) (state : State)

def PageExists : Prop :=
  state.screen = .menu → state.page < totalPages (menuItems state) (pageSize state)

structure View where
  screen : Screen
  mode : Option Mode
  role : Option ConsoleRole
  page : Nat
deriving DecidableEq, Repr

def view : View := ⟨state.screen, state.mode, state.role, state.page⟩

/-- What a message leads to: a view, and the item that is selected. -/
abbrev Result := View × Option MenuItem

def rootView : View := ⟨.mode, none, none, 0⟩

/-- The options besides the items of a page. -/
def navigation : List (String × Result) :=
  [("0", rootView, none),
    ("9", if 0 < state.page then { view state with page := state.page - 1 }
      else ⟨.role, state.mode, none, 0⟩, none)] ++
    if hasNext state then [("8", { view state with page := state.page + 1 }, none)] else []

def options : List (String × Result) :=
  match state.screen with
  | .mode =>
    [("1", ⟨.mode, some .request, none, 0⟩, none), ("2", ⟨.role, some .operation, none, 0⟩, none),
      ("0", rootView, none)]
  | .role =>
    [("1", ⟨.menu, state.mode, some .tenantAdmin, 0⟩, none),
      ("2", ⟨.menu, state.mode, some .client, 0⟩, none), ("0", rootView, none),
      ("9", rootView, none)]
  | .menu => numberedOptions (fun item => (view state, some item)) (visibleItems state) ++
      navigation state

def selection (text : String) : Option MenuItem :=
  if state.screen = .menu ∧ text ∉ ["0", "9", "8"] then selectedItem state text else none

/-- A message does what the screen says, and leads to a page that exists. -/
def Obeys (text : String) : Prop :=
  Answers (options state) (view state, none) (trim text)
      (view (transitionProSimulator copy state (.message text)), selection state (trim text)) ∧
    PageExists (transitionProSimulator copy state (.message text))

/-- A page of more than seven items has numbers that turn the page, one of no items goes on for
ever, and a number that is read from the text stands for an item of another page, or is written in
another way. -/
def disobeys (text : String) : Bool :=
  state.screen = .menu &&
    if text = "8" then pageSize state = 0 || 8 ≤ (visibleItems state).length
    else if text = "9" then 9 ≤ (visibleItems state).length
    else text ≠ "0" &&
      strays (menuItems state) (visibleItems state) (state.page * pageSize state) text

end ProSimulator

namespace CodeSimulator

variable (script : Script) (copy : Copy) (state : State)

structure View where
  step : Step
  selectedService : Option Service
deriving DecidableEq, Repr

def view : View := ⟨state.step, state.selectedService⟩

def options : List (String × View) :=
  numberedOptions (fun service => ⟨.email, some service⟩) state.services

/-- A message does what the prompt says. -/
def Obeys (text : String) : Prop :=
  Answers (options state) (view state) (trim text)
    (view (transitionSimulator script copy state (.message text)))

/-- The message cancels, which the prompt does not say; it is the number of the eighth service; or a
number that is read from the text is written in another way. -/
def disobeys (text : String) : Bool :=
  text = "0" || if text = "8" then 8 ≤ state.services.length
    else strays state.services state.services 0 text

end CodeSimulator

namespace ClientConsole.ClientConsoleLemmas

variable {getTime : GetTime} {copy : Copy} {state : State} {text : String}

theorem view_onSelect : view (onSelect copy state text) =
    if text = "0" then { view state with screen := .cancelled }
    else if text = "9" then { view state with screen := .back }
    else if text = "8" then
      if totalPages state.clients clientPageSize - 1 ≤ state.page then view state
      else { view state with page := state.page + 1 }
    else (pickNumbered state.clients (state.page * clientPageSize) text).elim (view state)
      fun client => ⟨.menu, 0, some client.id⟩ := by
  unfold onSelect
  dsimp only
  split
  · rfl
  split
  · rfl
  split
  · split <;> rfl
  · cases pickNumbered state.clients (state.page * clientPageSize) text <;> rfl

theorem visible_prefix :
    visibleClients state <+: state.clients.drop (state.page * clientPageSize) :=
  List.take_prefix _ _

theorem length_visible : (visibleClients state).length ≤ clientPageSize :=
  List.length_take_le _ _

theorem not_numbered {k : Nat} (htext : text = toString k) (hk : k = 0 ∨ clientPageSize < k) :
    ∀ client, (text, client) ∉ numbered (visibleClients state) := by
  intro client hmem
  rw [htext] at hmem
  obtain ⟨hpos, hget⟩ := mem_numbered_toString.mp hmem
  obtain ⟨hlt, -⟩ := List.getElem?_eq_some_iff.mp hget
  have hlength := @length_visible state
  omega

theorem not_mem_navigation (h0 : text ≠ "0") (h8 : text ≠ "8") (h9 : text ≠ "9") :
    ∀ w, (text, w) ∉ navigation state := by
  intro w hmem
  unfold navigation at hmem
  rcases List.mem_append.mp hmem with hmem | hmem
  · simp [h0, h9] at hmem
  · split at hmem
    · simp [h8] at hmem
    · cases hmem

theorem nodup_navigation : ((navigation state).map Prod.fst).Nodup := by
  unfold navigation
  split <;> simp

theorem obeys_select (hscreen : state.screen = .select) :
    Obeys getTime copy state text ↔ disobeys state (trim text) = false := by
  have hview : view state = ⟨.select, state.page, state.selectedClientId⟩ := by
    unfold view
    rw [hscreen]
  unfold Obeys transitionClientConsole options disobeys
  rw [hscreen]
  dsimp only
  generalize trim text = t
  rw [view_onSelect, decide_eq_true rfl, Bool.true_and]
  by_cases hclients : state.clients = []
  · rw [if_pos hclients, if_pos hclients, answers_of_not_mem fun w => List.not_mem_nil, hview,
      hclients, pickNumbered_nil]
    by_cases h0 : t = "0"
    · simp [h0]
    by_cases h9 : t = "9"
    · simp [h9]
    · simp [h0, h9, totalPages, pageCount, clientPageSize]
  · rw [if_neg hclients, if_neg hclients]
    by_cases h0 : t = "0"
    · have hmem : (t, { view state with screen := .cancelled }) ∈ navigation state := by
        simp [navigation, h0]
      rw [if_pos h0, answers_nav (not_numbered (h0.trans rfl : t = toString 0) (.inl rfl)),
        answers_of_nodup nodup_navigation hmem]
      simp [h0]
    by_cases h9 : t = "9"
    · have hmem : (t, { view state with screen := .back }) ∈ navigation state := by
        simp [navigation, h9]
      rw [if_neg h0, if_pos h9,
        answers_nav (not_numbered (h9.trans rfl : t = toString 9) (.inr (by decide))),
        answers_of_nodup nodup_navigation hmem]
      simp [h9]
    by_cases h8 : t = "8"
    · rw [if_neg h0, if_neg h9, if_pos h8,
        answers_nav (not_numbered (h8.trans rfl : t = toString 8) (.inr (by decide)))]
      by_cases hlast : totalPages state.clients clientPageSize - 1 ≤ state.page
      · have hnone : ∀ w, (t, w) ∉ navigation state := by
          simp [navigation, h8, Nat.not_lt.mpr hlast]
        rw [if_pos hlast, answers_of_not_mem hnone]
        simp [h8]
      · have hmem : (t, { view state with page := state.page + 1 }) ∈ navigation state := by
          simp [navigation, h8, Nat.not_le.mp hlast]
        rw [if_neg hlast, answers_of_nodup nodup_navigation hmem]
        simp [h8]
    rw [if_neg h0, if_neg h9, if_neg h8,
      answers_pick_iff visible_prefix (not_mem_navigation h0 h8 h9) rfl fun client h => by
        rw [hview] at h
        cases h]
    simp [h0, h8, h9]

theorem view_onMenu (hchosen : (selectedClient state).isSome) :
    view (onMenu getTime copy state text) =
      if text = "0" then { view state with screen := .cancelled }
      else if text = "9" then ⟨.select, 0, none⟩
      else if text = "1" then ⟨.profile, 0, state.selectedClientId⟩
      else if text = "2" then ⟨.subscriptions, 0, state.selectedClientId⟩
      else if text = "3" then ⟨.accessCode, 0, state.selectedClientId⟩
      else view state := by
  obtain ⟨client, hclient⟩ := Option.isSome_iff_exists.mp hchosen
  unfold onMenu
  rw [hclient]
  dsimp only
  split
  · rfl
  split
  · rfl
  split
  · rfl
  split
  · split <;> rfl
  split <;> rfl

theorem obeys_menu (hscreen : state.screen = .menu) (hchosen : (selectedClient state).isSome) :
    Obeys getTime copy state text ↔ disobeys state (trim text) = false := by
  have hdisobeys : disobeys state (trim text) = false := by
    unfold disobeys
    rw [hscreen]
    rfl
  refine iff_of_true ?_ hdisobeys
  unfold Obeys transitionClientConsole options
  rw [hscreen]
  dsimp only
  generalize trim text = t
  rw [view_onMenu hchosen]
  by_cases h0 : t = "0"
  · simp [Answers, h0]
  by_cases h9 : t = "9"
  · simp [Answers, h9]
  by_cases h1 : t = "1"
  · simp [Answers, h1]
  by_cases h2 : t = "2"
  · simp [Answers, h2]
  by_cases h3 : t = "3"
  · simp [Answers, h3]
  · simp [Answers, h0, h9, h1, h2, h3]

def chosenScreens : List Screen := [.menu, .profile, .accessCode, .subscriptions]

/-- What holds of every conversation. -/
structure Sound (getTime : GetTime) (state : State) : Prop where
  page : PageExists getTime state
  chosen : state.screen ∈ chosenScreens → (selectedClient state).isSome = true

theorem sound_say {role : Role} {lines : List Line} (h : Sound getTime state) :
    Sound getTime (state.say role lines) := ⟨h.page, h.chosen⟩

theorem sound_closed (hscreen : state.screen = .back ∨ state.screen = .cancelled) :
    Sound getTime state := by
  refine ⟨?_, fun hmem => ?_⟩
  · unfold PageExists
    obtain h | h := hscreen <;> rw [h] <;> trivial
  · obtain h | h := hscreen <;> rw [h] at hmem <;> simp [chosenScreens] at hmem

theorem sound_select (hscreen : state.screen = .select)
    (hpage : state.page < totalPages state.clients clientPageSize) : Sound getTime state := by
  refine ⟨?_, fun hmem => ?_⟩
  · unfold PageExists
    rw [hscreen]
    exact hpage
  · rw [hscreen] at hmem
    simp [chosenScreens] at hmem

theorem sound_chosen (hchosen : (selectedClient state).isSome = true)
    (hpage : PageExists getTime state) : Sound getTime state := ⟨hpage, fun _ => hchosen⟩

theorem selectedClient_of_mem {client : Client} (hmem : client ∈ state.clients)
    (hid : state.selectedClientId = some client.id) : (selectedClient state).isSome = true := by
  unfold selectedClient
  rw [List.find?_isSome]
  exact ⟨client, hmem, by rw [hid]; exact decide_eq_true rfl⟩

theorem sound_root {clients : List Client} {subscriptions : List Subscription}
    {referenceTime : String} :
    Sound getTime (rootState copy clients subscriptions referenceTime) := by
  unfold rootState
  dsimp only
  split <;> exact sound_say (sound_select rfl totalPages_pos)

theorem sound_onSelect (hscreen : state.screen = .select) (h : Sound getTime state) :
    Sound getTime (onSelect copy state text) := by
  have hpage : state.page < totalPages state.clients clientPageSize := by
    have hexists := h.page
    unfold PageExists at hexists
    rwa [hscreen] at hexists
  unfold onSelect
  dsimp only
  split
  · exact sound_closed (.inr rfl)
  split
  · exact sound_closed (.inl rfl)
  split
  · split
    · exact sound_say (sound_select hscreen hpage)
    · next hlast => exact sound_say (sound_select hscreen (by
        have := Nat.not_le.mp hlast
        change state.page + 1 < totalPages state.clients clientPageSize
        omega))
  · split
    · next client hpick =>
      exact sound_say (sound_chosen (selectedClient_of_mem (mem_of_pickNumbered hpick) rfl) trivial)
    · exact sound_say (sound_select hscreen hpage)

theorem sound_onMenu (hscreen : state.screen = .menu) (h : Sound getTime state) :
    Sound getTime (onMenu getTime copy state text) := by
  have hchosen := h.chosen (by rw [hscreen]; exact .head _)
  obtain ⟨client, hclient⟩ := Option.isSome_iff_exists.mp hchosen
  unfold onMenu
  rw [hclient]
  dsimp only
  split
  · exact sound_closed (.inr rfl)
  split
  · exact sound_say (sound_select rfl totalPages_pos)
  split
  · exact sound_say (sound_chosen hchosen trivial)
  split
  · split <;> exact sound_say (sound_chosen hchosen totalPages_pos)
  split
  · exact sound_say (sound_chosen hchosen trivial)
  · exact sound_say (sound_say h)

theorem sound_onDetail (hscreen : state.screen = .profile ∨ state.screen = .accessCode)
    (h : Sound getTime state) : Sound getTime (onDetail copy state text) := by
  have hchosen := h.chosen (by obtain hs | hs := hscreen <;> rw [hs] <;> decide)
  obtain ⟨client, hclient⟩ := Option.isSome_iff_exists.mp hchosen
  unfold onDetail
  rw [hclient]
  dsimp only
  split
  · exact sound_closed (.inr rfl)
  split
  · exact sound_say (sound_chosen hchosen trivial)
  · exact sound_say (sound_say h)

theorem sound_onSubscriptions (hscreen : state.screen = .subscriptions) (h : Sound getTime state) :
    Sound getTime (onSubscriptions getTime copy state text) := by
  have hchosen := h.chosen (by rw [hscreen]; decide)
  obtain ⟨client, hclient⟩ := Option.isSome_iff_exists.mp hchosen
  have hexists (page : Nat)
      (hlt : page < totalPages (activeSubscriptions getTime state) subscriptionPageSize) :
      Sound getTime { state.say .user [.text text] with page := page } := by
    refine sound_chosen hchosen ?_
    unfold PageExists
    dsimp only [State.say]
    rw [hscreen]
    exact hlt
  have hpage :
      state.page < totalPages (activeSubscriptions getTime state) subscriptionPageSize := by
    have hexists := h.page
    unfold PageExists at hexists
    rwa [hscreen] at hexists
  unfold onSubscriptions
  rw [hclient]
  dsimp only
  split
  · exact sound_closed (.inr rfl)
  split
  · split
    · exact sound_say (sound_say h)
    · exact sound_say (hexists _ (by omega))
  split
  · split
    · exact sound_say (hexists _ (by omega))
    · exact sound_say (sound_chosen hchosen trivial)
  · exact sound_say (sound_say h)

theorem sound_step {event : Event} (h : Sound getTime state) :
    Sound getTime (transitionClientConsole getTime copy state event) := by
  unfold transitionClientConsole
  cases event with
  | reset => exact sound_root
  | message text =>
    dsimp only
    split
    · next hscreen => exact sound_onSelect hscreen h
    · next hscreen => exact sound_onMenu hscreen h
    · next hscreen => exact sound_onDetail (.inl hscreen) h
    · next hscreen => exact sound_onDetail (.inr hscreen) h
    · next hscreen => exact sound_onSubscriptions hscreen h
    · exact sound_say h
    · exact sound_say h

end ClientConsole.ClientConsoleLemmas

namespace ProSimulator.ProSimulatorLemmas

variable {copy : Copy} {state : State} {text : String}

theorem view_onItems : view (onItems copy state text) =
    if text = "0" then rootView
    else if text = "9" then
      if 0 < state.page then { view state with page := state.page - 1 }
      else ⟨.role, state.mode, none, 0⟩
    else if text = "8" then
      if atEnd state then view state else { view state with page := state.page + 1 }
    else view state := by
  unfold onItems
  dsimp only
  split
  · rfl
  split
  · split <;> rfl
  split
  · split <;> rfl
  · cases selectedItem state text <;> rfl

theorem menuPages_eq (hsize : pageSize state ≠ 0) :
    menuPages state = some (totalPages (menuItems state) (pageSize state)) :=
  if_neg hsize

theorem atEnd_eq (hsize : pageSize state ≠ 0) :
    atEnd state = decide (totalPages (menuItems state) (pageSize state) - 1 ≤ state.page) := by
  unfold atEnd
  rw [menuPages_eq hsize]

theorem hasNext_eq (hsize : pageSize state ≠ 0) :
    hasNext state = decide (state.page < totalPages (menuItems state) (pageSize state) - 1) := by
  unfold hasNext
  rw [menuPages_eq hsize]

theorem atEnd_of_zero (hsize : pageSize state = 0) : atEnd state = false := by
  unfold atEnd menuPages
  rw [if_pos hsize]

theorem page_onItems (hscreen : state.screen = .menu) (h : PageExists state) :
    PageExists (onItems copy state text) ↔ ¬(text = "8" ∧ pageSize state = 0) := by
  have hpage := h hscreen
  unfold onItems
  dsimp only
  by_cases h0 : text = "0"
  · rw [if_pos h0]
    exact iff_of_true nofun fun hboth => by simp [h0] at hboth
  by_cases h9 : text = "9"
  · rw [if_neg h0, if_pos h9]
    refine iff_of_true ?_ fun hboth => by simp [h9] at hboth
    split
    · refine fun _ => ?_
      change state.page - 1 < totalPages (menuItems state) (pageSize state)
      omega
    · exact nofun
  by_cases h8 : text = "8"
  · rw [if_neg h0, if_neg h9, if_pos h8]
    by_cases hsize : pageSize state = 0
    · rw [atEnd_of_zero hsize, if_neg Bool.false_ne_true]
      refine iff_of_false (fun hexists => ?_) (fun hnot => hnot ⟨h8, hsize⟩)
      have hlt : state.page + 1 < totalPages (menuItems state) (pageSize state) := hexists hscreen
      rw [hsize] at hlt
      simp [totalPages, pageCount] at hlt
    · refine iff_of_true ?_ fun hboth => hsize hboth.2
      rw [atEnd_eq hsize]
      split
      · exact h
      · next hlast =>
        refine fun _ => ?_
        change state.page + 1 < totalPages (menuItems state) (pageSize state)
        have hbefore := mt decide_eq_true hlast
        omega
  · rw [if_neg h0, if_neg h9, if_neg h8]
    refine iff_of_true ?_ fun hboth => h8 hboth.1
    split <;> exact h

theorem visible_prefix :
    visibleItems state <+: (menuItems state).drop (state.page * pageSize state) :=
  List.take_prefix _ _

theorem nodup_navigation : ((navigation state).map Prod.fst).Nodup := by
  unfold navigation
  cases hasNext state <;> simp

theorem not_mem_navigation (h0 : text ≠ "0") (h8 : text ≠ "8") (h9 : text ≠ "9") :
    ∀ w, (text, w) ∉ navigation state := by
  intro w hmem
  unfold navigation at hmem
  rcases List.mem_append.mp hmem with hmem | hmem
  · simp [h0, h9] at hmem
  · split at hmem
    · simp [h8] at hmem
    · cases hmem

theorem mem_numbered_iff {k : Nat} (hk : 0 < k) (htext : text = toString k) :
    (∃ item, (text, item) ∈ numbered (visibleItems state)) ↔ k ≤ (visibleItems state).length := by
  rw [htext]
  simp only [mem_numbered_toString, List.getElem?_eq_some_iff]
  constructor
  · rintro ⟨item, -, hlt, -⟩
    omega
  · exact fun hle => ⟨_, hk, by omega, rfl⟩

theorem answers_shadowed {k : Nat} (hk : 0 < k) (htext : text = toString k)
    (hshown : k ≤ (visibleItems state).length) {v : View} :
    ¬Answers (numberedOptions (fun item => (view state, some item)) (visibleItems state) ++
      navigation state) (view state, none) text (v, none) := by
  obtain ⟨item, hitem⟩ := (mem_numbered_iff hk htext).mpr hshown
  intro hanswers
  have hresult := hanswers.1 _ (List.mem_append_left _ (mem_numberedOptions.mpr ⟨item, hitem, rfl⟩))
  cases (Prod.mk.inj hresult).2

theorem not_numbered {k : Nat} (htext : text = toString k)
    (hk : k = 0 ∨ ¬k ≤ (visibleItems state).length) :
    ∀ item, (text, item) ∉ numbered (visibleItems state) := by
  intro item hmem
  obtain rfl | hk := hk
  · rw [htext] at hmem
    exact Nat.lt_irrefl 0 (mem_numbered_toString.mp hmem).1
  · by_cases hpos : 0 < k
    · exact hk ((mem_numbered_iff hpos htext).mp ⟨item, hmem⟩)
    · omega

theorem obeys_items (hscreen : state.screen = .menu) (h : PageExists state) :
    Obeys copy state text ↔ disobeys state (trim text) = false := by
  unfold Obeys transitionProSimulator options disobeys
  rw [hscreen]
  dsimp only
  generalize trim text = t
  have hnav (hmem : t ∈ ["0", "9", "8"]) : selection state t = none :=
    if_neg fun hboth => hboth.2 hmem
  rw [page_onItems hscreen h, view_onItems, decide_eq_true rfl, Bool.true_and]
  by_cases h0 : t = "0"
  · have hmem : (t, (rootView, none)) ∈ navigation state := by simp [navigation, h0]
    have h8 : t ≠ "8" := by simp [h0]
    have h9 : t ≠ "9" := by simp [h0]
    rw [hnav (by simp [h0]), if_pos h0, if_neg h8, if_neg h9, decide_eq_false (not_not.mpr h0),
      Bool.false_and, answers_nav (not_numbered (h0.trans rfl : t = toString 0) (.inl rfl)),
      answers_of_nodup nodup_navigation hmem]
    exact iff_of_true ⟨rfl, fun hboth => h8 hboth.1⟩ rfl
  by_cases h9 : t = "9"
  · have h8 : t ≠ "8" := by simp [h9]
    have htext : t = toString 9 := h9.trans rfl
    rw [hnav (by simp [h9]), if_neg h0, if_pos h9, if_neg h8, if_pos h9]
    by_cases hshown : 9 ≤ (visibleItems state).length
    · rw [decide_eq_true hshown]
      exact iff_of_false (fun hobeys => answers_shadowed (by decide) htext hshown hobeys.1)
        Bool.false_ne_true.symm
    · have hmem : (t, (if 0 < state.page then { view state with page := state.page - 1 }
          else ⟨.role, state.mode, none, 0⟩, none)) ∈ navigation state := by
        unfold navigation
        rw [h9]
        exact .tail _ (.head _)
      rw [decide_eq_false hshown, answers_nav (not_numbered htext (.inr hshown)),
        answers_of_nodup nodup_navigation hmem]
      exact iff_of_true ⟨rfl, fun hboth => h8 hboth.1⟩ rfl
  by_cases h8 : t = "8"
  · have htext : t = toString 8 := h8.trans rfl
    rw [hnav (by simp [h8]), if_neg h0, if_neg h9, if_pos h8, if_pos h8]
    by_cases hsize : pageSize state = 0
    · rw [decide_eq_true hsize, Bool.true_or]
      exact iff_of_false (fun hobeys => hobeys.2 ⟨h8, hsize⟩) Bool.false_ne_true.symm
    rw [decide_eq_false hsize, Bool.false_or, atEnd_eq hsize]
    by_cases hshown : 8 ≤ (visibleItems state).length
    · rw [decide_eq_true hshown]
      exact iff_of_false (fun hobeys => answers_shadowed (by decide) htext hshown hobeys.1)
        Bool.false_ne_true.symm
    · rw [decide_eq_false hshown, answers_nav (not_numbered htext (.inr hshown))]
      refine (and_iff_left fun hboth => hsize hboth.2).trans (iff_of_true ?_ rfl)
      by_cases hlast : totalPages (menuItems state) (pageSize state) - 1 ≤ state.page
      · have hnone : ∀ w, (t, w) ∉ navigation state := by
          simp [navigation, h8, hasNext_eq hsize, Nat.not_lt.mpr hlast]
        rw [decide_eq_true hlast, if_pos rfl]
        exact (answers_of_not_mem hnone).mpr rfl
      · have hmem : (t, ({ view state with page := state.page + 1 }, none)) ∈
            navigation state := by
          simp [navigation, h8, hasNext_eq hsize, Nat.not_le.mp hlast]
        rw [decide_eq_false hlast, if_neg Bool.false_ne_true]
        exact (answers_of_nodup nodup_navigation hmem).mpr rfl
  · have hselection : selection state t = selectedItem state t :=
      if_pos ⟨hscreen, by simp [h0, h8, h9]⟩
    have hpick : (view state, selectedItem state t) =
        (selectedItem state t).elim (view state, none) fun item => (view state, some item) := by
      cases selectedItem state t <;> rfl
    rw [hselection, if_neg h0, if_neg h9, if_neg h8, if_neg h8, if_neg h9, decide_eq_true h0,
      Bool.true_and, answers_pick_iff visible_prefix (not_mem_navigation h0 h8 h9) hpick
        fun item heq => by cases (Prod.mk.inj heq).2]
    exact and_iff_left fun hboth => h8 hboth.1

theorem view_onMode : view (onMode copy state text) =
    if text = "0" then rootView
    else if text = "1" then ⟨.mode, some .request, none, 0⟩
    else if text = "2" then ⟨.role, some .operation, none, 0⟩
    else view state := by
  unfold onMode
  dsimp only
  split
  · rfl
  split
  · rfl
  split <;> rfl

theorem view_onRole : view (onRole copy state text) =
    if text = "0" then rootView
    else if text = "9" then rootView
    else if text = "1" then ⟨.menu, state.mode, some .tenantAdmin, 0⟩
    else if text = "2" then ⟨.menu, state.mode, some .client, 0⟩
    else view state := by
  unfold onRole
  dsimp only
  split
  · rfl
  split
  · rfl
  split
  · rfl
  split <;> rfl

theorem page_onMode (hscreen : state.screen = .mode) : PageExists (onMode copy state text) := by
  have hno : state.screen ≠ .menu := by rw [hscreen]; exact nofun
  unfold onMode
  dsimp only
  split
  · exact nofun
  split
  · exact nofun
  split
  · exact nofun
  · exact fun hmenu => absurd hmenu hno

theorem page_onRole (hscreen : state.screen = .role) : PageExists (onRole copy state text) := by
  have hno : state.screen ≠ .menu := by rw [hscreen]; exact nofun
  unfold onRole
  dsimp only
  split
  · exact nofun
  split
  · exact nofun
  split
  · exact fun _ => totalPages_pos
  split
  · exact fun _ => totalPages_pos
  · exact fun hmenu => absurd hmenu hno

theorem selection_of_screen (hscreen : state.screen ≠ .menu) : selection state text = none :=
  if_neg fun h => hscreen h.1

theorem obeys_choice (hscreen : state.screen = .mode ∨ state.screen = .role) :
    Obeys copy state text ↔ disobeys state (trim text) = false := by
  have hno : state.screen ≠ .menu := by
    obtain h | h := hscreen <;> rw [h] <;> exact nofun
  have hdisobeys : disobeys state (trim text) = false := by
    unfold disobeys
    rw [decide_eq_false hno, Bool.false_and]
  refine iff_of_true ?_ hdisobeys
  unfold Obeys transitionProSimulator options
  rw [selection_of_screen hno]
  obtain h | h := hscreen
  · rw [h]
    dsimp only
    refine ⟨?_, page_onMode h⟩
    generalize trim text = t
    rw [view_onMode]
    by_cases h0 : t = "0"
    · simp [Answers, h0]
    by_cases h1 : t = "1"
    · simp [Answers, h1]
    by_cases h2 : t = "2"
    · simp [Answers, h2]
    · simp [Answers, h0, h1, h2]
  · rw [h]
    dsimp only
    refine ⟨?_, page_onRole h⟩
    generalize trim text = t
    rw [view_onRole]
    by_cases h0 : t = "0"
    · simp [Answers, h0]
    by_cases h9 : t = "9"
    · simp [Answers, h9]
    by_cases h1 : t = "1"
    · simp [Answers, h1]
    by_cases h2 : t = "2"
    · simp [Answers, h2]
    · simp [Answers, h0, h9, h1, h2]

theorem obeys_iff (h : PageExists state) :
    Obeys copy state text ↔ disobeys state (trim text) = false := by
  cases hscreen : state.screen with
  | mode => exact obeys_choice (.inl hscreen)
  | role => exact obeys_choice (.inr hscreen)
  | menu => exact obeys_items hscreen h

end ProSimulator.ProSimulatorLemmas

namespace CodeSimulator.CodeSimulatorLemmas

variable {script : Script} {copy : Copy} {state : State} {text : String}

theorem view_onMessage (hstep : state.step = .service) : view (onMessage script copy state text) =
    if text = "0" then ⟨.idle, none⟩
    else if text = "8" then view state
    else (serviceOf state text).elim (view state) fun service => ⟨.email, some service⟩ := by
  unfold onMessage
  rw [hstep]
  dsimp only
  rw [if_neg (by decide)]
  split
  · rfl
  by_cases h8 : text = "8"
  · rw [if_pos ⟨rfl, h8⟩, if_pos h8]
    rfl
  · rw [if_neg fun hboth => h8 hboth.2, if_neg h8]
    cases serviceOf state text <;> rfl

theorem options_eq : options state = numberedOptions (fun service => ⟨.email, some service⟩)
    state.services ++ [] :=
  (List.append_nil _).symm

theorem obeys_service (hstep : state.step = .service) :
    Obeys script copy state text ↔ disobeys state (trim text) = false := by
  have hview : view state = ⟨.service, state.selectedService⟩ := by
    unfold view
    rw [hstep]
  unfold Obeys transitionSimulator disobeys
  dsimp only
  generalize trim text = t
  rw [view_onMessage hstep, options_eq, hview]
  by_cases h0 : t = "0"
  · have hkey : ∀ service, (t, service) ∉ numbered state.services := by
      intro service hmem
      rw [(h0.trans rfl : t = toString 0)] at hmem
      exact Nat.lt_irrefl 0 (mem_numbered_toString.mp hmem).1
    rw [if_pos h0, answers_nav hkey, answers_of_not_mem fun w => List.not_mem_nil,
      decide_eq_true h0, Bool.true_or]
    exact iff_of_false nofun Bool.false_ne_true.symm
  rw [if_neg h0, decide_eq_false h0, Bool.false_or]
  by_cases h8 : t = "8"
  · have htext : t = toString 8 := h8.trans rfl
    rw [if_pos h8, if_pos h8]
    by_cases hshown : 8 ≤ state.services.length
    · have hmem : (t, state.services[7]) ∈ numbered state.services := by
        rw [htext]
        exact mem_numbered_toString.mpr ⟨by decide, List.getElem?_eq_getElem _⟩
      rw [decide_eq_true hshown]
      refine iff_of_false (fun hanswers => ?_) Bool.false_ne_true.symm
      have hresult := hanswers.1 _
        (List.mem_append_left _ (mem_numberedOptions.mpr ⟨_, hmem, rfl⟩))
      cases hresult
    · have hkey : ∀ service, (t, service) ∉ numbered state.services := by
        intro service hmem
        rw [htext] at hmem
        have hlt := (List.getElem?_eq_some_iff.mp (mem_numbered_toString.mp hmem).2).1
        omega
      rw [decide_eq_false hshown, answers_nav hkey, answers_of_not_mem fun w => List.not_mem_nil]
      exact iff_of_true rfl rfl
  · rw [if_neg h8, if_neg h8]
    exact answers_pick_iff (List.prefix_refl _) (fun w => List.not_mem_nil) rfl fun service => nofun

end CodeSimulator.CodeSimulatorLemmas

/-! ## What holds of every conversation -/

open ClientConsole.ClientConsoleLemmas ProSimulator.ProSimulatorLemmas
  CodeSimulator.CodeSimulatorLemmas

/-- A message disobeys. -/
def ProSimulator.breaks (state : ProSimulator.State) : ProSimulator.Event → Bool
  | .message text => disobeys state (trim text)
  | _ => false

/-- The page is one of the list, and a message that waits for a choice does what the screen says,
exactly as long as it does not disobey. -/
theorem simulators_obey_iff (text : String) :
    (∀ (getTime : ClientConsole.GetTime) (copy : ClientConsole.Copy)
      (clients : List ClientConsole.Client) (subscriptions : List ClientConsole.Subscription)
      (referenceTime : String) (state : ClientConsole.State),
      Reaches (fun state event =>
        some (ClientConsole.transitionClientConsole getTime copy state event)) Always
        (ClientConsole.createClientConsoleState copy clients subscriptions referenceTime) state →
      ClientConsole.PageExists getTime state ∧ (ClientConsole.waits state = true →
        (ClientConsole.Obeys getTime copy state text ↔
          ClientConsole.disobeys state (trim text) = false))) ∧
    (∀ (copy : ProSimulator.Copy) (tenantAdminItems clientItems : List ProSimulator.MenuItem)
      (tenantAdminPageSize : Nat) (state : ProSimulator.State),
      Reaches (fun state event => some (ProSimulator.transitionProSimulator copy state event))
        (fun state event => ProSimulator.breaks state event = false)
        (ProSimulator.createProSimulatorState copy tenantAdminItems clientItems tenantAdminPageSize)
        state →
      ProSimulator.PageExists state ∧ (ProSimulator.Obeys copy state text ↔
        ProSimulator.disobeys state (trim text) = false)) ∧
    ∀ (script : CodeSimulator.Script) (copy : CodeSimulator.Copy) (state : CodeSimulator.State),
      state.step = .service → (CodeSimulator.Obeys script copy state text ↔
        CodeSimulator.disobeys state (trim text) = false) := by
  refine ⟨fun getTime copy clients subscriptions referenceTime state hreaches => ?_,
    fun copy tenantAdminItems clientItems tenantAdminPageSize state hreaches => ?_,
    fun script copy state hstep => obeys_service hstep⟩
  · have hsound : Sound getTime state :=
      hreaches.invariant sound_root fun s event s' hs _ hstep =>
        Option.some.inj hstep ▸ sound_step hs
    refine ⟨hsound.page, fun hwaits => ?_⟩
    obtain hselect | hmenu := Bool.or_eq_true_iff.mp hwaits
    · exact obeys_select (of_decide_eq_true hselect)
    · have hscreen : state.screen = .menu := of_decide_eq_true hmenu
      exact obeys_menu hscreen (hsound.chosen (by rw [hscreen]; exact .head _))
  · have hpage : ProSimulator.PageExists state := by
      refine hreaches.invariant nofun fun s event s' hs hok hstep => ?_
      rw [← Option.some.inj hstep]
      cases event with
      | message text => exact ((obeys_iff hs).mpr hok).2
      | selectMode mode => cases mode <;> exact nofun
      | reset => exact nofun
    exact ⟨hpage, obeys_iff hpage⟩

/-! ## A number of another page -/

def exCopy : ClientConsole.Copy :=
  ⟨fun _ _ => "", fun client => client.fullName, "", fun _ => [], fun _ _ _ => "", fun _ _ _ => "",
    fun _ _ => "", "", "", "", "", "", "", "", "", "", ""⟩

def exClient (id : String) : ClientConsole.Client := ⟨id, "Client", none, true⟩

def exState : ClientConsole.State :=
  ClientConsole.createClientConsoleState exCopy
    [exClient "a", exClient "b", exClient "c", exClient "d", exClient "e"] [] ""

def exPro : ProSimulator.Copy :=
  ⟨"", "", "", "", "", "", fun _ _ => "", fun _ _ => "", "", "", "", "", "", "", ""⟩

def exItems : List ProSimulator.MenuItem := (List.range 6).map fun i => ⟨toString i, ""⟩

/-- A client is chosen and its list left again, and a tenant turns to the second page of its menu. -/
theorem conversations_obey : ∃ state pro,
    Reaches (fun state event =>
      some (ClientConsole.transitionClientConsole (fun _ => none) exCopy state event)) Always exState
      state ∧
    state.selectedClientId = some "b" ∧ state.screen = .menu ∧
    ClientConsole.Obeys (fun _ => none) exCopy state "2" ∧
    Reaches (fun state event => some (ProSimulator.transitionProSimulator exPro state event))
      (fun state event => ProSimulator.breaks state event = false)
      (ProSimulator.createProSimulatorState exPro exItems exItems 4) pro ∧
    pro.screen = .menu ∧ pro.page = 1 ∧ ProSimulator.PageExists pro ∧
    ProSimulator.Obeys exPro pro "2" := by
  have hclient : (execWhere (fun state event =>
        some (ClientConsole.transitionClientConsole (fun _ => none) exCopy state event))
      (fun _ _ => true) exState [.message "2", .message "1", .message "9"]).any (fun state =>
        state.selectedClientId = some "b" ∧ state.screen = .menu ∧
          ClientConsole.waits state = true ∧ ClientConsole.disobeys state (trim "2") = false) =
        true := by
    decide +kernel
  have hpro : (execWhere (fun state event =>
        some (ProSimulator.transitionProSimulator exPro state event))
      (fun state event => !ProSimulator.breaks state event)
      (ProSimulator.createProSimulatorState exPro exItems exItems 4)
      [.selectMode .operation, .message "1", .message "8"]).any (fun pro =>
        pro.screen = .menu ∧ pro.page = 1 ∧ ProSimulator.disobeys pro (trim "2") = false) =
        true := by
    decide +kernel
  obtain ⟨state, hstate, hfacts⟩ := exists_of_execWhere hclient
  obtain ⟨hselected, hscreen, hwaits, hobeys⟩ := of_decide_eq_true hfacts
  obtain ⟨pro, hreaches, hfacts⟩ := exists_of_execWhere hpro
  obtain ⟨hmenu, hpage, hobeys'⟩ := of_decide_eq_true hfacts
  have hstate' := @Reaches.mono _ _ _ _ _ _ Always (fun _ _ _ => trivial) hstate
  have hreaches' := @Reaches.mono _ _ _ _ _ _
    (fun state event => ProSimulator.breaks state event = false)
    (fun _ _ hok => (Bool.not_eq_true' _).mp hok) hreaches
  obtain ⟨hfirst, hsecond, -⟩ := simulators_obey_iff "2"
  obtain ⟨hexists, hiff⟩ := hsecond _ _ _ _ _ hreaches'
  exact ⟨state, pro, hstate', hselected, hscreen,
    ((hfirst _ _ _ _ _ _ hstate').2 hwaits).mpr hobeys, hreaches', hmenu, hpage, hexists,
    hiff.mpr hobeys'⟩

/-- The first page shows four clients, and the answer 5 selects the fifth. -/
theorem number_off_page : ClientConsole.waits exState = true ∧
    keys (ClientConsole.clientSelectionMessage exCopy exState) =
      ["1", "2", "3", "4", "0", "9", "8"] ∧
    (ClientConsole.transitionClientConsole (fun _ => none) exCopy exState
      (.message "5")).selectedClientId = some "e" ∧
    ¬ClientConsole.Obeys (fun _ => none) exCopy exState "5" := by
  have hselected : (ClientConsole.transitionClientConsole (fun _ => none) exCopy exState
      (.message "5")).selectedClientId = some "e" := by
    decide +kernel
  have hkeys : trim "5" ∉ (ClientConsole.options exState).map Prod.fst := by
    decide +kernel
  refine ⟨rfl, by decide +kernel, hselected, fun hobeys => ?_⟩
  have hidle := hobeys.2 fun w hmem => hkeys (List.mem_map_of_mem hmem)
  have hnone := congrArg ClientConsole.View.selectedClientId hidle
  rw [show (ClientConsole.view (ClientConsole.transitionClientConsole (fun _ => none) exCopy exState
    (.message "5"))).selectedClientId = some "e" from hselected] at hnone
  cases hnone

end Trackpal.Browser.Simulators

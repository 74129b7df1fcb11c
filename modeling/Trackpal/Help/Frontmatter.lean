import Trackpal.Foundation.Batches
import Trackpal.Foundation.Regex
import Trackpal.Foundation.Urls

/-!
# A topic of the help

`compiler.py`, one source file: the frontmatter is split from the Markdown body and validated, and
the topic is put together from it.

Results:
1. `tour_of_compileTopic`: a compiled topic with a tour is one for tenants, and each entry is for
   some of the plans of the topic.
-/

namespace Trackpal.Help

open Foundation

/-! ## Values -/

inductive Yaml where
  | null
  | bool (value : Bool)
  | int (value : Int)
  | str (value : String)
  | list (items : List Yaml)
  | map (entries : List (Yaml × Yaml))
  | other (text : String)

structure Libraries where
  /-- `yaml.safe_load`: `none` is a `YAMLError`. -/
  safeLoad : String → Option Yaml
  casefold : String → String
  unicode : Regex.Unicode
  urls : UrlLibrary

inductive HelpError where
  | validation (message : String) (values : List String)
  /-- A `TypeError`, a `ValueError` of a library, or a file that cannot be read. -/
  | python
deriving DecidableEq, Repr

def refuse {α : Type} (message : String) : Except HelpError α := .error (.validation message [])

def require (ok : Bool) (message : String) : Except HelpError Unit :=
  if ok then .ok () else refuse message

abbrev Frontmatter := List (Yaml × Yaml)

def Yaml.text : Yaml → Option String
  | .str text => some text
  | _ => none

/-- The value under a key, if the key is there. -/
def Frontmatter.find (entries : Frontmatter) (key : String) : Option Yaml :=
  (entries.find? fun entry => entry.1.text = some key).map (·.2)

def Frontmatter.get (entries : Frontmatter) (key : String) : Yaml :=
  (Frontmatter.find entries key).getD .null

/-- The keys that are not in a list. -/
def Frontmatter.unknown (entries : Frontmatter) (known : List String) : List Yaml :=
  (entries.map (·.1)).filter fun key => !key.text.any (· ∈ known)

def sortTexts (texts : List String) : List String := texts.mergeSort fun a b => decide (a ≤ b)

/-! ## The contract -/

def allowedAudiences : List String := ["tenant_admin", "client"]

def allowedPlans : List String := ["starter", "pro"]

def allowedChannels : List String := ["web", "whatsapp"]

def allowedModules : List String :=
  ["dashboard", "clients", "catalog", "subscriptions", "settings", "profile", "password",
    "whatsapp", "help", "data"]

def allowedCapabilities : List String :=
  ["tenant_access_code_lookup", "tenant_access_control", "tenant_catalog", "tenant_clients",
    "tenant_code_services", "tenant_dashboard", "tenant_mailbox", "tenant_public_api",
    "tenant_settings", "tenant_subscriptions", "tenant_whatsapp", "tenant_data_export",
    "tenant_delete_account", "client_dashboard", "client_profile", "client_subscriptions",
    "client_password", "client_whatsapp"]

def allowedRoutes : List String :=
  ["/admin/dashboard", "/admin/clients", "/admin/catalog", "/admin/subscriptions",
    "/admin/settings", "/admin/help", "/client/dashboard", "/client/profile", "/client/help"]

def allowedHelpTargets : List String :=
  ["admin.dashboard", "admin.clients", "admin.catalog", "admin.subscriptions", "admin.settings",
    "admin.settings.language", "admin.settings.reminders", "admin.settings.regional",
    "admin.settings.public-api", "admin.settings.whatsapp", "admin.settings.code-services",
    "admin.settings.mailbox", "admin.settings.access-control", "admin.settings.profile",
    "admin.settings.password", "admin.settings.my-account", "admin.settings.data-tab",
    "admin.settings.danger-zone", "admin.help", "client.dashboard", "client.profile",
    "client.subscriptions", "client.password"]

def allowedSettingsCategories : List String :=
  ["access-control", "code-services", "data", "my-account", "mailbox", "password", "public-api",
    "reminders", "whatsapp-link"]

def allowedTabs : List String := ["regional"]

def allowedExternalHelpUrls : List String :=
  ["https://myaccount.google.com/apppasswords",
    "https://support.google.com/accounts/answer/185833"]

def requiredFields : List String :=
  ["id", "audience", "plans", "channels", "module", "capabilities", "route", "help_targets",
    "title", "summary", "search_tags", "synonyms", "related_topics", "order", "safe_navigation"]

def optionalFields : List String := ["safe_links", "tour"]

def tourFields : List String :=
  ["release_id", "order", "target", "conditional", "plans", "title", "content"]

def navigationFields : List String := ["route", "settings_category", "tab"]

/-- `TOUR_RELEASE_PATTERN` and `ID_PATTERN`. -/
def idPattern : String := "^[a-z0-9]+(?:[._-][a-z0-9]+)*$"

def htmlPattern : String := "(?is)<\\s*(?:/?\\s*[a-zA-Z][^>]*|!--|!doctype\\b|\\?.*?\\?)"

def executablePattern : String :=
  "(?im)(?:javascript\\s*:|data\\s*:\\s*text/html|\\bon[a-z]+\\s*=|" ++
    "^\\s*(?:import|export)\\s+|^\\s*[\x7b\x7d])"

def markdownLinkPattern : String := "\\[([^\\]]+)\\]\\(([^)]+)\\)"

variable (lib : Libraries)

def fullmatch (regex text : String) : Bool :=
  (Regex.compile regex).any fun compiled =>
    (compiled.2.run lib.unicode compiled.1 ⟨[], text.toList, []⟩).any (·.rest.isEmpty)

/-! ## Fields -/

def string (fm : Frontmatter) (field name : String) : Except HelpError String :=
  match fm.get field with
  | .str value => .ok value
  | _ => refuse s!"Frontmatter field {field} must be a string in {name}"

def stringList (fm : Frontmatter) (field name : String) : Except HelpError (List String) :=
  match fm.get field with
  | .list items =>
    match items.mapM Yaml.text with
    | some texts => .ok texts
    | none => refuse s!"Frontmatter field {field} must be a string list in {name}"
  | _ => refuse s!"Frontmatter field {field} must be a string list in {name}"

def positiveInt (fm : Frontmatter) (field name : String) : Except HelpError Int :=
  match fm.get field with
  | .int value =>
    if 1 ≤ value then .ok value
    else refuse s!"Frontmatter field {field} must be a positive integer in {name}"
  | _ => refuse s!"Frontmatter field {field} must be a positive integer in {name}"

structure SafeNavigation where
  route : String
  settingsCategory : Option String
  tab : Option String
deriving DecidableEq, Repr

def readSettingsCategory (entries : Frontmatter) (route name : String) :
    Except HelpError (Option String) :=
  match entries.get "settings_category" with
  | .null => .ok none
  | .str category =>
    if route = "/admin/settings" ∧ category ∈ allowedSettingsCategories then .ok (some category)
    else refuse s!"Unknown settings category in {name}"
  | _ => refuse s!"Unknown settings category in {name}"

def readTab (entries : Frontmatter) (category : Option String) (name : String) :
    Except HelpError (Option String) :=
  match entries.get "tab" with
  | .null => .ok none
  | .str tab => do
    require (tab ∈ allowedTabs) s!"Unknown tab in {name}"
    require (category = some "my-account")
      s!"tab is only allowed with settings_category 'my-account' in {name}"
    return some tab
  | _ => refuse s!"Unknown tab in {name}"

def validateSafeNavigation (value : Yaml) (name : String) (declaredRoute : Option String) :
    Except HelpError SafeNavigation :=
  match value with
  | .map entries => do
    require (Frontmatter.unknown entries navigationFields).isEmpty
      s!"Invalid safe navigation in {name}"
    match Frontmatter.get entries "route" with
    | .str route =>
      require (route ∈ allowedRoutes) s!"Unknown safe navigation route in {name}"
      require (declaredRoute.all (route = ·)) s!"Safe navigation route must match route in {name}"
      let settingsCategory ← readSettingsCategory entries route name
      let tab ← readTab entries settingsCategory name
      return { route, settingsCategory, tab }
    | _ => refuse s!"Unknown safe navigation route in {name}"
  | _ => refuse s!"Invalid safe navigation in {name}"

def safeNavigation (fm : Frontmatter) (name : String) : Except HelpError SafeNavigation := do
  let declaredRoute ← string fm "route" name
  validateSafeNavigation (fm.get "safe_navigation") name (some declaredRoute)

def safeNavigationList (value : Yaml) (name : String) : Except HelpError (List SafeNavigation) :=
  match value with
  | .list items => items.mapM (validateSafeNavigation · name none)
  | _ => refuse s!"Safe links must be a list in {name}"

/-! ## The tour of a topic -/

structure TourContract where
  releaseId : String
  order : Int
  target : String
  conditional : Bool
  plans : List String
deriving DecidableEq, Repr

structure TourEntry extends TourContract where
  title : Option String
  content : Option String
deriving DecidableEq, Repr

/-- The plans of an entry: a list or a mapping among them is a `TypeError`. -/
def readPlans (message : String) : List Yaml → Except HelpError (List String)
  | [] => .ok []
  | .str plan :: rest =>
    if plan ∈ allowedPlans then (readPlans message rest).map (plan :: ·) else refuse message
  | .list _ :: _ | .map _ :: _ => .error .python
  | _ :: _ => refuse message

/-- A title or a content that is not blank. -/
def readWording (message : String) : Yaml → Except HelpError (Option String)
  | .null => .ok none
  | .str text => if stripBy isSpace text = "" then refuse message else .ok (some text)
  | _ => refuse message

def entryPlans (fields : Frontmatter) (topicPlans : List String) : Yaml :=
  (fields.find "plans").getD (.list (topicPlans.map .str))

def tourEntry (name : String) (targets topicPlans : List String) (entry : Yaml) :
    Except HelpError TourEntry :=
  let message := s!"Incomplete tour metadata in {name}"
  match entry with
  | .map fields => do
    require (Frontmatter.unknown fields tourFields).isEmpty s!"Unknown tour fields in {name}"
    match Frontmatter.get fields "release_id", Frontmatter.get fields "order",
        Frontmatter.get fields "target", (Frontmatter.find fields "conditional").getD (.bool false),
        entryPlans fields topicPlans with
    | .str releaseId, .int order, .str target, .bool conditional, .list items =>
      require (fullmatch lib idPattern releaseId) message
      require (1 ≤ order) message
      require (target ∈ targets) message
      require (!items.isEmpty) message
      let plans ← readPlans message items
      require (plans.all (· ∈ topicPlans)) message
      let title ← readWording message (Frontmatter.get fields "title")
      let content ← readWording message (Frontmatter.get fields "content")
      return { releaseId, order, target, conditional, plans, title, content }
    | _, _, _, _, _ => refuse message
  | _ => refuse s!"Invalid tour metadata in {name}"

def tourEntries (value : Yaml) (name : String) (targets topicPlans : List String) :
    Except HelpError (Option (List TourEntry)) :=
  match value with
  | .null => .ok none
  | .map fields =>
    (tourEntry lib name targets topicPlans (.map fields)).map fun entry => some [entry]
  | .list [] => refuse s!"Invalid tour metadata in {name}"
  | .list items => (items.mapM (tourEntry lib name targets topicPlans)).map some
  | _ => refuse s!"Invalid tour metadata in {name}"

/-! ## Content -/

def rejectUnsafeContent (value name : String) : Except HelpError Unit :=
  require ((Regex.search lib.unicode htmlPattern value.toList).isNone &&
    (Regex.search lib.unicode executablePattern value.toList).isNone)
    s!"Unsafe Markdown content in {name}"

mutual

def iterStrings : Yaml → List String
  | .str text => [text]
  | .list items => iterItems items
  | .map entries => iterValues entries
  | _ => []

def iterItems : List Yaml → List String
  | [] => []
  | item :: rest => iterStrings item ++ iterItems rest

def iterValues : List (Yaml × Yaml) → List String
  | [] => []
  | (_, value) :: rest => iterStrings value ++ iterValues rest

end

/-- The absolute destinations of a list of links: `none` is a `ValueError` of the splitting. -/
def absoluteDestinations : List String → Option (List (String × SplitResult))
  | [] => some []
  | destination :: rest => do
    let parsed ← urlsplit lib.urls destination.toList
    let others ← absoluteDestinations rest
    return if parsed.scheme ≠ [] ∨ parsed.netloc ≠ [] then (destination, parsed) :: others
      else others

/-- `_absolute_link_destinations`, with the parts of each. -/
def absoluteLinkDestinations (body : String) : Except HelpError (List (String × SplitResult)) :=
  let links := Regex.finditer lib.unicode markdownLinkPattern body.toList
  match absoluteDestinations lib
      (links.map fun found => .ofList ((found.group 2).map (·.text) |>.getD [])) with
  | some destinations => .ok destinations
  | none => .error .python

def validateExternalHelpLinks (body name : String) : Except HelpError Unit := do
  let destinations ← absoluteLinkDestinations lib body
  destinations.forM fun destination => do
    require (destination.2.scheme = "https".toList)
      s!"External Help URL must use HTTPS in {name}"
    require (destination.1 ∈ allowedExternalHelpUrls)
      s!"External Help URL not on allow-list in {name}"

/-! ## Validation -/

def validateAudience (fm : Frontmatter) (audience : String) (targets : List String)
    (name : String) : Except HelpError Unit := do
  require (!(audience = "tenant_admin" && targets.any (·.startsWith "client.")))
    s!"Tenant Admin topic cannot use a Client target in {name}"
  require (!(audience = "client" && targets.any (!·.startsWith "client.")))
    s!"Client topic cannot use a Tenant Admin target in {name}"
  require (!(audience = "client" && !(fm.get "tour" matches .null)))
    s!"Client topic cannot declare an orientation tour in {name}"
  let own ← safeNavigation fm name
  let links ← safeNavigationList ((fm.find "safe_links").getD (.list [])) name
  (own :: links).forM fun navigation => do
    require (!(audience = "tenant_admin" && !navigation.route.startsWith "/admin/"))
      s!"Tenant Admin topic cannot navigate to a Client route in {name}"
    require (!(audience = "client" && !navigation.route.startsWith "/client/"))
      s!"Client topic cannot navigate to a Tenant Admin route in {name}"

def validateFrontmatter (fm : Frontmatter) (name : String) : Except HelpError Unit := do
  let unknown := fm.unknown (requiredFields ++ optionalFields)
  if unknown ≠ [] then
    throw (.validation s!"Unknown frontmatter fields in {name}"
      (sortTexts (unknown.filterMap Yaml.text)))
  let missing := requiredFields.filter fun field => (fm.find field).isNone
  if missing ≠ [] then
    throw (.validation s!"Missing frontmatter fields in {name}" (sortTexts missing))
  let topicId ← string fm "id" name
  require (fullmatch lib idPattern topicId) s!"Invalid topic id in {name}: {topicId}"
  let audience ← string fm "audience" name
  require (audience ∈ allowedAudiences) s!"Unknown audience in {name}"
  let plans ← stringList fm "plans" name
  require (!plans.isEmpty && plans.all (· ∈ allowedPlans)) s!"Unknown plan in {name}"
  let channels ← stringList fm "channels" name
  require (!channels.isEmpty && channels.all (· ∈ allowedChannels)) s!"Unknown channel in {name}"
  let module ← string fm "module" name
  require (module ∈ allowedModules) s!"Unknown module in {name}"
  let capabilities ← stringList fm "capabilities" name
  require (!capabilities.isEmpty && capabilities.all (· ∈ allowedCapabilities))
    s!"Unknown capability in {name}"
  let route ← string fm "route" name
  require (route ∈ allowedRoutes) s!"Unknown route in {name}: {route}"
  require (!(audience = "tenant_admin" && !route.startsWith "/admin/"))
    s!"Tenant Admin topic must use an admin route in {name}"
  require (!(audience = "client" && !route.startsWith "/client/"))
    s!"Client topic must use a client route in {name}"
  let targets ← stringList fm "help_targets" name
  require (!(module ≠ "help" && targets.isEmpty) && targets.all (· ∈ allowedHelpTargets))
    s!"Unknown Help target in {name}"
  validateAudience fm audience targets name
  let _ ← positiveInt fm "order" name
  let _ ← safeNavigation fm name
  let _ ← safeNavigationList ((fm.find "safe_links").getD (.list [])) name
  ["title", "summary"].forM fun field => do
    let value ← string fm field name
    require (stripBy isSpace value ≠ "") s!"Empty {field} in {name}"
  ["search_tags", "synonyms", "related_topics"].forM fun field => do
    let _ ← stringList fm field name
  (iterStrings (.map fm)).forM (rejectUnsafeContent lib · name)
  let _ ← tourEntries lib (fm.get "tour") name targets plans

/-! ## The topic -/

structure Topic where
  id : String
  locale : String
  audience : String
  plans : List String
  channels : List String
  module : String
  capabilities : List String
  route : String
  helpTargets : List String
  title : String
  summary : String
  searchTags : List String
  synonyms : List String
  relatedTopics : List String
  order : Int
  safeNavigation : SafeNavigation
  safeLinks : List SafeNavigation
  tour : Option (List TourEntry)
  body : String
deriving DecidableEq, Repr

structure HelpFile where
  name : String
  lines : Option (List String)

def splitFrontmatter (file : HelpFile) : Except HelpError (Frontmatter × String) :=
  match file.lines with
  | none => .error .python
  | some [] => refuse s!"Missing frontmatter in {file.name}"
  | some (first :: rest) => do
    require (stripBy isSpace first = "---") s!"Missing frontmatter in {file.name}"
    match rest.dropWhile (· ≠ "---") with
    | [] => refuse s!"Unclosed frontmatter in {file.name}"
    | _ :: body =>
      match lib.safeLoad ("\n".intercalate (rest.takeWhile (· ≠ "---"))) with
      | none => refuse s!"Invalid frontmatter in {file.name}"
      | some (.map fm) =>
        let body := "\n".intercalate body
        require (stripBy isSpace body ≠ "") s!"Empty Markdown body in {file.name}"
        return (fm, body)
      | some _ => refuse s!"Frontmatter must be a mapping in {file.name}"

def compileTopic (file : HelpFile) (locale : String) : Except HelpError Topic := do
  let (fm, body) ← splitFrontmatter lib file
  validateFrontmatter lib fm file.name
  rejectUnsafeContent lib body file.name
  validateExternalHelpLinks lib body file.name
  let plans ← stringList fm "plans" file.name
  let helpTargets ← stringList fm "help_targets" file.name
  return {
    id := ← string fm "id" file.name
    locale
    audience := ← string fm "audience" file.name
    plans
    channels := ← stringList fm "channels" file.name
    module := ← string fm "module" file.name
    capabilities := ← stringList fm "capabilities" file.name
    route := ← string fm "route" file.name
    helpTargets
    title := ← string fm "title" file.name
    summary := ← string fm "summary" file.name
    searchTags := ← stringList fm "search_tags" file.name
    synonyms := ← stringList fm "synonyms" file.name
    relatedTopics := ← stringList fm "related_topics" file.name
    order := ← positiveInt fm "order" file.name
    safeNavigation := ← safeNavigation fm file.name
    safeLinks := ← safeNavigationList ((fm.find "safe_links").getD (.list [])) file.name
    tour := ← tourEntries lib (fm.get "tour") file.name helpTargets plans
    body := stripBy isSpace body }

namespace FrontmatterLemmas

variable {lib : Libraries} {fm : Frontmatter} {name message : String} {value : Yaml}
  {items : List Yaml} {entry : TourEntry} {entries : List TourEntry}
  {targets topicPlans plans : List String}

theorem require_eq_ok {ok : Bool} {u : Unit} (h : require ok message = .ok u) : ok = true := by
  cases ok with
  | true => rfl
  | false => nomatch h

theorem of_require {α : Type} {ok : Bool} {next : Unit → Except HelpError α} {a : α}
    (h : (require ok message >>= next) = .ok a) : ok = true ∧ next () = .ok a := by
  obtain ⟨_, hok, hnext⟩ := bind_eq_ok.mp h
  exact ⟨require_eq_ok hok, hnext⟩

theorem plans_of_tourEntry (h : tourEntry lib name targets topicPlans value = .ok entry) :
    ∀ plan ∈ entry.plans, plan ∈ topicPlans := by
  unfold tourEntry at h
  split at h
  next fields =>
    obtain ⟨-, h⟩ := of_require h
    split at h
    · obtain ⟨-, h⟩ := of_require h
      obtain ⟨-, h⟩ := of_require h
      obtain ⟨-, h⟩ := of_require h
      obtain ⟨-, h⟩ := of_require h
      obtain ⟨plans, -, h⟩ := bind_eq_ok.mp h
      obtain ⟨hplans, h⟩ := of_require h
      obtain ⟨_, -, h⟩ := bind_eq_ok.mp h
      obtain ⟨_, -, h⟩ := bind_eq_ok.mp h
      obtain rfl := Except.ok.inj h
      exact fun plan hplan => of_decide_eq_true (List.all_eq_true.mp hplans plan hplan)
    · nomatch h
  · nomatch h

theorem plans_of_tourEntries
    (h : tourEntries lib value name targets topicPlans = .ok (some entries)) :
    value ≠ .null ∧ ∀ entry ∈ entries, ∀ plan ∈ entry.plans, plan ∈ topicPlans := by
  unfold tourEntries at h
  split at h
  · nomatch h
  · refine ⟨nofun, ?_⟩
    cases hentry : tourEntry lib name targets topicPlans (.map _) with
    | error e =>
      rw [hentry] at h
      nomatch h
    | ok entry =>
      rw [hentry] at h
      obtain rfl := Option.some.inj (Except.ok.inj h)
      intro entry' hmem
      obtain rfl := List.mem_singleton.mp hmem
      exact plans_of_tourEntry hentry
  · nomatch h
  · refine ⟨nofun, ?_⟩
    next items _ =>
      cases hitems : items.mapM (tourEntry lib name targets topicPlans) with
      | error e =>
        rw [hitems] at h
        nomatch h
      | ok results =>
        rw [hitems] at h
        obtain rfl := Option.some.inj (Except.ok.inj h)
        intro entry hmem
        obtain ⟨item, -, hentry⟩ := (mapM_spec hitems).2 entry hmem
        exact plans_of_tourEntry hentry
  · nomatch h

theorem client_of_validateAudience {audience : String} {u : Unit}
    (h : validateAudience fm audience targets name = .ok u) (htour : fm.get "tour" ≠ .null) :
    audience ≠ "client" := by
  unfold validateAudience at h
  obtain ⟨-, h⟩ := of_require h
  obtain ⟨-, h⟩ := of_require h
  obtain ⟨hclient, -⟩ := of_require h
  rintro rfl
  split at hclient
  next hnull => exact htour hnull
  · exact absurd hclient (by decide)

theorem audience_of_validateFrontmatter {u : Unit}
    (h : validateFrontmatter lib fm name = .ok u) (htour : fm.get "tour" ≠ .null) :
    string fm "audience" name = .ok "tenant_admin" := by
  unfold validateFrontmatter at h
  dsimp only at h
  split at h
  · nomatch h
  split at h
  · nomatch h
  obtain ⟨_, -, h⟩ := bind_eq_ok.mp h
  obtain ⟨-, h⟩ := of_require h
  obtain ⟨audience, haudience, h⟩ := bind_eq_ok.mp h
  obtain ⟨hallowed, h⟩ := of_require h
  obtain ⟨_, -, h⟩ := bind_eq_ok.mp h
  obtain ⟨-, h⟩ := of_require h
  obtain ⟨_, -, h⟩ := bind_eq_ok.mp h
  obtain ⟨-, h⟩ := of_require h
  obtain ⟨_, -, h⟩ := bind_eq_ok.mp h
  obtain ⟨-, h⟩ := of_require h
  obtain ⟨_, -, h⟩ := bind_eq_ok.mp h
  obtain ⟨-, h⟩ := of_require h
  obtain ⟨_, -, h⟩ := bind_eq_ok.mp h
  obtain ⟨-, h⟩ := of_require h
  obtain ⟨-, h⟩ := of_require h
  obtain ⟨-, h⟩ := of_require h
  obtain ⟨_, -, h⟩ := bind_eq_ok.mp h
  obtain ⟨-, h⟩ := of_require h
  obtain ⟨_, hvalid, -⟩ := bind_eq_ok.mp h
  have hne := client_of_validateAudience hvalid htour
  have hmem := of_decide_eq_true hallowed
  unfold allowedAudiences at hmem
  obtain rfl | rfl := List.mem_pair.mp hmem
  · exact haudience
  · exact absurd rfl hne

end FrontmatterLemmas

open FrontmatterLemmas

variable {lib : Libraries} {file : HelpFile} {locale : String} {topic : Topic}
  {entries : List TourEntry}

theorem tour_of_compileTopic (h : compileTopic lib file locale = .ok topic)
    (htour : topic.tour = some entries) : topic.audience = "tenant_admin" ∧
      ∀ entry ∈ entries, ∀ plan ∈ entry.plans, plan ∈ topic.plans := by
  unfold compileTopic at h
  obtain ⟨⟨fm, body⟩, -, h⟩ := bind_eq_ok.mp h
  dsimp only at h
  obtain ⟨_, hvalid, h⟩ := bind_eq_ok.mp h
  obtain ⟨_, -, h⟩ := bind_eq_ok.mp h
  obtain ⟨_, -, h⟩ := bind_eq_ok.mp h
  obtain ⟨plans, hplans, h⟩ := bind_eq_ok.mp h
  obtain ⟨targets, -, h⟩ := bind_eq_ok.mp h
  obtain ⟨_, -, h⟩ := bind_eq_ok.mp h
  obtain ⟨audience, haudience, h⟩ := bind_eq_ok.mp h
  obtain ⟨_, -, h⟩ := bind_eq_ok.mp h
  obtain ⟨_, -, h⟩ := bind_eq_ok.mp h
  obtain ⟨_, -, h⟩ := bind_eq_ok.mp h
  obtain ⟨_, -, h⟩ := bind_eq_ok.mp h
  obtain ⟨_, -, h⟩ := bind_eq_ok.mp h
  obtain ⟨_, -, h⟩ := bind_eq_ok.mp h
  obtain ⟨_, -, h⟩ := bind_eq_ok.mp h
  obtain ⟨_, -, h⟩ := bind_eq_ok.mp h
  obtain ⟨_, -, h⟩ := bind_eq_ok.mp h
  obtain ⟨_, -, h⟩ := bind_eq_ok.mp h
  obtain ⟨_, -, h⟩ := bind_eq_ok.mp h
  obtain ⟨_, -, h⟩ := bind_eq_ok.mp h
  obtain ⟨tour, hentries, h⟩ := bind_eq_ok.mp h
  obtain rfl := Except.ok.inj h
  obtain rfl : tour = some entries := htour
  obtain ⟨hne, hsub⟩ := plans_of_tourEntries hentries
  have htenant := audience_of_validateFrontmatter hvalid hne
  exact ⟨Except.ok.inj (haudience.symm.trans htenant), hsub⟩

end Trackpal.Help

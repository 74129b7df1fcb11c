import Mathlib.Data.String.Basic
import Mathlib.Data.List.Perm.Basic
import Mathlib.Data.List.Sort
import Trackpal.Foundation.Grouping
import Trackpal.Help.Frontmatter

/-!
# The compiler of the help

`HelpCompiler.compile` and `compile_help`: the topics of both locales are compiled and compared, and
the tour entries of all topics are regrouped into releases.

Results:
1. `releases_mirrored`: the releases of both locales, put together from topics that agree, agree
   as well.
2. `step_of_release`: a step of a release is an entry of one of the topics.
-/

namespace Trackpal.Help

open Foundation

/-! ## The artifact -/

structure ServedStep where
  topicId : String
  relatedTopics : List String
  title : String
  content : String
  summary : String
  route : String
  settingsCategory : Option String
  target : String
  conditional : Bool
  order : Int
deriving DecidableEq, Repr

structure TourStep extends ServedStep where
  plans : List String
deriving DecidableEq, Repr

structure Release where
  releaseId : String
  plans : List String
  steps : List TourStep
deriving DecidableEq, Repr

structure SearchItem where
  id : String
  title : String
  terms : List String
deriving DecidableEq, Repr

/-- Something for each of `SUPPORTED_LOCALES`. -/
structure PerLocale (α : Type) where
  en : α
  es : α
deriving DecidableEq, Repr

def supportedLocales : List String := ["en", "es"]

def PerLocale.get? {α : Type} (data : PerLocale α) (locale : String) : Option α :=
  if locale = "en" then some data.en else if locale = "es" then some data.es else none

def PerLocale.map {α β : Type} (f : α → β) (data : PerLocale α) : PerLocale β :=
  { en := f data.en, es := f data.es }

structure Artifact where
  schemaVersion : Nat
  contentVersion : String
  frontendTargetContractVersion : String
  locales : List String
  topics : PerLocale (List Topic)
  search : PerLocale (List SearchItem)
  tourReleases : PerLocale (List Release)
deriving DecidableEq, Repr

def artifactSchemaVersion : Nat := 1

def frontendTargetContractVersion : String := "2"

/-! ## The topics of a locale -/

structure HelpDirectory where
  name : String
  files : List HelpFile

variable (lib : Libraries)

def compileTopics (locale : String) (done : List Topic) :
    List HelpFile → Except HelpError (List Topic)
  | [] => .ok done
  | file :: rest => do
    let topic ← compileTopic lib file locale
    let id := topic.id
    require (id ∉ done.map (·.id)) s!"Duplicate topic id: {id}"
    compileTopics locale (done ++ [topic]) rest

def sortTopics (topics : List Topic) : List Topic :=
  topics.mergeSort fun a b => decide (a.id ≤ b.id)

def compileLocale (tree : List HelpDirectory) (locale : String) :
    Except HelpError (List Topic) :=
  match tree.find? (·.name = locale) with
  | none => refuse s!"Missing locale directory: {locale}"
  | some directory => do
    require (!directory.files.isEmpty) s!"Locale has no Markdown topics: {locale}"
    return sortTopics (← compileTopics lib locale [] directory.files)

/-! ## Parity -/

def tourContract (tour : Option (List TourEntry)) : Option (List TourContract) :=
  tour.map fun entries => entries.map (·.toTourContract)

/-- The comparisons of two topics of one id, with the field that each is about. -/
def parityChecks (english spanish : Topic) : List (String × Bool) :=
  [("id", english.id = spanish.id),
    ("audience", english.audience = spanish.audience),
    ("plans", english.plans = spanish.plans),
    ("channels", english.channels = spanish.channels),
    ("module", english.module = spanish.module),
    ("capabilities", english.capabilities = spanish.capabilities),
    ("route", english.route = spanish.route),
    ("help_targets", english.helpTargets = spanish.helpTargets),
    ("related_topics", english.relatedTopics = spanish.relatedTopics),
    ("order", english.order = spanish.order),
    ("safe_navigation", english.safeNavigation = spanish.safeNavigation),
    ("safe_links", english.safeLinks = spanish.safeLinks),
    ("tour", tourContract english.tour = tourContract spanish.tour)]

def sameMembers (a b : List String) : Bool := a.all (· ∈ b) && b.all (· ∈ a)

def validateTopicParity (english spanish : Topic) : Except HelpError Unit := do
  let id := english.id
  (parityChecks english spanish).forM fun check => do
    let field := check.1
    require check.2 s!"Topic metadata parity mismatch for {id}: {field}"
  let englishLinks ← absoluteLinkDestinations lib english.body
  let spanishLinks ← absoluteLinkDestinations lib spanish.body
  require (sameMembers (englishLinks.map (·.1)) (spanishLinks.map (·.1)))
    s!"External URL parity mismatch for {id}"

def validateMetadataParity (topics : PerLocale (List Topic)) : Except HelpError Unit :=
  topics.en.forM fun english =>
    match topics.es.find? (·.id = english.id) with
    | none => .error .python
    | some spanish => validateTopicParity lib english spanish

def validateRelatedTopics (topics : PerLocale (List Topic)) : Except HelpError Unit :=
  (topics.en ++ topics.es).forM fun topic => do
    let id := topic.id
    let unknown := topic.relatedTopics.filter (· ∉ topics.en.map (·.id))
    if unknown ≠ [] then
      throw (.validation s!"Unknown related topic in {id}" (sortTexts unknown.eraseDups))

/-! ## Releases -/

def tourSteps (topic : Topic) : List (String × TourStep) :=
  (topic.tour.getD []).map fun tour => (tour.releaseId, {
    topicId := topic.id
    relatedTopics := topic.relatedTopics
    title := tour.title.getD topic.title
    content := tour.content.getD topic.body
    summary := topic.summary
    route := topic.route
    settingsCategory := topic.safeNavigation.settingsCategory
    target := tour.target
    conditional := tour.conditional
    order := tour.order
    plans := tour.plans })

def sortSteps (steps : List TourStep) : List TourStep :=
  steps.mergeSort fun a b =>
    decide (a.order < b.order ∨ a.order = b.order ∧ a.topicId ≤ b.topicId)

def countedOrders (n : Nat) : List Int := (List.range' 1 n).map Int.ofNat

def compileRelease (found : String × List TourStep) : Except HelpError Release := do
  let releaseId := found.1
  let steps := sortSteps found.2
  require (steps.length ≤ 7 && (steps.map (·.order)).Nodup)
    s!"Tour release {releaseId} must have 1-7 unique ordered steps"
  require (steps.map (·.order) = countedOrders steps.length)
    s!"Tour release {releaseId} steps must be ordered from 1"
  return { releaseId, plans := sortTexts (steps.flatMap (·.plans)).eraseDups, steps }

def compileReleases (topics : List Topic) : Except HelpError (List Release) :=
  ((collect (topics.flatMap tourSteps)).mergeSort fun a b => decide (a.1 ≤ b.1)).mapM
    compileRelease

def compileTourReleases (topics : PerLocale (List Topic)) :
    Except HelpError (PerLocale (List Release)) := do
  let en ← compileReleases topics.en
  let es ← compileReleases topics.es
  require (en.map (·.releaseId) = es.map (·.releaseId))
    "English and Spanish tour releases must have parity"
  return { en, es }

/-! ## The whole -/

def searchItem (topic : Topic) : SearchItem where
  id := topic.id
  title := topic.title
  terms := [topic.title, topic.summary] ++ topic.searchTags ++ topic.synonyms ++ [topic.body]

/-- `HelpCompiler.compile`. -/
def compile (tree : List HelpDirectory) : Except HelpError Artifact := do
  let unknown := (tree.map (·.name)).filter (· ∉ supportedLocales)
  if unknown ≠ [] then throw (.validation "Unknown Help locales" (sortTexts unknown))
  let en ← compileLocale lib tree "en"
  let es ← compileLocale lib tree "es"
  let topics : PerLocale (List Topic) := { en, es }
  require (sameMembers (en.map (·.id)) (es.map (·.id)))
    "English and Spanish topic IDs must have parity"
  validateMetadataParity lib topics
  validateRelatedTopics topics
  let tourReleases ← compileTourReleases topics
  return {
    schemaVersion := artifactSchemaVersion
    contentVersion := "help-client-manual-1"
    frontendTargetContractVersion := frontendTargetContractVersion
    locales := supportedLocales
    topics
    search := topics.map (·.map searchItem)
    tourReleases }

def validateArtifact (artifact : Artifact) (allowTargetContractMismatch : Bool) :
    Except HelpError Unit := do
  let schema := artifact.schemaVersion
  let target := artifact.frontendTargetContractVersion
  require (artifact.schemaVersion = artifactSchemaVersion)
    s!"Incompatible Help artifact schema version: {schema}"
  require (allowTargetContractMismatch || target = frontendTargetContractVersion)
    s!"Incompatible Help frontend target contract version: '{target}'"
  require (sameMembers artifact.locales supportedLocales)
    "Help artifact locales do not match the supported locales"

def compileHelp (tree : List HelpDirectory) : Except HelpError Artifact := do
  let artifact ← compile lib tree
  validateArtifact artifact false
  return artifact

/-! ## What is not worded -/

/-- What a topic says beside its words. -/
structure AccessMetadata where
  id : String
  audience : String
  plans : List String
  channels : List String
  module : String
  capabilities : List String
  route : String
  helpTargets : List String
  relatedTopics : List String
  order : Int
  safeNavigation : SafeNavigation
  safeLinks : List SafeNavigation
deriving DecidableEq, Repr

def Topic.access (topic : Topic) : AccessMetadata where
  id := topic.id
  audience := topic.audience
  plans := topic.plans
  channels := topic.channels
  module := topic.module
  capabilities := topic.capabilities
  route := topic.route
  helpTargets := topic.helpTargets
  relatedTopics := topic.relatedTopics
  order := topic.order
  safeNavigation := topic.safeNavigation
  safeLinks := topic.safeLinks

structure StepContract where
  topicId : String
  route : String
  target : String
  order : Int
  conditional : Bool
  plans : List String
deriving DecidableEq, Repr

def TourStep.contract (step : TourStep) : StepContract where
  topicId := step.topicId
  route := step.route
  target := step.target
  order := step.order
  conditional := step.conditional
  plans := step.plans

def Release.contract (release : Release) : String × List String × List StepContract :=
  (release.releaseId, release.plans, release.steps.map (·.contract))

namespace CompilerLemmas

open FrontmatterLemmas

variable {lib : Libraries} {tree : List HelpDirectory} {locale : String} {done topics : List Topic}
  {files : List HelpFile} {en es : List Topic} {english spanish : Topic}

theorem compileTopics_spec (h : compileTopics lib locale done files = .ok topics)
    (hdone : (done.map (·.id)).Nodup) : (topics.map (·.id)).Nodup ∧
      ∀ topic ∈ topics, topic ∈ done ∨ ∃ file, compileTopic lib file locale = .ok topic := by
  induction files generalizing done with
  | nil =>
    obtain rfl := Except.ok.inj h
    exact ⟨hdone, fun topic hmem => .inl hmem⟩
  | cons file rest ih =>
    rw [compileTopics] at h
    obtain ⟨topic, htopic, h⟩ := bind_eq_ok.mp h
    obtain ⟨hfresh, h⟩ := of_require h
    have hnodup : ((done ++ [topic]).map (·.id)).Nodup := by
      rw [List.map_append]
      refine List.nodup_append.mpr ⟨hdone, List.nodup_cons.mpr ⟨List.not_mem_nil, List.nodup_nil⟩,
        fun a ha b hb heq => of_decide_eq_true hfresh ?_⟩
      obtain rfl : b = topic.id := List.mem_singleton.mp hb
      exact heq ▸ ha
    obtain ⟨hall, hfrom⟩ := ih h hnodup
    refine ⟨hall, fun other hmem => ?_⟩
    obtain hold | hfile := hfrom other hmem
    · obtain hold | hnew := List.mem_append.mp hold
      · exact .inl hold
      · exact .inr ⟨file, List.mem_singleton.mp hnew ▸ htopic⟩
    · exact .inr hfile

structure LocaleTopics (lib : Libraries) (locale : String) (topics : List Topic) : Prop where
  nodup : (topics.map (·.id)).Nodup
  ordered : (topics.map (·.id)).Pairwise (· ≤ ·)
  compiled : ∀ topic ∈ topics, ∃ file, compileTopic lib file locale = .ok topic

theorem localeTopics_of_compileLocale (h : compileLocale lib tree locale = .ok topics) :
    LocaleTopics lib locale topics := by
  unfold compileLocale at h
  split at h
  · nomatch h
  next directory _ =>
    obtain ⟨-, h⟩ := of_require h
    obtain ⟨found, hfound, h⟩ := bind_eq_ok.mp h
    obtain rfl := Except.ok.inj h
    obtain ⟨hnodup, hcompiled⟩ := compileTopics_spec hfound List.nodup_nil
    have hperm : (sortTopics found).Perm found := List.mergeSort_perm _ _
    refine ⟨(hperm.map _).nodup_iff.mpr hnodup, ?_, fun topic hmem => ?_⟩
    · refine List.pairwise_map.mpr ((List.pairwise_mergeSort ?_ ?_ found).imp of_decide_eq_true)
      · exact fun a b c hab hbc =>
          decide_eq_true (le_trans (of_decide_eq_true hab) (of_decide_eq_true hbc))
      · intro a b
        rw [Bool.or_eq_true, decide_eq_true_eq, decide_eq_true_eq]
        exact le_total a.id b.id
    · exact (hcompiled topic (hperm.mem_iff.mp hmem)).resolve_left List.not_mem_nil

theorem ids_eq {locale' : String} (hen : LocaleTopics lib locale en)
    (hes : LocaleTopics lib locale' es)
    (hsame : sameMembers (en.map (·.id)) (es.map (·.id)) = true) :
    en.map (·.id) = es.map (·.id) := by
  obtain ⟨hinto, hfrom⟩ := Bool.and_eq_true_iff.mp hsame
  have hperm : (en.map (·.id)).Perm (es.map (·.id)) :=
    (List.perm_ext_iff_of_nodup hen.nodup hes.nodup).mpr fun id =>
      ⟨fun hid => of_decide_eq_true (List.all_eq_true.mp hinto id hid),
        fun hid => of_decide_eq_true (List.all_eq_true.mp hfrom id hid)⟩
  exact hperm.eq_of_pairwise (fun a b _ _ => le_antisymm) hen.ordered hes.ordered

theorem forM_spec {α : Type} {f : α → Except HelpError Unit} {l : List α} {u : Unit}
    (h : l.forM f = .ok u) : ∀ a ∈ l, f a = .ok () := by
  induction l with
  | nil => exact fun a ha => nomatch ha
  | cons first rest ih =>
    change (f first >>= fun _ => rest.forM f) = .ok u at h
    obtain ⟨_, hfirst, hrest⟩ := bind_eq_ok.mp h
    exact List.forall_mem_cons.mpr ⟨hfirst, ih hrest⟩

theorem agree_of_validateTopicParity {u : Unit}
    (h : validateTopicParity lib english spanish = .ok u) :
    english.access = spanish.access ∧ tourContract english.tour = tourContract spanish.tour := by
  unfold validateTopicParity at h
  dsimp only at h
  obtain ⟨_, hchecks, -⟩ := bind_eq_ok.mp h
  have hall : ∀ check ∈ parityChecks english spanish, check.2 = true :=
    fun check hcheck => require_eq_ok (forM_spec hchecks check hcheck)
  simp only [parityChecks, List.forall_mem_cons, decide_eq_true_eq] at hall
  obtain ⟨hid, haudience, hplans, hchannels, hmodule, hcapabilities, hroute, htargets, hrelated,
    horder, hnavigation, hlinks, htour, -⟩ := hall
  refine ⟨?_, htour⟩
  unfold Topic.access
  rw [hid, haudience, hplans, hchannels, hmodule, hcapabilities, hroute, htargets, hrelated,
    horder, hnavigation, hlinks]

theorem map_eq_of_ids {β : Type} {f : Topic → β} (hids : en.map (·.id) = es.map (·.id))
    (hnodup : (es.map (·.id)).Nodup) (h : ∀ a ∈ en, ∃ b ∈ es, b.id = a.id ∧ f a = f b) :
    en.map f = es.map f := by
  have hlength : en.length = es.length := by
    simpa using congrArg List.length hids
  refine List.ext_getElem (by simpa using hlength) fun i hi hi' => ?_
  rw [List.getElem_map, List.getElem_map]
  rw [List.length_map] at hi hi'
  have hid : (en[i]).id = (es[i]).id := by
    have hget := List.getElem_of_eq hids (by simpa using hi : i < (en.map (·.id)).length)
    rwa [List.getElem_map, List.getElem_map] at hget
  obtain ⟨b, hb, heq, hf⟩ := h _ (List.getElem_mem hi)
  rw [hf, List.inj_on_of_nodup_map hnodup hb (List.getElem_mem hi') (heq.trans hid)]

def contractSteps (said : AccessMetadata × Option (List TourContract)) :
    List (String × StepContract) :=
  (said.2.getD []).map fun tour => (tour.releaseId, {
    topicId := said.1.id
    route := said.1.route
    target := tour.target
    order := tour.order
    conditional := tour.conditional
    plans := tour.plans })

theorem map_tourSteps {topic : Topic} :
    (tourSteps topic).map (fun row => (row.1, row.2.contract)) =
      contractSteps (topic.access, tourContract topic.tour) := by
  unfold tourSteps contractSteps tourContract
  cases topic.tour with
  | none => rfl
  | some entries =>
    dsimp only [Option.map_some, Option.getD_some]
    rw [List.map_map, List.map_map]
    rfl

def releaseOf (found : String × List TourStep) : Release where
  releaseId := found.1
  plans := sortTexts ((sortSteps found.2).flatMap (·.plans)).eraseDups
  steps := sortSteps found.2

theorem compileRelease_spec {found : String × List TourStep} {release : Release}
    (h : compileRelease found = .ok release) : release = releaseOf found ∧
      release.steps.map (·.order) = countedOrders release.steps.length := by
  unfold compileRelease at h
  dsimp only at h
  obtain ⟨-, h⟩ := of_require h
  obtain ⟨horders, h⟩ := of_require h
  obtain rfl := Except.ok.inj h
  exact ⟨rfl, of_decide_eq_true horders⟩

def foundReleases (topics : List Topic) : List (String × List TourStep) :=
  (collect (topics.flatMap tourSteps)).mergeSort fun a b => decide (a.1 ≤ b.1)

theorem compileReleases_spec {releases : List Release} (h : compileReleases topics = .ok releases) :
    releases = (foundReleases topics).map releaseOf ∧
      ∀ release ∈ releases, release.steps.map (·.order) = countedOrders release.steps.length := by
  unfold compileReleases at h
  change (foundReleases topics).mapM compileRelease = .ok releases at h
  refine ⟨?_, fun release hmem => ?_⟩
  · generalize foundReleases topics = groups at h
    induction groups generalizing releases with
    | nil => exact (Except.ok.inj h).symm
    | cons found rest ih =>
      rw [List.mapM_cons] at h
      obtain ⟨release, hrelease, h⟩ := bind_eq_ok.mp h
      obtain ⟨others, hothers, h⟩ := bind_eq_ok.mp h
      obtain rfl := Except.ok.inj h
      rw [List.map_cons, ← ih hothers, ← (compileRelease_spec hrelease).1]
  · obtain ⟨found, -, hfound⟩ := (mapM_spec h).2 release hmem
    exact (compileRelease_spec hfound).2

/-- What is said of a release beside its words is read of what its steps say so. -/
def contractOf (found : String × List StepContract) : String × List String × List StepContract :=
  let steps := found.2.mergeSort fun a b =>
    decide (a.order < b.order ∨ a.order = b.order ∧ a.topicId ≤ b.topicId)
  (found.1, sortTexts (steps.flatMap (·.plans)).eraseDups, steps)

theorem contract_releaseOf {found : String × List TourStep} :
    (releaseOf found).contract = contractOf (found.1, found.2.map (·.contract)) := by
  have hsort : (sortSteps found.2).map (·.contract) =
      (found.2.map (·.contract)).mergeSort fun a b =>
        decide (a.order < b.order ∨ a.order = b.order ∧ a.topicId ≤ b.topicId) :=
    List.map_mergeSort fun a _ b _ => rfl
  have hplans : (sortSteps found.2).flatMap (·.plans) =
      ((sortSteps found.2).map (·.contract)).flatMap (·.plans) := by
    rw [List.flatMap_map]
    rfl
  unfold Release.contract releaseOf contractOf
  dsimp only
  rw [hplans, hsort]

theorem map_foundReleases : (foundReleases topics).map (fun found => (releaseOf found).contract) =
    ((collect ((topics.map fun topic => (topic.access, tourContract topic.tour)).flatMap
      contractSteps)).mergeSort fun a b => decide (a.1 ≤ b.1)).map contractOf := by
  have hrows : (topics.flatMap tourSteps).map (fun row => (row.1, row.2.contract)) =
      (topics.map fun topic => (topic.access, tourContract topic.tour)).flatMap contractSteps := by
    rw [List.map_flatMap, List.flatMap_map]
    exact congrArg (topics.flatMap ·) (funext fun topic => map_tourSteps)
  have hsort : (foundReleases topics).map (fun found => (found.1, found.2.map (·.contract))) =
      ((collect (topics.flatMap tourSteps)).map fun found =>
        (found.1, found.2.map (·.contract))).mergeSort fun a b => decide (a.1 ≤ b.1) :=
    List.map_mergeSort fun a _ b _ => rfl
  rw [← hrows, collect_map, ← hsort, List.map_map]
  exact List.map_congr_left fun found _ => contract_releaseOf

end CompilerLemmas

open CompilerLemmas FrontmatterLemmas

variable {lib : Libraries} {tree : List HelpDirectory} {artifact : Artifact}

structure Compiled (lib : Libraries) (artifact : Artifact) : Prop where
  en : LocaleTopics lib "en" artifact.topics.en
  es : LocaleTopics lib "es" artifact.topics.es
  ids : artifact.topics.en.map (·.id) = artifact.topics.es.map (·.id)
  parity : ∀ a ∈ artifact.topics.en, ∃ b ∈ artifact.topics.es, b.id = a.id ∧
    (a.access, tourContract a.tour) = (b.access, tourContract b.tour)
  search : artifact.search = artifact.topics.map (·.map searchItem)
  enReleases : compileReleases artifact.topics.en = .ok artifact.tourReleases.en
  esReleases : compileReleases artifact.topics.es = .ok artifact.tourReleases.es

theorem compiled_of_compileHelp (h : compileHelp lib tree = .ok artifact) :
    Compiled lib artifact := by
  unfold compileHelp at h
  obtain ⟨artifact, hcompile, h⟩ := bind_eq_ok.mp h
  obtain ⟨_, -, h⟩ := bind_eq_ok.mp h
  obtain rfl := Except.ok.inj h
  unfold compile at hcompile
  dsimp only at hcompile
  split at hcompile
  · nomatch hcompile
  obtain ⟨en, hen, hcompile⟩ := bind_eq_ok.mp hcompile
  obtain ⟨es, hes, hcompile⟩ := bind_eq_ok.mp hcompile
  obtain ⟨hids, hcompile⟩ := of_require hcompile
  obtain ⟨_, hparity, hcompile⟩ := bind_eq_ok.mp hcompile
  obtain ⟨_, -, hcompile⟩ := bind_eq_ok.mp hcompile
  obtain ⟨releases, hreleases, hcompile⟩ := bind_eq_ok.mp hcompile
  obtain rfl := Except.ok.inj hcompile
  have henTopics := localeTopics_of_compileLocale hen
  have hesTopics := localeTopics_of_compileLocale hes
  unfold compileTourReleases at hreleases
  obtain ⟨enReleases, henReleases, hreleases⟩ := bind_eq_ok.mp hreleases
  obtain ⟨esReleases, hesReleases, hreleases⟩ := bind_eq_ok.mp hreleases
  obtain ⟨-, hreleases⟩ := of_require hreleases
  obtain rfl := Except.ok.inj hreleases
  refine ⟨henTopics, hesTopics, ids_eq henTopics hesTopics hids, fun a ha => ?_, rfl, henReleases,
    hesReleases⟩
  have hcheck := forM_spec hparity a ha
  split at hcheck
  · nomatch hcheck
  next b hb =>
    obtain ⟨haccess, htour⟩ := agree_of_validateTopicParity hcheck
    refine ⟨b, List.mem_of_find?_eq_some hb,
      of_decide_eq_true (@List.find?_some Topic (fun topic => decide (topic.id = a.id)) _ _ hb), ?_⟩
    rw [haccess, htour]

/-- The topics agree, one by one, in what is not worded. -/
theorem topics_mirrored (h : Compiled lib artifact) :
    artifact.topics.en.map (fun topic => (topic.access, tourContract topic.tour)) =
      artifact.topics.es.map fun topic => (topic.access, tourContract topic.tour) :=
  map_eq_of_ids h.ids h.es.nodup h.parity

theorem releases_mirrored (h : Compiled lib artifact) :
    artifact.tourReleases.en.map (·.contract) = artifact.tourReleases.es.map (·.contract) := by
  rw [(compileReleases_spec h.enReleases).1, (compileReleases_spec h.esReleases).1, List.map_map,
    List.map_map]
  change (foundReleases artifact.topics.en).map (fun found => (releaseOf found).contract) =
    (foundReleases artifact.topics.es).map fun found => (releaseOf found).contract
  rw [map_foundReleases, map_foundReleases, topics_mirrored h]

theorem nodup_releases {topics : List Topic} {releases : List Release}
    (h : compileReleases topics = .ok releases) : (releases.map (·.releaseId)).Nodup := by
  rw [(compileReleases_spec h).1, List.map_map]
  exact ((List.mergeSort_perm _ _).map Prod.fst).nodup_iff.mpr nodup_collect

theorem step_of_release {topics : List Topic} {releases : List Release} {release : Release}
    {step : TourStep} (h : compileReleases topics = .ok releases) (hrelease : release ∈ releases)
    (hstep : step ∈ release.steps) : ∃ topic ∈ topics, ∃ entries, topic.tour = some entries ∧
      ∃ entry ∈ entries, step.topicId = topic.id ∧ step.plans = entry.plans := by
  rw [(compileReleases_spec h).1] at hrelease
  obtain ⟨found, hfound, rfl⟩ := List.mem_map.mp hrelease
  have hrow := mem_of_collect ((List.mergeSort_perm _ _).mem_iff.mp hfound)
    ((List.mergeSort_perm _ _).mem_iff.mp hstep)
  obtain ⟨topic, htopic, hrow⟩ := List.mem_flatMap.mp hrow
  refine ⟨topic, htopic, ?_⟩
  unfold tourSteps at hrow
  cases htour : topic.tour with
  | none =>
    rw [htour] at hrow
    nomatch hrow
  | some entries =>
    rw [htour] at hrow
    obtain ⟨entry, hentry, heq⟩ := List.mem_map.mp hrow
    obtain ⟨-, rfl⟩ := Prod.mk.inj heq
    exact ⟨entries, rfl, entry, hentry, rfl, rfl⟩

end Trackpal.Help

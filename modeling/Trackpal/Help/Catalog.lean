import Trackpal.Help.Compiler

/-!
# Serving the help

`HelpCatalog`: the topics of a compiled artifact for an audience and a plan, the releases of the
orientation tour, and the search.

Results:
1. `tourRelease_of_mem`: each release of a plan is served with its own steps of the plan.
2. `mirroredAndServable_of_compileHelp`.
-/

namespace Trackpal.Help

open Foundation

structure PublicTopic where
  id : String
  title : String
  summary : String
  module : String
  route : String
  order : Int
  helpTargets : List String
  safeNavigation : SafeNavigation
  safeLinks : List SafeNavigation
deriving DecidableEq, Repr

structure TopicPage extends PublicTopic where
  body : String
deriving DecidableEq, Repr

structure HelpIndex where
  schemaVersion : Nat
  contentVersion : String
  frontendTargetContractVersion : String
  locale : String
  topics : List PublicTopic
deriving DecidableEq, Repr

structure ServedRelease where
  releaseId : String
  plans : List String
  steps : List ServedStep
deriving DecidableEq, Repr

structure PublicSearchTopic where
  id : String
  title : String
  module : String
  route : String
  order : Int
deriving DecidableEq, Repr

structure SearchResult extends PublicSearchTopic where
  excerpt : String
deriving DecidableEq, Repr

def publicTopic (topic : Topic) : PublicTopic where
  id := topic.id
  title := topic.title
  summary := topic.summary
  module := topic.module
  route := topic.route
  order := topic.order
  helpTargets := topic.helpTargets
  safeNavigation := topic.safeNavigation
  safeLinks := topic.safeLinks

def publicSearchTopic (topic : Topic) : PublicSearchTopic where
  id := topic.id
  title := topic.title
  module := topic.module
  route := topic.route
  order := topic.order

variable (lib : Libraries)

def normalizeSearchText (value : String) : String :=
  stripBy isSpace (.ofList (collapseSpaces false (lib.casefold value).toList))

/-- `lstrip("#- ")`. -/
def cleanExcerpt (value : String) : String :=
  .ofList (value.toList.dropWhile (· ∈ ['#', '-', ' ']))

def excerptOf (body query fallback : String) : String :=
  let lines := ((body.splitOn "\n").map (stripBy isSpace ·)).filter (· ≠ "")
  match lines.find? fun line => occursIn query (normalizeSearchText lib line) with
  | some line => cleanExcerpt line
  | none => if fallback ≠ "" then cleanExcerpt fallback else (lines.head?.map cleanExcerpt).getD ""

structure HelpCatalog where
  artifact : Artifact

namespace HelpCatalog

variable (c : HelpCatalog)

def topics (locale : String) : List Topic := (c.artifact.topics.get? locale).getD []

def authorizedTopics (locale plan audience : String) : List Topic :=
  ((c.topics locale).filter fun topic => decide (topic.audience = audience ∧ plan ∈ topic.plans))
    |>.mergeSort fun a b => decide (a.order < b.order ∨ a.order = b.order ∧ a.id ≤ b.id)

def index (locale plan audience : String) : HelpIndex where
  schemaVersion := c.artifact.schemaVersion
  contentVersion := c.artifact.contentVersion
  frontendTargetContractVersion := c.artifact.frontendTargetContractVersion
  locale := locale
  topics := (c.authorizedTopics locale plan audience).map publicTopic

def topic (locale plan topicId audience : String) : Option TopicPage :=
  ((c.authorizedTopics locale plan audience).find? (·.id = topicId)).map fun topic =>
    { publicTopic topic with body := topic.body }

def tourReleases (locale plan : String) : List Release :=
  ((c.artifact.tourReleases.get? locale).getD []).filter fun release =>
    decide (plan ∈ release.plans)

/-- A release with the steps of a plan. -/
def served (plan : String) (release : Release) : ServedRelease where
  releaseId := release.releaseId
  plans := release.plans
  steps := (release.steps.filter fun step => decide (plan ∈ step.plans)).map (·.toServedStep)

/-- `tour_release`: the first release of the plan, if none is asked for. -/
def tourRelease (locale plan : String) (releaseId : Option String) : Option ServedRelease :=
  ((c.tourReleases locale plan).find? fun release =>
    decide (plan ∈ release.plans) && releaseId.all (release.releaseId = ·)).map (served plan)

def search (locale plan query audience : String) : List SearchResult :=
  let normalizedQuery := normalizeSearchText lib query
  if normalizedQuery = "" then []
  else
    let authorized := (c.authorizedTopics locale plan audience).map (·.id)
    let found := ((c.artifact.search.get? locale).getD []).filter fun item : SearchItem =>
      decide (item.id ∈ authorized) &&
        item.terms.any fun term => occursIn normalizedQuery (normalizeSearchText lib term)
    found.filterMap fun item =>
      ((c.topics locale).find? (·.id = item.id)).map fun topic =>
        { publicSearchTopic topic with
          excerpt := excerptOf lib topic.body normalizedQuery topic.title }

end HelpCatalog

/-! ## What is promised -/

def ServedStep.said (step : ServedStep) : String × String × String × Int × Bool :=
  (step.topicId, step.route, step.target, step.order, step.conditional)

/-- A release that is served for a plan: there are steps, in their order, and each leads to a
topic. -/
structure Servable (c : HelpCatalog) (locale plan : String) (tour : ServedRelease) : Prop where
  nonempty : tour.steps ≠ []
  ordered : (tour.steps.map (·.order)).Pairwise (· < ·)
  topics : ∀ step ∈ tour.steps, ∃ page,
    c.topic locale plan step.topicId "tenant_admin" = some page ∧ page.id = step.topicId

/-- The help of a plan is the same in both locales beside its words, and it can be served. -/
structure MirroredAndServable (c : HelpCatalog) (plan : String) : Prop where
  access : c.artifact.topics.en.map (·.access) = c.artifact.topics.es.map (·.access)
  distinct : ∀ locale, ((c.topics locale).map (·.id)).Nodup
  complete : ∀ locale, ∀ release ∈ (c.artifact.tourReleases.get? locale).getD [],
    plan ∈ release.plans → release ∈ c.tourReleases locale plan
  releases : (c.tourReleases "en" plan).map (·.releaseId) =
    (c.tourReleases "es" plan).map (·.releaseId)
  steps : ∀ releaseId, (c.tourRelease "en" plan releaseId).map (fun tour =>
      (tour.releaseId, tour.steps.map (·.said))) =
    (c.tourRelease "es" plan releaseId).map fun tour => (tour.releaseId, tour.steps.map (·.said))
  served : ∀ locale, ∀ release ∈ c.tourReleases locale plan,
    ∃ tour, c.tourRelease locale plan (some release.releaseId) = some tour ∧
      tour.releaseId = release.releaseId ∧ Servable c locale plan tour
  indexed : ∀ locale audience, ∀ entry ∈ (c.index locale plan audience).topics,
    ∃ topic ∈ c.topics locale, entry = publicTopic topic ∧ topic.audience = audience ∧
      plan ∈ topic.plans
  searched : ∀ locale query audience, ∀ result ∈ c.search lib locale plan query audience,
    ∃ topic ∈ c.topics locale, result.toPublicSearchTopic = publicSearchTopic topic ∧
      topic.audience = audience ∧ plan ∈ topic.plans

namespace CatalogLemmas

open CompilerLemmas HelpCatalog

variable {lib : Libraries} {c : HelpCatalog} {locale plan audience : String}
  {topics : List Topic} {topic : Topic} {releases : List Release} {release : Release}

theorem mem_authorizedTopics : topic ∈ c.authorizedTopics locale plan audience ↔
    topic ∈ c.topics locale ∧ topic.audience = audience ∧ plan ∈ topic.plans := by
  unfold authorizedTopics
  rw [(List.mergeSort_perm _ _).mem_iff, List.mem_filter, decide_eq_true_eq]

theorem page_of_topic (hmem : topic ∈ c.topics locale) (haudience : topic.audience = audience)
    (hplan : plan ∈ topic.plans) :
    ∃ page, c.topic locale plan topic.id audience = some page ∧ page.id = topic.id := by
  have hauthorized := mem_authorizedTopics.mpr ⟨hmem, haudience, hplan⟩
  have hsome : ((c.authorizedTopics locale plan audience).find?
      fun other => decide (other.id = topic.id)).isSome := by
    rw [List.find?_isSome]
    exact ⟨topic, hauthorized, decide_eq_true rfl⟩
  obtain ⟨found, hfound⟩ := Option.isSome_iff_exists.mp hsome
  have hid := of_decide_eq_true
    (@List.find?_some Topic (fun other => decide (other.id = topic.id)) _ _ hfound)
  unfold HelpCatalog.topic
  rw [hfound]
  exact ⟨_, rfl, hid⟩

theorem countedOrders_increasing {n : Nat} : (countedOrders n).Pairwise (· < ·) := by
  unfold countedOrders
  refine List.pairwise_map.mpr ((List.pairwise_lt_range' (s := 1) (n := n)).imp ?_)
  exact fun hlt => Int.ofNat_lt.mpr hlt

theorem find?_release (hnodup : (releases.map (·.releaseId)).Nodup) (hmem : release ∈ releases)
    (hplan : plan ∈ release.plans) :
    (releases.filter fun release => decide (plan ∈ release.plans)).find? (fun other =>
      decide (plan ∈ other.plans) && (some release.releaseId).all (other.releaseId = ·)) =
      some release := by
  have hsome : ((releases.filter fun release => decide (plan ∈ release.plans)).find? fun other =>
      decide (plan ∈ other.plans) &&
        (some release.releaseId).all (other.releaseId = ·)).isSome := by
    rw [List.find?_isSome]
    exact ⟨release, List.mem_filter.mpr ⟨hmem, decide_eq_true hplan⟩, by simp [hplan]⟩
  obtain ⟨found, hfound⟩ := Option.isSome_iff_exists.mp hsome
  have hid := (Bool.and_eq_true_iff.mp (@List.find?_some Release _ _ _ hfound)).2
  rw [hfound, List.inj_on_of_nodup_map hnodup
    (List.mem_of_mem_filter (List.mem_of_find?_eq_some hfound)) hmem (of_decide_eq_true hid)]

theorem locale_spec (h : Compiled lib c.artifact) (locale : String) :
    LocaleTopics lib locale (c.topics locale) ∧
      compileReleases (c.topics locale) = .ok ((c.artifact.tourReleases.get? locale).getD []) := by
  unfold HelpCatalog.topics PerLocale.get?
  by_cases hen : locale = "en"
  · rw [if_pos hen, if_pos hen, hen]
    exact ⟨h.en, h.enReleases⟩
  rw [if_neg hen, if_neg hen]
  by_cases hes : locale = "es"
  · rw [if_pos hes, if_pos hes, hes]
    exact ⟨h.es, h.esReleases⟩
  rw [if_neg hes, if_neg hes]
  refine ⟨⟨List.nodup_nil, List.Pairwise.nil, fun topic hmem => nomatch hmem⟩, ?_⟩
  change (List.mergeSort ([] : List (String × List TourStep)) _).mapM compileRelease = .ok []
  rw [List.mergeSort_nil]
  rfl

/-- What a release of a plan says beside its words, when it is served. -/
def saidOf (plan : String) (contract : String × List String × List StepContract) :
    String × List (String × String × String × Int × Bool) :=
  (contract.1, (contract.2.2.filter fun step => decide (plan ∈ step.plans)).map fun step =>
    (step.topicId, step.route, step.target, step.order, step.conditional))

theorem said_served : ((served plan release).releaseId, (served plan release).steps.map (·.said)) =
    saidOf plan release.contract := by
  unfold served saidOf Release.contract
  dsimp only
  rw [List.filter_map, List.map_map, List.map_map]
  rfl

theorem map_find?_served {releaseId : Option String} :
    (((releases.filter fun release => decide (plan ∈ release.plans)).find? fun release =>
        decide (plan ∈ release.plans) && releaseId.all (release.releaseId = ·)).map
      (served plan)).map (fun tour => (tour.releaseId, tour.steps.map (·.said))) =
    (((releases.map (·.contract)).filter fun contract => decide (plan ∈ contract.2.1)).find?
      fun contract => decide (plan ∈ contract.2.1) &&
        releaseId.all (contract.1 = ·)).map (saidOf plan) := by
  rw [List.filter_map, List.find?_map, Option.map_map, Option.map_map]
  exact congrArg (Option.map · _) (funext fun release => said_served)

end CatalogLemmas

open CompilerLemmas CatalogLemmas HelpCatalog

variable {lib : Libraries} {tree : List HelpDirectory} {c : HelpCatalog} {artifact : Artifact}
  {locale plan : String} {release : Release}

theorem tourRelease_of_mem (h : Compiled lib c.artifact)
    (hmem : release ∈ c.tourReleases locale plan) :
    c.tourRelease locale plan (some release.releaseId) = some (served plan release) := by
  obtain ⟨hrelease, hplan⟩ := List.mem_filter.mp hmem
  have hfound := find?_release (nodup_releases (locale_spec h locale).2) hrelease
    (of_decide_eq_true hplan)
  unfold tourRelease tourReleases
  rw [hfound]
  rfl

theorem servable_of_mem (h : Compiled lib c.artifact)
    (hmem : release ∈ c.tourReleases locale plan) :
    Servable c locale plan (served plan release) := by
  obtain ⟨htopics, hreleases⟩ := locale_spec h locale
  obtain ⟨hrelease, hplan⟩ := List.mem_filter.mp hmem
  obtain ⟨hall, horders⟩ := compileReleases_spec hreleases
  refine ⟨?_, ?_, ?_⟩
  · -- The plans of a release are those of its steps.
    rw [hall] at hrelease
    obtain ⟨found, -, rfl⟩ := List.mem_map.mp hrelease
    have hplan := of_decide_eq_true hplan
    obtain ⟨step, hstep, hplan⟩ := List.mem_flatMap.mp
      (List.mem_eraseDups.mp ((List.mergeSort_perm _ _).mem_iff.mp hplan))
    refine List.ne_nil_of_mem (a := step.toServedStep) (List.mem_map_of_mem ?_)
    exact List.mem_filter.mpr ⟨hstep, decide_eq_true hplan⟩
  · have hincreasing : (release.steps.map (·.order)).Pairwise (· < ·) := by
      rw [horders release hrelease]
      exact countedOrders_increasing
    have hsteps : (served plan release).steps.map (·.order) =
        (release.steps.filter fun step => decide (plan ∈ step.plans)).map (·.order) := by
      unfold served
      rw [List.map_map]
      rfl
    rw [hsteps]
    exact hincreasing.sublist (List.filter_sublist.map _)
  · intro step hstep
    obtain ⟨own, hown, rfl⟩ := List.mem_map.mp hstep
    obtain ⟨hown, hplan⟩ := List.mem_filter.mp hown
    obtain ⟨topic, htopic, entries, htour, entry, hentry, hid, hplans⟩ :=
      step_of_release hreleases hrelease hown
    obtain ⟨file, hfile⟩ := htopics.compiled topic htopic
    obtain ⟨htenant, hsub⟩ := tour_of_compileTopic hfile htour
    have hplan : plan ∈ topic.plans := hsub entry hentry plan (hplans ▸ of_decide_eq_true hplan)
    obtain ⟨page, hpage, hpageId⟩ := page_of_topic htopic htenant hplan
    rw [hid]
    exact ⟨page, hpage, hpageId⟩

/-- What is compiled is the same in both locales beside its words, and what is served for a plan
and an audience has them. -/
theorem mirroredAndServable_of_compileHelp (h : compileHelp lib tree = .ok artifact)
    (plan : String) : MirroredAndServable lib { artifact } plan := by
  have hcompiled := compiled_of_compileHelp h
  have hmirrored := topics_mirrored hcompiled
  have hreleases := releases_mirrored hcompiled
  let c : HelpCatalog := { artifact }
  change MirroredAndServable lib c plan
  have hc : Compiled lib c.artifact := hcompiled
  refine ⟨?_, fun locale => (locale_spec hc locale).1.nodup, fun locale release hmem hplan =>
    List.mem_filter.mpr ⟨hmem, decide_eq_true hplan⟩, ?_, ?_, ?_, ?_, ?_⟩
  · have hfirst := congrArg (List.map Prod.fst) hmirrored
    rwa [List.map_map, List.map_map] at hfirst
  · have hids : ∀ releases : List Release,
        (releases.filter fun release => decide (plan ∈ release.plans)).map (·.releaseId) =
          ((releases.map (·.contract)).filter fun contract => decide (plan ∈ contract.2.1)).map
            Prod.fst := by
      intro releases
      rw [List.filter_map, List.map_map]
      rfl
    refine (hids c.artifact.tourReleases.en).trans ?_
    rw [hreleases]
    exact (hids c.artifact.tourReleases.es).symm
  · intro releaseId
    refine (@map_find?_served plan c.artifact.tourReleases.en releaseId).trans ?_
    rw [hreleases]
    exact (@map_find?_served plan c.artifact.tourReleases.es releaseId).symm
  · exact fun locale release hmem =>
      ⟨_, tourRelease_of_mem hc hmem, rfl, servable_of_mem hc hmem⟩
  · intro locale audience entry hentry
    obtain ⟨topic, htopic, rfl⟩ := List.mem_map.mp hentry
    obtain ⟨hmem, haudience, hplan⟩ := mem_authorizedTopics.mp htopic
    exact ⟨topic, hmem, rfl, haudience, hplan⟩
  · intro locale query audience result hresult
    unfold search at hresult
    dsimp only at hresult
    split at hresult
    · nomatch hresult
    obtain ⟨item, hitem, hresult⟩ := List.mem_filterMap.mp hresult
    obtain ⟨topic, htopic, rfl⟩ := Option.map_eq_some_iff.mp hresult
    have hauthorized := (Bool.and_eq_true_iff.mp (List.mem_filter.mp hitem).2).1
    obtain ⟨own, hown, hid⟩ := List.mem_map.mp (of_decide_eq_true hauthorized)
    obtain ⟨hmem, haudience, hplan⟩ := mem_authorizedTopics.mp hown
    have hsame : own = topic := by
      refine List.inj_on_of_nodup_map (locale_spec hc locale).1.nodup hmem
        (List.mem_of_find?_eq_some htopic) (hid.trans ?_)
      exact (of_decide_eq_true
        (@List.find?_some Topic (fun other => decide (other.id = item.id)) _ _ htopic)).symm
    exact ⟨own, hmem, congrArg publicSearchTopic hsame.symm, haudience, hplan⟩

/-- A text of the topic contains the query. -/
def Topic.mentions (lib : Libraries) (query : String) (topic : Topic) : Bool :=
  (searchItem topic).terms.any fun term =>
    occursIn (normalizeSearchText lib query) (normalizeSearchText lib term)

def Topic.shown (lib : Libraries) (query : String) (topic : Topic) : SearchResult :=
  { publicSearchTopic topic with
    excerpt := excerptOf lib topic.body (normalizeSearchText lib query) topic.title }

/-- A search finds exactly the topics of the plan and the audience that say what is asked for, each
once and in the order in which they were compiled. -/
theorem search_eq (h : compileHelp lib tree = .ok artifact) (locale plan query audience : String)
    (hquery : normalizeSearchText lib query ≠ "") :
    HelpCatalog.search lib { artifact } locale plan query audience =
      (((HelpCatalog.topics { artifact } locale).filter fun topic =>
        decide (topic.audience = audience ∧ plan ∈ topic.plans)).filter (·.mentions lib query)).map
          (·.shown lib query) := by
  let c : HelpCatalog := { artifact }
  have hcompiled : Compiled lib c.artifact := compiled_of_compileHelp h
  have hnodup := (locale_spec hcompiled locale).1.nodup
  have hitems : (c.artifact.search.get? locale).getD [] = (c.topics locale).map searchItem := by
    rw [hcompiled.search]
    unfold HelpCatalog.topics PerLocale.get?
    split
    · rfl
    · split <;> rfl
  have hauthorized : ∀ topic ∈ c.topics locale,
      (topic.id ∈ (c.authorizedTopics locale plan audience).map (·.id) ↔
        topic.audience = audience ∧ plan ∈ topic.plans) := by
    intro topic hmem
    constructor
    · intro hid
      obtain ⟨own, hown, hsame⟩ := List.mem_map.mp hid
      obtain ⟨hownMem, haccess⟩ := mem_authorizedTopics.mp hown
      rwa [← List.inj_on_of_nodup_map hnodup hownMem hmem hsame]
    · exact fun haccess => List.mem_map_of_mem (mem_authorizedTopics.mpr ⟨hmem, haccess⟩)
  have hfilter : (c.topics locale).filter (fun topic =>
        decide (topic.id ∈ (c.authorizedTopics locale plan audience).map (·.id)) &&
          topic.mentions lib query) =
      (c.topics locale).filter fun topic =>
        topic.mentions lib query && decide (topic.audience = audience ∧ plan ∈ topic.plans) :=
    List.filter_congr fun topic hmem => by
      rw [decide_eq_decide.mpr (hauthorized topic hmem), Bool.and_comm]
  change c.search lib locale plan query audience = _
  unfold search
  rw [if_neg hquery, hitems, List.filter_filter]
  dsimp only
  rw [List.filter_map, List.filterMap_map]
  refine (congrArg (List.filterMap _) hfilter).trans ?_
  refine List.filterMap_eq_map_iff_forall_eq_some.mpr fun topic hmem => ?_
  have hmem := List.mem_of_mem_filter hmem
  cases hfind : (c.topics locale).find? fun other => decide (other.id = topic.id) with
  | none => exact absurd (decide_eq_true rfl) (List.find?_eq_none.mp hfind topic hmem)
  | some found =>
    have hid := of_decide_eq_true
      (@List.find?_some Topic (fun other => decide (other.id = topic.id)) _ _ hfind)
    obtain rfl := List.inj_on_of_nodup_map hnodup (List.mem_of_find?_eq_some hfind) hmem hid
    exact congrArg (Option.map _) hfind

/-! ## A small help -/

def exLines : List String :=
  ["id: help", "audience: tenant_admin", "plans: [starter]", "channels: [web]", "module: help",
    "capabilities: [tenant_settings]", "route: /admin/help", "help_targets: [admin.help]",
    "title: Help", "summary: Answers", "search_tags: []", "synonyms: []", "related_topics: []",
    "order: 1", "safe_navigation:", "  route: /admin/help", "tour:", "  release_id: first",
    "  order: 1", "  target: admin.help"]

def exFrontmatter : Frontmatter :=
  [(.str "id", .str "help"), (.str "audience", .str "tenant_admin"),
    (.str "plans", .list [.str "starter"]), (.str "channels", .list [.str "web"]),
    (.str "module", .str "help"), (.str "capabilities", .list [.str "tenant_settings"]),
    (.str "route", .str "/admin/help"), (.str "help_targets", .list [.str "admin.help"]),
    (.str "title", .str "Help"), (.str "summary", .str "Answers"), (.str "search_tags", .list []),
    (.str "synonyms", .list []), (.str "related_topics", .list []), (.str "order", .int 1),
    (.str "safe_navigation", .map [(.str "route", .str "/admin/help")]),
    (.str "tour", .map [(.str "release_id", .str "first"), (.str "order", .int 1),
      (.str "target", .str "admin.help")])]

def exLib : Libraries where
  safeLoad text := if text = "\n".intercalate exLines then some (.map exFrontmatter) else none
  casefold text := .ofList (text.toList.map Char.toLower)
  unicode := .ascii
  urls := { netlocOk _ := true, lower := List.map Char.toLower, lower_ascii := lower_chars }

def exFile : HelpFile where
  name := "help.md"
  lines := some ("---" :: (exLines ++ ["---", "# Help"]))

def exTree : List HelpDirectory :=
  [{ name := "en", files := [exFile] }, { name := "es", files := [exFile] }]

def exTopic (locale : String) : Topic where
  id := "help"
  locale := locale
  audience := "tenant_admin"
  plans := ["starter"]
  channels := ["web"]
  module := "help"
  capabilities := ["tenant_settings"]
  route := "/admin/help"
  helpTargets := ["admin.help"]
  title := "Help"
  summary := "Answers"
  searchTags := []
  synonyms := []
  relatedTopics := []
  order := 1
  safeNavigation := { route := "/admin/help", settingsCategory := none, tab := none }
  safeLinks := []
  tour := some [{ releaseId := "first", order := 1, target := "admin.help", conditional := false,
                  plans := ["starter"], title := none, content := none }]
  body := "# Help"

def exStep : TourStep where
  topicId := "help"
  relatedTopics := []
  title := "Help"
  content := "# Help"
  summary := "Answers"
  route := "/admin/help"
  settingsCategory := none
  target := "admin.help"
  conditional := false
  order := 1
  plans := ["starter"]

def exRelease : Release := { releaseId := "first", plans := ["starter"], steps := [exStep] }

def exTopics : PerLocale (List Topic) := { en := [exTopic "en"], es := [exTopic "es"] }

def exArtifact : Artifact where
  schemaVersion := 1
  contentVersion := "help-client-manual-1"
  frontendTargetContractVersion := "2"
  locales := ["en", "es"]
  topics := exTopics
  search := exTopics.map (·.map searchItem)
  tourReleases := { en := [exRelease], es := [exRelease] }

theorem exLocale_compiled {locale : String} {directory : HelpDirectory}
    (hfind : exTree.find? (·.name = locale) = some directory) (hfiles : directory.files = [exFile])
    (htopic : compileTopic exLib exFile locale = .ok (exTopic locale)) :
    compileLocale exLib exTree locale = .ok [exTopic locale] := by
  have htopics : compileTopics exLib locale [] [exFile] = .ok [exTopic locale] := by
    rw [compileTopics]
    exact bind_eq_ok.mpr ⟨_, htopic, rfl⟩
  unfold compileLocale
  rw [hfind]
  dsimp only
  rw [hfiles]
  refine bind_eq_ok.mpr ⟨(), rfl, bind_eq_ok.mpr ⟨_, htopics, ?_⟩⟩
  exact congrArg Except.ok (List.mergeSort_singleton _)

theorem exReleases_compiled {locale : String} :
    compileReleases [exTopic locale] = .ok [exRelease] := by
  have hsteps : sortSteps [exStep] = [exStep] := List.mergeSort_singleton _
  have hplans : sortTexts ["starter"] = ["starter"] := List.mergeSort_singleton _
  have hrelease : compileRelease ("first", [exStep]) = .ok exRelease := by
    unfold compileRelease
    dsimp only
    rw [hsteps]
    refine bind_eq_ok.mpr ⟨(), by decide, bind_eq_ok.mpr ⟨(), by decide, ?_⟩⟩
    have hdups : ([exStep].flatMap (·.plans)).eraseDups = ["starter"] := by decide
    rw [hdups, hplans]
    rfl
  unfold compileReleases
  have hgroups : collect ([exTopic locale].flatMap tourSteps) = [("first", [exStep])] := rfl
  rw [hgroups, List.mergeSort_singleton, List.mapM_cons]
  exact bind_eq_ok.mpr ⟨_, hrelease, rfl⟩

theorem exTree_compiled : compileHelp exLib exTree = .ok exArtifact := by
  have hen : compileLocale exLib exTree "en" = .ok [exTopic "en"] :=
    exLocale_compiled rfl rfl (by decide +kernel)
  have hes : compileLocale exLib exTree "es" = .ok [exTopic "es"] :=
    exLocale_compiled rfl rfl (by decide +kernel)
  have hreleases : compileTourReleases exTopics = .ok { en := [exRelease], es := [exRelease] } :=
    bind_eq_ok.mpr ⟨_, exReleases_compiled, bind_eq_ok.mpr ⟨_, exReleases_compiled,
      bind_eq_ok.mpr ⟨(), by decide, rfl⟩⟩⟩
  have hcompile : compile exLib exTree = .ok exArtifact := by
    unfold compile
    dsimp only
    have hknown : (exTree.map (·.name)).filter (· ∉ supportedLocales) = [] := by decide
    rw [if_neg (not_not.mpr hknown)]
    refine bind_eq_ok.mpr ⟨_, hen, bind_eq_ok.mpr ⟨_, hes, bind_eq_ok.mpr ⟨(), by decide, ?_⟩⟩⟩
    refine bind_eq_ok.mpr ⟨(), by decide +kernel, bind_eq_ok.mpr ⟨(), by decide, ?_⟩⟩
    exact bind_eq_ok.mpr ⟨_, hreleases, rfl⟩
  exact bind_eq_ok.mpr ⟨_, hcompile, bind_eq_ok.mpr ⟨(), by decide, rfl⟩⟩

/-- The release of the example, in both languages. -/
theorem exArtifact_servable : MirroredAndServable exLib { artifact := exArtifact } "starter" :=
  mirroredAndServable_of_compileHelp exTree_compiled "starter"

theorem answers_found : (HelpCatalog.search exLib { artifact := exArtifact } "en" "starter"
    "Answers" "tenant_admin").map (·.id) = ["help"] := by
  rw [search_eq exTree_compiled "en" "starter" "Answers" "tenant_admin" (by decide +kernel)]
  decide +kernel

end Trackpal.Help

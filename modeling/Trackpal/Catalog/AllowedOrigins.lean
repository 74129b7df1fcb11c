import Trackpal.Catalog.PublicCatalog
import Trackpal.Foundation.Batches
import Trackpal.Foundation.Origins

/-!
# The origins that a tenant allows

`validate_allowed_origin` and `normalize_allowed_origins`: what is saved of the origins that a
tenant lists. The public catalog compares the saved texts with the origin that a browser sends.

Result:
* `origins_match_iff`: the listed origins are those whose pages get the catalog exactly if each is
  typed as a browser sends it.
-/

namespace Trackpal.Catalog

open Foundation OriginsLemmas UrlsLemmas

/-! ## Validation -/

structure ParseResult extends SplitResult where
  params : List Char
deriving DecidableEq

def usesParams : List (List Char) :=
  ["", "ftp", "hdl", "prospero", "http", "https", "shttp", "rtsp", "rtsps", "sip", "sips", "mms",
    "sftp", "tel"].map String.toList

/-- `_splitparams`: the last segment of a path is split at a semicolon. -/
def splitParams (path : List Char) : List Char × List Char :=
  let segment := path.rtakeWhile (· ≠ '/')
  if ';' ∈ segment then
    (path.rdropWhile (· ≠ '/') ++ (partition ';' segment).1, (partition ';' segment).2)
  else (path, [])

variable (lib : UrlLibrary)

/-- `urlparse`: `none` is a `ValueError`. -/
def urlparse (url : List Char) : Option ParseResult :=
  (urlsplit lib url).map fun r =>
    if r.scheme ∈ usesParams ∧ ';' ∈ r.path then
      { r with path := (splitParams r.path).1, params := (splitParams r.path).2 }
    else { r with params := [] }

/-- A `ValueError` with its text, if that is of the service. -/
structure OriginError where
  detail : Option String
deriving DecidableEq, Repr

def notExact : OriginError where
  detail := some "Allowed origin must be an exact http(s) origin such as https://example.com"

def allowedSchemes : List (List Char) := ["http".toList, "https".toList]

def serializeOrigin (scheme netloc : List Char) : String :=
  .ofList (scheme ++ ':' :: '/' :: '/' :: netloc)

def validateAllowedOrigin (origin : String) : Except OriginError String :=
  let item := stripBy isSpace origin
  match urlparse lib item.toList with
  | none => .error { detail := none }
  | some parsed =>
    if item = "" ∨ '*' ∈ item.toList ∨ parsed.scheme ∉ allowedSchemes ∨ parsed.netloc = [] ∨
        parsed.path ≠ [] ∨ parsed.params ≠ [] ∨ parsed.query ≠ [] ∨ parsed.fragment ≠ [] then
      .error notExact
    else .ok (serializeOrigin parsed.scheme parsed.netloc)

def normalizeAllowedOrigins (origins : List String) : Except OriginError (List String) :=
  (origins.mapM (validateAllowedOrigin lib)).map List.eraseDups

/-! ## The pages of the listed origins -/

variable (hosts : HostLibrary)

def listedOrigin (origin : String) : Option (Origin hosts) :=
  readOrigin hosts (stripBy isSpace origin).toList

def Answered {κ : Type} [LinearOrder κ] (t : PublicTables) (order : Ordering κ) (apiKey : String)
    (page : Origin hosts) : Prop :=
  ∃ response header, t.buildPublicCatalog order (some apiKey) (some (.ofList page.serialize)) =
    .ok (some (response, header))

/-- A key of a tenant that has the catalog, with its saved origins. -/
structure Serves (t : PublicTables) (key : TenantApiKey) (saved : List String) : Prop where
  stored : key ∈ t.apiKeys
  given : key.apiKey ≠ ""
  allowed : key.allowedOrigins = saved
  tenant : ∃ tenant ∈ t.tenants, tenant.id = key.tenantId ∧ tenant.isActive = true ∧
    tenant.plan = "pro" ∧ tenant.isDemo = false

structure OriginsMatch (origins saved : List String) : Prop where
  sent : ∀ origin ∈ origins, ∀ r, validateAllowedOrigin lib origin = .ok r →
    ∃ page : Origin hosts, listedOrigin hosts origin = some page ∧ r = .ofList page.serialize
  again : ∀ origin ∈ origins, ∀ r, validateAllowedOrigin lib origin = .ok r →
    validateAllowedOrigin lib r = .ok r
  same : ∀ a ∈ origins, ∀ b ∈ origins, ∀ page : Origin hosts, listedOrigin hosts a = some page →
    listedOrigin hosts b = some page → validateAllowedOrigin lib a = validateAllowedOrigin lib b
  admits : ∀ {κ : Type} [LinearOrder κ] (order : Ordering κ) (db : PublicDatabase)
    (key : TenantApiKey), Serves db.toPublicTables key saved → ∀ page : Origin hosts,
    Answered hosts db.toPublicTables order key.apiKey page ↔
      ∃ origin ∈ origins, listedOrigin hosts origin = some page

/-! ## Typing an origin -/

def typedParts (origin : String) : List Char × List Char :=
  let parts := upTo [':'] (cleanUrl (stripBy isSpace origin).toList)
  (parts.1, (upTo ['/', '?', '#'] (parts.2.drop 3)).1)

/-- The authority is typed as a browser sends it: no user, the host as the host parser writes it,
and no port or one that the scheme does not imply, without zeros in front. -/
def SpelledAsSent (origin : String) : Prop :=
  ∀ scheme, WebScheme.read (typedParts origin).1 = some scheme →
    spelledAsSent hosts scheme (typedParts origin).2 = true

namespace AllowedOriginsLemmas

variable {lib : UrlLibrary} {hosts : HostLibrary} {origin r : String} {url path : List Char}
  {origins saved : List String}

structure Accepted (lib : UrlLibrary) (origin r : String) (scheme : WebScheme)
    (name netloc close : List Char) : Prop where
  text : cleanUrl (stripBy isSpace origin).toList = name ++ ':' :: '/' :: '/' :: (netloc ++ close)
  read : WebScheme.read name = some scheme
  colon : ':' ∉ name
  close : close ∈ [[], ['?'], ['#'], ['?', '#']]
  marks : ∀ c ∈ netloc, c ∉ ['/', '?', '#']
  star : '*' ∉ netloc
  brackets : decide ('[' ∈ netloc) = decide (']' ∈ netloc)
  ok : lib.netlocOk netloc = true
  saved : r = serializeOrigin scheme.text netloc

theorem splitParams_ne_nil (hslash : ∀ c ∈ path.head?, c = '/') (hparam : ';' ∈ path) :
    (splitParams path).1 ≠ [] := by
  cases path with
  | nil => nomatch hparam
  | cons c rest =>
    obtain rfl := hslash c rfl
    have hfront : ('/' :: rest).rdropWhile (· ≠ '/') ≠ [] := by
      intro hnil
      have hall := List.rdropWhile_eq_nil_iff.mp hnil '/' List.mem_cons_self
      exact of_decide_eq_true hall rfl
    unfold splitParams
    dsimp only
    split
    · exact fun hnil => hfront (List.append_eq_nil_iff.mp hnil).1
    · exact List.cons_ne_nil _ _

theorem read_of_lower {name : List Char} (hname : isScheme name = true)
    (hallowed : lib.lower name ∈ allowedSchemes) :
    ∃ scheme : WebScheme, WebScheme.read name = some scheme ∧ lib.lower name = scheme.text := by
  have hascii : ∀ c ∈ name, c.toNat < 128 := by
    intro c hc
    have hchar := schemeChars_of_isScheme hname c hc
    unfold isSchemeChar at hchar
    obtain halpha | hmark := Bool.or_eq_true_iff.mp hchar
    · exact ascii_of_uriChar (by simp [isUriChar, isUnreserved, halpha])
    · have hall : ['+', '-', '.'].all (·.toNat < 128) = true := by decide
      exact of_decide_eq_true (List.all_eq_true.mp hall c (of_decide_eq_true hmark))
  rw [lib.lower_ascii name hascii] at hallowed ⊢
  unfold WebScheme.read
  obtain hhttp | hhttps := List.mem_pair.mp hallowed
  · exact ⟨.http, if_pos hhttp, hhttp⟩
  · refine ⟨.https, ?_, hhttps⟩
    rw [hhttps]
    rfl

theorem urlsplit_cleanUrl : urlsplit lib (cleanUrl url) = urlsplit lib url := by
  unfold urlsplit
  rw [cleanUrl_cleanUrl]

theorem urlsplit_valid {parts : SplitResult} (h : urlsplit lib url = some parts) :
    decide ('[' ∈ parts.netloc) = decide (']' ∈ parts.netloc) ∧
      lib.netlocOk parts.netloc = true := by
  unfold urlsplit at h
  dsimp only at h
  split at h
  next hvalid =>
    obtain rfl := Option.some.inj h
    exact hvalid
  · nomatch h

theorem accepted_of_validate (h : validateAllowedOrigin lib origin = .ok r) :
    ∃ scheme name netloc close, Accepted lib origin r scheme name netloc close := by
  unfold validateAllowedOrigin at h
  dsimp only at h
  split at h
  · nomatch h
  next parsed hparsed =>
    split at h
    · nomatch h
    next hgood =>
      obtain rfl := Except.ok.inj h
      simp only [not_or, not_not] at hgood
      obtain ⟨-, hstar, hscheme, hnetloc, hpath, -, hquery, hfragment⟩ := hgood
      obtain ⟨parts, hsplit, hparts⟩ := Option.map_eq_some_iff.mp hparsed
      have hsame : parsed.scheme = parts.scheme ∧ parsed.netloc = parts.netloc ∧
          parsed.query = parts.query ∧ parsed.fragment = parts.fragment := by
        split at hparts <;> (obtain rfl := hparts; exact ⟨rfl, rfl, rfl, rfl⟩)
      rw [hsame.1] at hscheme ⊢
      rw [hsame.2.1] at hnetloc ⊢
      rw [hsame.2.2.1] at hquery
      rw [hsame.2.2.2] at hfragment
      have hnopath : parts.path = [] := by
        split at hparts
        next hparam =>
          obtain rfl := hparts
          exact absurd hpath (splitParams_ne_nil (urlsplit_path hsplit hnetloc) hparam.2)
        · obtain rfl := hparts
          exact hpath
      have hsome : parts.scheme ≠ [] := by
        intro hnil
        rw [hnil] at hscheme
        exact absurd hscheme (by decide)
      obtain ⟨name, question, hash, hname, hlower, hquestion, hhash, hmarks, htext⟩ :=
        urlsplit_parts (urlsplit_cleanUrl.trans hsplit) cleanUrl_cleanUrl hsome hnetloc hquery
          hfragment
      rw [hnopath, List.nil_append] at htext
      rw [hlower] at hscheme
      obtain ⟨scheme, hread, hscheme⟩ := read_of_lower hname hscheme
      obtain ⟨hbrackets, hok⟩ := urlsplit_valid hsplit
      refine ⟨scheme, name, parts.netloc, question ++ hash, htext, hread, ?_, ?_, hmarks, ?_,
        hbrackets, hok, ?_⟩
      · intro hcolon
        exact absurd (schemeChars_of_isScheme hname _ hcolon) (by decide)
      · obtain rfl | rfl := hquestion <;> obtain rfl | rfl := hhash <;> decide
      · intro hmem
        refine hstar ?_
        have hclean : '*' ∈ cleanUrl (stripBy isSpace origin).toList := by
          rw [htext]
          simp [hmem]
        exact (List.dropWhile_suffix _).subset (List.mem_filter.mp hclean).1
      · rw [hlower, hscheme]

variable {scheme : WebScheme} {name netloc close : List Char}

theorem typedParts_of_accepted (h : Accepted lib origin r scheme name netloc close) :
    typedParts origin = (name, netloc) := by
  have hsplit : upTo [':'] (name ++ ':' :: '/' :: '/' :: (netloc ++ close)) =
      (name, ':' :: '/' :: '/' :: (netloc ++ close)) := by
    refine upTo_append (fun c hc hmark => ?_) fun c hc => ?_
    · obtain rfl := List.mem_singleton.mp hmark
      exact h.colon hc
    · obtain rfl := Option.some.inj hc
      exact List.mem_singleton_self _
  have hstop : upTo ['/', '?', '#'] (netloc ++ close) = (netloc, close) := by
    refine upTo_append h.marks fun c hc => ?_
    have hclose := h.close
    simp only [List.mem_cons, List.not_mem_nil, or_false] at hclose
    obtain rfl | rfl | rfl | rfl := hclose <;> cases hc <;> decide
  unfold typedParts
  rw [h.text, hsplit]
  exact congrArg (fun parts => (name, parts.1)) hstop

theorem spelled_iff (h : Accepted lib origin r scheme name netloc close) :
    SpelledAsSent hosts origin ↔
      ∃ page : Origin hosts, page.scheme = scheme ∧ page.authority = netloc := by
  rw [← spelledAsSent_iff]
  unfold SpelledAsSent
  rw [typedParts_of_accepted h]
  constructor
  · exact fun hspelled => hspelled scheme h.read
  · intro hspelled scheme' hread
    obtain rfl := Option.some.inj (h.read.symm.trans hread)
    exact hspelled

theorem listed_of_spelled {page : Origin hosts}
    (h : Accepted lib origin r page.scheme name page.authority close) :
    listedOrigin hosts origin = some page := by
  have hclose := h.close
  simp only [List.mem_cons, List.not_mem_nil, or_false] at hclose
  refine @readOrigin_spelled hosts page name _ close h.read h.colon ?_ ?_
  · intro c hc
    obtain rfl | rfl | rfl | rfl := hclose <;> cases hc <;> decide
  · have hauthority : ∀ c ∈ page.authority, isLow c = false := fun c hc =>
      (Bool.not_eq_true' _).mp (authority_all (p := fun c => !isLow c) (by decide) c hc)
    have hlast : ∀ c ∈ page.authority ++ close, isLow c = false := by
      intro c hc
      obtain hc | hc := List.mem_append.mp hc
      · exact hauthority c hc
      · obtain rfl | rfl | rfl | rfl := hclose
        · nomatch hc
        all_goals
          simp only [List.mem_cons, List.not_mem_nil, or_false] at hc
          obtain rfl | rfl := hc <;> decide
    have hne : page.authority ++ close ≠ [] := fun hnil =>
      host_ne_nil (List.append_eq_nil_iff.mp (List.append_eq_nil_iff.mp hnil).1).1
    have hfront : name ++ ':' :: '/' :: '/' :: (page.authority ++ close) =
        (name ++ [':', '/', '/']) ++ (page.authority ++ close) := by
      rw [List.append_assoc]
      rfl
    rw [trimAddress_eq, h.text, hfront]
    refine List.rdropWhile_eq_self_iff.mpr fun _ => ?_
    rw [List.getLast_append_of_right_ne_nil _ _ hne]
    exact fun hlow => Bool.noConfusion ((hlast _ (List.getLast_mem hne)).symm.trans hlow)

theorem toList_serializeOrigin {page : Origin hosts} :
    (serializeOrigin page.scheme.text page.authority).toList = page.serialize :=
  String.toList_ofList

theorem urlsplit_serialize {page : Origin hosts}
    (hbrackets : decide ('[' ∈ page.authority) = decide (']' ∈ page.authority))
    (hok : lib.netlocOk page.authority = true) :
    urlsplit lib page.serialize = some
      { scheme := page.scheme.text, netloc := page.authority, path := [], query := [],
        fragment := [] } := by
  obtain ⟨hcolon, -, hname, hchars, hlower, -⟩ := @text_facts page.scheme
  have hscheme : splitScheme lib page.serialize =
      (page.scheme.text, '/' :: '/' :: page.authority) := by
    have hsplit : upTo [':'] page.serialize =
        (page.scheme.text, ':' :: '/' :: '/' :: page.authority) := by
      refine upTo_append (fun c hc hmark => ?_) fun c hc => ?_
      · obtain rfl := List.mem_singleton.mp hmark
        exact hcolon hc
      · obtain rfl := Option.some.inj hc
        exact List.mem_singleton_self _
    unfold splitScheme
    rw [hsplit]
    dsimp only
    rw [if_pos hname, lib.lower_ascii _ fun c hc => (hchars c hc).1, hlower]
  have hnetloc : splitNetloc ('/' :: '/' :: page.authority) = (page.authority, []) := by
    have hstop : upTo ['/', '?', '#'] (page.authority ++ []) = (page.authority, []) := by
      refine upTo_append (fun c hc => ?_) fun c hc => nomatch hc
      exact of_decide_eq_true
        (authority_all (p := fun c => decide (c ∉ ['/', '?', '#'])) (by decide) c hc)
    rw [List.append_nil] at hstop
    exact hstop
  unfold urlsplit
  rw [cleanUrl_serialize, hscheme]
  dsimp only
  rw [hnetloc]
  exact if_pos ⟨hbrackets, hok⟩

theorem validate_serialize {page : Origin hosts} (hstar : '*' ∉ page.authority)
    (hbrackets : decide ('[' ∈ page.authority) = decide (']' ∈ page.authority))
    (hok : lib.netlocOk page.authority = true) :
    validateAllowedOrigin lib (serializeOrigin page.scheme.text page.authority) =
      .ok (serializeOrigin page.scheme.text page.authority) := by
  obtain ⟨-, hnostar, -, hchars, -, hsome⟩ := @text_facts page.scheme
  have hallowed : page.scheme.text ∈ allowedSchemes := by cases page.scheme <;> decide
  have hstrip : stripBy isSpace (serializeOrigin page.scheme.text page.authority) =
      serializeOrigin page.scheme.text page.authority := by
    refine stripBy_eq_self fun c hc => ?_
    rw [toList_serializeOrigin] at hc
    exact (Bool.not_eq_true' _).mp (serialize_all (p := fun c => !isSpace c) (by decide)
      (fun c hc => by rw [(hchars c hc).2.1]; rfl) (by decide) c hc)
  have hparse : urlparse lib page.serialize = some
      { scheme := page.scheme.text, netloc := page.authority, path := [], params := [],
        query := [], fragment := [] } := by
    unfold urlparse
    rw [urlsplit_serialize hbrackets hok, Option.map_some, if_neg fun hand => nomatch hand.2]
  have hauthority : page.authority ≠ [] := fun hnil =>
    host_ne_nil (List.append_eq_nil_iff.mp hnil).1
  have hnot : '*' ∉ page.serialize := by
    unfold Origin.serialize
    simp [hnostar, hstar]
  have hempty : serializeOrigin page.scheme.text page.authority ≠ "" := by
    intro hnil
    have hlist := congrArg String.toList hnil
    rw [toList_serializeOrigin] at hlist
    exact hsome (List.append_eq_nil_iff.mp hlist).1
  unfold validateAllowedOrigin
  dsimp only
  rw [hstrip, toList_serializeOrigin, hparse]
  dsimp only
  rw [if_neg]
  simp only [not_or, not_not]
  exact ⟨hempty, hnot, hallowed, hauthority, trivial, trivial, trivial, trivial⟩

theorem normalize_spec (h : normalizeAllowedOrigins lib origins = .ok saved) :
    (∀ origin ∈ origins, ∃ r ∈ saved, validateAllowedOrigin lib origin = .ok r) ∧
      ∀ r ∈ saved, ∃ origin ∈ origins, validateAllowedOrigin lib origin = .ok r := by
  unfold normalizeAllowedOrigins at h
  cases hall : origins.mapM (validateAllowedOrigin lib) with
  | error e =>
    rw [hall] at h
    nomatch h
  | ok results =>
    rw [hall] at h
    obtain rfl := Except.ok.inj h
    obtain ⟨hinto, hfrom⟩ := mapM_spec hall
    refine ⟨fun origin horigin => ?_, fun r hr => hfrom r (List.mem_eraseDups.mp hr)⟩
    obtain ⟨r, hr, hvalid⟩ := hinto origin horigin
    exact ⟨r, List.mem_eraseDups.mpr hr, hvalid⟩

end AllowedOriginsLemmas

open AllowedOriginsLemmas PublicCatalogLemmas

variable {lib : UrlLibrary} {hosts : HostLibrary} {origin r : String}
  {origins saved : List String}

theorem answered_iff {κ : Type} [LinearOrder κ] {order : Ordering κ} {db : PublicDatabase}
    {key : TenantApiKey} {page : Origin hosts} (h : Serves db.toPublicTables key saved) :
    Answered hosts db.toPublicTables order key.apiKey page ↔ .ofList page.serialize ∈ saved := by
  constructor
  · rintro ⟨response, header, hbuild⟩
    obtain ⟨tenantId, hadmitted, -, -⟩ := (build_spec db.sound).mp hbuild
    obtain ⟨row, hrow, hkey, -, allowed, hallowed, horigin⟩ := hadmitted.key
    obtain rfl : row = key :=
      List.inj_on_of_nodup_map db.sound.apiKeys hrow h.stored (Option.some.inj hkey)
    rw [← h.allowed, ← Option.some.inj horigin]
    exact hallowed
  · intro hmem
    have hne : String.ofList page.serialize ≠ "" := by
      intro hnil
      have hlist := congrArg String.toList hnil
      rw [String.toList_ofList] at hlist
      exact (@text_facts page.scheme).2.2.2.2.2 (List.append_eq_nil_iff.mp hlist).1
    have hadmitted : Admitted db.toPublicTables (some key.apiKey)
        (some (.ofList page.serialize)) key.tenantId :=
      ⟨⟨key, h.stored, rfl, rfl, _, h.allowed ▸ hmem, rfl⟩,
        ⟨fun heq => h.given (Option.some.inj heq), fun heq => hne (Option.some.inj heq)⟩, h.tenant⟩
    exact ⟨_, _, (build_spec db.sound).mpr ⟨_, hadmitted, rfl, rfl⟩⟩

/-- The listed origins are those whose pages get the catalog exactly if each is typed as a browser
sends it. -/
theorem origins_match_iff (h : normalizeAllowedOrigins lib origins = .ok saved) :
    OriginsMatch lib hosts origins saved ↔ ∀ origin ∈ origins, SpelledAsSent hosts origin := by
  obtain ⟨hinto, hfrom⟩ := normalize_spec h
  constructor
  · intro hmatch origin horigin
    obtain ⟨r, -, hvalid⟩ := hinto origin horigin
    obtain ⟨page, -, hpage⟩ := hmatch.sent origin horigin r hvalid
    obtain ⟨scheme, name, netloc, close, haccepted⟩ := accepted_of_validate hvalid
    refine (spelled_iff haccepted).mpr ⟨page, ?_⟩
    -- Two texts of the form scheme, slashes and authority agree in both parts.
    have htext : scheme.text ++ ':' :: '/' :: '/' :: netloc = page.serialize := by
      have hlist := congrArg String.toList (haccepted.saved.symm.trans hpage)
      rw [String.toList_ofList] at hlist
      exact (String.toList_ofList ..).symm.trans hlist
    have hsplit : ∀ (scheme : WebScheme) (rest : List Char),
        upTo [':'] (scheme.text ++ ':' :: rest) = (scheme.text, ':' :: rest) := by
      intro scheme rest
      refine upTo_append (fun c hc hmark => ?_) fun c hc => ?_
      · obtain rfl := List.mem_singleton.mp hmark
        exact (@text_facts scheme).1 hc
      · obtain rfl := Option.some.inj hc
        exact List.mem_singleton_self _
    have hparts := congrArg (upTo [':']) htext
    unfold Origin.serialize at hparts
    rw [hsplit, hsplit] at hparts
    obtain ⟨hscheme, hrest⟩ := Prod.mk.inj hparts
    refine ⟨?_, ?_⟩
    · generalize page.scheme = other at hscheme
      cases scheme <;> cases other <;> first | rfl | exact absurd hscheme (by decide)
    · simpa using hrest.symm
  · intro hspelled
    have hpage : ∀ origin ∈ origins, ∀ r, validateAllowedOrigin lib origin = .ok r →
        ∃ page : Origin hosts, listedOrigin hosts origin = some page ∧
          r = .ofList page.serialize ∧ validateAllowedOrigin lib r = .ok r := by
      intro origin horigin r hvalid
      obtain ⟨scheme, name, netloc, close, haccepted⟩ := accepted_of_validate hvalid
      obtain ⟨page, rfl, rfl⟩ := (spelled_iff haccepted).mp (hspelled origin horigin)
      refine ⟨page, listed_of_spelled haccepted, haccepted.saved, ?_⟩
      rw [haccepted.saved]
      exact validate_serialize haccepted.star haccepted.brackets haccepted.ok
    have hsaved : ∀ origin ∈ origins, ∀ page : Origin hosts, listedOrigin hosts origin = some page →
        validateAllowedOrigin lib origin = .ok (.ofList page.serialize) ∧
          .ofList page.serialize ∈ saved := by
      intro origin horigin page hlisted
      obtain ⟨r, hr, hvalid⟩ := hinto origin horigin
      obtain ⟨own, hown, rfl, -⟩ := hpage origin horigin r hvalid
      obtain rfl := Option.some.inj (hlisted.symm.trans hown)
      exact ⟨hvalid, hr⟩
    refine ⟨fun origin horigin r hvalid => ?_, fun origin horigin r hvalid => ?_,
      fun a ha b hb page hlistedA hlistedB => ?_, fun order db key hserves page => ?_⟩
    · obtain ⟨page, hlisted, hresult, -⟩ := hpage origin horigin r hvalid
      exact ⟨page, hlisted, hresult⟩
    · obtain ⟨-, -, -, hagain⟩ := hpage origin horigin r hvalid
      exact hagain
    · exact (hsaved a ha page hlistedA).1.trans (hsaved b hb page hlistedB).1.symm
    · rw [answered_iff hserves]
      constructor
      · intro hmem
        obtain ⟨origin, horigin, hvalid⟩ := hfrom _ hmem
        obtain ⟨own, hown, hresult, -⟩ := hpage origin horigin _ hvalid
        obtain rfl := serialize_inj (String.ofList_injective hresult)
        exact ⟨origin, horigin, hown⟩
      · rintro ⟨origin, horigin, hlisted⟩
        exact (hsaved origin horigin page hlisted).2

/-! ## A host with a capital letter -/

def exUrls : UrlLibrary where
  netlocOk _ := true
  lower text := text.map Char.toLower
  lower_ascii := lower_chars

theorem exParse_written {text host : List Char}
    (h : (if text.map Char.toLower ≠ [] ∧ (text.map Char.toLower).all isDomainChar = true then
      some (text.map Char.toLower) else none) = some host) :
    (if host.map Char.toLower ≠ [] ∧ (host.map Char.toLower).all isDomainChar = true then
      some (host.map Char.toLower) else none) = some host ∧ IsHost host := by
  obtain ⟨⟨hne, hall⟩, hsome⟩ := Option.ite_none_right_eq_some.mp h
  obtain rfl := Option.some.inj hsome
  have hagain : (text.map Char.toLower).map Char.toLower = text.map Char.toLower := by
    rw [List.map_map]
    exact List.map_congr_left fun c _ => toLower_toLower c
  rw [hagain]
  exact ⟨h, .domain hne (List.all_eq_true.mp hall)⟩

def exHosts : HostLibrary where
  parse text :=
    if text.map Char.toLower ≠ [] ∧ (text.map Char.toLower).all isDomainChar = true then
      some (text.map Char.toLower)
    else none
  parse_written h := (exParse_written h).1
  isHost h := (exParse_written h).2

/-- One origin, as browsers send it. -/
theorem origins_match_iff_small : OriginsMatch exUrls exHosts ["https://example.com"]
    ["https://example.com"] ↔ ∀ origin ∈ ["https://example.com"], SpelledAsSent exHosts origin :=
  origins_match_iff (by decide)

/-- The capital letter is saved, and no browser sends it. -/
theorem capital_never_matches :
    normalizeAllowedOrigins exUrls ["https://Example.com"] = .ok ["https://Example.com"] ∧
      ¬OriginsMatch exUrls exHosts ["https://Example.com"] ["https://Example.com"] := by
  have hvalid : validateAllowedOrigin exUrls "https://Example.com" =
      .ok "https://Example.com" := by decide
  refine ⟨by decide, fun hmatch => ?_⟩
  obtain ⟨page, hlisted, hsent⟩ := hmatch.sent _ (List.mem_singleton_self _) _ hvalid
  have hcapital : ("https://Example.com".toList.all fun c => !c.isUpper) = true := by
    rw [hsent, String.toList_ofList]
    refine List.all_eq_true.mpr ?_
    have hscheme : page.scheme.text.all (fun c => !c.isUpper) = true := by
      cases page.scheme <;> decide
    exact serialize_all (by decide) (List.all_eq_true.mp hscheme) (by decide)
  exact absurd hcapital (by decide)

end Trackpal.Catalog

import Trackpal.Backend.Transport
import Trackpal.Foundation.Urls

/-!
# The connection of a call

`lookup_executor_transport/url_safety.py`, and the address pinning of `http.py`: the URL of an
executor is validated with the addresses of its host, and the call connects to the first of them
and sends its request to the URL with the path of the call.

Results:
1. `validate_spec`: what a validated URL says of the text.
2. `connection_validated_iff`.
-/

namespace Trackpal.Backend

open Trackpal.Foundation Trackpal.Protocol Trackpal.Registry UrlsLemmas

/-! ## Validation -/

/-- `ipaddress`. -/
structure IpLibrary (Ip : Type) where
  ipAddress : String → Option Ip
  str : Ip → String
  ipv4Mapped : Ip → Option Ip
  isGlobal : Ip → Bool
  isMulticast : Ip → Bool
  isReserved : Ip → Bool

/-- What the host of the process offers: `getaddrinfo` is `none` for an `OSError`. -/
structure Network (Ip : Type) where
  urls : UrlLibrary
  ips : IpLibrary Ip
  getaddrinfo : String → Nat → Option (List String)

inductive UrlError where
  | executorUrl (message : String)
  | value
deriving DecidableEq, Repr

structure ValidatedExecutorUrl where
  baseUrl : String
  scheme : String
  hostname : String
  port : Nat
  addresses : List String
deriving DecidableEq, Repr

variable {Ip : Type} (net : Network Ip)

/-- `_resolve` with the system's resolver. -/
def resolve (host : String) (port : Nat) : Except UrlError (List String) :=
  match net.getaddrinfo host port with
  | none => .error (.executorUrl "executor hostname could not be resolved")
  | some values =>
    if values.all fun value => (net.ips.ipAddress value).isSome then
      .ok (values.foldl (fun found value => if value ∈ found then found else found ++ [value]) [])
    else .error (.executorUrl "executor DNS returned an invalid address")

def isPublicAddress (address : String) : Bool :=
  match net.ips.ipAddress address with
  | none => false
  | some ip =>
    let ip := (net.ips.ipv4Mapped ip).getD ip
    net.ips.isGlobal ip && !net.ips.isMulticast ip && !net.ips.isReserved ip

/-- `_parse_url`, with the port. -/
def parseUrl (baseUrl : String) : Except UrlError (SplitResult × Option Nat) :=
  match urlsplit net.urls baseUrl.toList with
  | none => .error .value
  | some parsed =>
    if parsed.scheme = [] ∨ parsed.netloc = [] ∨ parsed.hostname net.urls = [] then
      .error (.executorUrl "executor URL must include a scheme and hostname")
    else if parsed.hasUser then
      .error (.executorUrl "executor URL must not contain credentials")
    else if parsed.fragment ≠ [] then
      .error (.executorUrl "executor URL must not contain a fragment")
    else if parsed.path ≠ [] ∧ parsed.path ≠ ['/'] ∨ parsed.query ≠ [] then
      .error (.executorUrl "executor URL must not contain a path or query")
    else if parsed.scheme ≠ "https".toList ∧ parsed.scheme ≠ "http".toList then
      .error (.executorUrl "executor URL scheme is not allowed")
    else
      match parsed.port with
      | none => .error (.executorUrl "executor URL port is invalid")
      | some port => .ok (parsed, port)

def defaultPort (scheme : List Char) : Nat := if scheme = "https".toList then 443 else 80

/-- `rstrip("/")`. -/
def rstripSlash (text : String) : String := .ofList (text.toList.rdropWhile (· = '/'))

/-- The addresses of a host: a literal address is its own. -/
def candidates (literal : Option Ip) (hostname : String) (port : Nat) :
    Except UrlError (List String) :=
  match literal with
  | some ip => .ok [net.ips.str ip]
  | none => resolve net hostname port

/-- `validate_executor_url` with the system's resolver. -/
def validateExecutorUrl (baseUrl transportMode : String) :
    Except UrlError ValidatedExecutorUrl :=
  match parseUrl net baseUrl with
  | .error e => .error e
  | .ok (parsed, given) =>
    let hostname := String.ofList (parsed.hostname net.urls)
    let literal := net.ips.ipAddress hostname
    let port := given.getD (defaultPort parsed.scheme)
    if parsed.scheme = "http".toList ∧ (transportMode ≠ "http_encrypted" ∨ literal.isNone) then
      .error (.executorUrl "HTTP executors require an explicit public IP")
    else if parsed.scheme ≠ "http".toList ∧ transportMode ≠ "https" then
      .error (.executorUrl "HTTPS executors require https transport mode")
    else if ¬(1 ≤ port ∧ port ≤ 65535) then
      .error (.executorUrl "executor URL port is out of range")
    else
      match candidates net literal hostname port with
      | .error e => .error e
      | .ok addresses =>
        if addresses = [] then .error (.executorUrl "executor hostname did not resolve")
        else if addresses.any fun address => !isPublicAddress net address then
          .error (.executorUrl "executor DNS resolved to a non-public address")
        else
          .ok { baseUrl := rstripSlash baseUrl, scheme := .ofList parsed.scheme, hostname, port,
                addresses }

/-! ## The call -/

inductive Call where
  | challenge (value : String)
  | handoff (envelope : ExecutionEnvelope)

def Call.path : Call → String
  | .challenge _ => challengePath
  | .handoff _ => handoffPath

def Call.payload : Call → Fields
  | .challenge value => .ofList [("challenge", .str value)]
  | .handoff envelope => envelope.payload

/-- A connection: where it goes, and the request that is sent on it. -/
structure Exchange where
  address : String
  port : Nat
  scheme : String
  host : String
  target : String
  signed : Request
deriving DecidableEq, Repr

def endpoint (validated : ValidatedExecutorUrl) (path : String) : String :=
  validated.baseUrl ++ path

def requestTarget (uri : Uri) : List Char :=
  (if uri.path = [] then ['/'] else uri.path) ++
    match uri.query with
    | none => []
    | some query => '?' :: query

/-- `_post` with the pinned transport: a text that is no URI is refused before it connects. -/
def post (validated : ValidatedExecutorUrl) (path : String) (signed : Request) : List Exchange :=
  match splitUri (endpoint validated path).toList, validated.addresses with
  | some uri, address :: _ =>
    let scheme := uri.scheme.map Char.toLower
    [{ address, signed
       port := if uri.port = [] then defaultPort scheme else digitsValue uri.port
       scheme := .ofList scheme
       host := .ofList (uri.host.map Char.toLower)
       target := .ofList (requestTarget uri) }]
  | _, _ => []

def modeText : TransportMode → String
  | .https => "https"
  | .httpEncrypted => "http_encrypted"
  | .other value => value

/-- The connections of `challenge` or `handoff`. -/
def connections (executor : ExecutorView) (draws : Draws) (call : Call) : List Exchange :=
  match validateExecutorUrl net executor.baseUrl (modeText executor.transportMode) with
  | .error _ => []
  | .ok validated =>
    if executor.secretAvailable then
      post validated call.path (signedBody executor call.path call.payload draws)
    else []

/-! ## What is validated -/

/-- What a validated URL says of the text that it was read from. -/
structure Accepted (baseUrl : String) (parsed : SplitResult) (given : Option Nat)
    (v : ValidatedExecutorUrl) : Prop where
  split : urlsplit net.urls baseUrl.toList = some parsed
  netloc : parsed.netloc ≠ []
  user : '@' ∉ parsed.netloc
  fragment : parsed.fragment = []
  query : parsed.query = []
  path : parsed.path = [] ∨ parsed.path = ['/']
  scheme : parsed.scheme = "https".toList ∨ parsed.scheme = "http".toList
  port : parsed.port = some given
  validated : v = { baseUrl := rstripSlash baseUrl, scheme := .ofList parsed.scheme,
                    hostname := .ofList (parsed.hostname net.urls),
                    port := given.getD (defaultPort parsed.scheme), addresses := v.addresses }
  someAddress : v.addresses ≠ []
  allPublic : ∀ address ∈ v.addresses, isPublicAddress net address = true

namespace EndpointsLemmas

variable {net : Network Ip} {baseUrl mode : String} {parsed : SplitResult} {given : Option Nat}
  {v : ValidatedExecutorUrl}

theorem parseUrl_spec (h : parseUrl net baseUrl = .ok (parsed, given)) :
    urlsplit net.urls baseUrl.toList = some parsed ∧ parsed.netloc ≠ [] ∧ '@' ∉ parsed.netloc ∧
      parsed.fragment = [] ∧ parsed.query = [] ∧ (parsed.path = [] ∨ parsed.path = ['/']) ∧
      (parsed.scheme = "https".toList ∨ parsed.scheme = "http".toList) ∧
      parsed.port = some given := by
  unfold parseUrl at h
  cases hsplit : urlsplit net.urls baseUrl.toList with
  | none =>
    rw [hsplit] at h
    nomatch h
  | some r =>
    rw [hsplit] at h
    dsimp only at h
    split at h
    · nomatch h
    next hparts =>
    split at h
    · nomatch h
    next huser =>
    split at h
    · nomatch h
    next hfragment =>
    split at h
    · nomatch h
    next hpath =>
    split at h
    · nomatch h
    next hscheme =>
    cases hport : r.port with
    | none =>
      rw [hport] at h
      nomatch h
    | some port =>
      rw [hport] at h
      obtain ⟨rfl, rfl⟩ := Prod.mk.inj (Except.ok.inj h)
      rw [not_or, not_or] at hparts
      rw [not_or, not_and_or, not_not, not_not, not_not] at hpath
      rw [not_and_or, not_not, not_not] at hscheme
      exact ⟨rfl, hparts.2.1, by simpa [SplitResult.hasUser] using huser, not_not.mp hfragment,
        hpath.2, hpath.1, hscheme, hport⟩

end EndpointsLemmas

open EndpointsLemmas

variable {net : Network Ip} {baseUrl mode : String} {v : ValidatedExecutorUrl}

theorem validate_spec (h : validateExecutorUrl net baseUrl mode = .ok v) :
    ∃ parsed given, Accepted net baseUrl parsed given v := by
  unfold validateExecutorUrl at h
  cases hparse : parseUrl net baseUrl with
  | error e =>
    rw [hparse] at h
    nomatch h
  | ok result =>
    obtain ⟨parsed, given⟩ := result
    obtain ⟨hsplit, hnetloc, huser, hfragment, hquery, hpath, hscheme, hport⟩ :=
      parseUrl_spec hparse
    rw [hparse] at h
    dsimp only at h
    split at h
    · nomatch h
    split at h
    · nomatch h
    split at h
    · nomatch h
    split at h
    · nomatch h
    next addresses _ =>
    split at h
    · nomatch h
    next hsome =>
    split at h
    · nomatch h
    next hpublic =>
    have hv := (Except.ok.inj h).symm
    have haddresses : v.addresses = addresses := by rw [hv]
    refine ⟨parsed, given, hsplit, hnetloc, huser, hfragment, hquery, hpath, hscheme, hport,
      by rw [haddresses]; exact hv, ?_, fun address hmem => ?_⟩
    · rw [haddresses]
      exact hsome
    · rw [haddresses] at hmem
      cases haddress : isPublicAddress net address with
      | true => rfl
      | false =>
        refine absurd (List.any_eq_true.mpr ⟨address, hmem, ?_⟩) hpublic
        rw [haddress]
        rfl

/-! ## The connection -/

def SameHost (a b : String) : Prop := a.toList.map Char.toLower = b.toList.map Char.toLower

/-- A connection goes to an address that was checked, as it was validated, and asks for the path
that was signed. -/
structure Honest (net : Network Ip) (v : ValidatedExecutorUrl) (x : Exchange) : Prop where
  address : x.address ∈ v.addresses ∧ isPublicAddress net x.address = true
  port : x.port = v.port
  scheme : x.scheme = v.scheme
  host : SameHost x.host v.hostname
  target : x.target = x.signed.path

def HasMark (baseUrl : String) : Prop := '?' ∈ baseUrl.toList ∨ '#' ∈ baseUrl.toList

def Sends (executor : ExecutorView) (call : Call) : Prop :=
  executor.secretAvailable = true ∧
    (splitUri (rstripSlash executor.baseUrl ++ call.path).toList).isSome = true

namespace EndpointsLemmas

variable {executor : ExecutorView} {draws : Draws} {call : Call} {path : String} {signed : Request}
  {parsed : SplitResult} {given : Option Nat} {uri : Uri} {name question hash : List Char}

/-- The text of a base URL, part by part. -/
structure Shape (baseUrl : String) (parsed : SplitResult) (name question hash : List Char) :
    Prop where
  scheme : isScheme name = true ∧ parsed.scheme = name.map Char.toLower
  marks : (question = [] ∨ question = ['?']) ∧ (hash = [] ∨ hash = ['#'])
  free : ∀ c ∈ parsed.netloc, c ∉ ['/', '?', '#']
  text : baseUrl.toList =
    name ++ ':' :: '/' :: '/' :: (parsed.netloc ++ (parsed.path ++ question ++ hash))

theorem path_spec (call : Call) :
    call.path.toList = '/' :: 'v' :: call.path.toList.drop 2 ∧
      call.path.toList.all (fun c => c ∉ ['?', '#']) = true := by
  have hpaths : ∀ path ∈ [challengePath, handoffPath],
      path.toList = '/' :: 'v' :: path.toList.drop 2 ∧
        path.toList.all (fun c => c ∉ ['?', '#']) = true := by
    decide +kernel
  cases call
  · exact hpaths _ List.mem_cons_self
  · exact hpaths _ (List.mem_cons_of_mem _ List.mem_cons_self)

theorem uriChars_of_endpoint (h : splitUri (rstripSlash baseUrl ++ path).toList = some uri) :
    baseUrl.toList.all isUriChar = true := by
  have hall := uriChars_of_splitUri h
  rw [String.toList_append, List.all_append, Bool.and_eq_true] at hall
  have hstripped : (baseUrl.toList.rdropWhile (· = '/')).all isUriChar = true := by
    rw [← String.toList_ofList (l := baseUrl.toList.rdropWhile (· = '/'))]
    exact hall.1
  have hslashes : (baseUrl.toList.rtakeWhile (· = '/')).all isUriChar = true := by
    refine List.all_eq_true.mpr fun c hc => ?_
    have hslash := List.mem_rtakeWhile_imp hc
    rw [of_decide_eq_true hslash]
    decide
  have hsplit : baseUrl.toList.rdropWhile (· = '/') ++ baseUrl.toList.rtakeWhile (· = '/') =
      baseUrl.toList := List.rdropWhile_append_rtakeWhile
  rw [← hsplit, List.all_append, hstripped, hslashes]
  rfl

theorem shape_of_accepted (h : Accepted net baseUrl parsed given v)
    (hchars : baseUrl.toList.all isUriChar = true) :
    ∃ name question hash, Shape baseUrl parsed name question hash := by
  have hscheme : parsed.scheme ≠ [] := by
    obtain hscheme | hscheme := h.scheme <;> rw [hscheme] <;> decide
  obtain ⟨name, question, hash, hname, hlower, hquestion, hhash, hfree, htext⟩ :=
    urlsplit_parts h.split (cleanUrl_of_uri hchars) hscheme h.netloc h.query h.fragment
  refine ⟨name, question, hash, ⟨hname, ?_⟩, ⟨hquestion, hhash⟩, hfree, htext⟩
  rw [hlower]
  refine net.urls.lower_ascii name fun c hc => ascii_of_uriChar ?_
  refine List.all_eq_true.mp hchars c ?_
  rw [htext]
  exact List.mem_append_left _ hc

theorem hasMark_iff (h : Shape baseUrl parsed name question hash)
    (hpath : parsed.path = [] ∨ parsed.path = ['/']) :
    HasMark baseUrl ↔ question ++ hash ≠ [] := by
  obtain ⟨hquestion, hhash⟩ := h.marks
  constructor
  · rintro hmark hnone
    obtain ⟨rfl, rfl⟩ := List.append_eq_nil_iff.mp hnone
    have hno : ∀ c ∈ baseUrl.toList, c ≠ '?' ∧ c ≠ '#' := by
      rw [h.text, List.append_nil, List.append_nil]
      intro c hc
      obtain hc | hc := List.mem_append.mp hc
      · have hscheme := schemeChars_of_isScheme h.scheme.1 c hc
        constructor <;> rintro rfl <;> exact absurd hscheme (by decide)
      · rw [List.mem_cons, List.mem_cons, List.mem_cons, List.mem_append] at hc
        obtain rfl | rfl | rfl | hc | hc := hc
        · decide
        · decide
        · decide
        · have hfree := h.free c hc
          constructor <;> rintro rfl <;> exact absurd hfree (by decide)
        · obtain hpath | hpath := hpath
          · rw [hpath] at hc
            nomatch hc
          · rw [hpath, List.mem_singleton] at hc
            rw [hc]
            decide
    obtain hmark | hmark := hmark
    · exact (hno _ hmark).1 rfl
    · exact (hno _ hmark).2 rfl
  · intro hsome
    have hmem {c : Char} (hc : c ∈ question ++ hash) : c ∈ baseUrl.toList := by
      rw [h.text, List.append_assoc parsed.path]
      refine List.mem_append_right _ (List.mem_cons_of_mem _ (List.mem_cons_of_mem _
        (List.mem_cons_of_mem _ (List.mem_append_right _ (List.mem_append_right _ hc)))))
    obtain rfl | rfl := hquestion
    · obtain rfl | rfl := hhash
      · exact absurd rfl hsome
      · exact .inr (hmem List.mem_cons_self)
    · exact .inl (hmem List.mem_cons_self)

theorem rstripSlash_of_shape (h : Shape baseUrl parsed name question hash)
    (hnetloc : parsed.netloc ≠ []) (hpath : parsed.path = [] ∨ parsed.path = ['/']) :
    (rstripSlash baseUrl).toList =
      name ++ ':' :: '/' :: '/' :: (parsed.netloc ++
        if question ++ hash = [] then [] else parsed.path ++ question ++ hash) := by
  unfold rstripSlash
  rw [String.toList_ofList, h.text]
  split
  next hnone =>
    obtain ⟨rfl, rfl⟩ := List.append_eq_nil_iff.mp hnone
    rw [List.append_nil, List.append_nil, List.append_nil]
    have hlast : (name ++ ':' :: '/' :: '/' :: parsed.netloc).rdropWhile (· = '/') =
        name ++ ':' :: '/' :: '/' :: parsed.netloc := by
      refine List.rdropWhile_eq_self_iff.mpr fun hne hslash => ?_
      rw [List.getLast_append_of_ne_nil _ (List.cons_ne_nil _ _),
        List.getLast_cons (List.cons_ne_nil _ _), List.getLast_cons (List.cons_ne_nil _ _),
        List.getLast_cons hnetloc] at hslash
      exact h.free _ (List.getLast_mem hnetloc) (of_decide_eq_true hslash ▸ List.mem_cons_self)
    obtain hpath | hpath := hpath
    · rw [hpath, List.append_nil]
      exact hlast
    · have hassoc : name ++ ':' :: '/' :: '/' :: (parsed.netloc ++ ['/']) =
          (name ++ ':' :: '/' :: '/' :: parsed.netloc) ++ ['/'] := by
        rw [List.append_assoc]
        rfl
      rw [hpath, hassoc, List.rdropWhile_concat_pos _ _ _ (by decide)]
      exact hlast
  next hsome =>
    obtain ⟨front, c, hclose, hc⟩ : ∃ front c, question ++ hash = front ++ [c] ∧ c ≠ '/' := by
      obtain ⟨hquestion, hhash⟩ := h.marks
      obtain rfl | rfl := hhash
      · obtain rfl | rfl := hquestion
        · exact absurd rfl hsome
        · exact ⟨[], '?', rfl, by decide⟩
      · exact ⟨question, '#', rfl, by decide⟩
    have hassoc : name ++ ':' :: '/' :: '/' ::
          (parsed.netloc ++ (parsed.path ++ question ++ hash)) =
        (name ++ ':' :: '/' :: '/' :: (parsed.netloc ++ (parsed.path ++ front))) ++ [c] := by
      rw [List.append_assoc parsed.path, hclose]
      simp only [List.append_assoc, List.cons_append]
    rw [hassoc]
    exact List.rdropWhile_concat_neg _ _ _ fun hslash => hc (of_decide_eq_true hslash)

def afterAuthority (parsed : SplitResult) (question hash : List Char) (path : String) :
    List Char :=
  (if question ++ hash = [] then [] else parsed.path ++ question ++ hash) ++ path.toList

theorem endpoint_parts (h : Accepted net baseUrl parsed given v)
    (hshape : Shape baseUrl parsed name question hash)
    (huri : splitUri (rstripSlash baseUrl ++ call.path).toList = some uri) :
    uri.scheme = name ∧
      uri.path = (upTo ['?', '#'] (afterAuthority parsed question hash call.path)).1 ∧
      uri.query =
        (readQuery (upTo ['?', '#'] (afterAuthority parsed question hash call.path)).2).1 ∧
      hostinfo parsed.netloc = (uri.host, uri.port) ∧ uri.host.all isUriChar = true := by
  have hhead : ∀ c ∈ (afterAuthority parsed question hash call.path).head?,
      c ∈ ['/', '?', '#'] := by
    obtain ⟨hpath, -⟩ := path_spec call
    generalize call.path.toList.drop 2 = rest at hpath
    unfold afterAuthority
    rw [hpath]
    clear hpath
    obtain ⟨rfl | rfl, rfl | rfl⟩ := hshape.marks <;> obtain hpath | hpath := h.path <;>
      simp [hpath]
  rw [String.toList_append, rstripSlash_of_shape hshape h.netloc h.path, List.append_assoc,
    List.cons_append, List.cons_append, List.cons_append, List.append_assoc] at huri
  obtain ⟨hscheme, hpath, hquery, after, hhost, hport⟩ :=
    splitUri_parts hshape.scheme.1 hshape.free hhead h.user huri
  exact ⟨hscheme, hpath, hquery, hostinfo_of_splitHost h.user hhost hport,
    uriChars_of_splitHost hhost⟩

theorem target_iff (h : Accepted net baseUrl parsed given v)
    (hshape : Shape baseUrl parsed name question hash)
    (huri : splitUri (rstripSlash baseUrl ++ call.path).toList = some uri) :
    String.ofList (requestTarget uri) = call.path ↔ question ++ hash = [] := by
  obtain ⟨-, hpath, hquery, -⟩ := endpoint_parts h hshape huri
  obtain ⟨hcall, hfree⟩ := path_spec call
  unfold requestTarget
  unfold afterAuthority at hpath hquery
  by_cases hnone : question ++ hash = []
  · rw [if_pos hnone, List.nil_append] at hpath hquery
    have hwhole : upTo ['?', '#'] (call.path.toList ++ []) = (call.path.toList, []) :=
      upTo_append (fun c hc => of_decide_eq_true (List.all_eq_true.mp hfree c hc))
        fun c hc => nomatch hc
    rw [List.append_nil] at hwhole
    rw [hwhole] at hpath hquery
    dsimp only at hpath hquery
    rw [hpath, hquery, hcall, if_neg (List.cons_ne_nil _ _), ← hcall]
    change String.ofList (call.path.toList ++ []) = call.path ↔ _
    rw [List.append_nil, String.ofList_toList]
    exact ⟨fun _ => hnone, fun _ => rfl⟩
  · rw [if_neg hnone, List.append_assoc, List.append_assoc] at hpath hquery
    have hfront : upTo ['?', '#'] (parsed.path ++ (question ++ (hash ++ call.path.toList))) =
        (parsed.path, question ++ (hash ++ call.path.toList)) := by
      refine upTo_append (fun c hc => ?_) fun c hc => ?_
      · obtain hempty | hslash := h.path
        · rw [hempty] at hc
          nomatch hc
        · rw [hslash, List.mem_singleton] at hc
          rw [hc]
          decide
      · obtain ⟨rfl | rfl, rfl | rfl⟩ := hshape.marks
        · exact absurd rfl hnone
        all_goals
          obtain rfl := Option.some.inj hc
          decide
    rw [hfront] at hpath hquery
    refine ⟨fun htarget => ?_, fun h => absurd h hnone⟩
    have hslash : (if uri.path = [] then ['/'] else uri.path) = ['/'] := by
      rw [hpath]
      obtain hempty | hslash := h.path
      · rw [hempty, if_pos rfl]
      · rw [hslash, if_neg (List.cons_ne_nil _ _)]
    rw [hslash] at htarget
    have hlist := congrArg String.toList htarget
    rw [String.toList_ofList, hcall] at hlist
    -- Behind the slash comes the mark of a query or nothing.
    cases hq : uri.query with
    | none =>
      rw [hq] at hlist
      exact absurd (List.cons.inj hlist).2 (List.cons_ne_nil _ _).symm
    | some query =>
      rw [hq] at hlist
      exact absurd (List.cons.inj (List.cons.inj hlist).2).1 (by decide)

theorem port_eq {r : SplitResult} {host digits : List Char} {found : Option Nat} {fallback : Nat}
    (hinfo : hostinfo r.netloc = (host, digits)) (hport : r.port = some found) :
    (if digits = [] then fallback else digitsValue digits) = found.getD fallback := by
  unfold SplitResult.port at hport
  rw [hinfo] at hport
  dsimp only at hport
  by_cases hnone : digits = []
  · rw [if_pos hnone] at hport ⊢
    rw [← Option.some.inj hport]
    rfl
  · rw [if_neg hnone] at hport ⊢
    split at hport
    · rw [← Option.some.inj hport]
      rfl
    · nomatch hport

theorem sameHost (hinfo : hostinfo parsed.netloc = (uri.host, uri.port))
    (hchars : uri.host.all isUriChar = true) :
    SameHost (.ofList (uri.host.map Char.toLower)) (.ofList (parsed.hostname net.urls)) := by
  have htwice {l : List Char} : (l.map Char.toLower).map Char.toLower = l.map Char.toLower := by
    rw [List.map_map]
    exact List.map_congr_left fun c _ => toLower_toLower c
  obtain ⟨hsplit, -, -⟩ := @upTo_spec ['%'] uri.host
  have hlower : net.urls.lower (upTo ['%'] uri.host).1 = _ :=
    net.urls.lower_ascii _ fun c hc => ascii_of_uriChar <| List.all_eq_true.mp hchars c <| by
      rw [hsplit]
      exact List.mem_append_left _ hc
  unfold SameHost SplitResult.hostname
  rw [String.toList_ofList, String.toList_ofList, hinfo, htwice]
  dsimp only
  rw [hlower, List.map_append, htwice, ← List.map_append, ← hsplit]

theorem honest_iff_target {address : String} (h : Accepted net baseUrl parsed given v)
    (huri : splitUri (rstripSlash baseUrl ++ call.path).toList = some uri)
    (haddress : address ∈ v.addresses) (hsigned : signed.path = call.path) :
    Honest net v
        { address, signed
          port := if uri.port = [] then defaultPort (uri.scheme.map Char.toLower)
            else digitsValue uri.port
          scheme := .ofList (uri.scheme.map Char.toLower)
          host := .ofList (uri.host.map Char.toLower)
          target := .ofList (requestTarget uri) } ↔
      ¬HasMark baseUrl := by
  obtain ⟨name, question, hash, hshape⟩ := shape_of_accepted h (uriChars_of_endpoint huri)
  obtain ⟨hname, -, -, hinfo, hchars⟩ := endpoint_parts h hshape huri
  have htarget := target_iff h hshape huri
  have hscheme : uri.scheme.map Char.toLower = parsed.scheme := by
    rw [hname, hshape.scheme.2]
  have hfields := h.validated
  rw [hasMark_iff hshape h.path, not_not, ← htarget]
  constructor
  · exact fun honest => honest.target.trans hsigned
  · refine fun heq => ⟨⟨haddress, h.allPublic address haddress⟩, ?_, ?_, ?_, heq.trans hsigned.symm⟩
    · rw [hfields, hscheme]
      exact port_eq hinfo h.port
    · rw [hfields, hscheme]
    · rw [hfields]
      exact sameHost hinfo hchars

end EndpointsLemmas

open EndpointsLemmas

variable {executor : ExecutorView} {draws : Draws} {call : Call}

/-- A call connects as validated and asks for the path that it signed, as long as the text has no
mark of a query or a fragment. -/
theorem connection_validated_iff
    (h : validateExecutorUrl net executor.baseUrl (modeText executor.transportMode) = .ok v) :
    (connections net executor draws call).length ≤ 1 ∧
        (∀ x ∈ connections net executor draws call, Honest net v x) ↔
      (Sends executor call → ¬HasMark executor.baseUrl) := by
  obtain ⟨parsed, given, haccepted⟩ := validate_spec h
  have hendpoint : endpoint v call.path = rstripSlash executor.baseUrl ++ call.path := by
    unfold endpoint
    rw [haccepted.validated]
  obtain ⟨address, rest, haddresses⟩ := List.exists_cons_of_ne_nil haccepted.someAddress
  unfold connections Sends
  rw [h]
  dsimp only
  by_cases hsecret : executor.secretAvailable = true
  · rw [if_pos hsecret]
    unfold post
    rw [hendpoint, haddresses]
    cases huri : splitUri (rstripSlash executor.baseUrl ++ call.path).toList with
    | none =>
      dsimp only
      exact ⟨fun _ hsends => Bool.noConfusion hsends.2,
        fun _ => ⟨Nat.zero_le _, fun x hx => absurd hx List.not_mem_nil⟩⟩
    | some uri =>
      dsimp only
      have haddress : address ∈ v.addresses := haddresses ▸ List.mem_cons_self
      have hiff := @honest_iff_target _ _ _ _ call
        (signedBody executor call.path call.payload draws) _ _ _ _ haccepted huri haddress rfl
      constructor
      · exact fun hall _ => hiff.mp (hall.2 _ List.mem_cons_self)
      · refine fun hmark => ⟨Nat.le_refl 1, fun x hx => ?_⟩
        obtain rfl := List.mem_singleton.mp hx
        exact hiff.mpr (hmark ⟨hsecret, rfl⟩)
  · rw [if_neg hsecret]
    exact ⟨fun _ hsends => absurd hsends.1 hsecret,
      fun _ => ⟨Nat.zero_le _, fun x hx => absurd hx List.not_mem_nil⟩⟩

/-! ## An executor behind an empty query -/

def exOctets : List Char → List (List Char)
  | [] => [[]]
  | '.' :: rest => [] :: exOctets rest
  | c :: rest =>
    match exOctets rest with
    | [] => [[c]]
    | octet :: more => (c :: octet) :: more

/-- Addresses of four numbers. The private and reserved ranges are those below 1.0.0.0, from
10.0.0.0 and from 127.0.0.0 up to the next number, and everything from 224.0.0.0 on. -/
def exIps : IpLibrary (List Nat) where
  ipAddress text :=
    let octets := exOctets text.toList
    if octets.length = 4 ∧ octets.all fun octet =>
        octet ≠ [] && octet.all Char.isDigit && (octet.head? ≠ some '0' || octet.length = 1) &&
          digitsValue octet ≤ 255 then
      some (octets.map digitsValue)
    else none
  str ip := ".".intercalate (ip.map toString)
  ipv4Mapped _ := none
  isGlobal ip := ip.head?.all fun first => first ≠ 0 && first ≠ 10 && first ≠ 127 && first < 224
  isMulticast ip := ip.head?.any fun first => 224 ≤ first && first < 240
  isReserved ip := ip.head?.any fun first => 240 ≤ first

def exNetwork : Network (List Nat) where
  urls :=
    { netlocOk := fun netloc => netloc.all (·.toNat < 128)
      lower := fun text => text.map Char.toLower
      lower_ascii := lower_chars }
  ips := exIps
  getaddrinfo host _ := if host = "executor.example.test" then some ["93.184.216.34"] else none

def exView (baseUrl : String) : ExecutorView where
  id := ⟨1⟩
  baseUrl
  transportMode := .https
  secretEncrypted := encryptValue "executor-secret"
  secretVersion := 1

def exDraws : Draws := { timestamp := 1700000000, nonce := "nonce", aesNonce := 7 }

def exValidated (baseUrl : String) : ValidatedExecutorUrl where
  baseUrl
  scheme := "https"
  hostname := "executor.example.test"
  port := 443
  addresses := ["93.184.216.34"]

theorem calls_exView :
    (∀ baseUrl ∈ ["https://executor.example.test", "https://executor.example.test?"],
      validateExecutorUrl exNetwork baseUrl "https" = .ok (exValidated baseUrl)) ∧
    ((connections exNetwork (exView "https://executor.example.test?") exDraws
        (.challenge "echo")).map fun x => (x.target, x.signed.path)) =
      [("/?/v1/health/challenge", "/v1/health/challenge")] := by
  decide +kernel

theorem connection_validated_exView :
    validateExecutorUrl exNetwork "https://executor.example.test" "https" =
        .ok (exValidated "https://executor.example.test") ∧
      ((connections exNetwork (exView "https://executor.example.test") exDraws
            (.challenge "echo")).length ≤ 1 ∧
          (∀ x ∈ connections exNetwork (exView "https://executor.example.test") exDraws
              (.challenge "echo"),
            Honest exNetwork (exValidated "https://executor.example.test") x) ↔
        (Sends (exView "https://executor.example.test") (.challenge "echo") →
          ¬HasMark "https://executor.example.test")) :=
  ⟨calls_exView.1 _ List.mem_cons_self,
    connection_validated_iff (calls_exView.1 _ List.mem_cons_self)⟩

/-- The empty query passes the validation and swallows the path. -/
theorem query_swallows_path :
    validateExecutorUrl exNetwork "https://executor.example.test?" "https" =
        .ok (exValidated "https://executor.example.test?") ∧
      ¬∀ x ∈ connections exNetwork (exView "https://executor.example.test?") exDraws
          (.challenge "echo"),
        Honest exNetwork (exValidated "https://executor.example.test?") x := by
  obtain ⟨hvalidated, hsent⟩ := calls_exView
  refine ⟨hvalidated _ (List.mem_cons_of_mem _ List.mem_cons_self), fun hall => ?_⟩
  obtain ⟨x, hx, hpair⟩ := List.mem_map.mp (hsent ▸ List.mem_cons_self)
  obtain ⟨htarget, hpath⟩ := Prod.mk.inj hpair
  have heq := (hall x hx).target
  rw [htarget, hpath] at heq
  exact absurd heq (by decide +kernel)

end Trackpal.Backend

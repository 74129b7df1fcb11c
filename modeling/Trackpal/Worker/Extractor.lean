import Trackpal.Foundation.StableSort
import Trackpal.Foundation.Text
import Trackpal.Worker.Catalog

/-!
# The extractor

`extractors/extractor.py`: what one email yields, and the newest email of a list
that yields anything, with its index in the list. Instants are UTC microseconds.

Results:
1. `extractNewestWithSource_eq_some`: a result comes from the newest recent email that yields one,
   and the index is that email's.
2. `url_of_extracted`: only an email of Netflix yields a link.
-/

namespace Trackpal.Worker

open Trackpal.Protocol Trackpal.Foundation

/-- The digits of `hexdigest`. -/
def isHexDigit (c : Char) : Bool := c.isDigit || ('a' ≤ c && c ≤ 'f')

/-- The functions of Python's library that the pipeline calls: the group of the first
match of a pattern, the lower case of a text, the ISO form of a UTC instant, and the
SHA-256 of a text in hexadecimal digits. -/
structure Python where
  search : String → String → Option String
  lower : String → String
  isoformat : Int → String
  hexdigest : String → String
  hexdigest_length : ∀ raw, (hexdigest raw).length = 64
  hexdigest_digits : ∀ raw, (hexdigest raw).toList.all isHexDigit = true

theorem length_zeros (_ : String) : (String.ofList (List.replicate 64 '0')).length = 64 := by
  rw [String.length_ofList, List.length_replicate]

theorem isHexDigit_zeros (_ : String) :
    (String.ofList (List.replicate 64 '0')).toList.all isHexDigit = true := by
  rw [String.toList_ofList]
  decide

structure ParsedEmail where
  subject : String
  body : String
  receivedAt : Int
deriving DecidableEq, Repr

structure ExtractedCode where
  value : String
  resultType : ResultType
  serviceKey : String
deriving DecidableEq, Repr

structure ExtractedEmail where
  result : ExtractedCode
  sourceIndex : Nat
deriving DecidableEq, Repr

def minute : Int := 60000000

/-! ## One email -/

def normalizeBody (body serviceKey : String) : String :=
  match getServiceEntry serviceKey with
  | none => body
  | some svc =>
    if svc.serviceName = "Disney+" then
      .ofList (body.toList.filter fun c => c ≠ ' ' ∧ c ≠ '\r' ∧ c ≠ '\n')
    else if svc.serviceName = "HBO Max" then
      stripBy isSpace (.ofList (collapseSpaces false body.toList))
    else body

def matchSubject (subject serviceKey : String) : Bool :=
  match getServiceEntry serviceKey with
  | none => false
  | some entry => entry.subjectPatterns.any fun p => occursIn p subject

/-- The original body, and the normalised one if it differs. -/
def bodiesToTry (body serviceKey : String) : List String :=
  let normalised := normalizeBody body serviceKey
  if normalised ≠ body then [body, normalised] else [body]

variable (python : Python)

def extractFromBody (body serviceKey : String) (subject : Option String) : Option ExtractedCode :=
  if subject.any fun subject => !matchSubject subject serviceKey then none
  else
    match getServiceEntry serviceKey with
    | none => none
    | some entry =>
      (bodiesToTry body serviceKey).findSome? fun candidateBody =>
        entry.extractionRules.findSome? fun rule =>
          (python.search rule.regex candidateBody).map fun value => ⟨value, rule.type, serviceKey⟩

def extractFromEmail (serviceKey : String) (email : ParsedEmail) : Option ExtractedCode :=
  (extractFromBody python email.body serviceKey (some email.subject)).or
    (extractFromBody python email.subject serviceKey (some email.subject))

/-! ## The newest email that yields a result -/

/-- The instant from which on emails count. -/
def extractionCutoff (maxAgeMinutes : Int) (now : Int) (searchAfter : Option Int) : Int :=
  searchAfter.getD (now - maxAgeMinutes * minute)

def newerFirst (a b : ParsedEmail) : Bool := b.receivedAt ≤ a.receivedAt

def extractNewestWithSource (emails : List ParsedEmail) (serviceKey : String)
    (maxAgeMinutes : Int) (now : Int) (searchAfter : Option Int) : Option ExtractedEmail :=
  let cutoff := extractionCutoff maxAgeMinutes now searchAfter
  let candidates := emails.zipIdx.filter fun entry => cutoff ≤ entry.1.receivedAt
  (candidates.mergeSort fun a b => newerFirst a.1 b.1).findSome? fun entry =>
    (extractFromEmail python serviceKey entry.1).map fun result => ⟨result, entry.2⟩

def recentFirst {α : Type} (view : α → ParsedEmail) (cutoff : Int) (emails : List α) : List α :=
  (emails.filter fun email => cutoff ≤ (view email).receivedAt).mergeSort fun a b =>
    newerFirst (view a) (view b)

namespace ExtractorLemmas

variable {python} {α : Type} {view : α → ParsedEmail} {emails : List α} {serviceKey : String}
  {maxAgeMinutes now : Int} {searchAfter : Option Int}

theorem newerFirst_trans (a b c : ParsedEmail) (hab : newerFirst a b) (hbc : newerFirst b c) :
    newerFirst a c := by
  simp only [newerFirst, decide_eq_true_eq] at *
  omega

theorem newerFirst_total (a b : ParsedEmail) : newerFirst a b || newerFirst b a := by
  simp only [newerFirst, Bool.or_eq_true, decide_eq_true_eq]
  omega

theorem extractNewestWithSource_eq_firstHit :
    extractNewestWithSource python (emails.map view) serviceKey maxAgeMinutes now searchAfter =
      (firstHit
        (fun email => extractionCutoff maxAgeMinutes now searchAfter ≤ (view email).receivedAt)
        (fun a b => newerFirst (view a) (view b))
        (fun email => extractFromEmail python serviceKey (view email)) emails).map
          fun hit => ⟨hit.1, hit.2⟩ := by
  have hhit : extractNewestWithSource python (emails.map view) serviceKey maxAgeMinutes now
      searchAfter = (firstHit
        (fun email => extractionCutoff maxAgeMinutes now searchAfter ≤ email.receivedAt)
        newerFirst (extractFromEmail python serviceKey) (emails.map view)).map
          fun hit => ⟨hit.1, hit.2⟩ := by
    rw [extractNewestWithSource, firstHit, List.map_findSome?]
    congr 1
    funext entry
    rw [Function.comp_apply, Option.map_map]
    rfl
  rw [hhit, firstHit_map]
  rfl

end ExtractorLemmas

open ExtractorLemmas

variable {python} {α : Type} {view : α → ParsedEmail} {emails : List α} {serviceKey : String}
  {maxAgeMinutes now : Int} {searchAfter : Option Int}

/-- Without a result, no email that counts yields one. -/
theorem extractNewestWithSource_eq_none
    (h : extractNewestWithSource python (emails.map view) serviceKey maxAgeMinutes now searchAfter =
      none) :
    ∀ email ∈ recentFirst view (extractionCutoff maxAgeMinutes now searchAfter) emails,
      extractFromEmail python serviceKey (view email) = none := by
  rw [extractNewestWithSource_eq_firstHit, Option.map_eq_none_iff] at h
  exact firstHit_eq_none h

theorem extractNewestWithSource_eq_some {extracted : ExtractedEmail}
    (h : extractNewestWithSource python (emails.map view) serviceKey maxAgeMinutes now searchAfter =
      some extracted) :
    ∃ before email after,
      recentFirst view (extractionCutoff maxAgeMinutes now searchAfter) emails =
        before ++ email :: after ∧
      emails[extracted.sourceIndex]? = some email ∧
      extractFromEmail python serviceKey (view email) = some extracted.result ∧
      (∀ other ∈ before, extractFromEmail python serviceKey (view other) = none) ∧
      recentFirst view (extractionCutoff maxAgeMinutes now searchAfter)
        (emails.eraseIdx extracted.sourceIndex) = before ++ after := by
  rw [extractNewestWithSource_eq_firstHit, Option.map_eq_some_iff] at h
  obtain ⟨⟨result, i⟩, hhit, rfl⟩ := h
  exact firstHit_eq_some (fun a b c => newerFirst_trans (view a) (view b) (view c))
    (fun a b => newerFirst_total (view a) (view b)) hhit

theorem url_of_extracted {email : ParsedEmail} {result : ExtractedCode}
    (h : extractFromEmail python serviceKey email = some result)
    (htype : result.resultType = .url) :
    serviceKey = "netflix" := by
  have hbody : ∀ body subject, extractFromBody python body serviceKey subject = some result →
      serviceKey = "netflix" := by
    intro body subject hresult
    unfold extractFromBody at hresult
    split at hresult
    · cases hresult
    split at hresult
    · cases hresult
    next entry hentry =>
    obtain ⟨candidateBody, -, hrules⟩ := List.exists_of_findSome?_eq_some hresult
    obtain ⟨rule, hrule, hvalue⟩ := List.exists_of_findSome?_eq_some hrules
    obtain ⟨value, -, rfl⟩ := Option.map_eq_some_iff.mp hvalue
    exact url_of_netflix hentry hrule htype
  rcases Option.or_eq_some_iff.mp h with hfirst | ⟨-, hsecond⟩
  · exact hbody _ _ hfirst
  · exact hbody _ _ hsecond

end Trackpal.Worker

import Trackpal.Worker.Netflix
import Trackpal.Worker.Pipeline
import Trackpal.Worker.RawMail
import Trackpal.Worker.WholeCodes

/-!
# The identity of a delivery

A result that was delivered is known by the `Message-ID` of its email and by a fingerprint. Without
a `Message-ID` the fingerprint depends on `received_at`, for which `_parse_date` takes the time of
the fetch if it cannot read the date.
-/

namespace Trackpal.Worker

open Trackpal.Foundation Regex PipelineLemmas RawMailLemmas WholeCodeLemmas

/-- SHA-256 tells the two texts apart. -/
def Python.TellsApart (python : Python) (a b : String) : Prop :=
  python.hexdigest a = python.hexdigest b → a = b

namespace Lookup

variable (lookup : Lookup)

/-- What the fingerprint says beside the value. -/
def fingerprintPrefix (email : EmailMessage) : String :=
  match email.messageId.filter (· ≠ "") with
  | some messageId => lookup.command.serviceKey ++ "|" ++ messageId
  | none =>
    lookup.command.serviceKey ++ "|" ++ (email.sender.filter (· ≠ "")).getD "unknown" ++ "|" ++
      lookup.python.isoformat email.receivedAt ++ "|" ++ email.subject

/-- The text that is hashed. -/
def fingerprintText (email : EmailMessage) (value : String) : String :=
  lookup.fingerprintPrefix email ++ "|" ++ value

def identity (email : EmailMessage) (value : String) : Option String × String :=
  (email.messageId, lookup.fingerprint email value)

/-- A lookup that finds a value. What the resolver answers is the code of some page. -/
structure Delivery where
  rounds : List Round
  email : EmailMessage
  value : String
  resolved : ∀ round ∈ rounds, ∀ i otp, (round.resolutions i).answer = .answered (some otp) →
    ∃ unicode unescape page,
      Netflix.extractNetflixVerifyCode unicode unescape page = some otp.toList
  returns : lookup.executeLookup rounds =
    .returns (foundOutcome .code value email.messageId (lookup.fingerprint email value))

end Lookup

/-- The message has a `Message-ID` that is not empty. -/
def RawMessage.identified (message : RawMessage) : Bool :=
  (messageIdOf message.messageId).join.isSome

/-- Two lookups know the message by the same identity, whenever they fetch it, and two deliveries
with one identity have one value, unless SHA-256 collides. -/
structure IdentityKept (lookup other : Lookup) (codecs : Codecs) (message : RawMessage)
    (now now' : Int) (value : String) : Prop where
  stable : ∀ email email', parseMessage lookup.python (message.view codecs now) = some email →
    parseMessage other.python (message.view codecs now') = some email' →
    lookup.identity email value = other.identity email' value
  toldApart : ∀ (first : lookup.Delivery) (second : other.Delivery),
    lookup.identity first.email first.value = other.identity second.email second.value →
    lookup.python.TellsApart (lookup.fingerprintText first.email first.value)
      (other.fingerprintText second.email second.value) →
    first.value = second.value

namespace IdentityLemmas

variable {python : Python} {unicode : Unicode} {lookup other : Lookup} {codecs : Codecs}
  {message : RawMessage} {now now' : Int} {email email' : EmailMessage} {value : String}

theorem fingerprint_eq : lookup.fingerprint email value =
    lookup.python.hexdigest (lookup.fingerprintText email value) := by
  unfold Lookup.fingerprint Lookup.fingerprintText Lookup.fingerprintPrefix
  cases email.messageId.filter (· ≠ "") <;> rfl

theorem of_parseMessage (h : parseMessage python (message.view codecs now) = some email) :
    messageIdOf message.messageId = some email.messageId ∧
      (decodeHeader codecs message.subject).toOption = some email.subject ∧
      parseDate (parsedDate now message.date) = some email.receivedAt ∧
      email.sender = orNone message.sender := by
  obtain ⟨messageId, hid, h⟩ := Option.bind_eq_some_iff.mp h
  obtain ⟨subject, hsubject, h⟩ := Option.bind_eq_some_iff.mp h
  obtain ⟨body, -, h⟩ := Option.bind_eq_some_iff.mp h
  obtain ⟨receivedAt, hdate, h⟩ := Option.bind_eq_some_iff.mp h
  obtain ⟨addresses, -, h⟩ := Option.bind_eq_some_iff.mp h
  cases h
  exact ⟨hid, hsubject, hdate, rfl⟩

/-- An id that is read is not empty. -/
theorem filter_messageId (h : messageIdOf message.messageId = some email.messageId) :
    email.messageId.filter (· ≠ "") = email.messageId := by
  have hnone : ∀ text, (orNone text).filter (· ≠ "") = orNone text := by
    intro text
    unfold orNone
    split
    · rfl
    · next hne => simp [hne]
  cases hid : message.messageId with
  | absent =>
    rw [hid] at h
    rw [← Option.some.inj h]
    rfl
  | text text =>
    rw [hid] at h
    rw [← Option.some.inj h]
    exact hnone _
  | object =>
    rw [hid] at h
    cases h

theorem receivedAt_of_dated (hdated : message.date.isOk = true)
    (h : parseDate (parsedDate now message.date) = some email.receivedAt)
    (h' : parseDate (parsedDate now' message.date) = some email'.receivedAt) :
    email.receivedAt = email'.receivedAt := by
  cases hdate : message.date with
  | error e =>
    rw [hdate] at hdated
    cases hdated
  | ok parsed =>
    rw [hdate] at h h'
    refine Option.some.inj (h.symm.trans (Eq.trans ?_ h'))
    cases parsed with
    | naive instant => rfl
    | aware utc => cases utc <;> rfl

theorem receivedAt_of_undated (hdated : message.date.isOk = false)
    (h : parseDate (parsedDate now message.date) = some email.receivedAt) :
    email.receivedAt = now := by
  cases hdate : message.date with
  | error e =>
    rw [hdate] at h
    unfold parsedDate at h
    dsimp only at h
    split at h
    · exact (Option.some.inj h).symm
    · cases h
  | ok parsed =>
    rw [hdate] at hdated
    cases hdated

theorem class_of_code {subject : Option String} {body serviceKey : String} {rule : ExtractionRule}
    {span : Span} (h : decidingMatch unicode body serviceKey subject = some (rule, span))
    (hcode : rule.type = .code) :
    ∃ k ∈ codeClasses, ∃ flags, ∀ c ∈ span.text, k.accepts flags c = true := by
  obtain ⟨entry, candidateBody, m, hentry, hrule, -, hm, hgroup⟩ := of_decidingMatch h
  have hitem : (serviceKey, entry) ∈ catalogV1 := by
    obtain ⟨front, back, hmem, -⟩ := List.lookup_eq_some_iff.mp hentry
    rw [hmem]
    exact List.mem_append_right front List.mem_cons_self
  obtain ⟨⟨flags, pattern, shape⟩, hruleShape, hsets, -, hclass, -⟩ :=
    of_catalog_codes hitem hrule hcode
  obtain ⟨compiled, hcompile, hshape⟩ := Option.bind_eq_some_iff.mp hruleShape
  obtain ⟨shape', hshape', heq⟩ := Option.map_eq_some_iff.mp hshape
  cases heq
  obtain ⟨span', hspan', -, -, hall, -⟩ := span_of_search hcompile hshape' hsets hm
  obtain rfl : span' = span := Option.some.inj (hspan'.symm.trans hgroup)
  exact ⟨shape.k, hclass, _, hall⟩

theorem bar_not_code {k : CharClass} {flags : Flags} (hk : k ∈ codeClasses) :
    k.accepts flags '|' = false := by
  obtain ⟨ignoreCase, dotAll, multiline⟩ := flags
  revert k ignoreCase dotAll multiline
  decide

theorem bar_not_mem_extracted {serviceKey : String} {parsed : ParsedEmail} {result : ExtractedCode}
    (h : extractFromEmail (python.withSearch unicode) serviceKey parsed = some result)
    (hcode : result.resultType = .code) : '|' ∉ result.value.toList := by
  have hbody : ∀ body subject, extractFromBody (python.withSearch unicode) body serviceKey subject =
      some result → '|' ∉ result.value.toList := by
    intro body subject hresult hmem
    rw [extractFromBody_withSearch] at hresult
    obtain ⟨⟨rule, span⟩, hhit, rfl⟩ := Option.map_eq_some_iff.mp hresult
    obtain ⟨k, hk, flags, hall⟩ := class_of_code hhit hcode
    rw [String.toList_ofList] at hmem
    exact Bool.false_ne_true ((bar_not_code hk).symm.trans (hall _ hmem))
  obtain h | ⟨-, h⟩ := Option.or_eq_some_iff.mp h
  · exact hbody _ _ h
  · exact hbody _ _ h

/-- A value that is delivered was extracted, or is what the resolver answered. -/
theorem of_judge {resolutions : Nat → Resolution} {calls : Nat} {result : ExtractedCode}
    {fingerprint : String}
    (h : (lookup.judge resolutions calls email result).1 = .delivered .code value fingerprint) :
    (result.resultType = .code ∧ result.value = value) ∨
      (resolutions calls).answer = .answered (some value) := by
  have hdeliver : ∀ resultType value',
      lookup.deliver email resultType value' = .delivered .code value fingerprint →
      resultType = .code ∧ value' = value := by
    intro resultType value' hdelivered
    unfold Lookup.deliver at hdelivered
    split at hdelivered
    · cases hdelivered
    · cases hdelivered
      exact ⟨rfl, rfl⟩
  unfold Lookup.judge at h
  split at h
  · dsimp only at h
    split at h
    · cases h
    split at h
    · cases h
    · cases h
    · next otp hanswer =>
      split at h
      · cases h
      · next hne =>
        obtain ⟨-, hvalue⟩ := hdeliver _ _ h
        cases otp with
        | none => exact absurd rfl hne
        | some code =>
          rw [← hvalue]
          exact .inr hanswer
  · exact .inl (hdeliver _ _ h)

theorem bar_not_mem_value (hpython : lookup.python = python.withSearch unicode)
    (delivery : lookup.Delivery) : '|' ∉ delivery.value.toList := by
  obtain ⟨email, verdict, hending, hprogress⟩ | ⟨-, hplain⟩ :=
    executeLookup_of_ending delivery.returns
  · obtain ⟨round, hround, emails, -, hwalk⟩ := ending_eq_some hending
    obtain ⟨-, -, calls, result, hresult, hjudge⟩ := walk_eq_some hwalk
    cases verdict with
    | passedOver => cases hprogress
    | timedOut => cases hprogress
    | raised => cases hprogress
    | delivered resultType value fingerprint =>
      obtain ⟨⟨rfl, -⟩, -⟩ := judge_eq_delivered hresult hjudge
      have hvalue : value = delivery.value :=
        Option.some.inj (congrArg (·.resultValue) (Progress.returns.inj hprogress))
      rw [← hvalue]
      obtain ⟨hcode, hextracted⟩ | hanswer := of_judge hjudge
      · rw [← hextracted]
        exact bar_not_mem_extracted (hpython ▸ hresult) hcode
      · obtain ⟨_, _, page, hpage⟩ := delivery.resolved round hround calls value hanswer
        intro hmem
        exact absurd (Netflix.NetflixLemmas.isDecimal_of_extract hpage _ hmem) (by decide)
  · have hall : ∀ outcome ∈ plainOutcomes, outcome.resultValue = none := by decide
    cases hall _ hplain

/-- What follows the last bar of a text. -/
theorem eq_of_bar {l l' v v' : List Char} (hv : '|' ∉ v) (hv' : '|' ∉ v')
    (h : l ++ '|' :: v = l' ++ '|' :: v') : v = v' := by
  have hlast : ∀ {l v : List Char}, '|' ∉ v →
      (l ++ '|' :: v).reverse.takeWhile (· ≠ '|') = v.reverse := by
    intro l v hv
    have hpos : ∀ c ∈ v.reverse, decide (c ≠ '|') = true := fun c hc =>
      decide_eq_true fun heq => hv (heq ▸ List.mem_reverse.mp hc)
    rw [List.reverse_append, List.reverse_cons, List.append_assoc,
      List.takeWhile_append_of_pos hpos, List.singleton_append,
      List.takeWhile_cons_of_neg (by decide), List.append_nil]
  rw [← List.reverse_inj, ← hlast hv, h, hlast hv']

end IdentityLemmas

open IdentityLemmas

variable {python : Python} {unicode : Unicode} {lookup other : Lookup}

/-- A message that can be parsed keeps its identity from one fetch to another if and only if it has
a `Message-ID`, its date can be read, or the fetches are at one instant. Deliveries with one
identity have one value in any case. -/
theorem identity_kept_iff (hpython : lookup.python = python.withSearch unicode)
    (hother : other.python = lookup.python)
    (hservice : other.command.serviceKey = lookup.command.serviceKey)
    (codecs : Codecs) (message : RawMessage) (now now' : Int) (value : String)
    (hclock : lookup.python.isoformat now = lookup.python.isoformat now' → now = now')
    (hhash : ∀ email email', parseMessage lookup.python (message.view codecs now) = some email →
      parseMessage other.python (message.view codecs now') = some email' →
      lookup.python.TellsApart (lookup.fingerprintText email value)
        (other.fingerprintText email' value)) :
    IdentityKept lookup other codecs message now now' value ↔
      (message.Readable codecs → message.identified = true ∨ message.date.isOk = true ∨
        now = now') := by
  constructor
  · intro hkept hreadable
    have hread : ∀ python now, ∃ email,
        parseMessage python (message.view codecs now) = some email := fun _ _ =>
      Option.isSome_iff_exists.mp (parseMessage_view.mpr hreadable)
    obtain ⟨email, hemail⟩ := hread lookup.python now
    obtain ⟨email', hemail'⟩ := hread other.python now'
    have hsame := hkept.stable email email' hemail hemail'
    by_contra hnot
    rw [not_or, not_or] at hnot
    obtain ⟨hid, hdated, hnow⟩ := hnot
    refine hnow (hclock ?_)
    obtain ⟨hmessageId, hsubject, hdate, hsender⟩ := of_parseMessage hemail
    obtain ⟨hmessageId', hsubject', hdate', hsender'⟩ := of_parseMessage hemail'
    have hnone : email.messageId = none := by
      unfold RawMessage.identified at hid
      rw [hmessageId] at hid
      exact Option.not_isSome_iff_eq_none.mp hid
    have hnone' : email'.messageId = none :=
      (Option.some.inj (hmessageId'.symm.trans hmessageId)).trans hnone
    have htext : lookup.fingerprintText email value = other.fingerprintText email' value := by
      refine hhash email email' hemail hemail' ?_
      rw [← fingerprint_eq, ← hother, ← fingerprint_eq]
      exact congrArg Prod.snd hsame
    unfold Lookup.fingerprintText Lookup.fingerprintPrefix at htext
    rw [hnone, hnone', hservice, hother, hsender, hsender',
      Option.some.inj (hsubject'.symm.trans hsubject),
      receivedAt_of_undated (Bool.eq_false_iff.mpr hdated) hdate,
      receivedAt_of_undated (Bool.eq_false_iff.mpr hdated) hdate'] at htext
    simpa only [Option.filter_none, String.append_left_inj, String.append_right_inj] using htext
  · intro hcondition
    constructor
    · intro email email' hemail hemail'
      obtain ⟨hmessageId, hsubject, hdate, hsender⟩ := of_parseMessage hemail
      obtain ⟨hmessageId', hsubject', hdate', hsender'⟩ := of_parseMessage hemail'
      have hid : email'.messageId = email.messageId :=
        Option.some.inj (hmessageId'.symm.trans hmessageId)
      have hstart : lookup.fingerprintPrefix email = other.fingerprintPrefix email' := by
        unfold Lookup.fingerprintPrefix
        rw [hid, filter_messageId hmessageId, hservice, hother]
        cases hnone : email.messageId with
        | some messageId => rfl
        | none =>
          have hreceived : email.receivedAt = email'.receivedAt := by
            obtain hidentified | hdated | rfl := hcondition
              (parseMessage_view.mp (Option.isSome_of_eq_some hemail))
            · unfold RawMessage.identified at hidentified
              rw [hmessageId, hnone] at hidentified
              cases hidentified
            · exact receivedAt_of_dated hdated hdate hdate'
            · exact Option.some.inj (hdate.symm.trans hdate')
          dsimp only
          rw [hsender, hsender', hreceived, Option.some.inj (hsubject'.symm.trans hsubject)]
      unfold Lookup.identity
      rw [fingerprint_eq, fingerprint_eq, hid, hother]
      unfold Lookup.fingerprintText
      rw [hstart]
    · intro first second hidentity hapart
      have htext : lookup.fingerprintText first.email first.value =
          other.fingerprintText second.email second.value := by
        refine hapart ?_
        rw [← fingerprint_eq, ← hother, ← fingerprint_eq]
        exact congrArg Prod.snd hidentity
      unfold Lookup.fingerprintText at htext
      have hlist := congrArg String.toList htext
      rw [String.toList_append, String.toList_append, String.toList_append, String.toList_append,
        List.append_assoc, List.append_assoc] at hlist
      exact String.toList_inj.mp (eq_of_bar (bar_not_mem_value hpython first)
        (bar_not_mem_value (hother.trans hpython) second) hlist)

/-! ## A message without a date -/

def exFetchPython : Python where
  search _ _ := none
  lower := id
  isoformat now := if now = 0 then "1970-01-01T00:00:00+00:00" else "1970-01-01T00:00:01+00:00"
  hexdigest raw := .ofList <| Nat.toDigits 16 <|
    if raw = "spotify|no-reply@spotify.com|1970-01-01T00:00:00+00:00|Your Spotify login code|482913"
    then 0xb615d923b4da7fcf9cd63e7fb5b9ee3e54f7e7831943ab39b968241edb9c016f
    else 0xe1f1132c0127ec219c3ebce9a719ff9a375d8df452814732b38378defa449d4d
  hexdigest_length raw := by
    rw [String.length_ofList]
    split <;> decide +kernel
  hexdigest_digits raw := by
    rw [String.toList_ofList]
    split <;> decide +kernel

def exFetchLookup : Lookup :=
  ⟨exFetchPython.withSearch .ascii,
    ⟨"spotify", "ana@example.com", 5, window_pos, none, 55, timeout_pos, none, []⟩, 0, 0⟩

/-- A message without a `Date`, for which `parsedate_to_datetime` raises. -/
def exUndated (messageId : HeaderValue) : RawMessage :=
  ⟨messageId, .ok [.text "Your Spotify login code"], false,
    ⟨.ok "text/plain", .ok (some []), .ok none⟩, [], .error .valueError, "no-reply@spotify.com",
    .ok ["ana@example.com"]⟩

def exFetched (messageId : Option String) (now : Int) : EmailMessage :=
  ⟨"Your Spotify login code", "", now, messageId, some "no-reply@spotify.com", ["ana@example.com"]⟩

/-- A message with a `Message-ID`, fetched twice within a second. -/
theorem identified_message : IdentityKept exFetchLookup exFetchLookup exCodecs
    (exUndated (.text "<m1>")) 0 1000000 "482913" := by
  refine (identity_kept_iff rfl rfl rfl _ _ _ _ _ (by decide +kernel) ?_).mpr
    fun _ => .inl (by decide +kernel)
  intro email email' hemail hemail' _
  have hfetched : ∀ now, parseMessage exFetchLookup.python ((exUndated (.text "<m1>")).view exCodecs
      now) = some (exFetched (some "m1") now) := fun _ => by rfl
  obtain rfl := Option.some.inj ((hfetched 0).symm.trans hemail)
  obtain rfl := Option.some.inj ((hfetched 1000000).symm.trans hemail')
  rfl

/-- The same message, fetched twice within a second. -/
theorem undated_message : ¬IdentityKept exFetchLookup exFetchLookup exCodecs (exUndated .absent) 0
    1000000 "482913" := by
  intro h
  have hsame := h.stable (exFetched none 0) (exFetched none 1000000) (by rfl) (by rfl)
  exact absurd (congrArg Prod.snd hsame) (by decide +kernel)

end Trackpal.Worker

import Trackpal.Worker.GmailImap

/-!
# Raw messages

`_extract_raw_bytes`, `_parse_message` and what it calls, down to the calls of Python's `email`
package: each of these calls has its outcome in the raw message, which may be an exception. Only
some of the exceptions have a handler, and `_fetch_sync` has one for all of its messages.

Results:
1. `parseMessage_view`: a message is parsed if and only if no call for it raises something that
   is not handled.
2. `fetch_undisturbed_iff`.
-/

namespace Trackpal.Worker

open Trackpal.Foundation

/-! ## Exceptions and codecs -/

/-- What a call of the library raises. -/
inductive PyError where
  | typeError
  | valueError
  /-- A `ValueError` too. -/
  | unicodeError
  | lookupError
  | attributeError
  | overflowError
  | headerParseError
  | other (name : String)
deriving DecidableEq, Repr

/-- `isinstance(exc, (TypeError, ValueError))`. -/
def PyError.isTypeOrValue : PyError → Bool
  | .typeError | .valueError | .unicodeError => true
  | _ => false

/-- `bytes.decode(charset, errors="replace")`; UTF-8 decodes everything. -/
structure Codecs where
  decode : List UInt8 → String → Except PyError String
  utf8 : List UInt8 → String
  decode_utf8 : ∀ payload, decode payload "utf-8" = .ok (utf8 payload)

def decodePayload (codecs : Codecs) (payload : List UInt8) (charset : Option String) :
    Except PyError String :=
  match codecs.decode payload ((charset.filter (· ≠ "")).getD "utf-8") with
  | .error .lookupError => codecs.decode payload "utf-8"
  | result => result

def Codecs.breaks (codecs : Codecs) (payload : List UInt8) (charset : Option String) : Bool :=
  match codecs.decode payload ((charset.filter (· ≠ "")).getD "utf-8") with
  | .error .lookupError | .ok _ => false
  | .error _ => true

/-! ## Messages -/

/-- A part that `decode_header` finds. -/
inductive HeaderPart where
  | encoded (payload : List UInt8) (charset : Option String)
  | text (value : String)
deriving DecidableEq, Repr

/-- A part of a message, with the outcomes of `get_content_type`, `get_payload(decode=True)` (`none`:
no bytes) and `get_content_charset`. -/
structure MailPart where
  contentType : Except PyError String
  payload : Except PyError (Option (List UInt8))
  charset : Except PyError (Option String)

/-- What `parsedate_to_datetime` returns: a time without a zone, or one with the outcome of
`astimezone(UTC)`. -/
inductive ParsedDatetime where
  | naive (instant : Int)
  | aware (utc : Except PyError Int)

/-- A message that `message_from_bytes` has read. -/
structure RawMessage where
  messageId : HeaderValue
  /-- `decode_header` of the `Subject`. -/
  subject : Except PyError (List HeaderPart)
  isMultipart : Bool
  /-- The message itself as a part. -/
  whole : MailPart
  /-- `walk()`. -/
  parts : List MailPart
  /-- `parsedate_to_datetime` of the `Date`. -/
  date : Except PyError ParsedDatetime
  /-- The `From` header as a text. -/
  sender : String
  /-- `getaddresses` of `To` and `Cc`. -/
  addresses : Except PyError (List String)

/-- An item of an IMAP fetch response: a tuple with bytes, as `message_from_bytes` reads them, or
something else. -/
inductive FetchItem where
  | literal (read : Except PyError RawMessage)
  | other

def extractRawBytes : List FetchItem → Option (Except PyError RawMessage)
  | [] => none
  | .literal read :: _ => some read
  | .other :: rest => extractRawBytes rest

section
variable (codecs : Codecs)

def headerPartText : HeaderPart → Except PyError String
  | .encoded payload charset => decodePayload codecs payload charset
  | .text value => .ok value

def decodeHeader (header : Except PyError (List HeaderPart)) : Except PyError String :=
  match header with
  | .error e => .error e
  | .ok parts => (parts.mapM (headerPartText codecs)).map (String.intercalate " ")

/-- The payload of a part as a text; `none` without bytes. -/
def partText (part : MailPart) : Except PyError (Option String) :=
  match part.payload with
  | .error e => .error e
  | .ok none => .ok none
  | .ok (some payload) =>
    match part.charset with
    | .error e => .error e
    | .ok charset => (decodePayload codecs payload charset).map some

/-- The loop of `_extract_body`: the first `text/plain` part with bytes. -/
def walkParts : List MailPart → Except PyError (Option String)
  | [] => .ok none
  | part :: rest =>
    match part.contentType with
    | .error e => .error e
    | .ok contentType =>
      if contentType = "text/plain" then
        match partText codecs part with
        | .ok none => walkParts rest
        | result => result
      else walkParts rest

def extractBody (message : RawMessage) : Except PyError (Option String) :=
  if message.isMultipart then walkParts codecs message.parts else partText codecs message.whole

end

/-- `_parse_date`, with the clock. -/
def parsedDate (now : Int) : Except PyError ParsedDatetime → ParsedDate
  | .error e => if e.isTypeOrValue then .rejected now else .raised
  | .ok (.naive instant) => .instant instant
  | .ok (.aware (.ok instant)) => .instant instant
  | .ok (.aware (.error _)) => .raised

/-- A message as `_parse_message` sees it. -/
def RawMessage.view (codecs : Codecs) (now : Int) (message : RawMessage) : Message where
  messageId := message.messageId
  subject := (decodeHeader codecs message.subject).toOption
  body := (extractBody codecs message).toOption
  date := parsedDate now message.date
  sender := message.sender
  addresses := message.addresses.toOption

/-- A message that makes `_parse_message` raise. -/
def raisingMessage : Message := ⟨.object, none, none, .raised, "", none⟩

structure RawHit where
  response : List FetchItem
  now : Int

/-- A hit as the loop of `_fetch_sync` sees it: `message_from_bytes` has a handler for two kinds of
exceptions. -/
def RawHit.view (codecs : Codecs) (hit : RawHit) : Option Message :=
  match extractRawBytes hit.response with
  | none => none
  | some (.ok message) => some (message.view codecs hit.now)
  | some (.error e) => if e.isTypeOrValue then none else some raisingMessage

/-- `_fetch_sync`, where every IMAP command succeeds. -/
def fetchHits (python : Python) (codecs : Codecs) (hits : List RawHit) : FetchResult :=
  fetchSync python (.searched (hits.map (·.view codecs)))

def fetchAlone (python : Python) (codecs : Codecs) (hit : RawHit) : List EmailMessage :=
  match fetchHits python codecs [hit] with
  | .emails emails => emails
  | _ => []

/-- No message hides another: the fetch raises nothing, and has what each of the newest messages
comes to when it is fetched alone, in order. -/
def Undisturbed (python : Python) (codecs : Codecs) (hits : List RawHit) : Prop :=
  ∃ emails, fetchHits python codecs hits = .emails emails ∧
    ((hits.rtake maxMessages).flatMap (fetchAlone python codecs)).Sublist emails

/-! ## Messages that are parsed -/

def headerReads (codecs : Codecs) : Except PyError (List HeaderPart) → Bool
  | .error _ => false
  | .ok parts => parts.all fun
    | .encoded payload charset => !codecs.breaks payload charset
    | .text _ => true

def MailPart.reads (codecs : Codecs) (part : MailPart) : Bool :=
  match part.payload with
  | .error _ => false
  | .ok none => true
  | .ok (some payload) =>
    match part.charset with
    | .error _ => false
    | .ok charset => !codecs.breaks payload charset

/-- Up to the first `text/plain` part with bytes, every part reads. -/
def partsRead (codecs : Codecs) : List MailPart → Bool
  | [] => true
  | part :: rest =>
    match part.contentType with
    | .error _ => false
    | .ok contentType =>
      if contentType = "text/plain" then
        part.reads codecs && (match part.payload with
          | .ok none => partsRead codecs rest
          | _ => true)
      else partsRead codecs rest

def dateReads : Except PyError ParsedDatetime → Bool
  | .error e => e.isTypeOrValue
  | .ok (.aware (.error _)) => false
  | .ok _ => true

/-- No call for the message raises something that is not handled: its `Message-ID` is a text, the
codecs of its subject and of its body do not break, its date can be had or is rejected, and its
addresses can be had. -/
structure RawMessage.Readable (codecs : Codecs) (message : RawMessage) : Prop where
  messageId : message.messageId ≠ .object
  subject : headerReads codecs message.subject = true
  body : (if message.isMultipart then partsRead codecs message.parts
    else message.whole.reads codecs) = true
  date : dateReads message.date = true
  addresses : message.addresses.isOk = true

/-- `message_from_bytes` reads the message or rejects it, and what it reads is readable. -/
def RawHit.Readable (codecs : Codecs) (hit : RawHit) : Prop :=
  match extractRawBytes hit.response with
  | none => True
  | some (.ok message) => message.Readable codecs
  | some (.error e) => e.isTypeOrValue = true

namespace RawMailLemmas

variable {python : Python} {codecs : Codecs} {payload : List UInt8} {charset : Option String}
  {header : Except PyError (List HeaderPart)} {part : MailPart} {parts : List MailPart} {now : Int}
  {message : RawMessage} {hit : RawHit} {hits : List RawHit}

theorem decodePayload_isOk :
    (decodePayload codecs payload charset).isOk = !codecs.breaks payload charset := by
  unfold decodePayload Codecs.breaks
  cases codecs.decode payload ((charset.filter (· ≠ "")).getD "utf-8") with
  | ok text => rfl
  | error e =>
    cases e with
    | lookupError =>
      dsimp only
      rw [codecs.decode_utf8]
      rfl
    | _ => rfl

theorem isOk_map {ε α β : Type} {f : α → β} {x : Except ε α} : (x.map f).isOk = x.isOk := by
  cases x <;> rfl

theorem isOk_mapM {ε α β : Type} {f : α → Except ε β} {l : List α} :
    (l.mapM f).isOk = l.all fun a => (f a).isOk := by
  induction l with
  | nil => rfl
  | cons a l ih =>
    rw [List.mapM_cons, List.all_cons, ← ih]
    cases f a with
    | error e => rfl
    | ok b =>
      cases l.mapM f <;> rfl

theorem decodeHeader_isOk : (decodeHeader codecs header).isOk = headerReads codecs header := by
  cases header with
  | error e => rfl
  | ok parts =>
    unfold decodeHeader headerReads
    dsimp only
    rw [isOk_map, isOk_mapM]
    congr 1
    funext part
    cases part with
    | encoded payload charset => exact decodePayload_isOk
    | text value => rfl

theorem partText_isOk : (partText codecs part).isOk = part.reads codecs := by
  unfold partText MailPart.reads
  cases part.payload with
  | error e => rfl
  | ok payload =>
    cases payload with
    | none => rfl
    | some payload =>
      cases part.charset with
      | error e => rfl
      | ok charset => exact isOk_map.trans decodePayload_isOk

theorem walkParts_isOk : (walkParts codecs parts).isOk = partsRead codecs parts := by
  induction parts with
  | nil => rfl
  | cons part rest ih =>
    unfold walkParts partsRead
    cases part.contentType with
    | error e => rfl
    | ok contentType =>
      dsimp only
      by_cases hplain : contentType = "text/plain"
      · rw [if_pos hplain, if_pos hplain]
        unfold partText MailPart.reads
        cases part.payload with
        | error e => rfl
        | ok payload =>
          cases payload with
          | none => exact ih
          | some payload =>
            cases part.charset with
            | error e => rfl
            | ok charset =>
              have hdecoded : (decodePayload codecs payload charset).isOk = _ := decodePayload_isOk
              dsimp only
              rw [Bool.and_true, ← hdecoded]
              cases decodePayload codecs payload charset <;> rfl
      · rw [if_neg hplain, if_neg hplain, ih]

theorem extractBody_isOk : (extractBody codecs message).isOk =
    if message.isMultipart then partsRead codecs message.parts
    else message.whole.reads codecs := by
  unfold extractBody
  split
  · exact walkParts_isOk
  · exact partText_isOk

theorem parsedDate_ne_raised {date : Except PyError ParsedDatetime} :
    (parseDate (parsedDate now date)).isSome = dateReads date := by
  cases date with
  | error e =>
    cases hhandled : e.isTypeOrValue <;> simp [parsedDate, dateReads, parseDate, hhandled]
  | ok parsed =>
    cases parsed with
    | naive instant => rfl
    | aware utc => cases utc <;> rfl

theorem messageIdOf_isSome {value : HeaderValue} :
    (messageIdOf value).isSome = true ↔ value ≠ .object := by
  cases value with
  | absent => exact iff_of_true rfl HeaderValue.noConfusion
  | text value => exact iff_of_true rfl HeaderValue.noConfusion
  | object => exact iff_of_false Bool.false_ne_true fun h => h rfl

theorem toOption_isSome {ε α : Type} {x : Except ε α} : x.toOption.isSome = x.isOk := by
  cases x <;> rfl

theorem parseMessage_isSome {message : Message} : (parseMessage python message).isSome = true ↔
    message.messageId ≠ .object ∧ message.subject.isSome = true ∧ message.body.isSome = true ∧
      (parseDate message.date).isSome = true ∧ message.addresses.isSome = true := by
  rw [← messageIdOf_isSome]
  unfold parseMessage
  cases messageIdOf message.messageId <;> cases message.subject <;> cases message.body <;>
    cases parseDate message.date <;> cases message.addresses <;> simp

end RawMailLemmas

open RawMailLemmas

variable {python : Python} {codecs : Codecs} {now : Int} {message : RawMessage} {hit : RawHit}
  {hits : List RawHit}

theorem parseMessage_view :
    (parseMessage python (message.view codecs now)).isSome = true ↔ message.Readable codecs := by
  rw [parseMessage_isSome]
  unfold RawMessage.view
  dsimp only
  rw [toOption_isSome, toOption_isSome, toOption_isSome, decodeHeader_isOk, extractBody_isOk,
    parsedDate_ne_raised]
  exact ⟨fun ⟨hid, hsubject, hbody, hdate, haddresses⟩ =>
      ⟨hid, hsubject, hbody, hdate, haddresses⟩,
    fun h => ⟨h.messageId, h.subject, h.body, h.date, h.addresses⟩⟩

/-! ## A fetch -/

namespace RawMailLemmas

/-- What a hit adds to the emails: nothing where it has no message; `none` where it raises. -/
def hitEmails (python : Python) (codecs : Codecs) (hit : RawHit) : Option (List EmailMessage) :=
  match hit.view codecs with
  | none => some []
  | some message => (parseMessage python message).map fun email => [email]

theorem hitEmails_isSome : (hitEmails python codecs hit).isSome = true ↔ hit.Readable codecs := by
  unfold hitEmails RawHit.view RawHit.Readable
  cases extractRawBytes hit.response with
  | none => exact iff_of_true rfl trivial
  | some read =>
    cases read with
    | ok message =>
      dsimp only
      rw [Option.isSome_map, parseMessage_view]
    | error e =>
      cases hhandled : e.isTypeOrValue with
      | true => simp [hhandled]
      | false => simp [hhandled, raisingMessage, parseMessage, messageIdOf]

theorem mapM_parseMessage : ((hits.map (·.view codecs)).filterMap id).mapM (parseMessage python) =
    (hits.mapM (hitEmails python codecs)).map List.flatten := by
  induction hits with
  | nil => rfl
  | cons hit hits ih =>
    rw [List.map_cons, List.mapM_cons, hitEmails]
    cases hit.view codecs with
    | none =>
      rw [List.filterMap_cons_none rfl, ih]
      cases hits.mapM (hitEmails python codecs) <;> rfl
    | some message =>
      show (message :: (hits.map (·.view codecs)).filterMap id).mapM _ = _
      rw [List.mapM_cons, ih]
      dsimp only
      cases parseMessage python message with
      | none => rfl
      | some email => cases hits.mapM (hitEmails python codecs) <;> rfl

theorem fetchHits_eq : fetchHits python codecs hits =
    match (hits.rtake maxMessages).mapM (hitEmails python codecs) with
    | none => .failed
    | some emails => .emails emails.flatten := by
  have hnewest : (hits.map (·.view codecs)).rtake maxMessages =
      (hits.rtake maxMessages).map (·.view codecs) := by
    simp [List.rtake, List.map_drop]
  unfold fetchHits fetchSync
  dsimp only
  rw [hnewest, mapM_parseMessage]
  cases (hits.rtake maxMessages).mapM (hitEmails python codecs) <;> rfl

theorem fetchAlone_eq : fetchAlone python codecs hit = (hitEmails python codecs hit).getD [] := by
  have hone : [hit].rtake maxMessages = [hit] := rfl
  unfold fetchAlone
  rw [fetchHits_eq, hone, List.mapM_cons, List.mapM_nil]
  cases hitEmails python codecs hit with
  | none => rfl
  | some emails => exact List.append_nil emails

theorem mapM_isSome {α β : Type} {f : α → Option β} {l : List α} :
    (l.mapM f).isSome = true ↔ ∀ a ∈ l, (f a).isSome = true := by
  induction l with
  | nil => simp
  | cons a l ih =>
    rw [List.mapM_cons, List.forall_mem_cons, ← ih]
    cases f a with
    | none => simp
    | some b => cases l.mapM f <;> simp

theorem flatten_of_mapM {α β : Type} {f : α → Option (List β)} {l : List α}
    {values : List (List β)} (h : l.mapM f = some values) :
    l.flatMap (fun a => (f a).getD []) = values.flatten := by
  induction l generalizing values with
  | nil =>
    cases h
    rfl
  | cons a l ih =>
    rw [List.mapM_cons] at h
    obtain ⟨first, hfirst, hrest⟩ := Option.bind_eq_some_iff.mp h
    obtain ⟨rest, hl, hcons⟩ := Option.bind_eq_some_iff.mp hrest
    cases hcons
    rw [List.flatMap_cons, ih hl, hfirst]
    rfl

end RawMailLemmas

/-- No message hides the others if and only if each of the newest ones reads: no `Message-ID` with
raw bytes, no header that cannot be decoded, no codec that breaks, no date with an exception that
has no handler. -/
theorem fetch_undisturbed_iff : Undisturbed python codecs hits ↔
    ∀ hit ∈ hits.rtake maxMessages, hit.Readable codecs := by
  have hreadable : (∀ hit ∈ hits.rtake maxMessages, hit.Readable codecs) ↔
      ((hits.rtake maxMessages).mapM (hitEmails python codecs)).isSome = true := by
    rw [mapM_isSome]
    exact forall_congr' fun hit => imp_congr_right fun _ => hitEmails_isSome.symm
  rw [hreadable]
  unfold Undisturbed
  rw [fetchHits_eq]
  cases hmapM : (hits.rtake maxMessages).mapM (hitEmails python codecs) with
  | none =>
    refine iff_of_false ?_ Bool.false_ne_true
    rintro ⟨emails, hfailed, -⟩
    cases hfailed
  | some values =>
    refine iff_of_true ⟨values.flatten, rfl, ?_⟩ rfl
    rw [← flatten_of_mapM hmapM, List.flatMap_congr fun hit _ => fetchAlone_eq]

/-! ## One crafted message -/

def exLibrary : Python where
  search := fun _ _ => none
  lower := id
  isoformat := fun _ => "1970-01-01T00:00:00+00:00"
  hexdigest := fun _ => .ofList (List.replicate 64 '0')
  hexdigest_length := length_zeros
  hexdigest_digits := isHexDigit_zeros

def exCodecs : Codecs where
  decode payload _ := .ok (.ofList (payload.map fun byte => Char.ofNat byte.toNat))
  utf8 payload := .ofList (payload.map fun byte => Char.ofNat byte.toNat)
  decode_utf8 _ := rfl

def exPart : MailPart := ⟨.ok "text/plain", .ok (some [72, 105]), .ok none⟩

def exLetter : RawMessage :=
  ⟨.text "<1@mail.example.com>", .ok [.text "Hello"], false, exPart, [exPart], .ok (.naive 0),
    "ana@example.com", .ok ["ana@example.com"]⟩

/-- The same, with raw bytes beyond ASCII in its `Message-ID`. -/
def exCrafted : RawMessage := { exLetter with messageId := .object }

def exHit (message : RawMessage) : RawHit := ⟨[.literal (.ok message)], 0⟩

/-- The crafted message makes the fetch fail, which alone would find the other one. -/
theorem crafted_message_hides :
    fetchHits exLibrary exCodecs [exHit exCrafted, exHit exLetter] = .failed ∧
      (fetchAlone exLibrary exCodecs (exHit exLetter)).map (·.messageId) =
        [some "1@mail.example.com"] := by
  exact ⟨by decide +kernel, by decide +kernel⟩

end Trackpal.Worker

import Trackpal.Worker.Extractor

/-!
# The mail provider

`providers/gmail_imap.py` from the messages that a search finds to the emails that the
pipeline sees. What Python's `email` package makes of the headers and of the body is
data of a message: its date parser, its header and body decoders may raise.

Results:
1. `messageIdOf_text`: the identity of a message is its `Message-ID`, stripped.
2. `fetchSync_emails`: each email of a fetch was parsed from a message that the search
   found.
-/

namespace Trackpal.Worker

open Trackpal.Foundation

structure EmailMessage where
  subject : String
  body : String
  receivedAt : Int
  messageId : Option String
  sender : Option String
  toRecipients : List String
deriving DecidableEq, Repr

def EmailMessage.parsed (message : EmailMessage) : ParsedEmail :=
  ⟨message.subject, message.body, message.receivedAt⟩

/-- What `Message.get` returns for a header. -/
inductive HeaderValue where
  | absent
  | text (value : String)
  /-- A `Header` object, for raw bytes beyond ASCII. It has no `strip`. -/
  | object
deriving DecidableEq, Repr

/-- What `parsedate_to_datetime` makes of the `Date` header. -/
inductive ParsedDate where
  | instant (receivedAt : Int)
  /-- `TypeError` or `ValueError`; the clock stands in. -/
  | rejected (now : Int)
  /-- Another exception, here or in `astimezone`. -/
  | raised
deriving DecidableEq, Repr

/-- A message of the mailbox. `none` in a field: its decoder raises. -/
structure Message where
  messageId : HeaderValue
  /-- `_decode_header` of the `Subject`. -/
  subject : Option String
  /-- `_extract_body`. -/
  body : Option (Option String)
  date : ParsedDate
  /-- The `From` header as a text. -/
  sender : String
  /-- The addresses that `getaddresses` finds in `To` and `Cc`. -/
  addresses : Option (List String)
deriving DecidableEq, Repr

/-- `value or None`. -/
def orNone (value : String) : Option String := if value = "" then none else some value

/-- `message.get("Message-ID", "").strip().strip("<>") or None`. -/
def messageIdOf : HeaderValue → Option (Option String)
  | .absent => some none
  | .text value => some (orNone (stripBy (· ∈ ['<', '>']) (stripBy isSpace value)))
  | .object => none

def parseDate : ParsedDate → Option Int
  | .instant receivedAt => some receivedAt
  | .rejected now => some now
  | .raised => none

variable (python : Python)

/-- `_extract_recipients`: each address once, in its normal form. -/
def extractRecipients (addresses : List String) : List String :=
  addresses.foldl (fun recipients address =>
    let normalized := python.lower (stripBy isSpace address)
    if normalized ≠ "" ∧ normalized ∉ recipients then recipients ++ [normalized] else recipients) []

/-- `_parse_message` of a message that `message_from_bytes` accepts; `none` where it
raises. -/
def parseMessage (message : Message) : Option EmailMessage := do
  let messageId ← messageIdOf message.messageId
  let subject ← message.subject
  let body ← message.body
  let receivedAt ← parseDate message.date
  let addresses ← message.addresses
  some ⟨subject, body.getD "", receivedAt, messageId, orNone message.sender,
    extractRecipients python addresses⟩

/-! ## One fetch -/

def maxMessages : Nat := 20

/-- One run of the IMAP commands. -/
inductive Session where
  | rejected
  /-- Anything else that makes `_fetch_sync` raise, or run out of its time. -/
  | failed
  /-- The messages that the search finds. `none` stands for one without bytes, or one
  that `message_from_bytes` rejects. -/
  | searched (hits : List (Option Message))
deriving DecidableEq, Repr

inductive FetchResult where
  /-- `NonTransientProviderError`, with the code `auth_failed`. -/
  | rejected
  | failed
  | emails (emails : List EmailMessage)
deriving DecidableEq, Repr

/-- `_fetch_sync`: the newest messages, and one exception for all of them. -/
def fetchSync : Session → FetchResult
  | .rejected => .rejected
  | .failed => .failed
  | .searched hits =>
    match ((hits.rtake maxMessages).filterMap id).mapM (parseMessage python) with
    | none => .failed
    | some emails => .emails emails

variable {python}

theorem mem_of_mapM {α β : Type} {f : α → Option β} {l : List α} {values : List β} {value : β}
    (h : l.mapM f = some values) (hvalue : value ∈ values) : ∃ a ∈ l, f a = some value := by
  induction l generalizing values with
  | nil =>
    cases h
    cases hvalue
  | cons a l ih =>
    rw [List.mapM_cons] at h
    obtain ⟨first, hfirst, hrest⟩ := Option.bind_eq_some_iff.mp h
    obtain ⟨rest, hl, hcons⟩ := Option.bind_eq_some_iff.mp hrest
    cases hcons
    rcases List.mem_cons.mp hvalue with rfl | hlater
    · exact ⟨a, List.mem_cons_self, hfirst⟩
    · obtain ⟨b, hb, hb'⟩ := ih hl hlater
      exact ⟨b, List.mem_cons_of_mem a hb, hb'⟩

theorem messageIdOf_text {value : String} (hnonempty : value ≠ "")
    (hspace : ∀ c ∈ value.toList, isSpace c = false)
    (hbracket : ∀ c ∈ value.toList, c ∉ ['<', '>']) :
    messageIdOf (.text value) = some (some value) := by
  rw [messageIdOf, stripBy_eq_self hspace,
    stripBy_eq_self fun c hc => decide_eq_false (hbracket c hc), orNone, if_neg hnonempty]

theorem messageId_of_parseMessage {message : Message} {email : EmailMessage}
    (h : parseMessage python message = some email) :
    messageIdOf message.messageId = some email.messageId := by
  obtain ⟨messageId, hid, hrest⟩ := Option.bind_eq_some_iff.mp h
  obtain ⟨subject, -, hrest⟩ := Option.bind_eq_some_iff.mp hrest
  obtain ⟨body, -, hrest⟩ := Option.bind_eq_some_iff.mp hrest
  obtain ⟨receivedAt, -, hrest⟩ := Option.bind_eq_some_iff.mp hrest
  obtain ⟨addresses, -, hemail⟩ := Option.bind_eq_some_iff.mp hrest
  cases hemail
  exact hid

theorem fetchSync_searched {hits : List (Option Message)} {emails : List EmailMessage}
    (h : ((hits.rtake maxMessages).filterMap id).mapM (parseMessage python) = some emails) :
    fetchSync python (.searched hits) = .emails emails := by
  unfold fetchSync
  dsimp only
  split
  · next hnone =>
    rw [h] at hnone
    cases hnone
  · next emails' hsome =>
    rw [h] at hsome
    cases hsome
    rfl

theorem fetchSync_emails {session : Session} {emails : List EmailMessage}
    (h : fetchSync python session = .emails emails) :
    ∃ hits, session = .searched hits ∧ ∀ email ∈ emails,
      ∃ message, some message ∈ hits ∧ parseMessage python message = some email := by
  unfold fetchSync at h
  split at h
  · cases h
  · cases h
  next hits =>
  split at h
  · cases h
  next emails' hparsed =>
  cases h
  refine ⟨hits, rfl, fun email hemail => ?_⟩
  obtain ⟨message, hmessage, hparse⟩ := mem_of_mapM hparsed hemail
  obtain ⟨hit, hhit, rfl⟩ := List.mem_filterMap.mp hmessage
  exact ⟨message, List.mem_of_mem_drop hhit, hparse⟩

end Trackpal.Worker

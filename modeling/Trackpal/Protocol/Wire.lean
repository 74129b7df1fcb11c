import Mathlib.Algebra.Order.Ring.Int
import Mathlib.Algebra.Order.Group.Unbundled.Abs

/-!
# Messages of the executor protocol

The symbolic form of protocol v1: JSON values, AES-GCM bodies, the canonical
request and its HMAC. The backend (`lookup_executor_protocol.py`) and the
worker (`protocol/crypto.py`) hold the same code twice, line by line, so it is
modelled once.

What is symbolic:
* An HMAC is a term that names its key and the canonical request under it. Two
  HMACs are equal only if both are, and nobody can write one down without the
  key (the network of `Handoff` is restricted to HMACs it has seen).
* A SHA-256 digest is a term that names the hashed body, so it is injective.
* An AES-GCM ciphertext names its key, its nonce and its plaintext. It opens
  only under the same key and nonce.
* HKDF gives distinct keys for distinct secrets and for the two purposes.
-/

namespace Trackpal.Protocol

structure UUID where
  int : Nat
deriving DecidableEq, Repr

structure SigningKey where
  secret : String
deriving DecidableEq, Repr

structure EncryptionKey where
  secret : String
deriving DecidableEq, Repr

structure ProtocolKeys where
  signing : SigningKey
  encryption : EncryptionKey
deriving DecidableEq, Repr

def deriveProtocolKeys (secret : String) : ProtocolKeys :=
  ⟨⟨secret⟩, ⟨secret⟩⟩

/-! ## JSON -/

mutual
/-- A JSON value. `uuid`, `nonce` and `ciphertext` are JSON strings: the text of
a UUID, the base64 text of an AES-GCM nonce and of a ciphertext. -/
inductive Json where
  | null
  | bool (value : Bool)
  | num (value : Int)
  | str (value : String)
  | uuid (value : UUID)
  | nonce (value : Nat)
  | ciphertext (key : EncryptionKey) (nonce : Nat) (plain : Fields)
  | arr (items : Items)
  | obj (fields : Fields)
deriving DecidableEq, Repr

/-- The elements of a JSON array. -/
inductive Items where
  | nil
  | cons (value : Json) (rest : Items)
deriving DecidableEq, Repr

/-- The members of a JSON object. -/
inductive Fields where
  | nil
  | cons (key : String) (value : Json) (rest : Fields)
deriving DecidableEq, Repr
end

/-- The object with these members, in this order. -/
def Fields.ofList : List (String × Json) → Fields
  | [] => .nil
  | (key, value) :: rest => .cons key value (Fields.ofList rest)

/-- `payload.get(key)`. -/
def Fields.get : Fields → String → Option Json
  | .nil, _ => none
  | .cons key value rest, wanted => if key = wanted then some value else rest.get wanted

/-- The member names of an object. -/
def Fields.keys : Fields → List String
  | .nil => []
  | .cons key _ rest => key :: rest.keys

@[simp] theorem Fields.get_nil (wanted : String) : Fields.nil.get wanted = none := rfl

@[simp] theorem Fields.get_cons (key : String) (value : Json) (rest : Fields) (wanted : String) :
    (Fields.cons key value rest).get wanted =
      if key = wanted then some value else rest.get wanted := rfl

def Json.isStr : Json → Bool
  | .str _ | .uuid _ | .nonce _ | .ciphertext _ _ _ => true
  | _ => false

def Json.toUUID : Json → Option UUID
  | .uuid value => some value
  | _ => none

def Json.toStr : Json → Option String
  | .str value => some value
  | _ => none

/-- `int(value)` of a number, a truth value or a decimal text. -/
def Json.toInt : Json → Option Int
  | .num value => some value
  | .bool value => some (if value then 1 else 0)
  | .str value => value.toInt?
  | _ => none

theorem Json.eq_uuid_of_toUUID {value : Json} {id : UUID} (h : value.toUUID = some id) :
    value = .uuid id := by
  cases value <;> simp_all [Json.toUUID]

/-- The bytes of an HTTP body: the text of a JSON value, or bytes that are not
JSON. -/
inductive Body where
  | json (value : Json)
  | raw (bytes : List UInt8)
deriving DecidableEq, Repr

/-! ## Encrypted bodies -/

/-- Base64-encoded AES-GCM payload components. -/
structure EncryptedBody where
  nonce : Json
  ciphertext : Json
deriving DecidableEq, Repr

/-- `encrypt_payload` with the nonce it draws. -/
def encryptPayload (payload : Fields) (key : EncryptionKey) (nonce : Nat) : EncryptedBody :=
  ⟨.nonce nonce, .ciphertext key nonce payload⟩

/-- `decrypt_payload`: a wrong key or nonce fails the authentication tag. -/
def decryptPayload (body : EncryptedBody) (key : EncryptionKey) : Option Fields :=
  match body.nonce, body.ciphertext with
  | .nonce nonce, .ciphertext key' nonce' plain =>
    if nonce = nonce' ∧ key = key' then some plain else none
  | _, _ => none

/-- `model_dump` of an encrypted body. -/
def EncryptedBody.modelDump (body : EncryptedBody) : Body :=
  .json (.obj (.ofList [("ciphertext", body.ciphertext), ("nonce", body.nonce)]))

/-- `EncryptedBody.model_validate_json`: exactly the two string members. -/
def EncryptedBody.modelValidate : Body → Option EncryptedBody
  | .json (.obj fields) =>
    match fields.get "nonce", fields.get "ciphertext" with
    | some nonce, some ciphertext =>
      if fields.keys.all (fun key => key ∈ ["nonce", "ciphertext"]) ∧
          nonce.isStr ∧ ciphertext.isStr then
        some ⟨nonce, ciphertext⟩
      else none
    | _, _ => none
  | _ => none

theorem decrypt_encrypt (payload : Fields) (key : EncryptionKey) (nonce : Nat) :
    decryptPayload (encryptPayload payload key nonce) key = some payload := by
  simp [decryptPayload, encryptPayload]

theorem modelValidate_modelDump (payload : Fields) (key : EncryptionKey) (nonce : Nat) :
    EncryptedBody.modelValidate (encryptPayload payload key nonce).modelDump =
      some (encryptPayload payload key nonce) := by
  simp [EncryptedBody.modelValidate, EncryptedBody.modelDump, encryptPayload, Fields.ofList,
    Fields.keys, Json.isStr]

/-! ## Signatures -/

inductive Method where
  | get
  | post
deriving DecidableEq, Repr

structure Digest where
  preimage : Body
deriving DecidableEq, Repr

/-- The eight lines that are signed. -/
structure CanonicalRequest where
  method : Method
  path : String
  protocolVersion : String
  executorId : UUID
  keyVersion : Int
  timestamp : Int
  nonce : String
  bodyDigest : Digest
deriving DecidableEq, Repr

inductive Signature where
  | hmac (key : SigningKey) (text : CanonicalRequest)
  | text (value : String)
deriving DecidableEq, Repr

def canonicalRequest (method : Method) (path : String) (executorId : UUID)
    (keyVersion timestamp : Int) (nonce : String) (body : Body) : CanonicalRequest :=
  ⟨method, path, "1", executorId, keyVersion, timestamp, nonce, ⟨body⟩⟩

/-- The type of `sign_request` and `sign_response`. -/
abbrev SignatureFunction :=
  Method → String → UUID → Int → Int → String → Body → SigningKey → Signature

def signRequest : SignatureFunction :=
  fun method path executorId keyVersion timestamp nonce body signingKey =>
    .hmac signingKey (canonicalRequest method path executorId keyVersion timestamp nonce body)

/-- `sign_response` delegates to `sign_request` with the same arguments. -/
def signResponse : SignatureFunction := signRequest

/-- `_verify_signature`: first the freshness test, then the signature. -/
def verifySignature (signer : SignatureFunction) (kind : String) (method : Method)
    (path : String) (executorId : UUID) (keyVersion timestamp : Int) (nonce : String)
    (body : Body) (signature : Signature) (signingKey : SigningKey)
    (now maxSkewSeconds : Int) : Except String Unit :=
  if maxSkewSeconds < |now - timestamp| then
    .error (kind ++ " timestamp outside allowed skew")
  else if signature = signer method path executorId keyVersion timestamp nonce body signingKey then
    .ok ()
  else
    .error ("invalid " ++ kind ++ " signature")

def verifyRequestSignature := verifySignature signRequest "request"

def verifyResponseSignature := verifySignature signResponse "response"

theorem verifySignature_eq_ok {signer : SignatureFunction} {kind path nonce : String}
    {method : Method} {executorId : UUID} {keyVersion timestamp now maxSkewSeconds : Int}
    {body : Body} {signature : Signature} {signingKey : SigningKey} :
    verifySignature signer kind method path executorId keyVersion timestamp nonce body signature
        signingKey now maxSkewSeconds = .ok () ↔
      |now - timestamp| ≤ maxSkewSeconds ∧
        signature = signer method path executorId keyVersion timestamp nonce body signingKey := by
  unfold verifySignature
  rw [← not_lt]
  split
  · next h => simp [h]
  · next h => split <;> next h' => simp [h, h']

theorem signRequest_inj {method method' : Method} {path path' nonce nonce' : String}
    {executorId executorId' : UUID} {keyVersion keyVersion' timestamp timestamp' : Int}
    {body body' : Body} {key key' : SigningKey} :
    signRequest method path executorId keyVersion timestamp nonce body key =
        signRequest method' path' executorId' keyVersion' timestamp' nonce' body' key' ↔
      key = key' ∧ method = method' ∧ path = path' ∧ executorId = executorId' ∧
        keyVersion = keyVersion' ∧ timestamp = timestamp' ∧ nonce = nonce' ∧ body = body' := by
  simp [signRequest, canonicalRequest]

/-! ## HTTP messages -/

/-- What a sender draws for one message: the clock, the header nonce and the AES-GCM
nonce. -/
structure Draws where
  timestamp : Int
  nonce : String
  aesNonce : Nat
deriving DecidableEq, Repr

/-- The five protocol headers as the receiver reads them: `none` when a header is
absent, empty or does not parse. -/
structure ProtocolHeaders where
  executorId : Option UUID
  keyVersion : Option Int
  timestamp : Option Int
  nonce : Option String
  signature : Option Signature
deriving DecidableEq, Repr

structure Request where
  method : Method
  path : String
  headers : ProtocolHeaders
  body : Body
deriving DecidableEq, Repr

structure Response where
  status : Nat
  headers : ProtocolHeaders
  body : Body
deriving DecidableEq, Repr

/-- An error response: `HTTPException(status_code, detail)`. -/
structure HTTPException where
  statusCode : Nat
  detail : String
deriving DecidableEq, Repr

/-- The headers of a message signed under `key`. -/
def signedHeaders (signer : SignatureFunction) (method : Method) (path : String)
    (executorId : UUID) (keyVersion timestamp : Int) (nonce : String) (body : Body)
    (key : SigningKey) : ProtocolHeaders :=
  ⟨some executorId, some keyVersion, some timestamp, some nonce,
    some (signer method path executorId keyVersion timestamp nonce body key)⟩

end Trackpal.Protocol

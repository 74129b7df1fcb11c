import Trackpal.Worker.Executor

/-!
# The worker's callback client

`CallbackClient` of `worker/app/callback_client.py`. One `send` signs one
request and posts it up to `max_attempts` times: the timestamp and the nonce
are the same in every attempt. What the network and the backend make of a post
is a parameter of the loop.

Results:
1. `send_answer`: a post is answered in the state that the posts before it left.
-/

namespace Trackpal.Worker

open Trackpal.Protocol

def callbackKeyVersion : Int := 1

/-- The request that one `send` signs. `path` is `urlsplit(callback_url).path`, or
`"/"` if that is empty. -/
def callbackRequest (settings : ExecutorSettings) (path : String)
    (envelope : LookupCallbackEnvelope) (draws : Draws) : Request :=
  let body := (encryptPayload envelope.modelDump settings.keys.encryption draws.aesNonce).modelDump
  ⟨.post, path, signedHeaders signRequest .post path settings.executorId callbackKeyVersion
    draws.timestamp draws.nonce body settings.keys.signing, body⟩

/-- What `client.post` comes to. -/
inductive PostResult where
  /-- `ConnectError` or `ConnectTimeout`. -/
  | connectError
  | response (statusCode : Nat)
  | raised
deriving DecidableEq, Repr

/-- What `send` does after a post. -/
inductive AfterPost where
  | retry
  | returns (delivered : Bool)
  | raises
deriving DecidableEq, Repr

/-- The decision after the post number `attempt`, counted from 0. -/
def afterPost (maxAttempts attempt : Nat) : PostResult → AfterPost
  | .connectError => if maxAttempts ≤ attempt + 1 then .returns false else .retry
  | .response statusCode =>
    if 200 ≤ statusCode ∧ statusCode < 300 then .returns true
    else if statusCode < 500 ∨ maxAttempts ≤ attempt + 1 then .returns false
    else .retry
  | .raised => .raises

section
variable {σ α β : Type*} (maxAttempts : Nat) (post : σ → α → σ × β) (result : β → PostResult)

/-- The posts of one `send`, in order, and how it ends. `environments` holds what
each post would meet. -/
def send (attempt : Nat) (s : σ) : List α → List (α × β) × AfterPost
  | [] => ([], .returns false)
  | environment :: environments =>
    let (s', answer) := post s environment
    match afterPost maxAttempts attempt (result answer) with
    | .retry =>
      let (posts, ending) := send (attempt + 1) s' environments
      ((environment, answer) :: posts, ending)
    | ending => ([(environment, answer)], ending)

def afterPosts (s : σ) (posts : List (α × β)) : σ :=
  posts.foldl (fun s p => (post s p.1).1) s

variable {maxAttempts post result} {attempt : Nat} {s : σ} {environments : List α}

theorem send_environments :
    ((send maxAttempts post result attempt s environments).1.map Prod.fst).IsPrefix
      environments := by
  induction environments generalizing attempt s with
  | nil => exact List.prefix_rfl
  | cons environment environments ih =>
    unfold send
    dsimp only
    split
    · exact List.cons_prefix_cons.mpr ⟨rfl, ih⟩
    · exact List.cons_prefix_cons.mpr ⟨rfl, List.nil_prefix⟩

/-- The posts of a `send`, from their answers. -/
theorem send_eq_zip {answers : List β}
    (h : (send maxAttempts post result attempt s environments).1.map Prod.snd = answers) :
    (send maxAttempts post result attempt s environments).1 =
      (environments.take answers.length).zip answers := by
  have hprefix := List.prefix_iff_eq_take.mp
    (@send_environments _ _ _ maxAttempts post result attempt s environments)
  rw [List.length_map] at hprefix
  subst h
  rw [List.length_map, ← hprefix, ← List.unzip_fst, ← List.unzip_snd, List.zip_unzip]

theorem send_answer {before after : List (α × β)} {environment : α} {answer : β}
    (h : (send maxAttempts post result attempt s environments).1 =
      before ++ (environment, answer) :: after) :
    answer = (post (afterPosts post s before) environment).2 := by
  induction environments generalizing attempt s before with
  | nil => simp [send] at h
  | cons first environments ih =>
    unfold send at h
    dsimp only at h
    split at h
    · cases before with
      | nil =>
        cases h
        rfl
      | cons p before =>
        obtain ⟨rfl, htail⟩ := List.cons.inj h
        exact @ih _ _ before htail
    · cases before with
      | nil =>
        cases h
        rfl
      | cons p before => simp at h

end

end Trackpal.Worker

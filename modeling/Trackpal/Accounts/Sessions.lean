import Trackpal.Foundation.Histories
import Trackpal.Foundation.Runs
import Trackpal.Foundation.Table
import Trackpal.Foundation.Threads

/-!
# Refresh tokens

The refresh sessions of one user, under transactions that exchange a token, revoke one, or revoke
all of them, at `READ COMMITTED`: a statement sees what has been committed when it starts, an
update waits for the transaction that has changed its row, and a set-based update does not see the
rows that are committed after it has started.
-/

namespace Trackpal.Accounts.Sessions

open Trackpal.Foundation

/-! ## The table -/

/-- A row of `refresh_sessions`. Only the hash of the token is stored; `token`, and the token that
was exchanged for it, are what the row is about. -/
structure RefreshSession where
  id : Nat
  token : String
  parent : Option String
  expiresAt : Int
  revoked : Bool
deriving DecidableEq, Repr

/-- The sessions of the user. -/
abbrev SessionTable := Table RefreshSession.id

/-- The roles of `users`. -/
inductive Role where
  | master
  | tenant
  | client
deriving DecidableEq, Repr

/-- What does not change in a run: the role of the user, the hash of the tokens, and
`refresh_token_expire_days` in seconds. -/
structure Settings where
  role : Role
  hash : String → String
  refreshTokenExpire : Int

def getValidSessions (sessions : SessionTable) (now : Int) : List RefreshSession :=
  sessions.select fun s => !s.revoked && decide (now < s.expiresAt)

def getAllUnrevoked (sessions : SessionTable) : List RefreshSession :=
  sessions.select fun s => !s.revoked

/-- The session whose hash is the hash of the token: `_verify_refresh_token`. -/
def matching (settings : Settings) (token : String) (found : List RefreshSession) :
    Option RefreshSession :=
  found.find? fun s => settings.hash token == settings.hash s.token

/-- The row with the flag set. -/
def RefreshSession.revoke (s : RefreshSession) : RefreshSession := { s with revoked := true }

/-- The rows `ids` are revoked. -/
def revokeRows (sessions : SessionTable) (ids : List Nat) : SessionTable :=
  ids.foldl (fun sessions id => sessions.modify id RefreshSession.revoke fun _ => rfl) sessions

/-! ## Transactions -/

/-- Where a transaction is.

* `refresh_access_token`: before the sessions are read; after the flag has been set in memory;
  after it has been flushed; after the first look at the active tenant; before the commit, either
  of the revocation alone or with the session that `create_tokens` adds.
* a login, which calls `create_tokens` too;
* `revoke_refresh_token`: before the sessions are read, and before the commit;
* `deactivate_client` and `deactivate_tenant`: before the update, while it waits for the rows that
  it has found, and before the commit. -/
inductive Phase where
  | refreshing (token : String)
  | matched (token : String) (id : Nat)
  | flushed (token : String) (id : Nat)
  | checked (token : String) (id : Nat)
  | issuing (exchanged : Option (String × Nat))
  | closing (id : Nat)
  | loggingIn
  | loggingOut (token : String)
  | revoking (id : Nat)
  | deactivating
  | updating (ids : List Nat)
  | updated (ids : List Nat)
deriving DecidableEq, Repr

namespace Phase

def locks : Phase → List Nat
  | .flushed _ id | .checked _ id | .issuing (some (_, id)) | .closing id => [id]
  | .updated ids => ids
  | _ => []

/-- A request comes in. -/
def starts : Phase → Bool
  | .refreshing _ | .loggingIn | .loggingOut _ | .deactivating => true
  | _ => false

def revokesAll : Phase → Bool
  | .updating _ | .updated _ => true
  | _ => false

end Phase

/-- What has been committed, and which requests have started. -/
inductive Event where
  | started (pid : Nat) (token : String)
  | issued (token : String)
  | exchanged (pid : Nat) (token : String)
  | revoked (token : String)
  | revokedAll
deriving DecidableEq, Repr

/-- The committed rows, whether the user has an active tenant, the transactions, the clock, and
what has happened, the latest first. -/
structure World where
  sessions : SessionTable
  active : Bool
  transactions : Threads Phase
  now : Int
  history : List Event

/-- The sessions that the user has at first. -/
def World.init (sessions : SessionTable) (now : Int) : World :=
  ⟨sessions, true, .none, now, sessions.rows.map fun s => .issued s.token⟩

/-- One step: the clock; other transactions change whether the user has an active tenant; a request
comes in; a transaction takes its next step; and `create_tokens` commits. -/
inductive Action where
  | tick (seconds : Nat)
  | setActive (active : Bool)
  | start (phase : Phase)
  | advance (pid : Nat)
  | issue (pid id : Nat) (token : String)
deriving DecidableEq, Repr

namespace World

/-- No other transaction has changed the row. -/
def unlocked (w : World) (pid id : Nat) : Bool :=
  (List.range w.transactions.list.length).all fun other =>
    other == pid || (w.transactions.get other).all fun phase => !phase.locks.contains id

/-- A transaction goes on, or ends without a commit. -/
def move (w : World) (pid : Nat) (next : Option Phase) : World :=
  { w with transactions := w.transactions.put pid next }

/-- `_active_tenant_id_for_user`: a master needs no tenant. -/
def hasTenant (settings : Settings) (w : World) : Bool := settings.role = .master || w.active

def revocations (w : World) (ids : List Nat) : List Event :=
  (w.sessions.select fun s => !s.revoked && ids.contains s.id).map fun s => .revoked s.token

def commit (w : World) (pid : Nat) (ids : List Nat) (events : List Event) : World :=
  { w with
    sessions := revokeRows w.sessions ids
    transactions := w.transactions.put pid none
    history := events ++ w.revocations ids ++ w.history }

/-- The commit of `create_tokens`: the session that was exchanged is revoked, and one is added. -/
def issue (settings : Settings) (w : World) (pid id : Nat) (token : String)
    (exchanged : Option (String × Nat)) : World :=
  let revoked := w.commit pid (exchanged.map Prod.snd).toList
    (exchanged.map fun e => .exchanged pid e.1).toList
  { revoked with
    sessions := revoked.sessions.insert
      ⟨id, token, exchanged.map Prod.fst, w.now + settings.refreshTokenExpire, false⟩
    history := .issued token :: revoked.history }

/-- The identifier, and the hash of the token, are those of no session: `uuid4` and
`secrets.token_urlsafe`. -/
def fresh (settings : Settings) (w : World) (id : Nat) (token : String) : Bool :=
  w.sessions.rows.all fun s => s.id != id && settings.hash s.token != settings.hash token

/-- The next step of a transaction, unless it waits, or commits a new session. -/
def advance (settings : Settings) (w : World) (pid : Nat) : Phase → Option World
  | .refreshing token =>
    some (w.move pid ((matching settings token (getValidSessions w.sessions w.now)).map fun s =>
      .matched token s.id))
  | .matched token id =>
    if w.unlocked pid id then some (w.move pid (some (.flushed token id))) else none
  | .flushed token id =>
    some (w.move pid (some (if w.hasTenant settings then .checked token id else .closing id)))
  -- `create_tokens` returns before any commit, so that the revocation is rolled back
  | .checked token id =>
    some (w.move pid (if w.hasTenant settings then some (.issuing (some (token, id))) else none))
  | .closing id => some (w.commit pid [id] [])
  | .loggingIn => some (w.move pid (if w.hasTenant settings then some (.issuing none) else none))
  | .loggingOut token =>
    some (w.move pid ((matching settings token (getAllUnrevoked w.sessions)).map fun s =>
      .revoking s.id))
  | .revoking id => if w.unlocked pid id then some (w.commit pid [id] []) else none
  | .deactivating =>
    some (w.move pid (some (.updating ((getAllUnrevoked w.sessions).map (·.id)))))
  | .updating ids =>
    if ids.all (w.unlocked pid) then some (w.move pid (some (.updated ids))) else none
  | .updated ids => some { w.commit pid ids [.revokedAll] with active := false }
  | .issuing _ => none

def step (settings : Settings) (w : World) : Action → Option World
  | .tick seconds => some { w with now := w.now + seconds }
  | .setActive active => some { w with active := active }
  | .start phase =>
    if phase.starts then
      some
        { w with
          transactions := w.transactions.spawn phase
          history :=
            match phase with
            | .refreshing token => .started w.transactions.list.length token :: w.history
            | _ => w.history }
    else none
  | .advance pid => (w.transactions.get pid).bind (w.advance settings pid)
  | .issue pid id token =>
    match w.transactions.get pid with
    | some (.issuing exchanged) =>
      if w.fresh settings id token then some (w.issue settings pid id token exchanged) else none
    | _ => none

end World

/-! ## What the claim is about -/

def Event.exchanges (token : String) : Event → Bool
  | .exchanged _ other => other = token
  | _ => false

/-- The token of an exchange has not been exchanged before. -/
def Event.firstUse (earlier : List Event) : Event → Bool
  | .exchanged _ token => earlier.all (!·.exchanges token)
  | _ => true

def Event.startedBefore (earlier : List Event) : Event → Bool
  | .exchanged pid token =>
    Everywhere (fun e earlier' => e = .started pid token → .revoked token ∉ earlier') earlier
  | _ => true

def Event.issuedAfter (earlier : List Event) : Event → Bool
  | .exchanged _ token =>
    Everywhere (fun e earlier' => e = .revokedAll → .issued token ∉ earlier') earlier
  | _ => true

/-- A token is exchanged at most once. -/
def SingleUse (history : List Event) : Prop :=
  Everywhere (fun e earlier => e.firstUse earlier = true) history

def NotAfterRevocation (history : List Event) : Prop :=
  Everywhere (fun e earlier => e.startedBefore earlier = true) history

def NotAfterRevokeAll (history : List Event) : Prop :=
  Everywhere (fun e earlier => e.issuedAfter earlier = true) history

def RefreshSession.known (s : RefreshSession) (earlier : List Event) : Bool :=
  .issued s.token ∈ earlier || s.parent.any (.issued · ∈ earlier)

/-- After all were revoked, no session of a token that had been issued, or that was exchanged for
one, is valid. -/
def NoneValid (w : World) : Prop :=
  Everywhere (fun e earlier => e = .revokedAll → ∀ s ∈ w.sessions.rows,
    s.known earlier = true → s.revoked = true) w.history

/-- The session that a refresh exchanges is not revoked yet when it commits, and no session is
created while all are being revoked. -/
def undisturbed (w : World) : Action → Bool
  | .issue pid _ _ =>
    w.transactions.running.all (!·.revokesAll) &&
      match w.transactions.get pid with
      | some (.issuing (some (_, id))) => (w.sessions.get id).any (!·.revoked)
      | _ => true
  | _ => true

def DistinctHashes (settings : Settings) (sessions : SessionTable) : Prop :=
  ∀ s ∈ sessions.rows, ∀ s' ∈ sessions.rows,
    settings.hash s.token = settings.hash s'.token → s = s'

variable {settings : Settings} {sessions : SessionTable} {w w' : World} {action : Action}
  {pid id : Nat} {ids : List Nat} {token : String} {now : Int} {s : RefreshSession}
  {phase : Phase} {next : Option Phase} {e : Event} {events : List Event}

namespace SessionLemmas

/-! ## The rows -/

theorem rows_revokeRows : (revokeRows sessions ids).rows =
    sessions.rows.map fun s => if s.id ∈ ids then s.revoke else s := by
  induction ids generalizing sessions with
  | nil => simp [revokeRows]
  | cons id ids ih =>
    show (revokeRows (sessions.modify id RefreshSession.revoke fun _ => rfl) ids).rows = _
    rw [ih]
    show (sessions.rows.map _).map _ = _
    rw [List.map_map]
    refine List.map_congr_left fun s _ => ?_
    by_cases hid : s.id = id
    · by_cases hids : s.id ∈ ids <;> simp [hid, RefreshSession.revoke]
    · by_cases hids : s.id ∈ ids <;> simp [hid, hids]

theorem mem_revokeRows (h : s ∈ (revokeRows sessions ids).rows) : ∃ old ∈ sessions.rows,
    s.id = old.id ∧ s.token = old.token ∧ s.parent = old.parent ∧
    (s.revoked = true ↔ old.revoked = true ∨ old.id ∈ ids) := by
  rw [rows_revokeRows] at h
  obtain ⟨old, hold, rfl⟩ := List.mem_map.mp h
  refine ⟨old, hold, ?_⟩
  by_cases hid : old.id ∈ ids <;> simp [hid, RefreshSession.revoke]

theorem exists_revokeRows (h : s ∈ sessions.rows) : ∃ new ∈ (revokeRows sessions ids).rows,
    new.id = s.id ∧ new.token = s.token ∧ new.parent = s.parent ∧
    (new.revoked = true ↔ s.revoked = true ∨ s.id ∈ ids) := by
  refine ⟨if s.id ∈ ids then s.revoke else s, ?_, ?_⟩
  · rw [rows_revokeRows]
    exact List.mem_map.mpr ⟨s, h, rfl⟩
  · by_cases hid : s.id ∈ ids <;> simp [hid, RefreshSession.revoke]

theorem eq_of_id (h : s ∈ sessions.rows) {s' : RefreshSession} (h' : s' ∈ sessions.rows)
    (hid : s.id = s'.id) : s = s' :=
  List.inj_on_of_nodup_map sessions.nodup h h' hid

theorem matching_eq_some {found : List RefreshSession} (h : matching settings token found = some s) :
    s ∈ found ∧ settings.hash token = settings.hash s.token :=
  ⟨List.mem_of_find?_eq_some h, by simpa using List.find?_some h⟩

theorem mem_getValidSessions (h : s ∈ getValidSessions sessions now) :
    s ∈ sessions.rows ∧ s.revoked = false := by
  obtain ⟨hmem, hvalid⟩ := List.mem_filter.mp h
  exact ⟨hmem, by simpa using (Bool.and_eq_true_iff.mp hvalid).1⟩

theorem mem_revocations (h : e ∈ w.revocations ids) : ∃ s ∈ w.sessions.rows,
    e = .revoked s.token ∧ s.id ∈ ids := by
  obtain ⟨s, hs, rfl⟩ := List.mem_map.mp h
  obtain ⟨hmem, hids⟩ := List.mem_filter.mp hs
  refine ⟨s, hmem, rfl, ?_⟩
  simpa using (Bool.and_eq_true_iff.mp hids).2

end SessionLemmas

open SessionLemmas

/-! ## What a refresh has read -/

def Phase.exchanges : Phase → Option (String × Nat)
  | .matched token id | .flushed token id | .checked token id => some (token, id)
  | .issuing exchanged => exchanged
  | _ => none

/-- The refresh `pid` of a token has started before the token was revoked. -/
def StartedBefore (pid : Nat) (token : String) (history : List Event) : Prop :=
  Everywhere (fun e earlier => e = .started pid token → .revoked token ∉ earlier) history

def Holds (settings : Settings) (w : World) (pid : Nat) (token : String) (id : Nat) : Prop :=
  (∃ s ∈ w.sessions.rows, s.id = id ∧ settings.hash token = settings.hash s.token) ∧
    StartedBefore pid token w.history

/-- What holds in every run. -/
structure Sane (settings : Settings) (w : World) : Prop where
  hashes : DistinctHashes settings w.sessions
  revoked : ∀ token, .revoked token ∈ w.history →
    ∃ s ∈ w.sessions.rows, s.token = token ∧ s.revoked = true
  issued : ∀ token, .issued token ∈ w.history → ∃ s ∈ w.sessions.rows, s.token = token
  started : ∀ pid token, .started pid token ∈ w.history → pid < w.transactions.list.length
  exchanging : ∀ pid phase token id, w.transactions.get pid = some phase →
    phase.exchanges = some (token, id) → Holds settings w pid token id
  kept : NotAfterRevocation w.history

namespace SessionLemmas

theorem sane_move (h : Sane settings w) (hget : w.transactions.get pid = some phase)
    (hnext : ∀ q token id, next = some q → q.exchanges = some (token, id) →
      Holds settings w pid token id) : Sane settings (w.move pid next) where
  hashes := h.hashes
  revoked := h.revoked
  issued := h.issued
  started pid' token hstarted := by
    have hlt := h.started pid' token hstarted
    simpa [World.move, Threads.put] using hlt
  exchanging pid' q token id hget' hq := by
    by_cases hpid : pid' = pid
    · subst hpid
      exact hnext q token id ((Threads.get_put_self hget).symm.trans hget') hq
    · exact h.exchanging pid' q token id ((Threads.get_put_of_ne hpid).symm.trans hget') hq
  kept := h.kept

theorem sane_start (h : Sane settings w) (hstarts : phase.starts = true)
    (hevents : ∀ e ∈ events, ∃ token, e = .started w.transactions.list.length token) :
    Sane settings { w with
      transactions := w.transactions.spawn phase
      history := events ++ w.history } := by
  have hold : ∀ {e : Event}, (∀ pid token, e ≠ .started pid token) →
      e ∈ events ++ w.history → e ∈ w.history := by
    intro e hne hmem
    rcases List.mem_append.mp hmem with hnew | hold
    · obtain ⟨token, rfl⟩ := hevents e hnew
      exact absurd rfl (hne _ token)
    · exact hold
  have hlength : (w.transactions.spawn phase).list.length = w.transactions.list.length + 1 :=
    List.length_append
  exact
    { hashes := h.hashes
      revoked := fun token hmem => h.revoked token (hold (fun _ _ => Event.noConfusion) hmem)
      issued := fun token hmem => h.issued token (hold (fun _ _ => Event.noConfusion) hmem)
      started := fun pid token hmem => by
        show pid < (w.transactions.spawn phase).list.length
        rw [hlength]
        rcases List.mem_append.mp hmem with hnew | hold
        · obtain ⟨token', heq⟩ := hevents _ hnew
          cases heq
          exact Nat.lt_succ_self _
        · exact Nat.lt_succ_of_lt (h.started pid token hold)
      exchanging := fun pid q token id hget hq => by
        rcases Threads.get_spawn.mp hget with hget | ⟨-, rfl⟩
        · obtain ⟨hrow, hbefore⟩ := h.exchanging pid q token id hget hq
          refine ⟨hrow, hbefore.append fun e he earlier heq => ?_⟩
          obtain ⟨token', rfl⟩ := hevents e he
          cases heq
          exact absurd rfl (Nat.ne_of_lt (Threads.lt_of_get hget))
        · cases q <;> cases hstarts <;> cases hq
      kept := h.kept.append fun e he earlier => by
        obtain ⟨token, rfl⟩ := hevents e he
        rfl }

theorem holds_of_read (h : Sane settings w)
    (hs : matching settings token (getValidSessions w.sessions w.now) = some s) :
    Holds settings w pid token s.id := by
  obtain ⟨hvalid, hhash⟩ := matching_eq_some hs
  obtain ⟨hmem, hunrevoked⟩ := mem_getValidSessions hvalid
  refine ⟨⟨s, hmem, rfl, hhash⟩, everywhere_of_subset fun e he earlier hearlier _ hrevoked => ?_⟩
  obtain ⟨s', hs', rfl, hrev⟩ := h.revoked token (hearlier hrevoked)
  rw [h.hashes s' hs' s hmem hhash, hunrevoked] at hrev
  cases hrev

theorem sane_commit (h : Sane settings w) (hget : w.transactions.get pid = some phase)
    (hevents : events = [] ∨ events = [.revokedAll] ∨
      ∃ token id, events = [.exchanged pid token] ∧ phase.exchanges = some (token, id)) :
    Sane settings (w.commit pid ids events) := by
  have hevent : ∀ e ∈ events, e = .revokedAll ∨ ∃ token, e = .exchanged pid token := by
    rcases hevents with rfl | rfl | ⟨token, id, rfl, -⟩
    · exact nofun
    · exact fun e he => Or.inl (List.mem_singleton.mp he)
    · exact fun e he => Or.inr ⟨token, List.mem_singleton.mp he⟩
  have hold : ∀ {e : Event}, (∀ token, e ≠ .revoked token) → (∀ pid token, e ≠ .exchanged pid token) →
      e ≠ .revokedAll → e ∈ (w.commit pid ids events).history → e ∈ w.history := by
    intro e hrevoked hexchanged hall hmem
    rcases List.mem_append.mp hmem with hnew | hold
    · rcases List.mem_append.mp hnew with hnew | hrevocation
      · rcases hevent e hnew with heq | ⟨token, heq⟩
        · exact absurd heq hall
        · exact absurd heq (hexchanged pid token)
      · obtain ⟨s, -, heq, -⟩ := mem_revocations hrevocation
        exact absurd heq (hrevoked s.token)
    · exact hold
  have hbefore : ∀ {pid' : Nat} {token : String}, StartedBefore pid' token w.history →
      StartedBefore pid' token (w.revocations ids ++ w.history) := by
    intro pid' token hbefore
    refine hbefore.append fun e he earlier heq => ?_
    obtain ⟨s, -, heq', -⟩ := mem_revocations he
    cases heq.symm.trans heq'
  exact
    { hashes := fun s hs s' hs' hhash => by
        obtain ⟨old, hold, hid, htoken, -⟩ := mem_revokeRows hs
        obtain ⟨old', hold', hid', htoken', -⟩ := mem_revokeRows hs'
        rw [htoken, htoken'] at hhash
        have heq := h.hashes old hold old' hold' hhash
        exact eq_of_id hs hs' (by rw [hid, hid', heq])
      revoked := fun token hmem => by
        rcases List.mem_append.mp hmem with hnew | hold
        · rcases List.mem_append.mp hnew with hnew | hrevocation
          · rcases hevent _ hnew with heq | ⟨_, heq⟩ <;> cases heq
          · obtain ⟨s, hs, heq, hid⟩ := mem_revocations hrevocation
            cases heq
            obtain ⟨new, hnew, -, htoken, -, hrevoked⟩ := @exists_revokeRows _ ids _ hs
            exact ⟨new, hnew, htoken, hrevoked.mpr (Or.inr hid)⟩
        · obtain ⟨s, hs, rfl, hrev⟩ := h.revoked token hold
          obtain ⟨new, hnew, -, htoken, -, hrevoked⟩ := @exists_revokeRows _ ids _ hs
          exact ⟨new, hnew, htoken, hrevoked.mpr (Or.inl hrev)⟩
      issued := fun token hmem => by
        obtain ⟨s, hs, rfl⟩ := h.issued token (hold (fun _ => Event.noConfusion)
          (fun _ _ => Event.noConfusion) Event.noConfusion hmem)
        obtain ⟨new, hnew, -, htoken, -⟩ := @exists_revokeRows _ ids _ hs
        exact ⟨new, hnew, htoken⟩
      started := fun pid' token hmem => by
        have hlt := h.started pid' token (hold (fun _ => Event.noConfusion)
          (fun _ _ => Event.noConfusion) Event.noConfusion hmem)
        simpa [World.commit, Threads.put] using hlt
      exchanging := fun pid' q token id hget' hq => by
        by_cases hpid : pid' = pid
        · subst hpid
          cases (Threads.get_put_self hget).symm.trans hget'
        · obtain ⟨⟨s, hs, rfl, hhash⟩, hstarted⟩ := h.exchanging pid' q token id
            ((Threads.get_put_of_ne hpid).symm.trans hget') hq
          obtain ⟨new, hnew, hid, htoken, -⟩ := @exists_revokeRows _ ids _ hs
          refine ⟨⟨new, hnew, hid, by rw [htoken, hhash]⟩, ?_⟩
          show StartedBefore pid' token ((events ++ w.revocations ids) ++ w.history)
          rw [List.append_assoc]
          refine (hbefore hstarted).append fun e he earlier heq => ?_
          rcases hevent e he with heq' | ⟨_, heq'⟩ <;> cases heq.symm.trans heq'
      kept := by
        have hkept : NotAfterRevocation (w.revocations ids ++ w.history) :=
          h.kept.append fun e he earlier => by
            obtain ⟨s, -, rfl, -⟩ := mem_revocations he
            rfl
        show NotAfterRevocation ((events ++ w.revocations ids) ++ w.history)
        rw [List.append_assoc]
        rcases hevents with rfl | rfl | ⟨token, id, rfl, hexchanges⟩
        · exact hkept
        · exact ⟨rfl, hkept⟩
        · have hheld := h.exchanging pid phase token id hget hexchanges
          exact ⟨decide_eq_true (hbefore hheld.2), hkept⟩ }

theorem rows_insert {new : RefreshSession} (hid : ∀ s ∈ sessions.rows, s.id ≠ new.id) :
    (sessions.insert new).rows = new :: sessions.rows := by
  unfold Table.insert
  rw [dif_neg]
  intro hmem
  obtain ⟨s, hs, heq⟩ := List.mem_map.mp hmem
  exact hid s hs heq

theorem sane_insert (h : Sane settings w) {new : RefreshSession}
    (hid : ∀ s ∈ w.sessions.rows, s.id ≠ new.id)
    (hhash : ∀ s ∈ w.sessions.rows, settings.hash s.token ≠ settings.hash new.token) :
    Sane settings { w with
      sessions := w.sessions.insert new
      history := .issued new.token :: w.history } := by
  have hrows := rows_insert hid
  have hkeep : ∀ s ∈ w.sessions.rows, s ∈ (w.sessions.insert new).rows := by
    intro s hs
    rw [hrows]
    exact List.mem_cons_of_mem new hs
  exact
    { hashes := fun s hs s' hs' heq => by
        have hmem : s ∈ new :: w.sessions.rows := hrows ▸ hs
        have hmem' : s' ∈ new :: w.sessions.rows := hrows ▸ hs'
        rcases List.mem_cons.mp hmem with hnew | hold
        · rcases List.mem_cons.mp hmem' with hnew' | hold'
          · rw [hnew, hnew']
          · rw [hnew] at heq
            exact absurd heq.symm (hhash s' hold')
        · rcases List.mem_cons.mp hmem' with hnew' | hold'
          · rw [hnew'] at heq
            exact absurd heq (hhash s hold)
          · exact h.hashes s hold s' hold' heq
      revoked := fun token hmem => by
        rcases List.mem_cons.mp hmem with heq | hold
        · cases heq
        · obtain ⟨s, hs, hrow⟩ := h.revoked token hold
          exact ⟨s, hkeep s hs, hrow⟩
      issued := fun token hmem => by
        rcases List.mem_cons.mp hmem with heq | hold
        · cases heq
          refine ⟨new, ?_, rfl⟩
          show new ∈ (w.sessions.insert new).rows
          rw [hrows]
          exact List.mem_cons_self
        · obtain ⟨s, hs, htoken⟩ := h.issued token hold
          exact ⟨s, hkeep s hs, htoken⟩
      started := fun pid token hmem => by
        rcases List.mem_cons.mp hmem with heq | hold
        · cases heq
        · exact h.started pid token hold
      exchanging := fun pid q token id hget hq => by
        obtain ⟨⟨s, hs, hrow⟩, hstarted⟩ := h.exchanging pid q token id hget hq
        refine ⟨⟨s, hkeep s hs, hrow⟩, ?_, hstarted⟩
        exact fun heq => nomatch heq
      kept := ⟨rfl, h.kept⟩ }

theorem fresh_iff : w.fresh settings id token = true ↔
    ∀ s ∈ w.sessions.rows, s.id ≠ id ∧ settings.hash s.token ≠ settings.hash token := by
  unfold World.fresh
  simp

theorem sane_advance (h : Sane settings w) (hget : w.transactions.get pid = some phase)
    (hstep : w.advance settings pid phase = some w') : Sane settings w' := by
  cases phase with
  | refreshing token =>
    cases hstep
    refine sane_move h hget fun q token' id hq hexchanges => ?_
    obtain ⟨s, hs, rfl⟩ := Option.map_eq_some_iff.mp hq
    cases hexchanges
    exact holds_of_read h hs
  | matched token id =>
    simp only [World.advance] at hstep
    split at hstep
    · cases hstep
      refine sane_move h hget fun q token' id' hq hexchanges => ?_
      cases hq
      cases hexchanges
      exact h.exchanging pid _ token id hget rfl
    · cases hstep
  | flushed token id =>
    cases hstep
    refine sane_move h hget fun q token' id' hq hexchanges => ?_
    have hheld := h.exchanging pid _ token id hget rfl
    split at hq
    · cases hq
      cases hexchanges
      exact hheld
    · cases hq
      cases hexchanges
  | checked token id =>
    cases hstep
    refine sane_move h hget fun q token' id' hq hexchanges => ?_
    have hheld := h.exchanging pid _ token id hget rfl
    split at hq
    · cases hq
      cases hexchanges
      exact hheld
    · cases hq
  | issuing exchanged => cases hstep
  | closing id =>
    cases hstep
    exact sane_commit h hget (Or.inl rfl)
  | loggingIn =>
    cases hstep
    refine sane_move h hget fun q token' id' hq hexchanges => ?_
    split at hq
    · cases hq
      cases hexchanges
    · cases hq
  | loggingOut token =>
    cases hstep
    refine sane_move h hget fun q token' id' hq hexchanges => ?_
    obtain ⟨s, hs, rfl⟩ := Option.map_eq_some_iff.mp hq
    cases hexchanges
  | revoking id =>
    simp only [World.advance] at hstep
    split at hstep
    · cases hstep
      exact sane_commit h hget (Or.inl rfl)
    · cases hstep
  | deactivating =>
    cases hstep
    refine sane_move h hget fun q token' id' hq hexchanges => ?_
    cases hq
    cases hexchanges
  | updating ids =>
    simp only [World.advance] at hstep
    split at hstep
    · cases hstep
      refine sane_move h hget fun q token' id' hq hexchanges => ?_
      cases hq
      cases hexchanges
    · cases hstep
  | updated ids =>
    cases hstep
    have hcommit := @sane_commit _ _ _ ids _ _ h hget (Or.inr (Or.inl rfl))
    exact ⟨hcommit.hashes, hcommit.revoked, hcommit.issued, hcommit.started, hcommit.exchanging,
      hcommit.kept⟩

theorem sane_issue (h : Sane settings w) {exchanged : Option (String × Nat)}
    (hget : w.transactions.get pid = some (.issuing exchanged))
    (hfresh : w.fresh settings id token = true) :
    Sane settings (w.issue settings pid id token exchanged) := by
  have hevents : (exchanged.map fun e => Event.exchanged pid e.1).toList = [] ∨
      (exchanged.map fun e => Event.exchanged pid e.1).toList = [.revokedAll] ∨
      ∃ token id, (exchanged.map fun e => Event.exchanged pid e.1).toList =
        [.exchanged pid token] ∧ (Phase.issuing exchanged).exchanges = some (token, id) := by
    cases exchanged with
    | none => exact Or.inl rfl
    | some e => exact Or.inr (Or.inr ⟨e.1, e.2, rfl, rfl⟩)
  have hcommit := @sane_commit _ _ _ (exchanged.map Prod.snd).toList _ _ h hget hevents
  refine sane_insert hcommit (fun s hs => ?_) fun s hs => ?_
  · obtain ⟨old, hold, hid, -⟩ := mem_revokeRows hs
    rw [hid]
    exact (fresh_iff.mp hfresh old hold).1
  · obtain ⟨old, hold, -, htoken, -⟩ := mem_revokeRows hs
    rw [htoken]
    exact (fresh_iff.mp hfresh old hold).2

theorem sane_step (h : Sane settings w) (hstep : w.step settings action = some w') :
    Sane settings w' := by
  cases action with
  | tick seconds =>
    cases hstep
    exact ⟨h.hashes, h.revoked, h.issued, h.started, h.exchanging, h.kept⟩
  | setActive active =>
    cases hstep
    exact ⟨h.hashes, h.revoked, h.issued, h.started, h.exchanging, h.kept⟩
  | start phase =>
    simp only [World.step] at hstep
    split at hstep
    · next hstarts =>
      cases hstep
      split
      · next token =>
        exact @sane_start _ _ _ [.started w.transactions.list.length token] h hstarts
          fun e he => ⟨token, List.mem_singleton.mp he⟩
      · exact @sane_start _ _ _ [] h hstarts nofun
    · cases hstep
  | advance pid =>
    obtain ⟨phase, hget, hadvance⟩ := Option.bind_eq_some_iff.mp hstep
    exact sane_advance h hget hadvance
  | issue pid id token =>
    simp only [World.step] at hstep
    split at hstep
    · next exchanged hget =>
      split at hstep
      · next hfresh =>
        cases hstep
        exact sane_issue h hget hfresh
      · cases hstep
    · cases hstep

theorem sane_init (h : DistinctHashes settings sessions) : Sane settings (.init sessions now) := by
  have hissued : ∀ e ∈ (World.init sessions now).history, ∃ s ∈ sessions.rows, e = .issued s.token := by
    intro e he
    obtain ⟨s, hs, rfl⟩ := List.mem_map.mp he
    exact ⟨s, hs, rfl⟩
  exact
    { hashes := h
      revoked := fun token hmem => by
        obtain ⟨s, -, heq⟩ := hissued _ hmem
        cases heq
      issued := fun token hmem => by
        obtain ⟨s, hs, heq⟩ := hissued _ hmem
        cases heq
        exact ⟨s, hs, rfl⟩
      started := fun pid token hmem => by
        obtain ⟨s, -, heq⟩ := hissued _ hmem
        cases heq
      exchanging := nofun
      kept := everywhere_of_subset fun e he earlier _ => by
        obtain ⟨s, -, rfl⟩ := hissued e he
        rfl }

end SessionLemmas

theorem kept_of_reaches {ok : World → Action → Prop} (hdistinct : DistinctHashes settings sessions)
    (h : Reaches (World.step settings) ok (.init sessions now) w) : Sane settings w :=
  h.invariant (sane_init hdistinct) fun _ _ _ hsane _ hstep => sane_step hsane hstep

/-! ## Undisturbed runs -/

/-- What holds while the refreshes are not disturbed: a token that has been exchanged is revoked,
and whoever revokes all sessions has found all that are not revoked. -/
structure Undisturbed (settings : Settings) (w : World) : Prop where
  exchanged : ∀ pid token, .exchanged pid token ∈ w.history →
    ∃ s ∈ w.sessions.rows, settings.hash token = settings.hash s.token ∧ s.revoked = true
  pending : ∀ phase ∈ w.transactions.running, ∀ ids, phase = .updating ids ∨ phase = .updated ids →
    ∀ s ∈ w.sessions.rows, s.revoked = false → s.id ∈ ids
  single : SingleUse w.history
  after : NotAfterRevokeAll w.history
  noneValid : NoneValid w

namespace SessionLemmas

theorem undisturbed_move (h : Undisturbed settings w)
    (hnext : ∀ ids, next = some (.updating ids) ∨ next = some (.updated ids) →
      ∀ s ∈ w.sessions.rows, s.revoked = false → s.id ∈ ids) :
    Undisturbed settings (w.move pid next) where
  exchanged := h.exchanged
  pending := Threads.forall_put h.pending fun q hq ids hphase => by
    refine hnext ids ?_
    rcases hphase with rfl | rfl
    · exact Or.inl hq
    · exact Or.inr hq
  single := h.single
  after := h.after
  noneValid := h.noneValid

theorem undisturbed_start (h : Undisturbed settings w) (hstarts : phase.starts = true)
    (hevents : ∀ e ∈ events, ∃ pid token, e = .started pid token) :
    Undisturbed settings { w with
      transactions := w.transactions.spawn phase
      history := events ++ w.history } where
  exchanged pid token hmem := by
    rcases List.mem_append.mp hmem with hnew | hold
    · obtain ⟨_, _, heq⟩ := hevents _ hnew
      cases heq
    · exact h.exchanged pid token hold
  pending := Threads.forall_spawn h.pending fun ids hphase => by
    rcases hphase with rfl | rfl <;> cases hstarts
  single := h.single.append fun e he earlier => by
    obtain ⟨_, _, rfl⟩ := hevents e he
    rfl
  after := h.after.append fun e he earlier => by
    obtain ⟨_, _, rfl⟩ := hevents e he
    rfl
  noneValid := h.noneValid.append fun e he earlier heq => by
    obtain ⟨_, _, rfl⟩ := hevents e he
    cases heq

theorem noneValid_revoke (h : NoneValid w) {history : List Event}
    (hnew : ∃ events, history = events ++ w.history ∧ .revokedAll ∉ events) :
    Everywhere (fun e earlier => e = .revokedAll → ∀ s ∈ (revokeRows w.sessions ids).rows,
      s.known earlier = true → s.revoked = true) history := by
  obtain ⟨events, rfl, hnone⟩ := hnew
  refine Everywhere.append ?_ fun e he earlier heq => absurd (heq ▸ he) hnone
  refine h.mono_of_mem fun e _ earlier hvalid heq s hs hknown => ?_
  obtain ⟨old, hold, -, htoken, hparent, hrevoked⟩ := mem_revokeRows hs
  refine hrevoked.mpr (Or.inl (hvalid heq old hold ?_))
  unfold RefreshSession.known at hknown ⊢
  rwa [← htoken, ← hparent]

theorem revokedAll_notMem_revocations : .revokedAll ∉ w.revocations ids := by
  intro hmem
  obtain ⟨s, -, heq, -⟩ := mem_revocations hmem
  cases heq

theorem undisturbed_commit (h : Undisturbed settings w)
    (hexchanged : ∀ other token, .exchanged other token ∈ events →
      ∃ s ∈ (revokeRows w.sessions ids).rows,
        settings.hash token = settings.hash s.token ∧ s.revoked = true)
    (hsingle : SingleUse (w.revocations ids ++ w.history) →
      SingleUse (events ++ (w.revocations ids ++ w.history)))
    (hafter : NotAfterRevokeAll (w.revocations ids ++ w.history) →
      NotAfterRevokeAll (events ++ (w.revocations ids ++ w.history)))
    (hvalid : NoneValid (w.commit pid ids events)) :
    Undisturbed settings (w.commit pid ids events) where
  exchanged other token hmem := by
    rcases List.mem_append.mp hmem with hnew | hold
    · rcases List.mem_append.mp hnew with hnew | hrevocation
      · exact hexchanged other token hnew
      · obtain ⟨s, -, heq, -⟩ := mem_revocations hrevocation
        cases heq
    · obtain ⟨s, hs, hhash, hrev⟩ := h.exchanged other token hold
      obtain ⟨new, hnew, -, htoken, -, hrevoked⟩ := @exists_revokeRows _ ids _ hs
      exact ⟨new, hnew, by rw [htoken, hhash], hrevoked.mpr (Or.inl hrev)⟩
  pending := Threads.forall_put (fun q hq ids' hphase s hs hunrevoked => by
    obtain ⟨old, hold, hid, -, -, hrevoked⟩ := mem_revokeRows hs
    rw [hid]
    refine h.pending q hq ids' hphase old hold (Bool.eq_false_iff.mpr fun hrev => ?_)
    rw [hrevoked.mpr (Or.inl hrev)] at hunrevoked
    cases hunrevoked) nofun
  single := by
    show SingleUse ((events ++ w.revocations ids) ++ w.history)
    rw [List.append_assoc]
    refine hsingle (h.single.append fun e he earlier => ?_)
    obtain ⟨s, -, rfl, -⟩ := mem_revocations he
    rfl
  after := by
    show NotAfterRevokeAll ((events ++ w.revocations ids) ++ w.history)
    rw [List.append_assoc]
    refine hafter (h.after.append fun e he earlier => ?_)
    obtain ⟨s, -, rfl, -⟩ := mem_revocations he
    rfl
  noneValid := hvalid

theorem undisturbed_revoke (h : Undisturbed settings w) :
    Undisturbed settings (w.commit pid ids []) := by
  refine undisturbed_commit h nofun id id ?_
  exact noneValid_revoke h.noneValid ⟨_, rfl, revokedAll_notMem_revocations⟩

theorem undisturbed_revokeAll (h : Undisturbed settings w)
    (hget : w.transactions.get pid = some (.updated ids)) :
    Undisturbed settings (w.commit pid ids [.revokedAll]) := by
  refine undisturbed_commit h (fun _ _ hmem => ?_) (fun hsingle => ⟨rfl, hsingle⟩)
    (fun hafter => ⟨rfl, hafter⟩) ⟨fun _ s hs _ => ?_, ?_⟩
  · cases List.mem_singleton.mp hmem
  · obtain ⟨old, hold, -, -, -, hrevoked⟩ := mem_revokeRows hs
    refine hrevoked.mpr ?_
    cases hrev : old.revoked with
    | true => exact Or.inl rfl
    | false =>
      exact Or.inr (h.pending _ (Threads.mem_running_of_get hget) ids (Or.inr rfl) old hold hrev)
  · exact noneValid_revoke h.noneValid ⟨_, rfl, revokedAll_notMem_revocations⟩

theorem issued_after_of_unrevoked (hsane : Sane settings w) (h : NoneValid w)
    (hs : s ∈ w.sessions.rows) (hhash : settings.hash token = settings.hash s.token)
    (hunrevoked : s.revoked = false) :
    Everywhere (fun e earlier => e = .revokedAll → .issued token ∉ earlier) w.history := by
  refine everywhere_iff.mpr fun later e earlier heq hall hissued => ?_
  have hmem : .issued token ∈ w.history := by
    rw [heq]
    exact List.mem_append_right later (List.mem_cons_of_mem e hissued)
  obtain ⟨s', hs', rfl⟩ := hsane.issued token hmem
  have hknown : s'.known earlier = true := by simp [RefreshSession.known, hissued]
  have hrev := everywhere_iff.mp h later e earlier heq hall s' hs' hknown
  rw [hsane.hashes s' hs' s hs hhash, hunrevoked] at hrev
  cases hrev

theorem undisturbed_exchange (hsane : Sane settings w) (h : Undisturbed settings w)
    (hs : s ∈ w.sessions.rows) (hhash : settings.hash token = settings.hash s.token)
    (hunrevoked : s.revoked = false) :
    Undisturbed settings (w.commit pid [s.id] [.exchanged pid token]) := by
  refine undisturbed_commit h (fun other token' hmem => ?_) (fun hsingle => ⟨?_, hsingle⟩)
    (fun hafter => ⟨decide_eq_true ?_, hafter⟩) ?_
  · cases List.mem_singleton.mp hmem
    obtain ⟨new, hnew, -, htoken, -, hrevoked⟩ := @exists_revokeRows _ [s.id] _ hs
    exact ⟨new, hnew, by rw [htoken, hhash], hrevoked.mpr (Or.inr (List.mem_singleton_self _))⟩
  · refine List.all_eq_true.mpr fun e hearlier => ?_
    have he : e ∈ w.revocations [s.id] ++ w.history := hearlier
    rcases List.mem_append.mp he with hrevocation | hold
    · obtain ⟨_, -, rfl, -⟩ := mem_revocations hrevocation
      rfl
    · cases e with
      | exchanged other token' =>
        by_cases htoken : token' = token
        · subst htoken
          obtain ⟨s', hs', hhash', hrev⟩ := h.exchanged other token' hold
          rw [hsane.hashes s' hs' s hs (hhash'.symm.trans hhash), hunrevoked] at hrev
          cases hrev
        · simp [Event.exchanges, htoken]
      | started => rfl
      | issued => rfl
      | revoked => rfl
      | revokedAll => rfl
  · refine (issued_after_of_unrevoked hsane h.noneValid hs hhash hunrevoked).append ?_
    intro e he earlier heq
    exact absurd (heq ▸ he) revokedAll_notMem_revocations
  · refine noneValid_revoke h.noneValid ⟨_, rfl, fun hmem => ?_⟩
    rcases List.mem_append.mp hmem with hmem | hmem
    · cases List.mem_singleton.mp hmem
    · exact revokedAll_notMem_revocations hmem

theorem undisturbed_insert (hsane : Sane settings w) (h : Undisturbed settings w)
    {new : RefreshSession} (hid : ∀ s ∈ w.sessions.rows, s.id ≠ new.id)
    (hhash : ∀ s ∈ w.sessions.rows, settings.hash s.token ≠ settings.hash new.token)
    (hnobody : ∀ phase ∈ w.transactions.running, phase.revokesAll = false)
    (hparent : ∀ token, new.parent = some token →
      Everywhere (fun e earlier => e = .revokedAll → .issued token ∉ earlier) w.history) :
    Undisturbed settings { w with
      sessions := w.sessions.insert new
      history := .issued new.token :: w.history } := by
  have hrows := rows_insert hid
  exact
    { exchanged := fun pid token hmem => by
        rcases List.mem_cons.mp hmem with heq | hold
        · cases heq
        · obtain ⟨s, hs, hrow⟩ := h.exchanged pid token hold
          refine ⟨s, ?_, hrow⟩
          show s ∈ (w.sessions.insert new).rows
          rw [hrows]
          exact List.mem_cons_of_mem new hs
      pending := fun phase hphase ids hor => by
        have hfalse := hnobody phase hphase
        rcases hor with rfl | rfl <;> cases hfalse
      single := ⟨rfl, h.single⟩
      after := ⟨rfl, h.after⟩
      noneValid := by
        refine ⟨fun heq => (by cases heq), everywhere_iff.mpr ?_⟩
        intro later e earlier heq hall s hs hknown
        have hmem : s ∈ new :: w.sessions.rows := hrows ▸ hs
        rcases List.mem_cons.mp hmem with rfl | hold
        · rcases Bool.or_eq_true_iff.mp hknown with hissued | hissued
          · have hhistory : .issued s.token ∈ w.history := by
              rw [heq]
              exact List.mem_append_right later (List.mem_cons_of_mem e (of_decide_eq_true hissued))
            obtain ⟨s', hs', htoken⟩ := hsane.issued s.token hhistory
            exact absurd (by rw [htoken]) (hhash s' hs')
          · obtain ⟨token, htoken, hissued⟩ := (Option.any_eq_true _ _).mp hissued
            exact absurd (of_decide_eq_true hissued)
              (everywhere_iff.mp (hparent token htoken) later e earlier heq hall)
        · exact everywhere_iff.mp h.noneValid later e earlier heq hall s hold hknown }

theorem undisturbed_issue (hsane : Sane settings w) (h : Undisturbed settings w)
    {exchanged : Option (String × Nat)}
    (hget : w.transactions.get pid = some (.issuing exchanged))
    (hok : undisturbed w (.issue pid id token) = true)
    (hfresh : w.fresh settings id token = true) :
    Undisturbed settings (w.issue settings pid id token exchanged) := by
  obtain ⟨hnobody, hrow⟩ := Bool.and_eq_true_iff.mp hok
  have hnone : ∀ phase ∈ (w.transactions.put pid none).running, phase.revokesAll = false :=
    Threads.forall_put (fun phase hphase => by
      simpa using List.all_eq_true.mp hnobody phase hphase) nofun
  have hnew : ∀ {ids : List Nat} {s : RefreshSession}, s ∈ (revokeRows w.sessions ids).rows →
      s.id ≠ id ∧ settings.hash s.token ≠ settings.hash token := by
    intro ids s hs
    obtain ⟨old, hold, hid, htoken, -⟩ := mem_revokeRows hs
    rw [hid, htoken]
    exact fresh_iff.mp hfresh old hold
  cases exchanged with
  | none =>
    have hcommit : Sane settings (w.commit pid [] []) := sane_commit hsane hget (Or.inl rfl)
    exact undisturbed_insert hcommit (undisturbed_revoke h) (fun s hs => (hnew hs).1)
      (fun s hs => (hnew hs).2) hnone nofun
  | some exchange =>
    obtain ⟨exchanged, rowId⟩ := exchange
    obtain ⟨⟨s, hs, rfl, hhash⟩, -⟩ := hsane.exchanging pid _ exchanged rowId hget rfl
    rw [hget] at hrow
    obtain ⟨s', hs', hunrevoked⟩ := (Option.any_eq_true _ _).mp hrow
    obtain rfl : s = s' := Option.some.inj ((Table.get_of_mem hs).symm.trans hs')
    have hunrevoked : s.revoked = false := by simpa using hunrevoked
    have hcommit : Sane settings (w.commit pid [s.id] [.exchanged pid exchanged]) :=
      sane_commit hsane hget (Or.inr (Or.inr ⟨exchanged, s.id, rfl, rfl⟩))
    refine undisturbed_insert hcommit (undisturbed_exchange hsane h hs hhash hunrevoked)
      (fun s hs => (hnew hs).1) (fun s hs => (hnew hs).2) hnone fun token' htoken' => ?_
    cases htoken'
    have hafter := issued_after_of_unrevoked hsane h.noneValid hs hhash hunrevoked
    show Everywhere _ ((_ ++ w.revocations [s.id]) ++ w.history)
    refine hafter.append fun e he earlier heq => ?_
    subst heq
    rcases List.mem_append.mp he with hmem | hmem
    · cases List.mem_singleton.mp hmem
    · exact absurd hmem revokedAll_notMem_revocations

theorem undisturbed_advance (h : Undisturbed settings w)
    (hget : w.transactions.get pid = some phase)
    (hstep : w.advance settings pid phase = some w') : Undisturbed settings w' := by
  have hquiet : ∀ next : Option Phase, (∀ q, next = some q → q.revokesAll = false) →
      Undisturbed settings (w.move pid next) := by
    intro next hnext
    refine undisturbed_move h fun ids hor => ?_
    rcases hor with rfl | rfl
    · cases hnext _ rfl
    · cases hnext _ rfl
  cases phase with
  | refreshing token =>
    cases hstep
    refine hquiet _ fun q hq => ?_
    obtain ⟨s, -, rfl⟩ := Option.map_eq_some_iff.mp hq
    rfl
  | matched token id =>
    simp only [World.advance] at hstep
    split at hstep
    · cases hstep
      exact hquiet _ fun q hq => by cases hq; rfl
    · cases hstep
  | flushed token id =>
    cases hstep
    refine hquiet _ fun q hq => ?_
    split at hq <;> cases hq <;> rfl
  | checked token id =>
    cases hstep
    refine hquiet _ fun q hq => ?_
    split at hq <;> cases hq
    rfl
  | issuing exchanged => cases hstep
  | closing id =>
    cases hstep
    exact undisturbed_revoke h
  | loggingIn =>
    cases hstep
    refine hquiet _ fun q hq => ?_
    split at hq <;> cases hq
    rfl
  | loggingOut token =>
    cases hstep
    refine hquiet _ fun q hq => ?_
    obtain ⟨s, -, rfl⟩ := Option.map_eq_some_iff.mp hq
    rfl
  | revoking id =>
    simp only [World.advance] at hstep
    split at hstep
    · cases hstep
      exact undisturbed_revoke h
    · cases hstep
  | deactivating =>
    cases hstep
    refine undisturbed_move h fun ids hor s hs hunrevoked => ?_
    rcases hor with heq | heq
    · cases heq
      have hfound : s ∈ getAllUnrevoked w.sessions := List.mem_filter.mpr ⟨hs, by simp [hunrevoked]⟩
      exact List.mem_map.mpr ⟨s, hfound, rfl⟩
    · cases heq
  | updating ids =>
    simp only [World.advance] at hstep
    split at hstep
    · cases hstep
      refine undisturbed_move h fun ids' hor => ?_
      rcases hor with heq | heq
      · cases heq
      · cases heq
        exact h.pending _ (Threads.mem_running_of_get hget) ids (Or.inl rfl)
    · cases hstep
  | updated ids =>
    cases hstep
    have hcommit := undisturbed_revokeAll h hget
    exact ⟨hcommit.exchanged, hcommit.pending, hcommit.single, hcommit.after, hcommit.noneValid⟩

theorem undisturbed_step (hsane : Sane settings w) (h : Undisturbed settings w)
    (hok : undisturbed w action = true) (hstep : w.step settings action = some w') :
    Undisturbed settings w' := by
  cases action with
  | tick seconds =>
    cases hstep
    exact ⟨h.exchanged, h.pending, h.single, h.after, h.noneValid⟩
  | setActive active =>
    cases hstep
    exact ⟨h.exchanged, h.pending, h.single, h.after, h.noneValid⟩
  | start phase =>
    simp only [World.step] at hstep
    split at hstep
    · next hstarts =>
      cases hstep
      split
      · next token =>
        exact @undisturbed_start _ _ _ [.started w.transactions.list.length token] h hstarts
          fun e he => ⟨_, token, List.mem_singleton.mp he⟩
      · exact @undisturbed_start _ _ _ [] h hstarts nofun
    · cases hstep
  | advance pid =>
    obtain ⟨phase, hget, hadvance⟩ := Option.bind_eq_some_iff.mp hstep
    exact undisturbed_advance h hget hadvance
  | issue pid id token =>
    simp only [World.step] at hstep
    split at hstep
    · next exchanged hget =>
      split at hstep
      · next hfresh =>
        cases hstep
        exact undisturbed_issue hsane h hget hok hfresh
      · cases hstep
    · cases hstep

theorem undisturbed_init : Undisturbed settings (.init sessions now) := by
  have hissued : ∀ e ∈ (World.init sessions now).history, ∃ s ∈ sessions.rows,
      e = .issued s.token := by
    intro e he
    obtain ⟨s, hs, rfl⟩ := List.mem_map.mp he
    exact ⟨s, hs, rfl⟩
  exact
    { exchanged := fun pid token hmem => by
        obtain ⟨s, -, heq⟩ := hissued _ hmem
        cases heq
      pending := nofun
      single := everywhere_of_subset fun e he earlier _ => by
        obtain ⟨s, -, rfl⟩ := hissued e he
        rfl
      after := everywhere_of_subset fun e he earlier _ => by
        obtain ⟨s, -, rfl⟩ := hissued e he
        rfl
      noneValid := everywhere_of_subset fun e he earlier _ heq => by
        obtain ⟨s, -, rfl⟩ := hissued e he
        cases heq }

end SessionLemmas

theorem undisturbed_of_reaches (hdistinct : DistinctHashes settings sessions)
    (h : Reaches (World.step settings) (undisturbed · ·) (.init sessions now) w) :
    Undisturbed settings w :=
  h.invariant_with (fun _ => kept_of_reaches hdistinct) undisturbed_init
    fun _ _ _ hsane hw hok hstep => undisturbed_step hsane hw hok hstep

/-- In every run, a refresh that starts after the revocation of its token does not exchange it. In
a run of refreshes that are not disturbed, moreover, a token is exchanged at most once, and after
all sessions were revoked, no token that had been issued is exchanged, and neither its session nor
one that was created from it is valid. -/
theorem single_use_of_reaches (settings : Settings) (sessions : SessionTable) (now : Int)
    (hdistinct : DistinctHashes settings sessions) :
    (∀ w, Reaches (World.step settings) Always (.init sessions now) w →
      NotAfterRevocation w.history) ∧
    ∀ w, Reaches (World.step settings) (undisturbed · ·) (.init sessions now) w →
      SingleUse w.history ∧ NotAfterRevokeAll w.history ∧ NoneValid w := by
  refine ⟨fun w h => (kept_of_reaches hdistinct h).kept, fun w h => ?_⟩
  have hundisturbed := undisturbed_of_reaches hdistinct h
  exact ⟨hundisturbed.single, hundisturbed.after, hundisturbed.noneValid⟩

/-! ## Runs -/

instance {history : List Event} : Decidable (SingleUse history) := Everywhere.decidable history

instance {history : List Event} : Decidable (NotAfterRevokeAll history) :=
  Everywhere.decidable history

instance {w : World} : Decidable (NoneValid w) := Everywhere.decidable w.history

def exSettings : Settings := ⟨.client, fun token => "hash of " ++ token, 604800⟩

theorem nodup_exSessions : ([⟨0, "first", none, 100, false⟩].map RefreshSession.id).Nodup := by
  decide

def exSessions : SessionTable := ⟨[⟨0, "first", none, 100, false⟩], nodup_exSessions⟩

def exSteps (pid steps : Nat) : List Action := List.replicate steps (.advance pid)

def exRefreshed : List Action :=
  .start (.refreshing "first") :: exSteps 0 4 ++ [Action.issue 0 1 "second", .start .deactivating] ++
    exSteps 1 3 ++ [Action.setActive true, .start (.refreshing "second"), .advance 2]

def exTwice : List Action :=
  [Action.start (.refreshing "first"), .start (.refreshing "first"), .advance 0, .advance 1] ++
    exSteps 0 3 ++ [Action.issue 0 1 "second"] ++ exSteps 1 3 ++ [Action.issue 1 2 "third"]

/-- A deactivation waits for a refresh that has flushed its revocation, and does not see the session
that the refresh adds. The client is activated again. -/
def exUnseen : List Action :=
  .start (.refreshing "first") :: exSteps 0 4 ++ [Action.start .deactivating, .advance 1,
    .issue 0 1 "second"] ++ exSteps 1 2 ++ [Action.setActive true, .start (.refreshing "second")] ++
    exSteps 2 4 ++ [Action.issue 2 2 "third"]

theorem distinct_exSessions : DistinctHashes exSettings exSessions := by
  intro s hs s' hs' _
  rw [List.mem_singleton.mp hs, List.mem_singleton.mp hs']

theorem exRefreshed_single_use : ∃ w,
    Reaches (World.step exSettings) (undisturbed · ·) (.init exSessions 0) w ∧
    .exchanged 0 "first" ∈ w.history ∧ .revokedAll ∈ w.history ∧
    NotAfterRevocation w.history ∧ SingleUse w.history ∧ NotAfterRevokeAll w.history ∧
    NoneValid w := by
  have hexec : (execWhere (World.step exSettings) undisturbed (.init exSessions 0)
      exRefreshed).any (fun w => .exchanged 0 "first" ∈ w.history ∧ .revokedAll ∈ w.history) =
        true := by
    decide +kernel
  obtain ⟨w, hreach, hw⟩ := exists_of_execWhere hexec
  obtain ⟨hexchanged, hrevokedAll⟩ := of_decide_eq_true hw
  have hresults := single_use_of_reaches exSettings exSessions 0 distinct_exSessions
  exact ⟨w, hreach, hexchanged, hrevokedAll, hresults.1 w (hreach.mono fun _ _ _ => trivial),
    hresults.2 w hreach⟩

/-- A token is exchanged twice; and a session that was created while all were being revoked is
valid, and its token exchanged, afterwards. -/
theorem two_exchanges_of_one_token :
    (∃ w, Reaches (World.step exSettings) Always (.init exSessions 0) w ∧ ¬SingleUse w.history) ∧
    ∃ w, Reaches (World.step exSettings) Always (.init exSessions 0) w ∧
      ¬NotAfterRevokeAll w.history ∧ ¬NoneValid w := by
  have htwice : (execWhere (World.step exSettings) (fun _ _ => true) (.init exSessions 0)
      exTwice).any (fun w => ¬SingleUse w.history) = true := by
    decide +kernel
  have hunseen : (execWhere (World.step exSettings) (fun _ _ => true) (.init exSessions 0)
      exUnseen).any (fun w => ¬NotAfterRevokeAll w.history ∧ ¬NoneValid w) = true := by
    decide +kernel
  obtain ⟨w, hreach, hw⟩ := exists_of_execWhere htwice
  obtain ⟨w', hreach', hw'⟩ := exists_of_execWhere hunseen
  exact ⟨⟨w, hreach.mono fun _ _ _ => trivial, of_decide_eq_true hw⟩,
    w', hreach'.mono fun _ _ _ => trivial, of_decide_eq_true hw'⟩

end Trackpal.Accounts.Sessions

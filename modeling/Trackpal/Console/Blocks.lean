import Trackpal.Console.Writes
import Trackpal.Console.Routing

/-!
# Blocked senders

Blocks of a contact are made and removed in the shortcut, in the flow that takes a typed phone, in
the list of the blocks, and with the creation of a client. A message of the contact gets no reply
if a block matches its phone or its address.
-/

namespace Trackpal.Console.Blocks

open Trackpal.Foundation Shortcut

/-- A contact: its phone in digits, its address, or both. -/
structure Sender where
  phone : Option String
  lid : Option String
  canonical : ∀ digits, phone = some digits → normalizePhone (some digits) = some digits
  lid_ne : lid ≠ some ""
  present : phone ≠ none ∨ lid ≠ none

def matching (who : Sender) (block : BlockedClient) : Bool :=
  who.phone.any (block.phone = some ·) || who.lid.any (block.whatsappLid = some ·)

/-- The messages of a contact get no reply. -/
def silenced (db : Database) (tenantId : Nat) (who : Sender) : Bool :=
  (db.findActive tenantId who.phone who.lid).isSome

/-- A block shows the phone of a contact, in any form, or its address. -/
def concerns (who : Sender) (block : BlockedClient) : Bool :=
  who.phone.any (normalizePhone block.phone = some ·) || who.lid.any (block.whatsappLid = some ·)

/-! ## The console of the tenant -/

/-- `_handle_access_control_block_phone`: `none` if no block can be made. -/
def handleAccessControlBlockPhone (db : Database) (tenantId newId : Nat) (msg : String) :
    Option Database :=
  if (db.findActive tenantId (some (strip msg)) none).isSome then some db
  else db.createBlock tenantId newId (some (strip msg)) none

/-- `_handle_clients_block_unblock`, for the block that was selected. -/
def handleClientsBlockUnblock (db : Database) (tenantId blockId : Nat) : Option Database :=
  if ((db.blocked.get blockId).filter (·.tenantId = tenantId)).isSome then
    some (db.unblock tenantId blockId)
  else none

/-! ## Actions on a contact -/

/-- What is stored, and whether the last action on the contact was a block. -/
structure State where
  store : Store
  blocked : Bool

inductive Action where
  | start (targetPhone targetJid : Option String) (adminJid : String)
  | message (turn : Turn) (text : String)
  | expire
  /-- The phone of the contact is typed. -/
  | accessControl (newId : Nat) (typed : String)
  /-- A block that shows the contact is selected in the list. -/
  | unblock (blockId : Nat)
  /-- The other tables and the session change. -/
  | elsewhere (db : Database) (session : Option AdminSession)

def performed (lib : Library) (tenantId : Nat) (store : Store) (turn : Turn) (text : String) :
    Option Bool :=
  match store.context with
  | none => none
  | some data =>
    match routeOf tenantId store data text with
    | .handler .unblockedMenu =>
      if clean text = "2" && (store.db.createBlock tenantId turn.newId
        (normalizePhone data.temp.targetPhone) data.temp.targetLid).isSome then some true else none
    | .handler .blockedMenu => if clean text = "1" then some false else none
    | .handler .creatingConfirm =>
      if confirms text && (creation lib tenantId turn store.db data).isSome then some false
      else none
    | _ => none

variable (lib : Library) (tenantId : Nat) (who : Sender)

def step (s : State) : Action → Option State
  | .start targetPhone targetJid adminJid =>
    if normalizePhone targetPhone ≠ who.phone then none
    else
      (Shortcut.step lib tenantId ⟨s.store, none⟩
        (.start targetPhone who.lid targetJid adminJid)).map fun s' => { s with store := s'.store }
  | .message turn text =>
    some ⟨(handleActiveClientContext lib tenantId turn s.store text).2,
      (performed lib tenantId s.store turn text).getD s.blocked⟩
  | .expire => some { s with store := { s.store with context := none } }
  | .accessControl newId typed =>
    if who.phone = none ∨ normalizePhone (some typed) ≠ who.phone then none
    else (handleAccessControlBlockPhone s.store.db tenantId newId typed).map fun db =>
      ⟨{ s.store with db := db }, true⟩
  | .unblock blockId =>
    if (s.store.db.blocked.get blockId).any (concerns who) then
      (handleClientsBlockUnblock s.store.db tenantId blockId).map fun db =>
        ⟨{ s.store with db := db }, false⟩
    else none
  | .elsewhere db session =>
    if db.blocked.rows = s.store.db.blocked.rows then
      some { s with store := { s.store with db := db, session := session } }
    else none

def Enforced (s : State) : Prop := silenced s.store.db tenantId who = s.blocked

def blocksOf (db : Database) : List BlockedClient :=
  db.blocked.rows.filter fun block => block.tenantId = tenantId && matching who block

/-- The actions after which the blocks are not as the action asks:
* a phone is typed in another form, unless the contact is blocked already;
* a block is removed, in the list or in the shortcut, while there is another one;
* a client is created while there is a block without the phone, or the blocks cannot be cleared. -/
def disturbs (s : State) : Action → Bool
  | .accessControl _ typed =>
    !silenced s.store.db tenantId who && who.phone ≠ some (strip typed)
  | .unblock blockId => (blocksOf tenantId who s.store.db).any (·.id ≠ blockId)
  | .message turn text =>
    match s.store.context with
    | none => false
    | some data =>
      match routeOf tenantId s.store data text with
      | .handler .blockedMenu =>
        clean text = "1" && 2 ≤ (blocksOf tenantId who s.store.db).length
      | .handler .creatingConfirm =>
        confirms text && (creation lib tenantId turn s.store.db data).isSome &&
          (blocksOf tenantId who s.store.db).any fun block =>
            !(turn.clears && who.phone.any (block.phone = some ·))
      | _ => false
  | _ => false

variable {lib : Library} {tenantId : Nat} {who : Sender} {store : Store} {data : Context}
  {turn : Turn} {text message : String} {client : Client} {db db' : Database}

namespace BlocksLemmas

open RowsLemmas AnswersLemmas

/-! ## What leaves the blocks -/

theorem blocked_changeClient {refusal : Option Refusal} {id : Nat} {f : Client → Client}
    {hf : ∀ c, (f c).id = c.id} {found : Option Client}
    (h : db.changeClient tenantId refusal id f hf = .ok (found, db')) :
    db'.blocked = db.blocked := by
  obtain ⟨-, -, rfl⟩ | ⟨c, -, -, rfl⟩ := changeClient_eq_ok h <;> rfl

theorem blocked_deleteClient {refusal : Option Refusal} {id : Nat} {deleted : Bool}
    (h : db.deleteClient tenantId refusal id = .ok (deleted, db')) : db'.blocked = db.blocked := by
  unfold Database.deleteClient at h
  split at h
  · cases h
    rfl
  split at h
  · cases h
  split at h
  · cases h
  · cases h
    rfl

theorem blocked_renew {refusal : Option Refusal} {id : Nat} {next : Int → Int}
    (h : db.renewSubscription tenantId refusal id next = some db') :
    db'.blocked = db.blocked := by
  unfold Database.renewSubscription at h
  split at h
  · cases h
    rfl
  · cases h

theorem blocked_cancel {refusal : Option Refusal} {id : Nat}
    (h : db.cancelSubscription tenantId refusal id = some db') : db'.blocked = db.blocked := by
  unfold Database.cancelSubscription at h
  split at h
  · cases h
    rfl
  · cases h

def changesBlocks : Handler → Bool
  | .unblockedMenu | .blockedMenu | .creatingConfirm => true
  | _ => false

theorem blocked_of_written {handler : Handler} (h : Written tenantId db handler db')
    (hhandler : changesBlocks handler = false) : db'.blocked = db.blocked := by
  cases h with
  | kept => rfl
  | blocked | unblocked | created | cleared => cases hhandler
  | changed _ _ h => exact blocked_changeClient h
  | deleted h => exact blocked_deleteClient h
  | renewed h => exact blocked_renew h
  | cancelled h => exact blocked_cancel h

theorem blocked_message (hctx : store.context = some data)
    (h : ∀ handler, routeOf tenantId store data text = .handler handler →
      changesBlocks handler = false) :
    (handleActiveClientContext lib tenantId turn store text).2.db.blocked = store.db.blocked := by
  obtain ⟨handler, hroute | rfl | hroute, hwritten⟩ := written_message hctx
  · exact blocked_of_written hwritten (h handler hroute)
  · exact blocked_of_written hwritten rfl
  · obtain ⟨-, hfirst, -⟩ | ⟨-, -, rfl⟩ := of_route_reset hroute
    · cases hfirst
    · exact blocked_of_written hwritten rfl

/-! ## The blocks of a contact -/

theorem truthy_of_digits {digits : String} (h : who.phone = some digits) :
    truthy who.phone = some digits := by
  rw [h]
  exact truthy_of_normalizePhone (who.canonical digits h)

theorem truthy_of_lid {lid : String} (h : who.lid = some lid) : truthy who.lid = some lid := by
  rw [h]
  refine Option.filter_eq_some_iff.mpr ⟨rfl, decide_eq_true ?_⟩
  rintro rfl
  exact who.lid_ne h

theorem identityClause_sender :
    Database.identityClause who.phone who.lid = some (matching who) := by
  unfold Database.identityClause matching
  cases hphone : who.phone with
  | some digits =>
    rw [← hphone, truthy_of_digits hphone]
    cases hlid : who.lid with
    | some lid =>
      rw [← hlid, truthy_of_lid hlid, hphone, hlid]
      rfl
    | none =>
      rw [hphone]
      simp [truthy]
  | none =>
    cases hlid : who.lid with
    | some lid =>
      rw [← hlid, truthy_of_lid hlid, hlid]
      simp [truthy]
    | none =>
      obtain h | h := who.present
      · exact absurd hphone h
      · exact absurd hlid h

theorem findActive_sender :
    db.findActive tenantId who.phone who.lid = (blocksOf tenantId who db).head? := by
  unfold Database.findActive
  rw [identityClause_sender]
  rfl

theorem silenced_eq_false : silenced db tenantId who = false ↔ blocksOf tenantId who db = [] := by
  unfold silenced
  rw [findActive_sender]
  cases blocksOf tenantId who db <;> simp

theorem silenced_eq_true : silenced db tenantId who = true ↔ blocksOf tenantId who db ≠ [] := by
  rw [← Bool.not_eq_false, silenced_eq_false]

theorem mem_blocksOf {block : BlockedClient} : block ∈ blocksOf tenantId who db ↔
    block ∈ db.blocked.rows ∧ block.tenantId = tenantId ∧ matching who block = true := by
  unfold blocksOf
  rw [List.mem_filter, Bool.and_eq_true, decide_eq_true_eq]

theorem blocksOf_congr (h : db'.blocked.rows = db.blocked.rows) :
    blocksOf tenantId who db' = blocksOf tenantId who db := by
  unfold blocksOf
  rw [h]

theorem createBlock_eq_some {newId : Nat} {phone lid : Option String}
    (h : db.createBlock tenantId newId phone lid = some db') :
    db'.blocked.rows = ⟨newId, tenantId, phone, lid⟩ :: db.blocked.rows := by
  unfold Database.createBlock at h
  split at h
  · cases h
  split at h
  · cases h
  next hfresh =>
  cases h
  have hnew : newId ∉ db.blocked.rows.map BlockedClient.id := by
    intro hmem
    obtain ⟨row, hrow, heq⟩ := List.mem_map.mp hmem
    exact Table.get_eq_none.mp (by simpa using hfresh) row hrow heq
  show (db.blocked.insert _).rows = _
  rw [Table.insert, dif_neg hnew]

theorem silenced_createBlock {newId : Nat} {phone lid : Option String}
    (h : db.createBlock tenantId newId phone lid = some db')
    (hmatch : matching who ⟨newId, tenantId, phone, lid⟩ = true) :
    silenced db' tenantId who = true := by
  refine silenced_eq_true.mpr (List.ne_nil_of_mem (mem_blocksOf.mpr ⟨?_, rfl, hmatch⟩))
  rw [createBlock_eq_some h]
  exact List.mem_cons_self

theorem silenced_createBlock_other {newId : Nat} {phone lid : Option String}
    (h : db.createBlock tenantId newId phone lid = some db')
    (hmatch : matching who ⟨newId, tenantId, phone, lid⟩ = false) :
    silenced db' tenantId who = silenced db tenantId who := by
  have hblocks : blocksOf tenantId who db' = blocksOf tenantId who db := by
    unfold blocksOf
    rw [createBlock_eq_some h, List.filter_cons, if_neg (by simp [hmatch])]
  unfold silenced
  rw [findActive_sender, findActive_sender, hblocks]

theorem blocksOf_unblock {blockId : Nat} :
    blocksOf tenantId who (db.unblock tenantId blockId) =
      (blocksOf tenantId who db).filter (·.id ≠ blockId) := by
  unfold blocksOf Database.unblock Table.remove
  rw [List.filter_filter, List.filter_filter]
  refine List.filter_congr fun block _ => ?_
  by_cases htenant : block.tenantId = tenantId <;> by_cases hid : block.id = blockId <;>
    simp [htenant, hid]

theorem silenced_unblock {blockId : Nat} :
    silenced (db.unblock tenantId blockId) tenantId who =
      (blocksOf tenantId who db).any (·.id ≠ blockId) := by
  rw [Bool.eq_iff_iff, silenced_eq_true, blocksOf_unblock, List.any_eq_true, ne_eq,
    List.filter_eq_nil_iff]
  simp

theorem mem_of_findActive {block : BlockedClient}
    (h : db.findActive tenantId who.phone none = some block) :
    block ∈ blocksOf tenantId who db := by
  unfold Database.findActive Database.identityClause at h
  cases hphone : who.phone with
  | none =>
    rw [hphone] at h
    cases h
  | some digits =>
    rw [truthy_of_digits hphone] at h
    have hmem := List.mem_of_mem_head? h
    obtain ⟨hrow, hclause⟩ := List.mem_filter.mp hmem
    rw [Bool.and_eq_true, decide_eq_true_eq, decide_eq_true_eq] at hclause
    refine mem_blocksOf.mpr ⟨hrow, hclause.1, ?_⟩
    unfold matching
    simp [hphone, hclause.2]

theorem silenced_unblock_found {block : BlockedClient}
    (h : db.findActive tenantId who.phone who.lid = some block) :
    silenced (db.unblock tenantId block.id) tenantId who =
      decide (2 ≤ (blocksOf tenantId who db).length) := by
  rw [findActive_sender] at h
  rw [silenced_unblock]
  have hnodup : ((blocksOf tenantId who db).map BlockedClient.id).Nodup :=
    db.blocked.nodup.sublist (List.filter_sublist.map _)
  match hblocks : blocksOf tenantId who db with
  | [] =>
    rw [hblocks] at h
    cases h
  | first :: rest =>
    rw [hblocks] at h hnodup
    cases h
    cases rest with
    | nil => simp
    | cons second rest =>
      have hne : second.id ≠ block.id := by
        rw [List.map_cons, List.nodup_cons] at hnodup
        intro heq
        exact hnodup.1 (List.mem_map.mpr ⟨second, List.mem_cons_self, heq⟩)
      simp [hne]

theorem blocksOf_clearIdentity :
    blocksOf tenantId who (db.clearIdentity tenantId who.phone none) =
      (blocksOf tenantId who db).filter fun block => !who.phone.any (block.phone = some ·) := by
  unfold Database.clearIdentity Database.identityClause
  cases hphone : who.phone with
  | none => simp [truthy]
  | some digits =>
    rw [← hphone, truthy_of_digits hphone, hphone]
    unfold blocksOf
    simp only [truthy, Option.filter_none, Table.remove, List.filter_filter]
    refine List.filter_congr fun block _ => ?_
    by_cases htenant : block.tenantId = tenantId <;>
      by_cases hblock : block.phone = some digits <;> simp [htenant, hblock]

/-! ## One action -/

/-- The record, if there is one, is about the contact. -/
def OfSender (who : Sender) (s : State) : Prop :=
  ∀ data, s.store.context = some data →
    normalizePhone data.temp.targetPhone = who.phone ∧ data.temp.targetLid = who.lid

theorem matching_sender {newId : Nat} :
    matching who ⟨newId, tenantId, who.phone, who.lid⟩ = true := by
  unfold matching
  cases hphone : who.phone with
  | some digits => simp
  | none =>
    cases hlid : who.lid with
    | some lid => simp
    | none =>
      obtain h | h := who.present
      · exact absurd hphone h
      · exact absurd hlid h

theorem enforced_unblockedMenu (hphone : normalizePhone data.temp.targetPhone = who.phone)
    (hlid : data.temp.targetLid = who.lid) {blocked : Bool}
    (h : silenced store.db tenantId who = blocked) :
    silenced (handleCtxUnblockedMenu tenantId turn store data (clean text)).2.db tenantId who =
      (if clean text = "2" && (store.db.createBlock tenantId turn.newId
        (normalizePhone data.temp.targetPhone) data.temp.targetLid).isSome
        then some true else none).getD blocked := by
  unfold handleCtxUnblockedMenu
  by_cases hone : clean text = "1"
  · rw [if_pos hone, hone, if_neg (by simp)]
    exact h
  rw [if_neg hone]
  by_cases htwo : clean text = "2"
  · rw [if_pos htwo, htwo, hphone, hlid]
    cases hcreate : store.db.createBlock tenantId turn.newId who.phone who.lid with
    | none => exact h
    | some db => exact silenced_createBlock hcreate matching_sender
  · simp only [htwo, decide_false, Bool.false_and, Bool.false_eq_true, if_false]
    split <;> exact h

theorem enforced_blockedMenu (hphone : normalizePhone data.temp.targetPhone = who.phone)
    (hlid : data.temp.targetLid = who.lid) {blocked : Bool}
    (hblocked : targetBlocked tenantId data store.db = true)
    (h : silenced store.db tenantId who = blocked) :
    silenced (handleCtxBlockedMenu tenantId store data (clean text)).2.db tenantId who =
        (if clean text = "1" then some false else none).getD blocked ↔
      (clean text = "1" && 2 ≤ (blocksOf tenantId who store.db).length) = false := by
  unfold handleCtxBlockedMenu
  by_cases hone : clean text = "1"
  · rw [if_pos hone, if_pos hone, hphone, hlid, hone]
    simp only [decide_true, Bool.true_and]
    have hfound : ∃ block, store.db.findActive tenantId who.phone who.lid = some block := by
      refine Option.isSome_iff_exists.mp (silenced_eq_true.mpr fun hnone => ?_)
      unfold targetBlocked at hblocked
      rw [hphone] at hblocked
      obtain ⟨block, hblock⟩ := Option.isSome_iff_exists.mp hblocked
      exact List.not_mem_nil (hnone ▸ mem_of_findActive hblock)
    obtain ⟨block, hblock⟩ := hfound
    rw [hblock]
    show silenced (store.db.unblock tenantId block.id) tenantId who = false ↔ _
    rw [silenced_unblock_found hblock]
  · rw [if_neg hone, if_neg hone]
    refine iff_of_true ?_ (by simp [hone])
    split <;> exact h

theorem createClient_blocked {refusal : Option Refusal} {tenantExists : Bool} {newId : Nat}
    {payload : Database.ClientCreate} {found : Option Client}
    (h : db.createClient tenantId refusal tenantExists newId payload = .ok (found, db')) :
    db'.blocked = db.blocked := by
  cases found with
  | some client =>
    obtain ⟨-, -, rfl⟩ := createClient_eq_ok h
    rfl
  | none =>
    unfold Database.createClient at h
    repeat' split at h
    all_goals cases h
    rfl

theorem creatingConfirm_cases :
    ((confirms text && (creation lib tenantId turn store.db data).isSome) = false ∧
      (handleCtxCreatingConfirm lib tenantId turn store data text).2.db = store.db) ∨
    ((confirms text && (creation lib tenantId turn store.db data).isSome) = true ∧
      ∃ db, db.blocked = store.db.blocked ∧
        (handleCtxCreatingConfirm lib tenantId turn store data text).2.db =
          if turn.clears then db.clearIdentity tenantId (normalizePhone data.temp.targetPhone) none
          else db) := by
  unfold handleCtxCreatingConfirm
  dsimp only
  split
  · next hconfirms =>
    rw [Bool.not_eq_true'] at hconfirms
    exact Or.inl ⟨by rw [hconfirms, Bool.false_and], rfl⟩
  next hconfirms =>
  rw [Bool.not_eq_true', Bool.not_eq_false] at hconfirms
  rw [hconfirms, Bool.true_and]
  unfold creation
  rcases creationPayload lib data.temp with _ | payload
  · exact Or.inl ⟨rfl, rfl⟩
  dsimp only
  rcases hcreate : store.db.createClient tenantId turn.refusal turn.tenantExists turn.newId
    payload with ⟨_ | _⟩ | ⟨_ | client, db⟩
  · exact Or.inl ⟨rfl, rfl⟩
  · exact Or.inl ⟨rfl, rfl⟩
  · exact Or.inl ⟨rfl, rfl⟩
  · exact Or.inr ⟨rfl, db, createClient_blocked hcreate, rfl⟩

theorem enforced_creatingConfirm (hphone : normalizePhone data.temp.targetPhone = who.phone)
    {blocked : Bool} (h : silenced store.db tenantId who = blocked) :
    silenced (handleCtxCreatingConfirm lib tenantId turn store data text).2.db tenantId who =
        (if confirms text && (creation lib tenantId turn store.db data).isSome then some false
          else none).getD blocked ↔
      (confirms text && (creation lib tenantId turn store.db data).isSome &&
        (blocksOf tenantId who store.db).any fun block =>
          !(turn.clears && who.phone.any (block.phone = some ·))) = false := by
  obtain ⟨hnone, hdb⟩ | ⟨hsome, db, hblocked, hdb⟩ :=
    @creatingConfirm_cases lib tenantId store data turn text
  · rw [hnone, hdb]
    exact iff_of_true h rfl
  · have hblocks : blocksOf tenantId who db = blocksOf tenantId who store.db :=
      blocksOf_congr (congrArg Table.rows hblocked)
    rw [hsome, hdb, hphone, if_pos rfl, Option.getD_some, Bool.true_and, silenced_eq_false]
    cases hclears : turn.clears with
    | true =>
      rw [if_pos rfl, blocksOf_clearIdentity, hblocks, List.filter_eq_nil_iff]
      simp
    | false =>
      rw [if_neg Bool.false_ne_true, hblocks]
      simp [List.eq_nil_iff_forall_not_mem]

theorem performed_of_route (hctx : store.context = some data)
    (h : ∀ handler, routeOf tenantId store data text = .handler handler →
      changesBlocks handler = false) :
    performed lib tenantId store turn text = none ∧
      disturbs lib tenantId who ⟨store, blocked⟩ (.message turn text) = false := by
  unfold performed disturbs
  dsimp only
  rw [hctx]
  dsimp only
  cases hroute : routeOf tenantId store data text with
  | handler handler =>
    have hkeeps := h handler hroute
    cases handler with
    | unblockedMenu | blockedMenu | creatingConfirm => cases hkeeps
    | _ => exact ⟨rfl, rfl⟩
  | _ => exact ⟨rfl, rfl⟩

theorem silenced_congr (h : db'.blocked.rows = db.blocked.rows) :
    silenced db' tenantId who = silenced db tenantId who := by
  unfold silenced
  rw [findActive_sender, findActive_sender, blocksOf_congr h]

theorem enforced_message {s : State} (hof : OfSender who s) (hs : Enforced tenantId who s) :
    Enforced tenantId who ⟨(handleActiveClientContext lib tenantId turn s.store text).2,
        (performed lib tenantId s.store turn text).getD s.blocked⟩ ↔
      disturbs lib tenantId who s (.message turn text) = false := by
  unfold Enforced at hs ⊢
  cases hctx : s.store.context with
  | none =>
    unfold performed disturbs handleActiveClientContext
    dsimp only
    rw [hctx]
    exact iff_of_true hs rfl
  | some data =>
    obtain ⟨hphone, hlid⟩ := hof data hctx
    by_cases hchanges : ∃ handler, routeOf tenantId s.store data text = .handler handler ∧
        changesBlocks handler = true
    · obtain ⟨handler, hroute, hchanges⟩ := hchanges
      obtain ⟨hsteps, hkind, -, hmenu⟩ := of_route hroute
      rw [handle_of_handler hctx hroute]
      unfold performed disturbs
      dsimp only
      rw [hctx]
      dsimp only
      rw [hroute]
      cases handler with
      | unblockedMenu =>
        rw [clientOf_unregistered hkind, withClientId_none, runHandler]
        exact iff_of_true (enforced_unblockedMenu hphone hlid hs) rfl
      | blockedMenu =>
        have hblocked : targetBlocked tenantId data s.store.db = true := by
          by_contra hfree
          have heq := hmenu (List.mem_singleton.mp hsteps)
          rw [if_neg hfree] at heq
          cases heq
        rw [clientOf_unregistered hkind, withClientId_none, runHandler]
        exact enforced_blockedMenu hphone hlid hblocked hs
      | creatingConfirm =>
        rw [clientOf_unregistered hkind, withClientId_none, runHandler]
        exact enforced_creatingConfirm hphone hs
      | _ => cases hchanges
    · have hnone : ∀ handler, routeOf tenantId s.store data text = .handler handler →
          changesBlocks handler = false := by
        intro handler hroute
        rw [← Bool.not_eq_true]
        exact fun h => hchanges ⟨handler, hroute, h⟩
      obtain ⟨hperformed, hdisturbs⟩ := performed_of_route hctx hnone
      rw [hperformed]
      refine iff_of_true ?_ hdisturbs
      exact (silenced_congr (congrArg Table.rows (blocked_message hctx hnone))).trans hs

theorem enforced_accessControl {newId : Nat} {typed : String}
    (h : handleAccessControlBlockPhone db tenantId newId typed = some db') :
    silenced db' tenantId who = true ↔
      (!silenced db tenantId who && who.phone ≠ some (strip typed)) = false := by
  unfold handleAccessControlBlockPhone at h
  split at h
  · next hfound =>
    cases h
    by_cases hphone : who.phone = some (strip typed)
    · obtain ⟨block, hblock⟩ := Option.isSome_iff_exists.mp hfound
      rw [← hphone] at hblock
      have hsilenced : silenced db tenantId who = true :=
        silenced_eq_true.mpr (List.ne_nil_of_mem (mem_of_findActive hblock))
      rw [hsilenced]
      exact iff_of_true rfl rfl
    · simp [hphone]
  · by_cases hphone : who.phone = some (strip typed)
    · refine iff_of_true (silenced_createBlock h ?_) (by simp [hphone])
      unfold matching
      simp [hphone]
    · rw [silenced_createBlock_other h]
      · simp [hphone]
      · unfold matching
        cases hdigits : who.phone with
        | none => simp
        | some digits =>
          rw [hdigits] at hphone
          simpa [eq_comm] using hphone

/-- What is known along a run. -/
structure Sound (tenantId : Nat) (who : Sender) (s : State) : Prop where
  enforced : Enforced tenantId who s
  ofSender : OfSender who s

theorem normalizePhone_keptPhone {phone : Option String} :
    normalizePhone (keptPhone phone) = normalizePhone phone := by
  cases hphone : normalizePhone phone with
  | none => rw [keptPhone_of_none hphone, hphone]
  | some digits => rw [keptPhone_of_some hphone, normalizePhone_idem hphone]

theorem start_eq_some {s : Shortcut.State} {s' : Shortcut.State}
    {targetPhone targetLid targetJid : Option String} {adminJid : String}
    (h : Shortcut.step lib tenantId s (.start targetPhone targetLid targetJid adminJid) = some s') :
    s'.store.db = s.store.db ∧ ∀ data, s'.store.context = some data →
      s.store.context = some data ∨ (data.temp.targetPhone = keptPhone targetPhone ∧
        data.temp.targetLid = targetLid) := by
  unfold Shortcut.step at h
  dsimp only at h
  split at h
  · cases h
  split at h
  · cases h
    exact ⟨rfl, fun data hdata => Or.inl hdata⟩
  · cases h
    refine ⟨rfl, fun data hdata => Or.inr ?_⟩
    cases hdata
    exact ⟨rfl, rfl⟩

theorem enforced_step {s s' : State} {a : Action} (hs : Sound tenantId who s)
    (h : step lib tenantId who s a = some s') :
    Enforced tenantId who s' ↔ disturbs lib tenantId who s a = false := by
  cases a with
  | start targetPhone targetJid adminJid =>
    unfold step at h
    dsimp only at h
    split at h
    · cases h
    obtain ⟨started, hstarted, rfl⟩ := Option.map_eq_some_iff.mp h
    refine iff_of_true ?_ rfl
    unfold Enforced
    dsimp only
    rw [(start_eq_some hstarted).1]
    exact hs.enforced
  | message turn text =>
    cases h
    exact enforced_message hs.ofSender hs.enforced
  | expire =>
    cases h
    exact iff_of_true hs.enforced rfl
  | accessControl newId typed =>
    unfold step at h
    dsimp only at h
    split at h
    · cases h
    obtain ⟨db, hblock, rfl⟩ := Option.map_eq_some_iff.mp h
    exact enforced_accessControl hblock
  | unblock blockId =>
    unfold step at h
    dsimp only at h
    split at h
    · obtain ⟨db, hunblock, rfl⟩ := Option.map_eq_some_iff.mp h
      unfold handleClientsBlockUnblock at hunblock
      split at hunblock
      · cases hunblock
        unfold Enforced disturbs
        dsimp only
        rw [silenced_unblock]
      · cases hunblock
    · cases h
  | elsewhere db session =>
    unfold step at h
    dsimp only at h
    split at h
    · next hblocked =>
      cases h
      exact iff_of_true ((silenced_congr hblocked).trans hs.enforced) rfl
    · cases h

theorem ofSender_step {s s' : State} {a : Action} (hs : OfSender who s)
    (h : step lib tenantId who s a = some s') : OfSender who s' := by
  cases a with
  | start targetPhone targetJid adminJid =>
    unfold step at h
    dsimp only at h
    split at h
    · cases h
    next hphone =>
    rw [not_not] at hphone
    obtain ⟨started, hstarted, rfl⟩ := Option.map_eq_some_iff.mp h
    intro data hdata
    obtain hold | ⟨htarget, hlid⟩ := (start_eq_some hstarted).2 data hdata
    · exact hs data hold
    · exact ⟨by rw [htarget, normalizePhone_keptPhone, hphone], hlid⟩
  | message turn text =>
    cases h
    intro data hdata
    cases hctx : s.store.context with
    | none =>
      unfold handleActiveClientContext at hdata
      rw [hctx] at hdata
      exact hs data hdata
    | some data₀ =>
      have habout := about_message hctx data hdata
      have hphone : data.temp.targetPhone = data₀.temp.targetPhone :=
        congrArg Contact.targetPhone habout
      have hlid : data.temp.targetLid = data₀.temp.targetLid := congrArg Contact.targetLid habout
      rw [hphone, hlid]
      exact hs data₀ hctx
  | expire =>
    cases h
    intro data hdata
    cases hdata
  | accessControl newId typed =>
    unfold step at h
    dsimp only at h
    split at h
    · cases h
    · obtain ⟨db, -, rfl⟩ := Option.map_eq_some_iff.mp h
      exact hs
  | unblock blockId =>
    unfold step at h
    dsimp only at h
    split at h
    · obtain ⟨db, -, rfl⟩ := Option.map_eq_some_iff.mp h
      exact hs
    · cases h
  | elsewhere db session =>
    unfold step at h
    dsimp only at h
    split at h
    · cases h
      exact hs
    · cases h

/-! ## Answers -/

/-- A message of a contact to the instance of the tenant. -/
structure From (who : Sender) (r : Request) : Prop where
  phone : normalizePhone (some r.phone) = who.phone
  lid : r.senderLid = who.lid
  inbound : r.fromMe = false
  message : clean r.message ≠ inactivityTimeoutMessage

/-- The answers that do not depend on the blocks: a demo gets none, a tenant that is not active
answers every sender, and the menu of another tenant is not answered. -/
def excepted (dir : Directory) (db : Database) (tenant : Tenant) (r : Request) (blocked : Bool) :
    Bool :=
  if tenant.isDemo then !blocked
  else if !tenant.isActive then blocked
  else !blocked && isExternalMenu dir db tenant ((normalizePhone (some r.phone)).getD "")
    r.senderLid r.message

theorem findActive_digits {phone lid : Option String} :
    db.findActive tenantId (some (phone.getD "")) lid = db.findActive tenantId phone lid := by
  cases phone <;> rfl

theorem silent_iff {inLookup inContext : String → Bool} {dir : Directory} {tenant : Tenant}
    {r : Request} {blocked : Bool} (hfrom : From who r)
    (h : silenced db tenant.id who = blocked) :
    (routeTenant inLookup inContext dir db tenant r = .silent ↔ blocked = true) ↔
      excepted dir db tenant r blocked = false := by
  unfold routeTenant excepted
  by_cases hdemo : tenant.isDemo = true
  · rw [if_pos hdemo, if_pos hdemo]
    cases blocked <;> simp
  rw [if_neg hdemo, if_neg hdemo]
  by_cases hactive : (!tenant.isActive) = true
  · rw [if_pos hactive, if_pos hactive]
    cases blocked <;> simp
  rw [if_neg hactive, if_neg hactive, if_neg hfrom.message, hfrom.inbound,
    if_neg Bool.false_ne_true, silent_routeInbound]
  have hdigits : (normalizePhone (some ((normalizePhone (some r.phone)).getD ""))).getD
      ((normalizePhone (some r.phone)).getD "") = (normalizePhone (some r.phone)).getD "" := by
    cases hphone : normalizePhone (some r.phone) with
    | none => rfl
    | some digits => rw [Option.getD_some, normalizePhone_idem hphone, Option.getD_some]
  rw [hdigits, findActive_digits, hfrom.phone, hfrom.lid]
  unfold silenced at h
  rw [h]
  cases blocked <;> simp

theorem sound_of_reaches {session : Option AdminSession} {s : State}
    (hfree : silenced db tenantId who = false)
    (h : Reaches (step lib tenantId who) (fun s a => disturbs lib tenantId who s a = false)
      ⟨⟨db, none, session, 0⟩, false⟩ s) : Sound tenantId who s := by
  refine h.invariant ⟨hfree, fun data hdata => by cases hdata⟩ ?_
  intro s a s' hs hok hstep
  exact ⟨(enforced_step hs hstep).mpr hok, ofSender_step hs.ofSender hstep⟩

end BlocksLemmas

open BlocksLemmas

/-- In a run of actions that do not disturb the blocks, the messages of the contact get no reply if
and only if the last action was a block, and exactly the actions that disturb the blocks lead to
a state where they are not as the action asks. -/
theorem blocks_of_reaches (lib : Library) (tenantId : Nat) (who : Sender) (db : Database)
    (session : Option AdminSession) (s : State) (hfree : silenced db tenantId who = false)
    (h : Reaches (step lib tenantId who) (fun s a => disturbs lib tenantId who s a = false)
      ⟨⟨db, none, session, 0⟩, false⟩ s) :
    (∀ inLookup inContext dir tenant r, tenant.id = tenantId → From who r →
      ((routeTenant inLookup inContext dir s.store.db tenant r = .silent ↔ s.blocked = true) ↔
        excepted dir s.store.db tenant r s.blocked = false)) ∧
    ∀ a s', step lib tenantId who s a = some s' →
      (Enforced tenantId who s' ↔ disturbs lib tenantId who s a = false) := by
  have hsound := sound_of_reaches hfree h
  constructor
  · rintro inLookup inContext dir tenant r rfl hfrom
    exact silent_iff hfrom hsound.enforced
  · intro a s' hstep
    exact enforced_step hsound hstep

/-! ## A phone that is typed with a plus sign -/

theorem canonical_exWho : ∀ digits, some "34600111222" = some digits →
    normalizePhone (some digits) = some digits := by
  intro digits h
  rw [← Option.some.inj h]
  decide +kernel

theorem lid_exWho : (none : Option String) ≠ some "" := (Option.some_ne_none "").symm

def exWho : Sender :=
  ⟨some "34600111222", none, canonical_exWho, lid_exWho, Or.inl (Option.some_ne_none _)⟩

def exTenant : Tenant := ⟨2, 5, none, none, some "shop", .pro, true, false⟩

def exDirectory : Directory := ⟨Table.empty, Table.empty⟩

def exRequest : Request :=
  ⟨"34600111222@s.whatsapp.net", "hola", some "shop", none, false, none, none, none, none, none⟩

theorem from_exRequest : From exWho exRequest where
  phone := by decide +kernel
  lid := rfl
  inbound := rfl
  message := by decide +kernel

def exFree : State := ⟨⟨exDatabase, none, none, 0⟩, false⟩

def exBlock : List Action :=
  [.start (some "34600111222") none "34600999888@s.whatsapp.net", .message exTurn "2"]

/-- The admin blocks a sender, whose next message is left unanswered. -/
theorem blocks_of_reaches_shortcut : ∃ s : State, s.blocked = true ∧
    (routeTenant (fun _ => false) (fun _ => false) exDirectory s.store.db exTenant exRequest =
      .silent ↔ s.blocked = true) := by
  have hrun : (execWhere (step exLibrary 2 exWho) (fun s a => !disturbs exLibrary 2 exWho s a)
      exFree exBlock).any fun s : State =>
        s.blocked && !excepted exDirectory s.store.db exTenant exRequest s.blocked := by
    decide +kernel
  obtain ⟨s, hreaches, hs⟩ := exists_of_execWhere hrun
  rw [Bool.and_eq_true, Bool.not_eq_true'] at hs
  exact ⟨s, hs.1, ((blocks_of_reaches exLibrary 2 exWho exDatabase none s (by decide +kernel)
    (hreaches.mono fun _ _ hok => by simpa using hok)).1 _ _ _ exTenant exRequest rfl
    from_exRequest).mpr hs.2⟩

/-- A block of a phone that is typed with a plus sign is acknowledged, and the messages of the
phone are answered. -/
theorem typed_block_is_not_enforced : ∃ s,
    Reaches (step exLibrary 2 exWho) Always exFree s ∧ s.blocked = true ∧ From exWho exRequest ∧
    routeTenant (fun _ => false) (fun _ => false) exDirectory s.store.db exTenant exRequest =
      .reply .notRegistered := by
  have hrun : ((exec (step exLibrary 2 exWho) exFree
      [.accessControl 9 "+34 600 111 222"]).any fun s : State => s.blocked &&
        routeTenant (fun _ => false) (fun _ => false) exDirectory s.store.db exTenant exRequest =
          .reply .notRegistered) = true := by
    decide +kernel
  obtain ⟨s, hexec, hs⟩ := (Option.any_eq_true _ _).mp hrun
  rw [Bool.and_eq_true, decide_eq_true_eq] at hs
  exact ⟨s, reaches_of_exec hexec, hs.1, from_exRequest, hs.2⟩

end Trackpal.Console.Blocks

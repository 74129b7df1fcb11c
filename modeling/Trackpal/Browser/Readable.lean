import Trackpal.Foundation.Runs
import Trackpal.Browser.Operations

/-!
# What the operations store is read again

The envelope that an operation has stored, behind any number of operations, is the one that the next
`ensure` returns. The check of an update is that of the keys alone, the check of a read is that of the
whole envelope.
-/

namespace Trackpal.Browser.Workspace

open Trackpal.Foundation Json

/-- Every session of the owner that has not ended gets what is stored. -/
def Readable (rt : Runtime) (owner : Owner) (stored : Option Json) : Prop :=
  ∃ envelope, stored = some envelope ∧ isWorkspaceEnvelope rt envelope owner.tenantId = true ∧
    ∀ metadata call, isLive rt owner metadata stored = true →
      ensure rt metadata call owner.tenantId stored = (.ok envelope, stored)

def StillReads (read : Json → Option Json) (s s' : State) : Prop :=
  ∀ envelope ∈ s.stored, (read (planSpecific envelope)).isSome →
    ∀ envelope' ∈ s'.stored, (read (planSpecific envelope')).isSome

/-- What is stored behind an operation is accepted by every check of a read. -/
structure Kept (rt : Runtime) (owner : Owner) (s s' : State) : Prop where
  readable : Readable rt owner s'.stored
  starter : StillReads readStarterDemoState s s'
  pro : StillReads readProDemoState s s'

def isLocale (locale : Option Json) : Bool :=
  locale.bind text = some "en" || locale.bind text = some "es"

def losesLocale (metadata : Metadata) (payload : TenantSettingsUpdate) (state : Json) : Bool :=
  match payload.locale with
  | .absent => !isLocale ((currentSettings metadata state).get "locale")
  | .undefined | .null => true
  | .value _ => false

/-- An update of the settings that passes the checks, and leaves no locale for the profile. -/
def breaks (rt : Runtime) (s : State) (a : Action) : Bool :=
  match a.op, s.stored with
  | .updateTenantSettings payload, some envelope =>
    !a.call.full && (readStarterDemoState (planSpecific envelope)).isSome &&
      ((validateTenantSettings rt payload).toOption.isSome &&
        losesLocale a.metadata payload (planSpecific envelope))
  | _, _ => false

/-! ## Keys -/

namespace ReadableLemmas

def forbiddenParts : List (List Char) :=
  [['p', 'a', 's', 's', 'w', 'o', 'r', 'd'],
    ['a', 'c', 'c', 'e', 's', 's', '_', 't', 'o', 'k', 'e', 'n'],
    ['r', 'e', 'f', 'r', 'e', 's', 'h', '_', 't', 'o', 'k', 'e', 'n'],
    ['s', 'e', 's', 's', 'i', 'o', 'n'], ['c', 'h', 'a', 't'],
    ['c', 'r', 'e', 'd', 'e', 'n', 't', 'i', 'a', 'l']]

def plainKey (key : String) : Bool :=
  key.toList.all (fun c => c.isLower || c.isDigit || c = '_') &&
    !(forbiddenParts.any fun part => decide (part <:+: key.toList))

variable {rt : Runtime} {owner : Owner} {metadata : Metadata} {call : Call} {plan : Plan}
  {state item value : Json} {field : Option Json} {key name : String} {list : List Json}
  {fields : List (String × Json)} {keys : List String}

theorem map_toList_parts : ["password", "access_token", "refresh_token", "session", "chat",
    "credential"].map String.toList = forbiddenParts := by decide +kernel

theorem isForbiddenKey_of_plain (h : plainKey key = true) : isForbiddenKey rt key = false := by
  unfold plainKey at h
  rw [Bool.and_eq_true, List.all_eq_true, Bool.not_eq_true', ← map_toList_parts, List.any_map] at h
  have hlower : rt.toLowerCase key = key := rt.toLowerCase_plain key fun c hc => by
    have hplain := h.1 c hc
    simpa [or_assoc] using hplain
  unfold isForbiddenKey
  rw [hlower]
  exact h.2

/-- `plainKey`, from the bytes of a key. -/
def plainBytes (key : String) : Bool :=
  let letters := decodeBytes key.toByteArray.data.toList
  letters.all (fun c => c.isLower || c.isDigit || c = '_') &&
    !(forbiddenParts.any fun part => decide (part <:+: letters))

theorem plainKey_eq : plainKey = plainBytes := by
  funext key
  rw [plainKey, toList_eq_decodeBytes]
  rfl

def recordKeys : List (List String) :=
  [["id", "phone"], ["id", "tenant_id", "name", "icon", "created_at", "updated_at"],
    ["id", "tenant_id", "service_id", "name", "price", "created_at", "updated_at"],
    ["id", "tenant_id", "owner_user_id", "full_name", "username", "phone", "is_active",
      "created_at", "updated_at"],
    ["id", "tenant_id", "client_id", "service_id", "plan_id", "streaming_email",
      "streaming_secret", "profile_name", "pin_secret", "duration_type", "starts_at", "expires_at",
      "cancelled_at", "status", "created_at", "updated_at"],
    ["id", "tenant_id", "warning_days", "reminder_time", "recipient_mode", "reminders_enabled",
      "custom_message_tenant", "custom_message_client", "created_at", "updated_at"],
    ["tenant_id", "locale", "timezone", "country", "currency", "created_at", "updated_at"]]

theorem recordKeys_plain : ∀ keys ∈ recordKeys, keys.all plainKey = true := by
  rw [plainKey_eq]
  decide +kernel

theorem allowed_of_plain (h : value.anyKey (fun key => !plainKey key) = false) :
    hasForbiddenKey rt value = false :=
  anyKey_mono (fun _ hkey => isForbiddenKey_of_plain ((Bool.not_eq_eq_eq_not).mp hkey)) value h

theorem valid_of_plain {envelope : Json} {tenantId : String}
    (hstate : envelope.get "plan_specific" = some state)
    (hplain : state.anyKey (fun key => !plainBytes key) = false)
    (h : (envelope.isRecord &&
      (envelope.get "schema_version").any (Json.same schemaVersion) &&
      envelope.textAt "tenant_id" = some tenantId &&
      (envelope.textAt "source_name").any (· ≠ "") &&
      isLifecyclePair rt (envelope.get "activated_at") (envelope.get "expires_at") &&
      isBaselineVersion (envelope.get "baseline_version") &&
      (planOf envelope).any (fun plan => state.isRecord &&
        ((state.get "profile").isNone || isProfiled state) &&
        (if proKeys.any fun key => (state.get key).isSome then plan = .pro && isRelational state
          else true)) &&
      (envelope.get "tour_state").any Json.isRecord &&
      (isTimestamp rt (envelope.get "saved_at")).isSome) = true) :
    isWorkspaceEnvelope rt envelope tenantId = true := by
  unfold isWorkspaceEnvelope isPlanSpecificState
  rw [hstate]
  simp only [Option.any_some, allowed_of_plain (plainKey_eq ▸ hplain), Bool.not_false, Bool.and_true]
  exact h

theorem isForbiddenKey_index (i : Nat) : isForbiddenKey rt (toString i) = false := by
  have hdigit : ∀ c ∈ (toString i).toList, c.isDigit = true := fun c hc => by
    rw [Nat.toString_eq_repr, Nat.repr_eq_ofList_toDigits, String.toList_ofList] at hc
    exact Nat.isDigit_of_mem_toDigits (by decide) (by decide) hc
  refine isForbiddenKey_of_plain ?_
  unfold plainKey
  rw [Bool.and_eq_true, List.all_eq_true, Bool.not_eq_true', List.any_eq_false]
  refine ⟨fun c hc => by rw [hdigit c hc]; simp, fun part hpart hoccurs => ?_⟩
  have hletter : ∀ part ∈ forbiddenParts, (part.any fun c => !c.isDigit) = true := by decide
  obtain ⟨c, hc, hnot⟩ := List.any_eq_true.mp (hletter part hpart)
  have hwithin := of_decide_eq_true hoccurs
  rw [hdigit c (hwithin.subset hc)] at hnot
  cases hnot

theorem allowed_obj (keys : List String) (hkeys : fields.map (·.1) = keys) (hplain : keys.all plainKey = true)
    (hvalues : ∀ entry ∈ fields, hasForbiddenKey rt entry.2 = false) :
    hasForbiddenKey rt (.obj fields) = false := by
  refine anyKeyFields_eq_false.mpr fun entry hentry => ⟨?_, hvalues entry hentry⟩
  refine isForbiddenKey_of_plain (List.all_eq_true.mp hplain _ ?_)
  rw [← hkeys]
  exact List.mem_map_of_mem hentry

theorem allowed_put (hvalue : hasForbiddenKey rt value = false) (hplain : plainKey key = true)
    (hfield : ∀ v ∈ field, hasForbiddenKey rt v = false) :
    hasForbiddenKey rt (value.put key field) = false :=
  anyKey_put isForbiddenKey_index hvalue (isForbiddenKey_of_plain hplain) hfield

theorem allowed_get (h : hasForbiddenKey rt value = false) :
    ∀ v ∈ value.get key, hasForbiddenKey rt v = false := anyKey_get isForbiddenKey_index h

theorem allowed_merge {fields : List (String × Option Json)} (hvalue : hasForbiddenKey rt value = false)
    (hfields : ∀ entry ∈ fields, plainKey entry.1 = true ∧
      ∀ v ∈ entry.2, hasForbiddenKey rt v = false) :
    hasForbiddenKey rt (value.merge fields) = false :=
  anyKey_merge isForbiddenKey_index (fun entry hentry =>
    ⟨isForbiddenKey_of_plain (hfields entry hentry).1, (hfields entry hentry).2⟩) hvalue

/-! ## Items -/

/-- What an item of a collection needs. -/
def requiredKeys (name : String) : List String :=
  ((([("code_services", ["id", "name"]), ("blocked_identities", ["id", "phone"]),
    ("clients", ["id", "tenant_id", "full_name"]), ("services", ["id", "tenant_id", "name"]),
    ("plans", ["id", "tenant_id", "service_id", "name"]),
    ("subscriptions", ["id", "tenant_id", "client_id", "service_id", "plan_id"])] :
      List (String × List String)).lookup name).getD [])

structure Item (rt : Runtime) (name : String) (item : Json) : Prop where
  record : item.isRecord = true
  texts : ∀ key ∈ requiredKeys name, (item.textAt key).isSome
  allowed : hasForbiddenKey rt item = false
  icon : name = "services" → isValidIcon (item.get "icon") = true

theorem Item.put (h : Item rt name item) (hplain : plainKey key = true)
    (htext : key ∈ requiredKeys name → (field.bind text).isSome)
    (hallowed : ∀ v ∈ field, hasForbiddenKey rt v = false)
    (hicon : name = "services" → key = "icon" → isValidIcon field = true) :
    Item rt name (item.put key field) where
  record := rfl
  texts required hrequired := by
    by_cases heq : required = key
    · rw [heq, textAt_put_self]
      exact htext (heq ▸ hrequired)
    · rw [textAt_put_of_ne heq]
      exact h.texts required hrequired
  allowed := allowed_put h.allowed hplain hallowed
  icon hname := by
    by_cases heq : key = "icon"
    · rw [heq, get_put_self]
      exact hicon hname heq
    · rw [get_put_of_ne (Ne.symm heq)]
      exact h.icon hname

theorem Item.putText (h : Item rt name item) (hplain : plainKey key = true) (hkey : key ≠ "icon")
    (text : String) : Item rt name (item.put key (some (.str text))) :=
  h.put hplain (fun _ => rfl) (by rintro _ ⟨⟩; rfl) fun _ heq => absurd heq hkey

theorem Item.putOther (h : Item rt name item) (hplain : plainKey key = true) (hkey : key ≠ "icon")
    (hrequired : key ∉ requiredKeys name) (hallowed : ∀ v ∈ field, hasForbiddenKey rt v = false) :
    Item rt name (item.put key field) :=
  h.put hplain (fun hmem => absurd hmem hrequired) hallowed fun _ heq => absurd heq hkey

theorem Item.touched (h : Item rt name item) : Item rt name (touched rt call item) :=
  h.putText (by decide) (by decide) _

theorem isRecordArray_iff {collection : Option Json} : isRecordArray collection keys = true ↔
    ∃ list, collection = some (.arr list) ∧
      ∀ item ∈ list, item.isRecord = true ∧ ∀ key ∈ keys, (item.textAt key).isSome := by
  unfold isRecordArray
  constructor
  · intro h
    split at h
    · next list =>
      refine ⟨list, rfl, fun item hitem => ?_⟩
      have hitem := List.all_eq_true.mp h item hitem
      rw [Bool.and_eq_true, List.all_eq_true] at hitem
      exact hitem
    · cases h
  · rintro ⟨list, rfl, hitems⟩
    refine List.all_eq_true.mpr fun item hitem => ?_
    rw [Bool.and_eq_true, List.all_eq_true]
    exact hitems item hitem

/-! ## States -/

def collections (relational : Bool) : List String :=
  ["code_services", "blocked_identities"] ++ if relational then proKeys else []

/-- A state with a profile that the checks of a plan accept. -/
structure Shape (rt : Runtime) (plan : Plan) (relational : Bool) (state : Json) : Prop where
  record : state.isRecord = true
  allowed : hasForbiddenKey rt state = false
  profile : ∃ profile, state.get "profile" = some profile ∧ profile.isRecord = true ∧
    (profile.textAt "business_name").isSome ∧ isLocale (profile.get "locale") = true
  integrations : ((state.get "integrations").any fun integrations => integrations.isRecord &&
    (isConnected (integrations.get "mailbox") && isConnected (integrations.get "whatsapp"))) = true
  items : ∀ name ∈ collections relational, ∃ list, state.get name = some (.arr list) ∧
    ∀ item ∈ list, Item rt name item
  rest : relational = false → ∀ name ∈ proKeys, state.get name = none
  pro : relational = true → plan = .pro

variable {relational : Bool}

theorem Shape.isRecordArray (h : Shape rt plan relational state) (name : String)
    (hname : name ∈ collections relational) :
    isRecordArray (state.get name) (requiredKeys name) = true := by
  obtain ⟨list, hlist, hitems⟩ := h.items name hname
  exact isRecordArray_iff.mpr ⟨list, hlist, fun item hitem =>
    ⟨(hitems item hitem).record, (hitems item hitem).texts⟩⟩

theorem isLocale_iff (profile : Json) : isLocale (profile.get "locale") = true ↔
    (profile.textAt "locale" = some "en" || profile.textAt "locale" = some "es") = true := Iff.rfl

theorem Shape.readStarter (h : Shape rt plan relational state) :
    readStarterDemoState state = some state := by
  obtain ⟨profile, hprofile, hrecord, hname, hlocale⟩ := h.profile
  obtain ⟨codes, hcodes, -⟩ := h.items "code_services" (by cases relational <;> decide)
  obtain ⟨blocks, hblocks, -⟩ := h.items "blocked_identities" (by cases relational <;> decide)
  have htruthy : profile.truthy = true := by
    cases profile with
    | obj fields => rfl
    | _ => cases hrecord
  have hintegrations : (state.get "integrations").any Json.truthy = true := by
    obtain ⟨integrations, hget, hchecks⟩ := (Option.any_eq_true _ _).mp h.integrations
    rw [hget, Option.any_some]
    cases integrations with
    | obj fields => rfl
    | _ => cases hchecks
  unfold readStarterDemoState
  rw [hprofile, hcodes, hblocks, hintegrations]
  simp only [Option.any_some, htruthy, hname, (isLocale_iff _).mp hlocale, Json.isArray, Bool.and_self,
    if_true]

theorem Shape.readPro (h : Shape rt plan true state) : readProDemoState state = some state := by
  unfold readProDemoState
  rw [h.readStarter, Option.bind_some, if_pos]
  refine List.all_eq_true.mpr fun name hname => ?_
  obtain ⟨list, hlist, -⟩ := h.items name (List.mem_append_right _ hname)
  rw [hlist]
  rfl

theorem Shape.accepted (h : Shape rt plan relational state) :
    isPlanSpecificState rt state plan = true := by
  obtain ⟨profile, hprofile, hrecord, hname, hlocale⟩ := h.profile
  have hprofiled : isProfiled state = true := by
    unfold isProfiled
    rw [hprofile, Option.any_some, hrecord, hname, (isLocale_iff _).mp hlocale, h.integrations]
    have hcodes := h.isRecordArray "code_services" (by cases relational <;> decide)
    have hblocks := h.isRecordArray "blocked_identities" (by cases relational <;> decide)
    exact Bool.and_eq_true_iff.mpr ⟨hcodes, hblocks⟩
  unfold isPlanSpecificState
  rw [h.record, h.allowed, hprofiled, Bool.or_true]
  cases relational with
  | false =>
    have hnone : (proKeys.any fun key => (state.get key).isSome) = false := by
      refine List.any_eq_false.mpr fun key hkey => ?_
      rw [h.rest rfl key hkey]
      exact Bool.false_ne_true
    rw [hnone]
    rfl
  | true =>
    have hplan := h.pro rfl
    have hrelational : isRelational state = true := by
      obtain ⟨services, hservices, hicons⟩ := h.items "services" (by decide)
      have hvalid : (state.itemsAt "services").all isServiceIconValid = true := by
        unfold itemsAt
        rw [hservices]
        refine List.all_eq_true.mpr fun service hservice => ?_
        exact Bool.and_eq_true_iff.mpr
          ⟨(hicons service hservice).record, (hicons service hservice).icon rfl⟩
      unfold isRelational
      rw [hvalid]
      have hclients := h.isRecordArray "clients" (by decide)
      have hservices := h.isRecordArray "services" (by decide)
      have hplans := h.isRecordArray "plans" (by decide)
      have hsubscriptions := h.isRecordArray "subscriptions" (by decide)
      exact Bool.and_eq_true_iff.mpr ⟨Bool.and_eq_true_iff.mpr ⟨Bool.and_eq_true_iff.mpr
        ⟨Bool.and_eq_true_iff.mpr ⟨hclients, hservices⟩, rfl⟩, hplans⟩, hsubscriptions⟩
    rw [hrelational, hplan]
    simp

theorem shape_of_profiled (h : isPlanSpecificState rt state plan = true)
    (hprofile : (state.get "profile").isSome) :
    Shape rt plan (state.get "clients").isSome state := by
  unfold isPlanSpecificState at h
  simp only [Bool.and_eq_true, Bool.not_eq_true', Bool.or_eq_true] at h
  obtain ⟨⟨⟨hrecord, hallowed⟩, hprofiled⟩, hrelational⟩ := h
  have hprofiled : isProfiled state = true := hprofiled.resolve_left fun hnone => by
    rw [Option.isNone_iff_eq_none.mp hnone] at hprofile
    cases hprofile
  unfold isProfiled at hprofiled
  simp only [Bool.and_eq_true] at hprofiled
  obtain ⟨⟨⟨hprofile, hintegrations⟩, hcodes⟩, hblocks⟩ := hprofiled
  obtain ⟨profile, hget, hchecks⟩ := (Option.any_eq_true _ _).mp hprofile
  rw [Bool.and_eq_true, Bool.and_eq_true] at hchecks
  -- An array of records with their keys, inside a state without a forbidden key.
  have hitems : ∀ name, isRecordArray (state.get name) (requiredKeys name) = true →
      (name = "services" → (state.itemsAt "services").all isServiceIconValid = true) →
      ∃ list, state.get name = some (.arr list) ∧ ∀ item ∈ list, Item rt name item := by
    intro name harray hicons
    obtain ⟨list, hlist, hrecords⟩ := isRecordArray_iff.mp harray
    refine ⟨list, hlist, fun item hitem => ⟨(hrecords item hitem).1, (hrecords item hitem).2, ?_,
      fun hname => ?_⟩⟩
    · exact anyKeyItems_eq_false.mp (allowed_get hallowed _ hlist) item hitem
    · have hall := hicons hname
      unfold itemsAt at hall
      rw [← hname, hlist] at hall
      exact (Bool.and_eq_true_iff.mp (List.all_eq_true.mp hall item hitem)).2
  refine ⟨hrecord, hallowed, ⟨profile, hget, hchecks.1, hchecks.2.1, (isLocale_iff _).mpr hchecks.2.2⟩,
    hintegrations, ?_, ?_, ?_⟩
  · intro name hname
    rcases List.mem_append.mp hname with hname | hname
    · rcases List.mem_cons.mp hname with rfl | hname
      · exact hitems _ hcodes fun heq => absurd heq (by decide)
      · rw [List.mem_singleton.mp hname]
        exact hitems _ hblocks fun heq => absurd heq (by decide)
    · cases hclients : (state.get "clients").isSome with
      | false =>
        rw [hclients] at hname
        cases hname
      | true =>
        rw [hclients, if_pos rfl] at hname
        rw [if_pos (List.any_eq_true.mpr ⟨"clients", by decide, hclients⟩), Bool.and_eq_true]
          at hrelational
        have hcollections := hrelational.2
        unfold isRelational at hcollections
        simp only [Bool.and_eq_true] at hcollections
        obtain ⟨⟨⟨⟨hclients, hservices⟩, hicons⟩, hplans⟩, hsubscriptions⟩ := hcollections
        simp only [proKeys, List.mem_cons, List.not_mem_nil, or_false] at hname
        rcases hname with rfl | rfl | rfl | rfl
        · exact hitems _ hclients fun heq => absurd heq (by decide)
        · exact hitems _ hservices fun _ => hicons
        · exact hitems _ hplans fun heq => absurd heq (by decide)
        · exact hitems _ hsubscriptions fun heq => absurd heq (by decide)
  · intro hclients name hname
    by_contra hsome
    have hany : (proKeys.any fun key => (state.get key).isSome) = true :=
      List.any_eq_true.mpr ⟨name, hname, Option.isSome_iff_ne_none.mpr hsome⟩
    rw [if_pos hany, Bool.and_eq_true] at hrelational
    have hcollections := hrelational.2
    unfold isRelational at hcollections
    simp only [Bool.and_eq_true] at hcollections
    obtain ⟨list, hlist, -⟩ := isRecordArray_iff.mp hcollections.1.1.1.1
    rw [hlist] at hclients
    cases hclients
  · intro hclients
    rw [if_pos (List.any_eq_true.mpr ⟨"clients", by decide, hclients⟩), Bool.and_eq_true]
      at hrelational
    exact of_decide_eq_true hrelational.1

theorem shape_of_starter (h : isPlanSpecificState rt state plan = true)
    (hread : (readStarterDemoState state).isSome) :
    Shape rt plan (state.get "clients").isSome state := by
  refine shape_of_profiled h ?_
  unfold readStarterDemoState at hread
  cases hprofile : state.get "profile" with
  | none =>
    rw [hprofile] at hread
    cases hread
  | some profile => rfl

theorem readStarter_of_pro (hread : (readProDemoState state).isSome) :
    (readStarterDemoState state).isSome := by
  unfold readProDemoState at hread
  cases hstarter : readStarterDemoState state with
  | none =>
    rw [hstarter] at hread
    cases hread
  | some next => rfl

theorem readStarter_eq {next : Json} (h : readStarterDemoState state = some next) :
    next = state := by
  unfold readStarterDemoState at h
  split at h
  · exact (Option.some.inj h).symm
  · cases h

theorem readPro_eq {next : Json} (h : readProDemoState state = some next) : next = state := by
  unfold readProDemoState at h
  obtain ⟨starter, hstarter, hread⟩ := Option.bind_eq_some_iff.mp h
  split at hread
  · rw [← Option.some.inj hread]
    exact readStarter_eq hstarter
  · cases hread

/-! ## What an update keeps -/

theorem collections_plain (hname : name ∈ collections relational) :
    plainKey name = true ∧ name ≠ "profile" ∧ name ≠ "integrations" ∧
      (relational = false → name ∉ proKeys) := by
  have hall : ∀ relational, ∀ name ∈ collections relational, plainKey name = true ∧
      name ≠ "profile" ∧ name ≠ "integrations" ∧ (relational = false → name ∉ proKeys) := by
    rw [plainKey_eq]
    decide +kernel
  exact hall relational name hname

theorem Shape.put (h : Shape rt plan relational state) (hplain : plainKey key = true)
    (hallowed : ∀ v ∈ field, hasForbiddenKey rt v = false)
    (hprofile : key = "profile" → ∃ profile, field = some profile ∧ profile.isRecord = true ∧
      (profile.textAt "business_name").isSome ∧ isLocale (profile.get "locale") = true)
    (hintegrations : key ≠ "integrations")
    (hitems : key ∈ collections relational → ∃ list, field = some (.arr list) ∧
      ∀ item ∈ list, Item rt key item)
    (hrest : relational = false → key ∉ proKeys) :
    Shape rt plan relational (state.put key field) where
  record := rfl
  allowed := allowed_put h.allowed hplain hallowed
  profile := by
    by_cases heq : key = "profile"
    · rw [heq, get_put_self]
      exact hprofile heq
    · rw [get_put_of_ne (Ne.symm heq)]
      exact h.profile
  integrations := by
    rw [get_put_of_ne (Ne.symm hintegrations)]
    exact h.integrations
  items name hname := by
    by_cases heq : name = key
    · rw [heq, get_put_self]
      exact hitems (heq ▸ hname)
    · rw [get_put_of_ne heq]
      exact h.items name hname
  rest hrelational name hname := by
    have hne : name ≠ key := fun heq => hrest hrelational (heq ▸ hname)
    rw [get_put_of_ne hne]
    exact h.rest hrelational name hname
  pro := h.pro

theorem Shape.putItems (h : Shape rt plan relational state) (hname : name ∈ collections relational)
    (hitems : ∀ item ∈ list, Item rt name item) :
    Shape rt plan relational (putItems state name list) := by
  obtain ⟨hplain, hprofile, hintegrations, hrest⟩ := collections_plain hname
  refine h.put hplain ?_ (fun heq => absurd heq hprofile) hintegrations
    (fun _ => ⟨list, rfl, hitems⟩) hrest
  rintro _ ⟨⟩
  exact anyKeyItems_eq_false.mpr fun item hitem => (hitems item hitem).allowed

theorem Shape.putOther (h : Shape rt plan relational state) (hplain : plainKey key = true)
    (hother : key ∉ ["profile", "integrations"] ++ collections true)
    (hallowed : ∀ v ∈ field, hasForbiddenKey rt v = false) :
    Shape rt plan relational (state.put key field) := by
  have hcollection : key ∉ collections relational := fun hmem => hother (by
    cases relational
    · exact List.mem_append_right _ (List.mem_append_left _ (by simpa [collections] using hmem))
    · exact List.mem_append_right _ hmem)
  refine h.put hplain hallowed (fun heq => absurd (by rw [heq]; decide) hother) (fun heq =>
    hother (by rw [heq]; decide)) (fun hmem => absurd hmem hcollection) fun _ hmem => hother ?_
  exact List.mem_append_right _ (List.mem_append_right _ hmem)

theorem Shape.itemsAt (h : Shape rt plan relational state) (name : String)
    (hname : name ∈ collections relational) :
    ∀ item ∈ state.itemsAt name, Item rt name item := by
  obtain ⟨list, hlist, hitems⟩ := h.items name hname
  unfold Json.itemsAt
  rw [hlist]
  exact hitems

theorem Shape.appendItem (h : Shape rt plan relational state)
    (hname : name ∈ collections relational) (hitem : Item rt name item) :
    Shape rt plan relational (appendItem name item state) := by
  refine h.putItems hname fun other hother => ?_
  rcases List.mem_append.mp hother with hother | hother
  · exact h.itemsAt name hname other hother
  · rw [List.mem_singleton.mp hother]
    exact hitem

theorem Shape.setItem (h : Shape rt plan relational state) (hname : name ∈ collections relational)
    (hitem : Item rt name item) (id : String) :
    Shape rt plan relational (setItem name id item state) := by
  refine h.putItems hname fun other hother => ?_
  obtain ⟨before, hbefore, rfl⟩ := List.mem_map.mp hother
  split
  · exact hitem
  · exact h.itemsAt name hname before hbefore

theorem Shape.filterItems {before : Json} (h : Shape rt plan relational state)
    (hbefore : Shape rt plan relational before) (hname : name ∈ collections relational)
    (p : Json → Bool) :
    Shape rt plan relational (Workspace.putItems state name ((before.itemsAt name).filter p)) :=
  h.putItems hname fun item hitem => hbefore.itemsAt name hname item (List.mem_filter.mp hitem).1

/-! ## The operations -/

/-- A value without properties. -/
def isScalar : Json → Bool
  | .arr _ | .obj _ => false
  | _ => true

@[simp] theorem isScalar_null : isScalar .null = true := rfl

@[simp] theorem isScalar_bool (b : Bool) : isScalar (.bool b) = true := rfl

@[simp] theorem isScalar_str (text : String) : isScalar (.str text) = true := rfl

theorem allowed_of_scalar (h : isScalar value = true) : hasForbiddenKey rt value = false := by
  cases value with
  | arr items => cases h
  | obj fields => cases h
  | _ => rfl

theorem item_obj (keys : List String) (hkeys : fields.map (·.1) = keys) (hplain : keys.all plainKey = true)
    (hvalues : ∀ entry ∈ fields, isScalar entry.2 = true)
    (htexts : ((requiredKeys name).all fun key => ((Json.obj fields).textAt key).isSome) = true)
    (hicon : name = "services" → isValidIcon ((Json.obj fields).get "icon") = true) :
    Item rt name (.obj fields) where
  record := rfl
  texts := List.all_eq_true.mp htexts
  allowed := allowed_obj keys hkeys hplain fun entry hentry => allowed_of_scalar (hvalues entry hentry)
  icon := hicon

theorem validateIcon_ok {icon : Field String} (h : validateIcon icon = .ok value) :
    isScalar value = true ∧ isValidIcon (some value) = true := by
  unfold validateIcon at h
  split at h
  · split at h
    · rw [← Except.ok.inj h]
      exact ⟨rfl, rfl⟩
    · split at h
      · next hicon =>
        rw [← Except.ok.inj h]
        exact ⟨rfl, hicon⟩
      · cases h
  · rw [← Except.ok.inj h]
    exact ⟨rfl, rfl⟩

theorem validatePrice_ok {price : Field String} (h : validatePrice rt price = .ok value) :
    isScalar value = true := by
  unfold validatePrice at h
  split at h
  · split at h
    · rw [← Except.ok.inj h]
      rfl
    · split at h
      · cases h
      · rw [← Except.ok.inj h]
        rfl
  · rw [← Except.ok.inj h]
    rfl

theorem normalizePhone_ok {phone : Field String} (h : normalizePhone phone = .ok value) :
    isScalar value = true := by
  unfold normalizePhone at h
  split at h
  · rw [← Except.ok.inj h]
    rfl
  · cases h
  · split at h
    · rw [← Except.ok.inj h]
      rfl
    · dsimp only at h
      split at h
      · cases h
      · split at h
        · cases h
        · rw [← Except.ok.inj h]
          rfl

theorem isScalar_textOrNull (field : Field String) : isScalar (textOrNull field) = true := by
  unfold textOrNull
  split
  · split <;> rfl
  · rfl

theorem isScalar_trimmedOrNull (field : Field String) : isScalar (trimmedOrNull field) = true := by
  unfold trimmedOrNull
  split
  · split <;> rfl
  · rfl

section Items

variable {payload : String × Json} {existing : Json} {id : String}

theorem item_newService (hicon : isScalar payload.2 = true ∧ isValidIcon (some payload.2) = true)
    (h : newService rt metadata call payload state = .ok item) : Item rt "services" item := by
  unfold newService at h
  obtain ⟨-, -, h⟩ := bind_eq_ok.mp h
  rw [← Except.ok.inj h]
  refine item_obj _ rfl (recordKeys_plain _ (.tail _ (.head _))) ?_
    rfl fun _ => hicon.2
  simp [hicon.1]

theorem item_changedService {payload : ServiceUpdate} (h : Shape rt plan true state)
    (hmake : changedService rt call id payload state = .ok item) : Item rt "services" item := by
  unfold changedService at hmake
  obtain ⟨existing, hfind, hmake⟩ := bind_eq_ok.mp hmake
  obtain ⟨name, -, hmake⟩ := bind_eq_ok.mp hmake
  obtain ⟨-, -, hmake⟩ := bind_eq_ok.mp hmake
  obtain ⟨icon, hicon, hmake⟩ := bind_eq_ok.mp hmake
  rw [← Except.ok.inj hmake]
  have hexisting := h.itemsAt "services" (by decide) existing (findItem_eq_ok hfind).1
  have hvalid : (∀ v ∈ icon, hasForbiddenKey rt v = false) ∧ isValidIcon icon = true := by
    unfold changedIcon at hicon
    split at hicon
    · rw [← Except.ok.inj hicon]
      exact ⟨allowed_get hexisting.allowed, hexisting.icon rfl⟩
    · cases hvalue : validateIcon payload.icon with
      | error e =>
        rw [hvalue] at hicon
        cases hicon
      | ok value =>
        rw [hvalue] at hicon
        obtain ⟨hscalar, hvalid⟩ := validateIcon_ok hvalue
        rw [← Except.ok.inj hicon]
        refine ⟨?_, hvalid⟩
        rintro _ ⟨⟩
        exact allowed_of_scalar hscalar
  exact ((hexisting.putText (by decide) (by decide) name).put (by decide)
    (fun hmem => absurd hmem (by decide)) hvalid.1 fun _ _ => hvalid.2).touched

theorem item_newPlan (hprice : isScalar payload.2 = true)
    (h : newPlan rt metadata call id payload state = .ok item) : Item rt "plans" item := by
  unfold newPlan at h
  obtain ⟨-, -, h⟩ := bind_eq_ok.mp h
  obtain ⟨-, -, h⟩ := bind_eq_ok.mp h
  rw [← Except.ok.inj h]
  refine item_obj _ rfl (recordKeys_plain _ (.tail _ (.tail _ (.head _)))) ?_ rfl
    fun heq => absurd heq (by decide)
  simp [hprice]

theorem item_changedPlan {planId : String} {payload : PlanUpdate} (h : Shape rt plan true state)
    (hmake : changedPlan rt call id planId payload state = .ok item) : Item rt "plans" item := by
  unfold changedPlan at hmake
  obtain ⟨existing, hfind, hmake⟩ := bind_eq_ok.mp hmake
  obtain ⟨name, -, hmake⟩ := bind_eq_ok.mp hmake
  obtain ⟨-, -, hmake⟩ := bind_eq_ok.mp hmake
  obtain ⟨price, hprice, hmake⟩ := bind_eq_ok.mp hmake
  rw [← Except.ok.inj hmake]
  have hexisting := h.itemsAt "plans" (by decide) existing (findItem_eq_ok hfind).1
  have hallowed : ∀ v ∈ price, hasForbiddenKey rt v = false := by
    unfold changedPrice at hprice
    split at hprice
    · rw [← Except.ok.inj hprice]
      exact allowed_get hexisting.allowed
    · cases hvalue : validatePrice rt payload.price with
      | error e =>
        rw [hvalue] at hprice
        cases hprice
      | ok value =>
        rw [hvalue] at hprice
        rw [← Except.ok.inj hprice]
        rintro _ ⟨⟩
        exact allowed_of_scalar (validatePrice_ok hvalue)
  exact ((hexisting.putText (by decide) (by decide) name).putOther (by decide) (by decide)
    (by decide) hallowed).touched

theorem item_newClient {payload : String × String × Json} (hphone : isScalar payload.2.2 = true)
    (h : newClient rt metadata call payload state = .ok item) : Item rt "clients" item := by
  unfold newClient at h
  obtain ⟨-, -, h⟩ := bind_eq_ok.mp h
  rw [← Except.ok.inj h]
  refine item_obj _ rfl (recordKeys_plain _ (.tail _ (.tail _ (.tail _ (.head _))))) ?_ rfl
    fun heq => absurd heq (by decide)
  simp [hphone]

theorem item_changedClient {payload : ClientUpdate} (h : Shape rt plan true state)
    (hmake : changedClient rt call id payload state = .ok item) : Item rt "clients" item := by
  unfold changedClient at hmake
  obtain ⟨existing, hfind, hmake⟩ := bind_eq_ok.mp hmake
  obtain ⟨fullName, hname, hmake⟩ := bind_eq_ok.mp hmake
  obtain ⟨username, -, hmake⟩ := bind_eq_ok.mp hmake
  obtain ⟨phone, hphone, hmake⟩ := bind_eq_ok.mp hmake
  obtain ⟨-, -, hmake⟩ := bind_eq_ok.mp hmake
  rw [← Except.ok.inj hmake]
  have hexisting := h.itemsAt "clients" (by decide) existing (findItem_eq_ok hfind).1
  have hfullName : (fullName.bind text).isSome ∧ ∀ v ∈ fullName, hasForbiddenKey rt v = false := by
    unfold changedFullName at hname
    split at hname
    · rw [← Except.ok.inj hname]
      exact ⟨hexisting.texts _ (by decide), allowed_get hexisting.allowed⟩
    · cases hname
    · next given _ =>
      cases hvalue : validateFullName rt given with
      | error e =>
        rw [hvalue] at hname
        cases hname
      | ok value =>
        rw [hvalue] at hname
        rw [← Except.ok.inj hname]
        refine ⟨rfl, ?_⟩
        rintro _ ⟨⟩
        rfl
  have hallowed : ∀ v ∈ phone, hasForbiddenKey rt v = false := by
    unfold changedPhone at hphone
    split at hphone
    · rw [← Except.ok.inj hphone]
      exact allowed_get hexisting.allowed
    · cases hvalue : normalizePhone payload.phone with
      | error e =>
        rw [hvalue] at hphone
        cases hphone
      | ok value =>
        rw [hvalue] at hphone
        rw [← Except.ok.inj hphone]
        rintro _ ⟨⟩
        exact allowed_of_scalar (normalizePhone_ok hvalue)
  have hnamed : Item rt "clients" (existing.put "full_name" fullName) :=
    hexisting.put (by decide) (fun _ => hfullName.1) hfullName.2 fun heq => absurd heq (by decide)
  exact ((hnamed.putText (by decide) (by decide) _).putOther (by decide) (by decide) (by decide)
    hallowed).touched

theorem item_switchedClient {isActive : Bool} (h : Shape rt plan true state)
    (hmake : switchedClient rt call id isActive state = .ok item) : Item rt "clients" item := by
  unfold switchedClient at hmake
  obtain ⟨existing, hfind, hmake⟩ := bind_eq_ok.mp hmake
  rw [← Except.ok.inj hmake]
  have hexisting := h.itemsAt "clients" (by decide) existing (findItem_eq_ok hfind).1
  refine (hexisting.putOther (by decide) (by decide) (by decide) ?_).touched
  rintro _ ⟨⟩
  rfl

theorem item_newSubscription {payload : SubscriptionCreate}
    (h : newSubscription rt metadata call payload state = .ok item) :
    Item rt "subscriptions" item := by
  unfold newSubscription at h
  repeat obtain ⟨_, -, h⟩ := bind_eq_ok.mp h
  rw [← Except.ok.inj h]
  refine item_obj _ rfl
    (recordKeys_plain _ (.tail _ (.tail _ (.tail _ (.tail _ (.head _)))))) ?_ rfl
    fun heq => absurd heq (by decide)
  simp [isScalar_textOrNull, isScalar_trimmedOrNull]

theorem allowed_orExisting (key : String) (field : Field String)
    (h : hasForbiddenKey rt existing = false) :
    ∀ v ∈ field.orExisting (existing.get key), hasForbiddenKey rt v = false := by
  unfold Field.orExisting
  split
  · rintro _ ⟨⟩
    rfl
  · exact allowed_get h

theorem text_orExisting {field : Field String} (h : (existing.textAt key).isSome) :
    ((field.orExisting (existing.get key)).bind text).isSome := by
  unfold Field.orExisting
  split
  · rfl
  · exact h

theorem allowed_changedSecret (key : String) (field : Field String)
    (h : hasForbiddenKey rt existing = false) :
    ∀ v ∈ changedSecret existing key field, hasForbiddenKey rt v = false := by
  unfold changedSecret
  split
  · exact allowed_get h
  · rintro _ ⟨⟩
    exact allowed_of_scalar (isScalar_textOrNull _)

theorem allowed_of_map {x : Except String String} {v : Option Json}
    (h : x.map (fun text => some (Json.str text)) = .ok v) :
    ∀ value ∈ v, hasForbiddenKey rt value = false := by
  cases x with
  | error e => cases h
  | ok text =>
    rw [← Except.ok.inj h]
    rintro _ ⟨⟩
    rfl

theorem allowed_changedDate {payload : Field String} {other : Except String (Option Json)}
    {v : Option Json} (hother : ∀ v, other = .ok v → ∀ value ∈ v, hasForbiddenKey rt value = false)
    (h : changedDate rt payload other = .ok v) : ∀ value ∈ v, hasForbiddenKey rt value = false := by
  unfold changedDate at h
  split at h
  · exact allowed_of_map h
  · exact hother v h

theorem item_changedSubscription {payload : SubscriptionUpdate} (h : Shape rt plan true state)
    (hmake : changedSubscription rt call id payload state = .ok item) :
    Item rt "subscriptions" item := by
  unfold changedSubscription at hmake
  obtain ⟨existing, hfind, hmake⟩ := bind_eq_ok.mp hmake
  obtain ⟨-, -, hmake⟩ := bind_eq_ok.mp hmake
  obtain ⟨-, -, hmake⟩ := bind_eq_ok.mp hmake
  obtain ⟨startsAt, hstarts, hmake⟩ := bind_eq_ok.mp hmake
  obtain ⟨expiresAt, hexpires, hmake⟩ := bind_eq_ok.mp hmake
  obtain ⟨-, -, hmake⟩ := bind_eq_ok.mp hmake
  obtain ⟨profileName, hprofile, hmake⟩ := bind_eq_ok.mp hmake
  obtain ⟨-, -, hmake⟩ := bind_eq_ok.mp hmake
  obtain ⟨email, hemail, hmake⟩ := bind_eq_ok.mp hmake
  obtain ⟨-, -, hmake⟩ := bind_eq_ok.mp hmake
  rw [← Except.ok.inj hmake]
  have hexisting := h.itemsAt "subscriptions" (by decide) existing (findItem_eq_ok hfind).1
  have hallowed := hexisting.allowed
  have hget : ∀ key : String, ∀ v, (Except.ok (existing.get key) : Except String (Option Json)) =
      .ok v → ∀ value ∈ v, hasForbiddenKey rt value = false := fun key v heq => by
    rw [← Except.ok.inj heq]
    exact allowed_get hallowed
  have hstartsAt := allowed_changedDate (hget "starts_at") hstarts
  have hexpiresAt : ∀ value ∈ expiresAt, hasForbiddenKey rt value = false := by
    refine allowed_changedDate (fun v hv => ?_) hexpires
    split at hv
    · exact allowed_of_map hv
    · exact hget "expires_at" v hv
  have hprofileName : ∀ value ∈ profileName, hasForbiddenKey rt value = false := by
    unfold changedProfileName at hprofile
    split at hprofile
    · exact hget "profile_name" _ hprofile
    · cases hprofile
    · rw [← Except.ok.inj hprofile]
      rintro _ ⟨⟩
      exact allowed_of_scalar (isScalar_trimmedOrNull _)
  have hemailed : ∀ value ∈ email, hasForbiddenKey rt value = false := by
    unfold changedEmail at hemail
    split at hemail
    · exact hget "streaming_email" _ hemail
    · cases hemail
    · exact allowed_of_map hemail
  -- The three relations keep a text, and no check is about the other fields.
  have hrelation : ∀ {item : Json} (key : String) (field : Field String),
      Item rt "subscriptions" item → key ∈ ["client_id", "service_id", "plan_id"] →
        Item rt "subscriptions" (item.put key (field.orExisting (existing.get key))) :=
    fun key field hitem hkey => hitem.put
      (by revert key; decide) (fun hmem => text_orExisting (hexisting.texts key hmem))
      (allowed_orExisting key field hallowed) fun heq => absurd heq (by decide)
  have hrelated := hrelation "plan_id" payload.planId (hrelation "service_id" payload.serviceId
    (hrelation "client_id" payload.clientId hexisting (by decide)) (by decide)) (by decide)
  have hfree : ∀ key ∈ ["streaming_email", "streaming_secret", "profile_name", "pin_secret",
      "duration_type", "starts_at", "expires_at"], plainKey key = true ∧ key ≠ "icon" ∧
        key ∉ requiredKeys "subscriptions" := by
    rw [plainKey_eq]
    decide +kernel
  have hother : ∀ {item : Json} (key : String) (field : Option Json),
      Item rt "subscriptions" item → (∀ v ∈ field, hasForbiddenKey rt v = false) →
        key ∈ ["streaming_email", "streaming_secret", "profile_name", "pin_secret", "duration_type",
          "starts_at", "expires_at"] → Item rt "subscriptions" (item.put key field) :=
    fun key field hitem hfield hkey =>
      hitem.putOther (hfree key hkey).1 (hfree key hkey).2.1 (hfree key hkey).2.2 hfield
  have hsecrets := hother "streaming_secret" _ (hother "streaming_email" _ hrelated hemailed
    (by decide)) (allowed_changedSecret "streaming_secret" payload.streamingPassword hallowed) (by decide)
  have hprofiles := hother "pin_secret" _ (hother "profile_name" _ hsecrets hprofileName (by decide))
    (allowed_changedSecret "pin_secret" payload.profilePin hallowed) (by decide)
  have hdurations := hother "duration_type" _ hprofiles
    (allowed_orExisting "duration_type" payload.durationType hallowed) (by decide)
  exact (hother "expires_at" _ (hother "starts_at" _ hdurations hstartsAt (by decide)) hexpiresAt
    (by decide)).touched

theorem item_cancelled (h : Shape rt plan true state)
    (hmake : cancelled rt call id state = .ok item) : Item rt "subscriptions" item := by
  unfold cancelled at hmake
  obtain ⟨existing, hfind, hmake⟩ := bind_eq_ok.mp hmake
  rw [← Except.ok.inj hmake]
  have hexisting := h.itemsAt "subscriptions" (by decide) existing (findItem_eq_ok hfind).1
  exact ((hexisting.putText (by decide) (by decide) _).putText (by decide) (by decide) _).touched

theorem item_activated {durationType : Option Json} {expiresAt : String}
    (h : Item rt "subscriptions" existing)
    (hduration : ∀ v ∈ durationType, hasForbiddenKey rt v = false) :
    Item rt "subscriptions" (activated rt call existing durationType expiresAt) := by
  have hdated : Item rt "subscriptions" ((existing.put "duration_type" durationType).put
      "expires_at" (some (.str expiresAt))) :=
    (h.putOther (by decide) (by decide) (by decide) hduration).putText (by decide) (by decide) _
  refine (Item.putText (hdated.putOther (by decide) (by decide) (by decide) ?_) (by decide)
    (by decide) _).touched
  rintro _ ⟨⟩
  rfl

theorem item_renewed {durationType : String} {expiresAt : Field String} (h : Shape rt plan true state)
    (hmake : renewed rt call id durationType expiresAt state = .ok item) :
    Item rt "subscriptions" item := by
  unfold renewed at hmake
  obtain ⟨existing, hfind, hmake⟩ := bind_eq_ok.mp hmake
  repeat obtain ⟨_, -, hmake⟩ := bind_eq_ok.mp hmake
  rw [← Except.ok.inj hmake]
  have hexisting := h.itemsAt "subscriptions" (by decide) existing (findItem_eq_ok hfind).1
  exact item_activated hexisting (by rintro _ ⟨⟩; rfl)

theorem item_reactivated {durationType startsAt expiresAt : Field String}
    (h : Shape rt plan true state)
    (hmake : reactivated rt call id durationType startsAt expiresAt state = .ok item) :
    Item rt "subscriptions" item := by
  unfold reactivated at hmake
  obtain ⟨existing, hfind, hmake⟩ := bind_eq_ok.mp hmake
  repeat obtain ⟨_, -, hmake⟩ := bind_eq_ok.mp hmake
  rw [← Except.ok.inj hmake]
  have hexisting := h.itemsAt "subscriptions" (by decide) existing (findItem_eq_ok hfind).1
  refine item_activated (hexisting.putText (by decide) (by decide) _) ?_
  cases durationType <;> rintro _ ⟨⟩ <;> rfl

end Items

/-! ## Settings -/

theorem entry_plain {α : Type} {payload : Field α} {json : α → Json} (hplain : plainKey key = true)
    (hjson : ∀ a, hasForbiddenKey rt (json a) = false) :
    ∀ entry ∈ payload.entry key json, plainKey entry.1 = true ∧
      ∀ v ∈ entry.2, hasForbiddenKey rt v = false := by
  intro entry hentry
  cases payload with
  | absent => cases hentry
  | undefined =>
    rw [List.mem_singleton.mp hentry]
    exact ⟨hplain, fun v hv => nomatch hv⟩
  | null =>
    rw [List.mem_singleton.mp hentry]
    exact ⟨hplain, by rintro _ ⟨⟩; rfl⟩
  | value a =>
    rw [List.mem_singleton.mp hentry]
    exact ⟨hplain, by rintro _ ⟨⟩; exact hjson a⟩

theorem allowed_changedSettings {current : Json} {entries : List (String × Option Json)}
    (hcurrent : hasForbiddenKey rt current = false)
    (hentries : ∀ entry ∈ entries, plainKey entry.1 = true ∧
      ∀ v ∈ entry.2, hasForbiddenKey rt v = false) :
    hasForbiddenKey rt (changedSettings metadata current entries) = false :=
  allowed_put (allowed_merge hcurrent hentries) (by decide) (by rintro _ ⟨⟩; rfl)

theorem allowed_getD_present {default : Json} (h : hasForbiddenKey rt state = false)
    (hdefault : hasForbiddenKey rt default = false) :
    hasForbiddenKey rt ((present (state.get key)).getD default) = false := by
  cases hget : state.get key with
  | none => exact hdefault
  | some v =>
    have hv := allowed_get h v hget
    cases v with
    | null => exact hdefault
    | _ => exact hv

theorem shape_updateReminderSettings {payload : ReminderSettingsUpdate}
    (h : Shape rt plan relational state)
    (hmake : newReminderSettings metadata payload state = .ok item) :
    Shape rt plan relational (withReminderSettings item state) := by
  rw [← Except.ok.inj hmake]
  refine h.putOther (by decide) (by decide) ?_
  rintro _ ⟨⟩
  refine allowed_changedSettings (allowed_getD_present h.allowed ?_) fun entry hentry => ?_
  · refine allowed_obj _ rfl
      (recordKeys_plain _ (.tail _ (.tail _ (.tail _ (.tail _ (.tail _ (.head _))))))) ?_
    simp [hasForbiddenKey, anyKey, anyKeyItems]
  · unfold ReminderSettingsUpdate.entries at hentry
    simp only [List.mem_append, or_assoc] at hentry
    have hstr : ∀ text : String, hasForbiddenKey rt (.str text) = false := fun _ => rfl
    rcases hentry with h | h | h | h | h | h
    · refine entry_plain (by decide) (fun days => ?_) entry h
      refine anyKeyItems_eq_false.mpr fun item hitem => ?_
      obtain ⟨day, -, rfl⟩ := List.mem_map.mp hitem
      rfl
    · exact entry_plain (by decide) hstr entry h
    · exact entry_plain (by decide) hstr entry h
    · exact entry_plain (by decide) (fun _ => rfl) entry h
    · exact entry_plain (by decide) hstr entry h
    · exact entry_plain (by decide) hstr entry h

theorem shape_putProfile {profile : Json} (h : Shape rt plan relational state)
    (hallowed : hasForbiddenKey rt profile = false) (hrecord : profile.isRecord = true)
    (hname : (profile.textAt "business_name").isSome)
    (hlocale : isLocale (profile.get "locale") = true) :
    Shape rt plan relational (state.put "profile" (some profile)) := by
  refine h.put (by decide) ?_ (fun _ => ⟨profile, rfl, hrecord, hname, hlocale⟩) (by decide)
    (fun hmem => absurd hmem (by cases relational <;> decide)) fun _ => by decide
  rintro _ ⟨⟩
  exact hallowed

theorem allowed_orElse {first other : Option Json} (hfirst : ∀ v ∈ first, hasForbiddenKey rt v = false)
    (hother : ∀ v ∈ other, hasForbiddenKey rt v = false) :
    ∀ v ∈ orElse first other, hasForbiddenKey rt v = false := by
  unfold orElse
  split
  · exact hfirst
  · exact hother

theorem text_orElse {first other : Option Json} (hfirst : ∀ v ∈ first, v.text.isSome)
    (hother : (other.bind text).isSome) : ((orElse first other).bind text).isSome := by
  unfold orElse
  split
  · next htruthy =>
    obtain ⟨v, hv, -⟩ := (Option.any_eq_true _ _).mp htruthy
    rw [hv]
    exact hfirst v hv
  · exact hother

theorem mem_trimmed {field : Field String} (h : value ∈ field.trimmed) : ∃ t, value = .str t := by
  cases field with
  | value t => exact ⟨trim t, (Option.some.inj h).symm⟩
  | _ => cases h

theorem allowed_trimmed (field : Field String) :
    ∀ v ∈ field.trimmed, hasForbiddenKey rt v = false := by
  intro v hv
  obtain ⟨t, rfl⟩ := mem_trimmed hv
  rfl

theorem shape_updateProfile {payload : ProfileUpdate} (h : Shape rt plan relational state) :
    Shape rt plan relational (withProfile payload state) := by
  obtain ⟨profile, hprofile, -, hname, hlocale⟩ := h.profile
  have hallowed := allowed_get h.allowed profile hprofile
  unfold withProfile
  rw [hprofile, Option.getD_some]
  refine shape_putProfile h ?_ rfl ?_ ?_
  · refine allowed_put (allowed_put hallowed (by decide) (allowed_orElse (allowed_trimmed _)
      (allowed_get hallowed))) (by decide) (allowed_orElse (allowed_orElse (allowed_trimmed _)
      (allowed_get hallowed)) ?_)
    rintro _ ⟨⟩
    rfl
  · unfold changedProfile
    rw [textAt_put_of_ne (by decide), textAt_put_self]
    refine text_orElse (fun v hv => ?_) hname
    obtain ⟨t, rfl⟩ := mem_trimmed hv
    rfl
  · unfold changedProfile
    rw [get_put_of_ne (by decide), get_put_of_ne (by decide)]
    exact hlocale

theorem validateSetting_ok {normalize : String → String} {valid : String → Bool} {e : String}
    {field next : Field String} (h : validateSetting normalize valid e field = .ok next) :
    next = field ∧ (∀ t, field ≠ .value t) ∨
      ∃ given t, field = .value given ∧ next = .value t ∧ valid t = true := by
  cases field with
  | value given =>
    unfold validateSetting at h
    dsimp only at h
    split at h
    · next hvalid => exact Or.inr ⟨given, normalize given, rfl, (Except.ok.inj h).symm, hvalid⟩
    · cases h
  | _ => exact Or.inl ⟨(Except.ok.inj h).symm, fun t ht => nomatch ht⟩

theorem isLocale_newTenantSettings {payload normalized : TenantSettingsUpdate}
    (hvalid : validateTenantSettings rt payload = .ok normalized)
    (hmake : newTenantSettings metadata normalized state = .ok item) :
    isLocale (item.get "locale") = !losesLocale metadata payload state := by
  unfold validateTenantSettings at hvalid
  obtain ⟨locale, hlocale, hvalid⟩ := bind_eq_ok.mp hvalid
  repeat obtain ⟨_, -, hvalid⟩ := bind_eq_ok.mp hvalid
  rw [← Except.ok.inj hmake, ← Except.ok.inj hvalid]
  unfold changedSettings TenantSettingsUpdate.entries
  rw [get_put_of_ne (by decide), merge_append, merge_append, merge_append]
  have hother : ∀ (key : String) (field : Field String) (value : Json), key ≠ "locale" →
      (value.merge (field.entry key .str)).get "locale" = value.get "locale" := by
    intro key field value hne
    refine get_merge_of_notMem ?_
    cases field <;> simp [Field.entry, Ne.symm hne]
  rw [hother _ _ _ (by decide), hother _ _ _ (by decide), hother _ _ _ (by decide)]
  unfold losesLocale
  rcases validateSetting_ok hlocale with ⟨hsame, hne⟩ | ⟨given, t, hgiven, ht, hen⟩
  · rw [hsame]
    cases hpayload : payload.locale with
    | absent => exact (Bool.not_not _).symm
    | undefined =>
      show isLocale ((Json.put _ "locale" none).get "locale") = _
      rw [get_put_self]
      rfl
    | null =>
      show isLocale ((Json.put _ "locale" (some .null)).get "locale") = _
      rw [get_put_self]
      rfl
    | value given => exact absurd hpayload (hne given)
  · rw [hgiven, ht]
    show isLocale ((Json.put _ "locale" (some (.str t))).get "locale") = _
    rw [get_put_self]
    unfold isLocale
    rcases Bool.or_eq_true_iff.mp hen with heq | heq <;> rw [of_decide_eq_true heq] <;> rfl

theorem allowed_newTenantSettings {normalized : TenantSettingsUpdate}
    (h : Shape rt plan relational state)
    (hmake : newTenantSettings metadata normalized state = .ok item) :
    hasForbiddenKey rt item = false := by
  rw [← Except.ok.inj hmake]
  refine allowed_changedSettings (allowed_getD_present h.allowed ?_) fun entry hentry => ?_
  · refine allowed_obj _ rfl
      (recordKeys_plain _ (.tail _ (.tail _ (.tail _ (.tail _ (.tail _ (.tail _ (.head _)))))))) ?_
    simp [hasForbiddenKey, anyKey]
  · unfold TenantSettingsUpdate.entries at hentry
    simp only [List.mem_append, or_assoc] at hentry
    have hstr : ∀ text : String, hasForbiddenKey rt (.str text) = false := fun _ => rfl
    rcases hentry with h | h | h | h
    all_goals exact entry_plain (by decide) hstr entry h

theorem shape_updateTenantSettings {normalized : TenantSettingsUpdate}
    (h : Shape rt plan relational state)
    (hmake : newTenantSettings metadata normalized state = .ok item)
    (hlocale : isLocale (item.get "locale") = true) :
    Shape rt plan relational (withTenantSettings item state) := by
  obtain ⟨profile, hprofile, -, hname, -⟩ := h.profile
  have hallowed := allowed_newTenantSettings h hmake
  unfold withTenantSettings
  rw [hprofile, Option.getD_some]
  refine Shape.putOther (shape_putProfile h (allowed_put (allowed_get h.allowed profile hprofile)
    (by decide) (allowed_get hallowed)) rfl ?_ ?_) (by decide) (by decide) ?_
  · rw [textAt_put_of_ne (by decide)]
    exact hname
  · rw [get_put_self]
    exact hlocale
  · rintro _ ⟨⟩
    exact hallowed

theorem not_accepted (hlocale : isLocale (item.get "locale") = false) :
    isPlanSpecificState rt (withTenantSettings item state) plan = false := by
  have hget : ((withTenantSettings item state).get "profile") =
      some (((state.get "profile").getD .null).put "locale" (item.get "locale")) := by
    unfold withTenantSettings
    rw [get_put_of_ne (by decide), get_put_self]
  have hprofiled : isProfiled (withTenantSettings item state) = false := by
    have hnot := isLocale_iff (((state.get "profile").getD .null).put "locale" (item.get "locale"))
    rw [get_put_self, hlocale] at hnot
    unfold isProfiled
    rw [hget, Option.any_some, Bool.eq_false_iff.mpr fun heq => Bool.false_ne_true (hnot.mpr heq)]
    simp
  unfold isPlanSpecificState
  rw [hprofiled, hget]
  simp

/-! ## What is stored -/

theorem shape_withCodeServices (h : Shape rt plan relational state) (keys : List String) :
    Shape rt plan relational (withCodeServices keys state) := by
  have hname : "code_services" ∈ collections relational := by cases relational <;> decide
  refine h.putItems hname fun item hitem => ?_
  obtain ⟨before, hbefore, rfl⟩ := List.mem_map.mp hitem
  refine (h.itemsAt _ hname before hbefore).putOther (by decide) (by decide) (by decide) ?_
  rintro _ ⟨⟩
  rfl

theorem item_newAccessBlock {normalized : String}
    (h : newAccessBlock metadata call normalized state = .ok item) :
    Item rt "blocked_identities" item := by
  unfold newAccessBlock at h
  obtain ⟨-, -, h⟩ := bind_eq_ok.mp h
  rw [← Except.ok.inj h]
  refine item_obj _ rfl (recordKeys_plain _ (.head _)) ?_ rfl fun heq => absurd heq (by decide)
  simp

theorem Shape.relational_of_read (h : Shape rt plan relational state)
    (hread : (readProDemoState state).isSome) : relational = true := by
  by_contra hnot
  have hclients := h.rest (Bool.eq_false_iff.mpr hnot) "clients" (by decide)
  unfold readProDemoState at hread
  rw [h.readStarter, Option.bind_some, if_neg] at hread
  · cases hread
  · intro hall
    have harray := List.all_eq_true.mp hall "clients" (by decide)
    rw [hclients] at harray
    cases harray

theorem shape_make {op : Op} {next : Json} (h : Shape rt plan relational state)
    (hread : (op.reader.read state).isSome)
    (hmake : op.make rt metadata call state = .ok next)
    (hlocale : ∀ payload, op = .updateTenantSettings payload →
      losesLocale metadata payload state = false) : Shape rt plan relational next := by
  have hblocks : "blocked_identities" ∈ collections relational := by cases relational <;> decide
  cases op with
  | load reader => cases hmake
  | updateProfile payload =>
    rw [← Except.ok.inj hmake]
    exact shape_updateProfile h
  | updateReminderSettings payload =>
    obtain ⟨_, settings, -, hsettings, rfl⟩ := making_eq_ok.mp hmake
    exact shape_updateReminderSettings h hsettings
  | updateTenantSettings payload =>
    obtain ⟨normalized, settings, hvalid, hsettings, rfl⟩ := making_eq_ok.mp hmake
    refine shape_updateTenantSettings h hsettings ?_
    rw [isLocale_newTenantSettings hvalid hsettings, hlocale payload rfl]
    rfl
  | updateCodeServices keys =>
    rw [← Except.ok.inj hmake]
    exact shape_withCodeServices h keys
  | createAccessBlock phone =>
    obtain ⟨normalized, block, -, hblock, rfl⟩ := making_eq_ok.mp hmake
    exact h.appendItem hblocks (item_newAccessBlock hblock)
  | deleteAccessBlock id =>
    rw [← Except.ok.inj hmake]
    exact h.filterItems h hblocks _
  | createService payload =>
    obtain rfl := h.relational_of_read hread
    obtain ⟨checked, service, hcheck, hservice, rfl⟩ := making_eq_ok.mp hmake
    obtain ⟨_, -, hcheck⟩ := bind_eq_ok.mp hcheck
    obtain ⟨icon, hicon, hcheck⟩ := bind_eq_ok.mp hcheck
    rw [← Except.ok.inj hcheck] at hservice
    exact h.appendItem (by decide) (item_newService (validateIcon_ok hicon) hservice)
  | updateService id payload =>
    obtain rfl := h.relational_of_read hread
    obtain ⟨_, service, -, hservice, rfl⟩ := making_eq_ok.mp hmake
    exact h.setItem (by decide) (item_changedService h hservice) id
  | deleteService id =>
    obtain rfl := h.relational_of_read hread
    obtain ⟨_, planIds, -, -, rfl⟩ := making_eq_ok.mp hmake
    exact ((h.filterItems h (by decide) _).filterItems h (by decide) _).filterItems h (by decide) _
  | createPlan serviceId payload =>
    obtain rfl := h.relational_of_read hread
    obtain ⟨checked, plan, hcheck, hplan, rfl⟩ := making_eq_ok.mp hmake
    obtain ⟨_, -, hcheck⟩ := bind_eq_ok.mp hcheck
    obtain ⟨price, hprice, hcheck⟩ := bind_eq_ok.mp hcheck
    rw [← Except.ok.inj hcheck] at hplan
    exact h.appendItem (by decide) (item_newPlan (validatePrice_ok hprice) hplan)
  | updatePlan serviceId planId payload =>
    obtain rfl := h.relational_of_read hread
    obtain ⟨_, plan, -, hplan, rfl⟩ := making_eq_ok.mp hmake
    exact h.setItem (by decide) (item_changedPlan h hplan) planId
  | deletePlan serviceId planId =>
    obtain rfl := h.relational_of_read hread
    obtain ⟨_, _, -, -, rfl⟩ := making_eq_ok.mp hmake
    exact (h.filterItems h (by decide) _).filterItems h (by decide) _
  | createClient payload =>
    obtain rfl := h.relational_of_read hread
    obtain ⟨checked, client, hcheck, hclient, rfl⟩ := making_eq_ok.mp hmake
    obtain ⟨_, -, hcheck⟩ := bind_eq_ok.mp hcheck
    obtain ⟨_, -, hcheck⟩ := bind_eq_ok.mp hcheck
    obtain ⟨phone, hphone, hcheck⟩ := bind_eq_ok.mp hcheck
    obtain ⟨_, -, hcheck⟩ := bind_eq_ok.mp hcheck
    rw [← Except.ok.inj hcheck] at hclient
    exact h.appendItem (by decide) (item_newClient (normalizePhone_ok hphone) hclient)
  | updateClient id payload =>
    obtain rfl := h.relational_of_read hread
    obtain ⟨_, client, -, hclient, rfl⟩ := making_eq_ok.mp hmake
    exact h.setItem (by decide) (item_changedClient h hclient) id
  | setActive id isActive =>
    obtain rfl := h.relational_of_read hread
    obtain ⟨_, client, -, hclient, rfl⟩ := making_eq_ok.mp hmake
    exact h.setItem (by decide) (item_switchedClient h hclient) id
  | deleteClient id =>
    obtain rfl := h.relational_of_read hread
    obtain ⟨_, _, -, -, rfl⟩ := making_eq_ok.mp hmake
    exact (h.filterItems h (by decide) _).filterItems h (by decide) _
  | createSubscription payload =>
    obtain rfl := h.relational_of_read hread
    obtain ⟨_, relation, -, hrelation, rfl⟩ := making_eq_ok.mp hmake
    exact h.appendItem (by decide) (item_newSubscription hrelation)
  | updateSubscription id payload =>
    obtain rfl := h.relational_of_read hread
    obtain ⟨_, relation, -, hrelation, rfl⟩ := making_eq_ok.mp hmake
    exact h.setItem (by decide) (item_changedSubscription h hrelation) id
  | cancelSubscription id =>
    obtain rfl := h.relational_of_read hread
    obtain ⟨_, relation, -, hrelation, rfl⟩ := making_eq_ok.mp hmake
    exact h.setItem (by decide) (item_cancelled h hrelation) id
  | renewSubscription id durationType expiresAt =>
    obtain rfl := h.relational_of_read hread
    obtain ⟨_, relation, -, hrelation, rfl⟩ := making_eq_ok.mp hmake
    exact h.setItem (by decide) (item_renewed h hrelation) id
  | reactivateSubscription id durationType startsAt expiresAt =>
    obtain rfl := h.relational_of_read hread
    obtain ⟨_, relation, -, hrelation, rfl⟩ := making_eq_ok.mp hmake
    exact h.setItem (by decide) (item_reactivated h hrelation) id

theorem isWorkspaceEnvelope_updated {envelope : Json} (h : Accepted rt owner envelope) :
    isWorkspaceEnvelope rt (updated rt call envelope state) owner.tenantId =
      isPlanSpecificState rt state owner.plan := by
  obtain ⟨-, hversion, htenant, hname, hdates, hbaseline, -, htour, -⟩ :=
    isWorkspaceEnvelope_iff.mp h.valid
  have hget : ∀ key, key ≠ "plan_specific" → key ≠ "saved_at" →
      (updated rt call envelope state).get key = envelope.get key := fun key hstate hsaved => by
    unfold updated
    rw [get_put_of_ne hsaved, get_put_of_ne hstate]
  have htext : ∀ key, key ≠ "plan_specific" → key ≠ "saved_at" →
      (updated rt call envelope state).textAt key = envelope.textAt key := fun key hstate hsaved => by
    unfold textAt
    rw [hget key hstate hsaved]
  have hplan : planOf (updated rt call envelope state) = some owner.plan := by
    have hsame := h.plan
    unfold planOf at hsame ⊢
    rw [htext "plan" (by decide) (by decide)]
    exact hsame
  have hstate : (updated rt call envelope state).get "plan_specific" = some state := by
    unfold updated
    rw [get_put_of_ne (by decide), get_put_self]
  have hsaved : (isTimestamp rt ((updated rt call envelope state).get "saved_at")).isSome = true := by
    unfold updated isTimestamp timestamp
    rw [get_put_self]
    have htime : ((call.now.val : Nat) : Int).natAbs ≤ maxTime := Nat.lt_succ_iff.mp call.now.isLt
    simp only [Option.bind_some, Json.text, rt.parse_toISOString _ htime]
    rfl
  rw [Bool.eq_iff_iff, isWorkspaceEnvelope_iff, hget "schema_version" (by decide) (by decide),
    hget "activated_at" (by decide) (by decide), hget "expires_at" (by decide) (by decide),
    hget "baseline_version" (by decide) (by decide), hget "tour_state" (by decide) (by decide),
    htext "tenant_id" (by decide) (by decide), htext "source_name" (by decide) (by decide), hplan,
    hstate]
  constructor
  · rintro ⟨-, -, -, -, -, -, ⟨plan, hplan, next, hnext, haccepted⟩, -⟩
    rw [Option.some.inj hplan, Option.some.inj hnext]
    exact haccepted
  · intro haccepted
    exact ⟨rfl, hversion, htenant, hname, hdates, hbaseline,
      ⟨owner.plan, rfl, state, rfl, haccepted⟩, htour, hsaved⟩

theorem accepted_updated {envelope : Json} (h : Accepted rt owner envelope)
    (haccepted : isPlanSpecificState rt state owner.plan = true) :
    Accepted rt owner (updated rt call envelope state) := by
  refine ⟨(isWorkspaceEnvelope_updated h).trans haccepted, ?_, ?_⟩
  · have hplan := h.plan
    unfold planOf at hplan ⊢
    unfold updated
    rw [textAt_put_of_ne (by decide), textAt_put_of_ne (by decide)]
    exact hplan
  · unfold updated
    rw [textAt_put_of_ne (by decide), textAt_put_of_ne (by decide)]
    exact h.name

theorem planSpecific_updated {envelope : Json} :
    planSpecific (updated rt call envelope state) = state := by
  unfold planSpecific updated
  rw [get_put_of_ne (by decide), get_put_self]
  rfl

theorem readable_of_accepted {envelope : Json} (h : Accepted rt owner envelope) :
    Readable rt owner (some envelope) :=
  ⟨envelope, rfl, h.valid, fun _ _ hlive => ensure_accepted h hlive⟩

theorem shape_of_read {op : Op} (h : isPlanSpecificState rt state plan = true)
    (hread : (op.reader.read state).isSome) (hload : ∀ reader, op ≠ .load reader) :
    Shape rt plan (state.get "clients").isSome state := by
  cases op with
  | load reader => exact absurd rfl (hload reader)
  | updateProfile payload => exact shape_of_starter h hread
  | updateReminderSettings payload => exact shape_of_starter h hread
  | updateTenantSettings payload => exact shape_of_starter h hread
  | updateCodeServices keys => exact shape_of_starter h hread
  | createAccessBlock phone => exact shape_of_starter h hread
  | deleteAccessBlock id => exact shape_of_starter h hread
  | _ => exact shape_of_starter h (readStarter_of_pro hread)

theorem read_eq {op : Op} {read : Json} (h : op.reader.read state = some read)
    (hload : ∀ reader, op ≠ .load reader) : read = state := by
  cases op with
  | load reader => exact absurd rfl (hload reader)
  | updateProfile payload => exact readStarter_eq h
  | updateReminderSettings payload => exact readStarter_eq h
  | updateTenantSettings payload => exact readStarter_eq h
  | updateCodeServices keys => exact readStarter_eq h
  | createAccessBlock phone => exact readStarter_eq h
  | deleteAccessBlock id => exact readStarter_eq h
  | _ => exact readPro_eq h

theorem storing_of_breaks {payload : TenantSettingsUpdate}
    (haccepted : isPlanSpecificState rt state plan = true) (hfull : call.full = false)
    (hread : (readStarterDemoState state).isSome)
    (hvalid : (validateTenantSettings rt payload).toOption.isSome = true)
    (hloses : losesLocale metadata payload state = true) :
    ∃ settings, isLocale (settings.get "locale") = false ∧
      storing rt call (Op.updateTenantSettings payload).reader
        ((Op.updateTenantSettings payload).make rt metadata call) state =
        some (withTenantSettings settings state) := by
  have hshape := shape_of_starter haccepted hread
  cases hnormalized : validateTenantSettings rt payload with
  | error e =>
    rw [hnormalized] at hvalid
    cases hvalid
  | ok normalized =>
    obtain ⟨settings, hmake⟩ : ∃ settings, newTenantSettings metadata normalized state = .ok settings :=
      ⟨_, rfl⟩
    have hlocale := isLocale_newTenantSettings hnormalized hmake
    have hallowed := allowed_newTenantSettings hshape hmake
    rw [hloses] at hlocale
    refine ⟨settings, hlocale, storing_eq_some.mpr ⟨state, hshape.readStarter,
      making_eq_ok.mpr ⟨normalized, settings, hnormalized, hmake, rfl⟩, ?_⟩⟩
    obtain ⟨profile, hprofile, -⟩ := hshape.profile
    have hput : hasForbiddenKey rt (withTenantSettings settings state) = false := by
      unfold withTenantSettings
      rw [hprofile]
      refine allowed_put (allowed_put hshape.allowed (by decide) ?_) (by decide) ?_
      · rintro _ ⟨⟩
        exact allowed_put (allowed_get hshape.allowed profile hprofile) (by decide)
          (allowed_get hallowed)
      · rintro _ ⟨⟩
        exact hallowed
    unfold isWritable
    rw [hput, hfull]
    rfl

theorem breaks_iff {envelope : Json} {s : State} {a : Action} (hstored : s.stored = some envelope) :
    breaks rt s a = true ↔ ∃ payload, a.op = .updateTenantSettings payload ∧ a.call.full = false ∧
      (readStarterDemoState (planSpecific envelope)).isSome ∧
      (validateTenantSettings rt payload).toOption.isSome = true ∧
      losesLocale a.metadata payload (planSpecific envelope) = true := by
  unfold breaks
  rw [hstored]
  cases hop : a.op with
  | updateTenantSettings payload =>
    simp only [Bool.and_eq_true, Bool.not_eq_true', and_assoc]
    constructor
    · rintro ⟨hfull, hread, hvalid, hloses⟩
      exact ⟨payload, rfl, hfull, hread, hvalid, hloses⟩
    · rintro ⟨_, ⟨⟩, hfull, hread, hvalid, hloses⟩
      exact ⟨hfull, hread, hvalid, hloses⟩
  | _ =>
    refine iff_of_false Bool.false_ne_true ?_
    rintro ⟨_, ⟨⟩, -⟩

theorem kept_of_shape {envelope : Json} {s s' : State} (h : Accepted rt owner envelope)
    (hstored : s.stored = some envelope)
    (hshape : Shape rt owner.plan relational (planSpecific envelope))
    (hnext : Shape rt owner.plan relational state)
    (hstored' : s'.stored = some (updated rt call envelope state)) : Kept rt owner s s' := by
  refine ⟨?_, fun before hbefore _ after hafter => ?_, fun before hbefore hread after hafter => ?_⟩
  · rw [hstored']
    exact readable_of_accepted (accepted_updated h hnext.accepted)
  all_goals
    rw [hstored'] at hafter
    rw [← Option.some.inj hafter, planSpecific_updated]
  · rw [hnext.readStarter]
    rfl
  · rw [hstored] at hbefore
    rw [← Option.some.inj hbefore] at hread
    obtain rfl := hshape.relational_of_read hread
    rw [hnext.readPro]
    rfl

theorem step_accepted {envelope : Json} {s s' : State} {a : Action}
    (h : Accepted rt owner envelope) (hstored : s.stored = some envelope)
    (hstep : step rt owner s a = some s') :
    (breaks rt s a = false → (∃ envelope', s'.stored = some envelope' ∧
      Accepted rt owner envelope') ∧ Kept rt owner s s') ∧
    (breaks rt s a = true → ¬ Readable rt owner s'.stored) := by
  unfold step at hstep
  split at hstep
  swap
  · cases hstep
  next hcalled =>
  have hlive := hcalled.2
  rw [hstored] at hlive
  have hstored' : s'.stored = (perform rt a.metadata a.call a.op (some envelope)).2 := by
    rw [← Option.some.inj hstep, hstored]
  have hstores := stores_perform a.call h hlive a.op
  have haccepted := h.plan_specific.2
  -- A breaking operation stores the settings without a locale.
  have hbroken : breaks rt s a = true → ∃ settings, isLocale (settings.get "locale") = false ∧
      storing rt a.call a.op.reader (a.op.make rt a.metadata a.call) (planSpecific envelope) =
        some (withTenantSettings settings (planSpecific envelope)) := by
    intro hbreaks
    obtain ⟨payload, hop, hfull, hread, hvalid, hloses⟩ := (breaks_iff hstored).mp hbreaks
    rw [hop]
    exact storing_of_breaks haccepted hfull hread hvalid hloses
  cases hstoring : storing rt a.call a.op.reader (a.op.make rt a.metadata a.call)
      (planSpecific envelope) with
  | none =>
    rw [hstoring] at hstores hbroken
    rw [show (perform rt a.metadata a.call a.op (some envelope)).2 = some envelope from hstores]
      at hstored'
    refine ⟨fun _ => ⟨⟨envelope, hstored', h⟩, ?_, ?_, ?_⟩, fun hbreaks => ?_⟩
    · rw [hstored']
      exact readable_of_accepted h
    · intro before hbefore hread after hafter
      rw [hstored', ← hstored] at hafter
      rw [Option.some.inj (hafter.symm.trans hbefore)]
      exact hread
    · intro before hbefore hread after hafter
      rw [hstored', ← hstored] at hafter
      rw [Option.some.inj (hafter.symm.trans hbefore)]
      exact hread
    · obtain ⟨settings, -, hsome⟩ := hbroken hbreaks
      cases hsome
  | some next =>
    rw [hstoring] at hstores hbroken
    have hupdated : s'.stored = some (updated rt a.call envelope next) := by
      rw [hstored', show perform rt a.metadata a.call a.op (some envelope) = _ from hstores]
    obtain ⟨read, hread, hmake, hwritable⟩ := storing_eq_some.mp hstoring
    have hload : ∀ reader, a.op ≠ .load reader := fun reader hop => by
      rw [hop] at hmake
      cases hmake
    have hsame := read_eq hread hload
    rw [hsame] at hread hmake
    have hsome : (a.op.reader.read (planSpecific envelope)).isSome := by
      rw [hread]
      rfl
    have hshape := shape_of_read haccepted hsome hload
    refine ⟨fun hbreaks => ?_, fun hbreaks => ?_⟩
    · have hnext := shape_make hshape hsome hmake fun payload hop => ?_
      · exact ⟨⟨_, hupdated, accepted_updated h hnext.accepted⟩,
          kept_of_shape h hstored hshape hnext hupdated⟩
      · by_contra hloses
        rw [hop] at hmake
        obtain ⟨normalized, _, hvalid, -⟩ := making_eq_ok.mp hmake
        have hfull : a.call.full = false := by
          unfold isWritable at hwritable
          rw [Bool.and_eq_true, Bool.not_eq_true'] at hwritable
          exact hwritable.2
        have hbroken : breaks rt s a = true := (breaks_iff hstored).mpr ⟨payload, hop, hfull, by
          rw [hshape.readStarter]
          rfl, by rw [hvalid]; rfl, Bool.not_eq_false _ ▸ hloses⟩
        rw [hbreaks] at hbroken
        cases hbroken
    · obtain ⟨settings, hlocale, hsettings⟩ := hbroken hbreaks
      rintro ⟨envelope', henvelope', hvalid, -⟩
      rw [hupdated] at henvelope'
      rw [← Option.some.inj henvelope', isWorkspaceEnvelope_updated h, Option.some.inj hsettings,
        not_accepted hlocale] at hvalid
      cases hvalid

end ReadableLemmas

open ReadableLemmas

/-! ## The workspace is read again -/

/-- **Readable workspaces.** From a valid envelope, behind operations that did not lose the locale of
the profile, what is stored is what the next session gets; and an operation keeps this, with the
readers of the state, if and only if it does not lose the locale. -/
theorem readable_iff {rt : Runtime} {owner : Owner} {envelope : Json} {clock : Instant}
    {s s' : State} {a : Action} (hvalid : Accepted rt owner envelope)
    (h : Reaches (step rt owner) (fun s a => breaks rt s a = false) ⟨clock, some envelope⟩ s)
    (hstep : step rt owner s a = some s') :
    Readable rt owner s.stored ∧ (Kept rt owner s s' ↔ breaks rt s a = false) := by
  obtain ⟨current, hstored, haccepted⟩ := h.invariant
    (I := fun s => ∃ envelope, s.stored = some envelope ∧ Accepted rt owner envelope)
    ⟨envelope, rfl, hvalid⟩ fun s a s' ⟨current, hstored, haccepted⟩ hok hstep =>
      ((step_accepted haccepted hstored hstep).1 hok).1
  obtain ⟨hkeeps, hloses⟩ := step_accepted haccepted hstored hstep
  refine ⟨by rw [hstored]; exact readable_of_accepted haccepted, fun hkept => ?_, fun hok => (hkeeps hok).2⟩
  cases hbreaks : breaks rt s a with
  | false => rfl
  | true => exact absurd hkept.readable (hloses hbreaks)

def exOwner : Owner := ⟨"demo", "Demo", .starter⟩

def exMetadata : Metadata where
  tenantId := "demo"
  name := "Demo"
  plan := .starter
  status := .pending
  activatedAt := none
  expiresAt := none
  locale := none
  serverTime := "2026-07-24T12:00:00.000Z"

def exCall : Call := ⟨⟨1784894400000, by decide⟩, false⟩

def exEnvelope : Json :=
  createEnvelope exRuntime exMetadata exCall (.obj (createStarterState exMetadata ++
    [("tenant_settings", tenantSettings exMetadata (.str "US") .null)]))

theorem exEnvelope_accepted : Accepted exRuntime exOwner exEnvelope := by
  refine ⟨valid_of_plain rfl (by decide +kernel) ?_,
    by decide +kernel, by decide +kernel⟩
  decide +kernel

def exAction (locale : Field String) : Action :=
  ⟨exMetadata, exCall, .updateTenantSettings ⟨locale, .absent, .absent, .absent⟩⟩

theorem exAction_called (locale : Field String) :
    ∃ s', step exRuntime exOwner ⟨0, some exEnvelope⟩ (exAction locale) = some s' := by
  have hlive : isLive exRuntime exOwner exMetadata (some exEnvelope) = true := by decide +kernel
  unfold step
  rw [if_pos ⟨Fin.zero_le _, hlive⟩]
  exact ⟨_, rfl⟩

/-- The locale is set to Spanish. -/
theorem locale_kept : ∃ s', step exRuntime exOwner ⟨0, some exEnvelope⟩ (exAction (.value "ES")) =
    some s' ∧ Kept exRuntime exOwner ⟨0, some exEnvelope⟩ s' := by
  obtain ⟨s', hstep⟩ := exAction_called (.value "ES")
  exact ⟨s', hstep, (readable_iff exEnvelope_accepted .refl hstep).2.mpr (by decide +kernel)⟩

/-- A locale that is `null`, or present without a value, passes the check of the payload and replaces
the one in the profile: the next session does not get what is stored. -/
theorem locale_lost : Accepted exRuntime exOwner exEnvelope ∧
    ∀ locale ∈ [Field.null, .undefined],
      ∃ s', step exRuntime exOwner ⟨0, some exEnvelope⟩ (exAction locale) = some s' ∧
        ¬ Readable exRuntime exOwner s'.stored := by
  refine ⟨exEnvelope_accepted, fun locale hlocale => ?_⟩
  obtain ⟨s', hstep⟩ := exAction_called locale
  have hbreaks : ∀ locale ∈ [Field.null, .undefined],
      breaks exRuntime ⟨0, some exEnvelope⟩ (exAction locale) = true := by
    decide +kernel
  exact ⟨s', hstep, (step_accepted exEnvelope_accepted rfl hstep).2 (hbreaks locale hlocale)⟩

end Trackpal.Browser.Workspace

import Trackpal.Console.Tenants
import Trackpal.Foundation.Runs

/-!
# Tenants and their instances

A tenant has a row in the database and an instance of the Evolution API, which are created and
deleted one after the other. Each flush, each commit and each call may fail; a call that fails may
have been performed.
-/

namespace Trackpal.Accounts.Instances

open Trackpal.Foundation Console

/-! ## Operations -/

/-- The database, and the names of the instances. -/
structure World where
  dir : Directory
  instances : List String

/-- `_instance_name`. -/
def serverName (instanceName : String) : String :=
  if "tenant-".toList <+: instanceName.toList then instanceName else "tenant-" ++ instanceName

/-- How a call ends: one that raises may have been performed. -/
inductive Reply where
  | failed (performed : Bool)
  | done
deriving DecidableEq, Repr

/-- What may fail in an operation: the validation of the other fields, a flush, the call that
creates or deletes, the webhook, the commit, and what follows the commit. -/
structure Faults where
  rejects : Bool
  flushFails : Bool
  call : Reply
  webhookFails : Bool
  commitFails : Bool
  lateFails : Bool

/-- The payload, with the ids of the rows. -/
structure TenantCreate where
  tenantId : Nat
  userId : Nat
  phone : Option String
  evolutionInstanceName : String
  plan : Plan

def TenantCreate.row (p : TenantCreate) : Tenant where
  id := p.tenantId
  ownerUserId := p.userId
  whatsappPhone := p.phone
  whatsappLid := none
  evolutionInstanceName := some p.evolutionInstanceName
  plan := p.plan
  isActive := true
  isDemo := false

-- `configured` holds if the address and the key of the API are set
variable (configured : Bool) (faults : Faults) (w : World)

/-- `create_instance` and `register_webhook`: whether they return, and the instances then. -/
def createInstance (instanceName : String) : Bool × List String :=
  if !configured then (true, w.instances)
  else match faults.call with
    | .failed performed =>
      (false, if performed then w.instances.insert (serverName instanceName) else w.instances)
    | .done => (!faults.webhookFails, w.instances.insert (serverName instanceName))

def nameTaken (instanceName : String) : Bool :=
  w.dir.tenants.rows.any (·.evolutionInstanceName = some instanceName)

/-- A creation fails before its first call; the schema requires a name. -/
def refuses (p : TenantCreate) : Bool :=
  faults.rejects || p.evolutionInstanceName = "" || nameTaken w p.evolutionInstanceName ||
    faults.flushFails

def insertTenant (p : TenantCreate) : Directory :=
  { w.dir with
    tenants := w.dir.tenants.insert p.row
    users := w.dir.users.insert ⟨p.userId, .tenant⟩ }

/-- `create_tenant`: whether it returns, and what is left. -/
def createTenant (p : TenantCreate) : Bool × World :=
  if refuses faults w p then (false, w)
  else
    let (returned, instances) := createInstance configured faults w p.evolutionInstanceName
    if !returned || faults.commitFails then (false, { w with instances := instances })
    else (!faults.lateFails, ⟨insertTenant w p, instances⟩)

/-- `delete_instance`, which leaves what it does not find. -/
def deleteInstance (instanceName : String) : Bool × List String :=
  if !configured then (true, w.instances)
  else match faults.call with
    | .failed performed =>
      (false, if performed then w.instances.filter (· ≠ serverName instanceName) else w.instances)
    | .done => (true, w.instances.filter (· ≠ serverName instanceName))

def deleteUser (userId : Nat) : Directory :=
  { w.dir with
    tenants := w.dir.tenants.remove (·.ownerUserId = userId)
    users := w.dir.users.remove (·.id = userId) }

def deleteTenant (tenantId : Nat) : Bool × World :=
  match w.dir.getByIdOrOwner tenantId with
  | .error _ => (false, w)
  | .ok none => (true, w)
  | .ok (some profile) =>
    if profile.isDemo || profile.isActive then (false, w)
    else if (w.dir.users.get profile.ownerUserId).isNone then (true, w)
    else if faults.flushFails then (false, w)
    else
      let (returned, instances) := (truthy profile.evolutionInstanceName).elim (true, w.instances)
        (deleteInstance configured faults w)
      if !returned || faults.commitFails then (false, { w with instances := instances })
      else (!faults.lateFails, ⟨deleteUser w profile.ownerUserId, instances⟩)

theorem id_setActive (active : Bool) (t : Tenant) : { t with isActive := active }.id = t.id := rfl

inductive Action where
  | create (p : TenantCreate) (faults : Faults)
  | delete (tenantId : Nat) (faults : Faults)
  | setActive (tenantId : Nat) (active : Bool)

/-- Ids are drawn once. -/
def step : Action → Option World
  | .create p faults =>
    if (w.dir.tenants.get p.tenantId).isSome || (w.dir.users.get p.userId).isSome then none
    else some (createTenant configured faults w p).2
  | .delete tenantId faults => some (deleteTenant configured faults w tenantId).2
  | .setActive tenantId active => some { w with dir := { w.dir with
      tenants := w.dir.tenants.modify tenantId _ (id_setActive active) } }

def initial : World := ⟨⟨Table.empty, Table.empty⟩, []⟩

/-- The tenants and the instances belong together, and the names resolve. -/
structure Settled : Prop where
  /-- No instance is without a tenant. -/
  orphan : ∀ i ∈ w.instances, ∃ t ∈ w.dir.tenants.rows,
    t.evolutionInstanceName.map serverName = some i
  /-- No tenant is without its instance. -/
  bereft : ∀ t ∈ w.dir.tenants.rows, ∀ name ∈ t.evolutionInstanceName, serverName name ∈ w.instances
  resolves : ∀ t ∈ w.dir.tenants.rows, ∀ name ∈ t.evolutionInstanceName,
    w.dir.getByInstance name = .ok (some t)
  returns : ∀ name, ∃ found, w.dir.getByInstance name = .ok found

/-- The name is one of its own aliases, and neither an alias of a name in the table nor the other
way round. -/
def usable (name : String) : Bool :=
  name ∈ Directory.instanceAliases name && w.dir.tenants.rows.all fun t =>
    t.evolutionInstanceName.all fun other =>
      other ∉ Directory.instanceAliases name && name ∉ Directory.instanceAliases other

/-- A creation goes wrong if it fails behind the call that has created its instance, if there is no
API to create one, and if its name is not usable. -/
def createBreaks (p : TenantCreate) : Bool :=
  !refuses faults w p &&
    if configured then
      match faults.call with
      | .failed performed => performed && serverName p.evolutionInstanceName ∉ w.instances
      | .done =>
        if faults.webhookFails || faults.commitFails then
          serverName p.evolutionInstanceName ∉ w.instances
        else !usable w p.evolutionInstanceName
    else !faults.commitFails

/-- A deletion goes wrong if it fails behind the call that has deleted the instance, and if there is
no API to delete it. -/
def deleteBreaks (tenantId : Nat) : Bool :=
  match w.dir.getByIdOrOwner tenantId with
  | .ok (some profile) =>
    !(profile.isDemo || profile.isActive) && (w.dir.users.get profile.ownerUserId).isSome &&
      !faults.flushFails && profile.evolutionInstanceName.isSome &&
      if configured then
        match faults.call with
        | .failed performed => performed
        | .done => faults.commitFails
      else !faults.commitFails
  | _ => false

def breaks : Action → Bool
  | .create p faults => createBreaks configured faults w p
  | .delete tenantId faults => deleteBreaks configured faults w tenantId
  | .setActive .. => false

variable {configured faults w} {w' : World} {name other : String} {t t' : Tenant}
  {p : TenantCreate} {tenantId : Nat} {a : Action}

namespace InstanceLemmas

open RowsLemmas

theorem ne_empty_of_mem_aliases (h : other ∈ Directory.instanceAliases name) : strip name ≠ "" := by
  intro hempty
  unfold Directory.instanceAliases at h
  dsimp only at h
  rw [if_pos hempty] at h
  cases h

theorem strip_of_mem_aliases (h : name ∈ Directory.instanceAliases name) : strip name = name := by
  have hne := ne_empty_of_mem_aliases h
  unfold Directory.instanceAliases at h
  dsimp only at h
  rw [if_neg hne] at h
  split at h
  · next hprefix =>
    obtain heq | heq := List.mem_cons.mp (List.mem_filter.mp h).1
    · exact heq.symm
    · -- the alias is shorter than the name
      have hlength := congrArg (fun text => text.toList.length) (List.mem_singleton.mp heq)
      have hinfix : (strip name).toList.length ≤ name.toList.length := stripBy_infix.length_le
      have hlong : "tenant-".toList.length ≤ (strip name).toList.length := hprefix.length_le
      simp only [String.toList_ofList, List.length_drop] at hlength
      have hseven : "tenant-".toList.length = "tenant-".length := by decide
      have hpos : 0 < "tenant-".length := by decide
      omega
  · obtain heq | heq := List.mem_cons.mp h
    · exact heq.symm
    · -- the name begins with no blank, and ends as the stripped one
      have heq := List.mem_singleton.mp heq
      have hends : (∀ c ∈ (strip name).toList.head?, isSpace c = false) ∧
          ∀ c ∈ (strip name).toList.getLast?, isSpace c = false := ends_stripBy
      have hlist : (strip name).toList ≠ [] := fun hnil => hne (String.toList_eq_nil_iff.mp hnil)
      have hself : stripBy isSpace ("tenant-" ++ strip name) = "tenant-" ++ strip name := by
        refine stripBy_of_ends ?_ ?_
        · rw [String.toList_append]
          rintro c ⟨⟩
          decide
        · rw [String.toList_append, List.getLast?_append_of_ne_nil _ hlist]
          exact hends.2
      rw [← heq] at hself
      exact hself

theorem aliases_strip :
    Directory.instanceAliases (strip name) = Directory.instanceAliases name := by
  have hidem : strip (strip name) = strip name := stripBy_idem
  unfold Directory.instanceAliases
  rw [hidem]

theorem exists_alias (name : String) :
    ∃ second, ∀ other ∈ Directory.instanceAliases name, other = strip name ∨ other = second := by
  unfold Directory.instanceAliases
  dsimp only
  split
  · exact ⟨"", fun other h => absurd h List.not_mem_nil⟩
  split
  · exact ⟨.ofList ((strip name).toList.drop "tenant-".length), fun other h =>
      (List.mem_cons.mp (List.mem_filter.mp h).1).imp id List.mem_singleton.mp⟩
  · exact ⟨"tenant-" ++ strip name, fun other h =>
      (List.mem_cons.mp h).imp id List.mem_singleton.mp⟩

theorem prefixed_mem_aliases (hstrip : strip name = name) (hne : name ≠ "")
    (h : ¬"tenant-".toList <+: name.toList) :
    "tenant-" ++ name ∈ Directory.instanceAliases name := by
  unfold Directory.instanceAliases
  dsimp only
  rw [hstrip, if_neg hne, if_neg h]
  exact List.mem_cons_of_mem _ List.mem_cons_self

theorem alias_of_serverName (hname : name ∈ Directory.instanceAliases name)
    (hother : other ∈ Directory.instanceAliases other) (h : serverName name = serverName other) :
    name ∈ Directory.instanceAliases other ∨ other ∈ Directory.instanceAliases name := by
  have hn := strip_of_mem_aliases hname
  have ho := strip_of_mem_aliases hother
  have hnne : name ≠ "" := fun heq => ne_empty_of_mem_aliases hname (hn.trans heq)
  have hone : other ≠ "" := fun heq => ne_empty_of_mem_aliases hother (ho.trans heq)
  unfold serverName at h
  split at h <;> split at h
  · rw [h]
    exact Or.inl hother
  · next _ hplain =>
    rw [h]
    exact Or.inl (prefixed_mem_aliases ho hone hplain)
  · next hplain _ =>
    rw [← h]
    exact Or.inr (prefixed_mem_aliases hn hnne hplain)
  · have heq : name = other := by
      have hlist := congrArg String.toList h
      rw [String.toList_append, String.toList_append] at hlist
      exact String.toList_inj.mp (List.append_cancel_left hlist)
    rw [heq]
    exact Or.inl hother

variable {dir dir' : Directory}

/-- The name of a tenant is an alias. -/
def Holds (t : Tenant) (name : String) : Prop :=
  ∃ other ∈ t.evolutionInstanceName, other ∈ Directory.instanceAliases name

/-- Every name is its own alias, and none of another tenant. -/
def Distinct (dir : Directory) : Prop :=
  ∀ t ∈ dir.tenants.rows, ∀ name ∈ t.evolutionInstanceName,
    name ∈ Directory.instanceAliases name ∧ ∀ t' ∈ dir.tenants.rows, Holds t' name → t' = t

theorem any_eq_holds : t.evolutionInstanceName.any (· ∈ Directory.instanceAliases name) = true ↔
    Holds t name := by
  simp [Holds, Option.any_eq_true]

theorem getByInstance_eq (dir : Directory) (name : String) :
    dir.getByInstance name = scalarOneOrNone (dir.tenants.select fun tenant =>
      tenant.evolutionInstanceName.any (· ∈ Directory.instanceAliases name)) := by
  unfold Directory.getByInstance
  split
  · next hnil =>
    refine (scalar_eq_none.mpr (Table.select_eq_nil.mpr fun t _ => ?_)).symm
    rw [hnil]
    cases t.evolutionInstanceName <;> rfl
  · rfl

theorem getByInstance_eq_some : dir.getByInstance name = .ok (some t) ↔
    t ∈ dir.tenants.rows ∧ Holds t name ∧ ∀ t' ∈ dir.tenants.rows, Holds t' name → t' = t := by
  rw [getByInstance_eq, scalar_eq_some, Table.select_eq_singleton]
  simp only [any_eq_holds]

theorem resolves_iff : (∀ t ∈ dir.tenants.rows, ∀ name ∈ t.evolutionInstanceName,
    dir.getByInstance name = .ok (some t)) ↔ Distinct dir := by
  constructor
  · intro h t ht name hname
    obtain ⟨-, ⟨other, hother, hmem⟩, honly⟩ := getByInstance_eq_some.mp (h t ht name hname)
    rw [Option.some.inj (hother.symm.trans hname)] at hmem
    exact ⟨hmem, honly⟩
  · intro h t ht name hname
    obtain ⟨hself, honly⟩ := h t ht name hname
    exact getByInstance_eq_some.mpr ⟨ht, ⟨name, hname, hself⟩, honly⟩

theorem returns_of_distinct (h : Distinct dir) (name : String) :
    ∃ found, dir.getByInstance name = .ok found := by
  rw [getByInstance_eq]
  have hnodup : (dir.tenants.select fun tenant => tenant.evolutionInstanceName.any
      (· ∈ Directory.instanceAliases name)).Nodup :=
    (List.Nodup.of_map Tenant.id dir.tenants.nodup).filter _
  match hrows : dir.tenants.select fun tenant => tenant.evolutionInstanceName.any
      (· ∈ Directory.instanceAliases name) with
  | [] => exact ⟨none, rfl⟩
  | [t] => exact ⟨some t, rfl⟩
  | t :: t' :: rest =>
    exfalso
    have hall : ∀ s ∈ t :: t' :: rest, s ∈ dir.tenants.rows ∧ Holds s name := by
      intro s hs
      rw [← hrows] at hs
      exact ⟨(List.mem_filter.mp hs).1, any_eq_holds.mp (List.mem_filter.mp hs).2⟩
    obtain ⟨ht, n, hn, hnmem⟩ := hall t List.mem_cons_self
    obtain ⟨ht', n', hn', hnmem'⟩ := hall t' (List.mem_cons_of_mem _ List.mem_cons_self)
    have heq : t = t' := by
      obtain ⟨second, halias⟩ := exists_alias name
      obtain hstrip | hpartner := halias n hnmem
      · refine ((h t ht n hn).2 t' ht' ⟨n', hn', ?_⟩).symm
        rwa [hstrip, aliases_strip]
      · obtain hstrip' | hpartner' := halias n' hnmem'
        · refine (h t' ht' n' hn').2 t ht ⟨n, hn, ?_⟩
          rwa [hstrip', aliases_strip]
        · refine ((h t ht n hn).2 t' ht' ⟨n', hn', ?_⟩).symm
          rw [hpartner', ← hpartner]
          exact (h t ht n hn).1
    rw [hrows, heq] at hnodup
    simp at hnodup

/-- What is claimed of a world, with the names in place of the lookups. -/
structure Matched (w : World) : Prop where
  orphan : ∀ i ∈ w.instances, ∃ t ∈ w.dir.tenants.rows,
    t.evolutionInstanceName.map serverName = some i
  bereft : ∀ t ∈ w.dir.tenants.rows, ∀ name ∈ t.evolutionInstanceName,
    serverName name ∈ w.instances
  distinct : Distinct w.dir

theorem settled_iff_matched : Settled w ↔ Matched w :=
  ⟨fun h => ⟨h.orphan, h.bereft, resolves_iff.mp h.resolves⟩, fun h =>
    ⟨h.orphan, h.bereft, resolves_iff.mpr h.distinct, returns_of_distinct h.distinct⟩⟩

/-- Each tenant has a user of its own. -/
structure Sound (w : World) : Prop where
  user : ∀ t ∈ w.dir.tenants.rows, (w.dir.users.get t.ownerUserId).isSome = true
  owner : ∀ t ∈ w.dir.tenants.rows, ∀ t' ∈ w.dir.tenants.rows,
    t.ownerUserId = t'.ownerUserId → t = t'

theorem eq_of_serverName (h : Distinct dir) (ht : t ∈ dir.tenants.rows)
    (ht' : t' ∈ dir.tenants.rows) (hname : name ∈ t.evolutionInstanceName)
    (hother : other ∈ t'.evolutionInstanceName) (heq : serverName name = serverName other) :
    t = t' := by
  obtain ⟨hself, honly⟩ := h t ht name hname
  obtain ⟨hself', honly'⟩ := h t' ht' other hother
  obtain halias | halias := alias_of_serverName hself hself' heq
  · exact honly' t ht ⟨name, hname, halias⟩
  · exact (honly t' ht' ⟨other, hother, halias⟩).symm

theorem matched_insert (h : Matched w) :
    Matched { w with instances := w.instances.insert (serverName name) } ↔
      serverName name ∈ w.instances := by
  constructor
  · intro h'
    obtain ⟨t, ht, hname⟩ := h'.orphan _ List.mem_insert_self
    obtain ⟨other, hother, heq⟩ := Option.map_eq_some_iff.mp hname
    rw [← heq]
    exact h.bereft t ht other hother
  · intro hmem
    rwa [List.insert_of_mem hmem]

theorem not_matched_filter (h : t ∈ w.dir.tenants.rows) (hname : name ∈ t.evolutionInstanceName) :
    ¬Matched { w with instances := w.instances.filter (· ≠ serverName name) } := by
  intro h'
  have hmem := h'.bereft t h name hname
  simpa using (List.mem_filter.mp hmem).2

theorem mem_insertTenant (hfresh : w.dir.tenants.get p.tenantId = none) :
    t ∈ (insertTenant w p).tenants.rows ↔ t = p.row ∨ t ∈ w.dir.tenants.rows := by
  have hnew : p.row.id ∉ w.dir.tenants.rows.map Tenant.id := by
    intro hmem
    obtain ⟨old, hold, hid⟩ := List.mem_map.mp hmem
    exact Table.get_eq_none.mp hfresh old hold hid
  show t ∈ (w.dir.tenants.insert p.row).rows ↔ _
  unfold Table.insert
  rw [dif_neg hnew]
  exact List.mem_cons

theorem ne_row (hfresh : dir.tenants.get p.tenantId = none) (h : t ∈ dir.tenants.rows) :
    t ≠ p.row := by
  rintro rfl
  exact Table.get_eq_none.mp hfresh _ h rfl

theorem usable_iff : usable w name = true ↔ name ∈ Directory.instanceAliases name ∧
    ∀ t ∈ w.dir.tenants.rows, ∀ other ∈ t.evolutionInstanceName,
      other ∉ Directory.instanceAliases name ∧ name ∉ Directory.instanceAliases other := by
  simp [usable, Option.all_eq_true]

theorem distinct_insertTenant (hfresh : w.dir.tenants.get p.tenantId = none) (h : Distinct w.dir) :
    Distinct (insertTenant w p) ↔ usable w p.evolutionInstanceName = true := by
  rw [usable_iff]
  constructor
  · intro h'
    obtain ⟨hself, honly⟩ := h' p.row ((mem_insertTenant hfresh).mpr (Or.inl rfl)) _ rfl
    refine ⟨hself, fun t ht other hother => ⟨fun hmem => ?_, fun hmem => ?_⟩⟩
    · have ht' := (mem_insertTenant hfresh).mpr (Or.inr ht)
      exact ne_row hfresh ht (honly t ht' ⟨other, hother, hmem⟩)
    · have ht' := (mem_insertTenant hfresh).mpr (Or.inr ht)
      have hrow := (mem_insertTenant hfresh).mpr (Or.inl rfl)
      exact ne_row hfresh ht ((h' t ht' other hother).2 p.row hrow ⟨_, rfl, hmem⟩).symm
  · rintro ⟨hself, hothers⟩ t ht name hname
    obtain rfl | ht := (mem_insertTenant hfresh).mp ht
    · obtain rfl : p.evolutionInstanceName = name := Option.some.inj hname
      refine ⟨hself, fun t' ht' hholds => ?_⟩
      obtain rfl | ht' := (mem_insertTenant hfresh).mp ht'
      · rfl
      · obtain ⟨other, hother, hmem⟩ := hholds
        exact absurd hmem (hothers t' ht' other hother).1
    · refine ⟨(h t ht name hname).1, fun t' ht' hholds => ?_⟩
      obtain rfl | ht' := (mem_insertTenant hfresh).mp ht'
      · obtain ⟨other, hother, hmem⟩ := hholds
        obtain rfl : p.evolutionInstanceName = other := Option.some.inj hother
        exact absurd hmem (hothers t ht name hname).2
      · exact (h t ht name hname).2 t' ht' hholds

theorem matched_insertTenant (hfresh : w.dir.tenants.get p.tenantId = none) (h : Matched w) :
    Matched ⟨insertTenant w p, w.instances.insert (serverName p.evolutionInstanceName)⟩ ↔
      usable w p.evolutionInstanceName = true := by
  rw [← distinct_insertTenant hfresh h.distinct]
  refine ⟨fun h' => h'.distinct, fun hdistinct => ⟨fun i hi => ?_, fun t ht name hname => ?_,
    hdistinct⟩⟩
  · obtain rfl | hi := List.mem_insert_iff.mp hi
    · exact ⟨p.row, (mem_insertTenant hfresh).mpr (Or.inl rfl), rfl⟩
    · obtain ⟨t, ht, hname⟩ := h.orphan i hi
      exact ⟨t, (mem_insertTenant hfresh).mpr (Or.inr ht), hname⟩
  · obtain rfl | ht := (mem_insertTenant hfresh).mp ht
    · obtain rfl : p.evolutionInstanceName = name := Option.some.inj hname
      exact List.mem_insert_self
    · exact List.mem_insert_of_mem (h.bereft t ht name hname)

theorem not_matched_insertTenant (hfresh : w.dir.tenants.get p.tenantId = none) (h : Matched w) :
    ¬Matched ⟨insertTenant w p, w.instances⟩ := by
  intro h'
  have hmem : serverName p.evolutionInstanceName ∈ w.instances :=
    h'.bereft p.row ((mem_insertTenant hfresh).mpr (Or.inl rfl)) _ rfl
  obtain ⟨t, ht, hname⟩ := h.orphan _ hmem
  obtain ⟨other, hother, heq⟩ := Option.map_eq_some_iff.mp hname
  exact ne_row hfresh ht (eq_of_serverName h'.distinct ((mem_insertTenant hfresh).mpr (Or.inr ht))
    ((mem_insertTenant hfresh).mpr (Or.inl rfl)) hother rfl heq)

theorem matched_create (hfresh : w.dir.tenants.get p.tenantId = none) (h : Matched w) :
    Matched (createTenant configured faults w p).2 ↔
      createBreaks configured faults w p = false := by
  unfold createTenant createBreaks
  cases hrefuses : refuses faults w p with
  | true => simpa using h
  | false =>
    dsimp only
    rw [if_neg Bool.false_ne_true]
    unfold createInstance
    cases configured with
    | false =>
      cases hcommit : faults.commitFails with
      | true => simpa using h
      | false => simpa using not_matched_insertTenant hfresh h
    | true =>
      cases hcall : faults.call with
      | failed performed =>
        cases performed with
        | false => simpa using h
        | true => simpa using matched_insert h
      | done =>
        cases hwebhook : faults.webhookFails with
        | true => simpa [hwebhook] using matched_insert h
        | false =>
          cases hcommit : faults.commitFails with
          | true => simpa [hwebhook, hcommit] using matched_insert h
          | false => simpa [hwebhook, hcommit] using matched_insertTenant hfresh h

theorem mem_deleteUser (hsound : Sound w) (h : t ∈ w.dir.tenants.rows) :
    t' ∈ (deleteUser w t.ownerUserId).tenants.rows ↔ t' ∈ w.dir.tenants.rows ∧ t' ≠ t := by
  show t' ∈ w.dir.tenants.rows.filter _ ↔ _
  rw [List.mem_filter]
  refine and_congr_right fun ht' => ?_
  simp only [Bool.not_eq_eq_eq_not, Bool.not_true, decide_eq_false_iff_not]
  refine not_congr ⟨fun howner => hsound.owner t' ht' t h howner, fun heq => by rw [heq]⟩

theorem distinct_deleteUser (hsound : Sound w) (h : t ∈ w.dir.tenants.rows)
    (hdistinct : Distinct w.dir) : Distinct (deleteUser w t.ownerUserId) := by
  intro t₁ ht₁ name hname
  obtain ⟨hself, honly⟩ := hdistinct t₁ ((mem_deleteUser hsound h).mp ht₁).1 name hname
  exact ⟨hself, fun t₂ ht₂ hholds => honly t₂ ((mem_deleteUser hsound h).mp ht₂).1 hholds⟩

theorem matched_deleteUser (hsound : Sound w) (h : Matched w) (ht : t ∈ w.dir.tenants.rows)
    (hname : name ∈ t.evolutionInstanceName) :
    Matched ⟨deleteUser w t.ownerUserId, w.instances.filter (· ≠ serverName name)⟩ := by
  refine ⟨fun i hi => ?_, fun t' ht' other hother => ?_, distinct_deleteUser hsound ht h.distinct⟩
  · obtain ⟨hmem, hne⟩ := List.mem_filter.mp hi
    obtain ⟨t', ht', hname'⟩ := h.orphan i hmem
    refine ⟨t', (mem_deleteUser hsound ht).mpr ⟨ht', ?_⟩, hname'⟩
    rintro rfl
    rw [Option.mem_def.mp hname] at hname'
    exact of_decide_eq_true hne (Option.some.inj hname').symm
  · obtain ⟨hmem, hne⟩ := (mem_deleteUser hsound ht).mp ht'
    refine List.mem_filter.mpr ⟨h.bereft t' hmem other hother, decide_eq_true fun heq => hne ?_⟩
    exact eq_of_serverName h.distinct hmem ht hother hname heq

theorem matched_deleteUser_none (hsound : Sound w) (h : Matched w) (ht : t ∈ w.dir.tenants.rows)
    (hname : t.evolutionInstanceName = none) :
    Matched ⟨deleteUser w t.ownerUserId, w.instances⟩ := by
  refine ⟨fun i hi => ?_, fun t' ht' other hother => ?_, distinct_deleteUser hsound ht h.distinct⟩
  · obtain ⟨t', ht', hname'⟩ := h.orphan i hi
    refine ⟨t', (mem_deleteUser hsound ht).mpr ⟨ht', ?_⟩, hname'⟩
    rintro rfl
    rw [hname] at hname'
    cases hname'
  · exact h.bereft t' ((mem_deleteUser hsound ht).mp ht').1 other hother

theorem not_matched_deleteUser (hsound : Sound w) (h : Matched w) (ht : t ∈ w.dir.tenants.rows)
    (hname : name ∈ t.evolutionInstanceName) :
    ¬Matched ⟨deleteUser w t.ownerUserId, w.instances⟩ := by
  intro h'
  obtain ⟨t', ht', hname'⟩ := h'.orphan _ (h.bereft t ht name hname)
  obtain ⟨other, hother, heq⟩ := Option.map_eq_some_iff.mp hname'
  obtain ⟨hmem, hne⟩ := (mem_deleteUser hsound ht).mp ht'
  exact hne (eq_of_serverName h.distinct hmem ht hother hname heq)

theorem mem_of_getByIdOrOwner (h : w.dir.getByIdOrOwner tenantId = .ok (some t)) :
    t ∈ w.dir.tenants.rows :=
  (Table.select_eq_singleton.mp (scalar_eq_some.mp h)).1

theorem matched_delete (hsound : Sound w) (h : Matched w) :
    Matched (deleteTenant configured faults w tenantId).2 ↔
      deleteBreaks configured faults w tenantId = false := by
  unfold deleteTenant deleteBreaks
  cases hfound : w.dir.getByIdOrOwner tenantId with
  | error e => simpa using h
  | ok found =>
    cases found with
    | none => simpa using h
    | some profile =>
      have hmem := mem_of_getByIdOrOwner hfound
      dsimp only
      cases hactive : profile.isDemo || profile.isActive with
      | true => simpa using h
      | false =>
        have huser := hsound.user profile hmem
        have hnone : (w.dir.users.get profile.ownerUserId).isNone = false := by
          rw [← Option.not_isSome, huser]
          rfl
        rw [hnone, huser, if_neg Bool.false_ne_true, if_neg Bool.false_ne_true]
        cases hflush : faults.flushFails with
        | true => simpa using h
        | false =>
          rw [if_neg Bool.false_ne_true]
          cases hname : profile.evolutionInstanceName with
          | none =>
            cases hcommit : faults.commitFails with
            | true => simpa [truthy] using h
            | false => simpa [truthy] using matched_deleteUser_none hsound h hmem hname
          | some name =>
            have hself := (h.distinct profile hmem name hname).1
            have hne : name ≠ "" := by
              rintro rfl
              exact ne_empty_of_mem_aliases hself (strip_of_mem_aliases hself)
            have htruthy : truthy (some name) = some name :=
              Option.filter_eq_some_iff.mpr ⟨rfl, decide_eq_true hne⟩
            rw [htruthy, Option.elim_some]
            unfold deleteInstance
            cases configured with
            | false =>
              cases hcommit : faults.commitFails with
              | true => simpa using h
              | false => simpa using not_matched_deleteUser hsound h hmem hname
            | true =>
              cases hcall : faults.call with
              | failed performed =>
                cases performed with
                | false => simpa using h
                | true => simpa using not_matched_filter hmem hname
              | done =>
                cases hcommit : faults.commitFails with
                | true => simpa using not_matched_filter hmem hname
                | false => simpa using matched_deleteUser hsound h hmem hname

theorem matched_map {f : Tenant → Tenant} (h : Matched w)
    (hf : ∀ t, (f t).evolutionInstanceName = t.evolutionInstanceName)
    (hrows : dir.tenants.rows = w.dir.tenants.rows.map f) : Matched ⟨dir, w.instances⟩ := by
  have hmem : ∀ {t}, t ∈ dir.tenants.rows ↔ ∃ old ∈ w.dir.tenants.rows, f old = t := by
    intro t
    rw [hrows, List.mem_map]
  refine ⟨fun i hi => ?_, fun t ht name hname => ?_, fun t ht name hname => ?_⟩
  · obtain ⟨old, hold, hname⟩ := h.orphan i hi
    exact ⟨f old, hmem.mpr ⟨old, hold, rfl⟩, by rw [hf]; exact hname⟩
  · obtain ⟨old, hold, rfl⟩ := hmem.mp ht
    exact h.bereft old hold name (hf old ▸ hname)
  · obtain ⟨old, hold, rfl⟩ := hmem.mp ht
    obtain ⟨hself, honly⟩ := h.distinct old hold name (hf old ▸ hname)
    refine ⟨hself, fun t' ht' hholds => ?_⟩
    obtain ⟨old', hold', rfl⟩ := hmem.mp ht'
    obtain ⟨other, hother, halias⟩ := hholds
    rw [honly old' hold' ⟨other, hf old' ▸ hother, halias⟩]

theorem matched_setActive {active : Bool} (h : Matched w) :
    Matched { w with dir := { w.dir with
      tenants := w.dir.tenants.modify tenantId _ (id_setActive active) } } :=
  matched_map (f := fun t => if t.id = tenantId then { t with isActive := active } else t) h
    (fun t => by split <;> rfl) rfl

theorem dir_create (configured : Bool) (faults : Faults) (w : World) (p : TenantCreate) :
    (createTenant configured faults w p).2.dir = w.dir ∨
    (createTenant configured faults w p).2.dir = insertTenant w p := by
  unfold createTenant
  split
  · exact Or.inl rfl
  · dsimp only
    split
    · exact Or.inl rfl
    · exact Or.inr rfl

theorem dir_delete (configured : Bool) (faults : Faults) (w : World) (tenantId : Nat) :
    (deleteTenant configured faults w tenantId).2.dir = w.dir ∨
    ∃ t ∈ w.dir.tenants.rows,
      (deleteTenant configured faults w tenantId).2.dir = deleteUser w t.ownerUserId := by
  unfold deleteTenant
  cases hfound : w.dir.getByIdOrOwner tenantId with
  | error e => exact Or.inl rfl
  | ok found =>
    cases found with
    | none => exact Or.inl rfl
    | some profile =>
      dsimp only
      split
      · exact Or.inl rfl
      split
      · exact Or.inl rfl
      split
      · exact Or.inl rfl
      split
      · exact Or.inl rfl
      · exact Or.inr ⟨profile, mem_of_getByIdOrOwner hfound, rfl⟩

theorem sound_insertTenant (htenant : w.dir.tenants.get p.tenantId = none)
    (huser : w.dir.users.get p.userId = none) (h : Sound w) (instances : List String) :
    Sound ⟨insertTenant w p, instances⟩ := by
  have hnew : ∀ t ∈ w.dir.tenants.rows, t.ownerUserId ≠ p.userId := by
    intro t ht heq
    have hsome := h.user t ht
    rw [heq, huser] at hsome
    cases hsome
  refine ⟨fun t ht => ?_, fun t ht t' ht' heq => ?_⟩
  · obtain rfl | ht := (mem_insertTenant htenant).mp ht
    · have hget : (w.dir.users.insert ⟨p.userId, .tenant⟩).get p.userId =
          some ⟨p.userId, .tenant⟩ := Table.get_insert_self huser
      show ((w.dir.users.insert ⟨p.userId, .tenant⟩).get p.userId).isSome = true
      rw [hget]
      rfl
    · obtain ⟨user, hget⟩ := Option.isSome_iff_exists.mp (h.user t ht)
      have hget' : (insertTenant w p).users.get t.ownerUserId = some user :=
        Table.get_insert_of_get hget
      rw [hget']
      rfl
  · obtain rfl | ht := (mem_insertTenant htenant).mp ht
    · obtain rfl | ht' := (mem_insertTenant htenant).mp ht'
      · rfl
      · exact absurd heq.symm (hnew t' ht')
    · obtain rfl | ht' := (mem_insertTenant htenant).mp ht'
      · exact absurd heq (hnew t ht)
      · exact h.owner t ht t' ht' heq

theorem sound_deleteUser (h : Sound w) (ht : t ∈ w.dir.tenants.rows)
    (instances : List String) :
    Sound ⟨deleteUser w t.ownerUserId, instances⟩ := by
  refine ⟨fun t' ht' => ?_, fun t₁ ht₁ t₂ ht₂ heq => ?_⟩
  · obtain ⟨hmem, hne⟩ := (mem_deleteUser h ht).mp ht'
    obtain ⟨user, hget⟩ := Option.isSome_iff_exists.mp (h.user t' hmem)
    have hid := Table.key_of_get hget
    have howner : user.id ≠ t.ownerUserId := fun heq =>
      hne (h.owner t' hmem t ht (hid.symm.trans heq))
    show ((w.dir.users.remove (·.id = t.ownerUserId)).get t'.ownerUserId).isSome = true
    rw [Table.get_remove, hget, Option.filter_some, if_pos (by simpa using howner)]
    rfl
  · exact h.owner t₁ ((mem_deleteUser h ht).mp ht₁).1 t₂ ((mem_deleteUser h ht).mp ht₂).1 heq

theorem sound_of_dir (h : Sound w) (hdir : w'.dir = w.dir) : Sound w' := by
  refine ⟨?_, ?_⟩ <;> rw [hdir]
  · exact h.user
  · exact h.owner

theorem step_create (h : step configured w (.create p faults) = some w') :
    w.dir.tenants.get p.tenantId = none ∧ w.dir.users.get p.userId = none ∧
      (createTenant configured faults w p).2 = w' := by
  unfold step at h
  dsimp only at h
  split at h
  · cases h
  · next hfresh =>
    simp only [Bool.or_eq_true, Option.isSome_iff_ne_none, not_or, not_not] at hfresh
    exact ⟨hfresh.1, hfresh.2, Option.some.inj h⟩

theorem sound_step (hsound : Sound w) (h : step configured w a = some w') : Sound w' := by
  cases a with
  | create p faults =>
    obtain ⟨htenant, huser, rfl⟩ := step_create h
    obtain hdir | hdir := dir_create configured faults w p
    · exact sound_of_dir hsound hdir
    · exact sound_of_dir (sound_insertTenant htenant huser hsound []) hdir
  | delete tenantId faults =>
    obtain rfl : (deleteTenant configured faults w tenantId).2 = w' := Option.some.inj h
    obtain hdir | ⟨t, ht, hdir⟩ := dir_delete configured faults w tenantId
    · exact sound_of_dir hsound hdir
    · exact sound_of_dir (sound_deleteUser hsound ht []) hdir
  | setActive tenantId active =>
    rw [← Option.some.inj h]
    have hmem : ∀ t ∈ (w.dir.tenants.modify tenantId _ (id_setActive active)).rows,
        ∃ old ∈ w.dir.tenants.rows, t.ownerUserId = old.ownerUserId ∧
          t = (if old.id = tenantId then { old with isActive := active } else old) := by
      intro t ht
      obtain ⟨old, hold, rfl⟩ := List.mem_map.mp ht
      exact ⟨old, hold, by split <;> rfl, rfl⟩
    refine ⟨fun t ht => ?_, fun t ht t' ht' heq => ?_⟩
    · obtain ⟨old, hold, howner, -⟩ := hmem t ht
      rw [howner]
      exact hsound.user old hold
    · obtain ⟨old, hold, howner, rfl⟩ := hmem t ht
      obtain ⟨old', hold', howner', rfl⟩ := hmem t' ht'
      rw [hsound.owner old hold old' hold' (howner.symm.trans (heq.trans howner'))]

theorem matched_step (hsound : Sound w) (h : Matched w) (hstep : step configured w a = some w') :
    Matched w' ↔ breaks configured w a = false := by
  cases a with
  | create p faults =>
    obtain ⟨htenant, -, rfl⟩ := step_create hstep
    exact matched_create htenant h
  | delete tenantId faults =>
    rw [← Option.some.inj hstep]
    exact matched_delete hsound h
  | setActive tenantId active =>
    rw [← Option.some.inj hstep]
    exact iff_of_true (matched_setActive h) rfl

theorem matched_initial : Matched initial where
  orphan i hi := by cases hi
  bereft t ht := by cases ht
  distinct t ht := by cases ht

theorem sound_initial : Sound initial where
  user t ht := by cases ht
  owner t ht := by cases ht

end InstanceLemmas

open InstanceLemmas

/-- As long as no operation goes wrong, every tenant has its instance, every instance its tenant,
and every name resolves; and an operation keeps this if and only if it does not go wrong. -/
theorem settled_iff
    (h : Reaches (step configured) (fun w a => breaks configured w a = false) initial w)
    (hstep : step configured w a = some w') :
    Settled w ∧ (Settled w' ↔ breaks configured w a = false) := by
  have hkept : Sound w ∧ Matched w :=
    Reaches.invariant (I := fun w => Sound w ∧ Matched w) h ⟨sound_initial, matched_initial⟩
      fun before a after hbefore hok hstep =>
        ⟨sound_step hbefore.1 hstep, (matched_step hbefore.1 hbefore.2 hstep).mpr hok⟩
  refine ⟨settled_iff_matched.mpr hkept.2, ?_⟩
  rw [settled_iff_matched]
  exact matched_step hkept.1 hkept.2 hstep

def exCreate : TenantCreate := ⟨1, 2, none, "ana", .pro⟩

def exFaults : Faults := ⟨false, false, .done, false, false, false⟩

def exSecond : TenantCreate := ⟨3, 4, none, "eva", .starter⟩

/-- Two tenants are created, the first of which is deleted again. -/
def exTenancies : List Action :=
  [.create exCreate exFaults, .create exSecond exFaults, .setActive 1 false, .delete 1 exFaults]

/-- A third tenant gets the name of the first. -/
theorem third_settled : ∃ w w',
    Reaches (step true) (fun w a => breaks true w a = false) initial w ∧
      w.instances = ["tenant-eva"] ∧
      step true w (.create { exCreate with tenantId := 5, userId := 6 } exFaults) = some w' ∧
      w'.instances.length = 2 ∧ Settled w ∧ Settled w' := by
  have hrun : (execWhere (step true) (fun w a => !breaks true w a) initial exTenancies).any (fun w =>
      w.instances = ["tenant-eva"] ∧
      breaks true w (.create { exCreate with tenantId := 5, userId := 6 } exFaults) = false ∧
      (step true w (.create { exCreate with tenantId := 5, userId := 6 } exFaults)).any (fun w' =>
        w'.instances.length = 2)) = true := by
    decide +kernel
  obtain ⟨w, hreach, hw⟩ := exists_of_execWhere hrun
  obtain ⟨hinstances, hbreaks, hsome⟩ := of_decide_eq_true hw
  obtain ⟨w', hstep, hlength⟩ := (Option.any_eq_true _ _).mp hsome
  have hreaches := hreach.mono fun w a hok => (Bool.not_eq_true' _).mp hok
  obtain ⟨hbefore, hafter⟩ := settled_iff hreaches hstep
  exact ⟨w, w', hreaches, hinstances, hstep, of_decide_eq_true hlength, hbefore, hafter.mpr hbreaks⟩

/-- The webhook cannot be registered: the creation fails, and its instance stays. -/
theorem orphan_instance :
    (createTenant true { exFaults with webhookFails := true } initial exCreate).1 = false ∧
      (createTenant true { exFaults with webhookFails := true } initial exCreate).2.instances =
        ["tenant-ana"] ∧
      (createTenant true { exFaults with webhookFails := true } initial exCreate
        ).2.dir.tenants.rows = [] ∧
      ¬Settled (createTenant true { exFaults with webhookFails := true } initial exCreate).2 := by
  refine ⟨by decide +kernel, by decide +kernel, by decide +kernel, fun h => ?_⟩
  obtain ⟨t, ht, -⟩ := h.orphan "tenant-ana" (by decide +kernel)
  cases ht

end Trackpal.Accounts.Instances

import Trackpal.Export.Bundle
import Trackpal.Foundation.Grouping

/-!
# The CSV files and the JSON file of a bundle

The reader of a bundle parses a CSV file, takes an empty cell for `null`, takes the
neutralizing tab away, and puts the catalog rows of a service together. What it has then is
the data of the JSON file, except where the builders differ: JSON has an empty text where
CSV has an empty cell, and a tab that is not a neutralizing one is taken away all the same.

Results:
1. `catalog_agrees_iff`: when the catalog rows, put together, are the catalog of the JSON file.
2. `bundle_agrees_iff`.
-/

namespace Trackpal.Export.Bundle

open Trackpal.Protocol Trackpal.Foundation Trackpal.Foundation.Csv

variable {value : Text} {tz : Zone} {args : Arguments}

/-! ## Reading a bundle -/

def readCell : Text → Option Text
  | [] => none
  | c :: text => if c = '\t' then some text else some (c :: text)

abbrev NamedRow := List (Text × Option Text)

/-- The data rows of a CSV file, each value with the name of its column. -/
def readTable (file : Text) : List NamedRow :=
  match parse (file.drop 1) with
  | [] => []
  | columns :: rows => rows.map fun row => columns.zip (row.map readCell)

def hasPlan (row : NamedRow) : Bool := row.any fun entry => entry.2.isSome

def readCatalog (file : Text) : List (NamedRow × List NamedRow) :=
  (group ((readTable file).map fun row => (row.take 4, row.drop 4))).map fun g =>
    (g.1, g.2.filter hasPlan)

def named (record : Record) : NamedRow := record.map fun entry => (entry.1.toList, entry.2)

/-- The CSV files have what the JSON file has, and the counts are the numbers of the records. -/
structure Agrees (archive : Archive) : Prop where
  accountProfile : readTable archive.accountProfile = [named archive.data.accountProfile]
  clientAccounts : readTable archive.clientData = archive.data.clientAccounts.map named
  serviceCatalog : readCatalog archive.serviceCatalog =
    archive.data.serviceCatalog.map fun record => (named record.service, record.plans.map named)
  subscriptionSnapshot :
    readTable archive.subscriptionSnapshot = archive.data.subscriptionSnapshot.map named
  blockedPhoneList : readTable archive.blockedPhones = archive.data.blockedPhoneList.map named
  recordCounts : archive.data.recordCounts =
    { accountProfile := (readTable archive.accountProfile).length
      clientAccounts := (readTable archive.clientData).length
      serviceCatalog := (readCatalog archive.serviceCatalog).length
      catalogPlans := ((readCatalog archive.serviceCatalog).map fun entry => entry.2.length).sum
      subscriptionSnapshot := (readTable archive.subscriptionSnapshot).length
      blockedPhoneList := (readTable archive.blockedPhones).length }

/-! ## Values that both files show alike -/

/-- The value is not empty and does not begin with a tab. -/
def bare (value : Text) : Bool := value ≠ [] && value.head? ≠ some '\t'

def profileShown (args : Arguments) : Bool :=
  bare (orEmpty args.tenant.name) && bare (orEmpty args.tenant.whatsappPhone) &&
    bare (orEmpty args.tenant.owner) && bare (orEmpty args.tenant.plan) && bare args.locale &&
    bare args.tz.name && args.currency.all bare

def clientShown (c : Client) : Bool := orEmpty c.fullName ≠ [] && bare (orEmpty c.username)

def serviceShown (svc : Service) : Bool := svc.name ≠ [] && svc.icon.all bare

def subscriptionShown (row : SubscriptionRow) : Bool :=
  clientShown row.client && row.service.name ≠ [] && row.plan.name ≠ [] &&
    row.subscription.streamingEmail.all bare && row.subscription.profileName.all bare &&
    row.subscription.durationType.all bare && row.subscription.status.all bare

/-- No value is one that the files show differently, and services in a row look different. -/
structure Shown (args : Arguments) : Prop where
  profile : profileShown args = true
  client : ∀ c ∈ args.clients, clientShown c = true
  service : ∀ svc ∈ args.services, serviceShown svc = true
  plan : ∀ svc ∈ args.services, ∀ p ∈ args.plansByService svc.id, p.name ≠ []
  subscription : ∀ row ∈ args.subscriptionRows, subscriptionShown row = true
  blocked : ∀ b ∈ args.blockedPhones, orEmpty b.phone ≠ [] → digitsOnly b.phone ≠ []
  different : (args.services.map fun svc => serviceRecord svc args.tz).IsChain (· ≠ ·)

namespace AgreementLemmas

/-! ## Cells -/

theorem readCell_of_not_tab (h : value.head? ≠ some '\t') : readCell value = orNone value := by
  cases value with
  | nil => rfl
  | cons c value => exact if_neg fun hc => h (congrArg some hc)

theorem head_of_formula (h : formula value = false) : value.head? ≠ some '\t' := by
  intro hhead
  unfold formula at h
  rw [hhead] at h
  cases h

theorem readCell_plain (h : formula value = false) :
    readCell (plain value).written = orNone value := readCell_of_not_tab (head_of_formula h)

theorem readCell_formatTimestamp (dt : Option Int) :
    readCell (plain (formatTimestamp dt tz)).written = orNone (formatTimestamp dt tz) :=
  readCell_plain (formula_formatTimestamp dt tz)

theorem readCell_digitsOnly (phone : Option Text) :
    readCell (plain (digitsOnly phone)).written = orNone (digitsOnly phone) :=
  readCell_plain (formula_digitsOnly phone)

theorem readCell_accountStatus (isActive : Bool) :
    readCell (plain (accountStatus isActive)).written = some (accountStatus isActive) := by
  cases isActive <;> decide

theorem readCell_price (price : Option Int) :
    readCell (plain ((price.map formatPrice).getD [])).written = price.map formatPrice := by
  cases price with
  | none => rfl
  | some price =>
    obtain ⟨c, rest, hprice, hc⟩ := head_formatPrice price
    show readCell (formatPrice price) = some (formatPrice price)
    rw [hprice]
    refine if_neg fun htab => ?_
    subst htab
    split at hc <;> cases hc

theorem readCell_neutralized : readCell (neutralized value).written = some value ↔ value ≠ [] := by
  cases value with
  | nil => simp [neutralized, neutralizeCsvValue, formula, readCell]
  | cons c value =>
    refine iff_of_true ?_ (List.cons_ne_nil _ _)
    show readCell (neutralizeCsvValue (c :: value)) = some (c :: value)
    unfold neutralizeCsvValue
    split
    · rfl
    · next hformula =>
      refine if_neg fun htab => hformula ?_
      rw [htab]
      rfl

theorem readCell_bare : readCell (plain value).written = some value ↔ bare value = true := by
  cases value with
  | nil => simp [plain, readCell, bare]
  | cons c value =>
    by_cases htab : c = '\t'
    · subst htab
      refine iff_of_false (fun h => ?_) (by simp [bare])
      have hlength := congrArg List.length (Option.some.inj h)
      rw [List.length_cons] at hlength
      exact Nat.succ_ne_self _ hlength.symm
    · exact iff_of_true (if_neg htab) (by simp [bare, htab])

theorem readCell_optional (value : Option Text) :
    readCell (plain (orEmpty value)).written = value ↔ value.all bare = true := by
  cases value with
  | none => exact iff_of_true rfl rfl
  | some value => exact readCell_bare

theorem orNone_eq_some : orNone value = some value ↔ value ≠ [] := by
  unfold orNone
  split
  · next h => simp [h]
  · next h => exact iff_of_true rfl h

/-! ## Rows -/

def readRow (columns : List String) (cells : List Cell) : NamedRow :=
  (columns.map String.toList).zip ((cells.map Cell.written).map readCell)

theorem profile_agrees : readRow accountProfileColumns
      (accountProfileCells args.tenant args.locale args.tz args.currency) =
    named (accountProfileRecord args.tenant args.locale args.tz args.currency) ↔
      profileShown args = true := by
  simp only [readRow, accountProfileColumns, accountProfileCells, accountProfileRecord, named,
    List.map_cons, List.map_nil, List.zip_cons_cons, List.zip_nil_right, List.cons.injEq,
    Prod.mk.injEq, true_and, and_true, readCell_bare, readCell_optional, profileShown,
    Bool.and_eq_true, and_assoc]

theorem client_agrees (c : Client) :
    readRow clientDataColumns (clientCells c tz) = named (clientRecord c tz) ↔
      clientShown c = true := by
  simp only [readRow, clientDataColumns, clientCells, clientRecord, named,
    List.map_cons, List.map_nil, List.zip_cons_cons, List.zip_nil_right, List.cons.injEq,
    Prod.mk.injEq, true_and, and_true, readCell_bare, readCell_neutralized, readCell_digitsOnly,
    readCell_accountStatus, readCell_formatTimestamp, clientShown, Bool.and_eq_true,
    decide_eq_true_eq]

theorem subscription_agrees (row : SubscriptionRow) :
    readRow subscriptionSnapshotColumns (subscriptionCells row tz) =
      named (subscriptionRecord row tz) ↔ subscriptionShown row = true := by
  simp only [readRow, subscriptionSnapshotColumns, subscriptionCells, subscriptionRecord, named,
    List.map_cons, List.map_nil, List.zip_cons_cons, List.zip_nil_right, List.cons.injEq,
    Prod.mk.injEq, true_and, and_true, readCell_bare, readCell_neutralized, readCell_optional,
    readCell_formatTimestamp, subscriptionShown, clientShown, Bool.and_eq_true,
    decide_eq_true_eq, and_assoc]

theorem blocked_agrees (b : BlockedClient) :
    readRow blockedPhonesColumns (blockedPhoneCells b tz) = named (phoneBlockRecord b tz) ↔
      digitsOnly b.phone ≠ [] := by
  simp only [readRow, blockedPhonesColumns, blockedPhoneCells, phoneBlockRecord, named,
    List.map_cons, List.map_nil, List.zip_cons_cons, List.zip_nil_right, List.cons.injEq,
    Prod.mk.injEq, true_and, and_true, readCell_digitsOnly, readCell_formatTimestamp,
    orNone_eq_some]

end AgreementLemmas

open AgreementLemmas

/-- Reading a file gives the cells that were written. -/
theorem readTable_csvFile (columns : List String) (rows : List (List Cell)) :
    readTable (csvFile columns rows) = rows.map (readRow columns) := by
  unfold readTable csvFile
  rw [List.drop_succ_cons, List.drop_zero, parse_write]
  show (rows.map fun row => row.map Cell.written).map _ = _
  rw [List.map_map]
  rfl

/-! ## The catalog -/

namespace AgreementLemmas

def readService (svc : Service) (tz : Zone) : NamedRow :=
  readRow (serviceCatalogColumns.take 4) (serviceCells svc tz)

def readPlan (p : Plan) (tz : Zone) : NamedRow :=
  readRow (serviceCatalogColumns.drop 4) (planCells p tz)

def readPlans (tz : Zone) : List Plan → List NamedRow
  | [] => [readRow (serviceCatalogColumns.drop 4) noPlanCells]
  | plans => plans.map fun p => readPlan p tz

def catalogGroups (args : Arguments) : List (NamedRow × List NamedRow) :=
  args.services.map fun svc =>
    (readService svc args.tz, readPlans args.tz (args.plansByService svc.id))

theorem service_agrees (svc : Service) :
    readService svc tz = named (serviceRecord svc tz) ↔ serviceShown svc = true := by
  simp only [readService, readRow, serviceCatalogColumns, List.take_succ_cons, List.take_zero,
    serviceCells, serviceRecord, named, List.map_cons, List.map_nil, List.zip_cons_cons,
    List.zip_nil_right, List.cons.injEq, Prod.mk.injEq, true_and, and_true, readCell_neutralized,
    readCell_optional, readCell_formatTimestamp, serviceShown, Bool.and_eq_true, decide_eq_true_eq]

theorem plan_agrees (p : Plan) : readPlan p tz = named (planRecord p tz) ↔ p.name ≠ [] := by
  simp only [readPlan, readRow, serviceCatalogColumns, List.drop_succ_cons, List.drop_zero,
    planCells, planRecord, named, List.map_cons, List.map_nil, List.zip_cons_cons,
    List.zip_nil_right, List.cons.injEq, Prod.mk.injEq, true_and, and_true, readCell_neutralized,
    readCell_price, readCell_formatTimestamp]

theorem readPlans_ne_nil (plans : List Plan) : readPlans tz plans ≠ [] := by
  cases plans with
  | nil => exact List.cons_ne_nil _ _
  | cons p plans => exact List.cons_ne_nil _ _

theorem named_injective : Function.Injective named := by
  refine List.map_injective_iff.mpr fun entry other h => ?_
  rw [Prod.mk.injEq, String.toList_inj] at h
  exact Prod.ext h.1 h.2

theorem hasPlan_named (p : Plan) : hasPlan (named (planRecord p tz)) = true := rfl

theorem plans_agree (plans : List Plan) :
    (readPlans tz plans).filter hasPlan = (plans.map fun p => planRecord p tz).map named ↔
      ∀ p ∈ plans, p.name ≠ [] := by
  cases plans with
  | nil => exact iff_of_true rfl fun p hp => by cases hp
  | cons first plans =>
    show ((first :: plans).map fun p => readPlan p tz).filter hasPlan = _ ↔ _
    rw [List.map_map]
    have hrows : ((first :: plans).map fun p => readPlan p tz) =
        (first :: plans).map (named ∘ fun p => planRecord p tz) ↔
          ∀ p ∈ first :: plans, p.name ≠ [] := by
      rw [List.map_inj_left]
      exact forall₂_congr fun p _ => plan_agrees p
    constructor
    · intro h
      -- no row is left out, as there are as many as before
      have hlength : (((first :: plans).map fun p => readPlan p tz).filter hasPlan).length =
          ((first :: plans).map fun p => readPlan p tz).length := by
        rw [h, List.length_map, List.length_map]
      rw [List.filter_eq_self.mpr (List.length_filter_eq_length_iff.mp hlength)] at h
      exact hrows.mp h
    · intro h
      have hread := hrows.mpr h
      rw [hread]
      refine List.filter_eq_self.mpr fun row hrow => ?_
      obtain ⟨p, -, rfl⟩ := List.mem_map.mp hrow
      exact hasPlan_named p

theorem readTable_catalog :
    (readTable (csvFile serviceCatalogColumns (dataRows args).serviceCatalog)).map
      (fun row => (row.take 4, row.drop 4)) = entries (catalogGroups args) := by
  rw [readTable_csvFile]
  unfold dataRows serviceCatalogRows entries catalogGroups
  rw [List.map_map, List.map_flatMap, List.flatMap_map]
  refine List.flatMap_congr fun svc _ => ?_
  cases hplans : args.plansByService svc.id with
  | nil => rfl
  | cons first plans =>
    simp only [readPlans, List.map_map]
    rfl

end AgreementLemmas

theorem catalog_agrees_iff (args : Arguments) (generatedAt : Text) :
    readCatalog (buildZip args generatedAt).serviceCatalog =
        (buildJson args generatedAt).serviceCatalog.map
          (fun record => (named record.service, record.plans.map named)) ↔
      (∀ svc ∈ args.services, serviceShown svc = true) ∧
        (∀ svc ∈ args.services, ∀ p ∈ args.plansByService svc.id, p.name ≠ []) ∧
          (args.services.map fun svc => serviceRecord svc args.tz).IsChain (· ≠ ·) := by
  have hread : readCatalog (buildZip args generatedAt).serviceCatalog =
      (group (entries (catalogGroups args))).map fun g => (g.1, g.2.filter hasPlan) := by
    show ((group ((readTable (csvFile serviceCatalogColumns (dataRows args).serviceCatalog)).map
      fun row => (row.take 4, row.drop 4))).map fun g => (g.1, g.2.filter hasPlan)) = _
    rw [readTable_catalog]
  have hdata : (buildJson args generatedAt).serviceCatalog.map
      (fun record => (named record.service, record.plans.map named)) =
        args.services.map fun svc => (named (serviceRecord svc args.tz),
          ((args.plansByService svc.id).map fun p => planRecord p args.tz).map named) := by
    show (args.services.map _).map _ = _
    rw [List.map_map]
    rfl
  have hnonempty : ∀ g ∈ catalogGroups args, g.2 ≠ [] := by
    intro g hg
    obtain ⟨svc, -, rfl⟩ := List.mem_map.mp hg
    exact readPlans_ne_nil _
  -- with the groups as they were, the files agree service by service
  have hservices : (catalogGroups args).map (fun g => (g.1, g.2.filter hasPlan)) =
      (args.services.map fun svc => (named (serviceRecord svc args.tz),
        ((args.plansByService svc.id).map fun p => planRecord p args.tz).map named)) ↔
      ∀ svc ∈ args.services, serviceShown svc = true ∧
        ∀ p ∈ args.plansByService svc.id, p.name ≠ [] := by
    unfold catalogGroups
    rw [List.map_map, List.map_inj_left]
    refine forall₂_congr fun svc _ => ?_
    show (readService svc args.tz, (readPlans args.tz _).filter hasPlan) = _ ↔ _
    rw [Prod.mk.injEq, service_agrees, plans_agree]
  have hseparated : (∀ svc ∈ args.services, serviceShown svc = true) →
      (Separated (catalogGroups args) ↔
        (args.services.map fun svc => serviceRecord svc args.tz).IsChain (· ≠ ·)) := by
    intro hshown
    have hnames : (catalogGroups args).map Prod.fst =
        (args.services.map fun svc => serviceRecord svc args.tz).map named := by
      unfold catalogGroups
      rw [List.map_map, List.map_map]
      exact List.map_inj_left.mpr fun svc hsvc => (service_agrees svc).mpr (hshown svc hsvc)
    unfold Separated
    rw [hnames, List.isChain_map]
    simp only [ne_eq, named_injective.eq_iff]
  rw [hread, hdata]
  constructor
  · intro h
    have hlength : (group (entries (catalogGroups args))).length = (catalogGroups args).length := by
      have hsame := congrArg List.length h
      rw [List.length_map, List.length_map] at hsame
      rw [hsame, catalogGroups, List.length_map]
    have hgroup := group_entries_of_length hnonempty hlength
    rw [hgroup] at h
    have hall := hservices.mp h
    have hshown : ∀ svc ∈ args.services, serviceShown svc = true := fun svc hsvc => (hall svc hsvc).1
    refine ⟨hshown, fun svc hsvc => (hall svc hsvc).2, (hseparated hshown).mp ?_⟩
    rw [← hgroup]
    exact separated_group
  · rintro ⟨hshown, hplans, hdifferent⟩
    rw [group_entries hnonempty ((hseparated hshown).mpr hdifferent)]
    exact hservices.mpr fun svc hsvc => ⟨hshown svc hsvc, hplans svc hsvc⟩

/-! ## The bundle -/

namespace AgreementLemmas

theorem profiles_agree (generatedAt : Text) :
    readTable (buildZip args generatedAt).accountProfile =
      [named (buildZip args generatedAt).data.accountProfile] ↔ profileShown args = true := by
  show readTable (csvFile _ [_]) = [_] ↔ _
  rw [readTable_csvFile, List.map_singleton, List.singleton_inj]
  exact profile_agrees

theorem clients_agree (generatedAt : Text) :
    readTable (buildZip args generatedAt).clientData =
        (buildZip args generatedAt).data.clientAccounts.map named ↔
      ∀ c ∈ args.clients, clientShown c = true := by
  show readTable (csvFile _ ((sortedClients args.clients).map _)) =
    ((sortedClients args.clients).map _).map named ↔ _
  rw [readTable_csvFile, List.map_map, List.map_map, List.map_inj_left]
  refine forall_congr' fun c => imp_congr List.mem_mergeSort ?_
  exact client_agrees c

theorem subscriptions_agree (generatedAt : Text) :
    readTable (buildZip args generatedAt).subscriptionSnapshot =
        (buildZip args generatedAt).data.subscriptionSnapshot.map named ↔
      ∀ row ∈ args.subscriptionRows, subscriptionShown row = true := by
  show readTable (csvFile _ (args.subscriptionRows.map _)) =
    (args.subscriptionRows.map _).map named ↔ _
  rw [readTable_csvFile, List.map_map, List.map_map, List.map_inj_left]
  exact forall₂_congr fun row _ => subscription_agrees row

theorem blockedPhones_agree (generatedAt : Text) :
    readTable (buildZip args generatedAt).blockedPhones =
        (buildZip args generatedAt).data.blockedPhoneList.map named ↔
      ∀ b ∈ args.blockedPhones, orEmpty b.phone ≠ [] → digitsOnly b.phone ≠ [] := by
  show readTable (csvFile _ ((phoneBlocks args.blockedPhones).map _)) =
    ((phoneBlocks args.blockedPhones).map _).map named ↔ _
  rw [readTable_csvFile, List.map_map, List.map_map, List.map_inj_left]
  refine forall_congr' fun b => ?_
  have hmem : b ∈ phoneBlocks args.blockedPhones ↔ b ∈ args.blockedPhones ∧ orEmpty b.phone ≠ [] := by
    rw [phoneBlocks, List.mem_mergeSort, List.mem_filter, decide_eq_true_eq]
  rw [hmem, and_imp]
  exact imp_congr_right fun _ => imp_congr_right fun _ => blocked_agrees b

theorem recordCounts_buildJson (generatedAt : Text) :
    (buildJson args generatedAt).recordCounts =
      { accountProfile := 1
        clientAccounts := (buildJson args generatedAt).clientAccounts.length
        serviceCatalog := (buildJson args generatedAt).serviceCatalog.length
        catalogPlans :=
          ((buildJson args generatedAt).serviceCatalog.map fun record => record.plans.length).sum
        subscriptionSnapshot := (buildJson args generatedAt).subscriptionSnapshot.length
        blockedPhoneList := (buildJson args generatedAt).blockedPhoneList.length } := by
  have hplans : (buildJson args generatedAt).serviceCatalog.map (fun record => record.plans.length) =
      args.services.map fun svc => (args.plansByService svc.id).length := by
    show (args.services.map _).map _ = _
    rw [List.map_map]
    refine List.map_inj_left.mpr fun svc _ => ?_
    exact List.length_map _
  rw [hplans]
  rfl

end AgreementLemmas

/-- The CSV files of a bundle and its JSON file agree if and only if no value is one that they
show differently and services in a row look different. -/
theorem bundle_agrees_iff (args : Arguments) (generatedAt : Text) :
    Agrees (buildZip args generatedAt) ↔ Shown args := by
  constructor
  · intro h
    obtain ⟨hservice, hplan, hdifferent⟩ := (catalog_agrees_iff args generatedAt).mp h.serviceCatalog
    exact ⟨(profiles_agree generatedAt).mp h.accountProfile,
      (clients_agree generatedAt).mp h.clientAccounts, hservice, hplan,
      (subscriptions_agree generatedAt).mp h.subscriptionSnapshot,
      (blockedPhones_agree generatedAt).mp h.blockedPhoneList, hdifferent⟩
  · intro h
    have hprofile := (profiles_agree generatedAt).mpr h.profile
    have hclients := (clients_agree generatedAt).mpr h.client
    have hcatalog := (catalog_agrees_iff args generatedAt).mpr ⟨h.service, h.plan, h.different⟩
    have hsubscriptions := (subscriptions_agree generatedAt).mpr h.subscription
    have hblocked := (blockedPhones_agree generatedAt).mpr h.blocked
    refine ⟨hprofile, hclients, hcatalog, hsubscriptions, hblocked, ?_⟩
    rw [hprofile, hclients, hcatalog, hsubscriptions, hblocked]
    simp only [List.length_map, List.map_map, List.length_singleton, Function.comp_def]
    exact recordCounts_buildJson generatedAt

def exTenant : Tenant := ⟨some ['A', 'n', 'a'], none, some ['a', 'n', 'a'], some ['p', 'r', 'o']⟩

/-- A missing phone is an empty cell in CSV and an empty text in JSON. -/
theorem missing_phone_differs : ¬∀ (args : Arguments) (generatedAt : Text),
    Agrees (buildZip args generatedAt) := by
  intro hall
  have hprofile := (hall (exArguments exTenant) []).accountProfile
  have hshown := (profiles_agree []).mp hprofile
  have hfalse : profileShown (exArguments exTenant) = false := by decide
  rw [hfalse] at hshown
  cases hshown

end Trackpal.Export.Bundle

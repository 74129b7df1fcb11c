import Trackpal.Export.Bundle

/-!
# Formulas in a bundle

`_neutralize_csv_value` puts a tab before a value that a spreadsheet takes for a formula. The
builders call it for names only, so the other columns are as harmless as what they are given.

Results:
1. `neutral_neutralized`, `neutral_plain`: which cells are neutral.
2. `no_formula_iff`.
-/

namespace Trackpal.Export.Bundle

open Trackpal.Protocol Trackpal.Foundation.Csv BundleLemmas

variable {value : Text} {tz : Zone} {args : Arguments}

/-- What is written does not begin like a formula, or is the value behind a tab. -/
def Cell.Neutral (cell : Cell) : Prop :=
  formula cell.written = false ∨ cell.written = '\t' :: cell.value

def DataRows.all (rows : DataRows) : List (List Cell) :=
  rows.accountProfile ++ rows.clientData ++ rows.serviceCatalog ++ rows.subscriptionSnapshot ++
    rows.blockedPhones

def profileValues (args : Arguments) : List Text :=
  [orEmpty args.tenant.name, orEmpty args.tenant.whatsappPhone, orEmpty args.tenant.owner,
    orEmpty args.tenant.plan, args.locale, args.tz.name, orEmpty args.currency]

def plainValues (row : SubscriptionRow) : List Text :=
  [orEmpty row.client.username, orEmpty row.subscription.streamingEmail,
    orEmpty row.subscription.profileName, orEmpty row.subscription.durationType,
    orEmpty row.subscription.status]

/-- No value of a column that is not neutralized begins like a formula. -/
structure Harmless (args : Arguments) : Prop where
  profile : ∀ value ∈ profileValues args, formula value = false
  username : ∀ c ∈ args.clients, formula (orEmpty c.username) = false
  icon : ∀ svc ∈ args.services, formula (orEmpty svc.icon) = false
  price : ∀ svc ∈ args.services, ∀ p ∈ args.plansByService svc.id, ∀ price ∈ p.price, 0 ≤ price
  subscription : ∀ row ∈ args.subscriptionRows, ∀ value ∈ plainValues row, formula value = false

theorem neutral_neutralized (value : Text) : (neutralized value).Neutral := by
  by_cases hformula : formula value = true
  · exact .inr (if_pos hformula)
  · refine .inl ?_
    rw [show (neutralized value).written = value from if_neg hformula]
    exact Bool.eq_false_iff.mpr hformula

theorem neutral_plain : (plain value).Neutral ↔ formula value = false := by
  refine ⟨fun h => h.resolve_right fun htab => ?_, .inl⟩
  have hlength := congrArg List.length htab
  rw [List.length_cons] at hlength
  exact Nat.succ_ne_self _ hlength.symm

namespace FormulaLemmas

theorem neutral_profile :
    (∀ cell ∈ accountProfileCells args.tenant args.locale args.tz args.currency, cell.Neutral) ↔
      ∀ value ∈ profileValues args, formula value = false := by
  simp [accountProfileCells, profileValues, neutral_plain]

theorem neutral_client (c : Client) :
    (∀ cell ∈ clientCells c tz, cell.Neutral) ↔ formula (orEmpty c.username) = false := by
  simp [clientCells, neutral_plain, neutral_neutralized, formula_digitsOnly,
    formula_accountStatus, formula_formatTimestamp]

theorem neutral_service (svc : Service) :
    (∀ cell ∈ serviceCells svc tz, cell.Neutral) ↔ formula (orEmpty svc.icon) = false := by
  simp [serviceCells, neutral_plain, neutral_neutralized, formula_formatTimestamp]

theorem neutral_plan (p : Plan) :
    (∀ cell ∈ planCells p tz, cell.Neutral) ↔ ∀ price ∈ p.price, 0 ≤ price := by
  have hprice : formula ((p.price.map formatPrice).getD []) = false ↔ ∀ price ∈ p.price, 0 ≤ price := by
    cases p.price with
    | none => simp [formula]
    | some price => simp [formula_formatPrice]
  simp only [planCells, List.forall_mem_cons, neutral_plain, neutral_neutralized,
    formula_formatTimestamp, hprice]
  simp

theorem neutral_noPlan : ∀ cell ∈ noPlanCells, cell.Neutral := by
  simp [noPlanCells, neutral_plain, formula]

theorem neutral_catalog :
    (∀ row ∈ serviceCatalogRows args.services args.plansByService tz, ∀ cell ∈ row, cell.Neutral) ↔
      (∀ svc ∈ args.services, formula (orEmpty svc.icon) = false) ∧
        ∀ svc ∈ args.services, ∀ p ∈ args.plansByService svc.id, ∀ price ∈ p.price, 0 ≤ price := by
  unfold serviceCatalogRows
  rw [List.forall_mem_flatMap, ← forall₂_and]
  refine forall₂_congr fun svc _ => ?_
  split
  · next hplans =>
    simp only [List.forall_mem_singleton, List.forall_mem_append, neutral_service, hplans]
    exact ⟨fun h => ⟨h.1, fun p hp => by cases hp⟩, fun h => ⟨h.1, neutral_noPlan⟩⟩
  · next plans hplans =>
    simp only [List.forall_mem_map, List.forall_mem_append, neutral_service, neutral_plan]
    refine ⟨fun h => ⟨?_, fun p hp => (h p hp).2⟩, fun h p hp => ⟨h.1, h.2 p hp⟩⟩
    obtain ⟨p, hp⟩ := List.exists_mem_of_ne_nil _ hplans
    exact (h p hp).1

theorem neutral_subscription (row : SubscriptionRow) :
    (∀ cell ∈ subscriptionCells row tz, cell.Neutral) ↔
      ∀ value ∈ plainValues row, formula value = false := by
  simp [subscriptionCells, plainValues, neutral_plain, neutral_neutralized,
    formula_formatTimestamp]

theorem neutral_blockedPhone (b : BlockedClient) : ∀ cell ∈ blockedPhoneCells b tz, cell.Neutral := by
  simp [blockedPhoneCells, neutral_plain, formula_digitsOnly, formula_formatTimestamp]

end FormulaLemmas

open FormulaLemmas

/-- Every data cell is neutral if and only if no value of a column that is not neutralized
begins like a formula. -/
theorem no_formula_iff (args : Arguments) :
    (∀ row ∈ (dataRows args).all, ∀ cell ∈ row, cell.Neutral) ↔ Harmless args := by
  have hclients : (∀ c ∈ sortedClients args.clients, formula (orEmpty c.username) = false) ↔
      ∀ c ∈ args.clients, formula (orEmpty c.username) = false := by
    simp only [sortedClients, List.mem_mergeSort]
  simp only [DataRows.all, dataRows, List.forall_mem_append, List.forall_mem_map,
    List.forall_mem_singleton, neutral_profile, neutral_client, hclients, neutral_catalog,
    neutral_subscription]
  constructor
  · rintro ⟨⟨⟨⟨hprofile, husername⟩, hicon, hprice⟩, hsubscription⟩, -⟩
    exact ⟨hprofile, husername, hicon, hprice, hsubscription⟩
  · intro h
    exact ⟨⟨⟨⟨h.profile, h.username⟩, h.icon, h.price⟩, h.subscription⟩,
      fun b _ => neutral_blockedPhone b⟩

def exFormulaTenant : Tenant :=
  ⟨some ['=', '1', '+', '1'], some ['5', '5'], some ['a', 'n', 'a'], some ['p', 'r', 'o']⟩

/-- The name of the tenant is written as it is. -/
theorem formula_in_profile :
    ¬∀ args : Arguments, ∀ row ∈ (dataRows args).all, ∀ cell ∈ row, cell.Neutral := by
  intro hall
  have hcell := hall (exArguments exFormulaTenant)
    (accountProfileCells exFormulaTenant ['e', 'n'] exZone none) List.mem_cons_self
    (plain ['=', '1', '+', '1']) List.mem_cons_self
  have hformula := neutral_plain.mp hcell
  cases hformula

end Trackpal.Export.Bundle

import Trackpal.Foundation.IsoFormat
import Trackpal.Foundation.Keyset
import Trackpal.Subscriptions.Isolation

/-!
# The pages of a poll

The rows of the query in the order of the pages, the text of a cursor, and the walk that a
caller makes who follows the cursors to the end, at one time.

Results:
1. `parseCursor_cursorText`: `_parse_cursor` reads back the cursor that a page gives.
2. `walk_iff`.
-/

namespace Trackpal.Subscriptions

open Trackpal.Protocol Trackpal.Foundation

/-! ## The order of the pages -/

/-- `ORDER BY expires_at ASC, id ASC`, as a relation. -/
def Precedes (a b : Subscription) : Prop := expiresBefore a b = true

instance : DecidableRel Precedes := fun a b => inferInstanceAs (Decidable (expiresBefore a b = true))

def Poll.active (poll : Poll) : List Subscription :=
  (poll.rows.subscriptions.select fun sub => sub.status = .active && poll.now < sub.expiresAt
    ).insertionSort Precedes

/-- The rows of the query before its limit. -/
def Poll.matching (poll : Poll) : List Subscription := poll.active.filter (afterCursor poll.cursor)

/-- How many subscriptions come before one on the pages. -/
def Poll.ahead (poll : Poll) (sub : Subscription) : Nat :=
  poll.matching.countP fun a => decide (Precedes a sub) && decide (a ≠ sub)

variable {poll : Poll} {sub a b c : Subscription}

theorem precedes_iff : Precedes a b ↔
    a.expiresAt < b.expiresAt ∨ a.expiresAt = b.expiresAt ∧ a.id.int ≤ b.id.int := by
  simp [Precedes, expiresBefore]

instance : Std.Total Precedes := ⟨fun a b => by
  rw [precedes_iff, precedes_iff]
  omega⟩

instance : IsTrans Subscription Precedes := ⟨fun a b c hab hbc => by
  rw [precedes_iff] at hab hbc ⊢
  omega⟩

theorem uuid_of_int {x y : UUID} (h : x.int = y.int) : x = y := by
  cases x
  cases y
  exact congrArg UUID.mk h

theorem apart_rows (t : Table Subscription.id) : Keyset.Apart Precedes t.rows := by
  intro a b ha hb hab hba
  rw [precedes_iff] at hab hba
  exact List.inj_on_of_nodup_map t.nodup ha hb (uuid_of_int (by omega))

theorem apart_of_subset {rows rows' : List Subscription} (h : Keyset.Apart Precedes rows)
    (hsub : ∀ a ∈ rows', a ∈ rows) : Keyset.Apart Precedes rows' := fun a b ha hb =>
  h a b (hsub a ha) (hsub b hb)

theorem mem_active : sub ∈ poll.active ↔ sub ∈ poll.rows.subscriptions.rows ∧
    sub.status = .active ∧ poll.now < sub.expiresAt := by
  simp [Poll.active, Table.select, List.mem_insertionSort]

theorem mem_matching : sub ∈ poll.matching ↔ sub ∈ poll.active ∧
    afterCursor poll.cursor sub = true := List.mem_filter

theorem pairwise_active : poll.active.Pairwise Precedes := List.pairwise_insertionSort _ _

theorem apart_active : Keyset.Apart Precedes poll.active :=
  apart_of_subset (apart_rows _) fun _ h => (mem_active.mp h).1

theorem nodup_active : poll.active.Nodup := by
  have hrows : poll.rows.subscriptions.rows.Nodup := List.Nodup.of_map _ poll.rows.subscriptions.nodup
  exact (List.perm_insertionSort _ _).nodup_iff.mpr (hrows.filter _)

theorem pairwise_matching : poll.matching.Pairwise Precedes := pairwise_active.filter _

theorem apart_matching : Keyset.Apart Precedes poll.matching :=
  apart_of_subset apart_active fun _ h => (mem_matching.mp h).1

theorem nodup_matching : poll.matching.Nodup := nodup_active.filter _

theorem selected_eq : poll.selected = poll.matching.take (poll.pageSize + 1) := by
  have hapart : Keyset.Apart Precedes (poll.rows.subscriptions.select fun sub =>
      sub.status = .active && poll.now < sub.expiresAt) :=
    apart_of_subset (apart_rows _) fun _ h => List.mem_of_mem_filter h
  unfold Poll.matching Poll.active
  rw [← Keyset.insertionSort_filter hapart, Table.select, List.filter_filter]
  unfold Poll.selected Table.select
  congr 3
  funext sub
  exact Bool.and_comm _ _

theorem hasMore_iff : poll.hasMore = true ↔ poll.pageSize < poll.matching.length := by
  rw [Poll.hasMore, decide_eq_true_iff, selected_eq, List.length_take]
  omega

theorem page_eq : poll.page = poll.matching.take poll.pageSize := by
  unfold Poll.page
  split
  · rw [selected_eq, List.take_take, Nat.min_eq_left (Nat.le_succ _)]
  · next h =>
    have hle := Nat.le_of_not_lt ((not_congr hasMore_iff).mp h)
    rw [selected_eq, List.take_of_length_le hle, List.take_of_length_le (Nat.le_succ_of_le hle)]

/-- A subscription is on the page if it matches and fewer come before it than the page has. -/
theorem mem_page_iff : sub ∈ poll.page ↔ sub ∈ poll.matching ∧ poll.ahead sub < poll.pageSize := by
  rw [page_eq]
  constructor
  · intro h
    have hmem := List.mem_of_mem_take h
    exact ⟨hmem, (Keyset.mem_take_iff pairwise_matching apart_matching nodup_matching hmem).mp h⟩
  · rintro ⟨hmem, hahead⟩
    exact (Keyset.mem_take_iff pairwise_matching apart_matching nodup_matching hmem).mpr hahead

/-! ## The text of a cursor -/

def uuidText (id : UUID) : List Char :=
  let hex := writeNumeral 16 32 id.int
  hex.take 8 ++ '-' :: ((hex.drop 8).take 4 ++ '-' :: ((hex.drop 12).take 4 ++ '-' ::
    ((hex.drop 16).take 4 ++ '-' :: hex.drop 20)))

/-- `uuid.UUID(text)`, for a text without a prefix and braces. -/
def uuidOfText (text : List Char) : Option UUID :=
  let hex := text.filter (· ≠ '-')
  if hex.length = 32 then (readNumeral 16 32 0 hex).map fun read => ⟨read.1⟩ else none

/-- `rsplit(sep, 1)`, where the separator occurs. -/
def rsplit (sep : Char) : List Char → Option (List Char × List Char)
  | [] => none
  | c :: text =>
    match rsplit sep text with
    | some (left, right) => some (c :: left, right)
    | none => if c = sep then some ([], text) else none

/-- `_parse_cursor`; a naive date-time is one in UTC. -/
def parseCursor (cursor : List Char) : Option (Int × Option UUID) :=
  match rsplit '|' cursor with
  | some (dtStr, idStr) => do
    let cursorDt ← DateTime.fromisoformat dtStr
    let cursorId ← uuidOfText idStr
    some (cursorDt.instant, some cursorId)
  | none => do
    let cursorDt ← DateTime.fromisoformat cursor
    some (cursorDt.instant, none)

def cursorText (expiresAt : DateTime) (id : UUID) : List Char :=
  expiresAt.isoformat ++ '|' :: uuidText id

namespace PageLemmas

theorem digit_ne {c : Char} {base width n : Nat} (hpos : 0 < base) (hbase : base ≤ 16)
    (hc : ∀ d < 16, Nat.digitChar d ≠ c) : c ∉ writeNumeral base width n := by
  induction width with
  | zero => exact List.not_mem_nil
  | succ width ih =>
    rw [writeNumeral, List.mem_cons, not_or]
    exact ⟨(hc _ (Nat.lt_of_lt_of_le (Nat.mod_lt _ hpos) hbase)).symm, ih⟩

theorem length_writeNumeral {base width n : Nat} : (writeNumeral base width n).length = width := by
  induction width with
  | zero => rfl
  | succ width ih => rw [writeNumeral, List.length_cons, ih]

theorem rsplit_of_not_mem {sep : Char} {text : List Char} (h : sep ∉ text) :
    rsplit sep text = none := by
  induction text with
  | nil => rfl
  | cons c text ih =>
    rw [List.mem_cons, not_or] at h
    rw [rsplit, ih h.2]
    exact if_neg (Ne.symm h.1)

theorem rsplit_append {sep : Char} {left right : List Char} (h : sep ∉ right) :
    rsplit sep (left ++ sep :: right) = some (left, right) := by
  induction left with
  | nil =>
    rw [List.nil_append, rsplit, rsplit_of_not_mem h]
    exact if_pos rfl
  | cons c left ih => rw [List.cons_append, rsplit, ih]

theorem filter_hex {hex : List Char} (h : '-' ∉ hex) : hex.filter (· ≠ '-') = hex :=
  List.filter_eq_self.mpr fun c hc => by
    have hne : c ≠ '-' := fun heq => h (heq ▸ hc)
    simpa using hne

theorem filter_groups {hex : List Char} (h : '-' ∉ hex) :
    (hex.take 8 ++ '-' :: ((hex.drop 8).take 4 ++ '-' :: ((hex.drop 12).take 4 ++ '-' ::
      ((hex.drop 16).take 4 ++ '-' :: hex.drop 20)))).filter (· ≠ '-') = hex := by
  have htake : ∀ n m, '-' ∉ (hex.drop n).take m := fun n m hmem =>
    h (List.mem_of_mem_drop (List.mem_of_mem_take hmem))
  have hdrop : '-' ∉ hex.drop 20 := fun hmem => h (List.mem_of_mem_drop hmem)
  have hfirst : '-' ∉ hex.take 8 := fun hmem => h (List.mem_of_mem_take hmem)
  have hdash : ∀ rest : List Char, ('-' :: rest).filter (· ≠ '-') = rest.filter (· ≠ '-') :=
    fun rest => List.filter_cons_of_neg (by decide)
  have hsplit : ∀ n, hex.drop n = (hex.drop n).take 4 ++ hex.drop (n + 4) := fun n => by
    rw [← List.drop_drop, List.take_append_drop]
  simp only [List.filter_append, hdash, filter_hex hfirst, filter_hex (htake _ _),
    filter_hex hdrop]
  rw [← hsplit 16, ← hsplit 12, ← hsplit 8, List.take_append_drop]

theorem uuidOfText_uuidText {id : UUID} (h : id.int < 2 ^ 128) :
    uuidOfText (uuidText id) = some id := by
  have hdash : '-' ∉ writeNumeral 16 32 id.int := digit_ne (by decide) (by decide) (by decide)
  have hread : readNumeral 16 32 0 (writeNumeral 16 32 id.int ++ []) = some (id.int, []) :=
    read_write (by decide) (by decide) (Nat.lt_of_lt_of_eq h (by norm_num))
  rw [List.append_nil] at hread
  unfold uuidOfText uuidText
  dsimp only
  rw [filter_groups hdash, if_pos length_writeNumeral, hread]
  rfl

theorem bar_not_mem {id : UUID} : '|' ∉ uuidText id := by
  have hhex : '|' ∉ writeNumeral 16 32 id.int := digit_ne (by decide) (by decide) (by decide)
  unfold uuidText
  intro hmem
  simp only [List.mem_append, List.mem_cons, false_or, Char.reduceEq] at hmem
  rcases hmem with h | h | h | h | h
  · exact hhex (List.mem_of_mem_take h)
  · exact hhex (List.mem_of_mem_drop (List.mem_of_mem_take h))
  · exact hhex (List.mem_of_mem_drop (List.mem_of_mem_take h))
  · exact hhex (List.mem_of_mem_drop (List.mem_of_mem_take h))
  · exact hhex (List.mem_of_mem_drop h)

end PageLemmas

open PageLemmas

theorem parseCursor_cursorText {dt : DateTime} {id : UUID} (hdt : dt.Valid) (hid : id.int < 2 ^ 128) :
    parseCursor (cursorText dt id) = some (dt.instant, some id) := by
  unfold parseCursor cursorText
  rw [rsplit_append bar_not_mem]
  simp only [DateTime.fromisoformat_isoformat hdt, uuidOfText_uuidText hid, Option.bind_eq_bind,
    Option.bind_some]

/-! ## Following the cursors -/

/-- The polls of a caller who follows the cursors, at one time: the subscriptions of their pages,
one page after the other. There are none where a poll raises, or where the fuel ends. `load` is
the date-time that the driver has for an instant. -/
def walk (env : Environment) (load : Int → DateTime) (poll : Poll) :
    Nat → ReminderLogs → Option (Int × Option UUID) → Option (List Subscription)
  | 0, _, _ => none
  | fuel + 1, logs, cursor => do
    let p := { poll with cursor }
    let response ← generateReminderPayloads env logs p
    match response.nextCursor with
    | none => some p.page
    | some (expiresAt, id) =>
      let rest ← walk env load poll fuel (record logs response.items)
        (parseCursor (cursorText (load expiresAt) id))
      some (p.page ++ rest)

/-- What the database gives: a date-time of the instant that is stored, and ids of 128 bits. -/
def Loads (load : Int → DateTime) (poll : Poll) : Prop :=
  ∀ sub ∈ poll.rows.subscriptions.rows, (load sub.expiresAt).Valid ∧
    (load sub.expiresAt).instant = sub.expiresAt ∧ sub.id.int < 2 ^ 128

def Poll.cursorAfter (poll : Poll) (count : Nat) : Option (Int × Option UUID) :=
  if count = 0 then none else (poll.active[count - 1]?).map fun sub => (sub.expiresAt, some sub.id)

def Poll.number (poll : Poll) (k : Nat) : Poll :=
  { poll with cursor := poll.cursorAfter (k * poll.pageSize) }

/-- Following the cursors ends, and visits each active subscription that expires later once, in
the order of the query. -/
def VisitsAll (env : Environment) (load : Int → DateTime) (logs : ReminderLogs) (poll : Poll) :
    Prop :=
  ∃ fuel visited, walk env load poll fuel logs none = some visited ∧ visited.Pairwise Precedes ∧
    visited.Nodup ∧ ∀ sub, sub ∈ visited ↔ sub ∈ poll.rows.subscriptions.rows ∧
      sub.status = .active ∧ poll.now < sub.expiresAt

variable {env : Environment} {load : Int → DateTime} {logs logs' : ReminderLogs} {k : Nat}
  {key : ReminderKey} {item : Item} {visited : List Subscription}

@[simp] theorem active_number : (poll.number k).active = poll.active := rfl

@[simp] theorem pageSize_number : (poll.number k).pageSize = poll.pageSize := rfl

namespace PageLemmas

theorem afterCursor_iff :
    afterCursor (some (a.expiresAt, some a.id)) b = !decide (Precedes b a) := by
  rw [Bool.eq_iff_iff]
  simp only [afterCursor, Bool.or_eq_true, Bool.and_eq_true, decide_eq_true_eq, Bool.not_eq_true',
    decide_eq_false_iff_not, precedes_iff]
  omega

theorem filter_cursorAfter {count : Nat} (h : count ≤ poll.active.length) :
    poll.active.filter (afterCursor (poll.cursorAfter count)) = poll.active.drop count := by
  cases count with
  | zero => exact List.filter_eq_self.mpr fun _ _ => rfl
  | succ i =>
    have hi : i < poll.active.length := h
    have hsplit : poll.active.take i ++ poll.active[i] :: poll.active.drop (i + 1) = poll.active := by
      rw [← List.drop_eq_getElem_cons hi, List.take_append_drop]
    have hcursor : poll.cursorAfter (i + 1) =
        some (poll.active[i].expiresAt, some poll.active[i].id) := by
      rw [Poll.cursorAfter, if_neg (Nat.succ_ne_zero i), Nat.add_sub_cancel,
        List.getElem?_eq_getElem hi]
      rfl
    have hafter : afterCursor (poll.cursorAfter (i + 1)) =
        fun b => !decide (Precedes b poll.active[i]) := by
      rw [hcursor]
      exact funext fun b => afterCursor_iff
    have hfilter : (poll.active.take i ++ poll.active[i] :: poll.active.drop (i + 1)).filter
        (fun b => !decide (Precedes b poll.active[i])) = poll.active.drop (i + 1) := by
      refine Keyset.filter_after ?_ ?_ ?_
      · rw [hsplit]
        exact pairwise_active
      · rw [hsplit]
        exact apart_active
      · rw [hsplit]
        exact nodup_active
    rw [hsplit] at hfilter
    rw [hafter, hfilter]

theorem matching_number (h : k * poll.pageSize ≤ poll.active.length) :
    (poll.number k).matching = poll.active.drop (k * poll.pageSize) :=
  filter_cursorAfter h

theorem page_number (h : k * poll.pageSize ≤ poll.active.length) :
    (poll.number k).page = (poll.active.drop (k * poll.pageSize)).take poll.pageSize := by
  rw [page_eq, matching_number h, pageSize_number]

theorem hasMore_number (h : k * poll.pageSize ≤ poll.active.length) :
    (poll.number k).hasMore = true ↔ (k + 1) * poll.pageSize < poll.active.length := by
  rw [hasMore_iff, matching_number h, pageSize_number, List.length_drop, Nat.succ_mul]
  omega

theorem getLast_page (hsize : 1 ≤ poll.pageSize)
    (h : (k + 1) * poll.pageSize < poll.active.length) :
    (poll.number k).page.getLast? = some poll.active[(k + 1) * poll.pageSize - 1] := by
  have hle : k * poll.pageSize ≤ poll.active.length := by
    rw [Nat.succ_mul] at h
    omega
  rw [page_number hle, List.getLast?_eq_getElem?, List.length_take, List.length_drop,
    List.getElem?_take_of_lt (by rw [Nat.succ_mul] at h; omega), List.getElem?_drop,
    List.getElem?_eq_getElem (by rw [Nat.succ_mul] at h; omega)]
  congr 2
  rw [Nat.succ_mul] at h ⊢
  omega

theorem cursor_number (hsize : 1 ≤ poll.pageSize) (hloads : Loads load poll)
    (h : (k + 1) * poll.pageSize < poll.active.length) :
    parseCursor (cursorText (load (poll.active[(k + 1) * poll.pageSize - 1]).expiresAt)
      (poll.active[(k + 1) * poll.pageSize - 1]).id) = (poll.number (k + 1)).cursor := by
  have hmem : poll.active[(k + 1) * poll.pageSize - 1] ∈ poll.active := List.getElem_mem _
  obtain ⟨hvalid, hinstant, hid⟩ := hloads _ (mem_active.mp hmem).1
  have hne : (k + 1) * poll.pageSize ≠ 0 := Nat.mul_ne_zero (Nat.succ_ne_zero k) (by omega)
  rw [parseCursor_cursorText hvalid hid, hinstant, Poll.number, Poll.cursorAfter, if_neg hne,
    List.getElem?_eq_getElem (by omega)]
  rfl

theorem of_response {response : Response}
    (h : generateReminderPayloads env logs poll = some response) :
    response.items = returned env logs poll ∧ response.nextCursor =
      (if poll.hasMore then poll.page.getLast? else none).map fun sub => (sub.expiresAt, sub.id) := by
  refine ⟨by rw [returned, h]; rfl, ?_⟩
  unfold generateReminderPayloads at h
  split at h
  · next hempty =>
    cases h
    rw [hempty]
    split <;> rfl
  · obtain ⟨b, -, hrest⟩ := Option.bind_eq_some_iff.mp h
    obtain ⟨-, -, hrest⟩ := Option.bind_eq_some_iff.mp hrest
    obtain ⟨-, -, hrest⟩ := Option.bind_eq_some_iff.mp hrest
    cases hrest
    rfl

theorem walk_last {fuel : Nat} {response : Response} (hle : k * poll.pageSize ≤ poll.active.length)
    (hlast : ¬(k + 1) * poll.pageSize < poll.active.length)
    (h : generateReminderPayloads env logs (poll.number k) = some response) :
    walk env load poll (fuel + 1) logs (poll.number k).cursor =
      some (poll.active.drop (k * poll.pageSize)) := by
  have hmore : (poll.number k).hasMore = false := by
    rw [Bool.eq_false_iff]
    exact (not_congr (hasMore_number hle)).mpr hlast
  have hnext : response.nextCursor = none := by
    rw [(of_response h).2, hmore]
    rfl
  have hpage : (poll.number k).page = poll.active.drop (k * poll.pageSize) := by
    rw [page_number hle, List.take_of_length_le]
    rw [List.length_drop]
    rw [Nat.succ_mul] at hlast
    omega
  show (generateReminderPayloads env logs (poll.number k)).bind _ = _
  rw [h, Option.bind_some, hnext]
  exact congrArg some hpage

theorem walk_next {fuel : Nat} {response : Response} (hsize : 1 ≤ poll.pageSize)
    (hloads : Loads load poll) (hnext : (k + 1) * poll.pageSize < poll.active.length)
    (h : generateReminderPayloads env logs (poll.number k) = some response) :
    walk env load poll (fuel + 1) logs (poll.number k).cursor =
      (walk env load poll fuel (record logs response.items) (poll.number (k + 1)).cursor).map
        ((poll.number k).page ++ ·) := by
  have hle : k * poll.pageSize ≤ poll.active.length := by
    rw [Nat.succ_mul] at hnext
    omega
  have hcursor : response.nextCursor =
      some ((poll.active[(k + 1) * poll.pageSize - 1]).expiresAt,
        (poll.active[(k + 1) * poll.pageSize - 1]).id) := by
    rw [(of_response h).2, (hasMore_number hle).mpr hnext, if_pos rfl, getLast_page hsize hnext]
    rfl
  show (generateReminderPayloads env logs (poll.number k)).bind _ = _
  rw [h, Option.bind_some, hcursor]
  dsimp only
  rw [cursor_number hsize hloads hnext]
  cases walk env load poll fuel (record logs response.items) (poll.number (k + 1)).cursor <;> rfl

theorem walk_none {fuel : Nat} (h : generateReminderPayloads env logs (poll.number k) = none) :
    walk env load poll (fuel + 1) logs (poll.number k).cursor = none := by
  show (generateReminderPayloads env logs (poll.number k)).bind _ = _
  rw [h]
  rfl

theorem take_append_drop_page (hle : k * poll.pageSize ≤ poll.active.length) :
    (poll.number k).page ++ poll.active.drop ((k + 1) * poll.pageSize) =
      poll.active.drop (k * poll.pageSize) := by
  rw [page_number hle, Nat.succ_mul, ← List.drop_drop, List.take_append_drop]

/-! ## The logs of other pages -/

/-- The log tables agree on the reminders of the subscriptions from page `k` on. -/
def AgreeFrom (poll : Poll) (k : Nat) (logs logs' : ReminderLogs) : Prop :=
  ∀ key : ReminderKey, (∃ sub ∈ poll.active.drop (k * poll.pageSize), sub.id = key.subscriptionId) →
    logged logs' key = logged logs key

theorem sub_of_due (h : item ∈ due env poll) : ∃ sub ∈ poll.page, sub.id = item.key.subscriptionId := by
  obtain ⟨sub, hpage, c, hc, hitem⟩ := mem_due.mp h
  obtain ⟨rfl, -⟩ := candidate_eq_some.mp hc
  obtain ⟨_, _, _, _, -, -, -, -, -, rfl⟩ := mem_candidate_due.mp hitem
  exact ⟨c.sub, hpage, rfl⟩

theorem logged_record {items : List Item} (h : logged (record logs items) key = true) :
    logged logs key = true ∨ ∃ item ∈ items, item.key = key := by
  induction items generalizing logs with
  | nil => exact Or.inl h
  | cons item items ih =>
    have hrest : logged (record (logs.insert item.log) items) key = true := h
    rcases ih hrest with hlogged | ⟨other, hother, hkey⟩
    · obtain ⟨log, hlog, hkey⟩ := logged_iff.mp hlogged
      rcases Table.mem_insert hlog with rfl | hold
      · exact Or.inr ⟨item, List.mem_cons_self, hkey⟩
      · exact Or.inl (logged_iff.mpr ⟨log, hold, hkey⟩)
    · exact Or.inr ⟨other, List.mem_cons_of_mem _ hother, hkey⟩

theorem logged_record_of_logged {items : List Item} (h : logged logs key = true) :
    logged (record logs items) key = true := by
  obtain ⟨log, hlog, rfl⟩ := logged_iff.mp h
  exact logged_of_get (get_record_of_get (Table.get_of_mem hlog))

theorem agree_record {response : Response} (hagree : AgreeFrom poll k logs logs')
    (hle : k * poll.pageSize ≤ poll.active.length)
    (h : generateReminderPayloads env logs' (poll.number k) = some response) :
    AgreeFrom poll (k + 1) logs (record logs' response.items) := by
  rintro key ⟨sub, hsub, hid⟩
  have hrest : sub ∈ poll.active.drop (k * poll.pageSize) := by
    rw [← take_append_drop_page hle]
    exact List.mem_append_right _ hsub
  have hsame : logged logs' key = logged logs key := hagree key ⟨sub, hrest, hid⟩
  rw [← hsame, Bool.eq_iff_iff]
  refine ⟨fun hlogged => (logged_record hlogged).resolve_right ?_, logged_record_of_logged⟩
  rintro ⟨item, hitem, rfl⟩
  -- an item of page `k` belongs to a subscription of that page
  rw [(of_response h).1] at hitem
  have hdue : item ∈ due env (poll.number k) := by
    rw [← returned_of_fresh (fresh_of_returned hitem)]
    exact hitem
  obtain ⟨other, hother, hotherId⟩ := sub_of_due hdue
  have hrow : other ∈ poll.rows.subscriptions.rows := (of_mem_page hother).1
  have heq : other = sub := List.inj_on_of_nodup_map poll.rows.subscriptions.nodup hrow
    (mem_active.mp (List.mem_of_mem_drop hsub)).1 (hotherId.trans hid.symm)
  have hnodup : ((poll.number k).page ++ poll.active.drop ((k + 1) * poll.pageSize)).Nodup := by
    rw [take_append_drop_page hle]
    exact (List.drop_sublist _ _).nodup nodup_active
  rw [heq] at hother
  exact List.disjoint_of_nodup_append hnodup hother hsub

variable (env logs) in
def PageEnds (poll : Poll) : Prop := Fresh env logs poll ∨ LastLogged env logs poll

theorem logged_due (hagree : AgreeFrom poll k logs logs')
    (hle : k * poll.pageSize ≤ poll.active.length) (h : item ∈ due env (poll.number k)) :
    logged logs' item.key = logged logs item.key := by
  obtain ⟨sub, hpage, hid⟩ := sub_of_due h
  refine hagree _ ⟨sub, ?_, hid⟩
  rw [← take_append_drop_page hle]
  exact List.mem_append_left _ hpage

theorem pageEnds_congr (hagree : AgreeFrom poll k logs logs')
    (hle : k * poll.pageSize ≤ poll.active.length) :
    PageEnds env logs' (poll.number k) ↔ PageEnds env logs (poll.number k) := by
  refine or_congr ?_ ?_
  · refine and_congr_right fun _ => forall₂_congr fun item hitem => ?_
    rw [logged_due hagree hle hitem]
  · refine and_congr_right fun _ => exists₂_congr fun sub item => and_congr_right fun _ =>
      and_congr_right fun _ => and_congr_right fun hone => ?_
    rw [logged_due hagree hle (by rw [hone]; exact List.mem_singleton_self _)]

theorem exists_walk (hsize : 1 ≤ poll.pageSize) (hloads : Loads load poll)
    (hagree : AgreeFrom poll k logs logs') (hle : k * poll.pageSize ≤ poll.active.length)
    (hends : ∀ j, k ≤ j → (j = k ∨ j * poll.pageSize < poll.active.length) →
      PageEnds env logs (poll.number j)) :
    ∃ fuel, walk env load poll fuel logs' (poll.number k).cursor =
      some (poll.active.drop (k * poll.pageSize)) := by
  induction hrest : poll.active.length - k * poll.pageSize using Nat.strong_induction_on
    generalizing k logs' with
  | _ rest ih =>
    have hpage := (pageEnds_congr hagree hle).mpr (hends k (Nat.le_refl k) (Or.inl rfl))
    obtain ⟨response, hresponse⟩ := Option.isSome_iff_exists.mp (isSome_iff.mpr hpage)
    by_cases hnext : (k + 1) * poll.pageSize < poll.active.length
    · have hshorter : poll.active.length - (k + 1) * poll.pageSize < rest := by
        rw [Nat.succ_mul] at hnext ⊢
        omega
      have hlater : ∀ j, k + 1 ≤ j → (j = k + 1 ∨ j * poll.pageSize < poll.active.length) →
          PageEnds env logs (poll.number j) := fun j hj hor =>
        hends j (Nat.le_of_succ_le hj) (Or.inr (hor.elim (fun heq => heq ▸ hnext) id))
      obtain ⟨fuel, hwalk⟩ := ih _ hshorter (agree_record hagree hle hresponse) (Nat.le_of_lt hnext)
        hlater rfl
      refine ⟨fuel + 1, ?_⟩
      rw [walk_next hsize hloads hnext hresponse, hwalk, Option.map_some, take_append_drop_page hle]
    · exact ⟨1, walk_last hle hnext hresponse⟩

theorem pageEnds_of_walk {fuel : Nat} (hsize : 1 ≤ poll.pageSize) (hloads : Loads load poll)
    (hagree : AgreeFrom poll k logs logs') (hle : k * poll.pageSize ≤ poll.active.length)
    (h : walk env load poll fuel logs' (poll.number k).cursor = some visited) {j : Nat} (hj : k ≤ j)
    (hor : j = k ∨ j * poll.pageSize < poll.active.length) : PageEnds env logs (poll.number j) := by
  induction fuel generalizing k logs' visited with
  | zero => cases h
  | succ fuel ih =>
    cases hresponse : generateReminderPayloads env logs' (poll.number k) with
    | none =>
      rw [walk_none hresponse] at h
      cases h
    | some response =>
      rcases Nat.eq_or_lt_of_le hj with rfl | hlater
      · refine (pageEnds_congr hagree hle).mp (isSome_iff.mp ?_)
        rw [hresponse]
        rfl
      · -- a later page is behind the next one
        have hbehind : j * poll.pageSize < poll.active.length :=
          hor.resolve_left (Nat.ne_of_gt hlater)
        have hnextLe : (k + 1) * poll.pageSize ≤ j * poll.pageSize := Nat.mul_le_mul_right _ hlater
        have hnext := Nat.lt_of_le_of_lt hnextLe hbehind
        rw [walk_next hsize hloads hnext hresponse] at h
        obtain ⟨rest, hrest, -⟩ := Option.map_eq_some_iff.mp h
        exact ih (agree_record hagree hle hresponse) (Nat.le_of_lt hnext) hrest hlater
          (Or.inr hbehind)

end PageLemmas

open PageLemmas

/-- Following the cursors visits each subscription once and in order if and only if each page has
fresh reminders, or is the last one and has nothing behind the one that is logged; a cursor is
read back as the one that the page gave. -/
theorem walk_iff (hsize : 1 ≤ poll.pageSize) (hloads : Loads load poll) :
    (VisitsAll env load logs poll ↔ ∀ k, (k = 0 ∨ k * poll.pageSize < poll.active.length) →
      Fresh env logs (poll.number k) ∨ LastLogged env logs (poll.number k)) ∧
    ∀ (dt : DateTime) (id : UUID), dt.Valid → id.int < 2 ^ 128 →
      parseCursor (cursorText dt id) = some (dt.instant, some id) := by
  have hfirst : (poll.number 0).cursor = none := by
    rw [Poll.number, Nat.zero_mul]
    rfl
  have hle : 0 * poll.pageSize ≤ poll.active.length := by
    rw [Nat.zero_mul]
    exact Nat.zero_le _
  have hagree : AgreeFrom poll 0 logs logs := fun _ _ => rfl
  refine ⟨⟨?_, fun hends => ?_⟩, fun dt id => parseCursor_cursorText⟩
  · rintro ⟨fuel, visited, hwalk, -⟩ k hk
    rw [← hfirst] at hwalk
    exact pageEnds_of_walk hsize hloads hagree hle hwalk (Nat.zero_le k) hk
  · obtain ⟨fuel, hwalk⟩ := exists_walk hsize hloads hagree hle fun j _ hj => hends j hj
    rw [hfirst, Nat.zero_mul, List.drop_zero] at hwalk
    exact ⟨fuel, poll.active, hwalk, pairwise_active, nodup_active, fun sub => mem_active⟩

def exLoad (_ : Int) : DateTime where
  year := 1970
  month := 1
  day := 4
  hour := 12
  minute := 0
  second := 0
  microsecond := 0
  offset := some 0

def exPages : Poll :=
  { exPoll 0 with
    pageSize := 1
    rows := { exRows exSettings with
      subscriptions := ⟨[exSubscription, { exSubscription with id := ⟨2⟩ }], by decide⟩ } }

theorem exLoads : Loads exLoad exPages := by
  unfold Loads
  decide +kernel

/-- Without logs, both are visited. -/
theorem exPages_visited : VisitsAll exEnvironment exLoad Table.empty exPages := by
  refine ((walk_iff (by decide) exLoads).1).mpr fun k hk => Or.inl ?_
  have hlen : exPages.active.length = 2 := by decide +kernel
  have hlt : k < 2 := by
    have hone : exPages.pageSize = 1 := rfl
    rw [hlen, hone] at hk
    omega
  have hfresh : ∀ k < 2, Fresh exEnvironment Table.empty (exPages.number k) := by decide +kernel
  exact hfresh k hlt

/-- A reminder of the first page that has a log already ends every walk in an exception. -/
theorem logged_reminder_ends_walk : Loads exLoad exPages ∧
    (∀ fuel, walk exEnvironment exLoad exPages fuel exLogs none = none) ∧
    ¬VisitsAll exEnvironment exLoad exLogs exPages := by
  have hwalk : ∀ fuel, walk exEnvironment exLoad exPages fuel exLogs none = none := by
    rintro (_ | fuel)
    · rfl
    · have hraises : generateReminderPayloads exEnvironment exLogs (exPages.number 0) = none := by
        decide +kernel
      exact walk_none hraises
  refine ⟨exLoads, hwalk, ?_⟩
  rintro ⟨fuel, visited, h, -⟩
  rw [hwalk fuel] at h
  cases h

end Trackpal.Subscriptions

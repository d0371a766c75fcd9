import RCAA.Cases.Service
import RCAA.Library.OffsetPages
import RCAA.Security.Auth

/-! The lists of the interface. Each answers a request for a page with a part of what a query
returns that is ordered by one column only; the rows that tie there stand in the order the
database happens to choose for that query. -/

namespace RCAA.Api
open Cases (given)
open OffsetPages (Descending Straddles)
open Security (AuthSettings Failure User)

/-! ## The rows a user is to see -/

/-- `test_admin_bypass`. -/
def testAdminBypass (settings : AuthSettings) (user : User) : Bool :=
  settings.testing && settings.appEnv ∉ ["production", "prod"] && user.id = "test-admin"

section Rows
variable (settings : AuthSettings) (user : User)

/-- The rows of the user's merchant, or all of them for the fixture of the tests. -/
def visible (merchantId : α → Option String) (rows : List α) : List α :=
  if testAdminBypass settings user then rows else rows.filter fun row => merchantId row = some user.merchantId

structure CaseFilters where
  status : Option String := none
  priority : Option String := none
  severity : Option String := none
  merchant : Option String := none
  assignedTo : Option String := none
  exceptionCode : Option String := none
  createdFrom : Option DateTime := none
  createdTo : Option DateTime := none

structure ExceptionFilters where
  status : Option String := none
  severity : Option String := none
  exceptionCode : Option String := none
  source : Option String := none
  merchant : Option String := none
  startDate : Option DateTime := none
  endDate : Option DateTime := none

variable [Platform]

def CaseFilters.admits (desk : Desk) (filters : CaseFilters) (case : CaseRow) : Bool :=
  ((given filters.merchant).all fun merchant => case.merchantId = some merchant) &&
  ((given filters.status).all fun status => case.status = upper status) &&
  ((given filters.priority).all fun priority => case.priority = upper priority) &&
  ((given filters.severity).all fun severity => case.severity = upper severity) &&
  ((given filters.assignedTo).all fun assignee => case.assignedTo = some assignee) &&
  ((given filters.exceptionCode).all fun code => desk.links.any fun link =>
    link.caseId = case.id && (visible settings user (·.merchantId) desk.exceptions).any fun e =>
      e.id = link.exceptionId && e.exceptionCode = upper code) &&
  (filters.createdFrom.all fun start => start.instant ≤ case.createdAt) &&
  (filters.createdTo.all fun stop => case.createdAt ≤ stop.instant)

def ExceptionFilters.admits (createdAt : ReconciliationException → Int) (filters : ExceptionFilters)
    (e : ReconciliationException) : Bool :=
  ((given filters.status).all fun status => e.status = upper status) &&
  ((given filters.severity).all fun severity => e.severity = upper severity) &&
  ((given filters.exceptionCode).all fun code => e.exceptionCode = upper code) &&
  ((given filters.source).all fun source => e.source = some source) &&
  ((given filters.merchant).all fun merchant => e.merchantId = some merchant) &&
  (filters.startDate.all fun start => start.instant ≤ createdAt e) &&
  (filters.endDate.all fun stop => createdAt e ≤ stop.instant)

end Rows

/-! ## The requests -/

structure Listing (α : Type) where
  items : List α
  page : Int
  limit : Int

/-- A page by its number. -/
def pageOf (listed : List α) (page limit : Int) : Except Failure (Listing α) :=
  if page < 1 ∨ limit < 1 ∨ 200 < limit then .error .validation
  else .ok ⟨Paging.page ((page - 1) * limit).toNat limit.toNat listed, page, limit⟩

/-- `payments`: the rows from an offset on. -/
def payments (listed : List Payment) (limit offset : Int) : Except Failure (List Payment) :=
  if limit < 1 ∨ 100 < limit ∨ offset < 0 then .error .validation
  else .ok (Paging.page offset.toNat limit.toNat listed)

def refunds (listed : List Refund) (page limit : Int) : Except Failure (Listing Refund) := pageOf listed page limit

def settlements (listed : List Settlement) (page limit : Int) : Except Failure (Listing Settlement) := pageOf listed page limit

structure CaseListing extends Listing CaseRow where
  total : Nat
  pages : Int

section Requests
variable (settings : AuthSettings) (user : User)

/-- `list_cases_api`: another merchant's cases are refused by `ensure_merchant`. -/
def listCasesApi (filters : CaseFilters) (listed : List CaseRow) (page limit : Int) : Except Failure CaseListing := do
  let listing ← pageOf listed page limit
  if !testAdminBypass settings user ∧ (given filters.merchant).any (· ≠ user.merchantId) then
    throw (.http 404 "Resource not found")
  return { listing with total := listed.length, pages := (listed.length + limit - 1) / limit }

def exceptions (filters : ExceptionFilters) (listed : List ReconciliationException) (page limit : Int) :
    Except Failure (Listing ReconciliationException) := do
  let listing ← pageOf listed page limit
  if (given filters.merchant).any (· ≠ user.merchantId) then throw (.http 404 "Exception not found")
  return listing

end Requests

/-! ## Reading a list -/

/-- The rows of a list, the column they are ordered by, the largest page, and the request a reader
makes in its turn. -/
structure PagedList (α : Type) where
  rows : List α
  time : α → Int
  most : Int
  request : (listed : List α) → (limit : Int) → (turn : Nat) → Except Failure (List α)

namespace PagedList

/-- Whatever order each query gives rows that tie, the pages have every row once. -/
def Complete (list : PagedList α) (limit : Int) : Prop :=
  ∀ orders : Nat → List α, (∀ turn, Descending list.time list.rows (orders turn)) →
    ∀ pages, list.rows.length ≤ pages * limit.toNat →
      ∃ read, (List.range pages).mapM (fun turn => list.request (orders turn) limit turn) = .ok read ∧
        read.flatten.Perm list.rows

/-- Rows of one time are on one page. -/
def TiesTogether (list : PagedList α) (limit : Int) : Prop :=
  ∀ turn t, ¬Straddles list.time list.rows (turn * limit.toNat) t

/-- A request is answered with the page of its turn. -/
def Answers (list : PagedList α) : Prop :=
  ∀ listed limit turn, 1 ≤ limit → limit ≤ list.most →
    list.request listed limit turn = .ok (Paging.page (turn * limit.toNat) limit.toNat listed)

theorem complete_iff {list : PagedList α} (distinct : list.rows.Nodup) (answers : list.Answers) {limit : Int}
    (lower : 1 ≤ limit) (upper : limit ≤ list.most) : list.Complete limit ↔ list.TiesTogether limit := by
  have read (orders : Nat → List α) (pages : Nat) :
      (List.range pages).mapM (fun turn => list.request (orders turn) limit turn) =
        .ok ((List.range pages).map fun turn => Paging.page (turn * limit.toNat) limit.toNat (orders turn)) := by
    simp only [answers _ limit _ lower upper]
    exact List.mapM_pure
  have exact := @OffsetPages.pages_perm_iff _ _ _ list.time _ distinct limit.toNat (by omega)
  unfold Complete TiesTogether
  rw [← exact]
  simp only [read, Except.ok.injEq, exists_eq_left', List.flatMap_def]

end PagedList

/-! ## The five lists -/

section Lists
variable (settings : AuthSettings) (user : User) (store : Store) (desk : Desk)

def paymentList : PagedList Payment where
  rows := visible settings user (·.merchantId) store.payments
  time p := p.createdAt.instant
  most := 100
  request listed limit turn := payments listed limit (turn * limit)

def refundList : PagedList Refund where
  rows := visible settings user (·.merchantId) store.refunds
  time r := r.createdAt.instant
  most := 200
  request listed limit turn := (refunds listed (turn + 1) limit).map (·.items)

def settlementList : PagedList Settlement where
  rows := visible settings user (·.merchantId) store.settlements
  time s := s.settledAt.instant
  most := 200
  request listed limit turn := (settlements listed (turn + 1) limit).map (·.items)

variable {settings user store desk}

theorem visible_nodup {merchantId : α → Option String} {id : α → String} {rows : List α} (ids : (rows.map id).Nodup) :
    (visible settings user merchantId rows).Nodup := by
  unfold visible
  split
  · exact ids.of_map
  · exact ids.of_map.filter _

theorem turn_toNat (turn : Nat) {limit : Int} (positive : 1 ≤ limit) : (turn * limit).toNat = turn * limit.toNat := by
  obtain ⟨count, rfl⟩ := Int.eq_ofNat_of_zero_le (by omega : 0 ≤ limit)
  exact Int.toNat_natCast (turn * count)

theorem pageOf_turn (listed : List α) (turn : Nat) {limit : Int} (lower : 1 ≤ limit) (upper : limit ≤ 200) :
    pageOf listed (turn + 1) limit = .ok ⟨Paging.page (turn * limit.toNat) limit.toNat listed, turn + 1, limit⟩ := by
  rw [pageOf, if_neg (by omega), Int.add_sub_cancel, turn_toNat turn lower]

theorem paymentList_answers : (paymentList settings user store).Answers := by
  intro listed limit turn lower upper
  have offset : 0 ≤ (turn * limit : Int) := Int.mul_nonneg (Int.natCast_nonneg turn) (by omega)
  have most : limit ≤ 100 := upper
  simp only [paymentList, payments]
  rw [if_neg (by omega), turn_toNat turn lower]

theorem refundList_answers : (refundList settings user store).Answers := by
  intro listed limit turn lower upper
  simp only [refundList, refunds, pageOf_turn listed turn lower upper]
  rfl

theorem settlementList_answers : (settlementList settings user store).Answers := by
  intro listed limit turn lower upper
  simp only [settlementList, settlements, pageOf_turn listed turn lower upper]
  rfl

theorem own_merchant {merchant : Option String} (own : ∀ named ∈ merchant, named = user.merchantId) :
    ¬merchant.any (· ≠ user.merchantId) = true := by
  cases merchant with
  | none => exact Bool.false_ne_true
  | some named => simpa using own named rfl

variable (settings user desk)

variable [Platform]

def caseList (filters : CaseFilters) : PagedList CaseRow where
  rows := (visible settings user (·.merchantId) desk.cases).filter (filters.admits settings user desk)
  time c := c.createdAt
  most := 200
  request listed limit turn := (listCasesApi settings user filters listed (turn + 1) limit).map (·.items)

/-- An exception's time of creation is a column of its own. -/
def exceptionList (createdAt : ReconciliationException → Int) (filters : ExceptionFilters) :
    PagedList ReconciliationException where
  rows := (visible settings user (·.merchantId) desk.exceptions).filter (filters.admits createdAt)
  time := createdAt
  most := 200
  request listed limit turn := (exceptions user filters listed (turn + 1) limit).map (·.items)

variable {settings user desk}

theorem caseList_answers {filters : CaseFilters} (own : ∀ merchant ∈ given filters.merchant, merchant = user.merchantId) :
    (caseList settings user desk filters).Answers := by
  intro listed limit turn lower upper
  have allowed : ¬((!testAdminBypass settings user) = true ∧ (given filters.merchant).any (· ≠ user.merchantId) = true) :=
    fun refused => own_merchant own refused.2
  simp only [caseList, listCasesApi, pageOf_turn listed turn lower upper, if_neg allowed]
  rfl

theorem exceptionList_answers {createdAt : ReconciliationException → Int} {filters : ExceptionFilters}
    (own : ∀ merchant ∈ given filters.merchant, merchant = user.merchantId) :
    (exceptionList settings user desk createdAt filters).Answers := by
  intro listed limit turn lower upper
  have allowed := own_merchant own
  simp only [exceptionList, exceptions, pageOf_turn listed turn lower upper, if_neg allowed]
  rfl

/-- Page by page each list gives every row once, however rows that tie are ordered, exactly when no
page ends between two rows of one time. -/
theorem lists_complete_iff (settings : AuthSettings) (user : User) (store : Store) (desk : Desk)
    (createdAt : ReconciliationException → Int) {caseFilters : CaseFilters} {exceptionFilters : ExceptionFilters}
    (ownCases : ∀ merchant ∈ given caseFilters.merchant, merchant = user.merchantId)
    (ownExceptions : ∀ merchant ∈ given exceptionFilters.merchant, merchant = user.merchantId) {limit : Int} (lower : 1 ≤ limit) :
    (limit ≤ 100 →
      ((paymentList settings user store).Complete limit ↔ (paymentList settings user store).TiesTogether limit)) ∧
    (limit ≤ 200 →
      ((refundList settings user store).Complete limit ↔ (refundList settings user store).TiesTogether limit) ∧
      ((settlementList settings user store).Complete limit ↔ (settlementList settings user store).TiesTogether limit) ∧
      ((caseList settings user desk caseFilters).Complete limit ↔
        (caseList settings user desk caseFilters).TiesTogether limit) ∧
      ((exceptionList settings user desk createdAt exceptionFilters).Complete limit ↔
        (exceptionList settings user desk createdAt exceptionFilters).TiesTogether limit)) := by
  refine ⟨fun upper => ?_, fun upper => ⟨?_, ?_, ?_, ?_⟩⟩
  · exact PagedList.complete_iff (visible_nodup store.paymentIds) paymentList_answers lower upper
  · exact PagedList.complete_iff (visible_nodup store.refundIds) refundList_answers lower upper
  · exact PagedList.complete_iff (visible_nodup store.settlementIds) settlementList_answers lower upper
  · exact PagedList.complete_iff ((visible_nodup desk.caseIds).filter _) (caseList_answers ownCases) lower upper
  · exact PagedList.complete_iff ((visible_nodup desk.exceptionIds).filter _) (exceptionList_answers ownExceptions) lower upper

end Lists

section Examples
open PlainText

/-- Two payments of one import. -/
def tiedPayment (id : String) : Payment where
  id
  provider := "razorpay"
  providerPaymentId := id
  merchantId := some "m1"
  amount := ⟨9000, -2⟩
  status := "captured"
  createdAt := ⟨0, some 0⟩

def tiedStore : Store := { payments := [tiedPayment "p1", tiedPayment "p2"] }

def opsUser : User := ⟨"u1", "ops@example.test", "", "m1", "OPS", true, false, none⟩

theorem lists_complete_iff_twoOnAPage : (paymentList { authSecret := "" } opsUser tiedStore).Complete 2 := by
  have exact := @lists_complete_iff _ { authSecret := "" } opsUser tiedStore {} (fun _ => 0) {} {} nofun nofun 2 (by decide)
  refine (exact.1 (by decide)).mpr fun turn t straddles => ?_
  have few : (paymentList { authSecret := "" } opsUser tiedStore).rows.length = 2 := by rfl
  obtain ⟨first, more⟩ := straddles
  have last := more.trans_le List.countP_le_length
  have turned : turn * (2 : Int).toNat = turn * 2 := rfl
  omega

/-- Of two payments of one time, a page for each may show the same one twice. -/
theorem tied_payments_are_repeated :
    ¬∀ (settings : AuthSettings) (user : User) (store : Store) (limit : Int), 1 ≤ limit → limit ≤ 100 →
      (paymentList settings user store).Complete limit := by
  intro law
  let orders (turn : Nat) : List Payment :=
    if turn = 0 then [tiedPayment "p1", tiedPayment "p2"] else [tiedPayment "p2", tiedPayment "p1"]
  have rows : (paymentList { authSecret := "" } opsUser tiedStore).rows = [tiedPayment "p1", tiedPayment "p2"] := by rfl
  have ordered (turn : Nat) : Descending (paymentList { authSecret := "" } opsUser tiedStore).time
      (paymentList { authSecret := "" } opsUser tiedStore).rows (orders turn) := by
    rw [rows]
    dsimp only [orders]
    split
    · exact ⟨.rfl, by decide⟩
    · exact ⟨.swap .., by decide⟩
  obtain ⟨read, pages, whole⟩ := law { authSecret := "" } opsUser tiedStore 1 (by decide) (by decide) orders ordered 2 (by rw [rows]; decide)
  have twice : read = [[tiedPayment "p1"], [tiedPayment "p1"]] := by
    cases pages
    rfl
  rw [twice, rows] at whole
  exact absurd (whole.symm.subset (List.mem_cons_of_mem _ List.mem_cons_self)) (by decide)

end Examples
end RCAA.Api

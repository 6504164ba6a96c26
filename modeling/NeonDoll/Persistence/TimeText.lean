import NeonDoll.Lib.Rfc3339Order
import NeonDoll.Persistence.Enrollment
import NeonDoll.SessionEvent.Delivery

/-!
# Times as texts in the store

The queries of `Core/Persistence` that compare or order columns with times.  A column holds the
text of `formatTime`, and the database compares texts by their bytes.  A query is written once
for every way to render an instant: with `formatTime` it is the query of the store, and with the
instants themselves it is the comparison that the query stands for.
-/

namespace NeonDoll.Persistence

open Lib SessionEvent List
open Rfc3339 (formatNano SameOrder TextOrdered)
open Permission (ContinuationStatus NotificationStatus)

/-- `formatTime`, for an instant in nanoseconds from the epoch. -/
def formatTime (t : Int) : Bytes := formatNano t

instance instLinearOrderUInt8 : LinearOrder UInt8 where
  le_refl := UInt8.le_refl
  le_trans _ _ _ := UInt8.le_trans
  le_antisymm _ _ := UInt8.le_antisymm
  le_total := UInt8.le_total
  lt_iff_le_not_ge a b := by
    rw [UInt8.lt_iff_toNat_lt, UInt8.le_iff_toNat_le, UInt8.le_iff_toNat_le]
    omega
  toDecidableLE := inferInstance

/-- The columns of `pending_enrollments` that the queries read. -/
structure PendingRow where
  requestID : Text
  status : EnrollmentStatus
  createdAt : Int
  expiresAt : Int
  deriving DecidableEq

/-- The columns of `permission_requests` that the queries for outcome notifications read. -/
structure OutcomeRow where
  requestID : Text
  continuationStatus : ContinuationStatus
  continuationUpdatedAt : Option Int
  notificationStatus : NotificationStatus
  notificationLeaseUntil : Option Int
  deriving DecidableEq

/-! ## The queries -/

section Queries

variable {ρ κ : Type} [LinearOrder κ] (render : Int → κ)

/-- The key of `ORDER BY column, id`; a column without a value comes first. -/
def sortKey (column : ρ → Option Int) (id : ρ → Text) (row : ρ) : WithBot κ ×ₗ Text :=
  toLex ((column row).map render, id row)

def orderBy (column : ρ → Option Int) (id : ρ → Text) (rows : List ρ) : List ρ :=
  rows.insertionSort fun a b => sortKey render column id a ≤ sortKey render column id b

/-- The rows that `CountPending` counts. -/
def pendingAt (rows : List PendingRow) (now : Int) : List PendingRow :=
  rows.filter fun row => row.status = .pending ∧ render now < render row.expiresAt

def countPending (rows : List PendingRow) (now : Int) : Nat := (pendingAt render rows now).length

/-- `ListPending` of the enrollments. -/
def listPending (rows : List PendingRow) : List PendingRow :=
  orderBy render (fun row => some row.createdAt) PendingRow.requestID rows

/-- The notification waits, or the lease under which it was handed out has ended. -/
def notifiable (row : OutcomeRow) (now : Int) : Bool :=
  row.notificationStatus = .pending ∨ row.notificationStatus = .delivering ∧
    row.notificationLeaseUntil.any fun lease => render lease ≤ render now

def outcomesAt (rows : List OutcomeRow) (now : Int) : List OutcomeRow :=
  rows.filter fun row =>
    (row.continuationStatus = .succeeded ∨ row.continuationStatus = .failed) ∧
      notifiable render row now

def listPermissionOutcomeNotifications (rows : List OutcomeRow) (now : Int) : List OutcomeRow :=
  orderBy render OutcomeRow.continuationUpdatedAt OutcomeRow.requestID (outcomesAt render rows now)

/-- `ClaimPermissionOutcomeNotification` for the row with the identifier, with whether the row was
changed. -/
def claimPermissionOutcomeNotification (row : OutcomeRow) (now leaseUntil : Int) :
    OutcomeRow × Bool :=
  if notifiable render row now then
    ({ row with notificationStatus := .delivering, notificationLeaseUntil := some leaseUntil },
      true)
  else (row, false)

def listPendingDeliveries (rows : Deliveries) : List Delivery :=
  orderBy render (fun delivery => some delivery.createdAt) Delivery.id (pendingDeliveries rows)

/-- The other lists in the order of a time: `ListActiveSessions` and
`ListPendingPermissionRequests` by `created_at`, `ListReadyPermissionContinuations` by
`resolved_at`, `ListSessionParticipants` and `ListPrincipalSessions` by `joined_at`. -/
def listOrdered (selects : ρ → Bool) (column : ρ → Option Int) (id : ρ → Text) (rows : List ρ) :
    List ρ :=
  orderBy render column id (rows.filter selects)

end Queries

/-! ## Queries on texts and on instants -/

variable {t u : Int}

theorem formatTime_lt_iff : (formatTime t < formatTime u ↔ t < u) ↔ TextOrdered t u :=
  (Rfc3339.lt_iff_sameOrder t u).trans (Rfc3339.sameOrder_iff t u)

theorem formatTime_le_iff : (formatTime t ≤ formatTime u ↔ t ≤ u) ↔ TextOrdered t u := by
  rw [← not_lt, ← not_lt, not_iff_not, formatTime_lt_iff, Rfc3339.TextOrdered.comm]

section Lists

variable {ρ : Type}

variable {rows : List ρ}

theorem filter_eq_filter_iff :
    rows.filter p = rows.filter q ↔ ∀ row ∈ rows, p row = q row := by
  refine ⟨fun same row member => ?_, filter_congr⟩
  have selected : row ∈ rows.filter p ↔ row ∈ rows.filter q := by rw [same]
  rw [mem_filter, mem_filter] at selected
  exact Bool.eq_iff_iff.mpr
    ⟨fun kept => (selected.mp ⟨member, kept⟩).2, fun kept => (selected.mpr ⟨member, kept⟩).2⟩

theorem insertionSort_congr [DecidableRel r] [DecidableRel s]
    (agree : ∀ a ∈ rows, ∀ b ∈ rows, r a b ↔ s a b) :
    rows.insertionSort r = rows.insertionSort s := by
  have insert : ∀ (a : ρ) (sorted : List ρ), (∀ b ∈ sorted, r a b ↔ s a b) →
      sorted.orderedInsert r a = sorted.orderedInsert s a := by
    intro a sorted same
    induction sorted with
    | nil => rfl
    | cons b rest ih =>
      rw [List.orderedInsert, List.orderedInsert, ih fun c member => same c (.tail b member)]
      simp only [same b (.head rest)]
  induction rows with
  | nil => rfl
  | cons a rest ih => grind [mem_insertionSort]

section Order

variable {κ : Type} [LinearOrder κ] {render : Int → κ} {id : ρ → Text}

variable {a b : ρ}

theorem sortKey_le_iff (first : column a = some t) (second : column b = some u) :
    sortKey render column id a ≤ sortKey render column id b ↔
      render t < render u ∨ render t = render u ∧ id a ≤ id b := by
  rw [sortKey, sortKey, Prod.Lex.toLex_le_toLex, first, second]
  exact or_congr WithBot.coe_lt_coe (and_congr_left' WithBot.coe_inj)

theorem sortKey_le_of_none (first : column a = none) :
    sortKey render column id a ≤ sortKey render column id b ↔ column b ≠ none ∨ id a ≤ id b := by
  rw [sortKey, sortKey, Prod.Lex.toLex_le_toLex, first]
  cases column b with
  | none => grind
  | some u =>
    exact ⟨fun _ => .inl (Option.some_ne_none u), fun _ => .inl (WithBot.bot_lt_coe (render u))⟩

theorem not_sortKey_le_none (first : column a = some t)
    (second : column b = none) : ¬sortKey render column id a ≤ sortKey render column id b := by
  rw [sortKey, sortKey, Prod.Lex.toLex_le_toLex, first, second]
  rintro (less | ⟨same, -⟩)
  · exact absurd less not_lt_bot
  · exact absurd same (WithBot.coe_ne_bot)

theorem pairwise_orderBy (render : Int → κ) (column : ρ → Option Int) (id : ρ → Text) :
    (orderBy render column id rows).Pairwise
      fun a b => sortKey render column id a ≤ sortKey render column id b := by
  exact pairwise_insertionSort _ rows

theorem mem_orderBy : row ∈ orderBy render column id rows ↔ row ∈ rows :=
  mem_insertionSort _

end Order

/-- Ordering by texts is ordering by instants exactly if the instants of all rows are in the order
of their texts. -/
theorem orderBy_eq_iff (key : ρ → Text) :
    orderBy formatTime column key rows = orderBy id column key rows ↔
      ∀ a ∈ rows, ∀ b ∈ rows, ∀ t u, column a = some t → column b = some u → TextOrdered t u := by
  constructor
  · intro same
    have sorted := (pairwise_orderBy formatTime column key).and
      (same ▸ pairwise_orderBy (id : Int → Int) column key)
    let R := fun a b : ρ => ∀ t u, column a = some t → column b = some u → TextOrdered t u
    have symm : Std.Symm R := ⟨fun a b given t u first second =>
      Rfc3339.TextOrdered.comm.mp (given u t second first)⟩
    have pairs : (orderBy formatTime column key rows).Pairwise R := by
      refine sorted.imp fun {a b} both t u first second => ?_
      rw [sortKey_le_iff first second, sortKey_le_iff first second] at both
      apply formatTime_lt_iff.mp
      rcases both with ⟨less | ⟨equal, -⟩, less' | ⟨equal', -⟩⟩
      · exact iff_of_true less less'
      · exact absurd less (by rw [show t = u from equal']; exact lt_irrefl _)
      · rw [Rfc3339.formatNano_injective equal]
        exact iff_of_false (lt_irrefl _) (lt_irrefl _)
      · rw [show t = u from equal']
        exact iff_of_false (lt_irrefl _) (lt_irrefl _)
    intro a left b right
    refine pairs.forall_of_forall (fun x _ t u first second => ?_) (mem_orderBy.mpr left)
      (mem_orderBy.mpr right)
    rw [Option.some.inj (first.symm.trans second)]
    exact (Rfc3339.sameOrder_iff u u).mp ⟨iff_of_false (lt_irrefl _) (lt_irrefl _),
      iff_of_false (lt_irrefl _) (lt_irrefl _)⟩
  · intro ordered
    refine insertionSort_congr fun a left b right => ?_
    cases first : column a with
    | none => rw [sortKey_le_of_none first, sortKey_le_of_none first]
    | some t =>
      cases second : column b with
      | none =>
        exact iff_of_false (not_sortKey_le_none first second) (not_sortKey_le_none first second)
      | some u => grind [sortKey_le_iff, formatTime_lt_iff]

theorem orderBy_some_eq_iff {created : ρ → Int} {key : ρ → Text} :
    orderBy formatTime (fun row => some (created row)) key rows =
        orderBy id (fun row => some (created row)) key rows ↔
      ∀ a ∈ rows, ∀ b ∈ rows, TextOrdered (created a) (created b) := by
  grind [orderBy_eq_iff]

end Lists

theorem pendingAt_eq_iff :
    pendingAt formatTime rows now = pendingAt id rows now ↔
      ∀ row ∈ rows, row.status = .pending → TextOrdered now row.expiresAt := by
  grind [filter_eq_filter_iff, formatTime_lt_iff, pendingAt]

theorem notifiable_eq_iff :
    notifiable formatTime row now = notifiable id row now ↔
      ∀ lease, row.notificationStatus = .delivering → row.notificationLeaseUntil = some lease →
        TextOrdered lease now := by
  rw [notifiable, notifiable, decide_eq_decide]
  cases held : row.notificationLeaseUntil with
  | none => simp
  | some lease => grind [formatTime_le_iff]

variable {rows : List OutcomeRow}

theorem outcomesAt_eq_iff :
    outcomesAt formatTime rows now = outcomesAt id rows now ↔
      ∀ row ∈ rows, (row.continuationStatus = .succeeded ∨ row.continuationStatus = .failed) →
        ∀ lease, row.notificationStatus = .delivering → row.notificationLeaseUntil = some lease →
          TextOrdered lease now := by grind [filter_eq_filter_iff, notifiable_eq_iff, outcomesAt]

theorem listPermissionOutcomeNotifications_eq_iff :
    listPermissionOutcomeNotifications formatTime rows now =
        listPermissionOutcomeNotifications id rows now ↔
      (∀ row ∈ rows, (row.continuationStatus = .succeeded ∨ row.continuationStatus = .failed) →
        ∀ lease, row.notificationStatus = .delivering → row.notificationLeaseUntil = some lease →
          TextOrdered lease now) ∧
      ∀ a ∈ outcomesAt id rows now, ∀ b ∈ outcomesAt id rows now, ∀ t u,
        a.continuationUpdatedAt = some t → b.continuationUpdatedAt = some u → TextOrdered t u := by
  rw [← outcomesAt_eq_iff, ← orderBy_eq_iff OutcomeRow.requestID,
    listPermissionOutcomeNotifications, listPermissionOutcomeNotifications]
  constructor
  · intro same
    have selected : outcomesAt formatTime rows now = outcomesAt id rows now := by
      rw [outcomesAt, outcomesAt, filter_eq_filter_iff]
      intro row member
      have both : row ∈ outcomesAt formatTime rows now ↔ row ∈ outcomesAt id rows now := by
        have ordered := congrArg (row ∈ ·) same
        rw [mem_orderBy, mem_orderBy] at ordered
        exact iff_of_eq ordered
      rw [outcomesAt, outcomesAt, mem_filter, mem_filter] at both
      exact Bool.eq_iff_iff.mpr
        ⟨fun kept => (both.mp ⟨member, kept⟩).2, fun kept => (both.mpr ⟨member, kept⟩).2⟩
    rw [selected] at same
    exact ⟨selected, same⟩
  · rintro ⟨selected, same⟩
    rw [selected, same]

theorem claimPermissionOutcomeNotification_eq_iff :
    claimPermissionOutcomeNotification formatTime row now leaseUntil =
        claimPermissionOutcomeNotification id row now leaseUntil ↔
      ∀ lease, row.notificationStatus = .delivering → row.notificationLeaseUntil = some lease →
        TextOrdered lease now := by
  grind [notifiable_eq_iff, claimPermissionOutcomeNotification]

/-- Texts order like times exactly if the years are in the order of their texts and no fraction of
a second is the beginning of another fraction in the same second.  A query selects the rows, and
lists them in the order, of the comparison of times exactly if all the times that it compares are
so. -/
theorem time_texts_order_like_times (t u now leaseUntil : Int) (pendings : List PendingRow)
    (outcomes : List OutcomeRow) (outcome : OutcomeRow) (deliveries : Deliveries) :
    (((formatTime t < formatTime u ↔ t < u) ∧ (formatTime u < formatTime t ↔ u < t)) ↔
      TextOrdered t u) ∧ (pendingAt formatTime pendings now = pendingAt id pendings now ↔
      ∀ row ∈ pendings, row.status = .pending → TextOrdered now row.expiresAt) ∧
    (listPending formatTime pendings = listPending id pendings ↔
      ∀ a ∈ pendings, ∀ b ∈ pendings, TextOrdered a.createdAt b.createdAt) ∧
    (listPermissionOutcomeNotifications formatTime outcomes now =
        listPermissionOutcomeNotifications id outcomes now ↔
      (∀ row ∈ outcomes, (row.continuationStatus = .succeeded ∨ row.continuationStatus = .failed) →
        ∀ lease, row.notificationStatus = .delivering → row.notificationLeaseUntil = some lease →
          TextOrdered lease now) ∧
      ∀ a ∈ outcomesAt id outcomes now, ∀ b ∈ outcomesAt id outcomes now, ∀ t u,
        a.continuationUpdatedAt = some t → b.continuationUpdatedAt = some u → TextOrdered t u) ∧
    (claimPermissionOutcomeNotification formatTime outcome now leaseUntil =
        claimPermissionOutcomeNotification id outcome now leaseUntil ↔
      ∀ lease, outcome.notificationStatus = .delivering →
        outcome.notificationLeaseUntil = some lease → TextOrdered lease now) ∧
    (listPendingDeliveries formatTime deliveries = listPendingDeliveries id deliveries ↔
      ∀ a ∈ pendingDeliveries deliveries, ∀ b ∈ pendingDeliveries deliveries,
        TextOrdered a.createdAt b.createdAt) ∧
    ∀ {ρ : Type} (selects : ρ → Bool) (column : ρ → Option Int) (key : ρ → Text) (rows : List ρ),
      listOrdered formatTime selects column key rows = listOrdered id selects column key rows ↔
        ∀ a ∈ rows.filter selects, ∀ b ∈ rows.filter selects, ∀ t u, column a = some t →
          column b = some u → TextOrdered t u := by
  exact ⟨Rfc3339.sameOrder_iff t u, pendingAt_eq_iff, orderBy_some_eq_iff,
    listPermissionOutcomeNotifications_eq_iff, claimPermissionOutcomeNotification_eq_iff,
    orderBy_some_eq_iff, fun _ _ key _ => orderBy_eq_iff key⟩

/-- An enrollment that expired half a second ago is still counted as pending: the text of its
expiry has no fraction and comes after the text of the present. -/
theorem expired_enrollment_counted :
    ¬(formatTime 1700000000000000000 < formatTime 1700000000500000000 ↔
      (1700000000000000000 : Int) < 1700000000500000000) ∧
    countPending formatTime [⟨"a".toList, .pending, 0, 1700000000000000000⟩]
      1700000000500000000 = 1 ∧
    countPending id [⟨"a".toList, .pending, 0, 1700000000000000000⟩] 1700000000500000000 = 0 := by
  decide +kernel

end NeonDoll.Persistence

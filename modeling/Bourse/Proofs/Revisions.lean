import Bourse.Proofs.OrderRows
import Bourse.Proofs.Runs

namespace Bourse

open Scope

/-- What is to become of an order by a fill, and what was open of it when the fill was made. -/
structure Revision where
  order : OrderId
  expected : Int
  remaining : Int
  status : Status

namespace Revision

/-- No more is left open than was, and the status says whether any is. -/
structure Consistent (revision : Revision) : Prop where
  range : 0 ≤ revision.remaining ∧ revision.remaining ≤ revision.expected
  status : revision.status = if revision.remaining = 0 then .completed else .active

/-- The row of the order is still as it was when the fill was made. -/
structure Applies (revision : Revision) (books : Books) (row : Order) : Prop where
  consistent : revision.Consistent
  found : books.order? revision.order = some row
  same : row.remaining = revision.expected
  active : row.status = .active

/-- Why a fill cannot be recorded: the first of the conditions that is not met. -/
inductive Refused (revision : Revision) (books : Books) : Failure → Prop
  | range (outside : revision.remaining < 0 ∨ revision.expected < revision.remaining) :
      Refused revision books
        (.validation (.remainingRange revision.order revision.expected revision.remaining))
  | status (range : 0 ≤ revision.remaining ∧ revision.remaining ≤ revision.expected)
      (wrong : revision.status ≠ if revision.remaining = 0 then .completed else .active) :
      Refused revision books (.validation (.statusMismatch revision.order revision.remaining revision.status))
  | order (consistent : revision.Consistent) (absent : books.order? revision.order = none) :
      Refused revision books (.orderNotFound revision.order)
  | stale {row} (consistent : revision.Consistent) (found : books.order? revision.order = some row)
      (changed : row.remaining ≠ revision.expected ∨ row.status ≠ .active) (listed : row.pair ∈ Pair.listed) :
      Refused revision books (.conflict revision.order revision.expected row.remaining row.status)
  | unread {row} (consistent : revision.Consistent) (found : books.order? revision.order = some row)
      (changed : row.remaining ≠ revision.expected ∨ row.status ≠ .active) (unlisted : row.pair ∉ Pair.listed) :
      Refused revision books (.unreadable row.pair)

theorem applies_or_refused (revision : Revision) (books : Books) :
    (∃ row, revision.Applies books row) ∨ ∃ failure, revision.Refused books failure := by
  by_cases range : 0 ≤ revision.remaining ∧ revision.remaining ≤ revision.expected
  · by_cases status : revision.status = if revision.remaining = 0 then .completed else .active
    · cases found : books.order? revision.order with
      | none => exact .inr ⟨_, .order ⟨range, status⟩ found⟩
      | some row =>
        by_cases same : row.remaining = revision.expected ∧ row.status = .active
        · exact .inl ⟨row, ⟨range, status⟩, found, same.1, same.2⟩
        · have changed := not_and_or.mp same
          by_cases listed : row.pair ∈ Pair.listed
          · exact .inr ⟨_, .stale ⟨range, status⟩ found changed listed⟩
          · exact .inr ⟨_, .unread ⟨range, status⟩ found changed listed⟩
    · exact .inr ⟨_, .status range status⟩
  · exact .inr ⟨_, .range (by omega)⟩

/-- A conflict shows how the row differs from what was expected. -/
theorem Refused.differs {revision : Revision} {books : Books} {id : OrderId} {expected actual : Int}
    {status : Status} (refused : revision.Refused books (.conflict id expected actual status)) :
    (id = revision.order ∧ expected = revision.expected) ∧ ¬(actual = expected ∧ status = .active) := by
  cases refused with
  | stale _ _ changed _ => exact ⟨⟨rfl, rfl⟩, fun same => changed.elim (· same.1) (· same.2)⟩

end Revision

theorem Books.order?_setOrder (books : Books) (target : OrderId) (remaining : Int) (status : Status) (id : OrderId) :
    (books.setOrder target remaining status).order? id = (books.order? id).map fun order =>
      if order.id = target then { order with remaining, status } else order := by
  have ids : (fun order : Order => decide (order.id = id)) ∘
      (fun order => if order.id = target then { order with remaining, status } else order) =
        fun order => decide (order.id = id) := by
    funext order
    rw [Function.comp_apply]
    split <;> rfl
  unfold order? setOrder
  rw [List.find?_map, ids]

theorem Books.order?_setOrder_of_ne (books : Books) {target id : OrderId} (remaining : Int) (status : Status)
    (different : id ≠ target) : (books.setOrder target remaining status).order? id = books.order? id := by
  rw [order?_setOrder]
  cases found : books.order? id with
  | none => rfl
  | some order =>
    rw [Option.map_some, if_neg (order?_id found ▸ different)]

namespace Scope

variable {books : Books}

theorem order_shown {id : OrderId} {row : Order} (found : books.order? id = some row) :
    order id books = (row.shown, books) := by
  have looked : books.findOrder id = row.shown := by
    unfold Books.findOrder
    rw [found]
  exact congrArg (·, books) looked

theorem order_error {id : OrderId} (absent : books.order? id = none) :
    order id books = (.error (.orderNotFound id), books) := by
  have missing : books.findOrder id = .error (.orderNotFound id) := by
    unfold Books.findOrder
    rw [absent]
  exact congrArg (·, books) missing

/-- A row that is not as expected is left alone, and so is one that is missing. -/
theorem writeOrder_none {id : OrderId} {expected : Order → Bool} (remaining : Order → Int) (status : Status)
    (unexpected : ∀ row, books.order? id = some row → expected row = false) :
    writeOrder id expected remaining status books = (.ok none, books) := by
  unfold writeOrder
  cases found : books.order? id with
  | none => rfl
  | some row => exact if_pos (.inl (unexpected row found))

end Scope

namespace Revision

variable {revision : Revision} {books : Books}

/-- The row is written before it is read back. -/
theorem Applies.recordFill_eq (undisturbed : books.faults = {}) {row : Order} (applies : revision.Applies books row) :
    recordFill revision.order revision.expected revision.remaining revision.status books =
      (Order.shown { row with remaining := revision.remaining, status := revision.status },
        books.setOrder revision.order revision.remaining revision.status) := by
  obtain ⟨⟨range, status⟩, found, same, active⟩ := applies
  have own := Books.order?_id found
  have left : revision.status = .ofOpen revision.remaining := status
  rw [← own] at found ⊢
  rw [← same] at range ⊢
  rw [left]
  exact recordFill_written undisturbed found active range

theorem Applies.recordFill_of_listed (undisturbed : books.faults = {}) {row : Order}
    (applies : revision.Applies books row) (listed : row.pair ∈ Pair.listed) :
    recordFill revision.order revision.expected revision.remaining revision.status books =
      (.ok { row with remaining := revision.remaining, status := revision.status },
        books.setOrder revision.order revision.remaining revision.status) := by
  rw [applies.recordFill_eq undisturbed, Order.shown_of_listed (by exact listed)]

theorem Applies.recordFill_of_unlisted (undisturbed : books.faults = {}) {row : Order}
    (applies : revision.Applies books row) (unlisted : row.pair ∉ Pair.listed) :
    recordFill revision.order revision.expected revision.remaining revision.status books =
      (.error (.unreadable row.pair), books.setOrder revision.order revision.remaining revision.status) := by
  rw [applies.recordFill_eq undisturbed, Order.shown_of_unlisted (by exact unlisted)]

/-- Consistent arguments lead to a look at the row, and a row that has changed to a conflict. -/
theorem Consistent.recordFill_conflict (consistent : revision.Consistent)
    (unexpected : ∀ row, books.order? revision.order = some row →
      row.remaining ≠ revision.expected ∨ row.status ≠ .active) :
    recordFill revision.order revision.expected revision.remaining revision.status books =
      conflict revision.order revision.expected books := by
  have inRange : ¬(revision.remaining < 0 ∨ revision.expected < revision.remaining) := by
    have range := consistent.range
    omega
  have changes : ¬(Status.active.after? (.ofFill revision.remaining) ≠ some revision.status) :=
    Decidable.not_not.mpr (consistent.status ▸ Status.after?_ofFill _)
  have unwritten := writeOrder_none (fun _ => revision.remaining) revision.status fun row found =>
    decide_eq_false (not_and_or.mpr (unexpected row found))
  unfold recordFill
  rw [if_neg inRange, if_neg changes]
  exact (bind_of_ok unwritten).trans rfl

theorem Refused.recordFill_eq {failure : Failure} (refused : revision.Refused books failure) :
    recordFill revision.order revision.expected revision.remaining revision.status books =
      (.error failure, books) := by
  have conflicting {row : Order} (found : books.order? revision.order = some row)
      (changed : row.remaining ≠ revision.expected ∨ row.status ≠ .active) (other : Order)
      (foundToo : books.order? revision.order = some other) :
      other.remaining ≠ revision.expected ∨ other.status ≠ .active := by
    cases found.symm.trans foundToo
    exact changed
  cases refused with
  | range outside => exact congrFun (if_pos outside) books
  | status range wrong =>
    have inRange : ¬(revision.remaining < 0 ∨ revision.expected < revision.remaining) := by omega
    have unchanged : Status.active.after? (.ofFill revision.remaining) ≠ some revision.status := by
      rw [Status.after?_ofFill, ne_eq, Option.some.injEq]
      exact Ne.symm wrong
    exact congrFun ((if_neg inRange).trans (if_pos unchanged)) books
  | order consistent absent =>
    have unexpected (row : Order) (found : books.order? revision.order = some row) :
        row.remaining ≠ revision.expected ∨ row.status ≠ .active := by
      rw [absent] at found
      cases found
    rw [consistent.recordFill_conflict unexpected]
    exact bind_of_error (order_error absent)
  | stale consistent found changed listed =>
    rw [consistent.recordFill_conflict (conflicting found changed)]
    exact bind_of_ok ((order_shown found).trans (congrArg (·, books) (Order.shown_of_listed listed)))
  | unread consistent found changed unlisted =>
    rw [consistent.recordFill_conflict (conflicting found changed)]
    exact bind_of_error ((order_shown found).trans (congrArg (·, books) (Order.shown_of_unlisted unlisted)))

theorem recordFill_ok_iff (undisturbed : books.faults = {}) :
    (∃ order after, recordFill revision.order revision.expected revision.remaining revision.status books =
      (.ok order, after)) ↔ ∃ row, revision.Applies books row ∧ row.pair ∈ Pair.listed := by
  constructor
  · rintro ⟨order, after, ran⟩
    rcases revision.applies_or_refused books with ⟨row, applies⟩ | ⟨failure, refused⟩
    · refine ⟨row, applies, ?_⟩
      by_contra unlisted
      cases ran.symm.trans (applies.recordFill_of_unlisted undisturbed unlisted)
    · cases ran.symm.trans refused.recordFill_eq
  · rintro ⟨row, applies, listed⟩
    exact ⟨_, _, applies.recordFill_of_listed undisturbed listed⟩

theorem recordFill_error_iff (undisturbed : books.faults = {}) {failure : Failure} {after : Books} :
    recordFill revision.order revision.expected revision.remaining revision.status books =
      (.error failure, after) ↔ (revision.Refused books failure ∧ after = books) ∨
        ∃ row, (revision.Applies books row ∧ row.pair ∉ Pair.listed) ∧ failure = .unreadable row.pair ∧
          after = books.setOrder revision.order revision.remaining revision.status := by
  constructor
  · intro failed
    rcases revision.applies_or_refused books with ⟨row, applies⟩ | ⟨cause, refused⟩
    · by_cases listed : row.pair ∈ Pair.listed
      · cases failed.symm.trans (applies.recordFill_of_listed undisturbed listed)
      · cases failed.symm.trans (applies.recordFill_of_unlisted undisturbed listed)
        exact .inr ⟨row, ⟨applies, listed⟩, rfl, rfl⟩
    · cases failed.symm.trans refused.recordFill_eq
      exact .inl ⟨refused, rfl⟩
  · rintro (⟨refused, rfl⟩ | ⟨row, ⟨applies, unlisted⟩, rfl, rfl⟩)
    · exact refused.recordFill_eq
    · exact applies.recordFill_of_unlisted undisturbed unlisted

end Revision

/-- When a fill is recorded against an order, what that changes, and why it is refused otherwise. The books need not be
such that calls have led to them. A row on a pair that is not listed is written like any other, but it is answered that
it cannot be read, also where it has changed. -/
theorem Books.recording_exact {books : Books} (undisturbed : books.faults = {}) (revision : Revision) :
    ((∃ order after, recordFill revision.order revision.expected revision.remaining revision.status books =
        (.ok order, after)) ↔ ∃ row, revision.Applies books row ∧ row.pair ∈ Pair.listed) ∧
      (∀ row, revision.Applies books row →
        let order := { row with remaining := revision.remaining, status := revision.status }
        let after := books.setOrder revision.order revision.remaining revision.status
        recordFill revision.order revision.expected revision.remaining revision.status books =
            (if row.pair ∈ Pair.listed then .ok order else .error (.unreadable row.pair), after) ∧
          after.order? revision.order = some order ∧
          ∀ id, id ≠ revision.order → after.order? id = books.order? id) ∧
      (∀ failure after, recordFill revision.order revision.expected revision.remaining revision.status books =
        (.error failure, after) ↔ (revision.Refused books failure ∧ after = books) ∨
          ∃ row, (revision.Applies books row ∧ row.pair ∉ Pair.listed) ∧ failure = .unreadable row.pair ∧
            after = books.setOrder revision.order revision.remaining revision.status) ∧
      ∀ id expected actual status, revision.Refused books (.conflict id expected actual status) →
        (id = revision.order ∧ expected = revision.expected) ∧ ¬(actual = expected ∧ status = .active) := by
  refine ⟨Revision.recordFill_ok_iff undisturbed, fun row applies => ?_,
    fun failure after => Revision.recordFill_error_iff undisturbed,
    fun id expected actual status refused => refused.differs⟩
  have own := order?_id applies.found
  have stored : (books.setOrder revision.order revision.remaining revision.status).order? revision.order =
      some { row with remaining := revision.remaining, status := revision.status } := by
    rw [order?_setOrder, applies.found, Option.map_some, if_pos own]
  exact ⟨applies.recordFill_eq undisturbed, stored, fun id different => books.order?_setOrder_of_ne _ _ different⟩

/-- Of the two asks one is partly filled and the other has been taken back. A fill that goes by what was open before is
refused with what is open now, and so is one against the ask that was taken back. -/
theorem recording_exact_after_fill :
    let calls := twoAsks ++ [.submit ⟨"bob"⟩ ⟨.bid, ⟨.btc, .usdt⟩, 20, 2, 4, 3⟩, .cancel ⟨"ann"⟩ 2]
    let books := Desk.serve {} calls .empty
    let row : Order := ⟨1, .ask, ⟨.btc, .usdt⟩, 1, 2, 20, 5, 3, .active⟩
    books.faults = {} ∧
      recordFill 1 3 0 .completed books = (.ok { row with remaining := 0, status := .completed },
        books.setOrder 1 0 .completed) ∧
      (∀ id, id ≠ 1 → (books.setOrder 1 0 .completed).order? id = books.order? id) ∧
      recordFill 1 5 0 .completed books = (.error (.conflict 1 5 3 .active), books) ∧
      recordFill 2 5 5 .active books = (.error (.conflict 2 5 5 .canceled), books) ∧
      recordFill 9 3 (-1) .active books = (.error (.validation (.remainingRange 9 3 (-1))), books) := by
  intro calls books row
  have undisturbed : books.faults = {} := by decide +kernel
  have open_ : books.order? 1 = some row := by decide +kernel
  have closed : books.order? 2 = some ⟨2, .ask, ⟨.btc, .usdt⟩, 1, 2, 30, 5, 5, .canceled⟩ := by decide +kernel
  have applies : (⟨1, 3, 0, .completed⟩ : Revision).Applies books row := ⟨⟨by decide, rfl⟩, open_, rfl, rfl⟩
  have whole : (⟨1, 5, 0, .completed⟩ : Revision).Consistent := ⟨by decide, rfl⟩
  have stale : (⟨1, 5, 0, .completed⟩ : Revision).Refused books (.conflict 1 5 3 .active) :=
    .stale whole open_ (.inl (by decide : (3 : Int) ≠ 5)) (by decide)
  have idle : (⟨2, 5, 5, .active⟩ : Revision).Consistent := ⟨by decide, rfl⟩
  have staleToo : (⟨2, 5, 5, .active⟩ : Revision).Refused books (.conflict 2 5 5 .canceled) :=
    .stale idle closed (.inr (by decide : Status.canceled ≠ .active)) (by decide)
  have outside : (⟨9, 3, -1, .active⟩ : Revision).Refused books (.validation (.remainingRange 9 3 (-1))) :=
    .range (.inl (by decide))
  obtain ⟨_, records, _, _⟩ := Books.recording_exact undisturbed ⟨1, 3, 0, .completed⟩
  obtain ⟨recorded, _, others⟩ := records row applies
  have refuses (revision : Revision) {failure : Failure} (refused : revision.Refused books failure) :=
    ((Books.recording_exact undisturbed revision).2.2.1 failure books).mpr (.inl ⟨refused, rfl⟩)
  exact ⟨undisturbed, recorded, others, refuses _ stale, refuses _ staleToo, refuses _ outside⟩

/-- An ask on a reversed pair is kept although it was answered with a failure. A fill that goes by what is open is
written and fails all the same, and one that goes by more is answered with no conflict. -/
theorem recording_fails_on_unlisted_pair :
    let calls : List Call := [.perform (.openAccount "ann" .usdt), .perform (.openAccount "ann" .btc),
      .batch [.addOrder ⟨.ask, ⟨.usdt, .btc⟩, 2, 5, 1, 2⟩] true none]
    let books := Desk.serve {} calls .empty
    Reach (fun _ _ => True) .empty books ∧ books.faults = {} ∧
      (⟨1, 5, 0, .completed⟩ : Revision).Applies books ⟨1, .ask, ⟨.usdt, .btc⟩, 1, 2, 2, 5, 5, .active⟩ ∧
      recordFill 1 5 0 .completed books =
        (.error (.storage (.columnText 2 (.pair "USDT/BTC"))), books.setOrder 1 0 .completed) ∧
      books.setOrder 1 0 .completed ≠ books ∧
      recordFill 1 6 0 .completed books = (.error (.storage (.columnText 2 (.pair "USDT/BTC"))), books) := by
  intro calls books
  have reached : Reach (fun _ _ => True) .empty books := Reach.serve .start fun _ _ => trivial
  have found : books.order? 1 = some ⟨1, .ask, ⟨.usdt, .btc⟩, 1, 2, 2, 5, 5, .active⟩ := by decide +kernel
  exact ⟨reached, by decide +kernel, ⟨⟨by decide, rfl⟩, found, rfl, rfl⟩, by decide +kernel, by decide +kernel,
    by decide +kernel⟩

end Bourse

import Bourse.Proofs.Runs

namespace Bourse

open Scope

/-- The row of an account as it was added: later writes change nothing of it but the balance. -/
def Account.opened (account : Account) : Account := { account with balance := 0 }

/-- The row of an order as it was added. -/
def Order.opened (order : Order) : Order := { order with remaining := order.initial, status := .active }

/-- Tables that go on from earlier ones: new rows come after all that were there, and no row is lost or moved. -/
structure Books.Extended (books after : Books) : Prop where
  accounts : books.accounts.map Account.opened <+: after.accounts.map Account.opened
  orders : books.orders.map Order.opened <+: after.orders.map Order.opened
  transfers : books.transfers <+: after.transfers
  entries : books.entries <+: after.entries
  trades : books.trades <+: after.trades

namespace Books

variable {books middle after : Books}

theorem Extended.refl (books : Books) : books.Extended books :=
  ⟨List.prefix_rfl, List.prefix_rfl, List.prefix_rfl, List.prefix_rfl, List.prefix_rfl⟩

theorem Extended.trans (first : books.Extended middle) (second : middle.Extended after) : books.Extended after :=
  ⟨first.accounts.trans second.accounts, first.orders.trans second.orders, first.transfers.trans second.transfers,
    first.entries.trans second.entries, first.trades.trans second.trades⟩

/-- Ids of orders never get lost. -/
theorem Extended.orderIds (extended : books.Extended after) : books.orderIds <+: after.orderIds := by
  have ids (books : Books) : (books.orders.map Order.opened).map (·.id) = books.orderIds := by
    rw [List.map_map]
    rfl
  rw [← ids, ← ids]
  exact extended.orders.map _

theorem setBalance_extended (books : Books) (id : AccountId) (balance : Int) :
    books.Extended (books.setBalance id balance) := by
  have same : (books.setBalance id balance).accounts.map Account.opened = books.accounts.map Account.opened := by
    unfold setBalance
    rw [List.map_map]
    refine List.map_congr_left fun account _ => ?_
    rw [Function.comp_apply]
    split <;> rfl
  exact { Extended.refl books with accounts := same ▸ List.prefix_rfl }

theorem setOrder_extended (books : Books) (id : OrderId) (remaining : Int) (status : Status) :
    books.Extended (books.setOrder id remaining status) := by
  have same : (books.setOrder id remaining status).orders.map Order.opened = books.orders.map Order.opened := by
    unfold setOrder
    rw [List.map_map]
    refine List.map_congr_left fun order _ => ?_
    rw [Function.comp_apply]
    split <;> rfl
  exact { Extended.refl books with orders := same ▸ List.prefix_rfl }

end Books

section Writes

variable {raced : Prop} {books after : Books}

theorem Write.extended (write : Write raced books after) : books.Extended after := by
  have same := Books.Extended.refl books
  cases write with
  | account => exact { same with accounts := List.map_append ▸ List.prefix_append _ _ }
  | order => exact { same with orders := List.map_append ▸ List.prefix_append _ _ }
  | transfer => exact { same with transfers := List.prefix_append _ _ }
  | entry => exact { same with entries := List.prefix_append _ _ }
  | trade => exact { same with trades := List.prefix_append _ _ }
  | balance => exact books.setBalance_extended ..
  | fill => exact books.setOrder_extended ..
  | cancel => exact books.setOrder_extended ..
  | strike => exact books.setOrder_extended ..
  | faults => exact { same with }

theorem Writes.extended (writes : Writes raced books after) : books.Extended after := by
  induction writes with
  | refl => exact .refl books
  | tail _ write ih => exact ih.trans write.extended

end Writes

/-- Whatever is called for, by whomever and with whatever faults set up, the tables stay well-formed: their ids count
the rows in the order in which these were added, each account that a row names exists, and balances and amounts stay
in range. That holds of books between the calls and of a scope that is still open on them, also if it goes on after
failures. -/
theorem Reach.well_formed_in_order {books after : Books} (earlier : Reach (fun _ _ => True) .empty books)
    (later : Reach (fun _ _ => True) books after) (tolerant : Bool) (operations : List Operation) :
    (Batch.run tolerant operations after).books.WellFormed ∧
      books.Extended (Batch.run tolerant operations after).books := by
  have since : Writes True books after := later.writes (fun _ => .inl trivial) (.inl trivial)
  have opened : Writes True after (Batch.run tolerant operations after).books :=
    Batch.run_makes (.inl trivial) tolerant (.inl trivial)
  have written : Writes True books (Batch.run tolerant operations after).books := since.trans opened
  exact ⟨written.wellFormed earlier.wellFormed, written.extended⟩

/-- Raw changes of balances by negative amounts and by zero, a fault that reopens an order, a scope that is undone, and
a scope that goes on after each kind of row was refused. -/
theorem well_formed_in_tolerant_scope :
    let books := Desk.serve {} twoAsks .empty
    let later : List Call := [.perform (.race ⟨1, 1, 5, .active⟩), .submit ⟨"bob"⟩ ⟨.bid, ⟨.btc, .usdt⟩, 20, 5, 4, 3⟩,
      .batch [.openAccount "cy" .eth, .postEntry 5 0] true (some "undone"),
      .batch [.credit 3 (-2), .debit 2 (-7), .credit 9 1, .debit 1 0] true none]
    let operations : List Operation := [.credit 1 (-100), .postTransfer ⟨1, 2, 0⟩, .postTransfer ⟨1, 2, -3⟩,
      .postTransfer ⟨1, 9, 3⟩, .postTrade ⟨1, 3, 5⟩ ⟨4, 2, 0⟩, .postEntry 9 4, .transfer 1 2 3,
      .postTransfer ⟨1, 2, 3⟩, .postEntry 1 0, .openAccount "dee" .btc]
    let after := Desk.serve {} later books
    let batch := Batch.run true operations after
    after.accounts.map (·.balance) = [5, 107, 3, 0] ∧
      after.orders.map (fun order => (order.remaining, order.status)) = [(5, .active), (5, .active), (0, .completed)] ∧
      batch.steps.map (fun step => step.isOk) =
        [false, false, false, false, false, false, false, true, true, true] ∧
      batch.books.WellFormed ∧ books.Extended batch.books := by
  intro books later operations after batch
  have earlier : Reach (fun _ _ => True) .empty books := Reach.serve .start fun _ _ => trivial
  have reached : Reach (fun _ _ => True) books after := Reach.serve .start fun _ _ => trivial
  exact ⟨by decide +kernel, by decide +kernel, by decide +kernel,
    earlier.well_formed_in_order reached true operations⟩

end Bourse

import Bourse.Proofs.Fills
import Bourse.Proofs.Totals
import Mathlib.Algebra.Order.Group.Abs

namespace Bourse

open Scope

/-- What an order of a side gives for `quantity` at a price: a bid pays in the quote currency, an ask in the base
currency. -/
def Side.cost : Side → Int → Int → Int
  | bid, price, quantity => price * quantity
  | ask, _, quantity => quantity

namespace Side

theorem cost_add (side : Side) (price quantity more : Int) :
    side.cost price (quantity + more) = side.cost price quantity + side.cost price more := by
  cases side with
  | bid => exact Int.mul_add ..
  | ask => rfl

theorem cost_zero (side : Side) (price : Int) : side.cost price 0 = 0 := by
  cases side with
  | bid => exact Int.mul_zero price
  | ask => rfl

/-- At a price within its limit, an order gives no more than at its limit, and gets no less. -/
theorem cost_of_offersWithin {side : Side} {limit price quantity : Int}
    (within : side.opposite.OffersWithin limit price) (positive : 0 < quantity) :
    side.cost price quantity ≤ side.cost limit quantity ∧
      side.opposite.cost limit quantity ≤ side.opposite.cost price quantity := by
  cases side with
  | bid => exact ⟨Int.mul_le_mul_of_nonneg_right within (Int.le_of_lt positive), Int.le_refl _⟩
  | ask => exact ⟨Int.le_refl _, Int.mul_le_mul_of_nonneg_right within (Int.le_of_lt positive)⟩

end Side

namespace Leg

/-- What a leg takes from an account. -/
def outOf (leg : Leg) (id : AccountId) : Int := if leg.payer = id then leg.amount else 0

/-- What a leg brings into an account. -/
def into (leg : Leg) (id : AccountId) : Int := if leg.payee = id then leg.amount else 0

end Leg

/-- The legs of a fill: the resting order pays into the account that the ticket names, and the ticket pays into
the account that the resting order names. -/
theorem Swap.legs_of_ofFill {ticket : Ticket} {resting : Order} {quantity : Int} {legs : Swap}
    (swap : ofFill ticket resting quantity = .ok legs) (opposed : resting.side = ticket.side.opposite) :
    let given : Leg := ⟨resting.source, ticket.destination, resting.side.cost resting.price quantity⟩
    let taken : Leg := ⟨ticket.source, resting.destination, ticket.side.cost resting.price quantity⟩
    (legs.base = given ∧ legs.quote = taken) ∨ legs.base = taken ∧ legs.quote = given := by
  obtain ⟨_, rfl⟩ := ofFill_eq_ok.mp swap
  unfold Ticket.swap Ticket.heldInBase Ticket.heldInQuote Order.heldInBase Order.heldInQuote
  rw [opposed]
  cases ticket.side with
  | bid => exact .inl ⟨rfl, rfl⟩
  | ask => exact .inr ⟨rfl, rfl⟩

namespace Books

/-- All that went out of an account. -/
def paidOut (books : Books) (id : AccountId) : Int :=
  sumWhere (fun entry => entry.account = id ∧ entry.amount < 0) (fun entry => |entry.amount|) books.entries

/-- All that came into an account. -/
def takenIn (books : Books) (id : AccountId) : Int :=
  sumWhere (fun entry => entry.account = id ∧ 0 < entry.amount) (·.amount) books.entries

/-- What was booked in is taken in, and counts for nothing among what was paid out. -/
theorem flows_credit (books : Books) (id : AccountId) {amount : Int} (positive : 0 < amount) (other : AccountId) :
    (books.post id amount).paidOut other = books.paidOut other ∧
      (books.post id amount).takenIn other = books.takenIn other + if id = other then amount else 0 := by
  have notOut : ¬(id = other ∧ amount < 0) := by omega
  unfold paidOut takenIn post
  rw [sumWhere_concat, sumWhere_concat, if_neg notOut, Int.add_zero]
  by_cases own : id = other
  · rw [if_pos ⟨own, positive⟩, if_pos own]
    exact ⟨rfl, rfl⟩
  · rw [if_neg (fun both => own both.1), if_neg own]
    exact ⟨rfl, rfl⟩

theorem flows_debit (books : Books) (id : AccountId) {amount : Int} (positive : 0 < amount) (other : AccountId) :
    (books.post id (-amount)).paidOut other = (books.paidOut other + if id = other then amount else 0) ∧
      (books.post id (-amount)).takenIn other = books.takenIn other := by
  have notIn : ¬(id = other ∧ 0 < -amount) := by omega
  have size : |(-amount)| = amount := by rw [abs_neg, abs_of_pos positive]
  unfold paidOut takenIn post
  rw [sumWhere_concat, sumWhere_concat, if_neg notIn, Int.add_zero]
  by_cases own : id = other
  · rw [if_pos ⟨own, Int.neg_neg_of_pos positive⟩, if_pos own, size]
    exact ⟨rfl, rfl⟩
  · rw [if_neg (fun both => own both.1), if_neg own]
    exact ⟨rfl, rfl⟩

end Books

/-- Funds leave and reach accounts as two legs say. -/
structure Flows (first second : Leg) (books after : Books) : Prop where
  out : ∀ id, after.paidOut id = books.paidOut id + first.outOf id + second.outOf id
  into : ∀ id, after.takenIn id = books.takenIn id + first.into id + second.into id

theorem Transferred.flows {payer payee : AccountId} {amount : Int} {books after : Books} {row : Transfer}
    (done : Transferred payer payee amount books row after) (id : AccountId) :
    after.paidOut id = books.paidOut id + Leg.outOf ⟨payer, payee, amount⟩ id ∧
      after.takenIn id = books.takenIn id + Leg.into ⟨payer, payee, amount⟩ id := by
  obtain ⟨out, kept⟩ := books.flows_debit payer done.positive id
  obtain ⟨keptOut, into⟩ := (books.post payer (-amount)).flows_credit payee done.positive id
  rw [done.after_eq]
  exact ⟨keptOut.trans out, into.trans (by rw [kept]; rfl)⟩

theorem SettledIn.flows {first second : Leg} {books after : Books} {settlement : Settlement}
    (settled : SettledIn first second books settlement after) : Flows first second books after := by
  obtain ⟨middle, moved, movedToo⟩ := settled.transfers
  refine ⟨fun id => ?_, fun id => ?_⟩
  · rw [(movedToo.flows id).1, (moved.flows id).1]
    rfl
  · rw [(movedToo.flows id).2, (moved.flows id).2]
    rfl

namespace FillDone

variable {ticket : Ticket} {resting : Order} {quantity : Int} {books after : Books} {fill : Fill}

/-- Each of the two orders pays and is paid at the price of the resting one. -/
theorem flows (done : FillDone ticket resting quantity books fill after)
    (opposed : resting.side = ticket.side.opposite) :
    Flows ⟨resting.source, ticket.destination, resting.side.cost resting.price quantity⟩
      ⟨ticket.source, resting.destination, ticket.side.cost resting.price quantity⟩ books after := by
  obtain ⟨settlement, middle, settled, _, rfl⟩ := done.settled
  obtain ⟨out, into⟩ := settled.flows
  have legs := Swap.legs_of_ofFill done.swap opposed
  simp only at legs
  rcases legs with ⟨first, second⟩ | ⟨first, second⟩
  · rw [← first, ← second]
    exact ⟨out, into⟩
  · rw [← first, ← second]
    exact ⟨fun id => (out id).trans (Int.add_right_comm ..), fun id => (into id).trans (Int.add_right_comm ..)⟩

end FillDone

end Bourse

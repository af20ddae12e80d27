import Bourse.Order

namespace Bourse

/-- One movement of funds between two accounts. -/
structure Leg where
  payer : AccountId
  payee : AccountId
  amount : Int
  deriving DecidableEq, Repr

/-- A movement that took place. -/
structure Transfer where
  id : TransferId
  payer : AccountId
  payee : AccountId
  amount : Int
  deriving DecidableEq, Repr

/-- A line of an account: what came in is positive, what went out negative. -/
structure Entry where
  id : EntryId
  account : AccountId
  amount : Int
  deriving DecidableEq, Repr

/-- Two legs that were settled against each other. -/
structure Trade where
  id : TradeId
  first : Leg
  second : Leg
  deriving DecidableEq, Repr

structure Settlement where
  trade : Trade
  firstTransfer : Transfer
  secondTransfer : Transfer
  deriving DecidableEq, Repr

/-- What a fill moves in either currency. -/
structure Swap where
  base : Leg
  quote : Leg
  deriving DecidableEq, Repr

/-- The legs of a fill of `quantity`, at the resting order's price. The seller gives the base currency,
the buyer pays in the quote currency. -/
def Swap.ofFill (incoming : Ticket) (resting : Order) (quantity : Int) :
    Except AmountError Swap :=
  match notional resting.price quantity with
  | .error error => .error error
  | .ok value =>
    match incoming.side with
    | .bid => .ok ⟨⟨resting.heldInBase, incoming.heldInBase, quantity⟩,
        ⟨incoming.heldInQuote, resting.heldInQuote, value⟩⟩
    | .ask => .ok ⟨⟨incoming.heldInBase, resting.heldInBase, quantity⟩,
        ⟨resting.heldInQuote, incoming.heldInQuote, value⟩⟩

end Bourse

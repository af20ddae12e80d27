import Bourse.Failure

namespace Bourse

/-- A limit order as it comes in: `source` pays, `destination` receives. -/
structure Ticket where
  side : Side
  pair : Pair
  price : Int
  amount : Int
  source : AccountId
  destination : AccountId
  deriving DecidableEq, Repr

namespace Ticket

def heldInBase (ticket : Ticket) : AccountId :=
  ticket.side.heldInBase ticket.source ticket.destination

def heldInQuote (ticket : Ticket) : AccountId :=
  ticket.side.heldInQuote ticket.source ticket.destination

/-- The first fault in the order price, amount, accounts is the one reported. -/
def check (ticket : Ticket) : Except Failure Unit :=
  if ticket.price ≤ 0 then .error (.validation .priceNotPositive)
  else if ticket.amount ≤ 0 then .error (.validation .amountNotPositive)
  else if ticket.source = ticket.destination then .error (.validation .sameAccount)
  else .ok ()

end Ticket

/-- An order on the book; `remaining` of its `initial` amount is not yet traded. -/
structure Order where
  id : OrderId
  side : Side
  pair : Pair
  source : AccountId
  destination : AccountId
  price : Int
  initial : Int
  remaining : Int
  status : Status
  deriving DecidableEq, Repr

namespace Order

def heldInBase (order : Order) : AccountId :=
  order.side.heldInBase order.source order.destination

def heldInQuote (order : Order) : AccountId :=
  order.side.heldInQuote order.source order.destination

/-- The status an order has after a change. -/
def statusAfter (order : Order) (change : Change) : Except Failure Status :=
  match order.status.after? change with
  | some status => .ok status
  | none => .error (.wrongStatus order.id order.status change)

/-- Whether the order rests on `pair`, is of side `side` and is offered within `limit`. -/
def Tradable (order : Order) (pair : Pair) (limit : Int) (side : Side) : Prop :=
  order.side = side ∧ order.pair = pair ∧ side.OffersWithin limit order.price ∧ order.status = .active

instance (order : Order) (pair : Pair) (limit : Int) (side : Side) :
    Decidable (order.Tradable pair limit side) :=
  inferInstanceAs (Decidable (_ ∧ _ ∧ _ ∧ _))

/-- A row as it is read. Its pair stands at position 2, and a pair that is not listed is not read back. -/
def shown (order : Order) : Except Failure Order :=
  if order.pair ∈ Pair.listed then .ok order else .error (.unreadable order.pair)

/-- Rows are read one after the other, up to the first that cannot be. -/
def allShown (rows : List Order) : Except Failure (List Order) := rows.mapM shown

end Order

end Bourse

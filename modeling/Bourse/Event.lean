import Bourse.Matching

namespace Bourse

/-- What the exchange reports about the life of an order. -/
inductive Event where
  | accepted (ticket : Ticket)
  | filled (order resting : OrderId) (trade : TradeId) (quantity price : Int)
  | completed (order : OrderId) (totalFilled : Int)
  | rested (order : OrderId) (price remaining : Int)
  | interrupted (order : OrderId) (filled : Int) (reason : String)
  | cancelled (order : OrderId) (remaining : Int)
  deriving DecidableEq, Repr

namespace Event

def name : Event → String
  | accepted _ => "OrderAccepted"
  | filled .. => "OrderFilled"
  | completed .. => "OrderCompleted"
  | rested .. => "OrderRested"
  | interrupted .. => "OrderInterrupted"
  | cancelled .. => "OrderCancelled"

/-- The order an event is about. An order gets its id only when it is stored, after it was accepted. -/
def order? : Event → Option OrderId
  | accepted _ => none
  | filled order .. | completed order _ | rested order .. => some order
  | interrupted order .. | cancelled order _ => some order

def ofFill (order : OrderId) (fill : Fill) : Event :=
  filled order fill.resting.id fill.trade.id fill.quantity fill.price

/-- How the report on an order ends that was matched without a failure. -/
def ofStored (order : Order) (traded : Int) : Event :=
  if order.status = .completed then completed order.id traded
  else rested order.id order.price order.remaining

end Event

end Bourse

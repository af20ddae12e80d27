import Bourse.Config
import Bourse.Event
import Bourse.Form
import Bourse.Timestamp

namespace Bourse

def Currency.name : Currency → String
  | brl => "Brl"
  | cad => "Cad"
  | eur => "Eur"
  | jpy => "Jpy"
  | usd => "Usd"
  | btc => "Btc"
  | eth => "Eth"
  | matic => "Matic"
  | sol => "Sol"
  | usdt => "Usdt"

def Side.name : Side → String
  | bid => "Bid"
  | ask => "Ask"

def Status.name : Status → String
  | active => "Active"
  | completed => "Completed"
  | canceled => "Canceled"

def Currency.form : Form Currency := .named Currency.all Currency.name

def Side.form : Form Side := .named Side.all Side.name

def Status.form : Form Status := .named Status.all Status.name

def Change.form : Form Change := .named Change.all Change.name

/-- Any two currencies are read as a pair, whether orders are taken on it or not. -/
def Pair.form : Form Pair :=
  ((Fields.one "base" Currency.form).and (.one "quote" Currency.form)).map
    (fun (base, quote) => Pair.mk base quote) (fun pair => (pair.base, pair.quote)) |>.record

def Timestamp.form : Form Timestamp where
  write instant := .string instant.text
  read
    | .string text => Timestamp.parse? text
    | _ => none

def Principal.form : Form Principal :=
  ((Fields.one "username" .string).map Principal.mk Principal.username).record

def Leg.form : Form Leg :=
  ((Fields.one "from_account" .word).and <| (Fields.one "to_account" .word).and <|
    .one "amount" .word).map
    (fun (payer, payee, amount) => Leg.mk payer payee amount)
    (fun leg => (leg.payer, leg.payee, leg.amount)) |>.record

def Swap.form : Form Swap :=
  ((Fields.one "base" Leg.form).and (.one "quote" Leg.form)).map
    (fun (base, quote) => Swap.mk base quote) (fun legs => (legs.base, legs.quote)) |>.record

def Ticket.form : Form Ticket :=
  ((Fields.one "side" Side.form).and <| (Fields.one "pair" Pair.form).and <|
    (Fields.one "price" .word).and <| (Fields.one "amount" .word).and <|
    (Fields.one "from_account" .word).and <| .one "to_account" .word).map
    (fun (side, pair, price, amount, source, destination) =>
      Ticket.mk side pair price amount source destination)
    (fun ticket => (ticket.side, ticket.pair, ticket.price, ticket.amount, ticket.source,
      ticket.destination)) |>.record

/-- Adds the instant to the fields of a record, after all of them. -/
def Fields.stamped {α : Type} (fields : Fields α) (name : String) : Fields (Stamped α) :=
  (fields.and (.one name Timestamp.form)).map (fun (value, instant) => Stamped.mk value instant)
    (fun stamped => (stamped.value, stamped.instant))

def Order.fields : Fields Order :=
  ((Fields.one "id" .word).and <| (Fields.one "side" Side.form).and <| (Fields.one "pair" Pair.form).and <|
    (Fields.one "from_account" .word).and <| (Fields.one "to_account" .word).and <|
    (Fields.one "price" .word).and <| (Fields.one "initial_amount" .word).and <|
    (Fields.one "remaining_amount" .word).and <| .one "status" Status.form).map
    (fun (id, side, pair, source, destination, price, initial, remaining, status) =>
      Order.mk id side pair source destination price initial remaining status)
    (fun order => (order.id, order.side, order.pair, order.source, order.destination, order.price,
      order.initial, order.remaining, order.status))

def Order.form : Form (Stamped Order) := (Order.fields.stamped "created_at").record

def Account.fields : Fields Account :=
  ((Fields.one "id" .word).and <| (Fields.one "owner" .string).and <| (Fields.one "balance" .word).and <|
    .one "currency" Currency.form).map
    (fun (id, owner, balance, currency) => Account.mk id owner balance currency)
    (fun account => (account.id, account.owner, account.balance, account.currency))

def Account.form : Form (Stamped Account) := (Account.fields.stamped "created_at").record

def Transfer.fields : Fields Transfer :=
  ((Fields.one "id" .word).and <| (Fields.one "from_account" .word).and <|
    (Fields.one "to_account" .word).and <| .one "amount" .word).map
    (fun (id, payer, payee, amount) => Transfer.mk id payer payee amount)
    (fun transfer => (transfer.id, transfer.payer, transfer.payee, transfer.amount))

def Transfer.form : Form (Stamped Transfer) := (Transfer.fields.stamped "created_at").record

def Entry.fields : Fields Entry :=
  ((Fields.one "id" .word).and <| (Fields.one "account_id" .word).and <| .one "amount" .word).map
    (fun (id, account, amount) => Entry.mk id account amount)
    (fun entry => (entry.id, entry.account, entry.amount))

def Entry.form : Form (Stamped Entry) := (Entry.fields.stamped "created_at").record

def Trade.fields : Fields Trade :=
  ((Fields.one "id" .word).and <| (Fields.one "first" Leg.form).and <| .one "second" Leg.form).map
    (fun (id, first, second) => Trade.mk id first second)
    (fun trade => (trade.id, trade.first, trade.second))

def Trade.form : Form (Stamped Trade) := (Trade.fields.stamped "created_at").record

/-- A settlement whose three rows each carry the instant of their own. -/
structure SettlementRecord where
  trade : Stamped Trade
  firstTransfer : Stamped Transfer
  secondTransfer : Stamped Transfer
  deriving DecidableEq, Repr

def SettlementRecord.form : Form SettlementRecord :=
  ((Fields.one "trade" Trade.form).and <| (Fields.one "first_transfer" Transfer.form).and <|
    .one "second_transfer" Transfer.form).map
    (fun (trade, first, second) => SettlementRecord.mk trade first second)
    (fun settlement => (settlement.trade, settlement.firstTransfer, settlement.secondTransfer)) |>.record

def greatestUnsigned32 : Nat := 4294967295

def greatestUnsigned64 : Nat := 18446744073709551615

/-- A span is read with any number of nanoseconds, and what makes up whole seconds is carried over. -/
def Span.form : Form Span :=
  let fields := (Fields.one "secs" (.upTo greatestUnsigned64)).and (.one "nanos" (.upTo greatestUnsigned32))
  let pairs := fields.closedRecord
  { write := fun span => pairs.write (span.seconds, span.nanoseconds)
    read := fun json => do
      let (seconds, nanoseconds) ← pairs.read json
      if seconds + nanoseconds / 1000000000 ≤ greatestUnsigned64 then
        return ⟨seconds + nanoseconds / 1000000000, nanoseconds % 1000000000⟩
      else none }

def Storage.form : Form Storage :=
  ((Fields.optional "path" .string).and (.one "busy_timeout" Span.form)).map
    (fun (path, busyTimeout) => Storage.mk path busyTimeout)
    (fun storage => (storage.path, storage.busyTimeout)) |>.record

def Config.form : Form Config :=
  ((Fields.one "store" Storage.form).and (.one "page_size" (.upTo greatestUnsigned32))).map
    (fun (storage, pageSize) => Config.mk storage pageSize)
    (fun config => (config.storage, config.pageSize)) |>.record

namespace Event

def acceptedFields : Fields Ticket := .one "request" Ticket.form

def filledFields : Fields (OrderId × OrderId × TradeId × Int × Int) :=
  (Fields.one "order_id" .word).and <| (Fields.one "counter_order_id" .word).and <|
    (Fields.one "trade_id" .word).and <| (Fields.one "quantity" .word).and <| .one "price" .word

def completedFields : Fields (OrderId × Int) := (Fields.one "order_id" .word).and (.one "total_filled" .word)

def restedFields : Fields (OrderId × Int × Int) :=
  (Fields.one "order_id" .word).and <| (Fields.one "price" .word).and <| .one "remaining" .word

def interruptedFields : Fields (OrderId × Int × String) :=
  (Fields.one "order_id" .word).and <| (Fields.one "filled" .word).and <| .one "reason" .string

def cancelledFields : Fields (OrderId × Int) := (Fields.one "order_id" .word).and (.one "remaining" .word)

/-- The content of an event, written as the object that stands under its name. -/
def writeContent (event : Event) (instant : Timestamp) : Json :=
  match event with
  | accepted ticket => (acceptedFields.stamped "timestamp").record.write ⟨ticket, instant⟩
  | filled order resting trade quantity price =>
    (filledFields.stamped "timestamp").record.write ⟨(order, resting, trade, quantity, price), instant⟩
  | completed order total => (completedFields.stamped "timestamp").record.write ⟨(order, total), instant⟩
  | rested order price remaining =>
    (restedFields.stamped "timestamp").record.write ⟨(order, price, remaining), instant⟩
  | interrupted order amount reason =>
    (interruptedFields.stamped "timestamp").record.write ⟨(order, amount, reason), instant⟩
  | cancelled order remaining =>
    (cancelledFields.stamped "timestamp").record.write ⟨(order, remaining), instant⟩

/-- Reads what stands under the name of an event. -/
def readContent {α : Type} (fields : Fields α) (event : α → Event) (found : List (String × Json)) :
    Option (Stamped Event) := do
  let content ← (fields.stamped "timestamp").readObject found
  return ⟨event content.value, content.instant⟩

/-- An event is an object with its name as the only field. -/
def form : Form (Stamped Event) where
  write stamped := .object [(stamped.value.name, stamped.value.writeContent stamped.instant)]
  read
    | .object [("OrderAccepted", .object found)] => readContent acceptedFields accepted found
    | .object [("OrderFilled", .object found)] =>
      readContent filledFields
        (fun (order, resting, trade, quantity, price) => filled order resting trade quantity price) found
    | .object [("OrderCompleted", .object found)] =>
      readContent completedFields (fun (order, total) => completed order total) found
    | .object [("OrderRested", .object found)] =>
      readContent restedFields (fun (order, price, remaining) => rested order price remaining) found
    | .object [("OrderInterrupted", .object found)] =>
      readContent interruptedFields (fun (order, amount, reason) => interrupted order amount reason) found
    | .object [("OrderCancelled", .object found)] =>
      readContent cancelledFields (fun (order, remaining) => cancelled order remaining) found
    | _ => none

end Event

end Bourse

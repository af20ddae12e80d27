import Bourse.Desk

namespace Bourse

/-- One piece of work on the tables of the books. -/
inductive Operation where
  | openAccount (owner : String) (currency : Currency)
  | account (id : AccountId)
  | credit (id : AccountId) (amount : Int)
  | debit (id : AccountId) (amount : Int)
  | accountsOf (owner : String)
  | deposit (id : AccountId) (amount : Int)
  | transfer (payer payee : AccountId) (amount : Int)
  | reconcile (id : AccountId)
  | settle (first second : Leg)
  | addOrder (ticket : Ticket)
  | order (id : OrderId)
  | cancelOrder (id : OrderId)
  | recordFill (id : OrderId) (expected remaining : Int) (status : Status)
  | tradablePage (pair : Pair) (limit : Int) (side : Side) (page size : Nat)
  | tradableBeyond (pair : Pair) (limit : Int) (side : Side) (cursor : Option OrderId) (size : Nat)
  | ordersOf (id : AccountId)
  | postTransfer (leg : Leg)
  | postEntry (id : AccountId) (amount : Int)
  | postTrade (first second : Leg)
  | findTransfer (id : TransferId)
  | findTrade (id : TradeId)
  | entriesOf (id : AccountId)
  | tradesOf (id : AccountId)
  | entryTotal (id : AccountId)
  | transferCount
  | tradeCount
  | refuseOrders (side : Side)
  | race (competitor : Race)
  | ignoreUpdates (id : OrderId)
  | clearFaults
  deriving DecidableEq, Repr

/-- What an operation answers. -/
inductive Answer where
  | nothing
  | truth (value : Bool)
  | number (value : Int)
  | account (account : Account)
  | accounts (accounts : List Account)
  | order (order : Order)
  | orders (orders : List Order)
  | transfer (transfer : Transfer)
  | entry (entry : Entry)
  | entries (entries : List Entry)
  | trade (trade : Trade)
  | trades (trades : List Trade)
  | settlement (settlement : Settlement)
  deriving DecidableEq, Repr

/-- Sets up a disturbance, or takes all of them away. -/
def Scope.changeFaults (change : Faults → Faults) : Scope Unit := fun books =>
  (.ok (), { books with faults := change books.faults })

/-- The work of an operation in the current scope. -/
def Operation.perform : Operation → Scope Answer
  | openAccount owner currency => .account <$> Scope.openAccount owner currency
  | account id => .account <$> Scope.account id
  | credit id amount => .account <$> Scope.credit id amount
  | debit id amount => .account <$> Scope.debit id amount
  | accountsOf owner => Scope.read fun books => .ok (.accounts (books.accountsOf owner))
  | deposit id amount => .entry <$> Scope.deposit id amount
  | transfer payer payee amount => .transfer <$> Scope.transfer payer payee amount
  | reconcile id => .truth <$> Scope.reconcile id
  | settle first second => .settlement <$> Scope.settle first second
  | addOrder ticket => .order <$> Scope.addOrder ticket
  | order id => .order <$> Scope.order id
  | cancelOrder id => .order <$> Scope.cancelOrder id
  | recordFill id expected remaining status => .order <$> Scope.recordFill id expected remaining status
  | tradablePage pair limit side page size =>
    Scope.read fun books => .orders <$> books.tradablePage pair limit side page size
  | tradableBeyond pair limit side cursor size =>
    Scope.read fun books => .orders <$> books.tradableBeyond pair limit side cursor size
  | ordersOf id => Scope.read fun books => .orders <$> books.ordersOf id
  | postTransfer leg => .transfer <$> Scope.postTransfer leg
  | postEntry id amount => .entry <$> Scope.postEntry id amount
  | postTrade first second => .trade <$> Scope.postTrade first second
  | findTransfer id => Scope.read fun books => .transfer <$> books.findTransfer id
  | findTrade id => Scope.read fun books => .trade <$> books.findTrade id
  | entriesOf id => Scope.read fun books => .ok (.entries (books.entriesOf id))
  | tradesOf id => Scope.read fun books => .ok (.trades (books.tradesOf id))
  | entryTotal id => Scope.read fun books => .number <$> books.entryTotal id
  | transferCount => Scope.read fun books => .ok (.number books.transfers.length)
  | tradeCount => Scope.read fun books => .ok (.number books.trades.length)
  | refuseOrders side => (fun _ => .nothing) <$> Scope.changeFaults fun faults =>
      { faults with refused := faults.refused ++ [side] }
  | .race competitor => (fun _ => .nothing) <$> Scope.changeFaults fun faults =>
      { faults with races := competitor :: faults.races }
  | ignoreUpdates id => (fun _ => .nothing) <$> Scope.changeFaults fun faults =>
      { faults with ignored := faults.ignored ++ [id] }
  | clearFaults => (fun _ => .nothing) <$> Scope.changeFaults fun _ => {}

/-- Several operations in one scope: what each answered, the failure that ended the scope if one did,
and the books as they then were. -/
structure Batch where
  steps : List (Except Failure Answer)
  failure : Option Failure
  books : Books
  deriving DecidableEq, Repr

namespace Batch

/-- Performs operations one after the other. A tolerant scope goes on after a failure, with whatever the
failed operation had written. -/
def run (tolerant : Bool) : List Operation → Books → Batch
  | [], books => ⟨[], none, books⟩
  | operation :: rest, books =>
    match operation.perform books with
    | (.ok answer, after) =>
      let following := run tolerant rest after
      { following with steps := .ok answer :: following.steps }
    | (.error failure, after) =>
      if tolerant then
        let following := run tolerant rest after
        { following with steps := .error failure :: following.steps }
      else ⟨[], some failure, after⟩

/-- Runs a scope that may be told to fail at its end. Only a scope without a failure is kept. -/
def commit (tolerant : Bool) (abort : Option String) (operations : List Operation) (books : Books) : Batch :=
  let batch := run tolerant operations books
  match batch.failure, abort with
  | none, none => batch
  | none, some text => { batch with failure := some (.validation (.stated text)), books }
  | some _, _ => { batch with books }

end Batch

end Bourse

import Bourse.Event

namespace Bourse

/-- Where the holder of an account is looked up. It need not be the books. -/
abbrev Directory := Books → AccountId → Except Failure Account

namespace Directory

def ofBooks : Directory := fun books id => books.findAccount id

/-- A directory that knows the given accounts and no others. -/
def ofList (accounts : List Account) : Directory := fun _ id =>
  match accounts.find? (fun account => account.id = id) with
  | some account => .ok account
  | none => .error (.accountNotFound id)

end Directory

def Principal.authorize (principal : Principal) (account : Account) : Except Failure Unit :=
  if principal.Owns account then .ok ()
  else .error (.unauthorized account.id principal.username)

/-- Where principals hand in their orders. -/
structure Desk where
  directory : Directory := .ofBooks
  pageSize : Nat := 10

/-- The answer to a call at the desk, what was reported meanwhile, and the books afterwards. -/
structure Filing (α : Type) where
  result : Except Failure α
  events : List Event
  books : Books
  deriving DecidableEq, Repr

/-- What a principal learns about an order that was taken. -/
structure Receipt where
  order : Order
  status : Status
  filled : Int
  fills : List Fill
  deriving DecidableEq, Repr

/-- Stores an order of which `filled` is already traded. -/
def Scope.storeOrder (ticket : Ticket) (filled : Int) : Scope Order := atomic do
  let order ← addOrder ticket
  if filled = 0 then pure order
  else do
    let status ← ofExcept (order.statusAfter (.ofFill (ticket.amount - filled)))
    recordFill order.id order.remaining (ticket.amount - filled) status

/-- A failure to store an order does not undo its fills, so that it has to name them. -/
def Scope.placeOrder (ticket : Ticket) (filled : Int) : Scope Order := fun books =>
  match storeOrder ticket filled books with
  | (.ok order, after) => (.ok order, after)
  | (.error cause, after) =>
    (.error (if filled = 0 then cause else .unstored filled cause), after)

namespace Desk

/-- An account named in a ticket has to hold the right currency and to belong to the principal. -/
def checkAccount (desk : Desk) (principal : Principal) (id : AccountId) (expected : Currency)
    (books : Books) : Except Failure Unit := do
  let account ← desk.directory books id
  if account.currency = expected then principal.authorize account
  else .error (.currencyMismatch id expected account.currency)

def vet (desk : Desk) (principal : Principal) (ticket : Ticket) (books : Books) :
    Except Failure Unit := do
  ticket.check
  desk.checkAccount principal ticket.source (ticket.side.pays ticket.pair) books
  desk.checkAccount principal ticket.destination (ticket.side.receives ticket.pair) books

/-- Matches an order that was vetted and stores what it has become. If matching stops after some fills, the
order is stored with the rest open and the failure names what was filled; if it stops before any,
nothing is stored. -/
def take (desk : Desk) (ticket : Ticket) (books : Books) : Filing Receipt :=
  match matchTicket ticket desk.pageSize books with
  | (.ok progress, matched) =>
    match Scope.placeOrder ticket progress.traded matched with
    | (.ok order, after) =>
      ⟨.ok ⟨order, order.status, progress.traded, progress.fills⟩,
        progress.fills.map (.ofFill order.id) ++ [.ofStored order progress.traded], after⟩
    | (.error failure, after) => ⟨.error failure, [], after⟩
  | (.error ⟨progress, cause⟩, matched) =>
    if progress.traded = 0 then ⟨.error cause, [], matched⟩
    else
      match Scope.placeOrder ticket progress.traded matched with
      | (.ok order, after) =>
        ⟨.error (.interrupted order.id progress.traded cause),
          progress.fills.map (.ofFill order.id) ++ [.interrupted order.id progress.traded cause.message],
          after⟩
      | (.error failure, after) => ⟨.error failure, [], after⟩

def submit (desk : Desk) (principal : Principal) (ticket : Ticket) (books : Books) :
    Filing Receipt :=
  match desk.vet principal ticket books with
  | .error failure => ⟨.error failure, [], books⟩
  | .ok () =>
    let taken := desk.take ticket books
    { taken with events := .accepted ticket :: taken.events }

/-- An order is shown to the holder of the account it pays from. -/
def lookUp (desk : Desk) (principal : Principal) (id : OrderId) (books : Books) : Except Failure Order := do
  let order ← books.findOrder id
  let account ← desk.directory books order.source
  principal.authorize account
  return order

def cancel (desk : Desk) (principal : Principal) (id : OrderId) (books : Books) : Filing Order :=
  match desk.lookUp principal id books with
  | .error failure => ⟨.error failure, [], books⟩
  | .ok order =>
    match (Scope.cancelOrder order.id).atomic books with
    | (.ok canceled, after) => ⟨.ok canceled, [.cancelled canceled.id canceled.remaining], after⟩
    | (.error failure, after) => ⟨.error failure, [], after⟩

end Desk

end Bourse

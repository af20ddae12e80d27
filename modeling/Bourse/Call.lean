import Bourse.Operation

namespace Bourse

/-- What can be asked at a desk: by a principal, or of the books behind it. -/
inductive Call where
  | submit (principal : Principal) (ticket : Ticket)
  | cancel (principal : Principal) (id : OrderId)
  | lookUp (principal : Principal) (id : OrderId)
  | matchTicket (ticket : Ticket) (size : Nat)
  | perform (operation : Operation)
  | batch (operations : List Operation) (tolerant : Bool) (abort : Option String)
  deriving DecidableEq, Repr

inductive Reply where
  | receipt (result : Except Failure Receipt) (events : List Event)
  | canceled (result : Except Failure Order) (events : List Event)
  | matched (result : Except Interruption Progress) (amount : Int)
  | answer (result : Except Failure Answer)
  | batch (failure : Option Failure) (steps : List (Except Failure Answer))
  deriving DecidableEq, Repr

/-- What a call reported; only submissions and cancellations report at all. -/
def Reply.events? : Reply → Option (List Event)
  | receipt _ events | canceled _ events => some events
  | _ => none

/-- Answers a call. An operation that is asked for alone has a scope of its own. -/
def Call.run (desk : Desk) : Call → Books → Reply × Books
  | submit principal ticket, books =>
    let filing := desk.submit principal ticket books
    (.receipt filing.result filing.events, filing.books)
  | cancel principal id, books =>
    let filing := desk.cancel principal id books
    (.canceled filing.result filing.events, filing.books)
  | lookUp principal id, books => (.answer (.order <$> desk.lookUp principal id books), books)
  | matchTicket ticket size, books =>
    let (result, after) := Bourse.matchTicket ticket size books
    (.matched result ticket.amount, after)
  | perform operation, books =>
    let (result, after) := operation.perform.atomic books
    (.answer result, after)
  | batch operations tolerant abort, books =>
    let batch := Batch.commit tolerant abort operations books
    (.batch batch.failure batch.steps, batch.books)

end Bourse

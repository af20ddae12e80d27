import Bourse.Ledger
import Bourse.Resting

namespace Bourse

/-- One settled fill, with the resting order as it is afterwards and the price it was offered at. -/
structure Fill where
  resting : Order
  trade : Trade
  quantity : Int
  price : Int
  deriving DecidableEq, Repr

/-- What matching has achieved so far. -/
structure Progress where
  status : Status := .active
  traded : Int := 0
  fills : List Fill := []
  deriving DecidableEq, Repr

/-- What is still open of an amount. -/
def Progress.openAmount (progress : Progress) (amount : Int) : Int := amount - progress.traded

def Progress.add (progress : Progress) (fill : Fill) : Progress :=
  { progress with traded := progress.traded + fill.quantity, fills := progress.fills ++ [fill] }

/-- Matching stopped on a failure. The fills in `progress` stay. -/
structure Interruption where
  progress : Progress
  cause : Failure
  deriving DecidableEq, Repr

def Interruption.message (interruption : Interruption) : String :=
  "matching interrupted after trading " ++ toString interruption.progress.traded ++ ": " ++
    interruption.cause.message

/-- Settles `quantity` against a resting order as it was listed, and records what it leaves of that
order. All of it is one scope of its own. -/
def Scope.fill (ticket : Ticket) (resting : Order) (quantity : Int) : Scope Fill :=
  match Swap.ofFill ticket resting quantity with
  | .error error => fail (.numeric error)
  | .ok legs => atomic do
    let settlement ← settle legs.base legs.quote
    let status ← ofExcept (resting.statusAfter (.ofFill (resting.remaining - quantity)))
    let left ← recordFill resting.id resting.remaining (resting.remaining - quantity) status
    pure ⟨left, settlement.trade, quantity, resting.price⟩

/-- Fills the listed orders one after the other, until the ticket is filled or a fill fails. -/
def fillPage (ticket : Ticket) :
    List Order → Progress → Books → Except Interruption Progress × Books
  | [], progress, books => (.ok progress, books)
  | resting :: rest, progress, books =>
    match Scope.fill ticket resting (min (progress.openAmount ticket.amount) resting.remaining) books with
    | (.error cause, after) => (.error ⟨progress, cause⟩, after)
    | (.ok fill, after) =>
      if (progress.add fill).openAmount ticket.amount = 0 then
        (.ok { progress.add fill with status := .completed }, after)
      else fillPage ticket rest (progress.add fill) after

theorem Scope.fill_keeps_orderIds (ticket : Ticket) (resting : Order) (quantity : Int) :
    Keeps (·.orderIds) (fill ticket resting quantity) := by
  unfold fill
  split
  · exact keeps_fail _
  · exact ((settle_keeps (fun _ _ _ _ => rfl) (fun _ _ => rfl) _ _).bind fun _ =>
      (keeps_ofExcept _).bind fun _ => (recordFill_keeps_orderIds _ _ _ _).bind fun _ => keeps_pure _).atomic

/-- Matching changes orders but adds none. -/
theorem fillPage_orderIds (ticket : Ticket) (page : List Order) (progress : Progress)
    (books : Books) : (fillPage ticket page progress books).2.orderIds = books.orderIds := by
  induction page generalizing progress books with
  | nil => rfl
  | cons resting rest ih =>
    have kept := Scope.fill_keeps_orderIds ticket resting
      (min (progress.openAmount ticket.amount) resting.remaining) books
    unfold fillPage
    split
    next ran => simpa only [ran] using kept
    next ran =>
      rw [ran] at kept
      split
      · exact kept
      · exact (ih _ _).trans kept

/-- Matches an incoming order against the resting ones in the order of their ids, page by page. -/
def sweep (ticket : Ticket) (size : Nat) (cursor : Option OrderId) (progress : Progress)
    (books : Books) : Except Interruption Progress × Books :=
  match _ : books.tradableBeyond ticket.pair ticket.price ticket.side.opposite cursor size with
  | .error cause => (.error ⟨progress, cause⟩, books)
  | .ok [] => (.ok progress, books)
  | .ok (first :: rest) =>
    match _ : fillPage ticket (first :: rest) progress books with
    | (.error interruption, after) => (.error interruption, after)
    | (.ok reached, after) =>
      if reached.status = .completed then (.ok reached, after)
      else sweep ticket size (some (rest.getLastD first).id) reached after
  termination_by (books.idsBeyond cursor).length
  decreasing_by
    have listed := ‹books.tradableBeyond _ _ _ _ _ = _›
    have filled := ‹fillPage _ _ _ _ = _›
    have kept : after.orderIds = books.orderIds := by
      simpa only [filled] using fillPage_orderIds ticket (first :: rest) progress books
    rw [Books.idsBeyond, kept]
    exact Books.idsBeyond_length_lt (Books.mem_idsBeyond_of_tradableBeyond listed List.getLastD_mem_cons)

/-- Matches an order without storing it. -/
def matchTicket (ticket : Ticket) (size : Nat) (books : Books) :
    Except Interruption Progress × Books :=
  sweep ticket size none {} books

end Bourse

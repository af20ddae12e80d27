import Bourse.Proofs.Serving
import Bourse.Proofs.Settlements

namespace Bourse

open Scope

/-- The id is that of an account at an end of either leg. -/
def Swap.Names (legs : Swap) (id : AccountId) : Prop := legs.base.Names id ∨ legs.quote.Names id

/-- The books after a fill: both legs are settled, and the row of the resting order is as the fill shows it. -/
def Books.filled (books : Books) (fill : Fill) : Books :=
  (books.settled fill.trade.first fill.trade.second).setOrder fill.resting.id fill.resting.remaining
    fill.resting.status

/-- A fill without the number of its trade. -/
def Fill.outline (fill : Fill) : Fill := { fill with trade := { fill.trade with id := 0 } }

/-- How a swap fares: both legs are paid, or for which reason they are not. The second leg is looked at after the first
was moved. -/
inductive Swap.Fares (legs : Swap) (books : Books) : Option Failure → Prop
  | paid (base : legs.base.Payable books) (quote : legs.quote.Payable (books.moved legs.base)) : Fares legs books none
  | absent {id} (named : legs.Names id) (absent : ¬books.HasAccount id) :
      Fares legs books (some (.storage .missingAccount))
  | base {failure} (present : ∀ id, legs.Names id → books.HasAccount id) (refused : legs.base.Refused books failure) :
      Fares legs books (some failure)
  | quote {failure} (present : ∀ id, legs.Names id → books.HasAccount id) (base : legs.base.Payable books)
      (refused : legs.quote.Refused (books.moved legs.base) failure) : Fares legs books (some failure)

namespace Swap

variable {legs : Swap} {books other : Books} {verdict : Option Failure}

theorem fares_some (legs : Swap) (books : Books) : ∃ verdict, legs.Fares books verdict := by
  by_cases present : ∀ id, legs.Names id → books.HasAccount id
  · rcases legs.base.payable_or_refused books with base | ⟨failure, refused⟩
    · rcases legs.quote.payable_or_refused (books.moved legs.base) with quote | ⟨failure, refused⟩
      · exact ⟨_, .paid base quote⟩
      · exact ⟨_, .quote present base refused⟩
    · exact ⟨_, .base present refused⟩
  · obtain ⟨id, named, absent⟩ := not_forall₂.mp present
    exact ⟨_, .absent named absent⟩

/-- How a swap fares depends on the accounts it names only. -/
theorem Fares.alike (fares : legs.Fares books verdict)
    (same : ∀ id, legs.Names id → other.account? id = books.account? id) : legs.Fares other verdict := by
  have sameThen (id : AccountId) (named : legs.quote.Names id) :
      (other.moved legs.base).account? id = (books.moved legs.base).account? id := by
    rw [Books.moved_account?, Books.moved_account?, same id (.inr named)]
  have held {id : AccountId} (named : legs.Names id) : other.HasAccount id ↔ books.HasAccount id := by
    rw [Books.hasAccount_iff_account?, Books.hasAccount_iff_account?, same id named]
  cases fares with
  | paid base quote => exact .paid (base.alike fun id named => same id (.inl named)) (quote.alike sameThen)
  | absent named absent => exact .absent named ((not_congr (held named)).mpr absent)
  | base present refused =>
    exact .base (fun id named => (held named).mpr (present id named))
      (refused.alike fun id named => same id (.inl named))
  | quote present base refused =>
    exact .quote (fun id named => (held named).mpr (present id named)) (base.alike fun id named => same id (.inl named))
      (refused.alike sameThen)

end Swap

section Names

variable {ticket : Ticket} {resting : Order} {quantity : Int}

namespace Ticket

/-- Of either order, the base leg names the account that holds the base currency. -/
theorem swap_base_names {id : AccountId} :
    (ticket.swap resting quantity).base.Names id ↔ ticket.heldInBase = id ∨ resting.heldInBase = id := by
  unfold swap
  split
  · exact or_comm
  · exact Iff.rfl

theorem swap_quote_names {id : AccountId} :
    (ticket.swap resting quantity).quote.Names id ↔ ticket.heldInQuote = id ∨ resting.heldInQuote = id := by
  unfold swap
  split
  · exact Iff.rfl
  · exact or_comm

end Ticket

end Names

/-- The fill of `quantity` that a ticket gets from a resting order, where its trade gets the id `number`. -/
def Ticket.fill (ticket : Ticket) (resting : Order) (quantity : Int) (number : TradeId) : Fill where
  resting := { resting with
    remaining := resting.remaining - quantity, status := .ofOpen (resting.remaining - quantity) }
  trade := ⟨number, (ticket.swap resting quantity).base, (ticket.swap resting quantity).quote⟩
  quantity := quantity
  price := resting.price

namespace Scope

variable {books : Books}

/-- A trade that names an account which is not there cannot be recorded. -/
theorem settle_absent {first second : Leg} (positive : 0 < first.amount ∧ 0 < second.amount) {id : AccountId}
    (named : first.Names id ∨ second.Names id) (absent : ¬books.HasAccount id) :
    (settle first second books).1 = .error (.storage .missingAccount) := by
  have missing : ¬(books.HasAccount first.payer ∧ books.HasAccount first.payee ∧
      books.HasAccount second.payer ∧ books.HasAccount second.payee) := by
    rintro ⟨one, two, three, four⟩
    rcases named with (rfl | rfl) | (rfl | rfl)
    exacts [absent one, absent two, absent three, absent four]
  have failed : postTrade first second books = (.error (.storage .missingAccount), books) := by
    unfold postTrade
    rw [if_neg (Int.not_le.mpr positive.1), if_neg (Int.not_le.mpr positive.2), if_neg missing]
  have ran : settle first second books = (.error (.storage .missingAccount), books) :=
    (bind_of_ok (positive_ok positive.1)).trans <| (bind_of_ok (positive_ok positive.2)).trans (bind_of_error failed)
  exact congrArg Prod.fst ran

variable {legs : Swap} (formed : books.WellFormed) (positive : 0 < legs.base.amount ∧ 0 < legs.quote.amount)

include formed positive

theorem settle_of_paid (paid : legs.Fares books none) :
    ∃ settlement, settle legs.base legs.quote books = (.ok settlement, books.settled legs.base legs.quote) ∧
      settlement.trade = ⟨nextId books.trades, legs.base, legs.quote⟩ := by
  cases paid with
  | paid base quote =>
    have accounts {id : AccountId} (named : legs.quote.Names id) : books.HasAccount id :=
      Books.moved_hasAccount.mp (quote.present named)
    obtain ⟨settlement, settled, trade, _⟩ := settle_paid formed positive
      ⟨⟨base.present (.inl rfl), base.present (.inr rfl)⟩, accounts (.inl rfl), accounts (.inr rfl)⟩ base quote
    exact ⟨settlement, settled, trade⟩

theorem settle_of_refused {cause : Failure} (refused : legs.Fares books (some cause)) :
    (settle legs.base legs.quote books).1 = .error cause := by
  have accounts (present : ∀ id, legs.Names id → books.HasAccount id) :
      (books.HasAccount legs.base.payer ∧ books.HasAccount legs.base.payee) ∧
        books.HasAccount legs.quote.payer ∧ books.HasAccount legs.quote.payee :=
    ⟨⟨present _ (.inl (.inl rfl)), present _ (.inl (.inr rfl))⟩,
      present _ (.inr (.inl rfl)), present _ (.inr (.inr rfl))⟩
  cases refused with
  | absent named absent => exact settle_absent positive named absent
  | base present refused => exact settle_refused_first formed positive (accounts present) refused
  | quote present base refused => exact settle_refused_second formed positive (accounts present) base refused

end Scope

namespace Scope

variable {books : Books} {ticket : Ticket} {resting : Order} {quantity : Int} {legs : Swap}

theorem positive_of_ofFill (fits : Swap.ofFill ticket resting quantity = .ok legs) :
    0 < quantity ∧ 0 < legs.base.amount ∧ 0 < legs.quote.amount := by
  obtain ⟨⟨price, positive⟩, base, quote⟩ := Swap.amounts_of_ofFill fits
  rw [base, quote]
  exact ⟨positive, positive, Int.mul_pos price positive⟩

/-- A fill whose swap is paid goes through against an active order that stands as it was listed. -/
theorem fill_of_paid (formed : books.WellFormed) (undisturbed : books.faults = {}) (standing : resting ∈ books.orders)
    (active : resting.status = .active) (listed : resting.pair ∈ Pair.listed) (within : quantity ≤ resting.remaining)
    (fits : Swap.ofFill ticket resting quantity = .ok legs) (paid : legs.Fares books none) :
    fill ticket resting quantity books = (.ok (ticket.fill resting quantity (nextId books.trades)),
      books.filled (ticket.fill resting quantity (nextId books.trades))) := by
  obtain ⟨enough, positive⟩ := positive_of_ofFill fits
  obtain ⟨settlement, settled, trade⟩ := settle_of_paid formed positive paid
  have changes : resting.statusAfter (.ofFill (resting.remaining - quantity)) =
      .ok (.ofOpen (resting.remaining - quantity)) := by
    rw [Order.statusAfter_eq_ok, active]
    exact Status.after?_ofFill _
  -- Neither leg touches the orders.
  have undisturbedThen : (books.settled legs.base legs.quote).faults = {} := undisturbed
  have found : (books.settled legs.base legs.quote).order? resting.id = some resting :=
    formed.order?_eq_some.mpr ⟨standing, rfl⟩
  have range : 0 ≤ resting.remaining - quantity ∧ resting.remaining - quantity ≤ resting.remaining := by omega
  have recorded := recordFill_ok undisturbedThen found active range listed
  have terms := (Swap.ofFill_eq_ok.mp fits).2
  unfold fill
  rw [fits]
  refine atomic_eq_ok.mpr ((bind_of_ok settled).trans <|
    (bind_of_ok (congrArg (·, _) changes)).trans <| (bind_of_ok recorded).trans ?_)
  rw [trade, terms]
  rfl

/-- A fill whose swap is not paid fails for the same reason. -/
theorem fill_of_refused (formed : books.WellFormed) (fits : Swap.ofFill ticket resting quantity = .ok legs)
    {cause : Failure} (refused : legs.Fares books (some cause)) :
    fill ticket resting quantity books = (.error cause, books) := by
  have failed := settle_of_refused formed (positive_of_ofFill fits).2 refused
  have ran : settle legs.base legs.quote books = (.error cause, (settle legs.base legs.quote books).2) :=
    Prod.ext failed rfl
  unfold fill
  rw [fits]
  exact atomic_eq_error.mpr ⟨⟨_, bind_of_error ran⟩, rfl⟩

theorem fill_of_unfit {error : AmountError} (unfit : Swap.ofFill ticket resting quantity = .error error)
    (books : Books) :
    fill ticket resting quantity books = (.error (.numeric error), books) := by
  unfold fill
  rw [unfit]
  rfl

end Scope

/-- The id is that of an account of the order. -/
def Order.Names (order : Order) (id : AccountId) : Prop := order.source = id ∨ order.destination = id

/-- The id is that of an account of the ticket. -/
def Ticket.Names (ticket : Ticket) (id : AccountId) : Prop := ticket.source = id ∨ ticket.destination = id

theorem Side.heldInBase_or (side : Side) (source destination : AccountId) :
    side.heldInBase source destination = source ∨ side.heldInBase source destination = destination := by
  cases side with
  | bid => exact .inr rfl
  | ask => exact .inl rfl

theorem Side.heldInQuote_or (side : Side) (source destination : AccountId) :
    side.heldInQuote source destination = source ∨ side.heldInQuote source destination = destination := by
  cases side with
  | bid => exact .inl rfl
  | ask => exact .inr rfl

/-- The accounts that a swap names are those of its two orders. -/
theorem Ticket.swap_names {ticket : Ticket} {resting : Order} {quantity : Int} {id : AccountId}
    (named : (ticket.swap resting quantity).Names id) : ticket.Names id ∨ resting.Names id := by
  rcases named with named | named
  · rcases swap_base_names.mp named with rfl | rfl
    · exact .inl ((ticket.side.heldInBase_or _ _).imp Eq.symm Eq.symm)
    · exact .inr ((resting.side.heldInBase_or _ _).imp Eq.symm Eq.symm)
  · rcases swap_quote_names.mp named with rfl | rfl
    · exact .inl ((ticket.side.heldInQuote_or _ _).imp Eq.symm Eq.symm)
    · exact .inr ((resting.side.heldInQuote_or _ _).imp Eq.symm Eq.symm)

/-- Active orders as they stand in books that nothing disturbs, in the order of their ids and on pairs that can be
read. -/
structure Books.Lists (books : Books) (listed : List Order) : Prop where
  formed : books.WellFormed
  undisturbed : books.faults = {}
  standing : ∀ order ∈ listed, order ∈ books.orders
  active : ∀ order ∈ listed, order.status = .active
  pairs : ∀ order ∈ listed, order.pair ∈ Pair.listed
  ascending : listed.Pairwise (·.id < ·.id)

namespace Books.Lists

variable {books other : Books} {ticket : Ticket} {resting : Order} {rest : List Order} {quantity : Int}

theorem steady {listed : List Order} (lists : books.Lists listed) : books.Steady :=
  ⟨lists.formed, congrArg Faults.races lists.undisturbed⟩

/-- A fill against the first of the orders leaves the others as they are listed. -/
theorem next (lists : books.Lists (resting :: rest)) {fill : Fill} {after : Books}
    (filled : Scope.fill ticket resting quantity books = (.ok fill, after)) : after.Lists rest := by
  have done := fill_of_ok lists.steady filled
  obtain ⟨before, following⟩ := List.pairwise_cons.mp lists.ascending
  exact ⟨((fill_makes ..).steady lists.steady filled).formed, done.faults.trans lists.undisturbed,
    fun order member => done.mem_of_ne (lists.standing order (List.mem_cons_of_mem _ member))
      (Int.ne_of_gt (before order member)),
    fun order member => lists.active order (List.mem_cons_of_mem _ member),
    fun order member => lists.pairs order (List.mem_cons_of_mem _ member), following⟩

theorem fill_paid (lists : books.Lists (resting :: rest)) (within : quantity ≤ resting.remaining)
    (fits : Swap.ofFill ticket resting quantity = .ok (ticket.swap resting quantity))
    (paid : (ticket.swap resting quantity).Fares books none) :
    Scope.fill ticket resting quantity books = (.ok (ticket.fill resting quantity (nextId books.trades)),
      books.filled (ticket.fill resting quantity (nextId books.trades))) :=
  fill_of_paid lists.formed lists.undisturbed (lists.standing _ List.mem_cons_self)
    (lists.active _ List.mem_cons_self) (lists.pairs _ List.mem_cons_self) within fits paid

/-- How the fill of a listed order ends: with the fill and the books that it says, or with nothing done. -/
theorem fill_cases (lists : books.Lists (resting :: rest)) (ticket : Ticket) (within : quantity ≤ resting.remaining) :
    (Swap.ofFill ticket resting quantity = .ok (ticket.swap resting quantity) ∧
      (ticket.swap resting quantity).Fares books none ∧
      Scope.fill ticket resting quantity books = (.ok (ticket.fill resting quantity (nextId books.trades)),
        books.filled (ticket.fill resting quantity (nextId books.trades)))) ∨
    ∃ cause, Scope.fill ticket resting quantity books = (.error cause, books) := by
  cases fits : Swap.ofFill ticket resting quantity with
  | error error => exact .inr ⟨_, fill_of_unfit fits books⟩
  | ok legs =>
    obtain ⟨_, rfl⟩ := Swap.ofFill_eq_ok.mp fits
    obtain ⟨verdict, fares⟩ := (ticket.swap resting quantity).fares_some books
    cases verdict with
    | none => exact .inl ⟨rfl, fares, lists.fill_paid within fits fares⟩
    | some cause => exact .inr ⟨cause, fill_of_refused lists.formed fits fares⟩

/-- A fill that goes through is the one that was to be made, and does to the books what it says. -/
theorem filled_eq (lists : books.Lists (resting :: rest)) (within : quantity ≤ resting.remaining) {fill : Fill}
    {after : Books} (ran : Scope.fill ticket resting quantity books = (.ok fill, after)) :
    (Swap.ofFill ticket resting quantity = .ok (ticket.swap resting quantity) ∧
      (ticket.swap resting quantity).Fares books none) ∧
      fill = ticket.fill resting quantity (nextId books.trades) ∧ after = books.filled fill := by
  rcases lists.fill_cases ticket within with ⟨fits, paid, filled⟩ | ⟨cause, failed⟩
  · cases ran.symm.trans filled
    exact ⟨⟨fits, paid⟩, rfl, rfl⟩
  · cases ran.symm.trans failed

/-- A fill ends alike in any two books that list its order and show the same of the accounts it names. -/
theorem fill_alike (lists : books.Lists (resting :: rest)) (also : other.Lists (resting :: rest))
    (within : quantity ≤ resting.remaining)
    (same : ∀ id, ticket.Names id ∨ resting.Names id → other.account? id = books.account? id) :
    (∃ fill fillToo, Scope.fill ticket resting quantity books = (.ok fill, books.filled fill) ∧
      Scope.fill ticket resting quantity other = (.ok fillToo, other.filled fillToo) ∧ fillToo.outline = fill.outline) ∨
    ∃ cause, Scope.fill ticket resting quantity books = (.error cause, books) ∧
      Scope.fill ticket resting quantity other = (.error cause, other) := by
  cases fits : Swap.ofFill ticket resting quantity with
  | error error => exact .inr ⟨_, fill_of_unfit fits books, fill_of_unfit fits other⟩
  | ok legs =>
    obtain ⟨_, rfl⟩ := Swap.ofFill_eq_ok.mp fits
    obtain ⟨verdict, fares⟩ := (ticket.swap resting quantity).fares_some books
    have faresToo := fares.alike fun id named => same id (Ticket.swap_names named)
    cases verdict with
    | none => exact .inl ⟨_, _, lists.fill_paid within fits fares, also.fill_paid within fits faresToo, rfl⟩
    | some cause =>
      exact .inr ⟨cause, fill_of_refused lists.formed fits fares, fill_of_refused also.formed fits faresToo⟩

end Books.Lists

end Bourse

import Bourse.Proofs.Failures
import Bourse.Proofs.Fills

namespace Bourse

open Scope

/-- How taking an order ends: it is stored whole or as far as it went, its matching fails before any fill, or
what was filled of it cannot be stored. -/
inductive Taken (desk : Desk) (ticket : Ticket) (start : Books) : Filing Receipt → Prop
  | stored {progress middle order after}
      (matched : matchTicket ticket desk.pageSize start = (.ok progress, middle))
      (stored : storeOrder ticket progress.traded middle = (.ok order, after)) :
      Taken desk ticket start
        ⟨.ok ⟨order, order.status, progress.traded, progress.fills⟩,
          progress.fills.map (.ofFill order.id) ++ [.ofStored order progress.traded], after⟩
  | interrupted {progress cause middle order after}
      (matched : matchTicket ticket desk.pageSize start = (.error ⟨progress, cause⟩, middle))
      (some : progress.traded ≠ 0) (stored : storeOrder ticket progress.traded middle = (.ok order, after)) :
      Taken desk ticket start
        ⟨.error (.interrupted order.id progress.traded cause),
          progress.fills.map (.ofFill order.id) ++
            [.interrupted order.id progress.traded cause.message], after⟩
  | rejected {progress cause middle}
      (matched : matchTicket ticket desk.pageSize start = (.error ⟨progress, cause⟩, middle))
      (none : progress.traded = 0) : Taken desk ticket start ⟨.error cause, [], middle⟩
  | unstored {outcome progress cause middle}
      (matched : matchTicket ticket desk.pageSize start = (outcome, middle))
      (reached : outcome = .ok progress ∨ ∃ reason, outcome = .error ⟨progress, reason⟩)
      (failed : storeOrder ticket progress.traded middle = (.error cause, middle)) :
      Taken desk ticket start
        ⟨.error (if progress.traded = 0 then cause else .unstored progress.traded cause), [], middle⟩

theorem Scope.placeOrder_cases (ticket : Ticket) (filled : Int) (books : Books) :
    (∃ order after, storeOrder ticket filled books = (.ok order, after) ∧
      placeOrder ticket filled books = (.ok order, after)) ∨
    ∃ cause, storeOrder ticket filled books = (.error cause, books) ∧
      placeOrder ticket filled books = (.error (if filled = 0 then cause else .unstored filled cause), books) := by
  match ran : storeOrder ticket filled books with
  | (.ok order, after) =>
    left
    refine ⟨order, after, rfl, ?_⟩
    unfold placeOrder
    rw [ran]
  | (.error cause, after) =>
    right
    obtain ⟨_, rfl⟩ := atomic_eq_error.mp ran
    refine ⟨cause, rfl, ?_⟩
    unfold placeOrder
    rw [ran]

theorem Desk.take_taken (desk : Desk) (ticket : Ticket) (books : Books) :
    Taken desk ticket books (desk.take ticket books) := by
  unfold take
  match matched : matchTicket ticket desk.pageSize books with
  | (.ok progress, middle) =>
    rcases placeOrder_cases ticket progress.traded middle with
      ⟨order, after, stored, placed⟩ | ⟨cause, failed, placed⟩
    · simp only [placed]
      exact .stored matched stored
    · simp only [placed]
      exact .unstored matched (.inl rfl) failed
  | (.error ⟨progress, cause⟩, middle) =>
    by_cases none : progress.traded = 0
    · simp only [if_pos none]
      exact .rejected matched none
    · simp only [if_neg none]
      rcases placeOrder_cases ticket progress.traded middle with
        ⟨order, after, stored, placed⟩ | ⟨reason, failed, placed⟩
      · simp only [placed]
        exact .interrupted matched none stored
      · simp only [placed]
        exact .unstored matched (.inr ⟨cause, rfl⟩) failed

/-- What is known of an order that was vetted: its terms are positive, and its accounts hold what it pays and
receives, for the principal who hands it in. -/
structure Desk.Vetted (desk : Desk) (principal : Principal) (ticket : Ticket) (books : Books) : Prop where
  terms : 0 < ticket.price ∧ 0 < ticket.amount
  distinct : ticket.source ≠ ticket.destination
  source : ∃ account, desk.directory books ticket.source = .ok account ∧
    account.currency = ticket.side.pays ticket.pair ∧ principal.Owns account
  destination : ∃ account, desk.directory books ticket.destination = .ok account ∧
    account.currency = ticket.side.receives ticket.pair ∧ principal.Owns account

theorem Ticket.check_eq_ok {ticket : Ticket} : ticket.check = .ok () ↔
    (0 < ticket.price ∧ 0 < ticket.amount) ∧ ticket.source ≠ ticket.destination := by
  unfold check
  by_cases price : ticket.price ≤ 0
  · rw [if_pos price]
    exact ⟨nofun, fun terms => by omega⟩
  · by_cases amount : ticket.amount ≤ 0
    · rw [if_neg price, if_pos amount]
      exact ⟨nofun, fun terms => by omega⟩
    · by_cases same : ticket.source = ticket.destination
      · rw [if_neg price, if_neg amount, if_pos same]
        exact ⟨nofun, fun terms => absurd same terms.2⟩
      · rw [if_neg price, if_neg amount, if_neg same]
        exact ⟨fun _ => ⟨by omega, same⟩, fun _ => rfl⟩

theorem Desk.checkAccount_of_ok {desk : Desk} {principal : Principal} {id : AccountId} {expected : Currency}
    {books : Books} (passed : desk.checkAccount principal id expected books = .ok ()) :
    ∃ account, desk.directory books id = .ok account ∧ account.currency = expected ∧ principal.Owns account := by
  unfold checkAccount at passed
  match looked : desk.directory books id with
  | .error failure => simp [looked, bind, Except.bind] at passed
  | .ok account =>
    simp only [looked, bind, Except.bind, Principal.authorize] at passed
    split at passed
    next unit =>
      split at passed
      next owned => exact ⟨account, rfl, unit, owned⟩
      next => cases passed
    next => cases passed

theorem Desk.vetted_of_vet {desk : Desk} {principal : Principal} {ticket : Ticket} {books : Books}
    (passed : desk.vet principal ticket books = .ok ()) : desk.Vetted principal ticket books := by
  unfold vet at passed
  match checked : ticket.check with
  | .error failure => simp [checked, bind, Except.bind] at passed
  | .ok () =>
    match source : desk.checkAccount principal ticket.source (ticket.side.pays ticket.pair) books with
    | .error failure => simp [checked, source, bind, Except.bind] at passed
    | .ok () =>
      simp only [checked, source, bind, Except.bind] at passed
      obtain ⟨terms, distinct⟩ := Ticket.check_eq_ok.mp checked
      exact ⟨terms, distinct, checkAccount_of_ok source, checkAccount_of_ok passed⟩

theorem Desk.amount_pos_of_vet {desk : Desk} {principal : Principal} {ticket : Ticket} {books : Books}
    (passed : desk.vet principal ticket books = .ok ()) : 0 < ticket.amount :=
  (vetted_of_vet passed).terms.2

/-- The quantity of base currency in the trades that came after those of earlier books. -/
def Books.tradedSince (books earlier : Books) : Int :=
  ((books.trades.drop earlier.trades.length).map (·.first.amount)).sum

/-- What matching has reached agrees with the trades it has added. -/
theorem Accounted.tradedSince {ticket : Ticket} {start books : Books} {progress : Progress}
    (accounted : Accounted ticket start progress books) : books.tradedSince start = progress.traded := by
  unfold Books.tradedSince
  rw [accounted.trades, List.drop_left, accounted.amounts]

theorem Accounted.keeps_trades {ticket : Ticket} {start books : Books} {progress : Progress}
    (accounted : Accounted ticket start progress books) : start.trades <+: books.trades :=
  accounted.trades ▸ List.prefix_append _ _

/-- A matched order is completed exactly if all of it is traded. -/
structure Outcome (ticket : Ticket) (start : Books) (progress : Progress) (books : Books) : Prop where
  accounted : Accounted ticket start progress books
  completed : progress.status = .completed ↔ progress.traded = ticket.amount

theorem Matched.outcome {ticket : Ticket} {start after : Books} {progress : Progress}
    (matched : Matched ticket start (.ok progress, after)) (positive : 0 < ticket.amount) :
    Outcome ticket start progress after := by
  cases matched with
  | exhausted filled pending =>
    have accounted := filled.accounted
    have less := accounted.traded_lt pending positive
    refine ⟨accounted, fun completed => ?_, fun all => by omega⟩
    exact absurd (filled.status.symm.trans completed) nofun
  | @completed progress _ filled some closed =>
    have accounted := filled.accounted
    have all : progress.traded = ticket.amount := by
      unfold Progress.openAmount at closed
      omega
    exact ⟨{ accounted with }, fun _ => all, fun _ => rfl⟩

theorem Matched.interrupted {ticket : Ticket} {start after : Books} {progress : Progress} {cause : Failure}
    (matched : Matched ticket start (.error ⟨progress, cause⟩, after)) (positive : 0 < ticket.amount) :
    Accounted ticket start progress after ∧ progress.traded < ticket.amount := by
  cases matched with
  | refused filled pending _ =>
    have accounted := filled.accounted
    exact ⟨accounted, accounted.traded_lt pending positive⟩
  | stopped filled pending _ _ =>
    have accounted := filled.accounted
    exact ⟨accounted, accounted.traded_lt pending positive⟩

/-- The answer to a submission says what was committed of it: the trades, the order row, or nothing at all. -/
structure Truthful (desk : Desk) (ticket : Ticket) (start : Books) (result : Except Failure Receipt)
    (books : Books) : Prop where
  trades : start.trades <+: books.trades
  stored : ∀ receipt, result = .ok receipt →
    (receipt.filled = books.tradedSince start ∧ (receipt.fills.map (·.quantity)).sum = books.tradedSince start) ∧
      (books.orderIds = start.orderIds ++ [receipt.order.id] ∧ books.order? receipt.order.id = some receipt.order) ∧
      receipt.order.remaining = ticket.amount - books.tradedSince start ∧ receipt.status = receipt.order.status ∧
      (receipt.order.status = .completed ↔ books.tradedSince start = ticket.amount) ∧
      ∃ progress matched, matchTicket ticket desk.pageSize start = (.ok progress, matched) ∧
        (progress.status = .completed ↔ books.tradedSince start = ticket.amount)
  filled : ∀ failure filled, result = .error failure → failure.filled? = some filled →
    (filled = books.tradedSince start ∧ 0 < filled) ∧
      ((∃ cause order, failure = .interrupted order.id filled cause ∧
          (books.orderIds = start.orderIds ++ [order.id] ∧ books.order? order.id = some order) ∧
          order.status = .active ∧ order.remaining = ticket.amount - filled ∧ 0 < order.remaining) ∨
        ∃ cause, failure = .unstored filled cause ∧ books.orderIds = start.orderIds)
  unfilled : ∀ failure, result = .error failure → failure.filled? = none → books = start

/-- Storing a matched order adds its row and no trade. -/
theorem Accounted.stored {ticket : Ticket} {start middle after : Books} {progress : Progress} {order : Order}
    (accounted : Accounted ticket start progress middle) (calm : middle.Calm)
    (ran : storeOrder ticket progress.traded middle = (.ok order, after)) :
    (start.trades <+: after.trades ∧ after.tradedSince start = progress.traded) ∧
      (after.orderIds = start.orderIds ++ [order.id] ∧ after.order? order.id = some order) ∧
      order.remaining = ticket.amount - progress.traded ∧
      order.status = .ofOpen (ticket.amount - progress.traded) := by
  obtain ⟨_, _, row, rfl⟩ := storeOrder_of_ok calm.formed calm.quiet ran
  have new : order.id = nextId middle.orders := by rw [row]; rfl
  refine ⟨⟨accounted.keeps_trades, accounted.tradedSince⟩, ⟨?_, calm.formed.order?_append new⟩, ?_⟩
  · rw [← accounted.orderIds]
    unfold Books.orderIds
    rw [List.map_append, List.map_singleton]
  · rw [row]
    exact ⟨rfl, rfl⟩

section Truthful

variable {desk : Desk} {ticket : Ticket} {start middle after : Books} {progress : Progress} {cause : Failure}

theorem Truthful.of_stored {order : Order} (calm : start.Calm) (positive : 0 < ticket.amount)
    (matched : matchTicket ticket desk.pageSize start = (.ok progress, middle))
    (stored : storeOrder ticket progress.traded middle = (.ok order, after)) :
    Truthful desk ticket start (.ok ⟨order, order.status, progress.traded, progress.fills⟩) after := by
  have ending := Matched.of_eq matched
  obtain ⟨accounted, completed⟩ := ending.outcome positive
  obtain ⟨⟨before, traded⟩, row, remaining, status⟩ := accounted.stored (ending.calm calm) stored
  refine ⟨before, fun receipt answer => ?_, nofun, nofun⟩
  cases answer
  rw [traded]
  have closed : order.status = .completed ↔ progress.traded = ticket.amount := by
    rw [status, Status.ofOpen_eq_completed]
    omega
  exact ⟨⟨rfl, accounted.traded.symm⟩, row, remaining, rfl, closed, progress, middle, matched, completed⟩

theorem Truthful.of_error {books : Books} {failure : Failure} (before : start.trades <+: books.trades)
    (filled : ∀ filled, failure.filled? = some filled → (filled = books.tradedSince start ∧ 0 < filled) ∧
      ((∃ cause order, failure = .interrupted order.id filled cause ∧
          (books.orderIds = start.orderIds ++ [order.id] ∧ books.order? order.id = some order) ∧
          order.status = .active ∧ order.remaining = ticket.amount - filled ∧ 0 < order.remaining) ∨
        ∃ cause, failure = .unstored filled cause ∧ books.orderIds = start.orderIds))
    (unfilled : failure.filled? = none → books = start) : Truthful desk ticket start (.error failure) books := by
  refine ⟨before, fun receipt answer => ?_, fun cause quantity answer names => ?_, fun cause answer none => ?_⟩
  · cases answer
  · cases answer
    exact filled quantity names
  · cases answer
    exact unfilled none

theorem Truthful.of_interrupted {order : Order} (calm : start.Calm) (positive : 0 < ticket.amount)
    (matched : matchTicket ticket desk.pageSize start = (.error ⟨progress, cause⟩, middle))
    (some : progress.traded ≠ 0) (stored : storeOrder ticket progress.traded middle = (.ok order, after)) :
    Truthful desk ticket start (.error (.interrupted order.id progress.traded cause)) after := by
  have ending := Matched.of_eq matched
  obtain ⟨accounted, less⟩ := ending.interrupted positive
  obtain ⟨⟨before, traded⟩, row, remaining, status⟩ := accounted.stored (ending.calm calm) stored
  refine .of_error before (fun filled names => ?_) nofun
  cases names
  have nonneg := accounted.traded_nonneg
  have open_ : ticket.amount - progress.traded ≠ 0 := by omega
  have active : order.status = .active := by rw [status, Status.ofOpen, if_neg open_]
  exact ⟨⟨traded.symm, by omega⟩, .inl ⟨cause, order, rfl, row, active, remaining, by omega⟩⟩

/-- Books in which nothing was filled are those that matching began with. -/
theorem Truthful.of_unfilled (accounted : Accounted ticket start progress middle)
    (unfilled : cause.filled? = none) (nothing : progress.traded = 0) :
    Truthful desk ticket start (.error cause) middle := by
  refine .of_error accounted.keeps_trades (fun filled names => ?_) fun _ => ?_
  · exact absurd (unfilled.symm.trans names) nofun
  · exact accounted.untouched (accounted.fills_eq_nil nothing)

theorem Truthful.of_unstored (accounted : Accounted ticket start progress middle)
    (failed : storeOrder ticket progress.traded middle = (.error cause, middle)) :
    Truthful desk ticket start
      (.error (if progress.traded = 0 then cause else .unstored progress.traded cause)) middle := by
  by_cases none : progress.traded = 0
  · rw [if_pos none]
    exact .of_unfilled accounted (storeOrder_unfilled _ _ failed) none
  · rw [if_neg none]
    refine .of_error accounted.keeps_trades (fun filled names => ?_) nofun
    cases names
    have nonneg := accounted.traded_nonneg
    exact ⟨⟨accounted.tradedSince.symm, by omega⟩, .inr ⟨cause, rfl, accounted.orderIds⟩⟩

theorem Taken.truthful {filing : Filing Receipt} (taken : Taken desk ticket start filing) (calm : start.Calm)
    (positive : 0 < ticket.amount) : Truthful desk ticket start filing.result filing.books := by
  cases taken with
  | stored matched stored => exact .of_stored calm positive matched stored
  | interrupted matched some stored => exact .of_interrupted calm positive matched some stored
  | @rejected progress cause middle matched none =>
    have ending := Matched.of_eq matched
    exact .of_unfilled (ending.interrupted positive).1 ending.cause_unfilled none
  | @unstored outcome progress cause middle matched reached failed =>
    have ending := Matched.of_eq matched
    rcases reached with rfl | ⟨reason, rfl⟩
    · exact .of_unstored (ending.outcome positive).accounted failed
    · exact .of_unstored (ending.interrupted positive).1 failed

end Truthful

/-- What a submission answers is what it has committed, at any desk and in any books that calls without a competing
writer lead to. Only a failure that the directory itself answers for an account, and that names fills, says what nobody
has committed: it is handed on, and the books are left alone. -/
theorem Reach.submit_truthful {books : Books}
    (reach : Reach (fun _ call => call.Each Operation.Fair) .empty books) (desk : Desk) (principal : Principal)
    (ticket : Ticket) :
    Truthful desk ticket books (desk.submit principal ticket books).result
        (desk.submit principal ticket books).books ∨
      ∃ id failure, (id = ticket.source ∨ id = ticket.destination) ∧
        (desk.directory books id = .error failure ∧ failure.filled? ≠ none) ∧
        desk.submit principal ticket books = ⟨.error failure, [], books⟩ := by
  have calm : books.Calm := reach.calm id
  unfold Desk.submit
  cases vetted : desk.vet principal ticket books with
  | error failure =>
    by_cases none : failure.filled? = none
    · refine .inl (.of_error List.prefix_rfl (fun filled names => ?_) fun _ => rfl)
      cases none.symm.trans names
    · obtain ⟨id, named, looked⟩ := (Desk.vet_error vetted).resolve_left none
      exact .inr ⟨id, failure, named, ⟨looked, none⟩, rfl⟩
  | ok => exact .inl ((desk.take_taken ticket books).truthful calm (Desk.amount_pos_of_vet vetted))

/-- The second fill of the bid fails for lack of funds, after the first took five. -/
theorem submit_truthful_after_interruption :
    let books := Desk.serve {} twoAsks .empty
    let filing := Desk.submit {} ⟨"bob"⟩ ⟨.bid, ⟨.btc, .usdt⟩, 30, 8, 4, 3⟩ books
    (∀ call ∈ twoAsks, call.Each Operation.Fair) ∧
      filing.result = .error (.interrupted 3 5 (.insufficientFunds 4 0 90)) ∧
      filing.books.tradedSince books = 5 ∧
      Truthful {} ⟨.bid, ⟨.btc, .usdt⟩, 30, 8, 4, 3⟩ books filing.result filing.books := by
  intro books filing
  have fair : ∀ call ∈ twoAsks, call.Each Operation.Fair := by
    simp [twoAsks, Call.Each, Operation.Fair]
  have reached : Reach (fun _ call => call.Each Operation.Fair) .empty books := Reach.serve .start fair
  have reported : filing.events ≠ [] := by decide +kernel
  refine ⟨fair, by decide +kernel, by decide +kernel, ?_⟩
  rcases reached.submit_truthful {} ⟨"bob"⟩ ⟨.bid, ⟨.btc, .usdt⟩, 30, 8, 4, 3⟩ with truthful | ⟨_, _, _, _, refused⟩
  · exact truthful
  · exact absurd (congrArg Filing.events refused) reported

/-- A directory that is itself a client of some market may answer that an order there was interrupted. The desk hands
this on, as if five had been filled by the submission, which has filled nothing. -/
theorem submit_hands_on_fills_of_directory :
    let cause : Failure := .interrupted 1 5 (.accountNotFound 1)
    let desk : Desk := { directory := fun _ _ => .error cause }
    let ticket : Ticket := ⟨.bid, ⟨.btc, .usdt⟩, 30, 8, 4, 3⟩
    let filing := desk.submit ⟨"bob"⟩ ticket .empty
    Reach (fun _ call => call.Each Operation.Fair) .empty .empty ∧
      (filing.result = .error cause ∧ cause.filled? = some 5) ∧ filing.books.tradedSince .empty = 0 ∧
      ¬Truthful desk ticket .empty filing.result filing.books := by
  intro cause desk ticket filing
  have answered : filing.result = .error cause := by decide +kernel
  have nothing : filing.books.tradedSince .empty = 0 := by decide +kernel
  refine ⟨.start, ⟨answered, rfl⟩, nothing, fun truthful => ?_⟩
  have filled := (truthful.filled cause 5 answered rfl).1.1
  rw [nothing] at filled
  cases filled

end Bourse

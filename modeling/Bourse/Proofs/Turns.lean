import Bourse.Proofs.Swaps

namespace Bourse

open Scope

/-- What a fill makes of an account. -/
def Fill.applied (fill : Fill) (account : Account) : Account :=
  fill.trade.second.applied (fill.trade.first.applied account)

/-- What a fill makes of the row of an order. -/
def Fill.written (fill : Fill) (order : Order) : Order :=
  if order.id = fill.resting.id then { order with remaining := fill.resting.remaining, status := fill.resting.status }
  else order

/-- What fills make of an account, one after the other. -/
def Account.after (account : Account) (fills : List Fill) : Account :=
  fills.foldl (fun account fill => fill.applied account) account

/-- What fills make of the row of an order, one after the other. -/
def Order.after (order : Order) (fills : List Fill) : Order := fills.foldl (fun order fill => fill.written order) order

/-- The books after fills were made, one after the other. -/
def Books.after (books : Books) (fills : List Fill) : Books := fills.foldl Books.filled books

/-- The fills of a turn without the numbers of their trades. -/
def Turn.outlines (turn : Turn) : List Fill := turn.fills.map Fill.outline

theorem Turn.traded_outlines (turn : Turn) : (turn.outlines.map (·.quantity)).sum = turn.traded := by
  unfold outlines
  rw [List.map_map]
  rfl

/-- Fills that differ in the numbers of their trades only are of one quantity and do the same to an account. -/
theorem Fill.alike {fill other : Fill} (outline : other.outline = fill.outline) :
    other.quantity = fill.quantity ∧ other.applied = fill.applied := by
  have quantity : other.outline.quantity = fill.outline.quantity := by rw [outline]
  have applied : other.outline.applied = fill.outline.applied := by rw [outline]
  exact ⟨quantity, applied⟩

theorem Fill.written_of_ne {fill : Fill} {order : Order} (different : order.id ≠ fill.resting.id) :
    fill.written order = order := if_neg different

theorem Fill.written_terms (fill : Fill) (order : Order) :
    (fill.written order).id = order.id ∧ (fill.written order).pair = order.pair := by
  unfold written
  split
  · exact ⟨rfl, rfl⟩
  · exact ⟨rfl, rfl⟩

theorem Account.after_terms (account : Account) (fills : List Fill) :
    (account.after fills).id = account.id ∧ (account.after fills).currency = account.currency := by
  induction fills generalizing account with
  | nil => exact ⟨rfl, rfl⟩
  | cons fill fills ih => exact ih (fill.applied account)

theorem Order.after_terms (order : Order) (fills : List Fill) :
    (order.after fills).id = order.id ∧ (order.after fills).pair = order.pair := by
  induction fills generalizing order with
  | nil => exact ⟨rfl, rfl⟩
  | cons fill fills ih =>
    obtain ⟨id, pair⟩ := fill.written_terms order
    exact ⟨(ih _).1.trans id, (ih _).2.trans pair⟩

/-- Fills against other orders leave an order alone. -/
theorem Order.after_of_ne {order : Order} {fills : List Fill} (others : ∀ fill ∈ fills, order.id ≠ fill.resting.id) :
    order.after fills = order := by
  induction fills with
  | nil => rfl
  | cons fill fills ih =>
    obtain ⟨first, rest⟩ := List.forall_mem_cons.mp others
    exact (congrArg (Order.after · fills) (Fill.written_of_ne first)).trans (ih rest)

/-- Fills between other accounts leave an account alone. -/
theorem Account.after_of_not_names {account : Account} {fills : List Fill}
    (others : ∀ fill ∈ fills, ¬fill.trade.first.Names account.id ∧ ¬fill.trade.second.Names account.id) :
    account.after fills = account := by
  induction fills with
  | nil => rfl
  | cons fill fills ih =>
    obtain ⟨⟨first, second⟩, rest⟩ := List.forall_mem_cons.mp others
    have same : fill.applied account = account := by
      unfold Fill.applied
      rw [Leg.applied_of_not_names first, Leg.applied_of_not_names second]
    exact (congrArg (Account.after · fills) same).trans (ih rest)

namespace Books

theorem after_accounts (books : Books) (fills : List Fill) :
    (books.after fills).accounts = books.accounts.map (·.after fills) := by
  induction fills generalizing books with
  | nil => exact (List.map_id _).symm
  | cons fill fills ih =>
    refine (ih _).trans ?_
    unfold filled settled moved setOrder
    rw [List.map_map, List.map_map]
    rfl

theorem after_orders (books : Books) (fills : List Fill) :
    (books.after fills).orders = books.orders.map (·.after fills) := by
  induction fills generalizing books with
  | nil => exact (List.map_id _).symm
  | cons fill fills ih =>
    refine (ih _).trans ?_
    unfold filled setOrder
    rw [List.map_map]
    rfl

theorem after_account? (books : Books) (fills : List Fill) (id : AccountId) :
    (books.after fills).account? id = (books.account? id).map (·.after fills) := by
  have looked := books.account?_map (fun account => (account.after_terms fills).1) id
  rw [← looked]
  unfold account?
  rw [after_accounts]

/-- The numbers of trades play no part in what fills do to the books. -/
theorem after_outlines (books : Books) (fills : List Fill) : books.after (fills.map Fill.outline) = books.after fills :=
  List.foldl_map

theorem after_alike {books : Books} {turn other : Turn} (outlines : other.outlines = turn.outlines) :
    books.after other.fills = books.after turn.fills := by
  rw [← after_outlines, ← books.after_outlines turn.fills]
  exact congrArg books.after outlines

theorem filled_account? (books : Books) (fill : Fill) (id : AccountId) :
    (books.filled fill).account? id = (books.account? id).map fill.applied := books.after_account? [fill] id

/-- A row stands as it was after fills against other orders. -/
theorem mem_after {books : Books} {fills : List Fill} {order : Order} (standing : order ∈ books.orders)
    (others : ∀ fill ∈ fills, order.id ≠ fill.resting.id) : order ∈ (books.after fills).orders := by
  rw [after_orders]
  exact List.mem_map.mpr ⟨order, standing, Order.after_of_ne others⟩

end Books

/-- What a turn through listed orders leaves: fills of them in their order, whose rows and trades stand in the books. -/
structure Turn.Recorded (turn : Turn) (ticket : Ticket) (listed : List Order) (books : Books) : Prop where
  made : ∀ fill ∈ turn.fills, ∃ resting ∈ listed, ∃ quantity number,
    Swap.ofFill ticket resting quantity = .ok (ticket.swap resting quantity) ∧
      fill = ticket.fill resting quantity number
  ascending : turn.fills.Pairwise (·.resting.id < ·.resting.id)
  books_eq : turn.books = books.after turn.fills
  trades : turn.books.trades = books.trades ++ turn.fills.map (·.trade)
  standing : ∀ fill ∈ turn.fills, fill.resting ∈ turn.books.orders
  left : turn.books.Lists []

namespace Turn.Recorded

variable {turn : Turn} {ticket : Ticket} {books after : Books} {listed : List Order}

theorem none (lists : books.Lists listed) (stopped : Option Failure) :
    Recorded ⟨[], stopped, books⟩ ticket listed books where
  made := List.forall_mem_nil _
  ascending := .nil
  books_eq := rfl
  trades := (List.append_nil _).symm
  standing := List.forall_mem_nil _
  left := ⟨lists.formed, lists.undisturbed, List.forall_mem_nil _, List.forall_mem_nil _, List.forall_mem_nil _, .nil⟩

/-- The fills of a turn are made against orders that were listed. -/
theorem resting_id (recorded : turn.Recorded ticket listed books) {fill : Fill} (made : fill ∈ turn.fills) :
    ∃ resting ∈ listed, fill.resting.id = resting.id := by
  obtain ⟨resting, member, quantity, number, _, rfl⟩ := recorded.made fill made
  exact ⟨resting, member, rfl⟩

theorem cons {resting : Order} {quantity : Int} {fill : Fill} (lists : books.Lists (resting :: listed))
    (within : quantity ≤ resting.remaining) (filled : Scope.fill ticket resting quantity books = (.ok fill, after))
    (later : turn.Recorded ticket listed after) :
    Recorded { turn with fills := fill :: turn.fills } ticket (resting :: listed) books := by
  have done := fill_of_ok lists.steady filled
  obtain ⟨⟨fits, _⟩, fill_eq, rfl⟩ := lists.filled_eq within filled
  have own : fill.resting.id = resting.id := congrArg (·.resting.id) fill_eq
  have before : ∀ next ∈ turn.fills, fill.resting.id < next.resting.id := by
    intro next made
    obtain ⟨other, member, same⟩ := later.resting_id made
    rw [own, same]
    exact (List.pairwise_cons.mp lists.ascending).1 other member
  refine ⟨?_, List.pairwise_cons.mpr ⟨before, later.ascending⟩, later.books_eq, ?_, ?_, later.left⟩
  · refine List.forall_mem_cons.mpr ⟨⟨resting, List.mem_cons_self, quantity, _, fits, fill_eq⟩, fun next made => ?_⟩
    obtain ⟨other, member, terms⟩ := later.made next made
    exact ⟨other, List.mem_cons_of_mem _ member, terms⟩
  · rw [List.map_cons, List.append_cons, ← done.trades]
    exact later.trades
  · refine List.forall_mem_cons.mpr ⟨?_, later.standing⟩
    -- The orders that are filled later have other ids.
    rw [later.books_eq]
    exact Books.mem_after done.resting_mem fun next made => Int.ne_of_lt (before next made)

end Turn.Recorded

/-- The turn through the orders that a ticket crosses in the books. -/
def Books.turn (books : Books) (ticket : Ticket) (unfilled : Int) : Turn :=
  settleInTurn ticket unfilled (books.crossedBy ticket) books

/-- A turn leaves readable what the ticket crosses. -/
theorem Books.Readable.turn {books : Books} {ticket : Ticket} (readable : books.Readable ticket) (unfilled : Int) :
    (books.turn ticket unfilled).books.Readable ticket := by
  rcases readable with listed | none
  · exact .inl listed
  · right
    rw [Books.turn, none]
    exact none

namespace Books.Lists

variable {books after : Books} (lists : books.Lists [])

include lists

/-- The orders that a ticket crosses are listed as they stand, oldest first, if they can be read. -/
theorem crossed {ticket : Ticket} (readable : books.Readable ticket) : books.Lists (books.crossedBy ticket) where
  formed := lists.formed
  undisturbed := lists.undisturbed
  standing _ member := (tradable_of_crossedBy member).1
  active _ member := (tradable_of_crossedBy member).2.2.2.2
  pairs order member := by
    rcases readable with listed | none
    · exact (tradable_of_crossedBy member).2.2.1 ▸ listed
    · exact absurd member (none ▸ List.not_mem_nil)
  ascending := lists.formed.ahead_none ticket ▸ lists.formed.ahead_ascending ticket none

/-- Matching through pages of any allowed size goes as one turn does. -/
theorem matched_turn {ticket : Ticket} (readable : books.Readable ticket) {size : Nat}
    (range : 1 ≤ size ∧ size ≤ maxPageSize) :
    matchTicket ticket size books = (books.turn ticket ticket.amount).outcome ticket.amount {} :=
  lists.steady.matchTicket_eq readable range

/-- A match that succeeds is a turn through the crossed orders that nothing stopped. -/
theorem turn_of_matched {ticket : Ticket} {size : Nat} {progress : Progress}
    (ran : matchTicket ticket size books = (.ok progress, after)) :
    let turn := books.turn ticket ticket.amount
    ((1 ≤ size ∧ size ≤ maxPageSize) ∧ books.Readable ticket) ∧ turn.stopped = none ∧
      (progress.fills = turn.fills ∧ progress.traded = turn.traded) ∧ after = turn.books := by
  intro turn
  by_cases range : 1 ≤ size ∧ size ≤ maxPageSize
  · by_cases readable : books.Readable ticket
    case neg => cases (lists.steady.matchTicket_unread readable range).symm.trans ran
    rw [lists.matched_turn readable range] at ran
    obtain ⟨unstopped, fills, traded, _⟩ := Turn.outcome_eq_ok (congrArg Prod.fst ran)
    exact ⟨⟨range, readable⟩, unstopped, ⟨fills, traded⟩, (congrArg Prod.snd ran).symm.trans (turn.books_outcome _ _)⟩
  · obtain ⟨cause, refused⟩ := matchTicket_of_size ticket books range
    cases ran.symm.trans refused

end Books.Lists

/-- Whatever calls have led to lists its orders once nothing disturbs it any more. -/
theorem Reach.lists {books : Books} (reach : Reach (fun _ _ => True) .empty books) (undisturbed : books.faults = {}) :
    books.Lists [] :=
  ⟨reach.wellFormed, undisturbed, List.forall_mem_nil _, List.forall_mem_nil _, List.forall_mem_nil _, .nil⟩

/-- A turn that nothing stopped is the outcome of a match that succeeds. -/
theorem Turn.outcome_of_unstopped {turn : Turn} (unstopped : turn.stopped = none) (amount : Int) :
    ∃ progress, turn.outcome amount {} = (.ok progress, turn.books) ∧ progress.traded = turn.traded := by
  have total : (turn.reached {}).traded = turn.traded := Int.zero_add _
  unfold outcome
  rw [unstopped]
  by_cases completed : turn.fills ≠ [] ∧ (turn.reached {}).openAmount amount = 0
  · exact ⟨_, if_pos completed, total⟩
  · exact ⟨_, if_neg completed, total⟩

section First

variable {ticket : Ticket} {resting : Order} {books after : Books} {unfilled : Int} {fill : Fill}

theorem settleInTurn_last (rest : List Order)
    (filled : Scope.fill ticket resting (min unfilled resting.remaining) books = (.ok fill, after))
    (all : fill.quantity = unfilled) :
    settleInTurn ticket unfilled (resting :: rest) books = ⟨[fill], none, after⟩ := by
  simp only [settleInTurn, filled, if_pos all]

theorem settleInTurn_more (rest : List Order)
    (filled : Scope.fill ticket resting (min unfilled resting.remaining) books = (.ok fill, after))
    (more : fill.quantity ≠ unfilled) : settleInTurn ticket unfilled (resting :: rest) books =
      let later := settleInTurn ticket (unfilled - fill.quantity) rest after
      { later with fills := fill :: later.fills } := by
  simp only [settleInTurn, filled, if_neg more]

end First

theorem settleInTurn_recorded (ticket : Ticket) (unfilled : Int) {listed : List Order} {books : Books}
    (lists : books.Lists listed) : (settleInTurn ticket unfilled listed books).Recorded ticket listed books := by
  fun_induction settleInTurn ticket unfilled listed books with
  | case1 unfilled books => exact .none lists _
  | case2 unfilled resting rest books cause after failed => exact .none lists _
  | case3 resting rest books fill after filled =>
    exact .cons lists (Int.min_le_right _ _) filled (.none (lists.next filled) none)
  | case4 unfilled resting rest books fill after filled unfinished later ih =>
    exact .cons lists (Int.min_le_right _ _) filled (ih (lists.next filled))

theorem Books.Lists.turn_recorded {books : Books} (lists : books.Lists []) {ticket : Ticket}
    (readable : books.Readable ticket) (unfilled : Int) :
    (books.turn ticket unfilled).Recorded ticket (books.crossedBy ticket) books :=
  settleInTurn_recorded ticket unfilled (lists.crossed readable)

/-- Turns through the same orders go alike in any two books that show the same of the accounts that the orders name. -/
theorem settleInTurn_alike {ticket : Ticket} (unfilled : Int) {listed : List Order} {books other : Books}
    (lists : books.Lists listed) (also : other.Lists listed)
    (same : ∀ id, (ticket.Names id ∨ ∃ order ∈ listed, order.Names id) → other.account? id = books.account? id) :
    (settleInTurn ticket unfilled listed other).outlines = (settleInTurn ticket unfilled listed books).outlines ∧
      (settleInTurn ticket unfilled listed other).stopped = (settleInTurn ticket unfilled listed books).stopped := by
  induction listed generalizing unfilled books other with
  | nil => exact ⟨rfl, rfl⟩
  | cons resting rest ih =>
    have sameHere (id : AccountId) (named : ticket.Names id ∨ resting.Names id) :
        other.account? id = books.account? id :=
      same id (named.imp_right fun named => ⟨resting, List.mem_cons_self, named⟩)
    rcases lists.fill_alike also (Int.min_le_right unfilled _) sameHere with
      ⟨fill, fillToo, filled, filledToo, outline⟩ | ⟨cause, failed, failedToo⟩
    · obtain ⟨quantity, applied⟩ := Fill.alike outline
      have sameThen (id : AccountId) (named : ticket.Names id ∨ ∃ order ∈ rest, order.Names id) :
          (other.filled fillToo).account? id = (books.filled fill).account? id := by
        rw [Books.filled_account?, Books.filled_account?, applied, same id ?_]
        exact named.imp_right fun ⟨order, member, named⟩ => ⟨order, List.mem_cons_of_mem _ member, named⟩
      have later := ih (unfilled - fill.quantity) (lists.next filled) (also.next filledToo) sameThen
      simp only [settleInTurn, filled, filledToo, quantity]
      split
      · exact ⟨congrArg ([·]) outline, rfl⟩
      · exact ⟨congrArg₂ List.cons outline later.1, later.2⟩
    · simp only [settleInTurn, failed, failedToo, Turn.outlines, and_self]

/-- Turns through the same orders come to the same in any two books with the same balances and order rows. -/
theorem settleInTurn_same (ticket : Ticket) (unfilled : Int) {listed : List Order} {books other : Books}
    (lists : books.Lists listed) (also : other.Lists listed) (accounts : other.accounts = books.accounts)
    (orders : other.orders = books.orders) :
    let turn := settleInTurn ticket unfilled listed books
    let again := settleInTurn ticket unfilled listed other
    again.stopped = turn.stopped ∧ again.traded = turn.traded ∧
      again.books.accounts = turn.books.accounts ∧ again.books.orders = turn.books.orders := by
  intro turn again
  have same (id : AccountId) : other.account? id = books.account? id := by
    unfold Books.account?
    rw [accounts]
  obtain ⟨outlines, stopped⟩ : again.outlines = turn.outlines ∧ again.stopped = turn.stopped :=
    settleInTurn_alike unfilled lists also fun id _ => same id
  have books_eq : turn.books = books.after turn.fills := (settleInTurn_recorded ticket unfilled lists).books_eq
  have again_eq : again.books = other.after turn.fills :=
    (settleInTurn_recorded ticket unfilled also).books_eq.trans (Books.after_alike outlines)
  refine ⟨stopped, ?_, ?_, ?_⟩
  · rw [← again.traded_outlines, outlines, turn.traded_outlines]
  · rw [again_eq, books_eq, Books.after_accounts, Books.after_accounts, accounts]
  · rw [again_eq, books_eq, Books.after_orders, Books.after_orders, orders]

end Bourse

import Bourse.Proofs.Turns

namespace Bourse

open Scope

/-- The id is that of an account that a match of the ticket can come to: one of the ticket's own or of an order on its
pair. -/
def Ticket.Concerns (ticket : Ticket) (books : Books) (id : AccountId) : Prop :=
  ticket.Names id ∨ ∃ order ∈ books.orders, order.pair = ticket.pair ∧ order.Names id

/-- Tickets on different pairs that concern no account in common. -/
structure Ticket.Unrelated (ticket other : Ticket) (books : Books) : Prop where
  pairs : ticket.pair ≠ other.pair
  accounts : ∀ id, ticket.Concerns books id → ¬other.Concerns books id

theorem Ticket.Unrelated.symm {ticket other : Ticket} {books : Books} (unrelated : ticket.Unrelated other books) :
    other.Unrelated ticket books :=
  ⟨unrelated.pairs.symm, fun id concerned concernedToo => unrelated.accounts id concernedToo concerned⟩

/-- Progress without the numbers of the trades. -/
def Progress.outline (progress : Progress) : Progress := { progress with fills := progress.fills.map Fill.outline }

/-- The outcome of a match without the numbers of the trades. -/
def outlineOf : Except Interruption Progress → Except Interruption Progress
  | .ok progress => .ok progress.outline
  | .error interruption => .error { interruption with progress := interruption.progress.outline }

/-- The account and the amount of a line. -/
def Entry.line (entry : Entry) : AccountId × Int := (entry.account, entry.amount)

/-- The two legs of a trade. -/
def Trade.legs (trade : Trade) : Swap := ⟨trade.first, trade.second⟩

/-- The lines that a leg adds. -/
def Leg.lines (leg : Leg) : List (AccountId × Int) := [(leg.payer, -leg.amount), (leg.payee, leg.amount)]

/-- Books with the same balances and order rows, whose journals differ in the numbers and the order of their rows
only. -/
structure Books.Matches (books other : Books) : Prop where
  accounts : other.accounts = books.accounts
  orders : other.orders = books.orders
  transfers : (other.transfers.map Transfer.leg).Perm (books.transfers.map Transfer.leg)
  entries : (other.entries.map Entry.line).Perm (books.entries.map Entry.line)
  trades : (other.trades.map Trade.legs).Perm (books.trades.map Trade.legs)

theorem Books.Matches.refl (books : Books) : books.Matches books := ⟨rfl, rfl, .rfl, .rfl, .rfl⟩

theorem Turn.reached_outline (turn : Turn) : (turn.reached {}).outline = ⟨.active, turn.traded, turn.outlines⟩ := by
  simp [reached, Progress.outline, outlines]

/-- Turns that differ in the numbers of their trades only have outcomes that do. -/
theorem Turn.outcome_outline {turn other : Turn} (outlines : other.outlines = turn.outlines)
    (stopped : other.stopped = turn.stopped) (amount : Int) :
    outlineOf (other.outcome amount {}).1 = outlineOf (turn.outcome amount {}).1 := by
  have traded : other.traded = turn.traded := by rw [← other.traded_outlines, outlines, turn.traded_outlines]
  have reached : (other.reached {}).outline = (turn.reached {}).outline := by
    rw [other.reached_outline, turn.reached_outline, traded, outlines]
  have total : (other.reached {}).traded = (turn.reached {}).traded := congrArg (0 + ·) traded
  have none : other.fills ≠ [] ↔ turn.fills ≠ [] := by
    have lengths := congrArg List.length outlines
    unfold Turn.outlines at lengths
    rw [List.length_map, List.length_map] at lengths
    rw [← List.length_pos_iff, ← List.length_pos_iff, lengths]
  unfold outcome Progress.openAmount
  rw [stopped, total]
  cases turn.stopped with
  | some cause => simp only [outlineOf, reached]
  | none =>
    simp only [none]
    by_cases closed : turn.fills ≠ [] ∧ amount - (turn.reached {}).traded = 0
    · rw [if_pos closed, if_pos closed]
      exact congrArg (fun progress : Progress => Except.ok { progress with status := .completed }) reached
    · rw [if_neg closed, if_neg closed]
      exact congrArg Except.ok reached

/-- It makes no difference to an account which of two fills is made first. -/
theorem Fill.applied_comm (fill other : Fill) (account : Account) :
    fill.applied (other.applied account) = other.applied (fill.applied account) := by
  unfold applied
  rw [Leg.applied_comm fill.trade.first, Leg.applied_comm fill.trade.second, Leg.applied_comm fill.trade.first,
    Leg.applied_comm fill.trade.second]

theorem Order.after_append (order : Order) (first second : List Fill) :
    order.after (first ++ second) = (order.after first).after second := List.foldl_append

theorem Account.after_comm (account : Account) (first second : List Fill) :
    account.after (first ++ second) = account.after (second ++ first) :=
  List.perm_append_comm.foldl_eq' (fun fill _ other _ account => other.applied_comm fill account) account

/-- It makes no difference to the row of an order which of two lots of fills is made first, unless both fill it. -/
theorem Order.after_comm (order : Order) {first second : List Fill}
    (apart : (∀ fill ∈ first, order.id ≠ fill.resting.id) ∨ ∀ fill ∈ second, order.id ≠ fill.resting.id) :
    order.after (first ++ second) = order.after (second ++ first) := by
  have spared {fills others : List Fill} (spares : ∀ fill ∈ others, order.id ≠ fill.resting.id) :
      (order.after fills).after others = (order.after others).after fills := by
    rw [after_of_ne spares, after_of_ne fun fill member => (order.after_terms fills).1 ▸ spares fill member]
  rw [after_append, after_append]
  rcases apart with first | second
  · exact (spared first).symm
  · exact spared second

namespace Books

variable {books : Books} {ticket : Ticket} {fills : List Fill}

theorem after_append (books : Books) (first second : List Fill) :
    books.after (first ++ second) = (books.after first).after second := List.foldl_append

/-- What each fill adds to the end of a table, all of them add one after the other. -/
theorem after_appends {β : Type} (rows : Books → List β) (added : Fill → List β)
    (each : ∀ books fill, rows (books.filled fill) = rows books ++ added fill) (books : Books) (fills : List Fill) :
    rows (books.after fills) = rows books ++ fills.flatMap added := by
  induction fills generalizing books with
  | nil => exact (List.append_nil _).symm
  | cons fill fills ih =>
    rw [List.flatMap_cons, ← List.append_assoc, ← each]
    exact ih (books.filled fill)

theorem after_transfers (books : Books) (fills : List Fill) : (books.after fills).transfers.map Transfer.leg =
    books.transfers.map Transfer.leg ++ fills.flatMap fun fill => [fill.trade.first, fill.trade.second] := by
  refine after_appends (fun books => books.transfers.map Transfer.leg) _ (fun books fill => ?_) books fills
  unfold filled settled moved setOrder traded
  rw [List.map_append, List.map_append, List.append_assoc]
  rfl

theorem after_entries (books : Books) (fills : List Fill) : (books.after fills).entries.map Entry.line =
    books.entries.map Entry.line ++ fills.flatMap fun fill => fill.trade.first.lines ++ fill.trade.second.lines := by
  refine after_appends (fun books => books.entries.map Entry.line) _ (fun books fill => ?_) books fills
  unfold filled settled moved setOrder traded
  rw [List.map_append, List.map_append, List.append_assoc]
  rfl

theorem after_trades (books : Books) (fills : List Fill) : (books.after fills).trades.map Trade.legs =
    books.trades.map Trade.legs ++ fills.flatMap fun fill => [fill.trade.legs] := by
  refine after_appends (fun books => books.trades.map Trade.legs) _ (fun books fill => ?_) books fills
  unfold filled settled moved setOrder traded
  rw [List.map_append]
  rfl

theorem filter_map_of_fixed {α : Type} {change : α → α} {passes : α → Bool} {rows : List α}
    (same : ∀ row ∈ rows, passes (change row) = passes row) (fixed : ∀ row ∈ rows, passes row → change row = row) :
    (rows.map change).filter passes = rows.filter passes := by
  have kept : rows.filter (passes ∘ change) = rows.filter passes := List.filter_congr same
  rw [List.filter_map, kept]
  refine (List.map_congr_left fun row member => ?_).trans (List.map_id _)
  obtain ⟨standing, pass⟩ := List.mem_filter.mp member
  exact fixed row standing pass

/-- A ticket crosses what it crossed before fills that leave the orders on its pair alone. -/
theorem crossedBy_after (spared : ∀ order ∈ books.orders, order.pair = ticket.pair → order.after fills = order) :
    (books.after fills).crossedBy ticket = books.crossedBy ticket := by
  unfold crossedBy
  rw [after_orders]
  refine filter_map_of_fixed (fun order member => ?_) fun order member passes =>
    spared order member (of_decide_eq_true passes).2.2.1
  by_cases own : order.pair = ticket.pair
  · rw [spared order member own]
  · simp [(order.after_terms fills).2, own]

/-- The order in which two lots of fills are made shows in the numbers and the order of the rows in the journals only,
where no order is filled by both. -/
theorem matches_of_apart {first second : List Fill} (apart : ∀ order ∈ books.orders,
      (∀ fill ∈ first, order.id ≠ fill.resting.id) ∨ ∀ fill ∈ second, order.id ≠ fill.resting.id) :
    (books.after (first ++ second)).Matches (books.after (second ++ first)) := by
  refine ⟨?_, ?_, ?_, ?_, ?_⟩
  · rw [after_accounts, after_accounts]
    exact List.map_congr_left fun account _ => account.after_comm second first
  · rw [after_orders, after_orders]
    exact List.map_congr_left fun order member => order.after_comm (apart order member).symm
  · rw [after_transfers, after_transfers]
    exact (List.perm_append_comm.flatMap_right _).append_left _
  · rw [after_entries, after_entries]
    exact (List.perm_append_comm.flatMap_right _).append_left _
  · rw [after_trades, after_trades]
    exact (List.perm_append_comm.flatMap_right _).append_left _

end Books

section Turn

variable {turn : Turn} {ticket other : Ticket} {books : Books}

theorem Turn.Recorded.concerned (recorded : turn.Recorded ticket (books.crossedBy ticket) books) {fill : Fill}
    (made : fill ∈ turn.fills) {id : AccountId} (named : fill.trade.first.Names id ∨ fill.trade.second.Names id) :
    ticket.Concerns books id := by
  obtain ⟨resting, member, quantity, number, _, rfl⟩ := recorded.made fill made
  have tradable := Books.tradable_of_crossedBy member
  exact (Ticket.swap_names named).imp_right fun named => ⟨resting, tradable.1, tradable.2.2.1, named⟩

/-- A turn fills orders on the pair of the ticket only. -/
theorem Turn.Recorded.spares (recorded : turn.Recorded ticket (books.crossedBy ticket) books)
    (formed : books.WellFormed) {order : Order} (standing : order ∈ books.orders)
    (different : order.pair ≠ ticket.pair) :
    ∀ fill ∈ turn.fills, order.id ≠ fill.resting.id := by
  intro fill made same
  obtain ⟨resting, member, own⟩ := recorded.resting_id made
  have tradable := Books.tradable_of_crossedBy member
  rw [formed.orderIds.unique standing tradable.1 (same.trans own)] at different
  exact different tradable.2.2.1

/-- A turn of a ticket leaves alone what an unrelated ticket crosses. -/
theorem Ticket.Unrelated.crossedBy_turn (unrelated : ticket.Unrelated other books) (lists : books.Lists [])
    (readable : books.Readable other) (more : Int) :
    (books.turn other more).books.crossedBy ticket = books.crossedBy ticket := by
  have recorded := lists.turn_recorded readable more
  rw [recorded.books_eq]
  exact Books.crossedBy_after fun order member own =>
    Order.after_of_ne (recorded.spares lists.formed member (own ▸ unrelated.pairs))

/-- A turn of a ticket goes alike before and after one of an unrelated ticket. -/
theorem Ticket.Unrelated.turn_alike (unrelated : ticket.Unrelated other books) (lists : books.Lists [])
    (readable : books.Readable ticket) (readableToo : books.Readable other) (unfilled more : Int) :
    let left := (books.turn other more).books
    (left.turn ticket unfilled).outlines = (books.turn ticket unfilled).outlines ∧
      (left.turn ticket unfilled).stopped = (books.turn ticket unfilled).stopped := by
  intro left
  have recorded := lists.turn_recorded readableToo more
  have left_eq : left = books.after (books.turn other more).fills := recorded.books_eq
  have crossed : left.crossedBy ticket = books.crossedBy ticket := unrelated.crossedBy_turn lists readableToo more
  have also : left.Lists (books.crossedBy ticket) := crossed ▸ recorded.left.crossed (readable.of_crossedBy crossed)
  have same (id : AccountId) (concerned : ticket.Concerns books id) : left.account? id = books.account? id := by
    have untouched : ∀ fill ∈ (books.turn other more).fills, ¬fill.trade.first.Names id ∧ ¬fill.trade.second.Names id :=
      fun fill made => not_or.mp fun named => unrelated.accounts id concerned (recorded.concerned made named)
    rw [left_eq, Books.after_account?]
    cases found : books.account? id with
    | none => rfl
    | some account =>
      rw [← Books.account?_id found] at untouched
      rw [Option.map_some, Account.after_of_not_names untouched]
  unfold Books.turn
  rw [crossed]
  refine settleInTurn_alike unfilled (lists.crossed readable) also fun id named => same id ?_
  exact named.imp_right fun ⟨order, member, named⟩ =>
    ⟨order, (Books.tradable_of_crossedBy member).1, (Books.tradable_of_crossedBy member).2.2.1, named⟩

/-- Turns of unrelated tickets lead to the same balances and order rows in either order. -/
theorem Ticket.Unrelated.turns_match (unrelated : ticket.Unrelated other books) (lists : books.Lists [])
    (readable : books.Readable ticket) (readableToo : books.Readable other) (unfilled more : Int) :
    ((books.turn ticket unfilled).books.turn other more).books.Matches
      ((books.turn other more).books.turn ticket unfilled).books := by
  have first := lists.turn_recorded readable unfilled
  have second := lists.turn_recorded readableToo more
  have firstThen := readable.of_crossedBy (unrelated.crossedBy_turn lists readableToo more)
  have secondThen := readableToo.of_crossedBy (unrelated.symm.crossedBy_turn lists readable unfilled)
  have secondLast : ((books.turn ticket unfilled).books.turn other more).books =
      books.after ((books.turn ticket unfilled).fills ++ (books.turn other more).fills) := by
    rw [(first.left.turn_recorded secondThen more).books_eq,
      Books.after_alike (unrelated.symm.turn_alike lists readableToo readable more unfilled).1, first.books_eq,
      Books.after_append]
  have firstLast : ((books.turn other more).books.turn ticket unfilled).books =
      books.after ((books.turn other more).fills ++ (books.turn ticket unfilled).fills) := by
    rw [(second.left.turn_recorded firstThen unfilled).books_eq,
      Books.after_alike (unrelated.turn_alike lists readable readableToo unfilled more).1, second.books_eq,
      Books.after_append]
  rw [secondLast, firstLast]
  refine Books.matches_of_apart fun order member => ?_
  by_cases own : order.pair = ticket.pair
  · exact .inr (second.spares lists.formed member (own ▸ unrelated.pairs))
  · exact .inl (first.spares lists.formed member own)

section Matched

variable {size : Nat} (range : 1 ≤ size ∧ size ≤ maxPageSize)

include range

theorem Books.Lists.matched (lists : books.Lists []) (ticket : Ticket) :
    (matchTicket ticket size books).2.Lists [] := by
  by_cases readable : books.Readable ticket
  · rw [lists.matched_turn readable range, Turn.books_outcome]
    exact (lists.turn_recorded readable ticket.amount).left
  · rwa [lists.steady.matchTicket_unread readable range]

namespace Ticket.Unrelated

/-- To match a ticket leaves alone what an unrelated ticket crosses. -/
theorem crossedBy_matched (unrelated : ticket.Unrelated other books) (lists : books.Lists []) :
    (matchTicket other size books).2.crossedBy ticket = books.crossedBy ticket := by
  by_cases readable : books.Readable other
  · rw [lists.matched_turn readable range, Turn.books_outcome]
    exact unrelated.crossedBy_turn lists readable other.amount
  · rw [lists.steady.matchTicket_unread readable range]

/-- A ticket that crosses what cannot be read stops as well after an unrelated ticket is matched. -/
theorem matched_unread (unrelated : ticket.Unrelated other books) (lists : books.Lists [])
    (unread : ¬books.Readable ticket) : matchTicket ticket size (matchTicket other size books).2 =
      (.error ⟨{}, .unreadable ticket.pair⟩, (matchTicket other size books).2) := by
  refine (lists.matched range other).steady.matchTicket_unread (fun readable => unread ?_) range
  exact readable.of_crossedBy (unrelated.crossedBy_matched range lists).symm

/-- Matching a ticket goes alike before and after an unrelated ticket is matched. -/
theorem matched_alike (unrelated : ticket.Unrelated other books) (lists : books.Lists []) :
    outlineOf (matchTicket ticket size (matchTicket other size books).2).1 =
      outlineOf (matchTicket ticket size books).1 := by
  by_cases readable : books.Readable ticket
  case neg => rw [unrelated.matched_unread range lists readable, lists.steady.matchTicket_unread readable range]
  by_cases readableToo : books.Readable other
  case neg => rw [lists.steady.matchTicket_unread readableToo range]
  have readableThen := readable.of_crossedBy (unrelated.crossedBy_matched range lists)
  rw [(lists.matched range other).matched_turn readableThen range, lists.matched_turn readable range,
    lists.matched_turn readableToo range, Turn.books_outcome]
  obtain ⟨outlines, stopped⟩ := unrelated.turn_alike lists readable readableToo ticket.amount other.amount
  exact Turn.outcome_outline outlines stopped _

/-- Matching two unrelated tickets leads to the same balances and order rows in either order. -/
theorem matched_match (unrelated : ticket.Unrelated other books) (lists : books.Lists []) :
    (matchTicket other size (matchTicket ticket size books).2).2.Matches
      (matchTicket ticket size (matchTicket other size books).2).2 := by
  by_cases readable : books.Readable ticket
  case neg =>
    rw [unrelated.matched_unread range lists readable, lists.steady.matchTicket_unread readable range]
    exact .refl _
  by_cases readableToo : books.Readable other
  case neg =>
    rw [unrelated.symm.matched_unread range lists readableToo, lists.steady.matchTicket_unread readableToo range]
    exact .refl _
  have readableThen := readable.of_crossedBy (unrelated.crossedBy_matched range lists)
  have readableTooThen := readableToo.of_crossedBy (unrelated.symm.crossedBy_matched range lists)
  rw [(lists.matched range other).matched_turn readableThen range,
    (lists.matched range ticket).matched_turn readableTooThen range, lists.matched_turn readable range,
    lists.matched_turn readableToo range]
  simp only [Turn.books_outcome]
  exact unrelated.turns_match lists readable readableToo _ _

end Ticket.Unrelated

end Matched

end Turn

/-- Matching two unrelated tickets in either order comes to the same. -/
theorem Reach.unrelated_commute {books : Books} (reach : Reach (fun _ _ => True) .empty books)
    (undisturbed : books.faults = {}) {first second : Ticket} (unrelated : first.Unrelated second books) {size : Nat}
    (range : 1 ≤ size ∧ size ≤ maxPageSize) :
    let afterFirst := matchTicket first size books
    let afterSecond := matchTicket second size books
    let firstLast := matchTicket first size afterSecond.2
    let secondLast := matchTicket second size afterFirst.2
    outlineOf firstLast.1 = outlineOf afterFirst.1 ∧ outlineOf secondLast.1 = outlineOf afterSecond.1 ∧
      secondLast.2.Matches firstLast.2 := by
  have lists := reach.lists undisturbed
  intro afterFirst afterSecond firstLast secondLast
  exact ⟨unrelated.matched_alike range lists, unrelated.symm.matched_alike range lists,
    unrelated.matched_match range lists⟩

/-- A bid for bitcoin that runs out of money after its first fill, and one for ether between two other traders. -/
theorem unrelated_commute_despite_interruption :
    let calls := twoAsks ++ [.perform (.openAccount "cyd" .eth), .perform (.openAccount "cyd" .usdt),
      .perform (.openAccount "dan" .eth), .perform (.openAccount "dan" .usdt), .perform (.deposit 5 6),
      .perform (.deposit 8 100), .submit ⟨"cyd"⟩ ⟨.ask, ⟨.eth, .usdt⟩, 10, 4, 5, 6⟩]
    let books := Desk.serve {} calls .empty
    let first : Ticket := ⟨.bid, ⟨.btc, .usdt⟩, 30, 8, 4, 3⟩
    let second : Ticket := ⟨.bid, ⟨.eth, .usdt⟩, 10, 3, 8, 7⟩
    let firstLast := matchTicket first 10 (matchTicket second 10 books).2
    let secondLast := matchTicket second 10 (matchTicket first 10 books).2
    books.faults = {} ∧ first.Unrelated second books ∧ (1 ≤ 10 ∧ 10 ≤ maxPageSize) ∧
      outlineOf firstLast.1 = outlineOf (matchTicket first 10 books).1 ∧
      outlineOf secondLast.1 = outlineOf (matchTicket second 10 books).1 ∧ secondLast.2.Matches firstLast.2 ∧
      firstLast.1 = .error ⟨⟨.active, 5, [⟨⟨1, .ask, ⟨.btc, .usdt⟩, 1, 2, 20, 5, 0, .completed⟩,
        ⟨2, ⟨1, 3, 5⟩, ⟨4, 2, 100⟩⟩, 5, 20⟩]⟩, .insufficientFunds 4 0 90⟩ ∧
      secondLast.2.accounts.map (·.balance) = [5, 100, 5, 0, 3, 30, 3, 70] := by
  intro calls books first second firstLast secondLast
  have reached : Reach (fun _ _ => True) .empty books := .serve .start fun _ _ => trivial
  have undisturbed : books.faults = {} := by decide +kernel
  have range : 1 ≤ 10 ∧ 10 ≤ maxPageSize := by decide
  have lower : ∀ order ∈ books.orders, order.pair = first.pair → order.source ≤ 4 ∧ order.destination ≤ 4 := by
    decide +kernel
  have upper : ∀ order ∈ books.orders, order.pair = second.pair → 4 < order.source ∧ 4 < order.destination := by
    decide +kernel
  have concerns (id : AccountId) (concerned : first.Concerns books id) : id ≤ 4 := by
    rcases concerned with (rfl | rfl) | ⟨order, member, own, rfl | rfl⟩
    · decide
    · decide
    · exact (lower order member own).1
    · exact (lower order member own).2
  have concernsToo (id : AccountId) (concerned : second.Concerns books id) : 4 < id := by
    rcases concerned with (rfl | rfl) | ⟨order, member, own, rfl | rfl⟩
    · decide
    · decide
    · exact (upper order member own).1
    · exact (upper order member own).2
  have unrelated : first.Unrelated second books := ⟨by decide, fun id concerned concernedToo =>
    Int.not_lt.mpr (concerns id concerned) (concernsToo id concernedToo)⟩
  obtain ⟨alike, alikeToo, same⟩ := reached.unrelated_commute undisturbed unrelated range
  exact ⟨undisturbed, unrelated, range, alike, alikeToo, same, by decide +kernel, by decide +kernel⟩

end Bourse

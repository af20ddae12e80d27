import Bourse.Proofs.Handling
import Bourse.Proofs.Interruption
import Bourse.Proofs.Parts

namespace Bourse

open Scope

/-- Two turns that come to the same as one, but for the number of their fills. -/
structure Turn.SplitInto (whole first second : Turn) : Prop where
  stopped : first.stopped = none ∧ second.stopped = none
  traded : first.traded + second.traded = whole.traded
  accounts : second.books.accounts = whole.books.accounts
  orders : second.books.orders = whole.books.orders

theorem Turn.SplitInto.cons {whole first second : Turn} (split : whole.SplitInto first second) (fill : Fill) :
    SplitInto { whole with fills := fill :: whole.fills } { first with fills := fill :: first.fills } second := by
  refine ⟨split.stopped, ?_, split.accounts, split.orders⟩
  rw [traded_cons, traded_cons, Int.add_assoc, split.traded]

section Cons

variable {ticket : Ticket} {resting : Order} {rest : List Order} {books : Books} {unfilled first second : Int}

/-- Where nothing stops a turn, its first order is filled. -/
theorem Books.Lists.filled_of_unstopped (lists : books.Lists (resting :: rest))
    (unstopped : (settleInTurn ticket unfilled (resting :: rest) books).stopped = none) {quantity : Int}
    (same : min unfilled resting.remaining = quantity) :
    0 < quantity ∧ Scope.fill ticket resting quantity books = (.ok (ticket.fill resting quantity (nextId books.trades)),
      books.filled (ticket.fill resting quantity (nextId books.trades))) := by
  rcases lists.fill_cases ticket (Int.min_le_right unfilled _) with ⟨fits, _, filled⟩ | ⟨cause, failed⟩
  · rw [same] at fits filled
    exact ⟨(Swap.ofFill_eq_ok.mp fits).1.1.2, filled⟩
  · simp [settleInTurn, failed] at unstopped

/-- An order that is larger than the first part of the amount is filled by both. -/
theorem Books.Lists.split_within (lists : books.Lists (resting :: rest)) (separates : ticket.Separates books)
    (crossed : books.crossedBy ticket = resting :: rest) (positive : 0 < first ∧ 0 < second)
    (larger : first < resting.remaining)
    (unstopped : (settleInTurn ticket (first + second) (resting :: rest) books).stopped = none) :
    (settleInTurn ticket (first + second) (resting :: rest) books).SplitInto
      (settleInTurn ticket first (resting :: rest) books)
      ((settleInTurn ticket first (resting :: rest) books).books.turn ticket second) := by
  obtain ⟨more, left_over⟩ : ∃ more, more = min second (resting.remaining - first) := ⟨_, rfl⟩
  have whole : min (first + second) resting.remaining = first + more := by omega
  have within : first + more ≤ resting.remaining := by omega
  obtain ⟨_, filled⟩ := lists.filled_of_unstopped unstopped whole
  obtain ⟨part, middle, last, left, begun, ⟨part_eq, rfl⟩, listsThen, ended, lastQuantity, accounts, orders⟩ :=
    lists.fill_split separates ⟨positive.1, by omega⟩ within filled
  generalize made : ticket.fill resting (first + more) (nextId books.trades) = fill at filled accounts orders
  have quantity : fill.quantity = first + more := by rw [← made]; rfl
  have partQuantity : part.quantity = first := congrArg Fill.quantity part_eq
  have remaining : part.resting.remaining = resting.remaining - first := congrArg (·.resting.remaining) part_eq
  have smaller : min first resting.remaining = first := Int.min_eq_left (Int.le_of_lt larger)
  have firstTurn : settleInTurn ticket first (resting :: rest) books = ⟨[part], none, books.filled part⟩ :=
    settleInTurn_last rest (smaller.symm ▸ begun) partQuantity
  have crossedThen : (books.filled part).crossedBy ticket = part.resting :: rest := by
    rw [part_eq, lists.formed.crossedBy_filled crossed, if_neg (by omega)]
  have filledInTurn : Scope.fill ticket resting (min (first + second) resting.remaining) books =
      (.ok fill, books.filled fill) := by rwa [whole]
  have endedInTurn : Scope.fill ticket part.resting (min second part.resting.remaining) (books.filled part) =
      (.ok last, left) := by rwa [remaining, ← left_over]
  rw [firstTurn, Books.turn, crossedThen]
  by_cases all : more = second
  · rw [settleInTurn_last rest filledInTurn (by omega), settleInTurn_last rest endedInTurn (by omega)]
    refine ⟨⟨rfl, rfl⟩, ?_, accounts, orders⟩
    simp only [Turn.traded_singleton]
    omega
  · -- From here on both go through the same orders, in books that differ in their journals only.
    have open_ : second - last.quantity = first + second - fill.quantity := by omega
    have wholeTurn := settleInTurn_more rest filledInTurn (by omega)
    rw [wholeTurn] at unstopped ⊢
    rw [settleInTurn_more rest endedInTurn (by omega), open_]
    obtain ⟨stopped, traded, sameAccounts, sameOrders⟩ := settleInTurn_same ticket (first + second - fill.quantity)
      (lists.next filled) (listsThen.next ended) accounts orders
    refine ⟨⟨rfl, stopped.trans unstopped⟩, ?_, sameAccounts, sameOrders⟩
    simp only [Turn.traded_singleton, Turn.traded_cons, traded]
    omega

end Cons

theorem settleInTurn_split {ticket : Ticket} {first second : Int} {listed : List Order} {books : Books}
    (positive : 0 < first ∧ 0 < second) (lists : books.Lists listed)
    (separates : listed ≠ [] → ticket.Separates books) (crossed : books.crossedBy ticket = listed)
    (unstopped : (settleInTurn ticket (first + second) listed books).stopped = none) :
    (settleInTurn ticket (first + second) listed books).SplitInto (settleInTurn ticket first listed books)
      ((settleInTurn ticket first listed books).books.turn ticket second) := by
  induction listed generalizing first books with
  | nil =>
    simp only [Books.turn, settleInTurn, crossed]
    exact ⟨⟨rfl, rfl⟩, rfl, rfl, rfl⟩
  | cons resting rest ih =>
    replace separates := separates (List.cons_ne_nil _ _)
    by_cases larger : first < resting.remaining
    · exact lists.split_within separates crossed positive larger unstopped
    · -- The order is filled whole by the first part of the amount as well.
      have whole : min (first + second) resting.remaining = resting.remaining := by omega
      have wholeToo : min first resting.remaining = resting.remaining := by omega
      obtain ⟨enough, filled⟩ := lists.filled_of_unstopped unstopped whole
      have crossedThen := lists.formed.crossedBy_filled crossed resting.remaining (nextId books.trades)
      rw [if_pos rfl] at crossedThen
      generalize made : ticket.fill resting resting.remaining (nextId books.trades) = fill at filled crossedThen
      have quantity : fill.quantity = resting.remaining := by rw [← made]; rfl
      have wholeTurn : settleInTurn ticket (first + second) (resting :: rest) books =
          let later := settleInTurn ticket (first + second - fill.quantity) rest (books.filled fill)
          { later with fills := fill :: later.fills } := settleInTurn_more rest (whole.symm ▸ filled) (by omega)
      rw [wholeTurn] at unstopped ⊢
      by_cases same : fill.quantity = first
      · have firstTurn : settleInTurn ticket first (resting :: rest) books = ⟨[fill], none, books.filled fill⟩ :=
          settleInTurn_last rest (wholeToo.symm ▸ filled) same
        have amount : first + second - fill.quantity = second := by omega
        rw [firstTurn, Books.turn, crossedThen]
        rw [amount] at unstopped ⊢
        refine ⟨⟨rfl, unstopped⟩, ?_, rfl, rfl⟩
        simp only [Turn.traded_singleton, Turn.traded_cons]
      · have firstTurn := settleInTurn_more rest (wholeToo.symm ▸ filled) same
        rw [firstTurn]
        have amount : first + second - fill.quantity = first - fill.quantity + second := by omega
        rw [amount] at unstopped ⊢
        have rest_split := ih ⟨by omega, positive.2⟩ (lists.next filled) (fun _ => separates.after [fill]) crossedThen
          unstopped
        exact rest_split.cons fill

/-- Matching some amount of a ticket is a turn for that amount. -/
theorem Books.Lists.matched_amount {books : Books} (lists : books.Lists []) (ticket : Ticket) (amount : Int)
    (readable : books.Readable ticket) {size : Nat} (range : 1 ≤ size ∧ size ≤ maxPageSize) :
    matchTicket { ticket with amount } size books = (books.turn ticket amount).outcome amount {} := by
  have readableToo : books.Readable { ticket with amount } := readable
  rw [lists.matched_turn readableToo range, Books.turn, settleInTurn_with_amount]
  rfl

/-- The accounts of an order that passes the checks on them hold the two currencies of its pair. -/
theorem Ticket.separates_of_checks {ticket : Ticket} {principal : Principal} {books : Books}
    (source : Desk.checkAccount {} principal ticket.source (ticket.side.pays ticket.pair) books = .ok ())
    (destination : Desk.checkAccount {} principal ticket.destination (ticket.side.receives ticket.pair) books = .ok ())
    (listed : ticket.pair ∈ Pair.listed) : ticket.Separates books := by
  have different : ticket.pair.base ≠ ticket.pair.quote :=
    (by decide : ∀ pair ∈ Pair.listed, pair.base ≠ pair.quote) ticket.pair listed
  obtain ⟨paying, atSource, pays, _⟩ := Desk.checkAccount_of_ok source
  obtain ⟨receiving, atDestination, receives, _⟩ := Desk.checkAccount_of_ok destination
  replace atSource := Books.findAccount_eq_ok.mp atSource
  replace atDestination := Books.findAccount_eq_ok.mp atDestination
  unfold Separates heldInBase heldInQuote
  cases side : ticket.side with
  | bid =>
    rw [side] at pays receives
    exact ⟨receiving, paying, atDestination, atSource, by rw [receives, pays]; exact different⟩
  | ask =>
    rw [side] at pays receives
    exact ⟨paying, receiving, atSource, atDestination, by rw [pays, receives]; exact different⟩

/-- Where matching a ticket whose accounts pass the checks succeeds, so does matching it in two parts, and the parts
come to the same. It does not matter how the orders came into the books. -/
theorem Reach.matched_in_parts {books whole : Books} (reach : Reach (fun _ _ => True) .empty books)
    (undisturbed : books.faults = {}) {principal : Principal} {ticket : Ticket}
    (source : Desk.checkAccount {} principal ticket.source (ticket.side.pays ticket.pair) books = .ok ())
    (destination : Desk.checkAccount {} principal ticket.destination (ticket.side.receives ticket.pair) books = .ok ())
    {first second : Int} (positive : 0 < first ∧ 0 < second) {size : Nat} {progress : Progress}
    (ran : matchTicket { ticket with amount := first + second } size books = (.ok progress, whole)) :
    ∃ part middle rest after, matchTicket { ticket with amount := first } size books = (.ok part, middle) ∧
      matchTicket { ticket with amount := second } size middle = (.ok rest, after) ∧
      part.traded + rest.traded = progress.traded ∧ after.accounts = whole.accounts ∧ after.orders = whole.orders := by
  have lists := reach.lists undisturbed
  obtain ⟨⟨range, crossed⟩, unstopped, ⟨_, traded⟩, rfl⟩ := lists.turn_of_matched ran
  have readable : books.Readable ticket := crossed
  rw [Books.turn, settleInTurn_with_amount] at unstopped traded ⊢
  have separates (some : books.crossedBy ticket ≠ []) : ticket.Separates books :=
    Ticket.separates_of_checks source destination (readable.resolve_right some)
  have split : (books.turn ticket (first + second)).SplitInto (books.turn ticket first)
      ((books.turn ticket first).books.turn ticket second) :=
    settleInTurn_split positive (lists.crossed readable) separates rfl unstopped
  obtain ⟨part, matched, partTraded⟩ := Turn.outcome_of_unstopped split.stopped.1 first
  obtain ⟨rest, matchedThen, restTraded⟩ := Turn.outcome_of_unstopped split.stopped.2 second
  have listsThen := (lists.turn_recorded readable first).left
  refine ⟨part, _, rest, _, (lists.matched_amount ticket first readable range).trans matched,
    (listsThen.matched_amount ticket second (readable.turn first) range).trans matchedThen, ?_, split.accounts,
    split.orders⟩
  rw [partTraded, restTraded, traded]
  exact split.traded

/-- The bid for seven is matched in parts of three and four, so that the first ask is filled in two. -/
theorem matched_in_parts_within_ask :
    let books := Desk.serve {} (twoAsks ++ [.perform (.deposit 4 100)]) .empty
    let ticket : Ticket := ⟨.bid, ⟨.btc, .usdt⟩, 30, 7, 4, 3⟩
    let progress : Progress := ⟨.completed, 7,
      [⟨⟨1, .ask, ⟨.btc, .usdt⟩, 1, 2, 20, 5, 0, .completed⟩, ⟨1, ⟨1, 3, 5⟩, ⟨4, 2, 100⟩⟩, 5, 20⟩,
        ⟨⟨2, .ask, ⟨.btc, .usdt⟩, 1, 2, 30, 5, 3, .active⟩, ⟨2, ⟨1, 3, 2⟩, ⟨4, 2, 60⟩⟩, 2, 30⟩]⟩
    let whole := (matchTicket ticket 10 books).2
    books.faults = {} ∧ matchTicket ticket 10 books = (.ok progress, whole) ∧
      whole.accounts.map (·.balance) = [3, 160, 7, 40] ∧ whole.orders.map (·.remaining) = [0, 3] ∧
      ∃ part middle rest after, matchTicket { ticket with amount := 3 } 10 books = (.ok part, middle) ∧
        matchTicket { ticket with amount := 4 } 10 middle = (.ok rest, after) ∧
        part.traded + rest.traded = 7 ∧ after.accounts = whole.accounts ∧ after.orders = whole.orders := by
  intro books ticket progress whole
  have reached : Reach (fun _ _ => True) .empty books := .serve .start fun _ _ => trivial
  have undisturbed : books.faults = {} := by decide +kernel
  have source : Desk.checkAccount {} ⟨"bob"⟩ 4 .usdt books = .ok () := by decide +kernel
  have destination : Desk.checkAccount {} ⟨"bob"⟩ 3 .btc books = .ok () := by decide +kernel
  have reports : (matchTicket ticket 10 books).1 = .ok progress := by decide +kernel
  have ran : matchTicket ticket 10 books = (.ok progress, whole) := Prod.ext reports rfl
  have positive : (0 : Int) < 3 ∧ (0 : Int) < 4 := by decide
  have parts := @Reach.matched_in_parts books whole reached undisturbed ⟨"bob"⟩ ticket source destination 3 4 positive
    10 progress ran
  exact ⟨undisturbed, ran, by decide +kernel, by decide +kernel, parts⟩

end Bourse

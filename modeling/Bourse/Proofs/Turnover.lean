import Bourse.Proofs.Limits
import Bourse.Proofs.Placement

namespace Bourse

open Scope

namespace Books

/-- What has been drawn from the orders whose side and pair are of a kind. -/
def drawnWhere (kind : Side → Pair → Prop) [∀ side, DecidablePred (kind side)] (books : Books) : Int :=
  sumWhere (fun order => kind order.side order.pair) (·.drawn) books.orders

/-- What was bought or sold on a pair: what has been drawn from its bids or its asks. -/
def drawnOn (books : Books) (side : Side) (pair : Pair) : Int :=
  books.drawnWhere fun other otherPair => other = side ∧ otherPair = pair

/-- The quantity of base currency in all trades. -/
def turnover (books : Books) : Int := (books.trades.map (·.first.amount)).sum

variable {kind : Side → Pair → Prop} [∀ side, DecidablePred (kind side)] {books after : Books}

theorem drawnWhere_congr (same : after.orders = books.orders) : after.drawnWhere kind = books.drawnWhere kind := by
  rw [drawnWhere, same, drawnWhere]

theorem drawnWhere_append (books : Books) (row : Order) :
    drawnWhere kind { books with orders := books.orders ++ [row] } =
      books.drawnWhere kind + if kind row.side row.pair then row.drawn else 0 :=
  sumWhere_concat _ _

theorem WellFormed.drawnWhere_setOrder (formed : books.WellFormed) {row : Order} (member : row ∈ books.orders)
    (remaining : Int) (status : Status) : (books.setOrder row.id remaining status).drawnWhere kind =
      books.drawnWhere kind + if kind row.side row.pair then row.remaining - remaining else 0 := by
  have changed := formed.orderIds.sumWhere_change member (fun order => { order with remaining, status })
    (fun order => kind order.side order.pair) (·.drawn)
  unfold drawnWhere Books.setOrder
  by_cases counts : kind row.side row.pair
  · simp only [if_pos counts, Order.drawn] at changed ⊢
    omega
  · simp only [if_neg counts] at changed ⊢
    omega

theorem turnover_append {fill : Trade} (added : after.trades = books.trades ++ [fill]) :
    after.turnover = books.turnover + fill.first.amount := by
  simp only [turnover, added, List.map_append, List.map_singleton, List.sum_append, List.sum_singleton]

end Books

section Served

variable {ticket : Ticket} {start books : Books} {fills : List Fill}

/-- What a ticket was served is drawn from orders of the opposite side on its pair. -/
theorem Served.drawnWhere (served : Served ticket start fills books) (calm : start.Calm)
    (kind : Side → Pair → Prop) [∀ side, DecidablePred (kind side)] : books.drawnWhere kind =
      start.drawnWhere kind + if kind ticket.side.opposite ticket.pair then quantityOf fills else 0 := by
  induction served with
  | none =>
    have nothing : quantityOf [] = 0 := rfl
    rw [nothing, ite_self, Int.add_zero]
  | @next fills books resting quantity fill after earlier standing tradable filled ih =>
    have before := earlier.calm calm
    have done := fill_of_ok before.steady filled
    have taken : resting.remaining - (resting.remaining - quantity) = quantity := by omega
    rw [Books.drawnWhere_congr done.orders, before.formed.drawnWhere_setOrder standing, taken, ih, tradable.1,
      tradable.2.1, quantityOf_append, done.quantity_eq]
    by_cases counts : kind ticket.side.opposite ticket.pair
    · simp only [if_pos counts]
      omega
    · simp only [if_neg counts]
      omega

theorem Served.turnover (served : Served ticket start fills books) (calm : start.Calm) :
    books.turnover = start.turnover + quantityOf fills := by
  induction served with
  | none => exact (Int.add_zero _).symm
  | next earlier standing tradable filled ih =>
    have done := fill_of_ok (earlier.calm calm).steady filled
    rw [Books.turnover_append done.trades, ih, quantityOf_append, done.first_amount, done.quantity_eq, Int.add_assoc]

end Served

/-- As much was bought as was sold on each pair, and all that was bought is in the trades. -/
structure Books.Even (books : Books) : Prop where
  pairs : ∀ pair, books.drawnOn .bid pair = books.drawnOn .ask pair
  turnover : books.drawnWhere (fun side _ => side = .bid) = books.turnover

namespace Books.Even

variable {books after : Books}

theorem of_same (even : books.Even) (same : (after.orders, after.trades) = (books.orders, books.trades)) :
    after.Even := by
  obtain ⟨orders, trades⟩ := Prod.mk.inj same
  refine ⟨fun pair => ?_, ?_⟩
  · unfold drawnOn
    rw [drawnWhere_congr orders, drawnWhere_congr orders]
    exact even.pairs pair
  · rw [drawnWhere_congr orders, Books.turnover, trades]
    exact even.turnover

theorem cancel (even : books.Even) (formed : books.WellFormed) {row : Order} (member : row ∈ books.orders) :
    (books.setOrder row.id row.remaining .canceled).Even := by
  have drawn (kind : Side → Pair → Prop) [∀ side, DecidablePred (kind side)] :
      (books.setOrder row.id row.remaining .canceled).drawnWhere kind = books.drawnWhere kind := by
    rw [formed.drawnWhere_setOrder member, Int.sub_self, ite_self, Int.add_zero]
  refine ⟨fun pair => ?_, ?_⟩
  · unfold drawnOn
    rw [drawn, drawn]
    exact even.pairs pair
  · rw [drawn]
    exact even.turnover

/-- What was served from one side of a pair is drawn on the other side once the order is stored. -/
theorem place (even : books.Even) (calm : books.Calm) {ticket : Ticket} {fills : List Fill} {middle : Books}
    (served : Served ticket books fills middle) {row : Order}
    (terms : row.side = ticket.side ∧ row.pair = ticket.pair) (filled : row.drawn = quantityOf fills) :
    Even { middle with orders := middle.orders ++ [row] } := by
  have drawn (kind : Side → Pair → Prop) [∀ side, DecidablePred (kind side)] :
      drawnWhere kind { middle with orders := middle.orders ++ [row] } = books.drawnWhere kind +
        (if kind ticket.side.opposite ticket.pair then quantityOf fills else 0) +
        if kind ticket.side ticket.pair then quantityOf fills else 0 := by
    rw [drawnWhere_append, served.drawnWhere calm, terms.1, terms.2, filled]
  refine ⟨fun pair => ?_, ?_⟩
  · have before := even.pairs pair
    unfold drawnOn at before ⊢
    rw [drawn, drawn]
    by_cases own : ticket.pair = pair
    · cases side : ticket.side with
      | bid =>
        simp only [Side.opposite, own, reduceCtorEq, and_true, if_true, if_false]
        omega
      | ask =>
        simp only [Side.opposite, own, reduceCtorEq, and_true, if_true, if_false]
        omega
    · simpa only [own, and_false, if_false, Int.add_zero] using before
  · have before := even.turnover
    have traded := served.turnover calm
    change _ = middle.turnover
    rw [drawn, traded, before]
    cases ticket.side with
    | bid => simp only [Side.opposite, reduceCtorEq, if_true, if_false, Int.add_zero]
    | ask => simp only [Side.opposite, reduceCtorEq, if_true, if_false, Int.add_zero]

end Books.Even

theorem Submission.even {ticket : Ticket} {books after : Books} {result : Except Failure Receipt}
    (submission : Submission ticket books result after) (calm : books.Calm) (even : books.Even)
    (stored : ∀ filled cause, result ≠ .error (.unstored filled cause)) : after.Even := by
  cases submission with
  | refused => exact even
  | unstored => exact absurd rfl (stored _ _)
  | added served _ row_eq =>
    subst row_eq
    exact even.place calm served ⟨rfl, rfl⟩ (Int.sub_sub_self _ _)

/-- A call in which orders are filled only as part of a submission, and trades are made by no one else. -/
def Call.Placing (call : Call) : Prop :=
  call.Each Operation.OffMarket ∧ ∀ ticket size, call ≠ .matchTicket ticket size

theorem Call.Placing.passive {call : Call} (placing : call.Placing) : call.Each Operation.Passive := by
  refine placing.1.imp fun {operation} offMarket => ?_
  cases operation with
  | addOrder | recordFill | race => exact offMarket
  | _ => trivial

theorem Call.Placing.even {desk : Desk} {call : Call} (placing : call.Placing) {books : Books} (calm : books.Calm)
    (even : books.Even)
    (stored : ∀ filled cause events, (call.run desk books).1 ≠ .receipt (.error (.unstored filled cause)) events) :
    (call.run desk books).2.Even := by
  have kept {operation : Operation} (offMarket : operation.OffMarket) :
      Keeps (fun books => (books.orders, books.trades)) operation.perform :=
    offMarket.keeps (fun _ _ _ _ => rfl) fun _ _ => rfl
  cases call with
  | submit principal ticket =>
    refine (desk.submit_submission principal ticket calm).even calm even fun filled cause answer => ?_
    refine stored filled cause (desk.submit principal ticket books).events ?_
    rw [← answer]
    rfl
  | cancel principal id =>
    simp only [run]
    rcases desk.cancel_cases principal id calm.quiet with
      ⟨failure, refused⟩ | ⟨row, _, found, active, canceled⟩
    · rw [refused]
      exact even
    · rw [canceled]
      exact even.cancel calm.formed (calm.formed.order?_eq_some.mp found).1
  | lookUp => exact even
  | matchTicket ticket size => exact absurd rfl (placing.2 ticket size)
  | perform operation => exact even.of_same ((kept placing.1).atomic books)
  | batch operations tolerant abort =>
    exact even.of_same (Batch.commit_keeps (fun operation member => kept (placing.1 operation member)) _ _ books)

/-- Whether a submission was answered that its order could not be stored after it was filled. -/
def Reply.unstored : Reply → Bool
  | receipt (.error (.unstored ..)) _ => true
  | _ => false

theorem History.even {past : List Visit} {books : Books} (history : History (fun _ call => call.Placing) past books)
    (stored : ∀ visit ∈ past, visit.reply.unstored = false) : books.Even := by
  induction history with
  | start => exact ⟨fun _ => rfl, rfl⟩
  | @next past books earlier desk call placing ih =>
    have calm : books.Calm := earlier.reach.calm fun placing => placing.passive.imp fun passive => passive.tame.fair
    have before := ih fun visit member => stored visit (List.mem_append_left _ member)
    refine placing.even calm before fun filled cause events answer => ?_
    have told : Reply.unstored (call.run desk books).1 = false :=
      stored ⟨desk, call, books⟩ (List.mem_append_right _ List.mem_cons_self)
    rw [answer] at told
    cases told

/-- On every pair as much was bought as was sold, and over all pairs this is what the trades come to; nothing is
traded on a pair that is not listed. -/
theorem History.bought_as_sold {past : List Visit} {books : Books}
    (history : History (fun _ call => call.Placing) past books)
    (stored : ∀ visit ∈ past, visit.reply.unstored = false) :
    (∀ pair, books.drawnOn .bid pair = books.drawnOn .ask pair) ∧
      (Pair.listed.map (books.drawnOn .bid)).sum = books.turnover ∧
      ∀ side pair, pair ∉ Pair.listed → books.drawnOn side pair = 0 := by
  have even := history.even stored
  have listed := (history.mono Call.Placing.passive).pairs_listed
  refine ⟨even.pairs, ?_, fun side pair unlisted => ?_⟩
  · rw [← even.turnover]
    exact sumWhere_partition (by decide) listed
  · refine sumWhere_of_none fun order member own => unlisted ?_
    rw [← own.2]
    exact listed order member

/-- A bid fills one ask and is interrupted, a second one fills a part of the other ask, which is then taken back. -/
theorem bought_as_sold_after_interruption :
    let calls := twoAsks ++ [.submit ⟨"bob"⟩ ⟨.bid, ⟨.btc, .usdt⟩, 30, 8, 4, 3⟩, .perform (.deposit 4 60),
      .submit ⟨"bob"⟩ ⟨.bid, ⟨.btc, .usdt⟩, 30, 2, 4, 3⟩, .cancel ⟨"ann"⟩ 2]
    let books := Desk.serve {} calls .empty
    (∀ call ∈ calls, call.Placing) ∧ (∀ visit ∈ Desk.visits {} calls .empty, visit.reply.unstored = false) ∧
      books.orders.map (fun order => (order.initial, order.remaining, order.status)) =
        [(5, 0, .completed), (5, 3, .canceled), (8, 3, .active), (2, 0, .completed)] ∧
      books.drawnOn .bid ⟨.btc, .usdt⟩ = 7 ∧ books.drawnOn .ask ⟨.btc, .usdt⟩ = 7 ∧ books.turnover = 7 ∧
      (Pair.listed.map (books.drawnOn .bid)).sum = books.turnover := by
  intro calls books
  have placing : ∀ call ∈ calls, call.Placing := by
    simp [calls, twoAsks, Call.Placing, Call.Each, Operation.OffMarket]
  have history : History (fun _ call => call.Placing) (Desk.visits {} calls .empty) books := .of_calls placing
  have stored : ∀ visit ∈ Desk.visits {} calls .empty, visit.reply.unstored = false := by decide +kernel
  have even := history.bought_as_sold stored
  have bought : books.drawnOn .bid ⟨.btc, .usdt⟩ = 7 := by decide +kernel
  exact ⟨placing, stored, by decide +kernel, bought, (even.1 _).symm.trans bought, by decide +kernel, even.2.1⟩

end Bourse

import Bourse.Proofs.Serving

namespace Bourse

open Scope

/-- The amount of a ticket limits how much of it is filled, and plays no part in how a fill is made. -/
theorem settleInTurn_with_amount (ticket : Ticket) (amount unfilled : Int) (listed : List Order) (books : Books) :
    settleInTurn { ticket with amount } unfilled listed books = settleInTurn ticket unfilled listed books := by
  have same (resting : Order) (quantity : Int) :
      Scope.fill { ticket with amount } resting quantity = Scope.fill ticket resting quantity := rfl
  fun_induction settleInTurn ticket unfilled listed books with
  | case1 => rfl
  | case2 unfilled resting rest books cause after failed => simp only [settleInTurn, same, failed]
  | case3 resting rest books fill after filled => simp only [settleInTurn, same, filled, if_true]
  | case4 unfilled resting rest books fill after filled unfinished later ih =>
    simp only [settleInTurn, same, filled, if_neg unfinished, ih]
    rfl

/-- A turn that came to a stop has filled each order whole that it got to, and would have gone no further had no
more been open than it had traded by then. -/
structure Turn.StoppedShort (turn : Turn) (ticket : Ticket) (unfilled : Int) (listed : List Order) (books : Books) :
    Prop where
  whole : ∀ fill ∈ turn.fills, fill.resting.remaining = 0 ∧ fill.resting.status = .completed
  positive : ∀ fill ∈ turn.fills, 0 < fill.quantity
  short : turn.fills ≠ [] → turn.traded < unfilled
  untouched : turn.fills = [] → turn.books = books
  again : turn.fills ≠ [] → settleInTurn ticket turn.traded listed books = { turn with stopped := none }

namespace Turn.StoppedShort

variable {turn : Turn} {ticket : Ticket} {unfilled : Int} {listed : List Order} {books : Books}

theorem traded_pos (short : turn.StoppedShort ticket unfilled listed books) (some : turn.fills ≠ []) :
    0 < turn.traded := by
  refine List.sum_pos _ (fun quantity member => ?_) (by simpa using some)
  obtain ⟨fill, made, rfl⟩ := List.mem_map.mp member
  exact short.positive fill made

theorem traded_nonneg (short : turn.StoppedShort ticket unfilled listed books) : 0 ≤ turn.traded := by
  by_cases none : turn.fills = []
  · rw [traded_of_nil none]
  · exact Int.le_of_lt (short.traded_pos none)

/-- One more order before those of a turn that stopped short: with just what is then traded, it is filled as before
and the turn ends where it was stopped. -/
theorem again_cons (short : turn.StoppedShort ticket unfilled listed books) {resting : Order} {fill : Fill}
    {start : Books} (filled : Scope.fill ticket resting resting.remaining start = (.ok fill, books))
    (quantity : fill.quantity = resting.remaining) :
    settleInTurn ticket (fill.quantity + turn.traded) (resting :: listed) start =
      { turn with fills := fill :: turn.fills, stopped := none } := by
  have nonneg := short.traded_nonneg
  have same : min (fill.quantity + turn.traded) resting.remaining = resting.remaining := by omega
  rw [settleInTurn, same, filled]
  by_cases none : turn.fills = []
  · have closed := traded_of_nil none
    simp only [closed, Int.add_zero, if_true, none, short.untouched none]
  · have more := short.traded_pos none
    have unfinished : fill.quantity ≠ fill.quantity + turn.traded := by omega
    have left : fill.quantity + turn.traded - fill.quantity = turn.traded := by omega
    simp only [if_neg unfinished, left, short.again none]

end Turn.StoppedShort

theorem settleInTurn_stoppedShort {ticket : Ticket} {unfilled : Int} {listed : List Order} {books : Books}
    (calm : books.Calm) (stopped : (settleInTurn ticket unfilled listed books).stopped ≠ none) :
    (settleInTurn ticket unfilled listed books).StoppedShort ticket unfilled listed books := by
  fun_induction settleInTurn ticket unfilled listed books with
  | case1 => exact absurd rfl stopped
  | case2 unfilled resting rest books cause after failed =>
    exact ⟨List.forall_mem_nil _, List.forall_mem_nil _, absurd rfl, fun _ => rfl, absurd rfl⟩
  | case3 => exact absurd rfl stopped
  | case4 unfilled resting rest books fill after filled unfinished later ih =>
    -- The turn goes on, so that this order was smaller than what was open and has been filled whole.
    have done := fill_of_ok calm.steady filled
    have quantity := done.quantity_eq
    have all : fill.quantity = resting.remaining ∧ resting.remaining < unfilled := by omega
    have smaller : min unfilled resting.remaining = resting.remaining := by omega
    have positive : 0 < fill.quantity := quantity ▸ done.positive
    have rest_short : later.StoppedShort ticket (unfilled - fill.quantity) rest after :=
      ih ((fill_makes ..).calm calm filled) stopped
    have total : Turn.traded { later with fills := fill :: later.fills } = fill.quantity + later.traded :=
      Turn.traded_cons
    rw [smaller] at done filled
    have whole : fill.resting.remaining = 0 ∧ fill.resting.status = .completed := by
      obtain ⟨row, _, _, same⟩ := done.row
      rw [same, Int.sub_self]
      exact ⟨rfl, rfl⟩
    refine ⟨List.forall_mem_cons.mpr ⟨whole, rest_short.whole⟩,
      List.forall_mem_cons.mpr ⟨positive, rest_short.positive⟩, fun _ => ?_,
      fun none => absurd none (List.cons_ne_nil _ _), fun _ => ?_⟩
    · rw [total]
      by_cases none : later.fills = []
      · rw [Turn.traded_of_nil none]
        omega
      · have short := rest_short.short none
        omega
    · rw [total]
      exact rest_short.again_cons filled all.1

theorem Turn.outcome_eq_error {turn : Turn} {amount : Int} {progress : Progress} {cause : Failure} {after : Books}
    (ended : turn.outcome amount {} = (.error ⟨progress, cause⟩, after)) :
    turn.stopped = some cause ∧ progress = turn.reached {} ∧ after = turn.books := by
  unfold outcome at ended
  split at ended
  next stopped =>
    cases ended
    exact ⟨stopped, rfl, rfl⟩
  next => split at ended <;> cases ended

/-- A turn that has traded just what was open ends as completed. -/
theorem Turn.outcome_of_traded {turn : Turn} (unstopped : turn.stopped = none) (some : turn.fills ≠ []) :
    turn.outcome turn.traded {} = (.ok { turn.reached {} with status := .completed }, turn.books) := by
  have closed : (turn.reached {}).openAmount turn.traded = 0 := by simp [reached, Progress.openAmount]
  unfold outcome
  rw [unstopped]
  exact if_pos ⟨some, closed⟩

/-- A match that is stopped after it has traded something is the whole match of that much: the same fills in the
same books. One that is stopped before has done nothing. -/
theorem Reach.interrupted_as_smaller {books : Books}
    (reach : Reach (fun _ call => call.Each Operation.Fair) .empty books) (ticket : Ticket) {size : Nat}
    (range : 1 ≤ size ∧ size ≤ maxPageSize) {progress : Progress} {cause : Failure} {after : Books}
    (ran : matchTicket ticket size books = (.error ⟨progress, cause⟩, after)) :
    (0 < progress.traded → progress.traded < ticket.amount ∧ progress.status = .active ∧
      (∀ fill ∈ progress.fills, fill.resting.remaining = 0 ∧ fill.resting.status = .completed ∧
        fill.resting ∈ after.orders) ∧
      matchTicket { ticket with amount := progress.traded } size books =
        (.ok { progress with status := .completed }, after)) ∧
      (progress.traded = 0 → after = books) := by
  have calm : books.Calm := reach.calm id
  have served := calm.matchTicket_served ticket size
  rw [ran] at served
  by_cases readable : books.Readable ticket
  case neg =>
    cases (calm.steady.matchTicket_unread readable range).symm.trans ran
    exact ⟨fun positive => absurd positive (Int.lt_irrefl 0), fun _ => rfl⟩
  rw [calm.steady.matchTicket_eq readable range, matchInTurn] at ran
  obtain ⟨stopped, rfl, rfl⟩ := Turn.outcome_eq_error ran
  have short := settleInTurn_stoppedShort calm fun unstopped =>
    absurd (stopped.symm.trans unstopped) (Option.some_ne_none cause)
  generalize turned : settleInTurn ticket ticket.amount (books.crossedBy ticket) books = turn at *
  have total : (turn.reached {}).traded = turn.traded := Int.zero_add _
  refine ⟨fun positive => ?_, fun none => ?_⟩
  · have some : turn.fills ≠ [] := fun none => by rw [total, Turn.traded_of_nil none] at positive; omega
    refine ⟨total ▸ short.short some, rfl, fun fill made => ?_, ?_⟩
    · obtain ⟨left, closed⟩ := short.whole fill made
      have inactive : fill.resting.status ≠ .active := by simp only [closed, ne_eq, reduceCtorEq, not_false_eq_true]
      exact ⟨left, closed, served.resting_mem calm made inactive⟩
    · have smaller : matchTicket { ticket with amount := turn.traded } size books =
          (.ok { turn.reached {} with status := .completed }, turn.books) := by
        have again : settleInTurn ticket turn.traded (books.crossedBy { ticket with amount := turn.traded }) books =
            { turn with stopped := none } := short.again some
        have readableToo : books.Readable { ticket with amount := turn.traded } := readable
        rw [calm.steady.matchTicket_eq readableToo range, matchInTurn, settleInTurn_with_amount, again]
        exact @Turn.outcome_of_traded { turn with stopped := none } rfl some
      rwa [← total] at smaller
  · refine short.untouched ?_
    by_contra some
    have positive := short.traded_pos some
    omega

/-- The second fill of the bid fails for lack of funds: what is left is the match of a bid for five. -/
theorem interrupted_as_smaller_after_one_fill :
    let books := Desk.serve {} twoAsks .empty
    let ticket : Ticket := ⟨.bid, ⟨.btc, .usdt⟩, 30, 8, 4, 3⟩
    let fill : Fill := ⟨⟨1, .ask, ⟨.btc, .usdt⟩, 1, 2, 20, 5, 0, .completed⟩, ⟨1, ⟨1, 3, 5⟩, ⟨4, 2, 100⟩⟩, 5, 20⟩
    let after := (matchTicket ticket 10 books).2
    (∀ call ∈ twoAsks, call.Each Operation.Fair) ∧ (1 ≤ 10 ∧ 10 ≤ maxPageSize) ∧
      matchTicket ticket 10 books = (.error ⟨⟨.active, 5, [fill]⟩, .insufficientFunds 4 0 90⟩, after) ∧ 0 < (5 : Int) ∧
      matchTicket { ticket with amount := 5 } 10 books = (.ok ⟨.completed, 5, [fill]⟩, after) := by
  intro books ticket fill after
  have fair : ∀ call ∈ twoAsks, call.Each Operation.Fair := by
    simp [twoAsks, Call.Each, Operation.Fair]
  have reached : Reach (fun _ call => call.Each Operation.Fair) .empty books := Reach.serve .start fair
  have range : 1 ≤ 10 ∧ 10 ≤ maxPageSize := by decide
  have stopped : matchTicket ticket 10 books =
      (.error ⟨⟨.active, 5, [fill]⟩, .insufficientFunds 4 0 90⟩, after) := by decide +kernel
  have positive : 0 < (5 : Int) := by decide
  have smaller := (reached.interrupted_as_smaller ticket range stopped).1 positive
  exact ⟨fair, range, stopped, positive, smaller.2.2.2⟩

end Bourse

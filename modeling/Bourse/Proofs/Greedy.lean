import Bourse.Proofs.Fills

namespace Bourse

open Scope

/-- The active orders that an incoming order crosses, oldest first. -/
def Books.crossedBy (books : Books) (ticket : Ticket) : List Order :=
  books.orders.filter fun order => order.status = .active ∧ order.side = ticket.side.opposite ∧
    order.pair = ticket.pair ∧ ticket.side.Crosses ticket.price order.price

/-- The fills of orders that were settled in turn, what stopped them if not all went well, and the books. -/
structure Turn where
  fills : List Fill
  stopped : Option Failure
  books : Books

/-- Settles orders one after the other, each as far as something is open, until a fill leaves nothing open or
one fails. -/
def settleInTurn (ticket : Ticket) : Int → List Order → Books → Turn
  | _, [], books => ⟨[], none, books⟩
  | unfilled, resting :: rest, books =>
    match Scope.fill ticket resting (min unfilled resting.remaining) books with
    | (.error cause, _) => ⟨[], some cause, books⟩
    | (.ok fill, after) =>
      if fill.quantity = unfilled then ⟨[fill], none, after⟩
      else
        let later := settleInTurn ticket (unfilled - fill.quantity) rest after
        { later with fills := fill :: later.fills }

namespace Turn

def traded (turn : Turn) : Int := (turn.fills.map (·.quantity)).sum

/-- What is reached in a turn after earlier progress. -/
def reached (turn : Turn) (earlier : Progress) : Progress :=
  { earlier with traded := earlier.traded + turn.traded, fills := earlier.fills ++ turn.fills }

def outcome (turn : Turn) (amount : Int) (earlier : Progress) : Except Interruption Progress × Books :=
  match turn.stopped with
  | some cause => (.error ⟨turn.reached earlier, cause⟩, turn.books)
  | none =>
    if turn.fills ≠ [] ∧ (turn.reached earlier).openAmount amount = 0 then
      (.ok { turn.reached earlier with status := .completed }, turn.books)
    else (.ok (turn.reached earlier), turn.books)

end Turn

/-- Matching without pages: the crossed orders are listed once and settled in turn. -/
def matchInTurn (ticket : Ticket) (books : Books) : Except Interruption Progress × Books :=
  (settleInTurn ticket ticket.amount (books.crossedBy ticket) books).outcome ticket.amount {}

theorem Side.offersWithin_opposite {side : Side} {limit price : Int} :
    side.opposite.OffersWithin limit price ↔ side.Crosses limit price := by
  cases side <;> exact Iff.rfl

namespace Turn

variable {turn : Turn} {earlier : Progress}

theorem traded_of_nil (none : turn.fills = []) : turn.traded = 0 := by
  rw [traded, none, List.map_nil, List.sum_nil]

theorem traded_singleton {fill : Fill} {stopped : Option Failure} {books : Books} :
    traded ⟨[fill], stopped, books⟩ = fill.quantity := List.sum_singleton

theorem traded_cons {fill : Fill} :
    traded { turn with fills := fill :: turn.fills } = fill.quantity + turn.traded := List.sum_cons

theorem reached_of_nil (none : turn.fills = []) : turn.reached earlier = earlier := by
  unfold reached
  rw [traded_of_nil none, none, List.append_nil, Int.add_zero]

theorem reached_cons {fill : Fill} :
    reached { turn with fills := fill :: turn.fills } earlier = turn.reached (earlier.add fill) := by
  simp [reached, traded, Progress.add, Int.add_assoc]

/-- The first fill of a turn may as well count as made before. -/
theorem outcome_cons {fill : Fill} {amount : Int} (open_ : (earlier.add fill).openAmount amount ≠ 0) :
    outcome { turn with fills := fill :: turn.fills } amount earlier = turn.outcome amount (earlier.add fill) := by
  unfold outcome
  rw [reached_cons]
  cases stopped : turn.stopped with
  | some cause => rfl
  | none =>
    by_cases none : turn.fills = []
    · have same : turn.reached (earlier.add fill) = earlier.add fill := reached_of_nil none
      simp [none, same, open_]
    · simp [none]

end Turn

/-- One page that is tried in matching is one turn. -/
theorem fillPage_eq_turn {ticket : Ticket} {page : List Order} {progress : Progress} {books : Books} :
    fillPage ticket page progress books =
      (settleInTurn ticket (progress.openAmount ticket.amount) page books).outcome ticket.amount progress := by
  fun_induction fillPage ticket page progress books with
  | case1 progress books => simp [settleInTurn, Turn.outcome, Turn.reached, Turn.traded]
  | case2 resting rest progress books cause after failed =>
    obtain rfl := fill_of_error failed
    simp [settleInTurn, failed, Turn.outcome, Turn.reached, Turn.traded]
  | case3 resting rest progress books fill after ran closed =>
    have left := progress.openAmount_add fill ticket.amount
    have quantity : fill.quantity = progress.openAmount ticket.amount := by omega
    simp only [settleInTurn, ran, if_pos quantity]
    unfold Progress.add at closed
    simp [Turn.outcome, Turn.reached, Turn.traded, Progress.add, closed]
  | case4 resting rest progress books fill after ran open_ ih =>
    have left := progress.openAmount_add fill ticket.amount
    have quantity : fill.quantity ≠ progress.openAmount ticket.amount := by omega
    simp only [settleInTurn, ran, if_neg quantity]
    rw [Turn.outcome_cons open_, ih, left]

theorem fillPage_append {ticket : Ticket} {page rest : List Order} {progress : Progress} {books : Books}
    (unfinished : progress.status ≠ .completed) :
    fillPage ticket (page ++ rest) progress books =
      match fillPage ticket page progress books with
      | (.error interruption, after) => (.error interruption, after)
      | (.ok reached, after) =>
        if reached.status = .completed then (.ok reached, after) else fillPage ticket rest reached after := by
  fun_induction fillPage ticket page progress books with
  | case1 progress books =>
    rw [List.nil_append]
    exact (if_neg unfinished).symm
  | case2 resting page progress books cause after failed => rw [List.cons_append, fillPage, failed]
  | case3 resting page progress books fill after ran closed =>
    rw [List.cons_append, fillPage, ran]
    exact if_pos closed
  | case4 resting page progress books fill after ran open_ ih =>
    rw [List.cons_append, fillPage, ran]
    exact (if_neg open_).trans (ih unfinished)

theorem Books.setOrder_ordersBeyond (books : Books) {id bound : OrderId} (within : id ≤ bound) (remaining : Int)
    (status : Status) :
    (books.setOrder id remaining status).ordersBeyond (some bound) = books.ordersBeyond (some bound) := by
  unfold ordersBeyond setOrder
  induction books.orders with
  | nil => rfl
  | cons order rest ih =>
    rw [List.map_cons, List.filter_cons, List.filter_cons, ih]
    by_cases same : order.id = id
    · simp [same, Int.not_lt.mpr within]
    · rw [if_neg same]

/-- A fill leaves alone the orders beyond the one it is made against. -/
theorem FillDone.ordersBeyond {ticket : Ticket} {resting : Order} {quantity : Int} {books after : Books}
    {fill : Fill} (done : FillDone ticket resting quantity books fill after) {bound : OrderId}
    (within : resting.id ≤ bound) :
    after.ordersBeyond (some bound) = books.ordersBeyond (some bound) := by
  have apart := books.setOrder_ordersBeyond within (resting.remaining - quantity)
    (.ofOpen (resting.remaining - quantity))
  unfold Books.ordersBeyond at apart ⊢
  rw [done.orders, apart]

theorem fillPage_ordersBeyond {ticket : Ticket} {page : List Order} {progress reached : Progress}
    {books after : Books} {bound : OrderId} (steady : books.Steady) (within : ∀ resting ∈ page, resting.id ≤ bound)
    (ran : fillPage ticket page progress books = (.ok reached, after)) :
    after.Steady ∧ after.ordersBeyond (some bound) = books.ordersBeyond (some bound) := by
  fun_induction fillPage ticket page progress books with
  | case1 progress books =>
    cases ran
    exact ⟨steady, rfl⟩
  | case2 => cases ran
  | case3 resting rest progress books fill after filled closed =>
    cases ran
    have done := fill_of_ok steady filled
    exact ⟨(fill_makes ..).steady steady filled, done.ordersBeyond (within resting List.mem_cons_self)⟩
  | case4 resting rest progress books fill middle filled open_ ih =>
    have done := fill_of_ok steady filled
    have same := done.ordersBeyond (within resting List.mem_cons_self)
    obtain ⟨steady, later⟩ := ih ((fill_makes ..).steady steady filled)
      (fun other member => within other (List.mem_cons_of_mem _ member)) ran
    exact ⟨steady, later.trans same⟩

theorem id_le_of_ascending {first : Order} {rows : List Order}
    (ascending : (first :: rows).Pairwise (·.id < ·.id)) :
    ∀ order ∈ first :: rows, order.id ≤ (rows.getLastD first).id := by
  induction rows generalizing first with
  | nil =>
    intro order member
    rw [List.mem_singleton.mp member]
    exact Int.le_refl _
  | cons second rows ih =>
    obtain ⟨before, rest⟩ := List.pairwise_cons.mp ascending
    have later := ih rest
    intro order member
    rw [List.getLastD_cons]
    rcases List.mem_cons.mp member with rfl | member
    · exact Int.le_trans (Int.le_of_lt (before second List.mem_cons_self)) (later second List.mem_cons_self)
    · exact later order member

/-- What lies beyond an id is found among what lies beyond an earlier one. -/
theorem filter_beyond_of_lt (rows : List Order) {earlier id : OrderId} (later : earlier < id) :
    rows.filter (fun order => id < order.id) =
      (rows.filter fun order => earlier < order.id).filter fun order => id < order.id := by
  rw [List.filter_filter]
  refine List.filter_congr fun order _ => ?_
  have wider : id < order.id → earlier < order.id := Int.lt_trans later
  simpa using wider

/-- Of rows in ascending order, those that lie beyond the last row of a page are the ones that come after the page. -/
theorem filter_beyond_last {first : Order} {rows rest : List Order}
    (ascending : (first :: rows ++ rest).Pairwise (·.id < ·.id)) :
    (first :: rows ++ rest).filter (fun order => (rows.getLastD first).id < order.id) = rest := by
  obtain ⟨page, _, across⟩ := List.pairwise_append.mp ascending
  have behind : (first :: rows).filter (fun order => (rows.getLastD first).id < order.id) = [] := by
    refine List.filter_eq_nil_iff.mpr fun order member => ?_
    have before := id_le_of_ascending page order member
    simpa using before
  have kept : rest.filter (fun order => (rows.getLastD first).id < order.id) = rest := by
    refine List.filter_eq_self.mpr fun order member => ?_
    simpa using across _ List.getLastD_mem_cons order member
  rw [List.filter_append, behind, kept, List.nil_append]

namespace Books

/-- What matching still has before it when it has got to a cursor. -/
def ahead (books : Books) (ticket : Ticket) (cursor : Option OrderId) : List Order :=
  (books.ordersBeyond cursor).filter fun order =>
    order.Tradable ticket.pair ticket.price ticket.side.opposite

theorem WellFormed.ahead_ascending {books : Books} (formed : books.WellFormed) (ticket : Ticket)
    (cursor : Option OrderId) : (books.ahead ticket cursor).Pairwise (·.id < ·.id) := by
  have all : books.orders.Pairwise (·.id < ·.id) := List.pairwise_map.mp formed.orderIds.ids_ascending
  exact all.sublist (List.filter_sublist.trans List.filter_sublist)

theorem ahead_of_beyond (books : Books) {ticket : Ticket} {cursor : Option OrderId} {id : OrderId}
    (beyond : cursor.getD 0 < id) :
    books.ahead ticket (some id) = (books.ahead ticket cursor).filter fun order => id < order.id := by
  have narrowed : books.ordersBeyond (some id) = (books.ordersBeyond cursor).filter fun order => id < order.id :=
    filter_beyond_of_lt books.orders beyond
  unfold ahead
  rw [narrowed, List.filter_filter, List.filter_filter]
  exact List.filter_congr fun order _ => Bool.and_comm _ _

/-- Behind a page lies what was ahead of it without the page. -/
theorem WellFormed.ahead_split {books : Books} (formed : books.WellFormed) {ticket : Ticket}
    {cursor : Option OrderId} {first : Order} {rows rest : List Order}
    (split : books.ahead ticket cursor = (first :: rows) ++ rest) :
    books.ahead ticket (some (rows.getLastD first).id) = rest := by
  have last : rows.getLastD first ∈ books.ahead ticket cursor := by
    rw [split]
    exact List.mem_append_left _ List.getLastD_mem_cons
  have beyond : cursor.getD 0 < (rows.getLastD first).id := by
    simpa using (List.mem_filter.mp (List.mem_filter.mp last).1).2
  rw [books.ahead_of_beyond beyond, split]
  exact filter_beyond_last (split ▸ formed.ahead_ascending ticket cursor)

end Books

theorem sweep_eq_fillPage {ticket : Ticket} {size : Nat} {cursor : Option OrderId} {progress : Progress}
    {books : Books} (range : 1 ≤ size ∧ size ≤ maxPageSize) (readable : ticket.pair ∈ Pair.listed)
    (steady : books.Steady) (unfinished : progress.status ≠ .completed) :
    sweep ticket size cursor progress books = fillPage ticket (books.ahead ticket cursor) progress books := by
  have splitting {cursor books page} (listed : Books.tradableBeyond books ticket.pair ticket.price
      ticket.side.opposite cursor size = .ok page) : ∃ later, books.ahead ticket cursor = page ++ later := by
    obtain ⟨_, rfl⟩ := Books.tradableBeyond_ok listed
    exact ⟨_, (List.take_append_drop size _).symm⟩
  fun_induction sweep ticket size cursor progress books with
  | case1 cursor progress books cause listed =>
    rcases Books.tradableBeyond_error listed with refused | ⟨⟨_, unlisted⟩, _⟩
    · rw [checkPageSize_eq_ok.mpr range] at refused
      cases refused
    · exact absurd readable unlisted
  | case2 cursor progress books listed =>
    have page := (Books.tradableBeyond_ok listed).2
    rcases List.take_eq_nil_iff.mp page.symm with zero | none
    · omega
    · rw [Books.ahead, none, fillPage]
  | case3 cursor progress books first rest listed interruption after ran =>
    obtain ⟨later, split⟩ := splitting listed
    rw [split, fillPage_append unfinished, ran]
  | case4 cursor progress books first rest listed reached after ran completed =>
    obtain ⟨later, split⟩ := splitting listed
    rw [split, fillPage_append unfinished, ran]
    exact (if_pos completed).symm
  | case5 cursor progress books first rest listed reached after ran goesOn ih =>
    obtain ⟨later, split⟩ := splitting listed
    have ascending := split ▸ steady.formed.ahead_ascending ticket cursor
    have page := (List.pairwise_append.mp ascending).1
    obtain ⟨steadyAfter, same⟩ := fillPage_ordersBeyond steady (id_le_of_ascending page) ran
    have next : after.ahead ticket (some (rest.getLastD first).id) = later := by
      rw [← steady.formed.ahead_split split]
      unfold Books.ahead
      rw [same]
    rw [ih steadyAfter goesOn, next, split, fillPage_append unfinished, ran]
    exact (if_neg goesOn).symm

theorem Books.WellFormed.ahead_none {books : Books} (formed : books.WellFormed) (ticket : Ticket) :
    books.ahead ticket none = books.crossedBy ticket := by
  unfold Books.ahead Books.ordersBeyond Books.crossedBy
  rw [List.filter_filter]
  refine List.filter_congr fun order member => ?_
  have proper : 0 < order.id := (formed.orderIds.range member).1
  have same : order.Tradable ticket.pair ticket.price ticket.side.opposite ↔ order.status = .active ∧
      order.side = ticket.side.opposite ∧ order.pair = ticket.pair ∧
      ticket.side.Crosses ticket.price order.price := by
    unfold Order.Tradable
    rw [Side.offersWithin_opposite]
    tauto
  simp only [Option.getD_none, proper, decide_true, Bool.and_true, same]

/-- The orders that an incoming order crosses can be read: they stand on a listed pair, or there are none. -/
def Books.Readable (books : Books) (ticket : Ticket) : Prop :=
  ticket.pair ∈ Pair.listed ∨ books.crossedBy ticket = []

theorem Books.Readable.of_crossedBy {books other : Books} {ticket : Ticket} (readable : books.Readable ticket)
    (same : other.crossedBy ticket = books.crossedBy ticket) : other.Readable ticket :=
  readable.imp_right same.trans

theorem matchInTurn_of_none {ticket : Ticket} {books : Books} (none : books.crossedBy ticket = []) :
    matchInTurn ticket books = (.ok {}, books) := by
  unfold matchInTurn
  rw [none]
  rfl

namespace Books

variable {books : Books} {ticket : Ticket} {size : Nat}

/-- On a pair that is not listed there is nothing to match, or it cannot be read. -/
theorem WellFormed.matchTicket_unlisted (formed : books.WellFormed) (range : 1 ≤ size ∧ size ≤ maxPageSize)
    (unlisted : ticket.pair ∉ Pair.listed) :
    (books.crossedBy ticket = [] ∧ matchTicket ticket size books = (.ok {}, books)) ∨
      (books.crossedBy ticket ≠ [] ∧
        matchTicket ticket size books = (.error ⟨{}, .unreadable ticket.pair⟩, books)) := by
  have unread {first : Order} {rest : List Order} (page : books.tradableBeyond ticket.pair ticket.price
      ticket.side.opposite none size = .ok (first :: rest)) : False :=
    (listed_of_tradableBeyond page).elim (List.cons_ne_nil _ _) unlisted
  unfold matchTicket
  rw [← formed.ahead_none]
  fun_cases sweep ticket size none {} books with
  | case1 cause refused =>
    rcases tradableBeyond_error refused with wrong | ⟨⟨rfl, _⟩, order, standing, tradable⟩
    · rw [checkPageSize_eq_ok.mpr range] at wrong
      cases wrong
    · exact .inr ⟨List.ne_nil_of_mem (List.mem_filter.mpr ⟨standing, decide_eq_true tradable⟩), rfl⟩
  | case2 page =>
    have none := List.take_eq_nil_iff.mp (tradableBeyond_ok page).2.symm
    exact .inl ⟨none.resolve_left (Nat.ne_of_gt range.1), rfl⟩
  | case3 first rest page => exact (unread page).elim
  | case4 first rest page => exact (unread page).elim
  | case5 first rest page => exact (unread page).elim

/-- Pages make no difference to matching. -/
theorem Steady.matchTicket_eq (steady : books.Steady) (readable : books.Readable ticket)
    (range : 1 ≤ size ∧ size ≤ maxPageSize) : matchTicket ticket size books = matchInTurn ticket books := by
  by_cases listed : ticket.pair ∈ Pair.listed
  · have whole : Progress.openAmount {} ticket.amount = ticket.amount := Int.sub_zero _
    rw [matchTicket, sweep_eq_fillPage range listed steady (by decide), steady.formed.ahead_none, fillPage_eq_turn,
      whole]
    rfl
  · have none := readable.resolve_left listed
    rcases steady.formed.matchTicket_unlisted range listed with ⟨_, same⟩ | ⟨some, _⟩
    · rw [same, matchInTurn_of_none none]
    · exact absurd none some

/-- Orders that cannot be read stop matching before it has begun. -/
theorem Steady.matchTicket_unread (steady : books.Steady) (unread : ¬books.Readable ticket)
    (range : 1 ≤ size ∧ size ≤ maxPageSize) :
    matchTicket ticket size books = (.error ⟨{}, .unreadable ticket.pair⟩, books) := by
  obtain ⟨unlisted, some⟩ := not_or.mp unread
  rcases steady.formed.matchTicket_unlisted range unlisted with ⟨none, _⟩ | ⟨_, same⟩
  · exact absurd none some
  · exact same

end Books

/-- A turn goes through the listed orders without leaving one out, and stops early only for a failure or when
nothing is open any more. -/
structure Turn.Orderly (turn : Turn) (unfilled : Int) (listed : List Order) : Prop where
  visited : turn.fills.map (·.resting.id) <+: listed.map (·.id)
  ended : turn.stopped = none →
    turn.fills.map (·.resting.id) = listed.map (·.id) ∨ (turn.fills ≠ [] ∧ turn.traded = unfilled)
  total : turn.stopped = none → 0 < unfilled → turn.traded = min unfilled (listed.map (·.remaining)).sum

theorem sum_remaining_nonneg {listed : List Order} (open_ : ∀ order ∈ listed, 0 ≤ order.remaining) :
    0 ≤ (listed.map (·.remaining)).sum := by
  refine List.sum_nonneg fun remaining member => ?_
  obtain ⟨order, present, rfl⟩ := List.mem_map.mp member
  exact open_ order present

theorem settleInTurn_orderly {ticket : Ticket} {unfilled : Int} {listed : List Order} {books : Books}
    (calm : books.Calm) (open_ : ∀ order ∈ listed, 0 ≤ order.remaining) :
    (settleInTurn ticket unfilled listed books).Orderly unfilled listed := by
  fun_induction settleInTurn ticket unfilled listed books with
  | case1 unfilled books =>
    refine ⟨List.prefix_rfl, fun _ => .inl rfl, fun _ positive => ?_⟩
    have least : min unfilled 0 = 0 := Int.min_eq_right (Int.le_of_lt positive)
    exact least.symm
  | case2 unfilled resting rest books cause after failed => exact ⟨List.nil_prefix, nofun, nofun⟩
  | case3 resting rest books fill after filled =>
    have done := fill_of_ok calm.steady filled
    have nonneg := sum_remaining_nonneg fun order member => open_ order (List.mem_cons_of_mem _ member)
    refine ⟨?_, fun _ => .inr ⟨List.cons_ne_nil _ _, Turn.traded_singleton⟩, fun _ _ => ?_⟩
    · rw [List.map_singleton, List.map_cons, done.resting_id]
      exact List.cons_prefix_cons.mpr ⟨rfl, List.nil_prefix⟩
    · have quantity := done.quantity_eq
      rw [Turn.traded_singleton, List.map_cons, List.sum_cons]
      omega
  | case4 unfilled resting rest books fill after filled unfinished later ih =>
    have done := fill_of_ok calm.steady filled
    have quantity := done.quantity_eq
    have orderly : later.Orderly (unfilled - fill.quantity) rest :=
      ih ((fill_makes ..).calm calm filled) fun order member => open_ order (List.mem_cons_of_mem _ member)
    have all : Turn.traded { later with fills := fill :: later.fills } = fill.quantity + later.traded :=
      Turn.traded_cons
    refine ⟨?_, fun ended => ?_, fun ended positive => ?_⟩
    · rw [List.map_cons, List.map_cons, done.resting_id]
      exact List.cons_prefix_cons.mpr ⟨rfl, orderly.visited⟩
    · rcases orderly.ended ended with same | ⟨some, closed⟩
      · left
        rw [List.map_cons, List.map_cons, done.resting_id, same]
      · right
        exact ⟨List.cons_ne_nil _ _, by omega⟩
    · have rest := orderly.total ended (by omega)
      rw [all, List.map_cons, List.sum_cons]
      omega

/-- What was reached when matching ended, with or without a failure. -/
def progressIn : Except Interruption Progress → Progress
  | .ok progress => progress
  | .error interruption => interruption.progress

theorem progressIn_of_reached {outcome : Except Interruption Progress} {progress : Progress}
    (reached : outcome = .ok progress ∨ ∃ cause, outcome = .error ⟨progress, cause⟩) :
    progressIn outcome = progress := by
  rcases reached with rfl | ⟨_, rfl⟩
  · rfl
  · rfl

theorem Turn.progressIn_outcome {turn : Turn} {amount : Int} :
    (progressIn (turn.outcome amount {}).1).fills = turn.fills := by
  unfold outcome
  repeat' split
  all_goals rfl

theorem Turn.outcome_eq_ok {turn : Turn} {amount : Int} {progress : Progress}
    (ended : (turn.outcome amount {}).1 = .ok progress) :
    turn.stopped = none ∧ progress.fills = turn.fills ∧ progress.traded = turn.traded ∧
      (progress.status = .completed ↔ turn.fills ≠ [] ∧ turn.traded = amount) := by
  have reached : turn.reached {} = ⟨.active, turn.traded, turn.fills⟩ := by
    simp [Turn.reached]
  unfold outcome at ended
  rw [reached] at ended
  cases stopped : turn.stopped with
  | some cause => simp [stopped] at ended
  | none =>
    simp only [stopped] at ended
    by_cases closed : turn.fills ≠ [] ∧ Progress.openAmount ⟨.active, turn.traded, turn.fills⟩ amount = 0
    · rw [if_pos closed] at ended
      cases ended
      exact ⟨rfl, rfl, rfl, fun _ => ⟨closed.1, (Int.sub_eq_zero.mp closed.2).symm⟩, fun _ => rfl⟩
    · rw [if_neg closed] at ended
      cases ended
      exact ⟨rfl, rfl, rfl, nofun, fun all => absurd ⟨all.1, Int.sub_eq_zero.mpr all.2.symm⟩ closed⟩

/-- In any books that calls without a competing writer lead to, matching page by page is settling the orders that are
crossed at the start one after the other, oldest first. Only where there are such orders on a pair that is not listed,
which a scope may keep that goes on after a failure, matching stops at the first page and leaves the books alone. -/
theorem Reach.matching_in_turn {books : Books}
    (reach : Reach (fun _ call => call.Each Operation.Fair) .empty books) (ticket : Ticket) {size : Nat}
    (range : 1 ≤ size ∧ size ≤ maxPageSize) :
    (books.Readable ticket → matchTicket ticket size books = matchInTurn ticket books) ∧
      (¬books.Readable ticket →
        matchTicket ticket size books = (.error ⟨{}, .unreadable ticket.pair⟩, books)) ∧
      (∀ other, 1 ≤ other ∧ other ≤ maxPageSize → matchTicket ticket other books = matchTicket ticket size books) ∧
      (books.crossedBy ticket).Pairwise (·.id < ·.id) ∧
      (progressIn (matchTicket ticket size books).1).fills.map (·.resting.id) <+:
        (books.crossedBy ticket).map (·.id) ∧
      ∀ progress, (matchTicket ticket size books).1 = .ok progress →
        (progress.status ≠ .completed → progress.fills.map (·.resting.id) = (books.crossedBy ticket).map (·.id)) ∧
          (0 < ticket.amount →
            progress.traded = min ticket.amount ((books.crossedBy ticket).map (·.remaining)).sum) := by
  have calm : books.Calm := reach.calm id
  have ascending : (books.crossedBy ticket).Pairwise (·.id < ·.id) := by
    rw [← calm.formed.ahead_none]
    exact calm.formed.ahead_ascending ticket none
  by_cases readable : books.Readable ticket
  · have paged := calm.steady.matchTicket_eq readable range
    have open_ : ∀ order ∈ books.crossedBy ticket, 0 ≤ order.remaining := fun order member =>
      (calm.orders order (List.mem_filter.mp member).1).remaining.1
    have orderly : (settleInTurn ticket ticket.amount (books.crossedBy ticket) books).Orderly ticket.amount
        (books.crossedBy ticket) := settleInTurn_orderly calm open_
    refine ⟨fun _ => paged, fun unread => absurd readable unread,
      fun other proper => (calm.steady.matchTicket_eq readable proper).trans paged.symm, ascending, ?_, ?_⟩
    · rw [paged, matchInTurn, Turn.progressIn_outcome]
      exact orderly.visited
    · intro progress ended
      rw [paged] at ended
      obtain ⟨unstopped, fills, traded, completed⟩ := Turn.outcome_eq_ok ended
      refine ⟨fun unfinished => ?_, fun positive => ?_⟩
      · rw [fills]
        rcases orderly.ended unstopped with all | closed
        · exact all
        · exact absurd (completed.mpr closed) unfinished
      · rw [traded]
        exact orderly.total unstopped positive
  · have unread := calm.steady.matchTicket_unread readable range
    refine ⟨fun read => absurd read readable, fun _ => unread,
      fun other proper => (calm.steady.matchTicket_unread readable proper).trans unread.symm, ascending, ?_, ?_⟩
    · rw [unread]
      exact List.nil_prefix
    · intro progress ended
      rw [unread] at ended
      cases ended

/-- With one order to a page, the bid is matched over two pages and takes part of the second ask. -/
theorem matching_in_turn_over_two_pages :
    let calls := twoAsks ++ [.perform (.deposit 4 100)]
    let ticket : Ticket := ⟨.bid, ⟨.btc, .usdt⟩, 30, 7, 4, 3⟩
    let books := Desk.serve {} calls .empty
    (∀ call ∈ calls, call.Each Operation.Fair) ∧ (1 ≤ 1 ∧ 1 ≤ maxPageSize) ∧
      matchTicket ticket 1 books = matchInTurn ticket books ∧
      (books.crossedBy ticket).map (·.remaining) = [5, 5] ∧
      (progressIn (matchTicket ticket 1 books).1).fills.map (·.quantity) = [5, 2] := by
  intro calls ticket books
  have fair : ∀ call ∈ calls, call.Each Operation.Fair := by
    simp [calls, twoAsks, Call.Each, Operation.Fair]
  have reached : Reach (fun _ call => call.Each Operation.Fair) .empty (Desk.serve {} calls .empty) :=
    Reach.serve .start fair
  have range : 1 ≤ 1 ∧ 1 ≤ maxPageSize := by decide
  have paged := (reached.matching_in_turn ticket range).1 (.inl (by decide))
  exact ⟨fair, range, paged, by decide +kernel, by decide +kernel⟩

/-- An ask on a reversed pair is kept although it was answered with a failure. A bid that crosses it stops as the ask
cannot be read, where settling it in turn would have stopped for lack of funds. -/
theorem matching_stops_on_unlisted_pair :
    let calls : List Call := [.perform (.openAccount "ann" .usdt), .perform (.openAccount "ann" .btc),
      .perform (.openAccount "bob" .usdt), .perform (.openAccount "bob" .btc),
      .batch [.addOrder ⟨.ask, ⟨.usdt, .btc⟩, 2, 5, 1, 2⟩] true none]
    let ticket : Ticket := ⟨.bid, ⟨.usdt, .btc⟩, 2, 5, 4, 3⟩
    let books := Desk.serve {} calls .empty
    Reach (fun _ call => call.Each Operation.Fair) .empty books ∧
      (books.crossedBy ticket).map (·.id) = [1] ∧
      matchTicket ticket 10 books = (.error ⟨{}, .storage (.columnText 2 (.pair "USDT/BTC"))⟩, books) ∧
      matchInTurn ticket books = (.error ⟨{}, .insufficientFunds 1 0 5⟩, books) ∧
      matchTicket ticket 10 books ≠ matchInTurn ticket books := by
  intro calls ticket books
  have fair : ∀ call ∈ calls, call.Each Operation.Fair := by
    simp [calls, Call.Each, Operation.Fair]
  have paged : matchTicket ticket 10 books = (.error ⟨{}, .storage (.columnText 2 (.pair "USDT/BTC"))⟩, books) := by
    decide +kernel
  have inTurn : matchInTurn ticket books = (.error ⟨{}, .insufficientFunds 1 0 5⟩, books) := by decide +kernel
  refine ⟨.serve .start fair, by decide +kernel, paged, inTurn, ?_⟩
  rw [paged, inTurn]
  decide

end Bourse

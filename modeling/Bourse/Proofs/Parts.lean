import Bourse.Proofs.Turns

namespace Bourse

open Scope

/-- A leg as two smaller ones between the same accounts. -/
structure Leg.Parts (whole first second : Leg) : Prop where
  payer : first.payer = whole.payer ∧ second.payer = whole.payer
  payee : first.payee = whole.payee ∧ second.payee = whole.payee
  positive : 0 < first.amount ∧ 0 < second.amount
  amount : whole.amount = first.amount + second.amount

/-- A swap as two smaller ones, of which each leg is a part. -/
structure Swap.Parts (whole first second : Swap) : Prop where
  base : whole.base.Parts first.base second.base
  quote : whole.quote.Parts first.quote second.quote

/-- No account is named by both legs. -/
def Swap.Apart (legs : Swap) : Prop := ∀ id, legs.base.Names id → ¬legs.quote.Names id

namespace Leg.Parts

variable {whole first second : Leg} {books : Books}

theorem names_first (parts : whole.Parts first second) {id : AccountId} : first.Names id ↔ whole.Names id := by
  unfold Names
  rw [parts.payer.1, parts.payee.1]

theorem names_second (parts : whole.Parts first second) {id : AccountId} : second.Names id ↔ whole.Names id := by
  unfold Names
  rw [parts.payer.2, parts.payee.2]

/-- Both parts together change an account as the whole does. -/
theorem applied (parts : whole.Parts first second) (account : Account) :
    second.applied (first.applied account) = whole.applied account := by
  unfold Leg.applied outOf into
  rw [parts.payer.1, parts.payer.2, parts.payee.1, parts.payee.2, parts.amount]
  simp only [Account.mk.injEq, and_true, true_and]
  repeat' split
  all_goals omega

/-- Where the whole can be moved, the first part can, and then the second. -/
theorem payable (parts : whole.Parts first second) (payable : whole.Payable books) :
    first.Payable books ∧ second.Payable (books.moved first) := by
  obtain ⟨_, paying, receiving, joins, same, covered, room⟩ := payable
  have amount := parts.amount
  have positive := parts.positive
  have joinsFirst : first.Joins books paying receiving :=
    ⟨parts.payer.1 ▸ joins.payer, parts.payee.1 ▸ joins.payee⟩
  have joinsSecond : second.Joins (books.moved first) (first.applied paying) (first.applied receiving) := by
    constructor
    · rw [Books.moved_account?, parts.payer.2, joins.payer, Option.map_some]
    · rw [Books.moved_account?, parts.payee.2, joins.payee, Option.map_some]
  have payerId := Books.account?_id joins.payer
  have payeeId := Books.account?_id joins.payee
  have charged : (first.applied paying).balance =
      paying.balance - first.amount + if first.payee = first.payer then first.amount else 0 := by
    simp [Leg.applied, outOf, into, parts.payer.1, payerId]
  have credited : (first.applied receiving).balance =
      receiving.balance - (if first.payer = first.payee then first.amount else 0) + first.amount := by
    simp [Leg.applied, outOf, into, parts.payee.1, payeeId]
  rw [parts.payer.1, parts.payee.1] at charged credited
  refine ⟨⟨positive.1, paying, receiving, joinsFirst, same, by omega, ?_⟩,
    ⟨positive.2, _, _, joinsSecond, same, ?_, ?_⟩⟩
  · rw [parts.payer.1, parts.payee.1]
    exact room.imp_right fun fits => by omega
  · rw [charged]
    split <;> omega
  · rw [parts.payer.2, parts.payee.2, credited]
    refine room.imp_right fun fits => ?_
    split <;> omega

end Leg.Parts

namespace Swap.Parts

variable {whole first second : Swap} {books : Books}

/-- Both parts together change an account as the whole does. -/
theorem applied (parts : whole.Parts first second) (account : Account) :
    second.quote.applied (second.base.applied (first.quote.applied (first.base.applied account))) =
      whole.quote.applied (whole.base.applied account) := by
  rw [Leg.applied_comm second.base first.quote, parts.base.applied, parts.quote.applied]

/-- Where the whole swap is paid, the first part is, and then the second. -/
theorem fares (parts : whole.Parts first second) (apart : whole.Apart) (paid : whole.Fares books none) :
    first.Fares books none ∧ second.Fares (books.settled first.base first.quote) none := by
  cases paid with
  | paid base quote =>
    -- Neither leg sees what the other does.
    have quoteAlone : whole.quote.Payable books := quote.alike fun id named =>
      (books.moved_account?_of_not_names fun other => apart id other named).symm
    obtain ⟨base, baseThen⟩ := parts.base.payable base
    obtain ⟨quote, quoteThen⟩ := parts.quote.payable quoteAlone
    have untouched {id : AccountId} (named : whole.quote.Names id) :
        ¬first.base.Names id ∧ ¬second.base.Names id :=
      ⟨fun other => apart id (parts.base.names_first.mp other) named,
        fun other => apart id (parts.base.names_second.mp other) named⟩
    refine ⟨.paid base (quote.alike fun id named => ?_), .paid (baseThen.alike fun id named => ?_)
      (quoteThen.alike fun id named => ?_)⟩
    · exact books.moved_account?_of_not_names (untouched (parts.quote.names_first.mp named)).1
    · exact Books.moved_account?_of_not_names _ fun other =>
        apart id (parts.base.names_second.mp named) (parts.quote.names_first.mp other)
    · obtain ⟨notFirst, notSecond⟩ := untouched (parts.quote.names_second.mp named)
      unfold Books.settled
      rw [Books.moved_account?_of_not_names _ notSecond, Books.moved_account?,
        Books.moved_account?_of_not_names _ notFirst, Books.moved_account?]
      rfl

end Swap.Parts

/-- The ticket's accounts hold different currencies. -/
def Ticket.Separates (ticket : Ticket) (books : Books) : Prop :=
  ∃ base quote, books.account? ticket.heldInBase = some base ∧ books.account? ticket.heldInQuote = some quote ∧
    base.currency ≠ quote.currency

section Ticket

variable {ticket : Ticket} {resting : Order} {books : Books} {first second quantity : Int}

theorem Ticket.Separates.after (separates : ticket.Separates books) (fills : List Fill) :
    ticket.Separates (books.after fills) := by
  obtain ⟨base, quote, atBase, atQuote, different⟩ := separates
  refine ⟨base.after fills, quote.after fills, ?_, ?_, ?_⟩
  · rw [Books.after_account?, atBase, Option.map_some]
  · rw [Books.after_account?, atQuote, Option.map_some]
  · rwa [(base.after_terms fills).2, (quote.after_terms fills).2]

/-- A swap that is paid names no account in both legs if the ticket's accounts hold different currencies. -/
theorem Ticket.Separates.apart (separates : ticket.Separates books)
    (paid : (ticket.swap resting quantity).Fares books none) : (ticket.swap resting quantity).Apart := by
  obtain ⟨held, due, atHeld, atDue, different⟩ := separates
  cases paid with
  | paid base quote =>
    intro id named namedToo
    obtain ⟨account, found⟩ := Books.hasAccount_iff_account?.mp (base.present named)
    have sameBase := base.currency named (swap_base_names.mpr (.inl rfl)) found atHeld
    -- The second leg is judged after the first was moved, which changes no currency.
    have moved {id : AccountId} {account : Account} (found : books.account? id = some account) :
        (books.moved (ticket.swap resting quantity).base).account? id =
          some ((ticket.swap resting quantity).base.applied account) := by
      rw [Books.moved_account?, found, Option.map_some]
    have sameQuote := quote.currency namedToo (swap_quote_names.mpr (.inl rfl)) (moved found) (moved atDue)
    exact different (sameBase.symm.trans sameQuote)

theorem Ticket.swap_parts (price : 0 < resting.price) (positive : 0 < first ∧ 0 < second) :
    (ticket.swap resting (first + second)).Parts (ticket.swap resting first) (ticket.swap resting second) := by
  have value := Int.mul_add resting.price first second
  have values : 0 < resting.price * first ∧ 0 < resting.price * second :=
    ⟨Int.mul_pos price positive.1, Int.mul_pos price positive.2⟩
  unfold swap
  cases ticket.side with
  | bid => exact ⟨⟨⟨rfl, rfl⟩, ⟨rfl, rfl⟩, positive, rfl⟩, ⟨⟨rfl, rfl⟩, ⟨rfl, rfl⟩, values, value⟩⟩
  | ask => exact ⟨⟨⟨rfl, rfl⟩, ⟨rfl, rfl⟩, positive, rfl⟩, ⟨⟨rfl, rfl⟩, ⟨rfl, rfl⟩, values, value⟩⟩

/-- What fits a word in one fill does in each of two. -/
theorem Swap.ofFill_parts (positive : 0 < first ∧ 0 < second)
    (fits : ofFill ticket resting (first + second) = .ok (ticket.swap resting (first + second))) :
    ofFill ticket resting first = .ok (ticket.swap resting first) ∧
      ofFill ticket resting second = .ok (ticket.swap resting second) := by
  obtain ⟨⟨⟨price, _⟩, _, upper⟩, _⟩ := ofFill_eq_ok.mp fits
  rw [Int.mul_add] at upper
  have values : 0 < resting.price * first ∧ 0 < resting.price * second :=
    ⟨Int.mul_pos price positive.1, Int.mul_pos price positive.2⟩
  have least : leastWord ≤ 0 := by decide
  exact ⟨ofFill_eq_ok.mpr ⟨⟨⟨price, positive.1⟩, by unfold FitsWord; omega⟩, rfl⟩,
    ofFill_eq_ok.mpr ⟨⟨⟨price, positive.2⟩, by unfold FitsWord; omega⟩, rfl⟩⟩

end Ticket

/-- After a fill against the first of the orders that a ticket crosses it crosses the others, and the first as long as
something of it is open. -/
theorem Books.WellFormed.crossedBy_filled {books : Books} {ticket : Ticket} {resting : Order} {rest : List Order}
    (formed : books.WellFormed) (crossed : books.crossedBy ticket = resting :: rest) (quantity : Int)
    (number : TradeId) :
    (books.filled (ticket.fill resting quantity number)).crossedBy ticket =
      if resting.remaining = quantity then rest else (ticket.fill resting quantity number).resting :: rest := by
  generalize made : ticket.fill resting quantity number = fill
  have own : fill.resting.id = resting.id := by rw [← made]; rfl
  have written : fill.written resting = fill.resting := by
    rw [← made]
    exact if_pos rfl
  obtain ⟨earlier, later, split, uncrossed, crosses, kept⟩ := List.filter_eq_cons_iff.mp crossed
  have ascending : (earlier ++ resting :: later).Pairwise (·.id < ·.id) :=
    split ▸ List.pairwise_map.mp formed.orderIds.ids_ascending
  obtain ⟨_, following, across⟩ := List.pairwise_append.mp ascending
  have before : earlier.map fill.written = earlier := (List.map_congr_left fun order member =>
    Fill.written_of_ne (own ▸ Int.ne_of_lt (across order member resting List.mem_cons_self))).trans (List.map_id _)
  have behind : later.map fill.written = later := (List.map_congr_left fun order member =>
    Fill.written_of_ne (own ▸ Int.ne_of_gt ((List.pairwise_cons.mp following).1 order member))).trans (List.map_id _)
  have orders : (books.filled fill).orders = earlier ++ fill.resting :: later := by
    have rows : (books.filled fill).orders = books.orders.map fill.written := books.after_orders [fill]
    rw [rows, split, List.map_append, List.map_cons, before, behind, written]
  obtain ⟨_, terms⟩ := of_decide_eq_true crosses
  have open_ : fill.resting.status = .active ↔ resting.remaining ≠ quantity := by
    rw [← made]
    exact Status.ofOpen_eq_active.trans (not_congr Int.sub_eq_zero)
  obtain ⟨side, pair, price⟩ : fill.resting.side = resting.side ∧ fill.resting.pair = resting.pair ∧
      fill.resting.price = resting.price := by
    rw [← made]
    exact ⟨rfl, rfl, rfl⟩
  rw [← side, ← pair, ← price] at terms
  unfold crossedBy
  rw [orders, List.filter_append, List.filter_eq_nil_iff.mpr uncrossed, List.nil_append, List.filter_cons, kept]
  by_cases closed : resting.remaining = quantity
  · rw [if_pos closed]
    exact if_neg fun passes => open_.mp (of_decide_eq_true passes).1 closed
  · rw [if_neg closed]
    exact if_pos (decide_eq_true ⟨open_.mpr closed, terms⟩)

/-- Of two fills against one order the last shows in its row. -/
theorem Fill.written_last {part last whole : Fill} (own : part.resting.id = whole.resting.id)
    (same : last.resting = whole.resting) (order : Order) :
    last.written (part.written order) = whole.written order := by
  unfold written
  rw [own, same]
  by_cases own : order.id = whole.resting.id
  · simp only [if_pos own]
  · simp only [if_neg own]

namespace Books.Lists

variable {books after : Books} {ticket : Ticket} {resting : Order} {rest : List Order} {first second quantity : Int}
  {fill : Fill}

/-- An order of which something is open after a fill stands before the others as the fill has left it. -/
theorem next_open (lists : books.Lists (resting :: rest))
    (filled : Scope.fill ticket resting quantity books = (.ok fill, after)) (active : fill.resting.status = .active) :
    after.Lists (fill.resting :: rest) := by
  have done := fill_of_ok lists.steady filled
  have next := lists.next filled
  refine ⟨next.formed, next.undisturbed, List.forall_mem_cons.mpr ⟨done.resting_mem, next.standing⟩,
    List.forall_mem_cons.mpr ⟨active, next.active⟩, List.forall_mem_cons.mpr ⟨done.listed, next.pairs⟩,
    List.pairwise_cons.mpr ⟨?_, next.ascending⟩⟩
  rw [done.resting_id]
  exact (List.pairwise_cons.mp lists.ascending).1

/-- A fill can be made in two parts, which leave the same balances and rows. -/
theorem fill_split (lists : books.Lists (resting :: rest)) (separates : ticket.Separates books)
    (positive : 0 < first ∧ 0 < second) (within : first + second ≤ resting.remaining)
    (filled : Scope.fill ticket resting (first + second) books = (.ok fill, after)) :
    ∃ part middle last left, Scope.fill ticket resting first books = (.ok part, middle) ∧
      (part = ticket.fill resting first (nextId books.trades) ∧ middle = books.filled part) ∧
      middle.Lists (part.resting :: rest) ∧
      Scope.fill ticket part.resting second middle = (.ok last, left) ∧ last.quantity = second ∧
      left.accounts = after.accounts ∧ left.orders = after.orders := by
  obtain ⟨⟨fits, paid⟩, whole, rfl⟩ := lists.filled_eq within filled
  have price := (Swap.ofFill_eq_ok.mp fits).1.1.1
  have parts : (ticket.swap resting (first + second)).Parts (ticket.swap resting first) (ticket.swap resting second) :=
    Ticket.swap_parts price positive
  obtain ⟨fitsFirst, fitsSecond⟩ := Swap.ofFill_parts positive fits
  obtain ⟨paidFirst, paidSecond⟩ := parts.fares (separates.apart paid) paid
  have begun := lists.fill_paid (by omega) fitsFirst paidFirst
  have open_ : (ticket.fill resting first (nextId books.trades)).resting.status = .active :=
    Status.ofOpen_eq_active.mpr (by omega)
  have listsThen := lists.next_open begun open_
  -- What is left of the order is on the same terms.
  let part := ticket.fill resting first (nextId books.trades)
  let last := ticket.fill part.resting second (nextId (books.filled part).trades)
  have same : last.resting = fill.resting := by
    rw [whole]
    simp only [last, part, Ticket.fill, Int.sub_sub]
  have fitsThen : Swap.ofFill ticket part.resting second = .ok (ticket.swap part.resting second) := fitsSecond
  have paidThen : (ticket.swap part.resting second).Fares (books.filled part) none := paidSecond.alike fun _ _ => rfl
  have ended := listsThen.fill_paid (by exact Int.le_sub_left_of_add_le within) fitsThen paidThen
  refine ⟨part, _, last, _, begun, ⟨rfl, rfl⟩, listsThen, ended, rfl, ?_, ?_⟩
  · refine (books.after_accounts [part, last]).trans (Eq.trans ?_ (books.after_accounts [fill]).symm)
    rw [whole]
    exact List.map_congr_left fun account _ => parts.applied account
  · refine (books.after_orders [part, last]).trans (Eq.trans ?_ (books.after_orders [fill]).symm)
    exact List.map_congr_left fun order _ => Fill.written_last (congrArg (·.resting.id) whole).symm same order

end Books.Lists

end Bourse

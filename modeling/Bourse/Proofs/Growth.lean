import Bourse.Proofs.OrderRows
import Bourse.Proofs.Tables

namespace Bourse

/-- What may have become of an order: less of it may be open, and none but an active order changes at all. -/
structure Order.Develops (order now : Order) : Prop where
  terms : now = { order with remaining := now.remaining, status := now.status }
  less : now.remaining ≤ order.remaining
  open_ : now = order ∨ order.status = .active

namespace Order.Develops

variable {order middle now : Order}

theorem refl (order : Order) : order.Develops order := ⟨rfl, Int.le_refl _, .inl rfl⟩

theorem trans (first : order.Develops middle) (second : middle.Develops now) : order.Develops now := by
  refine ⟨?_, Int.le_trans second.less first.less, ?_⟩
  · have terms := second.terms
    rw [first.terms] at terms
    exact terms
  · rcases first.open_ with rfl | active
    · exact second.open_
    · exact .inr active

theorem id_eq (develops : order.Develops now) : now.id = order.id := by rw [develops.terms]

theorem active (develops : order.Develops now) (active : now.status = .active) : order.status = .active := by
  rcases develops.open_ with rfl | before
  · exact active
  · exact before

end Order.Develops

/-- Books that have come of others: no transfer, line or trade is lost, and each order has developed. -/
structure Books.Grown (books after : Books) : Prop where
  transfers : books.transfers <+: after.transfers
  entries : books.entries <+: after.entries
  trades : books.trades <+: after.trades
  orders : ∀ order ∈ books.orders, ∃ now ∈ after.orders, order.Develops now

/-- A change to the row of an active order by which no more of it is open. -/
theorem Books.WellFormed.setOrder_develops {books : Books} (formed : books.WellFormed) {row : Order}
    (found : books.order? row.id = some row) (active : row.status = .active) {remaining : Int}
    (less : remaining ≤ row.remaining) (status : Status) :
    ∀ order ∈ books.orders, ∃ now ∈ (books.setOrder row.id remaining status).orders, order.Develops now := by
  obtain ⟨present, _⟩ := formed.order?_eq_some.mp found
  intro order member
  have written := List.mem_map_of_mem (f := fun order : Order =>
    if order.id = row.id then { order with remaining, status } else order) member
  by_cases same : order.id = row.id
  · obtain rfl : order = row := formed.orderIds.unique member present same
    rw [if_pos rfl] at written
    exact ⟨_, written, rfl, less, .inr active⟩
  · rw [if_neg same] at written
    exact ⟨order, written, .refl order⟩

namespace Books.Grown

variable {books middle after : Books}

theorem refl (books : Books) : books.Grown books :=
  ⟨List.prefix_rfl, List.prefix_rfl, List.prefix_rfl, fun order member => ⟨order, member, .refl order⟩⟩

theorem trans (first : books.Grown middle) (second : middle.Grown after) : books.Grown after := by
  refine ⟨first.transfers.trans second.transfers, first.entries.trans second.entries,
    first.trades.trans second.trades, fun order member => ?_⟩
  obtain ⟨between, present, begun⟩ := first.orders order member
  obtain ⟨now, listed, ended⟩ := second.orders between present
  exact ⟨now, listed, begun.trans ended⟩

/-- An order that is closed stays as it is. -/
theorem closed (grown : books.Grown after) {order : Order} (member : order ∈ books.orders)
    (closed : order.status ≠ .active) : order ∈ after.orders := by
  obtain ⟨now, present, develops⟩ := grown.orders order member
  rcases develops.open_ with rfl | active
  · exact present
  · exact absurd active closed

/-- Where no order was added, each has come of an earlier one. -/
theorem earlier (grown : books.Grown after) (formed : after.WellFormed) (ids : after.orderIds = books.orderIds) :
    ∀ now ∈ after.orders, ∃ order ∈ books.orders, order.Develops now := by
  intro now member
  have listed : now.id ∈ books.orderIds := ids ▸ List.mem_map_of_mem member
  obtain ⟨order, present, same⟩ := List.mem_map.mp listed
  obtain ⟨row, written, develops⟩ := grown.orders order present
  have own : row.id = now.id := develops.id_eq.trans same
  rw [formed.orderIds.unique written member own] at develops
  exact ⟨order, present, develops⟩

end Books.Grown

variable {books after : Books}

/-- One write takes nothing back. -/
theorem Write.grown (write : Write False books after) (formed : books.WellFormed) : books.Grown after := by
  have extended := write.extended
  refine ⟨extended.transfers, extended.entries, extended.trades, ?_⟩
  cases write with
  | order => exact fun order member => ⟨order, List.mem_append_left _ member, .refl order⟩
  | fill found active range => exact formed.setOrder_develops found active range.2 _
  | cancel found active => exact formed.setOrder_develops found active (Int.le_refl _) _
  | strike raced => exact raced.elim
  | _ => exact fun order member => ⟨order, member, .refl order⟩

theorem Writes.grown (writes : Writes False books after) (formed : books.WellFormed) : books.Grown after := by
  induction writes with
  | refl => exact .refl books
  | tail earlier write ih => exact ih.trans (write.grown (Writes.wellFormed earlier formed))

namespace Books

theorem tradablePage_ok {pair : Pair} {limit : Int} {side : Side} {number size : Nat} {page : List Order}
    (listed : books.tradablePage pair limit side number size = .ok page) :
    page = ((books.tradable pair limit side).drop ((number - 1) * size)).take size := by
  unfold tradablePage at listed
  by_cases zero : number = 0
  · rw [if_pos zero] at listed
    cases listed
  · rw [if_neg zero] at listed
    match checked : checkPageSize size with
    | .error failure => simp [checked, bind, Except.bind] at listed
    | .ok () =>
      simp only [checked, bind, Except.bind] at listed
      exact (Order.allShown_eq_ok.mp listed).1

/-- A page of tradable orders, by its number or beyond a cursor, has the order on it. -/
def Shows (books : Books) (id : OrderId) : Prop :=
  ∃ pair limit side size page, ((∃ number, books.tradablePage pair limit side number size = .ok page) ∨
    ∃ cursor, books.tradableBeyond pair limit side cursor size = .ok page) ∧ ∃ order ∈ page, order.id = id

/-- What a page shows is in the books, and active. -/
theorem Shows.active {id : OrderId} (shows : books.Shows id) :
    ∃ order ∈ books.orders, order.id = id ∧ order.status = .active := by
  obtain ⟨pair, limit, side, size, page, listed, order, member, own⟩ := shows
  rcases listed with ⟨number, listed⟩ | ⟨cursor, listed⟩
  · rw [tradablePage_ok listed] at member
    obtain ⟨present, tradable⟩ := List.mem_filter.mp (List.mem_of_mem_drop (List.mem_of_mem_take member))
    exact ⟨order, present, own, (of_decide_eq_true tradable).2.2.2⟩
  · have tradable := tradable_of_tradableBeyond listed order member
    exact ⟨order, mem_of_tradableBeyond listed order member, own, tradable.2.2.2⟩

theorem WellFormed.not_shows (formed : books.WellFormed) {order : Order} (member : order ∈ books.orders)
    (closed : order.status ≠ .active) : ¬books.Shows order.id := by
  intro shows
  obtain ⟨row, present, same, active⟩ := shows.active
  rw [formed.orderIds.unique present member same] at active
  exact closed active

end Books

end Bourse

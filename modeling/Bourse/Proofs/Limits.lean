import Bourse.Proofs.Custody
import Bourse.Proofs.Flows

namespace Bourse

open Scope

/-- What is gone from an order. -/
def Order.drawn (order : Order) : Int := order.initial - order.remaining

namespace Books

/-- What the orders that name an account have come to, each at its own price: `account` says which of its accounts
is meant and `side` whether that is what it gave or what it got. -/
def stake (account : Order → AccountId) (side : Order → Side) (books : Books) (id : AccountId) : Int :=
  sumWhere (account · = id) (fun order => (side order).cost order.price order.drawn) books.orders

/-- The most that the orders which pay from an account may have cost. -/
def outlay (books : Books) (id : AccountId) : Int := books.stake (·.source) (·.side) id

/-- The least that the orders which are paid into an account must have brought. -/
def proceeds (books : Books) (id : AccountId) : Int := books.stake (·.destination) (·.side.opposite) id

section Stake

variable {account : Order → AccountId} {side : Order → Side} {books after : Books}

theorem stake_congr (same : after.orders = books.orders) (id : AccountId) :
    after.stake account side id = books.stake account side id := by
  unfold stake
  rw [same]

theorem stake_append (books : Books) (row : Order) (id : AccountId) :
    stake account side { books with orders := books.orders ++ [row] } id =
      books.stake account side id + if account row = id then (side row).cost row.price row.drawn else 0 :=
  sumWhere_concat _ _

theorem outlay_append (books : Books) (row : Order) (id : AccountId) :
    outlay { books with orders := books.orders ++ [row] } id =
      books.outlay id + if row.source = id then row.side.cost row.price row.drawn else 0 :=
  books.stake_append row id

theorem proceeds_append (books : Books) (row : Order) (id : AccountId) :
    proceeds { books with orders := books.orders ++ [row] } id =
      books.proceeds id + if row.destination = id then row.side.opposite.cost row.price row.drawn else 0 :=
  books.stake_append row id

/-- What is taken off an order adds to the stake of its account, at the order's own price. -/
theorem WellFormed.stake_setOrder (formed : books.WellFormed) {row : Order} (member : row ∈ books.orders)
    {remaining : Int} {status : Status}
    (sameAccount : ∀ order : Order, account { order with remaining, status } = account order)
    (sameSide : ∀ order : Order, side { order with remaining, status } = side order) (id : AccountId) :
    (books.setOrder row.id remaining status).stake account side id = books.stake account side id +
      if account row = id then (side row).cost row.price (row.remaining - remaining) else 0 := by
  have changed := formed.orderIds.sumWhere_change member (fun order => { order with remaining, status })
    (account · = id) (fun order => (side order).cost order.price order.drawn)
  have drawn : row.initial - remaining = row.drawn + (row.remaining - remaining) := by
    unfold Order.drawn
    omega
  simp only [sameAccount, sameSide, Order.drawn] at changed
  rw [drawn, Side.cost_add] at changed
  unfold stake Books.setOrder
  by_cases own : account row = id
  · simp only [if_pos own, Order.drawn] at changed ⊢
    omega
  · simp only [if_neg own, Order.drawn] at changed ⊢
    omega

end Stake

end Books

section FillDone

variable {ticket : Ticket} {resting : Order} {quantity : Int} {books after : Books} {fill : Fill}

theorem FillDone.stake (done : FillDone ticket resting quantity books fill after) (formed : books.WellFormed)
    (standing : resting ∈ books.orders) {account : Order → AccountId} {side : Order → Side}
    (sameAccount : ∀ (order : Order) remaining status, account { order with remaining, status } = account order)
    (sameSide : ∀ (order : Order) remaining status, side { order with remaining, status } = side order)
    (id : AccountId) : after.stake account side id = books.stake account side id +
      if account resting = id then (side resting).cost resting.price quantity else 0 := by
  have taken : resting.remaining - (resting.remaining - quantity) = quantity := by omega
  rw [Books.stake_congr done.orders, formed.stake_setOrder standing (fun order => sameAccount order _ _)
    (fun order => sameSide order _ _), taken]

theorem FillDone.outlay (done : FillDone ticket resting quantity books fill after) (formed : books.WellFormed)
    (standing : resting ∈ books.orders) (id : AccountId) : after.outlay id =
      books.outlay id + if resting.source = id then resting.side.cost resting.price quantity else 0 :=
  done.stake formed standing (fun _ _ _ => rfl) (fun _ _ _ => rfl) id

theorem FillDone.proceeds (done : FillDone ticket resting quantity books fill after) (formed : books.WellFormed)
    (standing : resting ∈ books.orders) (id : AccountId) : after.proceeds id =
      books.proceeds id + if resting.destination = id then resting.side.opposite.cost resting.price quantity else 0 :=
  done.stake formed standing (fun _ _ _ => rfl) (fun _ _ _ => rfl) id

end FillDone

namespace Served

variable {ticket : Ticket} {start books : Books} {fills : List Fill}

/-- However often a ticket is filled, the account that it pays from gives no more for it than at its own price,
apart from what the orders give that rest on that account. -/
theorem outlay (served : Served ticket start fills books) (calm : start.Calm) (id : AccountId) :
    books.paidOut id + start.outlay id ≤ start.paidOut id + books.outlay id +
      if ticket.source = id then ticket.side.cost ticket.price (quantityOf fills) else 0 := by
  induction served with
  | none =>
    have nothing : ticket.side.cost ticket.price (quantityOf []) = 0 := ticket.side.cost_zero _
    rw [nothing, ite_self]
    omega
  | @next fills books resting quantity fill after earlier standing tradable filled ih =>
    have before := earlier.calm calm
    -- What the resting order gives goes off its own row, so that only what the ticket gives counts.
    have done := fill_of_ok before.steady filled
    have out := (done.flows tradable.1).out id
    have stake := done.outlay before.formed standing id
    have price := (Side.cost_of_offersWithin tradable.2.2.1 done.positive).1
    rw [quantityOf_append, done.quantity_eq, Side.cost_add]
    unfold Leg.outOf at out
    by_cases own : ticket.source = id
    · simp only [if_pos own] at out ih ⊢
      omega
    · simp only [if_neg own] at out ih ⊢
      omega

/-- The account that a ticket is paid into gets no less for it than at its own price, beside what the orders bring
that are paid into that account. -/
theorem proceeds (served : Served ticket start fills books) (calm : start.Calm) (id : AccountId) :
    start.takenIn id + books.proceeds id +
        (if ticket.destination = id then ticket.side.opposite.cost ticket.price (quantityOf fills) else 0) ≤
      books.takenIn id + start.proceeds id := by
  induction served with
  | none =>
    have nothing : ticket.side.opposite.cost ticket.price (quantityOf []) = 0 := Side.cost_zero _ _
    rw [nothing, ite_self]
    omega
  | @next fills books resting quantity fill after earlier standing tradable filled ih =>
    have before := earlier.calm calm
    have done := fill_of_ok before.steady filled
    have into := (done.flows tradable.1).into id
    have stake := done.proceeds before.formed standing id
    have price := (Side.cost_of_offersWithin tradable.2.2.1 done.positive).2
    have double : ticket.side.opposite.opposite = ticket.side := by cases ticket.side <;> rfl
    rw [quantityOf_append, done.quantity_eq, Side.cost_add]
    simp only [tradable.1, double] at into stake
    unfold Leg.into at into
    by_cases own : ticket.destination = id
    · simp only [if_pos own] at into ih ⊢
      omega
    · simp only [if_neg own] at into ih ⊢
      omega

end Served

/-- What deposits have brought into an account. -/
def depositedTo (made : List Deposit) (id : AccountId) : Int := sumWhere (·.account = id) (·.amount) made

/-- No account has given more, or received less, than the orders that name it account for. -/
structure Books.Limited (made : List Deposit) (books : Books) : Prop where
  spent : ∀ id, books.paidOut id ≤ books.outlay id
  earned : ∀ id, books.proceeds id + depositedTo made id ≤ books.takenIn id

theorem Books.limited_empty : Limited [] empty := ⟨fun _ => Int.le_refl 0, fun _ => Int.le_refl 0⟩

/-- An order that is stored accounts for what was paid and received for it. -/
theorem Stored.limited {desk : Desk} {principal : Principal} {ticket : Ticket} {books middle : Books}
    {fills : List Fill} {row : Order} {last : Event} (stored : Stored desk principal ticket books fills middle row last)
    (calm : books.Calm) {made : List Deposit} (limited : books.Limited made) :
    Books.Limited made { middle with orders := middle.orders ++ [row] } := by
  obtain ⟨⟨source, destination⟩, side, price⟩ := stored.terms
  have filled : row.drawn = quantityOf fills := stored.drawn
  refine ⟨fun id => ?_, fun id => ?_⟩
  · have spent := limited.spent id
    have served := stored.served.outlay calm id
    rw [middle.outlay_append, filled, source, side, price]
    change middle.paidOut id ≤ _
    omega
  · have earned := limited.earned id
    have served := stored.served.proceeds calm id
    rw [middle.proceeds_append, filled, destination, side, price]
    change _ ≤ middle.takenIn id
    omega

namespace Books.Limited

variable {made : List Deposit} {books : Books}

/-- What a deposit brings in counts apart from the orders. -/
theorem deposit (limited : books.Limited made) (id : AccountId) {amount : Int} (positive : 0 < amount) :
    (books.post id amount).Limited (made ++ [⟨id, amount⟩]) := by
  have flows := books.flows_credit id positive
  refine ⟨fun other => ?_, fun other => ?_⟩
  · rw [(flows other).1]
    exact limited.spent other
  · have earned := limited.earned other
    rw [depositedTo, sumWhere_concat, (flows other).2]
    unfold depositedTo at earned
    have same : (books.post id amount).proceeds other = books.proceeds other := rfl
    dsimp only
    omega

/-- An order that is taken back still accounts for what was filled of it. -/
theorem cancel (limited : books.Limited made) (formed : books.WellFormed) {row : Order} (member : row ∈ books.orders) :
    Limited made (books.setOrder row.id row.remaining .canceled) := by
  have outlay (id : AccountId) : (books.setOrder row.id row.remaining .canceled).outlay id = _ :=
    formed.stake_setOrder member (fun _ => rfl) (fun _ => rfl) id
  have proceeds (id : AccountId) : (books.setOrder row.id row.remaining .canceled).proceeds id = _ :=
    formed.stake_setOrder member (fun _ => rfl) (fun _ => rfl) id
  simp only [Int.sub_self, Side.cost_zero, ite_self, Int.add_zero] at outlay proceeds
  refine ⟨fun id => ?_, fun id => ?_⟩
  · rw [outlay]
    exact limited.spent id
  · rw [proceeds]
    exact limited.earned id

end Books.Limited

theorem Handled.limited {desk : Desk} {books after : Books} {call : Call} {reply : Reply}
    (handled : Handled desk books call reply after) (calm : books.Calm) {made : List Deposit}
    (limited : books.Limited made) : after.Limited (made ++ call.deposited reply) := by
  have undeposited (nothing : call.deposited reply = []) (limited : after.Limited made) :
      after.Limited (made ++ call.deposited reply) := by
    rw [nothing, List.append_nil]
    exact limited
  cases handled with
  | still _ nothing => exact undeposited nothing limited
  | opened => exact undeposited rfl ⟨limited.spent, limited.earned⟩
  | deposited positive => exact limited.deposit _ positive
  | stored stored => exact undeposited rfl (stored.limited calm limited)
  | canceled found => exact undeposited rfl (limited.cancel calm.formed (calm.formed.order?_eq_some.mp found).1)

theorem History.limited {past : List Visit} {books : Books} (history : History Call.RetailAt past books) :
    books.Limited (deposits past) := by
  induction history with
  | start => exact Books.limited_empty
  | next earlier made ih =>
    have undisturbed := earlier.undisturbed
    rw [deposits_next]
    exact (made.2.handled undisturbed made.1).limited undisturbed.calm ih

theorem History.handed_in {past : List Visit} {books : Books} (history : History Call.RetailAt past books) :
    ∀ order ∈ books.orders, ∃ account, books.account? order.source = some account ∧
      HandedIn past account.owner order.id := by
  have passive : History Call.PassiveAt past books := history.mono fun made => ⟨made.1, made.2.passive⟩
  intro order member
  obtain ⟨owner, handed, held⟩ := passive.heldBy order member
  obtain ⟨account, found, rfl, _⟩ := held.source
  exact ⟨account, found, handed⟩

/-- Funds leave an account and reach it only within the limits of its own orders, and only its holder hands in
orders that pay from it. -/
theorem History.funds_within_orders {past : List Visit} {books : Books}
    (history : History Call.RetailAt past books) {account : Account} (member : account ∈ books.accounts) :
    books.paidOut account.id ≤ books.outlay account.id ∧
      books.proceeds account.id ≤ books.takenIn account.id - depositedTo (deposits past) account.id ∧
      ∀ order ∈ books.orders, order.source = account.id → HandedIn past account.owner order.id := by
  have limited := history.limited
  refine ⟨limited.spent account.id, Int.le_sub_right_of_add_le (limited.earned account.id),
    fun order present own => ?_⟩
  obtain ⟨holder, found, handed⟩ := history.handed_in order present
  have same := history.undisturbed.calm.formed.account?_eq_some.mpr ⟨member, own.symm⟩
  rw [found] at same
  cases same
  exact handed

/-- The bid takes five at the better price of the ask, and is then interrupted; the other ask is taken back. -/
theorem funds_within_orders_at_better_price :
    let calls := twoAsks ++ [.submit ⟨"bob"⟩ ⟨.bid, ⟨.btc, .usdt⟩, 30, 8, 4, 3⟩, .cancel ⟨"ann"⟩ 2]
    let past := Desk.visits {} calls .empty
    let books := Desk.serve {} calls .empty
    let account : Account := ⟨4, "bob", 0, .usdt⟩
    (∀ call ∈ calls, Call.RetailAt {} call) ∧ account ∈ books.accounts ∧
      (books.paidOut 4 = 100 ∧ books.outlay 4 = 150) ∧
      (books.takenIn 4 = 100 ∧ depositedTo (deposits past) 4 = 100) ∧
      books.orders.map (fun order => (order.source, order.remaining, order.status)) =
        [(1, 0, .completed), (1, 5, .canceled), (4, 3, .active)] ∧
      books.paidOut 4 ≤ books.outlay 4 ∧ HandedIn past "bob" 3 := by
  intro calls past books account
  have made : ∀ call ∈ calls, Call.RetailAt {} call := by
    simp [calls, twoAsks, Call.RetailAt, Call.Retail]
  have history : History Call.RetailAt past books := .of_calls made
  have member : account ∈ books.accounts := by decide +kernel
  have limits := history.funds_within_orders member
  have bid : ∃ order ∈ books.orders, order.source = 4 ∧ order.id = 3 := by decide +kernel
  obtain ⟨order, present, own, third⟩ := bid
  exact ⟨made, member, by decide +kernel, by decide +kernel, by decide +kernel, limits.1,
    third ▸ limits.2.2 order present own⟩

end Bourse

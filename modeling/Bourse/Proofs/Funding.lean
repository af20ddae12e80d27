import Bourse.Proofs.Conservation
import Bourse.Proofs.Transfers

namespace Bourse

/-- Funds are short: one of the payers has less than is required of it, or an amount does not fit a word. -/
inductive Shortage (payers : List AccountId) : Failure → Prop
  | funds {payer balance required} (listed : payer ∈ payers) (short : balance < required) :
      Shortage payers (.insufficientFunds payer balance required)
  | overflow : Shortage payers (.numeric .overflow)

theorem Shortage.mono {payers more : List AccountId} {failure : Failure} (shortage : Shortage payers failure)
    (wider : payers ⊆ more) : Shortage more failure := by
  cases shortage with
  | funds listed short => exact .funds (wider listed) short
  | overflow => exact .overflow

namespace Books

/-- The accounts are in the currencies that an order of a side on a pair pays and receives. -/
structure Suits (books : Books) (side : Side) (pair : Pair) (source destination : AccountId) : Prop where
  source : books.currency? source = some (side.pays pair)
  destination : books.currency? destination = some (side.receives pair)

theorem Suits.writes {raced : Prop} {books after : Books} {side : Side} {pair : Pair} {source destination : AccountId}
    (suits : books.Suits side pair source destination) (writes : Writes raced books after) :
    after.Suits side pair source destination :=
  ⟨currency?_of_writes writes suits.source, currency?_of_writes writes suits.destination⟩

theorem hasAccount_of_currency? {books : Books} {id : AccountId} {unit : Currency}
    (known : books.currency? id = some unit) : books.HasAccount id := by
  obtain ⟨account, found, _⟩ := Option.map_eq_some_iff.mp known
  exact hasAccount_of_account? found

end Books

/-- Nothing but a lack of funds stands in the way of a leg: it moves a positive amount between accounts of one
currency. -/
structure Leg.Movable (leg : Leg) (books : Books) : Prop where
  positive : 0 < leg.amount
  paired : ∃ unit, books.currency? leg.payer = some unit ∧ books.currency? leg.payee = some unit

namespace Leg.Movable

variable {raced : Prop} {leg : Leg} {books after : Books}

theorem writes (movable : leg.Movable books) (writes : Writes raced books after) : leg.Movable after := by
  obtain ⟨unit, out, into⟩ := movable.paired
  exact ⟨movable.positive, unit, Books.currency?_of_writes writes out, Books.currency?_of_writes writes into⟩

theorem accounts (movable : leg.Movable books) : books.HasAccount leg.payer ∧ books.HasAccount leg.payee := by
  obtain ⟨unit, out, into⟩ := movable.paired
  exact ⟨Books.hasAccount_of_currency? out, Books.hasAccount_of_currency? into⟩

/-- Such a leg is refused only for lack of funds. -/
theorem shortage (movable : leg.Movable books) {failure : Failure} (refused : leg.Refused books failure) :
    Shortage [leg.payer] failure := by
  obtain ⟨unit, out, into⟩ := movable.paired
  unfold Books.currency? at out into
  cases refused with
  | amount none => exact absurd movable.positive (Int.not_lt.mpr none)
  | account _ named absent _ =>
    rcases named with rfl | rfl
    · rw [absent] at out
      cases out
    · rw [absent] at into
      cases into
  | currency _ joins different =>
    rw [joins.payer, Option.map_some, Option.some.injEq] at out
    rw [joins.payee, Option.map_some, Option.some.injEq] at into
    exact absurd (out.trans into.symm) different
  | funds _ joins _ short => exact .funds List.mem_cons_self short
  | room => exact .overflow

end Leg.Movable

namespace Scope

variable {books : Books}

theorem transfer_failsOnly (formed : books.WellFormed) {leg : Leg} (movable : leg.Movable books) :
    FailsOnly (Shortage [leg.payer]) (transfer leg.payer leg.payee leg.amount) books := by
  intro failure after failed
  exact movable.shortage ((transfer_error_iff formed).mp (congrArg Prod.fst failed))

/-- Between two legs that can be moved, the first takes nothing from the second but funds. -/
theorem settle_failsOnly (formed : books.WellFormed) {first second : Leg} (movable : first.Movable books)
    (movableToo : second.Movable books) :
    FailsOnly (Shortage [first.payer, second.payer]) (settle first second) books := by
  have positive : 0 < first.amount ∧ 0 < second.amount := ⟨movable.positive, movableToo.positive⟩
  have recording := postTrade_ok positive ⟨movable.accounts, movableToo.accounts⟩
  have formedThen := (postTrade_makes first second).wellFormed formed recording
  have recorded : Writes True books (books.traded first second) :=
    (postTrade_makes first second).writes (.inl trivial) recording
  unfold FailsOnly
  rw [settle_eq positive ⟨movable.accounts, movableToo.accounts⟩]
  refine ((transfer_failsOnly formedThen (movable.writes recorded)).mono fun short => short.mono ?_).bind
    fun row middle moving => ?_
  · exact List.cons_subset_cons _ (List.nil_subset _)
  have between := (transfer_makes _ _ _).wellFormed formedThen moving
  have moved : Writes True (books.traded first second) middle := (transfer_makes _ _ _).writes (.inl trivial) moving
  refine ((transfer_failsOnly between ((movableToo.writes recorded).writes moved)).mono fun short => short.mono ?_).bind
    fun _ _ _ => failsOnly_of_ok rfl
  exact List.subset_cons_self _ _

end Scope

theorem Side.pays_opposite (side : Side) (pair : Pair) : side.opposite.pays pair = side.receives pair := by
  cases side <;> rfl

theorem Side.receives_opposite (side : Side) (pair : Pair) : side.opposite.receives pair = side.pays pair := by
  cases side <;> rfl

/-- A resting order that can be filled by a ticket: it stands in the books as it was listed, and its accounts are in
the currencies of its pair. -/
structure Books.Offers (books : Books) (ticket : Ticket) (resting : Order) : Prop where
  standing : resting ∈ books.orders
  tradable : resting.Tradable ticket.pair ticket.price ticket.side.opposite
  suits : books.Suits resting.side resting.pair resting.source resting.destination

section Fill

variable {ticket : Ticket} {resting : Order} {quantity : Int} {books : Books}

/-- The legs of a positive fill cannot be made up only if its value does not fit a word. -/
theorem Swap.overflow_of_ofFill {error : AmountError} (swap : ofFill ticket resting quantity = .error error)
    (price : 0 < resting.price) (positive : 0 < quantity) : error = .overflow := by
  have terms : 0 < resting.price ∧ 0 < quantity := ⟨price, positive⟩
  by_cases fits : FitsWord (resting.price * quantity)
  · have paid : ofFill ticket resting quantity = .ok (ticket.swap resting quantity) :=
      ofFill_of_notional ((if_pos terms).trans (if_pos fits))
    cases swap.symm.trans paid
  · have unfit : notional resting.price quantity = .error .overflow := (if_pos terms).trans (if_neg fits)
    rw [ofFill, unfit] at swap
    exact (Except.error.inj swap).symm

theorem Swap.movable_of_ofFill {legs : Swap} (swap : ofFill ticket resting quantity = .ok legs)
    (suits : books.Suits ticket.side ticket.pair ticket.source ticket.destination)
    (offers : books.Offers ticket resting) :
    (legs.base.Movable books ∧ legs.quote.Movable books) ∧
      [legs.base.payer, legs.quote.payer] ⊆ [ticket.source, resting.source] := by
  obtain ⟨opposed, pair, _, _⟩ := offers.tradable
  obtain ⟨⟨price, positive⟩, baseAmount, quoteAmount⟩ := amounts_of_ofFill swap
  have given : ∃ unit, books.currency? resting.source = some unit ∧ books.currency? ticket.destination = some unit :=
    ⟨_, offers.suits.source, by rw [suits.destination, opposed, pair, Side.pays_opposite]⟩
  have taken : ∃ unit, books.currency? ticket.source = some unit ∧ books.currency? resting.destination = some unit :=
    ⟨_, suits.source, by rw [offers.suits.destination, opposed, pair, Side.receives_opposite]⟩
  have base : 0 < legs.base.amount := baseAmount ▸ positive
  have quote : 0 < legs.quote.amount := quoteAmount ▸ Int.mul_pos price positive
  rcases legs_of_ofFill swap opposed with ⟨baseLeg, quoteLeg⟩ | ⟨baseLeg, quoteLeg⟩
  · rw [baseLeg] at base ⊢
    rw [quoteLeg] at quote ⊢
    exact ⟨⟨⟨base, given⟩, ⟨quote, taken⟩⟩, by simp⟩
  · rw [baseLeg] at base ⊢
    rw [quoteLeg] at quote ⊢
    exact ⟨⟨⟨base, taken⟩, ⟨quote, given⟩⟩, by simp⟩

/-- Where nothing is disturbed, the only thing that can stop a fill of a resting order on a listed pair is a
shortage. -/
theorem Scope.fill_failsOnly (calm : books.Calm) (undisturbed : books.faults = {})
    (suits : books.Suits ticket.side ticket.pair ticket.source ticket.destination) (listed : ticket.pair ∈ Pair.listed)
    (offers : books.Offers ticket resting) (range : 0 < quantity ∧ quantity ≤ resting.remaining) :
    FailsOnly (Shortage [ticket.source, resting.source]) (fill ticket resting quantity) books := by
  obtain ⟨_, pair, _, active⟩ := offers.tradable
  unfold fill
  cases swap : Swap.ofFill ticket resting quantity with
  | error error =>
    obtain rfl := Swap.overflow_of_ofFill swap (calm.orders resting offers.standing).price range.1
    intro failure after failed
    cases failed
    exact .overflow
  | ok legs =>
    obtain ⟨⟨base, quote⟩, payers⟩ := Swap.movable_of_ofFill swap suits offers
    refine FailsOnly.atomic (((settle_failsOnly calm.formed base quote).mono fun short => short.mono payers).bind
      fun settlement middle settling => ?_)
    -- The settlement leaves the order as it was, so that its fill can be recorded.
    obtain ⟨orders, _, faults⟩ := (settle_of_ok calm.formed settling).keeps
    have found : middle.order? resting.id = some resting := by
      unfold Books.order?
      rw [orders]
      exact calm.formed.order?_eq_some.mpr ⟨offers.standing, rfl⟩
    have changed : resting.statusAfter (.ofFill (resting.remaining - quantity)) =
        .ok (.ofOpen (resting.remaining - quantity)) :=
      Order.statusAfter_eq_ok.mpr (active ▸ Status.after?_ofFill _)
    rw [changed]
    refine FailsOnly.bind (failsOnly_of_ok rfl) fun status _ checked => ?_
    obtain ⟨same, rfl⟩ := ofExcept_eq_ok.mp checked
    cases same
    have left : 0 ≤ resting.remaining - quantity ∧ resting.remaining - quantity ≤ resting.remaining := by omega
    have recorded := recordFill_ok (faults.trans undisturbed) found active left (pair ▸ listed)
    exact (failsOnly_of_ok recorded).bind
      fun _ _ _ => failsOnly_of_ok rfl

end Fill

end Bourse

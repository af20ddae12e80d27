import Bourse.Proofs.Transfers

namespace Bourse

open Scope

/-- The movement that a transfer records. -/
def Transfer.leg (transfer : Transfer) : Leg := ⟨transfer.payer, transfer.payee, transfer.amount⟩

namespace Leg

/-- Two legs of positive amounts between existing accounts, none of which both of them name. -/
structure Separate (first second : Leg) (books : Books) : Prop where
  positive : 0 < first.amount ∧ 0 < second.amount
  present : ∀ id, first.Names id ∨ second.Names id → books.HasAccount id
  apart : ∀ id, first.Names id → ¬second.Names id

theorem Separate.symm {first second : Leg} {books : Books} (separate : first.Separate second books) :
    second.Separate first books where
  positive := separate.positive.symm
  present id named := separate.present id named.symm
  apart id named namedToo := separate.apart id namedToo named

theorem Separate.accounts {first second : Leg} {books : Books} (separate : first.Separate second books) :
    (books.HasAccount first.payer ∧ books.HasAccount first.payee) ∧
      books.HasAccount second.payer ∧ books.HasAccount second.payee :=
  ⟨⟨separate.present _ (.inl (.inl rfl)), separate.present _ (.inl (.inr rfl))⟩,
    separate.present _ (.inr (.inl rfl)), separate.present _ (.inr (.inr rfl))⟩

/-- The amounts of the lines that a leg adds to an account, in their order. -/
def amountsAt (leg : Leg) (id : AccountId) : List Int :=
  (if leg.payer = id then [-leg.amount] else []) ++ if leg.payee = id then [leg.amount] else []

theorem amountsAt_of_not_names {leg : Leg} {id : AccountId} (apart : ¬leg.Names id) : leg.amountsAt id = [] := by
  obtain ⟨notPayer, notPayee⟩ := not_or.mp apart
  unfold amountsAt
  rw [if_neg notPayer, if_neg notPayee, List.append_nil]

/-- An account has lines of one of two separate legs only, so that their order does not show. -/
theorem Separate.amountsAt_comm {first second : Leg} {books : Books} (separate : first.Separate second books)
    (id : AccountId) : first.amountsAt id ++ second.amountsAt id = second.amountsAt id ++ first.amountsAt id := by
  by_cases named : first.Names id
  · rw [amountsAt_of_not_names (separate.apart id named), List.append_nil, List.nil_append]
  · rw [amountsAt_of_not_names named, List.append_nil, List.nil_append]

end Leg

namespace Books

theorem amountsOf_moved (books : Books) (leg : Leg) (id : AccountId) :
    (books.moved leg).amountsOf id = books.amountsOf id ++ leg.amountsAt id := by
  let paid : Entry := ⟨nextId books.entries, leg.payer, -leg.amount⟩
  let received : Entry := ⟨nextId books.entries + 1, leg.payee, leg.amount⟩
  let charged : Books := { books with entries := books.entries ++ [paid] }
  have lines : (books.moved leg).entries = charged.entries ++ [received] := (List.append_assoc _ [paid] [received]).symm
  calc (books.moved leg).amountsOf id
    _ = amountsOf { charged with entries := charged.entries ++ [received] } id := by
        unfold amountsOf entriesOf
        rw [lines]
    _ = charged.amountsOf id ++ _ := charged.amountsOf_append received id
    _ = books.amountsOf id ++ _ ++ _ := congrArg (· ++ _) (books.amountsOf_append paid id)
    _ = books.amountsOf id ++ leg.amountsAt id := List.append_assoc ..

/-- The books after two legs were settled. -/
def settled (books : Books) (first second : Leg) : Books := ((books.traded first second).moved first).moved second

theorem settled_accounts_comm (books : Books) (first second : Leg) :
    (books.settled second first).accounts = (books.settled first second).accounts := by
  unfold settled moved
  rw [List.map_map, List.map_map]
  exact List.map_congr_left fun account _ => first.applied_comm second account

theorem settled_amountsOf_comm {books : Books} {first second : Leg} (separate : first.Separate second books)
    (id : AccountId) : (books.settled second first).amountsOf id = (books.settled first second).amountsOf id := by
  unfold settled
  rw [amountsOf_moved, amountsOf_moved, amountsOf_moved, amountsOf_moved, List.append_assoc, List.append_assoc,
    separate.amountsAt_comm]
  rfl

end Books

namespace Scope

variable {books : Books} {first second : Leg}

section Settle

variable (formed : books.WellFormed) (positive : 0 < first.amount ∧ 0 < second.amount)
  (present : (books.HasAccount first.payer ∧ books.HasAccount first.payee) ∧
    books.HasAccount second.payer ∧ books.HasAccount second.payee)

include formed positive present

theorem traded_wellFormed : (books.traded first second).WellFormed :=
  (postTrade_makes first second).wellFormed formed (postTrade_ok positive present)

/-- After the first leg was moved, only the second is left to be. -/
theorem settle_of_payable (payable : first.Payable books) :
    ((books.traded first second).moved first).WellFormed ∧
      settle first second books = (do
        let secondTransfer ← transfer second.payer second.payee second.amount
        pure ⟨⟨nextId books.trades, first, second⟩,
          ⟨nextId books.transfers, first.payer, first.payee, first.amount⟩, secondTransfer⟩ : Scope Settlement)
          ((books.traded first second).moved first) := by
  have opened := traded_wellFormed formed positive present
  have moved := transfer_ok opened (payable.alike fun _ _ => rfl)
  exact ⟨(transfer_makes _ _ _).wellFormed opened moved, (settle_eq positive present).trans (bind_of_ok moved)⟩

/-- The second leg is looked at after the first was moved. -/
theorem settle_paid (payable : first.Payable books) (payableThen : second.Payable (books.moved first)) :
    ∃ settlement, settle first second books = (.ok settlement, books.settled first second) ∧
      settlement.trade = ⟨nextId books.trades, first, second⟩ ∧
      settlement.firstTransfer.leg = first ∧ settlement.secondTransfer.leg = second := by
  obtain ⟨between, rest⟩ := settle_of_payable formed positive present payable
  have moved := transfer_ok between (payableThen.alike fun _ _ => rfl)
  exact ⟨_, rest.trans (bind_of_ok moved), rfl, rfl, rfl⟩

theorem settle_refused_first {failure : Failure} (refused : first.Refused books failure) :
    (settle first second books).1 = .error failure := by
  have failed := transfer_error (traded_wellFormed formed positive present) (refused.alike fun _ _ => rfl)
  rw [settle_eq positive present, bind_of_error failed]

theorem settle_refused_second {failure : Failure} (payable : first.Payable books)
    (refused : second.Refused (books.moved first) failure) : (settle first second books).1 = .error failure := by
  obtain ⟨between, rest⟩ := settle_of_payable formed positive present payable
  have failed := transfer_error between (refused.alike fun _ _ => rfl)
  rw [rest, bind_of_error failed]

end Settle

/-- The second leg finds its accounts as they were before the first was moved. -/
theorem unmoved_for_second (separate : first.Separate second books) (id : AccountId) (named : second.Names id) :
    (books.moved first).account? id = books.account? id :=
  books.moved_account?_of_not_names fun other => separate.apart id other named

theorem settle_ok (formed : books.WellFormed) (separate : first.Separate second books) (payable : first.Payable books)
    (alsoPayable : second.Payable books) :
    ∃ settlement, settle first second books = (.ok settlement, books.settled first second) ∧
      settlement.trade = ⟨nextId books.trades, first, second⟩ ∧
      settlement.firstTransfer.leg = first ∧ settlement.secondTransfer.leg = second :=
  settle_paid formed separate.positive separate.accounts payable (alsoPayable.alike (unmoved_for_second separate))

theorem settle_error_of_first (formed : books.WellFormed) (separate : first.Separate second books) {failure : Failure}
    (refused : first.Refused books failure) : (settle first second books).1 = .error failure :=
  settle_refused_first formed separate.positive separate.accounts refused

theorem settle_error_of_second (formed : books.WellFormed) (separate : first.Separate second books) {failure : Failure}
    (payable : first.Payable books) (refused : second.Refused books failure) :
    (settle first second books).1 = .error failure :=
  settle_refused_second formed separate.positive separate.accounts payable
    (refused.alike (unmoved_for_second separate))

/-- Of two separate legs each is moved or refused as if it were alone, and the first reason there is against them is
reported. -/
theorem settle_cases (formed : books.WellFormed) (separate : first.Separate second books) :
    (first.Payable books ∧ second.Payable books) ∨ ∃ failure, (settle first second books).1 = .error failure ∧
      (first.Refused books failure ∨ first.Payable books ∧ second.Refused books failure) := by
  rcases first.payable_or_refused books with payable | ⟨failure, refused⟩
  · rcases second.payable_or_refused books with alsoPayable | ⟨failure, refused⟩
    · exact .inl ⟨payable, alsoPayable⟩
    · exact .inr ⟨failure, settle_error_of_second formed separate payable refused, .inr ⟨payable, refused⟩⟩
  · exact .inr ⟨failure, settle_error_of_first formed separate refused, .inl refused⟩

theorem settle_ok_iff (formed : books.WellFormed) (separate : first.Separate second books) :
    (∃ settlement after, settle first second books = (.ok settlement, after)) ↔
      first.Payable books ∧ second.Payable books := by
  constructor
  · rintro ⟨settlement, after, ran⟩
    rcases settle_cases formed separate with payable | ⟨failure, failed, _⟩
    · exact payable
    · rw [ran] at failed
      cases failed
  · rintro ⟨payable, alsoPayable⟩
    obtain ⟨settlement, ran, _⟩ := settle_ok formed separate payable alsoPayable
    exact ⟨settlement, _, ran⟩

theorem settle_error_iff (formed : books.WellFormed) (separate : first.Separate second books) {failure : Failure} :
    (settle first second books).1 = .error failure ↔
      first.Refused books failure ∨ first.Payable books ∧ second.Refused books failure := by
  constructor
  · intro failed
    rcases settle_cases formed separate with ⟨payable, alsoPayable⟩ | ⟨cause, ended, reason⟩
    · obtain ⟨settlement, ran, _⟩ := settle_ok formed separate payable alsoPayable
      rw [ran] at failed
      cases failed
    · cases ended.symm.trans failed
      exact reason
  · rintro (refused | ⟨payable, refused⟩)
    · exact settle_error_of_first formed separate refused
    · exact settle_error_of_second formed separate payable refused

end Scope

/-- Two separate legs are settled exactly if each could be moved alone, and fail as the first does, or else the second;
in which order they are settled shows neither in the balances nor in the lines of any account. -/
theorem Books.Visible.legs_independent {books : Books} (visible : books.Visible) {first second : Leg}
    (separate : first.Separate second books) :
    ((∃ settlement after, settle first second books = (.ok settlement, after)) ↔
      (∃ row after, transfer first.payer first.payee first.amount books = (.ok row, after)) ∧
        ∃ row after, transfer second.payer second.payee second.amount books = (.ok row, after)) ∧
    (∀ failure, (settle first second books).1 = .error failure ↔
      (transfer first.payer first.payee first.amount books).1 = .error failure ∨
        (∃ row after, transfer first.payer first.payee first.amount books = (.ok row, after)) ∧
          (transfer second.payer second.payee second.amount books).1 = .error failure) ∧
    ∀ settlement after, settle first second books = (.ok settlement, after) →
      (settlement.trade.first = first ∧ settlement.trade.second = second ∧
        settlement.firstTransfer.leg = first ∧ settlement.secondTransfer.leg = second) ∧
      ∃ turned afterTurned, settle second first books = (.ok turned, afterTurned) ∧
        afterTurned.accounts = after.accounts ∧ ∀ id, afterTurned.amountsOf id = after.amountsOf id := by
  have formed := visible.wellFormed
  refine ⟨?_, fun failure => ?_, fun settlement after ran => ?_⟩
  · rw [transfer_ok_iff formed, transfer_ok_iff formed]
    exact settle_ok_iff formed separate
  · rw [transfer_error_iff formed, transfer_error_iff formed, transfer_ok_iff formed]
    exact settle_error_iff formed separate
  · obtain ⟨payable, alsoPayable⟩ := (settle_ok_iff formed separate).mp ⟨settlement, after, ran⟩
    obtain ⟨given, settled, trade, firstLeg, secondLeg⟩ := settle_ok formed separate payable alsoPayable
    obtain ⟨turned, settledTurned, _⟩ := settle_ok formed separate.symm alsoPayable payable
    cases ran.symm.trans settled
    refine ⟨⟨?_, ?_, firstLeg, secondLeg⟩, turned, _, settledTurned, books.settled_accounts_comm first second,
      Books.settled_amountsOf_comm separate⟩
    · rw [trade]
    · rw [trade]

/-- The two sides of a trade in either order, and once with a price that the payer of the second leg does not have. -/
theorem legs_independent_between_traders :
    let books := Desk.serve {} twoAsks .empty
    let base : Leg := ⟨1, 3, 5⟩
    let quote : Leg := ⟨4, 2, 50⟩
    let dear : Leg := ⟨4, 2, 101⟩
    books.Visible ∧ base.Separate quote books ∧ base.Separate dear books ∧
      (settle base dear books).1 = .error (.insufficientFunds 4 100 101) ∧
      ∃ settlement after turned afterTurned,
        settle base quote books = (.ok settlement, after) ∧ settle quote base books = (.ok turned, afterTurned) ∧
        after.accounts.map (·.balance) = [5, 50, 5, 50] ∧ afterTurned.accounts = after.accounts ∧
        settlement.firstTransfer.leg = base ∧ ∀ id, afterTurned.amountsOf id = after.amountsOf id := by
  intro books base quote dear
  have visible : books.Visible := (Reach.serve .start fun _ _ => trivial).visible
  have accounts : books.HasAccount 1 ∧ books.HasAccount 2 ∧ books.HasAccount 3 ∧ books.HasAccount 4 := by
    decide +kernel
  have separate (amount : Int) (positive : 0 < amount) : base.Separate ⟨4, 2, amount⟩ books := by
    obtain ⟨one, two, three, four⟩ := accounts
    refine ⟨⟨by decide, positive⟩, ?_, ?_⟩
    · rintro id ((rfl | rfl) | (rfl | rfl))
      exacts [one, three, four, two]
    · rintro id (rfl | rfl)
      · simp [base, Leg.Names]
      · simp [base, Leg.Names]
  have baseMoves : ∃ row after, transfer 1 3 5 books = (.ok row, after) :=
    ⟨⟨1, 1, 3, 5⟩, _, Prod.ext (by decide +kernel) rfl⟩
  have quoteMoves : ∃ row after, transfer 4 2 50 books = (.ok row, after) :=
    ⟨⟨1, 4, 2, 50⟩, _, Prod.ext (by decide +kernel) rfl⟩
  have dearFails : (transfer 4 2 101 books).1 = .error (.insufficientFunds 4 100 101) := by decide +kernel
  obtain ⟨_, fails, _⟩ := visible.legs_independent (separate 101 (by decide))
  obtain ⟨settles, _, same⟩ := visible.legs_independent (separate 50 (by decide))
  obtain ⟨settlement, after, ran⟩ := settles.mpr ⟨baseMoves, quoteMoves⟩
  obtain ⟨⟨_, _, firstLeg, _⟩, turned, afterTurned, ranTurned, sameAccounts, sameAmounts⟩ := same settlement after ran
  have balances : after.accounts.map (·.balance) = [5, 50, 5, 50] := by
    have left : (settle base quote books).2 = after := congrArg Prod.snd ran
    rw [← left]
    decide +kernel
  exact ⟨visible, separate 50 (by decide), separate 101 (by decide), (fails _).mpr (.inr ⟨baseMoves, dearFails⟩),
    settlement, after, turned, afterTurned, ran, ranTurned, balances, sameAccounts, firstLeg, sameAmounts⟩

end Bourse

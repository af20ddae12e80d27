import Bourse.Proofs.Adjustments
import Bourse.Proofs.Legs
import Bourse.Proofs.Reconciliation

namespace Bourse

open Scope

namespace Scope

variable {books : Books} {leg : Leg} {paying receiving : Account}

theorem positive_ok {amount : Int} (enough : 0 < amount) : positive amount books = (.ok (), books) := by
  unfold positive requirePositive
  rw [if_pos enough]
  rfl

theorem positive_error {amount : Int} (none : amount ≤ 0) :
    positive amount books = (.error (.numeric .nonPositive), books) := by
  unfold positive requirePositive
  rw [if_neg (Int.not_lt.mpr none)]
  rfl

theorem endpoints_ok (joins : leg.Joins books paying receiving) :
    endpoints leg.payer leg.payee books = (.ok (paying, receiving), books) := by
  unfold endpoints
  by_cases ordered : leg.payer ≤ leg.payee
  · rw [Int.min_eq_left ordered, Int.max_eq_right ordered, bind_of_ok (account_ok joins.payer),
      bind_of_ok (account_ok joins.payee), if_pos ordered]
    rfl
  · have reversed : leg.payee ≤ leg.payer := Int.le_of_lt (Int.not_le.mp ordered)
    rw [Int.min_eq_right reversed, Int.max_eq_left reversed, bind_of_ok (account_ok joins.payee),
      bind_of_ok (account_ok joins.payer), if_neg ordered]
    rfl

theorem endpoints_error {id : AccountId} (named : leg.Names id) (absent : books.account? id = none)
    (lowest : ∀ other, leg.Names other → books.account? other = none → id ≤ other) :
    endpoints leg.payer leg.payee books = (.error (.accountNotFound id), books) := by
  unfold endpoints
  cases low : books.account? (min leg.payer leg.payee) with
  | none =>
    have first : id = min leg.payer leg.payee := Int.le_antisymm (lowest _ leg.names_min low) named.min_le
    rw [bind_of_error (account_error low), first]
  | some found =>
    have last : id = max leg.payer leg.payee := by
      refine named.min_or_max.resolve_left fun first => ?_
      rw [first, low] at absent
      cases absent
    rw [bind_of_ok (account_ok low), bind_of_error (account_error (last ▸ absent)), last]

theorem postTransfer_ok (positive : 0 < leg.amount)
    (present : books.HasAccount leg.payer ∧ books.HasAccount leg.payee) :
    postTransfer leg books = (.ok ⟨nextId books.transfers, leg.payer, leg.payee, leg.amount⟩,
      { books with
        transfers := books.transfers ++ [⟨nextId books.transfers, leg.payer, leg.payee, leg.amount⟩] }) :=
  (if_neg (Int.not_le.mpr positive)).trans (if_pos present)

theorem postEntry_ok {id : AccountId} (present : books.HasAccount id) (amount : Int) :
    postEntry id amount books = (.ok ⟨nextId books.entries, id, amount⟩,
      { books with entries := books.entries ++ [⟨nextId books.entries, id, amount⟩] }) :=
  if_pos present

theorem move_ok (formed : books.WellFormed) (positive : 0 < leg.amount) (charged : books.Admits leg.payer (-leg.amount))
    (credited : (books.post leg.payer (-leg.amount)).Admits leg.payee leg.amount) :
    ∃ row after, move leg.payer leg.payee leg.amount books = (.ok row, after) := by
  obtain ⟨_, charging⟩ := debit_ok formed charged
  obtain ⟨_, crediting⟩ := credit_ok (formed.adjust charged) credited
  -- Neither the balances nor the rows that are written take an account away.
  have paying : ((books.adjust leg.payer (-leg.amount)).adjust leg.payee leg.amount).HasAccount leg.payer :=
    Books.adjust_hasAccount.mpr (Books.adjust_hasAccount.mpr charged.hasAccount)
  have receiving : ((books.adjust leg.payer (-leg.amount)).adjust leg.payee leg.amount).HasAccount leg.payee :=
    Books.adjust_hasAccount.mpr credited.hasAccount
  refine ⟨_, _, (bind_of_ok charging).trans <| (bind_of_ok crediting).trans <|
    (bind_of_ok (postTransfer_ok positive ⟨paying, receiving⟩)).trans <|
    Eq.trans (bind_of_ok (postEntry_ok ?_ _)) (bind_of_ok (postEntry_ok ?_ _))⟩
  · exact paying
  · exact receiving

/-- The payee is credited after the payer was charged, and the charge is not taken back. -/
theorem move_error (formed : books.WellFormed) (charged : books.Admits leg.payer (-leg.amount))
    (receives : books.account? leg.payee = some receiving) (apart : leg.payer ≠ leg.payee)
    (full : greatestWord < receiving.balance + leg.amount) :
    move leg.payer leg.payee leg.amount books =
      (.error (.numeric .overflow), books.adjust leg.payer (-leg.amount)) := by
  obtain ⟨_, charging⟩ := debit_ok formed charged
  have looked := books.account?_adjust leg.payer (-leg.amount) leg.payee
  rw [receives, Option.map_some, Books.account?_id receives, if_neg (Ne.symm apart)] at looked
  exact (bind_of_ok charging).trans (bind_of_error (credit_error looked full))

/-- Once both ends are known, only their currencies are compared before balances are touched. -/
theorem transfer_of_joins (positive : 0 < leg.amount) (joins : leg.Joins books paying receiving) :
    transfer leg.payer leg.payee leg.amount books =
      if paying.currency = receiving.currency then move leg.payer leg.payee leg.amount books
      else (.error (.currencyMismatch leg.payee paying.currency receiving.currency), books) := by
  refine (bind_of_ok (positive_ok positive)).trans ((bind_of_ok (endpoints_ok joins)).trans ?_)
  by_cases same : paying.currency = receiving.currency
  · simp only [if_pos same]
  · simp only [if_neg same]
    rfl

/-- A payable leg is moved. -/
theorem transfer_ok (formed : books.WellFormed) (payable : leg.Payable books) :
    transfer leg.payer leg.payee leg.amount books =
      (.ok ⟨nextId books.transfers, leg.payer, leg.payee, leg.amount⟩, books.moved leg) := by
  obtain ⟨charged, credited⟩ := payable.admits formed
  obtain ⟨positive, paying, receiving, joins, same, _⟩ := payable
  obtain ⟨row, after, moving⟩ := move_ok formed positive charged credited
  have ran := (transfer_of_joins positive joins).trans ((if_pos same).trans moving)
  have done := transfer_of_ok formed ran
  rw [ran, done.row_eq, done.after_eq_moved]

/-- A leg that is not payable is refused for the first reason there is. -/
theorem transfer_error (formed : books.WellFormed) {failure : Failure} (refused : leg.Refused books failure) :
    transfer leg.payer leg.payee leg.amount books = (.error failure, leg.leavings books failure) := by
  cases refused with
  | amount none => exact bind_of_error (positive_error none)
  | account positive named absent lowest =>
    exact (bind_of_ok (positive_ok positive)).trans (bind_of_error (endpoints_error named absent lowest))
  | currency positive joins different => exact (transfer_of_joins positive joins).trans (if_neg different)
  | funds positive joins same short =>
    rw [transfer_of_joins positive joins, if_pos same]
    exact bind_of_error (debit_error joins.payer short)
  | @room paying receiving positive joins same covered apart full =>
    have paid := formed.balances paying (formed.account?_eq_some.mp joins.payer).1
    have charged : books.Admits leg.payer (-leg.amount) := ⟨paying, joins.payer, by omega⟩
    rw [transfer_of_joins positive joins, if_pos same]
    exact move_error formed charged joins.payee apart full

theorem transfer_ok_iff (formed : books.WellFormed) :
    (∃ row after, transfer leg.payer leg.payee leg.amount books = (.ok row, after)) ↔ leg.Payable books := by
  constructor
  · rintro ⟨row, after, ran⟩
    rcases leg.payable_or_refused books with payable | ⟨failure, refused⟩
    · exact payable
    · cases (transfer_error formed refused).symm.trans ran
  · exact fun payable => ⟨_, _, transfer_ok formed payable⟩

theorem transfer_error_iff (formed : books.WellFormed) {failure : Failure} :
    (transfer leg.payer leg.payee leg.amount books).1 = .error failure ↔ leg.Refused books failure := by
  constructor
  · intro failed
    rcases leg.payable_or_refused books with payable | ⟨cause, refused⟩
    · rw [transfer_ok formed payable] at failed
      cases failed
    · rw [transfer_error formed refused] at failed
      cases failed
      exact refused
  · intro refused
    rw [transfer_error formed refused]

section Settle

variable {first second : Leg} (positive : 0 < first.amount ∧ 0 < second.amount)
  (present : (books.HasAccount first.payer ∧ books.HasAccount first.payee) ∧
    books.HasAccount second.payer ∧ books.HasAccount second.payee)

include positive present

theorem postTrade_ok :
    postTrade first second books = (.ok ⟨nextId books.trades, first, second⟩, books.traded first second) := by
  unfold postTrade
  rw [if_neg (Int.not_le.mpr positive.1), if_neg (Int.not_le.mpr positive.2), if_pos (and_assoc.mp present)]
  rfl

/-- Once the trade is recorded, only the two transfers are left to be made. -/
theorem settle_eq :
    settle first second books = (do
      let firstTransfer ← transfer first.payer first.payee first.amount
      let secondTransfer ← transfer second.payer second.payee second.amount
      pure ⟨⟨nextId books.trades, first, second⟩, firstTransfer, secondTransfer⟩ : Scope Settlement)
        (books.traded first second) :=
  (bind_of_ok (positive_ok positive.1)).trans <| (bind_of_ok (positive_ok positive.2)).trans <|
    bind_of_ok (postTrade_ok positive present)

end Settle

end Scope

/-- When a transfer goes through, what it changes then, and why it does not go through otherwise. -/
theorem Books.Visible.transfer_exact {books : Books} (visible : books.Visible) (leg : Leg) :
    (∀ account ∈ books.accounts, 0 ≤ account.balance ∧ account.balance ≤ greatestWord) ∧
      ((∃ row after, transfer leg.payer leg.payee leg.amount books = (.ok row, after)) ↔ leg.Payable books) ∧
      (leg.Payable books → transfer leg.payer leg.payee leg.amount books =
        (.ok ⟨nextId books.transfers, leg.payer, leg.payee, leg.amount⟩, books.moved leg)) ∧
      (leg.payer = leg.payee → (books.moved leg).accounts = books.accounts) ∧
      ∀ failure, (transfer leg.payer leg.payee leg.amount books).1 = .error failure ↔ leg.Refused books failure :=
  ⟨visible.wellFormed.balances, transfer_ok_iff visible.wellFormed, transfer_ok visible.wellFormed,
    books.moved_accounts_of_self, fun _ => transfer_error_iff visible.wellFormed⟩

/-- Two transfers that the books can make, one of them within an account, and two that they refuse. -/
theorem transfer_exact_between_traders :
    let books := Desk.serve {} twoAsks .empty
    let paid : Leg := ⟨1, 3, 7⟩
    let turned : Leg := ⟨4, 4, 100⟩
    books.Visible ∧ transfer 1 3 7 books = (.ok ⟨1, 1, 3, 7⟩, books.moved paid) ∧
      ((books.moved paid).accounts.map (·.balance) = [3, 0, 7, 100]) ∧
      transfer 4 4 100 books = (.ok ⟨1, 4, 4, 100⟩, books.moved turned) ∧
      (books.moved turned).accounts = books.accounts ∧
      (transfer 9 8 1 books).1 = .error (.accountNotFound 8) ∧
      (transfer 3 1 1 books).1 = .error (.insufficientFunds 3 0 1) := by
  intro books paid turned
  have visible : books.Visible := (Reach.serve .start fun _ _ => trivial).visible
  have payable : paid.Payable books :=
    ⟨by decide, ⟨1, "ann", 10, .btc⟩, ⟨3, "bob", 0, .btc⟩, ⟨by decide +kernel, by decide +kernel⟩, by decide +kernel⟩
  have alsoPayable : turned.Payable books :=
    ⟨by decide, ⟨4, "bob", 100, .usdt⟩, _, ⟨by decide +kernel, by decide +kernel⟩, rfl, by decide, .inl rfl⟩
  have absent : (⟨9, 8, 1⟩ : Leg).Refused books (.accountNotFound 8) :=
    .account (by decide) (.inr rfl) (by decide +kernel) fun _ named _ => named.min_le
  have short : (⟨3, 1, 1⟩ : Leg).Refused books (.insufficientFunds 3 0 1) := by
    have joins : (⟨3, 1, 1⟩ : Leg).Joins books ⟨3, "bob", 0, .btc⟩ ⟨1, "ann", 10, .btc⟩ :=
      ⟨by decide +kernel, by decide +kernel⟩
    exact .funds (by decide) joins rfl (by decide)
  obtain ⟨_, _, moves, _⟩ := visible.transfer_exact paid
  obtain ⟨_, _, turns, unchanged, _⟩ := visible.transfer_exact turned
  obtain ⟨_, _, _, _, missing⟩ := visible.transfer_exact ⟨9, 8, 1⟩
  obtain ⟨_, _, _, _, refused⟩ := visible.transfer_exact ⟨3, 1, 1⟩
  have number : nextId books.transfers = 1 := by decide +kernel
  have moved := moves payable
  have movedToo := turns alsoPayable
  rw [number] at moved movedToo
  exact ⟨visible, moved, by decide +kernel, movedToo, unchanged rfl, (missing _).mpr absent, (refused _).mpr short⟩

namespace Books

/-- Every balance is the sum of the lines of its account. -/
def Tallied (books : Books) : Prop := ∀ account ∈ books.accounts, account.balance = (books.amountsOf account.id).sum

/-- Every account reconciles. -/
def Reconciles (books : Books) : Prop := ∀ account ∈ books.accounts, reconcile account.id books = (.ok true, books)

section Adjust

variable {books : Books} {id : AccountId} {account : Account} {amount : Int}

theorem mem_adjust (found : books.account? id = some account) (amount : Int) :
    { account with balance := account.balance + amount } ∈ (books.adjust id amount).accounts :=
  List.mem_map.mpr ⟨account, List.mem_of_find?_eq_some found, if_pos (account?_id found)⟩

/-- A balance that is changed without a line for it no longer is the sum of its lines. -/
theorem Tallied.not_adjust (tallied : books.Tallied) (found : books.account? id = some account) (change : amount ≠ 0) :
    ¬(books.adjust id amount).Tallied := by
  intro still
  have before := tallied account (List.mem_of_find?_eq_some found)
  have now : account.balance + amount = (books.amountsOf account.id).sum := still _ (mem_adjust found amount)
  omega

theorem Reconciles.not_adjust (reconciles : books.Reconciles) (formed : books.WellFormed)
    (admits : books.Admits id amount) (found : books.account? id = some account) (change : amount ≠ 0) :
    ¬(books.adjust id amount).Reconciles := by
  intro still
  have present := List.mem_of_find?_eq_some found
  have before := (formed.reconcile_iff present).mp (reconciles account present)
  have changed := mem_adjust found amount
  have now : books.entryTotal account.id = .ok (account.balance + amount) :=
    ((formed.adjust admits).reconcile_iff changed).mp (still _ changed)
  have same := Except.ok.inj (before.symm.trans now)
  omega

end Adjust

end Books

/-- A refused transfer leaves nothing in a scope that goes on, except that a payer stays charged whose payee has no
room; exactly then the balances no longer agree with the lines. -/
theorem Books.Visible.refusal_leaves {books after : Books} (visible : books.Visible) (leg : Leg) {failure : Failure}
    (refused : transfer leg.payer leg.payee leg.amount books = (.error failure, after)) :
    (failure ≠ .numeric .overflow → after = books) ∧
      (failure = .numeric .overflow → ∃ paying, books.account? leg.payer = some paying ∧ 0 < leg.amount ∧
        after = books.setBalance leg.payer (paying.balance - leg.amount)) ∧
      (books.Tallied → (after.Tallied ↔ failure ≠ .numeric .overflow)) ∧
      (books.Reconciles → (after.Reconciles ↔ failure ≠ .numeric .overflow)) := by
  have formed := visible.wellFormed
  have reason : leg.Refused books failure := (transfer_error_iff formed).mp (congrArg Prod.fst refused)
  have left : after = leg.leavings books failure :=
    congrArg Prod.snd (refused.symm.trans (transfer_error formed reason))
  by_cases full : failure = .numeric .overflow
  · subst full
    obtain ⟨positive, paying, found, covered⟩ := reason.covered
    have charge : -leg.amount ≠ 0 := by omega
    have range := formed.balances paying (formed.account?_eq_some.mp found).1
    have charged : books.Admits leg.payer (-leg.amount) := ⟨paying, found, by omega⟩
    have adjusted : after = books.adjust leg.payer (-leg.amount) := left.trans (if_pos rfl)
    have lowered : after = books.setBalance leg.payer (paying.balance - leg.amount) := by
      rw [adjusted, ← formed.setBalance_eq_adjust found, account?_id found, Int.sub_eq_add_neg]
    subst adjusted
    exact ⟨fun differs => absurd rfl differs, fun _ => ⟨paying, found, positive, lowered⟩,
      fun tallied => iff_of_false (tallied.not_adjust found charge) (not_not.mpr rfl),
      fun reconciles => iff_of_false (reconciles.not_adjust formed charged found charge) (not_not.mpr rfl)⟩
  · have same : after = books := left.trans (if_neg full)
    subst same
    exact ⟨fun _ => rfl, fun overflow => absurd overflow full, fun tallied => iff_of_true tallied full,
      fun reconciles => iff_of_true reconciles full⟩

/-- In a scope that has already refused one transfer, another leaves its payer charged because the payee has no room. -/
theorem refusal_leaves_charge :
    let opening : List Call :=
      [.perform (.openAccount "ann" .usdt), .perform (.openAccount "bob" .usdt), .perform (.deposit 1 100)]
    let scope := Batch.run true [.deposit 2 9223372036854775800, .transfer 2 1 0] (Desk.serve {} opening .empty)
    scope.books.Visible ∧
      (transfer 1 2 60 scope.books).1 = .error (.numeric .overflow) ∧
      (transfer 1 2 60 scope.books).2 = scope.books.setBalance 1 40 ∧
      scope.books.Tallied ∧ ¬(scope.books.setBalance 1 40).Tallied := by
  intro opening scope
  have reached : Reach (fun _ _ => True) .empty (Desk.serve {} opening .empty) := .serve .start fun _ _ => trivial
  have visible : scope.books.Visible := .inScope reached true _
  have refused : (transfer 1 2 60 scope.books).1 = .error (.numeric .overflow) := by decide +kernel
  have tallied : scope.books.Tallied := by
    unfold Books.Tallied
    decide +kernel
  have ran : transfer 1 2 60 scope.books = (.error (.numeric .overflow), (transfer 1 2 60 scope.books).2) :=
    Prod.ext refused rfl
  obtain ⟨_, charges, breaks, _⟩ := visible.refusal_leaves ⟨1, 2, 60⟩ ran
  obtain ⟨paying, found, _, charged⟩ := charges rfl
  have payer : scope.books.account? 1 = some ⟨1, "ann", 100, .usdt⟩ := by decide +kernel
  have left : (transfer 1 2 60 scope.books).2 = scope.books.setBalance 1 40 := by
    cases payer.symm.trans found
    exact charged
  have broken := breaks tallied
  rw [left] at broken
  exact ⟨visible, refused, left, tallied, fun still => broken.mp still rfl⟩

end Bourse

import Bourse.Proofs.Flows
import Bourse.Proofs.Holders

namespace Bourse

namespace Leg

/-- The accounts at the two ends of a leg, as they stand in the books. -/
structure Joins (leg : Leg) (books : Books) (paying receiving : Account) : Prop where
  payer : books.account? leg.payer = some paying
  payee : books.account? leg.payee = some receiving

/-- A leg that can be moved. An account that pays itself needs no room for what it receives. -/
structure Payable (leg : Leg) (books : Books) : Prop where
  positive : 0 < leg.amount
  ends : ∃ paying receiving, leg.Joins books paying receiving ∧ paying.currency = receiving.currency ∧
    leg.amount ≤ paying.balance ∧ (leg.payer = leg.payee ∨ receiving.balance + leg.amount ≤ greatestWord)

/-- The id is that of the payer or of the payee. -/
def Names (leg : Leg) (id : AccountId) : Prop := leg.payer = id ∨ leg.payee = id

/-- Why a leg cannot be moved: the first of the conditions that is not met. -/
inductive Refused (leg : Leg) (books : Books) : Failure → Prop
  | amount (none : leg.amount ≤ 0) : Refused leg books (.numeric .nonPositive)
  | account {id} (positive : 0 < leg.amount) (named : leg.Names id) (absent : books.account? id = none)
      (lowest : ∀ other, leg.Names other → books.account? other = none → id ≤ other) :
      Refused leg books (.accountNotFound id)
  | currency {paying receiving} (positive : 0 < leg.amount) (joins : leg.Joins books paying receiving)
      (different : paying.currency ≠ receiving.currency) :
      Refused leg books (.currencyMismatch leg.payee paying.currency receiving.currency)
  | funds {paying receiving} (positive : 0 < leg.amount) (joins : leg.Joins books paying receiving)
      (same : paying.currency = receiving.currency) (short : paying.balance < leg.amount) :
      Refused leg books (.insufficientFunds leg.payer paying.balance leg.amount)
  | room {paying receiving} (positive : 0 < leg.amount) (joins : leg.Joins books paying receiving)
      (same : paying.currency = receiving.currency) (covered : leg.amount ≤ paying.balance)
      (apart : leg.payer ≠ leg.payee) (full : greatestWord < receiving.balance + leg.amount) :
      Refused leg books (.numeric .overflow)

section Names

variable {leg : Leg} {id : AccountId}

theorem names_min (leg : Leg) : leg.Names (min leg.payer leg.payee) := by
  rcases min_choice leg.payer leg.payee with same | same
  · exact .inl same.symm
  · exact .inr same.symm

theorem Names.min_le (named : leg.Names id) : min leg.payer leg.payee ≤ id := by
  rcases named with rfl | rfl
  · exact Int.min_le_left _ _
  · exact Int.min_le_right _ _

theorem Names.min_or_max (named : leg.Names id) : id = min leg.payer leg.payee ∨ id = max leg.payer leg.payee := by
  rcases Int.le_total leg.payer leg.payee with ordered | reversed
  · rw [Int.min_eq_left ordered, Int.max_eq_right ordered]
    exact named.imp Eq.symm Eq.symm
  · rw [Int.min_eq_right reversed, Int.max_eq_left reversed]
    exact named.symm.imp Eq.symm Eq.symm

end Names

/-- Where an end is missing, the lower of those that are missing is named. -/
theorem refused_of_absent {leg : Leg} {books : Books} {id : AccountId} (positive : 0 < leg.amount)
    (named : leg.Names id) (absent : books.account? id = none) : ∃ failure, leg.Refused books failure := by
  by_cases least : books.account? (min leg.payer leg.payee) = none
  · exact ⟨_, .account positive leg.names_min least fun other named _ => named.min_le⟩
  · -- Only the higher of the two can be missing then.
    have higher {id : AccountId} (named : leg.Names id) (absent : books.account? id = none) :
        id = max leg.payer leg.payee :=
      named.min_or_max.resolve_left fun lower => least (lower ▸ absent)
    refine ⟨_, .account positive named absent fun other namedToo absentToo => ?_⟩
    rw [higher named absent, higher namedToo absentToo]

theorem payable_or_refused (leg : Leg) (books : Books) :
    leg.Payable books ∨ ∃ failure, leg.Refused books failure := by
  by_cases positive : 0 < leg.amount
  · cases out : books.account? leg.payer with
    | none => exact .inr (refused_of_absent positive (.inl rfl) out)
    | some paying =>
      cases into : books.account? leg.payee with
      | none => exact .inr (refused_of_absent positive (.inr rfl) into)
      | some receiving =>
        have joins : leg.Joins books paying receiving := ⟨out, into⟩
        by_cases same : paying.currency = receiving.currency
        · by_cases covered : leg.amount ≤ paying.balance
          · by_cases room : leg.payer = leg.payee ∨ receiving.balance + leg.amount ≤ greatestWord
            · exact .inl ⟨positive, paying, receiving, joins, same, covered, room⟩
            · obtain ⟨apart, full⟩ := not_or.mp room
              exact .inr ⟨_, .room positive joins same covered apart (Int.not_le.mp full)⟩
          · exact .inr ⟨_, .funds positive joins same (Int.not_le.mp covered)⟩
        · exact .inr ⟨_, .currency positive joins same⟩
  · exact .inr ⟨_, .amount (Int.not_lt.mp positive)⟩

section Alike

variable {leg : Leg} {books after : Books}

theorem Joins.alike {paying receiving : Account} (joins : leg.Joins books paying receiving)
    (same : ∀ id, leg.Names id → after.account? id = books.account? id) : leg.Joins after paying receiving :=
  ⟨(same _ (.inl rfl)).trans joins.payer, (same _ (.inr rfl)).trans joins.payee⟩

/-- Whether a leg can be moved depends on its two accounts only. -/
theorem Payable.alike (payable : leg.Payable books)
    (same : ∀ id, leg.Names id → after.account? id = books.account? id) : leg.Payable after := by
  obtain ⟨positive, paying, receiving, joins, rest⟩ := payable
  exact ⟨positive, paying, receiving, joins.alike same, rest⟩

theorem Refused.alike {failure : Failure} (refused : leg.Refused books failure)
    (same : ∀ id, leg.Names id → after.account? id = books.account? id) : leg.Refused after failure := by
  cases refused with
  | amount none => exact .amount none
  | account positive named absent lowest =>
    exact .account positive named ((same _ named).trans absent) fun other namedToo absentToo =>
      lowest other namedToo ((same other namedToo).symm.trans absentToo)
  | currency positive joins different => exact .currency positive (joins.alike same) different
  | funds positive joins equal short => exact .funds positive (joins.alike same) equal short
  | room positive joins equal covered apart full => exact .room positive (joins.alike same) equal covered apart full

end Alike

theorem Payable.present {leg : Leg} {books : Books} (payable : leg.Payable books) {id : AccountId}
    (named : leg.Names id) : books.HasAccount id := by
  obtain ⟨_, paying, receiving, joins, _⟩ := payable
  rcases named with rfl | rfl
  · exact Books.hasAccount_of_account? joins.payer
  · exact Books.hasAccount_of_account? joins.payee

/-- The accounts of a leg that can be moved hold one currency. -/
theorem Payable.currency {leg : Leg} {books : Books} (payable : leg.Payable books) {id other : AccountId}
    (named : leg.Names id) (namedToo : leg.Names other) {account found : Account}
    (atId : books.account? id = some account) (atOther : books.account? other = some found) :
    account.currency = found.currency := by
  obtain ⟨_, paying, receiving, joins, same, _⟩ := payable
  have every {id : AccountId} (named : leg.Names id) {account : Account} (atId : books.account? id = some account) :
      account.currency = paying.currency := by
    rcases named with rfl | rfl
    · rw [Option.some.inj (atId.symm.trans joins.payer)]
    · rw [Option.some.inj (atId.symm.trans joins.payee), same]
  rw [every named atId, every namedToo atOther]

/-- A payee can be found to be without room only once the payer could be charged. -/
theorem Refused.covered {leg : Leg} {books : Books} (refused : leg.Refused books (.numeric .overflow)) :
    0 < leg.amount ∧ ∃ paying, books.account? leg.payer = some paying ∧ leg.amount ≤ paying.balance := by
  cases refused with
  | room positive joins same covered apart full => exact ⟨positive, _, joins.payer, covered⟩

/-- What a leg that is refused leaves behind in a scope that goes on: only whether the payee has room is found out after
the payer was charged. -/
def leavings (leg : Leg) (books : Books) (failure : Failure) : Books :=
  if failure = .numeric .overflow then books.adjust leg.payer (-leg.amount) else books

/-- An account after the leg was moved. -/
def applied (leg : Leg) (account : Account) : Account :=
  { account with balance := account.balance - leg.outOf account.id + leg.into account.id }

theorem applied_id (leg : Leg) (account : Account) : (leg.applied account).id = account.id := rfl

/-- An account that pays itself is left with what it had. -/
theorem applied_of_self {leg : Leg} (self : leg.payer = leg.payee) (account : Account) :
    leg.applied account = account := by
  unfold applied outOf into
  rw [self, Int.sub_add_cancel]

theorem applied_of_not_names {leg : Leg} {account : Account} (apart : ¬leg.Names account.id) :
    leg.applied account = account := by
  obtain ⟨notPayer, notPayee⟩ := not_or.mp apart
  unfold applied outOf into
  rw [if_neg notPayer, if_neg notPayee, Int.sub_zero, Int.add_zero]

/-- It makes no difference to an account which of two legs is moved first. -/
theorem applied_comm (first second : Leg) (account : Account) :
    first.applied (second.applied account) = second.applied (first.applied account) := by
  unfold applied
  simp only [Account.mk.injEq, and_true, true_and]
  omega

end Leg

namespace Books

/-- The books after a leg was moved: both balances are changed, and a transfer and a line for either end are added. -/
def moved (books : Books) (leg : Leg) : Books :=
  { books with
    accounts := books.accounts.map leg.applied
    transfers := books.transfers ++ [⟨nextId books.transfers, leg.payer, leg.payee, leg.amount⟩]
    entries := books.entries ++
      [⟨nextId books.entries, leg.payer, -leg.amount⟩, ⟨nextId books.entries + 1, leg.payee, leg.amount⟩] }

/-- The books after a trade of two legs was recorded. -/
def traded (books : Books) (first second : Leg) : Books :=
  { books with trades := books.trades ++ [⟨nextId books.trades, first, second⟩] }

theorem moved_account? (books : Books) (leg : Leg) (id : AccountId) :
    (books.moved leg).account? id = (books.account? id).map leg.applied :=
  books.account?_map leg.applied_id id

theorem moved_accounts_of_self (books : Books) {leg : Leg} (self : leg.payer = leg.payee) :
    (books.moved leg).accounts = books.accounts :=
  (List.map_congr_left fun account _ => leg.applied_of_self self account).trans (List.map_id _)

theorem moved_hasAccount {books : Books} {leg : Leg} {id : AccountId} :
    (books.moved leg).HasAccount id ↔ books.HasAccount id := by
  rw [hasAccount_iff_account?, hasAccount_iff_account?, moved_account?]
  simp only [Option.map_eq_some_iff, exists_comm, exists_eq_right']

/-- An account that is at neither end of a leg is not touched by it. -/
theorem moved_account?_of_not_names (books : Books) {leg : Leg} {id : AccountId} (apart : ¬leg.Names id) :
    (books.moved leg).account? id = books.account? id := by
  rw [moved_account?]
  cases found : books.account? id with
  | none => rfl
  | some account =>
    rw [← account?_id found] at apart
    rw [Option.map_some, Leg.applied_of_not_names apart]

/-- A booking to one end and then one to the other change an account as the leg does. -/
theorem post_post_accounts (books : Books) (leg : Leg) :
    ((books.post leg.payer (-leg.amount)).post leg.payee leg.amount).accounts = (books.moved leg).accounts := by
  unfold post adjust moved
  rw [List.map_map]
  refine List.map_congr_left fun account _ => ?_
  unfold Leg.applied Leg.outOf Leg.into
  rw [Function.comp_apply]
  by_cases pays : account.id = leg.payer
  · rw [if_pos pays, if_pos pays.symm]
    by_cases paid : account.id = leg.payee
    · rw [if_pos paid, if_pos paid.symm, Int.sub_eq_add_neg]
    · rw [if_neg paid, if_neg (Ne.symm paid), Int.sub_eq_add_neg, Int.add_zero]
  · rw [if_neg pays, if_neg (Ne.symm pays), Int.sub_zero]
    by_cases paid : account.id = leg.payee
    · rw [if_pos paid, if_pos paid.symm]
    · rw [if_neg paid, if_neg (Ne.symm paid), Int.add_zero]

theorem post_post_entries (books : Books) (leg : Leg) :
    ((books.post leg.payer (-leg.amount)).post leg.payee leg.amount).entries = (books.moved leg).entries := by
  unfold post moved
  rw [nextId_append, List.append_assoc]
  rfl

end Books

/-- The payer has the amount, and once it has paid there is room for it at the payee. -/
theorem Leg.Payable.admits {leg : Leg} {books : Books} (payable : leg.Payable books) (formed : books.WellFormed) :
    books.Admits leg.payer (-leg.amount) ∧
      (books.post leg.payer (-leg.amount)).Admits leg.payee leg.amount := by
  obtain ⟨positive, paying, receiving, joins, _, covered, room⟩ := payable
  have paid := formed.balances paying (formed.account?_eq_some.mp joins.payer).1
  have received := formed.balances receiving (formed.account?_eq_some.mp joins.payee).1
  refine ⟨⟨paying, joins.payer, by omega⟩, ?_⟩
  have looked := books.account?_adjust leg.payer (-leg.amount) leg.payee
  rw [joins.payee, Option.map_some, Books.account?_id joins.payee] at looked
  by_cases self : leg.payer = leg.payee
  · rw [if_pos self.symm] at looked
    exact ⟨_, looked, by simpa using received⟩
  · rw [if_neg (Ne.symm self)] at looked
    have fits := room.resolve_left self
    exact ⟨_, looked, by omega⟩

theorem Transferred.after_eq_moved {leg : Leg} {books after : Books} {row : Transfer}
    (done : Transferred leg.payer leg.payee leg.amount books row after) : after = books.moved leg := by
  have rows := congrArg₂ (fun accounts entries => { books.moved leg with accounts, entries })
    (books.post_post_accounts leg) (books.post_post_entries leg)
  rw [done.after_eq, done.row_eq]
  exact rows

end Bourse

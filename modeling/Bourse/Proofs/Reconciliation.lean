import Bourse.Proofs.Movements
import Bourse.Proofs.OrderRows
import Bourse.Proofs.Runs
import Mathlib.Algebra.Order.Ring.Int

namespace Bourse

open Scope

namespace Books

/-- The amounts of the lines of one account, oldest first. -/
def amountsOf (books : Books) (id : AccountId) : List Int := (books.entriesOf id).map (·.amount)

/-- Every balance is the sum of the lines of its account, and at no line on the way was the sum out of the
range of balances. -/
structure Reconciled (books : Books) : Prop where
  sums : ∀ account ∈ books.accounts, account.balance = (books.amountsOf account.id).sum
  running : ∀ account ∈ books.accounts, ∀ earlier, earlier <+: books.amountsOf account.id →
    0 ≤ earlier.sum ∧ earlier.sum ≤ greatestWord

theorem amountsOf_append (books : Books) (entry : Entry) (id : AccountId) :
    amountsOf { books with entries := books.entries ++ [entry] } id =
      books.amountsOf id ++ if entry.account = id then [entry.amount] else [] := by
  unfold amountsOf entriesOf
  rw [List.filter_append, List.map_append]
  by_cases own : entry.account = id
  · simp [own]
  · simp [own]

theorem WellFormed.amountsOf_new {books : Books} (formed : books.WellFormed) :
    books.amountsOf (nextId books.accounts) = [] := by
  unfold amountsOf entriesOf
  rw [List.map_eq_nil_iff, List.filter_eq_nil_iff]
  intro entry member
  obtain ⟨account, present, same⟩ := formed.entryAccounts entry member
  have older := (formed.accountIds.range present).2
  rw [decide_eq_true_eq, ← same]
  exact Int.ne_of_lt older

/-- The balance of an account is the last of its running sums, so that a booking which the account admits adds
one more that is in range. -/
theorem Reconciled.post {books : Books} (reconciled : books.Reconciled) (formed : books.WellFormed)
    {id : AccountId} {amount : Int} (admits : books.Admits id amount) : (books.post id amount).Reconciled := by
  obtain ⟨holder, found, range⟩ := admits
  obtain ⟨present, own⟩ := formed.account?_eq_some.mp found
  have total := reconciled.sums holder present
  have lines (other : AccountId) : (books.post id amount).amountsOf other =
      books.amountsOf other ++ if id = other then [amount] else [] :=
    amountsOf_append (books.adjust id amount) _ other
  constructor
  · intro account member
    obtain ⟨before, old, rfl⟩ := List.mem_map.mp member
    have sum := reconciled.sums before old
    rw [lines]
    by_cases same : before.id = id
    · simp only [if_pos same, if_pos same.symm, List.sum_append, List.sum_singleton, sum]
    · simp only [if_neg same, if_neg (Ne.symm same), List.append_nil, sum]
  · intro account member earlier before
    obtain ⟨old, listed, rfl⟩ := List.mem_map.mp member
    rw [lines] at before
    by_cases same : old.id = id
    · simp only [if_pos same, if_pos same.symm] at before
      rcases List.prefix_concat_iff.mp before with rfl | shorter
      · rw [List.sum_append, List.sum_singleton, same, ← own, ← total]
        exact range
      · exact reconciled.running old listed earlier shorter
    · simp only [if_neg same, if_neg (Ne.symm same), List.append_nil] at before
      exact reconciled.running old listed earlier before

theorem Reconciled.of_same {books after : Books} (reconciled : books.Reconciled)
    (same : (after.accounts, after.entries) = (books.accounts, books.entries)) : after.Reconciled := by
  obtain ⟨accounts, entries⟩ := Prod.mk.inj same
  constructor
  · intro account member
    unfold amountsOf entriesOf
    rw [entries]
    exact reconciled.sums account (accounts ▸ member)
  · intro account member earlier before
    unfold amountsOf entriesOf at before
    rw [entries] at before
    exact reconciled.running account (accounts ▸ member) earlier before

/-- Well-formed books in which balances and lines agree. -/
structure Balanced (books : Books) : Prop where
  formed : books.WellFormed
  reconciled : books.Reconciled

theorem balanced_empty : empty.Balanced := ⟨wellFormed_empty, List.forall_mem_nil _, List.forall_mem_nil _⟩

end Books

namespace Scope

variable {α : Type}

/-- Work that writes neither accounts nor lines cannot put them out of balance. -/
theorem secures_balanced {work : Scope α} (made : Makes True work)
    (kept : Keeps (fun books => (books.accounts, books.entries)) work) : Secures Books.Balanced work := by
  intro books value after balanced ran
  have same := kept books
  rw [ran] at same
  exact ⟨made.wellFormed balanced.formed ran, balanced.reconciled.of_same same⟩

theorem transfer_secures_balanced (payer payee : AccountId) (amount : Int) :
    Secures Books.Balanced (transfer payer payee amount) := by
  intro books row after balanced ran
  have done := transfer_of_ok balanced.formed ran
  have charged := balanced.reconciled.post balanced.formed done.charged
  have credited := charged.post (balanced.formed.post done.charged) done.credited
  refine ⟨(transfer_makes _ _ _).wellFormed balanced.formed ran, credited.of_same ?_⟩
  rw [done.after_eq]

theorem deposit_secures_balanced (id : AccountId) (amount : Int) : Secures Books.Balanced (deposit id amount) := by
  intro books entry after balanced ran
  obtain ⟨_, admits, _, rfl⟩ := deposit_of_ok balanced.formed ran
  exact ⟨balanced.formed.post admits, balanced.reconciled.post balanced.formed admits⟩

theorem settle_secures_balanced (first second : Leg) : Secures Books.Balanced (settle first second) :=
  settle_secures (secures_balanced (postTrade_makes _ _) (postTrade_keeps (fun _ _ => rfl) _ _))
    transfer_secures_balanced

theorem recordFill_secures_balanced (id : OrderId) (expected remaining : Int) (status : Status) :
    Secures Books.Balanced (recordFill id expected remaining status) :=
  secures_balanced (recordFill_makes _ _ _ _) (recordFill_keeps (fun _ _ => rfl) _ _ _ _)

theorem cancelOrder_secures_balanced (id : OrderId) : Secures Books.Balanced (cancelOrder id) :=
  secures_balanced (cancelOrder_makes _) (cancelOrder_keeps (fun _ _ => rfl) _)

theorem fill_secures_balanced (ticket : Ticket) (resting : Order) (quantity : Int) :
    Secures Books.Balanced (fill ticket resting quantity) :=
  fill_secures settle_secures_balanced recordFill_secures_balanced ticket resting quantity

/-- A new account begins with nothing, and no line names it yet. -/
theorem openAccount_secures_balanced (owner : String) (currency : Currency) :
    Secures Books.Balanced (openAccount owner currency) := by
  intro books account after balanced ran
  have formed := (openAccount_makes owner currency).wellFormed balanced.formed ran
  obtain ⟨_, rfl⟩ := Prod.mk.inj ran
  have fresh := balanced.formed.amountsOf_new
  refine ⟨formed, forall_mem_append_singleton balanced.reconciled.sums ?_,
    forall_mem_append_singleton balanced.reconciled.running fun earlier before => ?_⟩
  · exact (congrArg List.sum fresh).symm
  · obtain rfl := List.prefix_nil.mp (fresh ▸ before)
    exact ⟨Int.le_refl 0, (by decide : (0 : Int) ≤ greatestWord)⟩

end Scope

/-- An operation that writes balances and lines only together. -/
def Operation.Ledgered : Operation → Prop
  | credit .. | debit .. | postEntry .. => False
  | _ => True

theorem Operation.perform_secures_balanced {operation : Operation} (ledgered : operation.Ledgered) :
    Secures Books.Balanced operation.perform := by
  cases operation with
  | credit | debit | postEntry => exact ledgered.elim
  | openAccount => exact (openAccount_secures_balanced _ _).map _
  | deposit => exact (deposit_secures_balanced _ _).map _
  | transfer => exact (transfer_secures_balanced _ _ _).map _
  | settle => exact (settle_secures_balanced _ _).map _
  | postTransfer leg =>
    refine (secures_balanced (postTransfer_makes leg) fun books => ?_).map _
    unfold Scope.postTransfer
    repeat' split
    all_goals rfl
  | _ =>
    exact secures_balanced (perform_makes _ (.inl trivial))
      (perform_keeps (fun _ _ => rfl) (fun _ _ => rfl) (fun _ _ => rfl) id)

/-- A call that leaves balances and lines to deposits and transfers, and undoes what fails. -/
def Call.Ledgered (call : Call) : Prop := call.Each Operation.Ledgered ∧ call.Strict

theorem Call.run_balanced {desk : Desk} {call : Call} (ledgered : call.Ledgered) {books : Books}
    (balanced : books.Balanced) : (call.run desk books).2.Balanced := by
  refine run_preserves desk fill_secures_balanced
    (fun ticket filled => secures_balanced (storeOrder_makes ticket filled)
      (storeOrder_keeps (fun _ _ => rfl) ticket filled))
    cancelOrder_secures_balanced ?_ (.inl ledgered.2) balanced
  cases call with
  | perform => exact Operation.perform_secures_balanced ledgered.1
  | batch => exact fun operation member => Operation.perform_secures_balanced (ledgered.1 operation member)
  | _ => trivial

theorem Reach.balanced {books : Books} (reach : Reach (fun _ call => call.Ledgered) .empty books) :
    books.Balanced := by
  induction reach with
  | start => exact Books.balanced_empty
  | next _ ledgered ih => exact Call.run_balanced ledgered ih

namespace Books

/-- The running sums are computed one by one; none of them stops the computation if all of them fit. -/
theorem addAmounts_eq_ok {start : Int} {amounts : List Int}
    (fits : ∀ earlier, earlier <+: amounts → FitsWord (start + earlier.sum)) :
    addAmounts start amounts = .ok (start + amounts.sum) := by
  induction amounts generalizing start with
  | nil => rw [addAmounts, List.sum_nil, Int.add_zero]
  | cons amount rest ih =>
    have first := fits [amount] (List.prefix_append [amount] rest)
    rw [List.sum_singleton] at first
    rw [addAmounts, if_pos first, List.sum_cons, ← Int.add_assoc]
    refine ih fun earlier before => ?_
    have longer := fits (amount :: earlier) (List.cons_prefix_cons.mpr ⟨rfl, before⟩)
    rwa [List.sum_cons, ← Int.add_assoc] at longer

theorem Balanced.entryTotal {books : Books} (balanced : books.Balanced) {account : Account}
    (member : account ∈ books.accounts) : books.entryTotal account.id = .ok account.balance := by
  have total : books.entryTotal account.id = .ok (0 + (books.amountsOf account.id).sum) := by
    refine addAmounts_eq_ok fun earlier before => ?_
    have range := balanced.reconciled.running account member earlier before
    rw [Int.zero_add]
    exact ⟨Int.le_trans (by decide) range.1, range.2⟩
  rw [total, Int.zero_add, balanced.reconciled.sums account member]

/-- An account reconciles exactly if its lines can be added up and give its balance. -/
theorem WellFormed.reconcile_iff {books : Books} (formed : books.WellFormed) {account : Account}
    (member : account ∈ books.accounts) :
    Scope.reconcile account.id books = (.ok true, books) ↔ books.entryTotal account.id = .ok account.balance := by
  have found := findAccount_eq_ok.mpr (formed.account?_eq_some.mpr ⟨member, rfl⟩)
  have looked : Scope.account account.id books = (.ok account, books) := read_eq_ok.mpr ⟨found, rfl⟩
  unfold Scope.reconcile
  rw [bind_of_ok looked]
  constructor
  · intro ran
    obtain ⟨sum, _, added, compared⟩ := bind_eq_ok.mp ran
    obtain ⟨total, _⟩ := read_eq_ok.mp added
    obtain ⟨same, _⟩ := pure_eq_ok.mp compared
    rw [of_decide_eq_true same]
    exact total
  · intro total
    have added : Scope.read (·.entryTotal account.id) books = (.ok account.balance, books) :=
      read_eq_ok.mpr ⟨total, rfl⟩
    exact bind_eq_ok.mpr ⟨account.balance, books, added, pure_eq_ok.mpr ⟨decide_eq_true rfl, rfl⟩⟩

theorem Balanced.reconcile {books : Books} (balanced : books.Balanced) {account : Account}
    (member : account ∈ books.accounts) : Scope.reconcile account.id books = (.ok true, books) :=
  (balanced.formed.reconcile_iff member).mpr (balanced.entryTotal member)

theorem WellFormed.entriesOf_ascending {books : Books} (formed : books.WellFormed) (id : AccountId) :
    ((books.entriesOf id).map (·.id)).Pairwise (· < ·) :=
  formed.entryIds.ids_ascending.sublist (List.filter_sublist.map _)

end Books

/-- Balances and lines agree after any calls that leave the lines to deposits and transfers, and also did so
after each single line. -/
theorem Reach.accounts_reconcile {books : Books} (reach : Reach (fun _ call => call.Ledgered) .empty books)
    {account : Account} (member : account ∈ books.accounts) :
    (0 ≤ account.balance ∧ account.balance ≤ greatestWord) ∧
      account.balance = (books.amountsOf account.id).sum ∧
      ((books.entriesOf account.id).map (·.id)).Pairwise (· < ·) ∧
      (∀ earlier, earlier <+: books.amountsOf account.id → 0 ≤ earlier.sum ∧ earlier.sum ≤ greatestWord) ∧
      books.entryTotal account.id = .ok account.balance ∧
      reconcile account.id books = (.ok true, books) := by
  have balanced := reach.balanced
  exact ⟨balanced.formed.balances account member, balanced.reconciled.sums account member,
    balanced.formed.entriesOf_ascending account.id, balanced.reconciled.running account member,
    balanced.entryTotal member, balanced.reconcile member⟩

/-- The second fill of the bid fails for lack of funds after its first leg was moved, and the last transfer
leaves its account and comes back to it. -/
theorem accounts_reconcile_after_interruption :
    let calls := twoAsks ++ [.submit ⟨"bob"⟩ ⟨.bid, ⟨.btc, .usdt⟩, 30, 8, 4, 3⟩, .perform (.transfer 2 2 40)]
    let account : Account := ⟨2, "ann", 100, .usdt⟩
    (∀ call ∈ calls, call.Ledgered) ∧ account ∈ (Desk.serve {} calls .empty).accounts ∧
      (Desk.serve {} calls .empty).amountsOf 2 = [100, -40, 40] ∧
      reconcile 2 (Desk.serve {} calls .empty) = (.ok true, Desk.serve {} calls .empty) := by
  intro calls account
  have ledgered : ∀ call ∈ calls, call.Ledgered := by
    simp [calls, twoAsks, Call.Ledgered, Call.Each, Call.Strict, Operation.Ledgered]
  have member : account ∈ (Desk.serve {} calls .empty).accounts := by decide +kernel
  have reached : Reach (fun _ call => call.Ledgered) .empty (Desk.serve {} calls .empty) :=
    Reach.serve .start ledgered
  exact ⟨ledgered, member, by decide +kernel, (reached.accounts_reconcile member).2.2.2.2.2⟩

end Bourse

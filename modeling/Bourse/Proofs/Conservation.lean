import Bourse.Proofs.History
import Bourse.Proofs.Holders
import Bourse.Proofs.OrderRows
import Bourse.Proofs.Totals

namespace Bourse

open Scope

namespace Books

/-- The balances of all accounts of a currency together. -/
def held (books : Books) (currency : Currency) : Int :=
  sumWhere (·.currency = currency) (·.balance) books.accounts

def currency? (books : Books) (id : AccountId) : Option Currency := (books.account? id).map (·.currency)

/-- What deposits have brought into the accounts of a currency. -/
def broughtIn (books : Books) (made : List Deposit) (currency : Currency) : Int :=
  sumWhere (fun deposit => books.currency? deposit.account = some currency) (·.amount) made

theorem currency?_adjust (books : Books) (id : AccountId) (amount : Int) (other : AccountId) :
    (books.adjust id amount).currency? other = books.currency? other := by
  unfold currency?
  rw [account?_adjust, Option.map_map]
  congr 1
  funext account
  rw [Function.comp_apply]
  split <;> rfl

/-- A change of one balance shows in the currency of that account and in no other. -/
theorem WellFormed.held_adjust {books : Books} (formed : books.WellFormed) {id : AccountId} {unit : Currency}
    (own : books.currency? id = some unit) (amount : Int) (currency : Currency) :
    (books.adjust id amount).held currency = books.held currency + if unit = currency then amount else 0 := by
  obtain ⟨account, found, rfl⟩ := Option.map_eq_some_iff.mp own
  obtain ⟨present, rfl⟩ := formed.account?_eq_some.mp found
  have changed := formed.accountIds.sumWhere_change present
    (fun other => { other with balance := other.balance + amount }) (·.currency = currency) (·.balance)
  unfold Books.held Books.adjust
  by_cases counts : account.currency = currency
  · simp only [if_pos counts] at changed ⊢
    omega
  · simp only [if_neg counts] at changed ⊢
    omega

theorem currency?_of_writes {raced : Prop} {books after : Books} (writes : Writes raced books after)
    {id : AccountId} {unit : Currency} (known : books.currency? id = some unit) :
    after.currency? id = some unit := by
  obtain ⟨account, found, rfl⟩ := Option.map_eq_some_iff.mp known
  obtain ⟨balance, now⟩ := writes.account? found
  rw [currency?, now, Option.map_some]

theorem Admits.currency? {books : Books} {id : AccountId} {amount : Int} (admits : books.Admits id amount) :
    ∃ unit, books.currency? id = some unit := by
  obtain ⟨account, found, _⟩ := admits
  exact ⟨account.currency, by rw [Books.currency?, found, Option.map_some]⟩

/-- No currency holds more or less than deposits have brought in, and no transfer leads from one currency to
another. -/
structure Conserved (made : List Deposit) (books : Books) : Prop where
  formed : books.WellFormed
  known : ∀ deposit ∈ made, ∃ unit, books.currency? deposit.account = some unit
  held : ∀ currency, books.held currency = books.broughtIn made currency
  paired : ∀ transfer ∈ books.transfers, ∃ unit,
    books.currency? transfer.payer = some unit ∧ books.currency? transfer.payee = some unit

theorem conserved_empty : Conserved [] empty :=
  ⟨wellFormed_empty, List.forall_mem_nil _, fun _ => rfl, List.forall_mem_nil _⟩

variable {made : List Deposit} {books after : Books}

theorem broughtIn_congr
    (same : ∀ deposit ∈ made, after.currency? deposit.account = books.currency? deposit.account)
    (currency : Currency) : after.broughtIn made currency = books.broughtIn made currency :=
  sumWhere_congr fun deposit member => by rw [same deposit member]

theorem Conserved.of_same (conserved : books.Conserved made) (formed : after.WellFormed)
    (same : (after.accounts, after.transfers) = (books.accounts, books.transfers)) : after.Conserved made := by
  obtain ⟨accounts, transfers⟩ := Prod.mk.inj same
  have units : after.currency? = books.currency? := by
    funext id
    unfold currency? account?
    rw [accounts]
  refine ⟨formed, units ▸ conserved.known, fun currency => ?_, ?_⟩
  · rw [broughtIn_congr (fun deposit _ => congrFun units deposit.account), ← conserved.held, Books.held, accounts,
      Books.held]
  · rw [transfers, units]
    exact conserved.paired

/-- What is moved from one account to another of its currency stays in that currency. -/
theorem Conserved.transfer (conserved : books.Conserved made) {payer payee : AccountId} {amount : Int}
    {row : Transfer} (done : Transferred payer payee amount books row after) (formed : after.WellFormed) :
    after.Conserved made := by
  obtain ⟨paying, receiving, atPayer, atPayee, same⟩ := done.currencies
  have out : books.currency? payer = some paying.currency := by rw [currency?, atPayer, Option.map_some]
  have into : books.currency? payee = some paying.currency := by rw [currency?, atPayee, Option.map_some, same]
  have units (id : AccountId) : after.currency? id = books.currency? id := by
    rw [done.after_eq]
    exact (currency?_adjust _ _ _ _).trans (currency?_adjust _ _ _ _)
  -- The payee may be the payer: its balance is the one that the charge has left.
  have charged := conserved.formed.adjust done.charged
  refine ⟨formed, fun deposit member => ?_, fun currency => ?_, ?_⟩
  · rw [units]
    exact conserved.known deposit member
  · have total : after.held currency = ((books.adjust payer (-amount)).adjust payee amount).held currency := by
      rw [done.after_eq]
      rfl
    rw [broughtIn_congr (fun deposit _ => units deposit.account), ← conserved.held, total,
      charged.held_adjust ((currency?_adjust _ _ _ _).trans into), conserved.formed.held_adjust out]
    split <;> omega
  · have rows : after.transfers = books.transfers ++ [row] := by rw [done.after_eq]
    simp only [rows, units]
    exact forall_mem_append_singleton conserved.paired ⟨paying.currency, done.row_eq ▸ ⟨out, into⟩⟩

theorem Conserved.openAccount (conserved : books.Conserved made) (owner : String) (currency : Currency)
    (formed : WellFormed
      { books with accounts := books.accounts ++ [⟨nextId books.accounts, owner, 0, currency⟩] }) :
    Conserved made
      { books with accounts := books.accounts ++ [⟨nextId books.accounts, owner, 0, currency⟩] } := by
  have kept {id : AccountId} {unit : Currency} (known : books.currency? id = some unit) :=
    currency?_of_writes (.single (.account owner currency : Write False books _)) known
  refine ⟨formed, fun deposit member => ?_, fun unit => ?_, fun transfer member => ?_⟩
  · obtain ⟨unit, known⟩ := conserved.known deposit member
    exact ⟨unit, kept known⟩
  · rw [broughtIn_congr fun deposit member => ?_, ← conserved.held]
    · unfold Books.held
      rw [sumWhere_concat, ite_self, Int.add_zero]
    · obtain ⟨unit, known⟩ := conserved.known deposit member
      rw [known, kept known]
  · obtain ⟨unit, out, into⟩ := conserved.paired transfer member
    exact ⟨unit, kept out, kept into⟩

/-- A deposit adds as much to what is held as to what was brought in. -/
theorem Conserved.deposit (conserved : books.Conserved made) {id : AccountId} {amount : Int}
    (admits : books.Admits id amount) : (books.post id amount).Conserved (made ++ [⟨id, amount⟩]) := by
  obtain ⟨unit, own⟩ := admits.currency?
  have units (other : AccountId) : (books.post id amount).currency? other = books.currency? other :=
    currency?_adjust books id amount other
  refine ⟨conserved.formed.post admits, ?_, fun currency => ?_, ?_⟩
  · simp only [units]
    exact forall_mem_append_singleton conserved.known ⟨unit, own⟩
  · have total : (books.post id amount).held currency = (books.adjust id amount).held currency := rfl
    rw [broughtIn_congr (fun deposit _ => units deposit.account), broughtIn, sumWhere_concat, total,
      conserved.formed.held_adjust own, conserved.held, broughtIn]
    simp only [own, Option.some.injEq]
  · simp only [units]
    exact conserved.paired

end Books

namespace Scope

variable {α : Type} {made : List Deposit}

theorem secures_conserved {work : Scope α} (makes : Makes True work)
    (kept : Keeps (fun books => (books.accounts, books.transfers)) work) :
    Secures (Books.Conserved made) work := by
  intro books value after conserved ran
  have same := kept books
  rw [ran] at same
  exact conserved.of_same (makes.wellFormed conserved.formed ran) same

theorem transfer_secures_conserved (payer payee : AccountId) (amount : Int) :
    Secures (Books.Conserved made) (transfer payer payee amount) := by
  intro books row after conserved ran
  exact conserved.transfer (transfer_of_ok conserved.formed ran)
    ((transfer_makes _ _ _).wellFormed conserved.formed ran)

theorem settle_secures_conserved (first second : Leg) : Secures (Books.Conserved made) (settle first second) :=
  settle_secures (secures_conserved (postTrade_makes _ _) (postTrade_keeps (fun _ _ => rfl) _ _))
    transfer_secures_conserved

/-- A fill that comes to its end has moved the funds of both legs, and one that does not has moved none. -/
theorem fill_secures_conserved (ticket : Ticket) (resting : Order) (quantity : Int) :
    Secures (Books.Conserved made) (fill ticket resting quantity) :=
  fill_secures settle_secures_conserved
    (fun _ _ _ _ => secures_conserved (recordFill_makes _ _ _ _) (recordFill_keeps (fun _ _ => rfl) _ _ _ _))
    ticket resting quantity

theorem openAccount_secures_conserved (owner : String) (currency : Currency) :
    Secures (Books.Conserved made) (openAccount owner currency) := by
  intro books account after conserved ran
  have formed := (openAccount_makes owner currency).wellFormed conserved.formed ran
  obtain ⟨_, rfl⟩ := Prod.mk.inj ran
  exact conserved.openAccount owner currency formed

end Scope

/-- An operation that moves funds only by deposits and between two accounts at once. -/
def Operation.Conserving : Operation → Prop
  | credit .. | debit .. | postTransfer .. | postEntry .. => False
  | _ => True

theorem Operation.Conserving.records {operation : Operation} (conserving : operation.Conserving) :
    operation.Records Books.Conserved := by
  cases operation with
  | credit | debit | postTransfer | postEntry => exact conserving.elim
  | deposit id amount =>
    intro made books answer after conserved ran
    obtain ⟨entry, brought, _⟩ := map_eq_ok.mp ran
    obtain ⟨_, admits, _, rfl⟩ := deposit_of_ok conserved.formed brought
    exact conserved.deposit admits
  | openAccount => exact Internal.records trivial fun _ => (openAccount_secures_conserved _ _).map _
  | transfer => exact Internal.records trivial fun _ => (transfer_secures_conserved _ _ _).map _
  | settle => exact Internal.records trivial fun _ => (settle_secures_conserved _ _).map _
  | _ =>
    exact Internal.records trivial fun _ => secures_conserved (perform_makes _ (.inl trivial))
      (perform_keeps (fun _ _ => rfl) (fun _ _ => rfl) (fun _ _ => rfl) id)

/-- A call that moves funds only by deposits and between two accounts at once, and undoes what fails. -/
def Call.Conserving (call : Call) : Prop := call.Each Operation.Conserving ∧ call.Strict

theorem Call.Conserving.run {call : Call} (conserving : call.Conserving) (desk : Desk) {made : List Deposit}
    {books : Books} (conserved : books.Conserved made) :
    (call.run desk books).2.Conserved (made ++ call.deposited (call.run desk books).1) := by
  refine run_records desk conserving.2 ?_ (fun _ => fill_secures_conserved)
    (fun _ ticket filled => secures_conserved (storeOrder_makes ticket filled)
      (storeOrder_keeps (fun _ _ => rfl) ticket filled))
    (fun _ id => secures_conserved (cancelOrder_makes id) (cancelOrder_keeps (fun _ _ => rfl) id)) conserved
  cases call with
  | perform => exact Operation.Conserving.records conserving.1
  | batch => exact fun operation member => (conserving.1 operation member).records
  | _ => trivial

theorem History.conserved {past : List Visit} {books : Books}
    (history : History (fun _ call => call.Conserving) past books) : books.Conserved (deposits past) := by
  induction history with
  | start => exact Books.conserved_empty
  | next _ conserving ih =>
    rw [deposits_next]
    exact conserving.run _ ih

/-- After any calls each currency holds what deposits have brought into its accounts, and no transfer has led
from one currency to another. -/
theorem History.money_conserved {past : List Visit} {books : Books}
    (history : History (fun _ call => call.Conserving) past books) :
    (∀ currency, books.held currency = books.broughtIn (deposits past) currency) ∧
      (∀ deposit ∈ deposits past, books.HasAccount deposit.account) ∧
      ∀ transfer ∈ books.transfers, ∃ payer ∈ books.accounts, ∃ payee ∈ books.accounts,
        (payer.id = transfer.payer ∧ payee.id = transfer.payee) ∧ payer.currency = payee.currency := by
  have conserved := history.conserved
  refine ⟨conserved.held, fun deposit member => ?_, fun transfer member => ?_⟩
  · obtain ⟨unit, known⟩ := conserved.known deposit member
    obtain ⟨account, found, _⟩ := Option.map_eq_some_iff.mp known
    exact Books.hasAccount_of_account? found
  · obtain ⟨unit, out, into⟩ := conserved.paired transfer member
    obtain ⟨payer, atPayer, rfl⟩ := Option.map_eq_some_iff.mp out
    obtain ⟨payee, atPayee, same⟩ := Option.map_eq_some_iff.mp into
    obtain ⟨paying, ownPayer⟩ := conserved.formed.account?_eq_some.mp atPayer
    obtain ⟨receiving, ownPayee⟩ := conserved.formed.account?_eq_some.mp atPayee
    exact ⟨payer, paying, payee, receiving, ⟨ownPayer, ownPayee⟩, same.symm⟩

/-- A submission is interrupted after one fill, a scope with a deposit is undone because the transfer after it
leads to another currency, and another scope is kept. -/
theorem money_conserved_after_undone_deposit :
    let calls := twoAsks ++ [.submit ⟨"bob"⟩ ⟨.bid, ⟨.btc, .usdt⟩, 30, 8, 4, 3⟩,
      .batch [.deposit 3 7, .transfer 1 2 5] false none, .batch [.deposit 2 11, .transfer 2 4 30] false none]
    let past := Desk.visits {} calls .empty
    let books := Desk.serve {} calls .empty
    (∀ call ∈ calls, call.Conserving) ∧ deposits past = [⟨1, 10⟩, ⟨4, 100⟩, ⟨2, 11⟩] ∧
      books.transfers.map (fun transfer => (transfer.payer, transfer.payee, transfer.amount)) =
        [(1, 3, 5), (4, 2, 100), (2, 4, 30)] ∧
      books.broughtIn (deposits past) .usdt = 111 ∧ books.held .usdt = books.broughtIn (deposits past) .usdt := by
  intro calls past books
  have conserving : ∀ call ∈ calls, call.Conserving := by
    simp [calls, twoAsks, Call.Conserving, Call.Each, Call.Strict, Operation.Conserving]
  have history : History (fun _ call => call.Conserving) past books := .of_calls conserving
  exact ⟨conserving, by decide +kernel, by decide +kernel, by decide +kernel, history.money_conserved.1 .usdt⟩

end Bourse

import Bourse.Balances
import Bourse.Postings

namespace Bourse

namespace Scope

def positive (amount : Int) : Scope Unit :=
  match requirePositive amount with
  | .ok _ => pure ()
  | .error error => fail (.numeric error)

/-- The two accounts of a movement. The one with the lower id is looked at first, whoever pays. -/
def endpoints (payer payee : AccountId) : Scope (Account × Account) := do
  let low ← account (min payer payee)
  let high ← account (max payer payee)
  pure (if payer ≤ payee then (low, high) else (high, low))

/-- Changes both balances and records the movement with a line for either account. Inside a scope that
goes on, a credit that is too large leaves the debit behind. -/
def move (payer payee : AccountId) (amount : Int) : Scope Transfer := do
  let _ ← debit payer amount
  let _ ← credit payee amount
  let transfer ← postTransfer ⟨payer, payee, amount⟩
  let _ ← postEntry payer (-amount)
  let _ ← postEntry payee amount
  pure transfer

/-- Moves a positive amount between two accounts of one currency. -/
def transfer (payer payee : AccountId) (amount : Int) : Scope Transfer := do
  positive amount
  let (paying, receiving) ← endpoints payer payee
  if paying.currency = receiving.currency then move payer payee amount
  else fail (.currencyMismatch payee paying.currency receiving.currency)

/-- Brings money into an account from outside. -/
def deposit (id : AccountId) (amount : Int) : Scope Entry := do
  positive amount
  let _ ← account id
  let _ ← credit id amount
  postEntry id amount

/-- Whether the balance of an account is the sum of its lines. -/
def reconcile (id : AccountId) : Scope Bool := do
  let found ← account id
  let sum ← read (·.entryTotal id)
  pure (found.balance = sum)

/-- Records a trade and moves the funds of both legs. -/
def settle (first second : Leg) : Scope Settlement := do
  positive first.amount
  positive second.amount
  let trade ← postTrade first second
  let firstTransfer ← transfer first.payer first.payee first.amount
  let secondTransfer ← transfer second.payer second.payee second.amount
  pure ⟨trade, firstTransfer, secondTransfer⟩

section Keeps

variable {γ : Type} {part : Books → γ}

theorem positive_keeps (amount : Int) : Keeps part (positive amount) := by
  unfold positive
  split
  · exact keeps_pure _
  · exact keeps_fail _

theorem endpoints_keeps (payer payee : AccountId) : Keeps part (endpoints payer payee) :=
  (keeps_read _).bind fun _ => (keeps_read _).bind fun _ => keeps_pure _

theorem move_keeps (apart : ApartFromFunds part) (payer payee : AccountId) (amount : Int) :
    Keeps part (move payer payee amount) :=
  (debit_keeps apart _ _).bind fun _ => (credit_keeps apart _ _).bind fun _ =>
    (postTransfer_keeps apart _).bind fun _ => (postEntry_keeps apart _ _).bind fun _ =>
    (postEntry_keeps apart _ _).bind fun _ => keeps_pure _

theorem transfer_keeps (apart : ApartFromFunds part) (payer payee : AccountId) (amount : Int) :
    Keeps part (transfer payer payee amount) := by
  refine (positive_keeps _).bind fun _ => (endpoints_keeps _ _).bind fun ends => ?_
  split
  split
  · exact move_keeps apart _ _ _
  · exact keeps_fail _

theorem deposit_keeps (apart : ApartFromFunds part) (id : AccountId) (amount : Int) :
    Keeps part (deposit id amount) :=
  (positive_keeps _).bind fun _ => (keeps_read _).bind fun _ => (credit_keeps apart _ _).bind fun _ =>
    postEntry_keeps apart _ _

theorem settle_keeps (apart : ApartFromFunds part)
    (trades : ∀ books trades, part { books with trades } = part books) (first second : Leg) :
    Keeps part (settle first second) :=
  (positive_keeps _).bind fun _ => (positive_keeps _).bind fun _ =>
    (postTrade_keeps trades _ _).bind fun _ => (transfer_keeps apart _ _ _).bind fun _ =>
    (transfer_keeps apart _ _ _).bind fun _ => keeps_pure _

end Keeps

end Scope

end Bourse

import Bourse.Books

namespace Bourse

namespace Books

def findAccount (books : Books) (id : AccountId) : Except Failure Account :=
  match books.account? id with
  | some account => .ok account
  | none => .error (.accountNotFound id)

/-- The accounts of one owner, oldest first. -/
def accountsOf (books : Books) (owner : String) : List Account :=
  books.accounts.filter (fun account => account.owner = owner)

def setBalance (books : Books) (id : AccountId) (balance : Int) : Books :=
  { books with
    accounts := books.accounts.map fun account =>
      if account.id = id then { account with balance } else account }

end Books

namespace Scope

def account (id : AccountId) : Scope Account := read (·.findAccount id)

/-- A new account is empty; money comes in by deposits and transfers. -/
def openAccount (owner : String) (currency : Currency) : Scope Account := fun books =>
  let account : Account := ⟨nextId books.accounts, owner, 0, currency⟩
  (.ok account, { books with accounts := books.accounts ++ [account] })

/-- Writes a balance into the row of an account just read. No row takes a negative one. -/
def writeBalance (account : Account) (balance : Int) : Scope Account := fun books =>
  if balance < 0 then (.error (.storage (.condition .balance)), books)
  else (.ok { account with balance }, books.setBalance account.id balance)

def credit (id : AccountId) (amount : Int) : Scope Account := do
  let found ← account id
  match credited found.balance amount with
  | .ok balance => writeBalance found balance
  | .error error => fail (.numeric error)

/-- An underflow is reported with the balance that was too small. -/
def debit (id : AccountId) (amount : Int) : Scope Account := do
  let found ← account id
  match debited found.balance amount with
  | .ok balance => writeBalance found balance
  | .error .underflow => fail (.insufficientFunds id found.balance amount)
  | .error error => fail (.numeric error)

section Keeps

variable {γ : Type} {part : Books → γ}

theorem writeBalance_keeps (apart : ApartFromFunds part) (found : Account) (balance : Int) :
    Keeps part (writeBalance found balance) := by
  intro books
  unfold writeBalance
  split
  · rfl
  · exact apart books _ books.transfers books.entries

theorem credit_keeps (apart : ApartFromFunds part) (id : AccountId) (amount : Int) :
    Keeps part (credit id amount) := by
  refine (keeps_read _).bind fun found => ?_
  split
  · exact writeBalance_keeps apart _ _
  · exact keeps_fail _

theorem debit_keeps (apart : ApartFromFunds part) (id : AccountId) (amount : Int) :
    Keeps part (debit id amount) := by
  refine (keeps_read _).bind fun found => ?_
  split
  · exact writeBalance_keeps apart _ _
  · exact keeps_fail _
  · exact keeps_fail _

end Keeps

end Scope

end Bourse

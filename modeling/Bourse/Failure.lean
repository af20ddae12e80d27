import Bourse.Account
import Bourse.Amount
import Bourse.Status
import Bourse.Side

namespace Bourse

abbrev OrderId := Int

abbrev TradeId := Int

abbrev TransferId := Int

abbrev EntryId := Int

/-- The largest number of orders listed at once. -/
def maxPageSize : Nat := 100

/-- What is wrong with something a caller asked for. -/
inductive Objection where
  | priceNotPositive
  | amountNotPositive
  | termsNotPositive
  | sameAccount
  | pageSize (size : Nat)
  | pageZero
  | emptyPath
  | remainingRange (order : OrderId) (expected remaining : Int)
  | statusMismatch (order : OrderId) (remaining : Int) (status : Status)
  | unknownName (name : UnknownName)
  | stated (text : String)
  deriving DecidableEq, Repr

def Objection.message : Objection → String
  | priceNotPositive => "price must be positive"
  | amountNotPositive => "amount must be positive"
  | termsNotPositive => "price and amount must be positive"
  | sameAccount => "source and destination accounts must differ"
  | pageSize size => s!"page size must be between 1 and {maxPageSize}, got {size}"
  | pageZero => "page numbers start at 1"
  | emptyPath => "database path cannot be empty"
  | remainingRange order expected remaining =>
    s!"remaining of order {order} cannot go from {expected} to {remaining}"
  | statusMismatch order remaining status =>
    s!"order {order} with remaining {remaining} cannot be " ++ status.text
  | unknownName name => name.message
  | stated text => text

/-- A condition that the tables put on their own rows. -/
inductive RowCondition where
  | balance
  | remaining
  | transferAmount
  | firstAmount
  | secondAmount
  deriving DecidableEq, Repr

def RowCondition.text : RowCondition → String
  | balance => "balance >= 0"
  | remaining => "remaining_amount >= 0 AND remaining_amount <= initial_amount"
  | transferAmount => "amount > 0"
  | firstAmount => "first_amount > 0"
  | secondAmount => "second_amount > 0"

/-- The kinds of value a column can hold. -/
inductive ColumnClass where
  | null
  | integer
  | real
  | text
  | blob
  deriving DecidableEq, Repr

def ColumnClass.name : ColumnClass → String
  | null => "Null"
  | integer => "Integer"
  | real => "Real"
  | text => "Text"
  | blob => "Blob"

/-- Why the tables refused to write or read a row. -/
inductive StorageFault where
  | noRow
  | missingAccount
  | condition (violated : RowCondition)
  | refusedInsert (side : Side)
  | sumOverflow
  | columnClass (found : ColumnClass)
  | columnText (position : Nat) (name : UnknownName)
  deriving DecidableEq, Repr

def StorageFault.message : StorageFault → String
  | noRow => "Query returned no rows"
  | missingAccount => "FOREIGN KEY constraint failed"
  | condition violated => "CHECK constraint failed: " ++ violated.text
  | refusedInsert side => side.text ++ "s refused"
  | sumOverflow => "integer overflow"
  | columnClass found => "Invalid column type " ++ found.name ++ " at index: 0, name: value"
  | columnText position name => s!"Conversion error from type Text at index: {position}, " ++ name.message

/-- Everything that can go wrong with a call. The last two wrap a failure met after fills were
already committed. -/
inductive Failure where
  | validation (objection : Objection)
  | invalidPair (text : String)
  | orderNotFound (order : OrderId)
  | accountNotFound (account : AccountId)
  | tradeNotFound (trade : TradeId)
  | transferNotFound (transfer : TransferId)
  | unauthorized (account : AccountId) (principal : String)
  | currencyMismatch (account : AccountId) (expected actual : Currency)
  | conflict (order : OrderId) (expected actual : Int) (status : Status)
  | wrongStatus (order : OrderId) (status : Status) (change : Change)
  | insufficientFunds (account : AccountId) (balance required : Int)
  | numeric (error : AmountError)
  | storage (fault : StorageFault)
  | interrupted (order : OrderId) (filled : Int) (cause : Failure)
  | unstored (filled : Int) (cause : Failure)
  deriving DecidableEq, Repr

/-- The failure to read a row back that stands on a pair which is not listed. -/
def Failure.unreadable (pair : Pair) : Failure := storage (.columnText 2 (.pair pair.text))

instance decideResultEq {ε α : Type} [DecidableEq ε] [DecidableEq α] : DecidableEq (Except ε α)
  | .ok a, .ok b => decidable_of_iff (a = b) (by rw [Except.ok.injEq])
  | .error a, .error b => decidable_of_iff (a = b) (by rw [Except.error.injEq])
  | .ok _, .error _ => isFalse nofun
  | .error _, .ok _ => isFalse nofun

/-- The coarse classification by which a caller picks its response. -/
inductive FailureKind where
  | validation
  | invalidPair
  | notFound
  | accountNotFound
  | unauthorized
  | currencyMismatch
  | conflict
  | insufficientFunds
  | internal
  deriving DecidableEq, Repr

def FailureKind.name : FailureKind → String
  | validation => "Validation"
  | invalidPair => "InvalidPair"
  | notFound => "NotFound"
  | accountNotFound => "AccountNotFound"
  | unauthorized => "Unauthorized"
  | currencyMismatch => "CurrencyMismatch"
  | conflict => "Conflict"
  | insufficientFunds => "InsufficientFunds"
  | internal => "Internal"

namespace Failure

def message : Failure → String
  | validation objection => "validation failed: " ++ objection.message
  | invalidPair text => s!"unsupported trading pair: {text}"
  | orderNotFound order => s!"order not found: {order}"
  | accountNotFound account => s!"account not found: {account}"
  | tradeNotFound trade => s!"trade not found: {trade}"
  | transferNotFound transfer => s!"transfer not found: {transfer}"
  | unauthorized account principal => s!"account {account} does not belong to {principal}"
  | currencyMismatch account expected actual =>
    s!"account {account} holds " ++ actual.code ++ ", expected " ++ expected.code
  | conflict order expected actual status =>
    s!"order {order} changed concurrently: expected remaining {expected}, found {actual} (" ++
      status.text ++ ")"
  | wrongStatus order status change =>
    "cannot apply " ++ change.name ++ s!" to order {order} in status " ++ status.text
  | insufficientFunds account balance required =>
    s!"insufficient funds in account {account}: balance {balance}, required {required}"
  | numeric error => "arithmetic error: " ++ error.message
  | storage fault => "storage error: " ++ fault.message
  | interrupted order filled cause =>
    s!"order {order} interrupted after filling {filled}: " ++ cause.message
  | unstored filled cause =>
    s!"order filled {filled} but could not be persisted: " ++ cause.message

/-- A wrapped failure is classified by its cause. -/
def kind : Failure → FailureKind
  | validation _ | numeric _ => .validation
  | invalidPair _ => .invalidPair
  | orderNotFound _ | tradeNotFound _ | transferNotFound _ => .notFound
  | accountNotFound _ => .accountNotFound
  | unauthorized .. => .unauthorized
  | currencyMismatch .. => .currencyMismatch
  | conflict .. | wrongStatus .. => .conflict
  | insufficientFunds .. => .insufficientFunds
  | storage _ => .internal
  | interrupted _ _ cause | unstored _ cause => cause.kind

/-- Listing again and submitting again may succeed after a conflict. A change that the status does not
allow is told apart only where it is not wrapped. -/
def mayRetry : Failure → Bool
  | wrongStatus .. => false
  | failure => failure.kind = .conflict

/-- What was already settled for the incoming order, known to the two wrappers only. -/
def filled? : Failure → Option Int
  | interrupted _ filled _ | unstored filled _ => some filled
  | _ => none

end Failure

/-- An unknown side or status is a fault of the ticket; an unknown currency or pair has a failure of
its own. -/
def UnknownName.toFailure : UnknownName → Failure
  | .currency text | .pair text => .invalidPair text
  | .side text => .validation (.unknownName (.side text))
  | .status text => .validation (.unknownName (.status text))

end Bourse

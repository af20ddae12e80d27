namespace Bourse

/-- Prices, quantities, balances and ids are whole numbers that fit a signed 64-bit word. -/
def leastWord : Int := -9223372036854775808

def greatestWord : Int := 9223372036854775807

def FitsWord (n : Int) : Prop := leastWord ≤ n ∧ n ≤ greatestWord

instance : DecidablePred FitsWord := fun n => inferInstanceAs (Decidable (leastWord ≤ n ∧ n ≤ greatestWord))

/-- Why an amount in minor currency units could not be computed. -/
inductive AmountError where
  | overflow
  | underflow
  | nonPositive
  deriving DecidableEq, Repr

def AmountError.message : AmountError → String
  | .overflow => "arithmetic overflow: result exceeded maximum value"
  | .underflow => "arithmetic underflow: result below minimum value"
  | .nonPositive => "value must be positive"

def requirePositive (n : Int) : Except AmountError Int :=
  if 0 < n then .ok n else .error .nonPositive

/-- The value in quote currency of `quantity` units of the base currency at `price`. -/
def notional (price quantity : Int) : Except AmountError Int :=
  if 0 < price ∧ 0 < quantity then
    if FitsWord (price * quantity) then .ok (price * quantity) else .error .overflow
  else .error .nonPositive

/-- A balance after `amount` was added to it. -/
def credited (balance amount : Int) : Except AmountError Int :=
  if FitsWord (balance + amount) then .ok (balance + amount) else .error .overflow

/-- A balance after `amount` was taken from it. Every result that is no balance, also one too large
for a word, counts as an underflow. -/
def debited (balance amount : Int) : Except AmountError Int :=
  if 0 ≤ balance - amount ∧ balance - amount ≤ greatestWord then .ok (balance - amount)
  else .error .underflow

end Bourse

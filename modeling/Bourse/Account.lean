import Bourse.Currency

namespace Bourse

/-- Rows are numbered from 1 in each table; an id named by a caller may be any word. -/
abbrev AccountId := Int

/-- An account holds one currency for one owner. -/
structure Account where
  id : AccountId
  owner : String
  balance : Int
  currency : Currency
  deriving DecidableEq, Repr

/-- Who asks, known by name only. -/
structure Principal where
  username : String
  deriving DecidableEq, Repr

/-- Names are compared as exact text. -/
def Principal.Owns (principal : Principal) (account : Account) : Prop :=
  account.owner = principal.username

instance (principal : Principal) (account : Account) : Decidable (principal.Owns account) :=
  inferInstanceAs (Decidable (account.owner = principal.username))

end Bourse

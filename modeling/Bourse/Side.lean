import Bourse.Account

namespace Bourse

inductive Side where
  | bid
  | ask
  deriving DecidableEq, Repr

namespace Side

def all : List Side := [bid, ask]

def text : Side → String
  | bid => "bid"
  | ask => "ask"

def parse (text : String) : Except UnknownName Side :=
  match all.find? (fun side => side.text == text) with
  | some side => .ok side
  | none => .error (.side text)

def opposite : Side → Side
  | bid => ask
  | ask => bid

/-- Whether an incoming order of this side with price `limit` can trade at `restingPrice`. -/
def Crosses (side : Side) (limit restingPrice : Int) : Prop :=
  match side with
  | bid => restingPrice ≤ limit
  | ask => limit ≤ restingPrice

instance (side : Side) (limit restingPrice : Int) : Decidable (side.Crosses limit restingPrice) :=
  match side with
  | bid => inferInstanceAs (Decidable (restingPrice ≤ limit))
  | ask => inferInstanceAs (Decidable (limit ≤ restingPrice))

/-- Whether a resting order of this side is offered within `limit`: asks at or below it, bids at or
above it. -/
def OffersWithin (side : Side) (limit price : Int) : Prop :=
  match side with
  | ask => price ≤ limit
  | bid => price ≥ limit

instance (side : Side) (limit price : Int) : Decidable (side.OffersWithin limit price) :=
  match side with
  | ask => inferInstanceAs (Decidable (price ≤ limit))
  | bid => inferInstanceAs (Decidable (price ≥ limit))

/-- The currency an order of this side pays. -/
def pays (side : Side) (pair : Pair) : Currency :=
  match side with
  | bid => pair.quote
  | ask => pair.base

/-- The currency an order of this side receives. -/
def receives (side : Side) (pair : Pair) : Currency :=
  match side with
  | bid => pair.base
  | ask => pair.quote

/-- Of an order's two accounts, the one that holds the base currency. -/
def heldInBase (side : Side) (source destination : AccountId) : AccountId :=
  match side with
  | bid => destination
  | ask => source

def heldInQuote (side : Side) (source destination : AccountId) : AccountId :=
  match side with
  | bid => source
  | ask => destination

end Side

end Bourse

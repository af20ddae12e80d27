import Bourse.Currency

namespace Bourse

/-- An order is active until it is filled or taken back. -/
inductive Status where
  | active
  | completed
  | canceled
  deriving DecidableEq, Repr

/-- What can happen to an order. -/
inductive Change where
  | partialFill
  | fill
  | cancel
  deriving DecidableEq, Repr

/-- What a fill is to an order of which it leaves `remaining` open. -/
def Change.ofFill (remaining : Int) : Change :=
  if remaining = 0 then .fill else .partialFill

namespace Status

def all : List Status := [active, completed, canceled]

def text : Status → String
  | active => "active"
  | completed => "completed"
  | canceled => "canceled"

def parse (text : String) : Except UnknownName Status :=
  match all.find? (fun status => status.text == text) with
  | some status => .ok status
  | none => .error (.status text)

/-- Only an active order changes. -/
def after? : Status → Change → Option Status
  | active, .partialFill => some active
  | active, .fill => some completed
  | active, .cancel => some canceled
  | _, _ => none

end Status

def Change.all : List Change := [.partialFill, .fill, .cancel]

def Change.name : Change → String
  | .partialFill => "PartialFill"
  | .fill => "Fill"
  | .cancel => "Cancel"

end Bourse

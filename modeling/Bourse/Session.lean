import Bourse.Call
import Bourse.Config

namespace Bourse

/-- Where the accounts of principals are looked up: in the books, or in a list of its own. -/
inductive AccountSource where
  | books
  | listed (accounts : List Account)
  deriving DecidableEq, Repr

def AccountSource.directory : AccountSource → Directory
  | books => .ofBooks
  | listed accounts => .ofList accounts

/-- How a desk is set up. What it reports is heard only where someone listens. -/
structure DeskSettings where
  pageSize : Nat := 10
  accounts : AccountSource := .books
  listening : Bool := true
  deriving DecidableEq, Repr

namespace DeskSettings

def desk (settings : DeskSettings) : Desk := ⟨settings.accounts.directory, settings.pageSize⟩

def check (settings : DeskSettings) : Except Failure Unit := Config.check { pageSize := settings.pageSize }

end DeskSettings

/-- A desk with the books behind it. -/
structure Session where
  opened : DeskSettings
  settings : DeskSettings
  durable : Bool
  books : Books
  deriving DecidableEq, Repr

/-- What can be asked of a session beside the calls at its desk. -/
inductive Command where
  | call (call : Call)
  | dump
  | reopen
  | rebuild (settings : DeskSettings)
  deriving DecidableEq, Repr

inductive Response where
  | reply (reply : Reply) (heard : Option (List Event))
  | dumped (books : Books)
  | reopened
  | rebuilt (result : Except Failure Nat)
  deriving DecidableEq, Repr

namespace Session

/-- Opens a session on empty books. -/
def start (settings : DeskSettings) (durable : Bool) : Except Failure Session := do
  settings.check
  return ⟨settings, settings, durable, .empty⟩

/-- Durable books outlive a session that is opened again, others start empty. A desk rebuilt on the same
books replaces the old one unless its settings are refused. -/
def step (session : Session) : Command → Response × Session
  | .call call =>
    let (reply, books) := call.run session.settings.desk session.books
    (.reply reply (if session.settings.listening then reply.events? else none), { session with books })
  | .dump => (.dumped session.books, session)
  | .reopen =>
    (.reopened, { session with
      settings := session.opened
      books := if session.durable then session.books else .empty })
  | .rebuild settings =>
    match settings.check with
    | .error failure => (.rebuilt (.error failure), session)
    | .ok () => (.rebuilt (.ok settings.pageSize), { session with settings })

def run (session : Session) : List Command → List Response × Session
  | [] => ([], session)
  | command :: rest =>
    let (response, next) := session.step command
    let (responses, last) := next.run rest
    (response :: responses, last)

end Session

end Bourse

import Bourse.Books

namespace Bourse

namespace Books

def findTransfer (books : Books) (id : TransferId) : Except Failure Transfer :=
  match books.transfer? id with
  | some transfer => .ok transfer
  | none => .error (.transferNotFound id)

def findTrade (books : Books) (id : TradeId) : Except Failure Trade :=
  match books.trade? id with
  | some trade => .ok trade
  | none => .error (.tradeNotFound id)

/-- The lines of one account, oldest first. -/
def entriesOf (books : Books) (id : AccountId) : List Entry :=
  books.entries.filter (fun entry => entry.account = id)

/-- Adds the amounts from the first on; every sum on the way has to fit a word. -/
def addAmounts (sum : Int) : List Int → Except Failure Int
  | [] => .ok sum
  | amount :: rest =>
    if FitsWord (sum + amount) then addAmounts (sum + amount) rest
    else .error (.storage .sumOverflow)

def entryTotal (books : Books) (id : AccountId) : Except Failure Int :=
  addAmounts 0 ((books.entriesOf id).map (·.amount))

/-- The trades with the account on either leg, oldest first. -/
def tradesOf (books : Books) (id : AccountId) : List Trade :=
  books.trades.filter fun trade =>
    trade.first.payer = id ∨ trade.first.payee = id ∨ trade.second.payer = id ∨ trade.second.payee = id

end Books

namespace Scope

def postTransfer (leg : Leg) : Scope Transfer := fun books =>
  if leg.amount ≤ 0 then (.error (.storage (.condition .transferAmount)), books)
  else if books.HasAccount leg.payer ∧ books.HasAccount leg.payee then
    let transfer : Transfer := ⟨nextId books.transfers, leg.payer, leg.payee, leg.amount⟩
    (.ok transfer, { books with transfers := books.transfers ++ [transfer] })
  else (.error (.storage .missingAccount), books)

def postEntry (account : AccountId) (amount : Int) : Scope Entry := fun books =>
  if books.HasAccount account then
    let entry : Entry := ⟨nextId books.entries, account, amount⟩
    (.ok entry, { books with entries := books.entries ++ [entry] })
  else (.error (.storage .missingAccount), books)

def postTrade (first second : Leg) : Scope Trade := fun books =>
  if first.amount ≤ 0 then (.error (.storage (.condition .firstAmount)), books)
  else if second.amount ≤ 0 then (.error (.storage (.condition .secondAmount)), books)
  else if books.HasAccount first.payer ∧ books.HasAccount first.payee ∧
      books.HasAccount second.payer ∧ books.HasAccount second.payee then
    let trade : Trade := ⟨nextId books.trades, first, second⟩
    (.ok trade, { books with trades := books.trades ++ [trade] })
  else (.error (.storage .missingAccount), books)

section Keeps

variable {γ : Type} {part : Books → γ}

theorem postTransfer_keeps (apart : ApartFromFunds part) (leg : Leg) : Keeps part (postTransfer leg) := by
  intro books
  unfold postTransfer
  split
  · rfl
  · split
    · exact apart books books.accounts _ books.entries
    · rfl

theorem postEntry_keeps (apart : ApartFromFunds part) (account : AccountId) (amount : Int) :
    Keeps part (postEntry account amount) := by
  intro books
  unfold postEntry
  split
  · exact apart books books.accounts books.transfers _
  · rfl

theorem postTrade_keeps (apart : ∀ books trades, part { books with trades } = part books) (first second : Leg) :
    Keeps part (postTrade first second) := by
  intro books
  unfold postTrade
  split
  · rfl
  · split
    · rfl
    · split
      · exact apart books _
      · rfl

end Keeps

end Scope

end Bourse

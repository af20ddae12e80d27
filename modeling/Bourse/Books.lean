import Bourse.Trade

namespace Bourse

/-- A competing writer: right after order `whenOrder` is written, order `target` gets these values. -/
structure Race where
  whenOrder : OrderId
  target : OrderId
  remaining : Int
  status : Status
  deriving DecidableEq, Repr

/-- Disturbances that the tables of the books can be set up with. The race set up last comes first. -/
structure Faults where
  refused : List Side := []
  races : List Race := []
  ignored : List OrderId := []
  deriving DecidableEq, Repr

/-- Everything the exchange stores. Rows are kept in the order of their ids, and no row is ever
removed, so that the next id of a table is one more than its length. -/
structure Books where
  accounts : List Account := []
  orders : List Order := []
  transfers : List Transfer := []
  entries : List Entry := []
  trades : List Trade := []
  faults : Faults := {}
  deriving DecidableEq, Repr

def Books.empty : Books := {}

def nextId {α : Type} (rows : List α) : Int := rows.length + 1

namespace Books

def account? (books : Books) (id : AccountId) : Option Account :=
  books.accounts.find? (fun account => account.id = id)

def order? (books : Books) (id : OrderId) : Option Order :=
  books.orders.find? (fun order => order.id = id)

def transfer? (books : Books) (id : TransferId) : Option Transfer :=
  books.transfers.find? (fun transfer => transfer.id = id)

def trade? (books : Books) (id : TradeId) : Option Trade :=
  books.trades.find? (fun trade => trade.id = id)

def HasAccount (books : Books) (id : AccountId) : Prop :=
  ∃ account ∈ books.accounts, account.id = id

instance (books : Books) (id : AccountId) : Decidable (books.HasAccount id) :=
  inferInstanceAs (Decidable (∃ account ∈ books.accounts, account.id = id))

def orderIds (books : Books) : List OrderId := books.orders.map (·.id)

/-- The ids beyond a cursor; without a cursor, all that are proper ids. -/
def idsBeyond (books : Books) (cursor : Option OrderId) : List OrderId :=
  books.orderIds.filter (fun id => cursor.getD 0 < id)

theorem idsBeyond_length_lt {books : Books} {cursor : Option OrderId} {id : OrderId}
    (member : id ∈ books.idsBeyond cursor) :
    (books.idsBeyond (some id)).length < (books.idsBeyond cursor).length := by
  have beyond : cursor.getD 0 < id := by simpa using (List.mem_filter.1 member).2
  have narrowed : books.idsBeyond (some id) = (books.idsBeyond cursor).filter (fun other => id < other) := by
    unfold idsBeyond
    rw [List.filter_filter]
    apply List.filter_congr
    intro other _
    have wider : id < other → cursor.getD 0 < other := Int.lt_trans beyond
    simpa using wider
  rw [narrowed, List.length_filter_lt_length_iff_exists]
  exact ⟨id, member, by simp⟩

end Books

/-- Work inside one scope of the books. It ends with a value or with a failure, and either way with
the books as it leaves them: a scope that goes on after a failure sees what was written before it. -/
def Scope (α : Type) : Type := Books → Except Failure α × Books

namespace Scope

variable {α β : Type}

protected def pure (value : α) : Scope α := fun books => (.ok value, books)

def fail (failure : Failure) : Scope α := fun books => (.error failure, books)

protected def bind (work : Scope α) (next : α → Scope β) : Scope β := fun books =>
  match work books with
  | (.ok value, after) => next value after
  | (.error failure, after) => (.error failure, after)

instance : Monad Scope where
  pure := Scope.pure
  bind := Scope.bind

/-- What the books show, without a change to them. -/
def read (view : Books → Except Failure α) : Scope α := fun books => (view books, books)

def ofExcept (result : Except Failure α) : Scope α := fun books => (result, books)

/-- A scope of its own: what the work wrote is kept if it succeeds and dropped if it fails. -/
def atomic (work : Scope α) : Scope α := fun books =>
  match work books with
  | (.ok value, after) => (.ok value, after)
  | (.error failure, _) => (.error failure, books)

theorem pure_apply (value : α) (books : Books) : (pure value : Scope α) books = (.ok value, books) := rfl

theorem bind_apply (work : Scope α) (next : α → Scope β) (books : Books) :
    (work >>= next) books =
      match work books with
      | (.ok value, after) => next value after
      | (.error failure, after) => (.error failure, after) := rfl

/-- Work that leaves a part of the books as it was, however it ends. -/
def Keeps {γ : Type} (part : Books → γ) (work : Scope α) : Prop :=
  ∀ books, part (work books).2 = part books

section Keeps

variable {γ : Type} {part : Books → γ}

theorem keeps_pure (value : α) : Keeps part (pure value : Scope α) := fun _ => rfl

theorem keeps_fail (failure : Failure) : Keeps part (fail failure : Scope α) := fun _ => rfl

theorem keeps_read (view : Books → Except Failure α) : Keeps part (read view) := fun _ => rfl

theorem keeps_ofExcept (result : Except Failure α) : Keeps part (ofExcept result) := fun _ => rfl

theorem Keeps.bind {work : Scope α} {next : α → Scope β} (first : Keeps part work)
    (rest : ∀ value, Keeps part (next value)) : Keeps part (work >>= next) := by
  intro books
  rw [bind_apply]
  split
  next value after ran => exact (rest value after).trans (by simpa only [ran] using first books)
  next failure after ran => simpa only [ran] using first books

theorem Keeps.map {work : Scope α} (kept : Keeps part work) (view : α → β) : Keeps part (view <$> work) :=
  kept.bind fun _ => keeps_pure _

theorem Keeps.atomic {work : Scope α} (kept : Keeps part work) : Keeps part work.atomic := by
  intro books
  unfold Scope.atomic
  split
  next value after ran => simpa only [ran] using kept books
  next => rfl

/-- A part of the books in which no movement of funds can be seen. -/
def ApartFromFunds {γ : Type} (part : Books → γ) : Prop :=
  ∀ books accounts transfers entries, part { books with accounts, transfers, entries } = part books

end Keeps

end Scope

end Bourse

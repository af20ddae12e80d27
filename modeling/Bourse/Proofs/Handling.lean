import Bourse.Proofs.History
import Bourse.Proofs.Holders
import Bourse.Proofs.Serving
import Bourse.Proofs.Submission

namespace Bourse

open Scope

/-- Calm books that nothing disturbs. -/
structure Books.Undisturbed (books : Books) : Prop where
  calm : books.Calm
  faults : books.faults = {}

theorem Books.undisturbed_empty : empty.Undisturbed := ⟨calm_empty, rfl⟩

variable {raced : Prop} {books after : Books}

theorem Books.Undisturbed.writes (undisturbed : books.Undisturbed) (writes : Writes False books after)
    (faults : after.faults = books.faults) : after.Undisturbed :=
  ⟨writes.calm undisturbed.calm, faults.trans undisturbed.faults⟩

theorem Books.HasAccount.writes {id : AccountId} (present : books.HasAccount id) (formed : books.WellFormed)
    (writes : Writes raced books after) : after.HasAccount id := by
  obtain ⟨account, member, own⟩ := present
  obtain ⟨_, now⟩ := writes.account? (formed.account?_eq_some.mpr ⟨member, own⟩)
  exact hasAccount_of_account? now

/-- Orders are filled on listed pairs only. -/
theorem Served.pair_listed {ticket : Ticket} {fills : List Fill} (served : Served ticket books fills after)
    (calm : books.Calm) : fills = [] ∨ ticket.pair ∈ Pair.listed := by
  cases served with
  | none => exact .inl rfl
  | next earlier standing tradable filled =>
    have before := earlier.calm calm
    have done := fill_of_ok before.steady filled
    obtain ⟨row, found, _, same⟩ := done.row
    rw [before.formed.order?_eq_some.mpr ⟨standing, rfl⟩] at found
    cases found
    have listed := done.listed
    rw [same] at listed
    exact .inr (tradable.2.1 ▸ listed)

/-- An account that the books show to a desk is in them. -/
theorem Desk.Vetted.accounts {desk : Desk} {principal : Principal} {ticket : Ticket}
    (vetted : desk.Vetted principal ticket books) (shown : desk.directory = .ofBooks) :
    (∃ account, books.account? ticket.source = some account ∧ principal.Owns account) ∧
      books.HasAccount ticket.destination := by
  obtain ⟨paying, atSource, _, owned⟩ := vetted.source
  obtain ⟨receiving, atDestination, _, _⟩ := vetted.destination
  rw [shown] at atSource atDestination
  exact ⟨⟨paying, Books.findAccount_eq_ok.mp atSource, owned⟩,
    Books.hasAccount_of_account? (Books.findAccount_eq_ok.mp atDestination)⟩

/-- The report on an order that was stored under `id`. -/
def storedReport (ticket : Ticket) (id : OrderId) (fills : List Fill) (last : Event) : List Event :=
  .accepted ticket :: (fills.map (.ofFill id) ++ [last])

/-- An order that was stored in `row` with what was filled of it by then, and the last event of the report on
it. -/
structure Stored (desk : Desk) (principal : Principal) (ticket : Ticket) (books : Books) (fills : List Fill)
    (middle : Books) (row : Order) (last : Event) : Prop where
  vetted : desk.Vetted principal ticket books
  served : Served ticket books fills middle
  within : 0 ≤ quantityOf fills ∧ quantityOf fills ≤ ticket.amount
  row_eq : row = ticket.stored (nextId middle.orders) (quantityOf fills)
  ending : last = .ofStored row (quantityOf fills) ∨ ∃ reason, last = .interrupted row.id (quantityOf fills) reason

/-- How a submission ends where nothing disturbs it: it leaves the books alone and reports on no order, or the
order is stored with what was filled of it by then, and all of that is reported. -/
inductive Submitted (desk : Desk) (principal : Principal) (ticket : Ticket) (books : Books) :
    Filing Receipt → Prop
  | refused {result events} (silent : ∀ event ∈ events, event.order? = none) :
      Submitted desk principal ticket books ⟨result, events, books⟩
  | stored {fills middle row result last} (stored : Stored desk principal ticket books fills middle row last) :
      Submitted desk principal ticket books
        ⟨result, storedReport ticket row.id fills last, { middle with orders := middle.orders ++ [row] }⟩

namespace Stored

variable {desk : Desk} {principal : Principal} {ticket : Ticket} {middle : Books} {fills : List Fill} {row : Order}
  {last : Event}

theorem new (stored : Stored desk principal ticket books fills middle row last) :
    row.id = nextId middle.orders := by
  rw [stored.row_eq]
  rfl

theorem terms (stored : Stored desk principal ticket books fills middle row last) :
    (row.source = ticket.source ∧ row.destination = ticket.destination) ∧
      row.side = ticket.side ∧ row.price = ticket.price := by
  rw [stored.row_eq]
  exact ⟨⟨rfl, rfl⟩, rfl, rfl⟩

theorem drawn (stored : Stored desk principal ticket books fills middle row last) :
    row.initial - row.remaining = quantityOf fills := by
  rw [stored.row_eq]
  exact Int.sub_sub_self _ _

theorem not_canceled (stored : Stored desk principal ticket books fills middle row last) :
    row.status ≠ .canceled := by
  rw [stored.row_eq]
  exact Status.ofOpen_ne_canceled _

end Stored

section Submitted

variable {desk : Desk} {principal : Principal} {ticket : Ticket}

/-- An order on a listed pair can always be stored after it was vetted and served. -/
theorem Books.Undisturbed.stores (undisturbed : books.Undisturbed) (vetted : desk.Vetted principal ticket books)
    (shown : desk.directory = .ofBooks) {fills : List Fill} (served : Served ticket books fills after)
    (listed : ticket.pair ∈ Pair.listed) (range : 0 ≤ quantityOf fills ∧ quantityOf fills ≤ ticket.amount) :
    ∃ order, storeOrder ticket (quantityOf fills) after =
      (.ok order, { after with orders := after.orders ++ [order] }) := by
  obtain ⟨⟨paying, found, _⟩, receiving⟩ := vetted.accounts shown
  have formed := undisturbed.calm.formed
  have written := served.writes undisturbed.calm
  have accounts : after.HasAccount ticket.source ∧ after.HasAccount ticket.destination :=
    ⟨(hasAccount_of_account? found).writes formed written, receiving.writes formed written⟩
  exact ⟨_, storeOrder_ok ((served.faults undisturbed.calm).trans undisturbed.faults)
    (served.calm undisturbed.calm).formed vetted.terms range accounts listed⟩

/-- What matching reports is what it has served. -/
theorem Books.Calm.served_of_matched (calm : books.Calm) {size : Nat} {outcome : Except Interruption Progress}
    (matched : matchTicket ticket size books = (outcome, after)) :
    Served ticket books (progressIn outcome).fills after ∧ Accounted ticket books (progressIn outcome) after := by
  have served := calm.matchTicket_served ticket size
  rw [matched] at served
  exact ⟨served, (Matched.of_eq matched).accounted⟩

/-- The row of an order that was matched and then stored says what was filled of it. -/
theorem Books.Calm.stored_of_matched (calm : books.Calm) {size : Nat} {outcome : Except Interruption Progress}
    {progress : Progress} {middle : Books} {order : Order}
    (matched : matchTicket ticket size books = (outcome, middle))
    (reached : outcome = .ok progress ∨ ∃ cause, outcome = .error ⟨progress, cause⟩)
    (stored : storeOrder ticket progress.traded middle = (.ok order, after)) :
    (Served ticket books progress.fills middle ∧ progress.traded = quantityOf progress.fills) ∧
      ((0 ≤ quantityOf progress.fills ∧ quantityOf progress.fills ≤ ticket.amount) ∧ ticket.pair ∈ Pair.listed) ∧
      order = ticket.stored (nextId middle.orders) (quantityOf progress.fills) ∧
      after = { middle with orders := middle.orders ++ [order] } := by
  obtain ⟨served, accounted⟩ := calm.served_of_matched matched
  rw [progressIn_of_reached reached] at served accounted
  have traded : progress.traded = quantityOf progress.fills := accounted.traded
  have between := served.calm calm
  obtain ⟨⟨_, listed⟩, range, row, left⟩ := storeOrder_of_ok between.formed between.quiet stored
  rw [traded] at range row
  exact ⟨⟨served, traded⟩, ⟨range, listed⟩, row, left⟩

/-- Where nothing disturbs it, storing an order on a listed pair does not fail after it was matched. -/
theorem Books.Undisturbed.not_unstored (undisturbed : books.Undisturbed)
    (vetted : desk.Vetted principal ticket books) (shown : desk.directory = .ofBooks) {size : Nat}
    {outcome : Except Interruption Progress} {progress : Progress} {cause : Failure} {left : Books}
    (matched : matchTicket ticket size books = (outcome, after))
    (reached : outcome = .ok progress ∨ ∃ cause, outcome = .error ⟨progress, cause⟩)
    (listed : ticket.pair ∈ Pair.listed) : storeOrder ticket progress.traded after ≠ (.error cause, left) := by
  intro failed
  obtain ⟨served, accounted⟩ := undisturbed.calm.served_of_matched matched
  rw [progressIn_of_reached reached] at served accounted
  have nonneg := accounted.traded_nonneg
  have within : progress.traded ≤ ticket.amount := by
    rcases accounted.within with none | within
    · rw [accounted.traded, none]
      exact Int.le_of_lt vetted.terms.2
    · exact within
  obtain traded : _ = quantityOf _ := accounted.traded
  rw [traded] at within nonneg failed
  obtain ⟨_, stores⟩ := undisturbed.stores vetted shown served listed ⟨nonneg, within⟩
  exact nomatch failed.symm.trans stores

theorem Taken.submitted {filing : Filing Receipt} (taken : Taken desk ticket books filing)
    (undisturbed : books.Undisturbed) (vetted : desk.Vetted principal ticket books)
    (shown : desk.directory = .ofBooks) :
    Submitted desk principal ticket books { filing with events := .accepted ticket :: filing.events } := by
  have calm := undisturbed.calm
  have accepted : ∀ event ∈ [Event.accepted ticket], event.order? = none := List.forall_mem_singleton.mpr rfl
  cases taken with
  | stored matched stored =>
    obtain ⟨⟨served, traded⟩, ⟨range, _⟩, row, rfl⟩ := calm.stored_of_matched matched (.inl rfl) stored
    rw [traded]
    exact .stored ⟨vetted, served, range, row, .inl rfl⟩
  | interrupted matched some stored =>
    obtain ⟨⟨served, traded⟩, ⟨range, _⟩, row, rfl⟩ := calm.stored_of_matched matched (.inr ⟨_, rfl⟩) stored
    rw [traded]
    exact .stored ⟨vetted, served, range, row, .inr ⟨_, rfl⟩⟩
  | rejected matched none =>
    obtain ⟨_, accounted⟩ := calm.served_of_matched matched
    rw [accounted.untouched (accounted.fills_eq_nil none)]
    exact .refused accepted
  | @unstored outcome progress cause middle matched reached failed =>
    obtain ⟨served, accounted⟩ := calm.served_of_matched matched
    rw [progressIn_of_reached reached] at served accounted
    by_cases none : progress.fills = []
    · rw [accounted.untouched none]
      exact .refused accepted
    · -- What was filled was filled on a listed pair, and then the order could have been stored.
      have listed := (served.pair_listed calm).resolve_left none
      exact (undisturbed.not_unstored vetted shown matched reached listed failed).elim

theorem Desk.submit_submitted (undisturbed : books.Undisturbed) (shown : desk.directory = .ofBooks) :
    Submitted desk principal ticket books (desk.submit principal ticket books) := by
  unfold submit
  cases vetted : desk.vet principal ticket books with
  | error failure => exact .refused (List.forall_mem_nil _)
  | ok => exact (desk.take_taken ticket books).submitted undisturbed (vetted_of_vet vetted) shown

/-- An order is shown only to those who own the account that it pays from. -/
theorem Desk.lookUp_of_ok {desk : Desk} {principal : Principal} {id : OrderId} {order : Order}
    (shown : desk.lookUp principal id books = .ok order) :
    books.order? id = some order ∧
      ∃ account, desk.directory books order.source = .ok account ∧ principal.Owns account := by
  unfold lookUp at shown
  cases found : books.findOrder id with
  | error failure => simp [found, bind, Except.bind] at shown
  | ok row =>
    cases looked : desk.directory books row.source with
    | error failure => simp [found, looked, bind, Except.bind] at shown
    | ok account =>
      by_cases own : principal.Owns account
      · simp only [found, looked, bind, Except.bind, Principal.authorize, if_pos own] at shown
        cases shown
        exact ⟨(Books.findOrder_eq_ok.mp found).1, account, looked, own⟩
      · simp [found, looked, bind, Except.bind, Principal.authorize, own] at shown

/-- A cancellation fails and changes nothing, or it takes back an active order of its principal and reports what was
open of it. -/
theorem Desk.cancel_cases (desk : Desk) (principal : Principal) (id : OrderId) (quiet : books.faults.races = []) :
    (∃ failure, desk.cancel principal id books = ⟨.error failure, [], books⟩) ∨
      ∃ row, desk.lookUp principal id books = .ok row ∧ books.order? row.id = some row ∧ row.status = .active ∧
        desk.cancel principal id books =
          ⟨.ok { row with status := .canceled }, [.cancelled row.id row.remaining],
            books.setOrder row.id row.remaining .canceled⟩ := by
  unfold cancel
  cases looked : desk.lookUp principal id books with
  | error failure => exact .inl ⟨failure, rfl⟩
  | ok order =>
    match ran : (cancelOrder order.id).atomic books with
    | (.error failure, after) =>
      obtain ⟨_, rfl⟩ := atomic_eq_error.mp ran
      exact .inl ⟨failure, by simp only [ran]⟩
    | (.ok canceled, after) =>
      obtain ⟨row, found, active, rfl, rfl⟩ := cancelOrder_of_ok quiet (atomic_eq_ok.mp ran)
      have shown := (lookUp_of_ok looked).1
      rw [← Books.order?_id shown] at shown
      obtain rfl : order = row := Option.some.inj (shown.symm.trans found)
      exact .inr ⟨order, rfl, found, active, by simp only [ran]⟩

end Submitted

/-- A call as principals make them: they open accounts and bring money in, hand in orders, look at them and take
them back. -/
def Call.Retail : Call → Prop
  | perform (.openAccount ..) | perform (.deposit ..) | submit .. | cancel .. | lookUp .. => True
  | _ => False

theorem Call.Retail.fair {call : Call} (retail : call.Retail) : call.Each Operation.Fair := by
  cases call with
  | perform operation =>
    cases operation with
    | openAccount | deposit => trivial
    | _ => exact retail.elim
  | batch => exact retail.elim
  | _ => trivial

/-- What was reported with a reply. -/
def Reply.events (reply : Reply) : List Event := reply.events?.getD []

/-- All that can come of a principal's call where nothing disturbs it: what the reply reports and brings in, and
the books afterwards. -/
inductive Handled (desk : Desk) (books : Books) : Call → Reply → Books → Prop
  | still {call reply} (silent : ∀ event ∈ reply.events, event.order? = none)
      (nothing : call.deposited reply = []) :
      Handled desk books call reply books
  | opened {owner currency answer} :
      Handled desk books (.perform (.openAccount owner currency)) (.answer (.ok answer))
      { books with accounts := books.accounts ++ [⟨nextId books.accounts, owner, 0, currency⟩] }
  | deposited {id amount answer} (positive : 0 < amount) (admits : books.Admits id amount) :
      Handled desk books (.perform (.deposit id amount)) (.answer (.ok answer)) (books.post id amount)
  | stored {principal ticket fills middle row result last}
      (stored : Stored desk principal ticket books fills middle row last) :
      Handled desk books (.submit principal ticket) (.receipt result (storedReport ticket row.id fills last))
        { middle with orders := middle.orders ++ [row] }
  | canceled {principal id row result} (found : books.order? row.id = some row) (active : row.status = .active) :
      Handled desk books (.cancel principal id) (.canceled result [.cancelled row.id row.remaining])
        (books.setOrder row.id row.remaining .canceled)

theorem Call.Retail.handled {desk : Desk} {call : Call} (retail : call.Retail) (undisturbed : books.Undisturbed)
    (shown : desk.directory = .ofBooks) :
    Handled desk books call (call.run desk books).1 (call.run desk books).2 := by
  have nothing : ∀ event ∈ ([] : List Event), event.order? = none := List.forall_mem_nil _
  cases call with
  | submit principal ticket =>
    have submitted : Submitted desk principal ticket books (desk.submit principal ticket books) :=
      Desk.submit_submitted undisturbed shown
    simp only [run]
    generalize desk.submit principal ticket books = filing at submitted
    cases submitted with
    | refused silent => exact .still (by exact silent) rfl
    | stored stored => exact .stored stored
  | cancel principal id =>
    simp only [run]
    rcases desk.cancel_cases principal id undisturbed.calm.quiet with
      ⟨failure, refused⟩ | ⟨row, _, found, active, canceled⟩
    · rw [refused]
      exact .still nothing rfl
    · rw [canceled]
      exact .canceled found active
  | lookUp => exact .still nothing rfl
  | perform operation =>
    cases operation with
    | openAccount => exact .opened
    | deposit id amount =>
      rcases run_perform desk (.deposit id amount) books with ⟨answer, after, ran, replied⟩ | ⟨failure, replied⟩
      · obtain ⟨_, brought, _⟩ := map_eq_ok.mp ran
        obtain ⟨positive, admits, _, rfl⟩ := deposit_of_ok undisturbed.calm.formed brought
        rw [replied]
        exact .deposited positive admits
      · rw [replied]
        exact .still nothing rfl
    | _ => exact retail.elim
  | matchTicket | batch => exact retail.elim

/-- Principals' calls disturb nothing. -/
theorem Call.Retail.undisturbed {desk : Desk} {call : Call} (retail : call.Retail)
    (undisturbed : books.Undisturbed) (shown : desk.directory = .ofBooks) : (call.run desk books).2.Undisturbed := by
  have written : Writes False books (call.run desk books).2 :=
    Call.run_writes desk (.inr retail.fair) (.inr undisturbed.calm.quiet)
  refine undisturbed.writes written ?_
  have handled := retail.handled undisturbed shown
  generalize (call.run desk books).1 = reply at handled
  generalize (call.run desk books).2 = after at handled
  cases handled with
  | stored stored => exact stored.served.faults undisturbed.calm
  | _ => rfl

/-- A principal's call at a desk that looks accounts up in the books. -/
def Call.RetailAt (desk : Desk) (call : Call) : Prop := desk.directory = .ofBooks ∧ call.Retail

theorem History.undisturbed {past : List Visit} (history : History Call.RetailAt past books) :
    books.Undisturbed := by
  induction history with
  | start => exact Books.undisturbed_empty
  | next _ made ih => exact made.2.undisturbed ih made.1

end Bourse

import Bourse.Call
import Bourse.Proofs.Scope
import Mathlib.Logic.Relation

namespace Bourse

/-- An order as it is first stored: active and open in full. -/
def Ticket.opened (ticket : Ticket) (id : OrderId) : Order where
  id := id
  side := ticket.side
  pair := ticket.pair
  source := ticket.source
  destination := ticket.destination
  price := ticket.price
  initial := ticket.amount
  remaining := ticket.amount
  status := .active

/-- A row added or changed: whatever is done to the books is done in such writes, and each of them names
what was checked before it. Competing writers strike only where `raced` holds. -/
inductive Write (raced : Prop) (books : Books) : Books → Prop
  | account (owner : String) (currency : Currency) :
      Write raced books
        { books with accounts := books.accounts ++ [⟨nextId books.accounts, owner, 0, currency⟩] }
  | balance (id : AccountId) {balance : Int} (range : 0 ≤ balance ∧ balance ≤ greatestWord) :
      Write raced books (books.setBalance id balance)
  | transfer {leg : Leg} (positive : 0 < leg.amount)
      (accounts : books.HasAccount leg.payer ∧ books.HasAccount leg.payee) :
      Write raced books
        { books with
          transfers := books.transfers ++ [⟨nextId books.transfers, leg.payer, leg.payee, leg.amount⟩] }
  | entry {id : AccountId} (account : books.HasAccount id) (amount : Int) :
      Write raced books { books with entries := books.entries ++ [⟨nextId books.entries, id, amount⟩] }
  | trade {first second : Leg} (positive : 0 < first.amount ∧ 0 < second.amount)
      (accounts : books.HasAccount first.payer ∧ books.HasAccount first.payee ∧
        books.HasAccount second.payer ∧ books.HasAccount second.payee) :
      Write raced books { books with trades := books.trades ++ [⟨nextId books.trades, first, second⟩] }
  | order {ticket : Ticket} (positive : 0 < ticket.price ∧ 0 < ticket.amount)
      (accounts : books.HasAccount ticket.source ∧ books.HasAccount ticket.destination) :
      Write raced books { books with orders := books.orders ++ [ticket.opened (nextId books.orders)] }
  | fill {order : Order} {remaining : Int} {status : Status} (found : books.order? order.id = some order)
      (active : order.status = .active) (range : 0 ≤ remaining ∧ remaining ≤ order.remaining)
      (after : Status.active.after? (.ofFill remaining) = some status) :
      Write raced books (books.setOrder order.id remaining status)
  | cancel {order : Order} (found : books.order? order.id = some order) (active : order.status = .active) :
      Write raced books (books.setOrder order.id order.remaining .canceled)
  | strike (reckoned : raced) {order : Order} {remaining : Int} (found : books.order? order.id = some order)
      (range : 0 ≤ remaining ∧ remaining ≤ order.initial) (status : Status) :
      Write raced books (books.setOrder order.id remaining status)
  | faults {faults : Faults} (quiet : raced ∨ faults.races = []) : Write raced books { books with faults }

/-- Any number of writes one after the other. -/
abbrev Writes (raced : Prop) : Books → Books → Prop := Relation.ReflTransGen (Write raced)

/-- No competing writer waits, unless they are reckoned with. -/
def Books.Quiet (raced : Prop) (books : Books) : Prop := raced ∨ books.faults.races = []

variable {raced : Prop}

theorem Write.quiet {books after : Books} (write : Write raced books after) (quiet : books.Quiet raced) :
    after.Quiet raced := by
  cases write with
  | faults tame => exact tame
  | _ => exact quiet

theorem Writes.quiet {books after : Books} (writes : Writes raced books after) (quiet : books.Quiet raced) :
    after.Quiet raced := by
  induction writes with
  | refl => exact quiet
  | tail _ write ih => exact write.quiet ih

theorem Books.order?_id {books : Books} {id : OrderId} {order : Order} (found : books.order? id = some order) :
    order.id = id := by simpa using List.find?_some found

theorem Books.account?_id {books : Books} {id : AccountId} {account : Account}
    (found : books.account? id = some account) : account.id = id := by simpa using List.find?_some found

theorem Books.findAccount_eq_ok {books : Books} {id : AccountId} {account : Account} :
    books.findAccount id = .ok account ↔ books.account? id = some account := by
  unfold findAccount
  split
  next found => rw [found, Except.ok.injEq, Option.some.injEq]
  next missing => rw [missing]; exact ⟨nofun, nofun⟩

theorem Order.statusAfter_eq_ok {order : Order} {change : Change} {status : Status} :
    order.statusAfter change = .ok status ↔ order.status.after? change = some status := by
  unfold statusAfter
  split
  next found => rw [found, Except.ok.injEq, Option.some.injEq]
  next missing => rw [missing]; exact ⟨nofun, nofun⟩

/-- Only an active order changes its status. -/
theorem Status.active_of_after? {status next : Status} {change : Change}
    (changed : status.after? change = some next) : status = .active := by
  cases status <;> cases change <;> first | rfl | cases changed

namespace Books

theorem strike_writes {depth : Nat} {races : List Race} {written : OrderId} {books after : Books}
    (reckoned : raced) (struck : strike depth races written books = .ok after) : Writes raced books after := by
  refine strike_preserves (Writes raced books) ?_ struck .refl
  intro reached next race hit writes
  obtain ⟨order, found, _, range, rfl⟩ := overwritten_eq_some.mp hit
  have own := order?_id found
  rw [← own] at found ⊢
  exact writes.tail (.strike reckoned found range race.status)

end Books

namespace Scope

variable {α β : Type}

/-- However the work ends, what it did to the books was done in writes. -/
def Makes (raced : Prop) (work : Scope α) : Prop :=
  ∀ ⦃books⦄, books.Quiet raced → Writes raced books (work books).2

theorem Makes.writes {work : Scope α} (made : Makes raced work) {books after : Books} (quiet : books.Quiet raced)
    {result : Except Failure α} (ran : work books = (result, after)) : Writes raced books after := by
  have written := made quiet
  rwa [ran] at written

theorem Keeps.makes {work : Scope α} (kept : Keeps (fun books => books) work) : Makes raced work := by
  intro books _
  have same : (work books).2 = books := kept books
  rw [same]

theorem Makes.bind {work : Scope α} {next : α → Scope β} (first : Makes raced work)
    (rest : ∀ value, Makes raced (next value)) : Makes raced (work >>= next) := by
  intro books quiet
  have begun := first quiet
  rw [bind_apply]
  split
  next value middle ran =>
    rw [ran] at begun
    exact begun.trans (rest value (begun.quiet quiet))
  next ran => simpa only [ran] using begun

theorem Makes.map {work : Scope α} (made : Makes raced work) (view : α → β) : Makes raced (view <$> work) :=
  made.bind fun _ => (keeps_pure _).makes

theorem Makes.atomic {work : Scope α} (made : Makes raced work) : Makes raced work.atomic := by
  intro books quiet
  have begun := made quiet
  unfold Scope.atomic
  split
  next ran => simpa only [ran] using begun
  next => exact .refl

theorem openAccount_makes (owner : String) (currency : Currency) : Makes raced (openAccount owner currency) :=
  fun _ _ => .single (.account owner currency)

theorem writeBalance_makes (found : Account) {balance : Int} (upper : balance ≤ greatestWord) :
    Makes raced (writeBalance found balance) := by
  intro books _
  unfold writeBalance
  split
  · exact .refl
  next enough => exact .single (.balance found.id ⟨Int.not_lt.mp enough, upper⟩)

theorem credit_makes (id : AccountId) (amount : Int) : Makes raced (credit id amount) := by
  refine (keeps_read _).makes.bind fun found => ?_
  split
  next balance fits =>
    unfold credited at fits
    split at fits
    next word =>
      cases fits
      exact writeBalance_makes found word.2
    next => cases fits
  next => exact (keeps_fail _).makes

theorem debit_makes (id : AccountId) (amount : Int) : Makes raced (debit id amount) := by
  refine (keeps_read _).makes.bind fun found => ?_
  split
  next balance covered =>
    unfold debited at covered
    split at covered
    next range =>
      cases covered
      exact writeBalance_makes found range.2
    next => cases covered
  next => exact (keeps_fail _).makes
  next => exact (keeps_fail _).makes

theorem postTransfer_makes (leg : Leg) : Makes raced (postTransfer leg) := by
  intro books _
  unfold postTransfer
  split
  · exact .refl
  next positive =>
    split
    next accounts => exact .single (.transfer (Int.not_le.mp positive) accounts)
    next => exact .refl

theorem postEntry_makes (id : AccountId) (amount : Int) : Makes raced (postEntry id amount) := by
  intro books _
  unfold postEntry
  split
  next account => exact .single (.entry account amount)
  next => exact .refl

theorem postTrade_makes (first second : Leg) : Makes raced (postTrade first second) := by
  intro books _
  unfold postTrade
  split
  · exact .refl
  next firstPositive =>
    split
    · exact .refl
    next secondPositive =>
      split
      next accounts =>
        exact .single (.trade ⟨Int.not_le.mp firstPositive, Int.not_le.mp secondPositive⟩ accounts)
      next => exact .refl

theorem move_makes (payer payee : AccountId) (amount : Int) : Makes raced (move payer payee amount) :=
  (debit_makes _ _).bind fun _ => (credit_makes _ _).bind fun _ => (postTransfer_makes _).bind fun _ =>
    (postEntry_makes _ _).bind fun _ => (postEntry_makes _ _).bind fun _ => (keeps_pure _).makes

theorem transfer_makes (payer payee : AccountId) (amount : Int) : Makes raced (transfer payer payee amount) := by
  refine (positive_keeps _).makes.bind fun _ => (endpoints_keeps _ _).makes.bind fun ends => ?_
  split
  split
  · exact move_makes _ _ _
  · exact (keeps_fail _).makes

theorem deposit_makes (id : AccountId) (amount : Int) : Makes raced (deposit id amount) :=
  (positive_keeps _).makes.bind fun _ => (keeps_read _).makes.bind fun _ => (credit_makes _ _).bind fun _ =>
    postEntry_makes _ _

theorem settle_makes (first second : Leg) : Makes raced (settle first second) :=
  (positive_keeps _).makes.bind fun _ => (positive_keeps _).makes.bind fun _ =>
    (postTrade_makes _ _).bind fun _ => (transfer_makes _ _ _).bind fun _ => (transfer_makes _ _ _).bind fun _ =>
    (keeps_pure _).makes

theorem addOrder_makes (ticket : Ticket) : Makes raced (addOrder ticket) := by
  intro books _
  unfold addOrder
  split
  · exact .refl
  next positive =>
    split
    · exact .refl
    · split
      · exact .refl
      next accounts =>
        have terms : 0 < ticket.price ∧ 0 < ticket.amount := by omega
        exact .single (.order terms (Decidable.not_not.mp accounts))

/-- A write to an order is one write, and those of its competitors come after it. -/
theorem writeOrder_makes {id : OrderId} {expected : Order → Bool} {remaining : Order → Int} {status : Status}
    (single : ∀ {books order}, books.order? order.id = some order → expected order = true →
      Write raced books (books.setOrder order.id (remaining order) status)) :
    Makes raced (writeOrder id expected remaining status) := by
  intro books quiet
  unfold writeOrder
  split
  · exact .refl
  next order found =>
    split
    · exact .refl
    next passed =>
      have own := Books.order?_id found
      rw [← own] at found ⊢
      have written := single found (by simpa using (not_or.mp passed).1)
      split
      next after struck =>
        rcases quiet with reckoned | none
        · exact .head written (Books.strike_writes reckoned struck)
        · rw [none] at struck
          cases struck
          exact .single written
      next => exact .refl

theorem conflict_makes (id : OrderId) (expected : Int) : Makes raced (conflict id expected) :=
  (conflict_keeps _ _ _).makes

theorem recordFill_makes (id : OrderId) (expected remaining : Int) (status : Status) :
    Makes raced (recordFill id expected remaining status) := by
  unfold recordFill
  split
  · exact (keeps_fail _).makes
  next range =>
    split
    · exact (keeps_fail _).makes
    next changed =>
      refine (writeOrder_makes fun {books order} found passed => ?_).bind fun written => ?_
      · obtain ⟨same, active⟩ : order.remaining = expected ∧ order.status = .active := by simpa using passed
        exact .fill found active (by omega) (Decidable.not_not.mp changed)
      · split
        · exact (keeps_pure _).makes
        · exact conflict_makes _ _

theorem cancelOrder_makes (id : OrderId) : Makes raced (cancelOrder id) := by
  refine (keeps_read _).makes.bind fun current => ?_
  intro books quiet
  rw [bind_apply]
  split
  next status _ begun =>
    obtain ⟨allowed, rfl⟩ := ofExcept_eq_ok.mp begun
    have changed := Order.statusAfter_eq_ok.mp allowed
    have active := Status.active_of_after? changed
    rw [active] at changed
    cases changed
    refine Makes.bind (writeOrder_makes fun {books order} found passed => ?_) (fun written => ?_) quiet
    · have same : order.status = current.status := by simpa using passed
      exact .cancel found (same.trans active)
    · split
      · exact (keeps_pure _).makes
      · exact conflict_makes _ _
  next begun =>
    obtain rfl := congrArg Prod.snd begun
    exact .refl

theorem storeOrder_makes (ticket : Ticket) (filled : Int) : Makes raced (storeOrder ticket filled) := by
  refine Makes.atomic ((addOrder_makes ticket).bind fun order => ?_)
  split
  · exact (keeps_pure _).makes
  · exact (keeps_ofExcept _).makes.bind fun status => recordFill_makes _ _ _ _

theorem fill_makes (ticket : Ticket) (resting : Order) (quantity : Int) :
    Makes raced (fill ticket resting quantity) := by
  unfold fill
  split
  · exact (keeps_fail _).makes
  · exact ((settle_makes _ _).bind fun _ => (keeps_ofExcept _).makes.bind fun _ =>
      (recordFill_makes _ _ _ _).bind fun _ => (keeps_pure _).makes).atomic

end Scope

end Bourse

import Bourse.Proofs.Crossing

namespace Bourse

open Scope

/-- The account is one of an owner, in a currency. -/
def Books.Holds (books : Books) (id : AccountId) (owner : String) (currency : Currency) : Prop :=
  ∃ account, books.account? id = some account ∧ account.owner = owner ∧ account.currency = currency

/-- The two accounts of an order are its owner's, one in the currency that it pays and another in the currency that it
receives. -/
structure Order.HeldBy (order : Order) (owner : String) (books : Books) : Prop where
  distinct : order.source ≠ order.destination
  source : books.Holds order.source owner (order.side.pays order.pair)
  destination : books.Holds order.destination owner (order.side.receives order.pair)

variable {raced : Prop} {books after : Books}

theorem Books.Holds.writes {id : AccountId} {owner : String} {currency : Currency}
    (holds : books.Holds id owner currency) (writes : Writes raced books after) : after.Holds id owner currency := by
  obtain ⟨account, found, own, unit⟩ := holds
  obtain ⟨balance, now⟩ := writes.account? found
  exact ⟨_, now, own, unit⟩

/-- Neither the accounts of an order nor their holders ever change. -/
theorem Order.HeldBy.later {order now : Order} {owner : String} (held : order.HeldBy owner books)
    (develops : order.Develops now) (writes : Writes raced books after) : now.HeldBy owner after := by
  rw [develops.terms]
  exact ⟨held.distinct, held.source.writes writes, held.destination.writes writes⟩

/-- What a desk that sees the accounts of the books has vetted is held by the principal who handed it in. -/
theorem Desk.Vetted.heldBy {desk : Desk} {principal : Principal} {ticket : Ticket}
    (vetted : desk.Vetted principal ticket books) (shown : desk.directory = .ofBooks) (id : OrderId) (filled : Int) :
    (ticket.stored id filled).HeldBy principal.username books := by
  have holds {id : AccountId} {currency : Currency} (known : ∃ account, desk.directory books id = .ok account ∧
      account.currency = currency ∧ principal.Owns account) : books.Holds id principal.username currency := by
    obtain ⟨account, looked, unit, own⟩ := known
    rw [shown] at looked
    exact ⟨account, Books.findAccount_eq_ok.mp looked, own, unit⟩
  exact ⟨vetted.distinct, holds vetted.source, holds vetted.destination⟩

/-- After a submission each order has come of an earlier one, or it is the one that was handed in. -/
theorem Submission.order_origin {ticket : Ticket} {result : Except Failure Receipt}
    (submission : Submission ticket books result after) (calm : books.Calm) :
    ∀ order ∈ after.orders, (∃ old ∈ books.orders, old.Develops order) ∨
      ((order.id ∉ books.orderIds ∧ order.pair ∈ Pair.listed) ∧ ∃ filled, order = ticket.stored order.id filled) := by
  have older {fills middle} (served : Served ticket books fills middle) :
      ∀ order ∈ middle.orders, ∃ old ∈ books.orders, old.Develops order :=
    ((served.writes calm).grown calm.formed).earlier (served.calm calm).formed served.orderIds
  cases submission with
  | refused => exact fun order member => .inl ⟨order, member, .refl order⟩
  | unstored served => exact fun order member => .inl (older served order member)
  | @added fills middle row result served listed row_eq _ =>
    have new : row.id = nextId middle.orders := by rw [row_eq]; rfl
    refine forall_mem_append_singleton (fun order member => .inl (older served order member))
      (.inr ⟨⟨?_, ?_⟩, quantityOf fills, ?_⟩)
    · rw [new, ← served.orderIds]
      exact (served.calm calm).formed.nextId_new
    · rw [row_eq]
      exact listed
    · rw [new]
      exact row_eq

/-- After any call by which no order is added but through the desk, each order has come of an earlier one, or it was
vetted and handed in with that call, on a listed pair. -/
theorem Call.order_origin (desk : Desk) {call : Call} (passive : call.Each Operation.Passive) (calm : books.Calm) :
    ∀ order ∈ (call.run desk books).2.orders, (∃ old ∈ books.orders, old.Develops order) ∨
      ∃ principal ticket filled, call = .submit principal ticket ∧ desk.Vetted principal ticket books ∧
        (order.id ∉ books.orderIds ∧ order.pair ∈ Pair.listed) ∧ order = ticket.stored order.id filled := by
  rcases call.run_orderIds desk passive calm with ⟨principal, ticket, rfl⟩ | ids
  · intro order member
    simp only [run, Desk.submit] at member
    cases vetted : desk.vet principal ticket books with
    | error failure =>
      rw [vetted] at member
      exact .inl ⟨order, member, .refl order⟩
    | ok =>
      rw [vetted] at member
      rcases ((desk.take_taken ticket books).submission calm).order_origin calm order member with
        older | ⟨new, filled, row_eq⟩
      · exact .inl older
      · exact .inr ⟨principal, ticket, filled, rfl, Desk.vetted_of_vet vetted, new, row_eq⟩
  · have written := call.run_writes_of_passive desk passive calm
    exact fun order member =>
      .inl ((written.grown calm.formed).earlier (written.calm calm).formed ids order member)

/-- A submission in the name of `owner` has added the order to the books. -/
def HandedIn (past : List Visit) (owner : String) (id : OrderId) : Prop :=
  ∃ visit ∈ past, (∃ ticket, visit.call = .submit ⟨owner⟩ ticket) ∧
    id ∉ visit.books.orderIds ∧ id ∈ visit.after.orderIds

theorem HandedIn.append {past : List Visit} {owner : String} {id : OrderId} (handed : HandedIn past owner id)
    (more : List Visit) : HandedIn (past ++ more) owner id := by
  obtain ⟨visit, member, rest⟩ := handed
  exact ⟨visit, List.mem_append_left _ member, rest⟩

/-- A call at a desk that looks accounts up in the books, by which no order is added but through the desk. -/
def Call.PassiveAt (desk : Desk) (call : Call) : Prop := desk.directory = .ofBooks ∧ call.Each Operation.Passive

theorem Call.Retail.passive {call : Call} (retail : call.Retail) : call.Each Operation.Passive := by
  cases call with
  | perform operation =>
    cases operation with
    | openAccount | deposit => trivial
    | _ => exact retail.elim
  | batch => exact retail.elim
  | _ => trivial

section History

variable {past : List Visit}

theorem History.calm_of_passive (history : History Call.PassiveAt past books) : books.Calm :=
  history.reach.calm fun made => made.2.imp fun passive => passive.tame.fair

/-- Submissions bring orders on listed pairs only. -/
theorem History.pairs_listed (history : History (fun _ call => call.Each Operation.Passive) past books) :
    ∀ order ∈ books.orders, order.pair ∈ Pair.listed := by
  induction history with
  | start => exact List.forall_mem_nil _
  | @next past books earlier desk call passive ih =>
    have calm : books.Calm := earlier.reach.calm fun passive => passive.imp fun passive => passive.tame.fair
    intro order member
    rcases call.order_origin desk passive calm order member with
      ⟨old, present, develops⟩ | ⟨_, _, _, _, _, ⟨_, listed⟩, _⟩
    · rw [develops.terms]
      exact ih old present
    · exact listed

/-- Every order is held by the principal in whose name it was handed in. -/
theorem History.heldBy (history : History Call.PassiveAt past books) :
    ∀ order ∈ books.orders, ∃ owner, HandedIn past owner order.id ∧ order.HeldBy owner books := by
  induction history with
  | start => exact List.forall_mem_nil _
  | @next past books earlier desk call made ih =>
    have calm := earlier.calm_of_passive
    have written := call.run_writes_of_passive desk made.2 calm
    intro order member
    rcases call.order_origin desk made.2 calm order member with
      ⟨old, present, develops⟩ | ⟨principal, ticket, filled, rfl, vetted, ⟨new, _⟩, row_eq⟩
    · obtain ⟨owner, handed, held⟩ := ih old present
      exact ⟨owner, develops.id_eq ▸ handed.append _, held.later develops written⟩
    · have held : order.HeldBy principal.username books := row_eq ▸ vetted.heldBy made.1 order.id filled
      exact ⟨principal.username, ⟨_, List.mem_append_right _ List.mem_cons_self, ⟨ticket, rfl⟩, new,
        List.mem_map_of_mem member⟩, held.later (.refl order) written⟩

end History

section HandedIn

variable {allowed : Desk → Call → Prop} {past : List Visit} {owner other : String} {id : OrderId}

/-- The order is one of those handed in before, or the last call has handed it in. -/
theorem HandedIn.of_next {desk : Desk} {call : Call}
    (handed : HandedIn (past ++ [⟨desk, call, books⟩]) owner id) :
    HandedIn past owner id ∨ (∃ ticket, call = .submit ⟨owner⟩ ticket) ∧ id ∉ books.orderIds ∧
      id ∈ (call.run desk books).2.orderIds := by
  obtain ⟨visit, member, rest⟩ := handed
  rcases List.mem_append.mp member with old | last
  · exact .inl ⟨visit, old, rest⟩
  · obtain rfl := List.mem_singleton.mp last
    exact .inr rest

theorem HandedIn.listed (handed : HandedIn past owner id) (history : History allowed past books) :
    id ∈ books.orderIds := by
  induction history with
  | start =>
    obtain ⟨_, none, _⟩ := handed
    cases none
  | @next past books earlier desk call made ih =>
    have written : Writes True books (call.run desk books).2 := call.run_writes desk (.inl trivial) (.inl trivial)
    rcases handed.of_next with before | ⟨_, _, now⟩
    · exact written.extended.orderIds.subset (ih before)
    · exact now

/-- No order is handed in twice. -/
theorem HandedIn.unique (handed : HandedIn past owner id) (again : HandedIn past other id)
    (history : History allowed past books) : owner = other := by
  induction history with
  | start =>
    obtain ⟨_, none, _⟩ := handed
    cases none
  | @next past books earlier desk call made ih =>
    rcases handed.of_next with before | ⟨⟨ticket, submitted⟩, new, _⟩
    · rcases again.of_next with beforeToo | ⟨_, newToo, _⟩
      · exact ih before beforeToo
      · exact absurd (before.listed earlier) newToo
    · rcases again.of_next with beforeToo | ⟨⟨ticketToo, submittedToo⟩, _, _⟩
      · exact absurd (beforeToo.listed earlier) new
      · rw [submitted] at submittedToo
        cases submittedToo
        rfl

end HandedIn

end Bourse

import Bourse.Proofs.Custody

namespace Bourse

open Scope

variable {books after : Books}

/-- To anyone but the holder of its accounts, a desk that looks accounts up in the books does not show an order. -/
theorem Order.HeldBy.lookUp_unauthorized {order : Order} {owner : String} (held : order.HeldBy owner books)
    (formed : books.WellFormed) (member : order ∈ books.orders) (listed : order.pair ∈ Pair.listed) {desk : Desk}
    (shown : desk.directory = .ofBooks) {other : Principal} (stranger : other.username ≠ owner) :
    desk.lookUp other order.id books = .error (.unauthorized order.source other.username) := by
  obtain ⟨account, found, rfl, _⟩ := held.source
  have row : books.findOrder order.id = .ok order :=
    Books.findOrder_eq_ok.mpr ⟨formed.order?_eq_some.mpr ⟨member, rfl⟩, listed⟩
  have looked : desk.directory books order.source = .ok account := shown ▸ Books.findAccount_eq_ok.mpr found
  have foreign : ¬other.Owns account := fun own => stranger own.symm
  simp only [Desk.lookUp, row, looked, bind, Except.bind, Principal.authorize, if_neg foreign, Books.account?_id found]

/-- No submission takes an order back. -/
theorem Submission.canceled_before {ticket : Ticket} {result : Except Failure Receipt}
    (submission : Submission ticket books result after) (calm : books.Calm) :
    ∀ order ∈ after.orders, order.status = .canceled → order ∈ books.orders := by
  have served {fills middle} (served : Served ticket books fills middle) :
      ∀ order ∈ middle.orders, order.status = .canceled → order ∈ books.orders := by
    intro order member canceled
    obtain ⟨old, present, rfl | ⟨⟨_, other⟩, _⟩⟩ := served.order_before calm order member
    · exact present
    · exact absurd canceled other
  cases submission with
  | refused => exact fun order member _ => member
  | unstored ended => exact served ended
  | added ended _ row_eq =>
    refine forall_mem_append_singleton (served ended) fun canceled => ?_
    rw [row_eq] at canceled
    exact absurd canceled (Status.ofOpen_ne_canceled _)

/-- A cancellation takes back the order that it asks for and no other, and only for those who own the account that the
order pays from. -/
theorem Desk.cancel_origin (desk : Desk) (principal : Principal) (id : OrderId) (calm : books.Calm) :
    ∀ order ∈ (desk.cancel principal id books).books.orders, order.status = .canceled → order ∈ books.orders ∨
      (order.id = id ∧ (desk.cancel principal id books).result = .ok order ∧
        ∃ account, desk.directory books order.source = .ok account ∧ principal.Owns account) := by
  rcases desk.cancel_cases principal id calm.quiet with ⟨failure, refused⟩ | ⟨row, looked, found, active, canceled⟩
  · rw [refused]
    exact fun order member _ => .inl member
  · obtain ⟨shown, authorized⟩ := lookUp_of_ok looked
    have asked : row.id = id := Books.order?_id shown
    obtain ⟨present, _⟩ := calm.formed.order?_eq_some.mp found
    rw [canceled]
    refine Books.forall_mem_setOrder (fun order member _ _ => .inl member) fun order member same _ => .inr ?_
    obtain rfl := calm.formed.orderIds.unique member present same
    exact ⟨asked, rfl, authorized⟩

/-- Of a principal's calls only a cancellation takes an order back. -/
theorem Call.Retail.canceled_origin {call : Call} (retail : call.Retail) (desk : Desk) (calm : books.Calm) :
    ∀ order ∈ (call.run desk books).2.orders, order.status = .canceled → order ∈ books.orders ∨
      ∃ principal events, call = .cancel principal order.id ∧
        (call.run desk books).1 = .canceled (.ok order) events ∧
        ∃ account, desk.directory books order.source = .ok account ∧ principal.Owns account := by
  have kept {operation : Operation} (offMarket : operation.OffMarket) :
      ((perform operation).run desk books).2.orders = books.orders := by
    have still : Keeps (·.orders) operation.perform := offMarket.keeps (fun _ _ _ _ => rfl) fun _ _ => rfl
    exact still.atomic books
  intro order member canceled
  cases call with
  | submit principal ticket =>
    exact .inl ((desk.submit_submission principal ticket calm).canceled_before calm order member canceled)
  | cancel principal id =>
    rcases desk.cancel_origin principal id calm order member canceled with old | ⟨rfl, granted, authorized⟩
    · exact .inl old
    · refine .inr ⟨principal, (desk.cancel principal order.id books).events, rfl, ?_, authorized⟩
      rw [← granted]
      rfl
  | lookUp => exact .inl member
  | perform operation =>
    cases operation with
    | openAccount owner currency =>
      have apart : (Operation.openAccount owner currency).OffMarket := trivial
      exact .inl (kept apart ▸ member)
    | deposit id amount =>
      have apart : (Operation.deposit id amount).OffMarket := trivial
      exact .inl (kept apart ▸ member)
    | _ => exact retail.elim
  | matchTicket | batch => exact retail.elim

/-- A cancellation of the order in the name of `owner` was granted. -/
def TakenBack (past : List Visit) (owner : String) (id : OrderId) : Prop :=
  ∃ visit ∈ past, visit.call = .cancel ⟨owner⟩ id ∧ ∃ row events, visit.reply = .canceled (.ok row) events

theorem TakenBack.append {past : List Visit} {owner : String} {id : OrderId} (back : TakenBack past owner id)
    (more : List Visit) : TakenBack (past ++ more) owner id := by
  obtain ⟨visit, member, rest⟩ := back
  exact ⟨visit, List.mem_append_left _ member, rest⟩

/-- Whatever was taken back was taken back by the holder of the account that it pays from. -/
theorem History.taken_back {past : List Visit} (history : History Call.RetailAt past books) :
    ∀ order ∈ books.orders, order.status = .canceled →
      ∃ account, books.account? order.source = some account ∧ TakenBack past account.owner order.id := by
  induction history with
  | start => exact List.forall_mem_nil _
  | @next past books earlier desk call made ih =>
    have calm := earlier.undisturbed.calm
    have written : Writes False books (call.run desk books).2 :=
      Call.run_writes desk (.inr made.2.fair) (.inr calm.quiet)
    intro order member canceled
    rcases made.2.canceled_origin desk calm order member canceled with
      old | ⟨principal, events, rfl, granted, account, looked, own⟩
    · obtain ⟨account, found, back⟩ := ih order old canceled
      obtain ⟨balance, now⟩ := written.account? found
      exact ⟨_, now, back.append _⟩
    · rw [made.1] at looked
      obtain ⟨balance, now⟩ := written.account? (Books.findAccount_eq_ok.mp looked)
      have name : principal = ⟨account.owner⟩ := by rw [own]
      exact ⟨_, now, _, List.mem_append_right _ List.mem_cons_self, by rw [name], order, events, granted⟩

/-- An order is in the hands of the principal who has handed it in: its accounts are those of that principal, nobody
else is shown it or can take it back, and if it was taken back, then by that principal. -/
theorem History.only_submitter_controls {past : List Visit} (history : History Call.RetailAt past books) :
    ∀ order ∈ books.orders, ∃ owner, (∀ name, HandedIn past name order.id ↔ name = owner) ∧
      order.HeldBy owner books ∧
      (∀ (desk : Desk) (other : Principal), desk.directory = .ofBooks → other.username ≠ owner →
        (Call.lookUp other order.id).run desk books =
            (.answer (.error (.unauthorized order.source other.username)), books) ∧
          (Call.cancel other order.id).run desk books =
            (.canceled (.error (.unauthorized order.source other.username)) [], books)) ∧
      (order.status = .canceled → TakenBack past owner order.id) := by
  have passive : History Call.PassiveAt past books := history.mono fun made => ⟨made.1, made.2.passive⟩
  have listed := (history.mono fun made => made.2.passive).pairs_listed
  intro order member
  obtain ⟨owner, handed, held⟩ := passive.heldBy order member
  refine ⟨owner, fun name => ⟨fun again => again.unique handed history, fun same => same ▸ handed⟩, held, ?_, ?_⟩
  · intro desk other shown stranger
    have refused := held.lookUp_unauthorized history.undisturbed.calm.formed member (listed order member) shown stranger
    constructor
    · simp only [Call.run, refused]
      rfl
    · simp only [Call.run, Desk.cancel, refused]
  · intro canceled
    obtain ⟨account, found, back⟩ := history.taken_back order member canceled
    obtain ⟨holder, known, rfl, _⟩ := held.source
    obtain rfl : account = holder := Option.some.inj (found.symm.trans known)
    exact back

/-- The holder of a filled and of an open ask is asked about by a stranger of a like name, and takes the open one back
when the bid that met both was interrupted. -/
theorem only_submitter_controls_after_interruption :
    let calls := twoAsks ++ [.lookUp ⟨"Ann"⟩ 2, .cancel ⟨"bob"⟩ 2,
      .submit ⟨"bob"⟩ ⟨.bid, ⟨.btc, .usdt⟩, 30, 8, 4, 3⟩, .cancel ⟨"ann"⟩ 2]
    let past := Desk.visits {} calls .empty
    let books := Desk.serve {} calls .empty
    let ask : Order := ⟨2, .ask, ⟨.btc, .usdt⟩, 1, 2, 30, 5, 5, .canceled⟩
    (∀ call ∈ calls, Call.RetailAt {} call) ∧ ask ∈ books.orders ∧ HandedIn past "ann" 2 ∧ TakenBack past "ann" 2 ∧
      (Call.cancel ⟨"bob"⟩ 2).run {} books = (.canceled (.error (.unauthorized 1 "bob")) [], books) := by
  intro calls past books ask
  have made : ∀ call ∈ calls, Call.RetailAt {} call := by
    simp [calls, twoAsks, Call.RetailAt, Call.Retail]
  have history : History Call.RetailAt past books := .of_calls made
  have member : ask ∈ books.orders := by decide +kernel
  obtain ⟨owner, handed, held, strangers, back⟩ := history.only_submitter_controls ask member
  have holder : books.account? ask.source = some ⟨1, "ann", 5, .btc⟩ := by decide +kernel
  obtain ⟨account, found, rfl, _⟩ := held.source
  obtain rfl : (⟨1, "ann", 5, .btc⟩ : Account) = account := Option.some.inj (holder.symm.trans found)
  have stranger : ("bob" : String) ≠ "ann" := by decide
  exact ⟨made, member, (handed "ann").mpr rfl, back rfl, (strangers {} ⟨"bob"⟩ rfl stranger).2⟩

end Bourse

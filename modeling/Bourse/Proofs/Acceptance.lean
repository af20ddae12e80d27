import Bourse.Forms
import Bourse.Proofs.Custody
import Bourse.Proofs.Funding
import Bourse.Proofs.Interruption
import Bourse.Proofs.Names
import Bourse.Proofs.Records
import Bourse.Session

namespace Bourse

open Scope

variable {ticket : Ticket} {books after : Books}

theorem Books.Holds.currency? {id : AccountId} {owner : String} {currency : Currency}
    (holds : books.Holds id owner currency) : books.currency? id = some currency := by
  obtain ⟨account, found, _, rfl⟩ := holds
  rw [Books.currency?, found, Option.map_some]

theorem Order.HeldBy.suits {order : Order} {owner : String} (held : order.HeldBy owner books) :
    books.Suits order.side order.pair order.source order.destination :=
  ⟨held.source.currency?, held.destination.currency?⟩

/-- A fill leaves alone what other orders offer. -/
theorem Books.Offers.fill {order resting : Order} {quantity : Int} {fill : Fill} (offers : books.Offers ticket order)
    (done : FillDone ticket resting quantity books fill after) (different : order.id ≠ resting.id)
    (written : Writes False books after) : after.Offers ticket order :=
  ⟨done.mem_of_ne offers.standing different, offers.tradable, offers.suits.writes written⟩

/-- What stops a turn is a shortage at the order whose turn it is. -/
theorem settleInTurn_shortage {unfilled : Int} {listed : List Order} {cause : Failure} (calm : books.Calm)
    (undisturbed : books.faults = {})
    (suits : books.Suits ticket.side ticket.pair ticket.source ticket.destination) (pair : ticket.pair ∈ Pair.listed)
    (positive : 0 < unfilled) (offers : ∀ order ∈ listed, books.Offers ticket order)
    (ascending : listed.Pairwise (·.id < ·.id))
    (stopped : (settleInTurn ticket unfilled listed books).stopped = some cause) :
    ∃ resting, listed[(settleInTurn ticket unfilled listed books).fills.length]? = some resting ∧
      Shortage [ticket.source, resting.source] cause := by
  have quantity {resting : Order} {rest : List Order} {books : Books} (calm : books.Calm)
      (offers : ∀ order ∈ resting :: rest, books.Offers ticket order) : 0 < resting.remaining := by
    have offered := offers resting List.mem_cons_self
    exact (calm.orders resting offered.standing).open_pos (.inl offered.tradable.2.2.2)
  fun_induction settleInTurn ticket unfilled listed books with
  | case1 => cases stopped
  | case2 unfilled resting rest books reason left failed =>
    cases stopped
    have unfilled_pos := quantity calm offers
    exact ⟨resting, rfl,
      fill_failsOnly calm undisturbed suits pair (offers resting List.mem_cons_self) (by omega) failed⟩
  | case3 => cases stopped
  | case4 unfilled resting rest books fill after filled unfinished later ih =>
    have done := fill_of_ok calm.steady filled
    have filled_eq := done.quantity_eq
    have written := (fill_makes _ _ _).writes (.inr calm.quiet : books.Quiet False) filled
    -- The orders after this one have other ids, so that they still offer what they did.
    obtain ⟨before, following⟩ := List.pairwise_cons.mp ascending
    obtain ⟨other, turn, short⟩ := ih ((fill_makes ..).calm calm filled) (done.faults.trans undisturbed)
      (suits.writes written) (by omega) (fun order member =>
        (offers order (List.mem_cons_of_mem _ member)).fill done (Int.ne_of_gt (before order member)) written)
      following stopped
    exact ⟨other, turn, short⟩

/-- What stops matching on a listed pair where nothing is disturbed is a shortage at the crossed order that is next. -/
theorem Books.Undisturbed.matching_shortage (undisturbed : books.Undisturbed)
    (suits : books.Suits ticket.side ticket.pair ticket.source ticket.destination) (listed : ticket.pair ∈ Pair.listed)
    (positive : 0 < ticket.amount)
    (held : ∀ order ∈ books.orders, books.Suits order.side order.pair order.source order.destination) {size : Nat}
    (range : 1 ≤ size ∧ size ≤ maxPageSize) {progress : Progress} {cause : Failure}
    (matched : matchTicket ticket size books = (.error ⟨progress, cause⟩, after)) :
    ∃ resting, (books.crossedBy ticket)[progress.fills.length]? = some resting ∧
      Shortage [ticket.source, resting.source] cause := by
  have calm := undisturbed.calm
  have ascending := calm.formed.ahead_none ticket ▸ calm.formed.ahead_ascending ticket none
  rw [calm.steady.matchTicket_eq (.inl listed) range, matchInTurn] at matched
  obtain ⟨stopped, rfl, _⟩ := Turn.outcome_eq_error matched
  refine settleInTurn_shortage calm undisturbed.faults suits listed positive (fun order member => ?_) ascending stopped
  obtain ⟨standing, tradable⟩ := tradable_of_crossedBy member
  exact ⟨standing, tradable, held order standing⟩

/-- A submission that failed for a shortage at the crossed order whose turn it was. The failure is that shortage if
nothing was filled before, and otherwise the interruption that it has caused. -/
def Desk.Shortfall (desk : Desk) (ticket : Ticket) (books : Books) (failure : Failure) : Prop :=
  ∃ progress cause resting, (matchTicket ticket desk.pageSize books).1 = .error ⟨progress, cause⟩ ∧
    (books.crossedBy ticket)[progress.fills.length]? = some resting ∧
    Shortage [ticket.source, resting.source] cause ∧
    ((progress.traded = 0 ∧ failure = cause) ∨
      (progress.traded ≠ 0 ∧ ∃ id, failure = .interrupted id progress.traded cause))

/-- Matching may fail an order that was vetted, but storing it does not. -/
theorem Taken.shortfall {desk : Desk} {principal : Principal} {filing : Filing Receipt} {failure : Failure}
    (taken : Taken desk ticket books filing) (undisturbed : books.Undisturbed)
    (vetted : desk.Vetted principal ticket books) (shown : desk.directory = .ofBooks)
    (held : ∀ order ∈ books.orders, books.Suits order.side order.pair order.source order.destination)
    (range : 1 ≤ desk.pageSize ∧ desk.pageSize ≤ maxPageSize) (listed : ticket.pair ∈ Pair.listed)
    (failed : filing.result = .error failure) : desk.Shortfall ticket books failure := by
  have own : (ticket.stored 0 0).HeldBy principal.username books := vetted.heldBy shown 0 0
  have short {progress cause middle}
      (matched : matchTicket ticket desk.pageSize books = (.error ⟨progress, cause⟩, middle)) :=
    undisturbed.matching_shortage own.suits listed vetted.terms.2 held range matched
  cases taken with
  | stored => cases failed
  | @interrupted progress cause middle order after matched some =>
    cases failed
    obtain ⟨resting, turn, shortage⟩ := short matched
    exact ⟨progress, cause, resting, congrArg Prod.fst matched, turn, shortage, .inr ⟨some, order.id, rfl⟩⟩
  | @rejected progress cause middle matched none =>
    cases failed
    obtain ⟨resting, turn, shortage⟩ := short matched
    exact ⟨progress, failure, resting, congrArg Prod.fst matched, turn, shortage, .inl ⟨none, rfl⟩⟩
  | unstored matched reached refused =>
    exact (undisturbed.not_unstored vetted shown matched reached listed refused).elim

/-- An order that was vetted is refused if its pair is not listed, at the latest when it is to be stored: there its row
cannot be read back, and before that the rows of the orders that it crosses, if there are any. -/
theorem Books.Undisturbed.take_unlisted {desk : Desk} {principal : Principal} (undisturbed : books.Undisturbed)
    (vetted : desk.Vetted principal ticket books) (shown : desk.directory = .ofBooks)
    (range : 1 ≤ desk.pageSize ∧ desk.pageSize ≤ maxPageSize) (unlisted : ticket.pair ∉ Pair.listed) :
    desk.take ticket books = ⟨.error (.unreadable ticket.pair), [], books⟩ := by
  obtain ⟨⟨paying, found, _⟩, receiving⟩ := vetted.accounts shown
  have refused : storeOrder ticket 0 books = (.error (.unreadable ticket.pair), books) :=
    storeOrder_unlisted undisturbed.faults vetted.terms ⟨hasAccount_of_account? found, receiving⟩ unlisted 0
  have unplaced : placeOrder ticket 0 books = (.error (.unreadable ticket.pair), books) := by
    unfold placeOrder
    rw [refused]
    rfl
  unfold Desk.take
  rcases undisturbed.calm.formed.matchTicket_unlisted range unlisted with ⟨_, none⟩ | ⟨_, stopped⟩
  · rw [none]
    simp only [unplaced]
  · rw [stopped]
    rfl

/-- A principal's call, or a transfer of funds from one account to another. -/
def Call.Trading (call : Call) : Prop :=
  call.Retail ∨ ∃ payer payee amount, call = .perform (.transfer payer payee amount)

theorem Call.Trading.passive {call : Call} (trading : call.Trading) : call.Each Operation.Passive := by
  rcases trading with retail | ⟨payer, payee, amount, rfl⟩
  · exact retail.passive
  · trivial

theorem Call.Trading.undisturbed {desk : Desk} {call : Call} (trading : call.Trading)
    (undisturbed : books.Undisturbed) (shown : desk.directory = .ofBooks) : (call.run desk books).2.Undisturbed := by
  rcases trading with retail | ⟨payer, payee, amount, rfl⟩
  · exact retail.undisturbed undisturbed shown
  · have fair : (perform (.transfer payer payee amount)).Each Operation.Fair := trivial
    have written : Writes False books ((perform (.transfer payer payee amount)).run desk books).2 :=
      run_writes desk (.inr fair) (.inr undisturbed.calm.quiet)
    have kept : Keeps (·.faults) (Operation.transfer payer payee amount).perform :=
      (transfer_keeps (fun _ _ _ _ => rfl) payer payee amount).map _
    exact undisturbed.writes written (kept.atomic books)

/-- A trading call at a desk that looks accounts up in the books. -/
def Call.TradingAt (desk : Desk) (call : Call) : Prop := desk.directory = .ofBooks ∧ call.Trading

theorem History.undisturbed_of_trading {past : List Visit} (history : History Call.TradingAt past books) :
    books.Undisturbed := by
  induction history with
  | start => exact Books.undisturbed_empty
  | next _ made ih => exact made.2.undisturbed ih made.1

theorem DeskSettings.pageSize_of_check {settings : DeskSettings} (built : settings.check = .ok ()) :
    1 ≤ settings.pageSize ∧ settings.pageSize ≤ maxPageSize := by
  unfold check Config.check at built
  cases sized : checkPageSize settings.pageSize with
  | error failure => simp [sized, bind, Except.bind] at built
  | ok => exact checkPageSize_eq_ok.mp sized

/-- An order that a desk has accepted succeeds, or it fails for a shortage: of funds in the account that it pays from or
in that of the resting order whose turn it was, or of room in a word. Nothing that was handed in before can make it fail
in another way. Only an order on a pair that is not listed is refused after it was accepted, as no row of it can be read
back, and leaves the books alone. -/
theorem History.accepted_fails_for_shortage {past : List Visit} (history : History Call.TradingAt past books)
    {settings : DeskSettings} (built : settings.check = .ok ()) (source : settings.accounts = .books)
    {principal : Principal} (accepted : settings.desk.vet principal ticket books = .ok ()) :
    (ticket.pair ∈ Pair.listed →
      (∃ receipt, (settings.desk.submit principal ticket books).result = .ok receipt) ∨
        ∃ failure, (settings.desk.submit principal ticket books).result = .error failure ∧
          settings.desk.Shortfall ticket books failure) ∧
      (ticket.pair ∉ Pair.listed → settings.desk.submit principal ticket books =
        ⟨.error (.unreadable ticket.pair), [.accepted ticket], books⟩) := by
  have undisturbed := history.undisturbed_of_trading
  have passive : History Call.PassiveAt past books := history.mono fun made => ⟨made.1, made.2.passive⟩
  have shown : settings.desk.directory = .ofBooks := by
    unfold DeskSettings.desk
    rw [source]
    rfl
  have held : ∀ order ∈ books.orders, books.Suits order.side order.pair order.source order.destination := by
    intro order member
    obtain ⟨owner, _, held⟩ := passive.heldBy order member
    exact held.suits
  have vetted := Desk.vetted_of_vet accepted
  have range := DeskSettings.pageSize_of_check built
  have taken := settings.desk.take_taken ticket books
  unfold Desk.submit
  rw [accepted]
  refine ⟨fun listed => ?_, fun unlisted => ?_⟩
  · cases ended : (settings.desk.take ticket books).result with
    | ok receipt => exact .inl ⟨receipt, rfl⟩
    | error failure =>
      exact .inr ⟨failure, rfl, taken.shortfall undisturbed vetted shown held range listed ended⟩
  · simp only [undisturbed.take_unlisted vetted shown range unlisted]

/-- The bid fills one ask and is interrupted at the other, for which it lacks the funds since some were paid out. -/
theorem accepted_fails_for_shortage_at_second_ask :
    let calls := twoAsks ++ [.perform (.deposit 4 60), .perform (.transfer 4 2 60)]
    let books := Desk.serve {} calls .empty
    let settings : DeskSettings := {}
    let ticket : Ticket := ⟨.bid, ⟨.btc, .usdt⟩, 30, 8, 4, 3⟩
    (∀ call ∈ calls, Call.TradingAt {} call) ∧ settings.check = .ok () ∧ ticket.pair ∈ Pair.listed ∧
      settings.desk.vet ⟨"bob"⟩ ticket books = .ok () ∧
      (settings.desk.submit ⟨"bob"⟩ ticket books).result =
        .error (.interrupted 3 5 (.insufficientFunds 4 0 90)) ∧
      settings.desk.Shortfall ticket books (.interrupted 3 5 (.insufficientFunds 4 0 90)) := by
  intro calls books settings ticket
  have made : ∀ call ∈ calls, Call.TradingAt {} call := by
    simp [calls, twoAsks, Call.TradingAt, Call.Trading, Call.Retail]
  have history : History Call.TradingAt (Desk.visits {} calls .empty) books := .of_calls made
  have built : settings.check = .ok () := by decide
  have read : Pair.parse "BTC/USDT" = .ok ticket.pair := by decide +kernel
  have listed := Pair.mem_listed_of_parse read
  have accepted : settings.desk.vet ⟨"bob"⟩ ticket books = .ok () := by decide +kernel
  have interrupted : (settings.desk.submit ⟨"bob"⟩ ticket books).result =
      .error (.interrupted 3 5 (.insufficientFunds 4 0 90)) := by decide +kernel
  refine ⟨made, built, listed, accepted, interrupted, ?_⟩
  rcases (history.accepted_fails_for_shortage built rfl accepted).1 listed with
    ⟨receipt, ended⟩ | ⟨failure, ended, short⟩
  · cases interrupted.symm.trans ended
  · cases interrupted.symm.trans ended
    exact short

/-- A ticket on a reversed pair is read from its notation and accepted, but it is no shortage that it fails for. -/
theorem accepted_fails_on_unlisted_pair :
    let calls := [.perform (.openAccount "ann" .usdt), .perform (.openAccount "ann" .btc)]
    let books := Desk.serve {} calls .empty
    let settings : DeskSettings := {}
    let ticket : Ticket := ⟨.ask, ⟨.usdt, .btc⟩, 3, 5, 1, 2⟩
    (∀ call ∈ calls, Call.TradingAt {} call) ∧ settings.check = .ok () ∧
      Ticket.form.parse ("\x7b\"side\":\"Ask\",\"pair\":\x7b\"base\":\"Usdt\",\"quote\":\"Btc\"\x7d," ++
        "\"price\":3,\"amount\":5,\"from_account\":1,\"to_account\":2\x7d") = some ticket ∧
      settings.desk.vet ⟨"ann"⟩ ticket books = .ok () ∧
      (settings.desk.submit ⟨"ann"⟩ ticket books).result =
        .error (.storage (.columnText 2 (.pair "USDT/BTC"))) ∧
      ¬((∃ receipt, (settings.desk.submit ⟨"ann"⟩ ticket books).result = .ok receipt) ∨
        ∃ failure, (settings.desk.submit ⟨"ann"⟩ ticket books).result = .error failure ∧
          settings.desk.Shortfall ticket books failure) := by
  intro calls books settings ticket
  have made : ∀ call ∈ calls, Call.TradingAt {} call := by
    simp [calls, Call.TradingAt, Call.Trading, Call.Retail]
  have refused : (settings.desk.submit ⟨"ann"⟩ ticket books).result =
      .error (.storage (.columnText 2 (.pair "USDT/BTC"))) := by decide +kernel
  refine ⟨made, by decide, by decide +kernel, by decide +kernel, refused, ?_⟩
  rintro (⟨receipt, ended⟩ | ⟨failure, ended, progress, cause, resting, _, _, shortage, same | ⟨_, id, same⟩⟩)
  · cases refused.symm.trans ended
  · cases refused.symm.trans ended
    obtain ⟨_, rfl⟩ := same
    cases shortage
  · cases refused.symm.trans ended
    cases same

end Bourse

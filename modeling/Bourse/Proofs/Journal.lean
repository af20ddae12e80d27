import Bourse.Proofs.History
import Bourse.Proofs.Movements
import Bourse.Proofs.OrderRows

namespace Bourse

open Scope

/-- The row of a transfer that moves the funds of a leg. -/
def Leg.moved (leg : Leg) (id : TransferId) : Transfer := ⟨id, leg.payer, leg.payee, leg.amount⟩

/-- The two transfers of a trade, numbered as they are if every trade before it has two as well. -/
def Trade.transfers (trade : Trade) : List Transfer :=
  [trade.first.moved (2 * trade.id - 1), trade.second.moved (2 * trade.id)]

/-- The two lines of a transfer; `id` is that of the first. -/
def Transfer.lines (transfer : Transfer) (id : EntryId) : List Entry :=
  [⟨id, transfer.payer, -transfer.amount⟩, ⟨id + 1, transfer.payee, transfer.amount⟩]

/-- The line of a deposit that was answered like this. -/
def Operation.lodged : Operation → Except Failure Answer → List Entry
  | deposit .., .ok (.entry entry) => [entry]
  | _, _ => []

/-- The lines of all deposits so far. -/
def lodgements (past : List Visit) : List Entry :=
  past.flatMap fun visit => visit.call.gathered Operation.lodged visit.reply

theorem lodgements_next (past : List Visit) (desk : Desk) (call : Call) (books : Books) :
    lodgements (past ++ [⟨desk, call, books⟩]) =
      lodgements past ++ call.gathered Operation.lodged (call.run desk books).1 := by
  simp [lodgements, Visit.reply]

theorem Operation.lodged_error (operation : Operation) (failure : Failure) :
    operation.lodged (.error failure) = [] := by
  cases operation <;> rfl

theorem Operation.Internal.lodged {operation : Operation} (internal : operation.Internal)
    (result : Except Failure Answer) : operation.lodged result = [] := by
  cases operation with
  | deposit => exact internal.elim
  | _ => rfl

/-- The lines of a transfer are the last that it has written. -/
theorem Transferred.entries {payer payee : AccountId} {amount : Int} {books after : Books} {row : Transfer}
    (done : Transferred payer payee amount books row after) :
    after.entries = books.entries ++ row.lines (nextId books.entries) := by
  have written : after.entries = books.entries ++ [⟨nextId books.entries, payer, -amount⟩] ++
      [⟨nextId (books.entries ++ [⟨nextId books.entries, payer, -amount⟩]), payee, amount⟩] := by
    rw [done.after_eq]
    rfl
  rw [written, nextId_append, done.row_eq, List.append_assoc]
  rfl

namespace Books

/-- Beside the lines of deposits there are those of the transfers only, two for each and in their order. -/
structure Lined (lodged : List Entry) (books : Books) : Prop where
  formed : books.WellFormed
  kept : lodged.Sublist books.entries
  lines : ∃ ids : List EntryId, ids.length = books.transfers.length ∧
    books.entries.filter (· ∉ lodged) = (List.zipWith Transfer.lines books.transfers ids).flatten

/-- Every transfer belongs to a trade, in the order of the trades. -/
structure Chained (lodged : List Entry) (books : Books) : Prop extends books.Lined lodged where
  transfers : books.transfers = books.trades.flatMap Trade.transfers

theorem chained_empty : empty.Chained [] := ⟨⟨wellFormed_empty, List.Sublist.refl _, [], rfl, rfl⟩, rfl⟩

variable {lodged : List Entry} {books after : Books}

theorem Lined.of_same (lined : books.Lined lodged) (formed : after.WellFormed)
    (same : (after.transfers, after.entries) = (books.transfers, books.entries)) : after.Lined lodged := by
  obtain ⟨transfers, entries⟩ := Prod.mk.inj same
  exact ⟨formed, entries ▸ lined.kept, transfers ▸ entries ▸ lined.lines⟩

theorem Chained.of_same (chained : books.Chained lodged) (formed : after.WellFormed)
    (same : (after.transfers, after.entries, after.trades) = (books.transfers, books.entries, books.trades)) :
    after.Chained lodged := by
  simp only [Prod.mk.injEq] at same
  obtain ⟨transfers, entries, trades⟩ := same
  refine ⟨chained.toLined.of_same formed ?_, ?_⟩
  · rw [transfers, entries]
  · rw [transfers, trades]
    exact chained.transfers

/-- A line that is written next is not one of those that deposits have left. -/
theorem Lined.new_notMem (lined : books.Lined lodged) {entry : Entry} (new : nextId books.entries ≤ entry.id) :
    entry ∉ lodged := by
  intro old
  have before := (lined.formed.entryIds.range (lined.kept.subset old)).2
  omega

theorem Lined.transfer (lined : books.Lined lodged) {payer payee : AccountId} {amount : Int} {row : Transfer}
    (done : Transferred payer payee amount books row after) (formed : after.WellFormed) : after.Lined lodged := by
  have entries := done.entries
  have transfers : after.transfers = books.transfers ++ [row] := by rw [done.after_eq]
  obtain ⟨ids, count, lines⟩ := lined.lines
  have new : (row.lines (nextId books.entries)).filter (· ∉ lodged) = row.lines (nextId books.entries) := by
    refine List.filter_eq_self.mpr fun entry member => decide_eq_true (lined.new_notMem ?_)
    rcases List.mem_pair.mp member with rfl | rfl
    · exact Int.le_refl _
    · exact Int.le_of_lt (Int.lt_succ _)
  refine ⟨formed, ?_, ids ++ [nextId books.entries], ?_, ?_⟩
  · rw [entries]
    exact lined.kept.trans (List.sublist_append_left _ _)
  · rw [transfers, List.length_append, List.length_append, count]
    rfl
  · rw [entries, transfers, List.filter_append, new, lines, List.zipWith_append count.symm, List.flatten_append]
    simp

/-- The line of a deposit joins the lines of deposits and no others. -/
theorem Lined.deposit (lined : books.Lined lodged) {id : AccountId} {amount : Int}
    (admits : books.Admits id amount) :
    (books.post id amount).Lined (lodged ++ [⟨nextId books.entries, id, amount⟩]) := by
  refine ⟨lined.formed.post admits, lined.kept.append (List.Sublist.refl _), ?_⟩
  obtain ⟨ids, count, lines⟩ := lined.lines
  refine ⟨ids, count, Eq.trans ?_ lines⟩
  have older : ∀ entry ∈ books.entries, entry ≠ ⟨nextId books.entries, id, amount⟩ := by
    rintro _ member rfl
    exact absurd (lined.formed.entryIds.range member).2 (Int.lt_irrefl _)
  unfold Books.post
  rw [List.filter_append]
  have gone : [(⟨nextId books.entries, id, amount⟩ : Entry)].filter
      (· ∉ lodged ++ [⟨nextId books.entries, id, amount⟩]) = [] := by simp
  rw [gone, List.append_nil]
  refine List.filter_congr fun entry member => ?_
  simp [older entry member]

theorem Chained.deposit (chained : books.Chained lodged) {id : AccountId} {amount : Int}
    (admits : books.Admits id amount) :
    (books.post id amount).Chained (lodged ++ [⟨nextId books.entries, id, amount⟩]) :=
  ⟨chained.toLined.deposit admits, chained.transfers⟩

theorem length_transfers (trades : List Trade) : (trades.flatMap Trade.transfers).length = 2 * trades.length := by
  induction trades with
  | nil => rfl
  | cons trade rest ih =>
    rw [List.flatMap_cons, List.length_append, ih, List.length_cons]
    simp only [Trade.transfers, List.length_cons, List.length_nil]
    omega

/-- A settlement adds one trade with its two transfers. -/
theorem Chained.settle (chained : books.Chained lodged) {first second : Leg} {settlement : Settlement}
    (settled : SettledIn first second books settlement after) (lined : after.Lined lodged) :
    after.Chained lodged := by
  refine ⟨lined, ?_⟩
  obtain ⟨middle, firstMoved, secondMoved⟩ := settled.transfers
  have next : 2 * nextId books.trades = nextId books.transfers + 1 := by
    have count := congrArg List.length chained.transfers
    rw [length_transfers] at count
    unfold nextId
    omega
  have between : middle.transfers = books.transfers ++ [settlement.firstTransfer] := by rw [firstMoved.after_eq]
  have transfers : after.transfers =
      books.transfers ++ [settlement.firstTransfer] ++ [settlement.secondTransfer] := by
    rw [secondMoved.after_eq, between]
  have trades : after.trades = books.trades ++ [settlement.trade] := by
    rw [secondMoved.after_eq]
    simp only [Books.post, Books.adjust]
    rw [firstMoved.after_eq]
    rfl
  have legs : [settlement.firstTransfer, settlement.secondTransfer] = settlement.trade.transfers := by
    rw [firstMoved.row_eq, secondMoved.row_eq, settled.trade_eq, between, nextId_append]
    simp only [Trade.transfers, Leg.moved, next, Int.add_sub_cancel]
  rw [transfers, trades, List.flatMap_append, ← chained.transfers, List.append_assoc, List.flatMap_singleton,
    ← legs]
  rfl

end Books

namespace Scope

variable {α : Type} {lodged : List Entry}

theorem transfer_secures_lined (payer payee : AccountId) (amount : Int) :
    Secures (Books.Lined lodged) (transfer payer payee amount) := by
  intro books row after lined ran
  exact lined.transfer (transfer_of_ok lined.formed ran) ((transfer_makes _ _ _).wellFormed lined.formed ran)

theorem postTrade_secures_lined (first second : Leg) : Secures (Books.Lined lodged) (postTrade first second) := by
  intro books row after lined ran
  have formed := (postTrade_makes first second).wellFormed lined.formed ran
  obtain ⟨_, rfl⟩ := postTrade_of_ok ran
  exact lined.of_same formed rfl

/-- Between its trade and its second transfer a settlement breaks the chain, but not the lines of the transfers. -/
theorem settle_secures_chained (first second : Leg) : Secures (Books.Chained lodged) (settle first second) := by
  intro books settlement after chained ran
  have lined := settle_secures (postTrade_secures_lined first second) transfer_secures_lined chained.toLined ran
  exact chained.settle (settle_of_ok chained.formed ran) lined

theorem secures_chained {work : Scope α} (makes : Makes True work)
    (kept : Keeps (fun books => (books.transfers, books.entries, books.trades)) work) :
    Secures (Books.Chained lodged) work := by
  intro books value after chained ran
  have same := kept books
  rw [ran] at same
  exact chained.of_same (makes.wellFormed chained.formed ran) same

/-- Work on orders alone leaves the journal alone, whatever its competitors do. -/
theorem recordFill_secures_chained (id : OrderId) (expected remaining : Int) (status : Status) :
    Secures (Books.Chained lodged) (recordFill id expected remaining status) :=
  secures_chained (recordFill_makes _ _ _ _) (recordFill_keeps (fun _ _ => rfl) _ _ _ _)

theorem credit_secures_chained (id : AccountId) (amount : Int) :
    Secures (Books.Chained lodged) (credit id amount) := by
  intro books row after chained ran
  have formed := (credit_makes id amount).wellFormed chained.formed ran
  obtain ⟨_, rfl⟩ := credit_of_ok chained.formed ran
  exact chained.of_same formed rfl

theorem debit_secures_chained (id : AccountId) (amount : Int) :
    Secures (Books.Chained lodged) (debit id amount) := by
  intro books row after chained ran
  have formed := (debit_makes id amount).wellFormed chained.formed ran
  obtain ⟨_, rfl⟩ := debit_of_ok chained.formed ran
  exact chained.of_same formed rfl

end Scope

/-- An operation that writes to the journal only by settlements and deposits. -/
def Operation.Chaining : Operation → Prop
  | transfer .. | postTransfer .. | postEntry .. | postTrade .. => False
  | _ => True

theorem Operation.Chaining.gathers {operation : Operation} (chaining : operation.Chaining) :
    operation.Gathers Operation.lodged Books.Chained := by
  have apart (still : ¬operation.MovesFunds) (lodged : List Entry) :
      Secures (Books.Chained lodged) operation.perform := by
    have kept : (∃ first second, operation = .postTrade first second) ∨
        Keeps (fun books => (books.transfers, books.entries, books.trades)) operation.perform :=
      perform_keeps_or (fun _ _ => rfl) (fun _ _ => rfl) still
    rcases kept with ⟨first, second, rfl⟩ | kept
    · exact chaining.elim
    · exact secures_chained (perform_makes _ (.inl trivial)) kept
  have internal (internal : operation.Internal)
      (secured : ∀ lodged, Secures (Books.Chained lodged) operation.perform) :
      operation.Gathers Operation.lodged Books.Chained := gathers_of_silent internal.lodged secured
  cases operation with
  | transfer | postTransfer | postEntry | postTrade => exact chaining.elim
  | deposit id amount =>
    intro lodged books answer after chained ran
    obtain ⟨entry, brought, rfl⟩ := map_eq_ok.mp ran
    obtain ⟨_, admits, rfl, rfl⟩ := deposit_of_ok chained.formed brought
    exact chained.deposit admits
  | openAccount owner currency =>
    exact internal trivial fun _ =>
      (secures_chained (openAccount_makes owner currency) fun _ => rfl).map _
  | credit => exact internal trivial fun _ => (credit_secures_chained _ _).map _
  | debit => exact internal trivial fun _ => (debit_secures_chained _ _).map _
  | settle => exact internal trivial fun _ => (settle_secures_chained _ _).map _
  | _ => exact internal trivial (apart id)

/-- A call that writes to the journal only by settlements and deposits, and undoes what fails. -/
def Call.Chaining (call : Call) : Prop := call.Each Operation.Chaining ∧ call.Strict

theorem Call.Chaining.run {call : Call} (chaining : call.Chaining) (desk : Desk) {lodged : List Entry}
    {books : Books} (chained : books.Chained lodged) :
    (call.run desk books).2.Chained (lodged ++ call.gathered Operation.lodged (call.run desk books).1) := by
  refine run_gathers Operation.lodged_error desk chaining.2 (chaining.1.imp Operation.Chaining.gathers)
    (fun _ => fill_secures settle_secures_chained recordFill_secures_chained)
    (fun _ ticket filled => secures_chained (storeOrder_makes ticket filled)
      (storeOrder_keeps (fun _ _ => rfl) ticket filled))
    (fun _ id => secures_chained (cancelOrder_makes id) (cancelOrder_keeps (fun _ _ => rfl) id)) chained

theorem History.chained {past : List Visit} {books : Books}
    (history : History (fun _ call => call.Chaining) past books) : books.Chained (lodgements past) := by
  induction history with
  | start => exact Books.chained_empty
  | next _ chaining ih =>
    rw [lodgements_next]
    exact chaining.run _ ih

/-- The transfers of a trade are found under twice its id and the id before that. -/
theorem Books.Chained.transfer?_eq {lodged : List Entry} {books : Books} (chained : books.Chained lodged)
    {trade : Trade} (member : trade ∈ books.trades) :
    books.transfer? (2 * trade.id - 1) = some (trade.first.moved (2 * trade.id - 1)) ∧
      books.transfer? (2 * trade.id) = some (trade.second.moved (2 * trade.id)) := by
  have listed : ∀ transfer ∈ trade.transfers, books.transfer? transfer.id = some transfer := by
    intro transfer leg
    have present : transfer ∈ books.transfers := by
      rw [chained.transfers]
      exact List.mem_flatMap.mpr ⟨trade, member, leg⟩
    exact chained.formed.transferIds.find?_eq_some.mpr ⟨present, rfl⟩
  exact ⟨listed _ List.mem_cons_self, listed _ (List.mem_cons_of_mem _ List.mem_cons_self)⟩

/-- Trades, transfers and lines are chained without gaps, whatever the desks take for accounts, whatever faults are set
up, and however calls end: trade by trade there are its two transfers, and transfer by transfer, next to the lines of
deposits, its two lines. -/
theorem History.journal_chained {past : List Visit} {books : Books}
    (history : History (fun _ call => call.Chaining) past books) :
    (Numbered (·.id) books.trades ∧ Numbered (·.id) books.transfers ∧ Numbered (·.id) books.entries) ∧
      books.transfers.length = 2 * books.trades.length ∧
      (∀ trade ∈ books.trades,
        books.transfer? (2 * trade.id - 1) = some (trade.first.moved (2 * trade.id - 1)) ∧
          books.transfer? (2 * trade.id) = some (trade.second.moved (2 * trade.id))) ∧
      (lodgements past).Sublist books.entries ∧
      ∃ ids : List EntryId, ids.length = books.transfers.length ∧
        books.entries.filter (· ∉ lodgements past) =
          (List.zipWith Transfer.lines books.transfers ids).flatten := by
  have chained := history.chained
  have formed := chained.formed
  refine ⟨⟨formed.tradeIds, formed.transferIds, formed.entryIds⟩, ?_, fun _ => chained.transfer?_eq, chained.kept,
    chained.lines⟩
  rw [chained.transfers, Books.length_transfers]

/-- A submission, a settlement and a scope fail each between the legs of a trade, and the scope takes a deposit with it.
Then a competing writer strikes in the scope of a fill. -/
theorem journal_chained_after_failures_between_legs :
    let calls := twoAsks ++ [.submit ⟨"bob"⟩ ⟨.bid, ⟨.btc, .usdt⟩, 30, 8, 4, 3⟩,
      .perform (.settle ⟨1, 3, 2⟩ ⟨4, 2, 50⟩), .batch [.deposit 4 9, .settle ⟨1, 3, 1⟩ ⟨4, 2, 50⟩] false none,
      .perform (.deposit 4 60), .perform (.race ⟨2, 2, 5, .active⟩),
      .submit ⟨"bob"⟩ ⟨.bid, ⟨.btc, .usdt⟩, 30, 2, 4, 3⟩]
    let past := Desk.visits {} calls .empty
    let books := Desk.serve {} calls .empty
    (∀ call ∈ calls, call.Chaining) ∧ lodgements past = [⟨1, 1, 10⟩, ⟨2, 4, 100⟩, ⟨7, 4, 60⟩] ∧
      books.trades = [⟨1, ⟨1, 3, 5⟩, ⟨4, 2, 100⟩⟩, ⟨2, ⟨1, 3, 2⟩, ⟨4, 2, 60⟩⟩] ∧
      books.transfer? 4 = some ⟨4, 4, 2, 60⟩ ∧
      (books.entries.filter (· ∉ lodgements past)).map (·.id) = [3, 4, 5, 6, 8, 9, 10, 11] := by
  intro calls past books
  have chaining : ∀ call ∈ calls, call.Chaining := by
    simp [calls, twoAsks, Call.Chaining, Call.Each, Call.Strict, Operation.Chaining]
  have history : History (fun _ call => call.Chaining) past books := .of_calls chaining
  have second : (⟨2, ⟨1, 3, 2⟩, ⟨4, 2, 60⟩⟩ : Trade) ∈ books.trades := by decide +kernel
  obtain ⟨_, _, paired, _⟩ := history.journal_chained
  exact ⟨chaining, by decide +kernel, by decide +kernel, (paired _ second).2, by decide +kernel⟩

end Bourse

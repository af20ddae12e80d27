import Bourse.Forms
import Bourse.Proofs.Instants
import Bourse.Proofs.Records

namespace Bourse

section Words

def Leg.FitsWords (leg : Leg) : Prop := FitsWord leg.payer ∧ FitsWord leg.payee ∧ FitsWord leg.amount

def Swap.FitsWords (legs : Swap) : Prop := legs.base.FitsWords ∧ legs.quote.FitsWords

def Ticket.FitsWords (ticket : Ticket) : Prop :=
  FitsWord ticket.price ∧ FitsWord ticket.amount ∧ FitsWord ticket.source ∧ FitsWord ticket.destination

def Order.FitsWords (order : Order) : Prop :=
  FitsWord order.id ∧ FitsWord order.source ∧ FitsWord order.destination ∧ FitsWord order.price ∧
    FitsWord order.initial ∧ FitsWord order.remaining

def Account.FitsWords (account : Account) : Prop := FitsWord account.id ∧ FitsWord account.balance

def Transfer.FitsWords (transfer : Transfer) : Prop :=
  FitsWord transfer.id ∧ FitsWord transfer.payer ∧ FitsWord transfer.payee ∧ FitsWord transfer.amount

def Entry.FitsWords (entry : Entry) : Prop := FitsWord entry.id ∧ FitsWord entry.account ∧ FitsWord entry.amount

def Trade.FitsWords (trade : Trade) : Prop := FitsWord trade.id ∧ trade.first.FitsWords ∧ trade.second.FitsWords

def SettlementRecord.FitsWords (settlement : SettlementRecord) : Prop :=
  settlement.trade.value.FitsWords ∧ settlement.firstTransfer.value.FitsWords ∧
    settlement.secondTransfer.value.FitsWords

def Event.FitsWords : Event → Prop
  | accepted ticket => ticket.FitsWords
  | filled order resting trade quantity price =>
    FitsWord order ∧ FitsWord resting ∧ FitsWord trade ∧ FitsWord quantity ∧ FitsWord price
  | completed order total => FitsWord order ∧ FitsWord total
  | rested order price remaining => FitsWord order ∧ FitsWord price ∧ FitsWord remaining
  | interrupted order amount _ => FitsWord order ∧ FitsWord amount
  | cancelled order remaining => FitsWord order ∧ FitsWord remaining

/-- A span of whole seconds that fit an unsigned word, and less than a second. -/
def Span.InRange (span : Span) : Prop := span.seconds ≤ greatestUnsigned64 ∧ span.nanoseconds < 1000000000

def Config.InRange (config : Config) : Prop :=
  config.storage.busyTimeout.InRange ∧ config.pageSize ≤ greatestUnsigned32

end Words

theorem Currency.form_faithful : Currency.form.Faithful fun _ => True :=
  Form.named_faithful fun currency => by cases currency <;> rfl

theorem Side.form_faithful : Side.form.Faithful fun _ => True :=
  Form.named_faithful fun side => by cases side <;> rfl

theorem Status.form_faithful : Status.form.Faithful fun _ => True :=
  Form.named_faithful fun status => by cases status <;> rfl

theorem Change.form_faithful : Change.form.Faithful fun _ => True :=
  Form.named_faithful fun change => by cases change <;> rfl

open Fields

theorem Fields.word_faithful (name : String) : (one name .word).Faithful FitsWord :=
  one_faithful name Form.word_faithful

/-- Also a pair on which no orders are taken is read back. -/
theorem Pair.form_faithful : Pair.form.Faithful fun _ => True :=
  Faithful.record (.map (.and (one_faithful _ Currency.form_faithful) (one_faithful _ Currency.form_faithful))
    (fun _ => rfl) fun _ _ => ⟨trivial, trivial⟩) (by decide)

theorem Timestamp.form_faithful : Timestamp.form.Faithful fun _ => True := fun instant _ => instant.parse?_text

theorem Principal.form_faithful : Principal.form.Faithful fun _ => True :=
  Faithful.record (.map (one_faithful _ Form.string_faithful) (fun _ => rfl) fun _ _ => trivial) (by decide)

theorem Leg.form_faithful : Leg.form.Faithful FitsWords :=
  Faithful.record (.map (.and (word_faithful _) <| .and (word_faithful _) (word_faithful _))
    (fun _ => rfl) fun _ fits => fits) (by decide)

theorem Swap.form_faithful : Swap.form.Faithful FitsWords :=
  Faithful.record (.map (.and (one_faithful _ Leg.form_faithful) (one_faithful _ Leg.form_faithful))
    (fun _ => rfl) fun _ fits => fits) (by decide)

theorem Ticket.form_faithful : Ticket.form.Faithful FitsWords :=
  Faithful.record (.map (.and (one_faithful _ Side.form_faithful) <| .and (one_faithful _ Pair.form_faithful) <|
    .and (word_faithful _) <| .and (word_faithful _) <| .and (word_faithful _) (word_faithful _))
    (fun _ => rfl) fun _ fits => ⟨trivial, trivial, fits⟩) (by decide)

/-- Any instant is read back after the other fields. -/
theorem Fields.Faithful.stamped {α : Type} {fields : Fields α} {kept : α → Prop} (faithful : fields.Faithful kept)
    (name : String) : (fields.stamped name).Faithful fun stamped => kept stamped.value :=
  .map (faithful.and (one_faithful name Timestamp.form_faithful)) (fun _ => rfl) fun _ keeps => ⟨keeps, trivial⟩

theorem Order.fields_faithful : Order.fields.Faithful FitsWords :=
  .map (.and (word_faithful _) <| .and (one_faithful _ Side.form_faithful) <|
    .and (one_faithful _ Pair.form_faithful) <| .and (word_faithful _) <| .and (word_faithful _) <|
    .and (word_faithful _) <| .and (word_faithful _) <| .and (word_faithful _) (one_faithful _ Status.form_faithful))
    (fun _ => rfl) fun _ ⟨id, source, destination, price, initial, remaining⟩ =>
      ⟨id, trivial, trivial, source, destination, price, initial, remaining, trivial⟩

theorem Order.form_faithful : Order.form.Faithful fun order => order.value.FitsWords :=
  (fields_faithful.stamped _).record (by decide)

theorem Account.fields_faithful : Account.fields.Faithful FitsWords :=
  .map (.and (word_faithful _) <| .and (one_faithful _ Form.string_faithful) <| .and (word_faithful _)
    (one_faithful _ Currency.form_faithful)) (fun _ => rfl) fun _ fits => ⟨fits.1, trivial, fits.2, trivial⟩

theorem Account.form_faithful : Account.form.Faithful fun account => account.value.FitsWords :=
  (fields_faithful.stamped _).record (by decide)

theorem Transfer.fields_faithful : Transfer.fields.Faithful FitsWords :=
  .map (.and (word_faithful _) <| .and (word_faithful _) <| .and (word_faithful _) (word_faithful _))
    (fun _ => rfl) fun _ fits => fits

theorem Transfer.form_faithful : Transfer.form.Faithful fun transfer => transfer.value.FitsWords :=
  (fields_faithful.stamped _).record (by decide)

theorem Entry.fields_faithful : Entry.fields.Faithful FitsWords :=
  .map (.and (word_faithful _) <| .and (word_faithful _) (word_faithful _)) (fun _ => rfl) fun _ fits => fits

theorem Entry.form_faithful : Entry.form.Faithful fun entry => entry.value.FitsWords :=
  (fields_faithful.stamped _).record (by decide)

theorem Trade.fields_faithful : Trade.fields.Faithful FitsWords :=
  .map (.and (word_faithful _) <| .and (one_faithful _ Leg.form_faithful) (one_faithful _ Leg.form_faithful))
    (fun _ => rfl) fun _ fits => fits

theorem Trade.form_faithful : Trade.form.Faithful fun trade => trade.value.FitsWords :=
  (fields_faithful.stamped _).record (by decide)

theorem SettlementRecord.form_faithful : SettlementRecord.form.Faithful FitsWords :=
  Faithful.record (.map (.and (one_faithful _ Trade.form_faithful) <|
    .and (one_faithful _ Transfer.form_faithful) (one_faithful _ Transfer.form_faithful))
    (fun _ => rfl) fun _ fits => fits) (by decide)

/-- Less than a second is carried over to no whole second. -/
theorem Span.form_faithful : Span.form.Faithful InRange := by
  intro span range
  have small : span.nanoseconds ≤ greatestUnsigned32 := Nat.le_trans (Nat.le_of_lt range.2) (by decide)
  have back := Faithful.closedRecord (.and (one_faithful "secs" (Form.upTo_faithful greatestUnsigned64))
    (one_faithful "nanos" (Form.upTo_faithful greatestUnsigned32))) (by decide)
    (span.seconds, span.nanoseconds) ⟨range.1, small⟩
  have whole : span.seconds + span.nanoseconds / 1000000000 = span.seconds := by
    rw [Nat.div_eq_of_lt range.2, Nat.add_zero]
  unfold form
  simp only [back, Option.bind_eq_bind, Option.bind_some, whole, if_pos range.1, Nat.mod_eq_of_lt range.2]
  rfl

theorem Storage.form_faithful : Storage.form.Faithful fun storage => storage.busyTimeout.InRange :=
  Faithful.record (.map (.and (optional_faithful _ Form.string_faithful fun _ => nofun)
    (one_faithful _ Span.form_faithful)) (fun _ => rfl) fun _ range => ⟨fun _ _ => trivial, range⟩) (by decide)

theorem Config.form_faithful : Config.form.Faithful InRange :=
  Faithful.record (.map (.and (one_faithful _ Storage.form_faithful) (one_faithful _ (Form.upTo_faithful _)))
    (fun _ => rfl) fun _ range => range) (by decide)

namespace Event

theorem acceptedFields_faithful : acceptedFields.Faithful Ticket.FitsWords :=
  one_faithful _ Ticket.form_faithful

theorem filledFields_faithful : filledFields.Faithful fun (order, resting, trade, quantity, price) =>
    FitsWord order ∧ FitsWord resting ∧ FitsWord trade ∧ FitsWord quantity ∧ FitsWord price :=
  .and (word_faithful _) <| .and (word_faithful _) <| .and (word_faithful _) <|
    .and (word_faithful _) (word_faithful _)

theorem completedFields_faithful : completedFields.Faithful fun (order, total) => FitsWord order ∧ FitsWord total :=
  .and (word_faithful _) (word_faithful _)

theorem restedFields_faithful : restedFields.Faithful fun (order, price, remaining) =>
    FitsWord order ∧ FitsWord price ∧ FitsWord remaining :=
  .and (word_faithful _) <| .and (word_faithful _) (word_faithful _)

theorem interruptedFields_faithful : interruptedFields.Faithful fun (order, amount, _) =>
    FitsWord order ∧ FitsWord amount ∧ True :=
  .and (word_faithful _) <| .and (word_faithful _) (one_faithful _ Form.string_faithful)

theorem cancelledFields_faithful : cancelledFields.Faithful fun (order, remaining) =>
    FitsWord order ∧ FitsWord remaining :=
  .and (word_faithful _) (word_faithful _)

theorem readContent_write {α : Type} {fields : Fields α} {kept : α → Prop} (faithful : fields.Faithful kept)
    (distinct : (fields.stamped "timestamp").names.Nodup) (event : α → Event) (content : α) (keeps : kept content)
    (instant : Timestamp) :
    readContent fields event
      ((fields.stamped "timestamp").names.zip ((fields.stamped "timestamp").write ⟨content, instant⟩)) =
      some ⟨event content, instant⟩ := by
  have back : (fields.stamped "timestamp").readObject _ = some ⟨content, instant⟩ :=
    (faithful.stamped "timestamp").readObject distinct keeps
  rw [readContent, back]
  rfl

/-- Each event is read under its own name, with the fields that belong to it. -/
theorem form_faithful : form.Faithful fun stamped => stamped.value.FitsWords := by
  rintro ⟨event, instant⟩ fits
  cases event with
  | accepted ticket => exact readContent_write acceptedFields_faithful (by decide) accepted ticket fits instant
  | filled order resting trade quantity price =>
    exact readContent_write filledFields_faithful (by decide)
      (fun (order, resting, trade, quantity, price) => filled order resting trade quantity price)
      (order, resting, trade, quantity, price) fits instant
  | completed order total =>
    exact readContent_write completedFields_faithful (by decide) (fun (order, total) => completed order total)
      (order, total) fits instant
  | rested order price remaining =>
    exact readContent_write restedFields_faithful (by decide)
      (fun (order, price, remaining) => rested order price remaining) (order, price, remaining) fits instant
  | interrupted order amount reason =>
    exact readContent_write interruptedFields_faithful (by decide)
      (fun (order, amount, reason) => interrupted order amount reason) (order, amount, reason)
      ⟨fits.1, fits.2, trivial⟩ instant
  | cancelled order remaining =>
    exact readContent_write cancelledFields_faithful (by decide)
      (fun (order, remaining) => cancelled order remaining) (order, remaining) fits instant

end Event

/-- Whatever is written in the notation is read back from its text as it was: events with any reason and with the
order they are about, tickets and rows with any words and instants, settings with a path or without one, names and
ids. -/
theorem parse_text_of_forms :
    (∀ event : Stamped Event, event.value.FitsWords →
      Event.form.parse (Event.form.text event) = some event ∧
      (Event.form.parse (Event.form.text event)).bind (·.value.order?) = event.value.order?) ∧
    (∀ ticket : Ticket, ticket.FitsWords → Ticket.form.parse (Ticket.form.text ticket) = some ticket) ∧
    (∀ order : Stamped Order, order.value.FitsWords → Order.form.parse (Order.form.text order) = some order) ∧
    (∀ account : Stamped Account, account.value.FitsWords →
      Account.form.parse (Account.form.text account) = some account) ∧
    (∀ transfer : Stamped Transfer, transfer.value.FitsWords →
      Transfer.form.parse (Transfer.form.text transfer) = some transfer) ∧
    (∀ entry : Stamped Entry, entry.value.FitsWords → Entry.form.parse (Entry.form.text entry) = some entry) ∧
    (∀ trade : Stamped Trade, trade.value.FitsWords → Trade.form.parse (Trade.form.text trade) = some trade) ∧
    (∀ settlement : SettlementRecord, settlement.FitsWords →
      SettlementRecord.form.parse (SettlementRecord.form.text settlement) = some settlement) ∧
    (∀ leg : Leg, leg.FitsWords → Leg.form.parse (Leg.form.text leg) = some leg) ∧
    (∀ legs : Swap, legs.FitsWords → Swap.form.parse (Swap.form.text legs) = some legs) ∧
    (∀ config : Config, config.InRange → Config.form.parse (Config.form.text config) = some config) ∧
    (∀ storage : Storage, storage.busyTimeout.InRange →
      Storage.form.parse (Storage.form.text storage) = some storage) ∧
    (∀ id, FitsWord id → Form.word.parse (Form.word.text id) = some id) ∧
    (∀ principal : Principal, Principal.form.parse (Principal.form.text principal) = some principal) ∧
    (∀ pair : Pair, Pair.form.parse (Pair.form.text pair) = some pair) ∧
    (∀ currency : Currency, Currency.form.parse (Currency.form.text currency) = some currency) ∧
    (∀ side : Side, Side.form.parse (Side.form.text side) = some side) ∧
    (∀ status : Status, Status.form.parse (Status.form.text status) = some status) ∧
    ∀ change : Change, Change.form.parse (Change.form.text change) = some change := by
  refine ⟨fun event fits => ?events, fun _ => Ticket.form_faithful.parse_text, fun _ => Order.form_faithful.parse_text,
    fun _ => Account.form_faithful.parse_text, fun _ => Transfer.form_faithful.parse_text,
    fun _ => Entry.form_faithful.parse_text, fun _ => Trade.form_faithful.parse_text,
    fun _ => SettlementRecord.form_faithful.parse_text, fun _ => Leg.form_faithful.parse_text,
    fun _ => Swap.form_faithful.parse_text, fun _ => Config.form_faithful.parse_text,
    fun _ => Storage.form_faithful.parse_text, fun _ => Form.word_faithful.parse_text,
    fun _ => Principal.form_faithful.parse_text trivial, fun _ => Pair.form_faithful.parse_text trivial,
    fun _ => Currency.form_faithful.parse_text trivial, fun _ => Side.form_faithful.parse_text trivial,
    fun _ => Status.form_faithful.parse_text trivial, fun _ => Change.form_faithful.parse_text trivial⟩
  have back := Event.form_faithful.parse_text fits
  exact ⟨back, by rw [back, Option.bind_some]⟩

/-- The reason of an interruption may hold quotes, backslashes and control characters, and its instant may be a leap
second with a fraction. -/
theorem parse_text_of_interruption :
    let date : Date := ⟨-5, 2, 28, by decide, by decide, by decide⟩
    let event : Stamped Event := ⟨.interrupted greatestWord leastWord "a \"quote\", a \\, a\tline\nand \x01 \x7f é",
      ⟨date, 23, 59, 60, 999000000, by decide, by decide, by decide, by decide⟩⟩
    event.value.FitsWords ∧
      Event.form.text event =
        "\x7b\"OrderInterrupted\":\x7b\"order_id\":9223372036854775807,\"filled\":-9223372036854775808,\"reason\":" ++
        "\"a \\\"quote\\\", a \\\\, a\\tline\\nand \\u0001 \x7f é\"," ++
        "\"timestamp\":\"-0005-02-28T23:59:60.999Z\"\x7d\x7d" ∧
      Event.form.parse (Event.form.text event) = some event ∧
      (Event.form.parse (Event.form.text event)).bind (·.value.order?) = some greatestWord := by
  intro date event
  have fits : event.value.FitsWords := ⟨by decide, by decide⟩
  have back := parse_text_of_forms.1 event fits
  exact ⟨fits, by decide +kernel, back.1, back.2⟩

end Bourse

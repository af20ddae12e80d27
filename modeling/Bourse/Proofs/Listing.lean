import Bourse.Proofs.Columns
import Bourse.Proofs.Interchange
import Bourse.Proofs.OrderRows

namespace Bourse

theorem Currency.code_injective : Currency.code.Injective := by
  intro first second same
  have read := parse_eq_ok.mpr same
  rw [parse_eq_ok.mpr rfl, Except.ok.injEq] at read
  exact read

/-- What stands on either side of the slash tells two pairs apart. -/
theorem Pair.text_injective : Pair.text.Injective := by
  intro first second same
  have parts := second.text_span
  rw [← same, first.text_span, Prod.mk.injEq, List.cons.injEq, String.toList_inj, String.toList_inj] at parts
  have base : first.base = second.base := Currency.code_injective parts.1
  have quote : first.quote = second.quote := Currency.code_injective parts.2.2
  cases first
  cases second
  cases base
  cases quote
  rfl

/-- The text of a pair is read as no other pair, and only if the pair is listed. -/
theorem Pair.parse_text_iff {pair other : Pair} : parse pair.text = .ok other ↔ other = pair ∧ pair ∈ listed := by
  rw [parse_eq_ok]
  constructor
  · rintro ⟨member, same⟩
    cases text_injective same
    exact ⟨rfl, member⟩
  · rintro ⟨rfl, member⟩
    exact ⟨member, rfl⟩

theorem Pair.parse_unlisted {pair : Pair} (unlisted : pair ∉ listed) :
    parse pair.text = .error (.pair pair.text) := by
  cases read : parse pair.text with
  | ok other => exact absurd (parse_text_iff.mp read).2 unlisted
  | error name => rw [parse_eq_error read]

theorem ColumnForm.pair_read_eq_ok {column : Column} {pair : Pair} :
    ColumnForm.pair.read column = .ok pair ↔ pair ∈ Pair.listed ∧ column = .text pair.text := by
  unfold ColumnForm.pair
  rw [named_read_eq_ok]
  constructor
  · rintro ⟨text, rfl, read⟩
    obtain ⟨member, rfl⟩ := Pair.parse_eq_ok.mp read
    exact ⟨member, rfl⟩
  · rintro ⟨member, rfl⟩
    exact ⟨pair.text, rfl, Pair.parse_eq_ok.mpr ⟨member, rfl⟩⟩

/-- The row of an order can be read back if the column of its pair can. -/
theorem Order.shown_iff_read {order : Order} :
    order.shown = .ok order ↔ ColumnForm.pair.read (ColumnForm.pair.write order.pair) = .ok order.pair := by
  rw [shown_eq_ok, ColumnForm.pair_read_eq_ok]
  exact ⟨fun shown => ⟨shown.2, rfl⟩, fun read => ⟨rfl, read.1⟩⟩

/-- Two currencies, a text and a column become a pair only where it is listed, and each in just one way. The notation
lists nothing: every pair is read from it, also within a ticket or an order. The column that keeps such a pair is read
back if and only if the pair is listed. To add an order on another is answered with a failure, but not before its row is
written. -/
theorem pair_listed_unless_from_notation (pair : Pair) :
    (∀ base quote, Pair.find base quote = .ok pair ↔ pair ∈ Pair.listed ∧ pair = ⟨base, quote⟩) ∧
    (∀ text, Pair.parse text = .ok pair ↔ pair ∈ Pair.listed ∧ text = pair.text) ∧
    (∀ column, ColumnForm.pair.read column = .ok pair ↔ pair ∈ Pair.listed ∧ column = .text pair.text) ∧
    Pair.form.parse (Pair.form.text pair) = some pair ∧
    (∀ ticket : Ticket, ticket.pair = pair → ticket.FitsWords →
      Ticket.form.parse (Ticket.form.text ticket) = some ticket) ∧
    (∀ order : Stamped Order, order.value.pair = pair → order.value.FitsWords →
      Order.form.parse (Order.form.text order) = some order) ∧
    ColumnForm.pair.read (ColumnForm.pair.write pair) =
      (if pair ∈ Pair.listed then .ok pair else .error (.columnText 0 (.pair pair.text))) ∧
    ∀ ticket books order after, ticket.pair = pair → Scope.addOrder ticket books = (.ok order, after) →
      pair ∈ Pair.listed ∧ order.pair = pair := by
  refine ⟨fun _ _ => Pair.find_eq_ok, fun _ => Pair.parse_eq_ok, fun _ => ColumnForm.pair_read_eq_ok,
    Pair.form_faithful.parse_text trivial, fun _ _ => Ticket.form_faithful.parse_text,
    fun _ _ => Order.form_faithful.parse_text, ?again, ?added⟩
  case again =>
    split_ifs with member
    · exact ColumnForm.pair_read_eq_ok.mpr ⟨member, rfl⟩
    · exact ColumnForm.named_read_eq_error (Pair.parse_unlisted member)
  case added =>
    rintro ticket books order after rfl added
    obtain ⟨⟨_, listed⟩, rfl, _⟩ := Scope.addOrder_of_ok added
    exact ⟨listed, rfl⟩

/-- Bitcoin is bought for dollars. A ticket for the reverse is read as well, but its column is not, and only the first
is answered with its order. -/
theorem pair_listed_unless_reversed :
    let ticket : Ticket := ⟨.ask, ⟨.btc, .usdt⟩, greatestWord, 5, 1, 2⟩
    let reversed : Ticket := ⟨.ask, ⟨.usdt, .btc⟩, greatestWord, leastWord, 1, 2⟩
    let order : Order := ⟨1, .ask, ⟨.btc, .usdt⟩, 1, 2, greatestWord, 5, 5, .active⟩
    let books : Books := { Books.empty with accounts := [⟨1, "ann", 0, .btc⟩, ⟨2, "ann", 0, .usdt⟩] }
    let after : Books := { books with orders := [order] }
    reversed.FitsWords ∧ Ticket.form.parse (Ticket.form.text reversed) = some reversed ∧
      ColumnForm.pair.read (ColumnForm.pair.write reversed.pair) = .error (.columnText 0 (.pair "USDT/BTC")) ∧
      Scope.addOrder ticket books = (.ok order, after) ∧
      ticket.pair ∈ Pair.listed ∧ order.pair = ticket.pair := by
  intro ticket reversed order books after
  have fits : reversed.FitsWords := ⟨by decide, by decide, by decide, by decide⟩
  have added : Scope.addOrder ticket books = (.ok order, after) := rfl
  obtain ⟨_, _, _, _, tickets, _, column, _⟩ := pair_listed_unless_from_notation reversed.pair
  obtain ⟨_, _, _, _, _, _, _, adding⟩ := pair_listed_unless_from_notation ticket.pair
  exact ⟨fits, tickets reversed rfl fits, column.trans (if_neg (by decide)), added,
    adding ticket books order after rfl added⟩

/-- The text of a ticket is read although its pair is not listed and is not read back from its column. -/
theorem unlisted_pair_of_ticket_text :
    Ticket.form.parse ("\x7b\"side\":\"Bid\",\"pair\":\x7b\"base\":\"Usdt\",\"quote\":\"Btc\"\x7d," ++
      "\"price\":1,\"amount\":1,\"from_account\":1,\"to_account\":2\x7d") =
      some ⟨.bid, ⟨.usdt, .btc⟩, 1, 1, 1, 2⟩ ∧
    Pair.mk .usdt .btc ∉ Pair.listed ∧
    ColumnForm.pair.read (ColumnForm.pair.write ⟨.usdt, .btc⟩) ≠ .ok ⟨.usdt, .btc⟩ := by
  refine ⟨by decide +kernel, by decide, ?_⟩
  rw [Ne, ColumnForm.pair_read_eq_ok]
  decide

end Bourse

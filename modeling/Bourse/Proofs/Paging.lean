import Bourse.Proofs.Greedy
import Bourse.Proofs.Growth

namespace Bourse

/-- Pages that are read one after the other up to the first empty one, and all the rows on them. Where to read on after
a page is told from where it was read and from its last row. -/
inductive Paged {κ : Type} (read : κ → Except Failure (List Order)) (turn : κ → Order → κ) : κ → List Order → Prop
  | ended {place} (empty : read place = .ok []) : Paged read turn place []
  | next {place first rest later} (page : read place = .ok (first :: rest))
      (further : Paged read turn (turn place (rest.getLastD first)) later) :
      Paged read turn place (first :: rest ++ later)

namespace Paged

variable {κ : Type} {read : κ → Except Failure (List Order)} {turn : κ → Order → κ} {size : Nat}

/-- If every page has the first rows of those that lie ahead, and leaves ahead the rows that come after them, then the
pages are all that lies ahead. -/
theorem iff_eq_ahead (ahead : κ → List Order) (positive : 0 < size)
    (reads : ∀ place, read place = .ok ((ahead place).take size))
    (turns : ∀ place first rest, (ahead place).take size = first :: rest →
      ahead (turn place (rest.getLastD first)) = (ahead place).drop size)
    {place : κ} {rows : List Order} : Paged read turn place rows ↔ rows = ahead place := by
  constructor
  · intro paged
    induction paged with
    | @ended place empty =>
      rw [reads, Except.ok.injEq, List.take_eq_nil_iff] at empty
      exact (empty.resolve_left (Nat.ne_of_gt positive)).symm
    | @next place first rest later page _ ih =>
      rw [reads, Except.ok.injEq] at page
      rw [ih, turns place first rest page, ← page, List.take_append_drop]
  · rintro rfl
    -- Each page makes what lies ahead shorter, so that an empty one is reached.
    induction left : (ahead place).length using Nat.strong_induction_on generalizing place with
    | _ length shorter =>
      cases page : (ahead place).take size with
      | nil =>
        have none := (List.take_eq_nil_iff.mp page).resolve_left (Nat.ne_of_gt positive)
        rw [none]
        exact .ended ((reads place).trans (congrArg _ page))
      | cons first rest =>
        have behind := turns place first rest page
        have some : 0 < (ahead place).length := by
          refine List.length_pos_iff.mpr fun none => ?_
          rw [none, List.take_nil] at page
          cases page
        have less : (ahead (turn place (rest.getLastD first))).length < length := by
          rw [behind, List.length_drop]
          omega
        have whole : first :: rest ++ ahead (turn place (rest.getLastD first)) = ahead place := by
          rw [behind, ← page, List.take_append_drop]
        rw [← whole]
        exact .next ((reads place).trans (congrArg _ page)) (shorter _ less rfl)

theorem not_of_error {place : κ} {failure : Failure} (failed : read place = .error failure) (rows : List Order) :
    ¬Paged read turn place rows := by
  intro paged
  cases paged with
  | ended empty => cases failed.symm.trans empty
  | next page => cases failed.symm.trans page

end Paged

/-- Of rows in ascending order, the ones beyond the last row of a page are those that come after the page. -/
theorem filter_beyond_page {listed : List Order} (ascending : listed.Pairwise (·.id < ·.id)) {bound : OrderId}
    {size : Nat} {first : Order} {rest : List Order}
    (page : (listed.filter fun order => bound < order.id).take size = first :: rest) :
    listed.filter (fun order => (rest.getLastD first).id < order.id) =
      (listed.filter fun order => bound < order.id).drop size := by
  have last : rest.getLastD first ∈ listed.filter fun order => bound < order.id :=
    List.mem_of_mem_take (page ▸ List.getLastD_mem_cons)
  have beyond : bound < (rest.getLastD first).id := by simpa using (List.mem_filter.mp last).2
  have sorted : (listed.filter fun order => bound < order.id).Pairwise (·.id < ·.id) :=
    ascending.sublist List.filter_sublist
  rw [filter_beyond_of_lt listed beyond]
  generalize listed.filter (fun order => bound < order.id) = rows at page sorted ⊢
  have split : rows = first :: rest ++ rows.drop size := by rw [← page, List.take_append_drop]
  rw [split] at sorted
  calc rows.filter (fun order => (rest.getLastD first).id < order.id)
    _ = (first :: rest ++ rows.drop size).filter (fun order => (rest.getLastD first).id < order.id) :=
        congrArg _ split
    _ = rows.drop size := filter_beyond_last sorted

namespace Books

variable {books : Books} {pair : Pair} {limit : Int} {side : Side} {size : Nat}

/-- The active orders of a side on a pair that an incoming order of the other side crosses at `limit`, oldest first. -/
def crossedAt (books : Books) (pair : Pair) (limit : Int) (side : Side) : List Order :=
  books.orders.filter fun order => order.status = .active ∧ order.side = side ∧ order.pair = pair ∧
    side.opposite.Crosses limit order.price

/-- The rows on the pages with the numbers 1, 2, 3, … up to the first empty one. -/
def PagedByNumber (books : Books) (pair : Pair) (limit : Int) (side : Side) (size : Nat) (rows : List Order) : Prop :=
  Paged (fun before => books.tradablePage pair limit side (before + 1) size) (fun before _ => before + 1) 0 rows

/-- The rows on the pages each of which is read beyond the last row of the one before, up to the first empty one. -/
def PagedByCursor (books : Books) (pair : Pair) (limit : Int) (side : Side) (size : Nat) (rows : List Order) : Prop :=
  Paged (fun cursor => books.tradableBeyond pair limit side cursor size) (fun _ last => some last.id) none rows

/-- An order is offered within a limit if an incoming order of the other side crosses it. -/
theorem tradable_iff_crossed {order : Order} : order.Tradable pair limit side ↔
    order.status = .active ∧ order.side = side ∧ order.pair = pair ∧ side.opposite.Crosses limit order.price := by
  have rule : side.OffersWithin limit order.price ↔ side.opposite.Crosses limit order.price := by
    cases side <;> exact Iff.rfl
  unfold Order.Tradable
  rw [rule]
  tauto

theorem tradable_eq_crossedAt (books : Books) (pair : Pair) (limit : Int) (side : Side) :
    books.tradable pair limit side = books.crossedAt pair limit side :=
  List.filter_congr fun _ _ => decide_eq_decide.mpr tradable_iff_crossed

theorem mem_crossedAt {order : Order} (crossed : order ∈ books.crossedAt pair limit side) :
    order ∈ books.orders ∧ order.pair = pair := by
  obtain ⟨standing, terms⟩ := List.mem_filter.mp crossed
  exact ⟨standing, (of_decide_eq_true terms).2.2.1⟩

theorem tradablePage_eq (range : 1 ≤ size ∧ size ≤ maxPageSize) (before : Nat) :
    books.tradablePage pair limit side (before + 1) size =
      Order.allShown (((books.crossedAt pair limit side).drop (before * size)).take size) := by
  unfold tradablePage
  rw [if_neg (Nat.succ_ne_zero before), checkPageSize_eq_ok.mpr range, tradable_eq_crossedAt]
  rfl

theorem tradableBeyond_eq (range : 1 ≤ size ∧ size ≤ maxPageSize) (cursor : Option OrderId) :
    books.tradableBeyond pair limit side cursor size =
      Order.allShown (((books.crossedAt pair limit side).filter fun order => cursor.getD 0 < order.id).take size) := by
  have same : (books.ordersBeyond cursor).filter (fun order => order.Tradable pair limit side) =
      (books.crossedAt pair limit side).filter fun order => cursor.getD 0 < order.id := by
    rw [← tradable_eq_crossedAt]
    unfold ordersBeyond tradable
    rw [List.filter_filter, List.filter_filter]
    exact List.filter_congr fun _ _ => Bool.and_comm _ _
  unfold tradableBeyond
  rw [checkPageSize_eq_ok.mpr range, same]
  rfl

/-- Rows on a listed pair can be read, and so can no rows on any pair. -/
theorem allShown_of_crossedAt (readable : pair ∈ Pair.listed ∨ books.crossedAt pair limit side = [])
    {rows : List Order} (part : rows ⊆ books.crossedAt pair limit side) : Order.allShown rows = .ok rows := by
  refine Order.allShown_eq_ok.mpr ⟨rfl, fun order member => ?_⟩
  rcases readable with listed | none
  · exact (mem_crossedAt (part member)).2 ▸ listed
  · exact absurd (part member) (none ▸ List.not_mem_nil)

/-- On a pair that is not listed only no rows at all can be read. -/
theorem allShown_of_unlisted (unlisted : pair ∉ Pair.listed) {rows : List Order}
    (part : rows ⊆ books.crossedAt pair limit side) :
    Order.allShown rows = if rows ≠ [] then .error (.unreadable pair) else .ok [] := by
  cases rows with
  | nil => rfl
  | cons first rest =>
    rw [if_pos (List.cons_ne_nil _ _)]
    cases read : Order.allShown (first :: rest) with
    | error failure =>
      obtain ⟨order, member, _, rfl⟩ := Order.allShown_eq_error read
      rw [(mem_crossedAt (part member)).2]
    | ok page =>
      have listed := (Order.allShown_eq_ok.mp read).2 first List.mem_cons_self
      exact absurd ((mem_crossedAt (part List.mem_cons_self)).2 ▸ listed) unlisted

theorem WellFormed.crossedAt_ascending (formed : books.WellFormed) (pair : Pair) (limit : Int) (side : Side) :
    (books.crossedAt pair limit side).Pairwise (·.id < ·.id) := by
  have all : books.orders.Pairwise (·.id < ·.id) := List.pairwise_map.mp formed.orderIds.ids_ascending
  exact all.sublist List.filter_sublist

section Readable

variable (range : 1 ≤ size ∧ size ≤ maxPageSize)
  (readable : pair ∈ Pair.listed ∨ books.crossedAt pair limit side = [])

include range readable

theorem tradablePage_of_readable (before : Nat) : books.tradablePage pair limit side (before + 1) size =
    .ok (((books.crossedAt pair limit side).drop (before * size)).take size) :=
  (tradablePage_eq range before).trans
    (allShown_of_crossedAt readable fun _ member => List.mem_of_mem_drop (List.mem_of_mem_take member))

theorem tradableBeyond_of_readable (cursor : Option OrderId) : books.tradableBeyond pair limit side cursor size =
    .ok (((books.crossedAt pair limit side).filter fun order => cursor.getD 0 < order.id).take size) :=
  (tradableBeyond_eq range cursor).trans
    (allShown_of_crossedAt readable fun _ member => List.mem_of_mem_filter (List.mem_of_mem_take member))

theorem pagedByNumber_iff {rows : List Order} :
    books.PagedByNumber pair limit side size rows ↔ rows = books.crossedAt pair limit side := by
  refine (Paged.iff_eq_ahead (fun before => (books.crossedAt pair limit side).drop (before * size)) range.1
    (tradablePage_of_readable range readable) fun before _ _ _ => ?_).trans ?_
  · rw [List.drop_drop, Nat.succ_mul]
  · rw [Nat.zero_mul, List.drop_zero]

theorem WellFormed.pagedByCursor_iff (formed : books.WellFormed) {rows : List Order} :
    books.PagedByCursor pair limit side size rows ↔ rows = books.crossedAt pair limit side := by
  have ascending := formed.crossedAt_ascending pair limit side
  have all : (books.crossedAt pair limit side).filter (fun order => (none : Option OrderId).getD 0 < order.id) =
      books.crossedAt pair limit side := by
    refine List.filter_eq_self.mpr fun order member => ?_
    have proper : 0 < order.id := (formed.orderIds.range (List.mem_filter.mp member).1).1
    exact decide_eq_true proper
  refine (Paged.iff_eq_ahead
    (fun cursor => (books.crossedAt pair limit side).filter fun order => cursor.getD 0 < order.id) range.1
    (tradableBeyond_of_readable range readable)
    fun cursor first rest page => filter_beyond_page ascending page).trans ?_
  rw [all]

end Readable

section Unlisted

variable (range : 1 ≤ size ∧ size ≤ maxPageSize) (unlisted : pair ∉ Pair.listed)

include range unlisted

theorem tradablePage_of_unlisted (before : Nat) : books.tradablePage pair limit side (before + 1) size =
    if before * size < (books.crossedAt pair limit side).length then .error (.unreadable pair) else .ok [] := by
  rw [tradablePage_eq range, allShown_of_unlisted unlisted
    fun _ member => List.mem_of_mem_drop (List.mem_of_mem_take member)]
  refine if_congr ?_ rfl rfl
  rw [← List.length_pos_iff, List.length_take, List.length_drop]
  omega

theorem tradableBeyond_of_unlisted (cursor : Option OrderId) : books.tradableBeyond pair limit side cursor size =
    if ∃ order ∈ books.crossedAt pair limit side, cursor.getD 0 < order.id then .error (.unreadable pair)
    else .ok [] := by
  rw [tradableBeyond_eq range, allShown_of_unlisted unlisted
    fun _ member => List.mem_of_mem_filter (List.mem_of_mem_take member)]
  refine if_congr ?_ rfl rfl
  have positive : size ≠ 0 := Nat.ne_of_gt range.1
  simp only [ne_eq, List.take_eq_nil_iff, positive, false_or, List.filter_eq_nil_iff, decide_eq_true_eq, not_forall,
    not_not, exists_prop]

end Unlisted

end Books

/-- Pages by number and pages by cursor show the same rows, which are those that the rule for incoming orders picks, and
beyond any id the next of them are shown. Rows on a pair that is not listed, which a scope may keep that goes on after a
failure, cannot be read: there a page of either kind fails if there is a row to show on it. -/
theorem Books.Visible.pages_agree {books : Books} (visible : books.Visible) (pair : Pair) (limit : Int) (side : Side)
    {size : Nat} (range : 1 ≤ size ∧ size ≤ maxPageSize) :
    (books.crossedAt pair limit side).Pairwise (·.id < ·.id) ∧
      (pair ∈ Pair.listed ∨ books.crossedAt pair limit side = [] →
        (∀ rows, books.PagedByNumber pair limit side size rows ↔ rows = books.crossedAt pair limit side) ∧
        (∀ rows, books.PagedByCursor pair limit side size rows ↔ rows = books.crossedAt pair limit side) ∧
        ∀ id, books.tradableBeyond pair limit side (some id) size =
          .ok (((books.crossedAt pair limit side).filter fun order => id < order.id).take size)) ∧
      (pair ∉ Pair.listed →
        (∀ before, books.tradablePage pair limit side (before + 1) size =
          if before * size < (books.crossedAt pair limit side).length then .error (.unreadable pair) else .ok []) ∧
        ∀ cursor, books.tradableBeyond pair limit side cursor size =
          if ∃ order ∈ books.crossedAt pair limit side, cursor.getD 0 < order.id then .error (.unreadable pair)
          else .ok []) := by
  have ascending := visible.wellFormed.crossedAt_ascending pair limit side
  refine ⟨ascending, fun readable => ⟨?_, ?_, ?_⟩, fun unlisted => ⟨?_, ?_⟩⟩
  · exact fun _ => pagedByNumber_iff range readable
  · exact fun _ => visible.wellFormed.pagedByCursor_iff range readable
  · exact fun id => tradableBeyond_of_readable range readable (some id)
  · exact tradablePage_of_unlisted range unlisted
  · exact tradableBeyond_of_unlisted range unlisted

/-- Of four asks one is taken back and one is dearer than the limit: the two that are left stand on a page each. -/
theorem pages_agree_over_gap :
    let calls := twoAsks ++ [.submit ⟨"ann"⟩ ⟨.ask, ⟨.btc, .usdt⟩, 40, 1, 1, 2⟩,
      .submit ⟨"ann"⟩ ⟨.ask, ⟨.btc, .usdt⟩, 41, 1, 1, 2⟩, .cancel ⟨"ann"⟩ 2]
    let books := Desk.serve {} calls .empty
    let rows : List Order := [⟨1, .ask, ⟨.btc, .usdt⟩, 1, 2, 20, 5, 5, .active⟩,
      ⟨3, .ask, ⟨.btc, .usdt⟩, 1, 2, 40, 1, 1, .active⟩]
    books.Visible ∧ (1 ≤ 1 ∧ 1 ≤ maxPageSize) ∧ books.orders.length = 4 ∧
      books.PagedByNumber ⟨.btc, .usdt⟩ 40 .ask 1 rows ∧ books.PagedByCursor ⟨.btc, .usdt⟩ 40 .ask 1 rows ∧
      books.tradableBeyond ⟨.btc, .usdt⟩ 40 .ask (some 1) 1 = .ok (rows.drop 1) := by
  intro calls books rows
  have reached : Reach (fun _ _ => True) .empty books := Reach.serve .start fun _ _ => trivial
  have range : 1 ≤ 1 ∧ 1 ≤ maxPageSize := by decide
  obtain ⟨numbered, scanned, beyond⟩ :=
    (reached.visible.pages_agree ⟨.btc, .usdt⟩ 40 .ask range).2.1 (.inl (by decide))
  have crossed : rows = books.crossedAt ⟨.btc, .usdt⟩ 40 .ask := by decide +kernel
  refine ⟨reached.visible, range, by decide +kernel, (numbered rows).mpr crossed, (scanned rows).mpr crossed, ?_⟩
  rw [beyond, ← crossed]
  decide +kernel

/-- An ask on a reversed pair is kept although it was answered with a failure: then no page on that pair can be read. -/
theorem pages_fail_on_unlisted_pair :
    let calls : List Call := [.perform (.openAccount "ann" .usdt), .perform (.openAccount "ann" .btc),
      .batch [.addOrder ⟨.ask, ⟨.usdt, .btc⟩, 2, 5, 1, 2⟩] true none]
    let books := Desk.serve {} calls .empty
    books.Visible ∧
      books.crossedAt ⟨.usdt, .btc⟩ 2 .ask = [⟨1, .ask, ⟨.usdt, .btc⟩, 1, 2, 2, 5, 5, .active⟩] ∧
      books.tradablePage ⟨.usdt, .btc⟩ 2 .ask 1 10 = .error (.storage (.columnText 2 (.pair "USDT/BTC"))) ∧
      books.tradableBeyond ⟨.usdt, .btc⟩ 2 .ask none 10 = .error (.storage (.columnText 2 (.pair "USDT/BTC"))) ∧
      ¬books.PagedByNumber ⟨.usdt, .btc⟩ 2 .ask 10 (books.crossedAt ⟨.usdt, .btc⟩ 2 .ask) ∧
      ¬books.PagedByCursor ⟨.usdt, .btc⟩ 2 .ask 10 (books.crossedAt ⟨.usdt, .btc⟩ 2 .ask) := by
  intro calls books
  have reached : Reach (fun _ _ => True) .empty books := Reach.serve .start fun _ _ => trivial
  have numbered : books.tradablePage ⟨.usdt, .btc⟩ 2 .ask 1 10 =
      .error (.storage (.columnText 2 (.pair "USDT/BTC"))) := by decide +kernel
  have scanned : books.tradableBeyond ⟨.usdt, .btc⟩ 2 .ask none 10 =
      .error (.storage (.columnText 2 (.pair "USDT/BTC"))) := by decide +kernel
  refine ⟨reached.visible, by decide +kernel, numbered, scanned, ?_, ?_⟩
  · exact Paged.not_of_error (by exact numbered) _
  · exact Paged.not_of_error (by exact scanned) _

end Bourse

import Bourse.Proofs.Numbering
import Bourse.Proofs.Writes

namespace Bourse

/-- What the tables guarantee of their rows, whatever is written to them. -/
structure Books.WellFormed (books : Books) : Prop where
  accountIds : Numbered (·.id) books.accounts
  orderIds : Numbered (·.id) books.orders
  transferIds : Numbered (·.id) books.transfers
  entryIds : Numbered (·.id) books.entries
  tradeIds : Numbered (·.id) books.trades
  balances : ∀ account ∈ books.accounts, 0 ≤ account.balance ∧ account.balance ≤ greatestWord
  orderAccounts : ∀ order ∈ books.orders, books.HasAccount order.source ∧ books.HasAccount order.destination
  transferRows : ∀ transfer ∈ books.transfers,
    0 < transfer.amount ∧ books.HasAccount transfer.payer ∧ books.HasAccount transfer.payee
  entryAccounts : ∀ entry ∈ books.entries, books.HasAccount entry.account
  tradeRows : ∀ trade ∈ books.trades, (0 < trade.first.amount ∧ 0 < trade.second.amount) ∧
    books.HasAccount trade.first.payer ∧ books.HasAccount trade.first.payee ∧
    books.HasAccount trade.second.payer ∧ books.HasAccount trade.second.payee

namespace Books

theorem wellFormed_empty : empty.WellFormed where
  accountIds := .nil
  orderIds := .nil
  transferIds := .nil
  entryIds := .nil
  tradeIds := .nil
  balances := List.forall_mem_nil _
  orderAccounts := List.forall_mem_nil _
  transferRows := List.forall_mem_nil _
  entryAccounts := List.forall_mem_nil _
  tradeRows := List.forall_mem_nil _

/-- Whether an account exists can be told from the ids of the accounts. -/
theorem hasAccount_iff {books : Books} {id : AccountId} : books.HasAccount id ↔ id ∈ books.accounts.map (·.id) := by
  simp only [HasAccount, List.mem_map]

theorem HasAccount.of_ids {books after : Books} {id : AccountId} (present : books.HasAccount id)
    (kept : ∀ id ∈ books.accounts.map (·.id), id ∈ after.accounts.map (·.id)) : after.HasAccount id :=
  hasAccount_iff.mpr (kept id (hasAccount_iff.mp present))

theorem setBalance_ids (books : Books) (id : AccountId) (balance : Int) :
    (books.setBalance id balance).accounts.map (·.id) = books.accounts.map (·.id) := by
  unfold setBalance
  rw [List.map_map]
  refine List.map_congr_left fun account _ => ?_
  simp only [Function.comp_apply]
  split <;> rfl

/-- Rows stay well-formed where only the accounts change, in ways that lose no account and keep every balance
in range. -/
theorem WellFormed.with_accounts {books : Books} (formed : books.WellFormed) {accounts : List Account}
    (ids : Numbered (·.id) accounts) (kept : ∀ id ∈ books.accounts.map (·.id), id ∈ accounts.map (·.id))
    (balances : ∀ account ∈ accounts, 0 ≤ account.balance ∧ account.balance ≤ greatestWord) :
    WellFormed { books with accounts } := by
  have present {id : AccountId} (before : books.HasAccount id) : HasAccount { books with accounts } id :=
    before.of_ids kept
  exact { formed with
    accountIds := ids
    balances := balances
    orderAccounts := fun order member => (formed.orderAccounts order member).imp present present
    transferRows := fun transfer member =>
      (formed.transferRows transfer member).imp_right (And.imp present present)
    entryAccounts := fun entry member => present (formed.entryAccounts entry member)
    tradeRows := fun trade member => (formed.tradeRows trade member).imp_right
      (And.imp present (And.imp present (And.imp present present))) }

theorem WellFormed.setBalance {books : Books} (formed : books.WellFormed) (id : AccountId) {balance : Int}
    (range : 0 ≤ balance ∧ balance ≤ greatestWord) : (books.setBalance id balance).WellFormed := by
  refine formed.with_accounts (formed.accountIds.map fun account => ?_) (fun other member => ?_) ?_
  · split <;> rfl
  · exact (setBalance_ids books id balance).symm ▸ member
  · intro account member
    obtain ⟨before, present, rfl⟩ := List.mem_map.mp member
    split
    · exact range
    · exact formed.balances before present

theorem WellFormed.setOrder {books : Books} (formed : books.WellFormed) (id : OrderId) (remaining : Int)
    (status : Status) : (books.setOrder id remaining status).WellFormed := by
  refine { formed with orderIds := formed.orderIds.map fun order => ?_, orderAccounts := fun order member => ?_ }
  · split <;> rfl
  · obtain ⟨before, present, rfl⟩ := List.mem_map.mp member
    split
    · exact formed.orderAccounts before present
    · exact formed.orderAccounts before present

end Books

/-- What holds of all rows holds after one more is added of which it holds. -/
theorem forall_mem_append_singleton {α : Type} {holds : α → Prop} {rows : List α} {row : α}
    (all : ∀ other ∈ rows, holds other) (last : holds row) : ∀ other ∈ rows ++ [row], holds other :=
  List.forall_mem_append.mpr ⟨all, List.forall_mem_singleton.mpr last⟩

variable {raced : Prop}

theorem Write.wellFormed {books after : Books} (write : Write raced books after) (formed : books.WellFormed) :
    after.WellFormed := by
  cases write with
  | account owner currency =>
    refine formed.with_accounts (formed.accountIds.append rfl) (fun id member => ?_) ?_
    · rw [List.map_append]
      exact List.mem_append_left _ member
    · exact forall_mem_append_singleton formed.balances ⟨Int.le_refl 0, (by decide : (0 : Int) ≤ greatestWord)⟩
  | balance id range => exact formed.setBalance id range
  | transfer positive accounts =>
    exact { formed with
      transferIds := formed.transferIds.append rfl
      transferRows := forall_mem_append_singleton formed.transferRows ⟨positive, accounts⟩ }
  | entry account amount =>
    exact { formed with
      entryIds := formed.entryIds.append rfl
      entryAccounts := forall_mem_append_singleton formed.entryAccounts account }
  | trade positive accounts =>
    exact { formed with
      tradeIds := formed.tradeIds.append rfl
      tradeRows := forall_mem_append_singleton formed.tradeRows ⟨positive, accounts⟩ }
  | order positive accounts =>
    exact { formed with
      orderIds := formed.orderIds.append rfl
      orderAccounts := forall_mem_append_singleton formed.orderAccounts accounts }
  | fill => exact formed.setOrder ..
  | cancel => exact formed.setOrder ..
  | strike => exact formed.setOrder ..
  | faults => exact { formed with }

theorem Writes.wellFormed {books after : Books} (writes : Writes raced books after) (formed : books.WellFormed) :
    after.WellFormed := by
  induction writes with
  | refl => exact formed
  | tail _ write ih => exact write.wellFormed ih

theorem Scope.Makes.wellFormed {α : Type} {work : Scope α} (made : Makes True work) {books after : Books}
    (formed : books.WellFormed) {result : Except Failure α} (ran : work books = (result, after)) :
    after.WellFormed := Writes.wellFormed (made.writes (.inl trivial) ran) formed

/-- What an order's row says about itself while no competing writer interferes. -/
structure Order.Sound (order : Order) : Prop where
  price : 0 < order.price
  initial : 0 < order.initial
  remaining : 0 ≤ order.remaining ∧ order.remaining ≤ order.initial
  completed : order.status = .completed ↔ order.remaining = 0

theorem Order.Sound.open_pos {order : Order} (sound : order.Sound)
    (open_ : order.status = .active ∨ order.status = .canceled) : 0 < order.remaining := by
  have left : order.remaining ≠ 0 := by
    intro none
    have completed := sound.completed.mpr none
    rw [completed] at open_
    rcases open_ with same | same
    · cases same
    · cases same
  have range := sound.remaining
  omega

/-- The status of an order of which `remaining` is left open. -/
def Status.ofOpen (remaining : Int) : Status := if remaining = 0 then .completed else .active

theorem Status.after?_ofFill (remaining : Int) : active.after? (.ofFill remaining) = some (ofOpen remaining) := by
  unfold ofOpen Change.ofFill
  split <;> rfl

theorem Status.ofOpen_eq_completed {remaining : Int} : ofOpen remaining = .completed ↔ remaining = 0 := by
  unfold ofOpen
  by_cases closed : remaining = 0
  · rw [if_pos closed]
    exact ⟨fun _ => closed, fun _ => rfl⟩
  · rw [if_neg closed]
    exact ⟨nofun, fun same => absurd same closed⟩

theorem Status.ofOpen_eq_active {remaining : Int} : ofOpen remaining = .active ↔ remaining ≠ 0 := by
  unfold ofOpen
  by_cases closed : remaining = 0
  · rw [if_pos closed]
    exact ⟨nofun, fun open_ => absurd closed open_⟩
  · rw [if_neg closed]
    exact ⟨fun _ => closed, fun _ => rfl⟩

theorem Status.ofOpen_ne_canceled (remaining : Int) : ofOpen remaining ≠ .canceled := by
  unfold ofOpen
  split
  · exact nofun
  · exact nofun

/-- Well-formed books with sound orders, in which no competing writer waits. -/
structure Books.Calm (books : Books) : Prop where
  formed : books.WellFormed
  orders : ∀ order ∈ books.orders, order.Sound
  quiet : books.faults.races = []

/-- Well-formed books in which no competing writer waits. What competing writers have made of the orders before
shows. -/
structure Books.Steady (books : Books) : Prop where
  formed : books.WellFormed
  quiet : books.faults.races = []

theorem Books.Calm.steady {books : Books} (calm : books.Calm) : books.Steady := ⟨calm.formed, calm.quiet⟩

theorem Books.calm_empty : empty.Calm := ⟨wellFormed_empty, List.forall_mem_nil _, rfl⟩

theorem Books.forall_mem_setOrder {books : Books} {holds : Order → Prop} {id : OrderId} {remaining : Int}
    {status : Status} (others : ∀ order ∈ books.orders, order.id ≠ id → holds order)
    (changed : ∀ order ∈ books.orders, order.id = id → holds { order with remaining, status }) :
    ∀ order ∈ (books.setOrder id remaining status).orders, holds order := by
  intro order member
  obtain ⟨before, present, rfl⟩ := List.mem_map.mp member
  by_cases same : before.id = id
  · rw [if_pos same]
    exact changed before present same
  · rw [if_neg same]
    exact others before present same

theorem Write.orders_sound {books after : Books} (write : Write False books after) (formed : books.WellFormed)
    (sound : ∀ order ∈ books.orders, order.Sound) : ∀ order ∈ after.orders, order.Sound := by
  cases write with
  | order positive accounts =>
    refine forall_mem_append_singleton sound ⟨positive.1, positive.2, ?_, ?_⟩
    · exact ⟨Int.le_of_lt positive.2, Int.le_refl _⟩
    · exact ⟨nofun, fun none => absurd none (Int.ne_of_gt positive.2)⟩
  | @fill order remaining status found active range after =>
    obtain ⟨present, _⟩ := formed.orderIds.find?_eq_some.mp found
    refine Books.forall_mem_setOrder (fun other member _ => sound other member) fun other member same => ?_
    have before := sound other member
    rw [formed.orderIds.unique member present same] at before ⊢
    rw [Status.after?_ofFill, Option.some.injEq] at after
    refine ⟨before.price, before.initial, ⟨range.1, Int.le_trans range.2 before.remaining.2⟩, ?_⟩
    rw [← after]
    exact Status.ofOpen_eq_completed
  | @cancel order found active =>
    obtain ⟨present, _⟩ := formed.orderIds.find?_eq_some.mp found
    refine Books.forall_mem_setOrder (fun other member _ => sound other member) fun other member same => ?_
    have before := sound other member
    rw [formed.orderIds.unique member present same] at before ⊢
    have left : order.remaining ≠ 0 := fun none => by
      rw [before.completed.mpr none] at active
      cases active
    exact ⟨before.price, before.initial, before.remaining, nofun, fun none => absurd none left⟩
  | strike raced => exact raced.elim
  | _ => exact sound

theorem Writes.calm {books after : Books} (writes : Writes False books after) (calm : books.Calm) : after.Calm := by
  induction writes with
  | refl => exact calm
  | tail _ write ih =>
    exact ⟨write.wellFormed ih.formed, write.orders_sound ih.formed ih.orders,
      (write.quiet (.inr ih.quiet)).resolve_left id⟩

theorem Scope.Makes.calm {α : Type} {work : Scope α} (made : Makes False work) {books after : Books}
    (calm : books.Calm) {result : Except Failure α} (ran : work books = (result, after)) : after.Calm :=
  Writes.calm (made.writes (.inr calm.quiet) ran) calm

theorem Scope.Makes.steady {α : Type} {work : Scope α} (made : Makes False work) {books after : Books}
    (steady : books.Steady) {result : Except Failure α} (ran : work books = (result, after)) : after.Steady := by
  have writes : Writes False books after := made.writes (.inr steady.quiet) ran
  exact ⟨writes.wellFormed steady.formed, (writes.quiet (.inr steady.quiet)).resolve_left id⟩

theorem Scope.Makes.secures_calm {α : Type} {work : Scope α} (made : Makes False work) :
    Secures Books.Calm work := fun _ _ _ calm ran => made.calm calm ran

end Bourse

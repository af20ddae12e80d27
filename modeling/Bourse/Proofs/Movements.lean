import Bourse.Proofs.WellFormed

namespace Bourse

namespace Books

/-- The balance of one account is changed by an amount. -/
def adjust (books : Books) (id : AccountId) (amount : Int) : Books :=
  { books with
    accounts := books.accounts.map fun account =>
      if account.id = id then { account with balance := account.balance + amount } else account }

/-- An amount is booked to an account: its balance changes and a line says so. Transfers write balances first
and lines later, but the two tables do not see each other, so that each side of a transfer is one booking. -/
def post (books : Books) (id : AccountId) (amount : Int) : Books :=
  { books.adjust id amount with entries := books.entries ++ [⟨nextId books.entries, id, amount⟩] }

/-- The account exists, and its balance is still one after a change by `amount`. -/
def Admits (books : Books) (id : AccountId) (amount : Int) : Prop :=
  ∃ account, books.account? id = some account ∧
    0 ≤ account.balance + amount ∧ account.balance + amount ≤ greatestWord

theorem hasAccount_of_account? {books : Books} {id : AccountId} {account : Account}
    (found : books.account? id = some account) : books.HasAccount id :=
  ⟨account, List.mem_of_find?_eq_some found, account?_id found⟩

theorem hasAccount_iff_account? {books : Books} {id : AccountId} :
    books.HasAccount id ↔ ∃ account, books.account? id = some account := by
  constructor
  · rintro ⟨account, member, own⟩
    cases found : books.account? id with
    | none => exact absurd own (by simpa using List.find?_eq_none.mp found account member)
    | some other => exact ⟨other, rfl⟩
  · rintro ⟨account, found⟩
    exact hasAccount_of_account? found

theorem Admits.hasAccount {books : Books} {id : AccountId} {amount : Int} (admits : books.Admits id amount) :
    books.HasAccount id := by
  obtain ⟨account, found, _⟩ := admits
  exact hasAccount_of_account? found

theorem WellFormed.account?_eq_some {books : Books} (formed : books.WellFormed) {id : AccountId}
    {account : Account} : books.account? id = some account ↔ account ∈ books.accounts ∧ account.id = id :=
  formed.accountIds.find?_eq_some

theorem WellFormed.setBalance_eq_adjust {books : Books} (formed : books.WellFormed) {id : AccountId}
    {account : Account} (found : books.account? id = some account) (amount : Int) :
    books.setBalance account.id (account.balance + amount) = books.adjust id amount := by
  obtain ⟨member, rfl⟩ := formed.account?_eq_some.mp found
  unfold Books.setBalance Books.adjust
  congr 1
  refine List.map_congr_left fun other present => ?_
  by_cases same : other.id = account.id
  · rw [if_pos same, if_pos same, formed.accountIds.unique present member same]
  · rw [if_neg same, if_neg same]

theorem WellFormed.adjust {books : Books} (formed : books.WellFormed) {id : AccountId} {amount : Int}
    (admits : books.Admits id amount) : (books.adjust id amount).WellFormed := by
  obtain ⟨account, found, range⟩ := admits
  rw [← formed.setBalance_eq_adjust found]
  exact formed.setBalance account.id range

theorem adjust_hasAccount {books : Books} {id other : AccountId} {amount : Int} :
    (books.adjust id amount).HasAccount other ↔ books.HasAccount other := by
  have ids : (books.adjust id amount).accounts.map (·.id) = books.accounts.map (·.id) := by
    unfold adjust
    rw [List.map_map]
    refine List.map_congr_left fun account _ => ?_
    simp only [Function.comp_apply]
    split <;> rfl
  rw [hasAccount_iff, hasAccount_iff, ids]

theorem WellFormed.post {books : Books} (formed : books.WellFormed) {id : AccountId} {amount : Int}
    (admits : books.Admits id amount) : (books.post id amount).WellFormed := by
  have entry : Write False (books.adjust id amount) (books.post id amount) :=
    .entry (adjust_hasAccount.mpr admits.hasAccount) amount
  exact entry.wellFormed (formed.adjust admits)

end Books

/-- What a transfer that succeeds has found, and what it has done. The payee is looked at after the payer was
charged, which matters where they are the same account. -/
structure Transferred (payer payee : AccountId) (amount : Int) (books : Books) (row : Transfer) (after : Books) :
    Prop where
  positive : 0 < amount
  currencies : ∃ paying receiving, books.account? payer = some paying ∧ books.account? payee = some receiving ∧
    paying.currency = receiving.currency
  charged : books.Admits payer (-amount)
  credited : (books.post payer (-amount)).Admits payee amount
  row_eq : row = ⟨nextId books.transfers, payer, payee, amount⟩
  after_eq : after =
    { (books.post payer (-amount)).post payee amount with transfers := books.transfers ++ [row] }

/-- What a settlement that succeeds has done: the trade is recorded before its two transfers. -/
structure SettledIn (first second : Leg) (books : Books) (settlement : Settlement) (after : Books) : Prop where
  trade_eq : settlement.trade = ⟨nextId books.trades, first, second⟩
  transfers : ∃ middle,
    Transferred first.payer first.payee first.amount { books with trades := books.trades ++ [settlement.trade] }
      settlement.firstTransfer middle ∧
    Transferred second.payer second.payee second.amount middle settlement.secondTransfer after

namespace Scope

variable {books after : Books}

theorem positive_of_ok {amount : Int} {value : Unit} (ran : positive amount books = (.ok value, after)) :
    0 < amount ∧ after = books := by
  unfold positive requirePositive at ran
  by_cases enough : 0 < amount
  · rw [if_pos enough] at ran
    exact ⟨enough, (pure_eq_ok.mp ran).2.symm⟩
  · rw [if_neg enough] at ran
    exact absurd ran fail_ne_ok

theorem account_of_ok {id : AccountId} {found : Account} (ran : account id books = (.ok found, after)) :
    books.account? id = some found ∧ after = books := by
  obtain ⟨looked, rfl⟩ := read_eq_ok.mp ran
  exact ⟨Books.findAccount_eq_ok.mp looked, rfl⟩

theorem endpoints_of_ok {payer payee : AccountId} {ends : Account × Account}
    (ran : endpoints payer payee books = (.ok ends, after)) :
    books.account? payer = some ends.1 ∧ books.account? payee = some ends.2 ∧ after = books := by
  obtain ⟨low, _, first, rest⟩ := bind_eq_ok.mp ran
  obtain ⟨lower, rfl⟩ := account_of_ok first
  obtain ⟨high, _, second, last⟩ := bind_eq_ok.mp rest
  obtain ⟨higher, rfl⟩ := account_of_ok second
  obtain ⟨rfl, rfl⟩ := pure_eq_ok.mp last
  by_cases ordered : payer ≤ payee
  · rw [Int.min_eq_left ordered] at lower
    rw [Int.max_eq_right ordered] at higher
    rw [if_pos ordered]
    exact ⟨lower, higher, rfl⟩
  · have reversed : payee ≤ payer := Int.le_of_lt (Int.not_le.mp ordered)
    rw [Int.min_eq_right reversed] at lower
    rw [Int.max_eq_left reversed] at higher
    rw [if_neg ordered]
    exact ⟨higher, lower, rfl⟩

theorem writeBalance_of_ok {found row : Account} {balance : Int}
    (ran : writeBalance found balance books = (.ok row, after)) :
    0 ≤ balance ∧ after = books.setBalance found.id balance := by
  unfold writeBalance at ran
  by_cases below : balance < 0
  · rw [if_pos below] at ran
    cases ran
  · rw [if_neg below] at ran
    cases ran
    exact ⟨by omega, rfl⟩

theorem credit_of_ok (formed : books.WellFormed) {id : AccountId} {amount : Int} {row : Account}
    (ran : credit id amount books = (.ok row, after)) :
    books.Admits id amount ∧ after = books.adjust id amount := by
  obtain ⟨found, _, looked, rest⟩ := bind_eq_ok.mp ran
  obtain ⟨present, rfl⟩ := account_of_ok looked
  unfold Bourse.credited at rest
  by_cases fits : FitsWord (found.balance + amount)
  · simp only [if_pos fits] at rest
    obtain ⟨enough, rfl⟩ := writeBalance_of_ok rest
    exact ⟨⟨found, present, enough, fits.2⟩, formed.setBalance_eq_adjust present amount⟩
  · simp only [if_neg fits] at rest
    exact absurd rest fail_ne_ok

theorem debit_of_ok (formed : books.WellFormed) {id : AccountId} {amount : Int} {row : Account}
    (ran : debit id amount books = (.ok row, after)) :
    books.Admits id (-amount) ∧ after = books.adjust id (-amount) := by
  obtain ⟨found, _, looked, rest⟩ := bind_eq_ok.mp ran
  obtain ⟨present, rfl⟩ := account_of_ok looked
  unfold debited at rest
  by_cases covered : 0 ≤ found.balance - amount ∧ found.balance - amount ≤ greatestWord
  · simp only [if_pos covered] at rest
    obtain ⟨_, rfl⟩ := writeBalance_of_ok rest
    rw [Int.sub_eq_add_neg] at covered ⊢
    exact ⟨⟨found, present, covered⟩, formed.setBalance_eq_adjust present (-amount)⟩
  · simp only [if_neg covered] at rest
    exact absurd rest fail_ne_ok

theorem postEntry_of_ok {id : AccountId} {amount : Int} {entry : Entry}
    (ran : postEntry id amount books = (.ok entry, after)) :
    entry = ⟨nextId books.entries, id, amount⟩ ∧ after = { books with entries := books.entries ++ [entry] } := by
  unfold postEntry at ran
  split at ran
  · cases ran
    exact ⟨rfl, rfl⟩
  · cases ran

theorem postTransfer_of_ok {leg : Leg} {row : Transfer} (ran : postTransfer leg books = (.ok row, after)) :
    row = ⟨nextId books.transfers, leg.payer, leg.payee, leg.amount⟩ ∧
      after = { books with transfers := books.transfers ++ [row] } := by
  unfold postTransfer at ran
  split at ran
  · cases ran
  · split at ran
    · cases ran
      exact ⟨rfl, rfl⟩
    · cases ran

theorem postTrade_of_ok {first second : Leg} {row : Trade} (ran : postTrade first second books = (.ok row, after)) :
    row = ⟨nextId books.trades, first, second⟩ ∧ after = { books with trades := books.trades ++ [row] } := by
  unfold postTrade at ran
  split at ran
  · cases ran
  · split at ran
    · cases ran
    · split at ran
      · cases ran
        exact ⟨rfl, rfl⟩
      · cases ran

/-- A settlement adds its trade to the table, and its transfers leave that table alone. -/
theorem settle_trades {first second : Leg} {settlement : Settlement}
    (ran : settle first second books = (.ok settlement, after)) :
    settlement.trade = ⟨nextId books.trades, first, second⟩ ∧ after.trades = books.trades ++ [settlement.trade] := by
  have apart : ApartFromFunds fun books : Books => books.trades := fun _ _ _ _ => rfl
  obtain ⟨_, _, checked, checking⟩ := bind_eq_ok.mp ran
  obtain ⟨_, rfl⟩ := positive_of_ok checked
  obtain ⟨_, _, alsoChecked, recording⟩ := bind_eq_ok.mp checking
  obtain ⟨_, rfl⟩ := positive_of_ok alsoChecked
  obtain ⟨trade, posted, recorded, moving⟩ := bind_eq_ok.mp recording
  obtain ⟨trade_eq, posting⟩ := postTrade_of_ok recorded
  obtain ⟨_, middle, firstMoved, movingToo⟩ := bind_eq_ok.mp moving
  obtain ⟨_, _, secondMoved, ending⟩ := bind_eq_ok.mp movingToo
  obtain ⟨rfl, rfl⟩ := pure_eq_ok.mp ending
  have first := transfer_keeps apart first.payer first.payee first.amount posted
  have second := transfer_keeps apart second.payer second.payee second.amount middle
  rw [firstMoved] at first
  rw [secondMoved] at second
  refine ⟨trade_eq, second.trans (first.trans ?_)⟩
  rw [posting]

theorem deposit_of_ok (formed : books.WellFormed) {id : AccountId} {amount : Int} {entry : Entry}
    (ran : deposit id amount books = (.ok entry, after)) :
    0 < amount ∧ books.Admits id amount ∧ entry = ⟨nextId books.entries, id, amount⟩ ∧
      after = books.post id amount := by
  obtain ⟨_, _, checked, looking⟩ := bind_eq_ok.mp ran
  obtain ⟨enough, rfl⟩ := positive_of_ok checked
  obtain ⟨_, _, looked, paying⟩ := bind_eq_ok.mp looking
  obtain ⟨_, rfl⟩ := account_of_ok looked
  obtain ⟨_, _, paid, posting⟩ := bind_eq_ok.mp paying
  obtain ⟨admits, rfl⟩ := credit_of_ok formed paid
  obtain ⟨rfl, rfl⟩ := postEntry_of_ok posting
  exact ⟨enough, admits, rfl, rfl⟩

theorem move_of_ok (formed : books.WellFormed) {payer payee : AccountId} {amount : Int} {row : Transfer}
    (ran : move payer payee amount books = (.ok row, after)) :
    books.Admits payer (-amount) ∧ (books.post payer (-amount)).Admits payee amount ∧
      row = ⟨nextId books.transfers, payer, payee, amount⟩ ∧
      after = { (books.post payer (-amount)).post payee amount with transfers := books.transfers ++ [row] } := by
  obtain ⟨_, _, charging, crediting⟩ := bind_eq_ok.mp ran
  obtain ⟨charged, rfl⟩ := debit_of_ok formed charging
  obtain ⟨_, _, credit, recording⟩ := bind_eq_ok.mp crediting
  obtain ⟨credited, rfl⟩ := credit_of_ok (formed.adjust charged) credit
  obtain ⟨_, _, recorded, posting⟩ := bind_eq_ok.mp recording
  obtain ⟨row_eq, rfl⟩ := postTransfer_of_ok recorded
  obtain ⟨_, _, out, receiving⟩ := bind_eq_ok.mp posting
  obtain ⟨rfl, rfl⟩ := postEntry_of_ok out
  obtain ⟨_, _, into, ending⟩ := bind_eq_ok.mp receiving
  obtain ⟨rfl, rfl⟩ := postEntry_of_ok into
  obtain ⟨rfl, rfl⟩ := pure_eq_ok.mp ending
  exact ⟨charged, credited, row_eq, rfl⟩

theorem transfer_of_ok (formed : books.WellFormed) {payer payee : AccountId} {amount : Int} {row : Transfer}
    (ran : transfer payer payee amount books = (.ok row, after)) :
    Transferred payer payee amount books row after := by
  obtain ⟨_, _, checked, looking⟩ := bind_eq_ok.mp ran
  obtain ⟨enough, rfl⟩ := positive_of_ok checked
  obtain ⟨⟨paying, receiving⟩, _, looked, moving⟩ := bind_eq_ok.mp looking
  obtain ⟨atPayer, atPayee, rfl⟩ := endpoints_of_ok looked
  by_cases same : paying.currency = receiving.currency
  · simp only [if_pos same] at moving
    obtain ⟨charged, credited, row_eq, after_eq⟩ := move_of_ok formed moving
    exact ⟨enough, ⟨paying, receiving, atPayer, atPayee, same⟩, charged, credited, row_eq, after_eq⟩
  · simp only [if_neg same] at moving
    exact absurd moving fail_ne_ok

theorem settle_of_ok (formed : books.WellFormed) {first second : Leg} {settlement : Settlement}
    (ran : settle first second books = (.ok settlement, after)) :
    SettledIn first second books settlement after := by
  obtain ⟨_, _, checked, checking⟩ := bind_eq_ok.mp ran
  obtain ⟨_, rfl⟩ := positive_of_ok checked
  obtain ⟨_, _, alsoChecked, recording⟩ := bind_eq_ok.mp checking
  obtain ⟨_, rfl⟩ := positive_of_ok alsoChecked
  obtain ⟨trade, _, recorded, moving⟩ := bind_eq_ok.mp recording
  have opened := (postTrade_makes first second).wellFormed formed recorded
  obtain ⟨trade_eq, rfl⟩ := postTrade_of_ok recorded
  obtain ⟨firstTransfer, middle, firstMoved, moving'⟩ := bind_eq_ok.mp moving
  have between := (transfer_makes _ _ _).wellFormed opened firstMoved
  obtain ⟨secondTransfer, _, secondMoved, ending⟩ := bind_eq_ok.mp moving'
  obtain ⟨rfl, rfl⟩ := pure_eq_ok.mp ending
  exact ⟨trade_eq, middle, transfer_of_ok opened firstMoved, transfer_of_ok between secondMoved⟩

end Scope

end Bourse

import Bourse.Proofs.Movements

namespace Bourse

namespace Books

/-- A change of all accounts that keeps their ids is seen in each look-up. -/
theorem account?_map (books : Books) {change : Account → Account}
    (same : ∀ account, (change account).id = account.id) (id : AccountId) :
    account? { books with accounts := books.accounts.map change } id = (books.account? id).map change := by
  have ids : (fun account : Account => decide (account.id = id)) ∘ change =
      fun account => decide (account.id = id) :=
    funext fun account => by rw [Function.comp_apply, same account]
  unfold account?
  rw [List.find?_map, ids]

theorem account?_setBalance (books : Books) (target : AccountId) (balance : Int) (id : AccountId) :
    (books.setBalance target balance).account? id = (books.account? id).map fun account =>
      if account.id = target then { account with balance } else account :=
  books.account?_map (fun account => by split <;> rfl) id

theorem account?_adjust (books : Books) (target : AccountId) (amount : Int) (id : AccountId) :
    (books.adjust target amount).account? id = (books.account? id).map fun account =>
      if account.id = target then { account with balance := account.balance + amount } else account :=
  books.account?_map (fun account => by split <;> rfl) id

end Books

variable {raced : Prop} {books after : Books} {id : AccountId} {account : Account}

/-- Whatever is written, an account keeps its id, its owner and its currency. -/
theorem Write.account? (write : Write raced books after) (found : books.account? id = some account) :
    ∃ balance, after.account? id = some { account with balance } := by
  cases write with
  | account owner currency =>
    refine ⟨account.balance, ?_⟩
    unfold Books.account? at found ⊢
    rw [List.find?_append, found, Option.some_or]
  | @balance target balance range =>
    rw [Books.account?_setBalance, found, Option.map_some]
    by_cases own : account.id = target
    · exact ⟨balance, congrArg some (if_pos own)⟩
    · exact ⟨account.balance, congrArg some (if_neg own)⟩
  | _ => exact ⟨account.balance, found⟩

theorem Writes.account? (writes : Writes raced books after) (found : books.account? id = some account) :
    ∃ balance, after.account? id = some { account with balance } := by
  induction writes with
  | refl => exact ⟨account.balance, found⟩
  | tail _ write ih =>
    obtain ⟨_, before⟩ := ih
    obtain ⟨balance, now⟩ := write.account? before
    exact ⟨balance, now⟩

end Bourse

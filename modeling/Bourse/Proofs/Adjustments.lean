import Bourse.Proofs.Movements
import Bourse.Proofs.Runs

namespace Bourse

namespace Scope

variable {books : Books} {id : AccountId} {amount : Int} {found : Account}

theorem account_ok (present : books.account? id = some found) : account id books = (.ok found, books) :=
  read_eq_ok.mpr ⟨Books.findAccount_eq_ok.mpr present, rfl⟩

theorem account_error (absent : books.account? id = none) :
    account id books = (.error (.accountNotFound id), books) := by
  have missing : books.findAccount id = .error (.accountNotFound id) := by
    unfold Books.findAccount
    rw [absent]
  exact congrArg (·, books) missing

theorem writeBalance_ok {balance : Int} (enough : 0 ≤ balance) :
    writeBalance found balance books = (.ok { found with balance }, books.setBalance found.id balance) :=
  if_neg (Int.not_lt.mpr enough)

/-- There is no reason but one for which a debit is refused, whatever is wrong with the balance that would be left. -/
theorem debit_eq (present : books.account? id = some found) :
    debit id amount books =
      if 0 ≤ found.balance - amount ∧ found.balance - amount ≤ greatestWord then
        (.ok { found with balance := found.balance - amount }, books.setBalance found.id (found.balance - amount))
      else (.error (.insufficientFunds id found.balance amount), books) := by
  unfold debit debited
  rw [bind_of_ok (account_ok present)]
  by_cases covered : 0 ≤ found.balance - amount ∧ found.balance - amount ≤ greatestWord
  · rw [if_pos covered, if_pos covered]
    exact writeBalance_ok covered.1
  · rw [if_neg covered, if_neg covered]
    rfl

/-- A sum that is below zero is computed, and it is the row that refuses it. -/
theorem credit_eq (present : books.account? id = some found) :
    credit id amount books =
      if FitsWord (found.balance + amount) then
        if found.balance + amount < 0 then (.error (.storage (.condition .balance)), books)
        else
          (.ok { found with balance := found.balance + amount }, books.setBalance found.id (found.balance + amount))
      else (.error (.numeric .overflow), books) := by
  unfold credit credited
  rw [bind_of_ok (account_ok present)]
  by_cases fits : FitsWord (found.balance + amount)
  · rw [if_pos fits, if_pos fits]
    rfl
  · rw [if_neg fits, if_neg fits]
    rfl

theorem debit_ok (formed : books.WellFormed) (admits : books.Admits id (-amount)) :
    ∃ row, debit id amount books = (.ok row, books.adjust id (-amount)) := by
  obtain ⟨found, present, range⟩ := admits
  rw [← formed.setBalance_eq_adjust present, debit_eq present]
  exact ⟨_, if_pos range⟩

theorem debit_error (present : books.account? id = some found) (short : found.balance < amount) :
    debit id amount books = (.error (.insufficientFunds id found.balance amount), books) :=
  (debit_eq present).trans (if_neg (by omega))

theorem credit_ok (formed : books.WellFormed) (admits : books.Admits id amount) :
    ∃ row, credit id amount books = (.ok row, books.adjust id amount) := by
  obtain ⟨found, present, range⟩ := admits
  have fits : FitsWord (found.balance + amount) := ⟨Int.le_trans (by decide) range.1, range.2⟩
  rw [← formed.setBalance_eq_adjust present, credit_eq present, if_pos fits]
  exact ⟨_, if_neg (Int.not_lt.mpr range.1)⟩

theorem credit_error (present : books.account? id = some found) (full : greatestWord < found.balance + amount) :
    credit id amount books = (.error (.numeric .overflow), books) :=
  (credit_eq present).trans (if_neg fun fits => Int.not_le.mpr full fits.2)

end Scope

/-- Work that is to give an account the balance `balance` does so exactly where this is one, and writes nothing else.
Otherwise it fails in the way that `refusal` says, and writes nothing at all. -/
structure Scope.Adjusts (work : Scope Account) (books : Books) (account : Account) (balance : Int)
    (refusal : Failure → Prop) : Prop where
  ok_iff : work books = (.ok { account with balance }, books.setBalance account.id balance) ↔
    0 ≤ balance ∧ balance ≤ greatestWord
  error_iff : ∀ failure after, work books = (.error failure, after) ↔ refusal failure ∧ after = books

/-- The two outcomes exclude each other, so that either is met in its own case only. -/
theorem Scope.Adjusts.of_outcomes {work : Scope Account} {books : Books} {account : Account} {balance : Int}
    {refusal : Failure → Prop}
    (done : 0 ≤ balance ∧ balance ≤ greatestWord →
      work books = (.ok { account with balance }, books.setBalance account.id balance))
    (refused : ¬ (0 ≤ balance ∧ balance ≤ greatestWord) →
      ∃ failure, refusal failure ∧ work books = (.error failure, books))
    (outside : ∀ failure, refusal failure → ¬ (0 ≤ balance ∧ balance ≤ greatestWord))
    (single : ∀ failure other, refusal failure → refusal other → failure = other) :
    work.Adjusts books account balance refusal where
  ok_iff := by
    refine ⟨fun ran => ?_, done⟩
    by_contra out
    obtain ⟨failure, _, failed⟩ := refused out
    cases ran.symm.trans failed
  error_iff failure after := by
    constructor
    · intro failed
      have out : ¬ (0 ≤ balance ∧ balance ≤ greatestWord) := fun within => by cases (done within).symm.trans failed
      obtain ⟨cause, known, refusing⟩ := refused out
      cases refusing.symm.trans failed
      exact ⟨known, rfl⟩
    · rintro ⟨known, rfl⟩
      obtain ⟨cause, alsoKnown, refusing⟩ := refused (outside failure known)
      rw [refusing, single failure cause known alsoKnown]

theorem Scope.debit_adjusts {books : Books} {id : AccountId} {found : Account}
    (present : books.account? id = some found) (amount : Int) :
    (debit id amount).Adjusts books found (found.balance - amount) fun failure =>
      failure = .insufficientFunds id found.balance amount ∧
        (found.balance - amount < 0 ∨ greatestWord < found.balance - amount) := by
  refine .of_outcomes (fun within => (debit_eq present).trans (if_pos within)) (fun out => ?_) ?_ ?_
  · exact ⟨_, ⟨rfl, by omega⟩, (debit_eq present).trans (if_neg out)⟩
  · rintro failure ⟨_, range⟩
    omega
  · rintro failure other ⟨rfl, _⟩ ⟨rfl, _⟩
    rfl

theorem Scope.credit_adjusts {books : Books} {id : AccountId} {found : Account}
    (present : books.account? id = some found) (paid : 0 ≤ found.balance) {amount : Int} (word : FitsWord amount) :
    (credit id amount).Adjusts books found (found.balance + amount) fun failure =>
      failure = .numeric .overflow ∧ greatestWord < found.balance + amount ∨
        failure = .storage (.condition .balance) ∧ found.balance + amount < 0 := by
  -- No amount takes the sum below the least word, for the balance is not negative.
  have fits : FitsWord (found.balance + amount) ↔ found.balance + amount ≤ greatestWord := by
    have least := word.1
    exact ⟨And.right, fun small => ⟨by omega, small⟩⟩
  refine .of_outcomes (fun within => ?_) (fun out => ?_) ?_ ?_
  · rw [credit_eq present, if_pos (fits.mpr within.2), if_neg (Int.not_lt.mpr within.1)]
  · by_cases small : found.balance + amount ≤ greatestWord
    · have below : found.balance + amount < 0 := by omega
      exact ⟨_, .inr ⟨rfl, below⟩, by rw [credit_eq present, if_pos (fits.mpr small), if_pos below]⟩
    · have full := Int.not_le.mp small
      exact ⟨_, .inl ⟨rfl, full⟩, credit_error present full⟩
  · rintro failure (⟨_, full⟩ | ⟨_, below⟩) <;> omega
  · have nonneg : 0 ≤ greatestWord := by decide
    rintro failure other (⟨rfl, full⟩ | ⟨rfl, below⟩) (⟨rfl, full'⟩ | ⟨rfl, below'⟩)
    · rfl
    · omega
    · omega
    · rfl

/-- What a debit and a credit of any amount do to an account. A debit that would leave more than a word holds is
refused like one that would leave less than nothing. -/
theorem Books.Visible.adjustments_exact {books : Books} (visible : books.Visible) {id : AccountId} {found : Account}
    (present : books.account? id = some found) {amount : Int} (word : FitsWord amount) :
    (0 ≤ found.balance ∧ found.balance ≤ greatestWord) ∧
      (Scope.debit id amount).Adjusts books found (found.balance - amount) (fun failure =>
        failure = .insufficientFunds id found.balance amount ∧
          (found.balance - amount < 0 ∨ greatestWord < found.balance - amount)) ∧
      (Scope.credit id amount).Adjusts books found (found.balance + amount) (fun failure =>
        failure = .numeric .overflow ∧ greatestWord < found.balance + amount ∨
          failure = .storage (.condition .balance) ∧ found.balance + amount < 0) := by
  have range := visible.wellFormed.balances found (List.mem_of_find?_eq_some present)
  exact ⟨range, Scope.debit_adjusts present amount, Scope.credit_adjusts present range.1 word⟩

/-- A negative amount is given by a debit and taken by a credit, the smallest one there is by neither. -/
theorem adjustments_exact_of_negative_amounts :
    let books := Desk.serve {} twoAsks .empty
    let bob : Account := ⟨4, "bob", 100, .usdt⟩
    books.Visible ∧ books.account? 4 = some bob ∧ FitsWord (-1) ∧ FitsWord leastWord ∧
      Scope.debit 4 (-1) books = (.ok { bob with balance := 101 }, books.setBalance 4 101) ∧
      Scope.credit 4 (-1) books = (.ok { bob with balance := 99 }, books.setBalance 4 99) ∧
      Scope.debit 4 leastWord books = (.error (.insufficientFunds 4 100 leastWord), books) ∧
      Scope.credit 4 leastWord books = (.error (.storage (.condition .balance)), books) := by
  intro books bob
  have visible : books.Visible := (Reach.serve .start fun _ _ => trivial).visible
  have present : books.account? 4 = some bob := by decide +kernel
  have one : FitsWord (-1) := by decide
  have least : FitsWord leastWord := by decide
  obtain ⟨_, given, taken⟩ := visible.adjustments_exact present one
  obtain ⟨_, notGiven, notTaken⟩ := visible.adjustments_exact present least
  exact ⟨visible, present, one, least, given.ok_iff.mpr (by decide), taken.ok_iff.mpr (by decide),
    (notGiven.error_iff _ _).mpr ⟨⟨rfl, by decide⟩, rfl⟩, (notTaken.error_iff _ _).mpr ⟨.inr ⟨rfl, by decide⟩, rfl⟩⟩

/-- Nothing is missing from a full account, and a debit that would fill it over is refused for lack of funds. -/
theorem debit_above_word_insufficientFunds :
    let books := (Batch.run true [.openAccount "ann" .btc, .credit 1 greatestWord] .empty).books
    books.Visible ∧ books.account? 1 = some ⟨1, "ann", greatestWord, .btc⟩ ∧ FitsWord (-1) ∧
      greatestWord < greatestWord - -1 ∧ ¬ greatestWord - -1 < 0 ∧
      Scope.debit 1 (-1) books = (.error (.insufficientFunds 1 greatestWord (-1)), books) := by
  intro books
  exact ⟨.inScope .start true _, by decide +kernel, by decide, by decide, by decide, by decide +kernel⟩

end Bourse

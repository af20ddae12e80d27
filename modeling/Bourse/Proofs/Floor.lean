import Bourse.Proofs.Fills
import Mathlib.Logic.Function.Basic

namespace Bourse

open Scope Relation

/-- A matcher between two of its scopes: how far it has got, the orders that it still has to try, as it listed
them, and how it ended if it has. -/
structure Matcher where
  ticket : Ticket
  size : Nat
  cursor : Option OrderId := none
  page : List Order := []
  progress : Progress := {}
  result : Option (Except Interruption Progress) := none

namespace Matcher

/-- Reads the next page. -/
def turnPage (matcher : Matcher) (books : Books) : Matcher :=
  match books.tradableBeyond matcher.ticket.pair matcher.ticket.price matcher.ticket.side.opposite matcher.cursor
    matcher.size with
  | .error cause => { matcher with result := some (.error ⟨matcher.progress, cause⟩) }
  | .ok [] => { matcher with result := some (.ok matcher.progress) }
  | .ok page => { matcher with page }

/-- Goes on after a fill against an order it had listed. -/
def filled (matcher : Matcher) (resting : Order) (rest : List Order) (fill : Fill) : Matcher :=
  let reached := matcher.progress.add fill
  if reached.openAmount matcher.ticket.amount = 0 then
    { matcher with result := some (.ok { reached with status := .completed }) }
  else { matcher with cursor := some resting.id, page := rest, progress := reached }

/-- One scope of a matcher: it reads a page or settles a fill. -/
def step (matcher : Matcher) (books : Books) : Matcher × Option Fill × Books :=
  match matcher.result, matcher.page with
  | some _, _ => (matcher, none, books)
  | none, [] => (matcher.turnPage books, none, books)
  | none, resting :: rest =>
    match fill matcher.ticket resting
      (min (matcher.progress.openAmount matcher.ticket.amount) resting.remaining) books with
    | (.error cause, after) => ({ matcher with result := some (.error ⟨matcher.progress, cause⟩) }, none, after)
    | (.ok fill, after) => (matcher.filled resting rest fill, some fill, after)

/-- A matcher at work with no one else at the books. -/
def Alone : Matcher × Books → Matcher × Books → Prop :=
  ReflTransGen fun before after => after = ((before.1.step before.2).1, (before.1.step before.2).2.2)

theorem step_turnPage {matcher : Matcher} (running : matcher.result = none) (done : matcher.page = [])
    (books : Books) : matcher.step books = (matcher.turnPage books, none, books) := by
  simp only [step, running, done]

theorem step_filled {matcher : Matcher} (running : matcher.result = none) {resting : Order} {rest : List Order}
    (listed : matcher.page = resting :: rest) {books after : Books} {fill : Fill}
    (ran : Scope.fill matcher.ticket resting
      (min (matcher.progress.openAmount matcher.ticket.amount) resting.remaining) books = (.ok fill, after)) :
    matcher.step books = (matcher.filled resting rest fill, some fill, after) := by
  simp only [step, running, listed, ran]

theorem step_failed {matcher : Matcher} (running : matcher.result = none) {resting : Order} {rest : List Order}
    (listed : matcher.page = resting :: rest) {books after : Books} {cause : Failure}
    (ran : Scope.fill matcher.ticket resting
      (min (matcher.progress.openAmount matcher.ticket.amount) resting.remaining) books = (.error cause, after)) :
    matcher.step books =
      ({ matcher with result := some (.error ⟨matcher.progress, cause⟩) }, none, books) := by
  obtain rfl := fill_of_error ran
  simp only [step, running, listed, ran]

/-- In one scope a matcher leaves the books as they are or settles one fill. -/
theorem step_cases (matcher : Matcher) (books : Books) :
    (matcher.step books).2 = (none, books) ∨
      ∃ resting quantity fill after, Scope.fill matcher.ticket resting quantity books = (.ok fill, after) ∧
        (matcher.step books).2 = (some fill, after) := by
  match running : matcher.result, listed : matcher.page with
  | some _, _ => exact .inl (by simp only [step, running])
  | none, [] => exact .inl (by rw [step_turnPage running listed])
  | none, resting :: rest =>
    match ran : Scope.fill matcher.ticket resting
      (min (matcher.progress.openAmount matcher.ticket.amount) resting.remaining) books with
    | (.error cause, after) => exact .inl (by rw [step_failed running listed ran])
    | (.ok fill, after) => exact .inr ⟨_, _, fill, after, ran, by rw [step_filled running listed ran]⟩

theorem Alone.first {matcher next : Matcher} {books middle : Books} {fill : Option Fill} {last : Matcher × Books}
    (stepped : matcher.step books = (next, fill, middle)) (rest : Alone (next, middle) last) :
    Alone (matcher, books) last := by
  refine ReflTransGen.head ?_ rest
  simp only [stepped]

/-- Scope by scope, a matcher that is alone tries its page as a whole page is tried. -/
theorem alone_fillPage {matcher : Matcher} (running : matcher.result = none)
    (unfinished : matcher.progress.status ≠ .completed) {books after : Books}
    {outcome : Except Interruption Progress}
    (ran : fillPage matcher.ticket matcher.page matcher.progress books = (outcome, after)) :
    ∃ last, Alone (matcher, books) (last, after) ∧
      ((last.result = some outcome ∧ ∀ reached, outcome = .ok reached → reached.status = .completed) ∨
        ∃ reached, outcome = .ok reached ∧ reached.status ≠ .completed ∧
          last = { matcher with
            cursor := (matcher.page.map fun order => some order.id).getLastD matcher.cursor
            page := []
            progress := reached }) := by
  generalize listed : matcher.page = page at ran
  induction page generalizing matcher books with
  | nil =>
    cases ran
    refine ⟨matcher, .refl, .inr ⟨_, rfl, unfinished, ?_⟩⟩
    cases matcher
    cases listed
    rfl
  | cons resting rest ih =>
    rw [fillPage] at ran
    match settled : Scope.fill matcher.ticket resting
      (min (matcher.progress.openAmount matcher.ticket.amount) resting.remaining) books with
    | (.error cause, middle) =>
      simp only [settled, Prod.mk.injEq] at ran
      obtain ⟨rfl, rfl⟩ := ran
      obtain rfl := fill_of_error settled
      exact ⟨_, .first (step_failed running listed settled) .refl, .inl ⟨rfl, nofun⟩⟩
    | (.ok fill, middle) =>
      have stepped := step_filled running listed settled
      by_cases closed : (matcher.progress.add fill).openAmount matcher.ticket.amount = 0
      · simp only [settled, if_pos closed, Prod.mk.injEq] at ran
        obtain ⟨rfl, rfl⟩ := ran
        simp only [filled, if_pos closed] at stepped
        exact ⟨_, .first stepped .refl, .inl ⟨rfl, fun _ same => by cases same; rfl⟩⟩
      · simp only [settled, if_neg closed] at ran
        simp only [filled, if_neg closed] at stepped
        obtain ⟨last, alone, ending⟩ := @ih
          { matcher with cursor := some resting.id, page := rest, progress := matcher.progress.add fill }
          running unfinished middle rfl ran
        refine ⟨last, .first stepped alone, ending.imp_right ?_⟩
        rintro ⟨reached, same, goesOn, rfl⟩
        exact ⟨reached, same, goesOn, by rw [List.map_cons, List.getLastD_cons]⟩

theorem alone_page {ticket : Ticket} {size : Nat} {cursor : Option OrderId} {progress : Progress}
    {books after : Books} {first : Order} {rest : List Order} {outcome : Except Interruption Progress}
    (unfinished : progress.status ≠ .completed)
    (listed : books.tradableBeyond ticket.pair ticket.price ticket.side.opposite cursor size = .ok (first :: rest))
    (ran : fillPage ticket (first :: rest) progress books = (outcome, after)) :
    ∃ last, Alone ({ ticket, size, cursor, progress }, books) (last, after) ∧
      ((last.result = some outcome ∧ ∀ reached, outcome = .ok reached → reached.status = .completed) ∨
        ∃ reached, outcome = .ok reached ∧ reached.status ≠ .completed ∧
          last = { ticket, size, cursor := some (rest.getLastD first).id, progress := reached }) := by
  have stepped : step { ticket, size, cursor, progress } books = _ := step_turnPage rfl rfl books
  simp only [turnPage, listed] at stepped
  obtain ⟨last, alone, ending⟩ := @alone_fillPage
    { ticket, size, cursor, page := first :: rest, progress } rfl unfinished books after outcome ran
  rw [List.map_cons, List.getLastD_cons, List.getLastD_map] at ending
  exact ⟨last, .first stepped alone, ending⟩

/-- Scope by scope, a matcher that is alone does what matching does at once. -/
theorem alone_sweep {ticket : Ticket} {size : Nat} {cursor : Option OrderId} {progress : Progress}
    {books : Books} (unfinished : progress.status ≠ .completed) :
    ∃ last, Alone ({ ticket, size, cursor, progress }, books) (last, (sweep ticket size cursor progress books).2) ∧
      last.result = some (sweep ticket size cursor progress books).1 := by
  fun_induction sweep ticket size cursor progress books with
  | case1 cursor progress books cause listed =>
    refine ⟨_, .first (step_turnPage rfl rfl books) .refl, ?_⟩
    simp only [turnPage, listed]
  | case2 cursor progress books listed =>
    refine ⟨_, .first (step_turnPage rfl rfl books) .refl, ?_⟩
    simp only [turnPage, listed]
  | case3 cursor progress books first rest listed interruption after ran =>
    obtain ⟨last, alone, ⟨result, _⟩ | ⟨_, same, _⟩⟩ := alone_page unfinished listed ran
    · exact ⟨last, alone, result⟩
    · cases same
  | case4 cursor progress books first rest listed reached after ran completed =>
    obtain ⟨last, alone, ⟨result, _⟩ | ⟨_, same, goesOn, _⟩⟩ := alone_page unfinished listed ran
    · exact ⟨last, alone, result⟩
    · cases same
      exact absurd completed goesOn
  | case5 cursor progress books first rest listed reached after ran goesOn ih =>
    obtain ⟨last, alone, result⟩ := ih goesOn
    refine ⟨last, ?_, result⟩
    obtain ⟨middle, before, ⟨_, completed⟩ | ⟨_, same, _, rfl⟩⟩ := alone_page unfinished listed ran
    · exact absurd (completed reached rfl) goesOn
    · cases same
      exact before.trans alone

/-- Cut into its scopes, matching is still matching. -/
theorem alone_matchTicket (ticket : Ticket) (size : Nat) (books : Books) :
    ∃ last, Alone ({ ticket, size }, books) (last, (matchTicket ticket size books).2) ∧
      last.result = some (matchTicket ticket size books).1 := alone_sweep (by decide)

end Matcher

/-- What was drawn from the orders: what each was stored with as filled, and all fills, oldest first. -/
structure Draws where
  stored : OrderId → Int := fun _ => 0
  fills : List Fill := []

namespace Draws

/-- The fills that were made against an order. -/
def against (draws : Draws) (id : OrderId) : List Fill := draws.fills.filter fun fill => fill.resting.id = id

def total (draws : Draws) (id : OrderId) : Int := draws.stored id + ((draws.against id).map (·.quantity)).sum

def store (draws : Draws) (id : OrderId) (filled : Int) : Draws :=
  { draws with stored := Function.update draws.stored id filled }

def add (draws : Draws) (fill : Fill) : Draws := { draws with fills := draws.fills ++ [fill] }

theorem store_self (draws : Draws) (id : OrderId) (filled : Int) : (draws.store id filled).stored id = filled :=
  Function.update_self ..

theorem store_of_ne (draws : Draws) {id other : OrderId} (different : other ≠ id) (filled : Int) :
    (draws.store id filled).stored other = draws.stored other := Function.update_of_ne different ..

theorem add_against_of_ne (draws : Draws) {fill : Fill} {id : OrderId} (different : fill.resting.id ≠ id) :
    (draws.add fill).against id = draws.against id := by
  simp [against, add, List.filter_append, different]

theorem add_total_of_ne (draws : Draws) {fill : Fill} {id : OrderId} (different : fill.resting.id ≠ id) :
    (draws.add fill).total id = draws.total id := by
  rw [total, draws.add_against_of_ne different, add, total]

theorem add_total_self (draws : Draws) (fill : Fill) :
    (draws.add fill).total fill.resting.id = draws.total fill.resting.id + fill.quantity := by
  simp [total, against, add, List.filter_append, Int.add_assoc]

end Draws

/-- Matchers that share the books, each between two of its scopes, and what was drawn meanwhile. -/
structure Floor where
  books : Books := .empty
  matchers : List Matcher := []
  draws : Draws := {}

/-- What happens next on the floor: a matcher joins or does its next scope, a matched order is stored, or some
operation is performed in a scope of its own. -/
inductive Move where
  | join (ticket : Ticket) (size : Nat)
  | proceed (index : Nat)
  | store (ticket : Ticket) (filled : Int)
  | perform (operation : Operation)

namespace Floor

/-- A matcher does its next scope. -/
def proceed (floor : Floor) (index : Nat) : Floor :=
  match floor.matchers[index]? with
  | none => floor
  | some matcher =>
    let (next, fill?, books) := matcher.step floor.books
    { books, matchers := floor.matchers.set index next,
      draws := fill?.elim floor.draws floor.draws.add }

/-- An order is stored of which `filled` is already traded. -/
def store (floor : Floor) (ticket : Ticket) (filled : Int) : Floor :=
  match storeOrder ticket filled floor.books with
  | (.ok order, books) => { floor with books, draws := floor.draws.store order.id filled }
  | (.error _, books) => { floor with books }

def step (floor : Floor) : Move → Floor
  | .join ticket size => { floor with matchers := floor.matchers ++ [{ ticket, size }] }
  | .proceed index => floor.proceed index
  | .store ticket filled => floor.store ticket filled
  | .perform operation => { floor with books := (operation.perform.atomic floor.books).2 }

def run (floor : Floor) (moves : List Move) : Floor := moves.foldl step floor

end Floor

end Bourse

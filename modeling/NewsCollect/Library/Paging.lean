/-
**Reading a long list in pages.**

A request is answered with one page, and a page leads to the request behind it, or to none. A
traversal asks page after page until a page leads nowhere.

* `Traverses`: the pages of a traversal, which are unique.
* `Gathers`: a traversal whose pages are those of the pieces of a list, in order.
* `exists_gathers`: the rule. A reader whose every page is that of a first piece of what is left to
  read, and leads on with the rest of it, gathers the whole list.
* `filter_after`: what is left of a list in order, behind the last item of a page.
-/

import Mathlib.Data.List.Forall2
import Mathlib.Order.Basic

namespace NewsCollect.Paging

variable {Request Page Failure Row State : Type}

/-- What fetches a page, and the request behind it. -/
structure Reader (Request Page Failure : Type) where
  fetch : Request → Except Failure Page
  behind : Request → Page → Option Request

/-- **A traversal**: page after page, until a page leads nowhere. -/
inductive Traverses (reader : Reader Request Page Failure) : Request → List Page → Prop where
  | last {request : Request} {page : Page} (fetched : reader.fetch request = .ok page)
      (ends : reader.behind request page = none) : Traverses reader request [page]
  | more {request next : Request} {page : Page} {pages : List Page}
      (fetched : reader.fetch request = .ok page) (leads : reader.behind request page = some next)
      (rest : Traverses reader next pages) : Traverses reader request (page :: pages)

variable {reader : Reader Request Page Failure} {gives : List Row → Page → Prop}

/-- There is one traversal from a request. -/
theorem Traverses.unique {request : Request} {pages pages' : List Page}
    (first : Traverses reader request pages) (second : Traverses reader request pages') :
    pages = pages' := by
  induction first generalizing pages' with
  | last fetched ends =>
      cases second with
      | last fetched' =>
          rw [Except.ok.inj (fetched.symm.trans fetched')]
      | more fetched' leads =>
          rw [← Except.ok.inj (fetched.symm.trans fetched'), ends] at leads
          cases leads
  | more fetched leads rest ih =>
      cases second with
      | last fetched' ends =>
          rw [← Except.ok.inj (fetched.symm.trans fetched'), leads] at ends
          cases ends
      | more fetched' leads' rest' =>
          obtain rfl := Except.ok.inj (fetched.symm.trans fetched')
          obtain rfl := Option.some.inj (leads.symm.trans leads')
          rw [ih rest']

/-- **A traversal of a list**: its pages are those of the pieces of the list, in order. -/
structure Gathers (reader : Reader Request Page Failure) (gives : List Row → Page → Prop)
    (request : Request) (rows : List Row) (pages : List Page) : Prop where
  traverses : Traverses reader request pages
  pieces : ∃ pieces : List (List Row), pieces.flatten = rows ∧ List.Forall₂ gives pieces pages

theorem Gathers.last {request : Request} {page : Page} {rows : List Row}
    (fetched : reader.fetch request = .ok page) (ends : reader.behind request page = none)
    (given : gives rows page) : Gathers reader gives request rows [page] where
  traverses := .last fetched ends
  pieces := ⟨[rows], List.append_nil _, .cons given .nil⟩

theorem Gathers.more {request next : Request} {page : Page} {piece rest : List Row}
    {pages : List Page} (fetched : reader.fetch request = .ok page)
    (leads : reader.behind request page = some next) (given : gives piece page)
    (gathers : Gathers reader gives next rest pages) :
    Gathers reader gives request (piece ++ rest) (page :: pages) := by
  obtain ⟨pieces, rfl, all⟩ := gathers.pieces
  exact ⟨.more fetched leads gathers.traverses, piece :: pieces, List.flatten_cons, .cons given all⟩

/-- What every page has besides. -/
theorem Gathers.parts {also : Page → Prop} {request : Request} {rows : List Row} {pages : List Page}
    (gathers : Gathers reader (fun piece page => gives piece page ∧ also page) request rows pages) :
    Gathers reader gives request rows pages ∧ ∀ page ∈ pages, also page := by
  obtain ⟨traverses, pieces, whole, all⟩ := gathers
  have apart : List.Forall₂ gives pieces pages ∧ ∀ page ∈ pages, also page := by
    clear traverses whole
    induction all with
    | nil => exact ⟨.nil, List.forall_mem_nil _⟩
    | cons both _ ih => exact ⟨.cons both.1 ih.1, List.forall_mem_cons.2 ⟨both.2, ih.2⟩⟩
  exact ⟨⟨traverses, pieces, whole, apart.1⟩, apart.2⟩

/-- **The rule for readers.** What is ready for a request tells what is left to read under it. A page
gives a first piece of that, and leads on with the rest, of which there is less; or it gives all of
it, and closes the traversal. -/
theorem exists_gathers {ready : State → Request → Prop} {left : State → List Row} {size : State → ℕ}
    {closes : Page → Prop} (step : ∀ state request, ready state request → ∃ page piece,
      reader.fetch request = .ok page ∧ gives piece page ∧
        ((reader.behind request page = none ∧ closes page) ∧ left state = piece ∨
          ∃ next state', reader.behind request page = some next ∧ ready state' next ∧
            left state = piece ++ left state' ∧ size state' < size state))
    {state : State} {request : Request} (starts : ready state request) :
    ∃ pages, Gathers reader gives request (left state) pages ∧ pages.length ≤ size state + 1 ∧
      ∃ final, pages.getLast? = some final ∧ closes final := by
  induction bound : size state using Nat.strongRecOn generalizing state request with
  | ind bound' ih =>
      subst bound
      obtain ⟨page, piece, fetched, given, ends | ⟨next, state', leads, ready', parts, less⟩⟩ :=
        step state request starts
      · refine ⟨[page], ?_, by simp, page, rfl, ends.1.2⟩
        rw [ends.2]
        exact .last fetched ends.1.1 given
      · obtain ⟨pages, gathers, short, final, last, closed⟩ := ih _ less ready' rfl
        refine ⟨page :: pages, ?_, ?_, final, ?_, closed⟩
        · rw [parts]
          exact .more fetched leads given gathers
        · rw [List.length_cons]
          omega
        · rw [List.getLast?_cons, last]
          rfl

/-! ### Pages by key -/

/-- **What is behind the last item of a piece.** In a list in strict order, the items after the last one
of a first piece are the rest. -/
theorem filter_after {taken rest : List Row} {final : Row} {after : Row → Row → Bool}
    (ordered : (taken ++ rest).Pairwise fun first second =>
      after first second = false ∧ after second first = true)
    (never : ∀ row, after row row = false) (last : taken.getLast? = some final) :
    (taken ++ rest).filter (fun row => after row final) = rest := by
  obtain ⟨front, rfl⟩ := List.getLast?_eq_some_iff.1 last
  obtain ⟨inside, -, across⟩ := List.pairwise_append.1 ordered
  rw [List.filter_append]
  have none : (front ++ [final]).filter (fun row => after row final) = [] := by
    refine List.filter_eq_nil_iff.2 fun row member => ?_
    rcases List.mem_append.1 member with before | same
    · rw [((List.pairwise_append.1 inside).2.2 row before final (List.mem_singleton.2 rfl)).1]
      exact Bool.false_ne_true
    · rw [List.mem_singleton.1 same, never]
      exact Bool.false_ne_true
  have all : rest.filter (fun row => after row final) = rest :=
    List.filter_eq_self.2 fun row member => (across final (by simp) row member).2
  rw [none, all, List.nil_append]

end NewsCollect.Paging

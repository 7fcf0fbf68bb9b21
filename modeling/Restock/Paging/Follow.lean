import Mathlib.Data.List.Basic

/-!
# Following cursors

A connection that is read page by page: each page says whether there is a next one and with
which cursor to ask for it. A reader follows the cursors, for a bounded number of pages, and
gives up when a request fails.

* `follow` — the reader;
* `Pages` — the pages of a store from a cursor on, where every cursor leads to the next page;
* `follow_eq` — a reader that does not fail has read the pages up to its bound;
* `follow_of_fails` — a reader one of whose requests fails does so too.
-/

namespace Paging

variable {E T : Type}

/-- What a page says of the one after it. -/
structure PageInfo where
  hasNextPage : Bool
  endCursor : Option String
  deriving DecidableEq, Repr

/-- The cursor to go on with: none at the last page, and none without a cursor to send. -/
def PageInfo.next (info : PageInfo) : Option String :=
  if info.hasNextPage then info.endCursor.filter (· ≠ "") else none

/-- A page. -/
structure Page (T : Type) where
  nodes : List T
  pageInfo : PageInfo

/-- Read `fuel` pages at most from a cursor on, the first with the `i`-th request. A connection
that is not there ends the reading. -/
def follow (request : ℕ → Option String → Except E (Option (Page T))) :
    ℕ → ℕ → Option String → List T → Except E (List T)
  | 0, _, _, out => .ok out
  | fuel + 1, i, after, out =>
      match request i after with
      | .error e => .error e
      | .ok none => .ok out
      | .ok (some page) =>
          match page.pageInfo.next with
          | none => .ok (out ++ page.nodes)
          | some cursor => follow request fuel (i + 1) (some cursor) (out ++ page.nodes)

/-- The pages of a store from a cursor on: each cursor leads to the next page, and the last one
says that it is. -/
inductive Pages (store : Option String → Option (Page T)) : Option String → List (List T) → Prop
  | last {after : Option String} {page : Page T} :
      store after = some page → page.pageInfo.hasNextPage = false → Pages store after [page.nodes]
  | next {after : Option String} {page : Page T} {cursor : String} {rest : List (List T)} :
      store after = some page → page.pageInfo.next = some cursor →
      Pages store (some cursor) rest → Pages store after (page.nodes :: rest)

/-- Requests that a store answers, where they do not fail. -/
def Serves (request : ℕ → Option String → Except E (Option (Page T)))
    (store : Option String → Option (Page T)) : Prop :=
  ∀ i after, (∃ e, request i after = .error e) ∨ request i after = .ok (store after)

/-- The cursor of the `k`-th page from a cursor on. -/
def cursorAt (store : Option String → Option (Page T)) (after : Option String) :
    ℕ → Option String
  | 0 => after
  | k + 1 => (store (cursorAt store after k)).bind fun page => page.pageInfo.next

/-- A request for one of the pages within the bound fails. -/
def Fails (request : ℕ → Option String → Except E (Option (Page T)))
    (store : Option String → Option (Page T)) (fuel i : ℕ) (after : Option String)
    (pages : List (List T)) : Prop :=
  ∃ k, k < fuel ∧ k < pages.length ∧ ∃ e, request (i + k) (cursorAt store after k) = .error e

variable {request : ℕ → Option String → Except E (Option (Page T))}
  {store : Option String → Option (Page T)} {after : Option String} {pages : List (List T)}

/-- The last page has no cursor to go on with. -/
theorem PageInfo.next_of_last {info : PageInfo} (h : info.hasNextPage = false) :
    info.next = none := by
  simp [PageInfo.next, h]

/-- The cursors after the first page. -/
theorem cursorAt_succ {page : Page T} {cursor : String} (hpage : store after = some page)
    (hnext : page.pageInfo.next = some cursor) (k : ℕ) :
    cursorAt store after (k + 1) = cursorAt store (some cursor) k := by
  induction k with
  | zero => simp [cursorAt, hpage, hnext]
  | succ k ih => rw [cursorAt, ih, cursorAt]

/-- Whoever fails does so at the first page or after it. -/
theorem fails_next_iff {page : Page T} {cursor : String} {rest : List (List T)} {fuel i : ℕ}
    (hpage : store after = some page) (hnext : page.pageInfo.next = some cursor) :
    Fails request store (fuel + 1) i after (page.nodes :: rest) ↔
      (∃ e, request i after = .error e) ∨
        Fails request store fuel (i + 1) (some cursor) rest := by
  have hshift : ∀ k, i + (k + 1) = i + 1 + k := fun k => by omega
  constructor
  · rintro ⟨k, hfuel, hlength, hk⟩
    cases k with
    | zero => exact Or.inl hk
    | succ k =>
        rw [cursorAt_succ hpage hnext, hshift] at hk
        exact Or.inr ⟨k, Nat.lt_of_succ_lt_succ hfuel, Nat.lt_of_succ_lt_succ hlength, hk⟩
  · rintro (hfirst | ⟨k, hfuel, hlength, hk⟩)
    · exact ⟨0, Nat.succ_pos fuel, Nat.succ_pos _, hfirst⟩
    · rw [← hshift, ← cursorAt_succ hpage hnext] at hk
      exact ⟨k + 1, Nat.succ_lt_succ hfuel, Nat.succ_lt_succ hlength, hk⟩

/-- A reader none of whose requests fails has read the pages up to its bound. -/
theorem follow_eq (hserves : Serves request store) (h : Pages store after pages) :
    ∀ (fuel i : ℕ) (out : List T), ¬ Fails request store fuel i after pages →
      follow request fuel i after out = .ok (out ++ (pages.take fuel).flatten) := by
  induction h with
  | @last after page hpage hlast =>
      intro fuel i out hfails
      cases fuel with
      | zero => simp [follow]
      | succ fuel =>
          rcases hserves i after with herror | hok
          · exact absurd ⟨0, Nat.succ_pos fuel, Nat.succ_pos _, herror⟩ hfails
          · rw [follow, hok, hpage]
            simp [PageInfo.next_of_last hlast]
  | @next after page cursor rest hpage hnext _ ih =>
      intro fuel i out hfails
      cases fuel with
      | zero => simp [follow]
      | succ fuel =>
          rw [fails_next_iff hpage hnext, not_or] at hfails
          rcases hserves i after with herror | hok
          · exact absurd herror hfails.1
          · rw [follow, hok, hpage]
            simp only [hnext]
            rw [ih fuel (i + 1) _ hfails.2, List.take_succ_cons, List.flatten_cons,
              List.append_assoc]

/-- A reader one of whose requests fails does so too. -/
theorem follow_of_fails (hserves : Serves request store) (h : Pages store after pages) :
    ∀ (fuel i : ℕ) (out : List T), Fails request store fuel i after pages →
      ∃ e, follow request fuel i after out = .error e := by
  induction h with
  | @last after page hpage hlast =>
      rintro fuel i out ⟨k, hfuel, hlength, e, hk⟩
      obtain rfl : k = 0 := Nat.lt_one_iff.mp hlength
      cases fuel with
      | zero => exact absurd hfuel (Nat.lt_irrefl 0)
      | succ fuel =>
          rw [Nat.add_zero] at hk
          exact ⟨e, by rw [follow, show request i after = .error e from hk]⟩
  | @next after page cursor rest hpage hnext _ ih =>
      intro fuel i out hfails
      cases fuel with
      | zero =>
          obtain ⟨k, hfuel, -⟩ := hfails
          exact absurd hfuel (Nat.not_lt_zero k)
      | succ fuel =>
          rcases hserves i after with ⟨e, herror⟩ | hok
          · exact ⟨e, by rw [follow, herror]⟩
          · rcases (fails_next_iff hpage hnext).mp hfails with ⟨e, herror⟩ | hrest
            · rw [hok] at herror
              cases herror
            · rw [follow, hok, hpage]
              simp only [hnext]
              exact ih fuel (i + 1) _ hrest

end Paging

import Mathlib.Algebra.Group.Int.Defs
import Restock.Store.Table

/-!
# Job queues

A queue of jobs under identifiers the producers choose. An add under an identifier that a job of
the queue still carries, in whatever state, is ignored; that is the table's primary key. A job
waits, is taken by a worker, and goes through or fails. A failed job is tried again after a delay
that doubles each time, until its attempts are spent; then it is kept for a while.

* `Job`, `JobQueue`, `JobQueue.add` — the queue and its producers;
* `JobEvent`, `JobQueue.exec` — what the workers and the clock do to it;
* `exec_within` — only an add makes a job live;
* `Apart`, `apart_add_iff` — when an add keeps the live jobs of one group apart.
-/

namespace Store

/-- What the producer of a job asks of the queue. -/
structure JobOptions where
  /-- How often the job is tried. -/
  attempts : ℕ
  /-- The delay of an exponential backoff, in milliseconds. -/
  backoffDelay : ℕ
  /-- A job that went through is removed at once. -/
  removeOnComplete : Bool
  /-- How long a job that failed for good is kept, in seconds. -/
  removeOnFailAge : ℕ
deriving DecidableEq

/-- Where a job is. -/
inductive JobState
  | waiting
  /-- Put off until a time. -/
  | delayed (due : ℤ)
  | active
  /-- Went through, and kept. -/
  | completed
  /-- Failed for good at a time, and kept. -/
  | failed (finishedOn : ℤ)
deriving DecidableEq

/-- A job: its identifier, what it is about, and how far it has got. -/
structure Job (K D : Type) where
  id : K
  data : D
  opts : JobOptions
  attemptsMade : ℕ
  /-- How often its worker was lost. -/
  stalledCount : ℕ
  state : JobState
deriving DecidableEq

instance {K D : Type} : Keyed (Job K D) K := ⟨Job.id⟩

/-- A queue: no two of its jobs share an identifier. -/
abbrev JobQueue (K D : Type) := Table (Job K D)

/-- What happens to the jobs of a queue. -/
inductive JobEvent (K : Type)
  /-- A delay has passed. -/
  | promote (id : K)
  /-- A worker takes a job. -/
  | start (id : K)
  /-- A worker's job goes through. -/
  | complete (id : K)
  /-- A worker's job fails, with an error that may rule further attempts out. -/
  | fail (id : K) (unrecoverable : Bool)
  /-- The worker of a job is lost. -/
  | stall (id : K)
  /-- Kept failures that are old enough are removed. -/
  | sweep
deriving DecidableEq

namespace Job

variable {K D : Type}

/-- The job an add makes. -/
def fresh (id : K) (data : D) (opts : JobOptions) : Job K D :=
  ⟨id, data, opts, 0, 0, .waiting⟩

/-- The job is waiting, delayed or running. -/
def live (j : Job K D) : Bool :=
  match j.state with
  | .waiting | .delayed _ | .active => true
  | .completed | .failed _ => false

/-- The delay of a job has passed. -/
def due (now : ℤ) (j : Job K D) : Bool :=
  match j.state with
  | .delayed due => due ≤ now
  | _ => false

/-- The failure of a job has been kept for long enough. -/
def expired (now : ℤ) (j : Job K D) : Bool :=
  match j.state with
  | .failed finishedOn => finishedOn + 1000 * j.opts.removeOnFailAge ≤ now
  | _ => false

/-- This failure is the last one: no attempt is left, or the error rules them out. -/
def isFinal (j : Job K D) (unrecoverable : Bool) : Bool :=
  unrecoverable || decide (j.opts.attempts ≤ j.attemptsMade + 1)

/-- The job after an attempt that failed. -/
def failed (now : ℤ) (unrecoverable : Bool) (j : Job K D) : Job K D :=
  { j with
    attemptsMade := j.attemptsMade + 1
    state :=
      if j.isFinal unrecoverable then .failed now
      else .delayed (now + 2 ^ j.attemptsMade * j.opts.backoffDelay) }

/-- The job after its worker was lost: back in the queue, until it was lost too often. -/
def stalled (maxStalledCount : ℕ) (now : ℤ) (j : Job K D) : Job K D :=
  { j with
    stalledCount := j.stalledCount + 1
    state := if j.stalledCount < maxStalledCount then .waiting else .failed now }

end Job

namespace JobQueue

variable {K D : Type} [DecidableEq K]

/-- Add a job. An identifier that is taken makes the queue ignore the add. -/
def add (q : JobQueue K D) (id : K) (data : D) (opts : JobOptions) : JobQueue K D :=
  q.insert (.fresh id data opts)

/-- A job of the queue, in whatever state, carries the identifier. -/
def Taken (q : JobQueue K D) (id : K) : Prop :=
  ∃ j ∈ q.rows, j.id = id

instance (q : JobQueue K D) (id : K) : Decidable (q.Taken id) :=
  inferInstanceAs (Decidable (∃ j ∈ q.rows, j.id = id))

/-- What an event does to the queue at a time. -/
def exec (maxStalledCount : ℕ) (now : ℤ) (q : JobQueue K D) : JobEvent K → JobQueue K D
  | .promote id => q.update (fun j => j.id = id ∧ j.due now) fun j => { j with state := .waiting }
  | .start id =>
      q.update (fun j => j.id = id ∧ j.state = .waiting) fun j => { j with state := .active }
  | .complete id =>
      (q.erase fun j => j.id = id ∧ j.state = .active ∧ j.opts.removeOnComplete).update
        (fun j => j.id = id ∧ j.state = .active) fun j => { j with state := .completed }
  | .fail id unrecoverable =>
      q.update (fun j => j.id = id ∧ j.state = .active) (Job.failed now unrecoverable)
  | .stall id =>
      q.update (fun j => j.id = id ∧ j.state = .active) (Job.stalled maxStalledCount now)
  | .sweep => q.erase (Job.expired now)

/-! ### Only an add makes a job live -/

/-- A job as some event left it: the same job, live only if it was live before, and kept as one
that went through only if its options ask for that. -/
structure From (j' j : Job K D) : Prop where
  id : j'.id = j.id
  data : j'.data = j.data
  opts : j'.opts = j.opts
  live : j'.live → j.live
  completed : j'.state = .completed → j.state = .completed ∨ j.opts.removeOnComplete = false

omit [DecidableEq K] in
theorem From.rfl {j : Job K D} : From j j :=
  ⟨Eq.refl _, Eq.refl _, Eq.refl _, fun h => h, Or.inl⟩

/-- Every job of one queue comes of a job of another. -/
def Within (q' q : JobQueue K D) : Prop :=
  ∀ j' ∈ q'.rows, ∃ j ∈ q.rows, From j' j

omit [DecidableEq K] in
/-- Jobs that come of some of the jobs come of the jobs. -/
theorem Within.of_subset {q' q₁ q : JobQueue K D} (h : q'.Within q₁)
    (hsub : ∀ j ∈ q₁.rows, j ∈ q.rows) : q'.Within q := by
  intro j' hj'
  obtain ⟨j, hj, hfrom⟩ := h j' hj'
  exact ⟨j, hsub j hj, hfrom⟩

/-- An update makes jobs of jobs when it does so for the jobs it selects. -/
theorem within_update {q : JobQueue K D} {p : Job K D → Bool} {f : Job K D → Job K D}
    (h : ∀ j ∈ q.rows, p j → From (f j) j) : Within (q.update p f) q := by
  intro j' hj'
  obtain ⟨j, hj, rfl⟩ := List.mem_map.mp hj'
  refine ⟨j, hj, ?_⟩
  split
  · next hp => exact h j hj hp.1
  · exact From.rfl

/-- What happens to the jobs makes no job live that was not, and no new job. -/
theorem exec_within (maxStalledCount : ℕ) (now : ℤ) (q : JobQueue K D) (e : JobEvent K) :
    (q.exec maxStalledCount now e).Within q := by
  cases e with
  | promote id =>
      refine within_update fun j _ hp => ⟨rfl, rfl, rfl, fun _ => ?_, fun h => by cases h⟩
      -- only a delayed job is due
      obtain ⟨-, hdue⟩ := of_decide_eq_true hp
      unfold Job.due at hdue
      unfold Job.live
      split at hdue
      · next h => rw [h]
      · cases hdue
  | start id =>
      refine within_update fun j _ hp => ⟨rfl, rfl, rfl, fun _ => ?_, fun h => by cases h⟩
      rw [Job.live, (of_decide_eq_true hp).2]
  | complete id =>
      refine Within.of_subset (within_update fun j hj hp => ?_) fun j => List.mem_of_mem_filter
      refine ⟨rfl, rfl, rfl, fun h => (by cases h), fun _ => Or.inr ?_⟩
      -- a job whose options ask for removal is no longer there
      by_contra hremove
      obtain ⟨hid, hactive⟩ := of_decide_eq_true hp
      have hgone := (List.mem_filter.mp hj).2
      rw [Bool.not_eq_false] at hremove
      simp [hid, hactive, hremove] at hgone
  | fail id unrecoverable =>
      refine within_update fun j _ hp => ⟨rfl, rfl, rfl, fun _ => ?_, fun h => ?_⟩
      · rw [Job.live, (of_decide_eq_true hp).2]
      · unfold Job.failed at h
        dsimp only at h
        split at h <;> cases h
  | stall id =>
      refine within_update fun j _ hp => ⟨rfl, rfl, rfl, fun _ => ?_, fun h => ?_⟩
      · rw [Job.live, (of_decide_eq_true hp).2]
      · unfold Job.stalled at h
        dsimp only at h
        split at h <;> cases h
  | sweep => exact fun j hj => ⟨j, (List.mem_filter.mp hj).1, From.rfl⟩

/-! ### Adds -/

/-- An add under an identifier that is taken is ignored. -/
theorem add_of_taken {q : JobQueue K D} {id : K} (h : q.Taken id) (data : D)
    (opts : JobOptions) : q.add id data opts = q := by
  obtain ⟨j, hj, rfl⟩ := h
  exact dif_pos (List.mem_map_of_mem hj)

/-- An add under a free identifier puts a waiting job at the end. -/
theorem rows_add_of_free {q : JobQueue K D} {id : K} (h : ¬ q.Taken id) (data : D)
    (opts : JobOptions) : (q.add id data opts).rows = q.rows ++ [.fresh id data opts] := by
  refine Table.rows_insert (Table.find_eq_none.mpr fun j hj hid => h ⟨j, hj, hid⟩)

/-- The jobs after an add: those there were, and perhaps the new one. -/
theorem mem_add {q : JobQueue K D} {id : K} {data : D} {opts : JobOptions} {j : Job K D}
    (h : j ∈ (q.add id data opts).rows) : j ∈ q.rows ∨ j = .fresh id data opts :=
  Table.mem_insert h

/-! ### Keeping the live jobs of a group apart -/

section Apart

variable (same : D → D → Prop)

/-- No two live jobs are about the same thing. -/
def Apart (q : JobQueue K D) : Prop :=
  ∀ j ∈ q.rows, ∀ j' ∈ q.rows, j.live → j'.live → same j.data j'.data → j.id = j'.id

/-- A live job is about the same thing. -/
def Busy (q : JobQueue K D) (data : D) : Prop :=
  ∃ j ∈ q.rows, j.live ∧ same j.data data

instance [DecidableRel same] (q : JobQueue K D) : Decidable (q.Apart same) :=
  inferInstanceAs (Decidable (∀ j ∈ q.rows, ∀ j' ∈ q.rows, _ → _ → _ → _))

instance [DecidableRel same] (q : JobQueue K D) (data : D) : Decidable (q.Busy same data) :=
  inferInstanceAs (Decidable (∃ j ∈ q.rows, _))

variable {same}

omit [DecidableEq K] in
/-- An event that makes no job live keeps them apart. -/
theorem Apart.of_within {q q' : JobQueue K D} (h : q.Apart same) (hwithin : q'.Within q) :
    q'.Apart same := by
  intro j₁ hj₁ j₂ hj₂ hlive₁ hlive₂ hsame
  obtain ⟨i₁, hi₁, hfrom₁⟩ := hwithin j₁ hj₁
  obtain ⟨i₂, hi₂, hfrom₂⟩ := hwithin j₂ hj₂
  rw [hfrom₁.id, hfrom₂.id]
  rw [hfrom₁.data, hfrom₂.data] at hsame
  exact h i₁ hi₁ i₂ hi₂ (hfrom₁.live hlive₁) (hfrom₂.live hlive₂) hsame

/-- An add keeps the live jobs apart exactly when one about the same thing that is live means that
the identifier is taken. -/
theorem apart_add_iff (hsymm : ∀ {d d'}, same d d' → same d' d) {q : JobQueue K D}
    (h : q.Apart same) {id : K} {data : D} {opts : JobOptions} :
    (q.add id data opts).Apart same ↔ (q.Busy same data → q.Taken id) := by
  by_cases htaken : q.Taken id
  · rw [add_of_taken htaken]
    exact iff_of_true h fun _ => htaken
  · have hrows := rows_add_of_free htaken data opts
    have hnew : Job.fresh id data opts ∈ (q.add id data opts).rows := by
      rw [hrows]
      exact List.mem_append_right _ (List.mem_singleton_self _)
    constructor
    · -- a live job about the same thing would be the new one
      rintro hapart ⟨j, hj, hlive, hsame⟩
      refine ⟨j, hj, hapart j ?_ _ hnew hlive rfl hsame⟩
      rw [hrows]
      exact List.mem_append_left _ hj
    · intro hbusy j₁ hj₁ j₂ hj₂ hlive₁ hlive₂ hsame
      rcases mem_add hj₁ with hj₁ | rfl <;> rcases mem_add hj₂ with hj₂ | rfl
      · exact h j₁ hj₁ j₂ hj₂ hlive₁ hlive₂ hsame
      · exact absurd (hbusy ⟨j₁, hj₁, hlive₁, hsame⟩) htaken
      · exact absurd (hbusy ⟨j₂, hj₂, hlive₂, hsymm hsame⟩) htaken
      · rfl

/-- When nothing about the same thing is live, an add makes a job live exactly when its identifier
is free. -/
theorem busy_add_iff {q : JobQueue K D} {id : K} {data : D} {opts : JobOptions}
    (hidle : ¬ q.Busy same data) (hself : same data data) :
    (q.add id data opts).Busy same data ↔ ¬ q.Taken id := by
  by_cases htaken : q.Taken id
  · rw [add_of_taken htaken]
    exact iff_of_false hidle (not_not_intro htaken)
  · refine iff_of_true ⟨.fresh id data opts, ?_, rfl, hself⟩ htaken
    rw [rows_add_of_free htaken]
    exact List.mem_append_right _ (List.mem_singleton_self _)

end Apart

end JobQueue

end Store

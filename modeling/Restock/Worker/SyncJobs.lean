import Mathlib.Data.List.Nodup

/-!
# Sync jobs, one at a time

`packages/queue/src/index.ts`: a sync of a tenant and source is a job under an identifier made of
the two. An add under an identifier that is taken does nothing, so there is never a second job.
Before it adds, a caller looks the job up, asks for its state and removes it when it has finished;
between any two of these the queue may have gone on.

* `syncJobId`, `SyncJob.advance` — the identifier, and what becomes of a job;
* `Syncs.step` — the next step of a call of `enqueueSyncOnce`, or of a job's life;
* `Syncs.Truthful` — one job at most, as many calls that report a job as jobs that were created, and
  no job removed before it has run;
* `Syncs.undisturbed` — a call adds, or removes, with no newer job in its way;
* `truthful_of_undisturbed` — runs of such steps are truthful;
* `not_truthful` — of two callers at once both report a job, and one removes the other's.
-/

namespace Restock.Worker

/-! ## Jobs -/

/-- `SyncJobData`. -/
structure SyncJobData where
  tenantId : String
  source : String
  deriving DecidableEq, Repr

/-- Deterministic per-tenant job id. -/
def syncJobId (data : SyncJobData) : String :=
  "sync:" ++ data.tenantId ++ ":" ++ data.source

/-- Retry budget for a sync job. -/
def SYNC_ATTEMPTS : ℕ := 6

/-- The states a sync job is in. -/
inductive SyncJobState
  | waiting
  | active
  /-- Waits out a backoff. -/
  | delayed
  | completed
  | failed
  deriving DecidableEq, Repr

/-- The state of a job as `getState` writes it; there may be no job any more. -/
def stateText : Option SyncJobState → String
  | some .waiting => "waiting"
  | some .active => "active"
  | some .delayed => "delayed"
  | some .completed => "completed"
  | some .failed => "failed"
  | none => "unknown"

/-- A job of the queue. -/
structure SyncJob where
  jobId : String
  data : SyncJobData
  attempts : ℕ := SYNC_ATTEMPTS
  attemptsMade : ℕ := 0
  state : SyncJobState := .waiting
  /-- It is the job of this number that was created; zero for one that was there before. -/
  number : ℕ
  deriving DecidableEq, Repr

/-- The job has run, to its end. -/
def SyncJob.finished (job : SyncJob) : Bool :=
  job.state = .completed || job.state = .failed

/-- What happens to a job, but for the calls. -/
inductive SyncJobEvent
  /-- A worker takes it. -/
  | start
  | complete
  /-- An attempt fails; the error may rule further attempts out. -/
  | fail (unrecoverable : Bool)
  /-- The backoff has passed. -/
  | promote
  /-- Its worker is lost, for the last time or not. -/
  | stall (last : Bool)
  /-- A finished job is removed. -/
  | autoRemove
  deriving DecidableEq, Repr

/-- The job after an event; nothing when it is gone. -/
def SyncJob.advance (e : SyncJobEvent) (job : SyncJob) : Option SyncJob :=
  match e, job.state with
  | .start, .waiting => some { job with state := .active }
  | .complete, .active => some { job with state := .completed }
  | .fail unrecoverable, .active =>
      some { job with
        attemptsMade := job.attemptsMade + 1
        state := if unrecoverable ∨ job.attempts ≤ job.attemptsMade + 1 then .failed else .delayed }
  | .promote, .delayed => some { job with state := .waiting }
  | .stall last, .active => some { job with state := if last then .failed else .waiting }
  | .autoRemove, .completed => none
  | .autoRemove, .failed => none
  | _, _ => some job

/-- A job that goes on keeps its identifier and its number, and once it has finished it stays so. -/
theorem SyncJob.advance_spec {e : SyncJobEvent} {job job' : SyncJob}
    (h : job.advance e = some job') :
    job'.jobId = job.jobId ∧ job'.number = job.number ∧ (job.finished → job'.finished) := by
  unfold SyncJob.advance at h
  split at h
  -- only a job that waits, runs or waits out a backoff changes its state
  case h_6 => simp at h
  case h_7 => simp at h
  case h_8 =>
    obtain rfl := Option.some.inj h
    exact ⟨rfl, rfl, id⟩
  all_goals
    next hstate =>
      obtain rfl := Option.some.inj h
      exact ⟨rfl, rfl, fun hfinished => by simp [SyncJob.finished, hstate] at hfinished⟩

/-! ## Callers at once -/

/-- `EnqueueResult`. -/
inductive EnqueueResult
  | enqueued (jobId : String)
  | refused (jobId state : String)
  deriving DecidableEq, Repr

/-- The result says that a job was enqueued. -/
def EnqueueResult.isEnqueued : EnqueueResult → Bool
  | .enqueued _ => true
  | .refused _ _ => false

/-- What a call of `enqueueSyncOnce` does next. -/
inductive SyncPhase
  /-- `getJob`. -/
  | start
  /-- `getState` of the job that was found. -/
  | getState
  /-- `remove` of a job that has finished. -/
  | remove
  /-- `add`. -/
  | add
  | done (result : EnqueueResult)
  /-- A job that is locked by its worker cannot be removed. -/
  | threw
  deriving DecidableEq, Repr

/-- A call of `enqueueSyncOnce`. -/
structure SyncCall where
  phase : SyncPhase := .start
  /-- How many jobs had been created when it looked the job up. -/
  lookedUp : ℕ := 0
  deriving DecidableEq, Repr

/-- The queue, and all calls for one tenant and source. -/
structure Syncs where
  jobs : List SyncJob
  /-- How many jobs the calls have created. -/
  created : ℕ := 0
  calls : ℕ → SyncCall := fun _ => {}
  /-- The calls that returned, with their results. -/
  returned : List (ℕ × EnqueueResult) := []
  /-- The jobs that calls removed, as they were. -/
  removed : List SyncJob := []

/-- What happens next. -/
inductive SyncStep
  | getJob (i : ℕ)
  | getState (i : ℕ)
  | remove (i : ℕ)
  | add (i : ℕ)
  /-- A job of the queue goes on. -/
  | job (jobId : String) (e : SyncJobEvent)
  deriving DecidableEq, Repr

namespace Syncs

/-- The call `i` goes on. -/
def set (s : Syncs) (i : ℕ) (c : SyncCall) : Syncs :=
  { s with calls := Function.update s.calls i c }

/-- The call `i` returns. -/
def finish (s : Syncs) (i : ℕ) (result : EnqueueResult) : Syncs :=
  { s.set i { s.calls i with phase := .done result } with
    returned := s.returned ++ [(i, result)] }

variable (data : SyncJobData)

/-- The jobs of the tenant and source. -/
def own (s : Syncs) : List SyncJob :=
  s.jobs.filter fun job => job.jobId = syncJobId data

/-- A step of a call, or of a job. -/
def step (s : Syncs) : SyncStep → Syncs
  | .getJob i =>
      match (s.calls i).phase with
      | .start =>
          let phase := if (s.own data).head?.isSome then .getState else .add
          s.set i { phase, lookedUp := s.created }
      | _ => s
  | .getState i =>
      match (s.calls i).phase with
      | .getState =>
          let state := (s.own data).head?.map SyncJob.state
          if state = some .completed ∨ state = some .failed then
            s.set i { s.calls i with phase := .remove }
          else s.finish i (.refused (syncJobId data) (stateText state))
      | _ => s
  | .remove i =>
      match (s.calls i).phase with
      | .remove =>
          if (s.own data).head?.map SyncJob.state = some .active then
            s.set i { s.calls i with phase := .threw }
          else
            { s.set i { s.calls i with phase := .add } with
              jobs := s.jobs.filter fun job => job.jobId ≠ syncJobId data
              removed := s.removed ++ s.own data }
      | _ => s
  | .add i =>
      match (s.calls i).phase with
      | .add =>
          let s' := s.finish i (.enqueued (syncJobId data))
          -- an add under an identifier that is taken does nothing
          if s.own data = [] then
            { s' with
              jobs := s.jobs ++ [{ jobId := syncJobId data, data, number := s.created + 1 }]
              created := s.created + 1 }
          else s'
      | _ => s
  | .job jobId e =>
      { s with jobs := s.jobs.filterMap fun job =>
          if job.jobId = jobId then job.advance e else some job }

/-- A run. -/
def run (s : Syncs) (steps : List SyncStep) : Syncs :=
  steps.foldl (step data) s

/-- There is one job at most, as many calls say that they enqueued one as jobs were created, and a
job that was created and removed by a call had run. -/
structure Truthful (s : Syncs) : Prop where
  one : (s.own data).length ≤ 1
  once : (s.returned.map Prod.fst).Nodup
  counted : (s.returned.filter fun r => r.2.isEnqueued).length = s.created
  ran : ∀ job ∈ s.removed, 0 < job.number → job.finished

/-- Where a call adds, no job that was created since its lookup is there; where it removes, no such
job waits for a worker or for another attempt. -/
def undisturbed (s : Syncs) : SyncStep → Bool
  | .add i => (s.own data).all fun job => job.number ≤ (s.calls i).lookedUp
  | .remove i => (s.own data).all fun job =>
      job.number ≤ (s.calls i).lookedUp || job.state = .active || job.finished
  | _ => true

/-- A run of undisturbed steps. -/
def UndisturbedRun : Syncs → List SyncStep → Prop
  | _, [] => True
  | s, e :: steps => s.undisturbed data e ∧ (s.step data e).UndisturbedRun steps

instance decidableUndisturbedRun :
    (s : Syncs) → (steps : List SyncStep) → Decidable (s.UndisturbedRun data steps)
  | _, [] => .isTrue trivial
  | s, e :: steps =>
      have := decidableUndisturbedRun (s.step data e) steps
      inferInstanceAs (Decidable (_ ∧ _))

/-! ## What is kept -/

/-- What undisturbed steps keep, beside what is claimed of every state: a call that is about to add
looked before any job that is there was created; a call that is about to remove a job from before
its lookup found it finished; and a call that returned is done. -/
structure Kept (s : Syncs) : Prop extends s.Truthful data where
  looked : ∀ i, (s.calls i).lookedUp ≤ s.created
  adding : ∀ i, (s.calls i).phase = .add → ∀ job ∈ s.own data, (s.calls i).lookedUp < job.number
  removing : ∀ i, (s.calls i).phase = .remove →
    ∀ job ∈ s.own data, job.number ≤ (s.calls i).lookedUp → job.finished
  ended : ∀ r ∈ s.returned, ∃ result, (s.calls r.1).phase = .done result

section Calls

variable {data} {s : Syncs} {i : ℕ} {c : SyncCall}

@[simp] theorem calls_set_self : (s.set i c).calls i = c := Function.update_self ..

theorem calls_set_of_ne {j : ℕ} (h : j ≠ i) : (s.set i c).calls j = s.calls j :=
  Function.update_of_ne h ..

/-- A property that all calls have and the one that goes on keeps. -/
theorem forall_calls_set {p : ℕ → SyncCall → Prop} (h : ∀ j, p j (s.calls j)) (hc : p i c) (j : ℕ) :
    p j ((s.set i c).calls j) := by
  by_cases hj : j = i
  · rw [hj, calls_set_self]
    exact hc
  · rw [calls_set_of_ne hj]
    exact h j

/-- A call that has not returned is not among those that did. -/
theorem Kept.not_returned (h : s.Kept data) (hphase : ∀ result, (s.calls i).phase ≠ .done result) :
    i ∉ s.returned.map Prod.fst := by
  rw [List.mem_map]
  rintro ⟨r, hr, rfl⟩
  obtain ⟨result, hdone⟩ := h.ended r hr
  exact hphase result hdone

/-- A call goes on, on the queue as it is. -/
theorem Kept.set (h : s.Kept data) (hphase : ∀ result, (s.calls i).phase ≠ .done result)
    (hlooked : c.lookedUp ≤ s.created)
    (hadd : c.phase = .add → ∀ job ∈ s.own data, c.lookedUp < job.number)
    (hremove : c.phase = .remove →
      ∀ job ∈ s.own data, job.number ≤ c.lookedUp → job.finished) :
    (s.set i c).Kept data where
  one := h.one
  once := h.once
  counted := h.counted
  ran := h.ran
  looked := forall_calls_set (p := fun _ b => b.lookedUp ≤ s.created) h.looked hlooked
  adding := forall_calls_set
    (p := fun _ b => b.phase = .add → ∀ job ∈ s.own data, b.lookedUp < job.number) h.adding hadd
  removing := forall_calls_set (p := fun _ b => b.phase = .remove →
    ∀ job ∈ s.own data, job.number ≤ b.lookedUp → job.finished) h.removing hremove
  ended r hr := by
    have hne : r.1 ≠ i := fun heq =>
      h.not_returned hphase (heq ▸ List.mem_map_of_mem (f := Prod.fst) hr)
    rw [calls_set_of_ne hne]
    exact h.ended r hr

/-- A call returns once. -/
theorem Kept.once_finish (h : s.Kept data) {result : EnqueueResult}
    (hphase : ∀ result, (s.calls i).phase ≠ .done result) :
    ((s.finish i result).returned.map Prod.fst).Nodup := by
  show ((s.returned ++ [(i, result)]).map Prod.fst).Nodup
  rw [List.map_append]
  exact h.once.append (List.nodup_singleton _)
    (List.disjoint_singleton.mpr (h.not_returned hphase))

/-- A call that returns is done. -/
theorem Kept.ended_finish (h : s.Kept data) {result : EnqueueResult}
    (hphase : ∀ result, (s.calls i).phase ≠ .done result) :
    ∀ r ∈ (s.finish i result).returned,
      ∃ result', ((s.finish i result).calls r.1).phase = .done result' := by
  have hset := h.set (c := { s.calls i with phase := .done result }) hphase (h.looked i)
    (fun hadd => SyncPhase.noConfusion hadd) fun hremove => SyncPhase.noConfusion hremove
  intro r hr
  rcases List.mem_append.mp hr with hr | hr
  · exact hset.ended r hr
  · obtain rfl := List.mem_singleton.mp hr
    exact ⟨result, congrArg SyncCall.phase calls_set_self⟩

/-- A call that refuses returns, on the queue as it is. -/
theorem Kept.finish (h : s.Kept data) {result : EnqueueResult}
    (hphase : ∀ result, (s.calls i).phase ≠ .done result) (hresult : result.isEnqueued = false) :
    (s.finish i result).Kept data := by
  have hset := h.set (c := { s.calls i with phase := .done result }) hphase (h.looked i)
    (fun hadd => SyncPhase.noConfusion hadd) fun hremove => SyncPhase.noConfusion hremove
  exact {
    one := h.one
    once := h.once_finish hphase
    counted := by
      show ((s.returned ++ [(i, result)]).filter _).length = s.created
      rw [List.filter_append, List.length_append, h.counted]
      simp [hresult]
    ran := h.ran
    looked := hset.looked
    adding := hset.adding
    removing := hset.removing
    ended := h.ended_finish hphase }

/-- The jobs may go on, or go. -/
theorem Kept.advance (h : s.Kept data) (jobs removed : List SyncJob)
    (hlength : (({ s with jobs } : Syncs).own data).length ≤ (s.own data).length)
    (hfrom : ∀ job' ∈ ({ s with jobs } : Syncs).own data, ∃ job ∈ s.own data,
      job'.number = job.number ∧ (job.finished → job'.finished))
    (hremoved : ∀ job ∈ removed, job.finished) :
    ({ s with jobs, removed := s.removed ++ removed } : Syncs).Kept data where
  one := Nat.le_trans hlength h.one
  once := h.once
  counted := h.counted
  ran job hjob hpos := by
    rcases List.mem_append.mp hjob with hjob | hjob
    · exact h.ran job hjob hpos
    · exact hremoved job hjob
  looked := h.looked
  adding i hi job' hjob' := by
    obtain ⟨job, hjob, hnumber, -⟩ := hfrom job' hjob'
    rw [hnumber]
    exact h.adding i hi job hjob
  removing i hi job' hjob' hle := by
    obtain ⟨job, hjob, hnumber, hfinished⟩ := hfrom job' hjob'
    rw [hnumber] at hle
    exact hfinished (h.removing i hi job hjob hle)
  ended := h.ended

/-- Every kept job comes from one, and no more of them satisfy a test that it satisfied before. -/
theorem length_filter_filterMap_le {α β : Type} {p : β → Bool} {q : α → Bool} {f : α → Option β}
    (h : ∀ a b, f a = some b → p b = true → q a = true) (xs : List α) :
    ((xs.filterMap f).filter p).length ≤ (xs.filter q).length := by
  rw [← List.countP_eq_length_filter, ← List.countP_eq_length_filter, List.countP_filterMap]
  refine List.countP_mono_left fun a _ ha => ?_
  cases hf : f a with
  | none => simp [hf] at ha
  | some b => exact h a b hf (by simpa [hf] using ha)

/-- The life of a job, of this tenant and source or of others. -/
theorem Kept.job (h : s.Kept data) (jobId : String) (e : SyncJobEvent) :
    (s.step data (.job jobId e)).Kept data := by
  -- what a job of the queue becomes keeps its identifier, its number and its end
  have hspec : ∀ job job' : SyncJob,
      (if job.jobId = jobId then job.advance e else some job) = some job' →
        job'.jobId = job.jobId ∧ job'.number = job.number ∧ (job.finished → job'.finished) := by
    intro job job' hjob
    split at hjob
    · exact SyncJob.advance_spec hjob
    · obtain rfl := Option.some.inj hjob
      exact ⟨rfl, rfl, id⟩
  have hkept := h.advance (s.jobs.filterMap fun job =>
    if job.jobId = jobId then job.advance e else some job) [] ?_ ?_ (by simp)
  · rw [List.append_nil] at hkept
    exact hkept
  · refine length_filter_filterMap_le (fun job job' hjob hown => ?_) s.jobs
    rw [← (hspec job job' hjob).1]
    exact hown
  · intro job' hjob'
    obtain ⟨hmem, hown⟩ := List.mem_filter.mp hjob'
    obtain ⟨job, hjob, hbecomes⟩ := List.mem_filterMap.mp hmem
    obtain ⟨hid, hnumber, hfinished⟩ := hspec job job' hbecomes
    exact ⟨job, List.mem_filter.mpr ⟨hjob, hid ▸ hown⟩, hnumber, hfinished⟩

/-- The first of the jobs of the tenant and source is the only one. -/
theorem Kept.own_eq (h : s.Kept data) : s.own data = [] ∨ ∃ job, s.own data = [job] := by
  have hone := h.one
  match hjobs : s.own data with
  | [] => exact .inl rfl
  | [job] => exact .inr ⟨job, rfl⟩
  | _ :: _ :: _ => simp [hjobs] at hone

attribute [local simp] step SyncJob.finished

/-- A call that finds no job is about to add, to an empty queue. -/
theorem Kept.getJob (h : s.Kept data) : (s.step data (.getJob i)).Kept data := by
  simp only [step]
  split
  · next hphase =>
    refine h.set (by simp [hphase]) (Nat.le_refl _) ?_ ?_
    · intro hadd job hjob
      rcases h.own_eq with hnone | ⟨job', hjob'⟩
      · rw [hnone] at hjob
        exact absurd hjob List.not_mem_nil
      · simp [hjob'] at hadd
    · intro hremove
      split at hremove <;> exact SyncPhase.noConfusion hremove
  · exact h

/-- A call that is told of a job's end is about to remove it. -/
theorem Kept.getState (h : s.Kept data) : (s.step data (.getState i)).Kept data := by
  simp only [step]
  split
  · next hphase =>
    split
    · next hstate =>
      refine h.set (by simp [hphase]) (h.looked i) (fun hadd => SyncPhase.noConfusion hadd) ?_
      intro _ job hjob _
      rcases h.own_eq with hnone | ⟨job', hjob'⟩
      · rw [hnone] at hjob
        exact absurd hjob List.not_mem_nil
      · rw [hjob', List.mem_singleton] at hjob
        subst hjob
        simpa [hjob'] using hstate
    · exact h.finish (by simp [hphase]) rfl
  · exact h

/-- A call removes what has finished, for it is either the job that it found finished, or a newer
one that has run too; a job that runs it cannot remove. -/
theorem Kept.remove (h : s.Kept data) (hstep : s.undisturbed data (.remove i) = true) :
    (s.step data (.remove i)).Kept data := by
  simp only [step]
  split
  · next hphase =>
    split
    · exact h.set (by simp [hphase]) (h.looked i) (fun hadd => SyncPhase.noConfusion hadd)
        fun hremove => SyncPhase.noConfusion hremove
    · next hactive =>
      have hfinished : ∀ job ∈ s.own data, job.finished := by
        intro job hjob
        have hfree := List.all_eq_true.mp hstep job hjob
        rcases h.own_eq with hnone | ⟨job', hjob'⟩
        · rw [hnone] at hjob
          exact absurd hjob List.not_mem_nil
        · rw [hjob', List.mem_singleton] at hjob
          subst hjob
          simp only [hjob', List.head?_cons, Option.map_some, Option.some.injEq] at hactive
          simp only [hactive, decide_false, Bool.or_false, Bool.or_eq_true,
            decide_eq_true_eq] at hfree
          exact hfree.elim (h.removing i hphase job (hjob' ▸ List.mem_singleton_self job)) id
      have hgone : ({ s with jobs := s.jobs.filter fun job => job.jobId ≠ syncJobId data } :
          Syncs).own data = [] := by
        simp [own, List.filter_filter]
      have hkept := h.advance (s.jobs.filter fun job => job.jobId ≠ syncJobId data)
        (s.own data) (hgone ▸ Nat.zero_le _)
        (fun job hjob => absurd (hgone ▸ hjob) List.not_mem_nil) hfinished
      refine hkept.set (i := i) (by simp [hphase]) (h.looked i) (fun _ job hjob => ?_)
        fun hremove => SyncPhase.noConfusion hremove
      exact absurd (hgone ▸ hjob) List.not_mem_nil
  · exact h

/-- A call that adds creates a job: what was there when it looked is gone, and nothing newer is in
its way. -/
theorem Kept.add (h : s.Kept data) (hstep : s.undisturbed data (.add i) = true) :
    (s.step data (.add i)).Kept data := by
  simp only [step]
  split
  · next hphase =>
    have hnone : s.own data = [] := by
      rw [List.eq_nil_iff_forall_not_mem]
      intro job hjob
      have hfree : job.number ≤ (s.calls i).lookedUp := by
        simpa using List.all_eq_true.mp hstep job hjob
      exact Nat.not_lt_of_le hfree (h.adding i hphase job hjob)
    rw [if_pos hnone]
    have hundone : ∀ result, (s.calls i).phase ≠ .done result := by simp [hphase]
    have hset := h.set (c := { s.calls i with phase := .done (.enqueued (syncJobId data)) })
      hundone (h.looked i) (fun hadd => SyncPhase.noConfusion hadd)
      fun hremove => SyncPhase.noConfusion hremove
    set new : SyncJob := { jobId := syncJobId data, data, number := s.created + 1 } with hnewJob
    have hown : ({ s with jobs := s.jobs ++ [new] } : Syncs).own data = [new] := by
      have hnone : (s.jobs.filter fun job => job.jobId = syncJobId data) = [] := hnone
      rw [own, List.filter_append, hnone]
      simp [hnewJob]
    -- the job that was created is newer than every lookup
    have hnew : ∀ (j : ℕ) (job : SyncJob),
        job ∈ ({ s with jobs := s.jobs ++ [new] } : Syncs).own data →
          ((s.finish i (.enqueued (syncJobId data))).calls j).lookedUp < job.number := by
      intro j job hjob
      rw [hown, List.mem_singleton] at hjob
      subst hjob
      exact Nat.lt_succ_of_le (hset.looked j)
    exact {
      one := Nat.le_of_eq (congrArg List.length hown)
      once := h.once_finish hundone
      counted := by
        show ((s.returned ++ [_]).filter _).length = s.created + 1
        rw [List.filter_append, List.length_append, h.counted]
        rfl
      ran := h.ran
      looked := fun j => Nat.le_succ_of_le (hset.looked j)
      adding := fun j _ job hjob => hnew j job hjob
      removing := fun j _ job hjob hle => absurd (hnew j job hjob) (Nat.not_lt_of_le hle)
      ended := h.ended_finish hundone }
  · exact h

/-- An undisturbed step keeps it all. -/
theorem Kept.step (h : s.Kept data) {e : SyncStep} (hstep : s.undisturbed data e = true) :
    (s.step data e).Kept data := by
  match e with
  | .getJob i => exact h.getJob
  | .getState i => exact h.getState
  | .remove i => exact h.remove hstep
  | .add i => exact h.add hstep
  | .job jobId e => exact h.job jobId e

/-- An undisturbed run keeps it all. -/
theorem Kept.run (h : s.Kept data) {steps : List SyncStep} (hrun : s.UndisturbedRun data steps) :
    (s.run data steps).Kept data := by
  induction steps generalizing s with
  | nil => exact h
  | cons e steps ih => exact ih (h.step hrun.1) hrun.2

/-- At first no call has begun; a job may be there. -/
theorem Kept.start {jobs : List SyncJob}
    (h : (jobs.filter fun job => job.jobId = syncJobId data).length ≤ 1) :
    ({ jobs } : Syncs).Kept data where
  one := h
  once := List.nodup_nil
  counted := rfl
  ran _ hjob := absurd hjob List.not_mem_nil
  looked _ := Nat.le_refl _
  adding _ hi := SyncPhase.noConfusion hi
  removing _ hi := SyncPhase.noConfusion hi
  ended _ hr := absurd hr List.not_mem_nil

end Calls

/-! ## Truthful reports -/

/-- **Truthful reports.** From a queue with one job of the tenant and source at most, in every run
in which no job that was created since a call's lookup is there when it adds, or waits there when it
removes: there is one job at most, as many calls report a job as jobs were created, and no job that
was created is removed by a call before it has run. -/
theorem truthful_of_undisturbed (data : SyncJobData) (jobs : List SyncJob)
    (hjobs : (jobs.filter fun job => job.jobId = syncJobId data).length ≤ 1)
    (steps : List SyncStep) (h : ({ jobs } : Syncs).UndisturbedRun data steps) :
    (({ jobs } : Syncs).run data steps).Truthful data :=
  ((Kept.start hjobs).run h).toTruthful

/-- The shop of a tenant, as a source of syncs. -/
def shopSync : SyncJobData where
  tenantId := "t-overlap"
  source := "shopify"

/-- A job that was kept when it failed. -/
def failedSync : SyncJob where
  jobId := syncJobId shopSync
  data := shopSync
  state := .failed
  number := 0

/-- A call that replaces a failed job while two others are refused, and a call after that job has
run. -/
theorem truthful_replaced :
    (({ jobs := [failedSync] } : Syncs).run shopSync
      [.getJob 0, .getState 0, .getJob 1, .remove 0, .getState 1, .add 0, .getJob 2, .getState 2,
        .job "sync:t-overlap:shopify" .start, .job "sync:t-overlap:shopify" .complete,
        .job "sync:t-overlap:shopify" .autoRemove, .getJob 3, .add 3]).Truthful shopSync :=
  truthful_of_undisturbed _ _ (by decide) _ (by decide)

/-- Not every run is truthful. Of two calls that find no job both report one, and one job is
created. Of two calls that find a job finished, the second removes the job that the first has
created for it, before any worker took it. -/
theorem not_truthful :
    ¬ (({ jobs := [] } : Syncs).run shopSync
        [.getJob 0, .getJob 1, .add 0, .add 1]).Truthful shopSync ∧
      ¬ (({ jobs := [] } : Syncs).run shopSync
        [.getJob 0, .add 0, .job "sync:t-overlap:shopify" .start,
          .job "sync:t-overlap:shopify" .complete, .getJob 1, .getState 1, .getJob 2, .getState 2,
          .remove 1, .add 1, .remove 2]).Truthful shopSync := by
  refine ⟨fun h => ?_, fun h => ?_⟩
  · exact absurd h.counted (by decide)
  · exact absurd h.ran (by decide)

end Syncs

end Restock.Worker

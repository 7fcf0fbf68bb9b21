import Restock.Forecast.Clock
import Restock.Series.Loops
import Restock.Store.JobQueue

/-!
# The forecast queue

`apps/worker/src/forecast-cron.ts` and the `onCatalogueReady` of `apps/worker/src/worker.ts`: who
adds forecast jobs to the queue, under which identifiers, and what becomes of the runs of one
workspace.

* `forecastJobId`, `enqueuePerTenant`, `dispatchForecasts`, `onCatalogueReady` — the producers;
* `step` — the worker process over time, an add at a time;
* `Unblocked` — a firing finds the workspace's day clear;
* `runs_enqueued_and_apart_iff` — idle workspaces get their runs and no two runs of one workspace
  are live at once, along a run in which every firing is unblocked, and along no other.
-/

namespace Restock.Worker

open Restock.Forecast (dayKeyOf isoMonth)
open Series (Along)
open Store (JobEvent JobOptions JobQueue)

/-! ## Jobs -/

/-- What the fan-out reads of a workspace. -/
structure Tenant where
  id : String
  isSystem : Bool

/-- The jobs that are queued for one workspace. -/
inductive JobName
  | forecastTenant
  | backtestTenant
deriving DecidableEq

/-- A job identifier. It is the text of the kind, the workspace and the run key, joined by colons;
a run key of a kind has a fixed width, so the text tells the three. -/
inductive JobId
  | forecast (tenantId : String) (runKey : ℤ)
  | backtest (tenantId : String) (runKey : String)
deriving DecidableEq

/-- The name and the data of a job. -/
structure JobData where
  name : JobName
  tenantId : String
deriving DecidableEq

/-- Three attempts, minutes apart, and a failure is kept. -/
def FORECAST_JOB_OPTIONS : JobOptions where
  attempts := 3
  backoffDelay := 300000
  removeOnComplete := true
  removeOnFailAge := 7 * 24 * 60 * 60

/-- Per-tenant job id: the queue ignores an `add` whose id is taken. -/
def forecastJobId (tenantId : String) (runKey : ℤ) : JobId :=
  .forecast tenantId runKey

def backtestJobId (tenantId : String) (runKey : String) : JobId :=
  .backtest tenantId runKey

/-- The UTC day of a date, as its midnight. -/
def dayKey (d : ℤ) : ℤ :=
  dayKeyOf d

/-- The UTC month of a date. -/
def monthKey (d : ℤ) : String :=
  isoMonth d

/-- The minute is 7 and the hour a multiple of 6. -/
def FORECAST_PATTERN (d : ℤ) : Prop :=
  d / 60000 % 60 = 7 ∧ d / 3600000 % 24 % 6 = 0

instance (d : ℤ) : Decidable (FORECAST_PATTERN d) :=
  inferInstanceAs (Decidable (_ ∧ _))

/-! ## Producers -/

/-- A loop of awaited adds that is under way: the identifiers were settled when it began, the
workspaces are those whose job is still to be added. -/
structure FanOut where
  jobName : JobName
  jobId : String → JobId
  tenants : List String

/-- One job for every customer workspace. -/
def enqueuePerTenant (tenants : List Tenant) (jobName : JobName) (jobId : String → JobId) :
    FanOut where
  jobName := jobName
  jobId := jobId
  tenants := (tenants.filter fun tenant => !tenant.isSystem).map Tenant.id

/-- Fan the dispatch out into one job per tenant. -/
def dispatchForecasts (tenants : List Tenant) (now : ℤ) : FanOut :=
  let key := dayKey now
  enqueuePerTenant tenants .forecastTenant fun id => forecastJobId id key

/-- Fan the monthly backtest dispatch out into one job per tenant. -/
def dispatchBacktests (tenants : List Tenant) (now : ℤ) : FanOut :=
  let key := monthKey now
  enqueuePerTenant tenants .backtestTenant fun id => backtestJobId id key

/-- The first sync of a store adds the job of the day it happens on. -/
def onCatalogueReady (tenantId : String) (now : ℤ) : FanOut where
  jobName := .forecastTenant
  jobId := fun tenantId => forecastJobId tenantId (dayKey now)
  tenants := [tenantId]

/-! ## The process over time -/

/-- The clock, the queue and the loops of adds under way. -/
structure Process where
  now : ℤ
  queue : JobQueue JobId JobData
  fanOuts : List FanOut

/-- What can happen next. -/
inductive Event
  /-- Time passes. -/
  | wait (milliseconds : ℕ)
  /-- A dispatch reads the workspaces and settles the day. -/
  | dispatchForecasts (tenants : List Tenant)
  | dispatchBacktests (tenants : List Tenant)
  /-- A catalogue is ready for its first forecast. -/
  | onCatalogueReady (tenantId : String)
  /-- The next add of a loop under way reaches the queue. A loop that breaks off has no further
  adds. -/
  | add (i : ℕ)
  /-- A worker, a delay or a removal moves a job. -/
  | job (e : JobEvent JobId)

/-- How often the queue lets a job lose its worker. -/
def maxStalledCount : ℕ := 1

namespace Process

/-- The process before any job was added. -/
def start (now : ℤ) : Process :=
  ⟨now, Store.Table.empty, []⟩

/-- The next add of a loop under way: its loop, the workspace, and the workspaces after that. -/
def nextAdd (s : Process) (i : ℕ) : Option (FanOut × String × List String) :=
  match s.fanOuts[i]? with
  | some f =>
      match f.tenants with
      | tenantId :: rest => some (f, tenantId, rest)
      | [] => none
  | none => none

/-- One event. -/
def step (s : Process) : Event → Process
  | .wait milliseconds => { s with now := s.now + milliseconds }
  | .dispatchForecasts tenants =>
      { s with fanOuts := s.fanOuts ++ [Worker.dispatchForecasts tenants s.now] }
  | .dispatchBacktests tenants =>
      { s with fanOuts := s.fanOuts ++ [Worker.dispatchBacktests tenants s.now] }
  | .onCatalogueReady tenantId =>
      { s with fanOuts := s.fanOuts ++ [Worker.onCatalogueReady tenantId s.now] }
  | .add i =>
      match s.nextAdd i with
      | some (f, tenantId, rest) =>
          { s with
            queue := s.queue.add (f.jobId tenantId) ⟨f.jobName, tenantId⟩ FORECAST_JOB_OPTIONS
            fanOuts := s.fanOuts.set i { f with tenants := rest } }
      | none => s
  | .job e => { s with queue := s.queue.exec maxStalledCount s.now e }

end Process

/-! ## Runs of one workspace -/

/-- Two jobs are forecasts of one workspace. -/
def SameForecast (d d' : JobData) : Prop :=
  d.name = .forecastTenant ∧ d'.name = .forecastTenant ∧ d.tenantId = d'.tenantId

instance : DecidableRel SameForecast := fun _ _ => inferInstanceAs (Decidable (_ ∧ _ ∧ _))

/-- A forecast job of a workspace. -/
def forecastOf (tenantId : String) : JobData :=
  ⟨.forecastTenant, tenantId⟩

namespace Process

/-- A forecast fires for a workspace: the event adds its job, under an identifier. -/
def firing (s : Process) : Event → Option (String × JobId)
  | .add i =>
      match s.nextAdd i with
      | some (f, tenantId, _) =>
          if f.jobName = .forecastTenant then some (tenantId, f.jobId tenantId) else none
      | none => none
  | _ => none

/-- The workspace has a forecast job that is waiting, delayed or running. -/
abbrev HasRun (s : Process) (tenantId : String) : Prop :=
  s.queue.Busy SameForecast (forecastOf tenantId)

/-- No workspace has two forecast jobs waiting, delayed or running. -/
abbrev NoOverlap (s : Process) : Prop :=
  s.queue.Apart SameForecast

/-- When a forecast fires for a workspace without a run, a run is enqueued. -/
def Enqueues (s : Process) (e : Event) : Prop :=
  ∀ f ∈ s.firing e, ¬ s.HasRun f.1 → (s.step e).HasRun f.1

/-- A forecast that fires finds its way clear: no failure is kept under the day's identifier, and
no run of another day is still waiting, delayed or running. A kept failure is no obstacle beside a
run of another day, nor such a run beside a job of the day, as the add is then rightly ignored. -/
def Unblocked (s : Process) (e : Event) : Prop :=
  ∀ f ∈ s.firing e,
    (∀ j ∈ s.queue.rows, j.id = f.2 → ∀ finishedOn, j.state = .failed finishedOn → s.HasRun f.1) ∧
    (∀ j ∈ s.queue.rows, j.live → SameForecast j.data (forecastOf f.1) → j.id ≠ f.2 →
      s.queue.Taken f.2)

end Process

/-! ## What every step keeps -/

/-- The name and the data that an identifier stands for. -/
def JobId.names : JobId → JobData
  | .forecast tenantId _ => ⟨.forecastTenant, tenantId⟩
  | .backtest tenantId _ => ⟨.backtestTenant, tenantId⟩

namespace Process

variable {s : Process} {e : Event}

/-- The jobs and the loops under way are the producers': an identifier stands for its job, and no
job that went through is kept. -/
structure Proper (s : Process) : Prop where
  names : ∀ j ∈ s.queue.rows, j.id.names = j.data
  opts : ∀ j ∈ s.queue.rows, j.opts = FORECAST_JOB_OPTIONS
  kept : ∀ j ∈ s.queue.rows, j.state ≠ .completed
  fanOuts : ∀ f ∈ s.fanOuts, ∀ tenantId, (f.jobId tenantId).names = ⟨f.jobName, tenantId⟩

theorem proper_start (now : ℤ) : (start now).Proper where
  names _ hj := absurd hj List.not_mem_nil
  opts _ hj := absurd hj List.not_mem_nil
  kept _ hj := absurd hj List.not_mem_nil
  fanOuts _ hf := absurd hf List.not_mem_nil

/-- The next add belongs to a loop under way. -/
theorem mem_of_nextAdd {i : ℕ} {f : FanOut} {tenantId : String} {rest : List String}
    (h : s.nextAdd i = some (f, tenantId, rest)) : f ∈ s.fanOuts := by
  unfold nextAdd at h
  split at h
  · next g hg =>
      split at h
      · obtain ⟨rfl, -⟩ := Prod.mk.inj (Option.some.inj h)
        exact List.mem_of_getElem? hg
      · cases h
  · cases h

/-- A loop that a producer starts gives each workspace an identifier of its own. -/
theorem Proper.starts (h : s.Proper) {f : FanOut}
    (hf : ∀ tenantId, (f.jobId tenantId).names = ⟨f.jobName, tenantId⟩) :
    Proper { s with fanOuts := s.fanOuts ++ [f] } where
  names := h.names
  opts := h.opts
  kept := h.kept
  fanOuts g hg := by
    rcases List.mem_append.mp hg with hg | hg
    · exact h.fanOuts g hg
    · rw [List.mem_singleton.mp hg]
      exact hf

/-- Every event leaves the jobs and the loops those of the producers. -/
theorem Proper.step (h : s.Proper) (e : Event) : (s.step e).Proper := by
  cases e with
  | wait milliseconds => exact ⟨h.names, h.opts, h.kept, h.fanOuts⟩
  | dispatchForecasts tenants => exact h.starts fun _ => rfl
  | dispatchBacktests tenants => exact h.starts fun _ => rfl
  | onCatalogueReady tenantId => exact h.starts fun _ => rfl
  | add i =>
      rw [Process.step]
      split
      · next f tenantId rest hnext =>
          have hf := h.fanOuts f (mem_of_nextAdd hnext)
          refine ⟨fun j hj => ?_, fun j hj => ?_, fun j hj => ?_, fun g hg => ?_⟩
          · rcases JobQueue.mem_add hj with hj | rfl
            · exact h.names j hj
            · exact hf tenantId
          · rcases JobQueue.mem_add hj with hj | rfl
            · exact h.opts j hj
            · rfl
          · rcases JobQueue.mem_add hj with hj | rfl
            · exact h.kept j hj
            · exact fun hstate => nomatch hstate
          · rcases List.mem_or_eq_of_mem_set hg with hg | rfl
            · exact h.fanOuts g hg
            · exact hf
      · exact h
  | job e =>
      have hwithin := JobQueue.exec_within maxStalledCount s.now s.queue e
      refine ⟨fun j hj => ?_, fun j hj => ?_, fun j hj hcompleted => ?_, h.fanOuts⟩
      · obtain ⟨i, hi, hfrom⟩ := hwithin j hj
        rw [hfrom.id, hfrom.data]
        exact h.names i hi
      · obtain ⟨i, hi, hfrom⟩ := hwithin j hj
        rw [hfrom.opts]
        exact h.opts i hi
      · -- a job that goes through is removed, as its options ask
        obtain ⟨i, hi, hfrom⟩ := hwithin j hj
        rcases hfrom.completed hcompleted with hstate | hremove
        · exact h.kept i hi hstate
        · rw [h.opts i hi] at hremove
          cases hremove

/-! ## One step -/

theorem SameForecast.symm {d d' : JobData} (h : SameForecast d d') : SameForecast d' d :=
  ⟨h.2.1, h.1, h.2.2.symm⟩

theorem sameForecast_forecastOf (tenantId : String) :
    SameForecast (forecastOf tenantId) (forecastOf tenantId) :=
  ⟨rfl, rfl, rfl⟩

/-- A forecast fires when a loop of forecasts comes to a workspace. -/
theorem firing_eq_some {tenantId : String} {id : JobId} (h : s.firing e = some (tenantId, id)) :
    ∃ i f rest, e = .add i ∧ s.nextAdd i = some (f, tenantId, rest) ∧
      f.jobName = .forecastTenant ∧ f.jobId tenantId = id := by
  cases e with
  | add i =>
      rw [firing] at h
      split at h
      · next f t rest hnext =>
          split at h
          · next hname =>
              obtain ⟨rfl, rfl⟩ := Prod.mk.inj (Option.some.inj h)
              exact ⟨i, f, rest, rfl, hnext, hname, rfl⟩
          · cases h
      · cases h
  | _ => cases h

/-- A firing adds the job of its workspace under its identifier. -/
theorem queue_of_firing {tenantId : String} {id : JobId} (h : s.firing e = some (tenantId, id)) :
    (s.step e).queue = s.queue.add id (forecastOf tenantId) FORECAST_JOB_OPTIONS := by
  obtain ⟨i, f, rest, rfl, hnext, hname, rfl⟩ := firing_eq_some h
  rw [step, hnext, forecastOf, ← hname]

/-- The identifier of a firing stands for a forecast of its workspace. -/
theorem Proper.names_firing (h : s.Proper) {tenantId : String} {id : JobId}
    (hfiring : s.firing e = some (tenantId, id)) : id.names = forecastOf tenantId := by
  obtain ⟨i, f, rest, rfl, hnext, hname, rfl⟩ := firing_eq_some hfiring
  rw [h.fanOuts f (mem_of_nextAdd hnext), hname, forecastOf]

/-- An event without a firing keeps the runs apart. -/
theorem noOverlap_step_of_firing_none (h : s.NoOverlap) (hfiring : s.firing e = none) :
    (s.step e).NoOverlap := by
  cases e with
  | add i =>
      rw [step]
      cases hnext : s.nextAdd i with
      | none => exact h
      | some next =>
          obtain ⟨f, tenantId, rest⟩ := next
          rw [firing, hnext] at hfiring
          refine (JobQueue.apart_add_iff SameForecast.symm h).mpr ?_
          -- what is added is a backtest, which is no forecast
          rintro ⟨j, -, -, hsame⟩
          have hname : f.jobName = .forecastTenant := hsame.2.1
          dsimp only at hfiring
          rw [if_pos hname] at hfiring
          cases hfiring
  | job e => exact h.of_within (JobQueue.exec_within _ _ _ e)
  | _ => exact h

/-- A job under the identifier of a firing that is live is a run of its workspace. -/
theorem Proper.hasRun_of_live (h : s.Proper) {tenantId : String} {id : JobId}
    (hfiring : s.firing e = some (tenantId, id)) {j : Store.Job JobId JobData}
    (hj : j ∈ s.queue.rows) (hid : j.id = id) (hlive : j.live) : s.HasRun tenantId := by
  refine ⟨j, hj, hlive, ?_⟩
  rw [← h.names j hj, hid, h.names_firing hfiring]
  exact sameForecast_forecastOf tenantId

/-- A firing that finds a run is to find its identifier taken, and one that finds none is to find
it free: that is finding the way clear. -/
theorem Proper.unblocked_iff (h : s.Proper) {tenantId : String} {id : JobId}
    (hfiring : s.firing e = some (tenantId, id)) :
    s.Unblocked e ↔ (s.HasRun tenantId ↔ s.queue.Taken id) := by
  rw [Unblocked, hfiring]
  simp only [Option.mem_some_iff, forall_eq']
  constructor
  · rintro ⟨hfailed, hother⟩
    constructor
    · rintro ⟨j, hj, hlive, hsame⟩
      by_cases hid : j.id = id
      · exact ⟨j, hj, hid⟩
      · exact hother j hj hlive hsame hid
    · rintro ⟨j, hj, hid⟩
      -- a job in the way is live or a failure
      cases hstate : j.state with
      | completed => exact absurd hstate (h.kept j hj)
      | failed finishedOn => exact hfailed j hj hid finishedOn hstate
      | _ => exact h.hasRun_of_live hfiring hj hid (by rw [Store.Job.live, hstate])
  · rintro hiff
    refine ⟨fun j hj hid _ _ => hiff.mpr ⟨j, hj, hid⟩, fun j hj hlive hsame _ => ?_⟩
    exact hiff.mp ⟨j, hj, hlive, hsame⟩

/-- One event enqueues what it should and keeps the runs apart exactly when a forecast that it
fires finds its way clear. -/
theorem enqueues_and_noOverlap_iff (h : s.Proper) (hapart : s.NoOverlap) :
    s.Enqueues e ∧ (s.step e).NoOverlap ↔ s.Unblocked e := by
  cases hfiring : s.firing e with
  | none =>
      have hnone : ∀ P : String × JobId → Prop, ∀ f ∈ s.firing e, P f := by
        intro P f hf
        rw [hfiring] at hf
        cases hf
      exact iff_of_true ⟨hnone _, noOverlap_step_of_firing_none hapart hfiring⟩ (hnone _)
  | some f =>
      obtain ⟨tenantId, id⟩ := f
      have hqueue := queue_of_firing hfiring
      have henqueues : s.Enqueues e ↔ (¬ s.HasRun tenantId → ¬ s.queue.Taken id) := by
        rw [Enqueues, hfiring]
        simp only [Option.mem_some_iff, forall_eq']
        refine forall_congr' fun hidle => ?_
        rw [HasRun, hqueue]
        exact JobQueue.busy_add_iff hidle (sameForecast_forecastOf tenantId)
      have hnoOverlap : (s.step e).NoOverlap ↔ (s.HasRun tenantId → s.queue.Taken id) := by
        rw [NoOverlap, hqueue]
        exact JobQueue.apart_add_iff SameForecast.symm hapart
      rw [henqueues, hnoOverlap, h.unblocked_iff hfiring, not_imp_not, and_comm]
      exact iff_def.symm

/-! ## Runs -/

/-- **Runs and their obstacles.** Along a run of dispatches, catalogues, job outcomes and passing
time, every forecast that fires for a workspace without a run enqueues one and no workspace ever
has two, exactly when every forecast that fires finds its way clear: no failed run of its own day
is kept, and no run of another day is still under way. -/
theorem runs_enqueued_and_apart_iff (now : ℤ) (events : List Event) :
    Along step (fun s e => s.Enqueues e ∧ (s.step e).NoOverlap) (start now) events ↔
      Along step Unblocked (start now) events := by
  refine Series.along_iff (I := fun s => s.Proper ∧ s.NoOverlap) ?_ ?_ ?_
  · exact fun s e h => enqueues_and_noOverlap_iff h.1 h.2
  · exact fun s e h hgood => ⟨h.1.step e, hgood.2⟩
  · exact ⟨proper_start now, fun j hj => absurd hj List.not_mem_nil⟩

/-! ### A failure that is kept, and a midnight -/

instance (s : Process) (e : Event) : Decidable (s.Enqueues e) :=
  inferInstanceAs (Decidable (∀ f ∈ s.firing e, _ → _))

/-- A forecast dispatch happens at a time of the pattern. -/
def OnSchedule (s : Process) : Event → Prop
  | .dispatchForecasts _ => FORECAST_PATTERN s.now
  | _ => True

instance (s : Process) : DecidablePred s.OnSchedule := fun e =>
  match e with
  | .dispatchForecasts _ => inferInstanceAs (Decidable (FORECAST_PATTERN s.now))
  | .wait _ | .dispatchBacktests _ | .onCatalogueReady _ | .add _ | .job _ => isTrue trivial

/-- A customer's workspace. -/
def shop : Tenant := ⟨"shop", false⟩

/-- The run of the seventh minute of a day fails three times; six hours later the forecast is
dispatched again. -/
def failedDay : List Event :=
  let id := forecastJobId "shop" 0
  [.dispatchForecasts [shop], .add 0,
    .job (.start id), .job (.fail id false), .wait 300000,
    .job (.promote id), .job (.start id), .job (.fail id false), .wait 600000,
    .job (.promote id), .job (.start id), .job (.fail id false), .wait 20700000,
    .dispatchForecasts [shop], .add 1]

/-- A store is connected two minutes before midnight; its first forecast is still running when
the next day's is dispatched. -/
def acrossMidnight : List Event :=
  [.onCatalogueReady "shop", .add 0, .job (.start (forecastJobId "shop" 0)), .wait 540000,
    .dispatchForecasts [shop], .add 1]

/-- A failed run blocks the later runs of its day, and a run that lasts past midnight overlaps the
next day's, with every dispatch on its schedule. -/
theorem failedDay_and_acrossMidnight :
    (Along step OnSchedule (start 420000) failedDay ∧
      ¬ Along step Enqueues (start 420000) failedDay) ∧
    Along step OnSchedule (start 86280000) acrossMidnight ∧
      ¬ Along step (fun s e => (s.step e).NoOverlap) (start 86280000) acrossMidnight := by
  decide +kernel

end Process

end Restock.Worker

import Restock.Purchasing.CreatePo

/-!
# Distribution plans

The two tables a distribution plan lives in, and calls that re-size or finalise one plan, in any
number and interleaved in any way. Every database operation is a transaction of its own:
`prismaForTenant` opens one around each. A re-size looks for a draft first, deletes the lines next
and writes the new ones last, so that the plan may be finalised, and the re-size may fail, in
between.

* `updateDistributionPlan`, `finaliseDistributionPlan` — the code;
* `KeepsFinal` — the commits of re-sizes that find the plan not final, or nothing to change;
* `PlanStep` — steps whose commits are such, and by which no re-size that has removed lines
  fails;
* `finalPlan_linesKept` — in runs of such steps a final plan keeps its lines, and a re-size
  that fails has changed none;
* `resize_empties_final_plan` — a run that removes the line of a final plan.
-/

namespace Restock.Transfers

open Store

/-! ## Rows -/

/-- A `DistributionPlan` id. -/
abbrev PlanId : Type := ℕ
/-- A `DistributionPlanLine` id. -/
abbrev PlanLineId : Type := ℕ

/-- `DistributionPlan.status`. -/
inductive PlanStatus
  | draft
  | final
  | exported
  deriving DecidableEq, Repr

/-- `DistributionPlanLine.status`. -/
inductive PlanLineStatus
  | planned
  | picked
  | sent
  deriving DecidableEq, Repr

/-- `DistributionPlan`. -/
structure DistributionPlan where
  id : PlanId
  name : Option String := none
  fromLocationId : LocationId
  status : PlanStatus := .draft
  coverDays : ℤ := 14
  windowDays : ℤ := 90
  createdByName : Option String := none
  deletedAt : Option Time := none
  deriving DecidableEq, Repr

/-- `DistributionPlanLine`. -/
structure DistributionPlanLine where
  id : PlanLineId
  planId : PlanId
  productId : ProductId
  sku : String
  title : String
  toLocationId : LocationId
  qty : ℤ
  fromOnHand : ℤ := 0
  toOnHand : ℤ := 0
  toRunRate : ℚ := 0
  toDaysCoverBefore : Option ℚ := none
  toDaysCoverAfter : Option ℚ := none
  status : PlanLineStatus := .planned
  deriving DecidableEq, Repr

instance : Keyed DistributionPlan PlanId := ⟨DistributionPlan.id⟩
instance : Keyed DistributionPlanLine PlanLineId := ⟨DistributionPlanLine.id⟩

@[simp] theorem key_plan (r : DistributionPlan) : Keyed.key r = r.id := rfl
@[simp] theorem key_planLine (r : DistributionPlanLine) : Keyed.key r = r.id := rfl

/-- The plans of one tenant. -/
structure PlanDb where
  plans : Table DistributionPlan := .empty
  lines : Table DistributionPlanLine := .empty
  deriving DecidableEq

/-- What a row lock is taken on. -/
inductive PlanRowKey
  | plan (id : PlanId)
  | line (id : PlanLineId)
  deriving DecidableEq

/-- The two states hold the same row under a key. -/
def PlanRowKey.same : PlanRowKey → PlanDb → PlanDb → Prop
  | .plan id, s, t => s.plans.find id = t.plans.find id
  | .line id, s, t => s.lines.find id = t.lines.find id

instance : RowModel PlanDb PlanRowKey where
  same := PlanRowKey.same
  refl k s := by cases k <;> rfl
  trans k _ _ _ h h' := by cases k <;> exact Eq.trans h h'

instance : Stored PlanDb DistributionPlan where
  get := PlanDb.plans
  set db plans := { db with plans }
  name := .plan
  get_set _ _ := rfl
  set_get _ := rfl
  frame _ _ row h := by cases row <;> first | exact h _ rfl | rfl
  find_of_same h := h

instance : Stored PlanDb DistributionPlanLine where
  get := PlanDb.lines
  set db lines := { db with lines }
  name := .line
  get_set _ _ := rfl
  set_get _ := rfl
  frame _ _ row h := by cases row <;> first | exact h _ rfl | rfl
  find_of_same h := h

/-- The lines of a plan. -/
def PlanDb.linesOf (db : PlanDb) (planId : PlanId) : List DistributionPlanLine :=
  db.lines.rows.filter fun l => l.planId = planId

/-- The committed status of the plan is final. -/
def PlanDb.IsFinal (db : PlanDb) (planId : PlanId) : Prop :=
  (db.plans.find planId).map DistributionPlan.status = some .final

instance (db : PlanDb) (planId : PlanId) : Decidable (db.IsFinal planId) :=
  inferInstanceAs (Decidable (_ = _))

/-! ## Operations -/

/-- A computation over the plans. Plans take no advisory lock and call nobody outside. -/
abbrev PlanOp (R α : Type) : Type := Session PlanDb PlanRowKey Empty Empty Failure R α

/-- The whole program of a client of the plans. -/
abbrev PlanProgram (R : Type) : Type := Program PlanDb PlanRowKey Empty Empty R

/-- `TransferLine`: the columns of a sized line that a plan stores. -/
structure TransferLine where
  productId : ProductId
  sku : String
  title : String
  toLocationId : LocationId
  qty : ℤ
  fromOnHand : ℤ
  toOnHand : ℤ
  toRunRate : ℚ
  toDaysCoverBefore : ℚ
  toDaysCoverAfter : ℚ

/-- `DistributionProposal`: what a plan stores of it. -/
structure DistributionProposal where
  fromLocationId : LocationId
  coverDays : ℤ
  windowDays : ℤ
  /-- Every line of the proposal, not the one page on the screen. -/
  allMatchedLines : List TransferLine

/-- The row a sized line is stored as. -/
def TransferLine.toPlanLine (planId : PlanId) (id : PlanLineId) (line : TransferLine) :
    DistributionPlanLine where
  id := id
  planId := planId
  productId := line.productId
  sku := line.sku
  title := line.title
  toLocationId := line.toLocationId
  qty := line.qty
  fromOnHand := line.fromOnHand
  toOnHand := line.toOnHand
  toRunRate := line.toRunRate
  toDaysCoverBefore := some line.toDaysCoverBefore
  toDaysCoverAfter := some line.toDaysCoverAfter

/-- The rows nested in the update; `cuid` generates their ids. -/
def DistributionProposal.planLines (proposal : DistributionProposal) (cuid : ℕ → PlanLineId)
    (planId : PlanId) : List DistributionPlanLine :=
  proposal.allMatchedLines.zipIdx.map fun line => line.1.toPlanLine planId (cuid line.2)

/-- `name?.trim() || null`. -/
def planName (name : Option String) : Option String :=
  (name.map fun name => String.ofList (trimChars name.toList)).filter fun name => name ≠ ""

/-- The columns of the plan that the update sets: the name when one is given, and what the
proposal was sized for. -/
def DistributionPlan.restamp (name : Option (Option String))
    (proposal : Option DistributionProposal) (plan : DistributionPlan) : DistributionPlan where
  id := plan.id
  name := name.elim plan.name planName
  fromLocationId := proposal.elim plan.fromLocationId (·.fromLocationId)
  status := plan.status
  coverDays := proposal.elim plan.coverDays (·.coverDays)
  windowDays := proposal.elim plan.windowDays (·.windowDays)
  createdByName := plan.createdByName
  deletedAt := plan.deletedAt

/-- The update with its nested creates, one transaction. -/
def restampPlan {R : Type} (cuid : ℕ → PlanLineId) (planId : PlanId)
    (name : Option (Option String)) (proposal : Option DistributionProposal) : PlanOp R Unit :=
  Session.transaction do
    Session.update DistributionPlan planId (·.restamp name proposal) .recordNotFound
    forM (proposal.elim [] (·.planLines cuid planId)) fun line =>
      Session.create line .uniqueViolation

/-- `where: { id: planId, deletedAt: null, status: "draft" }`. -/
def DistributionPlan.isDraft (planId : PlanId) (plan : DistributionPlan) : Bool :=
  plan.id = planId ∧ plan.deletedAt = none ∧ plan.status = .draft

/-- Rename a draft, or re-stamp it with a freshly sized set of lines. Only a draft can be
re-sized: the answer is `false` when there is none. -/
def updateDistributionPlan {R : Type} (cuid : ℕ → PlanLineId) (planId : PlanId)
    (name : Option (Option String)) (proposal : Option DistributionProposal) :
    PlanOp R Bool := do
  let some _ ← Session.findFirst DistributionPlan (·.isDraft planId)
    | return false
  if proposal.isSome then
    discard (Session.transaction
      (Session.deleteMany DistributionPlanLine fun line => line.planId = planId))
  restampPlan cuid planId name proposal
  return true

/-- Lock a draft as the plan the shop is picking against. -/
def finaliseDistributionPlan {R : Type} (planId : PlanId) : PlanOp R Bool := do
  let count ← Session.transaction
    (Session.updateMany DistributionPlan (·.isDraft planId) ({ · with status := .final }))
  return 0 < count

/-- A call on one plan. -/
inductive PlanCall
  | update (cuid : ℕ → PlanLineId) (name : Option (Option String))
      (proposal : Option DistributionProposal)
  | finalise

/-- The program of a call. -/
def PlanCall.program (planId : PlanId) : PlanCall → PlanProgram Bool
  | .update cuid name proposal =>
      Session.program (updateDistributionPlan cuid planId name proposal)
  | .finalise => Session.program (finaliseDistributionPlan planId)

/-- The lines a call re-sizes the plan to, if it is a re-size. -/
def PlanCall.sizedLines : PlanCall → Option (List TransferLine)
  | .update _ _ proposal => proposal.map DistributionProposal.allMatchedLines
  | .finalise => none

section Runs

variable {ι : Type} (calls : ι → PlanCall) (planId : PlanId)

/-! ## The condition -/

/-- The commits of re-sizes that do no harm to a final plan: a delete that found no line of
it, the second statement of its client, and an update that brings none. -/
def KeepsFinal : CommitCondition PlanDb PlanRowKey ι := fun i seen _ db =>
  db.IsFinal planId → ∀ lines ∈ (calls i).sizedLines,
    (seen.length = 2 → ∀ s ∈ seen[1]?, s.linesOf planId = []) ∧ (2 < seen.length → lines = [])

instance (i : ι) (seen : List PlanDb) (ws : List (Write PlanDb PlanRowKey)) (db : PlanDb) :
    Decidable (KeepsFinal calls planId i seen ws db) :=
  inferInstanceAs (Decidable (_ → ∀ lines ∈ (calls i).sizedLines, _))

/-- A client whose delete, its second statement, found lines of the plan and is committed. -/
def HasRemoved (c : Client PlanDb PlanRowKey Empty Empty Bool) : Prop :=
  (∃ s, c.seen[1]? = some s ∧ s.linesOf planId ≠ []) ∧ (c.pending = [] ∨ 2 < c.seen.length)

/-! ## What every commit owes -/

/-- What the calls on a plan keep to: a final plan stays final and keeps its lines, and
whoever commits a change of lines is through, or has found lines in its second statement. -/
def planContract : Contract PlanDb PlanRowKey Empty Empty Bool ι where
  Inv _ := True
  Guar s t := s.IsFinal planId → t.IsFinal planId ∧ t.linesOf planId = s.linesOf planId
  ok := KeepsFinal calls planId
  AtCommit _ seen s t next := t.linesOf planId = s.linesOf planId ∨ (∃ r, next = .done r) ∨
    (next ≠ .failed ∧ ∃ s, seen[1]? = some s ∧ s.linesOf planId ≠ [])
  AtCall _ _ _ := True

variable {calls planId}

/-- An update of plans that keeps their ids and statuses keeps a plan final. -/
theorem isFinal_update {db : PlanDb} (h : db.IsFinal planId) (p : DistributionPlan → Bool)
    {f : DistributionPlan → DistributionPlan} (hid : ∀ plan, (f plan).id = plan.id)
    (hstatus : ∀ plan, plan.status = .final → (f plan).status = .final) :
    PlanDb.IsFinal { db with plans := db.plans.update p f } planId := by
  obtain ⟨plan, hfind, hfinal⟩ := Option.map_eq_some_iff.mp h
  show ((db.plans.update p f).find planId).map DistributionPlan.status = some .final
  rw [Table.find_update _ _ hid, hfind, Option.map_some, Option.map_some]
  by_cases hp : p plan
  · rw [if_pos hp, hstatus plan hfinal]
  · rw [if_neg hp, hfinal]

/-- The database with lines inserted, one after the other. -/
def PlanDb.withLines (lines : List DistributionPlanLine) (db : PlanDb) : PlanDb :=
  lines.foldl (fun db line => Stored.set db ((Stored.get db : Table _).insert line)) db

/-- A loop of creates that returns has inserted the rows. -/
theorem does_createLines (i : ι) (lines : List DistributionPlanLine) :
    (planContract calls planId).Does i
      (forM lines fun line => Session.create line .uniqueViolation : PlanOp Bool Unit)
      (PlanDb.withLines lines) :=
  Contract.does_forM (fun line => Contract.does_create line Failure.uniqueViolation) lines

/-- The update with its nested creates is safe as the last thing a call does, when it brings
no line to a final plan. -/
theorem safe_restampPlan {i : ι} {cuid : ℕ → PlanLineId} {name : Option (Option String)}
    {proposal : Option DistributionProposal} {seen : List PlanDb} {db : PlanDb}
    (hnone : ∀ s more ws t, KeepsFinal calls planId i (seen ++ [s] ++ more) ws t →
      t.IsFinal planId → proposal.elim [] (·.planLines cuid planId) = []) :
    (planContract calls planId).Safe i
      (restampPlan cuid planId name proposal (fun _ => .done true) fun _ => .failed)
      seen [] db := by
  show (planContract calls planId).Safe i
    ((Session.update DistributionPlan planId (·.restamp name proposal) .recordNotFound :
      PlanOp Bool Unit) (fun _ => (forM (proposal.elim [] (·.planLines cuid planId)) fun line =>
        Session.create line .uniqueViolation : PlanOp Bool Unit)
          (fun _ => .commit (.done true)) fun _ => .rollback .failed)
      fun _ => .rollback .failed) seen [] db
  refine Contract.safe_update (fun _ _ _ _ => trivial) fun s plan _ _ hplan => ?_
  refine does_createLines i _ _ _ _ _ _ (fun _ _ _ _ => trivial)
    fun more ws' db' _ heffect t _ _ hok => ?_
  refine ⟨trivial, fun hfinal => ?_, Or.inr (Or.inl ⟨true, rfl⟩), trivial⟩
  -- no line is brought to a final plan, so that the commit only restamps it
  have hstamped : sees [updating DistributionPlan (fun plan => Keyed.key plan = planId)
      (·.restamp name proposal) s] t
      = { t with
          plans := t.plans.update (fun plan => plan.id = planId) (·.restamp name proposal) } :=
    updating_act_of_match (fun _ h => of_decide_eq_true h) hplan
      (decide_eq_true (Table.find_eq_some.mp hplan).2) _ t
  rw [heffect, hnone s more ws' t hok hfinal, List.nil_append]
  show PlanDb.IsFinal (sees _ t) planId ∧ PlanDb.linesOf (sees _ t) planId = _
  rw [sees_nil, hstamped]
  exact ⟨isFinal_update hfinal _ (fun _ => rfl) fun _ h => h, rfl⟩

/-- A re-size or a rename is safe. -/
theorem safe_updateDistributionPlan {i : ι} {cuid : ℕ → PlanLineId}
    {name : Option (Option String)} {proposal : Option DistributionProposal}
    (hcall : calls i = .update cuid name proposal) (db : PlanDb) :
    (planContract calls planId).Safe i
      (updateDistributionPlan cuid planId name proposal .done fun _ => .failed) [] [] db := by
  unfold updateDistributionPlan
  simp only [Session.bind_apply]
  refine Contract.safe_query fun s₀ _ _ => ?_
  cases (Stored.get (sees [] s₀) : Table DistributionPlan).rows.find? (·.isDraft planId) with
  | none => trivial
  | some plan =>
      cases proposal with
      | none => exact safe_restampPlan fun _ _ _ _ _ _ => rfl
      | some proposal =>
          have hsized : proposal.allMatchedLines ∈ (calls i).sizedLines := by rw [hcall]; rfl
          show (planContract calls planId).Safe i
            ((Session.deleteMany DistributionPlanLine fun line => line.planId = planId :
              PlanOp Bool ℕ) (fun _ => .commit
                (restampPlan cuid planId name (some proposal) (fun _ => .done true)
                  fun _ => .failed)) fun _ => .rollback .failed) [s₀] [] s₀
          refine Contract.safe_deleteMany fun s₁ _ _ => ?_
          intro t _ _ hok
          -- the delete changes nothing when it found no line
          have hsame : s₁.linesOf planId = [] →
              sees [deleting DistributionPlanLine (fun line => line.planId = planId) s₁] t = t :=
            fun hnil => deleting_act_of_no_match (by
              show (s₁.linesOf planId).map Keyed.key = []
              rw [hnil, List.map_nil]) t
          refine ⟨trivial, fun hfinal => ?_, ?_, ?_⟩
          · have hnil := (hok hfinal _ hsized).1 rfl s₁ rfl
            rw [List.nil_append, sees_nil, hsame hnil]
            exact ⟨hfinal, rfl⟩
          · by_cases hnil : s₁.linesOf planId = []
            · refine Or.inl ?_
              rw [List.nil_append, sees_nil, hsame hnil]
            · exact Or.inr (Or.inr ⟨fun h => (nomatch h), s₁, rfl, hnil⟩)
          · refine safe_restampPlan fun s₂ more ws t hok hfinal => ?_
            have hnil : proposal.allMatchedLines = [] :=
              (hok hfinal _ hsized).2 (by simp)
            show proposal.planLines cuid planId = []
            rw [DistributionProposal.planLines, hnil]
            rfl

/-- Finalising is safe. -/
theorem safe_finaliseDistributionPlan {i : ι} (db : PlanDb) :
    (planContract calls planId).Safe i
      (finaliseDistributionPlan planId .done fun _ => .failed) [] [] db := by
  unfold finaliseDistributionPlan
  simp only [Session.bind_apply]
  refine Contract.safe_autocommit_many fun s t n _ _ => ?_
  exact ⟨trivial, fun hfinal => ⟨isFinal_update hfinal _ (fun _ => rfl) fun _ _ => rfl, rfl⟩,
    Or.inl rfl, trivial⟩

/-- Every call on a plan keeps to the contract. -/
theorem safe_planCall (calls : ι → PlanCall) (planId : PlanId) (i : ι) (db : PlanDb) :
    (planContract calls planId).Safe i ((calls i).program planId) [] [] db := by
  cases hcall : calls i with
  | update cuid name proposal => exact safe_updateDistributionPlan hcall db
  | finalise => exact safe_finaliseDistributionPlan db

/-! ## Runs -/

variable [DecidableEq ι] (calls planId)

/-- A configuration of clients that call on the plan. -/
abbrev PlanConfig (ι : Type) : Type := Config PlanDb PlanRowKey Empty Empty Bool ι

/-- A step of client `i` whose commit, if it is one, does no harm to a final plan, and by
which the client does not fail once it has removed lines. -/
def PlanStep (i : ι) (σ τ : PlanConfig ι) : Prop :=
  Step i σ τ ∧ CommitOk (KeepsFinal calls planId) i σ ∧
    (HasRemoved planId (σ.clients i) → (τ.clients i).program ≠ .failed)

/-- A run of such steps. -/
abbrev PlanRun : PlanConfig ι → PlanConfig ι → Prop :=
  Relation.ReflTransGen fun σ τ => ∃ i, PlanStep calls planId i σ τ

variable {calls planId}

/-- Such a run is a run whose commits satisfy the condition. -/
theorem PlanRun.runWhere {σ τ : PlanConfig ι} (h : PlanRun calls planId σ τ) :
    RunWhere (KeepsFinal calls planId) σ τ :=
  Relation.ReflTransGen.mono (fun _ _ ⟨i, hstep, hok, _⟩ => ⟨i, hstep, hok⟩) σ τ h

/-- A client that is through, or that has removed lines and has not failed. -/
def Settled (planId : PlanId) (c : Client PlanDb PlanRowKey Empty Empty Bool) : Prop :=
  (∃ r, c.program = .done r) ∨ (c.program ≠ .failed ∧ HasRemoved planId c)

/-- What a client has removed stays removed along its own steps. -/
theorem settled_step {i : ι} {σ τ : PlanConfig ι} (h : Settled planId (σ.clients i))
    (hstep : PlanStep calls planId i σ τ) : Settled planId (τ.clients i) := by
  obtain ⟨hstep, -, hfails⟩ := hstep
  rcases h with ⟨r, hdone⟩ | ⟨-, hremoved⟩
  · -- a client that is through makes no step
    cases hstep with
    | abort hprog => exact absurd hdone (hprog r)
    | stmt hprog | lock hprog | commit hprog | rollback hprog | call _ hprog =>
        rw [hdone] at hprog
        cases hprog
  · refine Or.inr ⟨hfails hremoved, ?_⟩
    obtain ⟨⟨s, hs, hlines⟩, hcommitted⟩ := hremoved
    have hlength : 2 ≤ (σ.clients i).seen.length := by
      obtain ⟨h, -⟩ := List.getElem?_eq_some_iff.mp hs
      exact h
    cases hstep with
    | stmt hprog _ =>
        rw [Config.set_clients_self]
        refine ⟨⟨s, ?_, hlines⟩, Or.inr ?_⟩
        · rw [List.getElem?_append_left (by omega), hs]
        · rw [List.length_append, List.length_singleton]
          omega
    | lock | call => rw [Config.set_clients_self]; exact ⟨⟨s, hs, hlines⟩, hcommitted⟩
    | commit | rollback | abort =>
        rw [Config.set_clients_self]
        exact ⟨⟨s, hs, hlines⟩, Or.inl rfl⟩

/-- A step leaves the other clients alone. -/
theorem clients_of_step {i j : ι} {σ τ : PlanConfig ι} (hstep : Step i σ τ) (hne : j ≠ i) :
    τ.clients j = σ.clients j := by
  cases hstep <;> exact Config.set_clients_of_ne _ hne _

/-- A settled client has not failed at the end of a run. -/
theorem settled_run {i : ι} {σ τ : PlanConfig ι} (h : Settled planId (σ.clients i))
    (hrun : PlanRun calls planId σ τ) : Settled planId (τ.clients i) := by
  induction hrun with
  | refl => exact h
  | tail _ hstep ih =>
      obtain ⟨j, hstep⟩ := hstep
      by_cases hji : i = j
      · subst hji
        exact settled_step ih hstep
      · rw [clients_of_step hstep.1 hji]
        exact ih

/-- A step that changes lines settles its client. -/
theorem settled_of_linesOf_ne {i : ι} {σ ρ : PlanConfig ι}
    (hgood : (planContract calls planId).Good σ) (hstep : PlanStep calls planId i σ ρ)
    (hne : ρ.db.linesOf planId ≠ σ.db.linesOf planId) : Settled planId (ρ.clients i) := by
  obtain ⟨hstep, hok, -⟩ := hstep
  rcases hgood.step_db hstep hok with hsame | ⟨-, hlines | hdone | ⟨hnext, s, hs, hfound⟩⟩
  · exact absurd (congrArg (·.linesOf planId) hsame) hne
  · exact absurd hlines hne
  · exact Or.inl hdone
  · refine Or.inr ⟨hnext, ?_⟩
    cases hstep with
    | commit hprog =>
        rw [Config.set_clients_self]
        exact ⟨⟨s, hs, hfound⟩, Or.inl rfl⟩
    | stmt | lock | rollback | call | abort => exact absurd rfl hne

/-- A client that has failed stays failed. -/
theorem failed_step {i j : ι} {σ τ : PlanConfig ι} (hstep : Step j σ τ)
    (h : (σ.clients i).program = .failed) : (τ.clients i).program = .failed := by
  by_cases hij : i = j
  · subst hij
    cases hstep with
    | abort => rw [Config.set_clients_self]
    | stmt hprog | lock hprog | commit hprog | rollback hprog | call _ hprog =>
        rw [h] at hprog
        cases hprog
  · rw [clients_of_step hstep hij, h]

/-- A run whose commits satisfy the condition and by the end of which nobody has failed. -/
theorem planRun_of_runWhere {σ τ : PlanConfig ι} (h : RunWhere (KeepsFinal calls planId) σ τ)
    (hnone : ∀ i, (τ.clients i).program ≠ .failed) : PlanRun calls planId σ τ := by
  induction h with
  | refl => exact .refl
  | tail _ hstep ih =>
      obtain ⟨i, hstep, hok⟩ := hstep
      exact .tail (ih fun j hj => hnone j (failed_step hstep hj)) ⟨i, hstep, hok, fun _ => hnone i⟩

end Runs

/-! ## A re-size and a finalise at the same time -/

/-- A draft with one line. -/
def oneLineDraft : PlanDb where
  plans := ⟨[{ id := 1, fromLocationId := 1 }], by decide⟩
  lines := ⟨[
    { id := 1, planId := 1, productId := 1, sku := "A", title := "A", toLocationId := 2,
      qty := 5 }],
    by decide⟩

/-- A proposal with one line. -/
def threeUnits : DistributionProposal where
  fromLocationId := 1
  coverDays := 14
  windowDays := 90
  allMatchedLines := [⟨1, "A", "A", 2, 3, 10, 0, 1, 0, 3⟩]

/-- One client re-sizes the plan, the other finalises it. -/
def resizeAndFinalise : Bool → PlanCall
  | false => .update (fun n => n + 2) none (some threeUnits)
  | true => .finalise

/-- The clients have not started. -/
def resizeAndFinaliseStart : PlanConfig Bool :=
  Config.initial oneLineDraft fun i => (resizeAndFinalise i).program 1

/-- A client has returned an answer. -/
def isDone (c : Client PlanDb PlanRowKey Empty Empty Bool) : Bool :=
  match c.program with
  | .done _ => true
  | _ => false

/-- Who has returned an answer has not failed. -/
theorem ne_failed_of_isDone {c : Client PlanDb PlanRowKey Empty Empty Bool} (h : isDone c) :
    c.program ≠ .failed := by
  intro hfailed
  rw [isDone, hfailed] at h
  cases h

end Restock.Transfers

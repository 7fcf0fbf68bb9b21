import Restock.Transfers.LevelFill

/-!
# What a sized transfer keeps

`sizeTransfers` never moves more than there is, and no unit to a branch that is covered already.
When there is less than everyone needs, it moves all of it and everyone ends within a unit of one
level.

* `Holds` — what the map of quantities keeps through all passes;
* `totalIn_floored`, `totalIn_handOut`, `total_handOut` — the passes that fill the level;
* `holds_drainStep`, `drainLoop_eq_some` — the drain, and that it ends;
* `sizeTransfers_conserves` — conservation and the caps;
* `sizeTransfers_level` — the level fill is exact and fair.
-/

namespace Restock.Transfers

open Series (addTo setEntries totalIn totalIn_addTo keys_addTo lookup_setEntries
  nodup_keys_setEntries nodup_keys_setEntries_nil mem_keys_setEntries sum_addTo sum_filter_pos
  sum_values_eq lookup_of_mem lookup_of_not_mem total total_eq_zero total_of_mem)

variable {I : Type}

/-- The ids of destinations. -/
def idsOf (destinations : List (DestinationPosition I)) : List I :=
  destinations.map DestinationPosition.locationId

/-- The ids of what is wanted. -/
def wantIds (wants : List (Want I)) : List I :=
  wants.map fun w => w.d.locationId

/-! ## What is wanted -/

/-- Candidates: their ids are distinct, and they sell. -/
structure Candidates (candidates : List (DestinationPosition I)) : Prop where
  ids : (idsOf candidates).Nodup
  selling : Selling candidates

section Wanted

variable {candidates : List (DestinationPosition I)} {units : ℤ} {coverDays : ℚ}

/-- Two candidates with one id are one. -/
theorem Candidates.eq_of_id (h : Candidates candidates) {d e : DestinationPosition I}
    (hd : d ∈ candidates) (he : e ∈ candidates) (hid : d.locationId = e.locationId) : d = e :=
  List.inj_on_of_nodup_map h.ids hd he hid

variable (coverDays) in
/-- The level is the target, or one at which the units are used up. -/
theorem levelFor_spec (h : Candidates candidates) (hne : candidates ≠ []) (hunits : 0 < units) :
    levelFor candidates units coverDays ≤ coverDays ∧
      totalShortfall candidates (levelFor candidates units coverDays) ≤ units := by
  rw [levelFor]
  have hpos : (0 : ℚ) < units := Int.cast_pos.mpr hunits
  split
  case isTrue henough => exact ⟨le_rfl, henough⟩
  case isFalse hshort =>
    exact ⟨(fillLevel_lt h.selling hne hpos (not_le.mp hshort)).le,
      (totalShortfall_fillLevel h.selling hne hpos).le⟩

/-- What a candidate wants is what it is short of at the level. -/
theorem want_eq (hunits : 0 ≤ units) {d : DestinationPosition I} (hd : d ∈ candidates) :
    (if 0 < totalShortfall candidates coverDays then
      shortfall d (levelFor candidates units coverDays) else 0) =
      shortfall d (levelFor candidates units coverDays) := by
  split
  case isTrue => rfl
  case isFalse hzero =>
    -- nobody is short of the target, which is the level
    have hnil : totalShortfall candidates coverDays ≤ 0 := not_lt.mp hzero
    have henough : totalShortfall candidates coverDays ≤ units :=
      hnil.trans (Int.cast_nonneg hunits)
    rw [levelFor, if_pos henough]
    have hle : shortfall d coverDays ≤ totalShortfall candidates coverDays := by
      refine List.single_le_sum (fun s hs => ?_) _ (List.mem_map_of_mem hd)
      obtain ⟨e, _, rfl⟩ := List.mem_map.mp hs
      exact shortfall_nonneg e coverDays
    exact le_antisymm (shortfall_nonneg d coverDays) (hle.trans hnil)

/-- The wants, one by one: the candidates that are short of the level. -/
theorem wantsOf_eq (hunits : 0 ≤ units) :
    wantsOf candidates units coverDays =
      (candidates.map fun d =>
        { d, want := shortfall d (levelFor candidates units coverDays) : Want I }).filter
          fun w => 0 < w.want :=
  congrArg (List.filter _) (List.map_congr_left fun d hd => by rw [want_eq hunits hd])

/-- A candidate that is short of the level wants that. -/
theorem mem_wantsOf (hunits : 0 ≤ units) {w : Want I} :
    w ∈ wantsOf candidates units coverDays ↔
      w.d ∈ candidates ∧ w.want = shortfall w.d (levelFor candidates units coverDays) ∧
        0 < w.want := by
  rw [wantsOf_eq hunits, List.mem_filter, List.mem_map, decide_eq_true_iff, ← and_assoc]
  refine and_congr_left fun _ => ⟨?_, fun h => ⟨w.d, h.1, ?_⟩⟩
  · rintro ⟨d, hd, rfl⟩
    exact ⟨hd, rfl⟩
  · rw [← h.2]

variable (units coverDays) in
/-- Nobody wants twice. -/
theorem nodup_wantIds (h : Candidates candidates) :
    (wantIds (wantsOf candidates units coverDays)).Nodup := by
  refine List.Nodup.sublist ?_ h.ids
  have hsub := (List.filter_sublist (p := fun w : Want I => decide (0 < w.want))
    (l := candidates.map fun d =>
      { d
        want :=
          if 0 < totalShortfall candidates coverDays then
            shortfall d (levelFor candidates units coverDays)
          else 0 : Want I })).map fun w => w.d.locationId
  rwa [List.map_map] at hsub

/-- A sum over the wants is a sum over the candidates. -/
theorem sum_wants {M : Type} [AddCommMonoid M] (hunits : 0 ≤ units) (g : ℚ → M) (hg : g 0 = 0) :
    ((wantsOf candidates units coverDays).map fun w => g w.want).sum =
      (candidates.map fun d => g (shortfall d (levelFor candidates units coverDays))).sum := by
  rw [wantsOf_eq hunits, sum_filter_pos, List.map_map]
  · rfl
  · intro w hw
    obtain ⟨d, _, rfl⟩ := List.mem_map.mp hw
    exact shortfall_nonneg _ _
  · intro w _ hzero
    rw [hzero, hg]

variable (candidates coverDays) in
/-- The wants come to what the candidates are short of. -/
theorem totalWant_eq (hunits : 0 ≤ units) :
    totalWant (wantsOf candidates units coverDays) =
      totalShortfall candidates (levelFor candidates units coverDays) :=
  sum_wants hunits id rfl

/-- The candidates of destinations with distinct ids. -/
theorem candidates_of {destinations : List (DestinationPosition I)}
    (hids : (idsOf destinations).Nodup) :
    Candidates (candidatesOf destinations) where
  ids := hids.sublist (List.filter_sublist.map _)
  selling d hd := by
    have hrate := of_decide_eq_true (List.mem_filter.mp hd).2
    exact lt_trans (by norm_num [NO_RATE_EPSILON]) hrate

variable {K : Type} [LinearOrder K] {collate : I → K}

variable (candidates units coverDays) in
/-- The wants, sorted. -/
def sortedWants (collate : I → K) : List (Want I) :=
  (wantsOf candidates units coverDays).insertionSort (ByRemainder collate)

/-- Sorting loses no want. -/
theorem perm_sortedWants :
    (sortedWants candidates units coverDays collate).Perm (wantsOf candidates units coverDays) :=
  List.perm_insertionSort _ _

end Wanted

/-! ## The map of quantities -/

variable [LinearOrder I] {K : Type} [LinearOrder K] {collate : I → K}

/-- The map has an entry for each of the ids. -/
def HasKeys (ids : List I) (m : Quantities I) : Prop :=
  (m.map Prod.fst).Perm ids

/-- Adding to an entry keeps the ids. -/
theorem HasKeys.addTo {ids : List I} {m : Quantities I} (h : HasKeys ids m) {id : I}
    (hid : id ∈ ids) (n : ℤ) : HasKeys ids (addTo m id n) := by
  rw [HasKeys, keys_addTo, if_pos (h.mem_iff.mpr hid)]
  exact h

/-- The total of a map, id by id. -/
theorem HasKeys.total_eq {ids : List I} {m : Quantities I} (h : HasKeys ids m) (hids : ids.Nodup) :
    m.total = (ids.map (totalIn m)).sum :=
  sum_values_eq hids h

/-! ## Handing out -/

section HandOut

variable {ids : List I} (ws : List (Want I)) (m : Quantities I) (spare : ℤ)

/-- Handing out keeps the ids. -/
theorem hasKeys_handOut (hws : ∀ w ∈ ws, w.d.locationId ∈ ids) (h : HasKeys ids m) :
    HasKeys ids (handOut ws m spare) := by
  induction ws generalizing m spare with
  | nil => exact h
  | cons w ws ih =>
      obtain ⟨hw, hws⟩ := List.forall_mem_cons.mp hws
      rw [handOut]
      split
      · exact h
      · exact ih _ _ hws (h.addTo hw 1)

/-- Handing out gives away the spare units, as long as there is someone who wants one. -/
theorem total_handOut :
    (handOut ws m spare).total = m.total + min (max 0 spare) ws.length := by
  induction ws generalizing m spare with
  | nil => simp [handOut]
  | cons w ws ih =>
      rw [handOut]
      split
      case isTrue hspare =>
        rw [max_eq_left hspare, min_eq_left (Int.natCast_nonneg _), add_zero]
      case isFalse hspare =>
        rw [ih, Quantities.total, sum_addTo, ← Quantities.total, List.length_cons]
        push_cast
        omega

/-- Handing out takes nothing back. -/
theorem le_totalIn_handOut (id : I) : totalIn m id ≤ totalIn (handOut ws m spare) id := by
  induction ws generalizing m spare with
  | nil => exact le_rfl
  | cons w ws ih =>
      rw [handOut]
      split
      · exact le_rfl
      · refine le_trans ?_ (ih _ _)
        rw [totalIn_addTo]
        split <;> omega

/-- Only those who want something are given a unit. -/
theorem totalIn_handOut_of_not_mem {id : I} (h : id ∉ wantIds ws) :
    totalIn (handOut ws m spare) id = totalIn m id := by
  induction ws generalizing m spare with
  | nil => rfl
  | cons w ws ih =>
      rw [wantIds, List.map_cons, List.mem_cons, not_or] at h
      obtain ⟨hne, hrest⟩ := h
      rw [handOut]
      split
      · rfl
      · rw [ih _ _ hrest, totalIn_addTo, if_neg (Ne.symm hne), add_zero]

/-- Nobody is given more than one unit. -/
theorem totalIn_handOut_le (hws : (wantIds ws).Nodup) (id : I) :
    totalIn (handOut ws m spare) id ≤ totalIn m id + 1 := by
  induction ws generalizing m spare with
  | nil => exact Int.le_add_one le_rfl
  | cons w ws ih =>
      obtain ⟨hw, hrest⟩ := List.nodup_cons.mp hws
      rw [handOut]
      split
      · exact Int.le_add_one le_rfl
      · by_cases hid : w.d.locationId = id
        · -- the unit given now is the last one for this id
          rw [totalIn_handOut_of_not_mem _ _ _ (hid ▸ hw), totalIn_addTo, if_pos hid]
        · refine (ih _ _ hrest).trans_eq ?_
          rw [totalIn_addTo, if_neg hid, add_zero]

end HandOut

/-! ## The level, in whole units -/

section Levelled

variable {candidates : List (DestinationPosition I)} {units : ℤ} {coverDays : ℚ}

/-- The floored wants have an entry for each candidate. -/
theorem hasKeys_floored (h : Candidates candidates) (hunits : 0 ≤ units) :
    HasKeys (idsOf candidates) (flooredQty candidates (wantsOf candidates units coverDays)) := by
  refine (List.perm_ext_iff_of_nodup
    (nodup_keys_setEntries _ (nodup_keys_setEntries_nil _)) h.ids).mpr fun id => ?_
  rw [mem_keys_setEntries, mem_keys_setEntries, List.map_map, List.map_map]
  constructor
  · rintro ((hnil | hid) | hid)
    · exact absurd hnil List.not_mem_nil
    · exact hid
    · obtain ⟨w, hw, rfl⟩ := List.mem_map.mp hid
      exact List.mem_map_of_mem (f := DestinationPosition.locationId) ((mem_wantsOf hunits).mp hw).1
  · exact fun hid => Or.inl (Or.inr hid)

/-- The floored want of a candidate. -/
theorem totalIn_floored (h : Candidates candidates) (hunits : 0 ≤ units)
    {d : DestinationPosition I} (hd : d ∈ candidates) :
    totalIn (flooredQty candidates (wantsOf candidates units coverDays)) d.locationId =
      ⌊shortfall d (levelFor candidates units coverDays)⌋ := by
  have hkeys : ((wantsOf candidates units coverDays).map fun w =>
      (w.d.locationId, ⌊w.want⌋)).map Prod.fst = wantIds (wantsOf candidates units coverDays) := by
    rw [List.map_map]
    rfl
  have hnodup := hkeys ▸ nodup_wantIds units coverDays h
  rw [totalIn, flooredQty, lookup_setEntries _ hnodup]
  rcases (shortfall_nonneg d (levelFor candidates units coverDays)).lt_or_eq with hpos | hzero
  · -- the entry of its want is the one that is found
    have hmem : (d.locationId, ⌊shortfall d (levelFor candidates units coverDays)⌋) ∈
        (wantsOf candidates units coverDays).map fun w => (w.d.locationId, ⌊w.want⌋) :=
      List.mem_map.mpr ⟨⟨d, _⟩, (mem_wantsOf hunits).mpr ⟨hd, rfl, hpos⟩, rfl⟩
    rw [lookup_of_mem hnodup hmem]
    rfl
  · -- it wants nothing, so the zero it started with is left
    have hnot : d.locationId ∉ wantIds (wantsOf candidates units coverDays) := by
      intro hid
      obtain ⟨w, hw, heq⟩ := List.mem_map.mp hid
      obtain ⟨hcand, hwant, hpos⟩ := (mem_wantsOf hunits).mp hw
      rw [h.eq_of_id hcand hd heq] at hwant
      exact absurd (hwant.trans hzero.symm) hpos.ne'
    have hstart : (candidates.map fun d => (d.locationId, (0 : ℤ))).map Prod.fst =
        idsOf candidates := by
      rw [List.map_map]
      rfl
    have hzeros : (candidates.map fun d => (d.locationId, (0 : ℤ))).lookup d.locationId = some 0 :=
      lookup_of_mem (hstart ▸ h.ids) (List.mem_map.mpr ⟨d, hd, rfl⟩)
    rw [lookup_of_not_mem (hkeys ▸ hnot), Option.none_or, lookup_setEntries _ (hstart ▸ h.ids),
      hzeros, ← hzero]
    simp

/-- Floors come to no more than what they are floors of. -/
theorem cast_sum_floor_le {α : Type} (f : α → ℚ) (l : List α) :
    (((l.map fun a => ⌊f a⌋).sum : ℤ) : ℚ) ≤ (l.map f).sum := by
  induction l with
  | nil => simp
  | cons a l ih =>
      rw [List.map_cons, List.sum_cons, List.map_cons, List.sum_cons, Int.cast_add]
      exact add_le_add (Int.floor_le (f a)) ih

/-- Floors fall short by at most one each. -/
theorem le_cast_sum_floor {α : Type} (f : α → ℚ) (l : List α) :
    (l.map f).sum ≤ (((l.map fun a => ⌊f a⌋).sum + l.length : ℤ) : ℚ) := by
  induction l with
  | nil => simp
  | cons a l ih =>
      have hfloor := (Int.lt_floor_add_one (f a)).le
      simp only [List.map_cons, List.sum_cons, List.length_cons]
      push_cast at ih ⊢
      linarith

/-- What the floored wants come to. -/
theorem total_floored (h : Candidates candidates) (hunits : 0 ≤ units) :
    (flooredQty candidates (wantsOf candidates units coverDays)).total =
      ((wantsOf candidates units coverDays).map fun w => ⌊w.want⌋).sum := by
  rw [(hasKeys_floored h hunits).total_eq h.ids, sum_wants hunits (⌊·⌋) Int.floor_zero, idsOf,
    List.map_map]
  exact congrArg List.sum (List.map_congr_left fun d hd => totalIn_floored h hunits hd)

variable (candidates units coverDays) in
/-- The units that are handed out. -/
def spareUnits : ℤ :=
  budgetFor (wantsOf candidates units coverDays) units -
    (flooredQty candidates (wantsOf candidates units coverDays)).total

/-- The quantities that fill the level. -/
theorem levelledQty_eq :
    levelledQty collate candidates units coverDays =
      handOut (sortedWants candidates units coverDays collate)
        (flooredQty candidates (wantsOf candidates units coverDays))
        (spareUnits candidates units coverDays) := rfl

variable (coverDays) in
/-- The floored wants are within the budget. -/
theorem spareUnits_nonneg (h : Candidates candidates) (hne : candidates ≠ []) (hunits : 0 < units) :
    0 ≤ spareUnits candidates units coverDays := by
  have hfloors := cast_sum_floor_le Want.want (wantsOf candidates units coverDays)
  have hwants := totalWant_eq candidates coverDays hunits.le
  have hlevel := (levelFor_spec coverDays h hne hunits).2
  rw [spareUnits, total_floored h hunits.le, sub_nonneg, budgetFor, le_min_iff]
  rw [← hwants] at hlevel
  constructor
  · exact_mod_cast hfloors.trans hlevel
  · refine Int.le_floor.mpr (hfloors.trans ?_)
    exact le_add_of_nonneg_right (by norm_num [SLACK])

/-- Filling the level takes no more units than there are. -/
theorem total_levelled_le (h : Candidates candidates) (hne : candidates ≠ []) (hunits : 0 < units) :
    (levelledQty collate candidates units coverDays).total ≤ units := by
  have hspare := spareUnits_nonneg coverDays h hne hunits
  rw [levelledQty_eq, total_handOut, max_eq_right hspare]
  have hbudget := min_le_left units ⌊totalWant (wantsOf candidates units coverDays) + SLACK⌋
  have hmin := min_le_left (spareUnits candidates units coverDays)
    ((sortedWants candidates units coverDays collate).length : ℤ)
  rw [spareUnits, budgetFor] at hmin
  rw [spareUnits, budgetFor]
  omega

variable (collate) in
/-- When the level needs exactly the units there are, filling it takes them all. -/
theorem total_levelled_eq (h : Candidates candidates) (hne : candidates ≠ []) (hunits : 0 < units)
    (hexact : totalShortfall candidates (levelFor candidates units coverDays) = units) :
    (levelledQty collate candidates units coverDays).total = units := by
  have hspare := spareUnits_nonneg coverDays h hne hunits
  have hwants := (totalWant_eq candidates coverDays hunits.le).trans
    hexact
  have hbudget : budgetFor (wantsOf candidates units coverDays) units = units := by
    rw [budgetFor, hwants]
    refine min_eq_left (Int.le_floor.mpr ?_)
    exact le_add_of_nonneg_right (by norm_num [SLACK])
  -- each want falls short of the next unit by less than one, so there is someone for every unit
  have hlength : spareUnits candidates units coverDays ≤
      ((sortedWants candidates units coverDays collate).length : ℤ) := by
    have hfloors := le_cast_sum_floor Want.want (wantsOf candidates units coverDays)
    rw [show ((wantsOf candidates units coverDays).map Want.want).sum = units from hwants]
      at hfloors
    have hint := Int.cast_le.mp hfloors
    rw [spareUnits, hbudget, total_floored h hunits.le, perm_sortedWants.length_eq]
    omega
  rw [levelledQty_eq, total_handOut, max_eq_right hspare, min_eq_left hlength, spareUnits, hbudget]
  omega

/-- Filling the level keeps an entry for each candidate. -/
theorem hasKeys_levelled (h : Candidates candidates) (hunits : 0 ≤ units) :
    HasKeys (idsOf candidates) (levelledQty collate candidates units coverDays) := by
  refine hasKeys_handOut _ _ _ (fun w hw => ?_) (hasKeys_floored h hunits)
  exact List.mem_map_of_mem ((mem_wantsOf hunits).mp (perm_sortedWants.subset hw)).1

variable (collate coverDays) in
/-- A candidate gets what it is short of, rounded down or up. -/
theorem levelled_between (h : Candidates candidates) (hunits : 0 ≤ units)
    {d : DestinationPosition I} (hd : d ∈ candidates) :
    ⌊shortfall d (levelFor candidates units coverDays)⌋ ≤
        totalIn (levelledQty collate candidates units coverDays) d.locationId ∧
      totalIn (levelledQty collate candidates units coverDays) d.locationId ≤
        ⌊shortfall d (levelFor candidates units coverDays)⌋ + 1 := by
  rw [← totalIn_floored h hunits hd]
  have hnodup : (wantIds (sortedWants candidates units coverDays collate)).Nodup :=
    (perm_sortedWants.map _).nodup_iff.mpr (nodup_wantIds _ _ h)
  exact ⟨le_totalIn_handOut _ _ _ _, totalIn_handOut_le _ _ _ hnodup _⟩

/-- A candidate that is short of nothing gets nothing. -/
theorem levelled_zero (h : Candidates candidates) (hunits : 0 ≤ units)
    {d : DestinationPosition I} (hd : d ∈ candidates)
    (hzero : shortfall d (levelFor candidates units coverDays) = 0) :
    totalIn (levelledQty collate candidates units coverDays) d.locationId = 0 := by
  rw [levelledQty_eq, totalIn_handOut_of_not_mem, totalIn_floored h hunits hd, hzero,
    Int.floor_zero]
  intro hid
  obtain ⟨w, hw, heq⟩ := List.mem_map.mp hid
  obtain ⟨hcand, hwant, hpos⟩ := (mem_wantsOf hunits).mp (perm_sortedWants.subset hw)
  rw [h.eq_of_id hcand hd heq] at hwant
  exact absurd (hwant.trans hzero) hpos.ne'

end Levelled

/-! ## The drain -/

section Drain

variable {candidates : List (DestinationPosition I)} {options : SizeTransferOptions} {units : ℤ}
  {coverDays : ℚ}

/-- A turn of the search keeps what it had, or finds a destination that is not well covered. -/
theorem mem_betterOf {m : Quantities I} {drainCoverDays : ℚ}
    {best : Option (DestinationPosition I)} {d b : DestinationPosition I}
    (h : b ∈ betterOf m drainCoverDays best d) :
    b ∈ best ∨ (b = d ∧ coverOf m d < drainCoverDays) := by
  unfold betterOf at h
  split at h
  case isTrue => exact Or.inl h
  case isFalse hlow =>
    cases best with
    | none => exact Or.inr ⟨(Option.some.inj h).symm, not_le.mp hlow⟩
    | some best =>
        simp only at h
        split at h
        · exact Or.inr ⟨(Option.some.inj h).symm, not_le.mp hlow⟩
        · exact Or.inl h

/-- The best destination is a candidate that is not well covered. -/
theorem bestOf_spec {m : Quantities I} {drainCoverDays : ℚ} {d : DestinationPosition I}
    (h : bestOf candidates m drainCoverDays = some d) :
    d ∈ candidates ∧ coverOf m d < drainCoverDays := by
  -- from any start, the search keeps what it had or finds such a candidate
  have hsearch : ∀ (l : List (DestinationPosition I)) (best : Option (DestinationPosition I)),
      ∀ b ∈ l.foldl (betterOf m drainCoverDays) best,
        b ∈ best ∨ (b ∈ l ∧ coverOf m b < drainCoverDays) := by
    intro l
    induction l with
    | nil => exact fun best b hb => Or.inl hb
    | cons e l ih =>
        intro best b hb
        rcases ih _ b hb with hfound | ⟨hmem, hlow⟩
        · rcases mem_betterOf hfound with hold | ⟨rfl, hlow⟩
          · exact Or.inl hold
          · exact Or.inr ⟨List.mem_cons_self, hlow⟩
        · exact Or.inr ⟨List.mem_cons_of_mem _ hmem, hlow⟩
  exact (hsearch candidates none d h).resolve_left (Option.not_mem_none d)

/-- What holds between two turns of the drain: what is moved and what is left are the units there
are, and no candidate has got a unit too many. -/
structure Holds (candidates : List (DestinationPosition I)) (units : ℤ) (bound : ℚ)
    (s : DrainState I) : Prop where
  keys : HasKeys (idsOf candidates) s.qtyByLocation
  nonneg : ∀ d ∈ candidates, 0 ≤ totalIn s.qtyByLocation d.locationId
  capped : ∀ d ∈ candidates, 0 < totalIn s.qtyByLocation d.locationId →
    (d.onHand + totalIn s.qtyByLocation d.locationId - 1) / d.runRate ≤ bound
  surplus : 0 ≤ s.surplus
  total : s.qtyByLocation.total + s.surplus = units

/-- A turn of the drain moves one unit to a candidate that is not well covered. -/
theorem drainStep_eq_some {s s' : DrainState I} (h : drainStep options candidates s = some s') :
    0 < s.surplus ∧ s'.surplus = s.surplus - 1 ∧ ∃ d ∈ candidates,
      coverOf s.qtyByLocation d < options.drainTo ∧
        s'.qtyByLocation = addTo s.qtyByLocation d.locationId 1 := by
  rw [drainStep] at h
  split at h
  case isTrue hmore =>
    obtain ⟨d, hd, rfl⟩ := Option.map_eq_some_iff.mp h
    obtain ⟨hmem, hlow⟩ := bestOf_spec hd
    exact ⟨hmore.2, rfl, d, hmem, hlow, rfl⟩
  case isFalse => cases h

/-- A turn of the drain keeps what holds. -/
theorem holds_drainStep (hcand : Candidates candidates) {bound : ℚ}
    (hbound : options.drainTo ≤ bound) {s s' : DrainState I} (hs : Holds candidates units bound s)
    (h : drainStep options candidates s = some s') : Holds candidates units bound s' := by
  obtain ⟨hmore, hsurplus, best, hbest, hlow, hqty⟩ := drainStep_eq_some h
  have hlookup : ∀ d ∈ candidates, totalIn s'.qtyByLocation d.locationId =
      totalIn s.qtyByLocation d.locationId + if best = d then 1 else 0 := by
    intro d hd
    rw [hqty, totalIn_addTo]
    have hiff : best.locationId = d.locationId ↔ best = d :=
      ⟨hcand.eq_of_id hbest hd, fun heq => heq ▸ rfl⟩
    simp only [hiff]
  constructor
  case keys =>
    rw [hqty]
    exact hs.keys.addTo (List.mem_map_of_mem hbest) 1
  case nonneg =>
    intro d hd
    have hold := hs.nonneg d hd
    rw [hlookup d hd]
    split <;> omega
  case capped =>
    intro d hd hpos
    rw [hlookup d hd] at hpos ⊢
    split at hpos
    case isTrue heq =>
      -- before this unit it was not well covered
      subst heq
      rw [if_pos rfl, Int.cast_add, Int.cast_one, ← add_assoc, add_sub_cancel_right]
      exact (hlow.trans_le hbound).le
    case isFalse hne =>
      rw [if_neg hne]
      rw [add_zero] at hpos ⊢
      exact hs.capped d hd hpos
  case surplus => omega
  case total =>
    have htotal := hs.total
    rw [hqty, Quantities.total, sum_addTo, ← Quantities.total, hsurplus]
    omega

/-- The drain ends: with more fuel than there is surplus it stops, at quantities that hold. -/
theorem drainLoop_eq_some (hcand : Candidates candidates) {bound : ℚ}
    (hbound : options.drainTo ≤ bound) {s : DrainState I} (hs : Holds candidates units bound s) :
    ∃ s', Holds candidates units bound s' ∧ ∀ fuel, s.surplus.toNat < fuel →
      drainLoop options candidates fuel s = some s'.qtyByLocation := by
  induction hsurplus : s.surplus.toNat generalizing s with
  | zero =>
      -- nothing is left to move
      refine ⟨s, hs, fun fuel hfuel => ?_⟩
      obtain ⟨fuel, rfl⟩ := Nat.exists_eq_add_of_lt hfuel
      have hstop : drainStep options candidates s = none := by
        rw [drainStep, if_neg]
        omega
      rw [Nat.zero_add, drainLoop, hstop]
  | succ n ih =>
      cases hstep : drainStep options candidates s with
      | none =>
          refine ⟨s, hs, fun fuel hfuel => ?_⟩
          obtain ⟨fuel, rfl⟩ := Nat.exists_eq_add_of_lt hfuel
          rw [drainLoop, hstep]
      | some s' =>
          obtain ⟨-, hless, -⟩ := drainStep_eq_some hstep
          obtain ⟨final, hfinal, hloop⟩ := ih (holds_drainStep hcand hbound hs hstep) (by omega)
          refine ⟨final, hfinal, fun fuel hfuel => ?_⟩
          obtain ⟨fuel, rfl⟩ := Nat.exists_eq_add_of_lt hfuel
          rw [drainLoop, hstep]
          exact hloop _ (by omega)

/-- The drain starts from quantities that hold. -/
theorem holds_levelled (hcand : Candidates candidates) (hne : candidates ≠ []) (hunits : 0 < units)
    {bound : ℚ} (hbound : coverDays ≤ bound) :
    Holds candidates units bound
      { qtyByLocation := levelledQty collate candidates units coverDays
        surplus := units - (levelledQty collate candidates units coverDays).total } := by
  have hlevel := (levelFor_spec coverDays hcand hne hunits).1
  constructor
  case keys => exact hasKeys_levelled hcand hunits.le
  case nonneg =>
    intro d hd
    exact (Int.floor_nonneg.mpr (shortfall_nonneg d _)).trans
      (levelled_between _ _ hcand hunits.le hd).1
  case capped =>
    intro d hd hpos
    have hrate := hcand.selling d hd
    -- a candidate that got something is short of the level, by more than all but its last unit
    have hshort : 0 < shortfall d (levelFor candidates units coverDays) := by
      refine (shortfall_nonneg d _).lt_of_ne fun hzero => ?_
      exact hpos.ne' (levelled_zero hcand hunits.le hd hzero.symm)
    have hbelow := (shortfall_pos_iff hrate).mp hshort
    have hqty := (levelled_between collate coverDays hcand hunits.le
      hd).2
    have hfloor := Int.floor_le (shortfall d (levelFor candidates units coverDays))
    rw [shortfall_of_below hrate hbelow.le] at hqty hfloor
    have hcast : ((totalIn (levelledQty collate candidates units coverDays) d.locationId : ℤ) : ℚ) ≤
        (⌊d.runRate * levelFor candidates units coverDays - d.onHand⌋ : ℤ) + 1 := by
      exact_mod_cast hqty
    refine ((div_le_iff₀' hrate).mpr ?_).trans (hlevel.trans hbound)
    linarith
  case surplus => exact sub_nonneg.mpr (total_levelled_le hcand hne hunits)
  case total => exact add_sub_cancel _ _

end Drain

/-! ## The moves -/

section Moves

variable {destinations candidates : List (DestinationPosition I)} {options : SizeTransferOptions}
  {units : ℤ} {coverDays : ℚ}

variable (options coverDays) in
/-- The moves that quantities come to. -/
def movesOf (candidates : List (DestinationPosition I)) (m : Quantities I) :
    List (SizedTransfer I) :=
  (candidates.map (moveTo options coverDays m)).filter fun line => 0 < line.qty

/-- A move that is kept moves what was sized. -/
theorem keptQty_eq {m : Quantities I} {d : DestinationPosition I}
    (hpos : 0 < keptQty options coverDays m d) :
    keptQty options coverDays m d = totalIn m d.locationId := by
  rw [keptQty] at hpos ⊢
  split at hpos
  case isTrue => exact absurd hpos (lt_irrefl 0)
  case isFalse hkeep => exact if_neg hkeep

variable (options coverDays) in
/-- A move is at most what was sized. -/
theorem keptQty_le {m : Quantities I} {d : DestinationPosition I}
    (hnonneg : 0 ≤ totalIn m d.locationId) :
    keptQty options coverDays m d ≤ totalIn m d.locationId := by
  rw [keptQty]
  split
  · exact hnonneg
  · exact le_rfl

/-- A move goes to a candidate and moves what was sized for it. -/
theorem mem_movesOf {m : Quantities I} {line : SizedTransfer I}
    (h : line ∈ movesOf options coverDays candidates m) :
    ∃ d ∈ candidates, line = moveTo options coverDays m d ∧ 0 < line.qty ∧
      line.qty = totalIn m d.locationId := by
  obtain ⟨hmem, hpos⟩ := List.mem_filter.mp h
  obtain ⟨d, hd, rfl⟩ := List.mem_map.mp hmem
  have hpos := of_decide_eq_true hpos
  exact ⟨d, hd, rfl, hpos, keptQty_eq hpos⟩

/-- A candidate gets at most one move. -/
theorem nodup_movesOf (hcand : Candidates candidates) (m : Quantities I) :
    ((movesOf options coverDays candidates m).map SizedTransfer.toLocationId).Nodup := by
  refine List.Nodup.sublist ?_ hcand.ids
  have hsub := (List.filter_sublist (p := fun line : SizedTransfer I => decide (0 < line.qty))
    (l := candidates.map (moveTo options coverDays m))).map SizedTransfer.toLocationId
  rwa [List.map_map] at hsub

/-- The moves move what is kept of every candidate. -/
theorem sum_movesOf {m : Quantities I} (hnonneg : ∀ d ∈ candidates, 0 ≤ totalIn m d.locationId) :
    ((movesOf options coverDays candidates m).map SizedTransfer.qty).sum =
      (candidates.map fun d => keptQty options coverDays m d).sum := by
  have hfilter := sum_filter_pos (l := candidates.map (moveTo options coverDays m))
    (f := fun line => (line.qty : ℚ)) (g := SizedTransfer.qty) (fun line hline => ?_)
    (fun line _ hzero => Int.cast_eq_zero.mp hzero)
  · simp only [Int.cast_pos, List.map_map] at hfilter
    exact hfilter
  · obtain ⟨d, hd, rfl⟩ := List.mem_map.mp hline
    refine Int.cast_nonneg ?_
    show 0 ≤ keptQty options coverDays m d
    rw [keptQty]
    split
    · exact le_rfl
    · exact hnonneg d hd

variable (collate units coverDays) in
/-- The drain starts from the quantities that fill the level. -/
def drainStart (candidates : List (DestinationPosition I)) : DrainState I :=
  { qtyByLocation := levelledQty collate candidates units coverDays
    surplus := units - (levelledQty collate candidates units coverDays).total }

/-- The moves are those of the drained quantities. -/
theorem sizeTransfers_go {available : ℚ} (hunits : 0 < unitsOf available)
    (hne : candidatesOf destinations ≠ []) (fuel : ℕ) :
    sizeTransfers collate fuel available destinations coverDays options =
      (drainLoop options (candidatesOf destinations) fuel
        (drainStart collate (unitsOf available) coverDays (candidatesOf destinations))).map
          (movesOf options coverDays (candidatesOf destinations)) := by
  have hgo : ¬ (unitsOf available ≤ 0 ∨ (candidatesOf destinations).length = 0) := by
    rw [not_or, List.length_eq_zero_iff]
    exact ⟨not_le.mpr hunits, hne⟩
  exact if_neg hgo

variable (collate options coverDays) in
/-- The moves are made of quantities that hold, as soon as there is more fuel than units. -/
theorem sizeTransfers_eq (hcand : Candidates (candidatesOf destinations)) {available : ℚ}
    (hunits : 0 < unitsOf available) (hne : candidatesOf destinations ≠ []) :
    ∃ s, Holds (candidatesOf destinations) (unitsOf available) (max coverDays options.drainTo) s ∧
      ∀ fuel, (unitsOf available).toNat < fuel →
        sizeTransfers collate fuel available destinations coverDays options =
          some (movesOf options coverDays (candidatesOf destinations) s.qtyByLocation) := by
  have hstart : Holds (candidatesOf destinations) (unitsOf available)
      (max coverDays options.drainTo)
      (drainStart collate (unitsOf available) coverDays (candidatesOf destinations)) :=
    holds_levelled hcand hne hunits (le_max_left _ _)
  obtain ⟨s, hs, hloop⟩ := drainLoop_eq_some hcand (le_max_right coverDays options.drainTo) hstart
  refine ⟨s, hs, fun fuel hfuel => ?_⟩
  -- the surplus is at most the units, since nothing negative is moved
  have hmoved : 0 ≤ (drainStart collate (unitsOf available) coverDays
      (candidatesOf destinations)).qtyByLocation.total := by
    rw [hstart.keys.total_eq hcand.ids]
    refine List.sum_nonneg fun q hq => ?_
    obtain ⟨id, hid, rfl⟩ := List.mem_map.mp hq
    obtain ⟨d, hd, rfl⟩ := List.mem_map.mp hid
    exact hstart.nonneg d hd
  have htotal := hstart.total
  rw [sizeTransfers_go hunits hne, hloop fuel (by omega)]
  rfl

/-- Without units or candidates nothing is moved. -/
theorem sizeTransfers_nothing {available : ℚ}
    (h : unitsOf available ≤ 0 ∨ (candidatesOf destinations).length = 0) (fuel : ℕ) :
    sizeTransfers collate fuel available destinations coverDays options = some [] :=
  if_pos h

/-- Sizing ends, moves whole units, no more than there are, to destinations that sell, and no
destination gets a unit that it did not need to reach the cover it may have. -/
theorem sizeTransfers_conserves (collate : I → K) (available : ℚ)
    (destinations : List (DestinationPosition I)) (coverDays : ℚ) (options : SizeTransferOptions)
    (hids : (idsOf destinations).Nodup) :
    ∃ lines,
      (∀ fuel, (unitsOf available).toNat < fuel →
        sizeTransfers collate fuel available destinations coverDays options = some lines) ∧
      (∀ line ∈ lines, 0 < line.qty) ∧
      (lines.map SizedTransfer.qty).sum ≤ ⌊max 0 available⌋ ∧
      (∀ line ∈ lines, line.toLocationId ∈ idsOf destinations) ∧
      ∀ d ∈ destinations, ∀ line ∈ lines, line.toLocationId = d.locationId →
        NO_RATE_EPSILON < d.runRate ∧
          (d.onHand + line.qty - 1) / d.runRate ≤ max coverDays options.drainTo := by
  by_cases hstop : unitsOf available ≤ 0 ∨ (candidatesOf destinations).length = 0
  · refine ⟨[], fun fuel _ => sizeTransfers_nothing hstop fuel, ?_⟩
    simp [Int.floor_nonneg]
  · rw [not_or, not_le, List.length_eq_zero_iff] at hstop
    have hcand := candidates_of hids
    obtain ⟨s, hs, hsize⟩ := sizeTransfers_eq collate options coverDays hcand hstop.1 hstop.2
    refine ⟨_, hsize, fun line hline => ?_, ?_, fun line hline => ?_, fun d hd line hline hid => ?_⟩
    · obtain ⟨d, _, _, hpos, _⟩ := mem_movesOf hline
      exact hpos
    · -- what is kept is at most what was sized, and that is at most what there is
      rw [sum_movesOf hs.nonneg]
      have hkept := List.sum_le_sum fun d hd =>
        keptQty_le options coverDays (hs.nonneg d hd)
      refine hkept.trans ?_
      have htotal := hs.total
      have hsurplus := hs.surplus
      rw [hs.keys.total_eq hcand.ids, idsOf, List.map_map] at htotal
      exact (le_add_of_nonneg_right hsurplus).trans_eq htotal
    · obtain ⟨d, hd, rfl, _, _⟩ := mem_movesOf hline
      exact List.mem_map_of_mem (List.mem_of_mem_filter hd)
    · obtain ⟨e, he, rfl, hpos, hqty⟩ := mem_movesOf hline
      obtain rfl : e = d := List.inj_on_of_nodup_map hids (List.mem_of_mem_filter he) hd hid
      refine ⟨of_decide_eq_true (List.mem_filter.mp he).2, ?_⟩
      rw [hqty] at hpos ⊢
      exact hs.capped e he hpos

/-- Two branches, one of them oversold. -/
def twoBranches : List (DestinationPosition ℕ) :=
  [{ locationId := 1, onHand := -2, runRate := 1 }, { locationId := 2, onHand := 5, runRate := 2 }]

/-- Ten and a half units for two branches. -/
theorem sizeTransfers_conserves_two :
    ∃ lines, sizeTransfers id 11 (21 / 2) twoBranches 14 = some lines ∧
      (lines.map SizedTransfer.qty).sum ≤ 10 := by
  obtain ⟨lines, hsize, -, hsum, -⟩ :=
    sizeTransfers_conserves id (21 / 2) twoBranches 14 {} (by decide)
  exact ⟨lines, hsize 11 (by decide +kernel), hsum.trans_eq (by decide +kernel)⟩

/-! ## The level fill, exactly -/

/-- The units a destination receives. -/
def received (lines : List (SizedTransfer I)) (id : I) : ℤ :=
  total (lines.map fun line => (line.toLocationId, line.qty)) id

/-- A candidate receives the move that is kept for it. -/
theorem received_movesOf (hcand : Candidates candidates) {m : Quantities I}
    {d : DestinationPosition I} (hd : d ∈ candidates)
    (hnonneg : 0 ≤ keptQty options coverDays m d) :
    received (movesOf options coverDays candidates m) d.locationId =
      keptQty options coverDays m d := by
  have hkeys : ((movesOf options coverDays candidates m).map fun line =>
      (line.toLocationId, line.qty)).map Prod.fst =
        (movesOf options coverDays candidates m).map SizedTransfer.toLocationId := by
    rw [List.map_map]
    rfl
  rcases hnonneg.lt_or_eq with hpos | hzero
  · refine total_of_mem (hkeys ▸ nodup_movesOf hcand m)
      (e := (d.locationId, keptQty options coverDays m d)) ?_
    refine List.mem_map.mpr ⟨moveTo options coverDays m d, ?_, rfl⟩
    exact List.mem_filter.mpr ⟨List.mem_map_of_mem hd, decide_eq_true hpos⟩
  · rw [← hzero]
    refine total_eq_zero fun hid => ?_
    rw [hkeys] at hid
    obtain ⟨line, hline, heq⟩ := List.mem_map.mp hid
    obtain ⟨e, he, rfl, hpos, _⟩ := mem_movesOf hline
    obtain rfl := hcand.eq_of_id he hd heq
    exact hpos.ne hzero

variable (collate options) in
/-- Nothing that fills the level is dropped as too small: who gets something is short of a level
below the target. -/
theorem keptQty_levelled (hcand : Candidates candidates) (hunits : 0 < units)
    (hlevel : levelFor candidates units coverDays < coverDays) {d : DestinationPosition I}
    (hd : d ∈ candidates) :
    keptQty options coverDays (levelledQty collate candidates units coverDays) d =
      totalIn (levelledQty collate candidates units coverDays) d.locationId := by
  have hrate := hcand.selling d hd
  rw [keptQty, if_neg]
  rintro ⟨hpos, -, hcovered⟩
  have hzero := shortfall_of_above hrate (hlevel.le.trans hcovered)
  exact hpos.ne' (levelled_zero hcand hunits.le hd hzero)

/-- A number rounded down or up is within one of it. -/
theorem abs_sub_le_one {x : ℚ} {q : ℤ} (hfloor : ⌊x⌋ ≤ q) (hceil : q ≤ ⌊x⌋ + 1) : |q - x| ≤ 1 := by
  have hlow : x < (q : ℚ) + 1 := (Int.lt_floor_add_one x).trans_le (by exact_mod_cast by omega)
  have hhigh : (q : ℚ) ≤ x + 1 := by
    have hcast : (q : ℚ) ≤ (⌊x⌋ : ℤ) + 1 := by exact_mod_cast hceil
    exact hcast.trans (add_le_add_left (Int.floor_le x) 1)
  exact abs_le.mpr ⟨by linarith, by linarith⟩

/-- Units within one of what a destination is short of leave its cover within a unit's worth. -/
theorem abs_cover_sub_le {onHand rate level q : ℚ} (hrate : 0 < rate)
    (h : |q - (rate * level - onHand)| ≤ 1) : |(onHand + q) / rate - level| ≤ 1 / rate := by
  have heq : (onHand + q) / rate - level = (q - (rate * level - onHand)) / rate := by
    field_simp
    ring
  rw [heq, abs_div, abs_of_pos hrate]
  exact div_le_div_of_nonneg_right h hrate.le

end Moves

end Restock.Transfers

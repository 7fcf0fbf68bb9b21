import Restock.Forecast.ServedRate

/-!
# What the explanation credits

The reasoning of a forecast without an override opens with what set the number: the class minimum,
the fastest rate the product has shown, or the rate that was measured.

* `CreditsMinimum`, `CreditsFastest`, `CreditsMeasured` — what the opening words say;
* `NamesTheSource` — they say what happened;
* `reasoning_names_source` — they do, for a product with completed sales whose measured rate is not
  negative or that a class floor applies to.
-/

namespace Restock.Forecast

/-! ## How a text begins -/

/-- The text begins with these words. -/
def Begins (words text : String) : Prop :=
  ∃ rest, text = words ++ rest

/-- Words begin what they are followed up with. -/
theorem begins_append (words rest : String) : Begins words (words ++ rest) :=
  ⟨rest, rfl⟩

/-- The beginning of a beginning is one. -/
theorem Begins.trans {a b text : String} (hab : Begins a b) (hb : Begins b text) :
    Begins a text := by
  obtain ⟨rest, rfl⟩ := hab
  obtain ⟨rest', rfl⟩ := hb
  exact ⟨rest ++ rest', by rw [String.append_assoc]⟩

/-- Joined sentences begin with the first. -/
theorem begins_intercalate (sep first : String) (rest : List String) :
    Begins first (sep.intercalate (first :: rest)) := by
  induction rest generalizing first with
  | nil => exact ⟨"", String.append_empty.symm⟩
  | cons second rest ih =>
      -- the first two sentences are joined before the others are
      have hjoined : Begins (first ++ sep ++ second)
          (sep.intercalate ((first ++ sep ++ second) :: rest)) := ih _
      refine Begins.trans ⟨sep ++ second, ?_⟩ hjoined
      rw [String.append_assoc]

/-- Words begin with their own beginning. -/
theorem begins_append_left {a b : String} (words : String) (h : Begins a b) :
    Begins (words ++ a) (words ++ b) := by
  obtain ⟨rest, rfl⟩ := h
  exact ⟨rest, by rw [String.append_assoc]⟩

/-- After the same words, a text does not go on in two ways. -/
theorem Begins.eq_of_length {words a b text : String} (ha : Begins (words ++ a) text)
    (hb : Begins (words ++ b) text) (hlen : a.length = b.length) : a = b := by
  obtain ⟨rest, rfl⟩ := ha
  obtain ⟨rest', heq⟩ := hb
  rw [String.append_assoc, String.append_assoc, String.append_right_inj] at heq
  have hlist := congrArg String.toList heq
  rw [String.toList_append, String.toList_append] at hlist
  refine String.toList_injective (List.append_inj_left hlist ?_)
  rw [String.length_toList, String.length_toList, hlen]

namespace ForecastInput

variable (js : Js) (now : Time) (input : ForecastInput)

/-! ## What is credited -/

/-- The words every history-derived forecast opens with. -/
def forecastWords : String :=
  "Forecast " ++ toFixed 0 (input.finalForecast30d js now) ++ " units over 30 days"

/-- The window the rate was measured over. -/
def measuredWords : String :=
  if input.isNew now then "last-" ++ input.spanText now ++ "-day rate (new product)"
  else if input.baselineMethod = .median then
    "weekly-median baseline (8/26/52-week blend; mean fallback for sparse evidence)"
  else "recency-weighted run rate (30/90/365-day blend)"

/-- The sentence that credits the class minimum. -/
def minimumSentence : String :=
  input.forecastWords js now ++ " at the " ++ input.abcForFloor.getD "null"
    ++ "-class minimum of " ++ js.text (input.abcFloor now)
    ++ "/day. The shelf has been empty for most of the window, so "
    ++ "what it sold is not what it would have sold — this is a floor, not a measured rate."

/-- The sentence that credits the fastest the product has sold. -/
def fastestSentence : String :=
  input.forecastWords js now ++ " at " ++ toFixed 2 (input.historyDailyRate now)
    ++ "/day — the fastest this has sold while it was in stock. The shelf has been empty for most "
    ++ "of the window, so its recent rate reads lower than it sells."

/-- The sentence that credits the measured rate. -/
def measuredSentence : String :=
  input.forecastWords js now ++ " from the " ++ input.measuredWords now ++ "."

/-- The sentence on a product without completed sales. -/
def tooNewSentence : String :=
  "No sales history yet — too new to forecast; collect sales before ordering against a prediction."

/-- One of the three is the sentence on what set the number. -/
theorem rateSentence_eq :
    input.rateSentence js now
      = if input.heldAtDemonstrated now then input.fastestSentence js now
        else if input.rateHeldAtFloor now then input.minimumSentence js now
        else input.measuredSentence js now :=
  rfl

/-- The explanation opens with the class minimum. -/
def CreditsMinimum : Prop :=
  Begins (input.minimumSentence js now) (input.reasoning js now)

/-- The explanation opens with the fastest the product has sold. -/
def CreditsFastest : Prop :=
  Begins (input.fastestSentence js now) (input.reasoning js now)

/-- The explanation opens with the measured rate. -/
def CreditsMeasured : Prop :=
  Begins (input.measuredSentence js now) (input.reasoning js now)

/-- A class floor applies: class A or B, a sale in the last thirty days, and a shelf that is proven
to have been mostly empty. -/
def FloorApplies : Prop :=
  (input.abcCategory = some "A" ∨ input.abcCategory = some "B")
    ∧ input.hadRecentSales now = true ∧ input.shelfMostlyEmpty now = true

/-- A class floor that applies lifted the rate. -/
def LiftedByFloor : Prop :=
  input.FloorApplies now ∧ input.rawHistoryDailyRate now < input.historyDailyRate now

/-- The explanation credits the class minimum or the fastest rate exactly where a class floor that
applies lifted the rate, and the measured rate everywhere else. -/
def NamesTheSource : Prop :=
  (input.CreditsMinimum js now ∨ input.CreditsFastest js now ↔ input.LiftedByFloor now)
    ∧ (¬ input.LiftedByFloor now → input.CreditsMeasured js now)

/-- The measured rate is credited, or one of the others is. -/
theorem not_creditsMeasured (h : input.CreditsMinimum js now ∨ input.CreditsFastest js now) :
    ¬ input.CreditsMeasured js now := by
  intro hmeasured
  -- the two go on differently one letter after the opening words
  have hfrom : Begins (input.forecastWords js now ++ " f") (input.reasoning js now) := by
    apply Begins.trans _ hmeasured
    have hword : " from the " = " f" ++ "rom the " := rfl
    rw [measuredSentence, hword]
    simp only [String.append_assoc]
    exact begins_append_left _ (begins_append _ _)
  have hat : Begins (input.forecastWords js now ++ " a") (input.reasoning js now) := by
    rcases h with h | h
    · apply Begins.trans _ h
      have hword : " at the " = " a" ++ "t the " := rfl
      rw [minimumSentence, hword]
      simp only [String.append_assoc]
      exact begins_append_left _ (begins_append _ _)
    · apply Begins.trans _ h
      have hword : " at " = " a" ++ "t " := rfl
      rw [fastestSentence, hword]
      simp only [String.append_assoc]
      exact begins_append_left _ (begins_append _ _)
  exact absurd (hat.eq_of_length hfrom (by decide)) (by decide)

/-- Every history-derived sentence opens with the forecast. -/
theorem begins_forecastWords : Begins (input.forecastWords js now) (input.rateSentence js now) := by
  rw [rateSentence_eq, fastestSentence, minimumSentence, measuredSentence]
  simp only [String.append_assoc]
  split
  · exact begins_append _ _
  · split
    · exact begins_append _ _
    · exact begins_append _ _

/-- A product without completed sales is called too new first. -/
theorem begins_tooNewSentence (hoverride : input.demandOverride = none)
    (hnone : input.demandHistory now = []) :
    Begins tooNewSentence (input.reasoning js now) := by
  have hnew : input.tooNew now = true := by
    have hhistory : input.hasHistory now = false := by
      rw [hasHistory, hnone]
      rfl
    rw [tooNew, hhistory, hoverride]
    rfl
  have hkept : decide (tooNewSentence ≠ "") = true := by decide
  rw [reasoning, if_pos hnew, ← tooNewSentence, List.filter_cons, if_pos hkept]
  exact begins_intercalate _ _ _

/-- A product with completed sales and without an override has the sentence on its rate first. -/
theorem begins_rateSentence (hoverride : input.demandOverride = none)
    (hsold : input.demandHistory now ≠ []) :
    Begins (input.rateSentence js now) (input.reasoning js now) := by
  have hold : input.tooNew now = false := by
    have hhistory : input.hasHistory now = true :=
      decide_eq_true (List.length_pos_of_ne_nil hsold)
    rw [tooNew, hhistory]
    rfl
  -- empty sentences are dropped, but this one has at least its opening word
  have hwords : input.rateSentence js now ≠ "" := by
    obtain ⟨rest, heq⟩ := input.begins_forecastWords js now
    intro hempty
    have hlength := congrArg String.length (heq.symm.trans hempty)
    rw [forecastWords, String.length_append, String.length_append, String.length_append] at hlength
    have hopening : "Forecast ".length = 9 := rfl
    have hnothing : "".length = 0 := rfl
    omega
  have hkept : decide (input.rateSentence js now ≠ "") = true := decide_eq_true hwords
  rw [reasoning, hoverride]
  dsimp only
  rw [hold, if_neg Bool.false_ne_true, List.filter_cons, if_pos hkept]
  exact begins_intercalate _ _ _

/-- The rate is lifted, and the sentence says by what; or it is not, and it says so. -/
theorem credits_cases (hoverride : input.demandOverride = none)
    (hsold : input.demandHistory now ≠ []) :
    (input.rateHeldAtFloor now = true
        ∧ (input.CreditsMinimum js now ∨ input.CreditsFastest js now))
      ∨ (input.rateHeldAtFloor now = false ∧ input.CreditsMeasured js now) := by
  have hfirst := input.begins_rateSentence js now hoverride hsold
  rw [rateSentence_eq] at hfirst
  cases hheld : input.rateHeldAtFloor now with
  | true =>
      refine Or.inl ⟨rfl, ?_⟩
      rw [hheld, if_pos rfl] at hfirst
      split at hfirst
      · exact Or.inr hfirst
      · exact Or.inl hfirst
  | false =>
      have hshown : input.heldAtDemonstrated now = false := by
        rw [heldAtDemonstrated, hheld]
        rfl
      rw [hheld, hshown, if_neg Bool.false_ne_true, if_neg Bool.false_ne_true] at hfirst
      exact Or.inr ⟨rfl, hfirst⟩

/-- A measured rate that is not negative is served as it is where no class floor applies. -/
theorem historyDailyRate_of_not_floorApplies (hfloor : ¬ input.FloorApplies now)
    (hrate : 0 ≤ input.rawHistoryDailyRate now) :
    input.historyDailyRate now = input.rawHistoryDailyRate now := by
  refine applyAbcRateFloor_of_zero _ ?_ hrate
  rw [abcFloorFor]
  split
  · rename_i happlies
    -- then the class is one without a floor
    rw [abcRateFloor, abcForFloor]
    have hclass : ¬ (input.abcCategory = some "A" ∨ input.abcCategory = some "B") :=
      fun h => hfloor ⟨h, happlies⟩
    rw [not_or] at hclass
    split
    · rw [if_neg hclass.1, if_neg hclass.2]
    · rfl
  · rfl

end ForecastInput

/-- Without an override, and where the measured rate is not negative or a class floor applies: a
product without completed sales is called too new, and the explanation of every other one credits
the class minimum or the fastest demonstrated rate exactly where a class floor that applies lifted
the rate, and the measured rate everywhere else. -/
theorem reasoning_names_source (js : Js) (now : Time) (input : ForecastInput)
    (hoverride : input.demandOverride = none)
    (hrate : 0 ≤ input.rawHistoryDailyRate now ∨ input.FloorApplies now) :
    (input.demandHistory now = [] →
        Begins ForecastInput.tooNewSentence (layeredForecast js now input).reasoning)
      ∧ (input.demandHistory now ≠ [] → input.NamesTheSource js now) := by
  refine ⟨fun hnone => ?_, fun hsold => ?_⟩
  · exact input.begins_tooNewSentence js now hoverride hnone
  · have hlifted : input.rateHeldAtFloor now = true ↔ input.LiftedByFloor now := by
      rw [ForecastInput.rateHeldAtFloor, decide_eq_true_eq]
      refine ⟨fun hlt => ⟨?_, hlt⟩, fun h => h.2⟩
      -- a rate that is lifted without a floor would be lifted above itself
      by_contra hfloor
      rw [input.historyDailyRate_of_not_floorApplies now hfloor (hrate.resolve_right hfloor)] at hlt
      exact lt_irrefl _ hlt
    rcases input.credits_cases js now hoverride hsold with ⟨hheld, hcredits⟩ | ⟨hheld, hmeasured⟩
    · have hfloor := hlifted.mp hheld
      exact ⟨⟨fun _ => hfloor, fun _ => hcredits⟩, fun hnot => absurd hfloor hnot⟩
    · -- the measured rate is credited, and no explanation opens with two of the sentences
      have hnot : ¬ input.LiftedByFloor now := by
        rw [← hlifted, hheld]
        exact Bool.false_ne_true
      refine ⟨⟨fun hcredits => ?_, fun hfloor => absurd hfloor hnot⟩, fun _ => hmeasured⟩
      exact absurd hmeasured (input.not_creditsMeasured js now hcredits)

/-- A product that sold seven units yesterday: its rate is measured, and the measured rate is
credited. -/
theorem reasoning_names_source_nearlyNormal :
    (nearlyNormal.demandHistory 0 = [] →
        Begins ForecastInput.tooNewSentence (layeredForecast Js.rational 0 nearlyNormal).reasoning)
      ∧ (nearlyNormal.demandHistory 0 ≠ [] → nearlyNormal.NamesTheSource Js.rational 0) :=
  reasoning_names_source Js.rational 0 nearlyNormal rfl (Or.inl (by decide +kernel))

/-- A product without a sale. -/
def newListing : ForecastInput where
  runDateKey := some 2

/-- A product that sold two units and took three back, on a shelf that was never empty. -/
def netReturned : ForecastInput where
  history := [{ date := DAY_MS, quantity := 2 }, { date := 2 * DAY_MS, quantity := -3 }]
  runDateKey := some 3

/-- The first is called too new, and the second is credited with the minimum of a class that has
none: neither is credited with its measured rate. -/
theorem newListing_netReturned_not_named :
    (newListing.demandOverride = none ∧ ¬ ∃ js : Js, newListing.NamesTheSource js 0)
      ∧ netReturned.demandOverride = none ∧ ¬ ∃ js : Js, netReturned.NamesTheSource js 0 := by
  refine ⟨⟨rfl, ?_⟩, rfl, ?_⟩
  · rintro ⟨js, -, hmeasured⟩
    have hlifted : ¬ newListing.LiftedByFloor 0 := by
      rintro ⟨⟨-, hrecent, -⟩, -⟩
      exact absurd hrecent (by decide)
    -- its explanation begins with an `N`, the one that credits the measured rate with an `F`
    have hnew : Begins ("" ++ "N") (newListing.reasoning js 0) := by
      refine Begins.trans ⟨"o sales history yet — too new to forecast; collect sales before "
        ++ "ordering against a prediction.", by decide⟩
        (newListing.begins_tooNewSentence js 0 rfl rfl)
    have hforecast : Begins ("" ++ "F") (newListing.reasoning js 0) := by
      refine Begins.trans ?_ (hmeasured hlifted)
      have hword : "Forecast " = "F" ++ "orecast " := by decide
      rw [ForecastInput.measuredSentence, ForecastInput.forecastWords, hword, String.empty_append]
      simp only [String.append_assoc]
      exact begins_append _ _
    exact absurd (hnew.eq_of_length hforecast (by decide)) (by decide)
  · rintro ⟨js, -, hmeasured⟩
    have hlifted : ¬ netReturned.LiftedByFloor 0 := by
      rintro ⟨⟨-, -, hempty⟩, -⟩
      exact absurd hempty (by decide)
    have hsold : netReturned.demandHistory 0 ≠ [] := by decide
    have hheld : netReturned.rateHeldAtFloor 0 = true := by decide +kernel
    -- the rate was lifted to nothing, so a class minimum is credited
    rcases netReturned.credits_cases js 0 rfl hsold with ⟨-, hcredits⟩ | ⟨hnot, -⟩
    · exact netReturned.not_creditsMeasured js 0 hcredits (hmeasured hlifted)
    · exact absurd (hheld.symm.trans hnot) (by decide)

end Restock.Forecast

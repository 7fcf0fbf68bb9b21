import Restock.Json.RoundTrip

/-!
# The realtime wire contract

What crosses Redis and the gateway is an event in an envelope, as a JSON text. Whoever reads
one looks the event's type up in an object of validators and calls what it finds. The lookup
follows the prototype chain, so that the names of `Object.prototype` are found too: their
members answer, or throw, instead of a validator.

* `decodeEnvelope`, `encodeEnvelope` — the code;
* `ObjectMember.answer` — what the members of `Object.prototype` answer about some data;
* `IsEnvelope` — the wire contract, `ParsedExactly` — a text is decoded by it;
* `decodeEnvelope_exact` — a text is decoded by the contract unless its type names a member of
  `Object.prototype` that does not refuse its data, and what is encoded is decoded.
-/

namespace Restock.Realtime

open Json

variable {N : Type} (fmt : NumberFormat N)

/-! ## Events -/

/-- The keys of `RealtimeEventMap`. -/
inductive RealtimeEventType
  | syncProgress
  | syncDone
  | forecastDone
  | posIngested
  | notificationNew
  deriving DecidableEq, Repr

/-- A type as it is written. -/
def RealtimeEventType.name : RealtimeEventType → Text
  | .syncProgress => text "sync.progress"
  | .syncDone => text "sync.done"
  | .forecastDone => text "forecast.done"
  | .posIngested => text "pos.ingested"
  | .notificationNew => text "notification.new"

/-- `REALTIME_EVENT_TYPES`. -/
def REALTIME_EVENT_TYPES : List RealtimeEventType :=
  [.syncProgress, .syncDone, .forecastDone, .posIngested, .notificationNew]

/-- A property of a value: what an object has under the key. No value but an object has any of
the properties that are read here. -/
def property (v : Value N) (key : String) : Option (Value N) :=
  match v with
  | .object members => List.lookup (text key) members
  | _ => none

/-- `typeof v === "object" && v !== null`. -/
def isObject : Value N → Bool
  | .object _ => true
  | .array _ => true
  | _ => false

/-- A string that is not empty. -/
def isStr : Option (Value N) → Bool
  | some (.string s) => s ≠ []
  | _ => false

/-- A finite number. -/
def isNum : Option (Value N) → Bool
  | some (.number x) => fmt.isFinite x
  | _ => false

/-- Nothing, or one of some texts. -/
def isOneOf (texts : List String) : Option (Value N) → Bool
  | none => true
  | some (.string s) => s ∈ texts.map text
  | some _ => false

/-- `validators`: what the data of a type needs. Optional fields are checked when present. -/
def validators (d : Value N) : RealtimeEventType → Bool
  | .syncProgress =>
      isStr (property d "tenantId") && isStr (property d "source") && isStr (property d "phase") &&
      isNum fmt (property d "done") && isNum fmt (property d "total") &&
      isOneOf ["started", "running", "finished"] (property d "state") &&
      ((property d "items").isNone || isNum fmt (property d "items")) &&
      ((property d "itemsTotal").isNone || isNum fmt (property d "itemsTotal")) &&
      ((property d "runId").isNone || isStr (property d "runId"))
  | .syncDone =>
      isStr (property d "tenantId") && isStr (property d "source") &&
      (match property d "ok" with | some (.bool _) => true | _ => false) &&
      ((property d "runId").isNone || isStr (property d "runId"))
  | .forecastDone =>
      isStr (property d "tenantId") && isStr (property d "forecastRunId") &&
      isNum fmt (property d "created")
  | .posIngested =>
      isStr (property d "tenantId") && isNum fmt (property d "salesIngested") &&
      isNum fmt (property d "linesUnmatched")
  | .notificationNew =>
      isStr (property d "tenantId") && isStr (property d "kind") && isStr (property d "title")

/-! ## What an object inherits -/

/-- The members of `Object.prototype`. -/
inductive ObjectMember
  | constructor
  | toString
  | toLocaleString
  | valueOf
  | hasOwnProperty
  | propertyIsEnumerable
  | isPrototypeOf
  | defineGetter
  | defineSetter
  | lookupGetter
  | lookupSetter
  | proto
  deriving DecidableEq, Repr

/-- A member as it is written. -/
def ObjectMember.name : ObjectMember → Text
  | .constructor => text "constructor"
  | .toString => text "toString"
  | .toLocaleString => text "toLocaleString"
  | .valueOf => text "valueOf"
  | .hasOwnProperty => text "hasOwnProperty"
  | .propertyIsEnumerable => text "propertyIsEnumerable"
  | .isPrototypeOf => text "isPrototypeOf"
  | .defineGetter => text "__defineGetter__"
  | .defineSetter => text "__defineSetter__"
  | .lookupGetter => text "__lookupGetter__"
  | .lookupSetter => text "__lookupSetter__"
  | .proto => text "__proto__"

/-- All of them. -/
def OBJECT_MEMBERS : List ObjectMember :=
  [.constructor, .toString, .toLocaleString, .valueOf, .hasOwnProperty, .propertyIsEnumerable,
    .isPrototypeOf, .defineGetter, .defineSetter, .lookupGetter, .lookupSetter, .proto]

mutual

/-- The text of an object or an array, and of what is inside an array that is joined, where
`null` leaves no text. Nothing when the conversion throws, for an object that has a `toString`
of its own: what was parsed is never a function. -/
def toText : Value N → Option Text
  | .null => some []
  | .bool true => some (text "true")
  | .bool false => some (text "false")
  | .number x => some (if fmt.isFinite x then fmt.toText x else text "Infinity")
  | .string s => some s
  | .array [] => some []
  | .array (v :: vs) => do
      let first ← toText v
      let rest ← joinRest vs
      return first ++ rest
  | .object members =>
      if text "toString" ∈ members.map Prod.fst then none else some (text "[object Object]")

/-- The further elements of an array that is joined. -/
def joinRest : List (Value N) → Option Text
  | [] => some []
  | v :: vs => do
      let next ← toText v
      let rest ← joinRest vs
      return unit ',' :: next ++ rest

end

/-- What a member of `Object.prototype` answers when it is called on the validators with some
data, as a condition; nothing when it throws. -/
def ObjectMember.answer (data : Value N) : ObjectMember → Option Bool
  -- the data itself, a text, and the validators: all of them count as true
  | .constructor | .toString | .toLocaleString | .valueOf => some true
  | .hasOwnProperty | .propertyIsEnumerable =>
      (toText fmt data).map fun key => decide (key ∈ REALTIME_EVENT_TYPES.map (·.name))
  | .isPrototypeOf => some false
  -- the data is no key with a function, but the key alone
  | .defineGetter | .defineSetter => none
  -- the only accessor on the chain
  | .lookupGetter | .lookupSetter =>
      (toText fmt data).map fun key => decide (key = text "__proto__")
  -- an object and no function
  | .proto => none

/-! ## The code -/

/-- The only error of the language that reading an envelope can run into. -/
inductive TypeError
  | typeError
  deriving DecidableEq, Repr

/-- What looking a type up in the validators finds. -/
inductive Found
  | own (type : RealtimeEventType)
  | inherited (m : ObjectMember)

/-- `validators[type]`: nothing when the type is not `in` the validators. -/
def lookupValidator (type : Text) : Option Found :=
  match REALTIME_EVENT_TYPES.find? fun t => t.name = type with
  | some t => some (.own t)
  | none => (OBJECT_MEMBERS.find? fun m => m.name = type).map .inherited

/-- What was found, called on the data: whether the answer counts as true. -/
def Found.call (data : Value N) : Found → Except TypeError Bool
  | .own type => .ok (validators fmt data type)
  | .inherited m =>
      match m.answer fmt data with
      | some truthy => .ok truthy
      | none => .error .typeError

/-- Parse and validate a wire message; nothing for what is malformed or unknown. -/
def decodeEnvelope (raw : Text) : Except TypeError (Option (Value N)) :=
  match parse fmt raw with
  | none => .ok none
  | some parsed =>
      if !isObject parsed then .ok none
      else
        match property parsed "type" with
        | some (.string type) =>
            match lookupValidator type with
            | none => .ok none
            | some found =>
                if type = [] ∨ !isNum fmt (property parsed "ts") then .ok none
                else
                  match property parsed "data" with
                  | none => .ok none
                  | some data =>
                      if !isObject data then .ok none
                      else
                        (found.call fmt data).map fun valid =>
                          if valid then some parsed else none
        | _ => .ok none

/-- A publishable event: its type, and its data as an object. -/
structure RealtimeEvent (N : Type) where
  type : RealtimeEventType
  data : List (Text × Value N)

/-- The event has what its type asks for, and nothing a number or an object cannot be. -/
def RealtimeEvent.satisfies (event : RealtimeEvent N) : Bool :=
  (Value.object event.data).wellFormed fmt && validators fmt (.object event.data) event.type

/-- An event with its timestamp. -/
def makeEnvelope (event : RealtimeEvent N) (ts : N) : Value N :=
  .object [(text "type", .string event.type.name), (text "data", .object event.data),
    (text "ts", .number ts)]

/-- An event on the wire, published at `ts`. -/
def encodeEnvelope (event : RealtimeEvent N) (ts : N) : Text :=
  stringify fmt (makeEnvelope event ts)

/-! ## The contract -/

/-- The wire contract: an object of a declared type, with a finite timestamp and the data of
that type. -/
def IsEnvelope (v : Value N) : Prop :=
  ∃ type : RealtimeEventType, property v "type" = some (.string type.name) ∧
    isNum fmt (property v "ts") ∧
    ∃ data, property v "data" = some data ∧ isObject data ∧ validators fmt data type

/-- The text is decoded by the contract: without throwing, to what it is JSON for if that is an
envelope, and to nothing else. -/
def ParsedExactly (raw : Text) : Prop :=
  ∃ answer, decodeEnvelope fmt raw = .ok answer ∧
    ∀ v, answer = some v ↔ parse fmt raw = some v ∧ IsEnvelope fmt v

/-- The type of the text names no member of `Object.prototype` that answers anything but no
about its data, if the text has a finite timestamp and data that is an object. -/
def NothingInherited (raw : Text) : Prop :=
  ∀ v, parse fmt raw = some v → ∀ m : ObjectMember,
    property v "type" = some (.string m.name) → isNum fmt (property v "ts") →
    ∀ data, property v "data" = some data → isObject data → m.answer fmt data = some false

/-! ## Looking validators up -/

section Lookup

variable (type : RealtimeEventType) (m : ObjectMember)

/-- A declared type finds its validator. -/
theorem lookupValidator_type : lookupValidator type.name = some (.own type) := by
  have hfind : REALTIME_EVENT_TYPES.find? (fun t => t.name = type.name) = some type := by
    cases type <;> decide +kernel
  rw [lookupValidator, hfind]

/-- A name of `Object.prototype` finds the member. -/
theorem lookupValidator_member : lookupValidator m.name = some (.inherited m) := by
  have hfind : REALTIME_EVENT_TYPES.find? (fun t => t.name = m.name) = none := by
    cases m <;> decide +kernel
  have hmember : OBJECT_MEMBERS.find? (fun m' => m'.name = m.name) = some m := by
    cases m <;> decide +kernel
  rw [lookupValidator, hfind, hmember]
  rfl

/-- What is found under a name has that name. -/
theorem name_of_lookupValidator {name : Text} {found : Found}
    (h : lookupValidator name = some found) :
    (∃ type, found = .own type ∧ type.name = name) ∨
      ∃ m, found = .inherited m ∧ m.name = name := by
  unfold lookupValidator at h
  split at h
  · rename_i type hfind
    have hname := List.find?_some hfind
    cases h
    exact Or.inl ⟨type, rfl, of_decide_eq_true hname⟩
  · obtain ⟨m, hfind, rfl⟩ := Option.map_eq_some_iff.mp h
    have hname := List.find?_some hfind
    exact Or.inr ⟨m, rfl, of_decide_eq_true hname⟩

end Lookup

/-! ## Decoding -/

section Decode

variable {raw : Text} {v data : Value N} {found : Found}

/-- The text is JSON for an object with everything but an answer of what its type finds. -/
def Addressed (raw : Text) (v : Value N) (found : Found) (data : Value N) : Prop :=
  parse fmt raw = some v ∧
    (∃ type, property v "type" = some (.string type) ∧ lookupValidator type = some found) ∧
    isNum fmt (property v "ts") ∧ property v "data" = some data ∧ isObject data

/-- A text without that is decoded to nothing. -/
theorem decodeEnvelope_of_not (h : ∀ v found data, ¬ Addressed fmt raw v found data) :
    decodeEnvelope fmt raw = .ok none := by
  unfold decodeEnvelope
  split
  · rfl
  rename_i v hparse
  split
  · rfl
  split
  · rename_i type htype
    split
    · rfl
    rename_i found hfound
    split
    · rfl
    rename_i hts
    split
    · rfl
    rename_i data hdata
    split
    · rfl
    rename_i hobject
    have hnum : isNum fmt (property v "ts") := by simpa using (not_or.mp hts).2
    exact absurd ⟨hparse, ⟨type, htype, hfound⟩, hnum, hdata, by simpa using hobject⟩
      (h v found data)
  · rfl

/-- A text with that is decoded by the answer. -/
theorem decodeEnvelope_of_addressed (h : Addressed fmt raw v found data) :
    decodeEnvelope fmt raw
      = (found.call fmt data).map fun valid => if valid then some v else none := by
  obtain ⟨hparse, ⟨type, htype, hfound⟩, hts, hdata, hobject⟩ := h
  have hv : isObject v := by
    cases v <;> first | rfl | cases htype
  have hne : type ≠ [] := by
    rintro rfl
    have hempty : (lookupValidator []).isNone := by decide +kernel
    rw [hfound] at hempty
    cases hempty
  simp only [decodeEnvelope, hparse, hv, htype, hfound, hts, hne, hdata, hobject, Bool.not_true,
    Bool.false_eq_true, or_self, if_false]

/-- What an envelope's type finds is its validator. -/
theorem own_of_isEnvelope (h : IsEnvelope fmt v) (haddressed : Addressed fmt raw v found data) :
    ∃ type, found = .own type ∧ validators fmt data type := by
  obtain ⟨type, htype, -, data', hdata', -, hvalid⟩ := h
  obtain ⟨-, ⟨name, hname, hfound⟩, -, hdata, -⟩ := haddressed
  rw [htype] at hname
  cases hname
  rw [hdata] at hdata'
  cases hdata'
  exact ⟨type, Option.some.inj (hfound.symm.trans (lookupValidator_type type)), hvalid⟩

/-- An envelope has all that is looked at. -/
theorem addressed_of_isEnvelope (hparse : parse fmt raw = some v) (h : IsEnvelope fmt v) :
    ∃ found data, Addressed fmt raw v found data := by
  obtain ⟨type, htype, hts, data, hdata, hobject, -⟩ := h
  exact ⟨.own type, data, hparse, ⟨_, htype, lookupValidator_type type⟩, hts, hdata, hobject⟩

/-- With a validator of its own, an addressed text is an envelope when its data is valid. -/
theorem isEnvelope_of_own {type : RealtimeEventType}
    (h : Addressed fmt raw v (.own type) data) (hvalid : validators fmt data type) :
    IsEnvelope fmt v := by
  obtain ⟨-, ⟨name, hname, hfound⟩, hts, hdata, hobject⟩ := h
  rcases name_of_lookupValidator hfound with ⟨type', heq, rfl⟩ | ⟨m, heq, -⟩
  · cases heq
    exact ⟨type, hname, hts, data, hdata, hobject, hvalid⟩
  · cases heq

/-- A text is decoded by the contract exactly when its type names nothing inherited that does
not refuse its data. -/
theorem parsedExactly_iff (raw : Text) : ParsedExactly fmt raw ↔ NothingInherited fmt raw := by
  by_cases haddressed : ∃ v found data, Addressed fmt raw v found data
  · obtain ⟨v, found, data, h⟩ := haddressed
    have hdecode := decodeEnvelope_of_addressed fmt h
    have hparse := h.1
    cases found with
    | own type =>
        have hnothing : NothingInherited fmt raw := by
          intro v' hv' m hm
          rw [hparse] at hv'
          cases hv'
          obtain ⟨-, ⟨name, hname, hfound⟩, -⟩ := h
          rw [hm] at hname
          cases hname
          rw [lookupValidator_member] at hfound
          cases hfound
        refine iff_of_true ⟨if validators fmt data type then some v else none, hdecode, ?_⟩ hnothing
        intro v'
        by_cases hvalid : validators fmt data type
        · rw [if_pos hvalid, Option.some_inj, hparse, Option.some_inj]
          refine ⟨?_, And.left⟩
          rintro rfl
          exact ⟨rfl, isEnvelope_of_own fmt h hvalid⟩
        · rw [if_neg hvalid, hparse, Option.some_inj]
          refine iff_of_false nofun ?_
          rintro ⟨rfl, henvelope⟩
          obtain ⟨type', heq, hvalid'⟩ := own_of_isEnvelope fmt henvelope h
          cases heq
          exact hvalid hvalid'
    | inherited m =>
        have hnot : ¬ IsEnvelope fmt v := fun henvelope => by
          obtain ⟨type, heq, -⟩ := own_of_isEnvelope fmt henvelope h
          cases heq
        have hname : property v "type" = some (.string m.name) := by
          obtain ⟨-, ⟨name, hname, hfound⟩, -⟩ := h
          rcases name_of_lookupValidator hfound with ⟨type, heq, -⟩ | ⟨m', heq, rfl⟩
          · cases heq
          · cases heq
            exact hname
        by_cases hrefused : m.answer fmt data = some false
        · refine iff_of_true ⟨none, ?_, fun v' => iff_of_false nofun ?_⟩ ?_
          · rw [hdecode, Found.call, hrefused]
            rfl
          · rw [hparse, Option.some_inj]
            rintro ⟨rfl, henvelope⟩
            exact hnot henvelope
          · intro v' hv' m' hm' _ data' hdata' _
            rw [hparse] at hv'
            cases hv'
            obtain ⟨-, ⟨name, hname', hfound⟩, -, hdata, -⟩ := h
            rw [hm'] at hname'
            cases hname'
            rw [lookupValidator_member] at hfound
            cases hfound
            rw [hdata] at hdata'
            cases hdata'
            exact hrefused
        · refine iff_of_false ?_ fun hnothing =>
            hrefused (hnothing v hparse m hname h.2.2.1 data h.2.2.2.1 h.2.2.2.2)
          -- the member throws, or the text is passed on
          rintro ⟨answer, hanswer, hexact⟩
          rw [hdecode, Found.call] at hanswer
          cases hcalled : m.answer fmt data with
          | none =>
              rw [hcalled] at hanswer
              cases hanswer
          | some truthy =>
              cases truthy with
              | false => exact hrefused hcalled
              | true =>
                  rw [hcalled] at hanswer
                  obtain rfl : some v = answer := by simpa [Except.map] using hanswer
                  exact hnot ((hexact v).mp rfl).2
  · have hnone : ∀ v found data, ¬ Addressed fmt raw v found data := fun v found data h =>
      haddressed ⟨v, found, data, h⟩
    refine iff_of_true ⟨none, decodeEnvelope_of_not fmt hnone, fun v => iff_of_false nofun ?_⟩ ?_
    · rintro ⟨hparse, henvelope⟩
      exact haddressed ⟨v, addressed_of_isEnvelope fmt hparse henvelope⟩
    · intro v hparse m hm hts data hdata hobject
      exact absurd ⟨hparse, ⟨_, hm, lookupValidator_member m⟩, hts, hdata, hobject⟩
        (hnone v (.inherited m) data)

end Decode

/-! ## Encoding -/

/-- An event that satisfies its type makes a well-formed envelope. -/
theorem wellFormed_makeEnvelope {event : RealtimeEvent N} {ts : N} (h : event.satisfies fmt)
    (hts : fmt.isFinite ts) : (makeEnvelope event ts).wellFormed fmt := by
  rw [RealtimeEvent.satisfies, Bool.and_eq_true] at h
  have hkeys : [text "type", text "data", text "ts"].Nodup := by decide +kernel
  show (decide [text "type", text "data", text "ts"].Nodup && (true &&
    ((Value.object event.data).wellFormed fmt && (fmt.isFinite ts && true)))) = true
  rw [h.1, hts, decide_eq_true hkeys]
  rfl

/-- What is encoded is decoded. -/
theorem decodeEnvelope_encodeEnvelope {event : RealtimeEvent N} {ts : N}
    (h : event.satisfies fmt) (hts : fmt.isFinite ts) :
    decodeEnvelope fmt (encodeEnvelope fmt event ts) = .ok (some (makeEnvelope event ts)) := by
  have haddressed : Addressed fmt (encodeEnvelope fmt event ts) (makeEnvelope event ts)
      (.own event.type) (.object event.data) :=
    ⟨parse_stringify fmt (wellFormed_makeEnvelope fmt h hts),
      ⟨_, rfl, lookupValidator_type event.type⟩, hts, rfl, rfl⟩
  rw [RealtimeEvent.satisfies, Bool.and_eq_true] at h
  rw [decodeEnvelope_of_addressed fmt haddressed, Found.call, h.2]
  rfl

/-- Every text is decoded by the contract exactly when its type names nothing inherited that
does not refuse its data, and every event that satisfies its type is decoded from its
encoding, with its timestamp. -/
theorem decodeEnvelope_exact (fmt : NumberFormat N) :
    (∀ raw, ParsedExactly fmt raw ↔ NothingInherited fmt raw) ∧
    ∀ (event : RealtimeEvent N) (ts : N), event.satisfies fmt → fmt.isFinite ts →
      decodeEnvelope fmt (encodeEnvelope fmt event ts) = .ok (some (makeEnvelope event ts)) :=
  ⟨parsedExactly_iff fmt, fun _ _ h hts => decodeEnvelope_encodeEnvelope fmt h hts⟩

/-! ## Two messages -/

/-- Numbers of a single digit. -/
def singleDigits : NumberFormat (Fin 10) where
  ofText t := Fin.ofNat 10 ((t.headD 0).toNat - 48)
  toText d := [(48 + d.val).toUInt16]
  isFinite _ := true
  isNumeral_toText := by decide
  ofText_toText := by decide

/-- A sync has ended. -/
def syncDoneEvent : RealtimeEvent (Fin 10) where
  type := .syncDone
  data := [(text "tenantId", .string (text "t1")), (text "source", .string (text "shopify")),
    (text "ok", .bool true)]

/-- The end of a sync goes over the wire. -/
theorem syncDoneEvent_decoded :
    syncDoneEvent.satisfies singleDigits ∧
    decodeEnvelope singleDigits (encodeEnvelope singleDigits syncDoneEvent 7)
      = .ok (some (makeEnvelope syncDoneEvent 7)) := by
  have h : syncDoneEvent.satisfies singleDigits := by decide
  exact ⟨h, (decodeEnvelope_exact singleDigits).2 syncDoneEvent 7 h rfl⟩

/-- A message of type `constructor`, without data to speak of. -/
def constructorMessage : Value (Fin 10) :=
  .object [(text "type", .string (text "constructor")), (text "data", .object []),
    (text "ts", .number 1)]

/-- It is taken for an envelope: `Object` returns what it is called on. -/
theorem constructorMessage_decoded :
    ¬ ∀ (N : Type) (fmt : NumberFormat N) (raw : Text), ParsedExactly fmt raw := by
  intro hall
  have hparse : parse singleDigits (stringify singleDigits constructorMessage)
      = some constructorMessage := parse_stringify singleDigits (by decide)
  have hnothing := (parsedExactly_iff singleDigits _).mp
    (hall _ singleDigits (stringify singleDigits constructorMessage))
  have hanswer := hnothing constructorMessage hparse .constructor rfl rfl (.object []) rfl rfl
  cases hanswer

end Restock.Realtime

import Restock.Shop.Schema

/-!
# Location roles and sellable units

`packages/db/src/roles.ts` and `packages/db/src/inventory.ts`: the calculation role a
location's stored type stands for, the role a new location is given from its name, and
the units of a level that can be sold.

* `roleOfType`, `typeOfRole` — the stored type and the role, each from the other;
* `guessRoleFromName` — the role a location's name suggests;
* `isSellable`, `sellableUnits` — what the sellable rollup sums, and over which locations.
-/

namespace Restock

/-- The part a location plays in the inventory math. -/
inductive LocationRole
  | sells
  | holds
  | enroute
  | ignore
  deriving DecidableEq, Repr

/-- The role of a stored `locationType`; an unknown or missing type sells. -/
def roleOfType : Option String → LocationRole
  | some "warehouse" => .holds
  | some "enroute" => .enroute
  | some "virtual" => .ignore
  | _ => .sells

/-- The role of a location row. -/
def roleOf (location : Location) : LocationRole :=
  roleOfType location.locationType

/-- The `locationType` stored for a role. -/
def typeOfRole : LocationRole → String
  | .holds => "warehouse"
  | .enroute => "enroute"
  | .ignore => "virtual"
  | .sells => "branch"

/-- Whether stock at a location counts as sellable. -/
def isSellable (location : Location) : Bool :=
  roleOf location = .sells

/-- A role is recovered from the type stored for it. -/
@[simp]
theorem roleOfType_typeOfRole (role : LocationRole) :
    roleOfType (some (typeOfRole role)) = role := by
  cases role <;> rfl

/-- The units of a level that can be sold: `available`, or the on-hand figure of a level
no available-aware sync has written. -/
def sellableUnits (level : InventoryLevel) : ℤ :=
  level.available.getD level.onHand

/-! ## Guessing a role from a name -/

/-- A piece of a name pattern. -/
inductive NamePiece
  /-- These characters. -/
  | text (chars : String)
  /-- `[\s-]?`. -/
  | gap
  /-- This character or nothing. -/
  | optional (char : Char)

/-- `\s`. -/
def isSpace (c : Char) : Bool :=
  c.toNat ∈ [0x9, 0xa, 0xb, 0xc, 0xd, 0x20, 0xa0, 0x1680, 0x2028, 0x2029, 0x202f, 0x205f,
    0x3000, 0xfeff] || (0x2000 ≤ c.toNat && c.toNat ≤ 0x200a)

/-- Whether a pattern matches at the head of a text. -/
def NamePiece.matchesAt : List NamePiece → List Char → Bool
  | [], _ => true
  | .text chars :: rest, cs =>
      chars.toList.isPrefixOf cs && matchesAt rest (cs.drop chars.toList.length)
  | .gap :: rest, cs =>
      matchesAt rest cs ||
        match cs with
        | [] => false
        | c :: cs => (isSpace c || c = '-') && matchesAt rest cs
  | .optional char :: rest, cs =>
      matchesAt rest cs ||
        match cs with
        | [] => false
        | c :: cs => c = char && matchesAt rest cs

/-- Whether one of the patterns matches somewhere in a text. -/
def matchesAny (patterns : List (List NamePiece)) (cs : List Char) : Bool :=
  patterns.any fun pattern => cs.tails.any fun tail => NamePiece.matchesAt pattern tail

/-- `toLowerCase` of a character, where the result can contain a letter the patterns
mention: besides the capitals these are the Kelvin sign and the dotted capital I. -/
def lowerCase (c : Char) : List Char :=
  if c.toNat = 0x212a then ['k']
  else if c.toNat = 0x130 then ['i', Char.ofNat 0x307]
  else [c.toLower]

/-- `/incoming|en[\s-]?route|transit/`. -/
def enroutePatterns : List (List NamePiece) :=
  [[.text "incoming"], [.text "en", .gap, .text "route"], [.text "transit"]]

/-- `/warehouse|godown|depot|store[\s-]?room|stock[\s-]?room|storage/`. -/
def holdsPatterns : List (List NamePiece) :=
  [[.text "warehouse"], [.text "godown"], [.text "depot"], [.text "store", .gap, .text "room"],
    [.text "stock", .gap, .text "room"], [.text "storage"]]

/-- `/returns?|damaged?|write[\s-]?off|disposal|virtual|legacy/`. -/
def ignorePatterns : List (List NamePiece) :=
  [[.text "return", .optional 's'], [.text "damage", .optional 'd'],
    [.text "write", .gap, .text "off"], [.text "disposal"], [.text "virtual"], [.text "legacy"]]

/-- The role a location's name suggests. -/
def guessRoleFromName (name : String) : LocationRole :=
  let n := name.toList.flatMap lowerCase
  if n.all isSpace then .sells
  else if matchesAny enroutePatterns n then .enroute
  else if matchesAny holdsPatterns n then .holds
  else if matchesAny ignorePatterns n then .ignore
  else .sells

-- A distributing warehouse is often named "virtual": the holds tokens are tried first.
example : guessRoleFromName "Main Warehouse (Virtual)" = .holds := by decide +kernel
example : guessRoleFromName "Main Store" = .sells := by decide +kernel

end Restock

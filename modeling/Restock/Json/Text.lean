import Restock.Series.Entries

/-!
# JSON texts

The interchange format as a language runtime reads and writes it, over texts that are lists of
UTF-16 code units, so that a lone surrogate is a text as any other.

* `Value` — JSON values, the members of an object in the order in which they were first set;
* `parse` — a text is read unit by unit by an automaton with a stack of the arrays and objects
  that are open, so that every text is read in as many steps as it has units;
* `stringify` — how a value is written.

How a number is read from its digits and written back is the runtime's; `NumberFormat` states
what is relied upon: a finite number is written as a numeral that is read as that number.
-/

namespace Json

/-- A text, by its UTF-16 code units. -/
abbrev Text : Type := List UInt16

instance decidableMemText (t : Text) (ts : List Text) : Decidable (t ∈ ts) :=
  inferInstance

/-- The code unit of an ASCII character. -/
def unit (c : Char) : UInt16 := c.toNat.toUInt16

/-- The code units of an ASCII text. -/
def text (s : String) : Text := s.toList.map unit

/-! ## Numbers -/

/-- A decimal digit. -/
def isDigit (c : UInt16) : Bool := unit '0' ≤ c && c ≤ unit '9'

/-- What a numeral is made of. -/
def isNumeric (c : UInt16) : Bool :=
  isDigit c || c = unit '-' || c = unit '+' || c = unit '.' || c = unit 'e' || c = unit 'E'

/-- Digits, at least one, and nothing else. -/
def isDigits (t : Text) : Bool := t ≠ [] && t.all isDigit

/-- An exponent: a sign at most, and digits. -/
def isExponent : Text → Bool
  | [] => false
  | c :: t => if c = unit '+' || c = unit '-' then isDigits t else isDigits (c :: t)

/-- What may follow the digits of a numeral. -/
def isPower : Text → Bool
  | [] => true
  | c :: t => (c = unit 'e' || c = unit 'E') && isExponent t

/-- What may follow the whole part of a numeral: a fraction, an exponent, or both. -/
def isTail : Text → Bool
  | [] => true
  | c :: t =>
      if c = unit '.' then isDigits (t.takeWhile isDigit) && isPower (t.dropWhile isDigit)
      else isPower (c :: t)

/-- A numeral without its sign: no leading zero. -/
def isUnsigned : Text → Bool
  | [] => false
  | c :: t =>
      if c = unit '0' then isTail t
      else isDigit c && isTail (t.dropWhile isDigit)

/-- A JSON numeral. -/
def isNumeral : Text → Bool
  | [] => false
  | c :: t => if c = unit '-' then isUnsigned t else isUnsigned (c :: t)

/-- How a runtime reads and writes its numbers. -/
structure NumberFormat (N : Type) where
  /-- The number a numeral stands for. -/
  ofText : Text → N
  /-- The numeral a number is written as. -/
  toText : N → Text
  /-- Neither infinite nor undefined. -/
  isFinite : N → Bool
  /-- A finite number is written as a numeral. -/
  isNumeral_toText : ∀ x, isFinite x → isNumeral (toText x)
  /-- A finite number is read back. -/
  ofText_toText : ∀ x, isFinite x → ofText (toText x) = x

/-! ## Values -/

/-- A JSON value over numbers of some kind. -/
inductive Value (N : Type) : Type
  | null
  | bool (b : Bool)
  | number (x : N)
  | string (s : Text)
  | array (elements : List (Value N))
  | object (members : List (Text × Value N))

variable {N : Type}

/-! ## Reading -/

/-- An array or an object that is open: what was read of it, and the key of the next member. -/
inductive Frame (N : Type) : Type
  | array (elements : List (Value N))
  | object (members : List (Text × Value N)) (key : Text)

/-- What is being read. -/
inductive Mode (N : Type) : Type
  /-- A value has to follow. -/
  | value
  /-- An array was opened: a value or its end follows. -/
  | first
  /-- An object was opened: a key or its end follows. -/
  | firstKey
  /-- A key has to follow. -/
  | key
  /-- A colon has to follow. -/
  | colon
  /-- A value was read. -/
  | after (v : Value N)
  /-- Inside a string, which may be a key. -/
  | string (isKey : Bool) (read : Text)
  /-- After a backslash. -/
  | escape (isKey : Bool) (read : Text)
  /-- Inside the hexadecimal digits of an escape, of which some are missing. -/
  | hex (isKey : Bool) (read : Text) (code missing : ℕ)
  /-- Inside `true`, `false` or `null`. -/
  | literal (rest : Text) (v : Value N)
  /-- Inside a numeral. -/
  | number (read : Text)

/-- What is being read, and what is open around it. -/
abbrev State (N : Type) : Type := Mode N × List (Frame N)

/-- JSON white space. -/
def isSpace (c : UInt16) : Bool := c = 32 || c = 9 || c = 10 || c = 13

/-- The value of a hexadecimal digit. -/
def hexValue (c : UInt16) : Option ℕ :=
  if isDigit c then some (c.toNat - 48)
  else if unit 'a' ≤ c && c ≤ unit 'f' then some (c.toNat - 87)
  else if unit 'A' ≤ c && c ≤ unit 'F' then some (c.toNat - 55)
  else none

/-- What a backslash and a character stand for, `\u` apart. -/
def unescape (c : UInt16) : Option UInt16 :=
  if c = unit '"' || c = unit '\\' || c = unit '/' then some c
  else if c = unit 'b' then some 8
  else if c = unit 'f' then some 12
  else if c = unit 'n' then some 10
  else if c = unit 'r' then some 13
  else if c = unit 't' then some 9
  else none

/-- The first unit of a value. -/
def stepValue (c : UInt16) (stack : List (Frame N)) : Option (State N) :=
  if isSpace c then some (.value, stack)
  else if c = unit '{' then some (.firstKey, .object [] [] :: stack)
  else if c = unit '[' then some (.first, .array [] :: stack)
  else if c = unit '"' then some (.string false [], stack)
  else if c = unit 't' then some (.literal (text "rue") (.bool true), stack)
  else if c = unit 'f' then some (.literal (text "alse") (.bool false), stack)
  else if c = unit 'n' then some (.literal (text "ull") .null, stack)
  else if c = unit '-' || isDigit c then some (.number [c], stack)
  else none

/-- A unit after a value. A key that comes again takes the later value. -/
def stepAfter (v : Value N) (c : UInt16) (stack : List (Frame N)) : Option (State N) :=
  if isSpace c then some (.after v, stack)
  else
    match stack with
    | [] => none
    | .array elements :: stack =>
        if c = unit ',' then some (.value, .array (elements ++ [v]) :: stack)
        else if c = unit ']' then some (.after (.array (elements ++ [v])), stack)
        else none
    | .object members key :: stack =>
        if c = unit ',' then some (.key, .object (Series.setEntry members key v) [] :: stack)
        else if c = unit '}' then some (.after (.object (Series.setEntry members key v)), stack)
        else none

/-- The end of a string. -/
def closeString (isKey : Bool) (read : Text) (stack : List (Frame N)) : Option (State N) :=
  if isKey then
    match stack with
    | .object members _ :: stack => some (.colon, .object members read :: stack)
    | _ => none
  else some (.after (.string read), stack)

/-- One unit of a text. -/
def step (fmt : NumberFormat N) : State N → UInt16 → Option (State N)
  | (.value, stack), c => stepValue c stack
  | (.first, stack), c =>
      if isSpace c then some (.first, stack)
      else if c = unit ']' then
        match stack with
        | .array elements :: stack => some (.after (.array elements), stack)
        | _ => none
      else stepValue c stack
  | (.firstKey, stack), c =>
      if isSpace c then some (.firstKey, stack)
      else if c = unit '}' then
        match stack with
        | .object members _ :: stack => some (.after (.object members), stack)
        | _ => none
      else if c = unit '"' then some (.string true [], stack)
      else none
  | (.key, stack), c =>
      if isSpace c then some (.key, stack)
      else if c = unit '"' then some (.string true [], stack)
      else none
  | (.colon, stack), c =>
      if isSpace c then some (.colon, stack)
      else if c = unit ':' then some (.value, stack)
      else none
  | (.after v, stack), c => stepAfter v c stack
  | (.string isKey read, stack), c =>
      if c = unit '"' then closeString isKey read stack
      else if c = unit '\\' then some (.escape isKey read, stack)
      else if c < 32 then none
      else some (.string isKey (read ++ [c]), stack)
  | (.escape isKey read, stack), c =>
      if c = unit 'u' then some (.hex isKey read 0 3, stack)
      else (unescape c).map fun c => (.string isKey (read ++ [c]), stack)
  | (.hex isKey read code missing, stack), c =>
      (hexValue c).map fun d =>
        match missing with
        | 0 => (.string isKey (read ++ [(code * 16 + d).toUInt16]), stack)
        | missing + 1 => (.hex isKey read (code * 16 + d) missing, stack)
  | (.literal rest v, stack), c =>
      match rest with
      | [] => none
      | r :: rest =>
          if c = r then some (if rest = [] then .after v else .literal rest v, stack) else none
  | (.number read, stack), c =>
      if isNumeric c then some (.number (read ++ [c]), stack)
      else if isNumeral read then stepAfter (.number (fmt.ofText read)) c stack
      else none

/-- The value read when the text ends. -/
def finish (fmt : NumberFormat N) : State N → Option (Value N)
  | (.after v, []) => some v
  | (.number read, []) => if isNumeral read then some (.number (fmt.ofText read)) else none
  | _ => none

/-- Read the rest of a text. -/
def run (fmt : NumberFormat N) : Text → State N → Option (Value N)
  | [], st => finish fmt st
  | c :: t, st => (step fmt st c).bind (run fmt t)

/-- `JSON.parse`: nothing when the text is not JSON. -/
def parse (fmt : NumberFormat N) (t : Text) : Option (Value N) :=
  run fmt t (.value, [])

/-! ## Writing -/

/-- A hexadecimal digit. -/
def hexDigit (d : ℕ) : UInt16 :=
  if d < 10 then (48 + d).toUInt16 else (87 + d).toUInt16

/-- A unit as `\u` and four digits. -/
def unicodeEscape (c : UInt16) : Text :=
  [unit '\\', unit 'u', hexDigit (c.toNat / 4096), hexDigit (c.toNat / 256 % 16),
    hexDigit (c.toNat / 16 % 16), hexDigit (c.toNat % 16)]

/-- The first half of a surrogate pair. -/
def isLead (c : UInt16) : Bool := 0xD800 ≤ c && c ≤ 0xDBFF

/-- The second half of a surrogate pair. -/
def isTrail (c : UInt16) : Bool := 0xDC00 ≤ c && c ≤ 0xDFFF

/-- A unit that is not half of a surrogate pair. -/
def quoteUnit (c : UInt16) : Text :=
  if c = 8 then [unit '\\', unit 'b']
  else if c = 9 then [unit '\\', unit 't']
  else if c = 10 then [unit '\\', unit 'n']
  else if c = 12 then [unit '\\', unit 'f']
  else if c = 13 then [unit '\\', unit 'r']
  else if c = unit '"' || c = unit '\\' then [unit '\\', c]
  else if c < 32 || isLead c || isTrail c then unicodeEscape c
  else [c]

/-- The units of a string between its quotes: a surrogate pair stays as it is. -/
def quoteUnits : Text → Text
  | [] => []
  | [c] => quoteUnit c
  | c :: d :: t =>
      if isLead c && isTrail d then c :: d :: quoteUnits t
      else quoteUnit c ++ quoteUnits (d :: t)

/-- A string with its quotes. -/
def quote (s : Text) : Text :=
  unit '"' :: (quoteUnits s ++ [unit '"'])

mutual

/-- `JSON.stringify`, of a value without members that are undefined. -/
def stringify (fmt : NumberFormat N) : Value N → Text
  | .null => text "null"
  | .bool true => text "true"
  | .bool false => text "false"
  | .number x => if fmt.isFinite x then fmt.toText x else text "null"
  | .string s => quote s
  | .array [] => text "[]"
  | .array (v :: vs) => unit '[' :: (stringify fmt v ++ elementsTail fmt vs)
  | .object [] => [unit '{', unit '}']
  | .object ((k, v) :: ms) =>
      unit '{' :: (quote k ++ unit ':' :: (stringify fmt v ++ membersTail fmt ms))

/-- The further elements of an array, to its end. -/
def elementsTail (fmt : NumberFormat N) : List (Value N) → Text
  | [] => [unit ']']
  | v :: vs => unit ',' :: (stringify fmt v ++ elementsTail fmt vs)

/-- The further members of an object, to its end. -/
def membersTail (fmt : NumberFormat N) : List (Text × Value N) → Text
  | [] => [unit '}']
  | (k, v) :: ms =>
      unit ',' :: (quote k ++ unit ':' :: (stringify fmt v ++ membersTail fmt ms))

end

end Json

import ValueSchema.Value.Json

/-!
Conversions between kinds.

Each target kind says which values stand for one of its own. Null and absence stand for nothing: a conversion bridges
kinds, it does not invent presence.
-/

namespace ValueSchema

open Text

/-! ## Texts that stand for numbers, truth values and instants -/

/-- the base that a prefix announces, and the digits after it -/
def radixPrefix? : List Char → Option (Nat × List Char)
  | '0' :: c :: rest =>
    if c = 'x' ∨ c = 'X' then some (16, rest)
    else if c = 'o' ∨ c = 'O' then some (8, rest)
    else if c = 'b' ∨ c = 'B' then some (2, rest)
    else none
  | _ => none

/-- the number a text stands for: white space around it aside, `Infinity` or a decimal with an optional sign, or digits of
another base below 2^64 without one; never not-a-number -/
def Double.ofText? (s : String) : Option Double :=
  let cs := trim s.toList
  let (negative, body) := readSign cs
  if body = "Infinity".toList then some (.infinite negative)
  else match radixPrefix? body with
    | some (radix, ds) =>
      if body ≠ cs then none
      else (readRadix? radix ds).bind fun n => if n < 18446744073709551616 then some (.ofNat n) else none
    | none => (Decimal.read? body).map (.ofDecimal negative)

/-- the integer a text stands for: white space around it aside, an optional sign and digits -/
def BigInt.ofText? (s : String) : Option BigInt := (readInt? (trim s.toList)).bind BigInt.ofInt?

/-- the truth value a text stands for, in any case -/
def boolOfText? (s : String) : Option Bool :=
  let word := String.ofList ((trim s.toList).map Char.toLower)
  if ["true", "1", "yes", "on"].contains word then some true
  else if ["false", "0", "no", "off"].contains word then some false
  else none

/-- greatest distance from the epoch, in milliseconds, at which a number stands for an instant -/
def maxEpochMillis : Int := 8640000000000000

/-- the instant a number of milliseconds since the epoch stands for; its fraction is dropped -/
def Instant.ofNumber? (n : Double) : Option Instant :=
  if (Double.ofInt (-maxEpochMillis)).numLe n && n.numLe (Double.ofInt maxEpochMillis) then
    n.trunc?.bind Instant.ofMillis?
  else none

namespace Value

/-! ## Conversions -/

mutual

/-- the text a value stands for; the items of an array are joined by commas, null and absence being empty -/
def toText? : Value → Option String
  | .undefined => none
  | .null => none
  | .bool b => some (if b then "true" else "false")
  | .number n => some n.text
  | .bigint n => some (String.ofList (intText n.toInt))
  | .string s => some s
  | .date t => some t.text
  | .symbol s => some s.display
  | .array items => some (String.intercalate "," (itemTexts items))
  | .object _ => some "[object Object]"
  | .set _ => some "[object Set]"
  | .map _ => some "[object Map]"
termination_by structural v => v

def itemTexts : List Value → List String
  | [] => []
  | v :: rest => v.toText?.getD "" :: itemTexts rest
termination_by structural vs => vs

end

def toNumber? : Value → Option Double
  | .number n => some n
  | .bool b => some (if b then .ofInt 1 else .ofInt 0)
  | .string s => Double.ofText? s
  | .bigint n => some (.ofInt n.toInt)
  | .date t => some (.ofInt t.toMillis)
  | _ => none

def toBool? : Value → Option Bool
  | .bool b => some b
  | .number n => if n.numEq (.ofInt 1) then some true else if n.isZero then some false else none
  | .string s => boolOfText? s
  | _ => none

def toBigInt? : Value → Option BigInt
  | .bigint n => some n
  | .number n => n.toInt?.bind fun i => if (i.natAbs : Int) < bigIntLimit then BigInt.ofInt? i else none
  | .bool b => some (if b then .one else .zero)
  | .string s => BigInt.ofText? s
  | _ => none

/-- what a value is when read as an instant -/
inductive DateReading where
  | instant (t : Instant)
  | unreadable
  | wrongKind

/-- reads an instant from an instant, a text or a number of milliseconds -/
def readDate : Value → DateReading
  | .date t => .instant t
  | .string s => match Instant.read? s with
    | some t => .instant t
    | none => .unreadable
  | .number n => match Instant.ofNumber? n with
    | some t => .instant t
    | none => .unreadable
  | _ => .wrongKind

end Value

end ValueSchema

import ValueSchema.Calendar.Instant
import ValueSchema.Text.Blank
import ValueSchema.Text.Digits

/-!
Texts of instants.

An instant is written as an internet timestamp with milliseconds in UTC. Texts are read in five forms, tried in turn: the
internet timestamp with its offset, a bare date, a date and time without offset (with seconds after a T or a space, or
without), and the date line of a mail message.
-/

namespace ValueSchema

open Text

namespace Instant

/-! ## Writing -/

/-- four digits, or a sign and at least four digits outside years 0 to 9999 -/
def yearText (year : Int) : List Char :=
  if 0 ≤ year ∧ year ≤ 9999 then padded 4 year.toNat
  else (if year < 0 then '-' else '+') :: padded 4 year.natAbs

/-- timestamp in UTC with milliseconds; a leap second shows as the number after its second, 60 at the end of a minute -/
def chars (t : Instant) : List Char :=
  let d := t.date
  let s := (t.seconds % 86400).toNat
  let leap := if 1000000000 ≤ t.nanos then 1 else 0
  yearText d.year ++ '-' :: padded 2 d.month ++ '-' :: padded 2 d.day ++ 'T' :: padded 2 (s / 3600) ++
    ':' :: padded 2 (s / 60 % 60) ++ ':' :: padded 2 (s % 60 + leap) ++
    '.' :: padded 3 (t.nanos % 1000000000 / 1000000) ++ ['Z']

def text (t : Instant) : String := String.ofList t.chars

/-! ## Reading -/

/-- what a step of a reader makes of the start of a text: a result and the rest, or nothing -/
abbrev Step (α : Type) := List Char → Option (α × List Char)

/-- between `least` and `most` digits, as many as there are -/
def digits (least most : Nat) : Step Nat := fun cs =>
  let ds := (cs.takeWhile Char.isDigit).take most
  if least ≤ ds.length then some (Nat.ofDigitChars 10 ds 0, cs.drop ds.length) else none

def char (c : Char) (cs : List Char) : Option (List Char) :=
  match cs with
  | x :: rest => if x = c then some rest else none
  | [] => none

/-- white space, at least one -/
def blanks (cs : List Char) : Option (List Char) :=
  match cs with
  | x :: rest => if isBlank x then some (trimStart rest) else none
  | [] => none

/-- fraction of a second after the point, in nanoseconds; digits past the ninth are passed over -/
def nanoseconds : Step Nat := fun cs =>
  let ds := cs.takeWhile Char.isDigit
  if ds = [] then none
  else some (Nat.ofDigitChars 10 ((ds ++ List.replicate 9 '0').take 9) 0, cs.dropWhile Char.isDigit)

/-- an optional point and fraction -/
def fraction : Step Nat
  | '.' :: rest => nanoseconds rest
  | cs => some (0, cs)

/-- time of day as written; second 60 is a leap second -/
structure Clock where
  hour : Nat
  minute : Nat
  second : Nat
  nanos : Nat

/-- the instant at a date and time of day, at an offset from UTC in seconds -/
def ofLocal? (date : CalendarDate) (clock : Clock) (offset : Int) : Option Instant :=
  if date.isValid && clock.hour ≤ 23 && clock.minute ≤ 59 && clock.second ≤ 60 then
    let second := if clock.second = 60 then 59 else clock.second
    let nanos := if clock.second = 60 then clock.nanos + 1000000000 else clock.nanos
    let secondOfDay := clock.hour * 3600 + clock.minute * 60 + second
    ofParts? (date.dayNumber * 86400 + secondOfDay - offset) nanos
  else none

/-- the forms of an offset from UTC: with a colon, a Z and a typographic minus sign, or without any of them -/
inductive OffsetForm where
  | internet
  | mail
  deriving DecidableEq

/-- the sign of an offset: whether it is west of UTC -/
def offsetSign (form : OffsetForm) : Step Bool
  | '+' :: rest => some (false, rest)
  | '-' :: rest => some (true, rest)
  | '−' :: rest => if form = .internet then some (true, rest) else none
  | _ => none

/-- hours and minutes from UTC, in seconds -/
def offset (form : OffsetForm) (cs : List Char) : Option (Int × List Char) := do
  let (west, cs) ← offsetSign form cs
  let (hours, cs) ← digits 2 2 cs
  let cs ← if form = .internet then char ':' cs else some cs
  let (minutes, cs) ← digits 2 2 cs
  let seconds : Int := hours * 3600 + minutes * 60
  if minutes ≤ 59 && hours ≤ 23 then some (if west then -seconds else seconds, cs) else none

/-- Z or an offset -/
def zone : Step Int
  | 'Z' :: rest => some (0, rest)
  | 'z' :: rest => some (0, rest)
  | cs => offset .internet cs

/-- the letter or space between date and time -/
def separator (cs : List Char) : Option (List Char) :=
  match cs with
  | 'T' :: rest => some rest
  | 't' :: rest => some rest
  | ' ' :: rest => some rest
  | _ => none

/-- internet timestamp: four-digit year, all fields of full width, an offset -/
def ofTimestamp? (cs : List Char) : Option Instant := do
  let (year, cs) ← digits 4 4 cs
  let cs ← char '-' cs
  let (month, cs) ← digits 2 2 cs
  let cs ← char '-' cs
  let (day, cs) ← digits 2 2 cs
  let cs ← separator cs
  let (hour, cs) ← digits 2 2 cs
  let cs ← char ':' cs
  let (minute, cs) ← digits 2 2 cs
  let cs ← char ':' cs
  let (second, cs) ← digits 2 2 cs
  let (nanos, cs) ← fraction cs
  let (offset, cs) ← zone cs
  if cs = [] then ofLocal? ⟨year, month, day⟩ ⟨hour, minute, second, nanos⟩ offset else none

/-- a field of a loose date: white space may stand before it, leading zeros may be missing -/
def field (width : Nat) : Step Nat := fun cs => digits 1 width (trimStart cs)

/-- a year: up to four digits, or a sign and any number of digits -/
def looseYear (cs : List Char) : Option (Int × List Char) :=
  match trimStart cs with
  | '-' :: rest => (digits 1 rest.length rest).map fun r => (-(r.1 : Int), r.2)
  | '+' :: rest => (digits 1 rest.length rest).map fun r => ((r.1 : Int), r.2)
  | rest => (digits 1 4 rest).map fun r => ((r.1 : Int), r.2)

/-- year, month and day apart by hyphens -/
def looseDate (cs : List Char) : Option (CalendarDate × List Char) := do
  let (year, cs) ← looseYear cs
  let cs ← char '-' cs
  let (month, cs) ← field 2 cs
  let cs ← char '-' cs
  let (day, cs) ← field 2 cs
  some (⟨year, month, day⟩, cs)

/-- hour and minute -/
def looseMinutes (cs : List Char) : Option (Clock × List Char) := do
  let (hour, cs) ← field 2 cs
  let cs ← char ':' cs
  let (minute, cs) ← field 2 cs
  some (⟨hour, minute, 0, 0⟩, cs)

/-- hour, minute, second and an optional fraction -/
def looseClock (cs : List Char) : Option (Clock × List Char) := do
  let (clock, cs) ← looseMinutes cs
  let cs ← char ':' cs
  let (second, cs) ← field 2 cs
  let (nanos, cs) ← fraction cs
  some (⟨clock.hour, clock.minute, second, nanos⟩, cs)

/-- a bare date: its midnight -/
def ofDate? (cs : List Char) : Option Instant := do
  let (date, cs) ← looseDate cs
  if cs = [] then ofLocal? date ⟨0, 0, 0, 0⟩ 0 else none

/-- a date and a time of day in UTC, what stands between them given by `between` -/
def ofDateTime? (between : List Char → Option (List Char)) (time : Step Clock) (cs : List Char) : Option Instant := do
  let (date, cs) ← looseDate cs
  let cs ← between cs
  let (clock, cs) ← time cs
  if cs = [] then ofLocal? date clock 0 else none

/-- position of the first three letters, in any case, in a list of names -/
def named (names : List String) : Step Nat := fun cs =>
  let name := String.ofList ((cs.take 3).map Char.toLower)
  (names.findIdx? (· = name)).map fun i => (i, cs.drop 3)

def weekdayNames : List String := ["mon", "tue", "wed", "thu", "fri", "sat", "sun"]

def monthNames : List String :=
  ["jan", "feb", "mar", "apr", "may", "jun", "jul", "aug", "sep", "oct", "nov", "dec"]

/-- hours from UTC of the zone names of mail messages -/
def zoneNames : List (String × Int) :=
  [("gmt", 0), ("ut", 0), ("z", 0), ("edt", -4), ("est", -5), ("cdt", -5), ("cst", -6), ("mdt", -6), ("mst", -7),
    ("pdt", -7), ("pst", -8)]

/-- a zone name, any other single letter but j for UTC, or an offset without a colon -/
def mailZone (cs : List Char) : Option (Int × List Char) :=
  match cs.takeWhile Char.isAlpha with
  | [] => offset .mail cs
  | letters =>
    let name := letters.map Char.toLower
    let rest := cs.dropWhile Char.isAlpha
    match zoneNames.lookup (String.ofList name) with
    | some hours => some (hours * 3600, rest)
    | none => if name.length = 1 ∧ name ≠ ['j'] then some (0, rest) else none

/-- the rest after a comment in parentheses that is already `depth` deep; a backslash takes the next character as it is -/
def skipComment : Nat → Bool → List Char → Option (List Char)
  | _, _, [] => none
  | depth, true, _ :: rest => skipComment depth false rest
  | depth, false, c :: rest =>
    if c = '\\' then skipComment depth true rest
    else if c = '(' then skipComment (depth + 1) false rest
    else if c = ')' then (if depth = 1 then some rest else skipComment (depth - 1) false rest)
    else skipComment depth false rest

/-- whether a text is a row of comments; each takes at least two characters, so `fuel` need not exceed the length -/
def onlyComments : Nat → List Char → Bool
  | _, [] => true
  | 0, _ => false
  | fuel + 1, cs =>
    match trimStart cs with
    | '(' :: rest =>
      match skipComment 1 false rest with
      | some rest => onlyComments fuel rest
      | none => false
    | _ => false

/-- years written with two or three digits lie around the year 2000 -/
def mailYear (width year : Nat) : Nat :=
  if width = 2 then (if year ≤ 49 then year + 2000 else year + 1900)
  else if width = 3 then year + 1900
  else year

/-- an optional colon and seconds -/
def mailSeconds (cs : List Char) : Option (Nat × List Char) :=
  match trimStart cs with
  | ':' :: rest => digits 2 2 rest
  | _ => some (0, cs)

/-- an optional day of the week before a comma -/
def mailWeekday (cs : List Char) : Option (Option Nat × List Char) :=
  match named weekdayNames cs with
  | some (weekday, ',' :: rest) => some (some weekday, rest)
  | some _ => none
  | none => some (none, cs)

/-- date line of a mail message; a day of the week that is given must be the right one -/
def ofMail? (cs : List Char) : Option Instant := do
  let (weekday, cs) ← mailWeekday (trimStart cs)
  let (day, cs) ← digits 1 2 (trimStart cs)
  let cs ← blanks cs
  let (month, cs) ← named monthNames cs
  let cs ← blanks cs
  let (year, rest) ← digits 2 cs.length cs
  let date : CalendarDate := ⟨mailYear (cs.length - rest.length) year, month + 1, day⟩
  let cs ← blanks rest
  let (hour, cs) ← digits 2 2 cs
  let cs ← char ':' (trimStart cs)
  let (minute, cs) ← digits 2 2 (trimStart cs)
  let (second, cs) ← mailSeconds cs
  let cs ← blanks cs
  let (offset, cs) ← mailZone cs
  let rightDay := match weekday with
    | some w => CalendarDate.weekday date.dayNumber == w
    | none => true
  if onlyComments cs.length cs && rightDay then ofLocal? date ⟨hour, minute, second, 0⟩ offset else none

/-- the instant a text stands for, white space at its ends aside -/
def read? (text : String) : Option Instant :=
  let cs := trim text.toList
  ofTimestamp? cs <|> ofDate? cs <|> ofDateTime? (char 'T') looseClock cs <|>
    ofDateTime? (fun cs => some (trimStart cs)) looseClock cs <|> ofDateTime? (char 'T') looseMinutes cs <|> ofMail? cs

end Instant

end ValueSchema

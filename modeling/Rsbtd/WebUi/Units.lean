import Mathlib.Algebra.Order.Ring.Rat
import Rsbtd.WebUi.JsString

/-!
# Values of the search query

The parsers of `units.ts`.  Numbers are exact; the local calendar is a parameter.
-/

namespace Rsbtd.WebUi

open JsString

/-- A number, or `Infinity`, or `NaN`. -/
inductive Number where
  | nan
  | infinite
  | finite (value : ℚ)
deriving DecidableEq

namespace Number

def lt : Number → Number → Bool
  | finite a, finite b => a < b
  | finite _, infinite => true
  | _, _ => false

/-- `===`. -/
def same : Number → Number → Bool
  | finite a, finite b => a = b
  | infinite, infinite => true
  | _, _ => false

def le (a b : Number) : Bool := a.lt b || a.same b

/-- The product; no factor is infinite. -/
def mul : Number → Number → Number
  | finite a, finite b => finite (a * b)
  | _, _ => nan

end Number

/-! ### Texts -/

def isDigit (u : CodeUnit) : Bool := unit '0' ≤ u && u ≤ unit '9'

def isUpper (u : CodeUnit) : Bool := unit 'A' ≤ u && u ≤ unit 'Z'

def isLower (u : CodeUnit) : Bool := unit 'a' ≤ u && u ≤ unit 'z'

/-- `[a-z]` of a regular expression with the flag `i`. -/
def isLetter (u : CodeUnit) : Bool := isUpper u || isLower u

/-- `toLowerCase` of an ASCII code unit. -/
def lowerUnit (u : CodeUnit) : CodeUnit := if isUpper u then u + 32 else u

def trim (text : JsString) : JsString :=
  (text.dropWhile isSpace).reverse.dropWhile isSpace |>.reverse

/-- The number that digits denote. -/
def digitsValue (digits : JsString) : Nat := digits.foldl (fun n u => 10 * n + (u - unit '0').toNat) 0

/-- `Number` of digits with a fraction. -/
def decimalValue (digits fraction : JsString) : ℚ :=
  digitsValue (digits ++ fraction) / 10 ^ fraction.length

/-- `[0-9]+(?:\.[0-9]+)?` at the start of a text, and what follows. -/
def matchDecimal (text : JsString) : Option (ℚ × JsString) :=
  let digits := text.takeWhile isDigit
  let rest := text.dropWhile isDigit
  if digits = [] then none
  else if rest.head? = some (unit '.') ∧ (rest.tail.takeWhile isDigit) ≠ [] then
    some (decimalValue digits (rest.tail.takeWhile isDigit), rest.tail.dropWhile isDigit)
  else some (decimalValue digits [], rest)

/-! ### Sizes, rates and durations -/

/-- `record[key]` of an object literal, for a key of lower-case letters.  `constructor` is the
one property of such a name that every object has; it is a function, which is no number. -/
def property? (record : List (JsString × ℚ)) (key : JsString) : Option Number :=
  match record.lookup key with
  | some value => some (.finite value)
  | none => if key = js "constructor" then some .nan else none

def decimalUnits : List (JsString × ℚ) :=
  [(js "k", 1000), (js "kb", 1000), (js "m", 1000000), (js "mb", 1000000), (js "g", 1000000000),
    (js "gb", 1000000000), (js "t", 1000000000000), (js "tb", 1000000000000)]

def binaryUnits : List (JsString × ℚ) :=
  [(js "kib", 1024), (js "mib", 1048576), (js "gib", 1073741824), (js "tib", 1099511627776)]

def durationUnits : List (JsString × ℚ) :=
  [(js "s", 1), (js "m", 60), (js "h", 3600), (js "d", 86400)]

/-- The number and the unit of a size. -/
def matchSize (text : JsString) : Option (ℚ × JsString) :=
  match matchDecimal (trim text) with
  | none => none
  | some (value, rest) =>
    let letters := rest.dropWhile isSpace
    if letters.all isLetter then some (value, letters.map lowerUnit) else none

def parseSize (text : JsString) : Option Number :=
  match matchSize text with
  | none => none
  | some (value, unit) =>
    if unit = [] ∨ unit = js "b" then some (.finite value)
    else
      match (property? binaryUnits unit).or (property? decimalUnits unit) with
      | none => none
      | some factor => some ((Number.finite value).mul factor)

/-- `.replace(/\/s$/i, '')`. -/
def dropPerSecond (text : JsString) : JsString :=
  if (text.map lowerUnit).drop (text.length - 2) = js "/s" then text.take (text.length - 2)
  else text

def parseRate (text : JsString) : Option Number := parseSize (dropPerSecond (trim text))

/-- Returns parts-per-million. -/
def parsePercentPpm (text : JsString) : Option Number :=
  match matchDecimal (trim text) with
  | none => none
  | some (value, rest) =>
    let sign := rest.dropWhile isSpace
    if sign = [] ∨ sign = js "%" then some (.finite (value * 10000)) else none

def parseDurationSeconds (text : JsString) : Option Number :=
  match matchDecimal (trim text) with
  | none => none
  | some (value, rest) =>
    let unit := (rest.dropWhile isSpace).map lowerUnit
    if unit = [] then some (.finite value)
    else (durationUnits.lookup unit).map fun factor => .finite (value * factor)

def parsePlainNumber (text : JsString) : Option Number :=
  let trimmed := trim text
  let negative : Bool := trimmed.head? = some (unit '-')
  match matchDecimal (if negative then trimmed.tail else trimmed) with
  | some (value, []) => some (.finite (if negative then -value else value))
  | _ => none

/-! ### Dates -/

/-- `new Date(..)` and its getters: local times as milliseconds since the epoch.  Months are
counted from 0. -/
structure Calendar where
  newDate : (year month day hour minute second : Int) → Int
  getFullYear : Int → Int
  getMonth : Int → Int
  getDate : Int → Int
  getHours : Int → Int
  getMinutes : Int → Int
  getSeconds : Int → Int

structure DateValue where
  /-- Epoch seconds of the parsed instant (local time). -/
  startSec : Int
  /-- Exclusive end for date-only equality (whole-day match). -/
  endSec : Int
deriving DecidableEq, Repr

/-- The groups of the regular expression of `parseDate`. -/
structure DateParts where
  year : Int
  month : Int
  day : Int
  time : Option (Int × Int × Option Int)
deriving DecidableEq, Repr

/-- `\d` so many times. -/
def matchDigits (count : Nat) (text : JsString) : Option (Int × JsString) :=
  let digits := text.take count
  if digits.length = count ∧ digits.all isDigit = true then
    some (digitsValue digits, text.drop count)
  else none

def matchUnit (allowed : List Char) (text : JsString) : Option JsString :=
  match text with
  | u :: rest => if allowed.any fun c => u = unit c then some rest else none
  | [] => none

def matchSeconds (text : JsString) : Option (Option Int) :=
  if text = [] then some none
  else
    (matchUnit [':'] text).bind fun rest =>
      (matchDigits 2 rest).bind fun s => if s.2 = [] then some (some s.1) else none

def matchTime (text : JsString) : Option (Option (Int × Int × Option Int)) :=
  if text = [] then some none
  else
    (matchUnit ['T', ' '] text).bind fun rest =>
      (matchDigits 2 rest).bind fun h =>
        (matchUnit [':'] h.2).bind fun rest =>
          (matchDigits 2 rest).bind fun mi =>
            (matchSeconds mi.2).map fun s => some (h.1, mi.1, s)

/-- The regular expression of `parseDate`. -/
def matchDate (text : JsString) : Option DateParts :=
  (matchDigits 4 text).bind fun y =>
    (matchUnit ['-'] y.2).bind fun rest =>
      (matchDigits 2 rest).bind fun mo =>
        (matchUnit ['-'] mo.2).bind fun rest =>
          (matchDigits 2 rest).bind fun d =>
            (matchTime d.2).map fun time => ⟨y.1, mo.1, d.1, time⟩

variable (calendar : Calendar)

def parseDate (text : JsString) : Option DateValue :=
  match matchDate (trim text) with
  | none => none
  | some ⟨year, month, day, time⟩ =>
    let hour := (time.map (·.1)).getD 0
    let minute := (time.map (·.2.1)).getD 0
    let s := time.bind (·.2.2)
    let date := calendar.newDate year (month - 1) day hour minute (s.getD 0)
    -- Round-trip the given components to reject rolled-over inputs (Feb 31).
    if calendar.getFullYear date ≠ year ∨ calendar.getMonth date ≠ month - 1 ∨
        calendar.getDate date ≠ day then none
    else if time.isSome ∧ (calendar.getHours date ≠ hour ∨ calendar.getMinutes date ≠ minute) then
      none
    else if s.isSome ∧ calendar.getSeconds date ≠ s.getD 0 then none
    else
      let startSec := date / 1000
      some
        { startSec
          endSec :=
            if time.isSome then startSec + (if s.isSome then 1 else 60)
            else calendar.newDate year (month - 1) (day + 1) 0 0 0 / 1000 }

end Rsbtd.WebUi

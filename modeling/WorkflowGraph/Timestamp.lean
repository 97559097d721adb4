import WorkflowGraph.Number.Numeral
import WorkflowGraph.Text.Blank
import WorkflowGraph.Text.Word
set_option autoImplicit false

namespace WorkflowGraph

/-- A point in time to the second. The second 60 is a leap second. -/
structure Timestamp where
  year : Int
  month : Nat
  day : Nat
  hour : Nat
  minute : Nat
  second : Nat
  /-- How far the clock is ahead of universal time, in seconds. -/
  ahead : Int
deriving DecidableEq, Repr

namespace Timestamp

def isLeapYear (year : Int) : Bool := year % 4 == 0 && (year % 100 != 0 || year % 400 == 0)

def daysOfMonth (year : Int) (month : Nat) : Nat :=
  if month = 2 then if isLeapYear year then 29 else 28
  else if month ∈ [4, 6, 9, 11] then 30
  else 31

def firstYear : Int := -262143

def lastYear : Int := 262142

def secondsOfDay : Int := 86400

/-- The seconds since the last midnight of universal time, negative or more than a day if that is
another day than the one given. -/
def universalSecond (t : Timestamp) : Int :=
  (t.hour * 3600 + t.minute * 60 + min t.second 59 : Nat) - t.ahead

def isValid (t : Timestamp) : Bool :=
  let isFirstDay := t.year = firstYear ∧ t.month = 1 ∧ t.day = 1
  let isLastDay := t.year = lastYear ∧ t.month = 12 ∧ t.day = 31
  firstYear ≤ t.year && t.year ≤ lastYear && 1 ≤ t.month && t.month ≤ 12
    && 1 ≤ t.day && t.day ≤ daysOfMonth t.year t.month
    && t.hour ≤ 23 && t.minute ≤ 59 && t.second ≤ 60
    && -secondsOfDay < t.ahead && t.ahead < secondsOfDay
    && !(decide isFirstDay && decide (t.universalSecond < 0))
    && !(decide isLastDay && decide (secondsOfDay ≤ t.universalSecond))

def digits? (width : Nat) (cs : List Char) : Option (Nat × List Char) := do
  let cs := Text.trimStart cs
  let digits := (cs.take width).takeWhile Text.isAsciiDigit
  return (← wholeNumber? 10 digits, cs.drop digits.length)

def year? (cs : List Char) : Option (Int × List Char) :=
  match Text.trimStart cs with
  | '-' :: rest =>
    if rest.head?.any Text.isAsciiDigit then (digits? rest.length rest).map fun p => (-p.1, p.2)
    else none
  | '+' :: rest =>
    if rest.head?.any Text.isAsciiDigit then (digits? rest.length rest).map fun p => (p.1, p.2)
    else none
  | cs => (digits? 4 cs).map fun p => (p.1, p.2)

def after? (mark : Char) (cs : List Char) : Option (List Char) :=
  match Text.trimStart cs with
  | c :: rest => if c = mark then some rest else none
  | [] => none

def afterFraction? : List Char → Option (List Char)
  | '.' :: rest =>
    if rest.head?.any Text.isAsciiDigit then some (rest.dropWhile Text.isAsciiDigit) else none
  | cs => some cs

def shift? (cs : List Char) : Option (Int × List Char) :=
  match cs with
  | a :: b :: rest =>
    match rest.dropWhile fun c => c == ':' || Text.isBlank c with
    | c :: d :: rest => do
      let hours ← wholeNumber? 10 [a, b]
      let minutes ← wholeNumber? 10 [c, d]
      if minutes ≤ 59 then some ((hours * 3600 + minutes * 60 : Nat), rest) else none
    | _ => none
  | _ => none

def zone? (cs : List Char) : Option (Int × List Char) :=
  match cs with
  | 'Z' :: rest => some (0, rest)
  | 'z' :: rest => some (0, rest)
  | '+' :: rest => shift? rest
  | '-' :: rest => (shift? rest).map fun p => (-p.1, p.2)
  | '−' :: rest => (shift? rest).map fun p => (-p.1, p.2)
  | cs =>
    if (cs.take 3).map Char.toUpper = ['U', 'T', 'C'] then some (0, cs.drop 3) else none

def parse? (text : String) : Option Timestamp := do
  let (year, rest) ← year? text.toList
  let (month, rest) ← digits? 2 (← after? '-' rest)
  let (day, rest) ← digits? 2 (← after? '-' rest)
  let rest ← match rest with
    | c :: rest => if c ∈ ['T', 't', ' '] then some rest else none
    | [] => none
  let (hour, rest) ← digits? 2 rest
  let (minute, rest) ← digits? 2 (← after? ':' rest)
  let (second, rest) ← digits? 2 (← after? ':' rest)
  let (ahead, rest) ← zone? (Text.trimStart (← afterFraction? rest))
  let t : Timestamp := ⟨year, month, day, hour, minute, second, ahead⟩
  if t.isValid && (Text.trimStart rest).isEmpty then some t else none

end Timestamp

end WorkflowGraph

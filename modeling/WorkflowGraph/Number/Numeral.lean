import WorkflowGraph.Text.Word
import WorkflowGraph.Number.Binary64
set_option autoImplicit false

namespace WorkflowGraph

def digitValue (c : Char) : Nat :=
  if Text.isAsciiDigit c then c.toNat - '0'.toNat
  else if 'a' ≤ c && c ≤ 'z' then c.toNat - 'a'.toNat + 10
  else if 'A' ≤ c && c ≤ 'Z' then c.toNat - 'A'.toNat + 10
  else 36

def wholeNumber? (base : Nat) (cs : List Char) : Option Nat :=
  if cs.isEmpty || !cs.all (fun c => digitValue c < base) then none
  else some (cs.foldl (fun n c => n * base + digitValue c) 0)

/-- The numbers below this are those of 64 bits, 2^64. -/
def wordLimit : Nat := 18446744073709551616

def signedLimit : Nat := 9223372036854775808

def readWord64? (base : Nat) (cs : List Char) : Option Nat :=
  let digits := match cs with
    | '+' :: rest => rest
    | cs => cs
  (wholeNumber? base digits).filter (· < wordLimit)

def readInt64? (base : Nat) (cs : List Char) : Option Int :=
  match cs with
  | '-' :: rest => ((wholeNumber? base rest).filter (· ≤ signedLimit)).map (fun n => -(n : Int))
  | '+' :: rest => ((wholeNumber? base rest).filter (· < signedLimit)).map (fun n => (n : Int))
  | cs => ((wholeNumber? base cs).filter (· < signedLimit)).map (fun n => (n : Int))

/-- A decimal numeral: its digits without the point, and the number of them after the point and
the exponent as written. -/
structure Numeral where
  negative : Bool
  digits : List Char
  places : Nat
  exponent : Int
deriving DecidableEq, Repr

namespace Numeral

def exponent? : List Char → Option Int
  | [] => some 0
  | c :: rest =>
    if c = 'e' ∨ c = 'E' then
      match rest with
      | '-' :: ds => (wholeNumber? 10 ds).map (fun n => -(n : Int))
      | '+' :: ds => (wholeNumber? 10 ds).map (fun n => (n : Int))
      | ds => (wholeNumber? 10 ds).map (fun n => (n : Int))
    else none

/-- A numeral without its sign: digits with an optional point and digits after it, or a point and
digits; then an exponent. -/
def unsigned? (negative : Bool) (cs : List Char) : Option Numeral :=
  let whole := cs.takeWhile Text.isAsciiDigit
  match cs.dropWhile Text.isAsciiDigit with
  | '.' :: rest =>
    let fraction := rest.takeWhile Text.isAsciiDigit
    if whole.isEmpty && fraction.isEmpty then none
    else (exponent? (rest.dropWhile Text.isAsciiDigit)).map
      (fun e => ⟨negative, whole ++ fraction, fraction.length, e⟩)
  | rest =>
    if whole.isEmpty then none
    else (exponent? rest).map (fun e => ⟨negative, whole, 0, e⟩)

def read? : List Char → Option Numeral
  | '-' :: rest => unsigned? true rest
  | '+' :: rest => unsigned? false rest
  | cs => unsigned? false cs

/-- `m * 10 ^ e`, rounded. Exponents far outside the format need no power of ten: `m` has no more
decimal digits than bits. -/
def ofScientific (negative : Bool) (m : Nat) (e : Int) : Binary64 :=
  if m = 0 then .finite ⟨negative, 0⟩
  else if 400 < e then .infinite negative
  else if e < -((m.log2 : Int) + 400) then .finite ⟨negative, 0⟩
  else Binary64.ofQuotient negative (m * Nat.pow 10 e.toNat * Binary64.unitsPerOne)
    (Nat.pow 10 (-e).toNat)

def value (n : Numeral) : Binary64 :=
  ofScientific n.negative (n.digits.foldl (fun m c => m * 10 + digitValue c) 0)
    (n.exponent - n.places)

theorem ofScientific_ne_nan (negative : Bool) (m : Nat) (e : Int) :
    ofScientific negative m e ≠ .nan := by
  rw [ofScientific]
  split
  · simp
  · split
    · simp
    · split
      · simp
      · exact Binary64.ofQuotient_ne_nan _ _ _

theorem value_ne_nan (n : Numeral) : n.value ≠ .nan := ofScientific_ne_nan _ _ _

/-- The leading digits that fit a word of 64 bits, and how many digits follow the first that
does not fit, itself included. -/
def leading (m : Nat) : List Char → Nat × Nat
  | [] => (m, 0)
  | c :: rest =>
    let m' := m * 10 + digitValue c
    if m' < wordLimit then leading m' rest else (m, rest.length + 1)

/-- Divides by 10^308 until the rest of the scaling is a power within the format. -/
def scaleDown (units : Nat) : (rounds : Nat) → Nat
  | 0 => units
  | n + 1 => scaleDown (Binary64.roundQuotient units (Binary64.roundQuotient (Nat.pow 10 308) 1)) n

/-- The leading digits times one rounded power of ten, rounded again; nothing if the result is
too large. Digits of the whole part that do not fit count as zeros, digits of the fraction that do
not fit are dropped. -/
def scaled? (n : Numeral) : Option Finite64 :=
  let whole := n.digits.take (n.digits.length - n.places)
  let fraction := n.digits.drop (n.digits.length - n.places)
  let (m, zeros) := leading 0 whole
  let (m, dropped) := leading m fraction
  let e := n.exponent + zeros - ((fraction.length - dropped : Nat) : Int)
  let units := Binary64.roundQuotient (m * Binary64.unitsPerOne) 1
  if m = 0 then some ⟨n.negative, 0⟩
  else if 308 < e then none
  else if 0 ≤ e then
    let power := Binary64.roundQuotient (Nat.pow 10 e.toNat) 1
    let units := Binary64.roundQuotient (units * power) 1
    if units < Binary64.limit then some ⟨n.negative, units⟩ else none
  else
    let depth := (-e).toNat
    let rounds := if depth ≤ 308 then 0 else min ((depth - 308 + 307) / 308) 4
    let units := scaleDown units rounds
    let depth := if depth ≤ 308 * rounds + 308 then depth - 308 * rounds else 0
    let power := Binary64.roundQuotient (Nat.pow 10 depth) 1
    some ⟨n.negative, Binary64.roundQuotient units power⟩

end Numeral

end WorkflowGraph

import WorkflowGraph.Number.Binary64
set_option autoImplicit false

namespace WorkflowGraph.Finite64

structure Decimal where
  digits : Nat
  exponent : Int

def Decimal.compareQuarters (d : Decimal) (quarters : Nat) : Ordering :=
  compare (d.digits * Nat.pow 10 d.exponent.toNat * (4 * Binary64.unitsPerOne))
    (quarters * Nat.pow 10 (-d.exponent).toNat)

/-- Whether the value of `units` is the one nearest to a decimal: the decimal lies between the
points halfway to the neighbours, and on one of them only if the significand is even. The
neighbour below a power of two is half as far away. -/
def readsBack (units : Nat) (d : Decimal) : Bool :=
  let step := Nat.pow 2 (units.log2 - 52)
  let narrow := units == Nat.pow 2 units.log2 && 1 < step
  let low := 4 * units - (if narrow then step else 2 * step)
  let high := 4 * units + 2 * step
  let closed := units / step % 2 == 0
  let atLow := d.compareQuarters low
  let atHigh := d.compareQuarters high
  (atLow == .gt || (closed && atLow == .eq)) && (atHigh == .lt || (closed && atHigh == .eq))

/-- The exponent `k` with `10 ^ (k - 1) ≤ x < 10 ^ k`, from an estimate by the binary logarithm
that is at most one too small. -/
def scale (units : Nat) : Int :=
  let estimate := Int.fdiv (((units.log2 : Int) - 1074) * 30103) 100000 + 1
  if (Decimal.mk 1 estimate).compareQuarters (4 * units) == .gt then estimate else estimate + 1

def floorAt (units : Nat) (exponent : Int) : Nat :=
  units * Nat.pow 10 (-exponent).toNat / (Nat.pow 10 exponent.toNat * Binary64.unitsPerOne)

/-- The decimal with steps `10 ^ exponent` that reads back, if one of the value's neighbours
among them does: the nearer one, of two equally near the even one. -/
def onGrid? (units : Nat) (exponent : Int) : Option Decimal :=
  let below := Decimal.mk (floorAt units exponent) exponent
  let above := Decimal.mk (floorAt units exponent + 1) exponent
  match readsBack units below, readsBack units above with
  | true, false => some below
  | false, true => some above
  | false, false => none
  | true, true =>
    match (Decimal.mk (2 * below.digits + 1) exponent).compareQuarters (8 * units) with
    | .gt => some below
    | .lt => some above
    | .eq => some (if below.digits % 2 = 0 then below else above)

def Decimal.strip (d : Decimal) : (fuel : Nat) → Decimal
  | 0 => d
  | fuel + 1 =>
    if d.digits ≠ 0 ∧ d.digits % 10 = 0 then strip ⟨d.digits / 10, d.exponent + 1⟩ fuel else d

/-- The shortest decimal of a value other than zero. -/
def shortest (units : Nat) : Decimal :=
  let k := scale units
  -- Seventeen digits are enough for every value; with one more there is a decimal to fall back on.
  let found := (List.range 17).findSome? (fun n => onGrid? units (k - ((n + 1 : Nat) : Int)))
  (found.getD ⟨floorAt units (k - 18), k - 18⟩).strip 20

def layOut (digits : List Char) (lead : Int) : List Char :=
  if -5 ≤ lead ∧ lead < 16 then
    if lead < 0 then
      ['0', '.'] ++ List.replicate (-lead - 1).toNat '0' ++ digits
    else
      let whole := (lead + 1).toNat
      let fraction := digits.drop whole
      digits.take whole ++ List.replicate (whole - digits.length) '0' ++ ['.']
        ++ (if fraction.isEmpty then ['0'] else fraction)
  else
    let fraction := digits.drop 1
    digits.take 1 ++ (if fraction.isEmpty then [] else '.' :: fraction)
      ++ ['e', if lead < 0 then '-' else '+'] ++ Nat.toDigits 10 lead.natAbs

def render (x : Finite64) : String :=
  let sign := if x.negative then ['-'] else []
  let body :=
    if x.units = 0 then ['0', '.', '0']
    else
      let d := shortest x.units
      let digits := Nat.toDigits 10 d.digits
      layOut digits (d.exponent + digits.length - 1)
  String.ofList (sign ++ body)

end WorkflowGraph.Finite64

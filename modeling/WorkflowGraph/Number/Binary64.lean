set_option autoImplicit false

/-!
# Binary floating point with 64 bits

Every finite value of the format is a whole multiple of 2^-1074, so a value is a sign and a count
of that unit. Order and equality are those of the signed counts, and rounding a quotient is one
division. `eq_symm`, `eq_trans` and `eq_self_iff` are the laws of equality.
-/
namespace WorkflowGraph

/-- A finite value: the sign, and the magnitude in units of 2^-1074. The two zeros differ in the
sign only. -/
structure Finite64 where
  negative : Bool
  units : Nat
deriving DecidableEq, Repr

inductive Binary64 where
  | nan
  | infinite (negative : Bool)
  | finite (x : Finite64)
deriving DecidableEq, Repr

namespace Finite64

def zero : Finite64 := ⟨false, 0⟩

def signed (x : Finite64) : Int := if x.negative then -(x.units : Int) else x.units

def eq (x y : Finite64) : Bool := x.signed == y.signed

end Finite64

namespace Binary64

def unitsPerOne : Nat := Nat.pow 2 1074

def limit : Nat := Nat.pow 2 1024 * unitsPerOne

/-- The whole number nearest to the quotient among those with at most 53 significant bits; a tie
goes to the even one. -/
def roundQuotient (num den : Nat) : Nat :=
  let step := Nat.pow 2 ((num / den).log2 - 52)
  let count := num / (den * step)
  let rest := num % (den * step)
  let up := den * step < 2 * rest || (den * step == 2 * rest && count % 2 == 1)
  (if up then count + 1 else count) * step

def ofUnits (negative : Bool) (units : Nat) : Binary64 :=
  if units < limit then .finite ⟨negative, units⟩ else .infinite negative

def ofQuotient (negative : Bool) (num den : Nat) : Binary64 :=
  ofUnits negative (roundQuotient num den)

def ofInt (n : Int) : Binary64 := ofQuotient (n < 0) (n.natAbs * unitsPerOne) 1

/-- Equality of values: nothing equals a NaN, and the zeros are equal. -/
def eq : Binary64 → Binary64 → Bool
  | .finite x, .finite y => x.eq y
  | .infinite s, .infinite t => s == t
  | _, _ => false

def lt : Binary64 → Binary64 → Bool
  | .finite x, .finite y => x.signed < y.signed
  | .finite _, .infinite t => !t
  | .infinite s, .finite _ => s
  | .infinite s, .infinite t => s && !t
  | _, _ => false

def le (x y : Binary64) : Bool := lt x y || eq x y

def pushHexDigit (x : Binary64) (digit : Nat) : Binary64 :=
  match x with
  | .finite x => ofQuotient false (x.units * 16 + digit * unitsPerOne) 1
  | x => x

theorem ofUnits_ne_nan (negative : Bool) (units : Nat) : ofUnits negative units ≠ .nan := by
  rw [ofUnits]
  split <;> simp

theorem ofQuotient_ne_nan (negative : Bool) (num den : Nat) :
    ofQuotient negative num den ≠ .nan := ofUnits_ne_nan _ _

theorem ofInt_ne_nan (n : Int) : ofInt n ≠ .nan := ofQuotient_ne_nan _ _ _

theorem pushHexDigit_ne_nan {x : Binary64} (h : x ≠ .nan) (digit : Nat) :
    pushHexDigit x digit ≠ .nan := by
  cases x with
  | nan => exact absurd rfl h
  | infinite s => simp [pushHexDigit]
  | finite x => exact ofQuotient_ne_nan _ _ _

theorem eq_symm (x y : Binary64) : eq x y = eq y x := by
  cases x <;> cases y <;> simp [eq, Finite64.eq, Bool.beq_comm]

theorem eq_trans {x y z : Binary64} (hxy : eq x y = true) (hyz : eq y z = true) :
    eq x z = true := by
  cases x <;> cases y <;> cases z <;> simp_all [eq, Finite64.eq]

theorem eq_self_iff (x : Binary64) : eq x x = true ↔ x ≠ .nan := by
  cases x <;> simp [eq, Finite64.eq]

end Binary64

end WorkflowGraph

import WorkflowGraph.Number.Binary64
set_option autoImplicit false

namespace WorkflowGraph

namespace Json

/-- A number: integers are those of 64 bits, from -2^63 up to but not including 2^64. -/
inductive Number where
  | int (n : Int)
  | float (x : Finite64)
deriving DecidableEq, Repr

end Json

inductive Json where
  | null
  | bool (b : Bool)
  | number (n : Json.Number)
  | string (s : String)
  | array (items : List Json)
  | object (members : List (String × Json))

namespace Json

instance : Inhabited Json := ⟨.null⟩

def Number.value : Number → Binary64
  | .int n => Binary64.ofInt n
  | .float x => .finite x

/-- Equality of numbers of the same kind; an integer never equals a floating value here. -/
def Number.same : Number → Number → Bool
  | .int m, .int n => m == n
  | .float x, .float y => x.eq y
  | _, _ => false

mutual
def same : Json → Json → Bool
  | .null, .null => true
  | .bool a, .bool b => a == b
  | .number m, .number n => m.same n
  | .string s, .string t => s == t
  | .array xs, .array ys => sameItems xs ys
  | .object xs, .object ys => sameMembers xs ys
  | _, _ => false

def sameItems : List Json → List Json → Bool
  | [], [] => true
  | x :: xs, y :: ys => same x y && sameItems xs ys
  | _, _ => false

def sameMembers : List (String × Json) → List (String × Json) → Bool
  | [], [] => true
  | (k, x) :: xs, (l, y) :: ys => k == l && same x y && sameMembers xs ys
  | _, _ => false
end

mutual
theorem same_self : (v : Json) → v.same v = true
  | .null => by rw [same]
  | .bool b => by rw [same, beq_self_eq_true]
  | .number (.int n) => by rw [same, Number.same, beq_self_eq_true]
  | .number (.float x) => by rw [same, Number.same, Finite64.eq, beq_self_eq_true]
  | .string s => by rw [same, beq_self_eq_true]
  | .array items => by rw [same, sameItems_self items]
  | .object members => by rw [same, sameMembers_self members]

theorem sameItems_self : (items : List Json) → sameItems items items = true
  | [] => by rw [sameItems]
  | v :: items => by rw [sameItems, same_self v, sameItems_self items, Bool.and_self]

theorem sameMembers_self : (members : List (String × Json)) → sameMembers members members = true
  | [] => by rw [sameMembers]
  | (k, v) :: members => by
    rw [sameMembers, same_self v, sameMembers_self members, beq_self_eq_true, Bool.and_self,
      Bool.and_self]
end

theorem same_string_iff (v : Json) (t : String) : v.same (.string t) = true ↔ v = .string t := by
  cases v <;> simp [same]

theorem same_bool_iff (v : Json) (b : Bool) : v.same (.bool b) = true ↔ v = .bool b := by
  cases v <;> simp [same]

def kind : Json → String
  | .null => "null"
  | .bool _ => "boolean"
  | .number _ => "number"
  | .string _ => "string"
  | .array _ => "array"
  | .object _ => "object"

def isContainer : Json → Bool
  | .array _ | .object _ => true
  | _ => false

def string? : Json → Option String
  | .string s => some s
  | _ => none

end Json

end WorkflowGraph

import WorkflowGraph.State
import WorkflowGraph.Source.Record
set_option autoImplicit false

namespace WorkflowGraph

inductive FieldType where
  | string
  | number
  | boolean
  | array
  | object
  | enum
deriving DecidableEq, Repr

namespace FieldType

def name : FieldType → String
  | .string => "string"
  | .number => "number"
  | .boolean => "boolean"
  | .array => "array"
  | .object => "object"
  | .enum => "enum"

def words : List (String × FieldType) :=
  [.string, .number, .boolean, .array, .object, .enum].map fun t => (t.name, t)

def accepts : FieldType → Json → Bool
  | .string, .string _ => true
  | .enum, .string _ => true
  | .number, .number _ => true
  | .boolean, .bool _ => true
  | .array, .array _ => true
  | .object, .object _ => true
  | _, _ => false

def read (dialect : Dialect) (s : Source) : Decoding FieldType := s.variant words dialect

end FieldType

structure FieldDef where
  key : String
  type : FieldType
  required : Bool
  default : Option Json
  enumValues : Option (List String)

/-- The expected fields in their order. Of several with one key the first counts. -/
structure Schema where
  fields : List FieldDef

inductive StateProblem where
  | missing (key : String)
  | wrongType (key : String) (expected : FieldType) (found : String)
  | notListed (key : String) (value : String) (allowed : List String)
deriving DecidableEq, Repr

def StateProblem.message : StateProblem → String
  | .missing key => "required field '" ++ key ++ "' is missing"
  | .wrongType key expected found =>
    "field '" ++ key ++ "' should be " ++ expected.name ++ " but is " ++ found
  | .notListed key value allowed =>
    "field '" ++ key ++ "' has value '" ++ value ++ "' outside of ["
      ++ ", ".intercalate allowed ++ "]"

namespace FieldDef

def reader (dialect : Dialect) : RecordReader FieldDef :=
  (RecordReader.pure FieldDef.mk)
    |>.required "key" Source.text
    |>.required "type" (FieldType.read dialect)
    |>.withDefault "required" Source.flag false
    |>.withDefault "default" (Source.optional Source.value) none
    |>.withDefault "enumValues" (Source.optional (Source.listOf Source.text)) none

def read (dialect : Dialect) : Source → Decoding FieldDef := (reader dialect).read dialect

def toJson (f : FieldDef) : Json :=
  Json.ofMembers <|
    [("key", .string f.key), ("type", .string f.type.name), ("required", .bool f.required)]
      ++ (f.default.map fun v => ("default", v)).toList
      ++ (f.enumValues.map fun vs => ("enumValues", .array (vs.map .string))).toList

def problem? (f : FieldDef) (s : State) : Option StateProblem :=
  match s.get? f.key with
  | none => if f.required then some (.missing f.key) else none
  | some value =>
    if !f.type.accepts value then some (.wrongType f.key f.type value.kind)
    else
      match f.type, f.enumValues, value with
      | .enum, some allowed, .string v =>
        if v ∈ allowed then none else some (.notListed f.key v allowed)
      | _, _, _ => none

end FieldDef

namespace Schema

def read (dialect : Dialect) (s : Source) : Decoding Schema :=
  Schema.mk <$> s.listOf (FieldDef.read dialect)

def toJson (schema : Schema) : Json := .array (schema.fields.map FieldDef.toJson)

def field? (schema : Schema) (key : String) : Option FieldDef :=
  schema.fields.find? (·.key = key)

def contains (schema : Schema) (key : String) : Bool := (schema.field? key).isSome

def keys (schema : Schema) : List String := schema.fields.map (·.key)

/-- The state that holds every default; of several for one key the last. -/
def initialState (schema : Schema) : State :=
  Fields.ofList (schema.fields.filterMap fun f => f.default.map fun v => (f.key, v))

def checkState (schema : Schema) (s : State) : List StateProblem :=
  schema.fields.filterMap (·.problem? s)

end Schema

end WorkflowGraph

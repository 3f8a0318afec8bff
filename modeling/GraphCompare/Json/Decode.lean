import GraphCompare.Json.Value

/-! Reading domain values from a document. A record may be an object or an array of its fields. -/
namespace GraphCompare.Doc
variable {α : Type}

def bool? : Doc → Option Bool
  | .bool b => some b
  | _ => none

def string? : Doc → Option String
  | .string s => s
  | _ => none

/-- A whole number of 64 bits, written without sign, point or exponent. -/
def count? : Doc → Option UInt64
  | .number (some (.unsigned n)) => some n
  | _ => none

def float? : Doc → Option Float
  | .number n => n.map (·.toFloat)
  | _ => none

def list? (read : Doc → Option α) : Doc → Option (List α)
  | .array items => items.mapM read
  | _ => none

def option? (read : Doc → Option α) : Doc → Option (Option α)
  | .null => some none
  | d => (read d).map some

/-- A name of a list of choices, alone or as the one member of an object with value null. -/
def choice? (choices : List (String × α)) : Doc → Option α
  | .string (some s) => choices.lookup s
  | .object [(some s, .null)] => choices.lookup s
  | _ => none

/-- The given fields of a record. An array lists them in order and may end early; an object names
them in any order, once each, among members that are skipped. -/
def fields? (names : List String) : Doc → Option (List (String × Doc))
  | .array items => if items.length ≤ names.length then some (names.zip items) else none
  | .object members => do
    let members ← members.mapM fun m => m.1.map fun k => (k, m.2)
    let known := members.filter fun m => names.contains m.1
    if (known.map (·.1)).Nodup then some known else none
  | _ => none

/-- A field that must be there. -/
def required (name : String) (read : Doc → Option α) (fields : List (String × Doc)) : Option α :=
  (fields.lookup name).bind read

/-- A field with a default for when it is absent. -/
def optional (name : String) (default : α) (read : Doc → Option α) (fields : List (String × Doc)) :
    Option α :=
  match fields.lookup name with
  | none => some default
  | some d => read d

end GraphCompare.Doc

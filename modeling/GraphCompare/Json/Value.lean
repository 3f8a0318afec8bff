/-!
JSON values in two forms: `Doc` keeps a text as it was written, `Json` is what a text means.
-/
namespace GraphCompare

namespace Json

/-- A number: a whole number of 64 bits, a negative one by its size, or a float. -/
inductive Number
  | unsigned (n : UInt64)
  | negative (size : UInt64)
  | real (x : Float)

def Number.toFloat : Number → Float
  | .unsigned n => n.toFloat
  | .negative n => -n.toFloat
  | .real x => x

end Json

/-- A JSON value. The members of an object have distinct names, in the order of insertion. -/
inductive Json
  | null
  | bool (b : Bool)
  | number (n : Json.Number)
  | string (s : String)
  | array (items : List Json)
  | object (members : List (String × Json))

/-- A JSON text as written: members keep their order and repetitions, a number too large to be
read and a string with half a surrogate pair are kept as `none`. -/
inductive Doc
  | null
  | bool (b : Bool)
  | number (n : Option Json.Number)
  | string (s : Option String)
  | array (items : List Doc)
  | object (members : List (Option String × Doc))

namespace Json

def ofFloat (x : Float) : Json := if x.isFinite then .number (.real x) else .null

def ofCount (n : UInt64) : Json := .number (.unsigned n)

def ofOption {α : Type} (f : α → Json) : Option α → Json
  | none => .null
  | some a => f a

/-- The member of that name. -/
def lookup (name : String) (members : List (String × Json)) : Option Json :=
  List.lookup name members

/-- Replaces the value of a name where it stands, or appends a member. -/
def put (name : String) (v : Json) : List (String × Json) → List (String × Json)
  | [] => [(name, v)]
  | (k, w) :: rest => if k = name then (k, v) :: rest else (k, w) :: put name v rest

theorem lookup_put (k name : String) (v : Json) (ms : List (String × Json)) :
    lookup k (put name v ms) = if k = name then some v else lookup k ms := by
  induction ms with
  | nil => grind [lookup, put]
  | cons m rest ih =>
    obtain ⟨l, w⟩ := m
    grind [lookup, put]

mutual

/-- A value as a document, which has no repetitions and nothing unreadable. -/
def toDoc : Json → Doc
  | .null => .null
  | .bool b => .bool b
  | .number n => .number (some n)
  | .string s => .string (some s)
  | .array items => .array (itemsToDoc items)
  | .object members => .object (membersToDoc members)

def itemsToDoc : List Json → List Doc
  | [] => []
  | j :: rest => j.toDoc :: itemsToDoc rest

def membersToDoc : List (String × Json) → List (Option String × Doc)
  | [] => []
  | (k, j) :: rest => (some k, j.toDoc) :: membersToDoc rest

end

mutual

/-- Objects are merged member by member, anything else replaces what was there. -/
def merge (base : Json) : Json → Json
  | .null => .null
  | .bool b => .bool b
  | .number n => .number n
  | .string s => .string s
  | .array items => .array items
  | .object members =>
    match base with
    | .object old => .object (mergeMembers old members)
    | _ => .object members

def mergeMembers (base : List (String × Json)) : List (String × Json) → List (String × Json)
  | [] => base
  | (k, v) :: rest =>
    match lookup k base with
    | some old => mergeMembers (put k (merge old v) base) rest
    | none => mergeMembers (put k v base) rest

end

end Json

namespace Doc

/-- Arrays and objects may be nested this deep in a value. -/
def nestingLimit : Nat := 127

mutual

/-- The value of a document whose nesting stays within `depth`. Everything in it must be readable;
of members with one name the last gives the value and the first the place. -/
def toJsonWithin (depth : Nat) : Doc → Option Json
  | .null => some .null
  | .bool b => some (.bool b)
  | .number n => n.map .number
  | .string s => s.map .string
  | .array items =>
    match depth with
    | 0 => none
    | depth + 1 => (itemsToJson depth items).map .array
  | .object members =>
    match depth with
    | 0 => none
    | depth + 1 => (membersToJson depth [] members).map .object

def itemsToJson (depth : Nat) : List Doc → Option (List Json)
  | [] => some []
  | d :: rest => do
    let j ← d.toJsonWithin depth
    let js ← itemsToJson depth rest
    return j :: js

def membersToJson (depth : Nat) (done : List (String × Json)) :
    List (Option String × Doc) → Option (List (String × Json))
  | [] => some done
  | (k, d) :: rest => do
    let name ← k
    let j ← d.toJsonWithin depth
    membersToJson depth (Json.put name j done) rest

end

def toJson? (d : Doc) : Option Json := d.toJsonWithin nestingLimit

end Doc

end GraphCompare

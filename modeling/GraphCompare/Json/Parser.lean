import GraphCompare.Json.Token

/-! Reading a JSON text: tokens are put together with a stack of the containers still open. -/
namespace GraphCompare
namespace Json

/-- A container still open, its parts in reverse. `member` waits for the value of its name. -/
inductive Frame
  | array (items : List Doc)
  | object (members : List (Option String × Doc))
  | member (members : List (Option String × Doc)) (name : Option String)

/-- What may come next. -/
inductive Turn
  | value
  | firstItem
  | firstName
  | name
  | colon
  | separator

inductive Parser
  | working (stack : List Frame) (turn : Turn)
  | finished (d : Doc)

namespace Parser

/-- Gives a finished value to the innermost open container. -/
def supply (d : Doc) : List Frame → Option Parser
  | [] => some (.finished d)
  | .array items :: stack => some (.working (.array (d :: items) :: stack) .separator)
  | .member members name :: stack =>
    some (.working (.object ((name, d) :: members) :: stack) .separator)
  | .object _ :: _ => none

def value (stack : List Frame) : Token → Option Parser
  | .null => supply .null stack
  | .bool b => supply (.bool b) stack
  | .number n => supply (.number n) stack
  | .string s => supply (.string s) stack
  | .openArray => some (.working (.array [] :: stack) .firstItem)
  | .openObject => some (.working (.object [] :: stack) .firstName)
  | _ => none

def close (stack : List Frame) : Token → Option Parser
  | .closeArray =>
    match stack with
    | .array items :: rest => supply (.array items.reverse) rest
    | _ => none
  | .closeObject =>
    match stack with
    | .object members :: rest => supply (.object members.reverse) rest
    | _ => none
  | _ => none

def name (stack : List Frame) (s : Option String) : Option Parser :=
  match stack with
  | .object members :: rest => some (.working (.member members s :: rest) .colon)
  | _ => none

def step (p : Parser) (t : Token) : Option Parser :=
  match p with
  | .finished _ => none
  | .working stack turn =>
    match turn, t with
    | .value, t => value stack t
    | .firstItem, .closeArray => close stack .closeArray
    | .firstItem, t => value stack t
    | .firstName, .string s => name stack s
    | .firstName, t => close stack t
    | .name, .string s => name stack s
    | .name, _ => none
    | .colon, .colon => some (.working stack .value)
    | .colon, _ => none
    | .separator, .comma =>
      match stack with
      | .array _ :: _ => some (.working stack .value)
      | .object _ :: _ => some (.working stack .name)
      | _ => none
    | .separator, t => close stack t

def ofTokens? (ts : List Token) : Option Doc := do
  match ← ts.foldlM step (.working [] .value) with
  | .finished d => some d
  | .working _ _ => none

end Parser

end Json

/-- The document a text spells, `none` if it is not JSON. Nesting is not limited here. -/
def Doc.ofText? (text : String) : Option Doc := do
  Json.Parser.ofTokens? (← Json.Token.scan? text.toList)

/-- The value a text spells. -/
def Json.ofText? (text : String) : Option Json := do
  (← Doc.ofText? text).toJson?

end GraphCompare

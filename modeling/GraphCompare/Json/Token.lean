import GraphCompare.Json.Number

/-! Tokens of a JSON text, found in one pass over its characters. -/
namespace GraphCompare.Json

inductive Token
  | openArray
  | closeArray
  | openObject
  | closeObject
  | comma
  | colon
  | null
  | bool (b : Bool)
  | number (n : Option Number)
  | string (s : Option String)

/-- What the characters read last belong to. The characters of a word and the code units of a
text are kept in reverse. -/
inductive Place
  | between
  | word (chars : List Char)
  | text (units : List Nat)
  | escape (units : List Nat)
  | code (units : List Nat) (seen value : Nat)

structure Scan where
  done : List Token
  place : Place

namespace Token

def isSpace (c : Char) : Bool := c = ' ' || c = '\t' || c = '\n' || c = '\r'

/-- Characters of names and numbers. -/
def isWordChar (c : Char) : Bool := c.isAlphanum || c = '+' || c = '-' || c = '.'

/-- The constants by name; any other word must be a number. -/
def ofWord? (cs : List Char) : Option Token :=
  if cs = ['n', 'u', 'l', 'l'] then some .null
  else if cs = ['t', 'r', 'u', 'e'] then some (.bool true)
  else if cs = ['f', 'a', 'l', 's', 'e'] then some (.bool false)
  else (Literal.parse? cs).map fun l => .number l.value?

/-- The letter after a backslash, but for a numbered escape. -/
def escaped? (c : Char) : Option Nat :=
  if c = '"' ∨ c = '\\' ∨ c = '/' then some c.toNat
  else if c = 'b' then some 0x08
  else if c = 'f' then some 0x0C
  else if c = 'n' then some 0x0A
  else if c = 'r' then some 0x0D
  else if c = 't' then some 0x09
  else none

def isHigh (u : Nat) : Bool := decide (0xD800 ≤ u) && decide (u < 0xDC00)

def isLow (u : Nat) : Bool := decide (0xDC00 ≤ u) && decide (u < 0xE000)

/-- Joins the two halves of a pair; a half on its own makes the text unreadable. -/
def ofUnits? : List Nat → Option (List Char)
  | [] => some []
  | [u] => if isHigh u || isLow u then none else some [Char.ofNat u]
  | u :: w :: rest =>
    if isHigh u then
      if isLow w then
        (ofUnits? rest).map (Char.ofNat (0x10000 + (u - 0xD800) * 0x400 + (w - 0xDC00)) :: ·)
      else none
    else if isLow u then none
    else (ofUnits? (w :: rest)).map (Char.ofNat u :: ·)

def ofText (units : List Nat) : Token := .string ((ofUnits? units.reverse).map String.ofList)

/-- A character outside of words and texts. -/
def start (done : List Token) (c : Char) : Option Scan :=
  if isSpace c then some ⟨done, .between⟩
  else if c = '[' then some ⟨.openArray :: done, .between⟩
  else if c = ']' then some ⟨.closeArray :: done, .between⟩
  else if c = '\x7b' then some ⟨.openObject :: done, .between⟩
  else if c = '\x7d' then some ⟨.closeObject :: done, .between⟩
  else if c = ',' then some ⟨.comma :: done, .between⟩
  else if c = ':' then some ⟨.colon :: done, .between⟩
  else if c = '"' then some ⟨done, .text []⟩
  else if isWordChar c then some ⟨done, .word [c]⟩
  else none

/-- Control characters cannot stand in a text, and a numbered escape has four digits. -/
def step (s : Scan) (c : Char) : Option Scan :=
  match s.place with
  | .between => start s.done c
  | .word cs =>
    if isWordChar c then some ⟨s.done, .word (c :: cs)⟩
    else do
      let t ← ofWord? cs.reverse
      start (t :: s.done) c
  | .text us =>
    if c = '"' then some ⟨ofText us :: s.done, .between⟩
    else if c = '\\' then some ⟨s.done, .escape us⟩
    else if c.toNat < 0x20 then none
    else some ⟨s.done, .text (c.toNat :: us)⟩
  | .escape us =>
    if c = 'u' then some ⟨s.done, .code us 0 0⟩
    else (escaped? c).map fun u => ⟨s.done, .text (u :: us)⟩
  | .code us seen value => do
    let d ← Numeral.digit? 16 c
    if seen = 3 then return ⟨s.done, .text ((value * 16 + d) :: us)⟩
    else return ⟨s.done, .code us (seen + 1) (value * 16 + d)⟩

/-- A text must be closed at the end, a word is finished by it. -/
def finish (s : Scan) : Option (List Token) :=
  match s.place with
  | .between => some s.done.reverse
  | .word cs => (ofWord? cs.reverse).map fun t => (t :: s.done).reverse
  | _ => none

def scan? (cs : List Char) : Option (List Token) := do
  let s ← cs.foldlM step ⟨[], .between⟩
  finish s

end Token

end GraphCompare.Json

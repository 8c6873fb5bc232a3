import SvgMarkup.Text.Hexadecimal

/-!
# Flat JSON objects

Diagnostics are handed to tools as JSON objects whose members are texts and numbers.  An object is
written on one line, its members in the order given, with a blank after every comma and colon.  Only
the characters that JSON does not admit inside a string are escaped; all others stand as they are.
-/

namespace SvgMarkup.Json

/-- The value of an object's member. -/
inductive Scalar where
  | text (s : String)
  | number (n : Nat)
deriving DecidableEq, Repr

/-- One character of a string literal. -/
def escapeChar (c : Char) : List Char :=
  if c = '"' ∨ c = '\\' then ['\\', c]
  else if c = '\n' then ['\\', 'n']
  else if c = '\r' then ['\\', 'r']
  else if c = '\t' then ['\\', 't']
  else if c = '\x08' then ['\\', 'b']
  else if c = '\x0c' then ['\\', 'f']
  else if c.toNat < 0x20 then '\\' :: 'u' :: Text.hexDigits 4 c.toNat
  else [c]

/-- A text as a string literal. -/
def literal (s : String) : String :=
  String.ofList ('"' :: s.toList.flatMap escapeChar ++ ['"'])

/-- A member's value. -/
def Scalar.render : Scalar → String
  | text s => literal s
  | number n => toString n

/-- A member of an object. -/
def renderMember (key : String) (value : Scalar) : String :=
  literal key ++ ": " ++ value.render

/-- An object with the given members. -/
def renderObject (members : List (String × Scalar)) : String :=
  "\x7b" ++ String.intercalate ", " (members.map fun m => renderMember m.1 m.2) ++ "\x7d"

end SvgMarkup.Json

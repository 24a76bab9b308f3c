import EntitySql.Text.Quoted
import EntitySql.Numeric.Layout
import EntitySql.Json.Basic

/-!
# Compact JSON texts

A JSON value is written without blanks.  Strings escape the quote, the backslash and the controls
below the space; doubles are written in scientific layout.

## Main definitions

* `Json.render` : the compact text of a value.
-/

namespace EntitySql.Json

open Text Numeric

/-- The written form of one character of a string. -/
def escapedChar (c : Char) : List Char :=
  if c = '"' then ['\\', '"']
  else if c = '\\' then ['\\', '\\']
  else if c = '\x08' then ['\\', 'b']
  else if c = '\x0c' then ['\\', 'f']
  else if c = '\n' then ['\\', 'n']
  else if c = '\r' then ['\\', 'r']
  else if c = '\t' then ['\\', 't']
  else if c.toNat < 0x20 then
    ['\\', 'u', '0', '0', hexDigit (c.toNat / 16), hexDigit (c.toNat % 16)]
  else [c]

/-- A string in quotes. -/
def renderString (s : String) : List Char :=
  '"' :: s.toList.flatMap escapedChar ++ ['"']

mutual

/-- The characters of the compact text of a value. -/
def write : Json → List Char
  | .null => ['n', 'u', 'l', 'l']
  | .bool true => ['t', 'r', 'u', 'e']
  | .bool false => ['f', 'a', 'l', 's', 'e']
  | .integer n => signedNumeral n
  | .real x => FloatLayout.scientific.write .double x.datum
  | .string s => renderString s
  | .array items => '[' :: writeItems items ++ [']']
  | .object members => '\x7b' :: writeMembers members ++ ['\x7d']

/-- Items with commas between them. -/
def writeItems : List Json → List Char
  | [] => []
  | [j] => write j
  | j :: rest => write j ++ ',' :: writeItems rest

/-- Members with commas between them. -/
def writeMembers : List (String × Json) → List Char
  | [] => []
  | [(k, j)] => renderString k ++ ':' :: write j
  | (k, j) :: rest => renderString k ++ ':' :: write j ++ ',' :: writeMembers rest

end

/-- The compact text of a value. -/
def render (j : Json) : String :=
  String.ofList (write j)

end EntitySql.Json

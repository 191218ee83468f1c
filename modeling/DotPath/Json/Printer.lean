import DotPath.Json.Basic

/-!
Documents as text.  The compact form has no blank space; the indented form puts every part of a
nonempty container on a line of its own.  Only quotes, backslashes and control characters are
escaped.
-/

set_option autoImplicit false
set_option relaxedAutoImplicit false

namespace DotPath.Json

def escapedChar (c : Char) : List Char :=
  if c = '"' ∨ c = '\\' then ['\\', c]
  else if c = '\x08' then ['\\', 'b']
  else if c = '\x0c' then ['\\', 'f']
  else if c = '\n' then ['\\', 'n']
  else if c = '\r' then ['\\', 'r']
  else if c = '\t' then ['\\', 't']
  else if c.toNat < 32 then
    ['\\', 'u', '0', '0', Nat.digitChar (c.toNat / 16), Nat.digitChar (c.toNat % 16)]
  else [c]

def stringText (text : String) : List Char :=
  '"' :: text.toList.flatMap escapedChar ++ ['"']

def boolText (value : Bool) : List Char :=
  if value then ['t', 'r', 'u', 'e'] else ['f', 'a', 'l', 's', 'e']

def nullText : List Char := ['n', 'u', 'l', 'l']

mutual

def compactText : Json → List Char
  | .null => nullText
  | .bool value => boolText value
  | .number value => value.text
  | .string text => stringText text
  | .array items => '[' :: [','].intercalate (compactItems items) ++ [']']
  | .object members => '\x7b' :: [','].intercalate (compactMembers members) ++ ['\x7d']

def compactItems : List Json → List (List Char)
  | [] => []
  | item :: rest => compactText item :: compactItems rest

def compactMembers : List (String × Json) → List (List Char)
  | [] => []
  | (key, value) :: rest => (stringText key ++ ':' :: compactText value) :: compactMembers rest

end

/-- A line break and the indentation of a depth, two spaces for each level. -/
def lineBreak (depth : Nat) : List Char :=
  '\n' :: List.replicate (2 * depth) ' '

def enclose (depth : Nat) (opening closing : Char) (parts : List (List Char)) : List Char :=
  if parts.isEmpty then [opening, closing]
  else
    opening :: lineBreak (depth + 1) ++ (',' :: lineBreak (depth + 1)).intercalate parts
      ++ lineBreak depth ++ [closing]

mutual

def indentedText (depth : Nat) : Json → List Char
  | .null => nullText
  | .bool value => boolText value
  | .number value => value.text
  | .string text => stringText text
  | .array items => enclose depth '[' ']' (indentedItems (depth + 1) items)
  | .object members => enclose depth '\x7b' '\x7d' (indentedMembers (depth + 1) members)

def indentedItems (depth : Nat) : List Json → List (List Char)
  | [] => []
  | item :: rest => indentedText depth item :: indentedItems depth rest

def indentedMembers (depth : Nat) : List (String × Json) → List (List Char)
  | [] => []
  | (key, value) :: rest =>
      (stringText key ++ ':' :: ' ' :: indentedText depth value) :: indentedMembers depth rest

end

def compact (document : Json) : String :=
  String.ofList document.compactText

def indented (document : Json) : String :=
  String.ofList (document.indentedText 0)

end DotPath.Json

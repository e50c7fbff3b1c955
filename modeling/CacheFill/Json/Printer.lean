import CacheFill.Json.Number

/-!
Writing JSON text, without blanks. Strings escape what the format demands and nothing else.
-/

set_option autoImplicit false

namespace CacheFill.Json

/-- How a character stands in a string. -/
def escapeCharacter (c : Char) : List Char :=
  if c = '\"' ∨ c = '\\' then ['\\', c]
  else if c = '\x08' then ['\\', 'b']
  else if c = '\x0c' then ['\\', 'f']
  else if c = '\n' then ['\\', 'n']
  else if c = '\r' then ['\\', 'r']
  else if c = '\t' then ['\\', 't']
  else if c.toNat < 0x20 then ['\\', 'u'] ++ Digits.render 16 4 c.toNat
  else [c]

def renderText (text : String) : List Char :=
  '\"' :: text.toList.flatMap escapeCharacter ++ ['\"']

mutual

/-- What is unreadable has no text of its own and is written as a null. -/
def renderChars : Json → List Char
  | .null => "null".toList
  | .unreadable => "null".toList
  | .bool true => "true".toList
  | .bool false => "false".toList
  | .number value => value.render
  | .string value => renderText value
  | .array [] => ['[', ']']
  | .array (first :: rest) => '[' :: renderChars first ++ renderItems rest ++ [']']
  | .object [] => ['\x7b', '\x7d']
  | .object ((name, value) :: rest) =>
      '\x7b' :: renderText name ++ ':' :: renderChars value ++ renderMembers rest ++ ['\x7d']

/-- The items after the first, each behind a comma. -/
def renderItems : List Json → List Char
  | [] => []
  | item :: rest => ',' :: renderChars item ++ renderItems rest

/-- The members after the first, each behind a comma. -/
def renderMembers : List (String × Json) → List Char
  | [] => []
  | (name, value) :: rest =>
      ',' :: renderText name ++ ':' :: renderChars value ++ renderMembers rest

end

/-- The text of a value. -/
def render (value : Json) : String := String.ofList (renderChars value)

end CacheFill.Json

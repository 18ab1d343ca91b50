import ReportQuery.Json.Basic

/-!
# Printing JSON

The compact form has no blanks. The indented form puts every item and field on a line of its own,
two blanks deeper than its parent; an empty array or object stays on one line. In a string only the
quote, the backslash and the control characters are escaped.
-/

namespace ReportQuery.Json

/-! ## Strings -/

def escape (c : Char) : List Char :=
  if c = '"' then ['\\', '"']
  else if c = '\\' then ['\\', '\\']
  else if c = '\n' then ['\\', 'n']
  else if c = '\r' then ['\\', 'r']
  else if c = '\t' then ['\\', 't']
  else if c = '\x08' then ['\\', 'b']
  else if c = '\x0c' then ['\\', 'f']
  else if c.toNat < 32 then
    ['\\', 'u', '0', '0', Text.hexDigit (c.toNat / 16), Text.hexDigit (c.toNat % 16)]
  else [c]

def quoted (text : String) : List Char := '"' :: text.toList.flatMap escape ++ ['"']

/-! ## Compact form -/

mutual

def compact : Json → List Char
  | null => "null".toList
  | bool true => "true".toList
  | bool false => "false".toList
  | number n => n.toText
  | string s => quoted s
  | array items => '[' :: compactItems items ++ [']']
  | object fields => '\x7b' :: compactFields fields ++ ['\x7d']

def compactItems : List Json → List Char
  | [] => []
  | [item] => compact item
  | item :: rest => compact item ++ ',' :: compactItems rest

def compactFields : List (String × Json) → List Char
  | [] => []
  | [(key, value)] => quoted key ++ ':' :: compact value
  | (key, value) :: rest => quoted key ++ ':' :: compact value ++ ',' :: compactFields rest

end

def toText (value : Json) : String := String.ofList (compact value)

/-! ## Indented form -/

def newline (depth : Nat) : List Char := '\n' :: List.replicate (2 * depth) ' '

mutual

def indented (depth : Nat) : Json → List Char
  | array (item :: items) =>
    '[' :: indentedItems (depth + 1) (item :: items) ++ newline depth ++ [']']
  | object (field :: fields) =>
    '\x7b' :: indentedFields (depth + 1) (field :: fields) ++ newline depth ++ ['\x7d']
  | value => compact value

def indentedItems (depth : Nat) : List Json → List Char
  | [] => []
  | [item] => newline depth ++ indented depth item
  | item :: rest => newline depth ++ indented depth item ++ ',' :: indentedItems depth rest

def indentedFields (depth : Nat) : List (String × Json) → List Char
  | [] => []
  | [(key, value)] => newline depth ++ quoted key ++ ':' :: ' ' :: indented depth value
  | (key, value) :: rest =>
    newline depth ++ quoted key ++ ':' :: ' ' :: indented depth value ++
      ',' :: indentedFields depth rest

end

def toIndentedText (value : Json) : String := String.ofList (indented 0 value)

end ReportQuery.Json

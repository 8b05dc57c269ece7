import AgvDispatch.Decimal.Shortest
import AgvDispatch.Json.Basic
/-!
# Writing JSON

The writer of JSON text, on one line or with two blanks of indentation for each level.
-/

namespace AgvDispatch.Json

/-- The hexadecimal digit of a number below sixteen. -/
def hexDigit (n : Nat) : Char :=
  if n < 10 then Char.ofNat ('0'.toNat + n) else Char.ofNat ('a'.toNat + (n - 10))

/-- A character within a text. Quotes, backslashes and control characters are escaped. -/
def escape (c : Char) : String :=
  match c with
  | '"' => "\\\""
  | '\\' => "\\\\"
  | '\n' => "\\n"
  | '\r' => "\\r"
  | '\t' => "\\t"
  | '\x08' => "\\b"
  | '\x0c' => "\\f"
  | c =>
    if c.toNat < 0x20 then
      "\\u00" ++ String.ofList [hexDigit (c.toNat / 16), hexDigit (c.toNat % 16)]
    else String.ofList [c]

/-- A text in quotes. -/
def quote (s : String) : String :=
  "\"" ++ s.toList.foldl (fun written c => written ++ escape c) "" ++ "\""

/-- The brace that opens a record. -/
def openBrace : String := "\x7b"

/-- The brace that closes a record. -/
def closeBrace : String := "\x7d"

mutual

/-- A value on one line. -/
def compact : Json → String
  | null => "null"
  | bool b => if b then "true" else "false"
  | integer n => toString n
  | real x => Decimal.record x
  | text s => quote s
  | list items => "[" ++ compactItems "" items ++ "]"
  | record fields => openBrace ++ compactFields "" fields ++ closeBrace

/-- The items of a list, each after a separator. -/
def compactItems (separator : String) : List Json → String
  | [] => ""
  | item :: items => separator ++ compact item ++ compactItems "," items

/-- The fields of a record, each after a separator. -/
def compactFields (separator : String) : List (String × Json) → String
  | [] => ""
  | (name, value) :: fields =>
    separator ++ quote name ++ ":" ++ compact value ++ compactFields "," fields

end

/-- The beginning of a line at a level of indentation. -/
def newLine (level : Nat) : String :=
  "\n" ++ "".pushn ' ' (2 * level)

mutual

/-- A value over several lines, at a level of indentation. -/
def indented (level : Nat) : Json → String
  | list [] => "[]"
  | record [] => openBrace ++ closeBrace
  | list items => "[" ++ indentedItems (level + 1) "" items ++ newLine level ++ "]"
  | record fields =>
    openBrace ++ indentedFields (level + 1) "" fields ++ newLine level ++ closeBrace
  | null => "null"
  | bool b => if b then "true" else "false"
  | integer n => toString n
  | real x => Decimal.record x
  | text s => quote s

/-- The items of a list, each on lines of its own. -/
def indentedItems (level : Nat) (separator : String) : List Json → String
  | [] => ""
  | item :: items =>
    separator ++ newLine level ++ indented level item ++ indentedItems level "," items

/-- The fields of a record, each on lines of its own. -/
def indentedFields (level : Nat) (separator : String) : List (String × Json) → String
  | [] => ""
  | (name, value) :: fields =>
    separator ++ newLine level ++ quote name ++ ": " ++ indented level value
      ++ indentedFields level "," fields

end

/-- A value over several lines. -/
def pretty (j : Json) : String := indented 0 j

end AgvDispatch.Json

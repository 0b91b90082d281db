import Recast.Text

/-!
Structured output: values with named fields in a fixed order, printed with two spaces for each
level and a line for each item.
-/

namespace Recast.Cli

inductive Json where
  | bool (value : Bool)
  | number (value : Nat)
  | string (value : Text)
  | list (items : List Json)
  | record (fields : List (String × Json))

namespace Json

def escapeChar (c : Char) : Text :=
  if c = '"' then "\\\"".toList
  else if c = '\\' then "\\\\".toList
  else if c = '\n' then "\\n".toList
  else if c = '\r' then "\\r".toList
  else if c = '\t' then "\\t".toList
  else if c = '\x08' then "\\b".toList
  else if c = '\x0c' then "\\f".toList
  else if c.toNat < 0x20 then
    "\\u00".toList ++ (if c.toNat < 0x10 then ['0'] else []) ++ Nat.toDigits 16 c.toNat
  else [c]

def stringText (text : Text) : Text := '"' :: text.flatMap escapeChar ++ ['"']

def newLine (level : Nat) : Text := '\n' :: List.replicate (2 * level) ' '

def block (opening closing : Char) (level : Nat) (items : List Text) : Text :=
  if items.isEmpty then [opening, closing]
  else
    opening :: (newLine (level + 1)
      ++ (',' :: newLine (level + 1)).intercalate items
      ++ newLine level ++ [closing])

mutual

def pretty (level : Nat) : Json → Text
  | bool value => (if value then "true" else "false").toList
  | number value => Text.ofNat value
  | string value => stringText value
  | list items => block '[' ']' level (prettyItems (level + 1) items)
  | record fields => block '\x7b' '\x7d' level (prettyFields (level + 1) fields)

def prettyItems (level : Nat) : List Json → List Text
  | [] => []
  | item :: more => pretty level item :: prettyItems level more

def prettyFields (level : Nat) : List (String × Json) → List Text
  | [] => []
  | (name, value) :: more =>
    (stringText name.toList ++ ": ".toList ++ pretty level value) :: prettyFields level more

end

end Json

end Recast.Cli

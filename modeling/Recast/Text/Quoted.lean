import Recast.Text
import Recast.Text.Shown

/-!
The quoted form of a text: double quotes around it, the usual short escapes, and every character
that would not be visible on its own written by its code point in lower-case hexadecimal.
-/

namespace Recast.Text

/-- One character inside double quotes. A single quote needs no escape there. -/
def quoteChar (c : Char) : Text :=
  if c = '"' then "\\\"".toList
  else if c = '\\' then "\\\\".toList
  else if c = '\n' then "\\n".toList
  else if c = '\r' then "\\r".toList
  else if c = '\t' then "\\t".toList
  else if c = '\x00' then "\\0".toList
  else if isShown c then [c]
  else "\\u\x7b".toList ++ Nat.toDigits 16 c.toNat ++ "\x7d".toList

def quoted (text : Text) : Text :=
  '"' :: text.flatMap quoteChar ++ ['"']

def quotedList (texts : List Text) : Text :=
  '[' :: ", ".toList.intercalate (texts.map quoted) ++ [']']

end Recast.Text

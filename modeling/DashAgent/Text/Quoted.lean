import DashAgent.Text.Numeral
import DashAgent.Text.Printable

/-!
# Quoted text

The dump form of field values: a text stands in double quotes with the quote, the backslash and
every character that is not printable escaped, so that the dump shows where a text ends.
-/
namespace DashAgent.Text

def escaped (c : Char) : List Char :=
  if c = '"' then ['\\', '"']
  else if c = '\\' then ['\\', '\\']
  else if c = '\n' then ['\\', 'n']
  else if c = '\r' then ['\\', 'r']
  else if c = '\t' then ['\\', 't']
  else if c = '\x00' then ['\\', '0']
  else if isPrintable c then [c]
  else ['\\', 'u', '\x7b'] ++ Numeral.hex c.toNat ++ ['\x7d']

def quoted (text : String) : String :=
  String.ofList ('"' :: text.toList.flatMap escaped ++ ['"'])

def quotedPair (field : String × String) : String :=
  "(" ++ quoted field.1 ++ ", " ++ quoted field.2 ++ ")"

def quotedFields (fields : List (String × String)) : String :=
  "[" ++ String.intercalate ", " (fields.map quotedPair) ++ "]"

end DashAgent.Text

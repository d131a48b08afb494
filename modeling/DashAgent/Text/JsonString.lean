import DashAgent.Text.Numeral

/-!
# JSON strings

A text as a JSON string: quote and backslash are escaped, and so is every control character below
the space, with the short escapes where there are any. Everything else stands for itself.
-/
namespace DashAgent.Text

def jsonEscaped (c : Char) : List Char :=
  if c = '"' then ['\\', '"']
  else if c = '\\' then ['\\', '\\']
  else if c = '\n' then ['\\', 'n']
  else if c = '\r' then ['\\', 'r']
  else if c = '\t' then ['\\', 't']
  else if c = '\x08' then ['\\', 'b']
  else if c = '\x0c' then ['\\', 'f']
  else if c.toNat < 0x20 then ['\\', 'u'] ++ Numeral.hexPadded 4 c.toNat
  else [c]

def jsonQuoted (text : String) : String :=
  String.ofList ('"' :: text.toList.flatMap jsonEscaped ++ ['"'])

end DashAgent.Text

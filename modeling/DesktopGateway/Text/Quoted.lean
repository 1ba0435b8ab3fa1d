import DesktopGateway.Text.Visible

/-!
# Quoted text

A text between double quotes, in which quotes, backslashes and characters that cannot be seen are
escaped.
-/

namespace DesktopGateway.Text.Quoted

/-- The lower-case hexadecimal digits of a code point. -/
def hexadecimal (code : Nat) : String :=
  String.ofList (Nat.toDigits 16 code)

def escape (char : Char) : String :=
  if char = '\x00' then "\\0"
  else if char = '\t' then "\\t"
  else if char = '\r' then "\\r"
  else if char = '\n' then "\\n"
  else if char = '\\' then "\\\\"
  else if char = '"' then "\\\""
  else if Visible.isVisible char then char.toString
  else "\\u\x7b" ++ hexadecimal char.toNat ++ "\x7d"

def quote (text : String) : String :=
  "\"" ++ String.join (text.toList.map escape) ++ "\""

end DesktopGateway.Text.Quoted

import FilterGateway.Text.Hex
import FilterGateway.Text.Printable

/-!
# Quoted text

Quoting puts a text between double quotes and writes what would break the line or be invisible as
an escape. It is how names and wrong values are shown in messages.
-/

namespace FilterGateway.Text

/-- One character inside double quotes. -/
def quoteChar (c : Char) : String :=
  if c = '"' then "\\\""
  else if c = '\\' then "\\\\"
  else if c = '\n' then "\\n"
  else if c = '\r' then "\\r"
  else if c = '\t' then "\\t"
  else if c.toNat = 0 then "\\0"
  else if isPrintable c then c.toString
  else "\\u\x7b" ++ hexDigits c.toNat ++ "\x7d"

/-- `s` between double quotes. -/
def quote (s : String) : String :=
  "\"" ++ String.join (s.toList.map quoteChar) ++ "\""

/-- A list of texts in square brackets, each one quoted. -/
def quoteList (ss : List String) : String :=
  "[" ++ ", ".intercalate (ss.map quote) ++ "]"

example : quote "a\"b\\\n\x01" = "\"a\\\"b\\\\\\n\\u\x7b1\x7d\"" := by
  decide +kernel

end FilterGateway.Text

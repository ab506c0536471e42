import AuditReport.Text.Printable

/-!
# Quoted text

A text is shown between single quotes, or between double quotes when it holds a single quote and
no double one. The chosen quote and the backslash are escaped, as are line feed, carriage return
and tab; every other unprintable character is shown by its code in two, four or eight digits.
-/
namespace AuditReport.Text

/-- The lowest `n` hexadecimal digits of a number, in lower case. -/
def hexDigits (n : Nat) (v : Nat) : List Char :=
  (List.range n).reverse.map fun i => Nat.digitChar (v / Nat.pow 16 i % 16)

def quoteFor (s : List Char) : Char :=
  if s.contains '\'' && !s.contains '"' then '"' else '\''

def escapeChar (quote c : Char) : List Char :=
  if c = quote || c = '\\' then ['\\', c]
  else if c = '\n' then ['\\', 'n']
  else if c = '\r' then ['\\', 'r']
  else if c = '\t' then ['\\', 't']
  else if isPrintable c then [c]
  else if c.toNat < 0x100 then '\\' :: 'x' :: hexDigits 2 c.toNat
  else if c.toNat < 0x10000 then '\\' :: 'u' :: hexDigits 4 c.toNat
  else '\\' :: 'U' :: hexDigits 8 c.toNat

def quote (s : String) : String :=
  let cs := s.toList
  let q := quoteFor cs
  String.ofList (q :: cs.flatMap (escapeChar q) ++ [q])

end AuditReport.Text

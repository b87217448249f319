import LogCourier.Text.Hidden

/-! # Quoted text

How a text is shown inside a diagnostic: between double quotes, with escapes for quotes, backslashes
and everything that would not be visible.
-/

namespace LogCourier.Text

private def hexText (n : Nat) : String := String.ofList (Nat.toDigits 16 n)

/-- Where a quoted text stands decides whether a single quote is escaped too. -/
inductive QuoteStyle
  | value
  | path
deriving DecidableEq, Repr

def escapeChar (style : QuoteStyle) (c : Char) : String :=
  if c = '\x00' then "\\0"
  else if c = '\t' then "\\t"
  else if c = '\r' then "\\r"
  else if c = '\n' then "\\n"
  else if c = '"' then "\\\""
  else if c = '\\' then "\\\\"
  else if c = '\'' ∧ style = .path then "\\'"
  else if isHidden c then "\\u\x7b" ++ hexText c.toNat ++ "\x7d"
  else c.toString

def quoted (s : String) (style : QuoteStyle := .value) : String :=
  "\"" ++ String.join (s.toList.map (escapeChar style)) ++ "\""

end LogCourier.Text

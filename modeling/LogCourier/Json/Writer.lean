/-! # Writing JSON -/

namespace LogCourier.Json.Writer

private def escape (c : Char) : String :=
  if c = '"' then "\\\""
  else if c = '\\' then "\\\\"
  else if c = '\n' then "\\n"
  else if c = '\r' then "\\r"
  else if c = '\t' then "\\t"
  else if c.toNat = 8 then "\\b"
  else if c.toNat = 12 then "\\f"
  else if c.toNat < 32 then
    "\\u00" ++ (if c.toNat < 16 then "0" else "1") ++ String.ofList (Nat.toDigits 16 (c.toNat % 16))
  else c.toString

def text (s : String) : String := "\"" ++ String.join (s.toList.map escape) ++ "\""

/-- An object, from its members and the texts of their values. -/
def object (members : List (String × String)) : String :=
  "\x7b" ++ ",".intercalate (members.map fun (name, value) => text name ++ ":" ++ value) ++ "\x7d"

end LogCourier.Json.Writer

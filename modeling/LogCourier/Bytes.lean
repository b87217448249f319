/-! # Byte strings -/

namespace LogCourier

/-- File contents, lines and records are plain bytes; nothing here assumes they are text. -/
abbrev Bytes := List UInt8

namespace Bytes

/-- The UTF-8 form of a text. -/
def ofText (s : String) : Bytes := s.toList.flatMap String.utf8EncodeChar

@[simp] theorem ofText_empty : ofText "" = [] := by simp [ofText]

@[simp] theorem ofText_append (s t : String) : ofText (s ++ t) = ofText s ++ ofText t := by
  simp [ofText]

end Bytes

/-- The byte that ends a line and a record. -/
def newline : UInt8 := 10

end LogCourier

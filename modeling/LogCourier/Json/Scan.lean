import LogCourier.Json.Fault
import LogCourier.Numeral
import LogCourier.Text.Pieces

/-! # Scanning

The unread rest of a document, and what can be taken from its front: characters, fixed words and
strings.
-/

namespace LogCourier.Json

/-- Reads a value from the front of a document and leaves the rest. -/
abbrev Scan := StateT (List Char) (Except Fault)

namespace Scan

def isBlank (c : Char) : Bool := c == ' ' || c == '\n' || c == '\t' || c == '\r'

/-- The next character as it stands. -/
def look : Scan (Option Char) := return (← get).head?

/-- The next character that is not blank; blanks before it are dropped, it is not taken. -/
def peek : Scan (Option Char) := do
  modify (·.dropWhile isBlank)
  look

/-- Takes one character. -/
def skip : Scan Unit := modify List.tail

/-- Takes a word that has to stand here. -/
def word : List Char → Scan Unit
  | [] => return
  | w :: ws => do
    match ← look with
    | none => throw .endInValue
    | some c =>
      skip
      if c == w then word ws else throw .noIdentifier

/-! ## Strings -/

private def hexDigit? (c : Char) : Option Nat := Numeral.digitIn? 16 c

/-- The value of four hexadecimal digits. Four bytes have to be left, whatever they are. -/
private def hexQuad (cs : List Char) : Except Fault (Nat × List Char) :=
  match cs with
  | a :: b :: c :: d :: rest =>
    match hexDigit? a, hexDigit? b, hexDigit? c, hexDigit? d with
    | some a, some b, some c, some d => .ok (((a * 16 + b) * 16 + c) * 16 + d, rest)
    | _, _, _, _ => .error .escape
  | cs => if Text.byteSize cs < 4 then .error .endInString else .error .escape

private theorem hexQuad_length {cs rest : List Char} {n : Nat} (h : hexQuad cs = .ok (n, rest)) :
    rest.length < cs.length := by
  unfold hexQuad at h
  split at h
  · split at h
    · cases h
      simp only [List.length_cons]
      omega
    · cases h
  · split at h <;> cases h

/-- The second half of a surrogate pair, after its first half. -/
private def lowSurrogate (high : Nat) (cs : List Char) : Except Fault (Char × List Char) :=
  match cs with
  | [] | ['\\'] => .error .endInString
  | '\\' :: 'u' :: rest =>
    match hexQuad rest with
    | .error e => .error e
    | .ok (low, rest) =>
      if low < 0xDC00 ∨ 0xDFFF < low then .error .loneSurrogate
      else .ok (Char.ofNat ((high - 0xD800) * 0x400 + (low - 0xDC00) + 0x10000), rest)
  | _ => .error .cutEscape

/-- The character of a four-digit escape, which may be the first half of a surrogate pair. -/
private def unicodeEscape (cs : List Char) : Except Fault (Char × List Char) :=
  match hexQuad cs with
  | .error e => .error e
  | .ok (n, rest) =>
    if 0xDC00 ≤ n ∧ n ≤ 0xDFFF then .error .loneSurrogate
    else if 0xD800 ≤ n ∧ n ≤ 0xDBFF then lowSurrogate n rest
    else .ok (Char.ofNat n, rest)

/-- Escapes of a single letter, with what they stand for. -/
private def shortEscapes : List (Char × Char) :=
  [('"', '"'), ('\\', '\\'), ('/', '/'), ('b', '\x08'), ('f', '\x0c'), ('n', '\n'), ('r', '\r'),
    ('t', '\t')]

/-- The character that an escape stands for, from what follows its backslash. -/
def escaped (cs : List Char) : Except Fault (Char × List Char) :=
  match cs with
  | [] => .error .endInString
  | c :: rest =>
    if c = 'u' then unicodeEscape rest
    else
      match shortEscapes.lookup c with
      | some d => .ok (d, rest)
      | none => .error .escape

private theorem lowSurrogate_length {high : Nat} {cs rest : List Char} {c : Char}
    (h : lowSurrogate high cs = .ok (c, rest)) : rest.length < cs.length := by
  unfold lowSurrogate at h
  split at h <;> try contradiction
  split at h
  · contradiction
  · rename_i low more hq
    have := hexQuad_length hq
    split at h
    · contradiction
    · obtain ⟨-, rfl⟩ := Prod.mk.inj (Except.ok.inj h)
      simp only [List.length_cons]
      omega

private theorem unicodeEscape_length {cs rest : List Char} {c : Char}
    (h : unicodeEscape cs = .ok (c, rest)) : rest.length < cs.length := by
  unfold unicodeEscape at h
  split at h
  · contradiction
  · rename_i n more hq
    have := hexQuad_length hq
    split at h
    · contradiction
    · split at h
      · have := lowSurrogate_length h
        omega
      · obtain ⟨-, rfl⟩ := Prod.mk.inj (Except.ok.inj h)
        assumption

theorem escaped_length {cs rest : List Char} {c : Char}
    (h : escaped cs = .ok (c, rest)) : rest.length < cs.length := by
  unfold escaped at h
  split at h
  · cases h
  · split at h
    · have := unicodeEscape_length h
      simp only [List.length_cons]
      omega
    · split at h <;> cases h
      simp

/-- The characters up to the closing quote, with escapes resolved. -/
def stringBody (cs : List Char) (read : String) : Except Fault (String × List Char) :=
  match cs with
  | [] => .error .endInString
  | '"' :: rest => .ok (read, rest)
  | '\\' :: rest =>
    match h : escaped rest with
    | .error e => .error e
    | .ok (c, rest') =>
      have := escaped_length h
      stringBody rest' (read.push c)
  | c :: rest => if c.toNat < 0x20 then .error .controlCharacter else stringBody rest (read.push c)
termination_by cs.length
decreasing_by all_goals simp only [List.length_cons]; omega

/-- Takes the rest of a string whose opening quote has been taken. -/
def stringRest : Scan String := fun cs => stringBody cs ""

end Scan

end LogCourier.Json

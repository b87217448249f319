import LogCourier.Numeral
import LogCourier.Text.Blank
import LogCourier.Text.Word

/-! # Patterns

A filter may hold a value against a pattern, a regular expression. Diagnostics carry no values that
could be held against one, so all that is asked of a pattern is whether it can be read.

Patterns stand between braces in a list that is divided by commas: they hold no closing brace, so
that no brace outside brackets can be right, and no repetition has a count. The properties of
characters beyond ASCII are not known to patterns. Whatever needs them is refused: the classes of
digits, blanks and word characters, classes by property, and the comparison of letters in any case.
-/

namespace LogCourier

/-- Why a pattern cannot be used. -/
inductive PatternFault
  | malformed
  /-- It asks for the edges of words, in any script. -/
  | wordEdge
deriving DecidableEq, Repr

def PatternFault.message : PatternFault → String
  | .malformed => "error building NFA"
  | .wordEdge => "unsupported regex feature for DFAs: cannot build DFAs for regexes with " ++
      "Unicode word boundaries; switch to ASCII word boundaries, or heuristically enable " ++
      "Unicode word boundaries or use a different regex engine"

namespace Pattern

/-- What holds from a place in a pattern on. -/
structure Mode where
  ignoresCase : Bool := false
  isUnicode : Bool := true
  /-- Whether blanks and comments may stand between the parts of the pattern. -/
  isSpaced : Bool := false
deriving DecidableEq, Repr

/-- One part of a pattern. -/
inductive Item
  | character (code : Nat)
  | set
  /-- A place between characters. -/
  | place (isWordEdge : Bool)
deriving DecidableEq, Repr

/-- Drops blanks and comments; a comment ends with its line. -/
private def dropSpace : Bool → List Char → List Char
  | _, [] => []
  | true, c :: cs => dropSpace (c != '\n') cs
  | false, c :: cs =>
    if Text.isBlank c then dropSpace false cs
    else if c = '#' then dropSpace true cs
    else c :: cs

def Mode.rest (m : Mode) (cs : List Char) : List Char :=
  if m.isSpaced then dropSpace false cs else cs

/-! ## Escapes -/

/-- A number of so many hexadecimal digits. -/
private def hexDigits (m : Mode) : Nat → Nat → List Char → Option (Nat × List Char)
  | 0, value, cs => some (value, cs)
  | n + 1, value, cs =>
    match m.rest cs with
    | [] => none
    | c :: cs => do hexDigits m n (value * 16 + (← Numeral.digitIn? 16 c)) cs

/-- A character given by its number. Without Unicode two digits give a byte, which has to be
ASCII. -/
private def coded (m : Mode) (digits : Nat) (cs : List Char) : Option (Item × List Char) := do
  let (code, rest) ← hexDigits m digits 0 cs
  if !code.isValidChar || (!m.isUnicode && digits = 2 && 0x7F < code) then none
  else some (.character code, m.rest rest)

/-- What follows a backslash. -/
def escape (m : Mode) : List Char → Option (Item × List Char)
  | [] => none
  | c :: cs =>
    match c with
    | 'x' => coded m 2 cs
    | 'u' => coded m 4 cs
    | 'U' => coded m 8 cs
    | 'd' | 's' | 'w' => if m.isUnicode then none else some (.set, cs)
    | 'a' => some (.character 7, cs)
    | 'f' => some (.character 12, cs)
    | 't' => some (.character 9, cs)
    | 'n' => some (.character 10, cs)
    | 'r' => some (.character 13, cs)
    | 'v' => some (.character 11, cs)
    | 'A' | 'z' => some (.place false, cs)
    | 'b' | 'B' | '<' | '>' => some (.place true, cs)
    | c => if c.isAlphanum || 0x80 ≤ c.toNat then none else some (.character c.toNat, cs)

/-! ## Brackets -/

private def asciiClasses : List String :=
  ["alnum", "alpha", "ascii", "blank", "cntrl", "digit", "graph", "lower", "print", "punct",
    "space", "upper", "word", "xdigit"]

/-- What follows a class with a name, such as `:alpha:]`, inside brackets. -/
private def afterClass? (m : Mode) : List Char → Option (List Char)
  | ':' :: cs =>
    let isNegated := cs.head? = some '^'
    let cs := if isNegated then cs.tail else cs
    let name := cs.takeWhile (· ≠ ':')
    match cs.drop name.length with
    | ':' :: ']' :: rest =>
      if asciiClasses.contains (String.ofList name) && (m.isUnicode || !isNegated) then some rest
      else none
    | _ => none
  | _ => none

/-- A character or a class inside brackets. -/
private def member (m : Mode) : List Char → Option (Item × List Char)
  | [] => none
  | '\\' :: cs => escape m cs
  | c :: cs => if !m.isUnicode && 0x80 ≤ c.toNat then none else some (.character c.toNat, cs)

/-- A member of brackets, or two characters with a hyphen between them that are in order. -/
private def span (m : Mode) (cs : List Char) : Option (List Char) := do
  let (first, rest) ← member m cs
  let single := match first with
    | .place _ => none
    | _ => some (m.rest rest)
  match m.rest rest with
  | '-' :: more =>
    match m.rest more with
    | ']' :: _ | '-' :: _ => single
    | more =>
      match first, ← member m more with
      | .character a, (.character b, rest) => if a ≤ b then some rest else none
      | _, _ => none
  | _ => single

/-- What follows an opening bracket up to the first member that is not forced: a caret, hyphens, and
a closing bracket if it comes first. -/
private def opening (m : Mode) (cs : List Char) : Option (List Char) :=
  let cs := m.rest cs
  let isNegated := cs.head? = some '^'
  let cs := if isNegated then m.rest cs.tail else cs
  let plain := cs.dropWhile fun c => c = '-' || (m.isSpaced && Text.isBlank c)
  if isNegated && !m.isUnicode then none
  else
    match cs.head?, plain with
    | some ']', _ => some (m.rest cs.tail)
    | _, rest => some (m.rest rest)

/-- Reads to the end of so many brackets inside each other. -/
private def brackets (m : Mode) : Nat → Nat → List Char → Option (List Char)
  | 0, _, _ => none
  | fuel + 1, depth, cs =>
    match m.rest cs with
    | [] => none
    | ']' :: cs => if depth ≤ 1 then some cs else brackets m fuel (depth - 1) cs
    | '&' :: '&' :: cs | '-' :: '-' :: cs | '~' :: '~' :: cs => brackets m fuel depth cs
    | '[' :: cs =>
      match afterClass? m cs with
      | some rest => brackets m fuel depth rest
      | none => do brackets m fuel (depth + 1) (← opening m cs)
    | cs => do brackets m fuel depth (← span m cs)

/-- What follows the brackets whose first one has just been read. -/
def afterBrackets (m : Mode) (cs : List Char) : Option (List Char) := do
  if m.ignoresCase && m.isUnicode then none
  else brackets m (cs.length + 1) 1 (← opening m cs)

/-! ## Groups -/

/-- How a group begins. -/
inductive Opening
  /-- A group, and what holds in it. -/
  | group (mode : Mode)
  | named (name : List Char)
  /-- No group: what holds from here to the end of the group around it. -/
  | setting (mode : Mode)
deriving DecidableEq, Repr

private def nameOf (cs : List Char) : Option (List Char × List Char) :=
  let name := cs.takeWhile (· ≠ '>')
  let isNameChar (c : Char) : Bool :=
    c = '_' || c = '.' || c = '[' || c = ']' || Text.isLetter c || Text.isNumber c
  match name, cs.drop name.length with
  | c :: more, '>' :: rest =>
    if (c = '_' || Text.isLetter c) && more.all isNameChar then some (name, rest) else none
  | _, _ => none

private def Mode.set (m : Mode) (flag : Char) (on : Bool) : Option Mode :=
  match flag with
  | 'i' => some { m with ignoresCase := on }
  | 'u' => some { m with isUnicode := on }
  | 'x' => some { m with isSpaced := on }
  | 'm' | 's' | 'U' | 'R' => some m
  | _ => none

/-- Letters that change what holds; those behind a hyphen take back. Each may stand once. -/
private def flags (m : Mode) (seen : List Char) : List Char → Option (Opening × List Char)
  | [] => none
  | ':' :: cs => if seen.head? = some '-' then none else some (.group m, cs)
  | ')' :: cs => if seen = [] ∨ seen.head? = some '-' then none else some (.setting m, cs)
  | c :: cs =>
    if seen.contains c then none
    else if c = '-' then flags m (c :: seen) cs
    else do flags (← m.set c (!seen.contains '-')) (c :: seen) cs

/-- What follows an opening parenthesis. -/
def groupStart (m : Mode) (cs : List Char) : Option (Opening × List Char) :=
  match m.rest cs with
  | '?' :: 'P' :: '<' :: cs | '?' :: '<' :: cs =>
    (nameOf cs).map fun (name, rest) => (.named name, rest)
  | '?' :: cs => flags m [] cs
  | cs => some (.group m, cs)

/-! ## Whole patterns -/

/-- What has been read of a pattern. -/
structure Progress where
  mode : Mode := {}
  /-- What holds around each group that is open, the innermost first. -/
  outer : List Mode := []
  names : List (List Char) := []
  /-- Whether something stands here that can be repeated. -/
  isRepeatable : Bool := false
  hasWordEdge : Bool := false

private def Progress.item (p : Progress) : Item → Progress
  | .place true => { p with isRepeatable := true, hasWordEdge := p.hasWordEdge || p.mode.isUnicode }
  | _ => { p with isRepeatable := true }

private def Progress.enter (p : Progress) : Opening → Option Progress
  | .setting mode => some { p with mode, isRepeatable := false }
  | .group mode => some { p with mode, outer := p.mode :: p.outer, isRepeatable := false }
  | .named name =>
    if p.names.contains name then none
    else some { p with
      outer := p.mode :: p.outer, names := name :: p.names, isRepeatable := false }

private def Progress.leave (p : Progress) : Option Progress :=
  match p.outer with
  | [] => none
  | mode :: outer => some { p with mode, outer, isRepeatable := true }

/-- Whether letters can be told from one another where this holds. -/
private def Mode.readsLetters (m : Mode) : Bool := !m.ignoresCase || !m.isUnicode

private def run : Nat → Progress → List Char → Option Progress
  | 0, _, _ => none
  | fuel + 1, p, cs =>
    match p.mode.rest cs with
    | [] => if p.outer = [] then some p else none
    | '(' :: cs => do
      let (o, rest) ← groupStart p.mode cs
      run fuel (← p.enter o) rest
    | ')' :: cs => do run fuel (← p.leave) cs
    | '|' :: cs => run fuel { p with isRepeatable := false } cs
    | '[' :: cs => do run fuel (p.item .set) (← afterBrackets p.mode cs)
    | '?' :: cs | '*' :: cs | '+' :: cs => if p.isRepeatable then run fuel p cs else none
    | '\x7b' :: _ => none
    | '.' :: cs => if p.mode.isUnicode then run fuel (p.item .set) cs else none
    | '^' :: cs | '$' :: cs => run fuel (p.item (.place false)) cs
    | '\\' :: cs => do
      match ← escape p.mode cs with
      | (.character c, rest) =>
        if p.mode.readsLetters then run fuel (p.item (.character c)) rest else none
      | (i, rest) => run fuel (p.item i) rest
    | c :: cs =>
      if p.mode.readsLetters then run fuel (p.item (.character c.toNat)) cs else none

/-- Tells whether a pattern can be used. -/
def check (text : String) : Except PatternFault Unit :=
  match run (text.length + 1) {} text.toList with
  | none => .error .malformed
  | some p => if p.hasWordEdge then .error .wordEdge else .ok ()

end Pattern

end LogCourier

import HouseholdDashboard.Json.Token
import HouseholdDashboard.Toml.Scan

/-!
# Strings and keys

Strings stand in one or three quotes; with three they may run over several lines, and a
line end right behind the opening quotes is dropped.  Other line ends are kept as they
are written.  Escapes are known only between double quotes.
-/

namespace HouseholdDashboard.Toml

/-! ## Escapes -/

/-- The character that an escape with one letter stands for. -/
def shortEscape? : Char → Option Char
  | 'b' => some '\x08'
  | 't' => some '\t'
  | 'n' => some '\n'
  | 'f' => some '\x0c'
  | 'r' => some '\r'
  | 'e' => some '\x1b'
  | '"' => some '"'
  | '\\' => some '\\'
  | _ => none

/-- The character whose number some hexadecimal digits spell. -/
def hexChar? (ds : List Char) : Option Char := do
  let n ← ds.foldlM (fun n d => (Json.Token.hexValue? d).map (16 * n + ·)) 0
  if n < 0xd800 ∨ (0xe000 ≤ n ∧ n < 0x110000) then some (.ofNat n) else none

/-- The character whose number stands at the front of a text, in so many digits. -/
def hexEscape? (width : Nat) (cs : List Char) : Option (Char × List Char) :=
  if width ≤ cs.length then (hexChar? (cs.take width)).map (·, cs.drop width) else none

/-- The character of the escape at the front of a text, behind its backslash. -/
def escape? : List Char → Option (Char × List Char)
  | 'x' :: cs => hexEscape? 2 cs
  | 'u' :: cs => hexEscape? 4 cs
  | 'U' :: cs => hexEscape? 8 cs
  | c :: cs => (shortEscape? c).map (·, cs)
  | [] => none

/-! ## Strings -/

/-- The rest of a string on one line between double quotes, at most `limit` characters. -/
def basicString : Nat → List Char → Option (List Char × List Char)
  | 0, _ => none
  | limit + 1, cs =>
    match cs with
    | '"' :: rest => some ([], rest)
    | '\\' :: rest => do
      let (c, rest) ← escape? rest
      let (text, rest) ← basicString limit rest
      return (c :: text, rest)
    | c :: rest =>
      if isTextChar c then do
        let (text, rest) ← basicString limit rest
        return (c :: text, rest)
      else none
    | [] => none

/-- A string on one line between single quotes. -/
def literalString : Scan (List Char) := do
  let text ← Scan.takeWhile fun c => c ≠ '\'' && isTextChar c
  Scan.char '\''
  return text

/-- How many quotes stand at the front of a text. -/
def quotes (quote : Char) (cs : List Char) : Nat := (cs.takeWhile (· = quote)).length

/-- A text without blanks and line ends at its front. -/
def dropEmpty : List Char → List Char
  | '\n' :: rest => dropEmpty rest
  | '\r' :: '\n' :: rest => dropEmpty rest
  | c :: rest => if isBlank c then dropEmpty rest else c :: rest
  | [] => []

/-- A text without blanks and line ends at its front, if the first that is no blank is a line
end. -/
def continued? (cs : List Char) : Option (List Char) :=
  match cs.dropWhile isBlank with
  | '\n' :: rest => some (dropEmpty rest)
  | '\r' :: '\n' :: rest => some (dropEmpty rest)
  | _ => none

/-- The rest of a string over several lines, at most `limit` characters. -/
def longString (quote : Char) : Nat → List Char → Option (List Char × List Char)
  | 0, _ => none
  | limit + 1, cs =>
    let count := quotes quote cs
    if 3 ≤ count then
      let inner := min count 5 - 3
      some (List.replicate inner quote, cs.drop (inner + 3))
    else
      match cs with
      | '\r' :: '\n' :: rest => do
        let (text, rest) ← longString quote limit rest
        return ('\r' :: '\n' :: text, rest)
      | '\\' :: rest =>
        if quote = '"' then
          match continued? rest with
          | some rest => longString quote limit rest
          | none => do
            let (c, rest) ← escape? rest
            next c limit rest
        else next '\\' limit rest
      | c :: rest => if isTextChar c || c = '\n' then next c limit rest else none
      | [] => none
where
  /-- A character and what follows it. -/
  next (c : Char) (limit : Nat) (rest : List Char) : Option (List Char × List Char) := do
    let (text, rest) ← longString quote limit rest
    return (c :: text, rest)

/-- A string over several lines, behind its opening quotes. -/
def longText (quote : Char) : Scan (List Char) := do
  discard newline?
  let cs ← Scan.left
  longString quote (cs.length + 1)

/-- A string on one line, behind its opening quote. -/
def shortText (quote : Char) : Scan (List Char) := do
  if quote = '"' then basicString ((← Scan.left).length + 1) else literalString

/-- A string of any kind, if one is next. -/
def string? : Scan (Option String) := do
  match (← Scan.peek?) with
  | some quote =>
    if quote = '"' ∨ quote = '\'' then
      let text ← if ← Scan.skip? [quote, quote, quote] then longText quote
        else do
          Scan.char quote
          shortText quote
      return some (String.ofList text)
    else return none
  | none => return none

/-! ## Keys -/

def isKeyChar (c : Char) : Bool := c.isAlphanum || c = '_' || c = '-'

/-- One name: bare, or a string on one line. -/
def name : Scan String := do
  if ← Scan.skip? ['"'] then return String.ofList (← shortText '"')
  if ← Scan.skip? ['\''] then return String.ofList (← shortText '\'')
  let cs ← Scan.takeWhile isKeyChar
  if cs.isEmpty then failure
  return String.ofList cs

/-- Names with points between them, of which there are at most `limit`. -/
def names : Nat → Scan (List String)
  | 0 => failure
  | limit + 1 => do
    blanks
    let first ← name
    blanks
    if ← Scan.skip? ['.'] then return first :: (← names limit)
    return [first]

/-- How many names a key may have. -/
def keyLength : Nat := 80

/-- A key: one or more names. -/
def key : Scan (List String) := names keyLength

end HouseholdDashboard.Toml

import Possession.Json.Parser
import Possession.Text.Reader

/-!
# Blanks, texts and keys in TOML

Texts stand in double quotes, with escapes, or in single quotes, as they are; tripled quotes
allow line breaks and quotes within. A key is a path of names.
-/

namespace Possession.Toml

open Text (Reader)
open Text.Reader

def isBlank (c : Char) : Bool := c = ' ' || c = '\t'

/-- Whether a character has no place in a document except as part of a line break. -/
def isControl (c : Char) : Bool := (c.toNat < 32 && c ≠ '\t') || c.toNat = 127

def skipBlanks : List Char → List Char := List.dropWhile isBlank

def lineBreak? : List Char → Option (List Char)
  | '\n' :: rest => some rest
  | '\r' :: '\n' :: rest => some rest
  | _ => none

/-- What is left after a comment, if one is here. -/
def skipComment : List Char → List Char
  | '#' :: rest => rest.dropWhile fun c => !isControl c
  | rest => rest

/-- Ends a line: blanks, a comment, and a line break or the end of the document. -/
def endLine? (cs : List Char) : Option (List Char) :=
  match skipComment (skipBlanks cs) with
  | [] => some []
  | rest => lineBreak? rest

/-- What is left after blanks, comments and line breaks. -/
def skipAll (cs : List Char) : List Char :=
  go cs.length cs
where
  go : Nat → List Char → List Char
    | 0, cs => cs
    | n + 1, cs =>
      let rest := skipComment (skipBlanks cs)
      match lineBreak? rest with
      | some rest => go n rest
      | none => rest

/-! ## Texts -/

/-- The character of an escape, after its backslash. Numbers that are no character's are
refused. -/
def escape : Reader Char
  | 'b' :: rest => some ('\x08', rest)
  | 't' :: rest => some ('\t', rest)
  | 'n' :: rest => some ('\n', rest)
  | 'f' :: rest => some ('\x0c', rest)
  | 'r' :: rest => some ('\r', rest)
  | 'e' :: rest => some ('\x1b', rest)
  | '"' :: rest => some ('"', rest)
  | '\\' :: rest => some ('\\', rest)
  | 'x' :: rest => byNumber 2 rest
  | 'u' :: rest => byNumber 4 rest
  | 'U' :: rest => byNumber 8 rest
  | _ => none
where
  byNumber (digits : Nat) : Reader Char := fun cs => do
    let (n, rest) ← hexNumber Json.hexValue? digits 0 cs
    return (← charOf? n, rest)

def lineChar (quote : Char) (escapes : Bool) : Reader (Round Char)
  | [] => none
  | c :: rest =>
    if c = quote then some (.last [], rest)
    else if c = '\\' ∧ escapes then (escape rest).map fun (c, rest) => (.more [c], rest)
    else if isControl c then none
    else some (.more [c], rest)

/-- What is left after blank lines and the blanks of the line after them. -/
def skipLines : (lines : Nat) → List Char → List Char
  | 0, cs => skipBlanks cs
  | lines + 1, cs =>
    match lineBreak? (skipBlanks cs) with
    | some rest => skipLines lines rest
    | none => skipBlanks cs

/-- What is left after a backslash at the end of a line, and the blanks of the lines that
follow. -/
def joinLines? (cs : List Char) : Option (List Char) :=
  (lineBreak? (skipBlanks cs)).map fun rest => skipLines rest.length rest

/-- A character of a text on several lines. Of up to five quotes in a row the last three end
it. -/
def blockChar (quote : Char) (escapes : Bool) (cs : List Char) :
    Option (Round Char × List Char) :=
  let quotes := min 5 (cs.takeWhile (· = quote)).length
  if 3 ≤ quotes then some (.last (List.replicate (quotes - 3) quote), cs.drop quotes)
  else
    match lineBreak? cs with
    | some rest => some (.more ['\n'], rest)
    | none =>
      match cs with
      | [] => none
      | c :: rest =>
        if c = '\\' ∧ escapes then
          match joinLines? rest with
          | some rest => some (.more [], rest)
          | none => (escape rest).map fun (c, rest) => (.more [c], rest)
        else if isControl c then none
        else some (.more [c], rest)

def lineText (quote : Char) (cs : List Char) : Option (String × List Char) :=
  (collectAll (lineChar quote (quote = '"')) cs).map fun (s, rest) =>
    (String.ofList s, rest)

/-- A text on several lines, after its opening quotes. A line break right after them is
dropped. -/
def blockText (quote : Char) (cs : List Char) : Option (String × List Char) :=
  (collectAll (blockChar quote (quote = '"')) ((lineBreak? cs).getD cs)).map
    fun (s, rest) => (String.ofList s, rest)

def text : Reader String
  | '"' :: '"' :: '"' :: rest => blockText '"' rest
  | '\'' :: '\'' :: '\'' :: rest => blockText '\'' rest
  | '"' :: rest => lineText '"' rest
  | '\'' :: rest => lineText '\'' rest
  | _ => none

/-! ## Keys -/

abbrev Key := List String

def isNameChar (c : Char) : Bool := c.isAlphanum || c = '_' || c = '-'

/-- A name: in quotes of either kind, or letters, digits, underscores and hyphens
without. -/
def name : Reader String
  | '"' :: rest => lineText '"' rest
  | '\'' :: rest => lineText '\'' rest
  | cs =>
    match cs.span isNameChar with
    | ([], _) => none
    | (n, rest) => some (String.ofList n, rest)

/-- A name of a key, with the point after it if there is one. -/
def keyPart (cs : List Char) : Option (Round String × List Char) :=
  (name (skipBlanks cs)).map fun (n, rest) =>
    match skipBlanks rest with
    | '.' :: rest => (.more [n], rest)
    | rest => (.last [n], rest)

def key : Reader Key := collectAll keyPart

end Possession.Toml

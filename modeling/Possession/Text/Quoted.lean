import Possession.Text.Glyph

/-!
# Quoted text

Error messages show a piece of input between quotes, with a backslash before quotes and
backslashes, short escapes for the four common controls, and the code of every character
that would not be visible on its own.
-/

namespace Possession.Text

def hexDigits (n : Nat) : List Char := Nat.toDigits 16 n

/-- The form of one character inside quotes `q`. The other kind of quote stands for
itself. -/
def quoteInner (q : Char) (c : Char) : List Char :=
  if c = '\x00' then ['\\', '0']
  else if c = '\t' then ['\\', 't']
  else if c = '\r' then ['\\', 'r']
  else if c = '\n' then ['\\', 'n']
  else if c = '\\' then ['\\', '\\']
  else if c = q then ['\\', q]
  else if attaching.contains c || glyphless.contains c then
    ['\\', 'u', '\x7b'] ++ hexDigits c.toNat ++ ['\x7d']
  else [c]

def quote (s : String) : String :=
  String.ofList ('"' :: s.toList.flatMap (quoteInner '"') ++ ['"'])

def quoteChar (c : Char) : String :=
  String.ofList ('\'' :: quoteInner '\'' c ++ ['\''])

/-- An optional text, wrapped to tell absence from presence. -/
def quoteOption : Option String → String
  | none => "None"
  | some s => "Some(" ++ quote s ++ ")"

end Possession.Text

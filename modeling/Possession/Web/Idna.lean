import Possession.Text.Composed
import Possession.Web.Idna.Mapping
import Possession.Web.Idna.Direction
import Possession.Web.Idna.Joining
import Possession.Web.Punycode

/-!
# Domain names in ASCII

A domain name is mapped, normalised, and cut into labels. Each label is checked, and written
in ASCII if it is not; a label that is given in its ASCII form is decoded, and has to be
what mapping would leave alone. Hyphens and lengths are not restricted, but the characters
that structure a URL are. A name that is plain ASCII passes without any of this.
-/

namespace Possession.Web.Idna

/-- ASCII characters that a domain may not contain, since they would end the host or be read
as something else in a URL. -/
def isForbidden (c : Char) : Bool :=
  c.toNat ≤ 32 || c.toNat == 127 || "%#/:<>?@[\\]^|".toList.contains c

def acePrefix : List Char := ['x', 'n', '-', '-']

/-- The longest label that is encoded. Encoding takes time in the square of the length, so
longer ones are refused. -/
def maxEncode : Nat := 1000

def maxDecode : Nat := 2000

structure Label where
  unicode : List Char
  ascii : List Char
deriving Repr, DecidableEq

/-- Whether the characters of a label may stand together. -/
def isLabel (label : List Char) : Bool :=
  label.all (fun c => isValid c && !isForbidden c) && !startsWithMark label &&
    joinersHold [] label

/-- The label of an encoded form without what it starts with. -/
def decodeLabel? (written : List Char) : Option (List Char) :=
  if written.isEmpty || written.getLast? == some '-' || written.length > maxDecode then none
  else
    match Punycode.decode? written with
    | none => none
    | some label =>
      -- what is decoded has to be what would have been encoded
      if Text.Composed.normalize label == label && !acePrefix.isPrefixOf label then
        some label
      else none

/-- Both forms of a mapped label. A label that says that it is encoded has to be so; one in
ASCII is its own form. -/
def readLabel? (label : List Char) : Option Label :=
  if acePrefix.isPrefixOf label then
    (decodeLabel? (label.drop 4)).map fun unicode => ⟨unicode, label⟩
  else if label.all Punycode.isBasic then some ⟨label, label⟩
  else if label.length > maxEncode then none
  else some ⟨label, acePrefix ++ Punycode.encode label⟩

/-- The labels of a domain name: the name is mapped and composed as a whole, then cut, and
the rule of direction is again about all the labels together. -/
def labels? (domain : List Char) : Option (List Label) :=
  let mapped := Text.Composed.normalize (domain.flatMap mapChar)
  match (Text.CodePoints.cut '.' mapped).mapM readLabel? with
  | none => none
  | some labels =>
    if labels.all (isLabel ·.unicode) && directionsHold (labels.map (·.unicode)) then
      some labels
    else none

def plainChars : List Char := "abcdefghijklmnopqrstuvwxyz0123456789-.".toList

/-- The ASCII form of a name of letters, digits and hyphens of ASCII, whose capital letters
are made small. Most names are of this kind, and then none of the tables has anything to
say: mapping leaves such a name alone, and every label of it is allowed. An encoded label is
left to the tables. -/
def plain? (domain : List Char) : Option (List Char) :=
  let name := domain.map Char.toLower
  if name.all plainChars.contains &&
      !(Text.CodePoints.cut '.' name).any acePrefix.isPrefixOf then
    some name
  else none

/-- The ASCII form of a domain name, by the tables only if it is not plain. -/
def toAscii? (domain : List Char) : Option (List Char) :=
  match plain? domain with
  | some name => some name
  | none => (labels? domain).map fun labels => ['.'].intercalate (labels.map (·.ascii))

end Possession.Web.Idna

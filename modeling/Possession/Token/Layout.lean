import Possession.Text.CodePoints
import Possession.Token.Base62

/-!
# The layout of an opaque token

A token is two blocks of base-62 digits joined by an underscore: 22 digits of payload and 59
or 60 digits of sealed data. A label of small letters, digits and hyphens may stand in front
with an underscore of its own. No block contains an underscore, so the cut is unique.
-/

namespace Possession.Token

/-- The parts of a token text, as characters. Whether the blocks are numbers that fit is not
known here. -/
structure Layout where
  label : Option String
  payload : String
  sealedBlock : String
deriving Repr, DecidableEq

namespace Layout

def payloadWidth : Nat := 22

/-- Digits that a sealed block is written with at least. Its 44 octets may take one more, as
62 is no power of two, and so both widths are read. -/
def sealedWidth : Nat := 59

def isLabelChar (c : Char) : Bool :=
  (97 ≤ c.toNat && c.toNat ≤ 122) || (48 ≤ c.toNat && c.toNat ≤ 57) || c == '-'

def isBlockChar (c : Char) : Bool :=
  (97 ≤ c.toNat && c.toNat ≤ 122) || (65 ≤ c.toNat && c.toNat ≤ 90) ||
    (48 ≤ c.toNat && c.toNat ≤ 57)

def isLabel (cs : List Char) : Bool := !cs.isEmpty && cs.all isLabelChar

def isPayloadBlock (cs : List Char) : Bool :=
  cs.length == payloadWidth && cs.all isBlockChar

def isSealedBlock (cs : List Char) : Bool :=
  (cs.length == sealedWidth || cs.length == sealedWidth + 1) && cs.all isBlockChar

/-- The parts of a text that is laid out as a token: two blocks, or a label and two
blocks. -/
def parse? (text : String) : Option Layout :=
  match Text.CodePoints.cut '_' text.toList with
  | [p, s] =>
    if isPayloadBlock p && isSealedBlock s then
      some ⟨none, String.ofList p, String.ofList s⟩
    else none
  | [l, p, s] =>
    if isLabel l && isPayloadBlock p && isSealedBlock s then
      some ⟨some (String.ofList l), String.ofList p, String.ofList s⟩
    else none
  | _ => none

def render (t : Layout) : String :=
  match t.label with
  | none => t.payload ++ "_" ++ t.sealedBlock
  | some l => l ++ "_" ++ t.payload ++ "_" ++ t.sealedBlock

def parse (text : String) : Result Layout :=
  match parse? text with
  | some t => .ok t
  | none => .error (.format "Token does not match the opaque token format")

end Layout

def isLabel (text : String) : Bool := Layout.isLabel text.toList

end Possession.Token

import Possession.Config.Value
import Possession.Decimal.Reading
import Possession.Decimal.Shortest
import Possession.Text.Quoted

/-!
# Reading settings out of a configuration

Settings are read generously: a number may be written as a text, a switch word or a number
with a fraction, and a text as any single value. What cannot be read is reported with the
name of the setting and, where the fault lies in the value, with the place where it was set.
-/

namespace Possession.Config

/-- What is wrong with a value. -/
inductive Fault where
  /-- A value of the wrong kind. -/
  | kind (found expected : String) (origin : Origin)
  /-- No name of a choice. -/
  | unknownName (choice name : String)
  /-- Neither a name nor a table with one member. -/
  | notName (choice : String)
deriving Repr, DecidableEq

/-- Why a configuration does not hold the settings that were asked for. -/
inductive Mismatch where
  | at (name : String) (fault : Fault)
  | missing (name : String)
deriving Repr, DecidableEq

def Mismatch.message : Mismatch → String
  | .at name fault =>
    let (text, origin) := match fault with
      | .kind found expected origin =>
        ("invalid type: " ++ found ++ ", expected " ++ expected, origin)
      | .unknownName choice name =>
        ("enum " ++ choice ++ " does not have variant constructor " ++ name, none)
      | .notName choice =>
        ("value of enum " ++ choice ++
          " should be represented by either string or table with exactly one key", none)
    text ++ " for key \x60" ++ name ++ "\x60" ++ (origin.map (" in " ++ ·)).getD ""
  | .missing name => "missing configuration field " ++ "\"" ++ name ++ "\""

abbrev Decoder (α : Type) := Value → Except Fault α

def wrongKind {α : Type} (found expected : String) (origin : Origin) : Except Fault α :=
  .error (.kind found expected origin)

/-- Words for on and off, in letters of either case. Where a number is asked for they stand
for one and zero. -/
def switchWord? (word : String) : Option Bool :=
  let word := String.ofList (word.toList.map Char.toLower)
  if word ∈ ["true", "on", "yes"] then some true
  else if word ∈ ["false", "off", "no"] then some false
  else none

/-- An unsigned 64-bit integer; a number with a fraction is rounded, half away from zero,
and stops at the ends of the range. -/
def decodeUInt64 : Decoder UInt64
  | .leaf v origin =>
    match v with
    | .int n =>
      if n < 0 then
        wrongKind ("64-bit integer \x60" ++ toString n ++ "\x60")
          "an unsigned 64 bit or less integer" origin
      else .ok (UInt64.ofNat n.toNat)
    | .text s =>
      match switchWord? s with
      | some on => .ok (if on then 1 else 0)
      | none =>
        match Decimal.readUInt64? s.toList with
        | some n => .ok n
        | none => wrongKind ("string " ++ Text.quote s) "an integer" origin
    | .bool b => .ok (if b then 1 else 0)
    | .float f => .ok f.round.toUInt64
    | .unset => wrongKind "unit value" "an integer" origin
  | .list _ origin => wrongKind "sequence" "an integer" origin
  | .table _ => wrongKind "map" "an integer" none

/-- A text. Any other single value is taken in the form in which it would be written anew,
so a text that a source has read as a number comes back as a text, but not always as the
text that was written. -/
def decodeString : Decoder String
  | .leaf v origin =>
    match v with
    | .text s => .ok s
    | .bool b => .ok (if b then "true" else "false")
    | .int n => .ok (toString n)
    | .float f => .ok (Decimal.plain.float f)
    | .unset => wrongKind "unit value" "a string" origin
  | .list _ origin => wrongKind "sequence" "a string" origin
  | .table _ => wrongKind "map" "a string" none

def decodeOption {α : Type} (decode : Decoder α) : Decoder (Option α)
  | .leaf .unset _ => .ok none
  | v => (decode v).map some

/-- A choice between named values: a name, or a table with the name as its only member. -/
def decodeName {α : Type} (choice : String) (choices : List (String × α)) : Decoder α
  | .leaf (.text s) _ => pick s
  | .table [(k, _)] => pick k
  | _ => .error (.notName choice)
where
  pick (name : String) : Except Fault α :=
    match choices.find? (·.1 == name) with
    | some (_, a) => .ok a
    | none => .error (.unknownName choice name)

/-- A setting that may be absent. A fault in its value is reported with its name. -/
def field {α : Type} (name : String) (decode : Decoder α) (root : Value) :
    Except Mismatch (Option α) :=
  match Value.find? name root.members with
  | none => .ok none
  | some v => (decode v).map some |>.mapError (.at name)

def require {α : Type} (name : String) : Option α → Except Mismatch α
  | some a => .ok a
  | none => .error (.missing name)

/-- Settings of one kind under names of their own. -/
def decodeAll {α : Type} (decode : Decoder α) (root : Value) :
    Except Mismatch (List (String × α)) :=
  root.members.mapM fun (name, v) => (decode v).map (name, ·) |>.mapError (.at name)

end Possession.Config

import Possession.Replay.Store
import Possession.Json.Decode

/-!
# Replay modes

A verifier uses up a replay key either by looking and then registering, two calls between
which others may come, or by one insertion.
-/

namespace Possession.Replay

inductive Mode where
  | lookThenRegister
  | insertIfAbsent
deriving Repr, DecidableEq, Inhabited

namespace Mode

/-- The modes by the names that settings use for them. -/
def named : List (String × Mode) :=
  [("exists_then_register", lookThenRegister), ("insert_if_absent", insertIfAbsent)]

def name : Mode → String
  | lookThenRegister => "exists_then_register"
  | insertIfAbsent => "insert_if_absent"

def ofJson : Json → Json.Decoded Mode := Json.decodeName named

end Mode

end Possession.Replay

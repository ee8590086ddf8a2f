import Possession.Replay.Store

/-!
# A scripted replay store

A store that answers from a script: for each operation a queue of answers, each with the
time that it takes. An operation whose queue is empty reports an unused key and succeeds at
once. Such stores stand for every way in which a remote store may be slow or fail.
-/

namespace Possession.Replay

structure Answer (α : Type) where
  delay : Duration
  result : Result α

structure Script where
  contains : List (Answer Bool)
  register : List (Answer Unit)
  insertIfAbsent : List (Answer Bool)

namespace Script

def play {α : Type} (queue : List (Answer α)) (otherwise : α)
    (rest : List (Answer α) → Script) : Call Script α :=
  match queue with
  | [] => .done (.ok otherwise) (rest [])
  | a :: queue => .wait a.delay.nanos (rest queue) (.done a.result (rest queue))

def store : Store Script where
  contains _ s := play s.contains false fun q => { s with contains := q }
  register _ _ s := play s.register () fun q => { s with register := q }
  insertIfAbsent _ _ s := play s.insertIfAbsent true fun q => { s with insertIfAbsent := q }

end Script

end Possession.Replay

import WatchLink.Error
import WatchLink.Transport

/-!
# Radios

A radio takes a transaction or refuses it with an error of its own, and may change by being asked:
nothing more is known of it, so statements about all radios cover one that refuses at will.
`RadioQueue` is the radio that keeps what it took until the host carries it out.
-/

namespace WatchLink

/-- What takes transactions. -/
class Radio (R : Type) where
  /-- The radio after being asked, and its answer. -/
  submit : R → Transaction → R × Except LinkError Unit

/-- Transactions waiting for the host, the oldest first. -/
structure RadioQueue where
  waiting : List Transaction := []
  /-- While set, nothing is taken. -/
  offline : Bool := false
  deriving DecidableEq, Repr

namespace RadioQueue

/-- Take a transaction, unless offline. -/
def submit (queue : RadioQueue) (transaction : Transaction) : RadioQueue × Except LinkError Unit :=
  if queue.offline then (queue, .error .radio)
  else ({ queue with waiting := queue.waiting ++ [transaction] }, .ok ())

/-- The oldest transaction. -/
def pop (queue : RadioQueue) : RadioQueue × Option Transaction :=
  ({ queue with waiting := queue.waiting.tail }, queue.waiting.head?)

/-- Everything waiting, in the order in which it will be carried out. -/
def ops (queue : RadioQueue) : List RadioOp := queue.waiting.flatMap Transaction.ops

instance : Radio RadioQueue := ⟨submit⟩

end RadioQueue

end WatchLink

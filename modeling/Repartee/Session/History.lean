import Repartee.Document.Basic

/-!
# Message history

* `History.push`: record a message and its reply in front, ten of each kept.
* `History.nthInput`, `History.nthReply`: counted from 1, the newest first.
-/

namespace Repartee

/-- Entries kept in each list of a history. -/
def historyLength : Nat := 10

/-- Recent messages and replies, the newest first. -/
structure History where
  input : List String := List.replicate historyLength undefined
  reply : List String := List.replicate historyLength undefined
  deriving DecidableEq, Repr, Inhabited

namespace History

/-- Record a message and its reply. -/
def push (h : History) (message reply : String) : History where
  input := (message :: h.input).take historyLength
  reply := (reply :: h.reply).take historyLength

/-- The `n`-th entry of a list, counted from 1. -/
def nth (xs : List String) : Nat → String
  | 0 => undefined
  | n + 1 => xs[n]?.getD undefined

/-- The `n`-th most recent message. -/
def nthInput (h : History) (n : Nat) : String := nth h.input n

/-- The `n`-th most recent reply. -/
def nthReply (h : History) (n : Nat) : String := nth h.reply n

end History

end Repartee

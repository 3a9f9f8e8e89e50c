import Repartee.Pattern.Metadata
import Repartee.Reply.Turn

/-!
# Choosing a reply

* `Choice.weight`: the weight of a reply, at least 1.
* `Choice.at?`: the reply that a roll below the sum of the weights falls on.
* `Choice.pick`: a reply of a trigger, each as likely as its weight says.
-/

namespace Repartee

namespace Choice

/-- The weight of a reply; no weight, and a weight of zero, count as 1. -/
def weight (reply : String) : Nat := max 1 (Metadata.weight reply.toList)

/-- The sum of the weights. -/
def total (replies : List String) : Nat := (replies.map weight).foldr (· + ·) 0

/-- The reply that a roll falls on. -/
def at? : List String → (roll : Nat) → Option String
  | [], _ => none
  | r :: rs, roll => if roll < weight r then some r else at? rs (roll - weight r)

/-- One of some replies at random. -/
def pick : List String → Talk (Option String)
  | [] => pure none
  | replies => do
    let roll ← Talk.roll (total replies)
    pure ((at? replies roll).or replies.getLast?)

end Choice

end Repartee

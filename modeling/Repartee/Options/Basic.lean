/-!
# Options

* `Options`: the settings of a bot, with their defaults.
* `Notices`: the texts that stand in for a reply when something goes wrong.
-/

namespace Repartee

/-- Texts that stand in for a reply. -/
structure Notices where
  notMatched : String := "ERR: No Reply Matched"
  notFound : String := "ERR: No Reply Found"
  objectNotFound : String := "[ERR: Object Not Found]"
  deepRecursion : String := "ERR: Deep Recursion Detected"
  deriving DecidableEq, Repr, Inhabited

/-- The punctuation that is ignored in look-ups and dropped from messages, as an expression. -/
def defaultPunctuation : String := "[.,!?;:]"

/-- The settings of a bot. -/
structure Options where
  /-- Limit of redirects, inline redirects and topic walks. -/
  depth : Nat := 50
  /-- Refuse a document at its first syntax error. -/
  strict : Bool := true
  /-- Keep text outside ASCII in messages and triggers. -/
  utf8 : Bool := false
  /-- Allow capital letters in topic names. -/
  forceCase : Bool := false
  punctuation : String := defaultPunctuation
  seed : Option Nat := none
  notices : Notices := {}
  deriving DecidableEq, Repr, Inhabited

end Repartee

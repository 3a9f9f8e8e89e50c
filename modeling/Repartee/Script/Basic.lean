import Repartee.Macro.Basic
import Repartee.Options.Basic
import Repartee.Pattern.Matcher
import Repartee.Regex.Reader
import Repartee.Substitution
import Repartee.Topic.Order

/-!
# Scripts

* `Script`: the content loaded so far, with what is derived from it.
* `Script.new`: no content.
* `Script.normalize`: a message, or an earlier reply, in the form in which it is compared.
-/

namespace Repartee

/-- The characters dropped from earlier replies, whatever the punctuation. -/
def replyPunctuation : Text := ".?,!;:@#$%^&*()".toList

/-- The default punctuation as an expression. -/
def defaultPunctuationRegex : Regex := .one fun c => ".,!?;:".toList.contains c

/-- The expression of the punctuation; the default one if it is not well formed or the engine does
not take it. -/
def Options.punctuationRegex (o : Options) (engine : Regex.Engine := .unlimited) : Regex :=
  ((Regex.read? o.punctuation.toList).filter (engine.Takes ·)).getD defaultPunctuationRegex

/-- The loaded content. -/
structure Script where
  options : Options
  engine : Regex.Engine
  punctuation : Regex
  /-- Limit of redirects and topic walks. -/
  depth : Nat
  topics : Topics := ∅
  previous : PreviousIndex := ∅
  /-- The order of the triggers, once they are sorted. -/
  order : Option TrialOrder := none
  subs : Substitution := {}
  person : Substitution := {}
  arrays : Table (List String) := ∅
  handlers : Table Handler := Table.empty.insert nativeLanguage .registered
  /-- The subroutines registered with the bot. -/
  registry : Routines := ∅
  /-- The languages of the macros that can be called. -/
  languages : Table String := ∅

namespace Script

/-- A script without content. -/
def new (options : Options) (engine : Regex.Engine := .unlimited) : Script where
  options
  engine
  punctuation := options.punctuationRegex engine
  depth := options.depth

/-- A message in lower case, substituted, stripped, its words one space apart; of an earlier reply
more punctuation is dropped. -/
def normalize (s : Script) (reply : Bool) (t : Text) : Text :=
  let t := s.subs.apply s.punctuation (Text.lower t)
  Text.squeeze <|
    if s.options.utf8 then
      let t := s.punctuation.remove (stripSpecial true t)
      if reply then t.filter fun c => !replyPunctuation.contains c else t
    else stripSpecial false t

/-- The trigger of an identifier. -/
def trigger? (s : Script) (id : TriggerId) : Option Trigger := s.topics.trigger? id

/-- Build the order of the triggers. -/
def sort (s : Script) : Script :=
  { s with order := some (.build s.topics s.previous s.depth) }

/-- The patterns of a topic in the order they are tried. -/
def sortedPatterns (s : Script) (topic : String) : Option (List String) :=
  s.order.bind fun o => (o.ordinary.find? topic).map fun es => es.map (·.pattern)

end Script

end Repartee

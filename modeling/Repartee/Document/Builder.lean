import Repartee.Document.Basic

/-!
# Writing documents by hand

* `Topic.including`, `Topic.inheriting`, `Topic.withTrigger`: extend a topic.
* `Document.withTopic`: add a topic, merged into an earlier one of its name.
* `Document.withTrigger`: add a trigger to the default topic.
-/

namespace Repartee

namespace Topic

/-- Draw on the triggers of another topic on equal footing. -/
def including (t : Topic) (name : String) : Topic :=
  { t with includes := appendNew t.includes name }

/-- Draw on the triggers of another topic after the topic's own. -/
def inheriting (t : Topic) (name : String) : Topic :=
  { t with inherits := appendNew t.inherits name }

/-- Append a trigger. -/
def withTrigger (t : Topic) (g : Trigger) : Topic := { t with triggers := t.triggers ++ [g] }

end Topic

namespace Document

/-- Add a topic to a list, merged into the first of its name. -/
def mergeTopic (u : Topic) : List Topic → List Topic
  | [] => [u]
  | t :: ts => if t.name = u.name then t.merge u :: ts else t :: mergeTopic u ts

/-- Add a topic. -/
def withTopic (d : Document) (t : Topic) : Document := { d with topics := mergeTopic t d.topics }

/-- Add a trigger to the default topic. -/
def withTrigger (d : Document) (g : Trigger) : Document :=
  d.withTopic (Topic.withTrigger { name := defaultTopic } g)

/-- Declare a global variable. -/
def withGlobal (d : Document) (name value : String) : Document :=
  { d with begin.global := d.begin.global.insert name value }

/-- Declare a bot variable. -/
def withVar (d : Document) (name value : String) : Document :=
  { d with begin.var := d.begin.var.insert name value }

/-- Declare a substitution of messages. -/
def withSub (d : Document) (phrase replacement : String) : Document :=
  { d with begin.sub := d.begin.sub.insert phrase replacement }

/-- Declare a substitution of persons. -/
def withPerson (d : Document) (phrase replacement : String) : Document :=
  { d with begin.person := d.begin.person.insert phrase replacement }

/-- Declare an array. -/
def withArray (d : Document) (name : String) (items : List String) : Document :=
  { d with begin.array := d.begin.array.insert name items }

/-- Append an object macro. -/
def withObject (d : Document) (o : ObjectMacro) : Document :=
  { d with objects := d.objects ++ [o] }

end Document

end Repartee

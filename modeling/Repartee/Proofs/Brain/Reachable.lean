import Repartee.Brain.Reply

/-!
# The bots that can come about

* `Brain.Reachable`: bots that arise from a new one by loads, sorting, settings of the host, and
  replies.
* `Script.Current`: what is derived from the topics of a script is up to date.
* **`Brain.Reachable.current`**: the script of a reachable bot is current.
-/

namespace Repartee

/-- The index is that of the topics, and the triggers, if they are sorted, are those of the
topics. -/
structure Script.Current (s : Script) : Prop where
  previous : s.previous = s.topics.previousIndex
  order : ∀ o, s.order = some o → o = .build s.topics s.previous s.depth

namespace Brain

/-- The bots that arise from a new one. Hosts may change the sessions as they like. -/
inductive Reachable : Brain → Prop
  | new (options : Options) (sessions : SessionStore) (host : Host) :
    Reachable (.new options sessions host)
  | load {b : Brain} (d : Document) : Reachable b → Reachable (b.load d).2
  | sort {b : Brain} : Reachable b → Reachable b.sort
  | setHandler {b : Brain} (language : String) (h : Option Handler) :
    Reachable b → Reachable (b.setHandler language h)
  | setSubroutine {b : Brain} (name : String) (f : Subroutine) :
    Reachable b → Reachable (b.setSubroutine name f)
  | setVariable {b : Brain} (name : String) (value : Option String) :
    Reachable b → Reachable (b.setVariable name value)
  | setGlobal {b : Brain} (name : String) (value : Option String) :
    Reachable b → Reachable (b.setGlobal name value)
  | setSubstitution {b : Brain} (phrase : String) (replacement : Option String) :
    Reachable b → Reachable (b.setSubstitution phrase replacement)
  | setPerson {b : Brain} (phrase : String) (replacement : Option String) :
    Reachable b → Reachable (b.setPerson phrase replacement)
  | setArray {b : Brain} (name : String) (items : Option (List String)) :
    Reachable b → Reachable (b.setArray name items)
  | setSessions {b : Brain} (sessions : SessionStore) : Reachable b → Reachable { b with sessions }
  | reply {b : Brain} (user message : String) (scope : Option Scope) :
    Reachable b → Reachable (b.reply user message scope).2

end Brain

/-! ## Every step keeps scripts current -/

namespace Script.Current

variable {s : Script}

theorem new (options : Options) (engine : Regex.Engine) : (Script.new options engine).Current :=
  ⟨rfl, fun _ h => by cases h⟩

theorem sort (h : s.Current) : s.sort.Current :=
  ⟨h.previous, fun _ ho => (Option.some_inj.1 ho).symm⟩

theorem define (s : Script) (d : Document) : (s.define d).Current :=
  ⟨rfl, fun _ h => by cases h⟩

/-- Handing macros to their handlers leaves the topics alone. -/
theorem loadObjects : ∀ {s : Script}, s.Current → ∀ os : List ObjectMacro,
    (s.loadObjects os).2.Current
  | _, h, [] => h
  | s, h, o :: os => by
    rw [Script.loadObjects]
    cases s.handlers.find? o.language with
    | none => exact loadObjects h os
    | some handler =>
      dsimp only
      cases handler.load o.name o.code with
      | ok handler =>
        have hs : Script.Current
            { s with
              handlers := s.handlers.insert o.language handler
              languages := s.languages.insert o.name o.language } := ⟨h.previous, h.order⟩
        exact loadObjects hs os
      | error e =>
        dsimp only
        split
        · exact h
        · exact loadObjects h os

end Script.Current

namespace Brain

theorem load_current {b : Brain} (h : b.script.Current) (d : Document) :
    (b.load d).2.script.Current := by
  unfold load
  dsimp only
  split
  · exact h
  · have hobjects := h.loadObjects d.objects
    split
    · rename_i heq
      rwa [heq] at hobjects
    · exact .define _ d

/-- A reply leaves the script alone, and so does a refusal. -/
theorem reply_script (b : Brain) (user message : String) (scope : Option Scope) :
    (b.reply user message scope).2.script = b.script := by
  unfold reply
  split <;> rfl

/-- **The script of a reachable bot is current.** -/
theorem Reachable.current {b : Brain} (h : b.Reachable) : b.script.Current := by
  induction h with
  | new options _ host => exact .new options host.engine
  | load d _ ih => exact load_current ih d
  | sort _ ih => exact ih.sort
  | reply user message scope _ ih =>
    rw [reply_script]
    exact ih
  | setHandler | setSubroutine | setVariable | setGlobal | setSubstitution | setPerson | setArray
  | setSessions =>
    rename_i ih
    exact ⟨ih.previous, ih.order⟩

end Brain

end Repartee

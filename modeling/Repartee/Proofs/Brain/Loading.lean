import Repartee.Brain.Basic
import Repartee.Macro.Stock

/-!
# Documents that are refused

A strict bot that refuses a document keeps its content and its variables. Macros are handed over one
by one, however, and those that stand before the refused one can be called from then on.

* `Script.taken`: the macros that handlers take before one is refused.
* `Script.loadObjects_refused`: what a strict script is like after a refusal.
* `Brain.SameContent`, `Brain.SameCalls`: what a refused document should leave alone.
* **`Brain.load_refused`**: the content is left alone, and the names that can be called are exactly
  where no new macro was taken before.
-/

namespace Repartee

/-! ## Handlers -/

/-- A macro that was taken does not change what a handler refuses. -/
theorem Handler.load_congr {h h' : Handler} {name code : String} (hh : h.load name code = .ok h')
    (name' code' : String) :
    (h'.load name' code').toOption.isNone = (h.load name' code').toOption.isNone := by
  cases h with
  | registered => cases hh
  | routines rs => cases hh
  | sources language loaded =>
    rw [load] at hh
    split at hh
    · cases hh
    · cases hh
      rw [load, load]
      cases language.refuse name' code' <;> rfl

namespace Script

variable {s s' : Script} {e : LoadError}

/-! ## Macros handed over -/

/-- The handler of its language refuses a macro. -/
def refuses (s : Script) (o : ObjectMacro) : Bool :=
  (s.handlers.find? o.language).any fun h => (h.load o.name o.code).toOption.isNone

/-- The macros that handlers take, of those that stand before the first one that is refused. -/
def taken (s : Script) (os : List ObjectMacro) : List ObjectMacro :=
  (os.takeWhile fun o => !s.refuses o).filter fun o => s.handlers.contains o.language

/-- A script after a handler has taken a macro. -/
def register (s : Script) (o : ObjectMacro) (h : Handler) : Script :=
  { s with
    handlers := s.handlers.insert o.language h
    languages := s.languages.insert o.name o.language }

/-- A macro that was taken does not change which macros are taken. -/
theorem taken_register {o : ObjectMacro} {h h' : Handler}
    (hfind : s.handlers.find? o.language = some h) (hload : h.load o.name o.code = .ok h') :
    (s.register o h').taken = s.taken := by
  have hrefuses : (s.register o h').refuses = s.refuses := by
    funext p
    rw [refuses, refuses, register, Table.find?_insert]
    split
    · rename_i hp
      rw [hp, hfind]
      exact Handler.load_congr hload p.name p.code
    · rfl
  have hcontains (p : ObjectMacro) :
      (s.register o h').handlers.contains p.language = s.handlers.contains p.language := by
    rw [register, Table.contains_insert]
    by_cases hp : p.language = o.language
    · simp [hp, Table.contains, hfind]
    · simp [hp]
  funext os
  simp only [taken, hrefuses, hcontains]

section

variable {o : ObjectMacro} {os : List ObjectMacro}

/-- A macro of a language without handler is passed over. -/
theorem taken_cons_unknown (hfind : s.handlers.find? o.language = none) :
    s.taken (o :: os) = s.taken os := by
  have hrefuses : s.refuses o = false := by
    rw [refuses, hfind]
    rfl
  have hcontains : s.handlers.contains o.language = false := by
    rw [Table.contains, hfind]
    rfl
  rw [taken, List.takeWhile_cons, hrefuses, Bool.not_false, if_pos rfl,
    List.filter_cons_of_neg (by simp [hcontains])]
  rfl

/-- Nothing is taken from a macro on that its handler refuses. -/
theorem taken_cons_error {h : Handler} {e : MacroError}
    (hfind : s.handlers.find? o.language = some h) (hload : h.load o.name o.code = .error e) :
    s.taken (o :: os) = [] := by
  have hrefuses : s.refuses o = true := by
    rw [refuses, hfind, Option.any_some, hload]
    rfl
  rw [taken, List.takeWhile_cons, hrefuses]
  rfl

theorem taken_cons_ok {h h' : Handler} (hfind : s.handlers.find? o.language = some h)
    (hload : h.load o.name o.code = .ok h') : s.taken (o :: os) = o :: s.taken os := by
  have hrefuses : s.refuses o = false := by
    rw [refuses, hfind, Option.any_some, hload]
    rfl
  have hcontains : s.handlers.contains o.language = true := by
    rw [Table.contains, hfind]
    rfl
  rw [taken, List.takeWhile_cons, hrefuses, Bool.not_false, if_pos rfl,
    List.filter_cons_of_pos (by simp [hcontains])]
  rfl

end

/-- After a refusal the macros taken before it are registered, and nothing else is different. -/
theorem loadObjects_refused : ∀ {s : Script}, s.options.strict → ∀ {os : List ObjectMacro},
    s.loadObjects os = (some e, s') →
      (∀ name, s'.languages.contains name =
        (s.languages.contains name || (s.taken os).any fun o => decide (name = o.name))) ∧
      s' = { s with handlers := s'.handlers, languages := s'.languages }
  | s, _, [], h => by cases h
  | s, hs, o :: os, h => by
    rw [loadObjects] at h
    cases hfind : s.handlers.find? o.language with
    | none =>
      rw [hfind] at h
      rw [taken_cons_unknown hfind]
      exact loadObjects_refused hs h
    | some handler =>
      rw [hfind] at h
      dsimp only at h
      cases hload : handler.load o.name o.code with
      | error source =>
        rw [taken_cons_error hfind hload]
        rw [hload] at h
        dsimp only at h
        rw [if_pos hs] at h
        cases h
        exact ⟨fun name => by rw [List.any_nil, Bool.or_false], rfl⟩
      | ok handler' =>
        rw [hload] at h
        obtain ⟨hnames, hrest⟩ := @loadObjects_refused (s.register o handler') hs os h
        refine ⟨fun name => ?_, hrest⟩
        rw [hnames, taken_register hfind hload, taken_cons_ok hfind hload, register,
          Table.contains_insert, List.any_cons, Bool.or_assoc, Bool.or_left_comm]

end Script

namespace Brain

variable {b b' : Brain}

/-- Two bots have the same content, order of triggers, depth limit, tables and variables. -/
structure SameContent (b b' : Brain) : Prop where
  topics : b'.script.topics = b.script.topics
  previous : b'.script.previous = b.script.previous
  order : b'.script.order = b.script.order
  depth : b'.script.depth = b.script.depth
  vars : b'.vars = b.vars
  globals : b'.globals = b.globals
  subs : b'.script.subs = b.script.subs
  person : b'.script.person = b.script.person
  arrays : b'.script.arrays = b.script.arrays

/-- The same names of macros can be called. -/
def SameCalls (b b' : Brain) : Prop :=
  ∀ name, b'.script.languages.contains name = b.script.languages.contains name

/-- A document is malformed, or before a macro is refused only macros are taken whose names can be
called already. -/
def TakesNoNew (b : Brain) (d : Document) : Prop :=
  Check.problems b.script.options.utf8 b.script.options.forceCase d ≠ [] ∨
    ∀ o ∈ b.script.taken d.objects, b.script.languages.contains o.name

/-- A document that a strict bot refuses. -/
theorem load_some {d : Document} {e : LoadError} (hs : b.script.options.strict)
    (h : b.load d = (some e, b')) : b.SameContent b' ∧ (b.SameCalls b' ↔ b.TakesNoNew d) := by
  rw [load] at h
  simp only [hs, if_true] at h
  rw [TakesNoNew]
  cases hproblems : Check.problems b.script.options.utf8 b.script.options.forceCase d with
  | cons p ps =>
    rw [hproblems] at h
    cases h
    exact ⟨by constructor <;> rfl, fun _ => .inl (List.cons_ne_nil p ps), fun _ _ => rfl⟩
  | nil =>
    rw [hproblems] at h
    dsimp only [List.head?_nil] at h
    cases hobjects : b.script.loadObjects d.objects with
    | mk refusal script =>
      rw [hobjects] at h
      cases refusal with
      | none => cases h
      | some source =>
        cases h
        obtain ⟨hnames, hrest⟩ := Script.loadObjects_refused hs hobjects
        refine ⟨?_, ?_⟩
        · rw [hrest]
          constructor <;> rfl
        · simp only [SameCalls, hnames, ne_eq, not_true_eq_false, false_or, Bool.or_eq_left_iff_imp,
            List.any_eq_true, decide_eq_true_eq]
          exact ⟨fun h o ho => h o.name ⟨o, ho, rfl⟩, fun h _ ⟨o, ho, hname⟩ => hname ▸ h o ho⟩

/-- **A document that a strict bot refuses leaves the content alone, and the names that can be
called exactly where no new macro was taken before the refusal.** -/
theorem load_refused (hs : b.script.options.strict) :
    (∀ d e b', b.load d = (some e, b') → b.SameContent b' ∧ (b.SameCalls b' ↔ b.TakesNoNew d)) ∧
    ∀ text e b', b.loadJson text = (some e, b') → b.SameContent b' ∧
      (b.SameCalls b' ↔ ∀ d, Document.read? text = some d → b.TakesNoNew d) := by
  refine ⟨fun d e b' h => load_some hs h, fun text e b' h => ?_⟩
  rw [loadJson] at h
  cases hread : Document.read? text with
  | none =>
    rw [hread] at h
    cases h
    exact ⟨by constructor <;> rfl, fun _ _ hd => (nomatch hd), fun _ _ => rfl⟩
  | some d =>
    rw [hread] at h
    cases hload : b.load d with
    | mk refusal b'' =>
      dsimp only at h
      rw [hload] at h
      cases refusal with
      | none => cases h
      | some source =>
        cases h
        obtain ⟨hcontent, hcalls⟩ := load_some hs hload
        exact ⟨hcontent, hcalls.trans
          ⟨fun h _ hd => Option.some_inj.1 hd ▸ h, fun h => h d rfl⟩⟩

/-- A strict bot that reads macros written as texts. -/
def clerk : Brain := (Brain.new {} .new).setHandler "template" (some (.sources .template ∅))

/-- Two macros, the second of which is refused. -/
def halfGood : Document where
  objects := [{ name := "greet", language := "template", code := "hi" },
    { name := "empty", language := "template" }]

theorem clerk_load_halfGood :
    clerk.load halfGood =
      (some (.objectLoad "empty" "template" ⟨"empty source"⟩), (clerk.load halfGood).2) :=
  Prod.ext (by decide +kernel) rfl

/-- What the bot refuses changes nothing of its content, in a document and in a text. -/
theorem clerk_load_refused : clerk.script.options.strict = true ∧
    clerk.SameContent (clerk.load halfGood).2 ∧
      clerk.SameContent (clerk.loadJson "no document").2 :=
  ⟨rfl, ((load_refused rfl).1 _ _ _ clerk_load_halfGood).1,
    ((load_refused rfl).2 "no document" .unreadable _ (Prod.ext (by decide +kernel) rfl)).1⟩

/-- A macro before the one that is refused can be called afterwards. -/
theorem clerk_calls_greet : clerk.script.options.strict = true ∧ (clerk.load halfGood).1.isSome ∧
    clerk.script.languages.contains "greet" = false ∧
      (clerk.load halfGood).2.script.languages.contains "greet" = true := by
  decide +kernel

end Brain

end Repartee

import Repartee.Proofs.Reply.Conditions

/-!
# Arithmetic that is refused

A tag that changes a numeric variable first sets a variable that reads as `undefined` to zero, and
only then looks at its operands. Apart from this zero a tag that is refused changes nothing.

* `Variables.ReadsUndefined`, `Variables.initialized`: such a variable, and the turn in which it is
  zero.
* `Variables.Refuses`: why arithmetic is refused, and what is said then.
* `Variables.run_calculateFrom`: arithmetic on what a variable holds is refused, or assigns.
* **`Variables.refused_run_step`**: a refused tag leaves the turn with the zero, or as it was.
* `Variables.coins_left_behind`: the zero stays also if the other operand is no number.
-/

namespace Repartee

namespace Variables

variable {user : String} {op : Arithmetic} {name value current : Text} {t : Turn}

/-- What a user reads as the value of a variable. -/
theorem run_getVar (user : String) (name : Text) (t : Turn) :
    (Talk.getVar user name).run t = (((stored user name t).getD undefined).toList, t) := by
  have hvar (data : Option UserData) : (data.map (·.var (String.ofList name))).getD undefined =
      (data.bind (·.vars.find? (String.ofList name))).getD undefined := by
    cases data <;> rfl
  rw [stored, ← hvar]
  rfl

/-! ## Variables without a value -/

/-- A variable reads as undefined: its user is unknown, it is unset, or it holds this text. -/
def ReadsUndefined (user : String) (name : Text) (t : Turn) : Prop :=
  (stored user name t).getD undefined = undefined

instance (user : String) (name : Text) (t : Turn) : Decidable (ReadsUndefined user name t) :=
  inferInstanceAs (Decidable (_ = _))

/-- The turn in which a variable that reads as undefined is zero. -/
def initialized (user : String) (name : Text) (t : Turn) : Turn :=
  if ReadsUndefined user name t then
    { t with sessions := t.sessions.set user (.setting (String.ofList name) "0") }
  else t

/-- What arithmetic takes a variable for. -/
def base (user : String) (name : Text) (t : Turn) : Text :=
  if ReadsUndefined user name t then ['0'] else ((stored user name t).getD undefined).toList

/-! ## Refusals -/

/-- Arithmetic is refused with a text: its operand is no number, the variable holds none, or it
divides by zero. -/
inductive Refuses (op : Arithmetic) (name value current : Text) : Text → Prop
  | operand : (∀ n, ¬value.LeadsWith n) →
    Refuses op name value current (refusal op "value" value)
  | holds : (∃ n, value.LeadsWith n) → (∀ n, ¬current.LeadsWith n) →
    Refuses op name value current (refusal op "user variable" name)
  | zero : op = .div → value.LeadsWith 0 → (∃ n, current.LeadsWith n) →
    Refuses op name value current "[ERR: Can't Divide By Zero]".toList

/-- Nothing is read from a text that begins with no integer. -/
theorem not_leadsWith_of_none {u : Text} (h : u.leadingInt? = none) (n : Int) : ¬u.LeadsWith n := by
  rw [← Text.leadingInt?_eq_some_iff, h]
  exact Option.some_ne_none n ∘ Eq.symm

/-- Arithmetic on what a variable holds is refused, or says nothing. -/
theorem run_calculateFrom (user : String) (op : Arithmetic) (name value current : Text) (t : Turn) :
    (∃ text, Refuses op name value current text ∧
      (calculateFrom user op name value current).run t = (text, t)) ∨
    ((calculateFrom user op name value current).run t).1 = [] := by
  rw [calculateFrom]
  split
  · rename_i hvalue
    exact .inl ⟨_, .operand (not_leadsWith_of_none hvalue), rfl⟩
  · rename_i m hvalue hcurrent
    have hleads : ∃ n, value.LeadsWith n := ⟨m, Text.leadingInt?_eq_some_iff.1 hvalue⟩
    exact .inl ⟨_, .holds hleads (not_leadsWith_of_none hcurrent), rfl⟩
  · rename_i m n hvalue hcurrent
    split
    · rename_i hzero
      obtain ⟨hop, rfl⟩ := hzero
      exact .inl ⟨_, .zero hop (Text.leadingInt?_eq_some_iff.1 hvalue)
        ⟨n, Text.leadingInt?_eq_some_iff.1 hcurrent⟩, rfl⟩
    · exact .inr rfl

/-- The zero of a variable that reads as undefined comes before the arithmetic. -/
theorem run_calculate {data : Text}
    (hdata : (Text.cut? '=' data).getD (data, []) = (name, value)) :
    (calculate user op data).run t =
      (calculateFrom user op name value (base user name t)).run (initialized user name t) := by
  have hundefined : ((stored user name t).getD undefined).toList = undefined.toList ↔
      ReadsUndefined user name t := String.toList_inj
  rw [calculate, hdata]
  dsimp only
  rw [Talk.run_bind, run_getVar, base, initialized]
  dsimp only
  by_cases h : ReadsUndefined user name t
  · rw [if_pos (hundefined.2 h), if_pos h, if_pos h]
    rfl
  · rw [if_neg (mt hundefined.1 h), if_neg h, if_neg h]

/-- **A tag that is refused changes nothing, but for the zero of a variable that reads as
undefined.** -/
theorem refused_run_step {tag data text : Text} {t' : Turn} (hblank : ' ' ∉ tag)
    (htag : VariableTag.named? tag = some (.arithmetic op))
    (hdata : (Text.cut? '=' (unpark data)).getD (unpark data, []) = (name, value))
    (hrun : (step user (tag ++ ' ' :: data)).run t = (text, t'))
    (hrefused : "[ERR: ".toList <+: text) :
    Refuses op name value (base user name t) text ∧ t' = initialized user name t := by
  have hstep : step user (tag ++ ' ' :: data) = calculate user op (unpark data) := by
    rw [step, Text.cut?_append hblank, Option.getD_some]
    dsimp only
    rw [htag]
    rfl
  rw [hstep, run_calculate hdata] at hrun
  rcases run_calculateFrom user op name value (base user name t) (initialized user name t) with
    ⟨_, hrefuses, hrefused⟩ | hnil
  · rw [hrefused] at hrun
    cases hrun
    exact ⟨hrefuses, rfl⟩
  · rw [hrun] at hnil
    obtain rfl : text = [] := hnil
    exact absurd (List.prefix_nil.1 hrefused) (by decide)

/-- A name is no number, and is left alone. -/
theorem refused_run_step_name :
    (step "ann" "add name=5".toList).run Template.annTurn =
        ("[ERR: Math can't 'add' non-numeric user variable 'name']".toList, Template.annTurn) ∧
      stored "ann" "name".toList Template.annTurn = some "Ann" := by
  have hrun : ∃ t', (step "ann" ("add".toList ++ ' ' :: "name=5".toList)).run Template.annTurn =
      ("[ERR: Math can't 'add' non-numeric user variable 'name']".toList, t') := ⟨_, rfl⟩
  obtain ⟨t', hrun⟩ := hrun
  obtain ⟨-, rfl⟩ := @refused_run_step "ann" .add "name".toList "5".toList _ _ _ _ _ (by decide)
    (by decide) (by decide) hrun (by decide)
  have hset : ¬ReadsUndefined "ann" "name".toList Template.annTurn := by decide
  rw [initialized, if_neg hset] at hrun
  exact ⟨hrun, by decide⟩

/-- A variable that was unset is zero after a tag that is refused for its other operand. -/
theorem coins_left_behind :
    ((step "ann" "add coins=many".toList).run Template.annTurn).1 =
        "[ERR: Math can't 'add' non-numeric value 'many']".toList ∧
      stored "ann" "coins".toList Template.annTurn = none ∧
      stored "ann" "coins".toList ((step "ann" "add coins=many".toList).run Template.annTurn).2 =
        some "0" := by
  decide

end Variables

end Repartee

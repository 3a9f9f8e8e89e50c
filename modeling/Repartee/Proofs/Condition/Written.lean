import Repartee.Proofs.Condition.Reading
import Repartee.Proofs.Reply.Opening
import Repartee.Proofs.Text.LeadingInt

/-!
# Conditions on a variable

A condition that compares a variable of the user with a word, as it is written, and what is read
from it.

* `Comparison.Declares`: what an operator declares to hold between two texts;
  **`Comparison.holds_iff_declares`**: this is what is compared.
* `getText`: the tag that reads a variable.
* `WrittenCondition`: a variable, an operator, a word and a reply.
* `WrittenCondition.split?_text`: the test and the reply are told apart.
* **`WrittenCondition.comparison?_test`**: the tag, the operator and the word are found again.
-/

namespace Repartee

/-! ## Comparisons -/

/-- What an operator declares to hold between two texts: that they are the same or different, or the
order of the integers they begin with. -/
def Comparison.Declares (operator : String) (a b : Text) : Prop :=
  (operator ∈ ["==", "eq"] ∧ a = b) ∨ (operator ∈ ["!=", "ne", "<>"] ∧ a ≠ b) ∨
    ∃ m n, a.LeadsWith m ∧ b.LeadsWith n ∧
      (operator = "<" ∧ m < n ∨ operator = "<=" ∧ m ≤ n ∨ operator = ">" ∧ n < m ∨
        operator = ">=" ∧ n ≤ m)

/-- An order of texts is that of the integers they begin with. -/
theorem Comparison.holds_order {op : Comparison} (hop : op ≠ equal ∧ op ≠ different) {a b : Text} :
    op.holds a b ↔ ∃ m n, a.LeadsWith m ∧ b.LeadsWith n ∧ op.ofInts m n := by
  simp only [← Text.leadingInt?_eq_some_iff]
  cases op with
  | equal => exact absurd rfl hop.1
  | different => exact absurd rfl hop.2
  | less | atMost | greater | atLeast =>
    unfold holds
    cases Text.leadingInt? a <;> cases Text.leadingInt? b <;> simp

/-- A comparison is the one that its operator declares. -/
theorem Comparison.holds_iff_declares {operator : String} {op : Comparison} {a b : Text}
    (h : (operator, op) ∈ spellings) : op.holds a b ↔ Declares operator a b := by
  simp only [spellings, List.mem_cons, Prod.mk.injEq, List.not_mem_nil, or_false] at h
  rcases h with ⟨rfl, rfl⟩ | ⟨rfl, rfl⟩ | ⟨rfl, rfl⟩ | ⟨rfl, rfl⟩ | ⟨rfl, rfl⟩ | ⟨rfl, rfl⟩ |
    ⟨rfl, rfl⟩ | ⟨rfl, rfl⟩ | ⟨rfl, rfl⟩
  case inl | inr.inl => simp [holds, Declares]
  case inr.inr.inl | inr.inr.inr.inl | inr.inr.inr.inr.inl => simp [holds, Declares]
  all_goals
    rw [holds_order (by decide)]
    simp [Declares, ofInts]

/-! ## Conditions as they are written -/

/-- ASCII letters and digits, at least one. -/
def Text.IsPlainWord (t : Text) : Prop := t ≠ [] ∧ ∀ c ∈ t, c.isAlphanum

instance (t : Text) : Decidable t.IsPlainWord := @instDecidableAnd _ _ _ (List.decidableBAll _ t)

/-- The tag that reads a variable of the user. -/
def getText (name : Text) : Text := '<' :: ("get ".toList ++ name ++ ['>'])

/-- A condition that compares a variable of the user with a word that may have a sign. -/
structure WrittenCondition where
  name : Text
  operator : String
  sign : Text.Sign
  word : Text
  reply : Text
  name_word : name.IsPlainWord
  operator_mem : operator ∈ Condition.operators
  word_word : word.IsPlainWord
  ne_nil : reply ≠ []
  ends : (∀ c ∈ reply.head?, isBlank c = false) ∧ ∀ c ∈ reply.getLast?, isBlank c = false
  arrowless : ¬arrow <:+: reply
  inert : reply.Inert

namespace WrittenCondition

/-- The word with its sign. -/
def value (c : WrittenCondition) : Text := c.sign.text ++ c.word

/-- What stands before the arrow. -/
def test (c : WrittenCondition) : Text :=
  getText c.name ++ ([' '] ++ (c.operator.toList ++ ([' '] ++ c.value)))

/-- A condition as it is written. -/
def text (c : WrittenCondition) : String :=
  String.ofList (c.test ++ ([' '] ++ (arrow ++ ([' '] ++ c.reply))))

end WrittenCondition

/-! ## Reading -/

theorem Text.IsPlainWord.isWord {t : Text} (h : t.IsPlainWord) : t.IsWord :=
  ⟨h.1, fun c hc => isBlank_of_isAlphanum (h.2 c hc)⟩

theorem Text.IsPlainWord.notMem {t : Text} (h : t.IsPlainWord) {c : Char}
    (hc : c.isAlphanum = false) : c ∉ t := by
  intro hmem
  rw [h.2 c hmem] at hc
  cases hc

theorem Text.isGap_space : Text.IsGap [' '] := ⟨by decide, List.all_eq_true.1 (by decide)⟩

/-- What stands behind the only blank of a text. -/
theorem eq_behind_blank {p q v ds : Text} {b d : Char} (hp : ∀ c ∈ p, isBlank c = false)
    (hq : ∀ c ∈ q, isBlank c = false) (hd : isBlank d) (h : p ++ b :: q = v ++ d :: ds) :
    ds = q := by
  have hnot {t : Text} (ht : ∀ c ∈ t, isBlank c = false) : d ∉ t := fun hmem =>
    absurd (ht d hmem) (by simp [hd])
  rcases List.append_eq_append_iff.1 h with ⟨a, rfl, ha⟩ | ⟨a, rfl, ha⟩
  · cases a with
    | nil => exact (List.cons.inj ha).2.symm
    | cons e a =>
      obtain ⟨-, rfl⟩ := List.cons.inj ha
      exact absurd (by simp) (hnot hq)
  · cases a with
    | nil => exact (List.cons.inj ha).2
    | cons e a =>
      obtain ⟨rfl, -⟩ := List.cons.inj ha
      exact absurd (by simp) (hnot hp)

namespace WrittenCondition

variable (c : WrittenCondition)

theorem isWord_value : c.value.IsWord := by
  have hsign (sign : Text.Sign) : ∀ d ∈ sign.text, isBlank d = false := by
    cases sign <;> simp [Text.Sign.text, isBlank]
  refine ⟨List.append_ne_nil_of_right_ne_nil _ c.word_word.1, fun d hd => ?_⟩
  rcases List.mem_append.1 hd with hd | hd
  · exact hsign c.sign d hd
  · exact c.word_word.isWord.2 d hd

theorem split?_text : Condition.split? c.text.toList = some (c.test, c.reply) := by
  have hspace : ¬arrow <:+: [' '] := by decide
  have htest : ¬arrow <:+: c.test ++ [' '] := by
    -- each of the three parts ends with a space, and none of them has an arrow
    have hoperators : ∀ w ∈ Condition.operators, ¬arrow <:+: w.toList ++ [' '] := by decide
    have hget : ¬arrow <:+: getText c.name ++ [' '] := not_arrow_infix_of_notMem (by
      simp [getText, c.name_word.notMem])
    have hvalue : ¬arrow <:+: c.value ++ [' '] := not_arrow_infix_of_notMem (by
      cases hsign : c.sign <;> simp [value, hsign, Text.Sign.text, c.word_word.notMem])
    have hrest := not_arrow_infix_append (by simp) (hoperators _ c.operator_mem) hvalue
    have hwhole := not_arrow_infix_append (by simp) hget hrest
    simpa [test] using hwhole
  have hreply : ¬arrow <:+: [' '] ++ c.reply :=
    not_arrow_infix_append (by decide) hspace c.arrowless
  refine Condition.split?_eq_some_iff.2
    ⟨c.test ++ [' '], [' '] ++ c.reply, ?_, htest, hreply, ?_, ?_⟩
  · rw [text, String.toList_ofList, List.append_assoc]
  · have hlast : ∀ d ∈ c.test.getLast?, isBlank d = false := by
      intro d hd
      rw [test, ← List.append_assoc, ← List.append_assoc, ← List.append_assoc,
        List.getLast?_append_of_ne_nil _ c.isWord_value.1] at hd
      exact c.isWord_value.2 d (List.mem_of_mem_getLast? hd)
    exact (Text.trim_append (u := []) (by simp) Text.isGap_space.2
      (by simp [test, getText, isBlank]) hlast (by simp [test, getText])).symm
  · have htrim := Text.trim_append (v := []) Text.isGap_space.2 (by simp) c.ends.1 c.ends.2 c.ne_nil
    rw [List.append_nil] at htrim
    exact htrim.symm

/-- The tag holds no operator between blanks. -/
theorem operator?_getText {v w : Text} (hw : w ≠ []) (h : getText c.name = v ++ w) (u : Text) :
    Condition.operator? (w ++ ([' '] ++ u)) = none := by
  obtain ⟨d, ds, rfl⟩ := List.exists_cons_of_ne_nil hw
  rw [Option.eq_none_iff_forall_ne_some]
  rintro ⟨op, right⟩ hread
  obtain ⟨gap, x, gap', hsplit, hgap, hmem, hgap', -⟩ := Condition.operator?_eq_some_iff.1 hread
  obtain ⟨g, gs, rfl⟩ := List.exists_cons_of_ne_nil hgap.1
  obtain rfl : d = g := (List.cons.inj hsplit).1
  have hd : isBlank d := hgap.2 d List.mem_cons_self
  have hword : Text.IsWord (c.name ++ ['>']) := by
    refine ⟨by simp, fun e he => ?_⟩
    rcases List.mem_append.1 he with he | he
    · exact c.name_word.isWord.2 e he
    · rw [List.mem_singleton.1 he]
      decide
  have hds : ds = c.name ++ ['>'] := by
    have hget : Text.IsWord "<get".toList := by decide
    refine eq_behind_blank (b := ' ') (v := v) hget.2 hword.2 hd ?_
    rw [← h, getText]
    simp
  have hx := Condition.isWord_spelling _ hmem
  have hbehind : c.name ++ ['>'] ++ ([' '] ++ u) = x.toList ++ (gap' ++ right) := by
    have hgap₁ : Text.IsGap [d] := ⟨by simp, List.forall_mem_singleton.2 hd⟩
    rw [← hgap₁.trimLeft_append hword, ← hds, ← hgap.trimLeft_append hx, ← hsplit]
    rfl
  have hsame : c.name ++ ['>'] = x.toList := by
    rw [← hword.takeWhile_append Text.isGap_space u, hbehind, hx.takeWhile_append hgap']
  -- no operator begins with a letter or digit and ends with a bracket
  have hoperators : ∀ e ∈ Comparison.spellings, '>' ∈ e.1.toList.getLast? →
      e.1.toList.head?.any Char.isAlphanum = false := by decide
  obtain ⟨b, bs, hname⟩ := List.exists_cons_of_ne_nil c.name_word.1
  have hb := hoperators _ hmem (by rw [← hsame]; simp)
  rw [← hsame, hname, List.cons_append, List.head?_cons, Option.any_some,
    c.name_word.2 b (by rw [hname]; exact List.mem_cons_self)] at hb
  cases hb

theorem comparison?_test {op : Comparison} (hop : (c.operator, op) ∈ Comparison.spellings) :
    Condition.comparison? c.test = some (getText c.name, op, c.value) := by
  have hvalue := c.isWord_value
  have hfirst : ∀ d ∈ c.value.head?, isBlank d = false := fun d hd =>
    hvalue.2 d (List.mem_of_mem_head? hd)
  have hlast : ∀ d ∈ c.value.getLast?, isBlank d = false := fun d hd =>
    hvalue.2 d (List.mem_of_mem_getLast? hd)
  have hline : '\n' ∉ c.value := fun hmem => absurd (hvalue.2 _ hmem) (by decide)
  have hread : Condition.operator? ([' '] ++ (c.operator.toList ++ ([' '] ++ c.value))) =
      some (op, c.value) :=
    Condition.operator?_eq_some_iff.2 ⟨_, _, _, rfl, Text.isGap_space, hop, Text.isGap_space,
      hfirst, hline⟩
  have hne : getText c.name ≠ [] := by simp [getText]
  have hsides := Condition.sides?_append hread hne (by simp [getText, c.name_word.notMem])
    fun v w _ hw h => c.operator?_getText hw h _
  have hget : (getText c.name).trim = getText c.name := by
    refine Text.trim_eq_self (by simp [getText, isBlank]) fun d hd => ?_
    rw [getText, ← List.cons_append, List.getLast?_concat] at hd
    cases hd
    decide
  rw [Condition.comparison?, test, hsides, Option.map_some]
  dsimp only
  rw [hget, Text.trim_eq_self hfirst hlast]

end WrittenCondition

end Repartee

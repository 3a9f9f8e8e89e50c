import Repartee.Pattern.Check
import Repartee.Proofs.Condition.Reading
import Repartee.Proofs.Regex.Places
import Repartee.Reply.Resolve

/-!
# Checked conditions

The check of a document lets a condition pass if it has two sides, an operator, an arrow and a
reply, however they touch. To be evaluated, the condition needs an operator that is a word of its
own and no second arrow; without them it is passed over.

* `Condition.HasLooseOperator`: an operator between two sides, with blanks beside it or not.
* **`Check.condition_eq_none_iff`**: the conditions that pass the check.
* `Condition.Evaluable`, `Condition.evaluable_iff`: the conditions that fall into two sides, an
  operator and a reply.
* **`Condition.evaluable_iff_of_checked`**: which of the conditions that pass the check these are.
-/

namespace Repartee

variable {t : Text}

/-! ## What the check asks -/

/-- An operator between two sides of one line each, with blanks beside it or not. -/
def Condition.HasLooseOperator (t : Text) : Prop :=
  ∃ left gap w gap' right, t = left ++ (gap ++ (w.toList ++ (gap' ++ right))) ∧ left ≠ [] ∧
    '\n' ∉ left ∧ (∀ c ∈ gap, isBlank c) ∧ w ∈ operators ∧ (∀ c ∈ gap', isBlank c) ∧
    right ≠ [] ∧ '\n' ∉ right

namespace Check

open Regex

variable {p q : Place}

theorem reaches_line : (someLazy isInline).Reaches p q ↔
    ∃ t, p.Reads t q ∧ t ≠ [] ∧ '\n' ∉ t := by
  refine exists_congr fun t => and_congr_right fun _ => and_congr List.length_pos_iff ?_
  simp only [isInline, bne_iff_ne]
  exact ⟨fun h hmem => h _ hmem rfl, fun h c hc => ne_of_mem_of_not_mem hc h⟩

theorem reaches_blanks : (anyGreedy isBlank).Reaches p q ↔
    ∃ t, p.Reads t q ∧ ∀ c ∈ t, isBlank c :=
  exists_congr fun _ => and_congr_right fun _ => and_iff_right (Nat.zero_le _)

theorem reaches_operators :
    (oneOf (Condition.operators.map fun w => literal w.toList)).Reaches p q ↔
      ∃ w ∈ Condition.operators, p.Reads w.toList q := by
  rw [reaches_oneOf (by decide)]
  simp only [List.mem_map, exists_exists_and_eq_and, reaches_literal]

theorem conditionForm_eq : conditionForm = .concat [someLazy isInline, anyGreedy isBlank,
    oneOf (Condition.operators.map fun w => literal w.toList), anyGreedy isBlank,
    someLazy isInline, literal "=>".toList, someLazy isInline] := rfl

/-- **The conditions that pass the check.** -/
theorem condition_eq_none_iff : condition t = none ↔
    ∃ test reply, t = test ++ (arrow ++ reply) ∧ Condition.HasLooseOperator test ∧
      reply ≠ [] ∧ '\n' ∉ reply := by
  rw [condition, conditionForm_eq, ite_eq_left_iff, fullMatch?_isSome (by rfl), finishes_concat,
    arrow_eq]
  simp only [reduceCtorEq, imp_false, not_not, Finishes, reaches_line, reaches_blanks,
    reaches_operators, reaches_literal]
  constructor
  · rintro ⟨q₁, ⟨left, hleft, hne, hline⟩, q₂, ⟨gap, hgap, hblank⟩, q₃, ⟨w, hmem, hw⟩, q₄,
      ⟨gap', hgap', hblank'⟩, q₅, ⟨right, hright, hne', hline'⟩, q₆, harrow, q₇,
      ⟨reply, hreply, hne'', hline''⟩, hend⟩
    have ht : t = left ++ q₁.rest := hleft.rest
    refine ⟨_, reply, ?_, ⟨left, gap, w, gap', right, rfl, hne, hline, hblank, hmem, hblank', hne',
      hline'⟩, hne'', hline''⟩
    rw [ht, hgap.rest, hw.rest, hgap'.rest, hright.rest, harrow.rest, hreply.rest, hend]
    simp only [List.append_assoc, List.append_nil]
  · rintro ⟨test, reply, ht, ⟨left, gap, w, gap', right, rfl, hne, hline, hblank, hmem, hblank',
      hne', hline'⟩, hne'', hline''⟩
    obtain ⟨hread, hend⟩ := Place.reads_begin.2 ⟨ht, rfl⟩
    simp only [List.append_assoc, Place.reads_append] at hread
    obtain ⟨q₁, hleft, q₂, hgap, q₃, hw, q₄, hgap', q₅, hright, q₆, harrow, hreply⟩ := hread
    exact ⟨q₁, ⟨left, hleft, hne, hline⟩, q₂, ⟨gap, hgap, hblank⟩, q₃, ⟨w, hmem, hw⟩, q₄,
      ⟨gap', hgap', hblank'⟩, q₅, ⟨right, hright, hne', hline'⟩, q₆, harrow, _,
      ⟨reply, hreply, hne'', hline''⟩, hend⟩

end Check

/-! ## What an evaluation needs -/

namespace Condition

/-- A condition falls into a test and a reply, and the test into two sides and an operator. -/
def Evaluable (t : Text) : Prop :=
  ∃ test reply left op right, split? t = some (test, reply) ∧
    comparison? test = some (left, op, right)

theorem evaluable_iff : Evaluable t ↔ ∃ test reply, t = test ++ (arrow ++ reply) ∧
    HasOperator test.trim ∧ ¬arrow <:+: test ∧ ¬arrow <:+: reply := by
  constructor
  · rintro ⟨test, reply, left, op, right, hsplit, hsides⟩
    obtain ⟨before, after, ht, hbefore, hafter, rfl, rfl⟩ := split?_eq_some_iff.1 hsplit
    exact ⟨before, after, ht, comparison?_isSome_iff.1 (Option.isSome_of_eq_some hsides), hbefore,
      hafter⟩
  · rintro ⟨test, reply, ht, hop, htest, hreply⟩
    obtain ⟨⟨left, op, right⟩, hsides⟩ :=
      Option.isSome_iff_exists.1 (comparison?_isSome_iff.2 hop)
    exact ⟨_, _, left, op, right,
      split?_eq_some_iff.2 ⟨test, reply, ht, htest, hreply, rfl, rfl⟩, hsides⟩

/-- A condition that can not be evaluated is passed over. -/
theorem firstReply_cons_of_not_evaluable (h : ¬Evaluable t) (expand : Text → Talk Text)
    (cs : List String) :
    Resolve.firstReply expand (String.ofList t :: cs) = Resolve.firstReply expand cs := by
  rw [Resolve.firstReply, String.toList_ofList]
  cases hsplit : split? t with
  | none => rfl
  | some parts =>
    obtain ⟨test, reply⟩ := parts
    cases hsides : comparison? test with
    | none =>
      dsimp only
      rw [Resolve.holds, hsides]
      rfl
    | some sides => exact absurd ⟨test, reply, _, _, _, hsplit, hsides⟩ h

/-- A text is cut at its only arrow in one way. -/
theorem eq_of_only_arrow {before after test reply : Text} (hbefore : ¬arrow <:+: before)
    (hafter : ¬arrow <:+: after) (h : before ++ (arrow ++ after) = test ++ (arrow ++ reply)) :
    before = test ∧ after = reply := by
  have hcut := Text.cutAt?_arrow_append after hbefore
  by_cases htest : arrow <:+: test
  · obtain ⟨front, back, rfl, hfront⟩ := exists_first_arrow htest
    rw [h, List.append_assoc, List.append_assoc, Text.cutAt?_arrow_append _ hfront] at hcut
    cases hcut
    exact absurd ⟨back, reply, by simp⟩ hafter
  · rw [h, Text.cutAt?_arrow_append reply htest] at hcut
    cases hcut
    exact ⟨rfl, rfl⟩

/-- **A condition that passes the check can be evaluated exactly if it has one arrow only and an
operator that is a word of its own before it. If not, it is passed over, whatever its sides expand
to.** -/
theorem evaluable_iff_of_checked (h : Check.condition t = none) :
    (Evaluable t ↔ ∀ test reply, t = test ++ (arrow ++ reply) →
      HasOperator test.trim ∧ ¬arrow <:+: reply) ∧
    (¬Evaluable t → ∀ expand cs,
      Resolve.firstReply expand (String.ofList t :: cs) = Resolve.firstReply expand cs) := by
  refine ⟨?_, firstReply_cons_of_not_evaluable⟩
  rw [evaluable_iff]
  constructor
  · rintro ⟨before, after, rfl, hop, hbefore, hafter⟩ test reply ht
    obtain ⟨rfl, rfl⟩ := eq_of_only_arrow hbefore hafter ht
    exact ⟨hop, hafter⟩
  · intro hall
    -- the check saw an arrow, and the first one is the one the condition is cut at
    obtain ⟨test, reply, ht, -⟩ := Check.condition_eq_none_iff.1 h
    obtain ⟨before, after, hfirst, hbefore⟩ :=
      exists_first_arrow (t := t) ⟨test, reply, by rw [ht, List.append_assoc]⟩
    obtain ⟨hop, hafter⟩ := hall before after hfirst
    exact ⟨before, after, hfirst, hop, hbefore, hafter⟩

theorem evaluable_iff_of_checked_age :
    (Check.condition "<get age> >= 18 => Yes.".toList = none ∧
      Evaluable "<get age> >= 18 => Yes.".toList ∧
      ∀ test reply : Text, "<get age> >= 18 => Yes.".toList = test ++ (arrow ++ reply) →
        HasOperator test.trim ∧ ¬arrow <:+: reply) ∧
    Check.condition "<get age> >= 18 => Yes. => No.".toList = none ∧
    ¬Evaluable "<get age> >= 18 => Yes. => No.".toList ∧
    ∀ expand, Resolve.firstReply expand ["<get age> >= 18 => Yes. => No."] = pure none := by
  have hcheck : Check.condition "<get age> >= 18 => Yes.".toList = none := by decide
  have heval : Evaluable "<get age> >= 18 => Yes.".toList :=
    ⟨"<get age> >= 18".toList, "Yes.".toList, "<get age>".toList, .atLeast, "18".toList,
      by decide, by decide⟩
  have htwice : Check.condition "<get age> >= 18 => Yes. => No.".toList = none := by decide
  obtain ⟨hiff, hpassed⟩ := evaluable_iff_of_checked htwice
  have hfails : ¬Evaluable "<get age> >= 18 => Yes. => No.".toList := fun h =>
    (hiff.1 h "<get age> >= 18 ".toList " Yes. => No.".toList (by decide)).2
      ⟨" Yes. ".toList, " No.".toList, by decide⟩
  exact ⟨⟨hcheck, heval, (evaluable_iff_of_checked hcheck).1.1 heval⟩, htwice, hfails,
    fun expand => hpassed hfails expand []⟩

/-- A condition without blanks beside its operator passes the check and is passed over. -/
theorem checked_not_evaluable_name :
    Check.condition "<get name>==bob => yes".toList = none ∧
    ¬Evaluable "<get name>==bob => yes".toList ∧
    ∀ expand, Resolve.firstReply expand ["<get name>==bob => yes"] = pure none := by
  have hsplit : split? "<get name>==bob => yes".toList =
      some ("<get name>==bob".toList, "yes".toList) := by decide
  have hsides : comparison? "<get name>==bob".toList = none := by decide
  have heval : ¬Evaluable "<get name>==bob => yes".toList := by
    rintro ⟨test, reply, left, op, right, h, h'⟩
    rw [hsplit] at h
    cases h
    rw [hsides] at h'
    cases h'
  exact ⟨by decide, heval, fun expand => firstReply_cons_of_not_evaluable heval expand []⟩

end Condition

end Repartee

import Repartee.Proofs.Text.Clear
import Repartee.Regex.Basic

/-!
# What an expression captures

* `Regex.Outcome.Inside`: all places of an outcome are in a text.
* `Regex.inside_goOn`, `Regex.inside_anyNumber` and the like: the parts of a search.
* **`Regex.inside_outcomes`**: the outcomes at a place of a text are in the text.
* **`Regex.fullMatch?_subset`**: what is captured from a text is a part of it.
-/

namespace Repartee

namespace Regex

/-- All places of an outcome are in a text. -/
structure Outcome.Inside (t : Text) (o : Outcome) : Prop where
  stop : o.stop.rest ⊆ t
  captures : ∀ s, some s ∈ o.captures → s.start.rest ⊆ t

variable {t : Text} {marks : Marks} {os : List Outcome} {o : Outcome}

/-! ## One outcome for each end -/

theorem mem_fresh : ∀ {os : List Outcome} {marks : Marks}, o ∈ (fresh marks os).1 → o ∈ os
  | x :: os, marks, h => by
    unfold fresh at h
    split at h
    · exact List.mem_cons_of_mem x (mem_fresh h)
    · rcases List.mem_cons.1 h with rfl | h
      · exact List.mem_cons_self
      · exact List.mem_cons_of_mem x (mem_fresh h)

theorem inside_distinct (h : ∀ x ∈ os, x.Inside t) : ∀ x ∈ distinct os, x.Inside t :=
  fun x hx => h x (mem_fresh hx)

/-- Going on from outcomes in a text stays in it if every step does. -/
theorem inside_goOn {next : Outcome → List Outcome}
    (hnext : ∀ x, x.Inside t → ∀ y ∈ next x, y.Inside t) :
    ∀ {os : List Outcome} {marks : Marks}, (∀ x ∈ os, x.Inside t) →
      ∀ y ∈ goOn next marks os, y.Inside t
  | [], _, _, _, hy => absurd hy List.not_mem_nil
  | x :: os, marks, h, y, hy => by
    rw [List.forall_mem_cons] at h
    rw [goOn] at hy
    rcases List.mem_append.1 hy with hy | hy
    · exact hnext x h.1 y (mem_fresh hy)
    · exact inside_goOn hnext h.2 y hy

/-! ## Repetition -/

theorem run_subset {accepts : Char → Bool} : ∀ {t : Text} {pos : Nat} {last : Option Char}
    {q : Place}, q ∈ run accepts pos last t → q.rest ⊆ t
  | [], _, _, q, h => by
    rw [List.mem_singleton.1 h]
    exact List.Subset.refl _
  | c :: cs, pos, last, q, h => by
    rw [run] at h
    rcases List.mem_cons.1 h with rfl | h
    · exact List.Subset.refl _
    · split at h
      · exact List.subset_cons_of_subset c (run_subset h)
      · cases h

section Steps

variable {step : Place → List Outcome}
  (hstep : ∀ p : Place, p.rest ⊆ t → ∀ x ∈ step p, x.Inside t)

include hstep

theorem inside_exactly (n : Nat) (h : ∀ x ∈ os, x.Inside t) :
    ∀ x ∈ exactly step n os, x.Inside t := by
  induction n generalizing os with
  | zero => exact h
  | succ n ih => exact ih (inside_goOn (fun x hx => hstep x.stop hx.stop) h)

theorem inside_atMost (greedy : Bool) (n : Nat) (h : o.Inside t) :
    ∀ x ∈ atMost step greedy n o, x.Inside t := by
  induction n generalizing o with
  | zero =>
    intro x hx
    rwa [List.mem_singleton.1 hx]
  | succ n ih =>
    have hlonger : ∀ x ∈ goOn (atMost step greedy n) 0 (step o.stop), x.Inside t :=
      inside_goOn (fun x hx => ih hx) (hstep o.stop h.stop)
    refine inside_distinct fun x hx => ?_
    split at hx
    · rcases List.mem_append.1 hx with hx | hx
      · exact hlonger x hx
      · rwa [List.mem_singleton.1 hx]
    · rcases List.mem_cons.1 hx with rfl | hx
      · exact h
      · exact hlonger x hx

/-- The outcome behind which a task is to be carried out. -/
def Task.outcome : Task → Outcome
  | again o | stop o => o

omit hstep in
theorem inside_behind {greedy : Bool} (h : o.Inside t) :
    ∀ task ∈ Task.behind greedy o, task.outcome.Inside t := by
  intro task htask
  have hmem : task = .again o ∨ task = .stop o := by
    cases greedy <;> simp [Task.behind] at htask <;> tauto
  rcases hmem with rfl | rfl <;> exact h

theorem inside_anyNumber (greedy : Bool) :
    ∀ (n : Nat) (marks : Marks) (ts : List Task), (∀ task ∈ ts, task.outcome.Inside t) →
      ∀ x ∈ anyNumber step greedy n marks ts, x.Inside t
  | 0, _, _, _, _, hx => absurd hx List.not_mem_nil
  | _ + 1, _, [], _, _, hx => absurd hx List.not_mem_nil
  | n + 1, marks, .stop o :: ts, h, x, hx => by
    rw [List.forall_mem_cons] at h
    rcases List.mem_cons.1 hx with rfl | hx
    · exact h.1
    · exact inside_anyNumber greedy n marks ts h.2 x hx
  | n + 1, marks, .again o :: ts, h, x, hx => by
    rw [List.forall_mem_cons] at h
    rw [anyNumber] at hx
    split at hx
    · exact inside_anyNumber greedy n marks ts h.2 x hx
    · refine inside_anyNumber greedy n _ _ (fun task htask => ?_) x hx
      rcases List.mem_append.1 htask with htask | htask
      · obtain ⟨y, hy, htask⟩ := List.mem_flatMap.1 htask
        exact inside_behind (hstep o.stop h.1.stop y hy) task htask
      · exact h.2 task htask

end Steps

/-! ## Outcomes -/

theorem inside_nil {p : Place} (hp : p.rest ⊆ t) : (⟨[], p⟩ : Outcome).Inside t :=
  ⟨hp, fun _ hs => absurd hs List.not_mem_nil⟩

theorem inside_absent (r : Regex) {p : Place} (hp : p.rest ⊆ t) :
    (⟨r.absent, p⟩ : Outcome).Inside t :=
  ⟨hp, fun _ hs => by cases List.eq_of_mem_replicate hs⟩

theorem Outcome.Inside.append {captures : List (Option Span)} {p : Place}
    (ho : o.Inside t) (h : (⟨captures, p⟩ : Outcome).Inside t) :
    (⟨o.captures ++ captures, p⟩ : Outcome).Inside t :=
  ⟨h.stop, fun s hs => (List.mem_append.1 hs).elim (ho.captures s) (h.captures s)⟩

/-- **The outcomes at a place of a text are in the text.** -/
theorem inside_outcomes (r : Regex) (p : Place) (hp : p.rest ⊆ t) :
    ∀ o ∈ r.outcomes p, o.Inside t := by
  induction r generalizing p with
  | empty =>
    intro o ho
    rw [List.mem_singleton.1 ho]
    exact inside_nil hp
  | one accepts =>
    intro o ho
    rw [outcomes] at ho
    split at ho
    · cases ho
    · rename_i c cs hrest
      split at ho
      · rw [List.mem_singleton.1 ho]
        rw [hrest] at hp
        exact inside_nil (List.subset_of_cons_subset hp)
      · cases ho
  | anchor a =>
    intro o ho
    rw [outcomes] at ho
    split at ho
    · rw [List.mem_singleton.1 ho]
      exact inside_nil hp
    · cases ho
  | seq r s ihr ihs =>
    refine inside_goOn (fun x hx y hy => ?_) (ihr p hp)
    obtain ⟨z, hz, rfl⟩ := List.mem_map.1 hy
    exact hx.append (ihs x.stop hx.stop z hz)
  | alt r s ihr ihs =>
    refine inside_distinct fun x hx => ?_
    rcases List.mem_append.1 hx with hx | hx
    · obtain ⟨z, hz, rfl⟩ := List.mem_map.1 hx
      exact (ihr p hp z hz).append (inside_absent s (ihr p hp z hz).stop)
    · obtain ⟨z, hz, rfl⟩ := List.mem_map.1 hx
      exact (inside_absent r hp).append (ihs p hp z hz)
  | many accepts least greedy =>
    intro o ho
    obtain ⟨q, hq, rfl⟩ := List.mem_map.1 ho
    have hrun : q ∈ run accepts p.pos p.last p.rest := by
      refine List.mem_of_mem_drop (i := least) ?_
      split at hq
      · exact List.mem_reverse.1 hq
      · exact hq
    exact inside_nil (List.Subset.trans (run_subset hrun) hp)
  | copies r least more greedy ih =>
    have hstarts : ∀ x ∈ exactly r.outcomes least [⟨r.absent, p⟩], x.Inside t := by
      refine inside_exactly ih least fun x hx => ?_
      rw [List.mem_singleton.1 hx]
      exact inside_absent r hp
    cases more with
    | some n =>
      rw [outcomes]
      exact inside_goOn (fun x hx => inside_atMost ih greedy n hx) hstarts
    | none =>
      rw [outcomes]
      refine inside_distinct (inside_anyNumber ih greedy _ _ _ fun task htask => ?_)
      obtain ⟨x, hx, htask⟩ := List.mem_flatMap.1 htask
      exact inside_behind (hstarts x hx) task htask
  | group r ih =>
    intro o ho
    obtain ⟨x, hx, rfl⟩ := List.mem_map.1 ho
    refine ⟨(ih p hp x hx).stop, fun s hs => ?_⟩
    rcases List.mem_cons.1 hs with hs | hs
    · obtain rfl := Option.some_inj.1 hs
      exact hp
    · exact (ih p hp x hx).captures s hs

/-- **What is captured from a text is a part of it.** -/
theorem fullMatch?_subset {r : Regex} {captures : List (Option Text)}
    (h : r.fullMatch? t = some captures) : ∀ u, some u ∈ captures → u ⊆ t := by
  intro u hu
  obtain ⟨o, ho, rfl⟩ := Option.map_eq_some_iff.1 h
  have hinside := inside_outcomes r (.begin t) (List.Subset.refl _) o (List.mem_of_find?_eq_some ho)
  obtain ⟨c, hc, he⟩ := List.mem_map.1 hu
  obtain ⟨s, rfl, rfl⟩ := Option.map_eq_some_iff.1 he
  exact List.Subset.trans (List.take_subset _ _) (hinside.captures s hc)

end Regex

end Repartee

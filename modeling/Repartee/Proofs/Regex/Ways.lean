import Mathlib.Data.List.Basic
import Repartee.Proofs.Regex.Places

/-!
# All ways to match

Of the outcomes with the same end an expression keeps the preferred one. Here are all ways in which
an expression without copies can match, in the order of preference.

* `Regex.ways`: all outcomes at a place, the preferred ones first.
* `Regex.fresh_flatMap`: going on from the outcomes that are kept gives no other ends.
* **`Regex.outcomes_eq`**: the outcomes are the first ways to their ends.
* **`Regex.fullMatch?_eq`**: a whole text is matched in the first way that reaches its end.
* `Regex.ways_concat`: the ways of expressions one after another.
-/

namespace Repartee

namespace Regex

/-- Going on from an outcome. -/
def Outcome.andThen (o q : Outcome) : Outcome := ⟨o.captures ++ q.captures, q.stop⟩

/-- All outcomes of an expression without copies, the preferred ones first. -/
def ways : Regex → Place → List Outcome
  | empty, p => [⟨[], p⟩]
  | one accepts, p =>
    match p.rest with
    | [] => []
    | c :: cs => if accepts c then [⟨[], ⟨p.pos + 1, some c, cs⟩⟩] else []
  | anchor a, p => if p.satisfies a then [⟨[], p⟩] else []
  | many accepts least greedy, p =>
    let stops := (run accepts p.pos p.last p.rest).drop least
    (if greedy then stops.reverse else stops).map fun q => ⟨[], q⟩
  | seq r s, p => (r.ways p).flatMap fun o => (s.ways o.stop).map o.andThen
  | alt r s, p =>
    ((r.ways p).map fun o => ⟨o.captures ++ s.absent, o.stop⟩) ++
      (s.ways p).map fun o => ⟨r.absent ++ o.captures, o.stop⟩
  | copies _ _ _ _, _ => []
  | group r, p => (r.ways p).map fun o => ⟨some ⟨p, o.stop⟩ :: o.captures, o.stop⟩

variable {r s : Regex} {p : Place} {marks seen : Marks} {os : List Outcome} {o : Outcome}

/-! ## One outcome for each end -/

theorem fresh_cons_of_marked (h : marks.testBit o.stop.pos) (os : List Outcome) :
    fresh marks (o :: os) = fresh marks os := by
  rw [fresh, if_pos h]

theorem fresh_cons_of_not_marked (h : ¬marks.testBit o.stop.pos) (os : List Outcome) :
    fresh marks (o :: os) = (o :: (fresh (marks ||| 1 <<< o.stop.pos) os).1,
      (fresh (marks ||| 1 <<< o.stop.pos) os).2) := by
  rw [fresh, if_neg h]

theorem fresh_append : ∀ (marks : Marks) (os us : List Outcome), fresh marks (os ++ us) =
    ((fresh marks os).1 ++ (fresh (fresh marks os).2 us).1, (fresh (fresh marks os).2 us).2)
  | _, [], _ => rfl
  | marks, o :: os, us => by
    rw [List.cons_append]
    by_cases h : marks.testBit o.stop.pos
    · rw [fresh_cons_of_marked h, fresh_cons_of_marked h, fresh_append marks os us]
    · rw [fresh_cons_of_not_marked h, fresh_cons_of_not_marked h, fresh_append _ os us]
      rfl

theorem goOn_eq (next : Outcome → List Outcome) : ∀ (marks : Marks) (os : List Outcome),
    goOn next marks os = (fresh marks (os.flatMap next)).1
  | _, [] => rfl
  | marks, o :: os => by
    rw [List.flatMap_cons, fresh_append]
    exact congrArg ((fresh marks (next o)).1 ++ ·) (goOn_eq next _ os)

theorem fresh_map {f : Outcome → Outcome} (hf : ∀ o, (f o).stop = o.stop) :
    ∀ (marks : Marks) (os : List Outcome),
      fresh marks (os.map f) = ((fresh marks os).1.map f, (fresh marks os).2)
  | _, [] => rfl
  | marks, o :: os => by
    rw [List.map_cons]
    by_cases h : marks.testBit o.stop.pos
    · rw [fresh_cons_of_marked h, fresh_cons_of_marked (by rwa [hf]), fresh_map hf marks os]
    · rw [fresh_cons_of_not_marked h, fresh_cons_of_not_marked (by rwa [hf]), hf,
        fresh_map hf _ os]
      rfl

theorem testBit_mark {i j : Nat} : (marks ||| 1 <<< i).testBit j ↔ marks.testBit j ∨ i = j := by
  rw [Nat.testBit_or, Nat.one_shiftLeft, Nat.testBit_two_pow, Bool.or_eq_true, decide_eq_true_iff]

/-- Outcomes that were told apart already are not told apart again. -/
theorem fresh_fresh : ∀ {marks seen : Marks} {os : List Outcome},
    (∀ i, seen.testBit i → marks.testBit i) → fresh marks (fresh seen os).1 = fresh marks os
  | _, _, [], _ => rfl
  | marks, seen, o :: os, h => by
    have hmark : ∀ i, (seen ||| 1 <<< o.stop.pos).testBit i →
        (marks ||| 1 <<< o.stop.pos).testBit i :=
      fun i hi => testBit_mark.2 ((testBit_mark.1 hi).imp_left (h i))
    by_cases hs : seen.testBit o.stop.pos
    · rw [fresh_cons_of_marked hs, fresh_fresh h, fresh_cons_of_marked (h _ hs)]
    · rw [fresh_cons_of_not_marked hs]
      by_cases hm : marks.testBit o.stop.pos
      · have hsub : ∀ i, (seen ||| 1 <<< o.stop.pos).testBit i → marks.testBit i := fun i hi =>
          (testBit_mark.1 hi).elim (h i) fun hi => hi ▸ hm
        rw [fresh_cons_of_marked hm, fresh_fresh hsub, fresh_cons_of_marked hm]
      · rw [fresh_cons_of_not_marked hm, fresh_fresh hmark, fresh_cons_of_not_marked hm]

/-- Nothing is kept where all ends are marked. -/
theorem fresh_of_marked : ∀ {os : List Outcome}, (∀ o ∈ os, marks.testBit o.stop.pos) →
    fresh marks os = ([], marks)
  | [], _ => rfl
  | o :: os, h => by
    rw [List.forall_mem_cons] at h
    rw [fresh_cons_of_marked h.1, fresh_of_marked h.2]

/-- Outcomes with different ends are all kept. -/
theorem fresh_eq_self : ∀ {marks : Marks} {os : List Outcome},
    (∀ o ∈ os, ¬marks.testBit o.stop.pos) → os.Pairwise (fun o q => o.stop.pos ≠ q.stop.pos) →
      (fresh marks os).1 = os
  | _, [], _, _ => rfl
  | marks, o :: os, h, hp => by
    rw [List.forall_mem_cons] at h
    rw [List.pairwise_cons] at hp
    have hos : ∀ q ∈ os, ¬(marks ||| 1 <<< o.stop.pos).testBit q.stop.pos := fun q hq hm =>
      (testBit_mark.1 hm).elim (h.2 q hq) (hp.1 q hq)
    rw [fresh_cons_of_not_marked h.1]
    exact congrArg (o :: ·) (fresh_eq_self hos hp.2)

theorem distinct_eq_self (h : os.Pairwise fun o q => o.stop.pos ≠ q.stop.pos) : distinct os = os :=
  fresh_eq_self (fun _ _ => by simp) h

/-- **Going on from the outcomes that are kept gives no other ends** than going on from all, if what
follows depends on the end only. -/
theorem fresh_flatMap {next next' : Outcome → List Outcome} :
    ∀ {marks seen : Marks} {os : List Outcome},
      (∀ o ∈ os, ∀ m, fresh m (next' o) = fresh m (next o)) →
      (∀ o ∈ os, ∀ q ∈ os, o.stop.pos = q.stop.pos →
        ∀ y ∈ next q, ∃ x ∈ next o, x.stop.pos = y.stop.pos) →
      (∀ o ∈ os, seen.testBit o.stop.pos → ∀ y ∈ next o, marks.testBit y.stop.pos) →
      fresh marks ((fresh seen os).1.flatMap next') = fresh marks (os.flatMap next)
  | _, _, [], _, _, _ => rfl
  | marks, seen, o :: os, hsame, hends, hseen => by
    have hsame' := fun q hq => hsame q (List.mem_cons_of_mem o hq)
    have hends' := fun a ha b hb =>
      hends a (List.mem_cons_of_mem o ha) b (List.mem_cons_of_mem o hb)
    have hseen' := fun q hq => hseen q (List.mem_cons_of_mem o hq)
    by_cases ho : seen.testBit o.stop.pos
    · rw [fresh_cons_of_marked ho, fresh_flatMap hsame' hends' hseen', List.flatMap_cons,
        fresh_append, fresh_of_marked (hseen o List.mem_cons_self ho), List.nil_append]
    · have hmarks : ∀ q ∈ os, (seen ||| 1 <<< o.stop.pos).testBit q.stop.pos →
          ∀ y ∈ next q, (fresh marks (next o)).2.testBit y.stop.pos := by
        intro q hq hm y hy
        rw [testBit_fresh, Bool.or_eq_true, List.any_eq_true]
        rcases testBit_mark.1 hm with hm | he
        · exact .inl (hseen' q hq hm y hy)
        · obtain ⟨x, hx, he⟩ :=
            hends o List.mem_cons_self q (List.mem_cons_of_mem o hq) he y hy
          exact .inr ⟨x, hx, beq_iff_eq.2 he⟩
      rw [fresh_cons_of_not_marked ho, List.flatMap_cons, List.flatMap_cons, fresh_append,
        fresh_append, hsame o List.mem_cons_self, fresh_flatMap hsame' hends' hmarks]

/-- A search that depends on the end only finds the same among the outcomes that are kept. -/
theorem find?_fresh {found : Outcome → Bool} : ∀ {marks : Marks} {os : List Outcome},
    (∀ o ∈ os, found o → ¬marks.testBit o.stop.pos) →
    (∀ o ∈ os, ∀ q ∈ os, o.stop.pos = q.stop.pos → found o = found q) →
      (fresh marks os).1.find? found = os.find? found
  | _, [], _, _ => rfl
  | marks, o :: os, hmarks, hends => by
    have hends' := fun a ha b hb =>
      hends a (List.mem_cons_of_mem o ha) b (List.mem_cons_of_mem o hb)
    rw [List.forall_mem_cons] at hmarks
    by_cases ho : marks.testBit o.stop.pos
    · rw [fresh_cons_of_marked ho, find?_fresh hmarks.2 hends', List.find?_cons_of_neg]
      exact fun hf => hmarks.1 hf ho
    · rw [fresh_cons_of_not_marked ho]
      by_cases hf : found o
      · rw [List.find?_cons_of_pos hf, List.find?_cons_of_pos hf]
      · have hos : ∀ q ∈ os, found q → ¬(marks ||| 1 <<< o.stop.pos).testBit q.stop.pos := by
          intro q hq hfq hm
          rcases testBit_mark.1 hm with hm | he
          · exact hmarks.2 q hq hfq hm
          · exact hf (by rwa [hends o List.mem_cons_self q (List.mem_cons_of_mem o hq) he])
        rw [List.find?_cons_of_neg hf, List.find?_cons_of_neg hf, find?_fresh hos hends']

/-! ## Ways of the single expressions -/

theorem mem_ways_one {accepts : Char → Bool} : o ∈ (one accepts).ways p ↔
    ∃ c q, accepts c ∧ p.Reads [c] q ∧ o = ⟨[], q⟩ := by
  simp only [ways, Place.reads_singleton]
  cases p.rest with
  | nil => simp
  | cons d cs => by_cases hd : accepts d <;> simp [hd]

theorem mem_ways_anchor {a : Anchor} : o ∈ (anchor a).ways p ↔ p.satisfies a ∧ o = ⟨[], p⟩ := by
  rw [ways]
  by_cases h : p.satisfies a <;> simp [h]

theorem mem_ways_many {accepts : Char → Bool} {least : Nat} {greedy : Bool} :
    o ∈ (many accepts least greedy).ways p ↔
      ∃ q, p.Runs accepts least q ∧ o = ⟨[], q⟩ := by
  have hrun (q : Place) := mem_drop_run accepts q least p.pos p.last p.rest
  simp only [ways, List.mem_map, eq_comm (a := o)]
  refine exists_congr fun q => and_congr_left fun _ => ?_
  rw [← hrun]
  cases greedy
  · exact Iff.rfl
  · exact List.mem_reverse

/-! ## Outcomes -/

theorem pos_le_of_mem_run {accepts : Char → Bool} {q : Place} : ∀ {t : Text} {pos : Nat}
    {last : Option Char}, q ∈ run accepts pos last t → pos ≤ q.pos
  | [], pos, last, h => by
    obtain rfl := List.mem_singleton.1 h
    exact Nat.le_refl pos
  | c :: cs, pos, last, h => by
    rw [run] at h
    rcases List.mem_cons.1 h with rfl | h
    · exact Nat.le_refl pos
    · split at h
      · exact Nat.le_of_succ_le (pos_le_of_mem_run h)
      · cases h

/-- A run goes forward. -/
theorem pairwise_run {accepts : Char → Bool} : ∀ {t : Text} {pos : Nat} {last : Option Char},
    (run accepts pos last t).Pairwise fun p q => p.pos < q.pos
  | [], _, _ => List.pairwise_singleton _ _
  | c :: cs, pos, last => by
    rw [run]
    split
    · exact List.pairwise_cons.2 ⟨fun q hq => pos_le_of_mem_run hq, pairwise_run⟩
    · exact List.pairwise_singleton _ _

theorem follows_ways (r : Regex) (p : Place) : ∀ o ∈ r.ways p, p.Follows o.stop := by
  induction r generalizing p with
  | empty =>
    intro o ho
    rw [List.mem_singleton.1 ho]
    exact .refl
  | one accepts =>
    intro o ho
    obtain ⟨c, q, -, hq, rfl⟩ := mem_ways_one.1 ho
    exact ⟨[c], hq⟩
  | anchor a =>
    intro o ho
    obtain ⟨-, rfl⟩ := mem_ways_anchor.1 ho
    exact .refl
  | many accepts least greedy =>
    intro o ho
    obtain ⟨q, ⟨t, ht, -⟩, rfl⟩ := mem_ways_many.1 ho
    exact ⟨t, ht⟩
  | seq r s ihr ihs =>
    intro o ho
    obtain ⟨x, hx, ho⟩ := List.mem_flatMap.1 ho
    obtain ⟨y, hy, rfl⟩ := List.mem_map.1 ho
    exact (ihr p x hx).trans (ihs x.stop y hy)
  | alt r s ihr ihs =>
    intro o ho
    rcases List.mem_append.1 ho with ho | ho
    · obtain ⟨x, hx, rfl⟩ := List.mem_map.1 ho
      exact ihr p x hx
    · obtain ⟨x, hx, rfl⟩ := List.mem_map.1 ho
      exact ihs p x hx
  | copies _ _ _ _ _ => exact fun o ho => absurd ho List.not_mem_nil
  | group r ih =>
    intro o ho
    obtain ⟨x, hx, rfl⟩ := List.mem_map.1 ho
    exact ih p x hx

theorem stop_eq_of_mem_ways {q : Outcome} (ho : o ∈ r.ways p) (hq : q ∈ r.ways p)
    (h : o.stop.pos = q.stop.pos) : o.stop = q.stop :=
  (follows_ways r p o ho).unique (follows_ways r p q hq) h

theorem fresh_distinct (marks : Marks) (os : List Outcome) :
    fresh marks (distinct os) = fresh marks os :=
  fresh_fresh fun i hi => by simp at hi

/-- **The outcomes of an expression without copies are the first ways to their ends.** -/
theorem outcomes_eq (hr : r.plain) (p : Place) : r.outcomes p = distinct (r.ways p) := by
  induction r generalizing p with
  | empty => exact (distinct_eq_self (List.pairwise_singleton _ _)).symm
  | one accepts =>
    simp only [outcomes, ways]
    cases p.rest with
    | nil => rfl
    | cons c cs =>
      by_cases hc : accepts c
      · simpa only [hc, if_true] using (distinct_eq_self (List.pairwise_singleton _ _)).symm
      · simp only [hc]
        rfl
  | anchor a =>
    rw [outcomes, ways]
    split
    · exact (distinct_eq_self (List.pairwise_singleton _ _)).symm
    · rfl
  | many accepts least greedy =>
    have hstops : ((run accepts p.pos p.last p.rest).drop least).Pairwise
        fun p q => p.pos < q.pos := pairwise_run.drop
    refine (distinct_eq_self (List.pairwise_map.2 ?_)).symm
    cases greedy with
    | true => exact List.pairwise_reverse.2 (hstops.imp fun h => (Nat.ne_of_lt h).symm)
    | false => exact hstops.imp Nat.ne_of_lt
  | seq r s ihr ihs =>
    obtain ⟨hr, hs⟩ := Bool.and_eq_true_iff.1 hr
    rw [outcomes, goOn_eq, ihr hr]
    refine congrArg Prod.fst (fresh_flatMap (fun o _ m => ?_) (fun o ho q hq h y hy => ?_)
      fun o _ hm => by simp at hm)
    · -- what goes on from an outcome may be told apart before or after
      have hmap := fresh_map (f := o.andThen) (fun _ => rfl) m
      rw [ihs hs, show (fun q : Outcome => (⟨o.captures ++ q.captures, q.stop⟩ : Outcome)) =
        o.andThen from rfl, hmap, hmap, fresh_distinct]
    · obtain ⟨z, hz, rfl⟩ := List.mem_map.1 hy
      rw [← stop_eq_of_mem_ways ho hq h] at hz
      exact ⟨o.andThen z, List.mem_map_of_mem hz, rfl⟩
  | alt r s ihr ihs =>
    obtain ⟨hr, hs⟩ := Bool.and_eq_true_iff.1 hr
    have hleft := fresh_map (f := fun o => ⟨o.captures ++ s.absent, o.stop⟩) fun _ => rfl
    have hright := fresh_map (f := fun o => ⟨r.absent ++ o.captures, o.stop⟩) fun _ => rfl
    rw [outcomes, ihr hr, ihs hs, ways]
    refine congrArg Prod.fst ?_
    rw [fresh_append, fresh_append, hleft, hleft, hright, hright, fresh_distinct, fresh_distinct]
  | copies _ _ _ _ => simp [plain] at hr
  | group r ih =>
    have hmap := fresh_map (f := fun o => ⟨some ⟨p, o.stop⟩ :: o.captures, o.stop⟩) fun _ => rfl
    rw [outcomes, ih hr, ways]
    exact congrArg Prod.fst (hmap 0 (r.ways p)).symm

/-- The ways end at the places the expression reaches. -/
theorem mem_stops_ways (hr : r.plain) (p q : Place) :
    q ∈ (r.ways p).map Outcome.stop ↔ r.Reaches p q := by
  rw [← mem_stops_outcomes hr, outcomes_eq hr, mem_stops_distinct (follows_ways r p)]

/-- **A whole text is matched in the first way that reaches its end.** -/
theorem fullMatch?_eq (hr : r.plain) (t : Text) : r.fullMatch? t =
    ((r.ways (.begin t)).find? fun o => o.stop.rest.isEmpty).map fun o =>
      o.captures.map fun c => c.map Span.text := by
  rw [fullMatch?, outcomes_eq hr, distinct, find?_fresh]
  · exact fun o _ _ => by simp
  · exact fun o ho q hq h => by rw [stop_eq_of_mem_ways ho hq h]

/-! ## Captures -/

theorem length_captures (hr : r.plain) (p : Place) :
    ∀ o ∈ r.ways p, o.captures.length = r.groups := by
  induction r generalizing p with
  | empty => simp [ways, groups]
  | one accepts =>
    intro o ho
    obtain ⟨_, _, -, -, rfl⟩ := mem_ways_one.1 ho
    rfl
  | anchor a =>
    intro o ho
    obtain ⟨-, rfl⟩ := mem_ways_anchor.1 ho
    rfl
  | many accepts least greedy =>
    intro o ho
    obtain ⟨_, -, rfl⟩ := mem_ways_many.1 ho
    rfl
  | seq r s ihr ihs =>
    obtain ⟨hr, hs⟩ := Bool.and_eq_true_iff.1 hr
    intro o ho
    obtain ⟨x, hx, ho⟩ := List.mem_flatMap.1 ho
    obtain ⟨y, hy, rfl⟩ := List.mem_map.1 ho
    rw [Outcome.andThen, List.length_append, ihr hr p x hx, ihs hs x.stop y hy, groups]
  | alt r s ihr ihs =>
    obtain ⟨hr, hs⟩ := Bool.and_eq_true_iff.1 hr
    intro o ho
    rcases List.mem_append.1 ho with ho | ho
    · obtain ⟨x, hx, rfl⟩ := List.mem_map.1 ho
      rw [List.length_append, ihr hr p x hx, absent, List.length_replicate, groups]
    · obtain ⟨x, hx, rfl⟩ := List.mem_map.1 ho
      rw [List.length_append, ihs hs p x hx, absent, List.length_replicate, groups]
  | copies _ _ _ _ => simp [plain] at hr
  | group r ih =>
    intro o ho
    obtain ⟨x, hx, rfl⟩ := List.mem_map.1 ho
    rw [List.length_cons, ih hr p x hx, groups]

/-- A match captures as much as there are groups. -/
theorem length_of_fullMatch? (hr : r.plain) {t : Text} {captures : List (Option Text)}
    (h : r.fullMatch? t = some captures) : captures.length = r.groups := by
  rw [fullMatch?_eq hr] at h
  obtain ⟨o, ho, rfl⟩ := Option.map_eq_some_iff.1 h
  rw [List.length_map, length_captures hr _ o (List.mem_of_find?_eq_some ho)]

/-! ## Expressions one after another -/

/-- The ways of expressions one after another. -/
def waysAll : List Regex → Place → List Outcome
  | [], p => [⟨[], p⟩]
  | r :: rs, p => (r.ways p).flatMap fun o => (waysAll rs o.stop).map o.andThen

theorem ways_foldl : ∀ (rs : List Regex) (r : Regex) (p : Place), (rs.foldl seq r).ways p =
    (r.ways p).flatMap fun o => (waysAll rs o.stop).map o.andThen
  | [], r, p => by simp [waysAll, Outcome.andThen]
  | s :: rs, r, p => by
    rw [List.foldl_cons, ways_foldl rs (seq r s) p, ways, List.flatMap_assoc]
    refine List.flatMap_congr fun o _ => ?_
    rw [waysAll, List.map_flatMap, List.flatMap_map]
    refine List.flatMap_congr fun q _ => ?_
    rw [List.map_map]
    refine List.map_congr_left fun x _ => ?_
    simp [Outcome.andThen]

theorem ways_concat (rs : List Regex) (p : Place) : (concat rs).ways p = waysAll rs p := by
  rw [concat, ways_foldl, ways, List.flatMap_singleton]
  exact List.map_id' _

end Regex

end Repartee

import Repartee.Regex.Basic

/-!
# Where an expression ends

The outcomes of an expression at a place are computed with one outcome for each end. Here the ends
are described as a relation between places.

* `Regex.Place.Reads`: reading a text leads from one place to another.
* `Regex.Reaches`: an expression without copies may end at a place.
* `Regex.Finishes`: expressions one after another lead to the end of the text.
* **`Regex.mem_stops_outcomes`**: the ends of the outcomes are the places the expression reaches.
* **`Regex.fullMatch?_isSome`**: a whole text matches if the expression reaches its end.
* `Regex.fullMatch?_anything`: a group around any characters of one line captures the whole text.
-/

namespace Repartee

namespace Regex

/-! ## Reading -/

/-- Reading a text leads from one place to another. -/
structure Place.Reads (p : Place) (t : Text) (q : Place) : Prop where
  rest : p.rest = t ++ q.rest
  pos : q.pos = p.pos + t.length
  last : q.last = t.getLast?.or p.last

/-- Some text leads from one place to another. -/
def Place.Follows (p q : Place) : Prop := ∃ t, p.Reads t q

namespace Place

variable {p q r : Place} {t u : Text}

theorem reads_nil : p.Reads [] q ↔ q = p := by
  constructor
  · rintro ⟨h₁, h₂, h₃⟩
    obtain ⟨pos, last, rest⟩ := q
    obtain rfl : p.rest = rest := by simpa using h₁
    obtain rfl : pos = p.pos := by simpa using h₂
    obtain rfl : last = p.last := by simpa using h₃
    rfl
  · rintro rfl
    exact ⟨rfl, rfl, by simp⟩

theorem reads_singleton {c : Char} :
    p.Reads [c] q ↔ ∃ cs, p.rest = c :: cs ∧ q = ⟨p.pos + 1, some c, cs⟩ := by
  constructor
  · rintro ⟨h₁, h₂, h₃⟩
    refine ⟨q.rest, h₁, ?_⟩
    obtain ⟨pos, last, rest⟩ := q
    simp_all
  · rintro ⟨cs, h, rfl⟩
    exact ⟨h, rfl, by simp⟩

theorem Reads.append (h : p.Reads t q) (h' : q.Reads u r) : p.Reads (t ++ u) r where
  rest := by rw [h.rest, h'.rest, List.append_assoc]
  pos := by rw [h'.pos, h.pos, List.length_append, Nat.add_assoc]
  last := by rw [h'.last, h.last, List.getLast?_append, Option.or_assoc]

theorem reads_append : p.Reads (t ++ u) r ↔ ∃ q, p.Reads t q ∧ q.Reads u r := by
  constructor
  · intro h
    refine ⟨⟨p.pos + t.length, t.getLast?.or p.last, u ++ r.rest⟩, ⟨?_, rfl, rfl⟩, ⟨rfl, ?_, ?_⟩⟩
    · rw [h.rest, List.append_assoc]
    · rw [h.pos, List.length_append, Nat.add_assoc]
    · rw [h.last, List.getLast?_append, Option.or_assoc]
  · rintro ⟨q, h, h'⟩
    exact h.append h'

theorem reads_cons {c : Char} :
    p.Reads (c :: t) q ↔
      ∃ cs, p.rest = c :: cs ∧ (⟨p.pos + 1, some c, cs⟩ : Place).Reads t q := by
  rw [← List.singleton_append, reads_append]
  constructor
  · rintro ⟨m, h, h'⟩
    obtain ⟨cs, hc, rfl⟩ := reads_singleton.1 h
    exact ⟨cs, hc, h'⟩
  · rintro ⟨cs, hc, h⟩
    exact ⟨_, reads_singleton.2 ⟨cs, hc, rfl⟩, h⟩

/-- Places behind one place are told apart by their positions. -/
theorem Reads.unique (h : p.Reads t q) (h' : p.Reads u r) (hp : q.pos = r.pos) : q = r := by
  have hl : t.length = u.length := by have := h.pos; have := h'.pos; omega
  obtain ⟨rfl, hr⟩ := List.append_inj (h.rest.symm.trans h'.rest) hl
  obtain ⟨pos, last, rest⟩ := q
  obtain ⟨pos', last', rest'⟩ := r
  obtain rfl : last = last' := h.last.trans h'.last.symm
  simp_all

theorem Follows.refl : p.Follows p := ⟨[], reads_nil.2 rfl⟩

theorem Follows.trans (h : p.Follows q) (h' : q.Follows r) : p.Follows r := by
  obtain ⟨t, ht⟩ := h
  obtain ⟨u, hu⟩ := h'
  exact ⟨t ++ u, ht.append hu⟩

theorem Follows.unique (h : p.Follows q) (h' : p.Follows r) (hp : q.pos = r.pos) : q = r := by
  obtain ⟨t, ht⟩ := h
  obtain ⟨u, hu⟩ := h'
  exact ht.unique hu hp

/-- The whole text is read where nothing is left. -/
theorem reads_begin : (begin t).Reads u q ∧ q.rest = [] ↔
    t = u ∧ q = ⟨t.length, t.getLast?, []⟩ := by
  constructor
  · rintro ⟨⟨h₁, h₂, h₃⟩, h₄⟩
    obtain ⟨pos, last, rest⟩ := q
    simp_all [begin]
  · rintro ⟨rfl, rfl⟩
    exact ⟨⟨by simp [begin], by simp [begin], by simp [begin]⟩, rfl⟩

/-- Accepted characters, at least `n` of them, lead from one place to another. -/
def Runs (accepts : Char → Bool) (n : Nat) (p q : Place) : Prop :=
  ∃ t, p.Reads t q ∧ n ≤ t.length ∧ ∀ c ∈ t, accepts c

variable {accepts : Char → Bool} {n : Nat}

theorem runs_zero : p.Runs accepts 0 q ↔ q = p ∨ p.Runs accepts 1 q := by
  constructor
  · rintro ⟨t, ht, -, ha⟩
    cases t with
    | nil => exact .inl (reads_nil.1 ht)
    | cons c t => exact .inr ⟨c :: t, ht, by simp, ha⟩
  · rintro (rfl | ⟨t, ht, -, ha⟩)
    · exact ⟨[], reads_nil.2 rfl, Nat.le_refl 0, by simp⟩
    · exact ⟨t, ht, Nat.zero_le _, ha⟩

theorem not_runs_nil {pos : Nat} {last : Option Char} :
    ¬(⟨pos, last, []⟩ : Place).Runs accepts (n + 1) q := by
  rintro ⟨t, ht, hn, -⟩
  obtain rfl : t = [] := (List.append_eq_nil_iff.1 ht.rest.symm).1
  exact Nat.not_succ_le_zero n hn

theorem runs_cons {pos : Nat} {last : Option Char} {c : Char} {cs : Text} :
    (⟨pos, last, c :: cs⟩ : Place).Runs accepts (n + 1) q ↔
      accepts c ∧ (⟨pos + 1, some c, cs⟩ : Place).Runs accepts n q := by
  constructor
  · rintro ⟨t, ht, hn, ha⟩
    cases t with
    | nil => exact absurd hn (Nat.not_succ_le_zero n)
    | cons d t =>
      obtain ⟨ds, hrest, ht⟩ := reads_cons.1 ht
      obtain ⟨rfl, rfl⟩ := List.cons.inj hrest
      rw [List.forall_mem_cons] at ha
      exact ⟨ha.1, t, ht, Nat.le_of_succ_le_succ hn, ha.2⟩
  · rintro ⟨hc, t, ht, hn, ha⟩
    exact ⟨c :: t, reads_cons.2 ⟨cs, rfl, ht⟩, Nat.succ_le_succ hn,
      List.forall_mem_cons.2 ⟨hc, ha⟩⟩

end Place

/-! ## The places an expression reaches -/

/-- Nothing in the expression is a number of copies. -/
def plain : Regex → Bool
  | empty | one _ | anchor _ | many _ _ _ => true
  | seq r s | alt r s => r.plain && s.plain
  | copies _ _ _ _ => false
  | group r => r.plain

/-- An expression without copies may lead from one place to another. -/
def Reaches : Regex → Place → Place → Prop
  | empty, p, q => q = p
  | one accepts, p, q => ∃ c, accepts c ∧ p.Reads [c] q
  | anchor a, p, q => p.satisfies a ∧ q = p
  | seq r s, p, q => ∃ m, r.Reaches p m ∧ s.Reaches m q
  | alt r s, p, q => r.Reaches p q ∨ s.Reaches p q
  | many accepts least _, p, q => ∃ t, p.Reads t q ∧ least ≤ t.length ∧ ∀ c ∈ t, accepts c
  | copies _ _ _ _, _, _ => False
  | group r, p, q => r.Reaches p q

theorem Reaches.follows {r : Regex} {p q : Place} (h : r.Reaches p q) : p.Follows q := by
  induction r generalizing p q with
  | empty => exact h ▸ .refl
  | anchor _ => exact h.2 ▸ .refl
  | one _ =>
    obtain ⟨c, _, h⟩ := h
    exact ⟨[c], h⟩
  | seq _ _ ihr ihs =>
    obtain ⟨m, h, h'⟩ := h
    exact (ihr h).trans (ihs h')
  | alt _ _ ihr ihs => exact h.elim ihr ihs
  | many _ _ _ =>
    obtain ⟨t, h, _⟩ := h
    exact ⟨t, h⟩
  | copies _ _ _ _ => exact h.elim
  | group _ ih => exact ih h

/-! ## Expressions one after another -/

section Row

variable {r : Regex} {rs : List Regex} {p q : Place} {t : Text}

/-- Expressions one after another lead to the end of the text. -/
def Finishes : List Regex → Place → Prop
  | [], p => p.rest = []
  | r :: rs, p => ∃ q, r.Reaches p q ∧ Finishes rs q

theorem finishes_foldl : ∀ (rs : List Regex) (r : Regex) (p : Place),
    (∃ q, (rs.foldl seq r).Reaches p q ∧ q.rest = []) ↔ ∃ q, r.Reaches p q ∧ Finishes rs q
  | [], _, _ => Iff.rfl
  | s :: rs, r, p => by
    rw [List.foldl_cons, finishes_foldl rs (seq r s) p]
    constructor
    · rintro ⟨q, ⟨m, hm, hq⟩, hf⟩
      exact ⟨m, hm, q, hq, hf⟩
    · rintro ⟨m, hm, q, hq, hf⟩
      exact ⟨q, ⟨m, hm, hq⟩, hf⟩

theorem finishes_concat : (∃ q, (concat rs).Reaches p q ∧ q.rest = []) ↔ Finishes rs p := by
  rw [concat, finishes_foldl]
  exact exists_eq_left

theorem reaches_char {c : Char} : (char c).Reaches p q ↔ p.Reads [c] q := by
  simp [char, Reaches]

theorem finishes_chars (rs : List Regex) : ∀ {t : Text} {p : Place},
    Finishes (t.map char ++ rs) p ↔ ∃ q, p.Reads t q ∧ Finishes rs q
  | [], p => by simp [Place.reads_nil]
  | c :: t, p => by
    rw [List.map_cons, List.cons_append, Finishes, ← List.singleton_append]
    simp only [reaches_char, finishes_chars rs, Place.reads_append]
    constructor
    · rintro ⟨m, hm, q, hq, hf⟩
      exact ⟨q, ⟨m, hm, hq⟩, hf⟩
    · rintro ⟨q, ⟨m, hm, hq⟩, hf⟩
      exact ⟨m, hm, q, hq, hf⟩

theorem reaches_foldl_chars : ∀ (t : Text) (r : Regex) (p q : Place),
    ((t.map char).foldl seq r).Reaches p q ↔ ∃ m, r.Reaches p m ∧ m.Reads t q
  | [], _, _, _ => by simp [Place.reads_nil]
  | c :: t, r, p, q => by
    rw [List.map_cons, List.foldl_cons, reaches_foldl_chars t, ← List.singleton_append]
    simp only [Reaches, reaches_char, Place.reads_append]
    constructor
    · rintro ⟨m, ⟨k, hk, hm⟩, hq⟩
      exact ⟨k, hk, m, hm, hq⟩
    · rintro ⟨k, hk, m, hm, hq⟩
      exact ⟨m, ⟨k, hk, hm⟩, hq⟩

theorem reaches_literal : (literal t).Reaches p q ↔ p.Reads t q := by
  rw [literal, concat, reaches_foldl_chars]
  exact exists_eq_left

theorem reaches_choice : ∀ {r : Regex} {rs : List Regex},
    (choice r rs).Reaches p q ↔ ∃ s ∈ r :: rs, s.Reaches p q
  | r, [] => by simp [choice]
  | r, s :: rs => by
    rw [choice, Reaches, reaches_choice]
    simp

theorem reaches_oneOf (hrs : rs ≠ []) : (oneOf rs).Reaches p q ↔ ∃ r ∈ rs, r.Reaches p q := by
  obtain ⟨r, rs, rfl⟩ := List.exists_cons_of_ne_nil hrs
  exact reaches_choice

end Row

/-! ## One outcome for each end -/

section Distinct

variable {p : Place} {marks : Marks} {os : List Outcome}

theorem testBit_fresh (i : Nat) :
    ∀ (marks : Marks) (os : List Outcome),
      (fresh marks os).2.testBit i = (marks.testBit i || os.any fun o => o.stop.pos == i)
  | marks, [] => by simp [fresh]
  | marks, o :: os => by
    unfold fresh
    split
    · rename_i h
      rw [testBit_fresh i marks os, List.any_cons]
      by_cases hi : o.stop.pos = i
      · simp [← hi, h]
      · rw [beq_false_of_ne hi, Bool.false_or]
    · rw [testBit_fresh i (marks ||| 1 <<< o.stop.pos) os, List.any_cons, Nat.testBit_or,
        Nat.one_shiftLeft, Nat.testBit_two_pow, Bool.or_assoc]
      rfl

/-- Among outcomes behind one place `fresh` keeps every unmarked end. -/
theorem mem_stops_fresh (q : Place) :
    ∀ (marks : Marks) (os : List Outcome), (∀ o ∈ os, p.Follows o.stop) →
      (q ∈ (fresh marks os).1.map Outcome.stop ↔
        marks.testBit q.pos = false ∧ q ∈ os.map Outcome.stop)
  | marks, [], _ => by simp [fresh]
  | marks, o :: os, h => by
    have ih := fun m => mem_stops_fresh q m os fun x hx => h x (List.mem_cons_of_mem _ hx)
    unfold fresh
    split
    · rename_i ho
      rw [ih marks, List.map_cons, List.mem_cons]
      constructor
      · rintro ⟨hm, hq⟩
        exact ⟨hm, .inr hq⟩
      · rintro ⟨hm, rfl | hq⟩
        · simp [ho] at hm
        · exact ⟨hm, hq⟩
    · rename_i ho
      simp only [List.map_cons, List.mem_cons, ih, Nat.testBit_or, Nat.one_shiftLeft,
        Nat.testBit_two_pow, Bool.or_eq_false_iff, decide_eq_false_iff_not]
      constructor
      · rintro (rfl | ⟨⟨hm, -⟩, hq⟩)
        · exact ⟨by simpa using ho, .inl rfl⟩
        · exact ⟨hm, .inr hq⟩
      · rintro ⟨hm, rfl | hq⟩
        · exact .inl rfl
        · by_cases hp : o.stop.pos = q.pos
          · obtain ⟨x, hx, rfl⟩ := List.mem_map.1 hq
            exact .inl ((h o List.mem_cons_self).unique (h x (List.mem_cons_of_mem _ hx)) hp).symm
          · exact .inr ⟨⟨hm, hp⟩, hq⟩

theorem mem_stops_distinct (h : ∀ o ∈ os, p.Follows o.stop) (q : Place) :
    q ∈ (distinct os).map Outcome.stop ↔ q ∈ os.map Outcome.stop := by
  rw [distinct, mem_stops_fresh q 0 os h]
  simp

/-- Going on from some outcomes ends where going on from one of them ends. -/
theorem mem_stops_goOn {next : Outcome → List Outcome} (q : Place) :
    ∀ (marks : Marks) (os : List Outcome), (∀ o ∈ os, ∀ x ∈ next o, p.Follows x.stop) →
      (q ∈ (goOn next marks os).map Outcome.stop ↔
        marks.testBit q.pos = false ∧ ∃ o ∈ os, q ∈ (next o).map Outcome.stop)
  | marks, [], _ => by simp [goOn]
  | marks, o :: os, h => by
    have ih := mem_stops_goOn q (fresh marks (next o)).2 os
      fun x hx => h x (List.mem_cons_of_mem _ hx)
    have hf := mem_stops_fresh q marks (next o) (h o List.mem_cons_self)
    simp only [goOn, List.map_append, List.mem_append, hf, ih, testBit_fresh, List.mem_cons,
      Bool.or_eq_false_iff]
    constructor
    · rintro (⟨hm, hq⟩ | ⟨⟨hm, -⟩, x, hx, hq⟩)
      · exact ⟨hm, o, .inl rfl, hq⟩
      · exact ⟨hm, x, .inr hx, hq⟩
    · rintro ⟨hm, x, rfl | hx, hq⟩
      · exact .inl ⟨hm, hq⟩
      · -- the end may be taken already by an outcome behind `o`, which then is the same place
        by_cases ho : (next o).any fun y => y.stop.pos == q.pos
        · obtain ⟨y, hy, hp⟩ := List.any_eq_true.1 ho
          obtain ⟨z, hz, rfl⟩ := List.mem_map.1 hq
          have hyz : y.stop = z.stop := (h o List.mem_cons_self y hy).unique
            (h x (List.mem_cons_of_mem _ hx) z hz) (by simpa using hp)
          exact .inl ⟨hm, hyz ▸ List.mem_map_of_mem hy⟩
        · exact .inr ⟨⟨hm, by simpa using ho⟩, x, hx, hq⟩

end Distinct

/-! ## Outcomes -/

/-- A run behind its first `n` places consists of the places that `n` or more accepted characters
lead to. -/
theorem mem_drop_run (accepts : Char → Bool) (q : Place) (n pos : Nat) (last : Option Char)
    (t : Text) :
    q ∈ (run accepts pos last t).drop n ↔ (⟨pos, last, t⟩ : Place).Runs accepts n q := by
  induction t generalizing n pos last with
  | nil =>
    cases n with
    | zero => simp [run, Place.runs_zero, Place.not_runs_nil]
    | succ n => simp [run, Place.not_runs_nil]
  | cons c cs ih =>
    -- what follows the first place is a run one character on
    have htail (n : Nat) :
        q ∈ (if accepts c then run accepts (pos + 1) (some c) cs else []).drop n ↔
          (⟨pos, last, c :: cs⟩ : Place).Runs accepts (n + 1) q := by
      by_cases hc : accepts c <;> simp [Place.runs_cons, hc, ih]
    cases n with
    | zero => rw [run, List.drop_zero, List.mem_cons, Place.runs_zero, ← htail, List.drop_zero]
    | succ n => rw [run, List.drop_succ_cons, htail]

/-- **The outcomes of an expression without copies end at the places it reaches.** -/
theorem mem_stops_outcomes {r : Regex} (hr : r.plain) (p q : Place) :
    q ∈ (r.outcomes p).map Outcome.stop ↔ r.Reaches p q := by
  induction r generalizing p q with
  | empty => simp [outcomes, Reaches]
  | one accepts =>
    simp only [outcomes, Reaches, Place.reads_singleton]
    cases p.rest with
    | nil => simp
    | cons c cs =>
      simp only [List.cons.injEq]
      constructor
      · intro h
        split at h
        · rename_i hc
          exact ⟨c, hc, cs, ⟨rfl, rfl⟩, by simpa using h⟩
        · cases h
      · rintro ⟨d, hd, ds, ⟨rfl, rfl⟩, rfl⟩
        simp [hd]
  | anchor a => by_cases h : p.satisfies a <;> simp [outcomes, Reaches, h]
  | many accepts least greedy =>
    refine Iff.trans ?_ (mem_drop_run accepts q least p.pos p.last p.rest)
    simp only [outcomes, List.map_map, Function.comp_def, List.map_id']
    cases greedy <;> simp
  | seq r s ihr ihs =>
    obtain ⟨hr, hs⟩ := Bool.and_eq_true_iff.1 hr
    rw [outcomes, mem_stops_goOn (p := p) q 0]
    · simp only [Nat.zero_testBit, true_and, List.map_map, Function.comp_def, Reaches, ← ihr hr,
        ← ihs hs, List.mem_map]
      constructor
      · rintro ⟨o, ho, x, hx, rfl⟩
        exact ⟨o.stop, ⟨o, ho, rfl⟩, x, hx, rfl⟩
      · rintro ⟨_, ⟨o, ho, rfl⟩, x, hx, rfl⟩
        exact ⟨o, ho, x, hx, rfl⟩
    · intro o ho x hx
      obtain ⟨y, hy, rfl⟩ := List.mem_map.1 hx
      exact ((ihr hr p o.stop).1 (List.mem_map_of_mem ho)).follows.trans
        ((ihs hs o.stop y.stop).1 (List.mem_map_of_mem hy)).follows
  | alt r s ihr ihs =>
    obtain ⟨hr, hs⟩ := Bool.and_eq_true_iff.1 hr
    rw [outcomes, mem_stops_distinct (p := p)]
    · simp only [List.map_append, List.map_map, Function.comp_def, List.mem_append, Reaches,
        ← ihr hr, ← ihs hs]
    · intro o ho
      rcases List.mem_append.1 ho with ho | ho
      · obtain ⟨x, hx, rfl⟩ := List.mem_map.1 ho
        exact ((ihr hr p x.stop).1 (List.mem_map_of_mem hx)).follows
      · obtain ⟨x, hx, rfl⟩ := List.mem_map.1 ho
        exact ((ihs hs p x.stop).1 (List.mem_map_of_mem hx)).follows
  | copies _ _ _ _ => simp [plain] at hr
  | group r ih => simpa only [outcomes, Reaches, List.map_map, Function.comp_def] using ih hr p q

/-- **A whole text matches if the expression reaches its end.** -/
theorem fullMatch?_isSome {r : Regex} (hr : r.plain) (t : Text) :
    (r.fullMatch? t).isSome ↔ ∃ q, r.Reaches (.begin t) q ∧ q.rest = [] := by
  simp only [fullMatch?, Option.isSome_map, List.find?_isSome, List.isEmpty_iff,
    ← mem_stops_outcomes hr, List.mem_map]
  constructor
  · rintro ⟨o, ho, hq⟩
    exact ⟨o.stop, ⟨o, ho, rfl⟩, hq⟩
  · rintro ⟨_, ⟨o, ho, rfl⟩, hq⟩
    exact ⟨o, ho, hq⟩

/-- A group around any characters of one line captures the whole text. -/
theorem fullMatch?_anything {t : Text} (ht : '\n' ∉ t) :
    (group (.anyLazy isInline)).fullMatch? t = some [some t] := by
  obtain ⟨hread, -⟩ := @Place.reads_begin _ t t |>.2 ⟨rfl, rfl⟩
  have hinline : ∀ c ∈ t, isInline c := fun c hc =>
    bne_iff_ne.2 fun h => ht (h ▸ hc)
  have hsome : ((group (.anyLazy isInline)).fullMatch? t).isSome :=
    (fullMatch?_isSome rfl t).2 ⟨_, ⟨t, hread, Nat.zero_le _, hinline⟩, rfl⟩
  obtain ⟨captures, hcaptures⟩ := Option.isSome_iff_exists.1 hsome
  rw [hcaptures]
  rw [fullMatch?, Option.map_eq_some_iff] at hcaptures
  obtain ⟨o, hfind, rfl⟩ := hcaptures
  have hrest : o.stop.rest = [] := by simpa using List.find?_some hfind
  -- the outcome captures from the start of the text to the place where it ends
  obtain ⟨x, hx, rfl⟩ := List.mem_map.1 (List.mem_of_find?_eq_some hfind)
  obtain ⟨u, hu, -⟩ := (@mem_stops_outcomes (.anyLazy isInline) rfl (.begin t) x.stop).1
    (List.mem_map_of_mem hx)
  obtain ⟨-, hend⟩ := Place.reads_begin.1 ⟨hu, hrest⟩
  obtain ⟨q, -, rfl⟩ := List.mem_map.1 hx
  dsimp only at hend
  simp [hend, Span.text, Place.begin]

end Regex

end Repartee

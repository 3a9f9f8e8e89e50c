import Mathlib.Data.List.Basic
import Repartee.Proofs.Pattern.Legible
import Repartee.Proofs.Pattern.Tidy

/-!
# Nested brackets

* `Pattern.Nested`: every bracket has its partner, and no optional stands in another one.
* **`Pattern.nested_filter`**: only the brackets of a text decide whether it is nested.
* `Pattern.Nested.exists_partner`: behind an opening bracket of a nested text stands its partner,
  with a nested text between them.
* `Pattern.Nested.closeGroup?`, `Pattern.Nested.alternatives`: how nested texts are read.
-/

namespace Repartee

namespace Pattern

/-- A bracket of a group or of an optional. -/
def isBracket (c : Char) : Bool := ['(', ')', '[', ']'].contains c

/-- Every bracket has its partner, and no optional stands in another one. -/
inductive Nested : Text → Prop
  | nil : Nested []
  | char {c : Char} {t : Text} : isBracket c = false → Nested t → Nested (c :: t)
  | brackets {l r : Char} {t u : Text} : Pair l r → Nested t → (l = '[' → '[' ∉ t) → Nested u →
    Nested (l :: (t ++ r :: u))

variable {l r c : Char} {t u v : Text}

theorem isBracket_eq_false : isBracket c = false ↔ c ≠ '(' ∧ c ≠ ')' ∧ c ≠ '[' ∧ c ≠ ']' := by
  simp [isBracket]

theorem Pair.isBracket_left (h : Pair l r) : isBracket l := by
  cases h <;> rfl

theorem Pair.isBracket_right (h : Pair l r) : isBracket r := by
  cases h <;> rfl

/-- No closing bracket opens. -/
theorem Pair.ne {l' r' : Char} (h : Pair l r) (h' : Pair l' r') : r ≠ l' := by
  cases h <;> cases h' <;> decide

namespace Nested

theorem append (ht : Nested t) (hu : Nested u) : Nested (t ++ u) := by
  induction ht with
  | nil => exact hu
  | char hc _ ih => exact .char hc ih
  | @brackets l r t v hp ht hl _ _ ih =>
    rw [List.cons_append, List.append_assoc, List.cons_append]
    exact .brackets hp ht hl ih

theorem of_chars : ∀ {t : Text}, (∀ c ∈ t, isBracket c = false) → Nested t
  | [], _ => .nil
  | c :: _, h =>
    .char (h c List.mem_cons_self) (of_chars fun d hd => h d (List.mem_cons_of_mem c hd))

/-- There are as many opening as closing brackets. -/
theorem count_eq (h : Nested t) (hp : Pair l r) : t.count l = t.count r := by
  induction h with
  | nil => rfl
  | @char c t hc _ ih =>
    have hne {d : Char} (hd : isBracket d) : (c == d) = false := by
      refine beq_false_of_ne fun h => ?_
      rw [← h, hc] at hd
      exact Bool.false_ne_true hd
    rw [List.count_cons, List.count_cons, hne hp.isBracket_left, hne hp.isBracket_right, ih]
  | brackets hp' _ _ _ iht ihu =>
    simp only [List.count_cons, List.count_append, iht, ihu]
    cases hp <;> cases hp' <;> simp <;> omega

/-- A nested text without an opening bracket has no closing one either. -/
theorem notMem_right (h : Nested t) (hp : Pair l r) (hl : l ∉ t) : r ∉ t := by
  rw [← List.count_eq_zero, ← h.count_eq hp, List.count_eq_zero]
  exact hl

/-! ## Only brackets matter -/

theorem filter (h : Nested t) : Nested (t.filter isBracket) := by
  induction h with
  | nil => exact .nil
  | char hc _ ih => rwa [List.filter_cons_of_neg (by simp [hc])]
  | brackets hp _ hl _ iht ihu =>
    rw [List.filter_cons_of_pos hp.isBracket_left, List.filter_append,
      List.filter_cons_of_pos hp.isBracket_right]
    exact .brackets hp iht (fun h hm => hl h (List.mem_filter.1 hm).1) ihu

theorem of_filter (h : Nested (t.filter isBracket)) : Nested t := by
  generalize hs : t.filter isBracket = s at h
  induction h generalizing t with
  | nil => exact of_chars fun c hc => by simpa using List.filter_eq_nil_iff.1 hs c hc
  | char hc _ _ =>
    have hmem := List.mem_filter.1 (hs ▸ List.mem_cons_self)
    rw [hc] at hmem
    exact absurd hmem.2 Bool.false_ne_true
  | @brackets l r u v hp _ hl _ ihu ihv =>
    obtain ⟨before, rest, rfl, hbefore, -, hrest⟩ := List.filter_eq_cons_iff.1 hs
    obtain ⟨inner, rest, rfl, hinner, hrest⟩ := List.filter_eq_append_iff.1 hrest
    obtain ⟨between, after, rfl, hbetween, -, hafter⟩ := List.filter_eq_cons_iff.1 hrest
    have hplain {w : Text} (hw : ∀ a ∈ w, ¬isBracket a = true) : Nested w :=
      of_chars fun c hc => by simpa using hw c hc
    have hmem : l = '[' → '[' ∉ inner ++ between := by
      rintro rfl hm
      rcases List.mem_append.1 hm with hm | hm
      · exact hl rfl (hinner ▸ List.mem_filter.2 ⟨hm, rfl⟩)
      · exact hbetween '[' hm rfl
    have h := (hplain hbefore).append
      (.brackets hp ((ihu hinner).append (hplain hbetween)) hmem (ihv hafter))
    simpa only [List.append_assoc] using h

end Nested

/-- **Only the brackets of a text decide whether it is nested.** -/
theorem nested_filter : Nested (t.filter isBracket) ↔ Nested t := ⟨.of_filter, .filter⟩

theorem isSign_of_isBracket (h : isBracket c) : isSign c := by
  have hall : ∀ d ∈ ['(', ')', '[', ']'], isSign d := List.all_iff_forall_prop.1 (by decide)
  exact hall c (by simpa [isBracket] using h)

theorem nested_tidy : Nested (tidy t) ↔ Nested t := by
  rw [← nested_filter, filter_tidy (fun _ => isSign_of_isBracket), nested_filter]

theorem isBracket_of_isBlank (h : isBlank c) : isBracket c = false := by
  by_contra hc
  rw [isBlank_of_isSign (isSign_of_isBracket (by simpa using hc))] at h
  exact Bool.false_ne_true h

theorem nested_trim : Nested t.trim ↔ Nested t := by
  rw [← nested_filter, Text.filter_trim fun _ => isBracket_of_isBlank, nested_filter]

/-! ## Partners -/

namespace Nested

/-- **Behind an opening bracket of a nested text stands its partner**, with a nested text between
them. -/
theorem exists_partner (h : Nested (t ++ l :: u)) (hp : Pair l r) :
    ∃ inner rest, u = inner ++ r :: rest ∧ Nested inner ∧ (l = '[' → '[' ∉ inner) := by
  generalize hs : t ++ l :: u = s at h
  induction h generalizing t u with
  | nil => exact absurd hs (by simp)
  | char hc _ ih =>
    cases t with
    | nil =>
      obtain ⟨rfl, -⟩ := List.cons.inj hs
      rw [hp.isBracket_left] at hc
      exact absurd hc (by simp)
    | cons _ t => exact ih (List.cons.inj hs).2
  | @brackets l' r' v w hp' hv hl _ ihv ihw =>
    cases t with
    | nil =>
      obtain ⟨rfl, rfl⟩ := List.cons.inj hs
      have hr : r' = r := by cases hp <;> cases hp' <;> rfl
      exact ⟨v, w, by rw [hr], hv, hl⟩
    | cons _ t =>
      rcases List.append_eq_append_iff.1 (List.cons.inj hs).2 with ⟨x, hx, hy⟩ | ⟨x, hx, hy⟩
      · -- the bracket stands in the first pair of brackets
        cases x with
        | nil => exact absurd (List.cons.inj hy).1.symm (hp'.ne hp)
        | cons _ x =>
          obtain ⟨rfl, rfl⟩ := List.cons.inj hy
          obtain ⟨inner, rest, rfl, hi, hno⟩ := ihv hx.symm
          exact ⟨inner, rest ++ r' :: w, List.append_assoc inner (r :: rest) _, hi, hno⟩
      · -- it stands behind that pair
        cases x with
        | nil => exact absurd (List.cons.inj hy).1 (hp'.ne hp)
        | cons _ x => exact ihw (List.cons.inj hy).2.symm

/-! ## Reading -/

/-- The end of a group is looked for behind a nested text in front. -/
theorem closeGroup?_append (h : Nested t) : ∀ (d : Nat) (u : Text),
    Pattern.closeGroup? d (t ++ u) =
      (Pattern.closeGroup? d u).map fun r => (t ++ r.1, r.2) := by
  induction h with
  | nil => simp
  | @char c t hc _ ih =>
    intro d u
    obtain ⟨h₁, h₂, -⟩ := isBracket_eq_false.1 hc
    rw [List.cons_append, closeGroup?_cons ⟨h₁, h₂⟩, ih, Option.map_map]
    rfl
  | @brackets l r t v hp _ _ _ iht ihv =>
    intro d u
    rw [List.cons_append, List.append_assoc, List.cons_append, closeGroup?_brackets hp iht, ihv,
      Option.map_map]
    simp only [Function.comp_def, List.cons_append, List.append_assoc, List.nil_append]

/-- The end of a nested text is found as the end of a group. -/
theorem closeGroup? (h : Nested t) (u : Text) :
    Pattern.closeGroup? 0 (t ++ ')' :: u) = some (t, u) := by
  rw [h.closeGroup?_append, Pattern.closeGroup?]
  simp

/-- In brackets a nested text is not cut. -/
theorem splitAt_append (h : Nested t) : ∀ {d : Int}, 1 ≤ d → ∀ u : Text,
    Pattern.splitAt d (t ++ u) = beforeFirst t (Pattern.splitAt d u) := by
  induction h with
  | nil =>
    have hnil (d : Int) : Legible d [] := .nil
    exact fun {d} _ => (hnil d).whole d (Int.le_refl d)
  | @char c t hc _ ih =>
    intro d hd u
    have hd₀ : d ≠ 0 := by omega
    rw [List.cons_append, splitAt_cons (by simp [hd₀])]
    simp only [isBracket_eq_false.1 hc, or_self, if_false]
    rw [ih hd, beforeFirst_beforeFirst]
    rfl
  | @brackets l r t v hp _ _ _ iht ihv =>
    intro d hd u
    rw [List.cons_append, List.append_assoc, List.cons_append, splitAt_brackets hp (iht (by omega)),
      ihv hd, beforeFirst_beforeFirst]
    simp

/-- The pieces of a nested text between the pipes outside brackets are nested. -/
theorem splitAt (h : Nested t) : ∀ w ∈ Pattern.splitAt 0 t, Nested w := by
  have hfirst {x : Text} {ws : List Text} (hx : ∀ w, Nested w → Nested (x ++ w))
      (h : ∀ w ∈ ws, Nested w) : ∀ w ∈ beforeFirst x ws, Nested w := by
    cases ws with
    | nil => simpa [beforeFirst] using hx [] .nil
    | cons w ws =>
      rw [List.forall_mem_cons] at h
      exact List.forall_mem_cons.2 ⟨hx w h.1, h.2⟩
  induction h with
  | nil => simpa [Pattern.splitAt] using Nested.nil
  | @char c t hc _ ih =>
    by_cases hbar : c = '|'
    · rw [hbar, splitAt_cons_bar]
      exact List.forall_mem_cons.2 ⟨.nil, ih⟩
    · rw [splitAt_cons (by simp [hbar])]
      simp only [isBracket_eq_false.1 hc, or_self, if_false]
      exact hfirst (fun w hw => .char hc hw) ih
  | @brackets l r t u hp ht hl _ _ ihu =>
    rw [splitAt_brackets hp (ht.splitAt_append (by decide))]
    refine hfirst (fun w hw => ?_) ihu
    rw [List.cons_append, List.append_assoc]
    exact .brackets hp ht hl hw

/-- The alternatives of a nested text are nested. -/
theorem alternatives (h : Nested t) : ∀ w ∈ Pattern.alternatives t, Nested w := by
  intro w hw
  obtain ⟨v, hv, rfl⟩ := List.mem_map.1 (List.mem_filter.1 hw).1
  exact nested_trim.2 (h.splitAt v hv)

end Nested

end Pattern

end Repartee

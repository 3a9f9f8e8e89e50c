import Repartee.Proofs.Pattern.Matching
import Repartee.Proofs.Pattern.Nested

/-!
# Patterns without open brackets

* `Pattern.isClosed`: no bracket without its partner among the parts of a part.
* **`Pattern.Nested.allClosed_parse`**: the parts of a nested text are closed.
* **`Pattern.compile_closed`**: closed parts are not refused for an open bracket.
-/

namespace Repartee

namespace Pattern

mutual

/-- No part of a part is a bracket without its partner. -/
def isClosed : Item → Bool
  | .optional alternatives | .group alternatives => eachClosed alternatives
  | .unclosed _ => false
  | .char _ | .wild _ | .array _ | .reference _ => true

/-- All parts are closed. -/
def allClosed : List Item → Bool
  | [] => true
  | i :: is => isClosed i && allClosed is

/-- All parts of all alternatives are closed. -/
def eachClosed : List (List Item) → Bool
  | [] => true
  | is :: rest => allClosed is && eachClosed rest

end

theorem eachClosed_map {α : Type} {f : α → List Item} : ∀ {as : List α},
    (∀ a ∈ as, allClosed (f a)) → eachClosed (as.map f)
  | [], _ => rfl
  | a :: as, h => by
    rw [List.forall_mem_cons] at h
    rw [List.map_cons, eachClosed, h.1, eachClosed_map h.2]
    rfl

/-! ## Reading -/

/-- What stands behind the front of a nested text is read without an open bracket. -/
theorem allClosed_parseUpTo : ∀ (n : Nat) (before t : Text), Nested (before ++ t) →
    allClosed (parseUpTo n t)
  | 0, _, _, _ => by rw [parseUpTo]; rfl
  | _ + 1, _, [], _ => by rw [parseUpTo]; rfl
  | n + 1, before, c :: cs, h => by
    have hrest (u v : Text) (hcs : c :: cs = u ++ v) : allClosed (parseUpTo n v) := by
      refine allClosed_parseUpTo n (before ++ u) v ?_
      rwa [List.append_assoc, ← hcs]
    have hnext : allClosed (parseUpTo n cs) := hrest [c] cs rfl
    have heach {t : Text} (ht : Nested t) :
        eachClosed ((alternatives t).map (parseUpTo n)) :=
      eachClosed_map fun w hw => allClosed_parseUpTo n [] w (ht.alternatives w hw)
    unfold parseUpTo
    split
    · exact hnext
    · exact hnext
    · exact hnext
    · obtain ⟨inner, rest, rfl, hinner, hno⟩ := h.exists_partner .square
      rw [Text.cut?_append (hinner.notMem_right .square (hno rfl))]
      have htrim := hrest ('[' :: (inner ++ ']' :: rest.takeWhile isBlank)) (Text.trimLeft rest)
        (by rw [Text.trimLeft, List.cons_append, List.append_assoc, List.cons_append,
          List.takeWhile_append_dropWhile])
      exact Bool.and_eq_true_iff.2 ⟨heach hinner, htrim⟩
    · obtain ⟨inner, rest, rfl, hinner, -⟩ := h.exists_partner .round
      rw [hinner.closeGroup?]
      have hbehind := hrest ('(' :: (inner ++ [')'])) rest (by simp)
      exact Bool.and_eq_true_iff.2 ⟨heach hinner, hbehind⟩
    · split
      · exact hnext
      · exact hrest ('@' :: cs.takeWhile isNameChar) (cs.dropWhile isNameChar)
          (by rw [List.cons_append, List.takeWhile_append_dropWhile])
    · split
      · exact hnext
      · rename_i tag rest hcut
        split
        · obtain ⟨rfl, -⟩ := Text.cut?_eq_some hcut
          exact hrest ('<' :: (tag ++ ['>'])) rest (by simp)
        · exact hnext
    · exact hnext

/-- **The parts of a nested text are closed.** -/
theorem Nested.allClosed_parse {t : Text} (h : Nested t) : allClosed (parse t) :=
  allClosed_parseUpTo t.length [] t h

/-! ## Compiling -/

namespace Compile

variable {α β : Type} {x : Compile α} {f : α → Compile β}

/-- A run does not end with an open bracket. -/
def Closed (x : Compile α) : Prop := ∀ n b m, x.run n ≠ (.error (.unclosed b), m)

theorem Closed.pure (a : α) : Closed (Pure.pure a : Compile α) := fun _ _ _ h => by cases h

theorem Closed.throw {e : Fault} (h : ∀ b, e ≠ .unclosed b) : Closed (throw e : Compile α) := by
  intro n b m hrun
  cases hrun
  exact h b rfl

theorem Closed.bind (hx : x.Closed) (hf : ∀ a, (f a).Closed) : (x >>= f).Closed := by
  intro n b m hrun
  rcases h : x.run n with ⟨r, k⟩
  cases r with
  | error e =>
    rw [run_bind_error h] at hrun
    cases hrun
    exact hx n b _ h
  | ok a =>
    rw [run_bind_ok h] at hrun
    exact hf a k b m hrun

theorem Closed.orMissing (hx : x.Closed) : x.orMissing.Closed := by
  intro n b m hrun
  rcases h : x.run n with ⟨e | a, k⟩
  · rw [Compile.orMissing, run_tryCatch, map_eq_pure_bind, run_bind_error h] at hrun
    cases e with
    | unclosed c => exact hx n c k h
    | tooManyOptionals | missingArray | tooNested | tooLarge => cases hrun
  · rw [run_orMissing_ok h] at hrun
    cases hrun

end Compile

variable {s : Scope}

theorem closed_countOptional : countOptional.Closed := by
  intro n b m hrun
  rw [run_countOptional] at hrun
  split at hrun <;> cases hrun

theorem closed_survivors (r : List (List Piece) × Option String) : (survivors r).Closed := by
  obtain ⟨_ | ⟨out, outs⟩, _ | name⟩ := r
  · exact .pure _
  · exact .throw fun _ => by simp
  · exact .pure _
  · exact .pure _

mutual

theorem closed_compileItem : ∀ {i : Item}, isClosed i → ∀ (captured : Bool) (out : List Piece),
    (compileItem s captured out i).Closed
  | .char _, _, _, _ | .wild _, _, _, _ | .reference _, _, _, _ => by
    rw [compileItem]
    exact .pure _
  | .array name, _, _, _ => by
    rw [compileItem]
    split
    · exact .throw fun _ => by simp
    · exact .throw fun _ => by simp
    · exact .pure _
  | .optional alternatives, h, captured, out => by
    have heach : (compileEach s false alternatives).Closed := closed_compileEach h false
    rw [compileItem]
    refine closed_countOptional.bind fun _ => (heach.bind closed_survivors).orMissing.bind ?_
    rintro (_ | _) <;> exact .pure _
  | .group alternatives, h, captured, out => by
    have heach : (compileEach s captured alternatives).Closed := closed_compileEach h captured
    rw [compileItem]
    exact (heach.bind closed_survivors).bind fun _ => .pure _

theorem closed_compileItems : ∀ {is : List Item}, allClosed is →
    ∀ (captured : Bool) (out : List Piece), (compileItems s captured out is).Closed
  | [], _, _, _ => by
    rw [compileItems]
    exact .pure _
  | i :: is, h, captured, out => by
    obtain ⟨hi, his⟩ := Bool.and_eq_true_iff.1 h
    rw [compileItems]
    exact (closed_compileItem hi captured out).bind fun _ => closed_compileItems his captured _

theorem closed_compileEach : ∀ {iss : List (List Item)}, eachClosed iss → ∀ captured : Bool,
    (compileEach s captured iss).Closed
  | [], _, _ => by
    rw [compileEach]
    exact .pure _
  | is :: rest, h, captured => by
    obtain ⟨his, hrest⟩ := Bool.and_eq_true_iff.1 h
    rw [compileEach]
    refine (closed_compileItems his captured []).orMissing.bind fun first =>
      (closed_compileEach hrest captured).bind fun _ => ?_
    cases first <;> exact .pure _

end

/-- **Closed parts are not refused for an open bracket.** -/
theorem compile_closed {is : List Item} (h : allClosed is) (b : Char) :
    compile s is ≠ .error (.unclosed b) := by
  intro he
  rw [compile] at he
  have hclosed := closed_compileItems h true [] (s := s)
  rcases hrun : (compileItems s true [] is).run 0 with ⟨e | out, n⟩
  · rw [hrun] at he
    cases he
    exact hclosed 0 b n hrun
  · rw [hrun] at he
    change assemble out = _ at he
    rw [assemble] at he
    split at he <;> cases he

/-- **A nested pattern is not refused for an open bracket.** -/
theorem matcher_closed {t : Text} (h : Nested t) (b : Char) :
    matcher s t ≠ .error (.unclosed b) := by
  intro he
  exact compile_closed (nested_tidy.2 h).allClosed_parse b
    (compile_of_expression (expression_of_fault (by simp) he))

end Pattern

end Repartee

import Repartee.Proofs.Pattern.Language
import Repartee.Proofs.Pattern.Reading

/-!
# Matching a written pattern

* `Pattern.Plain`: parts without optionals, as a pattern is written.
* **`Pattern.written_matches_iff`**: a plain pattern matches the texts of its language, unless its
  expression is nested too deep or too large for the engine.
* `Pattern.deep`: a group in a group in a group.
-/

namespace Repartee

namespace Pattern

variable {s : Scope} {is : List Item} {m : Text}

/-- A pattern without optionals and without a space at its ends, other than a lone `*`. -/
structure Plain (is : List Item) : Prop where
  writable : allWritable is
  first : is.head?.all (!isSpace ·)
  last : is.getLast?.all (!isSpace ·)
  notAny : written is ≠ ['*']

/-! ## The parts that are read -/

theorem allSimple_iff : ∀ {is : List Item}, allSimple is ↔ ∀ i ∈ is, isSimple i
  | [] => by simp [allSimple]
  | i :: is => by rw [allSimple, Bool.and_eq_true, allSimple_iff, List.forall_mem_cons]

theorem mem_dropEnds {i : Item} (h : i ∈ dropEnds is) : i ∈ is := by
  obtain ⟨u, v, he, -, -⟩ := dropEnds_spec is
  rw [he]
  exact List.mem_append_left v (List.mem_append_right u h)

mutual

theorem isSimple_trimItem : ∀ {i : Item}, isWritable i → isSimple (trimItem i)
  | .char _, _ | .wild _, _ | .array _, _ | .reference _, _ => rfl
  | .group alternatives, h => by
    obtain ⟨hne, hall⟩ := isWritable_group.1 h
    refine Bool.and_eq_true_iff.2 ⟨?_, eachSimple_trimEach hall⟩
    cases alternatives with
    | nil => exact absurd rfl hne
    | cons _ _ => rfl

theorem allSimple_trimItems : ∀ {is : List Item}, allWritable is → allSimple (trimItems is)
  | [], _ => rfl
  | _ :: _, h => by
    obtain ⟨hi, -, his⟩ := allWritable_cons.1 h
    exact Bool.and_eq_true_iff.2 ⟨isSimple_trimItem hi, allSimple_trimItems his⟩

theorem eachSimple_trimEach : ∀ {iss : List (List Item)}, eachWritable iss →
    eachSimple (trimEach iss)
  | [], _ => rfl
  | _ :: _, h => by
    obtain ⟨-, his, hrest⟩ := eachWritable_cons.1 h
    have hsimple := allSimple_iff.1 (allSimple_trimItems his)
    exact Bool.and_eq_true_iff.2
      ⟨allSimple_iff.2 fun i hi => hsimple i (mem_dropEnds hi), eachSimple_trimEach hrest⟩

end

/-- A pattern without structure is a text of literal characters. -/
theorem eq_map_char : ∀ {is : List Item}, allWritable is → (written is).any isSpecial = false →
    is = (written is).map .char
  | [], _, _ => rfl
  | i :: is, h, hs => by
    obtain ⟨hi, -, his⟩ := allWritable_cons.1 h
    rw [written, List.any_append, Bool.or_eq_false_iff] at hs
    have ih := eq_map_char his hs.2
    cases i with
    | char c => exact congrArg _ ih
    | wild w => cases w <;> exact absurd hs.1 (by decide)
    | array | reference | group => exact absurd hs.1 (by simp [itemText, isSpecial])
    | optional | unclosed => exact absurd hi Bool.false_ne_true

theorem languageOf_map_char : ∀ t : Text, languageOf s (t.map .char) = {t}
  | [] => rfl
  | c :: t => by
    rw [List.map_cons, languageOf, languageOf_map_char t]
    refine Language.ext fun u => ⟨?_, ?_⟩
    · rintro ⟨_, rfl, _, rfl, rfl⟩
      rfl
    · rintro rfl
      exact ⟨[c], rfl, t, rfl, rfl⟩

theorem trimItems_map_char (t : Text) : trimItems (t.map .char) = t.map .char := by
  rw [trimItems_eq_map, List.map_map]
  rfl

theorem piecesOf?_map_char : ∀ t : Text, piecesOf? s (t.map .char) = some (t.map .char)
  | [] => rfl
  | c :: t => by rw [List.map_cons, piecesOf?, itemPieces?, piecesOf?_map_char t]; rfl

theorem nesting_map_char (t : Text) : nesting s (t.map .char) = 0 := by
  rw [nesting, piecesOf?_map_char]
  refine Nat.le_zero.1 (deepest_le.2 fun n hn => ?_)
  simp only [Option.getD_some, List.map_map, List.mem_map, Function.comp_apply] at hn
  obtain ⟨c, -, rfl⟩ := hn
  exact Nat.le_refl 0

/-! ## Membership -/

/-- A plain pattern is read as it is written. -/
theorem tidy_written (h : Plain is) : tidy (written is) = written is := by
  have hfirst : ∀ i ∈ is.head?, isSpace i = false := by
    simpa [Option.all_eq_true] using h.first
  have hlast : ∀ i ∈ is.getLast?, isSpace i = false := by
    simpa [Option.all_eq_true] using h.last
  refine (legible_written h.writable).tidy (fun hf => ?_) (fun hf => ?_)
  · exact absurd (first_written h.writable hfirst _ hf) (by decide)
  · exact absurd (last_written h.writable hlast _ hf) (by decide)

theorem expression_written (h : Plain is) :
    expression s (written is) = compile s (trimItems is) := by
  rw [expression, if_neg h.notAny, parse_written h.writable]

theorem matcher_written (h : Plain is) (ht : s.Takes (written is)) : matcher s (written is) =
    if (written is).any isSpecial then (compile s (trimItems is)).map .regex
    else .ok (.exact (written is)) := by
  rw [matcher_of_takes ht, tidy_written h, expression_written h]
  cases (written is).any isSpecial <;> rfl

/-- A plain pattern that the engine takes matches the texts of its language, unless its expression
is nested too deep. -/
theorem taken_matches_iff (h : Plain is) (hm : '\n' ∉ m) (ht : s.Takes (written is)) :
    (stars? s (String.ofList (written is)) m).isSome ↔
      m ∈ languageOf s (trimItems is) ∧ nesting s (trimItems is) < nestingLimit := by
  rw [stars?, String.toList_ofList, matcher_written h ht]
  by_cases hs : (written is).any isSpecial
  · rw [if_pos hs, ← compile_matches (allSimple_trimItems h.writable) hm]
    cases hc : compile s (trimItems is) with
    | error e => simp [Except.map]
    | ok r => simp [Except.map, Matcher.stars?]
  · rw [if_neg hs]
    have hchar := eq_map_char h.writable (by simpa using hs)
    rw [hchar, trimItems_map_char, languageOf_map_char, nesting_map_char, ← hchar]
    have hmem : m ∈ ({written is} : Language Char) ↔ written is = m := eq_comm
    rw [hmem]
    by_cases he : written is = m
    · simp [Matcher.stars?, he, nestingLimit]
    · simp [Matcher.stars?, he]

/-- **A plain pattern matches the texts of its language, if its expression is not nested too deep
and the engine takes it.** -/
theorem written_matches_iff (h : Plain is) (hm : '\n' ∉ m) :
    (stars? s (String.ofList (written is)) m).isSome ↔
      m ∈ languageOf s (trimItems is) ∧ nesting s (trimItems is) < nestingLimit ∧
        s.Takes (written is) := by
  by_cases ht : s.Takes (written is)
  · rw [taken_matches_iff h hm ht]
    exact ⟨fun ⟨hmem, hn⟩ => ⟨hmem, hn, ht⟩, fun ⟨hmem, hn, _⟩ => ⟨hmem, hn⟩⟩
  · rw [stars?_of_not_takes (by rwa [String.toList_ofList])]
    exact ⟨fun hsome => absurd hsome Bool.false_ne_true, fun ⟨_, _, h⟩ => absurd h ht⟩

/-- The state of a new user and a bot that knows nothing. -/
def Scope.blank : Scope where
  engine := .unlimited
  vars := ∅
  arrays := ∅
  user := {}
  utf8 := false
  normalizeReply := id

/-- The pattern `a (b|cc)`. -/
def choice : List Item :=
  [.char 'a', .char ' ', .group [[.char 'b'], [.char 'c', .char 'c']]]

/-- A pattern with a group matches one of its alternatives. -/
theorem choice_matches :
    Plain choice ∧ '\n' ∉ "a cc".toList ∧
      (stars? .blank (String.ofList (written choice)) "a cc".toList).isSome := by
  have hplain : Plain choice := ⟨by decide, by decide, by decide, by decide⟩
  have hline : '\n' ∉ "a cc".toList := by decide
  have htaken : Scope.blank.Takes (written choice) :=
    Scope.takes_of_forall Regex.Engine.unlimited_takes
  refine ⟨hplain, hline, (written_matches_iff hplain hline).2 ⟨?_, by decide, htaken⟩⟩
  refine ⟨['a'], rfl, _, ⟨[' '], rfl, _, ⟨['c', 'c'], ?_, [], rfl, rfl⟩, rfl⟩, rfl⟩
  exact Or.inr (Or.inl ⟨['c'], rfl, _, ⟨['c'], rfl, [], rfl, rfl⟩, rfl⟩)

/-! ## Deep nesting -/

/-- `a` or `b` in as many brackets as given: `(((a|b)|b)|b)`. -/
def deep : Nat → Item
  | 0 => .char 'a'
  | k + 1 => .group [[deep k], [.char 'b']]

theorem isSpace_deep (k : Nat) : isSpace (deep k) = false := by
  cases k <;> rfl

theorem isWritable_deep : ∀ k : Nat, isWritable (deep k)
  | 0 => by decide
  | k + 1 => by
    simp only [deep, isWritable, eachWritable, allWritable, isWritable_deep k, isSpace_deep k,
      List.isEmpty_cons, List.any_cons, List.any_nil, List.head?_nil, Option.all_none]
    decide

theorem trimItem_deep : ∀ k : Nat, trimItem (deep k) = deep k
  | 0 => rfl
  | k + 1 => by
    have hdrop : dropEnds [deep k] = [deep k] := by simp [dropEnds, isSpace_deep k]
    have hb : dropEnds [Item.char 'b'] = [.char 'b'] := rfl
    simp only [deep, trimItem, trimEach, trimItems, trimItem_deep k, hdrop, hb]

theorem plain_deep (k : Nat) : Plain [deep k] := by
  refine ⟨?_, by simp [isSpace_deep k], by simp [isSpace_deep k], ?_⟩
  · simp [allWritable, isWritable_deep k]
  · cases k <;> simp [written, deep, itemText]

theorem mem_language_deep : ∀ k : Nat, ['a'] ∈ itemLanguage s (deep k)
  | 0 => rfl
  | k + 1 => .inl ⟨['a'], mem_language_deep k, [], rfl, rfl⟩

/-- Every bracket counts twice: as a bracket, and for the alternatives in it. -/
theorem itemPieces?_deep : ∀ k : Nat, ∃ p : Piece, itemPieces? s (deep k) = some [p] ∧
    p.nesting = 2 * k
  | 0 => ⟨.char 'a', rfl, rfl⟩
  | k + 1 => by
    obtain ⟨p, hp, hn⟩ := itemPieces?_deep k
    refine ⟨group [[p], [.char 'b']], ?_, ?_⟩
    · simp only [deep, itemPieces?, piecesOfEach, piecesOf?, hp]
      rfl
    · have hgroup : (group [[p], [.char 'b']]).nesting = max p.nesting (max 0 0) + 1 + 1 := rfl
      omega

theorem nesting_deep (k : Nat) : nesting s [deep k] = 2 * k := by
  obtain ⟨p, hp, hn⟩ := itemPieces?_deep (s := s) k
  simp [nesting, piecesOf?, hp, deepest, hn]

theorem trimItems_deep (k : Nat) : trimItems [deep k] = [deep k] := by
  rw [trimItems, trimItem_deep, trimItems]

theorem stars?_deep {k : Nat} (h : nestingLimit ≤ 2 * k) (hm : '\n' ∉ m) :
    stars? s (String.ofList (written [deep k])) m = none := by
  refine Option.not_isSome_iff_eq_none.1 fun hsome => ?_
  obtain ⟨-, hn, -⟩ := (written_matches_iff (plain_deep k) hm).1 hsome
  rw [trimItems_deep, nesting_deep] at hn
  omega

/-- An expression of too many levels matches nothing, not even a text of its language. -/
theorem deep_not_matched :
    ¬∀ (s : Scope) (is : List Item) (m : Text), Plain is → '\n' ∉ m →
      ((stars? s (String.ofList (written is)) m).isSome ↔ m ∈ languageOf s (trimItems is)) := by
  intro h
  have hmem : ['a'] ∈ languageOf .blank (trimItems [deep 200]) := by
    rw [trimItems_deep]
    exact ⟨['a'], mem_language_deep 200, [], rfl, rfl⟩
  have hsome := (h .blank [deep 200] ['a'] (plain_deep 200) (by decide)).2 hmem
  rw [stars?_deep (by decide) (by decide)] at hsome
  exact Bool.false_ne_true hsome

end Pattern

end Repartee

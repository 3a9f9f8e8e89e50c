import Repartee.Pattern.Matcher
import Repartee.Proofs.Regex.Language

/-!
# The language of a pattern

A pattern without optionals stands for a language, defined by the structure of its parts; matching
is membership in it.

* `Pattern.itemLanguage`, `Pattern.languageOf`: the texts that a part, or parts in a row, stand for.
* `Pattern.isSimple`: no optional, no bracket without its partner, no group without alternatives.
* `Pattern.piecesOf?`: the pieces of simple parts, none where an array is missing.
* `Pattern.run_compileItems`: compiling simple parts gives these pieces, or reports a missing array.
* `Pattern.nesting`: the levels to which the expression of simple parts is nested.
* **`Pattern.compile_matches`**: the expression of simple parts matches their language unless it is
  nested too deep.
-/

namespace Repartee

/-! ## Languages -/

/-- The characters a wildcard stands for. -/
def Wildcard.Admits : Wildcard → Char → Prop
  | .any, _ => True
  | .digits, c => isDigit c
  | .word, c => ¬isBlank c ∧ ¬isDigit c

/-- One or more characters that a wildcard stands for. -/
def Wildcard.language (w : Wildcard) : Language Char := {t | t ≠ [] ∧ ∀ c ∈ t, w.Admits c}

namespace Pattern

/-- The items of an array in lower case; an unknown array has none. -/
def Scope.itemTexts (s : Scope) (name : String) : List Text :=
  ((s.arrays.find? name).getD []).map fun i => Text.lower i.toList

mutual

/-- The texts that a part stands for, in a state. -/
def itemLanguage (s : Scope) : Item → Language Char
  | .char c => {[c]}
  | .wild w => w.language
  | .array name => {t | t ∈ s.itemTexts name}
  | .reference r => {s.resolve r}
  | .group alternatives => languageOfEach s alternatives
  | .optional _ | .unclosed _ => 0

/-- The texts that parts in a row stand for. -/
def languageOf (s : Scope) : List Item → Language Char
  | [] => 1
  | i :: is => itemLanguage s i * languageOf s is

/-- The texts that one of some alternatives stands for. -/
def languageOfEach (s : Scope) : List (List Item) → Language Char
  | [] => 0
  | is :: rest => languageOf s is + languageOfEach s rest

end

/-! ## Simple parts -/

mutual

/-- No optional, no bracket without its partner, and alternatives in every group. -/
def isSimple : Item → Bool
  | .char _ | .wild _ | .array _ | .reference _ => true
  | .group alternatives => !alternatives.isEmpty && eachSimple alternatives
  | .optional _ | .unclosed _ => false

/-- All parts are simple. -/
def allSimple : List Item → Bool
  | [] => true
  | i :: is => isSimple i && allSimple is

/-- All parts of all alternatives are simple. -/
def eachSimple : List (List Item) → Bool
  | [] => true
  | is :: rest => allSimple is && eachSimple rest

end

mutual

/-- The pieces of a simple part, none where an array is missing. -/
def itemPieces? (s : Scope) : Item → Option (List Piece)
  | .char c => some [.char c]
  | .wild w => some [.part (wildcard true w) (wildcardNesting w)]
  | .array name =>
    match s.itemTexts name with
    | [] => none
    | ts => some [oneOfTexts ts]
  | .reference r => some ((s.resolve r).map .char)
  | .group alternatives =>
    match piecesOfEach s alternatives with
    | [] => none
    | outs => some [group outs]
  | .optional _ | .unclosed _ => none

/-- The pieces of simple parts in a row. -/
def piecesOf? (s : Scope) : List Item → Option (List Piece)
  | [] => some []
  | i :: is =>
    match itemPieces? s i, piecesOf? s is with
    | some ps, some qs => some (ps ++ qs)
    | _, _ => none

/-- The pieces, in reverse, of the alternatives without a missing array. -/
def piecesOfEach (s : Scope) : List (List Item) → List (List Piece)
  | [] => []
  | is :: rest =>
    match piecesOf? s is with
    | some ps => ps.reverse :: piecesOfEach s rest
    | none => piecesOfEach s rest

end

/-- The levels to which the expression of simple parts is nested, alternatives with a missing array
left out. -/
def nesting (s : Scope) (is : List Item) : Nat :=
  deepest (((piecesOf? s is).getD []).map Piece.nesting)

open Regex (Denotes Appends)

variable {s : Scope}

/-! ## Runs of the compiler -/

namespace Compile

variable {α β : Type} {n m : Nat}

theorem run_bind_ok {x : Compile α} {f : α → Compile β} {a : α}
    (h : x.run n = (.ok a, m)) : (x >>= f).run n = (f a).run m := by
  change ExceptT.bindCont f (x.run n).1 (x.run n).2 = _
  rw [h]
  rfl

theorem run_bind_error {x : Compile α} {f : α → Compile β} {e : Fault}
    (h : x.run n = (.error e, m)) : (x >>= f).run n = (.error e, m) := by
  change ExceptT.bindCont f (x.run n).1 (x.run n).2 = _
  rw [h]
  rfl

theorem run_tryCatch (x : Compile α) (f : Fault → Compile α) (n : Nat) :
    (tryCatch x f).run n = match x.run n with
      | (.ok a, m) => (.ok a, m)
      | (.error e, m) => (f e).run m := by
  simp only [tryCatch, tryCatchThe, MonadExceptOf.tryCatch, ExceptT.tryCatch, ExceptT.run,
    ExceptT.mk, bind, StateT.bind]
  rcases x n with ⟨_ | _, _⟩ <;> rfl

theorem run_orMissing_ok {x : Compile α} {a : α} (h : x.run n = (.ok a, m)) :
    x.orMissing.run n = (.ok (.ok a), m) := by
  rw [orMissing, run_tryCatch, map_eq_pure_bind, run_bind_ok h]
  rfl

theorem run_orMissing_missing {x : Compile α} {name : String}
    (h : x.run n = (.error (.missingArray name), m)) :
    x.orMissing.run n = (.ok (.error name), m) := by
  rw [orMissing, run_tryCatch, map_eq_pure_bind, run_bind_error h]
  rfl

end Compile

theorem run_countOptional (n : Nat) : countOptional.run n =
    if optionalLimit < n + 1 then (.error .tooManyOptionals, n + 1) else (.ok (), n + 1) := by
  change (if optionalLimit < n + 1 then throw Fault.tooManyOptionals else pure () :
    Compile Unit).run (n + 1) = _
  split <;> rfl

/-- What compiling gives for pieces that are put before others, if no array is missing. -/
def Compiles (run : Nat → Except Fault (List Piece) × Nat) (out : List Piece) :
    Option (List Piece) → Prop
  | some ps => ∀ n, run n = (.ok (ps.reverse ++ out), n)
  | none => ∀ n, ∃ name, run n = (.error (.missingArray name), n)

mutual

theorem run_compileItem : ∀ {i : Item}, isSimple i → ∀ out : List Piece,
    Compiles (compileItem s true out i).run out (itemPieces? s i)
  | .char _, _, _ | .wild _, _, _ => fun _ => rfl
  | .array name, _, out => by
    rw [itemPieces?, Scope.itemTexts, compileItem]
    cases h : s.arrays.find? name with
    | none => exact fun _ => ⟨name, rfl⟩
    | some items =>
      cases items with
      | nil => exact fun _ => ⟨name, rfl⟩
      | cons _ _ => exact fun _ => rfl
  | .reference r, _, out => by
    rw [itemPieces?, compileItem, List.map_reverse]
    exact fun _ => rfl
  | .group alternatives, h, out => by
    obtain ⟨hne, hs⟩ := Bool.and_eq_true_iff.1 h
    have hp : 0 < alternatives.length := by
      cases alternatives with
      | nil => simp at hne
      | cons _ _ => exact Nat.succ_pos _
    rw [itemPieces?, compileItem]
    cases hps : piecesOfEach s alternatives with
    | nil =>
      intro n
      obtain ⟨missing, hrun, hall⟩ := run_compileEach hs n
      rw [hps] at hrun hall
      cases missing with
      | none =>
        have := hall rfl
        simp only [List.length_nil] at this
        omega
      | some name =>
        have hsurvivors : (compileEach s true alternatives >>= survivors).run n =
            (.error (.missingArray name), n) := by
          rw [Compile.run_bind_ok hrun]
          rfl
        exact ⟨name, Compile.run_bind_error hsurvivors⟩
    | cons ps pss =>
      intro n
      obtain ⟨missing, hrun, -⟩ := run_compileEach hs n
      rw [hps] at hrun
      have hsurvivors : (compileEach s true alternatives >>= survivors).run n =
          (.ok (ps :: pss), n) := by
        rw [Compile.run_bind_ok hrun]
        rfl
      rw [Compile.run_bind_ok hsurvivors]
      rfl

theorem run_compileItems : ∀ {is : List Item}, allSimple is → ∀ out : List Piece,
    Compiles (compileItems s true out is).run out (piecesOf? s is)
  | [], _, _ => fun _ => rfl
  | i :: is, h, out => by
    obtain ⟨hi, his⟩ := Bool.and_eq_true_iff.1 h
    have h₁ := run_compileItem hi out
    rw [piecesOf?, compileItems]
    cases hps : itemPieces? s i with
    | none =>
      rw [hps] at h₁
      intro n
      obtain ⟨name, hrun⟩ := h₁ n
      exact ⟨name, Compile.run_bind_error hrun⟩
    | some ps =>
      rw [hps] at h₁
      have h₂ := run_compileItems his (ps.reverse ++ out)
      cases hqs : piecesOf? s is with
      | none =>
        rw [hqs] at h₂
        intro n
        obtain ⟨name, hrun⟩ := h₂ n
        exact ⟨name, by rw [Compile.run_bind_ok (h₁ n), hrun]⟩
      | some qs =>
        rw [hqs] at h₂
        intro n
        rw [Compile.run_bind_ok (h₁ n), h₂ n, List.reverse_append, List.append_assoc]

/-- Compiling alternatives gives those without a missing array, and notes whether there were
others. -/
theorem run_compileEach : ∀ {iss : List (List Item)}, eachSimple iss → ∀ n : Nat,
    ∃ missing, (compileEach s true iss).run n = (.ok (piecesOfEach s iss, missing), n) ∧
      (missing = none → (piecesOfEach s iss).length = iss.length)
  | [], _, _ => ⟨none, rfl, fun _ => rfl⟩
  | is :: rest, h, n => by
    obtain ⟨his, hrest⟩ := Bool.and_eq_true_iff.1 h
    have h₁ := run_compileItems his []
    obtain ⟨missing, hrun, hall⟩ := run_compileEach hrest n
    rw [piecesOfEach, compileEach]
    cases hps : piecesOf? s is with
    | none =>
      rw [hps] at h₁
      obtain ⟨name, hfirst⟩ := h₁ n
      refine ⟨some name, ?_, by simp⟩
      rw [Compile.run_bind_ok (Compile.run_orMissing_missing hfirst), Compile.run_bind_ok hrun]
      rfl
    | some ps =>
      rw [hps] at h₁
      refine ⟨missing, ?_, fun hm => by rw [List.length_cons, hall hm, List.length_cons]⟩
      rw [Compile.run_bind_ok (Compile.run_orMissing_ok (h₁ n)), Compile.run_bind_ok hrun,
        List.append_nil]
      rfl

end

/-! ## The language of the pieces -/

/-- The pieces match a language; where there are none, the language is empty. -/
def Match (L : Language Char) : Option (List Piece) → Prop
  | some ps => Appends (ps.map Piece.regex) L
  | none => L = 0

theorem denotes_wildcard (w : Wildcard) : (wildcard true w).Denotes w.language := by
  cases w with
  | any =>
    have h (c : Char) (hc : c ≠ '\n') : Regex.isInline c ↔ Wildcard.any.Admits c := by
      simp [Regex.isInline, hc, Wildcard.Admits]
    exact (Regex.denotes_someLazy h).group
  | digits => exact (Regex.denotes_someLazy fun c _ => Iff.rfl).group
  | word => exact (Regex.denotes_someLazy fun c _ => by simp [Wildcard.Admits]).group

/-- Some texts are the sum of the texts one by one. -/
theorem texts_eq_sum : ∀ ts : List Text,
    ({t | t ∈ ts} : Language Char) = (ts.map fun t => ({t} : Language Char)).sum
  | [] => Language.ext fun t =>
    ⟨fun h => absurd h List.not_mem_nil, fun h => absurd h (Language.notMem_zero t)⟩
  | u :: ts => by
    rw [List.map_cons, List.sum_cons, ← texts_eq_sum ts]
    exact Language.ext fun t => List.mem_cons

theorem denotes_oneOfTexts {ts : List Text} (h : ts ≠ []) :
    (oneOfTexts ts).regex.Denotes {t | t ∈ ts} := by
  rw [texts_eq_sum]
  refine Regex.denotes_oneOf ?_ (by simpa using h)
  rw [List.forall₂_map_left_iff, List.forall₂_map_right_iff, List.forall₂_same]
  exact fun t _ => Regex.denotes_literal t

/-- The alternatives joined from their pieces match the sum of some languages. -/
theorem denotes_joinPieces {ps : List Piece} {L : Language Char}
    (h : Appends (ps.map Piece.regex) L) : (joinPieces ps.reverse).Denotes L := by
  rw [joinPieces, List.reverse_reverse]
  exact h.concat

mutual

theorem match_itemPieces : ∀ {i : Item}, isSimple i → Match (itemLanguage s i) (itemPieces? s i)
  | .char c, _ => (Regex.denotes_char c).appends
  | .wild w, _ => (denotes_wildcard w).appends
  | .array name, _ => by
    rw [itemPieces?, itemLanguage]
    cases h : s.itemTexts name with
    | nil => exact Set.eq_empty_of_forall_notMem fun t ht => by simp at ht
    | cons t ts => exact (denotes_oneOfTexts (List.cons_ne_nil t ts)).appends
  | .reference r, _ => by
    rw [itemPieces?, itemLanguage]
    have h := Regex.appends_chars (s.resolve r)
    rwa [Match, List.map_map]
  | .group alternatives, h => by
    obtain ⟨_, hs⟩ := Bool.and_eq_true_iff.1 h
    obtain ⟨Ls, hL, hsum⟩ := denotes_piecesOfEach hs
    rw [itemPieces?, itemLanguage, ← hsum]
    cases hps : piecesOfEach s alternatives with
    | nil =>
      rw [hps] at hL
      cases hL
      rfl
    | cons ps pss =>
      rw [hps] at hL
      exact (Regex.denotes_oneOf hL (by simp)).group.appends

theorem match_piecesOf : ∀ {is : List Item}, allSimple is → Match (languageOf s is) (piecesOf? s is)
  | [], _ => Regex.appends_nil
  | i :: is, h => by
    obtain ⟨hi, his⟩ := Bool.and_eq_true_iff.1 h
    have h₁ := match_itemPieces hi
    have h₂ := match_piecesOf his
    rw [piecesOf?, languageOf]
    cases hps : itemPieces? s i with
    | none =>
      rw [hps] at h₁
      rw [show itemLanguage s i = 0 from h₁, zero_mul]
      rfl
    | some ps =>
      rw [hps] at h₁
      cases hqs : piecesOf? s is with
      | none =>
        rw [hqs] at h₂
        rw [show languageOf s is = 0 from h₂, mul_zero]
        rfl
      | some qs =>
        rw [hqs] at h₂
        rw [Match, List.map_append]
        exact h₁.append h₂

theorem denotes_piecesOfEach : ∀ {iss : List (List Item)}, eachSimple iss →
    ∃ Ls, List.Forall₂ Denotes ((piecesOfEach s iss).map joinPieces) Ls ∧
      Ls.sum = languageOfEach s iss
  | [], _ => ⟨[], .nil, rfl⟩
  | is :: rest, h => by
    obtain ⟨his, hrest⟩ := Bool.and_eq_true_iff.1 h
    have h₁ := match_piecesOf his
    obtain ⟨Ls, hL, hsum⟩ := denotes_piecesOfEach hrest
    rw [piecesOfEach, languageOfEach]
    cases hps : piecesOf? s is with
    | none =>
      rw [hps] at h₁
      rw [show languageOf s is = 0 from h₁, zero_add]
      exact ⟨Ls, hL, hsum⟩
    | some ps =>
      rw [hps] at h₁
      exact ⟨languageOf s is :: Ls, .cons (denotes_joinPieces h₁) hL, by rw [List.sum_cons, hsum]⟩

end

/-! ## Compiled patterns -/

theorem deepest_le {ns : List Nat} {k : Nat} : deepest ns ≤ k ↔ ∀ n ∈ ns, n ≤ k := by
  induction ns with
  | nil => simp [deepest]
  | cons n ns ih =>
    rw [deepest] at ih
    rw [deepest, List.foldr_cons, Nat.max_le, ih, List.forall_mem_cons]

theorem deepest_reverse (ns : List Nat) : deepest ns.reverse = deepest ns := by
  apply Nat.le_antisymm
  · exact deepest_le.2 fun n hn => deepest_le.1 (Nat.le_refl _) n (List.mem_reverse.1 hn)
  · exact deepest_le.2 fun n hn => deepest_le.1 (Nat.le_refl _) n (List.mem_reverse.2 hn)

/-- Compiling simple parts fails where an array is missing, or joins their pieces. -/
theorem compile_eq {is : List Item} (h : allSimple is) :
    (piecesOf? s is = none ∧ ∃ name, compile s is = .error (.missingArray name)) ∨
      ∃ ps, piecesOf? s is = some ps ∧ compile s is =
        if nestingLimit ≤ nesting s is then .error .tooNested else .ok (joinPieces ps.reverse) := by
  have hrun := run_compileItems (s := s) h []
  cases hps : piecesOf? s is with
  | none =>
    rw [hps] at hrun
    obtain ⟨name, hrun⟩ := hrun 0
    exact .inl ⟨rfl, name, by rw [compile, hrun]; rfl⟩
  | some ps =>
    rw [hps] at hrun
    refine .inr ⟨ps, rfl, ?_⟩
    rw [compile, hrun 0, List.append_nil, nesting, hps]
    change assemble ps.reverse = _
    rw [assemble, List.map_reverse, deepest_reverse]
    rfl

/-- **The expression of simple parts matches their language unless it is nested too deep.** -/
theorem compile_matches {is : List Item} (h : allSimple is) {m : Text} (hm : '\n' ∉ m) :
    (∃ r, compile s is = .ok r ∧ (r.fullMatch? m).isSome) ↔
      m ∈ languageOf s is ∧ nesting s is < nestingLimit := by
  have hmatch := match_piecesOf (s := s) h
  rcases compile_eq (s := s) h with ⟨hps, name, hc⟩ | ⟨ps, hps, hc⟩
  · rw [hps] at hmatch
    rw [hc, show languageOf s is = 0 from hmatch]
    constructor
    · rintro ⟨r, hr, -⟩
      cases hr
    · rintro ⟨h₀, -⟩
      exact absurd h₀ (Language.notMem_zero m)
  · rw [hps] at hmatch
    rw [hc]
    by_cases hn : nestingLimit ≤ nesting s is
    · rw [if_pos hn]
      constructor
      · rintro ⟨r, hr, -⟩
        cases hr
      · rintro ⟨-, hlt⟩
        omega
    · rw [if_neg hn]
      have hfull := (denotes_joinPieces hmatch).fullMatch? hm
      constructor
      · rintro ⟨r, hr, hsome⟩
        cases hr
        exact ⟨hfull.1 hsome, by omega⟩
      · rintro ⟨hmem, -⟩
        exact ⟨_, rfl, hfull.2 hmem⟩

end Pattern

end Repartee

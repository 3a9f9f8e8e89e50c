import Mathlib.Algebra.GroupWithZero.Nat
import Repartee.Proofs.Pattern.OwnText

/-!
# The numbers of stars

The expression that a pattern is compiled to has as many groups as its own text has stars, whatever
the variables are; so the text alone tells which star has which number.

* `Regex.Grouped`, `Pattern.Holds`: the number of groups of an expression, or of pieces.
* `Pattern.Compile.Settles`: a run that no missing array ends, and what holds of its result.
* `Pattern.Adds`: compiling a part adds as many groups as its text has stars.
* `Pattern.addsUpTo`: so it is for every text without arrays.
* **`Pattern.length_stars`**: the stars of a message are as many as those of the pattern's own text.
-/

namespace Repartee

/-! ## Groups -/

namespace Regex

/-- No copies, and some number of groups. -/
structure Grouped (r : Regex) (k : Nat) : Prop where
  plain : r.plain
  groups : r.groups = k

variable {r s : Regex} {k m : Nat}

theorem Grouped.seq (hr : r.Grouped k) (hs : s.Grouped m) : (r.seq s).Grouped (k + m) :=
  ⟨Bool.and_eq_true_iff.2 ⟨hr.plain, hs.plain⟩, by rw [Regex.groups, hr.groups, hs.groups]⟩

theorem Grouped.alt (hr : r.Grouped k) (hs : s.Grouped m) : (r.alt s).Grouped (k + m) :=
  ⟨Bool.and_eq_true_iff.2 ⟨hr.plain, hs.plain⟩, by rw [Regex.groups, hr.groups, hs.groups]⟩

theorem Grouped.group (hr : r.Grouped k) : r.group.Grouped (k + 1) :=
  ⟨hr.plain, by rw [Regex.groups, hr.groups]⟩

theorem grouped_foldl : ∀ {rs : List Regex} {r : Regex} {k : Nat}, r.Grouped k →
    (∀ s ∈ rs, s.plain) → (rs.foldl Regex.seq r).Grouped (k + (rs.map groups).sum)
  | [], _, _, hr, _ => hr
  | s :: rs, r, k, hr, h => by
    rw [List.forall_mem_cons] at h
    rw [List.foldl_cons, List.map_cons, List.sum_cons, ← Nat.add_assoc]
    exact grouped_foldl (hr.seq ⟨h.1, rfl⟩) h.2

end Regex

namespace Pattern

open Regex (Grouped)

/-- Pieces without copies, and the number of groups in them. -/
structure Holds (out : List Piece) (k : Nat) : Prop where
  plain : ∀ p ∈ out, p.regex.plain
  groups : (out.map fun p => p.regex.groups).sum = k

/-- The number of groups in some lists of pieces. -/
inductive HoldsEach : List (List Piece) → Nat → Prop
  | nil : HoldsEach [] 0
  | cons {out : List Piece} {outs : List (List Piece)} {k m : Nat} :
    Holds out k → HoldsEach outs m → HoldsEach (out :: outs) (k + m)

variable {out : List Piece} {outs : List (List Piece)} {k m : Nat}

theorem Holds.nil : Holds [] 0 := ⟨by simp, rfl⟩

theorem Holds.cons {p : Piece} (hp : p.regex.Grouped m) (h : Holds out k) :
    Holds (p :: out) (k + m) := by
  refine ⟨List.forall_mem_cons.2 ⟨hp.plain, h.plain⟩, ?_⟩
  rw [List.map_cons, List.sum_cons, hp.groups, h.groups, Nat.add_comm]

theorem Holds.chars (h : Holds out k) : ∀ t : Text, Holds (t.map Piece.char ++ out) k
  | [] => h
  | c :: t => (h.chars t).cons (p := .char c) (m := 0) ⟨rfl, rfl⟩

/-- Spaces have no groups. -/
theorem Holds.dropSpaces (h : Holds out k) : Holds (dropSpaces out) k := by
  fun_induction Pattern.dropSpaces out with
  | case1 out ih =>
    refine ih ⟨(List.forall_mem_cons.1 h.plain).2, ?_⟩
    have hgroups := h.groups
    rwa [List.map_cons, List.sum_cons, Piece.regex, Regex.char, Regex.groups, Nat.zero_add]
      at hgroups
  | case2 out => exact h

theorem Holds.joinPieces (h : Holds out k) : (joinPieces out).Grouped k := by
  have hplain : ∀ r ∈ out.reverse.map Piece.regex, r.plain := by
    intro r hr
    obtain ⟨p, hp, rfl⟩ := List.mem_map.1 hr
    exact h.plain p (List.mem_reverse.1 hp)
  have hjoin := Regex.grouped_foldl (r := .empty) (k := 0) ⟨rfl, rfl⟩ hplain
  have hsum : ((out.reverse.map Piece.regex).map Regex.groups).sum = k := by
    rw [List.map_reverse, List.map_reverse, List.sum_reverse, List.map_map]
    exact h.groups
  rwa [hsum, Nat.zero_add] at hjoin

theorem HoldsEach.optional (h : HoldsEach outs k) : (optional outs).regex.Grouped k := by
  induction h with
  | nil => exact ⟨rfl, rfl⟩
  | @cons out outs k m hout _ ih =>
    have hboundary : boundary.Grouped 0 := ⟨rfl, rfl⟩
    have hempty : Regex.empty.Grouped 0 := ⟨rfl, rfl⟩
    have hbetween : (Regex.concat [boundary, joinPieces out, boundary]).Grouped (0 + 0 + k + 0) :=
      ((hempty.seq hboundary).seq hout.joinPieces).seq hboundary
    rw [Nat.add_zero, Nat.zero_add] at hbetween
    exact hbetween.alt ih

theorem HoldsEach.group (h : HoldsEach outs k) : (group outs).regex.Grouped (k + 1) := by
  refine Grouped.group ?_
  induction h with
  | nil => exact ⟨rfl, rfl⟩
  | @cons out outs k m hout houts ih =>
    cases houts with
    | nil => exact hout.joinPieces
    | cons _ _ => exact hout.joinPieces.alt ih

/-! ## Runs -/

namespace Compile

variable {α β : Type} {x : Compile α} {f : α → Compile β} {P : α → Prop} {Q : β → Prop}

/-- A run does not end with a missing array, and its result, if there is one, has a property. -/
def Settles (x : Compile α) (P : α → Prop) : Prop :=
  ∀ n, (∃ e i, x.run n = (.error e, i) ∧ ∀ name, e ≠ .missingArray name) ∨
    ∃ a i, x.run n = (.ok a, i) ∧ P a

namespace Settles

theorem pure {a : α} (h : P a) : Settles (Pure.pure a : Compile α) P :=
  fun n => .inr ⟨a, n, rfl, h⟩

theorem throw {e : Fault} (h : ∀ name, e ≠ .missingArray name) :
    Settles (MonadExcept.throw e : Compile α) P :=
  fun n => .inl ⟨e, n, rfl, h⟩

theorem bind (hx : x.Settles P) (hf : ∀ a, P a → (f a).Settles Q) : (x >>= f).Settles Q := by
  intro n
  rcases hx n with ⟨e, i, hrun, he⟩ | ⟨a, i, hrun, ha⟩
  · exact .inl ⟨e, i, run_bind_error hrun, he⟩
  · rw [run_bind_ok hrun]
    exact hf a ha i

theorem mono {P' : α → Prop} (hx : x.Settles P) (h : ∀ a, P a → P' a) : x.Settles P' := by
  intro n
  rcases hx n with he | ⟨a, i, hrun, ha⟩
  · exact .inl he
  · exact .inr ⟨a, i, hrun, h a ha⟩

theorem orMissing (hx : x.Settles P) : x.orMissing.Settles fun r => ∃ a, r = .ok a ∧ P a := by
  intro n
  rcases hx n with ⟨e, i, hrun, he⟩ | ⟨a, i, hrun, ha⟩
  · refine .inl ⟨e, i, ?_, he⟩
    rw [Compile.orMissing, run_tryCatch, map_eq_pure_bind, run_bind_error hrun]
    cases e with
    | missingArray name => exact absurd rfl (he name)
    | unclosed | tooManyOptionals | tooNested | tooLarge => rfl
  · exact .inr ⟨.ok a, i, run_orMissing_ok hrun, a, rfl, ha⟩

end Settles

theorem settles_countOptional : countOptional.Settles fun _ => True := by
  intro n
  rw [run_countOptional]
  split
  · exact .inl ⟨_, _, rfl, by simp⟩
  · exact .inr ⟨(), _, rfl, trivial⟩

end Compile

/-! ## Parts -/

/-- A run of the compiler adds as many groups to the pieces before as a text has stars. -/
def Adds (run : List Piece → Compile (List Piece)) (inside : Bool) (t : Text) : Prop :=
  ∀ out k, Holds out k →
    (run out).Settles fun out' => ∃ m, Holds out' (k + m) ∧ Counts inside t m

/-- A run over alternatives gives all of them, with as many groups as a text has stars. -/
def AddsEach (run : Compile (List (List Piece))) (inside : Bool) (t : Text) : Prop :=
  run.Settles fun outs => ∃ m, HoldsEach outs m ∧ Counts inside t m

variable {s : Scope} {inside captured : Bool} {t u : Text} {c : Char} {i : Item} {is : List Item}
  {iss : List (List Item)}

theorem adds_nil : Adds (compileItems s captured · []) inside [] := by
  intro out k h
  dsimp only
  rw [compileItems]
  exact .pure ⟨0, h, .nil⟩

theorem adds_cons (hi : Adds (compileItem s captured · i) inside t)
    (his : Adds (compileItems s captured · is) inside u) :
    Adds (compileItems s captured · (i :: is)) inside (t ++ u) := by
  intro out k h
  dsimp only
  rw [compileItems]
  refine (hi out k h).bind fun out' ⟨m, hout, ht⟩ => (his out' (k + m) hout).mono ?_
  rintro out ⟨j, hout', hu⟩
  exact ⟨m + j, by rwa [← Nat.add_assoc], ht.append hu⟩

theorem adds_char (h : Counts inside [c] 0) :
    Adds (compileItem s captured · (.char c)) inside [c] := by
  intro out k hout
  dsimp only
  rw [compileItem]
  exact .pure ⟨0, hout.chars [c], h⟩

theorem adds_wild {w : Wildcard} (hw : wildcard? c = some w) :
    Adds (compileItem s (!inside) · (.wild w)) inside [c] := by
  intro out k hout
  dsimp only
  rw [compileItem]
  refine .pure ⟨_, hout.cons ?_, .wild hw⟩
  cases inside <;> exact ⟨rfl, rfl⟩

theorem adds_reference (r : Reference) :
    Adds (compileItem s captured · (.reference r)) inside [] := by
  intro out k hout
  dsimp only
  rw [compileItem]
  exact .pure ⟨0, hout.chars _, .nil⟩

theorem adds_optional (h : AddsEach (compileEach s false iss >>= survivors) true t) :
    Adds (compileItem s captured · (.optional iss)) false ('[' :: (t ++ [']'])) := by
  intro out k hout
  dsimp only
  rw [compileItem]
  refine Compile.settles_countOptional.bind fun _ _ => h.orMissing.bind ?_
  rintro _ ⟨outs, rfl, m, houts, ht⟩
  exact .pure ⟨m, hout.dropSpaces.cons houts.optional, ht.optional⟩

theorem adds_group (h : AddsEach (compileEach s captured iss >>= survivors) inside t) :
    Adds (compileItem s captured · (.group iss)) inside ('(' :: (t ++ [')'])) := by
  intro out k hout
  dsimp only
  rw [compileItem]
  refine Compile.Settles.bind h fun outs ⟨m, houts, ht⟩ => ?_
  exact .pure ⟨m + 1, hout.cons houts.group, ht.group⟩

/-- The alternatives of a bracket, blanks around them and blank ones left out. -/
theorem adds_alternatives {f : Text → List Item} {g : Text → Text} {ws : List Text}
    (h : ∀ w ∈ ws, ∃ u v : Text, (∀ c ∈ u, isBlank c) ∧ (∀ c ∈ v, isBlank c) ∧
      g w = u ++ (g w.trim ++ v) ∧ (w.trim = [] → g w.trim = []) ∧
      Adds (compileItems s captured · (f w.trim)) inside (g w.trim)) :
    (compileEach s captured (((ws.map Text.trim).filter (!·.isEmpty)).map f)).Settles fun r =>
      r.2 = none ∧ ∃ m, HoldsEach r.1 m ∧ Counts inside (Text.join ['|'] (ws.map g)) m := by
  induction ws with
  | nil =>
    rw [List.map_nil, List.filter_nil, List.map_nil, compileEach]
    exact .pure ⟨rfl, 0, .nil, .nil⟩
  | cons w ws ih =>
    rw [List.forall_mem_cons] at h
    obtain ⟨⟨u, v, hu, hv, hw, hblank, hadds⟩, hws⟩ := h
    have hcounts {m : Nat} (hm : Counts inside (g w.trim) m) : Counts inside (g w) m := by
      have hbefore : Counts inside u 0 := .blanks hu
      have hparts := hbefore.append (hm.append (.blanks hv))
      rwa [← hw, Nat.zero_add, Nat.add_zero] at hparts
    by_cases hempty : w.trim = []
    · rw [List.map_cons, List.filter_cons_of_neg (by simp [hempty])]
      refine (ih hws).mono ?_
      rintro ⟨outs, missing⟩ ⟨hmissing, m, houts, hrest⟩
      have hfirst : Counts inside (g w) 0 := hcounts (by rw [hblank hempty]; exact .nil)
      refine ⟨hmissing, m, houts, ?_⟩
      have hjoin := hfirst.join_cons hrest
      rwa [Nat.zero_add] at hjoin
    · rw [List.map_cons, List.filter_cons_of_pos (by simpa using hempty), List.map_cons,
        compileEach]
      refine (hadds [] 0 .nil).orMissing.bind ?_
      rintro _ ⟨out, rfl, k, hout, hk⟩
      refine (ih hws).bind ?_
      rintro ⟨outs, missing⟩ ⟨hmissing, m, houts, hrest⟩
      rw [Nat.zero_add] at hout
      exact .pure ⟨hmissing, k + m, .cons hout houts, (hcounts hk).join_cons hrest⟩

theorem addsEach_survivors {x : Compile (List (List Piece) × Option String)}
    (h : x.Settles fun r => r.2 = none ∧ ∃ m, HoldsEach r.1 m ∧ Counts inside t m) :
    AddsEach (x >>= survivors) inside t := by
  refine h.bind ?_
  rintro ⟨outs, missing⟩ ⟨rfl, hm⟩
  cases outs <;> exact .pure hm

theorem adds_unclosed (b : Char) : Adds (compileItems s captured · [.unclosed b]) inside t := by
  intro out k _
  dsimp only
  rw [compileItems, compileItem]
  have hthrow : (throw (.unclosed b) : Compile (List Piece)).Settles fun _ => False :=
    .throw fun _ => by simp
  exact hthrow.bind fun _ h => h.elim

/-- Blanks in front add nothing. -/
theorem Adds.blanks_append {run : List Piece → Compile (List Piece)} (h : Adds run inside t)
    (hu : ∀ c ∈ u, isBlank c) : Adds run inside (u ++ t) := by
  intro out k hout
  refine (h out k hout).mono ?_
  rintro out' ⟨m, hout', ht⟩
  have hbefore : Counts inside u 0 := .blanks hu
  have hboth := hbefore.append ht
  rw [Nat.zero_add] at hboth
  exact ⟨m, hout', hboth⟩

/-! ## Reading -/

/-- No array begins in a text, and an optional that is open before it is not closed in it. -/
structure Fair (inside : Bool) (t : Text) : Prop where
  noArray : '@' ∉ t
  stays : inside → ']' ∉ t

theorem Fair.sublist (h : Fair inside t) (hu : u.Sublist t) : Fair inside u :=
  ⟨fun hm => h.noArray (hu.subset hm), fun hin hm => h.stays hin (hu.subset hm)⟩

/-- Compiling texts of at most `n` characters adds as many groups as their own texts have stars. -/
def AddsUpTo (s : Scope) (n : Nat) : Prop := ∀ (inside : Bool) (t : Text), t.length ≤ n →
  Fair inside t → Adds (compileItems s (!inside) · (parseUpTo n t)) inside (ownUpTo n t)

variable {n : Nat} {cs inner rest tag : Text}

theorem AddsUpTo.alternatives (h : AddsUpTo s n) (hn : t.length ≤ n) (hfair : Fair inside t) :
    AddsEach (compileEach s (!inside) ((alternatives t).map (parseUpTo n)) >>= survivors) inside
      (Text.join ['|'] ((splitAt 0 t).map (ownUpTo n))) := by
  refine addsEach_survivors (adds_alternatives fun w hw => ?_)
  have hsub : w.Sublist t := (List.sublist_flatten_of_mem hw).trans (flatten_splitAt t 0).1
  have htrim : w.trim.Sublist t := (Text.trim_sublist w).trans hsub
  obtain ⟨before, behind, hbefore, hbehind, hown⟩ := ownUpTo_trim (Nat.le_trans hsub.length_le hn)
  exact ⟨before, behind, hbefore, hbehind, hown, fun hnil => by rw [hnil, ownUpTo_nil],
    h inside w.trim (Nat.le_trans htrim.length_le hn) (hfair.sublist htrim)⟩

theorem AddsUpTo.optional (h : AddsUpTo s n) (hcut : Text.cut? ']' cs = some (inner, rest))
    (hn : cs.length ≤ n) (hfair : Fair inside ('[' :: cs)) :
    Adds (compileItems s (!inside) ·
        (.optional ((Pattern.alternatives inner).map (parseUpTo n)) ::
          parseUpTo n (Text.trimLeft rest)))
      inside (ownUpTo (n + 1) ('[' :: cs)) := by
  have hpair : inside? '[' cs = some (inner, rest) := by rw [inside?, if_pos rfl, hcut]
  obtain ⟨rfl, hno⟩ := Text.cut?_eq_some hcut
  -- no optional stands in another one
  obtain rfl : inside = false := Bool.eq_false_iff.2 fun hin => hfair.stays hin (by simp)
  have hinner : inner.Sublist (inner ++ ']' :: rest) := List.sublist_append_left inner _
  have hrest : rest.Sublist (inner ++ ']' :: rest) := Text.sublist_behind inner ']' rest
  have htrim : (Text.trimLeft rest).Sublist (inner ++ ']' :: rest) :=
    (List.dropWhile_sublist isBlank).trans hrest
  have hfair : Fair false (inner ++ ']' :: rest) := hfair.sublist (List.sublist_cons_self _ _)
  have hblanks : ∀ b ∈ rest.takeWhile isBlank, isBlank b := fun b hb => List.mem_takeWhile_imp hb
  have hown : ownUpTo n rest = rest.takeWhile isBlank ++ ownUpTo n (Text.trimLeft rest) := by
    conv_lhs => rw [← List.takeWhile_append_dropWhile (p := isBlank) (l := rest)]
    refine ownUpTo_blanks_append _ hblanks ?_
    rw [List.takeWhile_append_dropWhile]
    exact Nat.le_trans hrest.length_le hn
  rw [ownUpTo_brackets hpair, hown]
  refine adds_cons (adds_optional ?_) (Adds.blanks_append ?_ hblanks)
  · have hfair : Fair true inner := ⟨(hfair.sublist hinner).noArray, fun _ => hno⟩
    exact h.alternatives (Nat.le_trans hinner.length_le hn) hfair
  · exact h false _ (Nat.le_trans htrim.length_le hn) (hfair.sublist htrim)

theorem AddsUpTo.group (h : AddsUpTo s n) (hclose : closeGroup? 0 cs = some (inner, rest))
    (hn : cs.length ≤ n) (hfair : Fair inside cs) :
    Adds (compileItems s (!inside) ·
        (.group ((Pattern.alternatives inner).map (parseUpTo n)) :: parseUpTo n rest))
      inside (ownUpTo (n + 1) ('(' :: cs)) := by
  have hpair : inside? '(' cs = some (inner, rest) := by
    rw [inside?, if_neg (by decide), if_pos rfl, hclose]
  obtain rfl := closeGroup?_eq_some hclose
  have hinner : inner.Sublist (inner ++ ')' :: rest) := List.sublist_append_left inner _
  have hrest : rest.Sublist (inner ++ ')' :: rest) := Text.sublist_behind inner ')' rest
  rw [ownUpTo_brackets hpair]
  refine adds_cons (adds_group ?_) ?_
  · exact h.alternatives (Nat.le_trans hinner.length_le hn) (hfair.sublist hinner)
  · exact h inside rest (Nat.le_trans hrest.length_le hn) (hfair.sublist hrest)

theorem AddsUpTo.reference (h : AddsUpTo s n) (hcut : Text.cut? '>' cs = some (tag, rest))
    {r : Reference} (hr : reference? tag = some r) (hn : cs.length ≤ n) (hfair : Fair inside cs) :
    Adds (compileItems s (!inside) · (.reference r :: parseUpTo n rest)) inside
      (ownUpTo (n + 1) ('<' :: cs)) := by
  have hbehind : behindReference? '<' cs = some rest := by
    rw [behindReference?, if_pos rfl, hcut, Option.bind_some, hr]
    rfl
  obtain ⟨rfl, -⟩ := Text.cut?_eq_some hcut
  have hrest : rest.Sublist (tag ++ '>' :: rest) := Text.sublist_behind tag '>' rest
  rw [ownUpTo, hbehind]
  exact adds_cons (adds_reference r) (h inside rest (Nat.le_trans hrest.length_le hn)
    (hfair.sublist hrest))

/-- **Compiling a text without arrays adds as many groups as its own text has stars.** -/
theorem addsUpTo (s : Scope) : ∀ n : Nat, AddsUpTo s n
  | n, inside, [], _, _ => by
    have hparse : parseUpTo n [] = [] := by cases n <;> rw [parseUpTo]
    rw [hparse, ownUpTo_nil]
    exact adds_nil
  | n + 1, inside, c :: cs, hn, hfair => by
    have h : AddsUpTo s n := addsUpTo s n
    have hlen : cs.length ≤ n := Nat.le_of_succ_le_succ hn
    have hcs : Fair inside cs := hfair.sublist (List.sublist_cons_self c cs)
    have hrest := h inside cs hlen hcs
    have hkept (hb : behindReference? '<' cs = none) :
        Adds (compileItems s (!inside) · (.char '<' :: parseUpTo n cs)) inside
          (ownUpTo (n + 1) ('<' :: cs)) := by
      rw [ownUpTo, hb]
      exact adds_cons (adds_char (.char (by decide) (fun _ => by decide) rfl)) hrest
    unfold parseUpTo
    split
    · rw [ownUpTo_cons (by decide)]
      exact adds_cons (adds_wild rfl) hrest
    · rw [ownUpTo_cons (by decide)]
      exact adds_cons (adds_wild rfl) hrest
    · rw [ownUpTo_cons (by decide)]
      exact adds_cons (adds_wild rfl) hrest
    · split
      · exact adds_unclosed '['
      · rename_i hcut
        exact h.optional hcut hlen hfair
    · split
      · exact adds_unclosed '('
      · rename_i hclose
        exact h.group hclose hlen hcs
    · exact absurd List.mem_cons_self hfair.noArray
    · split
      · rename_i hcut
        exact hkept (by rw [behindReference?, if_pos rfl, hcut, Option.bind_none])
      · rename_i hcut
        split
        · rename_i hr
          exact h.reference hcut hr hlen hcs
        · rename_i hr
          exact hkept (by rw [behindReference?, if_pos rfl, hcut, Option.bind_some, hr]; rfl)
    · rename_i hany hdigits hword hsquare hround _ htag
      rw [ownUpTo_cons ⟨hsquare, hround, htag⟩]
      refine adds_cons (adds_char (.char ⟨hsquare, hround⟩ ?_ ?_)) hrest
      · rintro hin rfl
        exact hfair.stays hin List.mem_cons_self
      · exact wildcard?_eq_none ⟨hany, hdigits, hword⟩

/-! ## Matching -/

/-- What a pattern is compiled to has as many groups as its own text has stars. -/
theorem grouped_matcher {r : Regex} (harray : '@' ∉ t) (h : matcher s t = .ok (.regex r)) :
    r.Grouped (starCount false (own (tidy t))) := by
  have hno : '@' ∉ tidy t := by
    rw [← List.count_eq_zero, count_tidy rfl, List.count_eq_zero]
    exact harray
  have hs : (tidy t).any isSpecial := by
    cases hs : (tidy t).any isSpecial with
    | false =>
      rw [matcher_of_plain hs] at h
      cases h
    | true => rfl
  obtain ⟨r', hr, heq⟩ := expression_of_matcher hs h
  obtain rfl := Matcher.regex.inj heq
  generalize tidy t = u at hno hr
  rw [expression] at hr
  split at hr
  · rename_i hany
    cases hr
    rw [hany]
    exact ⟨rfl, rfl⟩
  · rcases hrun : (compileItems s true [] (parse u)).run 0 with ⟨e | out, n⟩
    · rw [compile, hrun] at hr
      cases hr
    · have hjoin : joinPieces out = r := by
        rw [compile, hrun] at hr
        change assemble out = _ at hr
        rw [assemble] at hr
        split at hr <;> cases hr
        rfl
      have hadds := addsUpTo s u.length false u (Nat.le_refl _) ⟨hno, by simp⟩ [] 0 .nil 0
      rcases hadds with ⟨e, i, herror, -⟩ | ⟨out', i, hok, m, hout, hcounts⟩
      · cases herror.symm.trans hrun
      · obtain rfl : out' = out := Except.ok.inj (Prod.mk.inj (hok.symm.trans hrun)).1
        rw [own, hcounts.starCount, ← hjoin, ← Nat.zero_add m]
        exact hout.joinPieces

/-- A pattern that is compared as it stands has no stars. -/
theorem starCount_of_exact (h : matcher s t = .ok (.exact u)) :
    starCount false (own (tidy t)) = 0 := by
  cases hs : (tidy t).any isSpecial with
  | false =>
    have htag : '<' ∉ tidy t := by
      intro hm
      rw [List.any_eq_true.2 ⟨'<', hm, rfl⟩] at hs
      cases hs
    rw [own_eq_self htag]
    exact (Counts.of_not_special hs).starCount
  | true =>
    obtain ⟨r, -, hr⟩ := expression_of_matcher hs h
    cases hr

/-- **The stars of a message are as many as those in the own text of the pattern**, whatever state
and message are; each is what its group captured, or undefined where the group took no part. -/
theorem length_stars (s : Scope) {pattern : String} {message : Text} {stars : List String}
    (harray : '@' ∉ pattern.toList) (h : stars? s pattern message = some stars) :
    stars.length = starCount false (own (tidy pattern.toList)) ∧
      ∃ captures : List (Option Text),
        stars = captures.map (fun c => (c.map String.ofList).getD undefined) ∧
          ∀ r, matcher s pattern.toList = .ok (.regex r) →
            r.fullMatch? message = some captures := by
  rw [stars?] at h
  split at h
  · rename_i m hm
    cases m with
    | exact t =>
      rw [Matcher.stars?] at h
      split at h
      · cases h
        exact ⟨(starCount_of_exact hm).symm, [], rfl, fun r hr => by rw [hm] at hr; cases hr⟩
      · cases h
    | regex r =>
      obtain ⟨captures, hmatch, rfl⟩ := Option.map_eq_some_iff.1 h
      have hgrouped := grouped_matcher harray hm
      refine ⟨?_, captures, rfl, fun r' hr => ?_⟩
      · rw [List.length_map, Regex.length_of_fullMatch? hgrouped.plain hmatch, hgrouped.groups]
      · rw [hm] at hr
        cases hr
        exact hmatch
  · cases h

/-- A state in which the bot has a name. -/
def Scope.named : Scope := { Scope.blank with vars := Table.empty.insert "the_name" "Eliza" }

/-- The wildcard in the optional and the one in the name of the variable are no stars, but the group
in the optional is one, though it takes no part. -/
theorem length_stars_eliza :
    '@' ∉ "hello [dear (man|bot) *] <bot the_name> i am *".toList ∧
      stars? .named "hello [dear (man|bot) *] <bot the_name> i am *"
        "hello eliza i am fine".toList = some ["undefined", "fine"] ∧
      2 = starCount false (own (tidy "hello [dear (man|bot) *] <bot the_name> i am *".toList)) := by
  have harray : '@' ∉ "hello [dear (man|bot) *] <bot the_name> i am *".toList := by decide
  have hstars : stars? .named "hello [dear (man|bot) *] <bot the_name> i am *"
      "hello eliza i am fine".toList = some ["undefined", "fine"] := by decide +kernel
  exact ⟨harray, hstars, (length_stars .named harray hstars).1⟩

end Pattern

end Repartee

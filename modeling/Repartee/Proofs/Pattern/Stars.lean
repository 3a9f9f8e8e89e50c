import Repartee.Proofs.Pattern.Matching
import Repartee.Proofs.Pattern.Tidy
import Repartee.Proofs.Regex.Ways

/-!
# Stars

A pattern of literal characters and wildcards matches the messages that it gives with texts in place
of its wildcards. Of all such texts its stars are the shortest ones, those of earlier wildcards
first.

* `Pattern.Fills`: texts in place of the wildcards of a pattern give a message.
* `Pattern.Shortest`: such texts, the first as short as possible, then the second, and so on.
* `Pattern.fills_of_mem_ways`, `Pattern.exists_way`: the ways to match are the texts that fill.
* `Pattern.pairwise_ways`: they are tried in the order of their lengths.
* **`Pattern.stars_shortest`**: the stars of a message are the shortest texts that fill, if the
  engine takes the pattern.
-/

namespace Repartee

open Regex

/-- The texts that the groups captured, those that took no part left out. -/
def Regex.Outcome.texts (o : Outcome) : List Text := o.captures.filterMap (·.map Span.text)

theorem Regex.Outcome.texts_andThen (o q : Outcome) :
    (o.andThen q).texts = o.texts ++ q.texts := List.filterMap_append

theorem Regex.Place.Reads.text_eq {p q : Place} {u : Text} (h : p.Reads u q) :
    (⟨p, q⟩ : Span).text = u := by
  rw [Span.text, h.pos, h.rest, Nat.add_sub_cancel_left, List.take_left']
  rfl

theorem Regex.Place.Reads.texts_eq {p q : Place} {u : Text} (h : p.Reads u q) :
    Outcome.texts ⟨[some ⟨p, q⟩], q⟩ = [u] := by
  rw [Outcome.texts, List.filterMap_cons, Option.map_some, h.text_eq]
  rfl

namespace Pattern

/-- The wildcard that a character stands for. -/
def wildcard? : Char → Option Wildcard
  | '*' => some .any
  | '#' => some .digits
  | '_' => some .word
  | _ => none

/-- Texts in place of the wildcards of a pattern give a message. -/
inductive Fills : Text → List Text → Text → Prop
  | nil : Fills [] [] []
  | char {c : Char} {t : Text} {us : List Text} {m : Text} : wildcard? c = none →
    Fills t us m → Fills (c :: t) us (c :: m)
  | wild {c : Char} {w : Wildcard} {t u : Text} {us : List Text} {m : Text} :
    wildcard? c = some w → u ∈ w.language → Fills t us m → Fills (c :: t) (u :: us) (u ++ m)

/-- The first of the texts that differ is shorter. -/
def Shorter : List Text → List Text → Prop := List.Lex fun u v => u.length < v.length

/-- Of the texts that fill a pattern the first is as short as possible, then the second, and so
on. -/
structure Shortest (t : Text) (us : List Text) (m : Text) : Prop where
  fills : Fills t us m
  least : ∀ vs, Fills t vs m → vs = us ∨ Shorter us vs

variable {s : Scope} {c : Char} {t m : Text} {us : List Text} {p q : Place} {o : Outcome}

theorem wildcard?_eq_none (h : c ≠ '*' ∧ c ≠ '#' ∧ c ≠ '_') : wildcard? c = none := by
  unfold wildcard?
  split
  · exact absurd rfl h.1
  · exact absurd rfl h.2.1
  · exact absurd rfl h.2.2
  · rfl

/-! ## Reading -/

/-- The part that a character is. -/
def flatItem (c : Char) : Item := ((wildcard? c).map Item.wild).getD (.char c)

/-- The piece of a character. -/
def flatPiece (c : Char) : Piece :=
  ((wildcard? c).map fun w => .part (wildcard true w) (wildcardNesting w)).getD (.char c)

/-- No bracket opens, and no array or tag begins. -/
def IsFlat (t : Text) : Prop := ∀ c ∈ t, c ∉ ['[', '(', '<', '@']

instance : DecidablePred IsFlat := fun t =>
  decidable_of_iff (t.all (· ∉ ['[', '(', '<', '@'])) List.all_iff_forall_prop

theorem IsFlat.tidy (h : IsFlat t) : IsFlat (tidy t) := by
  have hsign (c : Char) (hc : ['[', '(', '<', '@'].contains c) : isSign c := by
    have hall : ∀ d ∈ ['[', '(', '<', '@'], isSign d := List.all_iff_forall_prop.1 (by decide)
    exact hall c (by simpa using hc)
  have hnone : t.filter ['[', '(', '<', '@'].contains = [] :=
    List.filter_eq_nil_iff.2 fun c hc => by simpa using h c hc
  intro c hc
  simpa using List.filter_eq_nil_iff.1 ((filter_tidy hsign t).trans hnone) c hc

theorem parseUpTo_flat : ∀ {n : Nat} {t : Text}, IsFlat t → t.length ≤ n →
    parseUpTo n t = t.map flatItem
  | 0, [], _, _ => rfl
  | _ + 1, [], _, _ => rfl
  | n + 1, c :: cs, h, hn => by
    have ih := parseUpTo_flat (fun d hd => h d (List.mem_cons_of_mem c hd))
      (Nat.le_of_succ_le_succ hn)
    have hc := h c List.mem_cons_self
    have hnext {i : Item} (hi : flatItem c = i) :
        i :: parseUpTo n cs = (c :: cs).map flatItem := by
      rw [List.map_cons, hi, ih]
    unfold parseUpTo
    split
    · exact hnext rfl
    · exact hnext rfl
    · exact hnext rfl
    · exact absurd (by decide) hc
    · exact absurd (by decide) hc
    · exact absurd (by decide) hc
    · exact absurd (by decide) hc
    · rename_i hany hdigits hword _ _ _ _
      exact hnext (by rw [flatItem, wildcard?_eq_none ⟨hany, hdigits, hword⟩]; rfl)

theorem parse_flat (h : IsFlat t) : parse t = t.map flatItem :=
  parseUpTo_flat h (Nat.le_refl _)

theorem piecesOf?_flat : ∀ t : Text, piecesOf? s (t.map flatItem) = some (t.map flatPiece)
  | [] => rfl
  | c :: t => by
    have hitem : itemPieces? s (flatItem c) = some [flatPiece c] := by
      rw [flatItem, flatPiece]
      cases wildcard? c <;> rfl
    rw [List.map_cons, piecesOf?, hitem, piecesOf?_flat t]
    rfl

theorem allSimple_flat (t : Text) : allSimple (t.map flatItem) := by
  refine allSimple_iff.2 fun i hi => ?_
  obtain ⟨c, -, rfl⟩ := List.mem_map.1 hi
  rw [flatItem]
  cases wildcard? c <;> rfl

theorem nesting_flat (t : Text) : nesting s (t.map flatItem) < nestingLimit := by
  have hpiece (c : Char) : (flatPiece c).nesting ≤ 4 := by
    rw [flatPiece]
    cases wildcard? c with
    | none => exact Nat.zero_le 4
    | some w =>
      have hw : wildcardNesting w ≤ 4 := by cases w <;> decide
      exact hw
  have hdeep : nesting s (t.map flatItem) ≤ 4 := by
    rw [nesting, piecesOf?_flat]
    refine deepest_le.2 fun n hn => ?_
    simp only [Option.getD_some, List.map_map, List.mem_map, Function.comp_apply] at hn
    obtain ⟨c, -, rfl⟩ := hn
    exact hpiece c
  exact Nat.lt_of_le_of_lt hdeep (by decide)

/-- The expression of a character. -/
def flatRegex (c : Char) : Regex := (flatPiece c).regex

theorem compile_flat (t : Text) :
    compile s (t.map flatItem) = .ok (concat (t.map flatRegex)) := by
  rcases compile_eq (s := s) (allSimple_flat t) with ⟨hnone, -⟩ | ⟨ps, hps, hc⟩
  · rw [piecesOf?_flat] at hnone
    cases hnone
  · rw [piecesOf?_flat] at hps
    cases hps
    rw [hc, if_neg (Nat.not_le.2 (nesting_flat t)), joinPieces, List.reverse_reverse, List.map_map]
    rfl

/-! ## Ways to fill -/

theorem flatRegex_of_none (h : wildcard? c = none) : flatRegex c = Regex.char c := by
  rw [flatRegex, flatPiece, h]
  rfl

theorem flatRegex_of_some {w : Wildcard} (h : wildcard? c = some w) :
    flatRegex c = wildcard true w := by
  rw [flatRegex, flatPiece, h]
  rfl

theorem mem_ways_char : o ∈ (Regex.char c).ways p ↔ ∃ q, p.Reads [c] q ∧ o = ⟨[], q⟩ := by
  simp [Regex.char, mem_ways_one]

theorem mem_ways_wildcard {w : Wildcard} (hp : '\n' ∉ p.rest) : o ∈ (wildcard true w).ways p ↔
    ∃ u ∈ w.language, ∃ q, p.Reads u q ∧ o = ⟨[some ⟨p, q⟩], q⟩ := by
  have hdenotes := denotes_wildcard w
  have hform : ∀ o ∈ (wildcard true w).ways p, o = ⟨[some ⟨p, o.stop⟩], o.stop⟩ := by
    intro o ho
    obtain ⟨x, hx, rfl⟩ := List.mem_map.1 ho
    obtain ⟨q, -, rfl⟩ := List.mem_map.1 hx
    rfl
  constructor
  · intro ho
    obtain ⟨u, hu, hr⟩ := (hdenotes.reaches p o.stop hp).1
      ((mem_stops_ways hdenotes.plain p o.stop).1 (List.mem_map_of_mem ho))
    exact ⟨u, hu, o.stop, hr, hform o ho⟩
  · rintro ⟨u, hu, q, hr, rfl⟩
    obtain ⟨o, ho, rfl⟩ := List.mem_map.1 ((mem_stops_ways hdenotes.plain p q).2
      ((hdenotes.reaches p q hp).2 ⟨u, hu, hr⟩))
    rwa [← hform o ho]

/-- Every way to match gives texts that fill the pattern. -/
theorem fills_of_mem_ways : ∀ {t : Text} {p : Place} {o : Outcome}, '\n' ∉ p.rest →
    o ∈ waysAll (t.map flatRegex) p → ∃ m, Fills t o.texts m ∧ p.Reads m o.stop ∧
      o.captures.map (·.map Span.text) = o.texts.map some
  | [], p, o, _, h => by
    rw [List.mem_singleton.1 h]
    exact ⟨[], .nil, Place.reads_nil.2 rfl, rfl⟩
  | c :: t, p, o, hp, h => by
    obtain ⟨x, hx, h⟩ := List.mem_flatMap.1 h
    obtain ⟨y, hy, rfl⟩ := List.mem_map.1 h
    rw [Outcome.texts_andThen]
    cases hc : wildcard? c with
    | none =>
      rw [flatRegex_of_none hc] at hx
      obtain ⟨q, hq, rfl⟩ := mem_ways_char.1 hx
      obtain ⟨m, hm, hr, htexts⟩ := fills_of_mem_ways (hq.notMem hp).2 hy
      exact ⟨c :: m, .char hc hm, hq.append hr, htexts⟩
    | some w =>
      rw [flatRegex_of_some hc] at hx
      obtain ⟨u, hu, q, hq, rfl⟩ := (mem_ways_wildcard hp).1 hx
      obtain ⟨m, hm, hr, htexts⟩ := fills_of_mem_ways (hq.notMem hp).2 hy
      rw [hq.texts_eq]
      refine ⟨u ++ m, .wild hc hu hm, hq.append hr, ?_⟩
      rw [List.map_append, ← htexts, Outcome.andThen, List.map_append]
      simp [hq.text_eq]

/-- Texts that fill the pattern are a way to match. -/
theorem exists_way (h : Fills t us m) : ∀ {p q : Place}, '\n' ∉ p.rest → p.Reads m q →
    ∃ o ∈ waysAll (t.map flatRegex) p, o.stop = q ∧ o.texts = us := by
  induction h with
  | nil =>
    intro p q _ hr
    exact ⟨⟨[], p⟩, List.mem_singleton_self _, (Place.reads_nil.1 hr).symm, rfl⟩
  | @char c t us m hc _ ih =>
    intro p q hp hr
    obtain ⟨x, hx, hr⟩ := Place.reads_append.1 (List.singleton_append ▸ hr)
    obtain ⟨o, ho, rfl, rfl⟩ := ih (hx.notMem hp).2 hr
    refine ⟨Outcome.andThen ⟨[], x⟩ o, List.mem_flatMap.2 ⟨⟨[], x⟩, ?_, List.mem_map_of_mem ho⟩,
      rfl, rfl⟩
    rw [flatRegex_of_none hc]
    exact mem_ways_char.2 ⟨x, hx, rfl⟩
  | @wild c w t u us m hc hu _ ih =>
    intro p q hp hr
    obtain ⟨x, hx, hr⟩ := Place.reads_append.1 hr
    obtain ⟨o, ho, rfl, rfl⟩ := ih (hx.notMem hp).2 hr
    refine ⟨Outcome.andThen ⟨[some ⟨p, x⟩], x⟩ o,
      List.mem_flatMap.2 ⟨⟨[some ⟨p, x⟩], x⟩, ?_, List.mem_map_of_mem ho⟩, rfl, ?_⟩
    · rw [flatRegex_of_some hc]
      exact (mem_ways_wildcard hp).2 ⟨u, hu, x, hx, rfl⟩
    · rw [Outcome.texts_andThen, hx.texts_eq]
      rfl

/-- A wildcard tries shorter texts first. -/
theorem pairwise_ways_wildcard (w : Wildcard) (p : Place) :
    ((wildcard true w).ways p).Pairwise fun o q => o.stop.pos < q.stop.pos := by
  simp only [wildcard, if_true, someLazy, ways, Bool.false_eq_true, if_false, List.map_map,
    List.pairwise_map]
  exact pairwise_run.drop

/-- **The ways to match are tried in the order of their texts.** -/
theorem pairwise_ways : ∀ {t : Text} {p : Place}, '\n' ∉ p.rest →
    (waysAll (t.map flatRegex) p).Pairwise fun o q => Shorter o.texts q.texts
  | [], _, _ => List.pairwise_singleton _ _
  | c :: t, p, hp => by
    rw [List.map_cons, waysAll, List.pairwise_flatMap]
    cases hc : wildcard? c with
    | none =>
      rw [flatRegex_of_none hc]
      refine ⟨fun x hx => List.pairwise_map.2 ?_, ?_⟩
      · obtain ⟨q, hq, rfl⟩ := mem_ways_char.1 hx
        exact pairwise_ways (hq.notMem hp).2
      · -- a literal character is matched in one way at most
        simp only [Regex.char, ways]
        split
        · exact .nil
        · split
          · exact List.pairwise_singleton _ _
          · exact .nil
    | some w =>
      rw [flatRegex_of_some hc]
      refine ⟨fun x hx => List.pairwise_map.2 ?_, ?_⟩
      · obtain ⟨u, -, q, hq, rfl⟩ := (mem_ways_wildcard hp).1 hx
        refine (pairwise_ways (hq.notMem hp).2).imp fun {y z} h => ?_
        rw [Outcome.texts_andThen, Outcome.texts_andThen, hq.texts_eq]
        exact List.Lex.cons h
      · refine (pairwise_ways_wildcard w p).imp_of_mem fun {x y} hx hy h => ?_
        obtain ⟨u, -, q, hu, rfl⟩ := (mem_ways_wildcard hp).1 hx
        obtain ⟨v, -, r, hv, rfl⟩ := (mem_ways_wildcard hp).1 hy
        intro a ha b hb
        obtain ⟨a, -, rfl⟩ := List.mem_map.1 ha
        obtain ⟨b, -, rfl⟩ := List.mem_map.1 hb
        have hlt : u.length < v.length := by
          have h₁ := hu.pos
          have h₂ := hv.pos
          change q.pos < r.pos at h
          omega
        rw [Outcome.texts_andThen, Outcome.texts_andThen, hu.texts_eq, hv.texts_eq]
        exact List.Lex.rel hlt

/-! ## Matching -/

theorem plain_flat (t : Text) : (concat (t.map flatRegex)).plain := by
  have h := match_piecesOf (s := .blank) (allSimple_flat t)
  rw [piecesOf?_flat, Match, List.map_map] at h
  exact h.concat.plain

/-- The texts that fill the pattern to give the whole message are the ways to match it. -/
theorem exists_whole_way (hm : '\n' ∉ m) : Fills t us m ↔
    ∃ o ∈ waysAll (t.map flatRegex) (.begin m), o.stop.rest = [] ∧ o.texts = us := by
  constructor
  · intro h
    obtain ⟨hr, hrest⟩ := Place.reads_begin.2 ⟨rfl, rfl⟩
    obtain ⟨o, ho, hstop, htexts⟩ := exists_way h hm hr
    exact ⟨o, ho, hstop ▸ hrest, htexts⟩
  · rintro ⟨o, ho, hrest, rfl⟩
    obtain ⟨u, hu, hr, -⟩ := fills_of_mem_ways hm ho
    obtain ⟨rfl, -⟩ := Place.reads_begin.1 ⟨hr, hrest⟩
    exact hu

theorem fullMatch?_flat (t m : Text) : (concat (t.map flatRegex)).fullMatch? m =
    ((waysAll (t.map flatRegex) (.begin m)).find? fun o => o.stop.rest.isEmpty).map fun o =>
      o.captures.map fun c => c.map Span.text := by
  rw [fullMatch?_eq (plain_flat t), ways_concat]

/-- A flat pattern is matched where some texts fill it. -/
theorem fullMatch?_flat_isSome (hm : '\n' ∉ m) :
    ((concat (t.map flatRegex)).fullMatch? m).isSome ↔ ∃ us, Fills t us m := by
  simp only [fullMatch?_flat, Option.isSome_map, List.find?_isSome, List.isEmpty_iff,
    exists_whole_way hm]
  constructor
  · rintro ⟨o, ho, hrest⟩
    exact ⟨o.texts, o, ho, hrest, rfl⟩
  · rintro ⟨_, o, ho, hrest, -⟩
    exact ⟨o, ho, hrest⟩

/-- A flat pattern captures the shortest texts that fill it. -/
theorem shortest_of_fullMatch? (hm : '\n' ∉ m) {captures : List (Option Text)}
    (h : (concat (t.map flatRegex)).fullMatch? m = some captures) :
    ∃ us, captures = us.map some ∧ Shortest t us m := by
  rw [fullMatch?_flat] at h
  obtain ⟨o, ho, rfl⟩ := Option.map_eq_some_iff.1 h
  obtain ⟨hrest, before, behind, hways, hbefore⟩ := List.find?_eq_some_iff_append.1 ho
  have hmem : o ∈ waysAll (t.map flatRegex) (.begin m) := List.mem_of_find?_eq_some ho
  obtain ⟨-, -, -, htexts⟩ := fills_of_mem_ways hm hmem
  refine ⟨o.texts, htexts, ?_, fun vs hvs => ?_⟩
  · exact (exists_whole_way hm).2 ⟨o, hmem, List.isEmpty_iff.1 hrest, rfl⟩
  · -- whatever fills the pattern is a way that is not tried before
    obtain ⟨q, hq, hq₀, rfl⟩ := (exists_whole_way hm).1 hvs
    have hsorted := pairwise_ways (t := t) (p := .begin m) hm
    rw [hways, List.pairwise_append, List.pairwise_cons] at hsorted
    rw [hways] at hq
    rcases List.mem_append.1 hq with hq | hq
    · exact absurd (hbefore q hq) (by simp [hq₀])
    rcases List.mem_cons.1 hq with rfl | hq
    · exact .inl rfl
    · exact .inr (hsorted.2.1.1 q hq)

/-- A text without wildcards is filled by no texts, and gives itself. -/
theorem fills_of_not_isSpecial : ∀ {t : Text}, t.any isSpecial = false → ∀ {us : List Text}
    {m : Text}, Fills t us m ↔ us = [] ∧ m = t
  | [], _, us, m => by
    constructor
    · rintro ⟨⟩
      exact ⟨rfl, rfl⟩
    · rintro ⟨rfl, rfl⟩
      exact .nil
  | c :: t, h, us, m => by
    rw [List.any_cons, Bool.or_eq_false_iff] at h
    have hne {d : Char} (hd : isSpecial d) : c ≠ d := by
      rintro rfl
      rw [h.1] at hd
      exact Bool.false_ne_true hd
    have hc : wildcard? c = none := wildcard?_eq_none ⟨hne rfl, hne rfl, hne rfl⟩
    constructor
    · intro hf
      cases hf with
      | char _ hf =>
        obtain ⟨rfl, rfl⟩ := (fills_of_not_isSpecial h.2).1 hf
        exact ⟨rfl, rfl⟩
      | wild hw _ _ =>
        rw [hc] at hw
        cases hw
    · rintro ⟨rfl, rfl⟩
      exact .char hc ((fills_of_not_isSpecial h.2).2 ⟨rfl, rfl⟩)

/-- The lone `*` stands for every text of one line but the empty one. -/
theorem fills_any : Fills ['*'] us m ↔ us = [m] ∧ m ≠ [] := by
  constructor
  · intro h
    cases h with
    | char hc _ => cases hc
    | wild hw hu ht =>
      cases hw
      cases ht
      rw [List.append_nil]
      exact ⟨rfl, hu.1⟩
  · rintro ⟨rfl, hm⟩
    have hfills : Fills ['*'] [m] (m ++ []) := .wild rfl ⟨hm, fun _ _ => trivial⟩ .nil
    rwa [List.append_nil] at hfills

theorem toList_stars (us : List Text) :
    ((us.map some).map fun c => (c.map String.ofList).getD undefined).map String.toList = us := by
  rw [List.map_map, List.map_map]
  exact (List.map_congr_left fun v _ => String.toList_ofList).trans (List.map_id us)

/-- **The stars of a message are the shortest texts that fill the tidied pattern**, which has
neither brackets nor arrays and tags, if the engine takes it. Only the lone `*` matches more, the
empty message. -/
theorem stars_shortest (s : Scope) {p : String} {m : Text} (hflat : IsFlat p.toList)
    (htakes : s.Takes p.toList) (hlone : tidy p.toList = ['*'] → m ≠ []) (hm : '\n' ∉ m) :
    ((stars? s p m).isSome ↔ ∃ us, Fills (tidy p.toList) us m) ∧
      ∀ us ∈ stars? s p m, Shortest (tidy p.toList) (us.map String.toList) m := by
  rw [stars?, matcher_of_takes htakes]
  cases hs : (tidy p.toList).any isSpecial with
  | false =>
    have hfills {us : List Text} : Fills (tidy p.toList) us m ↔ us = [] ∧ m = tidy p.toList :=
      fills_of_not_isSpecial hs
    simp only [Bool.not_false, if_true, Matcher.stars?, hfills]
    by_cases he : tidy p.toList = m
    · refine ⟨by simp [he], fun us hus => ?_⟩
      obtain rfl : us = [] := by simpa [he] using hus.symm
      exact ⟨hfills.2 ⟨rfl, he.symm⟩, fun vs hvs => .inl (hfills.1 hvs).1⟩
    · have he' : m ≠ tidy p.toList := fun h => he h.symm
      refine ⟨by simp [he, he'], fun us hus => ?_⟩
      simp [he] at hus
  | true =>
    simp only [Bool.not_true, Bool.false_eq_true, if_false]
    by_cases hany : tidy p.toList = ['*']
    · have hfills : Fills (tidy p.toList) [m] m := by
        rw [hany]
        exact fills_any.2 ⟨rfl, hlone hany⟩
      simp only [expression, if_pos hany, Except.map, Matcher.stars?, fullMatch?_anything hm,
        Option.map_some]
      refine ⟨⟨fun _ => ⟨[m], hfills⟩, fun _ => rfl⟩, fun us hus => ?_⟩
      obtain rfl := Option.some.inj hus
      have hstars := toList_stars [m]
      rw [List.map_singleton] at hstars
      rw [hstars]
      exact ⟨hfills, fun vs hvs => .inl (fills_any.1 (hany ▸ hvs)).1⟩
    · rw [expression, if_neg hany, parse_flat hflat.tidy, compile_flat]
      simp only [Except.map, Matcher.stars?]
      constructor
      · rw [Option.isSome_map]
        exact fullMatch?_flat_isSome hm
      · intro us hus
        obtain ⟨captures, hcaptures, rfl⟩ := Option.map_eq_some_iff.1 hus
        obtain ⟨vs, rfl, hvs⟩ := shortest_of_fullMatch? hm hcaptures
        rwa [toList_stars vs]

/-- The first star ends as soon as it can. -/
theorem leftover_shortest :
    IsFlat "* is *".toList ∧ Scope.blank.Takes "* is *".toList ∧
      (tidy "* is *".toList = ['*'] → "this is what is left".toList ≠ []) ∧
      '\n' ∉ "this is what is left".toList ∧
      Shortest "* is *".toList ["this".toList, "what is left".toList]
        "this is what is left".toList := by
  have hflat : IsFlat "* is *".toList := by decide
  have htidy : tidy "* is *".toList = "* is *".toList := by decide +kernel
  have htakes : Scope.blank.Takes "* is *".toList :=
    Scope.takes_of_forall Engine.unlimited_takes
  have hlone : tidy "* is *".toList = ['*'] → "this is what is left".toList ≠ [] :=
    fun _ => by decide
  have hline : '\n' ∉ "this is what is left".toList := by decide
  have hstars : stars? .blank "* is *" "this is what is left".toList =
      some ["this", "what is left"] := by decide +kernel
  have h := (stars_shortest .blank hflat htakes hlone hline).2 _ hstars
  rw [htidy] at h
  exact ⟨hflat, htakes, hlone, hline, h⟩

end Pattern

end Repartee

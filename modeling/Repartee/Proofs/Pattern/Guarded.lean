import Repartee.Pattern.Check
import Repartee.Proofs.Pattern.Closed

/-!
# What the check of brackets guards

The check of a pattern counts its brackets, and what is compiled has to nest them.

* `Pattern.Matched`: as many closing as opening brackets, or more; a nested text if they are as
  many.
* `Pattern.Compile.Tells`: a run ends with an open bracket, or it goes on with few optionals met.
* `Pattern.tells_parseUpTo`: a text without arrays and tags is matched, or has an open bracket.
* **`Pattern.closed_of_accepted`**: an accepted pattern that is nested is not refused for an open
  bracket; without arrays and tags the others are.
-/

namespace Repartee

/-! ## Alternatives -/

theorem Text.trim_sublist (t : Text) : t.trim.Sublist t := by
  have hleft (u : Text) : u.trimLeft.Sublist u := List.dropWhile_sublist isBlank
  have hright : (trimRight t.trimLeft).Sublist t.trimLeft := by
    have h := (hleft (trimLeft t).reverse).reverse
    rwa [List.reverse_reverse] at h
  exact hright.trans (hleft t)

theorem Text.sublist_behind (u : Text) (c : Char) (v : Text) : v.Sublist (u ++ c :: v) :=
  (List.sublist_cons_self c v).trans (List.sublist_append_right u _)

namespace Pattern

variable {l r c : Char} {t u v : Text}

theorem flatten_beforeFirst (w : Text) (ws : List Text) :
    (beforeFirst w ws).flatten = w ++ ws.flatten := by
  cases ws with
  | nil => simp [beforeFirst]
  | cons v ws => rw [beforeFirst, List.flatten_cons, List.flatten_cons, List.append_assoc]

/-- Cutting takes away pipes. -/
theorem flatten_splitAt : ∀ (t : Text) (d : Int), (splitAt d t).flatten.Sublist t ∧
    ∀ {keep : Char → Bool}, keep '|' = false → (splitAt d t).flatten.filter keep = t.filter keep
  | [], d => ⟨List.Sublist.refl _, fun _ => rfl⟩
  | c :: cs, d => by
    by_cases hc : c = '|' ∧ d = 0
    · obtain ⟨rfl, rfl⟩ := hc
      obtain ⟨hsub, hkeep⟩ := flatten_splitAt cs 0
      rw [splitAt_cons_bar]
      exact ⟨hsub.cons _, fun hbar => by
        rw [List.filter_cons_of_neg (by simp [hbar])]
        exact hkeep hbar⟩
    · rw [splitAt_cons hc, flatten_beforeFirst]
      obtain ⟨hsub, hkeep⟩ := flatten_splitAt cs
        (if c = '(' ∨ c = '[' then d + 1 else if c = ')' ∨ c = ']' then d - 1 else d)
      exact ⟨hsub.cons_cons c, fun hbar => by
        rw [List.singleton_append, List.filter_cons, List.filter_cons, hkeep hbar]⟩

theorem flatten_map_trim : ∀ ws : List Text, (ws.map Text.trim).flatten.Sublist ws.flatten ∧
    ∀ {keep : Char → Bool}, (∀ c, isBlank c → keep c = false) →
      (ws.map Text.trim).flatten.filter keep = ws.flatten.filter keep
  | [] => ⟨List.Sublist.refl _, fun _ => rfl⟩
  | w :: ws => by
    obtain ⟨hsub, hkeep⟩ := flatten_map_trim ws
    simp only [List.map_cons, List.flatten_cons, List.filter_append]
    exact ⟨(Text.trim_sublist w).append hsub, fun hb => by rw [Text.filter_trim hb, hkeep hb]⟩

/-- The alternatives of a bracket are parts of it, one after another. -/
theorem flatten_alternatives (t : Text) : (alternatives t).flatten.Sublist t := by
  rw [alternatives, Text.flatten_filter_isEmpty]
  exact (flatten_map_trim _).1.trans (flatten_splitAt t 0).1

/-- The alternatives of a bracket have all its brackets. -/
theorem filter_alternatives (t : Text) :
    (alternatives t).flatten.filter isBracket = t.filter isBracket := by
  rw [alternatives, Text.flatten_filter_isEmpty, (flatten_map_trim _).2, (flatten_splitAt t 0).2]
  · decide
  · exact fun _ => isBracket_of_isBlank

theorem closeGroup?_eq_some : ∀ {d : Nat} {t u v : Text}, closeGroup? d t = some (u, v) →
    t = u ++ ')' :: v
  | 0, c :: cs, u, v, h => by
    rw [closeGroup?] at h
    split at h
    · rename_i hc
      cases h
      rw [hc]
      rfl
    · obtain ⟨⟨u, v⟩, hr, he⟩ := Option.map_eq_some_iff.1 h
      cases he
      rw [closeGroup?_eq_some hr]
      rfl
  | d + 1, c :: cs, u, v, h => by
    rw [closeGroup?] at h
    obtain ⟨⟨u, v⟩, hr, he⟩ := Option.map_eq_some_iff.1 h
    cases he
    rw [closeGroup?_eq_some hr]
    rfl

/-! ## Matched brackets -/

/-- No kind of bracket opens more often than it closes; where they are as many, the text is
nested. -/
structure Matched (t : Text) : Prop where
  count_le : ∀ {l r : Char}, Pair l r → t.count l ≤ t.count r
  nested : (∀ {l r : Char}, Pair l r → t.count l = t.count r) → Nested t

namespace Matched

theorem nil : Matched [] := ⟨fun _ => Nat.le_refl 0, fun _ => .nil⟩

/-- Only brackets matter. -/
theorem of_filter (h : Matched u) (he : u.filter isBracket = t.filter isBracket) : Matched t := by
  have hcount {c : Char} (hc : isBracket c) : u.count c = t.count c := by
    rw [← List.count_filter hc, he, List.count_filter hc]
  refine ⟨fun hp => ?_, fun heq => ?_⟩
  · rw [← hcount hp.isBracket_left, ← hcount hp.isBracket_right]
    exact h.count_le hp
  · refine nested_filter.1 (he ▸ nested_filter.2 (h.nested fun hp => ?_))
    rw [hcount hp.isBracket_left, hcount hp.isBracket_right]
    exact heq hp

theorem append (ht : Matched t) (hu : Matched u) : Matched (t ++ u) where
  count_le hp := by
    rw [List.count_append, List.count_append]
    exact Nat.add_le_add (ht.count_le hp) (hu.count_le hp)
  nested h := by
    -- neither side can make up for the other
    have hboth {l r : Char} (hp : Pair l r) : t.count l = t.count r ∧ u.count l = u.count r := by
      have heq := h hp
      have h₁ := ht.count_le hp
      have h₂ := hu.count_le hp
      rw [List.count_append, List.count_append] at heq
      omega
    exact (ht.nested fun hp => (hboth hp).1).append (hu.nested fun hp => (hboth hp).2)

/-- A character that is no opening bracket. -/
theorem char (h : Matched t) (hc : ∀ {l r : Char}, Pair l r → c ≠ l) : Matched (c :: t) := by
  have hleft {l r : Char} (hp : Pair l r) : (c :: t).count l = t.count l :=
    List.count_cons_of_ne (hc hp)
  have hright (r : Char) : t.count r ≤ (c :: t).count r := List.count_le_count_cons
  refine ⟨fun hp => ?_, fun heq => ?_⟩
  · rw [hleft hp]
    exact Nat.le_trans (h.count_le hp) (hright _)
  · have hne {l r : Char} (hp : Pair l r) : c ≠ r := by
      rintro rfl
      have h₁ := heq hp
      have h₂ := h.count_le hp
      rw [hleft hp, List.count_cons_self] at h₁
      omega
    refine .char ?_ (h.nested fun hp => ?_)
    · exact isBracket_eq_false.2 ⟨hc .round, hne .round, hc .square, hne .square⟩
    · have h₁ := heq hp
      rwa [hleft hp, List.count_cons_of_ne (hne hp)] at h₁

/-- A pair of brackets around a matched text. -/
theorem brackets (hp : Pair l r) (ht : Matched t) (hl : l = '[' → ']' ∉ t) :
    Matched (l :: (t ++ [r])) := by
  have hcount {l' r' : Char} (hp' : Pair l' r') : (l :: (t ++ [r])).count l' + t.count r' =
      (l :: (t ++ [r])).count r' + t.count l' := by
    simp only [List.count_cons, List.count_append, List.count_nil]
    cases hp <;> cases hp' <;> simp <;> omega
  refine ⟨fun hp' => ?_, fun heq => ?_⟩
  · have h₁ := hcount hp'
    have h₂ := ht.count_le hp'
    omega
  · refine .brackets hp (ht.nested fun hp' => ?_) (fun h hm => ?_) .nil
    · have h₁ := hcount hp'
      have h₂ := heq hp'
      omega
    · have h₁ := ht.count_le .square
      rw [List.count_eq_zero.2 (hl h)] at h₁
      exact absurd (List.count_pos_iff.2 hm) (by omega)

end Matched

/-! ## Runs of the compiler -/

namespace Compile

variable {α β : Type} {x : Compile α} {f : α → Compile β} {m m' : Nat} {P : α → Prop}
  {Q : β → Prop}

/-- If there is room for so many optionals, a run ends with an open bracket, or it counts no more
of them and its result has a property. -/
def Tells (x : Compile α) (m : Nat) (P : α → Prop) : Prop :=
  ∀ n, n + m ≤ optionalLimit → (∃ b k, x.run n = (.error (.unclosed b), k)) ∨
    ∃ a k, x.run n = (.ok a, k) ∧ k ≤ n + m ∧ P a

namespace Tells

theorem pure {a : α} (h : P a) : Tells (Pure.pure a : Compile α) 0 P :=
  fun n _ => .inr ⟨a, n, rfl, Nat.le_refl n, h⟩

theorem unclosed (b : Char) : (throw (.unclosed b) >>= f).Tells m Q :=
  fun n _ => .inl ⟨b, n, rfl⟩

theorem mono {P' : α → Prop} (h : x.Tells m P) (hm : m ≤ m') (hP : ∀ a, P a → P' a) :
    x.Tells m' P' := by
  intro n hn
  rcases h n (by omega) with he | ⟨a, k, hrun, hk, ha⟩
  · exact .inl he
  · exact .inr ⟨a, k, hrun, by omega, hP a ha⟩

theorem bind (hx : x.Tells m P) (hf : ∀ a, P a → (f a).Tells m' Q) :
    (x >>= f).Tells (m + m') Q := by
  intro n hn
  rcases hx n (by omega) with ⟨b, k, hrun⟩ | ⟨a, k, hrun, hk, ha⟩
  · exact .inl ⟨b, k, run_bind_error hrun⟩
  · rw [run_bind_ok hrun]
    rcases hf a ha k (by omega) with he | ⟨c, j, hrun, hj, hc⟩
    · exact .inl he
    · exact .inr ⟨c, j, hrun, by omega, hc⟩

/-- Nothing more is counted. -/
theorem bind_pure (hx : x.Tells m P) (hf : ∀ a, P a → (f a).Tells 0 Q) : (x >>= f).Tells m Q :=
  hx.bind hf

theorem orMissing (hx : x.Tells m P) :
    x.orMissing.Tells m fun r => ∃ a, r = .ok a ∧ P a := by
  intro n hn
  rcases hx n hn with ⟨b, k, hrun⟩ | ⟨a, k, hrun, hk, ha⟩
  · refine .inl ⟨b, k, ?_⟩
    rw [Compile.orMissing, run_tryCatch, map_eq_pure_bind, run_bind_error hrun]
    rfl
  · exact .inr ⟨.ok a, k, run_orMissing_ok hrun, hk, a, rfl, ha⟩

end Tells

theorem tells_countOptional : countOptional.Tells 1 fun _ => True := by
  intro n hn
  refine .inr ⟨(), n + 1, ?_, Nat.le_refl _, trivial⟩
  rw [run_countOptional, if_neg (Nat.not_lt.2 hn)]

end Compile

variable {s : Scope} {captured : Bool} {out : List Piece} {iss : List (List Item)} {m : Nat}
  {P : Prop}

theorem tells_optional (h : (compileEach s false iss >>= survivors).Tells m fun _ => P) :
    (compileItem s captured out (.optional iss)).Tells (1 + m) fun _ => P := by
  rw [compileItem]
  refine Compile.tells_countOptional.bind fun _ _ => h.orMissing.bind_pure ?_
  rintro _ ⟨outs, rfl, hP⟩
  exact .pure hP

theorem tells_group (h : (compileEach s captured iss >>= survivors).Tells m fun _ => P) :
    (compileItem s captured out (.group iss)).Tells m fun _ => P := by
  rw [compileItem]
  exact h.bind_pure fun _ hP => .pure hP

/-- Alternatives are matched if each of them is. -/
theorem tells_compileEach {n : Nat} : ∀ {ws : List Text}, (∀ w ∈ ws, ∀ captured out,
      (compileItems s captured out (parseUpTo n w)).Tells (w.count '[') fun _ => Matched w) →
    (compileEach s captured (ws.map (parseUpTo n))).Tells (ws.flatten.count '[') fun r =>
      r.2 = none ∧ Matched ws.flatten
  | [], _ => .pure ⟨rfl, .nil⟩
  | w :: ws, h => by
    rw [List.forall_mem_cons] at h
    rw [List.map_cons, compileEach, List.flatten_cons, List.count_append]
    refine (h.1 captured []).orMissing.bind ?_
    rintro _ ⟨out, rfl, hw⟩
    refine (tells_compileEach h.2).bind_pure ?_
    rintro ⟨outs, missing⟩ ⟨hmissing, hws⟩
    exact .pure ⟨hmissing, hw.append hws⟩

theorem tells_survivors {n : Nat} (h : ∀ w ∈ alternatives t, ∀ captured out,
      (compileItems s captured out (parseUpTo n w)).Tells (w.count '[') fun _ => Matched w) :
    (compileEach s captured ((alternatives t).map (parseUpTo n)) >>= survivors).Tells
      (t.count '[') fun _ => Matched t := by
  have hbind : (compileEach s captured ((alternatives t).map (parseUpTo n)) >>= survivors).Tells
      ((alternatives t).flatten.count '[') fun _ => Matched (alternatives t).flatten := by
    refine (tells_compileEach h).bind_pure ?_
    rintro ⟨outs, missing⟩ ⟨rfl, hm⟩
    cases outs <;> exact .pure hm
  exact hbind.mono ((flatten_alternatives t).count_le '[') fun _ hm =>
    hm.of_filter (filter_alternatives t)

/-- A pair of brackets is matched if what is in it and what is behind it are. -/
theorem tells_brackets {inner rest behind : Text} {i : Item} {is : List Item} (hp : Pair l r)
    (hl : l = '[' → ']' ∉ inner) (hm : m ≤ (l :: inner).count '[')
    (hitem : (compileItem s captured out i).Tells m fun _ => Matched inner)
    (hitems : ∀ out, (compileItems s captured out is).Tells (behind.count '[')
      fun _ => Matched behind)
    (hsub : behind.Sublist rest) (hkeep : behind.filter isBracket = rest.filter isBracket) :
    (compileItems s captured out (i :: is)).Tells ((l :: (inner ++ r :: rest)).count '[')
      fun _ => Matched (l :: (inner ++ r :: rest)) := by
  have hsplit : l :: (inner ++ r :: rest) = l :: (inner ++ [r]) ++ rest := by simp
  rw [compileItems]
  refine (hitem.bind fun out' hinner => (hitems out').mono (Nat.le_refl _) fun _ hbehind =>
    (?_ : Matched (l :: (inner ++ r :: rest)))).mono ?_ fun _ h => h
  · rw [hsplit]
    exact (hinner.brackets hp hl).append (hbehind.of_filter hkeep)
  · have h₁ : behind.count '[' ≤ (r :: rest).count '[' :=
      Nat.le_trans (hsub.count_le '[') List.count_le_count_cons
    rw [← List.cons_append, List.count_append]
    exact Nat.add_le_add hm h₁

/-- **A text without arrays and tags is matched, or compiling it ends with an open bracket.** -/
theorem tells_parseUpTo (s : Scope) : ∀ (n : Nat) (t : Text), t.length ≤ n → '<' ∉ t → '@' ∉ t →
    ∀ captured out,
      (compileItems s captured out (parseUpTo n t)).Tells (t.count '[') fun _ => Matched t
  | 0, t, hn, _, _, _, _ => by
    obtain rfl := List.length_eq_zero_iff.1 (Nat.le_zero.1 hn)
    exact .pure .nil
  | _ + 1, [], _, _, _, _, _ => .pure .nil
  | n + 1, c :: cs, hn, htag, harray, captured, out => by
    rw [List.mem_cons, not_or] at htag harray
    have hlen : cs.length ≤ n := Nat.le_of_succ_le_succ hn
    have hpart {u : Text} (hu : u.Sublist cs) (captured : Bool) (out : List Piece) :
        (compileItems s captured out (parseUpTo n u)).Tells (u.count '[') fun _ => Matched u :=
      tells_parseUpTo s n u (Nat.le_trans hu.length_le hlen) (fun h => htag.2 (hu.subset h))
        (fun h => harray.2 (hu.subset h)) captured out
    have heach {u : Text} (hu : u.Sublist cs) : ∀ w ∈ alternatives u, ∀ captured out,
        (compileItems s captured out (parseUpTo n w)).Tells (w.count '[') fun _ => Matched w :=
      fun w hw => hpart <|
        ((List.sublist_flatten_of_mem hw).trans (flatten_alternatives u)).trans hu
    have hnext {i : Item} {out' : List Piece} (hc : ∀ {l r : Char}, Pair l r → c ≠ l)
        (hi : compileItem s captured out i = pure out') :
        (compileItems s captured out (i :: parseUpTo n cs)).Tells ((c :: cs).count '[')
          fun _ => Matched (c :: cs) := by
      rw [compileItems, hi, pure_bind]
      exact (hpart (List.Sublist.refl cs) captured out').mono List.count_le_count_cons
        fun _ hm => hm.char hc
    unfold parseUpTo
    split
    · exact hnext (fun hp => by cases hp <;> decide) rfl
    · exact hnext (fun hp => by cases hp <;> decide) rfl
    · exact hnext (fun hp => by cases hp <;> decide) rfl
    · split
      · rw [compileItems, compileItem]
        exact .unclosed '['
      · rename_i inner rest hcut
        obtain ⟨rfl, hno⟩ := Text.cut?_eq_some hcut
        have htrim : (Text.trimLeft rest).Sublist rest := List.dropWhile_sublist isBlank
        have hrest : rest.Sublist (inner ++ ']' :: rest) := Text.sublist_behind inner ']' rest
        refine tells_brackets .square (fun _ => hno) ?_
          (tells_optional (tells_survivors (heach (List.sublist_append_left inner _))))
          (hpart (htrim.trans hrest) captured) htrim (Text.filter_dropWhile
            (fun _ => isBracket_of_isBlank) rest)
        rw [List.count_cons_self, Nat.add_comm]
    · split
      · rw [compileItems, compileItem]
        exact .unclosed '('
      · rename_i inner rest hclose
        obtain rfl := closeGroup?_eq_some hclose
        have hrest : rest.Sublist (inner ++ ')' :: rest) := Text.sublist_behind inner ')' rest
        exact tells_brackets .round (fun h => absurd h (by decide)) List.count_le_count_cons
          (tells_group (tells_survivors (heach (List.sublist_append_left inner _))))
          (hpart hrest captured) (List.Sublist.refl rest) rfl
    · exact absurd rfl harray.1
    · exact absurd rfl htag.1
    · rename_i hsquare hround _ _
      exact hnext (fun hp => by cases hp <;> assumption) rfl

/-! ## Accepted patterns -/

/-- A text without opening brackets is matched. -/
theorem Matched.of_notMem (h : ∀ {l r : Char}, Pair l r → l ∉ t) : Matched t := by
  have hzero {l r : Char} (hp : Pair l r) : t.count l = 0 := List.count_eq_zero.2 (h hp)
  refine ⟨fun hp => by rw [hzero hp]; exact Nat.zero_le _, fun heq => .of_chars fun c hc => ?_⟩
  have hleft {l r : Char} (hp : Pair l r) : c ≠ l := fun he => h hp (he ▸ hc)
  have hright {l r : Char} (hp : Pair l r) : c ≠ r := by
    rintro rfl
    have hpos := List.count_pos_iff.2 hc
    rw [← heq hp, hzero hp] at hpos
    exact absurd hpos (Nat.lt_irrefl 0)
  exact isBracket_eq_false.2 ⟨hleft .round, hright .round, hleft .square, hright .square⟩

theorem count_tidy (hc : isSign c) : (tidy t).count c = t.count c := by
  have hkeep (d : Char) (hd : (d == c) = true) : isSign d := beq_iff_eq.1 hd ▸ hc
  have hfilter : ((tidy t).filter (· == c)).count c = (t.filter (· == c)).count c :=
    congrArg (List.count c) (filter_tidy hkeep t)
  have hself (u : Text) : (u.filter (· == c)).count c = u.count c :=
    List.count_filter (p := (· == c)) (beq_self_eq_true c)
  rwa [hself, hself] at hfilter

/-- A pattern without arrays and tags is matched if it is not refused for an open bracket. -/
theorem matched_of_matcher (htag : '<' ∉ t) (harray : '@' ∉ t) (hn : t.count '[' ≤ optionalLimit)
    (h : ∀ b, matcher s t ≠ .error (.unclosed b)) : Matched (tidy t) := by
  have hno {c : Char} (hc : isSign c) (hm : c ∉ t) : c ∉ tidy t := by
    rw [← List.count_eq_zero, count_tidy hc, List.count_eq_zero]
    exact hm
  cases hs : (tidy t).any isSpecial with
  | false =>
    refine .of_notMem fun {l r} hp hm => ?_
    have hl : isSpecial l := by cases hp <;> rfl
    rw [List.any_eq_true.2 ⟨l, hm, hl⟩] at hs
    cases hs
  | true =>
    rw [matcher_of_special hs] at h
    by_cases hany : tidy t = ['*']
    · rw [hany]
      exact .of_notMem fun hp => by cases hp <;> decide
    · rw [expression, if_neg hany] at h
      have htells := tells_parseUpTo s (tidy t).length (tidy t) (Nat.le_refl _) (hno rfl htag)
        (hno rfl harray) true [] 0
      rw [count_tidy rfl, Nat.zero_add] at htells
      rcases htells hn with ⟨b, k, hrun⟩ | ⟨_, _, _, _, hm⟩
      · exact absurd (by rw [compile, parse, hrun]; rfl) (h b)
      · exact hm

/-- **An accepted pattern that is nested is not refused for an open bracket.** Of the patterns
without arrays and tags all others are. -/
theorem closed_of_accepted (s : Scope) {utf8 : Bool} (h : Check.pattern utf8 t = none)
    (hn : t.count '[' ≤ optionalLimit) :
    (Nested t → ∀ b, matcher s t ≠ .error (.unclosed b)) ∧
      ('<' ∉ t → '@' ∉ t → (∀ b, matcher s t ≠ .error (.unclosed b)) → Nested t) := by
  have hbalanced {l r : Char} (hp : Pair l r) : t.count l = t.count r := by
    simp only [Check.pattern, Check.balanced] at h
    cases hp <;> grind
  refine ⟨fun ht => matcher_closed ht, fun htag harray hclosed => ?_⟩
  refine nested_tidy.1 ((matched_of_matcher htag harray hn hclosed).nested fun hp => ?_)
  have hsign {b : Char} (hb : isBracket b) : (tidy t).count b = t.count b :=
    count_tidy (isSign_of_isBracket hb)
  rw [hsign hp.isBracket_left, hsign hp.isBracket_right, hbalanced hp]

/-- The pattern `hello (bot|[dear] man)`. -/
def dearBot : Text := "hello (bot|[dear] man)".toList

/-- An optional in a group is closed. -/
theorem dearBot_closed : Check.pattern false dearBot = none ∧
    dearBot.count '[' ≤ optionalLimit ∧ Nested dearBot ∧
      ∀ b, matcher .blank dearBot ≠ .error (.unclosed b) := by
  have hcheck : Check.pattern false dearBot = none := by decide +kernel
  have hcount : dearBot.count '[' ≤ optionalLimit := by decide
  have hflat {u : Text} (h : u.all (!isBracket ·)) : Nested u :=
    .of_chars fun c hc => by simpa using List.all_eq_true.1 h c hc
  have hdear : Nested "dear".toList := hflat (by decide)
  have hman : Nested "bot|[dear] man".toList :=
    (hflat (u := "bot|".toList) (by decide)).append
      (.brackets .square hdear (fun _ => by decide) (hflat (by decide)))
  have hnested : Nested dearBot :=
    (hflat (u := "hello ".toList) (by decide)).append
      (.brackets .round hman (fun h => absurd h (by decide)) .nil)
  exact ⟨hcheck, hcount, hnested, (closed_of_accepted .blank hcheck hcount).1 hnested⟩

/-- As many opening as closing brackets are accepted also where they do not nest. -/
theorem accepted_unclosed :
    ¬∀ (s : Scope) (utf8 : Bool) (t : Text) (b : Char), Check.pattern utf8 t = none →
      t.count '[' ≤ optionalLimit → matcher s t ≠ .error (.unclosed b) := by
  intro h
  exact h .blank false "hi) (there".toList '(' (by decide +kernel) (by decide) rfl

end Pattern

end Repartee

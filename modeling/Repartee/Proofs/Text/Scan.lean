import Repartee.Text.Seek

/-!
# Scans

* `Text.sameFolded_of_ne`: a character that is no lower case letter stands for itself only.
* `Scan.replaceAll_append`: what a scan recognises in front is replaced.
* `Scan.delimited_eq_none`, `Scan.delimited_append`: where a tag is not recognised, and where it is.
* `Scan.delimited_eq_some`: what a text with a tag in front is made of.
* `Scan.find?_eq_some`: what is around the first place where a scan succeeds.
* `Scan.replaceAll_of_find?`, `Scan.replaceAgain_of_find?`: where a scan finds nothing, the text is
  left as it is.
* `Scan.Needs`: a scan recognises only what begins with a character.
* **`Scan.Needs.find?_eq_none`**: it finds nothing where this character is missing.
* `Scan.mem_replaceAll`: where the characters of a text come from after a replacement.
* `Scan.Avoids`: what a scan recognises does not have a character.
* `Scan.Free`: a text in which nothing begins that a scan recognises, whatever follows.
* `Text.Clashes`: a text that differs from an opening, whatever follows.
-/

namespace Repartee

/-- A character that is no lower case letter is matched by no other one. -/
theorem Text.sameFolded_of_ne {o c : Char} (ho : o.isLower = false) (h : c ≠ o) :
    sameFolded o c = false := by
  have hs : o ≠ 's' := by rintro rfl; exact absurd ho (by decide)
  have hk : o ≠ 'k' := by rintro rfl; exact absurd ho (by decide)
  have hc : c.toLower ≠ o := by
    unfold Char.toLower
    split
    · rename_i hu
      rintro rfl
      -- a capital letter is lowered to one of `a` to `z`
      have h₁ : 65 ≤ c.val.toNat := UInt32.le_iff_toNat_le.1 hu.1
      have h₂ : c.val.toNat ≤ 90 := UInt32.le_iff_toNat_le.1 hu.2
      have h₃ : (c.val + ('a'.val - 'A'.val)).toNat = c.val.toNat + 32 := by
        have h₄ : ('a'.val - 'A'.val).toNat = 32 := by decide
        rw [UInt32.toNat_add, h₄]
        omega
      have hrange := of_decide_eq_false ((Bool.decide_and _ _).trans ho)
      refine hrange ⟨UInt32.le_iff_toNat_le.2 ?_, UInt32.le_iff_toNat_le.2 ?_⟩
      · rw [h₃]
        exact Nat.add_le_add_right h₁ 32
      · rw [h₃]
        exact Nat.add_le_add_right h₂ 32
    · exact h
  simp [sameFolded, hc, hs, hk]

namespace Scan

variable {α : Type} {p : Scan α} {f : α → Text}

theorem delimited_eq_none {opening closing : String} {allowed : Char → Bool} {least : Nat}
    {o c : Char} {os cs : Text} (ho : opening.toList = o :: os) (h : Text.sameFolded o c = false) :
    delimited opening allowed least closing (c :: cs) = none := by
  rw [delimited, ho, Text.startsWithFolded?, h]
  rfl

theorem replaceFrom_append : ∀ t u : Text, p.replaceFrom f t.length (t ++ u) = p.replaceFrom f 0 u
  | [], _ => rfl
  | _ :: t, u => by rw [List.cons_append, List.length_cons, replaceFrom, replaceFrom_append t u]

/-- What the scan recognises in front is replaced, and the scan goes on behind it. -/
theorem replaceAll_append {t u : Text} {a : α} (ht : t ≠ []) (h : p (t ++ u) = some (a, u)) :
    p.replaceAll f (t ++ u) = f a ++ p.replaceAll f u := by
  obtain ⟨c, cs, rfl⟩ := List.exists_cons_of_ne_nil ht
  rw [List.cons_append] at h ⊢
  rw [replaceAll, replaceFrom, h]
  dsimp only
  rw [List.length_append, Nat.add_sub_cancel, replaceFrom_append]
  rfl

/-- A character comes from a replacement, or stays where what is recognised is taken away. -/
theorem mem_replaceAll {c : Char} {t : Text} (h : c ∈ p.replaceAll f t) :
    c ∈ p.replaceAll (fun _ => []) t ∨ ∃ a, c ∈ f a := by
  have hfrom : ∀ (t : Text) (skip : Nat), c ∈ p.replaceFrom f skip t →
      c ∈ p.replaceFrom (fun _ => []) skip t ∨ ∃ a, c ∈ f a := by
    intro t
    induction t with
    | nil => exact fun skip h => absurd h (by cases skip <;> exact List.not_mem_nil)
    | cons d ds ih =>
      intro skip h
      cases skip with
      | succ k => exact ih k h
      | zero =>
        rw [replaceFrom] at h ⊢
        cases hp : p (d :: ds) with
        | none =>
          rw [hp] at h
          rcases List.mem_cons.1 h with rfl | h
          · exact .inl List.mem_cons_self
          · exact (ih 0 h).imp_left (List.mem_cons_of_mem d)
        | some r =>
          rw [hp] at h
          rcases List.mem_append.1 h with h | h
          · exact .inr ⟨r.1, h⟩
          · exact ih _ h
  exact hfrom t 0 h

/-- A body of allowed characters before a closing character that none of them is. -/
theorem until?_append {allowed : Char → Bool} {o : Char} (ho : Text.sameFolded o o) (u : Text) :
    ∀ {n : Nat} {t : Text}, n ≤ t.length → (∀ c ∈ t, allowed c ∧ Text.sameFolded o c = false) →
      until? allowed [o] n (t ++ o :: u) = some (t, u)
  | 0, [], _, _ => by simp [until?, Text.startsWithFolded?, ho]
  | 0, c :: t, _, h => by
    have ⟨hc, hf⟩ := h c List.mem_cons_self
    have ih := until?_append ho u (Nat.zero_le t.length) fun d hd => h d (List.mem_cons_of_mem c hd)
    rw [List.cons_append, until?, Text.startsWithFolded?, hf, ih, if_pos hc]
    rfl
  | n + 1, c :: t, hn, h => by
    have ih := until?_append ho u (Nat.le_of_succ_le_succ hn) fun d hd =>
      h d (List.mem_cons_of_mem c hd)
    rw [List.cons_append, until?, ih, if_pos (h c List.mem_cons_self).1]
    rfl

theorem startsWithFolded?_append : ∀ {os : Text}, (∀ o ∈ os, Text.sameFolded o o) → ∀ u : Text,
    Text.startsWithFolded? os (os ++ u) = some u
  | [], _, _ => rfl
  | o :: os, h, u => by
    rw [List.cons_append, Text.startsWithFolded?, if_pos (h o List.mem_cons_self),
      startsWithFolded?_append (fun d hd => h d (List.mem_cons_of_mem o hd)) u]

theorem startsWithFolded?_append_eq_none {os : Text} : ∀ {o t : Text},
    Text.startsWithFolded? o t = none → Text.startsWithFolded? (o ++ os) t = none
  | _ :: _, [], _ => rfl
  | o :: o', c :: cs, h => by
    rw [Text.startsWithFolded?] at h
    rw [List.cons_append, Text.startsWithFolded?]
    split at h
    · rw [if_pos ‹_›, startsWithFolded?_append_eq_none h]
    · rw [if_neg ‹_›]

theorem startsWithFolded?_eq_none_append {u : Text} : ∀ {o t : Text},
    Text.startsWithFolded? o t = none → o.length ≤ t.length →
      Text.startsWithFolded? o (t ++ u) = none
  | o :: os, c :: cs, h, hlength => by
    rw [Text.startsWithFolded?] at h
    rw [List.cons_append, Text.startsWithFolded?]
    split at h
    · rw [if_pos ‹_›, startsWithFolded?_eq_none_append h (Nat.le_of_succ_le_succ hlength)]
    · rw [if_neg ‹_›]

/-- A tag is recognised by its opening, its body and its closing character. -/
theorem delimited_append {opening : String} {allowed : Char → Bool} {least : Nat} {o : Char}
    {t : Text} (hopen : ∀ c ∈ opening.toList, Text.sameFolded c c) (ho : Text.sameFolded o o)
    (hl : least ≤ t.length) (ht : ∀ c ∈ t, allowed c ∧ Text.sameFolded o c = false) (u : Text) :
    delimited opening allowed least (String.ofList [o]) (opening.toList ++ (t ++ o :: u)) =
      some (t, u) := by
  rw [delimited, startsWithFolded?_append hopen, String.toList_ofList, Option.bind_some,
    until?_append ho u hl ht]

/-! ## What is recognised -/

/-- A text is as long as a pattern, and each of its characters is matched by one of the pattern. -/
structure Folds (o u : Text) : Prop where
  length : u.length = o.length
  folded : ∀ c ∈ u, ∃ d ∈ o, Text.sameFolded d c

theorem Folds.notMem {o u : Text} (h : Folds o u) {c : Char}
    (hc : (o.all fun d => !Text.sameFolded d c) = true) : c ∉ u := by
  intro hmem
  obtain ⟨d, hd, hf⟩ := h.folded c hmem
  have hd := List.all_eq_true.1 hc d hd
  rw [hf] at hd
  cases hd

theorem Folds.ne_nil {o u : Text} (h : Folds o u) (ho : o ≠ []) : u ≠ [] := by
  rintro rfl
  exact ho (List.length_eq_zero_iff.1 h.length.symm)

theorem Folds.eq_singleton {o : Char} {u : Text} (ho : o.isLower = false) (h : Folds [o] u) :
    u = [o] := by
  obtain ⟨c, rfl⟩ := List.length_eq_one_iff.1 h.length
  obtain ⟨d, hd, hfolded⟩ := h.folded c List.mem_cons_self
  rw [List.mem_singleton.1 hd] at hfolded
  by_cases hc : c = o
  · rw [hc]
  · rw [Text.sameFolded_of_ne ho hc] at hfolded
    cases hfolded

theorem startsWithFolded?_eq_some : ∀ {o t rest : Text}, Text.startsWithFolded? o t = some rest →
    ∃ u, t = u ++ rest ∧ Folds o u
  | [], _, _, h => by
    cases h
    exact ⟨[], rfl, rfl, fun _ hc => absurd hc List.not_mem_nil⟩
  | _ :: _, [], _, h => by cases h
  | o :: os, c :: cs, rest, h => by
    rw [Text.startsWithFolded?] at h
    split at h
    · rename_i ho
      obtain ⟨u, rfl, hlength, hu⟩ := startsWithFolded?_eq_some h
      refine ⟨c :: u, rfl, congrArg (· + 1) hlength,
        List.forall_mem_cons.2 ⟨⟨o, List.mem_cons_self, ho⟩, fun d hd => ?_⟩⟩
      obtain ⟨e, he, hf⟩ := hu d hd
      exact ⟨e, List.mem_cons_of_mem o he, hf⟩
    · cases h

theorem until?_eq_some {allowed : Char → Bool} {closing : Text} :
    ∀ {n : Nat} {t body rest : Text}, until? allowed closing n t = some (body, rest) →
      ∃ u, t = body ++ (u ++ rest) ∧ Folds closing u ∧ (∀ c ∈ body, allowed c) ∧ n ≤ body.length
  | 0, [], body, rest, h => by
    rw [until?] at h
    obtain ⟨r, hr, he⟩ := Option.map_eq_some_iff.1 h
    cases he
    obtain ⟨u, hu, hfolds⟩ := startsWithFolded?_eq_some hr
    exact ⟨u, hu, hfolds, fun _ hc => absurd hc List.not_mem_nil, Nat.le_refl 0⟩
  | _ + 1, [], _, _, h => by cases h
  | 0, c :: cs, body, rest, h => by
    rw [until?] at h
    split at h
    · rename_i hr
      cases h
      obtain ⟨u, hu, hfolds⟩ := startsWithFolded?_eq_some hr
      exact ⟨u, hu, hfolds, fun _ hc => absurd hc List.not_mem_nil, Nat.le_refl 0⟩
    · split at h
      · rename_i hc
        obtain ⟨r, hr, he⟩ := Option.map_eq_some_iff.1 h
        cases he
        obtain ⟨u, rfl, hfolds, hbody, -⟩ := until?_eq_some hr
        exact ⟨u, rfl, hfolds, List.forall_mem_cons.2 ⟨hc, hbody⟩, Nat.zero_le _⟩
      · cases h
  | n + 1, c :: cs, body, rest, h => by
    rw [until?] at h
    split at h
    · rename_i hc
      obtain ⟨r, hr, he⟩ := Option.map_eq_some_iff.1 h
      cases he
      obtain ⟨u, rfl, hfolds, hbody, hn⟩ := until?_eq_some hr
      exact ⟨u, rfl, hfolds, List.forall_mem_cons.2 ⟨hc, hbody⟩, Nat.succ_le_succ hn⟩
    · cases h

/-- A text with a tag in front is made of the opening, the body, the closing and the rest. -/
theorem delimited_eq_some {opening closing : String} {allowed : Char → Bool} {least : Nat}
    {t body rest : Text} (h : delimited opening allowed least closing t = some (body, rest)) :
    ∃ u v, t = u ++ (body ++ (v ++ rest)) ∧ Folds opening.toList u ∧ Folds closing.toList v ∧
      (∀ c ∈ body, allowed c) ∧ least ≤ body.length := by
  obtain ⟨r, hr, huntil⟩ := Option.bind_eq_some_iff.1 h
  obtain ⟨u, rfl, hu⟩ := startsWithFolded?_eq_some hr
  obtain ⟨v, rfl, hv, hbody⟩ := until?_eq_some huntil
  exact ⟨u, v, rfl, hu, hv, hbody⟩

/-- What is around the first place where a scan succeeds. -/
theorem find?_eq_some : ∀ {t before after : Text} {a : α},
    p.find? t = some (before, a, after) → ∃ u, t = before ++ u ∧ p u = some (a, after)
  | c :: cs, before, after, a, h => by
    rw [find?] at h
    split at h
    · rename_i hr
      cases h
      exact ⟨c :: cs, rfl, hr⟩
    · obtain ⟨⟨before, a, after⟩, hr, he⟩ := Option.map_eq_some_iff.1 h
      cases he
      obtain ⟨u, rfl, hu⟩ := find?_eq_some hr
      exact ⟨u, rfl, hu⟩

/-- What the scan recognises is not empty and does not have a character. -/
def Avoids (p : Scan α) (c : Char) : Prop :=
  ∀ ⦃t a rest⦄, p t = some (a, rest) → ∃ u, t = u ++ rest ∧ u ≠ [] ∧ c ∉ u

theorem avoids_delimited {opening closing : String} {allowed : Char → Bool} {least : Nat} {c : Char}
    (hne : opening.toList ≠ []) (ho : (opening.toList.all fun d => !Text.sameFolded d c) = true)
    (hcl : (closing.toList.all fun d => !Text.sameFolded d c) = true) (hc : allowed c = false) :
    (delimited opening allowed least closing).Avoids c := by
  intro t body rest h
  obtain ⟨u, v, rfl, hu, hv, hbody, -⟩ := delimited_eq_some h
  refine ⟨u ++ (body ++ v), by simp, ?_, ?_⟩
  · exact List.append_ne_nil_of_left_ne_nil (hu.ne_nil hne) _
  · have hnot : c ∉ body := fun hmem => by
      rw [hbody c hmem] at hc
      cases hc
    simp only [List.mem_append, not_or]
    exact ⟨hu.notMem ho, hnot, hv.notMem hcl⟩

theorem avoids_opening {s : String} {c : Char} (hne : s.toList ≠ [])
    (h : (s.toList.all fun d => !Text.sameFolded d c) = true) : (opening s).Avoids c := by
  intro t a rest ht
  obtain ⟨r, hr, he⟩ := Option.map_eq_some_iff.1 ht
  cases he
  obtain ⟨u, rfl, hu⟩ := startsWithFolded?_eq_some hr
  exact ⟨u, rfl, hu.ne_nil hne, hu.notMem h⟩

theorem startsWith?_eq_some : ∀ {o t rest : Text}, Text.startsWith? o t = some rest → t = o ++ rest
  | [], _, _, h => Option.some_inj.1 h
  | _ :: _, [], _, h => by cases h
  | o :: os, c :: cs, rest, h => by
    rw [Text.startsWith?] at h
    split at h
    · rename_i hc
      rw [hc, startsWith?_eq_some h]
      rfl
    · cases h

theorem avoids_exactly {o : Text} {c : Char} (hne : o ≠ []) (h : c ∉ o) : (exactly o).Avoids c := by
  intro t a rest ht
  obtain ⟨r, hr, he⟩ := Option.map_eq_some_iff.1 ht
  cases he
  exact ⟨o, startsWith?_eq_some hr, hne, h⟩

/-! ## Nothing to find -/

theorem replaceAll_of_find? : ∀ {t : Text}, p.find? t = none → p.replaceAll f t = t
  | [], _ => rfl
  | c :: cs, h => by
    rw [find?] at h
    cases hp : p (c :: cs) with
    | some r => simp [hp] at h
    | none =>
      have ih : p.replaceAll f cs = cs := replaceAll_of_find? (by simpa [hp] using h)
      rw [replaceAll, replaceFrom, hp]
      exact congrArg _ ih

/-- Nothing is found where nothing is recognised in front of what is left of a text. -/
theorem find?_eq_none_of_suffix : ∀ {t : Text}, (∀ u, u <:+ t → p u = none) → p.find? t = none
  | [], _ => rfl
  | c :: cs, h => by
    have hcs : p.find? cs = none :=
      find?_eq_none_of_suffix fun u hu => h u (hu.trans (List.suffix_cons c cs))
    rw [find?, h _ List.suffix_rfl, hcs]
    rfl

theorem replaceAgain_of_find? {t : Text} (h : p.find? t = none) (n : Nat) :
    p.replaceAgain f n t = t := by
  cases n with
  | zero => rfl
  | succ n => rw [replaceAgain, h]

/-! ## Texts in which nothing begins -/

/-- Nothing that the scan recognises begins in a text, whatever follows. -/
def Free (p : Scan α) : (t : Text) → Prop
  | [] => True
  | c :: cs => (∀ u, p (c :: (cs ++ u)) = none) ∧ Free p cs

theorem Free.append {u : Text} : ∀ {t : Text}, p.Free t → p.Free u → p.Free (t ++ u)
  | [], _, hu => hu
  | _ :: _, ⟨hc, ht⟩, hu =>
    ⟨fun v => by simpa using hc (u ++ v), ht.append hu⟩

theorem Free.imp {β : Type} {q : Scan β} (h : ∀ u, p u = none → q u = none) :
    ∀ {t : Text}, p.Free t → q.Free t
  | [], _ => trivial
  | _ :: _, ⟨hc, hcs⟩ => ⟨fun u => h _ (hc u), hcs.imp h⟩

theorem free_flatMap {β : Type} {g : β → Text} {bs : List β} (h : ∀ b ∈ bs, p.Free (g b)) :
    p.Free (bs.flatMap g) := by
  induction bs with
  | nil => trivial
  | cons b bs ih =>
    rw [List.forall_mem_cons] at h
    exact h.1.append (ih h.2)

theorem Free.find?_append (u : Text) : ∀ {t : Text}, p.Free t →
    p.find? (t ++ u) = (p.find? u).map fun r => (t ++ r.1, r.2)
  | [], _ => by simp
  | c :: cs, ⟨hc, hcs⟩ => by
    rw [List.cons_append, find?, hc u, hcs.find?_append u, Option.map_map]
    rfl

theorem Free.find?_eq_none {t : Text} (h : p.Free t) : p.find? t = none := by
  have hfind := h.find?_append []
  rw [List.append_nil] at hfind
  exact hfind

theorem Free.eq_none_of_suffix {u : Text} (hne : u ≠ []) : ∀ {t : Text}, p.Free t → u <:+ t →
    p u = none
  | [], _, hu => absurd (List.suffix_nil.1 hu) hne
  | c :: cs, ⟨hc, hcs⟩, hu => by
    rcases List.suffix_cons_iff.1 hu with rfl | hu
    · have hfront := hc []
      rwa [List.append_nil] at hfront
    · exact hcs.eq_none_of_suffix hne hu

theorem Free.replaceAll_append (u : Text) : ∀ {t : Text}, p.Free t →
    p.replaceAll f (t ++ u) = t ++ p.replaceAll f u
  | [], _ => rfl
  | c :: cs, ⟨hc, hcs⟩ => by
    rw [List.cons_append, replaceAll, replaceFrom, hc u]
    exact congrArg _ (hcs.replaceAll_append u)

/-- A body in which no closing begins ends at the first closing. -/
theorem Free.until?_append {closing : String} (hne : closing.toList ≠ [])
    (hfolds : ∀ c ∈ closing.toList, Text.sameFolded c c) (u : Text) : ∀ {t : Text},
      (opening closing).Free t →
        until? (fun _ => true) closing.toList 0 (t ++ (closing.toList ++ u)) = some (t, u)
  | [], _ => by
    obtain ⟨o, os, ho⟩ := List.exists_cons_of_ne_nil hne
    have hfront := startsWithFolded?_append hfolds u
    rw [ho, List.cons_append] at hfront
    rw [ho, List.nil_append, List.cons_append, until?, hfront]
  | c :: cs, ⟨hc, hcs⟩ => by
    have hfront : Text.startsWithFolded? closing.toList (c :: (cs ++ (closing.toList ++ u))) = none :=
      Option.map_eq_none_iff.1 (hc _)
    rw [List.cons_append, until?, hfront, hcs.until?_append hne hfolds u]
    rfl

/-! ## Characters that a scan needs -/

/-- What the scan recognises begins with a character. -/
def Needs (p : Scan α) (o : Char) : Prop := ∀ c cs, c ≠ o → p (c :: cs) = none

/-- Nothing begins where the character that a scan needs is missing. -/
theorem Needs.free {o : Char} (h : p.Needs o) : ∀ {t : Text}, o ∉ t → p.Free t
  | [], _ => trivial
  | c :: cs, ht =>
    have hne := List.ne_and_not_mem_of_not_mem_cons ht
    ⟨fun u => h c (cs ++ u) hne.1.symm, h.free hne.2⟩

/-- A scan finds nothing where the character that it needs is missing. -/
theorem Needs.find?_eq_none {o : Char} (h : p.Needs o) {t : Text} (ht : o ∉ t) :
    p.find? t = none :=
  (h.free ht).find?_eq_none

theorem Needs.find?_append {o : Char} (h : p.Needs o) (u : Text) {t : Text} (ht : o ∉ t) :
    p.find? (t ++ u) = (p.find? u).map fun r => (t ++ r.1, r.2) :=
  (h.free ht).find?_append u

theorem Needs.replaceAll_cons {o c : Char} (h : p.Needs o) (hc : c ≠ o) (t : Text) :
    p.replaceAll f (c :: t) = c :: p.replaceAll f t := by
  rw [replaceAll, replaceFrom, h c t hc]
  rfl

theorem Needs.replaceAll_notMem {o : Char} (h : p.Needs o) (u : Text) {t : Text} (ht : o ∉ t) :
    p.replaceAll f (t ++ u) = t ++ p.replaceAll f u :=
  (h.free ht).replaceAll_append u

theorem needs_delimited {opening closing : String} {allowed : Char → Bool} {least : Nat}
    {o : Char} {os : Text} (ho : opening.toList = o :: os) (hl : o.isLower = false) :
    (delimited opening allowed least closing).Needs o :=
  fun _ _ hc => delimited_eq_none ho (Text.sameFolded_of_ne hl hc)

theorem Needs.orElse {q : Scan α} {o : Char} (hp : p.Needs o) (hq : q.Needs o) :
    (p.orElse q).Needs o := by
  intro c cs hc
  rw [Scan.orElse, hp c cs hc, hq c cs hc]
  rfl

theorem needs_opening {s : String} {o : Char} {os : Text} (ho : s.toList = o :: os)
    (hl : o.isLower = false) : (opening s).Needs o := by
  intro c cs hc
  rw [opening, ho, Text.startsWithFolded?, Text.sameFolded_of_ne hl hc]
  rfl

theorem needs_exactly (o : Char) (os : Text) : (exactly (o :: os)).Needs o := by
  intro c cs hc
  rw [exactly, Text.startsWith?, if_neg hc]
  rfl

end Scan

/-! ## Texts that differ -/

/-- A text differs from an opening in a character that both have. -/
def Text.Clashes (o t : Text) : Prop := (o.zip t).any (fun e => !sameFolded e.1 e.2) = true

instance (o t : Text) : Decidable (Text.Clashes o t) := instDecidableEqBool _ _

theorem Text.Clashes.startsWithFolded? (u : Text) : ∀ {o t : Text}, Clashes o t →
    Text.startsWithFolded? o (t ++ u) = none
  | [], _, h | _ :: _, [], h => by simp [Clashes] at h
  | o :: os, c :: cs, h => by
    rw [List.cons_append, Text.startsWithFolded?]
    split
    · rename_i hc
      rw [Clashes, List.zip_cons_cons, List.any_cons, hc, Bool.not_true, Bool.false_or] at h
      exact Clashes.startsWithFolded? u h
    · rfl

/-- Nothing begins in a text that differs from the opening of a scan and does not have its first
character again. -/
theorem Scan.Needs.free_of_clashes {α : Type} {p : Scan α} {o : Char} (hp : p.Needs o) {os : Text}
    (hopening : ∀ u, Text.startsWithFolded? (o :: os) u = none → p u = none) {t u : Text}
    (ht : Text.Clashes os t) (hnot : o ∉ t ++ u) : p.Free (o :: (t ++ u)) := by
  refine ⟨fun v => hopening _ ?_, hp.free hnot⟩
  rw [Text.startsWithFolded?, List.append_assoc, ht.startsWithFolded?]
  split <;> rfl

/-- A text is left as it is where the first character of what is replaced is missing. -/
theorem Text.replace_eq_self {o : Char} {t : Text} (os new : Text) (h : o ∉ t) :
    replace (o :: os) new t = t :=
  Scan.replaceAll_of_find? ((Scan.needs_exactly o os).find?_eq_none h)

end Repartee

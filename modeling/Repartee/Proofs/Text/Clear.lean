import Mathlib.Data.List.Basic
import Repartee.Decimal
import Repartee.Proofs.Text.Scan
import Repartee.Proofs.Text.Words
import Repartee.Text.Digit

/-!
# Texts without the first characters

The engine marks places in a text with the first characters of all, `U+0000` to `U+0003`. Here is
what cutting, joining and replacing texts does to them.

* `Text.Clear`: the first `n` characters are not in a text.
* `Text.cut?_subset` and the like: where the characters of a part come from.
* `Scan.Within`: what a scan recognises, and what is left, are parts of the text.
* `Scan.Within.replaceAll_induction`: what holds of a text holds of it after a replacement, if it
  survives one replacement at a time.
* **`Scan.Within.replaceAll`**, **`Scan.Within.replaceAgain`**: replacing clear texts by clear ones.
-/

namespace Repartee

/-- The decimal digits are among those of all scripts. -/
theorem isDigit_of_isDigit {c : Char} (h : c.isDigit) : isDigit c := by
  have hc : c.toNat < 128 := by
    have hle := UInt32.le_iff_toNat_le.1 (of_decide_eq_true (Bool.and_eq_true_iff.1 h).2)
    change c.val.toNat ≤ 57 at hle
    change c.val.toNat < 128
    omega
  rw [isDigit, if_pos hc, h]

namespace Text

variable {n : Nat} {t u v : Text}

/-- The first `n` characters are not in the text. -/
def Clear (n : Nat) (t : Text) : Prop := ∀ c ∈ t, n ≤ c.toNat

theorem Clear.subset (h : t.Clear n) (hu : u ⊆ t) : u.Clear n := fun c hc => h c (hu hc)

theorem Clear.notMem (h : t.Clear n) {c : Char} (hc : c.toNat < n) : c ∉ t :=
  fun hm => absurd (h c hm) (Nat.not_le.2 hc)

theorem clear_nil : Clear n [] := fun _ hc => absurd hc List.not_mem_nil

theorem clear_cons {c : Char} : Clear n (c :: t) ↔ n ≤ c.toNat ∧ t.Clear n := List.forall_mem_cons

theorem clear_append : Clear n (t ++ u) ↔ t.Clear n ∧ u.Clear n := List.forall_mem_append

theorem Clear.mono {m : Nat} (h : t.Clear n) (hm : m ≤ n) : t.Clear m :=
  fun c hc => hm.trans (h c hc)

theorem Clear.append (ht : t.Clear n) (hu : u.Clear n) : Clear n (t ++ u) :=
  clear_append.2 ⟨ht, hu⟩

/-- A written text is clear of the characters that the engine marks places with. -/
theorem clear_of_all (hn : n ≤ 4) (h : (t.all fun c => decide (4 ≤ c.toNat)) = true) : t.Clear n :=
  fun c hc => hn.trans (of_decide_eq_true (List.all_eq_true.1 h c hc))

/-! ## Parts -/

theorem startsWith?_subset : ∀ {o t rest : Text}, startsWith? o t = some rest → rest ⊆ t
  | [], _, _, h => by
    cases h
    exact List.Subset.refl _
  | _ :: _, [], _, h => by cases h
  | o :: os, c :: cs, rest, h => by
    rw [startsWith?] at h
    split at h
    · exact List.subset_cons_of_subset c (startsWith?_subset h)
    · cases h

theorem startsWithFolded?_subset {o t rest : Text} (h : startsWithFolded? o t = some rest) :
    rest ⊆ t := by
  obtain ⟨u, rfl, -⟩ := Scan.startsWithFolded?_eq_some h
  exact List.subset_append_right u rest

theorem cut?_subset {sep : Char} : ∀ {t before after : Text}, cut? sep t = some (before, after) →
    before ⊆ t ∧ after ⊆ t
  | c :: cs, before, after, h => by
    rw [cut?] at h
    split at h
    · cases h
      exact ⟨List.nil_subset _, List.subset_cons_self c cs⟩
    · obtain ⟨r, hr, he⟩ := Option.map_eq_some_iff.1 h
      cases he
      obtain ⟨h₁, h₂⟩ := cut?_subset hr
      exact ⟨List.cons_subset_cons c h₁, List.subset_cons_of_subset c h₂⟩

theorem cutAt?_subset {sep : Text} : ∀ {t before after : Text},
    cutAt? sep t = some (before, after) → before ⊆ t ∧ after ⊆ t
  | c :: cs, before, after, h => by
    rw [cutAt?] at h
    split at h
    · rename_i hs
      cases h
      exact ⟨List.nil_subset _, startsWith?_subset hs⟩
    · obtain ⟨r, hr, he⟩ := Option.map_eq_some_iff.1 h
      cases he
      obtain ⟨h₁, h₂⟩ := cutAt?_subset hr
      exact ⟨List.cons_subset_cons c h₁, List.subset_cons_of_subset c h₂⟩

theorem trimLeft_subset (t : Text) : t.trimLeft ⊆ t := List.dropWhile_subset _

theorem trimRight_subset (t : Text) : t.trimRight ⊆ t := by
  rw [trimRight]
  intro c hc
  exact List.mem_reverse.1 (trimLeft_subset _ (List.mem_reverse.1 hc))

theorem trim_subset (t : Text) : t.trim ⊆ t :=
  List.Subset.trans (trimRight_subset _) (trimLeft_subset t)

/-! ## Texts put together -/

theorem Clear.pieces (h : t.Clear n) {sep : Char → Bool} : ∀ w ∈ t.pieces sep, w.Clear n :=
  fun _ hw => h.subset fun _ hc => (mem_of_mem_pieces hw hc).1

theorem clear_join {sep : Text} (hsep : sep.Clear n) {ws : List Text} (h : ∀ w ∈ ws, w.Clear n) :
    (join sep ws).Clear n := by
  intro c hc
  rcases mem_join hc with hc | ⟨w, hw, hc⟩
  · exact hsep c hc
  · exact h w hw c hc

theorem clear_flatMap {α : Type} {f : α → Text} {as : List α} (h : ∀ a ∈ as, (f a).Clear n) :
    Clear n (as.flatMap f) := by
  intro c hc
  obtain ⟨a, ha, hc⟩ := List.mem_flatMap.1 hc
  exact h a ha c hc

/-- Decimal digits are clear. -/
theorem clear_toString (hn : n ≤ 4) (k : Nat) : Clear n (toString k).toList := by
  have hdigits : (toString k).toList = Nat.toDigits 10 k := by simp
  intro c hc
  rw [hdigits] at hc
  have hd := Nat.isDigit_of_mem_toDigits (by decide) (by decide) hc
  have hle := UInt32.le_iff_toNat_le.1 (of_decide_eq_true (Bool.and_eq_true_iff.1 hd).1)
  change 48 ≤ c.val.toNat at hle
  change n ≤ c.val.toNat
  omega

end Text

/-! ## Scans -/

namespace Scan

variable {α : Type} {p : Scan α} {body : α → Text} {n : Nat} {t : Text}

/-- What a scan recognises has a body which, like the rest, is a part of the text. -/
def Within (p : Scan α) (body : α → Text) : Prop :=
  ∀ ⦃t a rest⦄, p t = some (a, rest) → body a ⊆ t ∧ rest ⊆ t

theorem within_delimited (opening : String) (allowed : Char → Bool) (least : Nat)
    (closing : String) : (delimited opening allowed least closing).Within id := by
  intro t body rest h
  obtain ⟨u, v, rfl, -⟩ := delimited_eq_some h
  exact ⟨fun c hc => by simp [show c ∈ body from hc], fun c hc => by simp [hc]⟩

theorem within_opening (s : String) : (opening s).Within fun _ => [] := by
  intro t a rest h
  obtain ⟨u, hu, he⟩ := Option.map_eq_some_iff.1 h
  cases he
  exact ⟨List.nil_subset _, Text.startsWithFolded?_subset hu⟩

theorem within_exactly (o : Text) : (exactly o).Within fun _ => [] := by
  intro t a rest h
  obtain ⟨u, hu, he⟩ := Option.map_eq_some_iff.1 h
  cases he
  exact ⟨List.nil_subset _, Text.startsWith?_subset hu⟩

/-- What stands around the first thing that is found, and its body, are parts of the text. -/
theorem Within.find? (hp : p.Within body) : ∀ {t before after : Text} {a : α},
    p.find? t = some (before, a, after) → before ⊆ t ∧ body a ⊆ t ∧ after ⊆ t
  | c :: cs, before, after, a, h => by
    rw [Scan.find?] at h
    split at h
    · rename_i hr
      cases h
      exact ⟨List.nil_subset _, hp hr⟩
    · obtain ⟨⟨u, b, v⟩, hr, he⟩ := Option.map_eq_some_iff.1 h
      cases he
      obtain ⟨h₁, h₂, h₃⟩ := hp.find? hr
      exact ⟨List.cons_subset_cons c h₁, List.subset_cons_of_subset c h₂,
        List.subset_cons_of_subset c h₃⟩

/-- A property of texts that goes on from the back to the front, over the characters of a text and
over what takes the place of something found in it, holds of the replaced text. -/
theorem Within.replaceAll_induction (hp : p.Within body) {f : α → Text} {P : Char → Prop}
    {Q : Text → Prop} (nil : Q []) (char : ∀ c u, P c → Q u → Q (c :: u))
    (found : ∀ a u, (∀ c ∈ body a, P c) → Q u → Q (f a ++ u)) (ht : ∀ c ∈ t, P c) :
    Q (p.replaceAll f t) := by
  have hfrom : ∀ (t : Text) (skip : Nat), (∀ c ∈ t, P c) → Q (p.replaceFrom f skip t) := by
    intro t
    induction t with
    | nil =>
      intro skip _
      cases skip <;> exact nil
    | cons c cs ih =>
      intro skip ht
      obtain ⟨hc, hcs⟩ := List.forall_mem_cons.1 ht
      cases skip with
      | succ k => exact ih k hcs
      | zero =>
        rw [replaceFrom]
        split
        · rename_i a rest hr
          exact found a _ (fun d hd => ht d ((hp hr).1 hd)) (ih _ hcs)
        · exact char c _ hc (ih 0 hcs)
  exact hfrom t 0 ht

/-- **Clear texts in the place of what is found in a clear text leave it clear.** -/
theorem Within.replaceAll (hp : p.Within body) {f : α → Text}
    (hf : ∀ a, (body a).Clear n → (f a).Clear n) (ht : t.Clear n) :
    (p.replaceAll f t).Clear n :=
  hp.replaceAll_induction Text.clear_nil (fun _ _ hc hu => Text.clear_cons.2 ⟨hc, hu⟩)
    (fun a _ ha hu => (hf a ha).append hu) ht

theorem Within.replaceAgain (hp : p.Within body) {f : α → Text}
    (hf : ∀ a, (body a).Clear n → (f a).Clear n) (k : Nat) (ht : t.Clear n) :
    (p.replaceAgain f k t).Clear n := by
  induction k generalizing t with
  | zero => exact ht
  | succ k ih =>
    rw [Scan.replaceAgain]
    split
    · exact ht
    · rename_i before a after hfind
      obtain ⟨h₁, h₂, h₃⟩ := hp.find? hfind
      exact ih (((ht.subset h₁).append (hf a (ht.subset h₂))).append (ht.subset h₃))

end Scan

theorem Text.notMem_replace {c : Char} {t old new : Text} (hnew : c ∉ new) (ht : c ∉ t) :
    c ∉ Text.replace old new t := by
  have hnot : ∀ d ∈ t, d ≠ c := fun d hd => ne_of_mem_of_not_mem hd ht
  refine (Scan.within_exactly old).replaceAll_induction (Q := (c ∉ ·)) List.not_mem_nil
    (fun d u hd hu => ?_) (fun _ u _ hu => ?_) hnot
  · exact fun h => (List.mem_cons.1 h).elim (Ne.symm hd) hu
  · exact fun h => (List.mem_append.1 h).elim hnew hu

theorem Text.Clear.replace {n : Nat} {t new : Text} (ht : t.Clear n) (old : Text)
    (hnew : new.Clear n) : (Text.replace old new t).Clear n :=
  (Scan.within_exactly old).replaceAll (fun _ _ => hnew) ht

end Repartee

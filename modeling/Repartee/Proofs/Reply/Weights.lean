import Mathlib.Algebra.BigOperators.Group.List.Basic
import Mathlib.Algebra.GroupWithZero.Nat
import Mathlib.Data.List.Forall2
import Repartee.Proofs.Pattern.Tags
import Repartee.Proofs.Reply.Verbatim

/-!
# Replies as likely as their weights

A roll below the sum of the weights falls on one of the replies. As many rolls fall on a reply as
its weight says; so they do in a walk on words of 64 bits, in which no difference is ever negative.

* `Metadata.IsWeightTag`, `DeclaresWeight`: a weight as it is written, and what a reply declares.
* `DeclaresWeight.weight_eq`: the engine reads the weight that is declared.
* `Choice.position?`: the position that a roll falls on; `Choice.at?_eq`: the reply is the one
  there.
* **`Choice.countP_position?`**: how many rolls fall on a position.
* `Choice.walk`: the walk on words, and what may go wrong in it.
* `Choice.walk_eq`: nothing goes wrong, and it ends at the position.
* **`Choice.pick_declared`**: the replies are chosen with the weights that they declare.
-/

namespace Repartee

/-! ## Weights as they are written -/

/-- A weight in any letter case, with decimal digits of any script. -/
def Metadata.IsWeightTag (digits tag : Text) : Prop :=
  ∃ opening : Text, opening.map Char.toLower = "\x7bweight=".toList ∧ digits ≠ [] ∧
    (∀ c ∈ digits, isDigit c) ∧ tag = opening ++ (digits ++ ['\x7d'])

open Metadata (IsWeightTag)

/-- What a reply declares as its weight: 1 without a weight, else the number in the first one; zero
counts as 1. -/
inductive DeclaresWeight (t : Text) : Nat → Prop
  | none : (∀ before digits tag after, IsWeightTag digits tag → t ≠ before ++ (tag ++ after)) →
    DeclaresWeight t 1
  | first {before digits tag after : Text} : t = before ++ (tag ++ after) → IsWeightTag digits tag →
    (∀ before' digits' tag' after', IsWeightTag digits' tag' →
      t = before' ++ (tag' ++ after') → before.length ≤ before'.length) →
    (∀ c ∈ digits, c.isDigit) → Text.value 10 digits < 2 ^ 32 →
    DeclaresWeight t (if Text.value 10 digits = 0 then 1 else Text.value 10 digits)

/-- An opening without the letters that others fold to is written letter by letter. -/
theorem Text.forall₂_sameFolded_iff : ∀ {o u : Text}, 's' ∉ o → 'k' ∉ o →
    (List.Forall₂ (fun d c => sameFolded d c) o u ↔ u.map Char.toLower = o)
  | [], u, _, _ => by simp
  | o :: os, [], _, _ => by simp
  | o :: os, c :: u, hs, hk => by
    have hs' := List.ne_and_not_mem_of_not_mem_cons hs
    have hk' := List.ne_and_not_mem_of_not_mem_cons hk
    have hfolded : sameFolded o c ↔ c.toLower = o := by
      simp [sameFolded, hs'.1.symm, hk'.1.symm]
    rw [List.forall₂_cons, forall₂_sameFolded_iff hs'.2 hk'.2, hfolded, List.map_cons,
      List.cons.injEq]

namespace Metadata

theorem isWeightTag_iff {digits tag : Text} :
    IsWeightTag digits tag ↔ IsTag "\x7bweight=" digits tag :=
  exists_congr fun _ =>
    and_congr_left fun _ => (Text.forall₂_sameFolded_iff (by decide) (by decide)).symm

/-- No weight is found where none is written. -/
theorem find?_weightTag_eq_none {t : Text} : weightTag.find? t = none ↔
    ∀ before digits tag after, IsWeightTag digits tag → t ≠ before ++ (tag ++ after) := by
  simp only [isWeightTag_iff]
  exact find?_tagOf_eq_none_iff

end Metadata

/-- What is found first is the first weight that is written. -/
theorem DeclaresWeight.of_find? {t before digits after : Text}
    (hfind : Metadata.weightTag.find? t = some (before, digits, after))
    (hdigits : ∀ c ∈ digits, c.isDigit) (hvalue : Text.value 10 digits < 2 ^ 32) :
    DeclaresWeight t (if Text.value 10 digits = 0 then 1 else Text.value 10 digits) := by
  obtain ⟨⟨tag, after, htag, ht⟩, hleast⟩ := Metadata.firstTag_iff.2 ⟨after, hfind⟩
  refine .first ht (Metadata.isWeightTag_iff.2 htag) (fun before' digits' tag' after' htag' => ?_)
    hdigits hvalue
  exact hleast before' digits' tag' after' (Metadata.isWeightTag_iff.1 htag')

/-- **The engine reads the weight that a reply declares.** -/
theorem DeclaresWeight.weight_eq {r : String} {w : Nat} (h : DeclaresWeight r.toList w) :
    Choice.weight r = w := by
  rw [Choice.weight, Metadata.weight]
  cases h with
  | none hnone =>
    rw [Metadata.number?, Metadata.find?_weightTag_eq_none.2 hnone]
    rfl
  | @first before digits tag after ht htag hfirst hdigits hvalue =>
    have hwritten : Metadata.FirstTag "\x7bweight=" r.toList before digits := by
      refine ⟨⟨tag, after, Metadata.isWeightTag_iff.1 htag, ht⟩, ?_⟩
      exact fun before' digits' tag' after' htag' =>
        hfirst before' digits' tag' after' (Metadata.isWeightTag_iff.2 htag')
    have hnumber : Metadata.number? Metadata.weightTag r.toList = some (Text.value 10 digits) :=
      Metadata.firstNumber_iff.1 (.fits hwritten ⟨hdigits, hvalue⟩)
    rw [hnumber, Option.getD_some]
    split <;> omega

/-! ## Where rolls fall -/

namespace Choice

/-- The position that a roll falls on. -/
def position? : (weights : List Nat) → (roll : Nat) → Option Nat
  | [], _ => none
  | w :: ws, roll => if roll < w then some 0 else (position? ws (roll - w)).map (· + 1)

/-- A roll falls on the reply at its position. -/
theorem at?_eq : ∀ (replies : List String) (roll : Nat),
    at? replies roll = (position? (replies.map weight) roll).bind (replies[·]?)
  | [], _ => rfl
  | r :: rs, roll => by
    rw [at?, List.map_cons, position?]
    split
    · rfl
    · rw [at?_eq rs, Option.bind_map]
      rfl

/-- A roll below the sum of the weights falls on one of them. -/
theorem exists_position? : ∀ {ws : List Nat} {roll : Nat}, roll < ws.sum →
    ∃ i, i < ws.length ∧ position? ws roll = some i
  | w :: ws, roll, h => by
    rw [List.sum_cons] at h
    rw [position?]
    by_cases hw : roll < w
    · exact ⟨0, Nat.succ_pos _, if_pos hw⟩
    · have hrest : roll - w < ws.sum := by omega
      obtain ⟨i, hi, hposition⟩ := exists_position? hrest
      exact ⟨i + 1, Nat.succ_lt_succ hi, by rw [if_neg hw, hposition]; rfl⟩

/-- **As many rolls fall on a position as its weight says.** -/
theorem countP_position? : ∀ {ws : List Nat} {i w : Nat}, ws[i]? = some w →
    (List.range ws.sum).countP (fun roll => position? ws roll = some i) = w
  | v :: ws, i, w, h => by
    -- the first weight takes the first rolls, the others those behind them
    have hrange : List.range (v :: ws).sum =
        List.range v ++ (List.range ws.sum).map (v + ·) := by
      rw [List.sum_cons, List.range_add]
    have hfirst : ∀ roll ∈ List.range v, position? (v :: ws) roll = some 0 := fun roll hroll =>
      if_pos (List.mem_range.1 hroll)
    have hbehind (roll : Nat) :
        position? (v :: ws) (v + roll) = (position? ws roll).map (· + 1) := by
      rw [position?, if_neg (by omega), Nat.add_sub_cancel_left]
    rw [hrange, List.countP_append, List.countP_map]
    cases i with
    | zero =>
      obtain rfl : v = w := by simpa using h
      have hall : (List.range v).countP (fun roll => position? (v :: ws) roll = some 0) = v := by
        rw [List.countP_eq_length.2 fun roll hroll => decide_eq_true (hfirst roll hroll),
          List.length_range]
      have hnone : (List.range ws.sum).countP
          ((fun roll => decide (position? (v :: ws) roll = some 0)) ∘ (v + ·)) = 0 :=
        List.countP_eq_zero.2 fun roll _ => by simp [hbehind]
      rw [hall, hnone, Nat.add_zero]
    | succ i =>
      have hnone : (List.range v).countP
          (fun roll => position? (v :: ws) roll = some (i + 1)) = 0 :=
        List.countP_eq_zero.2 fun roll hroll => by simp [hfirst roll hroll]
      have hrest : (fun roll => decide (position? (v :: ws) roll = some (i + 1))) ∘ (v + ·) =
          fun roll => decide (position? ws roll = some i) := by
        funext roll
        simp [hbehind]
      rw [hnone, hrest, Nat.zero_add]
      exact countP_position? (by simpa using h)

/-! ## Words of 64 bits -/

/-- What may go wrong when the reply of a roll is looked up. -/
inductive Mishap where
  /-- A difference is negative. -/
  | negative
  /-- No reply is left. -/
  | exhausted
  deriving DecidableEq, Repr

/-- A sum of words, if it is a word. -/
def plus? (a b : UInt64) : Option UInt64 :=
  if a.toNat + b.toNat < 2 ^ 64 then some (a + b) else none

/-- The difference of two words. -/
def minus (a b : UInt64) : Except Mishap UInt64 :=
  if a < b then .error .negative else .ok (a - b)

/-- Look up the position of a roll in weights that are words. -/
def walk : (weights : List UInt64) → (roll : UInt64) → Except Mishap Nat
  | [], _ => .error .exhausted
  | w :: ws, roll =>
    if roll < w then .ok 0
    else do
      let rest ← minus roll w
      let i ← walk ws rest
      pure (i + 1)

/-- Numbers as words. -/
def words (ws : List Nat) : List UInt64 := ws.map UInt64.ofNat

theorem toNat_word {n : Nat} (h : n < 2 ^ 64) : (UInt64.ofNat n).toNat = n :=
  UInt64.toNat_ofNat_of_lt' h

/-- The sum of words is never too large if the sum of the numbers is not. -/
theorem foldlM_plus? : ∀ {ws : List Nat} {n : Nat}, n + ws.sum < 2 ^ 64 →
    (words ws).foldlM plus? (.ofNat n) = some (.ofNat (n + ws.sum))
  | [], n, _ => rfl
  | w :: ws, n, h => by
    rw [List.sum_cons, ← Nat.add_assoc] at h
    have hplus : plus? (.ofNat n) (.ofNat w) = some (.ofNat (n + w)) := by
      rw [plus?, toNat_word (by omega), toNat_word (by omega), if_pos (by omega), UInt64.ofNat_add]
    rw [words, List.map_cons, List.foldlM_cons, hplus, List.sum_cons, ← Nat.add_assoc]
    exact foldlM_plus? h

/-- **In the walk on words no difference is negative, and it ends at the position of the roll.** -/
theorem walk_eq : ∀ {ws : List Nat} {roll : Nat}, ws.sum < 2 ^ 64 → roll < ws.sum →
    ∃ i, i < ws.length ∧ position? ws roll = some i ∧ walk (words ws) (.ofNat roll) = .ok i
  | w :: ws, roll, hsum, hroll => by
    rw [List.sum_cons] at hsum hroll
    have hless : UInt64.ofNat roll < UInt64.ofNat w ↔ roll < w := by
      rw [UInt64.lt_iff_toNat_lt, toNat_word (by omega), toNat_word (by omega)]
    rw [position?, words, List.map_cons, walk]
    by_cases hw : roll < w
    · exact ⟨0, Nat.succ_pos _, if_pos hw, if_pos (hless.2 hw)⟩
    · have hrest : roll - w < ws.sum := by omega
      obtain ⟨i, hi, hposition, hwalk⟩ := walk_eq (by omega) hrest
      have hminus : minus (.ofNat roll) (.ofNat w) = .ok (.ofNat (roll - w)) := by
        rw [minus, if_neg (hless.not.2 hw), UInt64.ofNat_sub (Nat.le_of_not_lt hw)]
      refine ⟨i + 1, Nat.succ_lt_succ hi, ?_, ?_⟩
      · rw [if_neg hw, hposition]
        rfl
      · rw [if_neg (hless.not.2 hw), hminus]
        change (do
          let i ← walk (words ws) (.ofNat (roll - w))
          pure (i + 1) : Except Mishap Nat) = _
        rw [hwalk]
        rfl

/-! ## Choosing with the declared weights -/

/-- The replies are chosen with some weights. -/
structure Fair (replies : List String) (ws : List Nat) : Prop where
  pos : 0 < ws.sum
  fits : ws.sum < 2 ^ 64
  total : (words ws).foldlM plus? 0 = some (.ofNat ws.sum)
  /-- Every roll falls on a reply. -/
  lands : ∀ roll < ws.sum, ∃ i r, walk (words ws) (.ofNat roll) = .ok i ∧ replies[i]? = some r ∧
    at? replies roll = some r
  /-- As many rolls fall on a reply as its weight says. -/
  count : ∀ i w, ws[i]? = some w →
    (List.range ws.sum).countP (fun roll => walk (words ws) (.ofNat roll) = .ok i) = w
  /-- The reply chosen is the one that the dice fall on. -/
  pick : ∀ t : Turn, (t.dice.roll ws.sum).1 < ws.sum ∧ (pick replies).run t =
    (at? replies (t.dice.roll ws.sum).1, { t with dice := (t.dice.roll ws.sum).2 })

variable {replies : List String} {ws : List Nat}

theorem map_weight (h : List.Forall₂ (fun r w => DeclaresWeight r.toList w) replies ws) :
    replies.map weight = ws := by
  induction h with
  | nil => rfl
  | cons hr _ ih => rw [List.map_cons, hr.weight_eq, ih]

/-- The sum of the declared weights is at least the number of replies. -/
theorem sum_bounds (h : List.Forall₂ (fun r w => DeclaresWeight r.toList w) replies ws) :
    replies.length ≤ ws.sum ∧ ws.sum ≤ replies.length * 2 ^ 32 := by
  have hbounds {t : Text} {w : Nat} (h : DeclaresWeight t w) : 1 ≤ w ∧ w ≤ 2 ^ 32 := by
    cases h with
    | none => exact ⟨by decide, by decide⟩
    | first => split <;> omega
  induction h with
  | nil => exact ⟨Nat.le_refl 0, Nat.le_refl 0⟩
  | cons hr _ ih =>
    have hw := hbounds hr
    rw [List.length_cons, List.sum_cons]
    omega

/-- **Replies are chosen with the weights that they declare.** -/
theorem pick_declared (hne : replies ≠ []) (hlength : replies.length ≤ 2 ^ 31)
    (h : List.Forall₂ (fun r w => DeclaresWeight r.toList w) replies ws) : Fair replies ws := by
  have hweights : replies.map weight = ws := map_weight h
  have htotal : total replies = ws.sum := congrArg List.sum hweights
  have hbounds := sum_bounds h
  have hpos : 0 < ws.sum := (List.length_pos_of_ne_nil hne).trans_le hbounds.1
  have hfits : ws.sum < 2 ^ 64 := by omega
  have hlands : ∀ roll < ws.sum, ∃ i r, walk (words ws) (.ofNat roll) = .ok i ∧
      position? ws roll = some i ∧ replies[i]? = some r ∧ at? replies roll = some r := by
    intro roll hroll
    obtain ⟨i, hi, hposition, hwalk⟩ := walk_eq hfits hroll
    have hreply : i < replies.length := by rwa [← hweights, List.length_map] at hi
    have hget := List.getElem?_eq_getElem hreply
    refine ⟨i, _, hwalk, hposition, hget, ?_⟩
    rw [at?_eq, hweights, hposition]
    exact hget
  refine ⟨hpos, hfits, ?_, fun roll hroll => ?_, fun i w hw => ?_, fun t => ?_⟩
  · have hsum : 0 + ws.sum < 2 ^ 64 := by omega
    simpa using foldlM_plus? hsum
  · obtain ⟨i, r, hwalk, -, hget, hat⟩ := hlands roll hroll
    exact ⟨i, r, hwalk, hget, hat⟩
  · -- on the rolls that count, the walk ends where the roll falls
    rw [← countP_position? hw]
    refine List.countP_congr fun roll hroll => ?_
    obtain ⟨j, r, hwalk, hposition, -, -⟩ := hlands roll (List.mem_range.1 hroll)
    rw [hwalk, hposition]
    simp
  · have hroll : (t.dice.roll ws.sum).1 < ws.sum := Nat.mod_lt _ hpos
    refine ⟨hroll, ?_⟩
    obtain ⟨i, r, -, -, -, hat⟩ := hlands _ hroll
    obtain ⟨x, xs, rfl⟩ := List.exists_cons_of_ne_nil hne
    have hrun : (pick (x :: xs)).run t =
        ((at? (x :: xs) (t.dice.roll (total (x :: xs))).1).or (x :: xs).getLast?,
          { t with dice := (t.dice.roll (total (x :: xs))).2 }) := rfl
    rw [hrun, htotal, hat]
    rfl

/-- A large weight, no weight, and a weight of zero in other letter case. -/
theorem pick_declared_three :
    List.Forall₂ (fun r w => DeclaresWeight (String.toList r) w)
        ["A\x7bweight=99\x7d", "B", "\x7bWEIGHT=0\x7dC\x7bweight=7\x7d"] [99, 1, 1] ∧
      Fair ["A\x7bweight=99\x7d", "B", "\x7bWEIGHT=0\x7dC\x7bweight=7\x7d"] [99, 1, 1] := by
  have h : List.Forall₂ (fun r w => DeclaresWeight (String.toList r) w)
      ["A\x7bweight=99\x7d", "B", "\x7bWEIGHT=0\x7dC\x7bweight=7\x7d"] [99, 1, 1] := by
    refine .cons ?_ (.cons ?_ (.cons ?_ .nil))
    · have hfind : Metadata.weightTag.find? "A\x7bweight=99\x7d".toList =
          some (['A'], ['9', '9'], []) := by decide
      exact .of_find? hfind (List.all_eq_true.1 (by decide)) (by decide)
    · exact .none (Metadata.find?_weightTag_eq_none.1 (by decide))
    · have hfind : Metadata.weightTag.find? "\x7bWEIGHT=0\x7dC\x7bweight=7\x7d".toList =
          some ([], ['0'], "C\x7bweight=7\x7d".toList) := by decide
      exact .of_find? hfind (List.all_eq_true.1 (by decide)) (by decide)
  exact ⟨h, pick_declared (by decide) (by decide) h⟩

end Choice

end Repartee

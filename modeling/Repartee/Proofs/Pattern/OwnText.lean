import Repartee.Proofs.Pattern.Guarded
import Repartee.Proofs.Pattern.Stars

/-!
# Stars in the text of a pattern

How many stars a pattern has can be told from its own text: what is left of it without the
references that are resolved.

* `Pattern.own`: a text without these references.
* `Pattern.own_eq_self`: without `<` it is the text itself.
* `Pattern.ownUpTo_trim`: blanks around a text stay around it.
* `Pattern.starCount`: its opening parentheses, and its wildcards that are not in an optional.
* `Pattern.Counts`: the stars of a text that leaves no optional open, in front of any other text.
-/

namespace Repartee

namespace Pattern

/-! ## The own text -/

/-- The bracket that closes another one. -/
def partner (c : Char) : Char := if c = '[' then ']' else ')'

/-- What stands between an opening bracket and its partner, and what behind this one. -/
def inside? (c : Char) (cs : Text) : Option (Text × Text) :=
  if c = '[' then Text.cut? ']' cs else if c = '(' then closeGroup? 0 cs else none

/-- What stands behind a reference that is resolved. -/
def behindReference? (c : Char) (cs : Text) : Option Text :=
  if c = '<' then (Text.cut? '>' cs).bind fun r => (reference? r.1).map fun _ => r.2 else none

/-- A text of at most `n` characters without the references that are resolved. Alternatives are
read one by one. -/
def ownUpTo : (n : Nat) → Text → Text
  | 0, _ => []
  | _ + 1, [] => []
  | n + 1, c :: cs =>
    match inside? c cs with
    | some (inner, rest) =>
      c :: (Text.join ['|'] ((splitAt 0 inner).map (ownUpTo n)) ++ partner c :: ownUpTo n rest)
    | none =>
      match behindReference? c cs with
      | some rest => ownUpTo n rest
      | none => c :: ownUpTo n cs

/-- A text without the references that are resolved. -/
def own (t : Text) : Text := ownUpTo t.length t

variable {c : Char} {cs t u v w inner rest : Text} {n : Nat}

theorem inside?_eq_some (h : inside? c cs = some (inner, rest)) :
    cs = inner ++ partner c :: rest ∧ (c = '[' ∧ ']' ∉ inner ∨ c = '(') := by
  rw [inside?] at h
  split at h
  · rename_i hc
    obtain ⟨hcs, hno⟩ := Text.cut?_eq_some h
    exact ⟨by rwa [partner, if_pos hc], .inl ⟨hc, hno⟩⟩
  · rename_i hsquare
    split at h
    · rename_i hround
      exact ⟨by rw [partner, if_neg hsquare]; exact closeGroup?_eq_some h, .inr hround⟩
    · cases h

theorem behindReference?_eq_some (h : behindReference? c cs = some rest) :
    c = '<' ∧ ∃ tag, cs = tag ++ '>' :: rest := by
  rw [behindReference?] at h
  split at h
  · rename_i hc
    obtain ⟨⟨tag, rest'⟩, hcut, htag⟩ := Option.bind_eq_some_iff.1 h
    obtain ⟨_, -, rfl⟩ := Option.map_eq_some_iff.1 htag
    exact ⟨hc, tag, (Text.cut?_eq_some hcut).1⟩
  · cases h

/-- What is cut out of a bracket is shorter than what follows the bracket. -/
theorem length_of_inside? (h : inside? c cs = some (inner, rest)) (hn : cs.length ≤ n) :
    (∀ w ∈ splitAt 0 inner, w.length ≤ n) ∧ rest.length ≤ n := by
  obtain ⟨rfl, -⟩ := inside?_eq_some h
  rw [List.length_append, List.length_cons] at hn
  refine ⟨fun w hw => ?_, by omega⟩
  have hle := ((List.sublist_flatten_of_mem hw).trans (flatten_splitAt inner 0).1).length_le
  omega

theorem length_of_behindReference? (h : behindReference? c cs = some rest) (hn : cs.length ≤ n) :
    rest.length ≤ n := by
  obtain ⟨-, tag, rfl⟩ := behindReference?_eq_some h
  rw [List.length_append, List.length_cons] at hn
  omega

theorem ownUpTo_nil : ∀ n : Nat, ownUpTo n [] = []
  | 0 => rfl
  | _ + 1 => rfl

/-- The bound does not matter if the text is not longer. -/
theorem ownUpTo_eq : ∀ {n m : Nat} {t : Text}, t.length ≤ n → t.length ≤ m →
    ownUpTo n t = ownUpTo m t
  | n, m, [], _, _ => by rw [ownUpTo_nil, ownUpTo_nil]
  | n + 1, m + 1, c :: cs, hn, hm => by
    have hn : cs.length ≤ n := Nat.le_of_succ_le_succ hn
    have hm : cs.length ≤ m := Nat.le_of_succ_le_succ hm
    rw [ownUpTo, ownUpTo]
    cases hin : inside? c cs with
    | some r =>
      obtain ⟨inner, rest⟩ := r
      obtain ⟨hpieces, hrest⟩ := length_of_inside? hin hn
      obtain ⟨hpieces', hrest'⟩ := length_of_inside? hin hm
      have heach : (splitAt 0 inner).map (ownUpTo n) = (splitAt 0 inner).map (ownUpTo m) :=
        List.map_congr_left fun w hw => ownUpTo_eq (hpieces w hw) (hpieces' w hw)
      dsimp only
      rw [heach, ownUpTo_eq hrest hrest']
    | none =>
      cases hreference : behindReference? c cs with
      | some rest =>
        exact ownUpTo_eq (length_of_behindReference? hreference hn)
          (length_of_behindReference? hreference hm)
      | none =>
        dsimp only
        rw [ownUpTo_eq hn hm]

/-! ## Blanks -/

theorem cut?_append_of_notMem {sep : Char} (hv : sep ∉ v) : ∀ t : Text,
    Text.cut? sep (t ++ v) = (Text.cut? sep t).map fun r => (r.1, r.2 ++ v)
  | [] => by
    cases h : Text.cut? sep v with
    | none => simp [h, Text.cut?]
    | some r =>
      obtain ⟨rfl, -⟩ := Text.cut?_eq_some h
      simp at hv
  | c :: t => by
    rw [List.cons_append, Text.cut?, Text.cut?]
    split
    · rfl
    · rw [cut?_append_of_notMem hv t, Option.map_map, Option.map_map]
      rfl

theorem closeGroup?_append_of_notMem (hv : ')' ∉ v) : ∀ (d : Nat) (t : Text),
    closeGroup? d (t ++ v) = (closeGroup? d t).map fun r => (r.1, r.2 ++ v)
  | d, [] => by
    cases h : closeGroup? d v with
    | none => cases d <;> simp [h, closeGroup?]
    | some r =>
      have := closeGroup?_eq_some h
      simp [this] at hv
  | 0, c :: t => by
    rw [List.cons_append, closeGroup?, closeGroup?]
    split
    · rfl
    · rw [closeGroup?_append_of_notMem hv, Option.map_map, Option.map_map]
      rfl
  | d + 1, c :: t => by
    rw [List.cons_append, closeGroup?, closeGroup?, closeGroup?_append_of_notMem hv,
      Option.map_map, Option.map_map]
    rfl

theorem notMem_of_blanks (hv : ∀ c ∈ v, isBlank c) (hc : isSign c) : c ∉ v := by
  intro hmem
  have hblank := hv c hmem
  rw [isBlank_of_isSign hc] at hblank
  cases hblank

theorem inside?_append_blanks (hv : ∀ c ∈ v, isBlank c) (c : Char) (cs : Text) :
    inside? c (cs ++ v) = (inside? c cs).map fun r => (r.1, r.2 ++ v) := by
  rw [inside?, inside?]
  split
  · exact cut?_append_of_notMem (notMem_of_blanks hv rfl) cs
  · split
    · exact closeGroup?_append_of_notMem (notMem_of_blanks hv rfl) 0 cs
    · rfl

theorem behindReference?_append_blanks (hv : ∀ c ∈ v, isBlank c) (c : Char) (cs : Text) :
    behindReference? c (cs ++ v) = (behindReference? c cs).map (· ++ v) := by
  rw [behindReference?, behindReference?]
  split
  · rw [cut?_append_of_notMem (notMem_of_blanks hv rfl) cs]
    cases Text.cut? '>' cs with
    | none => rfl
    | some r =>
      dsimp only [Option.map_some, Option.bind_some]
      cases reference? r.1 <;> rfl
  · rfl

/-- A character that opens nothing is kept. -/
theorem ownUpTo_cons (hc : c ≠ '[' ∧ c ≠ '(' ∧ c ≠ '<') (n : Nat) (cs : Text) :
    ownUpTo (n + 1) (c :: cs) = c :: ownUpTo n cs := by
  rw [ownUpTo, inside?, behindReference?, if_neg hc.1, if_neg hc.2.1, if_neg hc.2.2]

/-- A bracket is kept with its partner, and what is in it and behind it is read on. -/
theorem ownUpTo_brackets (h : inside? c cs = some (inner, rest)) (n : Nat) :
    ownUpTo (n + 1) (c :: cs) =
      c :: (Text.join ['|'] ((splitAt 0 inner).map (ownUpTo n)) ++ [partner c]) ++
        ownUpTo n rest := by
  rw [ownUpTo, h, List.cons_append, List.append_assoc]
  rfl

theorem ne_of_isBlank (hc : isBlank c) : c ≠ '[' ∧ c ≠ '(' ∧ c ≠ '<' := by
  refine ⟨?_, ?_, ?_⟩ <;> (rintro rfl; exact absurd hc (by decide))

/-- Blanks in front are kept. -/
theorem ownUpTo_blanks_append (t : Text) : ∀ {u : Text} {n : Nat}, (∀ c ∈ u, isBlank c) →
    (u ++ t).length ≤ n → ownUpTo n (u ++ t) = u ++ ownUpTo n t
  | [], _, _, _ => rfl
  | b :: u, n + 1, hu, hn => by
    rw [List.forall_mem_cons] at hu
    rw [List.cons_append, List.length_cons] at hn
    have hlen : (u ++ t).length ≤ n := Nat.le_of_succ_le_succ hn
    have ht : t.length ≤ n := Nat.le_trans (List.sublist_append_right u t).length_le hlen
    rw [List.cons_append, ownUpTo_cons (ne_of_isBlank hu.1), ownUpTo_blanks_append t hu.2 hlen,
      ownUpTo_eq ht (Nat.le_succ_of_le ht), List.cons_append]

/-- Blanks behind are kept. -/
theorem ownUpTo_append_blanks (hv : ∀ c ∈ v, isBlank c) : ∀ {n : Nat} {t : Text},
    (t ++ v).length ≤ n → ownUpTo n (t ++ v) = ownUpTo n t ++ v
  | n, [], hn => by
    rw [List.nil_append] at hn ⊢
    have h := ownUpTo_blanks_append (n := n) [] hv (by rwa [List.append_nil])
    rw [ownUpTo_nil, List.append_nil] at h
    rw [ownUpTo_nil, h, List.nil_append]
  | n + 1, c :: cs, hn => by
    have hn : (cs ++ v).length ≤ n := Nat.le_of_succ_le_succ hn
    rw [List.cons_append, ownUpTo, ownUpTo, inside?_append_blanks hv,
      behindReference?_append_blanks hv]
    cases hin : inside? c cs with
    | some r =>
      obtain ⟨inner, rest⟩ := r
      have hin' : inside? c (cs ++ v) = some (inner, rest ++ v) := by
        rw [inside?_append_blanks hv, hin]
        rfl
      obtain ⟨-, hrest⟩ := length_of_inside? hin' hn
      dsimp only [Option.map_some]
      rw [ownUpTo_append_blanks hv hrest]
      simp
    | none =>
      cases hreference : behindReference? c cs with
      | some rest =>
        have hrest := length_of_behindReference? (c := c)
          (by rw [behindReference?_append_blanks hv, hreference]; rfl) hn
        exact ownUpTo_append_blanks hv hrest
      | none =>
        dsimp only [Option.map_none]
        rw [ownUpTo_append_blanks hv hn, List.cons_append]

/-- **Blanks around a text stay around it.** -/
theorem ownUpTo_trim (hn : w.length ≤ n) : ∃ u v : Text, (∀ c ∈ u, isBlank c) ∧
    (∀ c ∈ v, isBlank c) ∧ ownUpTo n w = u ++ (ownUpTo n w.trim ++ v) := by
  obtain ⟨u, v, hu, hv, hw⟩ := Text.exists_trim w
  refine ⟨u, v, hu, hv, ?_⟩
  have hlen : (u ++ (w.trim ++ v)).length ≤ n := by rwa [← hw]
  have hlen' : (w.trim ++ v).length ≤ n :=
    Nat.le_trans (List.sublist_append_right u _).length_le hlen
  conv_lhs => rw [hw]
  rw [ownUpTo_blanks_append _ hu hlen, ownUpTo_append_blanks hv hlen']

/-! ## Texts without references -/

theorem beforeFirst_ne_nil (w : Text) (ws : List Text) : beforeFirst w ws ≠ [] := by
  cases ws <;> exact List.cons_ne_nil _ _

theorem splitAt_ne_nil (d : Int) : ∀ t : Text, splitAt d t ≠ []
  | [] => List.cons_ne_nil _ _
  | c :: cs => by
    by_cases hc : c = '|' ∧ d = 0
    · obtain ⟨rfl, rfl⟩ := hc
      rw [splitAt_cons_bar]
      exact List.cons_ne_nil _ _
    · rw [splitAt_cons hc]
      exact beforeFirst_ne_nil _ _

theorem join_beforeFirst (sep w : Text) (ws : List Text) :
    Text.join sep (beforeFirst w ws) = w ++ Text.join sep ws := by
  match ws with
  | [] => simp [beforeFirst, Text.join]
  | [v] => rfl
  | v :: v' :: ws => simp [beforeFirst, Text.join]

/-- The alternatives with pipes between them are the inside of the bracket. -/
theorem join_splitAt : ∀ (t : Text) (d : Int), Text.join ['|'] (splitAt d t) = t
  | [], _ => rfl
  | c :: cs, d => by
    by_cases hc : c = '|' ∧ d = 0
    · obtain ⟨rfl, rfl⟩ := hc
      rw [splitAt_cons_bar, Text.join_cons _ _ (splitAt_ne_nil 0 cs), join_splitAt cs 0]
      rfl
    · rw [splitAt_cons hc, join_beforeFirst, join_splitAt]
      rfl

/-- A text without `<` is its own text. -/
theorem ownUpTo_eq_self : ∀ {n : Nat} {t : Text}, t.length ≤ n → '<' ∉ t → ownUpTo n t = t
  | n, [], _, _ => ownUpTo_nil n
  | n + 1, c :: cs, hn, h => by
    have hn : cs.length ≤ n := Nat.le_of_succ_le_succ hn
    rw [List.mem_cons, not_or] at h
    have hreference : behindReference? c cs = none := if_neg (Ne.symm h.1)
    rw [ownUpTo, hreference]
    cases hin : inside? c cs with
    | some r =>
      obtain ⟨inner, rest⟩ := r
      obtain ⟨hpieces, hrest⟩ := length_of_inside? hin hn
      obtain ⟨rfl, -⟩ := inside?_eq_some hin
      have hinner : '<' ∉ inner := fun hm => h.2 (List.mem_append_left _ hm)
      have heach : (splitAt 0 inner).map (ownUpTo n) = splitAt 0 inner := by
        conv_rhs => rw [← List.map_id (splitAt 0 inner)]
        refine List.map_congr_left fun w hw => ownUpTo_eq_self (hpieces w hw) fun hm => hinner ?_
        have hsub := (List.sublist_flatten_of_mem hw).trans (flatten_splitAt inner 0).1
        exact hsub.subset hm
      dsimp only
      rw [heach, join_splitAt, ownUpTo_eq_self hrest fun hm => h.2 (by simp [hm])]
    | none =>
      dsimp only
      rw [ownUpTo_eq_self hn h.2]

/-- **A text without `<` is its own text.** -/
theorem own_eq_self (h : '<' ∉ t) : own t = t := ownUpTo_eq_self (Nat.le_refl _) h

/-- A reference is left out, another tag is kept. -/
example : own "(a|<bot the_name>) <b *>".toList = "(a|) <b *>".toList := by decide

/-! ## Counting -/

/-- The opening parentheses of a text, and its wildcards that are not in an optional, one being open
at its start if `inside` is true. -/
def starCount : (inside : Bool) → Text → Nat
  | _, [] => 0
  | inside, c :: cs =>
    if c = '[' then starCount true cs
    else if c = ']' then starCount false cs
    else if c = '(' ∨ (wildcard? c).isSome ∧ inside = false then starCount inside cs + 1
    else starCount inside cs

/-- A text has some stars, and behind it an optional is open if one is before it. -/
def Counts (inside : Bool) (t : Text) (k : Nat) : Prop :=
  ∀ u, starCount inside (t ++ u) = k + starCount inside u

variable {inside : Bool} {k m : Nat}

theorem Counts.starCount (h : Counts inside t k) : starCount inside t = k := by
  have hnil := h []
  rwa [List.append_nil, Pattern.starCount, Nat.add_zero] at hnil

theorem Counts.nil : Counts inside [] 0 := fun u => by rw [List.nil_append, Nat.zero_add]

theorem Counts.append (ht : Counts inside t k) (hu : Counts inside u m) :
    Counts inside (t ++ u) (k + m) := by
  intro v
  rw [List.append_assoc, ht, hu, Nat.add_assoc]

theorem Counts.char (hopen : c ≠ '[' ∧ c ≠ '(') (hclose : inside → c ≠ ']')
    (hwild : wildcard? c = none) : Counts inside [c] 0 := by
  intro u
  rw [List.singleton_append, Nat.zero_add, Pattern.starCount, if_neg hopen.1]
  by_cases hc : c = ']'
  · have hin : inside = false := Bool.eq_false_iff.2 fun h => hclose h hc
    rw [if_pos hc, hin]
  · rw [if_neg hc, if_neg (by simp [hopen.2, hwild])]

theorem Counts.blanks (h : ∀ c ∈ t, isBlank c) : Counts inside t 0 := by
  induction t with
  | nil => exact .nil
  | cons c t ih =>
    rw [List.forall_mem_cons] at h
    have hne {d : Char} (hd : isSign d) : c ≠ d := by
      rintro rfl
      rw [isBlank_of_isSign hd] at h
      exact absurd h.1 Bool.false_ne_true
    have hwild : wildcard? c = none := wildcard?_eq_none ⟨hne rfl, hne rfl, hne rfl⟩
    exact (Counts.char ⟨hne rfl, hne rfl⟩ (fun _ => hne rfl) hwild).append (ih h.2)

theorem Counts.of_not_special (h : t.any isSpecial = false) : Counts false t 0 := by
  induction t with
  | nil => exact .nil
  | cons c t ih =>
    obtain ⟨hc, ht⟩ := Bool.or_eq_false_iff.1 h
    have hne {d : Char} (hd : isSpecial d) : c ≠ d := by
      rintro rfl
      rw [hd] at hc
      cases hc
    have hwild : wildcard? c = none := wildcard?_eq_none ⟨hne rfl, hne rfl, hne rfl⟩
    exact (Counts.char ⟨hne rfl, hne rfl⟩ (by simp) hwild).append (ih ht)

/-- A wildcard is a star outside optionals. -/
theorem Counts.wild {w : Wildcard} (hw : wildcard? c = some w) :
    Counts inside [c] (if inside then 0 else 1) := by
  have hne : c ≠ '[' ∧ c ≠ ']' ∧ c ≠ '(' := by
    refine ⟨?_, ?_, ?_⟩ <;> (rintro rfl; cases hw)
  intro u
  rw [List.singleton_append, Pattern.starCount, if_neg hne.1, if_neg hne.2.1]
  cases inside with
  | true => simp [hne.2.2]
  | false => simp [hw, Nat.add_comm]

theorem Counts.optional (h : Counts true t k) : Counts false ('[' :: (t ++ [']'])) k := by
  intro u
  rw [List.cons_append, List.append_assoc, Pattern.starCount, if_pos rfl, h]
  rfl

/-- A group is a star wherever it stands. -/
theorem Counts.group (h : Counts inside t k) : Counts inside ('(' :: (t ++ [')'])) (k + 1) := by
  have hclose : Counts inside [')'] 0 := .char (by decide) (fun _ => by decide) rfl
  intro u
  rw [List.cons_append, Pattern.starCount, if_neg (by decide), if_neg (by decide),
    if_pos (.inl rfl), (h.append hclose) u]
  omega

/-- Pipes are no stars. -/
theorem Counts.join_cons {ws : List Text} (hw : Counts inside w k)
    (hws : Counts inside (Text.join ['|'] ws) m) :
    Counts inside (Text.join ['|'] (w :: ws)) (k + m) := by
  have hbar : Counts inside ['|'] 0 := .char (by decide) (fun _ => by decide) rfl
  cases ws with
  | nil =>
    have hm : 0 = m := hws.starCount
    rwa [← hm]
  | cons v ws =>
    rw [Text.join, List.append_assoc]
    have hjoin := hw.append (hbar.append hws)
    rwa [Nat.zero_add] at hjoin

end Pattern

end Repartee

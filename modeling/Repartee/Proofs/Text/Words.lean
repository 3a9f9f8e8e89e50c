import Mathlib.Data.List.Chain
import Mathlib.Data.List.TakeWhile
import Repartee.Text.Alphanumeric
import Repartee.Text.Blank

/-!
# Spaces between words

* `isBlank_of_isAlphanumeric`: neither letters nor numbers are blank.
* `Text.join_pieces`: the pieces of a text between its spaces make up the text.
* `Text.mem_of_mem_pieces`, `Text.mem_join`, `Text.mem_squeeze`: where characters come from.
* `Text.IsWord`, `Text.IsPhrase`: words, and words one space apart.
* `Text.words_append`, `Text.words_join`: the words of texts put together.
* **`Text.squeeze_eq_self`**: a text whose words are one space apart is left as it is.
* `Text.trimLeft_append`, `Text.trim_append`, `Text.trim_eq_self`: blanks around a text that has
  none at its ends.
* `Text.cut?_append`, `Text.cut?_eq_some`: what is before and behind the first separator.
-/

namespace Repartee

/-- The code points of the white space characters. -/
def blankCodes : List Nat :=
  32 :: (List.range' 9 5 ++ ([0x85, 0xA0, 0x1680, 0x2028, 0x2029, 0x202F, 0x205F, 0x3000] ++
    List.range' 0x2000 11))

theorem mem_blankCodes {c : Char} (h : isBlank c) : c.toNat ∈ blankCodes := by
  simp only [isBlank, Bool.or_eq_true, Bool.and_eq_true, beq_iff_eq, decide_eq_true_eq,
    List.contains_eq_mem] at h
  rw [blankCodes, List.mem_cons, List.mem_append, List.mem_append, List.mem_range'_1,
    List.mem_range'_1]
  rcases h with ((rfl | h) | h) | h
  · exact .inl rfl
  · exact .inr (.inl (by omega))
  · exact .inr (.inr (.inl h))
  · exact .inr (.inr (.inr (by omega)))

/-- Neither letters nor numbers are blank. -/
theorem isBlank_of_isAlphanumeric {c : Char} (h : isAlphanumeric c) : isBlank c = false := by
  have hcodes : ∀ n ∈ blankCodes, isAlphanumeric (Char.ofNat n) = false := by decide +kernel
  by_contra hb
  have hc := hcodes c.toNat (mem_blankCodes (by simpa using hb))
  rw [Char.ofNat_toNat, h] at hc
  exact Bool.noConfusion hc

namespace Text

variable {t u v : Text}

theorem pieces_ne_nil (sep : Char → Bool) : ∀ t : Text, pieces sep t ≠ []
  | [] => by simp [pieces]
  | c :: cs => by
    unfold pieces
    split
    · simp
    · split <;> simp

theorem join_cons (sep w : Text) {ws : List Text} (h : ws ≠ []) :
    join sep (w :: ws) = w ++ sep ++ join sep ws := by
  cases ws with
  | nil => exact absurd rfl h
  | cons v ws => rfl

/-- Where only spaces separate, the pieces with spaces between them make up the text. -/
theorem join_pieces {sep : Char → Bool} :
    ∀ {t : Text}, (∀ c ∈ t, sep c → c = ' ') → join [' '] (pieces sep t) = t
  | [], _ => rfl
  | c :: cs, h => by
    have ih := join_pieces fun d hd => h d (List.mem_cons_of_mem _ hd)
    unfold pieces
    split
    · rename_i hc
      rw [join_cons _ _ (pieces_ne_nil sep cs), ih, h c List.mem_cons_self hc]
      rfl
    · cases hp : pieces sep cs with
      | nil => exact absurd hp (pieces_ne_nil sep cs)
      | cons w ws =>
        rw [hp] at ih
        cases ws with
        | nil => exact congrArg _ ih
        | cons v ws => exact congrArg _ ih

/-- The characters of a piece come from the text, and none of them separates. -/
theorem mem_of_mem_pieces {sep : Char → Bool} {c : Char} :
    ∀ {t w : Text}, w ∈ pieces sep t → c ∈ w → c ∈ t ∧ sep c = false
  | [], w, hw, hc => by
    rw [pieces, List.mem_singleton] at hw
    simp [hw] at hc
  | d :: ds, w, hw, hc => by
    have ih {v : Text} (hv : v ∈ pieces sep ds) (hcv : c ∈ v) : c ∈ d :: ds ∧ sep c = false :=
      (mem_of_mem_pieces hv hcv).imp_left (List.mem_cons_of_mem d)
    rw [pieces] at hw
    split at hw
    · rcases List.mem_cons.1 hw with rfl | hw
      · cases hc
      · exact ih hw hc
    · rename_i hd
      split at hw
      · rename_i hp
        exact absurd hp (pieces_ne_nil sep ds)
      · rename_i v vs hp
        rw [hp] at ih
        rcases List.mem_cons.1 hw with rfl | hw
        · rcases List.mem_cons.1 hc with rfl | hc
          · exact ⟨List.mem_cons_self, by simpa using hd⟩
          · exact ih List.mem_cons_self hc
        · exact ih (List.mem_cons_of_mem v hw) hc

theorem mem_join {sep : Text} {c : Char} :
    ∀ {ws : List Text}, c ∈ join sep ws → c ∈ sep ∨ ∃ w ∈ ws, c ∈ w
  | [], h => by cases h
  | [w], h => .inr ⟨w, List.mem_singleton_self w, h⟩
  | w :: v :: ws, h => by
    rw [join, List.mem_append, List.mem_append] at h
    rcases h with (h | h) | h
    · exact .inr ⟨w, List.mem_cons_self, h⟩
    · exact .inl h
    · refine (mem_join h).imp_right ?_
      rintro ⟨u, hu, hc⟩
      exact ⟨u, List.mem_cons_of_mem w hu, hc⟩

theorem mem_squeeze {c : Char} (h : c ∈ t.squeeze) : c = ' ' ∨ c ∈ t ∧ isBlank c = false := by
  rw [squeeze, words] at h
  rcases mem_join h with h | ⟨w, hw, hc⟩
  · exact .inl (List.mem_singleton.1 h)
  · exact .inr (mem_of_mem_pieces (List.mem_filter.1 hw).1 hc)

/-- A character of which two do not stand side by side, and none stands at an end. -/
structure Spaced (sep : Char → Bool) (t : Text) : Prop where
  chain : t.IsChain fun a b => ¬(sep a ∧ sep b)
  first : ∀ c ∈ t.head?, sep c = false
  last : ∀ c ∈ t.getLast?, sep c = false

theorem nonempty_of_mem_pieces {sep : Char → Bool} :
    ∀ {t : Text}, t ≠ [] → Spaced sep t → ∀ w ∈ pieces sep t, w ≠ []
  | [c], _, h, w, hw => by
    have hc := h.first c rfl
    simp only [pieces, hc, Bool.false_eq_true, if_false, List.mem_singleton] at hw
    simp [hw]
  | c :: d :: ds, _, h, w, hw => by
    have hc := h.first c rfl
    have ⟨_, hd⟩ := List.isChain_cons_cons.1 h.chain
    by_cases hs : sep d
    · -- behind a separator comes a further character, and no separator
      cases ds with
      | nil => simp [h.last d (by simp)] at hs
      | cons e es =>
        have ⟨hde, he⟩ := List.isChain_cons_cons.1 hd
        have ih := nonempty_of_mem_pieces (List.cons_ne_nil e es)
          ⟨he, by simpa [hs] using hde, by simpa using h.last⟩
        rw [pieces, if_neg (by simp [hc]), pieces, if_pos hs] at hw
        rcases List.mem_cons.1 hw with rfl | hw
        · simp
        · exact ih w hw
    · have ih := nonempty_of_mem_pieces (List.cons_ne_nil d ds)
        ⟨hd, by simpa using hs, by simpa using h.last⟩
      rw [pieces, if_neg (by simp [hc])] at hw
      cases hp : pieces sep (d :: ds) with
      | nil => exact absurd hp (pieces_ne_nil sep _)
      | cons v vs =>
        rw [hp] at hw ih
        rcases List.mem_cons.1 hw with rfl | hw
        · simp
        · exact ih w (List.mem_cons_of_mem _ hw)

/-- **A text whose words are one space apart is left as it is.** -/
theorem squeeze_eq_self (h : Spaced isBlank t) (hb : ∀ c ∈ t, isBlank c → c = ' ') :
    t.squeeze = t := by
  cases t with
  | nil => rfl
  | cons c cs =>
    have hw : (pieces isBlank (c :: cs)).filter (!·.isEmpty) = pieces isBlank (c :: cs) := by
      refine List.filter_eq_self.2 fun w hw => ?_
      simpa using nonempty_of_mem_pieces (List.cons_ne_nil c cs) h w hw
    rw [squeeze, words, hw, join_pieces hb]

/-! ## Words -/

/-- One or more characters, none of them blank. -/
def IsWord (w : Text) : Prop := w ≠ [] ∧ ∀ c ∈ w, isBlank c = false

instance (w : Text) : Decidable w.IsWord := @instDecidableAnd _ _ _ (List.decidableBAll _ w)

/-- One or more words, one space apart. -/
def IsPhrase (t : Text) : Prop := t ≠ [] ∧ t.squeeze = t

instance (t : Text) : Decidable t.IsPhrase := inferInstanceAs (Decidable (_ ∧ _))

theorem pieces_eq_singleton {sep : Char → Bool} : ∀ {w : Text}, (∀ c ∈ w, sep c = false) →
    pieces sep w = [w]
  | [], _ => rfl
  | c :: w, h => by
    rw [List.forall_mem_cons] at h
    rw [pieces, if_neg (by simp [h.1]), pieces_eq_singleton h.2]

/-- A text without blanks is left as it is. -/
theorem squeeze_of_unbroken (h : ∀ c ∈ t, isBlank c = false) : t.squeeze = t := by
  rw [squeeze, words, pieces_eq_singleton h]
  cases t <;> rfl

/-- The first piece ends before the first separator. -/
theorem pieces_append {sep : Char → Bool} {b : Char} (hb : sep b) (t : Text) :
    ∀ {w : Text}, (∀ c ∈ w, sep c = false) → pieces sep (w ++ b :: t) = w :: pieces sep t
  | [], _ => by rw [List.nil_append, pieces, if_pos hb]
  | c :: w, h => by
    rw [List.forall_mem_cons] at h
    rw [List.cons_append, pieces, if_neg (by simp [h.1]), pieces_append hb t h.2]

/-- Texts without a separator are the pieces between the separators put between them. -/
theorem pieces_join {sep : Char → Bool} {b : Char} (hb : sep b) : ∀ {ws : List Text}, ws ≠ [] →
    (∀ w ∈ ws, ∀ c ∈ w, sep c = false) → pieces sep (join [b] ws) = ws
  | [w], _, h => pieces_eq_singleton (h w List.mem_cons_self)
  | w :: v :: ws, _, h => by
    rw [List.forall_mem_cons] at h
    rw [join, List.append_assoc, List.singleton_append, pieces_append hb _ h.1,
      pieces_join hb (List.cons_ne_nil v ws) h.2]

/-- Texts without spaces can be told from what they are with spaces between them. -/
theorem join_inj {ws vs : List Text} (hws : ws ≠ []) (hvs : vs ≠ [])
    (hw : ∀ w ∈ ws, ' ' ∉ w) (hv : ∀ v ∈ vs, ' ' ∉ v) (h : join [' '] ws = join [' '] vs) :
    ws = vs := by
  have hpieces {us : List Text} (hne : us ≠ []) (hu : ∀ u ∈ us, ' ' ∉ u) :
      pieces (· == ' ') (join [' '] us) = us :=
    pieces_join rfl hne fun u hmem c hc => beq_false_of_ne fun hs => hu u hmem (hs ▸ hc)
  rw [← hpieces hws hw, h, hpieces hvs hv]

theorem isWord_of_mem_words {w : Text} (h : w ∈ t.words) : w.IsWord := by
  obtain ⟨hw, hne⟩ := List.mem_filter.1 h
  exact ⟨by simpa using hne, fun c hc => (mem_of_mem_pieces hw hc).2⟩

/-- Blanks in front do not matter to the words. -/
theorem words_blanks_append (hu : ∀ c ∈ u, isBlank c) : words (u ++ t) = words t := by
  induction u with
  | nil => rfl
  | cons b u ih =>
    rw [List.forall_mem_cons] at hu
    rw [List.cons_append, words, pieces, if_pos hu.1]
    exact ih hu.2

/-- A word in front of a blank is the first of the words. -/
theorem words_append {w : Text} (hw : w.IsWord) (ht : ∀ c ∈ t.head?, isBlank c) :
    words (w ++ t) = w :: words t := by
  have hkeep (ws : List Text) : (w :: ws).filter (!·.isEmpty) = w :: ws.filter (!·.isEmpty) :=
    List.filter_cons_of_pos (by simpa using hw.1)
  cases t with
  | nil =>
    rw [List.append_nil, words, pieces_eq_singleton hw.2, hkeep]
    rfl
  | cons b t =>
    have hb : isBlank b := ht b rfl
    rw [words, pieces_append hb t hw.2, hkeep, words, pieces, if_pos hb]
    rfl

theorem pieces_map {sep : Char → Bool} {f : Char → Char} (h : ∀ c, sep (f c) = sep c) :
    ∀ t : Text, pieces sep (t.map f) = (pieces sep t).map (·.map f)
  | [] => rfl
  | c :: cs => by
    rw [List.map_cons, pieces, pieces, h c, pieces_map h cs]
    cases sep c with
    | true => rfl
    | false => cases pieces sep cs <;> rfl

/-- Where changes of characters keep the blanks, the words change alike. -/
theorem words_map {f : Char → Char} (h : ∀ c, isBlank (f c) = isBlank c) (t : Text) :
    words (t.map f) = t.words.map (·.map f) := by
  rw [words, pieces_map h, List.filter_map, words]
  congr 2
  funext w
  exact congrArg (!·) List.isEmpty_map

/-- Words with spaces between them are the words of the text they make up. -/
theorem words_join {ws : List Text} (h : ∀ w ∈ ws, w.IsWord) : words (join [' '] ws) = ws := by
  cases ws with
  | nil => rfl
  | cons w ws =>
    rw [words, pieces_join rfl (List.cons_ne_nil w ws) fun v hv => (h v hv).2]
    exact List.filter_eq_self.2 fun v hv => by simpa using (h v hv).1

theorem IsPhrase.words_ne_nil (h : t.IsPhrase) : t.words ≠ [] := by
  intro hnil
  have hsqueeze := h.2
  rw [squeeze, hnil] at hsqueeze
  exact h.1 hsqueeze.symm

/-- Neither end of words with spaces between them is blank. -/
theorem ends_join : ∀ {ws : List Text}, (∀ w ∈ ws, w.IsWord) →
    (∀ c ∈ (join [' '] ws).head?, isBlank c = false) ∧
      ∀ c ∈ (join [' '] ws).getLast?, isBlank c = false
  | [], _ => by simp [join]
  | [w], h => by
    have hw := (h w List.mem_cons_self).2
    exact ⟨fun c hc => hw c (List.mem_of_mem_head? hc),
      fun c hc => hw c (List.mem_of_mem_getLast? hc)⟩
  | w :: v :: ws, h => by
    rw [List.forall_mem_cons] at h
    obtain ⟨⟨hne, hw⟩, hws⟩ := h
    have hjoin : join [' '] (v :: ws) ≠ [] := by
      intro hnil
      have hwords := words_join hws
      rw [hnil] at hwords
      cases hwords
    rw [join, List.append_assoc, List.head?_append_of_ne_nil _ hne,
      List.getLast?_append_of_ne_nil _ (by simp), List.getLast?_append_of_ne_nil _ hjoin]
    exact ⟨fun c hc => hw c (List.mem_of_mem_head? hc), (ends_join hws).2⟩

/-- Neither end of a phrase is blank. -/
theorem IsPhrase.ends (h : t.IsPhrase) :
    (∀ c ∈ t.head?, isBlank c = false) ∧ ∀ c ∈ t.getLast?, isBlank c = false := by
  have := ends_join fun w (hw : w ∈ t.words) => isWord_of_mem_words hw
  rwa [← squeeze, h.2] at this

/-! ## Trimming -/

theorem trimLeft_append (hu : ∀ c ∈ u, isBlank c) (ht : ∀ c ∈ t.head?, isBlank c = false) :
    (u ++ t).trimLeft = t := by
  rw [trimLeft, List.dropWhile_append_of_pos hu]
  cases t with
  | nil => rfl
  | cons c cs => exact List.dropWhile_cons_of_neg (by simp [ht c rfl])

theorem trimRight_append (hu : ∀ c ∈ u, isBlank c) (ht : ∀ c ∈ t.getLast?, isBlank c = false) :
    (t ++ u).trimRight = t := by
  rw [trimRight, List.reverse_append, trimLeft_append, List.reverse_reverse]
  · simpa using hu
  · simpa using ht

/-- Blanks are what trimming takes away. -/
theorem exists_trim (t : Text) : ∃ u v : Text, (∀ c ∈ u, isBlank c) ∧ (∀ c ∈ v, isBlank c) ∧
    t = u ++ (t.trim ++ v) := by
  refine ⟨t.takeWhile isBlank, (t.trimLeft.reverse.takeWhile isBlank).reverse,
    fun c hc => List.mem_takeWhile_imp hc,
    fun c hc => List.mem_takeWhile_imp (List.mem_reverse.1 hc), ?_⟩
  rw [trim, trimRight, ← List.reverse_append, trimLeft, trimLeft, List.takeWhile_append_dropWhile,
    List.reverse_reverse, List.takeWhile_append_dropWhile]

/-- The last character that trimming leaves is not blank. -/
theorem isBlank_getLast?_trim (t : Text) : ∀ c ∈ t.trim.getLast?, isBlank c = false := by
  intro c hc
  have hdrop := List.head?_dropWhile_not isBlank t.trimLeft.reverse
  rw [trim, trimRight, List.getLast?_reverse, trimLeft, Option.mem_def] at hc
  simpa [hc] using hdrop

/-- The first character that trimming leaves is not blank. -/
theorem isBlank_head?_trim (t : Text) : ∀ c ∈ t.trim.head?, isBlank c = false := by
  intro c hc
  have hprefix : t.trim <+: t.trimLeft := by
    rw [trim, trimRight, ← List.reverse_suffix, List.reverse_reverse]
    exact List.dropWhile_suffix isBlank
  obtain ⟨v, hv⟩ := hprefix
  have hhead : t.trimLeft.head? = some c := by
    rw [← hv, List.head?_append, hc]
    rfl
  have hdrop := List.head?_dropWhile_not isBlank t
  rw [trimLeft] at hhead
  simpa [hhead] using hdrop

/-- Blanks around a text that is empty or has none at its ends. -/
theorem trim_append (hu : ∀ c ∈ u, isBlank c) (hv : ∀ c ∈ v, isBlank c)
    (h₁ : ∀ c ∈ t.head?, isBlank c = false) (h₂ : ∀ c ∈ t.getLast?, isBlank c = false)
    (ht : t ≠ []) : (u ++ t ++ v).trim = t := by
  rw [trim, List.append_assoc, trimLeft_append hu, trimRight_append hv h₂]
  rwa [List.head?_append_of_ne_nil _ ht]

theorem trim_eq_self (h₁ : ∀ c ∈ t.head?, isBlank c = false)
    (h₂ : ∀ c ∈ t.getLast?, isBlank c = false) : t.trim = t := by
  by_cases ht : t = []
  · rw [ht]
    rfl
  · have hwhole := trim_append (u := []) (v := []) (by simp) (by simp) h₁ h₂ ht
    rwa [List.nil_append, List.append_nil] at hwhole

theorem trim_trim (t : Text) : t.trim.trim = t.trim :=
  trim_eq_self (isBlank_head?_trim t) (isBlank_getLast?_trim t)

/-! ## Cutting once -/

theorem cut?_append {sep : Char} : ∀ {t : Text}, sep ∉ t → ∀ u : Text,
    cut? sep (t ++ sep :: u) = some (t, u)
  | [], _, u => by simp [cut?]
  | c :: t, h, u => by
    rw [List.mem_cons, not_or] at h
    obtain ⟨hc, ht⟩ := h
    rw [List.cons_append, cut?, if_neg (Ne.symm hc), cut?_append ht]
    rfl

theorem cut?_eq_none {sep : Char} : ∀ {t : Text}, sep ∉ t → cut? sep t = none
  | [], _ => rfl
  | c :: t, h => by
    rw [List.mem_cons, not_or] at h
    rw [cut?, if_neg (Ne.symm h.1), cut?_eq_none h.2]
    rfl

theorem cut?_eq_some {sep : Char} : ∀ {t u v : Text}, cut? sep t = some (u, v) →
    t = u ++ sep :: v ∧ sep ∉ u
  | c :: cs, u, v, h => by
    rw [cut?] at h
    split at h
    · rename_i hc
      cases h
      exact ⟨by rw [hc]; rfl, List.not_mem_nil⟩
    · rename_i hc
      obtain ⟨⟨u, v⟩, hr, he⟩ := Option.map_eq_some_iff.1 h
      cases he
      obtain ⟨rfl, hu⟩ := cut?_eq_some hr
      exact ⟨rfl, fun hm => (List.mem_cons.1 hm).elim (fun h => hc h.symm) hu⟩

end Text

end Repartee

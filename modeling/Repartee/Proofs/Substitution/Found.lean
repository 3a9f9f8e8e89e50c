import Repartee.Proofs.Substitution.Scan

/-!
# Which phrases are found

A text is looked up without its punctuation, but a phrase is stored with it.

* `Regex.removeFrom_of_single`: deletion by an expression that takes one character is a filter.
* `Options.remove_default`: the default punctuation is such an expression.
* `Substitution.apply_congr`: tables that agree on all look-up forms give the same.
* `Substitution.apply_insert`: a phrase without punctuation is found, in any case of its letters.
* `Substitution.apply_insert_punctuated`: a phrase with punctuation is never found.
* **`Substitution.found_or_never`**: the two together.
-/

namespace Repartee

/-! ## The default punctuation -/

/-- The characters of the default punctuation. -/
def isPunctuation (c : Char) : Bool := ".,!?;:".toList.contains c

/-- Where an expression takes one character of a class, or nothing, deletion is a filter. -/
theorem Regex.removeFrom_of_single {r : Regex} {p : Char → Bool}
    (h : ∀ pos last c cs, r.outcomes ⟨pos, last, c :: cs⟩ =
      if p c then [⟨[], ⟨pos + 1, some c, cs⟩⟩] else []) :
    ∀ (t : Text) (stop pos : Nat) (last : Option Char), stop ≤ pos →
      r.removeFrom stop pos last t = t.filter (!p ·)
  | [], _, _, _, _ => rfl
  | c :: cs, stop, pos, last, hstop => by
    rw [removeFrom, if_neg (Nat.not_lt.2 hstop), h]
    cases hc : p c with
    | true =>
      rw [List.filter_cons_of_neg (by simp [hc])]
      have hlater := removeFrom_of_single h cs (pos + 1) (pos + 1) (some c) (Nat.le_refl _)
      simpa using hlater
    | false =>
      rw [List.filter_cons_of_pos (by simp [hc])]
      have hlater := removeFrom_of_single h cs stop (pos + 1) (some c) (Nat.le_succ_of_le hstop)
      simpa using hlater

/-- The default punctuation is deleted character by character. -/
theorem Options.remove_default (t : Text) :
    ({} : Options).punctuationRegex.remove t = t.filter (!isPunctuation ·) := by
  have hread : ∃ p, ({} : Options).punctuationRegex = .seq .empty (.one p) ∧
      ∀ c, p c = isPunctuation c := by
    have hchars : defaultPunctuation.toList = ['[', '.', ',', '!', '?', ';', ':', ']'] := by rfl
    rw [Options.punctuationRegex, hchars]
    refine ⟨_, rfl, fun c => ?_⟩
    simp [Regex.negateIf, Regex.Flags.fold, Regex.ClassState.close, Regex.ClassState.add,
      isPunctuation, Bool.or_assoc, beq_eq_decide]
  obtain ⟨p, hp, hclass⟩ := hread
  obtain rfl : p = isPunctuation := funext hclass
  rw [hp]
  refine Regex.removeFrom_of_single (fun pos last c cs => ?_) t 0 0 none (Nat.le_refl 0)
  rw [Regex.outcomes, Regex.outcomes]
  simp only [Regex.goOn, Regex.outcomes]
  cases isPunctuation c with
  | true => simp [Regex.fresh]
  | false => simp [Regex.fresh]

theorem mem_caseless_of_isPunctuation {c : Char} (h : isPunctuation c) : c.toNat ∈ caseless :=
  List.mem_append_right _ (List.mem_map_of_mem (List.elem_iff.1 h))

namespace Substitution

open Text (IsPhrase written)

variable {s s' : Substitution} {punctuation : Regex} {phrase replacement : String} {t : Text}

/-! ## Look-ups -/

theorem longest?_congr {keys : List Text} : ∀ {n : Nat},
    (∀ j < n, s.phrases.find? (String.ofList (Text.join [' '] (keys.take (j + 1)))) =
      s'.phrases.find? (String.ofList (Text.join [' '] (keys.take (j + 1))))) →
    s.longest? keys n = s'.longest? keys n
  | 0, _ => rfl
  | n + 1, h => by
    rw [longest?, longest?, h n (Nat.lt_succ_self n),
      longest?_congr fun j hj => h j (Nat.lt_succ_of_lt hj)]

/-- Tables that agree on the look-up forms do the same with the words. -/
theorem applyFrom_congr (hwidest : s.widest = s'.widest) (isKey : Text → Prop)
    (h : ∀ keys : List Text, (∀ k ∈ keys, isKey k) →
      s.phrases.find? (String.ofList (Text.join [' '] keys)) =
        s'.phrases.find? (String.ofList (Text.join [' '] keys))) :
    ∀ {ts : List (Token × Text)} {skip : Nat}, (∀ x ∈ ts, isKey x.2) →
      s.applyFrom skip ts = s'.applyFrom skip ts
  | [], _, _ => by rw [applyFrom, applyFrom]
  | x :: ts, k + 1, hkeys => by
    rw [applyFrom, applyFrom,
      applyFrom_congr hwidest isKey h fun y hy => hkeys y (List.mem_cons_of_mem x hy)]
  | x :: ts, 0, hkeys => by
    have hlater {skip : Nat} : s.applyFrom skip ts = s'.applyFrom skip ts :=
      applyFrom_congr hwidest isKey h fun y hy => hkeys y (List.mem_cons_of_mem x hy)
    have hfound : s.longest? (x.2 :: ts.map (·.2)) (min s.widest (ts.length + 1)) =
        s'.longest? (x.2 :: ts.map (·.2)) (min s'.widest (ts.length + 1)) := by
      rw [hwidest]
      refine longest?_congr fun j _ => h _ fun k hk => ?_
      obtain ⟨y, hy, rfl⟩ := List.mem_map.1 (List.mem_of_mem_take (l := (x :: ts).map (·.2)) hk)
      exact hkeys y hy
    simp only [applyFrom, hfound, hlater]

/-- No punctuation is left in a look-up form. -/
theorem not_punctuation_of_mem_key {w : Text} {c : Char}
    (h : c ∈ key ({} : Options).punctuationRegex w) : isPunctuation c = false := by
  rw [key, Options.remove_default] at h
  by_contra hc
  have hc : isPunctuation c := by simpa using hc
  have hkept := (Text.mem_lower_iff (mem_caseless_of_isPunctuation hc)).1 h
  simp [hc] at hkept

/-! ## Phrases -/

/-- **A phrase with punctuation is never found**: every text is treated as if it were removed
again. -/
theorem apply_insert_punctuated (h : ∃ c ∈ phrase.toList, isPunctuation c) (t : Text) :
    (s.insert phrase replacement).apply ({} : Options).punctuationRegex t =
      ((s.insert phrase replacement).remove phrase).apply ({} : Options).punctuationRegex t := by
  obtain ⟨c, hc, hp⟩ := h
  have hstored : c ∈ (stored phrase).toList := by
    rw [stored, String.toList_ofList]
    exact (Text.mem_lower_iff (mem_caseless_of_isPunctuation hp)).2 hc
  have hwidest : (s.insert phrase replacement).widest =
      ((s.insert phrase replacement).remove phrase).widest := rfl
  refine congrArg (· ++ (Text.tokens t).2) (applyFrom_congr hwidest (c ∉ ·) ?_ ?_)
  · intro keys hkeys
    have hne : String.ofList (Text.join [' '] keys) ≠ stored phrase := by
      intro heq
      rw [← heq, String.toList_ofList] at hstored
      rcases Text.mem_join hstored with hspace | ⟨k, hk, hck⟩
      · rw [List.mem_singleton.1 hspace] at hp
        exact absurd hp (by decide)
      · exact hkeys k hk hck
    rw [remove, Table.find?_erase, if_neg hne]
  · intro x hx
    obtain ⟨y, -, rfl⟩ := List.mem_map.1 hx
    intro hmem
    rw [not_punctuation_of_mem_key hmem] at hp
    cases hp

/-- Words without punctuation are looked up in lower case. -/
theorem key_of_plain {w : Text} (h : ∀ c ∈ w, isPunctuation c = false) :
    key ({} : Options).punctuationRegex w = Text.lower w := by
  rw [key, Options.remove_default, List.filter_eq_self.2 fun c hc => by simp [h c hc]]

/-- If all the look-up forms make up the phrase, then this one is found first. -/
theorem longest?_whole (replacement : String) {keys : List Text} {n : Nat}
    (hn : keys.length = n + 1) (hjoin : Text.join [' '] keys = Text.lower phrase.toList) :
    (s.insert phrase replacement).longest? keys (n + 1) = some (n, replacement) := by
  rw [longest?, List.take_of_length_le (Nat.le_of_eq hn), hjoin, insert, ← stored,
    Table.find?_insert, if_pos rfl]

/-- The look-up forms of a text that differs from a phrase without punctuation in the case of ASCII
letters only. -/
theorem keys_of_plain (hplain : ∀ c ∈ phrase.toList, isPunctuation c = false)
    (ht : t.map Char.toLower = phrase.toList.map Char.toLower) :
    (keyed ({} : Options).punctuationRegex (Text.tokens t).1).map (·.2) =
      (Text.words phrase.toList).map Text.lower := by
  have hkept (c : Char) (hc : c ∈ t) : isPunctuation c = false := by
    by_contra hp
    have hp : isPunctuation c := by simpa using hp
    have hmem := (Text.mem_lower_iff (mem_caseless_of_isPunctuation hp)).2 hc
    rw [Text.lower_congr ht, Text.mem_lower_iff (mem_caseless_of_isPunctuation hp)] at hmem
    exact Bool.noConfusion ((hplain c hmem).symm.trans hp)
  obtain ⟨heq, hspread, hend⟩ := Text.spread_tokens t
  have hwords : t.words = (Text.tokens t).1.map (·.word) := by
    conv_lhs => rw [heq, Text.words_written hend hspread]
  rw [snd_keyed, ← Text.words_lower_congr ht, hwords, List.map_map]
  refine List.map_congr_left fun x hx => key_of_plain fun c hc => hkept c ?_
  rw [heq, written, List.mem_append, List.mem_flatMap]
  exact .inl ⟨x, hx, List.mem_append_right _ hc⟩

/-- **A phrase without punctuation is found**, in any case of its ASCII letters. -/
theorem apply_insert (hphrase : IsPhrase phrase.toList)
    (hplain : ∀ c ∈ phrase.toList, isPunctuation c = false)
    (ht : t.map Char.toLower = phrase.toList.map Char.toLower) :
    (s.insert phrase replacement).apply ({} : Options).punctuationRegex t = replacement.toList := by
  have hkeys := keys_of_plain hplain ht
  obtain ⟨hgap, hmargin⟩ := Text.tokens_of_ends (hphrase.ends_congr ht).1 (hphrase.ends_congr ht).2
  rw [apply, hmargin, List.append_nil, ← keyed]
  generalize (Text.tokens t).1 = xs at hgap hkeys
  have hlength : (Text.words phrase.toList).length = xs.length := by
    rw [← List.length_map, ← hkeys, List.length_map, keyed, List.length_map]
  cases xs with
  | nil => exact absurd (List.length_eq_zero_iff.1 hlength) hphrase.words_ne_nil
  | cons x xs =>
    have hwidest : xs.length + 1 ≤ (s.insert phrase replacement).widest := by
      rw [insert, stored, String.toList_ofList, hphrase.words_lower, List.length_map, hlength]
      exact Nat.le_max_right ..
    have hjoin : Text.join [' '] ((keyed ({} : Options).punctuationRegex (x :: xs)).map (·.2)) =
        Text.lower phrase.toList := by
      rw [hkeys, ← Text.lower_join, ← Text.squeeze, hphrase.2]
    have hfound := longest?_whole (s := s) replacement
      (by rw [List.length_map, keyed, List.length_map, List.length_cons]) hjoin
    have hrest : (keyed ({} : Options).punctuationRegex xs).length = xs.length := List.length_map _
    rw [keyed, List.map_cons, List.map_cons, ← keyed] at hfound
    rw [keyed, List.map_cons, applyFrom, ← keyed, hrest, Nat.min_eq_right hwidest, hfound]
    dsimp only
    -- nothing is left behind the phrase
    rw [hgap x rfl, applyFrom_eq_drop, List.drop_of_length_le (Nat.le_of_eq hrest), applyFrom]
    exact List.append_nil _

/-- **What becomes of a phrase that is added**: without punctuation it is found, in any case of its
ASCII letters; with punctuation every text is treated as if it were removed again. -/
theorem found_or_never (s : Substitution) (phrase replacement : String)
    (h : IsPhrase phrase.toList) :
    ((∀ c ∈ phrase.toList, isPunctuation c = false) →
      ∀ t : Text, t.map Char.toLower = phrase.toList.map Char.toLower →
        (s.insert phrase replacement).apply ({} : Options).punctuationRegex t =
          replacement.toList) ∧
    ((∃ c ∈ phrase.toList, isPunctuation c) →
      ∀ t : Text, (s.insert phrase replacement).apply ({} : Options).punctuationRegex t =
        ((s.insert phrase replacement).remove phrase).apply ({} : Options).punctuationRegex t) :=
  ⟨fun hplain _ ht => apply_insert h hplain ht, fun hp t => apply_insert_punctuated hp t⟩

/-- A phrase beside a part of it, in other cases than it was added in. -/
theorem found_whatsUp :
    ((({} : Substitution).insert "what's" "what is").insert "What's up" "hello").apply
      ({} : Options).punctuationRegex "WHAT'S up".toList = "hello".toList :=
  (found_or_never _ "What's up" "hello" (by decide)).1 (List.all_iff_forall_prop.1 (by decide)) _
    (by decide)

/-- A phrase that its own text does not lead to. -/
theorem hello_never_found : IsPhrase "hello!".toList ∧
    (({} : Substitution).insert "hello!" "hi").apply ({} : Options).punctuationRegex
      "hello!".toList = "hello!".toList := by
  refine ⟨by decide, ?_⟩
  rw [apply_insert_punctuated ⟨'!', by decide, rfl⟩]
  decide +kernel

end Substitution

end Repartee

import Repartee.Proofs.Script.Normal
import Repartee.Proofs.Text.Lower
import Repartee.Proofs.Text.Tokens

/-!
# Substitution is a plain scan

* `Substitution.Scanned`: a text and what a scan from left to right makes of it that tries the
  longest windows first, without any bound.
* `Substitution.Scanned.unique`: the scan makes one thing of a text.
* `Substitution.Bounded`: the stored phrases are words one space apart, not more than the bound.
* `Substitution.Bounded.assignAll`: so they are after any assignments of such phrases.
* `Substitution.apply_empty`: a table without phrases changes nothing.
* `Substitution.Bounded.scanned_apply`: the bounded search is a scan.
* **`Substitution.scanned_iff`**: it gives what the plain scan gives, whatever was assigned before.
-/

namespace Repartee

namespace Substitution

open Text (IsPhrase Spread Window written)

variable {s : Substitution} {phrases : Table String} {punctuation : Regex}
  {gap t u w v rest rest' put put' margin : Text}

/-! ## The plain scan -/

/-- What is stored for the words of a window, each of them without punctuation and in lower case. -/
def hit? (phrases : Table String) (punctuation : Regex) (w : Text) : Option String :=
  phrases.find? (String.ofList (Text.join [' '] (w.words.map (key punctuation))))

/-- At a word a window is taken, with a rest behind it, and something put in its place: of the
windows that are stored the longest one is replaced, or the word is kept if there is none. -/
inductive Takes (phrases : Table String) (punctuation : Regex) : (w rest put : Text) → Prop
  | replaced {w rest : Text} {replacement : String} : Window w rest →
    hit? phrases punctuation w = some replacement →
    (∀ v rest', v ++ rest' = w ++ rest → Window v rest' → w.length < v.length →
      hit? phrases punctuation v = none) →
    Takes phrases punctuation w rest replacement.toList
  | kept {w rest : Text} : Window w rest → (∀ c ∈ w, isBlank c = false) →
    (∀ v rest', v ++ rest' = w ++ rest → Window v rest' → hit? phrases punctuation v = none) →
    Takes phrases punctuation w rest w

/-- A text and what the scan makes of it: blanks are copied, and what was put in the place of a
window is not looked at again. -/
inductive Scanned (phrases : Table String) (punctuation : Regex) : (t out : Text) → Prop
  | blanks {gap : Text} : (∀ c ∈ gap, isBlank c) → Scanned phrases punctuation gap gap
  | window {gap w rest put out : Text} : (∀ c ∈ gap, isBlank c) →
    Takes phrases punctuation w rest put → Scanned phrases punctuation rest out →
    Scanned phrases punctuation (gap ++ (w ++ rest)) (gap ++ (put ++ out))

/-- Windows are taken at words. -/
theorem Takes.begins (h : Takes phrases punctuation w rest put) :
    ∃ c cs, w ++ rest = c :: cs ∧ isBlank c = false := by
  have hw : Window w rest := by cases h <;> assumption
  obtain ⟨c, hc, hb⟩ := hw.first
  obtain ⟨cs, rfl⟩ := List.head?_eq_some_iff.1 hc
  exact ⟨c, cs ++ rest, rfl, hb⟩

/-- A word ends before the first blank. -/
theorem takeWhile_window (h : Window w rest) (hw : ∀ c ∈ w, isBlank c = false) :
    (w ++ rest).takeWhile (!isBlank ·) = w := by
  rw [List.takeWhile_append_of_pos fun c hc => by simp [hw c hc]]
  cases rest with
  | nil => exact List.append_nil w
  | cons b rest => rw [List.takeWhile_cons_of_neg (by simp [h.behind b rfl]), List.append_nil]

/-- At a word one window is taken. -/
theorem Takes.unique (h : Takes phrases punctuation w rest put)
    (h' : Takes phrases punctuation v rest' put') (he : w ++ rest = v ++ rest') :
    put = put' ∧ rest = rest' := by
  cases h with
  | @replaced r hw hhit hlongest =>
    cases h' with
    | @replaced r' hv hhit' hlongest' =>
      rcases Nat.lt_trichotomy w.length v.length with hlt | heq | hgt
      · exact absurd hhit' (by simp [hlongest v rest' he.symm hv hlt])
      · obtain ⟨rfl, rfl⟩ := List.append_inj he heq
        obtain rfl := Option.some_inj.1 (hhit.symm.trans hhit')
        exact ⟨rfl, rfl⟩
      · exact absurd hhit (by simp [hlongest' w rest he hw hgt])
    | kept hv _ hnone => exact absurd hhit (by simp [hnone w rest he hw])
  | kept hw hword hnone =>
    cases h' with
    | replaced hv hhit' _ => exact absurd hhit' (by simp [hnone v rest' he.symm hv])
    | kept hv hword' _ =>
      have hwv : w = v := by rw [← takeWhile_window hw hword, he, takeWhile_window hv hword']
      subst hwv
      exact ⟨rfl, List.append_cancel_left he⟩

/-- Where a window is taken, the scan goes on behind it. -/
theorem Scanned.behind {out : Text} (hgap : ∀ c ∈ gap, isBlank c)
    (h : Takes phrases punctuation w rest put)
    (hscan : Scanned phrases punctuation (gap ++ (w ++ rest)) out) :
    ∃ out', Scanned phrases punctuation rest out' ∧ out = gap ++ (put ++ out') := by
  have htrim {gap w rest put : Text} (hgap : ∀ c ∈ gap, isBlank c)
      (h : Takes phrases punctuation w rest put) :
      Text.trimLeft (gap ++ (w ++ rest)) = w ++ rest := by
    obtain ⟨c, cs, he, hc⟩ := h.begins
    rw [he]
    exact Text.trimLeft_append hgap (by simp [hc])
  generalize ht : gap ++ (w ++ rest) = t at hscan
  cases hscan with
  | blanks hblank =>
    obtain ⟨c, cs, he, hc⟩ := h.begins
    rw [hblank c (by rw [← ht, he]; simp)] at hc
    exact absurd hc Bool.noConfusion
  | @window gap' w' rest' put' out' hgap' h' hrest =>
    have hcut : w ++ rest = w' ++ rest' := by rw [← htrim hgap h, ht, htrim hgap' h']
    rw [hcut] at ht
    obtain rfl := List.append_cancel_right ht
    obtain ⟨rfl, rfl⟩ := h.unique h' hcut
    exact ⟨out', hrest, rfl⟩

/-- The scan makes one thing of a text. -/
theorem Scanned.unique {out out' : Text} (h : Scanned phrases punctuation t out)
    (h' : Scanned phrases punctuation t out') : out = out' := by
  induction h generalizing out' with
  | blanks hgap =>
    cases h' with
    | blanks => rfl
    | window _ htakes _ =>
      obtain ⟨c, cs, he, hc⟩ := htakes.begins
      rw [hgap c (by rw [he]; simp)] at hc
      exact absurd hc Bool.noConfusion
  | window hgap htakes _ ih =>
    obtain ⟨out, hrest, rfl⟩ := Scanned.behind hgap htakes h'
    rw [ih hrest]

/-! ## Phrases and the bound -/

/-- The stored phrases are words one space apart, not more than the bound. -/
def Bounded (s : Substitution) : Prop :=
  ∀ p r, s.phrases.find? p = some r → IsPhrase p.toList ∧ (Text.words p.toList).length ≤ s.widest

theorem bounded_empty : Bounded {} := fun _ _ h => (nomatch h)

/-- Assignments keep the bound, if the phrases that are added are words one space apart. -/
theorem Bounded.assign (h : s.Bounded) {phrase : String} {value : Option String}
    (hp : value.isSome → IsPhrase phrase.toList) : (s.assign phrase value).Bounded := by
  intro p r hfind
  cases value with
  | none =>
    rw [Substitution.assign, remove, Table.find?_erase] at hfind
    split at hfind
    · cases hfind
    · exact h p r hfind
  | some v =>
    rw [Substitution.assign, insert, Table.find?_insert] at hfind
    split at hfind
    · rename_i hstored
      refine ⟨?_, hstored ▸ Nat.le_max_right ..⟩
      rw [hstored, stored, String.toList_ofList]
      exact (hp rfl).lower
    · exact (h p r hfind).imp_right fun hle => hle.trans (Nat.le_max_left ..)

/-- Assign in order. -/
def assignAll (s : Substitution) (edits : List (String × Option String)) : Substitution :=
  edits.foldl (fun s e => s.assign e.1 e.2) s

theorem Bounded.assignAll : ∀ {edits : List (String × Option String)} {s : Substitution},
    s.Bounded → (∀ e ∈ edits, e.2.isSome → IsPhrase e.1.toList) → (s.assignAll edits).Bounded
  | [], _, hs, _ => hs
  | e :: edits, s, hs, h => by
    rw [List.forall_mem_cons] at h
    change (Substitution.assignAll (s.assign e.1 e.2) edits).Bounded
    exact (hs.assign h.1).assignAll h.2

/-- More look-up forms than the bound are not stored. -/
theorem Bounded.find?_eq_none (h : s.Bounded) {keys : List Text}
    (hkeys : ∀ k ∈ keys, ' ' ∉ k) (hmore : s.widest < keys.length) :
    s.phrases.find? (String.ofList (Text.join [' '] keys)) = none := by
  by_contra hsome
  obtain ⟨r, hr⟩ := Option.ne_none_iff_exists'.1 hsome
  obtain ⟨hphrase, hwords⟩ := h _ r hr
  rw [String.toList_ofList] at hphrase hwords
  have hne : keys ≠ [] := List.ne_nil_of_length_pos (Nat.zero_lt_of_lt hmore)
  have heq : keys = Text.words (Text.join [' '] keys) := by
    refine Text.join_inj hne hphrase.words_ne_nil hkeys (fun w hw hspace => ?_) hphrase.2.symm
    exact Bool.noConfusion (((Text.isWord_of_mem_words hw).2 ' ' hspace).symm.trans rfl)
  rw [← heq] at hwords
  omega

/-! ## The bounded search -/

theorem space_notMem_key (hw : ∀ c ∈ w, isBlank c = false) : ' ' ∉ key punctuation w := by
  intro hspace
  have hno := Text.isBlank_of_mem_lower (t := punctuation.remove w)
    fun c hc => hw c (Regex.mem_remove hc)
  exact Bool.noConfusion ((hno ' ' hspace).symm.trans rfl)

/-- The longest phrase that is found is stored, and no longer one within the limit is. -/
theorem longest?_eq_some {keys : List Text} {k : Nat} {r : String} : ∀ {n : Nat},
    s.longest? keys n = some (k, r) → k < n ∧
      s.phrases.find? (String.ofList (Text.join [' '] (keys.take (k + 1)))) = some r ∧
      ∀ j, k < j → j < n →
        s.phrases.find? (String.ofList (Text.join [' '] (keys.take (j + 1)))) = none
  | n + 1, h => by
    rw [longest?] at h
    split at h
    · rename_i hfind
      obtain ⟨rfl, rfl⟩ := Prod.mk.inj (Option.some_inj.1 h)
      exact ⟨Nat.lt_succ_self _, hfind, fun j hj hjn => by omega⟩
    · rename_i hfind
      obtain ⟨hk, hr, hnone⟩ := longest?_eq_some h
      refine ⟨Nat.lt_succ_of_lt hk, hr, fun j hj hjn => ?_⟩
      rcases Nat.lt_succ_iff_lt_or_eq.1 hjn with hlt | rfl
      · exact hnone j hj hlt
      · exact hfind

/-- If no phrase is found, none within the limit is stored. -/
theorem longest?_eq_none {keys : List Text} : ∀ {n : Nat}, s.longest? keys n = none →
    ∀ j < n, s.phrases.find? (String.ofList (Text.join [' '] (keys.take (j + 1)))) = none
  | 0, _, _, hj => absurd hj (Nat.not_lt_zero _)
  | n + 1, h, j, hj => by
    rw [longest?] at h
    split at h
    · cases h
    · rename_i hfind
      rcases Nat.lt_succ_iff_lt_or_eq.1 hj with hlt | rfl
      · exact longest?_eq_none h j hlt
      · exact hfind

/-- Tokens with the forms in which their words are looked up. -/
def keyed (punctuation : Regex) (xs : List Token) : List (Token × Text) :=
  xs.map fun x => (x, key punctuation x.word)

theorem applyFrom_eq_drop : ∀ (k : Nat) (ts : List (Token × Text)),
    s.applyFrom k ts = s.applyFrom 0 (ts.drop k)
  | 0, _ => rfl
  | _ + 1, [] => by rw [applyFrom, List.drop_nil, applyFrom]
  | k + 1, _ :: ts => by rw [applyFrom, List.drop_succ_cons, applyFrom_eq_drop k ts]

theorem longest?_empty (h : s.phrases = ∅) (keys : List Text) : ∀ n : Nat, s.longest? keys n = none
  | 0 => rfl
  | n + 1 => by
    rw [longest?, h, Table.find?_empty]
    exact longest?_empty h keys n

/-- A table without phrases changes nothing. -/
theorem apply_empty (h : s.phrases = ∅) (punctuation : Regex) (t : Text) :
    s.apply punctuation t = t := by
  have happly : ∀ xs : List Token, s.applyFrom 0 (keyed punctuation xs) = written xs := by
    intro xs
    induction xs with
    | nil => rfl
    | cons x xs ih =>
      rw [keyed, List.map_cons, applyFrom, longest?_empty h, ← keyed, ih, Text.written_cons,
        List.append_assoc]
  rw [apply, ← keyed, happly]
  exact (Text.spread_tokens t).1.symm

variable {x : Token} {xs : List Token}

theorem snd_keyed (xs : List Token) :
    (keyed punctuation xs).map (·.2) = xs.map fun x => key punctuation x.word :=
  List.map_map

/-- What is stored for the window of the first tokens. -/
theorem hit?_window (h : Spread (x :: xs)) (n : Nat) :
    hit? phrases punctuation (x.word ++ written (xs.take n)) =
      phrases.find? (String.ofList (Text.join [' ']
        (((keyed punctuation (x :: xs)).map (·.2)).take (n + 1)))) := by
  have hwords : Text.words (x.word ++ written (xs.take n)) =
      x.word :: (xs.take n).map (·.word) := by
    have htake : Spread (x :: xs.take n) := h.take (n + 1)
    have hnil : ∀ c ∈ ([] : Text), isBlank c := by simp
    have hbehind := htake.behind hnil
    have hrest := Text.words_written hnil htake.tail
    rw [List.append_nil] at hbehind hrest
    rw [Text.words_append h.head.word hbehind, hrest]
  rw [hit?, hwords, snd_keyed, ← List.map_take, List.take_succ_cons, List.map_cons, List.map_cons,
    List.map_map]
  rfl

/-- A window that the bounded search does not find is not stored: it was tried, or it has more words
than any stored phrase. -/
theorem Bounded.hit?_eq_none (h : s.Bounded) (hspread : Spread (x :: xs)) {n : Nat}
    (hn : n ≤ xs.length)
    (htried : n < min s.widest (xs.length + 1) → s.phrases.find? (String.ofList (Text.join [' ']
      (((keyed punctuation (x :: xs)).map (·.2)).take (n + 1)))) = none) :
    hit? s.phrases punctuation (x.word ++ written (xs.take n)) = none := by
  rw [hit?_window hspread]
  by_cases hlt : n < min s.widest (xs.length + 1)
  · exact htried hlt
  · refine h.find?_eq_none (fun k hk => ?_) ?_
    · rw [snd_keyed] at hk
      obtain ⟨y, hy, rfl⟩ := List.mem_map.1 (List.mem_of_mem_take hk)
      exact space_notMem_key (hspread.proper y hy).word.2
    · rw [List.length_take, List.length_map, keyed, List.length_map, List.length_cons]
      omega

/-- The bounded search takes what the plain scan takes. -/
theorem Bounded.scanned_applyFrom (h : s.Bounded) (punctuation : Regex)
    (hend : ∀ c ∈ margin, isBlank c) : ∀ {xs : List Token}, Spread xs →
      Scanned s.phrases punctuation (written xs ++ margin)
        (s.applyFrom 0 (keyed punctuation xs) ++ margin)
  | [], _ => .blanks hend
  | x :: xs, hspread => by
    have hcut (n : Nat) : x.word ++ (written xs ++ margin) =
        x.word ++ written (xs.take n) ++ (written (xs.drop n) ++ margin) := by
      conv_lhs => rw [← List.take_append_drop n xs, Text.written_append]
      simp only [List.append_assoc]
    have hlength : (keyed punctuation xs).length = xs.length := List.length_map _
    rw [Text.written_cons, keyed, List.map_cons, applyFrom, ← keyed, hlength, List.append_assoc,
      List.append_assoc]
    split
    · rename_i n r hfound
      obtain ⟨hn, hr, hlonger⟩ := longest?_eq_some hfound
      dsimp only
      rw [applyFrom_eq_drop, keyed, ← List.map_drop, ← keyed, hcut n, List.append_assoc x.gap,
        List.append_assoc x.gap, List.append_assoc r.toList]
      refine .window hspread.head.gap (.replaced (hspread.window hend)
        ((hit?_window hspread n).trans hr) fun v rest' he hv hlt => ?_)
        (h.scanned_applyFrom punctuation hend (hspread.tail.drop n))
      obtain ⟨k, hk, rfl, -⟩ := Text.exists_window hend hspread hv (he.trans (hcut n).symm)
      refine h.hit?_eq_none hspread hk fun hlimit => hlonger k ?_ hlimit
      by_contra hkn
      rw [List.length_append, List.length_append] at hlt
      have hle := Text.length_written_take xs (Nat.le_of_not_lt hkn)
      omega
    · rename_i hfound
      rw [List.append_assoc, List.append_assoc]
      refine .window hspread.head.gap (.kept ?_ hspread.head.word.2 fun v rest' he hv => ?_)
        (h.scanned_applyFrom punctuation hend hspread.tail)
      · simpa [written] using hspread.window (n := 0) hend
      · obtain ⟨k, hk, rfl, -⟩ := Text.exists_window hend hspread hv he
        exact h.hit?_eq_none hspread hk fun hlimit => longest?_eq_none hfound k hlimit
termination_by xs => xs.length
decreasing_by all_goals simp; try omega

/-- **The bounded search is a plain scan.** -/
theorem Bounded.scanned_apply (h : s.Bounded) (punctuation : Regex) (t : Text) :
    Scanned s.phrases punctuation t (s.apply punctuation t) := by
  obtain ⟨heq, hspread, hend⟩ := Text.spread_tokens t
  conv => arg 3; rw [heq]
  exact h.scanned_applyFrom punctuation hend hspread

/-- **Whatever phrases were assigned before, one or more words one space apart each, substitution
is the plain scan.** -/
theorem scanned_iff (edits : List (String × Option String))
    (h : ∀ e ∈ edits, e.2.isSome → IsPhrase e.1.toList) (punctuation : Regex) (t out : Text) :
    Scanned (assignAll {} edits).phrases punctuation t out ↔
      out = (assignAll {} edits).apply punctuation t := by
  have hscan := (bounded_empty.assignAll h).scanned_apply punctuation t
  constructor
  · exact fun hout => hout.unique hscan
  · rintro rfl
    exact hscan

/-- Inserts and removes of the words a person speaks of itself with. -/
def personEdits : List (String × Option String) :=
  [("i am", some "you are"), ("i am not", some "you are not"), ("I", some "you"),
    ("cool", some "hot"), ("i am not", none), ("cool", none)]

theorem scanned_person : Scanned (assignAll {} personEdits).phrases defaultPunctuationRegex
    "so,  I\tam!  cool".toList "so,  you are  cool".toList :=
  (scanned_iff personEdits (by decide) defaultPunctuationRegex _ _).2 (by decide)

end Substitution

end Repartee

import Repartee.Proofs.Text.Words
import Repartee.Text.LeadingInt

/-!
# Integers at the front of a text

* `Text.Sign`: a plus, a minus, or nothing in front of digits.
* `Text.LeadsWith`: blanks, a sign and all of the digits that follow, and what they are worth.
* `Text.LeadsNowhere`: no digit follows the blanks and the sign, or digits that are worth too much.
* `Text.Fronts.leadingInt?_eq`, `Text.leadingNat?_append`: what is read behind blanks and a sign,
  and from digits.
* `Text.leadingInt?_eq_some_iff`, `Text.leadingInt?_eq_none_iff`: when an integer is read.
* `Text.leadingWord?`: reading with words of 64 bits.
* **`Text.leadingInt?_leads`**: the integer that a text begins with is read, and no word overflows.
-/

namespace Repartee

namespace Text

/-- What may stand in front of digits. -/
inductive Sign where
  | none
  | plus
  | minus
  deriving DecidableEq, Repr

namespace Sign

/-- A sign as it is written. -/
def text : Sign → Text
  | none => []
  | plus => ['+']
  | minus => ['-']

/-- The integer of a sign and a number. -/
def apply : Sign → Nat → Int
  | minus, n => -n
  | _, n => n

theorem map_minus (x : Option Nat) : x.map minus.apply = (x : Option Int).map fun n => -n := by
  cases x <;> rfl

end Sign

/-- A text begins with an integer: with blanks, at most one sign, and digits with no further digit
behind them. The digits alone must be worth less than `2 ^ 63`. -/
def LeadsWith (t : Text) (n : Int) : Prop :=
  ∃ (blanks : Text) (sign : Sign) (digits rest : Text),
    t = blanks ++ (sign.text ++ (digits ++ rest)) ∧ (∀ c ∈ blanks, isBlank c) ∧ digits ≠ [] ∧
      (∀ c ∈ digits, c.isDigit) ∧ (∀ c ∈ rest.head?, c.isDigit = false) ∧
      value 10 digits < Nat.pow 2 63 ∧ n = sign.apply (value 10 digits)

/-- ASCII letters and digits are not blank. -/
theorem isBlank_of_isAlphanum {c : Char} (h : c.isAlphanum) : isBlank c = false := by
  have hcodes : ∀ n ∈ blankCodes, (Char.ofNat n).isAlphanum = false := by decide
  by_contra hb
  have hc := hcodes c.toNat (mem_blankCodes (by simpa using hb))
  rw [Char.ofNat_toNat, h] at hc
  cases hc

variable {t : Text}

/-! ## Blanks and a sign -/

/-- Blanks and a sign are in front of a text. Without a sign the text begins with neither. -/
def Fronts (sign : Sign) (cs t : Text) : Prop :=
  ∃ blanks : Text, (∀ c ∈ blanks, isBlank c) ∧ t = blanks ++ (sign.text ++ cs) ∧
    (sign = .none → ∀ c ∈ cs.head?, isBlank c = false ∧ c ≠ '-' ∧ c ≠ '+')

/-- Every text has blanks and a sign in front, if only empty ones. -/
theorem exists_fronts (t : Text) : ∃ sign cs, Fronts sign cs t := by
  have hblanks : ∀ c ∈ t.takeWhile isBlank, isBlank c := fun c hc => List.mem_takeWhile_imp hc
  have htrim : t = t.takeWhile isBlank ++ trimLeft t := List.takeWhile_append_dropWhile.symm
  have hnone (hminus : ∀ cs, trimLeft t ≠ '-' :: cs) (hplus : ∀ cs, trimLeft t ≠ '+' :: cs) :
      Fronts .none (trimLeft t) t := by
    refine ⟨_, hblanks, htrim, fun _ c hc => ?_⟩
    have hfirst := List.head?_dropWhile_not isBlank t
    obtain ⟨cs, hcs⟩ := List.head?_eq_some_iff.1 hc
    refine ⟨?_, fun h => hminus cs (h ▸ hcs), fun h => hplus cs (h ▸ hcs)⟩
    rw [← trimLeft, Option.mem_def.1 hc] at hfirst
    simpa using hfirst
  have hsigned {sign : Sign} {cs : Text} (hsign : sign ≠ .none)
      (hcs : trimLeft t = sign.text ++ cs) : Fronts sign cs t :=
    ⟨_, hblanks, by rw [← hcs, ← htrim], fun h => absurd h hsign⟩
  cases hcs : trimLeft t with
  | nil => exact ⟨.none, trimLeft t, hnone (by simp [hcs]) (by simp [hcs])⟩
  | cons c cs =>
    by_cases hminus : c = '-'
    · exact ⟨.minus, cs, hsigned (by decide) (by rw [hcs, hminus]; rfl)⟩
    · by_cases hplus : c = '+'
      · exact ⟨.plus, cs, hsigned (by decide) (by rw [hcs, hplus]; rfl)⟩
      · exact ⟨.none, trimLeft t, hnone (by simp [hcs, hminus]) (by simp [hcs, hplus])⟩

theorem Fronts.trimLeft_eq {sign : Sign} {cs : Text} (h : Fronts sign cs t) :
    trimLeft t = sign.text ++ cs := by
  obtain ⟨blanks, hblanks, rfl, hnone⟩ := h
  refine trimLeft_append hblanks ?_
  cases sign with
  | none => exact fun c hc => (hnone rfl c hc).1
  | plus => simp [Sign.text, isBlank]
  | minus => simp [Sign.text, isBlank]

/-- Behind blanks and a sign a number is read. -/
theorem Fronts.leadingInt?_eq {sign : Sign} {cs : Text} (h : Fronts sign cs t) :
    leadingInt? t = (leadingNat? cs).map sign.apply := by
  rw [leadingInt?, h.trimLeft_eq]
  obtain ⟨-, -, -, hnone⟩ := h
  cases sign with
  | none =>
    rw [Sign.text, List.nil_append]
    split
    · exact absurd rfl (hnone rfl '-' rfl).2.1
    · exact absurd rfl (hnone rfl '+' rfl).2.2
    · rfl
  | plus => rfl
  | minus => exact (Sign.map_minus _).symm

/-! ## Digits -/

/-- All digits at the front are read, if there are any, unless they are worth too much. -/
theorem leadingNat?_append {digits rest : Text} (hdigits : ∀ c ∈ digits, c.isDigit)
    (hrest : ∀ c ∈ rest.head?, c.isDigit = false) :
    leadingNat? (digits ++ rest) =
      if digits ≠ [] ∧ value 10 digits < Nat.pow 2 63 then some (value 10 digits) else none := by
  have hfront : (digits ++ rest).takeWhile Char.isDigit = digits := by
    rw [List.takeWhile_append_of_pos hdigits]
    cases rest with
    | nil => exact List.append_nil digits
    | cons c cs => rw [List.takeWhile_cons_of_neg (by simp [hrest c rfl]), List.append_nil]
  rw [leadingNat?, hfront, natural?]
  by_cases hne : digits = []
  · rw [if_neg (by simp [hne]), if_neg (by simp [hne]), Option.filter_none]
  · rw [if_pos ⟨hne, List.all_eq_true.2 hdigits⟩, Option.filter_some]
    simp only [hne, ne_eq, not_false_eq_true, true_and, decide_eq_true_eq]

/-- A text is made of digits, if only of none, and of a rest that does not begin with one. -/
theorem exists_digits (t : Text) : ∃ digits rest, t = digits ++ rest ∧
    (∀ c ∈ digits, c.isDigit) ∧ ∀ c ∈ rest.head?, c.isDigit = false := by
  refine ⟨t.takeWhile Char.isDigit, t.dropWhile Char.isDigit,
    List.takeWhile_append_dropWhile.symm, fun c hc => List.mem_takeWhile_imp hc, fun c hc => ?_⟩
  have hdrop := List.head?_dropWhile_not Char.isDigit t
  rw [Option.mem_def.1 hc] at hdrop
  simpa using hdrop

/-- Digits have neither a sign nor blanks in front. -/
theorem fronts_digits {blanks digits : Text} (sign : Sign) (rest : Text)
    (hblanks : ∀ c ∈ blanks, isBlank c) (hne : digits ≠ []) (hdigits : ∀ c ∈ digits, c.isDigit) :
    Fronts sign (digits ++ rest) (blanks ++ (sign.text ++ (digits ++ rest))) := by
  refine ⟨blanks, hblanks, rfl, fun _ c hc => ?_⟩
  rw [List.head?_append_of_ne_nil _ hne] at hc
  have hdigit := hdigits c (List.mem_of_mem_head? hc)
  refine ⟨isBlank_of_isAlphanum (by simp [Char.isAlphanum, hdigit]), ?_, ?_⟩
  · rintro rfl
    cases hdigit
  · rintro rfl
    cases hdigit

/-! ## Integers -/

/-- **The integer that a text begins with is what is read.** -/
theorem leadingInt?_eq_some_iff {n : Int} : leadingInt? t = some n ↔ t.LeadsWith n := by
  constructor
  · intro h
    obtain ⟨sign, cs, hfronts⟩ := exists_fronts t
    obtain ⟨digits, rest, rfl, hdigits, hrest⟩ := exists_digits cs
    rw [hfronts.leadingInt?_eq, leadingNat?_append hdigits hrest] at h
    obtain ⟨blanks, hblanks, ht, -⟩ := hfronts
    split at h
    · rename_i hread
      exact ⟨blanks, sign, digits, rest, ht, hblanks, hread.1, hdigits, hrest, hread.2,
        (Option.some_inj.1 h).symm⟩
    · cases h
  · rintro ⟨blanks, sign, digits, rest, rfl, hblanks, hne, hdigits, hrest, hvalue, rfl⟩
    rw [(fronts_digits sign rest hblanks hne hdigits).leadingInt?_eq,
      leadingNat?_append hdigits hrest, if_pos ⟨hne, hvalue⟩]
    rfl

/-- A text begins with no integer: no digit follows the blanks and the sign, or digits that are
worth `2 ^ 63` or more. -/
def LeadsNowhere (t : Text) : Prop :=
  ∃ (sign : Sign) (digits rest : Text), Fronts sign (digits ++ rest) t ∧
    (∀ c ∈ digits, c.isDigit) ∧ (∀ c ∈ rest.head?, c.isDigit = false) ∧
      (digits = [] ∨ Nat.pow 2 63 ≤ value 10 digits)

/-- Nothing is read from a text that begins with no integer, and from no other one. -/
theorem leadingInt?_eq_none_iff : leadingInt? t = none ↔ t.LeadsNowhere := by
  constructor
  · intro h
    obtain ⟨sign, cs, hfronts⟩ := exists_fronts t
    obtain ⟨digits, rest, rfl, hdigits, hrest⟩ := exists_digits cs
    refine ⟨sign, digits, rest, hfronts, hdigits, hrest, ?_⟩
    rw [hfronts.leadingInt?_eq, leadingNat?_append hdigits hrest] at h
    by_contra hread
    rw [not_or, Nat.not_le] at hread
    rw [if_pos hread] at h
    cases h
  · rintro ⟨sign, digits, rest, hfronts, hdigits, hrest, hread⟩
    rw [hfronts.leadingInt?_eq, leadingNat?_append hdigits hrest, if_neg]
    · rfl
    · rw [not_and_or, Nat.not_lt, not_not]
      exact hread

/-! ## Words -/

/-- The integer at the front of a text as a word of 64 bits: the number is put into a word, which is
negated behind a minus. Neither is checked for what does not fit. -/
def leadingWord? (t : Text) : Option Int64 :=
  match trimLeft t with
  | '-' :: cs => (leadingNat? cs).map fun n => -Int64.ofNat n
  | '+' :: cs => (leadingNat? cs).map Int64.ofNat
  | cs => (leadingNat? cs).map Int64.ofNat

/-- The word of a sign and a number. -/
def Sign.word : Sign → Nat → Int64
  | minus, n => -Int64.ofNat n
  | _, n => Int64.ofNat n

theorem Fronts.leadingWord?_eq {sign : Sign} {cs : Text} (h : Fronts sign cs t) :
    leadingWord? t = (leadingNat? cs).map sign.word := by
  rw [leadingWord?, h.trimLeft_eq]
  obtain ⟨-, -, -, hnone⟩ := h
  cases sign with
  | none =>
    rw [Sign.text, List.nil_append]
    split
    · exact absurd rfl (hnone rfl '-' rfl).2.1
    · exact absurd rfl (hnone rfl '+' rfl).2.2
    · rfl
  | plus => rfl
  | minus => rfl

/-- A number below `2 ^ 63` fits a word, and so does what it is negated to. -/
theorem Sign.toInt_word (sign : Sign) {n : Nat} (h : n < Nat.pow 2 63) :
    (sign.word n).toInt = sign.apply n := by
  have hnumber : (Int64.ofNat n).toInt = n := Int64.toInt_ofNat_of_lt h
  cases sign with
  | none => exact hnumber
  | plus => exact hnumber
  | minus =>
    have hfits : n < 9223372036854775808 := h
    rw [word, apply, Int64.toInt_neg, hnumber]
    exact Int.bmod_eq_of_le (by omega) (by omega)

theorem lt_of_leadingNat? {n : Nat} (h : leadingNat? t = some n) : n < Nat.pow 2 63 :=
  of_decide_eq_true (Option.filter_eq_some_iff.1 h).2

/-- The word that is read is the integer that is read. -/
theorem toInt_leadingWord? (t : Text) : (leadingWord? t).map Int64.toInt = leadingInt? t := by
  obtain ⟨sign, cs, h⟩ := exists_fronts t
  rw [h.leadingWord?_eq, h.leadingInt?_eq, Option.map_map]
  exact Option.map_congr fun n hn => sign.toInt_word (lt_of_leadingNat? hn)

/-- **The integer that a text begins with is read, and nothing from a text that begins with none.**
On words of 64 bits the same is read, so that no word overflows. -/
theorem leadingInt?_leads (t : Text) : (∀ n, leadingInt? t = some n ↔ t.LeadsWith n) ∧
    (leadingInt? t = none ↔ t.LeadsNowhere) ∧
      (leadingWord? t).map Int64.toInt = leadingInt? t :=
  ⟨fun _ => leadingInt?_eq_some_iff, leadingInt?_eq_none_iff, toInt_leadingWord? t⟩

/-- The least word has digits that are worth too much, and a second sign is no digit. -/
example : leadingInt? " -9223372036854775807x".toList = some (-9223372036854775807) ∧
    leadingInt? "-9223372036854775808".toList = none ∧ leadingInt? "+-5".toList = none := by
  decide

end Text

end Repartee

import Mathlib.Data.List.TakeWhile
import Repartee.Json.Reader
import Repartee.Proofs.Json.Grammar

/-!
# Written values are read

* `Json.readString?_quoted`: a string is read up to its closing quote.
* `Json.readNumber?_number`: a number is read if nothing that follows goes on with it.
* `Json.readValue?_written`: a value is read from the front of a text.
* **`Json.read?_written`**, `Json.read?_junk`: a value between blanks is read; one that is no number
  is not read with anything else behind it.
-/

namespace Repartee

namespace Json

/-! ## Blanks -/

theorem isGap_iff {c : Char} : isGap c = true ↔ c = ' ' ∨ c = '\t' ∨ c = '\n' ∨ c = '\r' := by
  simp only [isGap, Bool.or_eq_true, beq_iff_eq, or_assoc]

theorem skip_append {g : Text} (hg : Gaps g) (t : Text) : skip (g ++ t) = skip t :=
  List.dropWhile_append_of_pos fun c hc => isGap_iff.2 (hg c hc)

theorem skip_cons {c : Char} (hc : isGap c = false) (t : Text) : skip (c :: t) = c :: t :=
  List.dropWhile_cons_of_neg (by simp [hc])

theorem skip_eq_nil_iff {g : Text} : skip g = [] ↔ Gaps g := by
  simp only [skip, List.dropWhile_eq_nil_iff, isGap_iff, Gaps]

/-! ## Strings -/

/-- The units of a text that may stand between quotes. -/
inductive Codes : List Unit → Text → Prop
  | nil : Codes [] []
  | plain {c : Char} {us : List Unit} {t : Text} :
    Plain c → Codes us t → Codes (.char c :: us) (c :: t)
  | short {e c : Char} {us : List Unit} {t : Text} :
    (e, c) ∈ shortEscapes → Codes us t → Codes (.char c :: us) ('\\' :: e :: t)
  | unit {n : Nat} {u : Unit} {ds : Text} {us : List Unit} {t : Text} :
    HexDigits n ds → u = .ofNat n → Codes us t → Codes (u :: us) ('\\' :: 'u' :: (ds ++ t))

theorem Body.codes {t : Text} (h : Body t) : ∃ us, Codes us t := by
  induction h with
  | nil => exact ⟨_, .nil⟩
  | plain hc _ ih =>
    obtain ⟨us, hus⟩ := ih
    exact ⟨_, .plain hc hus⟩
  | short he _ ih =>
    obtain ⟨us, hus⟩ := ih
    exact ⟨_, .short he hus⟩
  | unit hds _ ih =>
    obtain ⟨us, hus⟩ := ih
    exact ⟨_, .unit hds rfl hus⟩

/-- A character is no half of one. -/
theorem Unit.ofNat_toNat (c : Char) : Unit.ofNat c.toNat = .char c := by
  have hvalid := c.valid
  simp only [UInt32.isValidChar, Nat.isValidChar] at hvalid
  have htoNat : c.toNat = c.val.toNat := rfl
  rw [Unit.ofNat, if_neg (by omega), if_neg (by omega), Char.ofNat_toNat]

theorem Unit.ofNat_high {n : Nat} (h : n < 0x400) : Unit.ofNat (0xD800 + n) = .high n := by
  rw [Unit.ofNat, if_pos (by omega), Nat.add_sub_cancel_left]

theorem Unit.ofNat_low {n : Nat} (h : n < 0x400) : Unit.ofNat (0xDC00 + n) = .low n := by
  rw [Unit.ofNat, if_neg (by omega), if_pos (by omega), Nat.add_sub_cancel_left]

/-- The units of a text that stands for some characters are put together to these. -/
theorem Spells.codes {cs t : Text} (h : Spells cs t) :
    ∃ us, Codes us t ∧ joinUnits us = some cs := by
  induction h with
  | nil => exact ⟨_, .nil, rfl⟩
  | plain hc _ ih =>
    obtain ⟨us, hus, hjoin⟩ := ih
    exact ⟨_, .plain hc hus, by rw [joinUnits, hjoin]; rfl⟩
  | short he _ ih =>
    obtain ⟨us, hus, hjoin⟩ := ih
    exact ⟨_, .short he hus, by rw [joinUnits, hjoin]; rfl⟩
  | @unit c _ _ _ hds _ ih =>
    obtain ⟨us, hus, hjoin⟩ := ih
    exact ⟨_, .unit hds (Unit.ofNat_toNat c).symm hus, by rw [joinUnits, hjoin]; rfl⟩
  | @pair c high low _ _ _ _ hhigh hlow hc hds hes _ ih =>
    obtain ⟨us, hus, hjoin⟩ := ih
    have hlow := Codes.unit hes (Unit.ofNat_low hlow).symm hus
    refine ⟨_, .unit hds (Unit.ofNat_high hhigh).symm hlow, ?_⟩
    rw [joinUnits, hjoin, ← hc, Char.ofNat_toNat]
    rfl

/-! ### Hexadecimal digits -/

theorem digitValue_lt {c : Char} (h : isHexDigit c = true) : digitValue c < 16 := by
  rw [digitValue]
  split
  · rename_i hc
    simp only [Char.isDigit, Bool.and_eq_true, decide_eq_true_eq] at hc
    have hle : c.toNat ≤ 57 := hc.2
    have hzero : '0'.toNat = 48 := rfl
    omega
  · rename_i hc
    simp only [isHexDigit, hc, Bool.false_or, Bool.and_eq_true, decide_eq_true_eq] at h
    have hle : c.toLower.toNat ≤ 102 := h.2
    have ha : 'a'.toNat = 97 := rfl
    omega

theorem HexDigits.eq {n : Nat} {ds : Text} (h : HexDigits n ds) : ∃ a b c d, ds = [a, b, c, d] := by
  match ds, h.length with
  | [a, b, c, d], _ => exact ⟨a, b, c, d, rfl⟩

theorem HexDigits.lt {n : Nat} {ds : Text} (h : HexDigits n ds) : n < 0x10000 := by
  obtain ⟨a, b, c, d, rfl⟩ := h.eq
  have hdigit (x : Char) (hx : x ∈ [a, b, c, d]) : digitValue x < 16 :=
    digitValue_lt (h.digits x hx)
  have ha := hdigit a (by simp)
  have hb := hdigit b (by simp)
  have hc := hdigit c (by simp)
  have hd := hdigit d (by simp)
  have hvalue := h.value
  simp only [Text.value, List.foldl_cons, List.foldl_nil] at hvalue
  omega

theorem unit?_append {n : Nat} {ds : Text} (h : HexDigits n ds) (rest : Text) :
    unit? (ds ++ rest) = some (n, rest) := by
  obtain ⟨a, b, c, d, rfl⟩ := h.eq
  change (Text.hexadecimal? [a, b, c, d]).map (fun n => (n, rest)) = some (n, rest)
  rw [Text.hexadecimal?, if_pos ⟨by simp, List.all_eq_true.2 h.digits⟩, h.value, Option.map_some]

/-! ### Halves -/

/-- A unit that is a character stands for the character of its number. -/
theorem toNat_of_unit {n : Nat} {c : Char} (hn : n < 0x10000) (h : Unit.char c = .ofNat n) :
    c.toNat = n := by
  rw [Unit.ofNat] at h
  split at h
  · cases h
  · split at h
    · cases h
    · have hvalid : n.isValidChar := by
        simp only [Nat.isValidChar]
        omega
      rw [Unit.char.inj h, Char.ofNat, dif_pos hvalid]
      rfl

theorem toNat_of_high {n high : Nat} (h : Unit.high high = .ofNat n) :
    n = 0xD800 + high ∧ high < 0x400 := by
  rw [Unit.ofNat] at h
  split at h
  · have hhigh := Unit.high.inj h
    omega
  · split at h <;> cases h

theorem toNat_of_low {n low : Nat} (h : Unit.low low = .ofNat n) :
    n = 0xDC00 + low ∧ low < 0x400 := by
  rw [Unit.ofNat] at h
  split at h
  · cases h
  · split at h
    · have hlow := Unit.low.inj h
      omega
    · cases h

/-- Units that are put together to some characters are those of a text that stands for them. -/
theorem Codes.spells {us : List Unit} : ∀ {cs t : Text}, Codes us t → joinUnits us = some cs →
    Spells cs t := by
  fun_induction joinUnits us with
  | case1 =>
    intro cs t h hjoin
    cases h
    cases hjoin
    exact .nil
  | case2 c us ih =>
    intro cs t h hjoin
    obtain ⟨cs, hcs, rfl⟩ := Option.map_eq_some_iff.1 hjoin
    cases h with
    | plain hc h => exact .plain hc (ih h hcs)
    | short he h => exact .short he (ih h hcs)
    | unit hds hu h =>
      rw [← toNat_of_unit hds.lt hu] at hds
      exact .unit hds (ih h hcs)
  | case3 high low us ih =>
    intro cs t h hjoin
    obtain ⟨cs, hcs, rfl⟩ := Option.map_eq_some_iff.1 hjoin
    cases h with
    | unit hds hu h =>
      cases h with
      | unit hes hv h =>
        obtain ⟨rfl, hhigh⟩ := toNat_of_high hu
        obtain ⟨rfl, hlow⟩ := toNat_of_low hv
        refine .pair hhigh hlow ?_ hds hes (ih h hcs)
        rw [Char.ofNat, dif_pos]
        · rfl
        · simp only [Nat.isValidChar]
          omega
  | case4 us hchar hhigh =>
    intro cs t h hjoin
    cases hjoin

/-! ### Reading strings -/

theorem readUnits?_plain {c : Char} (hc : Plain c) (n : Nat) (t : Text) :
    readUnits? (n + 1) (c :: t) = (readUnits? n t).map fun r => (.char c :: r.1, r.2) := by
  rw [readUnits?.eq_def]
  dsimp only
  rw [if_neg hc.quote, if_neg (Nat.not_lt.2 hc.control), if_pos hc.backslash]

theorem readUnits?_short {e c : Char} (he : (e, c) ∈ shortEscapes) (n : Nat) (t : Text) :
    readUnits? (n + 1) ('\\' :: e :: t) = (readUnits? n t).map fun r => (.char c :: r.1, r.2) := by
  simp only [shortEscapes, List.mem_cons, List.not_mem_nil, or_false, Prod.mk.injEq] at he
  rcases he with ⟨rfl, rfl⟩ | ⟨rfl, rfl⟩ | ⟨rfl, rfl⟩ | ⟨rfl, rfl⟩ | ⟨rfl, rfl⟩ | ⟨rfl, rfl⟩ |
    ⟨rfl, rfl⟩ | ⟨rfl, rfl⟩ <;> rfl

theorem readUnits?_unit {u : Nat} {ds : Text} (hds : HexDigits u ds) (n : Nat) (t : Text) :
    readUnits? (n + 1) ('\\' :: 'u' :: (ds ++ t)) =
      (readUnits? n t).map fun r => (.ofNat u :: r.1, r.2) := by
  have hread : readUnits? (n + 1) ('\\' :: 'u' :: (ds ++ t)) = (unit? (ds ++ t)).bind
      fun r => (readUnits? n r.2).map fun s => (.ofNat r.1 :: s.1, s.2) := rfl
  rw [hread, unit?_append hds, Option.bind_some]

/-- Units are read up to the closing quote. -/
theorem readUnits?_codes {us : List Unit} {t : Text} (h : Codes us t) (rest : Text) :
    ∀ n, t.length ≤ n → readUnits? (n + 1) (t ++ '"' :: rest) = some (us, rest) := by
  induction h with
  | nil => exact fun n _ => rfl
  | plain hc _ ih =>
    intro n hn
    cases n with
    | zero => simp at hn
    | succ n =>
      rw [List.cons_append, readUnits?_plain hc, ih n (by simpa using hn), Option.map_some]
  | short he _ ih =>
    intro n hn
    cases n with
    | zero => simp at hn
    | succ n =>
      simp only [List.length_cons] at hn
      rw [List.cons_append, List.cons_append, readUnits?_short he, ih n (by omega),
        Option.map_some]
  | unit hds hu _ ih =>
    intro n hn
    cases n with
    | zero => simp at hn
    | succ n =>
      simp only [List.length_cons, List.length_append] at hn
      rw [List.cons_append, List.cons_append, List.append_assoc, readUnits?_unit hds,
        ih n (by omega), Option.map_some, hu]

/-- A string is read up to its closing quote. -/
theorem readString?_quoted {s : Option String} {q : Text} (h : Quoted s q) (rest : Text) :
    ∃ t, q = '"' :: t ∧ readString? (t ++ rest) = some (s, rest) := by
  have hcodes {us : List Unit} {t : Text} (hus : Codes us t) :
      readString? (t ++ '"' :: rest) = some ((joinUnits us).map String.ofList, rest) := by
    rw [readString?, readUnits?_codes hus rest _ (by simp), Option.map_some]
  cases h with
  | @string s t h =>
    obtain ⟨us, hus, hjoin⟩ := h.codes
    refine ⟨_, rfl, ?_⟩
    rw [List.append_assoc, List.singleton_append, hcodes hus, hjoin, Option.map_some,
      String.ofList_toList]
  | @broken t h hnone =>
    obtain ⟨us, hus⟩ := h.codes
    have hjoin : joinUnits us = none :=
      Option.eq_none_iff_forall_ne_some.2 fun cs hcs => hnone cs (hus.spells hcs)
    refine ⟨_, rfl, ?_⟩
    rw [List.append_assoc, List.singleton_append, hcodes hus, hjoin, Option.map_none]

/-! ## Numbers -/

/-- Nothing at the front of a text goes on with the digits of a number. -/
def NoDigit (t : Text) : Prop := ∀ c ∈ t.head?, c.isDigit = false

/-- Nothing at the front of a text goes on with a number. -/
structure Stops (t : Text) : Prop where
  digit : NoDigit t
  point : t.head? ≠ some '.'
  exponent : ∀ c ∈ t.head?, c ≠ 'e' ∧ c ≠ 'E'

theorem Digits.cons {ds : Text} (h : Digits ds) : ∃ d es, ds = d :: es ∧ d.isDigit = true := by
  match ds, h with
  | d :: es, h => exact ⟨d, es, rfl, h.digits d List.mem_cons_self⟩
  | [], h => exact absurd rfl h.nonempty

theorem digits?_append {ds rest : Text} (h : Digits ds) (hrest : NoDigit rest) :
    digits? (ds ++ rest) = some (ds, rest) := by
  have htake : rest.takeWhile Char.isDigit = [] := by
    cases rest with
    | nil => rfl
    | cons c rest => exact List.takeWhile_cons_of_neg (by simp [hrest c rfl])
  have hdrop : rest.dropWhile Char.isDigit = rest := by
    cases rest with
    | nil => rfl
    | cons c rest => exact List.dropWhile_cons_of_neg (by simp [hrest c rfl])
  have hne := h.nonempty
  rw [digits?, List.takeWhile_append_of_pos h.digits, List.dropWhile_append_of_pos h.digits, htake,
    hdrop, List.append_nil]
  split
  · contradiction
  · rfl

theorem whole?_append {w rest : Text} (h : Whole w) (hrest : NoDigit rest) :
    whole? (w ++ rest) = some (w, rest) := by
  cases h with
  | zero =>
    change (if rest.head?.any Char.isDigit then none else some (['0'], rest)) = _
    have hnone : rest.head?.any Char.isDigit = false := by
      cases rest with
      | nil => rfl
      | cons c rest => exact hrest c rfl
    rw [hnone]
    rfl
  | @digits c ds hc hds =>
    have hwhole : whole? (c :: (ds ++ rest)) = digits? (c :: ds ++ rest) := by
      rw [whole?.eq_def]
      split
      · rename_i heq
        exact absurd (List.cons_eq_cons.1 heq).1 hc
      · rfl
    rw [List.cons_append, hwhole, digits?_append hds hrest]

theorem fraction?_append {f rest : Text} (h : Fraction f) (hdigit : NoDigit rest)
    (hpoint : rest.head? ≠ some '.') : fraction? (f ++ rest) = some (f, rest) := by
  cases h with
  | none =>
    rw [List.nil_append, fraction?.eq_def]
    split
    · exact absurd rfl hpoint
    · rfl
  | @digits ds hds =>
    change (digits? (ds ++ rest)).map _ = _
    rw [digits?_append hds hdigit]
    rfl

theorem exponent?_append {e rest : Text} (h : Exponent e) (hrest : Stops rest) :
    exponent? (e ++ rest) = some (e, rest) := by
  cases h with
  | none =>
    cases rest with
    | nil => rfl
    | cons c rest =>
      rw [List.nil_append, exponent?.eq_def]
      dsimp only
      rw [if_neg (not_or.2 (hrest.exponent c rfl))]
  | @digits e sign ds he hsign hds =>
    have hdigits := digits?_append hds hrest.digit
    rw [List.cons_append, List.append_assoc, exponent?.eq_def]
    dsimp only
    rw [if_pos he]
    rcases hsign with rfl | rfl | rfl
    · -- a digit is no sign
      obtain ⟨d, es, rfl, hd⟩ := hds.cons
      rw [List.nil_append]
      split
      · rename_i heq
        rw [(List.cons_eq_cons.1 heq).1] at hd
        cases hd
      · rename_i heq
        rw [(List.cons_eq_cons.1 heq).1] at hd
        cases hd
      · rw [hdigits]
        rfl
    · exact congrArg (Option.map _) hdigits
    · exact congrArg (Option.map _) hdigits

/-- Neither digits nor a point go on with a number at its exponent. -/
theorem Exponent.stops {e rest : Text} (h : Exponent e) (hrest : Stops rest) :
    NoDigit (e ++ rest) ∧ (e ++ rest).head? ≠ some '.' := by
  cases h with
  | none => exact ⟨hrest.digit, hrest.point⟩
  | digits he =>
    rcases he with rfl | rfl
    · exact ⟨fun c hc => by cases hc; rfl, by simp⟩
    · exact ⟨fun c hc => by cases hc; rfl, by simp⟩

/-- No digits go on with a number at its fraction. -/
theorem Fraction.stops {f rest : Text} (h : Fraction f) (hrest : NoDigit rest) :
    NoDigit (f ++ rest) := by
  cases h with
  | none => exact hrest
  | digits => exact fun c hc => by cases hc; rfl

theorem Whole.opens {w : Text} (h : Whole w) : ∃ d es, w = d :: es ∧ d.isDigit = true := by
  cases h with
  | zero => exact ⟨_, _, rfl, rfl⟩
  | digits _ hds => exact hds.cons

/-- A number is read if nothing that follows goes on with it. -/
theorem readNumber?_number {t rest : Text} (h : Number t) (hrest : Stops rest) :
    readNumber? (t ++ rest) = some (number t, rest) := by
  obtain @⟨sign, w, f, e, hsign, hw, hf, he⟩ := h
  obtain ⟨hdigit, hpoint⟩ := he.stops hrest
  have hwhole := whole?_append hw (hf.stops hdigit)
  have hfraction := fraction?_append hf hdigit hpoint
  have hexponent := exponent?_append he hrest
  simp only [List.append_assoc]
  rcases hsign with rfl | rfl
  · obtain ⟨d, es, rfl, hd⟩ := hw.opens
    rw [List.nil_append, readNumber?.eq_def]
    split
    rename_i heq
    split at heq
    · -- a digit is no minus sign
      rename_i hminus
      rw [(List.cons_eq_cons.1 hminus).1] at hd
      cases hd
    · cases heq
      rw [hwhole]
      simp only [Option.bind_eq_bind, Option.bind_some, hfraction, hexponent, List.append_assoc,
        Option.pure_def, List.nil_append, List.cons_append]
  · change (whole? (w ++ (f ++ (e ++ rest))) >>= _) = _
    rw [hwhole]
    simp only [Option.bind_eq_bind, Option.bind_some, hfraction, hexponent, List.append_assoc,
      Option.pure_def]
    rfl

/-! ## Values -/

/-- A character that opens a value. -/
structure Opens (c : Char) : Prop where
  gap : isGap c = false
  bracket : c ≠ ']'
  brace : c ≠ '\x7d'

theorem Quoted.opens {s : Option String} {q : Text} (h : Quoted s q) : ∃ t, q = '"' :: t := by
  cases h <;> exact ⟨_, rfl⟩

theorem opens_of_isDigit {c : Char} (h : c.isDigit = true) : Opens c := by
  refine ⟨?_, ?_, ?_⟩
  · rw [← Bool.not_eq_true, isGap_iff]
    rintro (rfl | rfl | rfl | rfl) <;> cases h
  · rintro rfl
    cases h
  · rintro rfl
    cases h

theorem Number.opens {t : Text} (h : Number t) :
    ∃ c cs, t = c :: cs ∧ (c = '-' ∨ c.isDigit = true) := by
  obtain @⟨sign, w, f, e, hsign, hw, -, -⟩ := h
  rcases hsign with rfl | rfl
  · obtain ⟨d, es, rfl, hd⟩ := hw.opens
    exact ⟨d, _, rfl, .inr hd⟩
  · exact ⟨'-', _, rfl, .inl rfl⟩

/-- A value starts with a character that opens one. -/
theorem Written.opens {j : Json} {t : Text} (h : Written j t) : ∃ c cs, t = c :: cs ∧ Opens c := by
  cases h with
  | null => exact ⟨'n', _, rfl, rfl, by decide, by decide⟩
  | true => exact ⟨'t', _, rfl, rfl, by decide, by decide⟩
  | false => exact ⟨'f', _, rfl, rfl, by decide, by decide⟩
  | number h =>
    obtain ⟨c, cs, rfl, rfl | hc⟩ := h.opens
    · exact ⟨'-', cs, rfl, rfl, by decide, by decide⟩
    · exact ⟨c, cs, rfl, opens_of_isDigit hc⟩
  | string h =>
    obtain ⟨t, rfl⟩ := h.opens
    exact ⟨'"', t, rfl, rfl, by decide, by decide⟩
  | noItems | array => exact ⟨'[', _, rfl, rfl, by decide, by decide⟩
  | noFields | object => exact ⟨'\x7b', _, rfl, rfl, by decide, by decide⟩

/-- Blanks are passed over up to a value. -/
theorem skip_written {g t : Text} {j : Json} (hg : Gaps g) (h : Written j t) (rest : Text) :
    skip (g ++ (t ++ rest)) = t ++ rest := by
  obtain ⟨c, cs, rfl, hc⟩ := h.opens
  rw [skip_append hg, List.cons_append, skip_cons hc.gap]

theorem skip_quoted {g q : Text} {s : Option String} (hg : Gaps g) (h : Quoted s q) (rest : Text) :
    skip (g ++ (q ++ rest)) = q ++ rest :=
  skip_written hg (.string h) rest

/-- Items start with a character that opens a value. -/
theorem WrittenItems.opens {vs : List Json} {t : Text} (h : WrittenItems vs t) (rest : Text) :
    ∃ c cs, skip (t ++ rest) = c :: cs ∧ Opens c := by
  cases h with
  | one hg h | cons hg h =>
    rw [List.append_assoc, List.append_assoc, skip_written hg h]
    obtain ⟨c, cs, rfl, hc⟩ := h.opens
    exact ⟨c, _, rfl, hc⟩

/-- Fields start with a quote. -/
theorem WrittenFields.opens {fs : List (Option String × Json)} {t : Text} (h : WrittenFields fs t)
    (rest : Text) : ∃ cs, skip (t ++ rest) = '"' :: cs := by
  cases h with
  | one hg hq | cons hg hq =>
    rw [List.append_assoc, List.append_assoc, skip_quoted hg hq]
    obtain ⟨t, rfl⟩ := hq.opens
    exact ⟨_, rfl⟩

theorem stops_cons {c : Char} (hdigit : c.isDigit = false) (hpoint : c ≠ '.') (he : c ≠ 'e')
    (hE : c ≠ 'E') (t : Text) : Stops (c :: t) where
  digit _ hd := Option.some_inj.1 hd ▸ hdigit
  point hd := hpoint (Option.some_inj.1 hd)
  exponent _ hd := Option.some_inj.1 hd ▸ ⟨he, hE⟩

/-- Behind blanks a mark between values does not go on with a number. -/
theorem stops_gaps {g : Text} {c : Char} (hg : Gaps g) (hc : c = ',' ∨ c = ']' ∨ c = '\x7d')
    (rest : Text) : Stops (g ++ c :: rest) := by
  cases g with
  | nil =>
    rcases hc with rfl | rfl | rfl <;>
      exact stops_cons (by decide) (by decide) (by decide) (by decide) rest
  | cons d g =>
    rcases hg d List.mem_cons_self with rfl | rfl | rfl | rfl <;>
      exact stops_cons (by decide) (by decide) (by decide) (by decide) _

/-- What starts like a number is read as one. -/
theorem readValue?_digit {c : Char} (hc : c = '-' ∨ c.isDigit = true) (n : Nat) (t : Text) :
    readValue? (n + 1) (c :: t) = readNumber? (c :: t) := by
  have hne {d : Char} (hd : d ≠ '-') (hdigit : d.isDigit = false) : c ≠ d := by
    rintro rfl
    rcases hc with hc | hc
    · exact hd hc
    · rw [hdigit] at hc
      cases hc
  have hstart {o : Char} {os : Text} (ho : c ≠ o) : Text.startsWith? (o :: os) (c :: t) = none := by
    rw [Text.startsWith?, if_neg ho]
  rw [readValue?.eq_def]
  dsimp only
  split
  · rename_i heq
    exact absurd (List.cons_eq_cons.1 heq).1 (hne (by decide) (by decide))
  · rename_i heq
    exact absurd (List.cons_eq_cons.1 heq).1 (hne (by decide) (by decide))
  · rename_i heq
    exact absurd (List.cons_eq_cons.1 heq).1 (hne (by decide) (by decide))
  · rw [show "null".toList = ['n', 'u', 'l', 'l'] from rfl,
      show "true".toList = ['t', 'r', 'u', 'e'] from rfl,
      show "false".toList = ['f', 'a', 'l', 's', 'e'] from rfl,
      hstart (hne (by decide) (by decide)), hstart (hne (by decide) (by decide)),
      hstart (hne (by decide) (by decide))]

/-- The key of a field is read, and then its value. -/
theorem readFields?_key {k : Option String} {v : Json} {g q g₁ g₂ t : Text} (hg : Gaps g)
    (hq : Quoted k q) (hg₁ : Gaps g₁) (hg₂ : Gaps g₂) (ht : Written v t) (n : Nat) (rest : Text) :
    readFields? (n + 1) (skip (g ++ (q ++ (g₁ ++ ':' :: (g₂ ++ (t ++ rest)))))) =
      (readValue? n (t ++ rest)).bind fun r =>
        match skip r.2 with
        | '\x7d' :: rest => some ([(k, r.1)], rest)
        | ',' :: rest => (readFields? n (skip rest)).map fun s => ((k, r.1) :: s.1, s.2)
        | _ => none := by
  obtain ⟨q, rfl, hkey⟩ := readString?_quoted hq (g₁ ++ ':' :: (g₂ ++ (t ++ rest)))
  rw [skip_append hg, List.cons_append, skip_cons rfl, readFields?, hkey, Option.bind_some]
  dsimp only
  rw [skip_append hg₁, skip_cons rfl]
  exact congrArg (fun u => (readValue? n u).bind _) (skip_written hg₂ ht rest)

mutual

/-- A value is read from the front of a text, if it is no number that goes on. -/
theorem readValue?_written {j : Json} {t : Text} (h : Written j t) (rest : Text)
    (hrest : (∃ literal, j = number literal) → Stops rest) :
    ∀ n, 2 * t.length ≤ n → readValue? n (t ++ rest) = some (j, rest) := by
  intro n hn
  cases n with
  | zero =>
    obtain ⟨c, cs, rfl, -⟩ := h.opens
    simp at hn
  | succ n =>
    cases h with
    | null => rfl
    | true => rfl
    | false => rfl
    | number h =>
      have hread := readNumber?_number h (hrest ⟨_, rfl⟩)
      obtain ⟨c, cs, rfl, hc⟩ := h.opens
      rwa [List.cons_append, readValue?_digit hc]
    | string h =>
      obtain ⟨t, rfl, hread⟩ := readString?_quoted h rest
      exact congrArg (Option.map _) hread
    | @noItems g hg =>
      have hskip : skip (g ++ [']'] ++ rest) = ']' :: rest := by
        rw [List.append_assoc, skip_append hg]
        rfl
      rw [List.cons_append, readValue?, hskip]
      rfl
    | @array vs t h =>
      have hread := readItems?_written h rest n (by simp at hn; omega)
      obtain ⟨c, cs, hskip, hc⟩ := h.opens (']' :: rest)
      rw [hskip] at hread
      rw [List.cons_append, List.append_assoc, List.singleton_append, readValue?, hskip]
      split
      · rename_i heq
        exact absurd (List.cons_eq_cons.1 heq).1 hc.bracket
      · rw [hread, Option.map_some]
    | @noFields g hg =>
      have hskip : skip (g ++ ['\x7d'] ++ rest) = '\x7d' :: rest := by
        rw [List.append_assoc, skip_append hg]
        rfl
      rw [List.cons_append, readValue?, hskip]
      rfl
    | @object fs t h =>
      have hread := readFields?_written h rest n (by simp at hn; omega)
      obtain ⟨cs, hskip⟩ := h.opens ('\x7d' :: rest)
      rw [hskip] at hread
      rw [List.cons_append, List.append_assoc, List.singleton_append, readValue?, hskip]
      exact congrArg (Option.map _) hread

/-- Items are read up to the closing bracket of their array. -/
theorem readItems?_written {vs : List Json} {t : Text} (h : WrittenItems vs t) (rest : Text) :
    ∀ n, 2 * t.length < n → readItems? n (skip (t ++ ']' :: rest)) = some (vs, rest) := by
  cases h with
  | @one v g t g' hg ht hg' =>
    intro n hn
    simp only [List.length_append] at hn
    cases n with
    | zero => simp at hn
    | succ n =>
      rw [List.append_assoc, List.append_assoc, skip_written hg ht, readItems?,
        readValue?_written ht _ (fun _ => stops_gaps hg' (by simp) _) n (by omega),
        Option.bind_some]
      dsimp only
      rw [skip_append hg', skip_cons rfl]
      rfl
  | @cons v vs g t g' u hg ht hg' hu =>
    intro n hn
    simp only [List.length_append, List.length_cons] at hn
    cases n with
    | zero => simp at hn
    | succ n =>
      rw [List.append_assoc, List.append_assoc, List.append_assoc, List.cons_append,
        skip_written hg ht, readItems?,
        readValue?_written ht _ (fun _ => stops_gaps hg' (by simp) _) n (by omega),
        Option.bind_some]
      dsimp only
      rw [skip_append hg', skip_cons rfl]
      exact congrArg (Option.map _) (readItems?_written hu rest n (by omega))

/-- Fields are read up to the closing bracket of their object. -/
theorem readFields?_written {fs : List (Option String × Json)} {t : Text} (h : WrittenFields fs t)
    (rest : Text) :
    ∀ n, 2 * t.length < n → readFields? n (skip (t ++ '\x7d' :: rest)) = some (fs, rest) := by
  cases h with
  | @one k v g q g₁ g₂ t g' hg hq hg₁ hg₂ ht hg' =>
    intro n hn
    simp only [List.length_append, List.length_cons] at hn
    cases n with
    | zero => simp at hn
    | succ n =>
      simp only [List.append_assoc, List.cons_append]
      rw [readFields?_key hg hq hg₁ hg₂ ht,
        readValue?_written ht _ (fun _ => stops_gaps hg' (by simp) _) n (by omega),
        Option.bind_some]
      dsimp only
      rw [skip_append hg', skip_cons rfl]
      rfl
  | @cons k v fs g q g₁ g₂ t g' u hg hq hg₁ hg₂ ht hg' hu =>
    intro n hn
    simp only [List.length_append, List.length_cons] at hn
    cases n with
    | zero => simp at hn
    | succ n =>
      simp only [List.append_assoc, List.cons_append]
      rw [readFields?_key hg hq hg₁ hg₂ ht,
        readValue?_written ht _ (fun _ => stops_gaps hg' (by simp) _) n (by omega),
        Option.bind_some]
      dsimp only
      rw [skip_append hg', skip_cons rfl]
      exact congrArg (Option.map _) (readFields?_written hu rest n (by omega))

end

/-! ## Texts -/

/-- A value that is no number that goes on is all that may stand in a text between blanks. -/
theorem read?_append {j : Json} {g t rest : Text} (hg : Gaps g) (ht : Written j t)
    (hrest : (∃ literal, j = number literal) → Stops rest) :
    read? (g ++ (t ++ rest)) = if skip rest = [] then some j else none := by
  rw [read?, skip_written hg ht, readValue?_written ht rest hrest _ (by simp; omega),
    Option.bind_some]

/-- **A value between blanks is read.** -/
theorem read?_written {j : Json} {g t g' : Text} (hg : Gaps g) (ht : Written j t) (hg' : Gaps g') :
    read? (g ++ (t ++ g')) = some j := by
  have hstops : Stops g' := by
    cases g' with
    | nil => exact ⟨by simp [NoDigit], by simp, by simp⟩
    | cons c g' =>
      rcases hg' c List.mem_cons_self with rfl | rfl | rfl | rfl <;>
        exact stops_cons (by decide) (by decide) (by decide) (by decide) g'
  rw [read?_append hg ht fun _ => hstops, if_pos (skip_eq_nil_iff.2 hg')]

/-- **A value that is no number is not read with anything but blanks behind it.** -/
theorem read?_junk {j : Json} {g t rest : Text} (hg : Gaps g) (ht : Written j t)
    (hj : ∀ literal, j ≠ number literal) (hrest : ¬Gaps rest) :
    read? (g ++ (t ++ rest)) = none := by
  rw [read?_append hg ht fun ⟨literal, h⟩ => absurd h (hj literal),
    if_neg (mt skip_eq_nil_iff.1 hrest)]

end Json

end Repartee

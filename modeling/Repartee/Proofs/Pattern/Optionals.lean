import Repartee.Proofs.Pattern.Slots
import Repartee.Proofs.Regex.Ways

/-!
# Optionals

A pattern of words and optionals matches a message if the message keeps all its words, and has one
of the alternatives or nothing for each optional, whatever spaces stood beside it.

* `Pattern.Keeps`: the words of a message for the slots of a pattern.
* `Regex.Bare`: expressions without copies and groups.
* `Pattern.AtStart`, `Pattern.AtEnd`, `Pattern.Inside`: where a place is in a message of words.
* `Pattern.keeps_of_finishes`, `Pattern.finishes_of_keeps`: the pieces of slots match the messages
  they keep.
* **`Pattern.stars_of_slots`**: a pattern of words and optionals matches the messages that keep its
  words, and captures nothing.
-/

namespace Repartee

/-! ## Expressions without copies and groups -/

namespace Regex

variable {r : Regex} {rs : List Regex}

/-- No copies and no groups. -/
structure Bare (r : Regex) : Prop where
  plain : r.plain
  groups : r.groups = 0

theorem Bare.seq {s : Regex} (hr : r.Bare) (hs : s.Bare) : (r.seq s).Bare :=
  ⟨Bool.and_eq_true_iff.2 ⟨hr.plain, hs.plain⟩, by rw [Regex.groups, hr.groups, hs.groups]⟩

theorem Bare.alt {s : Regex} (hr : r.Bare) (hs : s.Bare) : (r.alt s).Bare :=
  ⟨Bool.and_eq_true_iff.2 ⟨hr.plain, hs.plain⟩, by rw [Regex.groups, hr.groups, hs.groups]⟩

theorem bare_foldl : ∀ {rs : List Regex} {r : Regex}, r.Bare → (∀ s ∈ rs, s.Bare) →
    (rs.foldl seq r).Bare
  | [], _, hr, _ => hr
  | s :: rs, _, hr, h => by
    rw [List.forall_mem_cons] at h
    rw [List.foldl_cons]
    exact bare_foldl (hr.seq h.1) h.2

theorem bare_concat (h : ∀ r ∈ rs, r.Bare) : (concat rs).Bare := bare_foldl ⟨rfl, rfl⟩ h

end Regex

namespace Pattern

open Regex

/-! ## Boundaries and optionals -/

variable {p q : Place} {c : Char} {t : Text} {w : Word} {us vs ws : List Word} {ss : List Slot}

theorem reaches_boundary : boundary.Reaches p q ↔
    p.Runs isBlank 1 q ∨ p.wordBefore ≠ p.wordBehind ∧ q = p := by
  simp [boundary, Reaches, someGreedy, Place.Runs, Place.satisfies]

theorem reaches_phrase (us : List Word) :
    (joinPieces ((sentence us).map Piece.char).reverse).Reaches p q ↔ p.Reads (sentence us) q := by
  rw [joinPieces, List.reverse_reverse, List.map_map, ← reaches_literal]
  rfl

theorem reaches_between {r : Regex} : (concat [boundary, r, boundary]).Reaches p q ↔
    ∃ m k, boundary.Reaches p m ∧ r.Reaches m k ∧ boundary.Reaches k q := by
  constructor
  · rintro ⟨k, ⟨m, ⟨_, rfl, hm⟩, hk⟩, hq⟩
    exact ⟨m, k, hm, hk, hq⟩
  · rintro ⟨m, k, hm, hk, hq⟩
    exact ⟨k, ⟨m, ⟨p, rfl, hm⟩, hk⟩, hq⟩

/-- An optional is passed as a boundary, or as an alternative between boundaries. -/
theorem reaches_optional (p q : Place) : ∀ alternatives : List (List Word),
    (optional (phrasePieces alternatives)).regex.Reaches p q ↔ boundary.Reaches p q ∨
      ∃ us ∈ alternatives, ∃ m k, boundary.Reaches p m ∧ m.Reads (sentence us) k ∧
        boundary.Reaches k q
  | [] => by simp [optional, phrasePieces, Piece.regex]
  | us :: alternatives => by
    change (concat [boundary, joinPieces ((sentence us).map Piece.char).reverse,
      boundary]).Reaches p q ∨ (optional (phrasePieces alternatives)).regex.Reaches p q ↔ _
    rw [reaches_optional p q alternatives, reaches_between]
    simp only [reaches_phrase]
    rw [List.exists_mem_cons_iff]
    exact or_left_comm

theorem bare_boundary : boundary.Bare := ⟨rfl, rfl⟩

theorem bare_phrase (us : List Word) :
    (joinPieces ((sentence us).map Piece.char).reverse).Bare := by
  rw [joinPieces, List.reverse_reverse, List.map_map]
  refine bare_concat fun r hr => ?_
  obtain ⟨c, -, rfl⟩ := List.mem_map.1 hr
  exact ⟨rfl, rfl⟩

theorem bare_optional : ∀ alternatives : List (List Word),
    (optional (phrasePieces alternatives)).regex.Bare
  | [] => bare_boundary
  | us :: alternatives => by
    have hphrase : (concat [boundary, joinPieces ((sentence us).map Piece.char).reverse,
        boundary]).Bare := by
      refine bare_concat fun r hr => ?_
      simp only [List.mem_cons, List.not_mem_nil, or_false] at hr
      rcases hr with rfl | rfl | rfl
      · exact bare_boundary
      · exact bare_phrase us
      · exact bare_boundary
    exact hphrase.alt (bare_optional alternatives)

theorem bare_slotPieces : ∀ {ss : List Slot}, ∀ r ∈ (slotPieces ss).map Piece.regex, r.Bare
  | .word w :: ss, r, h => by
    rw [slotPieces, List.map_append, List.map_append, List.mem_append, List.mem_append] at h
    rcases h with (h | h) | h
    · rw [List.map_map] at h
      obtain ⟨c, -, rfl⟩ := List.mem_map.1 h
      exact ⟨rfl, rfl⟩
    · unfold gap at h
      split at h
      · rw [List.mem_singleton.1 h]
        exact ⟨rfl, rfl⟩
      · cases h
    · exact bare_slotPieces r h
  | .optional alternatives :: ss, r, h => by
    rcases List.mem_cons.1 h with rfl | h
    · exact bare_optional alternatives
    · exact bare_slotPieces r h

/-! ## Places in a message -/

/-- What stands behind a word: nothing, or a space and further words. -/
def behind : List Word → Text
  | [] => []
  | vs => ' ' :: sentence vs

/-- Some words are left, and the first of them begins here. -/
structure AtStart (vs : List Word) (p : Place) : Prop where
  rest : p.rest = sentence vs
  ne_nil : vs ≠ []
  before : p.wordBefore = false

/-- A word ends here; further words are left. -/
structure AtEnd (vs : List Word) (p : Place) : Prop where
  rest : p.rest = behind vs
  before : p.wordBefore = true

/-- A word goes on here. -/
structure Inside (p : Place) : Prop where
  before : p.wordBefore = true
  goesOn : ∃ c ∈ p.rest.head?, isPlain c

theorem sentence_cons (v : Word) (vs : List Word) : sentence (v :: vs) = v.text ++ behind vs := by
  cases vs with
  | nil => exact (List.append_nil _).symm
  | cons u vs => exact List.append_assoc _ _ _

theorem sentence_append : ∀ {us : List Word}, us ≠ [] → ∀ vs : List Word,
    sentence (us ++ vs) = sentence us ++ behind vs
  | [u], _, vs => sentence_cons u vs
  | u :: u' :: us, _, vs => by
    change u.text ++ [' '] ++ sentence (u' :: us ++ vs) =
      u.text ++ [' '] ++ sentence (u' :: us) ++ behind vs
    rw [sentence_append (List.cons_ne_nil u' us), ← List.append_assoc]

theorem exists_text (w : Word) : ∃ c cs, w.text = c :: cs ∧ isPlain c := by
  obtain ⟨c, cs, h⟩ := List.exists_cons_of_ne_nil w.ne_nil
  exact ⟨c, cs, h, w.plain c (h ▸ List.mem_cons_self)⟩

theorem wordBehind_of_plain (h : ∃ c ∈ p.rest.head?, isPlain c) : p.wordBehind = true := by
  obtain ⟨c, hc, hp⟩ := h
  rw [Place.wordBehind, hc, Option.any_some]
  exact (plain_char hp).2.1

theorem AtStart.head (h : AtStart vs p) : ∃ c ∈ p.rest.head?, isPlain c := by
  obtain ⟨v, vs, rfl⟩ := List.exists_cons_of_ne_nil h.ne_nil
  obtain ⟨c, cs, hc, hp⟩ := exists_text v
  exact ⟨c, by rw [h.rest, sentence_cons, hc]; rfl, hp⟩

theorem AtEnd.wordBehind (h : AtEnd vs p) : p.wordBehind = false := by
  rw [Place.wordBehind, h.rest]
  cases vs with
  | nil => rfl
  | cons v vs =>
    have hspace : isWordChar ' ' = false := by decide
    exact hspace

/-- No word ends with a space or the like. -/
theorem wordBefore_of_reads (h : p.Reads t q) (ht : t ≠ []) (hl : ∀ c ∈ t.getLast?, isPlain c) :
    q.wordBefore = true := by
  obtain ⟨init, c, rfl⟩ := (List.eq_nil_or_concat' t).resolve_left ht
  rw [Place.wordBefore, h.last, List.getLast?_concat, Option.some_or, Option.any_some]
  exact (plain_char (hl c List.getLast?_concat)).2.1

/-! ## Steps -/

theorem not_reads_blank (h : ∃ c ∈ p.rest.head?, isPlain c) : ¬p.Runs isBlank 1 q := by
  rintro ⟨t, ht, hn, hb⟩
  obtain ⟨c, hc, hp⟩ := h
  obtain ⟨d, ds, rfl⟩ := List.exists_cons_of_length_pos hn
  obtain rfl : d = c := by simpa [ht.rest] using hc
  exact absurd (hb d List.mem_cons_self) (by simp [(plain_char hp).1])

/-- At the start of a word a boundary takes up nothing. -/
theorem AtStart.boundary (h : AtStart vs p) : boundary.Reaches p q ↔ q = p := by
  rw [reaches_boundary, h.before, wordBehind_of_plain h.head]
  simp [not_reads_blank h.head]

/-- Inside a word there is no boundary. -/
theorem Inside.boundary (h : Inside p) : ¬boundary.Reaches p q := by
  rw [reaches_boundary, h.before, wordBehind_of_plain h.goesOn]
  simp [not_reads_blank h.goesOn]

theorem AtEnd.space (h : AtEnd vs p) (hq : p.Reads [' '] q) : AtStart vs q := by
  obtain ⟨cs, hcs, rfl⟩ := Place.reads_singleton.1 hq
  rw [h.rest] at hcs
  cases vs with
  | nil => cases hcs
  | cons v vs =>
    obtain ⟨-, rfl⟩ := List.cons.inj hcs
    have hspace : isWordChar ' ' = false := by decide
    exact ⟨rfl, List.cons_ne_nil v vs, hspace⟩

theorem AtEnd.exists_space (h : AtEnd vs p) (hne : vs ≠ []) : ∃ q, p.Reads [' '] q := by
  obtain ⟨v, vs, rfl⟩ := List.exists_cons_of_ne_nil hne
  exact ⟨_, Place.reads_singleton.2 ⟨sentence (v :: vs), h.rest, rfl⟩⟩

/-- At the end of a word a boundary takes up nothing or the space. -/
theorem AtEnd.boundary (h : AtEnd vs p) : boundary.Reaches p q ↔ q = p ∨ p.Reads [' '] q := by
  have hblanks : p.Runs isBlank 1 q ↔ p.Reads [' '] q := by
    constructor
    · rintro ⟨t, ht, hn, hb⟩
      obtain ⟨c, cs, rfl⟩ := List.exists_cons_of_length_pos hn
      have hrest := ht.rest
      rw [h.rest] at hrest
      cases vs with
      | nil => cases hrest
      | cons v vs =>
        obtain ⟨rfl, htail⟩ := List.cons.inj hrest
        cases cs with
        | nil => exact ht
        | cons d cs =>
          -- the next word would begin with a blank
          obtain ⟨e, es, he, hp⟩ := exists_text v
          rw [sentence_cons, he] at htail
          obtain ⟨rfl, -⟩ := List.cons.inj htail
          exact absurd (hb e (by simp)) (by simp [(plain_char hp).1])
    · exact fun hq => ⟨[' '], hq, Nat.le_refl 1, List.forall_mem_singleton.2 rfl⟩
  rw [reaches_boundary, hblanks, h.before, h.wordBehind]
  simp [or_comm]

/-- A word is read from the start of the same word to its end, or it ends inside another one. -/
theorem AtStart.read_word (h : AtStart vs p) (hq : p.Reads w.text q) :
    (∃ vs', vs = w :: vs' ∧ AtEnd vs' q) ∨ Inside q := by
  obtain ⟨v, vs, rfl⟩ := List.exists_cons_of_ne_nil h.ne_nil
  have hbefore : q.wordBefore = true := wordBefore_of_reads hq w.ne_nil fun c hc =>
    w.plain c (List.mem_of_mem_getLast? hc)
  have hrest := hq.rest
  rw [h.rest, sentence_cons] at hrest
  rcases List.append_eq_append_iff.1 hrest with ⟨x, hx, hy⟩ | ⟨x, hx, hy⟩
  · cases x with
    | nil =>
      rw [List.append_nil] at hx
      exact .inl ⟨vs, by rw [Word.ext hx], hy.symm, hbefore⟩
    | cons c x =>
      -- the word would go on with the space behind the other one
      have hc := w.plain c (by rw [hx]; simp)
      cases vs with
      | nil => cases hy
      | cons u vs =>
        obtain ⟨rfl, -⟩ := List.cons.inj hy
        exact absurd hc (by decide)
  · cases x with
    | nil =>
      rw [List.append_nil] at hx
      exact .inl ⟨vs, by rw [Word.ext hx], hy, hbefore⟩
    | cons c x =>
      exact .inr ⟨hbefore, c, by rw [hy]; rfl, v.plain c (by rw [hx]; simp)⟩

/-- No word begins at the end of a word. -/
theorem AtEnd.not_read_word (h : AtEnd vs p) : ¬p.Reads w.text q := by
  intro hq
  obtain ⟨c, cs, hc, hp⟩ := exists_text w
  have hrest := hq.rest
  rw [h.rest, hc] at hrest
  cases vs with
  | nil => cases hrest
  | cons v vs =>
    obtain ⟨rfl, -⟩ := List.cons.inj hrest
    exact absurd hp (by decide)

theorem Inside.not_read_space (h : Inside p) : ¬p.Reads [' '] q := by
  intro hq
  obtain ⟨c, hc, hp⟩ := h.goesOn
  rw [hq.rest] at hc
  cases hc
  exact absurd hp (by decide)

/-- The words of a sentence are read, or it ends inside a word. -/
theorem AtStart.read_sentence : ∀ {us vs : List Word} {p q : Place}, AtStart vs p → us ≠ [] →
    p.Reads (sentence us) q → (∃ vs', vs = us ++ vs' ∧ AtEnd vs' q) ∨ Inside q
  | [u], vs, p, q, h, _, hq => h.read_word hq
  | u :: u' :: us, vs, p, q, h, _, hq => by
    have htext : sentence (u :: u' :: us) = u.text ++ ([' '] ++ sentence (u' :: us)) :=
      List.append_assoc _ _ _
    rw [htext, Place.reads_append] at hq
    obtain ⟨m, hm, hq⟩ := hq
    obtain ⟨k, hk, hq⟩ := Place.reads_append.1 hq
    rcases h.read_word hm with ⟨vs, rfl, hm⟩ | hm
    · exact ((hm.space hk).read_sentence (List.cons_ne_nil u' us) hq).imp_left
        fun ⟨vs', he, hq⟩ => ⟨vs', by rw [he]; rfl, hq⟩
    · exact absurd hk hm.not_read_space

/-- The words of a message are read up to the end of the last of them. -/
theorem AtStart.exists_read (h : AtStart (us ++ vs) p) (hne : us ≠ []) :
    ∃ q, p.Reads (sentence us) q ∧ AtEnd vs q := by
  have hneat := Neat.sentence hne
  have hq : p.Reads (sentence us) ⟨p.pos + (sentence us).length, (sentence us).getLast?.or p.last,
      behind vs⟩ := ⟨by rw [h.rest, sentence_append hne], rfl, rfl⟩
  refine ⟨_, hq, rfl, wordBefore_of_reads hq hneat.ne_nil fun c hc => ?_⟩
  refine (mem_sentence (List.mem_of_mem_getLast? hc)).resolve_left ?_
  rintro rfl
  exact absurd (hneat.last ' ' hc) (by decide)

/-! ## Messages for slots -/

/-- The words of a message for slots: the words of the slots, with one of the alternatives or
nothing for each optional. -/
inductive Keeps : List Slot → List Word → Prop
  | nil : Keeps [] []
  | word {w : Word} {ss : List Slot} {vs : List Word} : Keeps ss vs →
    Keeps (.word w :: ss) (w :: vs)
  | chosen {alternatives : List (List Word)} {us : List Word} {ss : List Slot} {vs : List Word} :
    us ∈ alternatives → Keeps ss vs → Keeps (.optional alternatives :: ss) (us ++ vs)
  | dropped {alternatives : List (List Word)} {ss : List Slot} {vs : List Word} :
    Keeps ss vs → Keeps (.optional alternatives :: ss) vs

/-- The expressions of slots. -/
def slotRegexes (ss : List Slot) : List Regex := (slotPieces ss).map Piece.regex

/-- The first slot is a word. -/
def opens : List Slot → Bool
  | .word _ :: _ => true
  | _ => false

theorem finishes_gap {rs : List Regex} : Finishes ((gap ss).map Piece.regex ++ rs) p ↔
    if opens ss then ∃ q, p.Reads [' '] q ∧ Finishes rs q else Finishes rs p := by
  cases ss with
  | nil => exact Iff.rfl
  | cons x ss =>
    cases x with
    | word w => exact finishes_chars rs (t := [' '])
    | optional alternatives => exact Iff.rfl

theorem finishes_word : Finishes (slotRegexes (.word w :: ss)) p ↔
    ∃ q, p.Reads w.text q ∧ Finishes ((gap ss).map Piece.regex ++ slotRegexes ss) q := by
  rw [← finishes_chars, slotRegexes, slotPieces, List.map_append, List.map_append,
    List.append_assoc, List.map_map]
  rfl

theorem finishes_optional {alternatives : List (List Word)} :
    Finishes (slotRegexes (.optional alternatives :: ss)) p ↔
      ∃ q, (boundary.Reaches p q ∨ ∃ us ∈ alternatives, ∃ m k, boundary.Reaches p m ∧
        m.Reads (sentence us) k ∧ boundary.Reaches k q) ∧ Finishes (slotRegexes ss) q := by
  simp only [← reaches_optional]
  rfl

/-- A word begins or ends here. -/
def At (vs : List Word) (p : Place) : Prop := AtStart vs p ∨ AtEnd vs p

theorem At.boundary (h : At vs p) (hq : boundary.Reaches p q) : At vs q := by
  rcases h with h | h
  · rw [h.boundary.1 hq]
    exact .inl h
  · rcases h.boundary.1 hq with rfl | hq
    · exact .inr h
    · exact .inl (h.space hq)

/-- From inside a word nothing more is matched. -/
theorem Inside.not_finishes (h : Inside p) :
    ¬Finishes ((gap ss).map Piece.regex ++ slotRegexes ss) p := by
  intro hf
  cases ss with
  | nil =>
    obtain ⟨c, hc, -⟩ := h.goesOn
    rw [show p.rest = [] from hf] at hc
    cases hc
  | cons x ss =>
    cases x with
    | word w =>
      obtain ⟨q, hq, -⟩ := finishes_gap.1 hf
      exact h.not_read_space hq
    | optional alternatives =>
      obtain ⟨q, hq | ⟨us, -, m, k, hm, -⟩, -⟩ := finishes_optional.1 hf
      · exact h.boundary hq
      · exact h.boundary hm

/-- **What the expressions of slots match is a message that the slots keep.** -/
theorem keeps_of_finishes : ∀ {ss : List Slot} {vs : List Word} {p : Place},
    (∀ x ∈ ss, x.Proper) → At vs p → Finishes (slotRegexes ss) p → Keeps ss vs
  | [], vs, p, _, h, hf => by
    have hrest : p.rest = [] := hf
    rcases h with h | h
    · obtain ⟨c, hc, -⟩ := h.head
      rw [hrest] at hc
      cases hc
    · cases vs with
      | nil => exact .nil
      | cons v vs =>
        rw [h.rest] at hrest
        cases hrest
  | .word w :: ss, vs, p, hx, h, hf => by
    have hss : ∀ x ∈ ss, x.Proper := (List.forall_mem_cons.1 hx).2
    obtain ⟨q, hq, hf⟩ := finishes_word.1 hf
    rcases h with h | h
    · rcases h.read_word hq with ⟨vs, rfl, hend⟩ | hin
      · rw [finishes_gap] at hf
        split at hf
        · obtain ⟨k, hk, hf⟩ := hf
          exact .word (keeps_of_finishes hss (.inl (hend.space hk)) hf)
        · exact .word (keeps_of_finishes hss (.inr hend) hf)
      · exact absurd hf hin.not_finishes
    · exact absurd hq h.not_read_word
  | .optional alternatives :: ss, vs, p, hx, h, hf => by
    have hss : ∀ x ∈ ss, x.Proper := (List.forall_mem_cons.1 hx).2
    obtain ⟨-, hno⟩ := hx _ List.mem_cons_self
    obtain ⟨q, hq | ⟨us, hus, m, k, hm, hk, hq⟩, hf⟩ := finishes_optional.1 hf
    · exact .dropped (keeps_of_finishes hss (h.boundary hq) hf)
    · have hne : us ≠ [] := ne_of_mem_of_not_mem hus hno
      rcases h.boundary hm with hm | hm
      · rcases hm.read_sentence hne hk with ⟨vs, rfl, hend⟩ | hin
        · have hq' : At vs q := At.boundary (.inr hend) hq
          exact .chosen hus (keeps_of_finishes hss hq' hf)
        · exact absurd hq hin.boundary
      · obtain ⟨u, us, rfl⟩ := List.exists_cons_of_ne_nil hne
        rw [sentence_cons, Place.reads_append] at hk
        obtain ⟨j, hj, -⟩ := hk
        exact absurd hj hm.not_read_word

/-- Slots can be matched from the start of a word, and unless the first of them is a word, also from
the end of one. -/
def Ready (ss : List Slot) (vs : List Word) (p : Place) : Prop :=
  AtStart vs p ∨ AtEnd vs p ∧ opens ss = false

/-- A space is left where the slots begin with a word. -/
theorem AtEnd.exists_space_of_opens (h : AtEnd vs p) (hk : Keeps ss vs) (ho : opens ss) :
    ∃ q, p.Reads [' '] q ∧ AtStart vs q := by
  have hne : vs ≠ [] := by
    cases hk with
    | word _ => exact List.cons_ne_nil _ _
    | nil | chosen _ _ | dropped _ => exact absurd ho Bool.false_ne_true
  obtain ⟨q, hq⟩ := h.exists_space hne
  exact ⟨q, hq, h.space hq⟩

/-- Behind a boundary the slots can be matched. -/
theorem At.exists_ready (h : At vs p) (hk : Keeps ss vs) :
    ∃ q, Pattern.boundary.Reaches p q ∧ Ready ss vs q := by
  rcases h with h | h
  · exact ⟨p, h.boundary.2 rfl, .inl h⟩
  · cases ho : opens ss with
    | false => exact ⟨p, h.boundary.2 (.inl rfl), .inr ⟨h, ho⟩⟩
    | true =>
      obtain ⟨q, hq, hstart⟩ := h.exists_space_of_opens hk ho
      exact ⟨q, h.boundary.2 (.inr hq), .inl hstart⟩

theorem Ready.at (h : Ready ss vs p) : At vs p := h.imp_right And.left

/-- **A message that slots keep is matched by their expressions.** -/
theorem finishes_of_keeps (hk : Keeps ss vs) : (∀ x ∈ ss, x.Proper) → ∀ {p : Place},
    Ready ss vs p → Finishes (slotRegexes ss) p := by
  induction hk with
  | nil =>
    intro _ p h
    rcases h with h | ⟨h, -⟩
    · exact absurd rfl h.ne_nil
    · exact h.rest
  | @word w ss vs hk ih =>
    intro hx p h
    have hss : ∀ x ∈ ss, x.Proper := (List.forall_mem_cons.1 hx).2
    rcases h with h | ⟨-, ho⟩
    · obtain ⟨q, hq, hend⟩ : ∃ q, p.Reads (sentence [w]) q ∧ AtEnd vs q :=
        AtStart.exists_read h (List.cons_ne_nil w [])
      refine finishes_word.2 ⟨q, hq, finishes_gap.2 ?_⟩
      split
      · rename_i ho
        obtain ⟨k, hk, hstart⟩ := hend.exists_space_of_opens hk ho
        exact ⟨k, hk, ih hss (.inl hstart)⟩
      · rename_i ho
        exact ih hss (.inr ⟨hend, by simpa using ho⟩)
    · cases ho
  | @chosen alternatives us ss vs hus hk ih =>
    intro hx p h
    have hss : ∀ x ∈ ss, x.Proper := (List.forall_mem_cons.1 hx).2
    have hne : us ≠ [] := ne_of_mem_of_not_mem hus (hx _ List.mem_cons_self).2
    obtain ⟨m, hm, hstart⟩ : ∃ m, Pattern.boundary.Reaches p m ∧ AtStart (us ++ vs) m := by
      rcases h with h | ⟨h, -⟩
      · exact ⟨p, h.boundary.2 rfl, h⟩
      · obtain ⟨m, hm⟩ := h.exists_space (List.append_ne_nil_of_left_ne_nil hne vs)
        exact ⟨m, h.boundary.2 (.inr hm), h.space hm⟩
    obtain ⟨k, hk', hend⟩ := hstart.exists_read hne
    obtain ⟨q, hq, hready⟩ := At.exists_ready (.inr hend) hk
    exact finishes_optional.2 ⟨q, .inr ⟨us, hus, m, k, hm, hk', hq⟩, ih hss hready⟩
  | @dropped alternatives ss vs hk ih =>
    intro hx p h
    have hss : ∀ x ∈ ss, x.Proper := (List.forall_mem_cons.1 hx).2
    obtain ⟨q, hq, hready⟩ := h.at.exists_ready hk
    exact finishes_optional.2 ⟨q, .inl hq, ih hss hready⟩

/-! ## Patterns of slots -/

/-- A pattern of words and optionals, with one word at least and not too many optionals. -/
structure Slotted (ss : List Slot) : Prop where
  proper : ∀ x ∈ ss, x.Proper
  worded : ∃ w, .word w ∈ ss
  few : optionals ss ≤ optionalLimit

/-- Every word of the slots is kept. -/
theorem Keeps.mem (h : Keeps ss vs) (hw : .word w ∈ ss) : w ∈ vs := by
  induction h with
  | nil => cases hw
  | word _ ih =>
    rcases List.mem_cons.1 hw with hw | hw
    · cases hw
      exact List.mem_cons_self
    · exact List.mem_cons_of_mem _ (ih hw)
  | @chosen _ us _ _ _ _ ih =>
    exact List.mem_append_right us (ih ((List.mem_cons.1 hw).resolve_left (by simp)))
  | dropped _ ih => exact ih ((List.mem_cons.1 hw).resolve_left (by simp))

/-- No word is read at the end of the text. -/
theorem not_finishes_nil : ∀ {ss : List Slot} {p : Place}, .word w ∈ ss → p.rest = [] →
    ¬Finishes (slotRegexes ss) p
  | .word v :: ss, p, _, hp, hf => by
    obtain ⟨q, hq, -⟩ := finishes_word.1 hf
    have hrest := hq.rest
    rw [hp] at hrest
    exact v.ne_nil (List.append_eq_nil_iff.1 hrest.symm).1
  | .optional alternatives :: ss, p, hw, hp, hf => by
    obtain ⟨q, hq, hf⟩ := hf
    obtain ⟨t, ht⟩ := hq.follows
    have hrest := ht.rest
    rw [hp] at hrest
    exact not_finishes_nil ((List.mem_cons.1 hw).resolve_left (by simp))
      (List.append_eq_nil_iff.1 hrest.symm).2 hf

theorem Slotted.finishes_iff (h : Slotted ss) (ws : List Word) :
    Finishes (slotRegexes ss) (.begin (sentence ws)) ↔ Keeps ss ws := by
  obtain ⟨w, hw⟩ := h.worded
  cases ws with
  | nil =>
    constructor
    · exact fun hf => absurd hf (not_finishes_nil hw rfl)
    · exact fun hk => absurd (hk.mem hw) List.not_mem_nil
  | cons v ws =>
    have hstart : AtStart (v :: ws) (.begin (sentence (v :: ws))) :=
      ⟨rfl, List.cons_ne_nil v ws, rfl⟩
    exact ⟨keeps_of_finishes h.proper (.inl hstart), fun hk =>
      finishes_of_keeps hk h.proper (.inl hstart)⟩

/-- A pattern begins with its first slot. -/
theorem exists_slotted (x : Slot) (ss : List Slot) : ∃ u, slotted (x :: ss) = x.text ++ u := by
  cases ss with
  | nil => exact ⟨[], (List.append_nil _).symm⟩
  | cons y ss => exact ⟨_, slotted_cons x (List.cons_ne_nil y ss)⟩

/-- An optional gives a pattern structure. -/
theorem any_isSpecial_optional (alternatives : List (List Word)) (ss : List Slot) :
    (slotted (.optional alternatives :: ss)).any isSpecial := by
  obtain ⟨u, hu⟩ := exists_slotted (.optional alternatives) ss
  rw [hu]
  rfl

/-- Without optionals the expressions are those of the characters. -/
theorem slotRegexes_eq : ∀ {ss : List Slot}, (slotted ss).any isSpecial = false →
    slotRegexes ss = (slotted ss).map Regex.char
  | [], _ => rfl
  | [.word w], _ => by
    have hpieces : slotPieces [.word w] = w.text.map .char := by simp [slotPieces, gap]
    rw [slotRegexes, hpieces, List.map_map]
    rfl
  | .word w :: .word v :: ss, h => by
    rw [slotted_cons _ (List.cons_ne_nil _ ss), List.any_append, Bool.or_eq_false_iff,
      List.any_cons, Bool.or_eq_false_iff] at h
    have ih := slotRegexes_eq h.2.2
    rw [slotted_cons _ (List.cons_ne_nil _ ss), List.map_append, List.map_cons, ← ih, slotRegexes,
      slotPieces, List.map_append, List.map_append, List.map_map, List.append_assoc]
    rfl
  | .word w :: .optional alternatives :: ss, h => by
    rw [slotted_cons _ (List.cons_ne_nil _ ss), List.any_append, Bool.or_eq_false_iff,
      List.any_cons, Bool.or_eq_false_iff, any_isSpecial_optional] at h
    exact absurd h.2.2 (by simp)
  | .optional alternatives :: ss, h => by
    rw [any_isSpecial_optional] at h
    exact absurd h (by simp)

theorem slotted_ne_any (ss : List Slot) : slotted ss ≠ ['*'] := by
  intro he
  cases ss with
  | nil => cases he
  | cons x ss =>
    obtain ⟨u, hu⟩ := exists_slotted x ss
    rw [hu] at he
    cases x with
    | word w =>
      obtain ⟨c, cs, hc, hp⟩ := exists_text w
      rw [Slot.text, hc] at he
      obtain ⟨rfl, -⟩ := List.cons.inj he
      exact absurd hp (by decide)
    | optional alternatives =>
      obtain ⟨he, -⟩ := List.cons.inj he
      exact absurd he (by decide)

/-- **A pattern of words and optionals that the engine takes matches the messages that keep its
words**, with one of the alternatives or nothing in place of each optional, and captures nothing. -/
theorem stars_of_slots (s : Scope) (h : Slotted ss) (htakes : s.Takes (slotted ss))
    (ws : List Word) :
    ((stars? s (String.ofList (slotted ss)) (sentence ws)).isSome ↔ Keeps ss ws) ∧
      ∀ stars ∈ stars? s (String.ofList (slotted ss)) (sentence ws), stars = [] := by
  have hne : ss ≠ [] := by
    obtain ⟨w, hw⟩ := h.worded
    exact List.ne_nil_of_mem hw
  have htidy : tidy (slotted ss) = slotted ss := (neat_slotted h.proper hne).tidy
  rw [stars?, String.toList_ofList, matcher_of_takes htakes, htidy, expression,
    if_neg (slotted_ne_any ss), parse_slotted h.proper, compile_slotItems h.few,
    ← h.finishes_iff ws]
  cases hs : (slotted ss).any isSpecial with
  | false =>
    have hexact : Finishes (slotRegexes ss) (.begin (sentence ws)) ↔ slotted ss = sentence ws := by
      have hchars := finishes_chars (t := slotted ss) (p := .begin (sentence ws)) []
      rw [List.append_nil] at hchars
      rw [slotRegexes_eq hs, hchars]
      constructor
      · rintro ⟨q, hq, hrest⟩
        exact (Place.reads_begin.1 ⟨hq, hrest⟩).1.symm
      · intro he
        obtain ⟨hq, hrest⟩ := Place.reads_begin.2 ⟨he.symm, rfl⟩
        exact ⟨_, hq, hrest⟩
    simp only [Bool.not_false, if_true, Matcher.stars?, hexact]
    by_cases he : slotted ss = sentence ws <;> simp [he]
  | true =>
    have hbare : (concat (slotRegexes ss)).Bare := bare_concat bare_slotPieces
    simp only [Bool.not_true, Bool.false_eq_true, if_false, Except.map, Matcher.stars?,
      Option.isSome_map]
    constructor
    · exact (fullMatch?_isSome hbare.plain _).trans finishes_concat
    · intro stars hstars
      obtain ⟨captures, hcaptures, rfl⟩ := Option.map_eq_some_iff.1 hstars
      have hlength := length_of_fullMatch? hbare.plain hcaptures
      rw [hbare.groups, List.length_eq_zero_iff] at hlength
      rw [hlength]
      rfl

/-- The slots of `your [home|cell phone] number`. -/
def phone : List Slot :=
  [.word (.of "your" (by decide)),
    .optional [[.of "home" (by decide)], [.of "cell" (by decide), .of "phone" (by decide)]],
    .word (.of "number" (by decide))]

/-- An optional is replaced by one of its alternatives, or by nothing. -/
theorem phone_matches : Slotted phone ∧ Scope.blank.Takes (slotted phone) ∧
    (stars? .blank "your [home|cell phone] number" "your cell phone number".toList).isSome ∧
      (stars? .blank "your [home|cell phone] number" "your number".toList).isSome := by
  have hslotted : Slotted phone := by
    refine ⟨?_, ⟨.of "your" (by decide), List.mem_cons_self⟩, by decide⟩
    simp [phone, Slot.Proper]
  have htakes : Scope.blank.Takes (slotted phone) :=
    Scope.takes_of_forall Engine.unlimited_takes
  have hpattern : String.ofList (slotted phone) = "your [home|cell phone] number" := by
    decide +kernel
  have hmatch {ws : List Word} {m : Text} (hm : sentence ws = m) (hk : Keeps phone ws) :
      (stars? .blank "your [home|cell phone] number" m).isSome := by
    rw [← hpattern, ← hm]
    exact (stars_of_slots .blank hslotted htakes ws).1.2 hk
  refine ⟨hslotted, htakes, ?_, ?_⟩
  · exact hmatch (by decide +kernel)
      (.word (.chosen (List.mem_cons_of_mem _ List.mem_cons_self) (.word .nil)))
  · exact hmatch (by decide +kernel) (.word (.dropped (.word .nil)))

end Pattern

end Repartee

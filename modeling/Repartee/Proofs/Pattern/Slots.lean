import Repartee.Proofs.Pattern.Matching

/-!
# Words and optionals

* `Pattern.Word`, `Pattern.sentence`: words, and words with one space between them.
* `Pattern.Slot`, `Pattern.slotted`: a word or an optional, and a pattern of them.
* `Pattern.Neat`: a text that is read as it is written, without blanks at its ends.
* **`Pattern.parse_slotted`**: the parts of such a pattern.
* **`Pattern.compile_slotted`**: its pieces; no space is left beside an optional.
-/

namespace Repartee

namespace Pattern

/-! ## Words -/

/-- A small letter or a digit. -/
def isPlain (c : Char) : Bool := "abcdefghijklmnopqrstuvwxyz0123456789".toList.contains c

/-- A word of small letters and digits. -/
@[ext] structure Word where
  text : Text
  ne_nil : text ≠ []
  plain : ∀ c ∈ text, isPlain c

/-- A word by its text. -/
def Word.of (text : String) (h : text.toList ≠ [] ∧ text.toList.all isPlain) : Word :=
  ⟨text.toList, h.1, List.all_eq_true.1 h.2⟩

/-- Words with one space between them. -/
def sentence (ws : List Word) : Text := Text.join [' '] (ws.map Word.text)

/-- A word, or an optional of alternatives. -/
inductive Slot where
  | word (w : Word)
  | optional (alternatives : List (List Word))

/-- The text of a slot. -/
def Slot.text : Slot → Text
  | .word w => w.text
  | .optional alternatives => '[' :: (Text.join ['|'] (alternatives.map sentence) ++ [']'])

/-- There are alternatives, and none without words. -/
def Slot.Proper : Slot → Prop
  | .word _ => True
  | .optional alternatives => alternatives ≠ [] ∧ [] ∉ alternatives

/-- Slots with one space between them. -/
def slotted (ss : List Slot) : Text := Text.join [' '] (ss.map Slot.text)

variable {s : Scope} {c : Char} {t : Text} {ts : List Text} {w : Word} {us ws : List Word}
  {ss : List Slot}

theorem plain_char (h : isPlain c) : isBlank c = false ∧ isWordChar c ∧ isLiteral c := by
  have hall : ∀ d ∈ "abcdefghijklmnopqrstuvwxyz0123456789".toList,
      isBlank d = false ∧ isWordChar d ∧ isLiteral d :=
    List.all_iff_forall_prop.1 (by decide +kernel)
  exact hall c (by simpa [isPlain] using h)

/-! ## Neat texts -/

/-- A text that is read as it is written, without blanks at its ends. -/
structure Neat (t : Text) : Prop where
  legible : Legible 0 t
  ne_nil : t ≠ []
  first : ∀ c ∈ t.head?, isBlank c = false
  last : ∀ c ∈ t.getLast?, isBlank c = false

namespace Neat

/-- Neat texts with one space between them. -/
theorem join : ∀ {ts : List Text}, (∀ t ∈ ts, Neat t) → ts ≠ [] → Neat (Text.join [' '] ts)
  | [t], h, _ => h t List.mem_cons_self
  | t :: u :: ts, h, _ => by
    have ht := h t List.mem_cons_self
    have hu := join (fun v hv => h v (List.mem_cons_of_mem t hv)) (List.cons_ne_nil u ts)
    have hspace : Legible 0 [' '] := .char (fun _ => rfl) (by decide)
    have hfirst : t.getLast? ≠ some ' ' := fun hc => absurd (ht.last ' ' hc) (by decide)
    have hlast : (Text.join [' '] (u :: ts)).head? ≠ some ' ' :=
      fun hc => absurd (hu.first ' ' hc) (by decide)
    rw [Text.join, List.append_assoc]
    refine ⟨ht.legible.append (hspace.append hu.legible fun h => hlast h.2) fun h => hfirst h.1,
      List.append_ne_nil_of_left_ne_nil ht.ne_nil _, ?_, ?_⟩
    · rw [List.head?_append_of_ne_nil _ ht.ne_nil]
      exact ht.first
    · rw [List.getLast?_append_of_ne_nil _ (by simp), List.getLast?_append_of_ne_nil _ hu.ne_nil]
      exact hu.last

theorem trim (h : Neat t) : t.trim = t := Text.trim_eq_self h.first h.last

theorem tidy (h : Neat t) : Pattern.tidy t = t :=
  h.legible.tidy (fun hc => absurd (h.first ' ' hc) (by decide))
    fun hc => absurd (h.last ' ' hc) (by decide)

theorem word (w : Word) : Neat w.text where
  legible := .of_solid fun c hc => isSolid_of_isLiteral (plain_char (w.plain c hc)).2.2
  ne_nil := w.ne_nil
  first c hc := (plain_char (w.plain c (List.mem_of_mem_head? hc))).1
  last c hc := (plain_char (w.plain c (List.mem_of_mem_getLast? hc))).1

theorem sentence (h : ws ≠ []) : Neat (sentence ws) := by
  refine join (fun t ht => ?_) (by simpa using h)
  obtain ⟨w, -, rfl⟩ := List.mem_map.1 ht
  exact word w

/-- Neat texts with pipes between them are to stand in a bracket. -/
theorem join_bar : ∀ {ts : List Text}, (∀ t ∈ ts, Neat t) → ts ≠ [] →
    Legible 1 (Text.join ['|'] ts)
  | [t], h, _ => (h t List.mem_cons_self).legible.mono (by decide)
  | t :: u :: ts, h, _ => by
    have ht := h t List.mem_cons_self
    have hrest : ∀ v ∈ u :: ts, Neat v := fun v hv => h v (List.mem_cons_of_mem t hv)
    rw [Text.join, List.append_assoc]
    exact (ht.legible.mono (by decide)).bar (join_bar hrest (List.cons_ne_nil u ts)) ht.ne_nil
      (join_ne_nil (fun v hv => (hrest v hv).ne_nil) (List.cons_ne_nil u ts))

theorem slot : ∀ {x : Slot}, x.Proper → Neat x.text
  | .word w, _ => word w
  | .optional alternatives, ⟨hne, hno⟩ => by
    have hneat : ∀ t ∈ alternatives.map Pattern.sentence, Neat t := by
      intro t ht
      obtain ⟨us, hus, rfl⟩ := List.mem_map.1 ht
      exact sentence (ne_of_mem_of_not_mem hus hno)
    have hne' : alternatives.map Pattern.sentence ≠ [] := by simpa using hne
    refine ⟨.brackets .square (join_bar hneat hne') (join_ne_nil (fun t ht => (hneat t ht).ne_nil)
      hne'), List.cons_ne_nil _ _, ?_, fun c hc => ?_⟩
    · rintro c ⟨rfl⟩
      decide
    · rw [Slot.text, ← List.cons_append, List.getLast?_concat] at hc
      cases hc
      decide

end Neat

theorem neat_slotted (h : ∀ x ∈ ss, x.Proper) (hne : ss ≠ []) : Neat (slotted ss) := by
  refine .join (fun t ht => ?_) (by simpa using hne)
  obtain ⟨x, hx, rfl⟩ := List.mem_map.1 ht
  exact .slot (h x hx)

/-! ## Reading -/

/-- The parts of slots. -/
def slotItems : List Slot → List Item
  | [] => []
  | .word w :: ss =>
    w.text.map .char ++ (if ss.isEmpty then [] else [.char ' ']) ++ slotItems ss
  | .optional alternatives :: ss =>
    .optional (alternatives.map fun us => (sentence us).map .char) :: slotItems ss

theorem parseUpTo_nil (n : Nat) : parseUpTo n [] = [] := by
  cases n <;> rfl

/-- Literal characters and spaces are read one by one. -/
theorem parseUpTo_chars (n : Nat) (u : Text) : ∀ {t : Text}, (∀ c ∈ t, c = ' ' ∨ isLiteral c) →
    parseUpTo (t.length + n) (t ++ u) = t.map .char ++ parseUpTo n u
  | [], _ => by rw [List.length_nil, Nat.zero_add]; rfl
  | c :: t, h => by
    rw [List.forall_mem_cons] at h
    rw [List.length_cons, Nat.succ_add, List.cons_append, parseUpTo_char h.1,
      parseUpTo_chars n u h.2]
    rfl

theorem mem_sentence (h : c ∈ sentence ws) : c = ' ' ∨ isPlain c := by
  rcases Text.mem_join h with h | ⟨t, ht, hc⟩
  · exact .inl (List.mem_singleton.1 h)
  · obtain ⟨w, -, rfl⟩ := List.mem_map.1 ht
    exact .inr (w.plain c hc)

theorem literal_sentence : ∀ c ∈ sentence ws, c = ' ' ∨ isLiteral c :=
  fun _ hc => (mem_sentence hc).imp_right fun h => (plain_char h).2.2

theorem parseUpTo_sentence {n : Nat} (h : (sentence ws).length ≤ n) :
    parseUpTo n (sentence ws) = (sentence ws).map .char := by
  obtain ⟨k, rfl⟩ := Nat.exists_eq_add_of_le h
  have hparse := parseUpTo_chars k [] (t := sentence ws) literal_sentence
  rwa [parseUpTo_nil, List.append_nil, List.append_nil] at hparse

/-- An optional of words, and what stands behind it. -/
theorem parseUpTo_optional {alternatives : List (List Word)}
    (h : (Slot.optional alternatives).Proper) {n : Nat}
    (hn : (Text.join ['|'] (alternatives.map sentence)).length ≤ n) (u : Text) :
    parseUpTo (n + 1) ((Slot.optional alternatives).text ++ u) =
      .optional (alternatives.map fun us => (sentence us).map .char) ::
        parseUpTo n (Text.trimLeft u) := by
  obtain ⟨hne, hno⟩ := h
  have hneat : ∀ us ∈ alternatives, Neat (sentence us) := fun us hus =>
    .sentence (ne_of_mem_of_not_mem hus hno)
  have hclose : ']' ∉ Text.join ['|'] (alternatives.map sentence) := by
    intro hc
    rcases Text.mem_join hc with hc | ⟨t, ht, hc⟩
    · exact absurd hc (by decide)
    · obtain ⟨us, -, rfl⟩ := List.mem_map.1 ht
      exact absurd (literal_sentence _ hc) (by decide)
  have halternatives : Pattern.alternatives (Text.join ['|'] (alternatives.map sentence)) =
      alternatives.map sentence := by
    have hmem {t : Text} (ht : t ∈ alternatives.map sentence) : Neat t := by
      obtain ⟨us, hus, rfl⟩ := List.mem_map.1 ht
      exact hneat us hus
    rw [alternatives_join (fun t ht => (hmem ht).legible) (by simpa using hne)
      (fun t ht => by rw [(hmem ht).trim]; exact (hmem ht).ne_nil)]
    exact (List.map_congr_left fun t ht => (hmem ht).trim).trans (List.map_id _)
  rw [Slot.text, List.cons_append, List.append_assoc, List.singleton_append, parseUpTo,
    Text.cut?_append hclose]
  simp only [halternatives, List.map_map]
  congr 2
  refine List.map_congr_left fun us hus => parseUpTo_sentence ?_
  exact Nat.le_trans (length_le_join (List.mem_map_of_mem hus)) hn

theorem slotted_cons (x : Slot) {ss : List Slot} (h : ss ≠ []) :
    slotted (x :: ss) = x.text ++ ' ' :: slotted ss := by
  rw [slotted, List.map_cons, Text.join_cons _ _ (by simpa using h), List.append_assoc]
  rfl

/-- **The parts of slots are those of their words and optionals.** -/
theorem parseUpTo_slotted : ∀ {ss : List Slot} {n : Nat}, (∀ x ∈ ss, x.Proper) →
    (slotted ss).length ≤ n → parseUpTo n (slotted ss) = slotItems ss
  | [], n, _, _ => parseUpTo_nil n
  | .word w :: ss, n, h, hn => by
    have hw : ∀ c ∈ w.text, c = ' ' ∨ isLiteral c := fun c hc =>
      .inr (plain_char (w.plain c hc)).2.2
    cases ss with
    | nil =>
      obtain ⟨k, rfl⟩ := Nat.exists_eq_add_of_le (show w.text.length ≤ n from hn)
      have hparse := parseUpTo_chars k [] hw
      rw [parseUpTo_nil, List.append_nil] at hparse
      rw [show slotted [.word w] = w.text from rfl, hparse]
      simp [slotItems]
    | cons x ss =>
      have hx : ∀ y ∈ x :: ss, y.Proper := fun y hy => h y (List.mem_cons_of_mem _ hy)
      have hword : ∀ c ∈ w.text ++ [' '], c = ' ' ∨ isLiteral c := fun c hc =>
        (List.mem_append.1 hc).elim (hw c) fun hc => .inl (List.mem_singleton.1 hc)
      have htext : slotted (.word w :: x :: ss) = w.text ++ [' '] ++ slotted (x :: ss) := by
        rw [slotted_cons _ (List.cons_ne_nil x ss), Slot.text, List.append_assoc]
        rfl
      rw [htext, List.length_append] at hn
      obtain ⟨k, rfl⟩ := Nat.exists_eq_add_of_le (Nat.le_of_add_right_le hn)
      rw [htext, parseUpTo_chars k _ hword, parseUpTo_slotted hx (Nat.le_of_add_le_add_left hn)]
      simp [slotItems]
  | .optional alternatives :: ss, n, h, hn => by
    have hx := h _ List.mem_cons_self
    have hss : ∀ y ∈ ss, y.Proper := fun y hy => h y (List.mem_cons_of_mem _ hy)
    obtain ⟨u, htext, htrim⟩ : ∃ u, slotted (.optional alternatives :: ss) =
        (Slot.optional alternatives).text ++ u ∧ Text.trimLeft u = slotted ss := by
      cases ss with
      | nil => exact ⟨[], (List.append_nil _).symm, rfl⟩
      | cons x ss =>
        refine ⟨' ' :: slotted (x :: ss), slotted_cons _ (List.cons_ne_nil x ss), ?_⟩
        exact Text.trimLeft_append (u := [' ']) (List.forall_mem_singleton.2 rfl)
          (neat_slotted hss (List.cons_ne_nil x ss)).first
    have hu : (slotted ss).length ≤ u.length :=
      htrim ▸ (List.dropWhile_sublist isBlank).length_le
    have hlen : (Slot.optional alternatives).text.length =
        (Text.join ['|'] (alternatives.map sentence)).length + 2 := by
      rw [Slot.text, List.length_cons, List.length_append, List.length_singleton]
    rw [htext, List.length_append] at hn
    obtain ⟨k, rfl⟩ := Nat.exists_eq_add_of_le' (show 1 ≤ n by omega)
    rw [htext, parseUpTo_optional hx (by omega), htrim, parseUpTo_slotted hss (by omega)]
    rfl

theorem parse_slotted (h : ∀ x ∈ ss, x.Proper) : parse (slotted ss) = slotItems ss :=
  parseUpTo_slotted h (Nat.le_refl _)

/-! ## Compiling -/

/-- The optionals among slots. -/
def optionals (ss : List Slot) : Nat := ss.countP fun x => x matches .optional _

/-- The space between two words. -/
def gap : List Slot → List Piece
  | .word _ :: _ => [.char ' ']
  | _ => []

/-- The pieces, in reverse, of alternatives of words. -/
def phrasePieces (alternatives : List (List Word)) : List (List Piece) :=
  alternatives.map fun us => ((sentence us).map Piece.char).reverse

/-- The pieces of slots. -/
def slotPieces : List Slot → List Piece
  | [] => []
  | .word w :: ss => w.text.map .char ++ gap ss ++ slotPieces ss
  | .optional alternatives :: ss =>
    optional (phrasePieces alternatives) :: slotPieces ss

/-- What is left of the pieces in front of slots. -/
def lead : List Slot → List Piece → List Piece
  | .optional _ :: _, out => dropSpaces out
  | _, out => out

theorem compileItems_append (captured : Bool) : ∀ (is js : List Item) (out : List Piece),
    compileItems s captured out (is ++ js) =
      compileItems s captured out is >>= fun out => compileItems s captured out js
  | [], js, out => by rw [List.nil_append, compileItems, pure_bind]
  | i :: is, js, out => by
    rw [List.cons_append, compileItems, compileItems, bind_assoc]
    exact congrArg _ (funext fun out => compileItems_append captured is js out)

theorem compileItems_chars (captured : Bool) : ∀ (t : Text) (out : List Piece),
    compileItems s captured out (t.map .char) = pure ((t.map Piece.char).reverse ++ out)
  | [], out => by rw [List.map_nil, compileItems]; rfl
  | c :: t, out => by
    rw [List.map_cons, compileItems, compileItem, pure_bind, compileItems_chars captured t]
    simp

theorem run_compileEach_phrases (captured : Bool) (n : Nat) : ∀ alternatives : List (List Word),
    (compileEach s captured (alternatives.map fun us => (sentence us).map .char)).run n =
      (.ok (phrasePieces alternatives, none), n)
  | [] => rfl
  | us :: alternatives => by
    have hfirst : (compileItems s captured [] ((sentence us).map .char)).run n =
        (.ok ((sentence us).map Piece.char).reverse, n) := by
      rw [compileItems_chars, List.append_nil]
      rfl
    rw [List.map_cons, compileEach, Compile.run_bind_ok (Compile.run_orMissing_ok hfirst),
      Compile.run_bind_ok (run_compileEach_phrases captured n alternatives)]
    rfl

theorem run_optional (captured : Bool) (out : List Piece) {n : Nat} (h : n < optionalLimit)
    (alternatives : List (List Word)) :
    (compileItem s captured out
        (.optional (alternatives.map fun us => (sentence us).map .char))).run n =
      (.ok (optional (phrasePieces alternatives) :: dropSpaces out), n + 1) := by
  have hcount : countOptional.run n = (.ok (), n + 1) := by
    rw [run_countOptional, if_neg (Nat.not_lt.2 h)]
  have hsurvivors : (compileEach s false (alternatives.map fun us => (sentence us).map .char) >>=
      survivors).run (n + 1) = (.ok (phrasePieces alternatives), n + 1) := by
    rw [Compile.run_bind_ok (run_compileEach_phrases false (n + 1) alternatives)]
    cases alternatives <;> rfl
  rw [compileItem, Compile.run_bind_ok hcount,
    Compile.run_bind_ok (Compile.run_orMissing_ok hsurvivors)]
  rfl

/-- No space is dropped behind a word. -/
theorem dropSpaces_word (w : Word) (out : List Piece) :
    dropSpaces ((w.text.map Piece.char).reverse ++ out) =
      (w.text.map Piece.char).reverse ++ out := by
  obtain ⟨init, c, hc⟩ := (List.eq_nil_or_concat' w.text).resolve_left w.ne_nil
  have hplain : c ≠ ' ' := by
    rintro rfl
    exact absurd (w.plain ' ' (by simp [hc])) (by decide)
  rw [hc, List.map_append, List.reverse_append]
  change dropSpaces (.char c :: _) = .char c :: _
  unfold dropSpaces
  split
  · rename_i he
    obtain ⟨he, -⟩ := List.cons.inj he
    exact absurd (Piece.char.inj he) hplain
  · rfl

theorem run_slotItems : ∀ (ss : List Slot) (out : List Piece) (n : Nat),
    n + optionals ss ≤ optionalLimit → (compileItems s true out (slotItems ss)).run n =
      (.ok ((slotPieces ss).reverse ++ lead ss out), n + optionals ss)
  | [], _, _, _ => rfl
  | .word w :: ss, out, n, h => by
    have hcount : optionals (.word w :: ss) = optionals ss := List.countP_cons_of_neg (by simp)
    rw [hcount] at h ⊢
    cases ss with
    | nil =>
      have hitems : slotItems [.word w] = w.text.map .char := by simp [slotItems]
      rw [hitems, compileItems_chars]
      simp [slotPieces, gap, lead, optionals]
      rfl
    | cons x ss =>
      have hitems : slotItems (.word w :: x :: ss) =
          (w.text ++ [' ']).map .char ++ slotItems (x :: ss) := by simp [slotItems]
      rw [hitems, compileItems_append, compileItems_chars, pure_bind, run_slotItems _ _ _ h]
      cases x with
      | word v => simp [slotPieces, gap, lead]
      | optional alternatives =>
        have hlead := dropSpaces_word w out
        simp [slotPieces, gap, lead, dropSpaces, hlead]
  | .optional alternatives :: ss, out, n, h => by
    have hcount : optionals (.optional alternatives :: ss) = optionals ss + 1 :=
      List.countP_cons_of_pos rfl
    have hlead : lead ss (optional (phrasePieces alternatives) :: dropSpaces out) =
        optional (phrasePieces alternatives) :: dropSpaces out := by
      cases ss with
      | nil => rfl
      | cons x ss => cases x <;> rfl
    rw [hcount] at h ⊢
    rw [slotItems, compileItems, Compile.run_bind_ok (run_optional true out (by omega) _),
      run_slotItems ss _ _ (by omega), hlead, slotPieces, List.reverse_cons, List.append_assoc,
      Nat.add_assoc, Nat.add_comm 1]
    rfl

theorem beside_le {k : Nat} : ∀ {ns : List Nat}, (∀ n ∈ ns, n ≤ k) → beside ns ≤ k + 1
  | [], _ => Nat.zero_le _
  | [n], h => Nat.le_succ_of_le (h n List.mem_cons_self)
  | _ :: _ :: _, h => Nat.succ_le_succ (deepest_le.2 h)

/-- An optional of words: a bracket around alternatives side by side, each of them side by side with
its boundaries. -/
theorem nesting_optional (alternatives : List (List Word)) :
    (optional (phrasePieces alternatives)).nesting ≤ 6 := by
  refine Nat.succ_le_succ (beside_le fun n hn => ?_)
  rcases List.mem_append.1 hn with hn | hn
  · obtain ⟨out, hout, rfl⟩ := List.mem_map.1 hn
    obtain ⟨us, -, rfl⟩ := List.mem_map.1 hout
    refine beside_le fun k hk => ?_
    simp only [List.mem_append, List.mem_cons, List.map_reverse, List.map_map, List.mem_reverse,
      List.mem_map, Function.comp_apply, List.not_mem_nil, or_false] at hk
    rcases hk with (rfl | ⟨c, -, rfl⟩) | rfl
    · exact Nat.le_refl 3
    · exact Nat.zero_le 3
    · exact Nat.le_refl 3
  · rw [List.mem_singleton.1 hn]
    decide

theorem nesting_slotPieces : ∀ {ss : List Slot}, ∀ p ∈ slotPieces ss, p.nesting ≤ 6
  | .word w :: ss, p, hp => by
    rcases List.mem_append.1 hp with hp | hp
    · have hchar : ∃ c, p = .char c := by
        rcases List.mem_append.1 hp with hp | hp
        · obtain ⟨c, -, rfl⟩ := List.mem_map.1 hp
          exact ⟨c, rfl⟩
        · unfold gap at hp
          split at hp
          · exact ⟨' ', List.mem_singleton.1 hp⟩
          · cases hp
      obtain ⟨c, rfl⟩ := hchar
      exact Nat.zero_le 6
    · exact nesting_slotPieces p hp
  | .optional alternatives :: ss, p, hp => by
    rcases List.mem_cons.1 hp with rfl | hp
    · exact nesting_optional alternatives
    · exact nesting_slotPieces p hp

/-- **The pieces of slots**, without spaces beside their optionals. -/
theorem compile_slotItems (h : optionals ss ≤ optionalLimit) :
    compile s (slotItems ss) = .ok (Regex.concat ((slotPieces ss).map Piece.regex)) := by
  have hlead : lead ss [] = [] := by
    cases ss with
    | nil => rfl
    | cons x ss => cases x <;> rfl
  have hnesting : deepest ((slotPieces ss).reverse.map Piece.nesting) ≤ 6 := by
    refine deepest_le.2 fun n hn => ?_
    obtain ⟨p, hp, rfl⟩ := List.mem_map.1 hn
    exact nesting_slotPieces p (List.mem_reverse.1 hp)
  have hlimit : ¬nestingLimit ≤ deepest ((slotPieces ss).reverse.map Piece.nesting) :=
    Nat.not_le.2 (Nat.lt_of_le_of_lt hnesting (by decide))
  rw [compile, run_slotItems ss [] 0 (by rwa [Nat.zero_add]), hlead, List.append_nil]
  change assemble (slotPieces ss).reverse = _
  rw [assemble, if_neg hlimit, joinPieces, List.reverse_reverse]

end Pattern

end Repartee

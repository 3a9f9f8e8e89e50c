import Mathlib.Data.Bool.AllAny
import Mathlib.Data.List.DropRight
import Repartee.Proofs.Pattern.Legible

/-!
# Patterns as they are written

* `Pattern.written`: the text of parts in a row.
* `Pattern.allWritable`: parts without optionals that can be told from their text.
* `Pattern.trimItems`: the parts with every alternative trimmed.
* **`Pattern.legible_written`**: the text of writable parts is legible.
* `Pattern.trim_written`: the text of parts is trimmed by dropping the spaces at their ends.
-/

namespace Repartee

/-! ## Writing -/

/-- The sign of a wildcard. -/
def Wildcard.sign : Wildcard → Char
  | .any => '*'
  | .digits => '#'
  | .word => '_'

/-- What stands between the angle brackets of a reference. -/
def Reference.text : Reference → Text
  | .bot name => "bot ".toList ++ name.toList
  | .get name => "get ".toList ++ name.toList
  | .input n => "input".toList ++ [Nat.digitChar n]
  | .reply n => "reply".toList ++ [Nat.digitChar n]

namespace Pattern

mutual

/-- The text of a part. -/
def itemText : Item → Text
  | .char c => [c]
  | .wild w => [w.sign]
  | .array name => '@' :: name.toList
  | .reference r => '<' :: (r.text ++ ['>'])
  | .optional alternatives => '[' :: (Text.join ['|'] (writtenEach alternatives) ++ [']'])
  | .group alternatives => '(' :: (Text.join ['|'] (writtenEach alternatives) ++ [')'])
  | .unclosed bracket => [bracket]

/-- The text of parts in a row. -/
def written : List Item → Text
  | [] => []
  | i :: is => itemText i ++ written is

/-- The texts of alternatives. -/
def writtenEach : List (List Item) → List Text
  | [] => []
  | is :: rest => written is :: writtenEach rest

end

/-- A character that stands for itself in a pattern and is not blank. -/
def isLiteral (c : Char) : Bool :=
  !isBlank c && !"*#_()[]<>@|\x7b\x7d".toList.contains c

/-- The part is a space. -/
def isSpace : Item → Bool
  | .char c => c == ' '
  | _ => false

/-- A reference by a name, or to one of the nine latest messages or replies. -/
def isReference : Reference → Bool
  | .bot name | .get name => name.toList.all isNameChar
  | .input n | .reply n => 1 ≤ n && n ≤ 9

/-- Two parts that can be told apart when one is written behind the other: one space ends another,
and a name goes on as long as it can. -/
def mayPrecede : Item → Item → Bool
  | .char c, .char d => !(c == ' ' && d == ' ')
  | .array _, .char c => !isNameChar c
  | .array _, .wild .word => false
  | _, _ => true

mutual

/-- A part without optionals that can be told from its text. -/
def isWritable : Item → Bool
  | .char c => c == ' ' || isLiteral c
  | .wild _ => true
  | .array name => !name.toList.isEmpty && name.toList.all isNameChar
  | .reference r => isReference r
  | .group alternatives => !alternatives.isEmpty && eachWritable alternatives
  | .optional _ | .unclosed _ => false

/-- All parts can be told from their text. -/
def allWritable : List Item → Bool
  | [] => true
  | i :: is => isWritable i && is.head?.all (mayPrecede i) && allWritable is

/-- All parts of all alternatives can be told from their text, and no alternative is blank. -/
def eachWritable : List (List Item) → Bool
  | [] => true
  | is :: rest => is.any (!isSpace ·) && allWritable is && eachWritable rest

end

theorem allWritable_cons {i : Item} {is : List Item} : allWritable (i :: is) ↔
    isWritable i ∧ is.head?.all (mayPrecede i) ∧ allWritable is := by
  rw [allWritable, Bool.and_eq_true, Bool.and_eq_true, and_assoc]

theorem eachWritable_cons {is : List Item} {rest : List (List Item)} :
    eachWritable (is :: rest) ↔
      is.any (!isSpace ·) ∧ allWritable is ∧ eachWritable rest := by
  rw [eachWritable, Bool.and_eq_true, Bool.and_eq_true, and_assoc]

theorem isWritable_group {alternatives : List (List Item)} :
    isWritable (.group alternatives) ↔ alternatives ≠ [] ∧ eachWritable alternatives := by
  simp [isWritable]

/-! ## Trimming -/

/-- Parts without the spaces at their ends. -/
def dropEnds (is : List Item) : List Item := (is.dropWhile isSpace).rdropWhile isSpace

mutual

/-- A part with every alternative trimmed. -/
def trimItem : Item → Item
  | .group alternatives => .group (trimEach alternatives)
  | i => i

/-- Parts with every alternative trimmed. -/
def trimItems : List Item → List Item
  | [] => []
  | i :: is => trimItem i :: trimItems is

/-- Alternatives trimmed. -/
def trimEach : List (List Item) → List (List Item)
  | [] => []
  | is :: rest => dropEnds (trimItems is) :: trimEach rest

end

/-! ## Legibility -/

theorem isSolid_of_isNameChar {c : Char} (h : isNameChar c) : Legible.isSolid c := by
  rcases Bool.or_eq_true_iff.1 h with h | h
  · have hc : c ∉ ['(', ')', '[', ']', '|', '\x7b'] := by
      intro hc
      have hn : ∀ d ∈ ['(', ')', '[', ']', '|', '\x7b'], isAlphanumeric d = false :=
        List.all_iff_forall_prop.1 (by decide)
      rw [hn c hc] at h
      exact Bool.false_ne_true h
    simp [Legible.isSolid, isBlank_of_isAlphanumeric h, hc]
  · rw [beq_iff_eq.1 h]
    decide

theorem isSolid_of_isLiteral {c : Char} (h : isLiteral c) : Legible.isSolid c := by
  simp only [isLiteral, Bool.and_eq_true, Bool.not_eq_true', List.contains_eq_mem,
    decide_eq_false_iff_not] at h
  have hsub : ∀ d ∈ ['(', ')', '[', ']', '|', '\x7b'], d ∈ "*#_()[]<>@|\x7b\x7d".toList :=
    List.all_iff_forall_prop.1 (by decide)
  have hc : c ∉ ['(', ')', '[', ']', '|', '\x7b'] := fun hc => h.2 (hsub c hc)
  simp [Legible.isSolid, h.1, hc]

theorem solid_sign (w : Wildcard) : Legible.isSolid w.sign := by
  cases w <;> decide

theorem solid_digitChar {n : Nat} (h : n ≤ 9) : Legible.isSolid n.digitChar := by
  have hall : ∀ k < 10, Legible.isSolid (Nat.digitChar k) := by decide
  exact hall n (by omega)

theorem isBlank_of_isSolid {c : Char} (h : Legible.isSolid c) : isBlank c = false := by
  simp only [Legible.isSolid, Bool.and_eq_true, Bool.not_eq_true'] at h
  exact h.1

/-- The text of a reference by name. -/
theorem legible_named (kind : Text) {name : String} (hn : name.toList.all isNameChar)
    (hk : kind.all Legible.isSolid) : Legible 0 (kind ++ ([' '] ++ (name.toList ++ ['>']))) := by
  have hkind : ∀ c ∈ kind, Legible.isSolid c := List.all_eq_true.1 hk
  have hsolid : ∀ c ∈ name.toList ++ ['>'], Legible.isSolid c := by
    intro c hc
    rcases List.mem_append.1 hc with hc | hc
    · exact isSolid_of_isNameChar (List.all_eq_true.1 hn c hc)
    · rw [List.mem_singleton.1 hc]
      decide
  refine (Legible.of_solid hkind).append
    ((Legible.char (fun _ => rfl) (by decide)).append (.of_solid hsolid) ?_) ?_
  · rintro ⟨-, hh⟩
    exact Legible.ne_space_of_isSolid (hsolid _ (List.mem_of_mem_head? hh)) rfl
  · rintro ⟨hl, -⟩
    exact Legible.ne_space_of_isSolid (hkind _ (List.mem_of_mem_getLast? hl)) rfl

/-- The text of a reference by number. -/
theorem legible_numbered (kind : Text) {n : Nat} (hn : n ≤ 9) (hk : kind.all Legible.isSolid) :
    Legible 0 (kind ++ ([n.digitChar] ++ ['>'])) := by
  refine .of_solid fun c hc => ?_
  simp only [List.mem_append, List.mem_singleton] at hc
  rcases hc with hc | rfl | rfl
  · exact List.all_eq_true.1 hk c hc
  · exact solid_digitChar hn
  · decide

/-- The text of a reference begins and ends like a word. -/
theorem legible_reference {r : Reference} (h : isReference r) :
    Legible 0 ('<' :: (r.text ++ ['>'])) := by
  cases r with
  | bot name => exact legible_named "<bot".toList h (by decide)
  | get name => exact legible_named "<get".toList h (by decide)
  | input n =>
    have hn := (Bool.and_eq_true_iff.1 h).2
    exact legible_numbered "<input".toList (of_decide_eq_true hn) (by decide)
  | reply n =>
    have hn := (Bool.and_eq_true_iff.1 h).2
    exact legible_numbered "<reply".toList (of_decide_eq_true hn) (by decide)

/-- Only the text of a space begins or ends with a blank. -/
structure Worded (t : Text) : Prop where
  first : ∀ c ∈ t.head?, isBlank c = false
  last : ∀ c ∈ t.getLast?, isBlank c = false

theorem worded_itemText {i : Item} (h : isWritable i) (hs : isSpace i = false) :
    Worded (itemText i) := by
  have hsolid {t : Text} (ht : ∀ c ∈ t, Legible.isSolid c) : Worded t :=
    ⟨fun c hc => isBlank_of_isSolid (ht c (List.mem_of_mem_head? hc)),
      fun c hc => isBlank_of_isSolid (ht c (List.mem_of_mem_getLast? hc))⟩
  have hends {a b : Char} (ha : isBlank a = false) (hb : isBlank b = false) (t : Text) :
      Worded (a :: (t ++ [b])) := by
    refine ⟨by simpa using ha, fun c hc => ?_⟩
    rw [← List.cons_append, List.getLast?_concat] at hc
    cases hc
    exact hb
  cases i with
  | char c =>
    have hc := (Bool.or_eq_true_iff.1 h).resolve_left (by simpa [isSpace] using hs)
    exact hsolid (by simpa [itemText] using isSolid_of_isLiteral hc)
  | wild w => exact hsolid (by simpa [itemText] using solid_sign w)
  | array name =>
    refine hsolid fun c hc => ?_
    rcases List.mem_cons.1 hc with rfl | hc
    · decide
    · have hall := List.all_eq_true.1 (Bool.and_eq_true_iff.1 h).2
      exact isSolid_of_isNameChar (hall c hc)
  | reference r => exact hends (by decide) (by decide) _
  | group alternatives => exact hends (by decide) (by decide) _
  | optional | unclosed => exact absurd h Bool.false_ne_true

theorem itemText_ne_nil (i : Item) : itemText i ≠ [] := by
  cases i <;> simp [itemText]

/-- The parts of a group are joined to a text that is not empty. -/
theorem join_ne_nil {ts : List Text} (h : ∀ t ∈ ts, t ≠ []) (h₀ : ts ≠ []) :
    Text.join ['|'] ts ≠ [] := by
  cases ts with
  | nil => exact absurd rfl h₀
  | cons t ts =>
    have ht := h t List.mem_cons_self
    cases ts with
    | nil => exact ht
    | cons u us => simp [Text.join, ht]

theorem eq_space {i : Item} (h : isSpace i) : i = .char ' ' := by
  cases i with
  | char c => rw [beq_iff_eq.1 h]
  | _ => exact absurd h Bool.false_ne_true

theorem written_ne_nil {is : List Item} (h : is ≠ []) : written is ≠ [] := by
  cases is with
  | nil => exact absurd rfl h
  | cons i is => exact List.append_ne_nil_of_left_ne_nil (itemText_ne_nil i) _

theorem head?_written (i : Item) (is : List Item) :
    (written (i :: is)).head? = (itemText i).head? := by
  rw [written, List.head?_append_of_ne_nil _ (itemText_ne_nil i)]

mutual

theorem legible_itemText : ∀ {i : Item}, isWritable i → Legible 0 (itemText i)
  | .char c, h => by
    rcases Bool.or_eq_true_iff.1 h with h | h
    · rw [beq_iff_eq.1 h]
      exact .char (fun _ => rfl) (by decide)
    · exact .of_solid (by simpa [itemText] using isSolid_of_isLiteral h)
  | .wild w, _ => .of_solid (by simpa [itemText] using solid_sign w)
  | .array name, h => by
    refine .of_solid fun c hc => ?_
    rcases List.mem_cons.1 hc with rfl | hc
    · decide
    · have hall := List.all_eq_true.1 (Bool.and_eq_true_iff.1 h).2
      exact isSolid_of_isNameChar (hall c hc)
  | .reference _, h => legible_reference h
  | .group alternatives, h => by
    obtain ⟨hne, hall⟩ := isWritable_group.1 h
    have hne : writtenEach alternatives ≠ [] := by
      cases alternatives with
      | nil => exact absurd rfl hne
      | cons _ _ => simp [writtenEach]
    obtain ⟨hts, hjoin⟩ := legible_writtenEach hall
    exact .brackets .round (hjoin hne) (join_ne_nil (fun t ht => (hts t ht).2) hne)

theorem legible_written : ∀ {is : List Item}, allWritable is → Legible 0 (written is)
  | [], _ => .nil
  | i :: is, h => by
    obtain ⟨hi, hnext, his⟩ := allWritable_cons.1 h
    refine (legible_itemText hi).append (legible_written his) ?_
    rintro ⟨hl, hf⟩
    cases is with
    | nil => exact absurd hf (by simp [written])
    | cons j js =>
      have hj : isWritable j := (allWritable_cons.1 his).1
      have hsi : isSpace i := by
        by_contra hs
        exact absurd ((worded_itemText hi (by simpa using hs)).last _ hl) (by decide)
      have hsj : isSpace j := by
        by_contra hs
        rw [head?_written] at hf
        exact absurd ((worded_itemText hj (by simpa using hs)).first _ hf) (by decide)
      rw [eq_space hsi, eq_space hsj] at hnext
      exact absurd hnext (by simp [mayPrecede])

theorem legible_writtenEach : ∀ {iss : List (List Item)}, eachWritable iss →
    (∀ t ∈ writtenEach iss, Legible 0 t ∧ t ≠ []) ∧
      (writtenEach iss ≠ [] → Legible 1 (Text.join ['|'] (writtenEach iss)))
  | [], _ => ⟨by simp [writtenEach], fun h => absurd rfl h⟩
  | is :: rest, h => by
    obtain ⟨hany, his, hrest⟩ := eachWritable_cons.1 h
    have hl := legible_written his
    have hne : written is ≠ [] := written_ne_nil fun h => by simp [h] at hany
    obtain ⟨hts, hjoin⟩ := legible_writtenEach hrest
    rw [writtenEach]
    refine ⟨fun t ht => ?_, fun _ => ?_⟩
    · rcases List.mem_cons.1 ht with rfl | ht
      · exact ⟨hl, hne⟩
      · exact hts t ht
    · have hl₁ : Legible 1 (written is) := hl.mono (by decide)
      by_cases h₀ : writtenEach rest = []
      · rwa [h₀]
      · rw [Text.join_cons _ _ h₀, List.append_assoc]
        exact hl₁.bar (hjoin h₀) hne (join_ne_nil (fun t ht => (hts t ht).2) h₀)

end

/-! ## Trimmed parts -/

variable {is js : List Item}

theorem written_append : ∀ is js : List Item, written (is ++ js) = written is ++ written js
  | [], _ => rfl
  | i :: is, js => by rw [List.cons_append, written, written, written_append, List.append_assoc]

theorem blank_written : ∀ {is : List Item}, (∀ i ∈ is, isSpace i) → ∀ c ∈ written is, isBlank c
  | [], _, c, hc => absurd hc List.not_mem_nil
  | i :: is, h, c, hc => by
    rw [written, eq_space (h i List.mem_cons_self)] at hc
    rcases List.mem_cons.1 hc with rfl | hc
    · rfl
    · exact blank_written (fun j hj => h j (List.mem_cons_of_mem i hj)) c hc

theorem getLast?_written (is : List Item) (i : Item) :
    (written (is ++ [i])).getLast? = (itemText i).getLast? := by
  rw [written_append, written, written, List.append_nil,
    List.getLast?_append_of_ne_nil _ (itemText_ne_nil i)]

theorem allWritable_append : ∀ {is js : List Item}, allWritable (is ++ js) →
    allWritable is ∧ allWritable js
  | [], _, h => ⟨rfl, h⟩
  | i :: is, js, h => by
    obtain ⟨hi, hnext, h⟩ := allWritable_cons.1 h
    obtain ⟨his, hjs⟩ := allWritable_append h
    have hnext : is.head?.all (mayPrecede i) := by
      cases is with
      | nil => rfl
      | cons _ _ => exact hnext
    exact ⟨allWritable_cons.2 ⟨hi, hnext, his⟩, hjs⟩

/-- The text of parts begins like a word if its first part is no space. -/
theorem first_written (h : allWritable is) (hs : ∀ i ∈ is.head?, isSpace i = false) :
    ∀ c ∈ (written is).head?, isBlank c = false := by
  intro c hc
  cases is with
  | nil => exact absurd hc (by simp [written])
  | cons i is =>
    rw [head?_written] at hc
    exact (worded_itemText (allWritable_cons.1 h).1 (hs i rfl)).first c hc

/-- The text of parts ends like a word if its last part is no space. -/
theorem last_written (h : allWritable is) (hs : ∀ i ∈ is.getLast?, isSpace i = false) :
    ∀ c ∈ (written is).getLast?, isBlank c = false := by
  intro c hc
  cases List.eq_nil_or_concat is with
  | inl hn => exact absurd hc (by simp [hn, written])
  | inr hcat =>
    obtain ⟨js, i, rfl⟩ := hcat
    rw [List.concat_eq_append] at h hs hc
    have hi : isWritable i := (allWritable_cons.1 (allWritable_append h).2).1
    rw [getLast?_written] at hc
    exact (worded_itemText hi (hs i List.getLast?_concat)).last c hc

/-- Parts are spaces around what is left when the ends are dropped. -/
theorem dropEnds_spec (is : List Item) : ∃ u v, is = u ++ dropEnds is ++ v ∧
    (∀ i ∈ u, isSpace i) ∧ ∀ i ∈ v, isSpace i := by
  refine ⟨is.takeWhile isSpace, (is.dropWhile isSpace).rtakeWhile isSpace, ?_,
    fun i hi => List.mem_takeWhile_imp hi, fun i hi => List.mem_rtakeWhile_imp hi⟩
  rw [dropEnds, List.append_assoc, List.rdropWhile_append_rtakeWhile,
    List.takeWhile_append_dropWhile]

theorem allWritable_dropEnds (h : allWritable is) : allWritable (dropEnds is) := by
  obtain ⟨u, v, he, -, -⟩ := dropEnds_spec is
  rw [he] at h
  exact (allWritable_append (allWritable_append h).1).2

theorem dropEnds_ne_nil (h : is.any (!isSpace ·)) : dropEnds is ≠ [] := by
  intro h₀
  obtain ⟨u, v, he, hu, hv⟩ := dropEnds_spec is
  rw [h₀, List.append_nil] at he
  obtain ⟨i, hi, hs⟩ := List.any_eq_true.1 h
  rw [he] at hi
  rcases List.mem_append.1 hi with hi | hi
  · simp [hu i hi] at hs
  · simp [hv i hi] at hs

theorem head?_dropEnds : ∀ i ∈ (dropEnds is).head?, isSpace i = false := by
  intro i hi
  obtain ⟨js, hjs⟩ := List.rdropWhile_prefix isSpace (is.dropWhile isSpace)
  have hhead : (is.dropWhile isSpace).head? = some i := by
    rw [dropEnds] at hi
    rw [← hjs, List.head?_append, hi]
    rfl
  have hnot := List.head?_dropWhile_not isSpace is
  rw [hhead] at hnot
  exact hnot

theorem getLast?_dropEnds : ∀ i ∈ (dropEnds is).getLast?, isSpace i = false := by
  intro i hi
  have hne : dropEnds is ≠ [] := by
    rintro h
    rw [h] at hi
    exact absurd hi (by simp)
  have hnot := List.rdropWhile_last_not isSpace (is.dropWhile isSpace) hne
  rw [Option.mem_def, List.getLast?_eq_getLast_of_ne_nil hne, Option.some_inj] at hi
  rw [← hi]
  exact Bool.eq_false_iff.2 hnot

/-- The text of parts is trimmed by dropping the spaces at their ends. -/
theorem trim_written (h : allWritable is) (hany : is.any (!isSpace ·)) :
    (written is).trim = written (dropEnds is) := by
  obtain ⟨u, v, he, hu, hv⟩ := dropEnds_spec is
  have hne := dropEnds_ne_nil hany
  have hmid := allWritable_dropEnds h
  conv_lhs => rw [he, written_append, written_append]
  exact Text.trim_append (blank_written hu) (blank_written hv) (first_written hmid head?_dropEnds)
    (last_written hmid getLast?_dropEnds) (written_ne_nil hne)

theorem isSpace_trimItem (i : Item) : isSpace (trimItem i) = isSpace i := by
  cases i <;> rfl

theorem trimItems_eq_map : ∀ is : List Item, trimItems is = is.map trimItem
  | [] => rfl
  | i :: is => by rw [trimItems, trimItems_eq_map is, List.map_cons]

theorem trimItems_dropEnds (is : List Item) :
    trimItems (dropEnds is) = dropEnds (trimItems is) := by
  have hs : isSpace ∘ trimItem = isSpace := funext isSpace_trimItem
  simp only [trimItems_eq_map, dropEnds, List.rdropWhile, List.dropWhile_map, hs,
    ← List.map_reverse]

end Pattern

end Repartee

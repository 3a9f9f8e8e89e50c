import Repartee.Proofs.Pattern.Written

/-!
# Reading what is written

* `Pattern.reference?_text`: the text of a reference is read as the reference.
* `Pattern.alternatives_written`: the alternatives of a group are found trimmed.
* **`Pattern.parse_written`**: reading the text of writable parts gives these parts, trimmed.
-/

namespace Repartee

namespace Pattern

variable {is : List Item}

/-! ## Names and references -/

theorem notMem_of_all {c : Char} (hc : isNameChar c = false) {t : Text} (h : t.all isNameChar) :
    c ∉ t := by
  intro hmem
  rw [List.all_eq_true.1 h c hmem] at hc
  exact Bool.noConfusion hc

theorem trim_name {t : Text} (h : t.all isNameChar) : t.trim = t := by
  have hb : ∀ c ∈ t, isBlank c = false := fun c hc =>
    isBlank_of_isSolid (isSolid_of_isNameChar (List.all_eq_true.1 h c hc))
  exact Text.trim_eq_self (fun c hc => hb c (List.mem_of_mem_head? hc))
    fun c hc => hb c (List.mem_of_mem_getLast? hc)

/-- The text of a reference is read as the reference. -/
theorem reference?_text {r : Reference} (h : isReference r) : reference? r.text = some r := by
  have hplace : ∀ n < 10, 1 ≤ n → reference? (Reference.input n).text = some (.input n) ∧
      reference? (Reference.reply n).text = some (.reply n) := by decide
  cases r with
  | bot name =>
    have hcut : Text.cut? ' ' (Reference.bot name).text = some ("bot".toList, name.toList) :=
      Text.cut?_append (t := "bot".toList) (by decide) name.toList
    rw [reference?, hcut]
    simp [trim_name h]
  | get name =>
    have hcut : Text.cut? ' ' (Reference.get name).text = some ("get".toList, name.toList) :=
      Text.cut?_append (t := "get".toList) (by decide) name.toList
    rw [reference?, hcut]
    simp [trim_name h]
  | input n =>
    simp only [isReference, Bool.and_eq_true, decide_eq_true_eq] at h
    exact (hplace n (by omega) h.1).1
  | reply n =>
    simp only [isReference, Bool.and_eq_true, decide_eq_true_eq] at h
    exact (hplace n (by omega) h.1).2

theorem notMem_text {r : Reference} (h : isReference r) : '>' ∉ r.text := by
  have hplace : ∀ n < 10, '>' ∉ (Reference.input n).text ∧ '>' ∉ (Reference.reply n).text := by
    decide
  have hname {name : String} (hn : name.toList.all isNameChar) : '>' ∉ name.toList :=
    notMem_of_all (by decide) hn
  cases r with
  | bot name => exact List.not_mem_append (by decide) (hname h)
  | get name => exact List.not_mem_append (by decide) (hname h)
  | input n =>
    simp only [isReference, Bool.and_eq_true, decide_eq_true_eq] at h
    exact (hplace n (by omega)).1
  | reply n =>
    simp only [isReference, Bool.and_eq_true, decide_eq_true_eq] at h
    exact (hplace n (by omega)).2

/-! ## One part -/

/-- A character that is blank or stands for itself is read as itself. -/
theorem parseUpTo_char {c : Char} (h : c = ' ' ∨ isLiteral c) (n : Nat) (t : Text) :
    parseUpTo (n + 1) (c :: t) = .char c :: parseUpTo n t := by
  have hne : ∀ d ∈ ['*', '#', '_', '[', '(', '@', '<'], c ≠ d := by
    rintro d hd rfl
    have hspecial : ∀ e ∈ ['*', '#', '_', '[', '(', '@', '<'], ¬(e = ' ' ∨ isLiteral e) :=
      List.all_iff_forall_prop.1 (by decide)
    exact hspecial c hd h
  simp only [List.forall_mem_cons, List.not_mem_nil, false_implies, implies_true, and_true] at hne
  obtain ⟨h₁, h₂, h₃, h₄, h₅, h₆, h₇⟩ := hne
  rw [parseUpTo] <;> assumption

theorem parseUpTo_name {name : String} (h : isWritable (.array name)) {t : Text}
    (ht : ∀ c ∈ t.head?, isNameChar c = false) (n : Nat) :
    parseUpTo (n + 1) ('@' :: (name.toList ++ t)) = .array name :: parseUpTo n t := by
  obtain ⟨hne, hall⟩ := Bool.and_eq_true_iff.1 h
  have hname : ∀ c ∈ name.toList, isNameChar c := List.all_eq_true.1 hall
  have htake : (name.toList ++ t).takeWhile isNameChar = name.toList := by
    rw [List.takeWhile_append_of_pos hname]
    cases t with
    | nil => simp
    | cons c t => rw [List.takeWhile_cons_of_neg (by simp [ht c rfl]), List.append_nil]
  have hdrop : (name.toList ++ t).dropWhile isNameChar = t := by
    rw [List.dropWhile_append_of_pos hname]
    cases t with
    | nil => rfl
    | cons c t => exact List.dropWhile_cons_of_neg (by simp [ht c rfl])
  rw [parseUpTo, htake, hdrop]
  cases hl : name.toList with
  | nil => simp [hl] at hne
  | cons c cs =>
    dsimp only
    rw [← hl, String.ofList_toList]

theorem parseUpTo_reference {r : Reference} (h : isReference r) (n : Nat) (t : Text) :
    parseUpTo (n + 1) ('<' :: (r.text ++ '>' :: t)) = .reference r :: parseUpTo n t := by
  rw [parseUpTo, Text.cut?_append (notMem_text h)]
  simp only [reference?_text h]

theorem parseUpTo_group {t : Text} (h : Legible 1 t) (n : Nat) (u : Text) :
    parseUpTo (n + 1) ('(' :: (t ++ ')' :: u)) =
      .group ((alternatives t).map (parseUpTo n)) :: parseUpTo n u := by
  rw [parseUpTo, h.closeGroup?]

/-- An array name ends where the next part begins. -/
theorem head?_after_name {name : String} {is : List Item} (h : allWritable (.array name :: is)) :
    ∀ c ∈ (written is).head?, isNameChar c = false := by
  intro c hc
  obtain ⟨-, hnext, his⟩ := allWritable_cons.1 h
  cases is with
  | nil => exact absurd hc (by simp [written])
  | cons j js =>
    rw [head?_written] at hc
    have hnext : mayPrecede (.array name) j := hnext
    cases j with
    | char d =>
      cases hc
      simpa [mayPrecede] using hnext
    | wild w =>
      cases hc
      cases w with
      | word => exact absurd hnext Bool.false_ne_true
      | any | digits => decide
    | array | reference | optional | group =>
      cases hc
      decide
    | unclosed b =>
      exact absurd (allWritable_cons.1 his).1 Bool.false_ne_true

/-! ## Parts in a row -/

theorem length_le_join : ∀ {ts : List Text} {t : Text}, t ∈ ts →
    t.length ≤ (Text.join ['|'] ts).length
  | [u], t, h => by rw [List.mem_singleton.1 h, Text.join]
  | u :: v :: ts, t, h => by
    rw [Text.join, List.length_append, List.length_append]
    rcases List.mem_cons.1 h with rfl | h
    · omega
    · have ih := length_le_join h
      omega

theorem length_dropEnds (is : List Item) :
    (written (dropEnds is)).length ≤ (written is).length := by
  obtain ⟨u, v, he, -, -⟩ := dropEnds_spec is
  conv_rhs => rw [he, written_append, written_append, List.length_append, List.length_append]
  omega

theorem writtenEach_eq_map : ∀ iss : List (List Item), writtenEach iss = iss.map written
  | [] => rfl
  | is :: rest => by rw [writtenEach, writtenEach_eq_map rest, List.map_cons]

theorem trimEach_eq_map : ∀ iss : List (List Item),
    trimEach iss = iss.map fun is => trimItems (dropEnds is)
  | [] => rfl
  | is :: rest => by rw [trimEach, trimEach_eq_map rest, List.map_cons, trimItems_dropEnds]

theorem of_eachWritable : ∀ {iss : List (List Item)}, eachWritable iss → ∀ is ∈ iss,
    is.any (!isSpace ·) ∧ allWritable is
  | is :: rest, h, js, hj => by
    obtain ⟨hany, his, hrest⟩ := eachWritable_cons.1 h
    rcases List.mem_cons.1 hj with rfl | hj
    · exact ⟨hany, his⟩
    · exact of_eachWritable hrest js hj

/-- The alternatives of a group are found trimmed. -/
theorem alternatives_written {iss : List (List Item)} (h : eachWritable iss) (h₀ : iss ≠ []) :
    alternatives (Text.join ['|'] (writtenEach iss)) = iss.map fun is => written (dropEnds is) := by
  have hne : writtenEach iss ≠ [] := by simpa [writtenEach_eq_map] using h₀
  have htrim : ∀ is ∈ iss, (written is).trim = written (dropEnds is) := fun is his =>
    trim_written (of_eachWritable h is his).2 (of_eachWritable h is his).1
  rw [alternatives_join (fun t ht => ((legible_writtenEach h).1 t ht).1) hne, writtenEach_eq_map,
    List.map_map]
  · exact List.map_congr_left htrim
  · intro t ht
    rw [writtenEach_eq_map] at ht
    obtain ⟨is, his, rfl⟩ := List.mem_map.1 ht
    rw [htrim is his]
    exact written_ne_nil (dropEnds_ne_nil (of_eachWritable h is his).1)

/-- Reading with enough characters in hand gives the parts that were written, trimmed. -/
theorem parseUpTo_written (n : Nat) : ∀ {is : List Item}, allWritable is →
    (written is).length ≤ n → parseUpTo n (written is) = trimItems is := by
  induction n with
  | zero =>
    intro is h hn
    cases is with
    | nil => rfl
    | cons i is =>
      have hnil := List.length_eq_zero_iff.1 (Nat.le_zero.1 hn)
      exact absurd hnil (written_ne_nil (List.cons_ne_nil i is))
  | succ n ih =>
    intro is h hn
    cases is with
    | nil => rfl
    | cons i is =>
      obtain ⟨hi, -, his⟩ := allWritable_cons.1 h
      rw [written, List.length_append] at hn
      have hpos : 0 < (itemText i).length := List.length_pos_iff.2 (itemText_ne_nil i)
      have ihs : parseUpTo n (written is) = trimItems is := ih his (by omega)
      rw [written, trimItems, ← ihs]
      cases i with
      | char c =>
        have hc : c = ' ' ∨ isLiteral c := by simpa [isWritable] using hi
        exact parseUpTo_char hc n _
      | wild w => cases w <;> rfl
      | array name => exact parseUpTo_name hi (head?_after_name h) n
      | reference r =>
        rw [itemText, List.cons_append, List.append_assoc]
        exact parseUpTo_reference hi n _
      | group alternatives =>
        obtain ⟨hne, hall⟩ := isWritable_group.1 hi
        have hjoin := (legible_writtenEach hall).2 (by simpa [writtenEach_eq_map] using hne)
        rw [itemText, List.cons_append, List.append_assoc, List.singleton_append,
          parseUpTo_group hjoin, trimItem, alternatives_written hall hne, trimEach_eq_map,
          List.map_map]
        congr 2
        refine List.map_congr_left fun js hjs => ih ?_ ?_
        · exact allWritable_dropEnds (of_eachWritable hall js hjs).2
        · -- an alternative is shorter than its group
          have h₁ := length_dropEnds js
          have h₂ : (written js).length ≤ (Text.join ['|'] (writtenEach alternatives)).length :=
            length_le_join (by rw [writtenEach_eq_map]; exact List.mem_map_of_mem hjs)
          rw [itemText, List.length_cons, List.length_append] at hn
          omega
      | optional | unclosed => exact absurd hi Bool.false_ne_true

/-- **Reading the text of writable parts gives these parts, trimmed.** -/
theorem parse_written (h : allWritable is) : parse (written is) = trimItems is :=
  parseUpTo_written _ h (Nat.le_refl _)

end Pattern

end Repartee

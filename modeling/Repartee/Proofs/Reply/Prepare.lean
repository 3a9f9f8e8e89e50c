import Repartee.Proofs.Reply.Inert
import Repartee.Proofs.Script.Clear

/-!
# The first passes and marks

The passes that change nothing put clear texts in the place of tags. Two of them put marks in a
text: arrays that are not known are set aside and taken back, and calls are marked.

* `Shorthand.Parked`: a text in which arrays are set aside.
* **`Shorthand.clear_arrays`**: none is left when the pass is over.
* `Call.clear_wrap`: the marks of calls do not come from the first two characters.
* **`Expand.clear_prepare`**: what the first passes leave of a clear text.
* `Call.Alone`: a text with nothing but calls, stars and weights.
* `Expand.starred`, `Expand.marked_starred`: its stars put in place, between the marks.
* **`expand_alone`**: such a text has its calls run.
-/

namespace Repartee

variable {n : Nat} {s : Script} {t u : Text}

/-! ## Arrays -/

namespace Shorthand

theorem clear_nameChar (hn : n ≤ 4) {c : Char} (hc : isNameChar c) : n ≤ c.toNat := by
  have hlow : ((List.range 4).all fun k => !isNameChar (Char.ofNat k)) = true := by decide
  refine hn.trans (Nat.le_of_not_lt fun hlt => ?_)
  have hnot := List.all_eq_true.1 hlow c.toNat (List.mem_range.2 hlt)
  rw [Char.ofNat_toNat, hc] at hnot
  cases hnot

/-- A text of clear characters and arrays that are set aside. -/
inductive Parked (n : Nat) : Text → Prop
  | nil : Parked n []
  | char {c : Char} {t : Text} : n ≤ c.toNat → Parked n t → Parked n (c :: t)
  | array {name t : Text} : name ≠ [] → (∀ c ∈ name, isNameChar c) → Parked n t →
    Parked n ('\x00' :: '@' :: (name ++ '\x00' :: t))

namespace Parked

theorem of_clear : ∀ {t : Text}, t.Clear n → Parked n t
  | [], _ => .nil
  | _ :: _, h => .char (Text.clear_cons.1 h).1 (of_clear (Text.clear_cons.1 h).2)

theorem append (ht : Parked n t) (hu : Parked n u) : Parked n (t ++ u) := by
  induction ht with
  | nil => exact hu
  | char hc _ ih => exact .char hc ih
  | array hne hname _ ih =>
    rw [List.cons_append, List.cons_append, List.append_assoc, List.cons_append]
    exact .array hne hname ih

theorem of_cons {c : Char} (hc : '\x00' ≠ c) (h : Parked n (c :: t)) : Parked n t := by
  cases h with
  | char _ h => exact h
  | array => exact absurd rfl hc

/-- What stands behind a part in which no array is set aside. -/
theorem of_append : ∀ {t : Text}, '\x00' ∉ t → Parked n (t ++ u) → Parked n u
  | [], _, h => h
  | _ :: _, ht, h =>
    have hne := List.ne_and_not_mem_of_not_mem_cons ht
    of_append hne.2 (of_cons hne.1 h)

/-- What stands behind an array that is recognised in front, and its name. -/
theorem arrayTag (h : Parked n t) {name rest : Text}
    (hfront : Shorthand.arrayTag t = some (name, rest)) :
    Parked n rest ∧ name ≠ [] ∧ ∀ c ∈ name, isNameChar c := by
  have havoids : Shorthand.arrayTag.Avoids '\x00' :=
    Scan.avoids_delimited (by decide) (by decide) (by decide) (by decide)
  obtain ⟨u, rfl, -, hnot⟩ := havoids hfront
  obtain ⟨-, -, -, -, -, hname, hlength⟩ := Scan.delimited_eq_some hfront
  exact ⟨of_append hnot h, List.ne_nil_of_length_pos hlength, hname⟩

/-- What is around the first array of a text, and its name. -/
theorem find? (h : Parked n t) {before name after : Text}
    (hfind : Shorthand.arrayTag.find? t = some (before, name, after)) :
    Parked n before ∧ Parked n after ∧ name ≠ [] ∧ ∀ c ∈ name, isNameChar c := by
  have hneeds : Shorthand.arrayTag.Needs '(' := Scan.needs_delimited rfl rfl
  induction h generalizing before with
  | nil => cases hfind
  | @char c t hc ht ih =>
    rw [Scan.find?] at hfind
    split at hfind
    · rename_i hr
      cases hfind
      exact ⟨.nil, arrayTag (.char hc ht) hr⟩
    · obtain ⟨⟨u, a, v⟩, hr, he⟩ := Option.map_eq_some_iff.1 hfind
      cases he
      obtain ⟨hu, hrest⟩ := ih hr
      exact ⟨.char hc hu, hrest⟩
  | @array inner t hne hinner ht ih =>
    have hsplit : '\x00' :: '@' :: (inner ++ '\x00' :: t) =
        '\x00' :: '@' :: (inner ++ ['\x00']) ++ t := by simp
    have hnot : '(' ∉ '\x00' :: '@' :: (inner ++ ['\x00']) := by
      have hmem : '(' ∉ inner := fun hmem => absurd (hinner _ hmem) (by decide)
      simp [hmem]
    rw [hsplit, hneeds.find?_append t hnot] at hfind
    obtain ⟨⟨u, a, v⟩, hr, he⟩ := Option.map_eq_some_iff.1 hfind
    cases he
    obtain ⟨hu, hrest⟩ := ih hr
    refine ⟨?_, hrest⟩
    simpa using Parked.array hne hinner hu

theorem arrayChoice (hn : n ≤ 4) {arrays : Table (List String)} (h : arrays.ClearItems n)
    {name : Text} (hne : name ≠ []) (hname : ∀ c ∈ name, isNameChar c) :
    Parked n (Shorthand.arrayChoice arrays name) := by
  rw [Shorthand.arrayChoice]
  cases hfind : arrays.find? (String.ofList name) with
  | none =>
    have hname := Parked.array hne hname (@Parked.nil n)
    simpa using hname
  | some items =>
    have hitems : ∀ w ∈ items.map String.toList, Text.Clear n w := by
      intro w hw
      obtain ⟨i, hi, rfl⟩ := List.mem_map.1 hw
      exact h _ items hfind i hi
    refine of_clear (((Text.clear_of_all hn (by decide)).append ?_).append
      (Text.clear_of_all hn (by decide)))
    exact Text.clear_join (Text.clear_of_all hn (by decide)) hitems

theorem replaceAgain (hn : n ≤ 4) {arrays : Table (List String)} (harrays : arrays.ClearItems n)
    (k : Nat) (h : Parked n t) :
    Parked n (Shorthand.arrayTag.replaceAgain (Shorthand.arrayChoice arrays) k t) := by
  induction k generalizing t with
  | zero => exact h
  | succ k ih =>
    rw [Scan.replaceAgain]
    split
    · exact h
    · rename_i hfind
      obtain ⟨hbefore, hafter, hne, hname⟩ := h.find? hfind
      exact ih ((hbefore.append (.arrayChoice hn harrays hne hname)).append hafter)

/-- Taking back what was set aside. -/
theorem clear_replaceAll (hlow : 0 < n) (hn : n ≤ 4) (h : Parked n t) :
    Text.Clear n (parkedArray.replaceAll (fun name => "(@".toList ++ name ++ [')']) t) := by
  have hneeds : parkedArray.Needs '\x00' := Scan.needs_delimited rfl rfl
  induction h with
  | nil => exact Text.clear_nil
  | @char c t hc _ ih =>
    have hne : c ≠ '\x00' := by
      rintro rfl
      exact absurd hc (Nat.not_le.2 hlow)
    rw [hneeds.replaceAll_cons hne]
    exact Text.clear_cons.2 ⟨hc, ih⟩
  | @array name t hne hname _ ih =>
    have hfront : parkedArray ('\x00' :: '@' :: (name ++ ['\x00']) ++ t) = some (name, t) := by
      have hnames : ∀ c ∈ name, isNameChar c ∧ Text.sameFolded '\x00' c = false := fun c hc =>
        ⟨hname c hc, Text.sameFolded_of_ne rfl fun h => absurd (h ▸ hname c hc) (by decide)⟩
      have hlength := List.length_pos_of_ne_nil hne
      have hall : ("\x00@".toList.all fun c => Text.sameFolded c c) = true := by decide
      have hopen : ∀ c ∈ "\x00@".toList, Text.sameFolded c c := List.all_eq_true.1 hall
      rw [parkedArray]
      simpa using Scan.delimited_append hopen (by decide) hlength hnames t
    have hsplit : '\x00' :: '@' :: (name ++ '\x00' :: t) =
        '\x00' :: '@' :: (name ++ ['\x00']) ++ t := by simp
    rw [hsplit, Scan.replaceAll_append (List.cons_ne_nil _ _) hfront]
    have hclear : Text.Clear n name := fun c hc => clear_nameChar hn (hname c hc)
    exact (((Text.clear_of_all hn (by decide)).append hclear).append
      (Text.clear_of_all hn (by decide))).append ih

end Parked

/-- **No array stays set aside.** -/
theorem clear_arrays (hlow : 0 < n) (hn : n ≤ 4) (hs : s.arrays.ClearItems n) (ht : t.Clear n) :
    Text.Clear n (arrays s t) :=
  ((Parked.of_clear ht).replaceAgain hn hs s.depth).clear_replaceAll hlow hn

/-! ## Other short tags -/

/-- A property that writing out one short tag keeps is kept by writing out all. -/
theorem tags_induction {Q : Text → Prop} (ht : Q t) (step : ∀ e ∈ shortTags, ∀ t, Q t →
    Q ((Scan.opening e.1).replaceAll (fun _ => e.2.toList) t)) : Q (tags t) := by
  rw [tags]
  generalize shortTags = es at step
  induction es generalizing t with
  | nil => exact ht
  | cons e es ih =>
    rw [List.forall_mem_cons] at step
    exact ih (step.1 t ht) step.2

theorem clear_long (hn : n ≤ 4) {e : String × String} (he : e ∈ shortTags) :
    Text.Clear n e.2.toList := by
  have hlong : (shortTags.all fun e => e.2.toList.all fun c => decide (4 ≤ c.toNat)) = true := by
    decide
  exact Text.clear_of_all hn (List.all_eq_true.1 hlong e he)

theorem clear_tags (hn : n ≤ 4) (ht : t.Clear n) : Text.Clear n (tags t) :=
  tags_induction ht fun e he _ ht =>
    (Scan.within_opening e.1).replaceAll (fun _ _ => clear_long hn he) ht

theorem mem_star {stars : List String} {index : Text} {c : Char} (h : c ∈ star stars index) :
    c ∈ undefined.toList ∨ ∃ x ∈ stars, c ∈ x.toList := by
  rw [star] at h
  generalize (if index = [] then 1 else (Text.natural? index).getD 0) = k at h
  cases k with
  | zero => exact .inl h
  | succ k =>
    dsimp only at h
    cases hx : stars[k]? with
    | none =>
      rw [hx] at h
      exact .inl h
    | some x =>
      rw [hx] at h
      exact .inr ⟨x, List.mem_of_getElem? hx, h⟩

theorem clear_star (hn : n ≤ 4) {stars : List String} (h : ∀ x ∈ stars, Text.Clear n x.toList)
    (index : Text) : Text.Clear n (star stars index) := by
  intro c hc
  rcases mem_star hc with hc | ⟨x, hx, hc⟩
  · exact clear_undefined hn c hc
  · exact h x hx c hc

theorem clear_stars (hn : n ≤ 4) {stars botstars : List String}
    (hstars : ∀ x ∈ stars, Text.Clear n x.toList)
    (hbotstars : ∀ x ∈ botstars, Text.Clear n x.toList) (ht : t.Clear n) :
    Text.Clear n (Shorthand.stars stars botstars t) :=
  (Scan.within_delimited _ _ _ _).replaceAll (fun i _ => clear_star hn hbotstars i)
    ((Scan.within_delimited _ _ _ _).replaceAll (fun i _ => clear_star hn hstars i) ht)

theorem within_historyTag : historyTag.Within fun _ => [] := by
  have hindex {t rest : Text} {k : Nat} (h : historyIndex t = some (k, rest)) : rest ⊆ t := by
    rw [historyIndex.eq_def] at h
    split at h
    · cases h
      exact List.subset_cons_self _ _
    · split at h
      · cases h
        exact List.subset_cons_of_subset _ (List.subset_cons_self _ _)
      · cases h
    · cases h
  intro t a rest h
  refine ⟨List.nil_subset _, ?_⟩
  rw [historyTag] at h
  split at h
  · rename_i u hu
    obtain ⟨r, hr, he⟩ := Option.map_eq_some_iff.1 h
    cases he
    exact List.Subset.trans (hindex hr) (Text.startsWithFolded?_subset hu)
  · obtain ⟨u, hu, h⟩ := Option.bind_eq_some_iff.1 h
    obtain ⟨r, hr, he⟩ := Option.map_eq_some_iff.1 h
    cases he
    exact List.Subset.trans (hindex hr) (Text.startsWithFolded?_subset hu)

theorem clear_history (hn : n ≤ 4) {h : History} (hh : h.Clear n) (ht : t.Clear n) :
    Text.Clear n (history h t) := by
  refine within_historyTag.replaceAll (fun a _ => ?_) ht
  obtain ⟨reply, k⟩ := a
  cases reply with
  | false => exact History.clear_nth hn hh.input k
  | true => exact History.clear_nth hn hh.reply k

theorem clear_user {name : String} (hname : Text.Clear n name.toList) (ht : t.Clear n) :
    Text.Clear n (user name t) :=
  (Scan.within_opening _).replaceAll (fun _ _ => hname) ht

theorem clear_unescape (hn : n ≤ 4) (ht : t.Clear n) : Text.Clear n (unescape t) :=
  ((ht.replace _ (Text.clear_of_all hn (by decide))).replace _
    (Text.clear_of_all hn (by decide))).replace _ (Text.clear_of_all hn (by decide))

end Shorthand

/-! ## Calls -/

namespace Call

/-- Marks do not come from the first two characters. -/
theorem clear_mark (hn : n ≤ 2) {ws : List Text} (h : ∀ w ∈ ws, w.Clear n) :
    Text.Clear n (mark ws) := by
  have hmark {m : Text} (hm : (m.all fun c => decide (2 ≤ c.toNat)) = true) : m.Clear n :=
    fun c hc => hn.trans (of_decide_eq_true (List.all_eq_true.1 hm c hc))
  cases ws with
  | nil => exact hmark (by decide)
  | cons name args =>
    rw [List.forall_mem_cons] at h
    have hargs : Text.Clear n (args.flatMap fun a => ' ' :: argOpen ++ a ++ argClose) := by
      refine Text.clear_flatMap fun a ha => ?_
      have hopen : Text.Clear n (' ' :: argOpen) := hmark (by decide)
      exact (hopen.append (h.2 a ha)).append (hmark (by decide))
    have hopen : Text.Clear n callOpen := hmark (by decide)
    exact ((hopen.append h.1).append hargs).append (hmark (by decide))

theorem clear_wrap (hn : n ≤ 2) (ht : t.Clear n) : Text.Clear n (wrap t) :=
  (Scan.within_delimited _ _ _ _).replaceAll
    (fun _ hbody => clear_mark hn fun _ hw => hbody.subset (callWords_subset hw)) ht

end Call

/-! ## All first passes -/

/-- **What the first passes leave of a text whose calls, once they are marked, are clear.** -/
theorem Expand.clear_prepare (hn : n ≤ 4) {a : Speaker} (ha : Text.Clear n a.user.toList)
    {h : History} (hh : h.Clear n) {stars botstars : List String}
    (hstars : ∀ x ∈ stars, Text.Clear n x.toList)
    (hbotstars : ∀ x ∈ botstars, Text.Clear n x.toList)
    (ht : Text.Clear n (Call.wrap (Shorthand.arrays s t))) :
    Text.Clear n (prepare s a h stars botstars t) := by
  have hweight : Text.Clear n (Metadata.stripWeight (Shorthand.tags _)) :=
    (Scan.within_delimited _ _ _ _).replaceAll (fun _ _ => Text.clear_nil)
      (Shorthand.clear_tags hn ht)
  exact Shorthand.clear_unescape hn (Shorthand.clear_user ha
    (Shorthand.clear_history hn hh (Shorthand.clear_stars hn hstars hbotstars hweight)))

/-! ## Texts with nothing but calls -/

/-- A star. -/
def Shorthand.starTag : Scan Text := Scan.delimited "<star" isDigit 0 ">"

/-- A text with its calls marked, short tags written out and weights taken away. -/
def Call.called (t : Text) : Text := Metadata.stripWeight (Shorthand.tags (wrap t))

/-- No tag and no block is in a text but its calls, stars and weights. -/
structure Call.Alone (t : Text) : Prop where
  angle : '<' ∉ Shorthand.starTag.replaceAll (fun _ => []) (called t)
  brace : '\x7b' ∉ Shorthand.starTag.replaceAll (fun _ => []) (called t)

/-- A text with its calls marked and its stars put in place. -/
def Expand.starred (s : Script) (stars : List String) (t : Text) : Text :=
  Shorthand.starTag.replaceAll (Shorthand.star stars) (Call.called (Shorthand.arrays s t))

namespace Call.Marked

open Call (marks)

theorem tags (hn : n ≤ 4) (h : Marked n .outside t) : Marked n .outside (Shorthand.tags t) := by
  have hopen : (Shorthand.shortTags.all fun e => e.1.toList.head? == some '<' &&
      e.1.toList.all fun d => !Text.sameFolded d '\x02') = true := by
    decide
  refine Shorthand.tags_induction h fun e he t ht => ?_
  obtain ⟨hhead, hfolds⟩ := Bool.and_eq_true_iff.1 (List.all_eq_true.1 hopen e he)
  obtain ⟨os, hos⟩ := List.head?_eq_some_iff.1 (eq_of_beq hhead)
  have hne : e.1.toList ≠ [] := by
    rw [hos]
    exact List.cons_ne_nil _ _
  exact ht.replaceAll (Scan.avoids_opening hne hfolds) (Scan.needs_opening hos rfl) (by decide)
    fun _ => Shorthand.clear_long hn he

theorem stripWeight (h : Marked n .outside t) : Marked n .outside (Metadata.stripWeight t) :=
  h.replaceAll (Scan.avoids_delimited (by decide) (by decide) (by decide) (by decide))
    (Scan.needs_delimited rfl rfl) (by decide) fun _ => Text.clear_nil

theorem unescape (hn : n ≤ 4) (h : Marked n .outside t) :
    Marked n .outside (Shorthand.unescape t) := by
  have hreplace {t : Text} (h : Marked n .outside t) (c d : Char) (hc : '\x02' ≠ c)
      (hd : Text.Clear n [d]) : Marked n .outside (Text.replace ['\\', c] [d] t) :=
    h.replaceAll (Scan.avoids_exactly (List.cons_ne_nil _ _) (by simp [hc]))
      (Scan.needs_exactly _ _) (by decide) fun _ => hd
  exact hreplace (hreplace (hreplace h _ _ (by decide) (Text.clear_of_all hn (by decide))) _ _
    (by decide) (Text.clear_of_all hn (by decide))) _ _ (by decide)
      (Text.clear_of_all hn (by decide))

theorem stars (hn : n ≤ 4) {stars : List String} (hstars : ∀ x ∈ stars, Text.Clear n x.toList)
    (h : Marked n .outside t) :
    Marked n .outside (Shorthand.starTag.replaceAll (Shorthand.star stars) t) :=
  h.replaceAll (Scan.avoids_delimited (by decide) (by decide) (by decide) (by decide))
    (Scan.needs_delimited rfl rfl) (by decide) (Shorthand.clear_star hn hstars)

end Call.Marked

namespace Expand

variable {stars : List String}

/-- The marks are where they belong when the stars are in place. -/
theorem marked_starred (hpos : 0 < n) (hn : n ≤ 4) (hs : s.arrays.ClearItems n)
    (hstars : ∀ x ∈ stars, Text.Clear n x.toList) (ht : t.Clear n) :
    Call.Marked n .outside (starred s stars t) :=
  (((Call.marked_wrap hn (Shorthand.clear_arrays hpos hn hs ht)).tags hn).stripWeight).stars hn
    hstars

theorem clear_starred (hpos : 0 < n) (hn : n ≤ 2) (hs : s.arrays.ClearItems n)
    (hstars : ∀ x ∈ stars, Text.Clear n x.toList) (ht : t.Clear n) :
    Text.Clear n (starred s stars t) := by
  have hn' : n ≤ 4 := hn.trans (by decide)
  have hwrap := Call.clear_wrap hn (Shorthand.clear_arrays hpos hn' hs ht)
  have hcalled : Text.Clear n (Call.called (Shorthand.arrays s t)) :=
    (Scan.within_delimited _ _ _ _).replaceAll (fun _ _ => Text.clear_nil)
      (Shorthand.clear_tags hn' hwrap)
  exact (Scan.within_delimited _ _ _ _).replaceAll (fun i _ => Shorthand.clear_star hn' hstars i)
    hcalled

/-- A character that is neither in the text around the stars nor in the stars. -/
theorem notMem_starred {c : Char} (hundefined : c ∉ undefined.toList)
    (hbare : c ∉ Shorthand.starTag.replaceAll (fun _ => []) (Call.called (Shorthand.arrays s t)))
    (hstars : (∀ x ∈ stars, c ∉ x.toList) ∨
      Shorthand.starTag.find? (Call.called (Shorthand.arrays s t)) = none) :
    c ∉ starred s stars t := by
  intro hmem
  rw [starred] at hmem
  rcases hstars with hstars | hnone
  · rcases Scan.mem_replaceAll hmem with h | ⟨i, hi⟩
    · exact hbare h
    · rcases Shorthand.mem_star hi with h | ⟨x, hx, h⟩
      · exact hundefined h
      · exact hstars x hx h
  · rw [Scan.replaceAll_of_find? hnone] at hmem hbare
    exact hbare hmem

/-- The passes behind the stars find nothing where no tag is left. -/
theorem prepare_alone (hangle : '<' ∉ starred s stars t) (a : Speaker) (h : History)
    (botstars : List String) :
    prepare s a h stars botstars t = Shorthand.unescape (starred s stars t) := by
  have hbotstar : (Scan.delimited "<botstar" isDigit 0 ">").Needs '<' :=
    Scan.needs_delimited rfl rfl
  have hid : (Scan.opening "<id>").Needs '<' := Scan.needs_opening rfl rfl
  have hstars : Shorthand.stars stars botstars (Call.called (Shorthand.arrays s t)) =
      starred s stars t :=
    Scan.replaceAll_of_find? (hbotstar.find?_eq_none hangle)
  rw [prepare, ← Call.called, hstars, Shorthand.history,
    Scan.replaceAll_of_find? (Shorthand.needs_historyTag.find?_eq_none hangle), Shorthand.user,
    Scan.replaceAll_of_find? (hid.find?_eq_none hangle)]

end Expand

theorem Shorthand.notMem_unescape {c : Char} (hc : c ∉ t) (hne : c ≠ ' ' ∧ c ≠ '\n' ∧ c ≠ '#') :
    c ∉ unescape t :=
  Text.notMem_replace (by simp [hne.2.2]) (Text.notMem_replace (by simp [hne.2.1])
    (Text.notMem_replace (by simp [hne.1]) hc))

/-- **A text with nothing but calls, stars and weights has its calls run.** The captured texts have
no brackets and no braces, or no star is in the text. -/
theorem expand_alone (hs : s.arrays.ClearItems 2) (ht : t.Clear 2)
    (h : Call.Alone (Shorthand.arrays s t)) {stars : List String}
    (hclear : ∀ x ∈ stars, Text.Clear 2 x.toList)
    (hplain : (∀ x ∈ stars, '<' ∉ x.toList ∧ '\x7b' ∉ x.toList) ∨
      Shorthand.starTag.find? (Call.called (Shorthand.arrays s t)) = none)
    (a : Speaker) (redirect : Redirect) (botstars : List String) :
    expand s a redirect stars botstars t =
      Call.runAll s a (Shorthand.unescape (Expand.starred s stars t)) := by
  have hangle : '<' ∉ Expand.starred s stars t :=
    Expand.notMem_starred (by decide) h.angle (hplain.imp_left fun hp x hx => (hp x hx).1)
  have hbrace : '\x7b' ∉ Expand.starred s stars t :=
    Expand.notMem_starred (by decide) h.brace (hplain.imp_left fun hp x hx => (hp x hx).2)
  have hparked : Text.Clear 2 (Shorthand.unescape (Expand.starred s stars t)) :=
    Shorthand.clear_unescape (by decide)
      (Expand.clear_starred (by decide) (Nat.le_refl 2) hs hclear ht)
  obtain ⟨hchoice, hformats, htopic, hredirect⟩ :=
    Expand.find?_eq_none_of_brace (Shorthand.notMem_unescape hbrace (by decide))
  exact expand_eq_runAll s a (fun hist => Expand.prepare_alone hangle a hist botstars)
    ⟨hparked.notMem (by decide), hparked.notMem (by decide)⟩
    (Shorthand.notMem_unescape hangle (by decide)) hchoice hformats htopic hredirect redirect

end Repartee

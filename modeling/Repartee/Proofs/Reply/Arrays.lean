import Repartee.Proofs.Reply.Opening
import Repartee.Text.Alphanumeric

/-!
# Arrays in a reply

An array in a reply is written out as a random choice among its items, and this text is read again
by the pass that makes the choices. The items are found again in it, unless there is only one: then
no pipe stands between the choices, and the words of the item are taken for them.

* `Text.IsItem`: letters, digits and spaces.
* `Expand.pickings`: what is chosen from for an array; `Expand.choices_join`.
* `Shorthand.arrays_arrayText`, `Expand.prepare_arrayText`: an array is written out as a choice.
* `Expand.run_choose`: one roll decides on the choice.
* `TakenApart`: a single item with a space, in whose place its words are chosen from.
* **`run_expand_array`**: the item at the position that is rolled is the reply, unless it is taken
  apart.
-/

namespace Repartee

/-- Letters and digits of any script, and spaces. -/
def Text.IsItem (t : Text) : Prop := ∀ c ∈ t, c = ' ' ∨ isAlphanumeric c

instance (t : Text) : Decidable t.IsItem := List.decidableBAll _ t

variable {t : Text}

theorem Text.IsItem.notMem (h : t.IsItem) {c : Char} (hc : c ≠ ' ' ∧ isAlphanumeric c = false) :
    c ∉ t := by
  intro hmem
  rcases h c hmem with rfl | ha
  · exact hc.1 rfl
  · rw [hc.2] at ha
    cases ha

/-- No pass recognises anything in an item. -/
theorem Text.IsItem.inert (h : t.IsItem) : t.Inert :=
  inert_of_forall (p := fun c => c == ' ' || isAlphanumeric c) (fun c hc => by simpa using h c hc)
    (by decide)

/-- An array as a reply names it. -/
def arrayText (name : Text) : Text := "(@".toList ++ (name ++ [')'])

/-- The choice that an array is written out as. -/
def choiceText (items : List String) : Text :=
  "\x7brandom\x7d".toList ++ (Text.join ['|'] (items.map String.toList) ++ "\x7b/random\x7d".toList)

theorem choiceText_eq (items : List String) : choiceText items =
    "\x7brandom\x7d".toList ++
      (Text.join ['|'] (items.map String.toList) ++ "\x7b/random\x7d".toList) := rfl

namespace Expand

/-- What is chosen from for an array: its items, or the pieces of a single one between spaces. -/
def pickings : List String → List Text
  | [item] => Text.pieces (· == ' ') item.toList
  | items => items.map String.toList

/-- The choices that are read are the items, unless there is only one. -/
theorem choices_join {items : List String} (hne : items ≠ [])
    (h : ∀ item ∈ items, Text.IsItem item.toList) :
    choices (Text.join ['|'] (items.map String.toList)) = pickings items := by
  have hpipe : ∀ item ∈ items, '|' ∉ item.toList := fun item hitem =>
    (h item hitem).notMem (by decide)
  match items with
  | [item] => exact if_neg (hpipe item List.mem_cons_self)
  | x :: y :: items =>
    have hmem : '|' ∈ Text.join ['|'] ((x :: y :: items).map String.toList) := by
      simp [Text.join]
    rw [choices, if_pos hmem, Text.pieces_join rfl (by simp)]
    · rfl
    · intro w hw c hc
      obtain ⟨item, hitem, rfl⟩ := List.mem_map.1 hw
      exact beq_false_of_ne (ne_of_mem_of_not_mem hc (hpipe item hitem))

end Expand

/-! ## Writing out -/

/-- What is recognised in front of a text is what is found first. -/
theorem Scan.find?_of_front {α : Type} {p : Scan α} {a : α} {rest : Text} (ht : t ≠ [])
    (h : p t = some (a, rest)) : p.find? t = some ([], a, rest) := by
  obtain ⟨c, cs, rfl⟩ := List.exists_cons_of_ne_nil ht
  rw [find?, h]

section

variable {s : Script} {name : Text} {items : List String}
  (h : ∀ item ∈ items, Text.IsItem item.toList)

include h

theorem notMem_items {c : Char} (hc : c ≠ ' ' ∧ isAlphanumeric c = false) (hpipe : c ≠ '|') :
    c ∉ Text.join ['|'] (items.map String.toList) := by
  intro hmem
  rcases Text.mem_join hmem with hmem | ⟨w, hw, hmem⟩
  · exact hpipe (List.mem_singleton.1 hmem)
  · obtain ⟨item, hitem, rfl⟩ := List.mem_map.1 hw
    exact (h item hitem).notMem hc hmem

/-- A character that is in no item and in no part of a choice. -/
theorem notMem_choiceText {c : Char} (hc : c ≠ ' ' ∧ isAlphanumeric c = false)
    (hparts : c ∉ "\x7brandom\x7d".toList ++ '|' :: "\x7b/random\x7d".toList) :
    c ∉ choiceText items := by
  rw [List.mem_append, List.mem_cons, not_or, not_or] at hparts
  simp only [choiceText_eq, List.mem_append, not_or]
  exact ⟨hparts.1, notMem_items h hc hparts.2.1, hparts.2.2⟩

/-- An array is written out as a choice. -/
theorem Shorthand.arrays_arrayText (hdepth : 1 ≤ s.depth) (hne : name ≠ [])
    (hname : ∀ c ∈ name, isNameChar c) (hitems : s.arrays.find? (String.ofList name) = some items) :
    arrays s (arrayText name) = choiceText items := by
  have hopening : ∀ c ∈ "(@".toList, Text.sameFolded c c := List.all_eq_true.1 (by decide)
  have hnames : ∀ c ∈ name, isNameChar c ∧ Text.sameFolded ')' c = false := fun c hc =>
    ⟨hname c hc, Text.sameFolded_of_ne rfl fun h => absurd (h ▸ hname c hc) (by decide)⟩
  have hfront : arrayTag (arrayText name) = some (name, []) :=
    Scan.delimited_append hopening (by decide) (List.length_pos_of_ne_nil hne) hnames []
  have hfind := Scan.find?_of_front (by simp [arrayText]) hfront
  have hchoice : [] ++ arrayChoice s.arrays name ++ [] = choiceText items := by
    rw [arrayChoice, hitems]
    simp [choiceText_eq]
  have harray : arrayTag.Needs '(' := Scan.needs_delimited rfl rfl
  have hparked : parkedArray.Needs '\x00' := Scan.needs_delimited rfl rfl
  obtain ⟨n, hn⟩ := Nat.exists_eq_add_of_le' hdepth
  rw [arrays, hn, Scan.replaceAgain, hfind]
  dsimp only
  rw [hchoice, Scan.replaceAgain_of_find?
      (harray.find?_eq_none (notMem_choiceText h (by decide) (by decide))),
    Scan.replaceAll_of_find?
      (hparked.find?_eq_none (notMem_choiceText h (by decide) (by decide)))]

/-- The other first passes leave the choice as it is. -/
theorem Expand.prepare_arrayText (hdepth : 1 ≤ s.depth) (hne : name ≠ [])
    (hname : ∀ c ∈ name, Shorthand.isNameChar c)
    (hitems : s.arrays.find? (String.ofList name) = some items) (a : Speaker) (hist : History)
    (stars botstars : List String) :
    prepare s a hist stars botstars (arrayText name) = choiceText items := by
  have harrays := Shorthand.arrays_arrayText h hdepth hne hname hitems
  have hangle : '<' ∉ choiceText items := notMem_choiceText h (by decide) (by decide)
  have hescape : '\\' ∉ choiceText items := notMem_choiceText h (by decide) (by decide)
  have hcall : (Scan.delimited "<call>" (fun _ => true) 0 "</call>").Needs '<' :=
    Scan.needs_delimited rfl rfl
  have hstar : Shorthand.starTag.Needs '<' := Scan.needs_delimited rfl rfl
  have htags : Shorthand.tags (choiceText items) = choiceText items := by
    refine Shorthand.tags_induction (Q := fun u => u = choiceText items) rfl fun e he u hu => ?_
    have hopen : ∀ e ∈ Shorthand.shortTags, e.1.toList.head? = some '<' := by decide
    obtain ⟨os, hos⟩ := List.head?_eq_some_iff.1 (hopen e he)
    have hneeds : (Scan.opening e.1).Needs '<' := Scan.needs_opening hos rfl
    rw [hu, Scan.replaceAll_of_find? (hneeds.find?_eq_none hangle)]
  have hweight : Metadata.weightTag.Free (choiceText items) := by
    have hneeds : Metadata.weightTag.Needs '\x7b' := Scan.needs_delimited rfl rfl
    have hblock {t : Text}
        (hother : Text.startsWithFolded? "\x7bweight=".toList ('\x7b' :: t) = none)
        (hlength : 7 ≤ t.length) (ht : '\x7b' ∉ t) : Metadata.weightTag.Free ('\x7b' :: t) := by
      refine ⟨fun u => ?_, hneeds.free ht⟩
      have hnone := Scan.startsWithFolded?_eq_none_append (u := u) hother (Nat.succ_le_succ hlength)
      rw [List.cons_append] at hnone
      rw [Metadata.weightTag, Scan.delimited, hnone]
      rfl
    exact (hblock (by decide) (by decide) (by decide)).append
      ((hneeds.free (notMem_items h (by decide) (by decide))).append
        (hblock (by decide) (by decide) (by decide)))
  have hstarred : starred s stars (arrayText name) = choiceText items := by
    rw [starred, Call.called, harrays, Call.wrap,
      Scan.replaceAll_of_find? (hcall.find?_eq_none hangle), htags, Metadata.stripWeight,
      Scan.replaceAll_of_find? hweight.find?_eq_none,
      Scan.replaceAll_of_find? (hstar.find?_eq_none hangle)]
  rw [prepare_alone (hstarred ▸ hangle), hstarred, Shorthand.unescape_eq_self hescape]

/-! ## Choosing -/

/-- The choice is found with all of its items. -/
theorem Expand.find?_randomTag : randomTag.find? (choiceText items) =
    some ([], Text.join ['|'] (items.map String.toList), []) := by
  have hopening : ∀ c ∈ "\x7brandom\x7d".toList, Text.sameFolded c c :=
    List.all_eq_true.1 (by decide)
  have hclosing : ∀ c ∈ "\x7b/random\x7d".toList, Text.sameFolded c c :=
    List.all_eq_true.1 (by decide)
  have hneeds : (Scan.opening "\x7b/random\x7d").Needs '\x7b' := Scan.needs_opening rfl rfl
  have huntil := (hneeds.free (notMem_items h (by decide) (by decide))).until?_append (by decide)
    hclosing []
  rw [List.append_nil] at huntil
  have hfront : randomTag (choiceText items) =
      some (Text.join ['|'] (items.map String.toList), []) := by
    rw [choiceText_eq, randomTag, Scan.delimited, Scan.startsWithFolded?_append hopening,
      Option.bind_some, huntil]
  exact Scan.find?_of_front (by simp [choiceText_eq]) hfront

/-- One roll decides on the choice. -/
theorem Expand.run_choose {n : Nat} (hn : 1 ≤ n) (hne : items ≠ []) {t t' : Turn} {i : Nat}
    (hroll : (Talk.roll (pickings items).length).run t = (i, t')) {w : Text}
    (hw : (pickings items)[i]? = some w) (hbrace : '\x7b' ∉ w) :
    (choose n (choiceText items)).run t = (w, t') := by
  obtain ⟨n, rfl⟩ := Nat.exists_eq_add_of_le' hn
  have hchoice := (find?_eq_none_of_brace hbrace).1
  rw [choose, Talk.replacing, find?_randomTag h]
  dsimp only
  rw [choices_join hne h, bind_assoc, Talk.run_bind, hroll]
  dsimp only
  rw [hw, Option.getD_some, pure_bind, List.nil_append, List.append_nil,
    Talk.replacing_of_find? _ hchoice]
  rfl

end

/-- What is chosen from for an array has the characters of its items only. -/
theorem Expand.isItem_pickings {items : List String}
    (h : ∀ item ∈ items, Text.IsItem item.toList) : ∀ w ∈ pickings items, w.IsItem := by
  intro w hw
  match items with
  | [] => cases hw
  | [item] => exact fun c hc => h item List.mem_cons_self c (Text.mem_of_mem_pieces hw hc).1
  | x :: y :: items =>
    obtain ⟨item, hitem, rfl⟩ := List.mem_map.1 hw
    exact h item hitem

/-- A single item is taken apart at its spaces. -/
def TakenApart (items : List String) : Prop := ∃ item, items = [item] ∧ ' ' ∈ item.toList

/-- The items are chosen from, unless they are taken apart. -/
theorem Expand.pickings_of_not_takenApart {items : List String} (h : ¬TakenApart items) :
    pickings items = items.map String.toList := by
  match items with
  | [] => rfl
  | [item] =>
    have hspace : ' ' ∉ item.toList := fun hspace => h ⟨item, rfl, hspace⟩
    exact Text.pieces_eq_singleton fun c hc => beq_false_of_ne (ne_of_mem_of_not_mem hc hspace)
  | _ :: _ :: _ => rfl

theorem Expand.notMem_pickings_of_takenApart {items : List String} (h : TakenApart items) :
    ∀ w ∈ pickings items, ∀ item ∈ items, w ≠ item.toList := by
  obtain ⟨item, rfl, hspace⟩ := h
  intro w hw x hx
  obtain rfl := List.mem_singleton.1 hx
  rintro rfl
  have hnot := (Text.mem_of_mem_pieces hw hspace).2
  cases hnot

/-- **The item at the position that is rolled is the reply.** It never is if a single item is taken
apart. -/
theorem run_expand_array {s : Script} {name : Text} {items : List String} (hdepth : 1 ≤ s.depth)
    (hname : name ≠ [] ∧ ∀ c ∈ name, Shorthand.isNameChar c)
    (hitems : s.arrays.find? (String.ofList name) = some items) (hne : items ≠ [])
    (h : ∀ item ∈ items, Text.IsItem item.toList) (a : Speaker) (redirect : Redirect)
    (stars botstars : List String) (t : Turn) :
    (¬TakenApart items → ∀ i t', (Talk.roll items.length).run t = (i, t') →
      ∃ item, items[i]? = some item ∧
        (expand s a redirect stars botstars (arrayText name)).run t = (item.toList, t')) ∧
    (TakenApart items → ∀ item ∈ items,
      ((expand s a redirect stars botstars (arrayText name)).run t).1 ≠ item.toList) := by
  have hrun {i : Nat} {t' : Turn}
      (hroll : (Talk.roll (Expand.pickings items).length).run t = (i, t')) :
      ∃ w, (Expand.pickings items)[i]? = some w ∧
        (expand s a redirect stars botstars (arrayText name)).run t = (w, t') := by
    have hpickings : Expand.pickings items ≠ [] := by
      match items with
      | [item] => exact Text.pieces_ne_nil _ _
      | _ :: _ :: _ => exact List.cons_ne_nil _ _
    have hi : i < (Expand.pickings items).length := by
      obtain rfl : (t.dice.roll (Expand.pickings items).length).1 = i := congrArg Prod.fst hroll
      exact Nat.mod_lt _ (List.length_pos_of_ne_nil hpickings)
    have hinert := (Expand.isItem_pickings h _ (List.getElem_mem hi)).inert
    have hget := List.getElem?_eq_getElem hi
    have hformats := (Expand.find?_eq_none_of_brace hinert.brace).2.1
    have hresolve := congrArg (·.run t') (Variables.resolve_unread hinert.unread a.user)
    refine ⟨_, hget, run_expand_of_passes
      (fun hist => Expand.prepare_arrayText h hdepth hname.1 hname.2 hitems a hist stars botstars)
      (Expand.run_choose h hdepth hne hroll hget hinert.brace) (Expand.formats_eq_self s hformats)
      hresolve hinert redirect⟩
  constructor
  · intro hwhole i t' hroll
    rw [Expand.pickings_of_not_takenApart hwhole, List.length_map] at hrun
    obtain ⟨w, hw, hexpand⟩ := hrun hroll
    rw [List.getElem?_map, Option.map_eq_some_iff] at hw
    obtain ⟨item, hitem, rfl⟩ := hw
    exact ⟨item, hitem, hexpand⟩
  · intro happart item hitem
    obtain ⟨w, hw, hexpand⟩ := hrun rfl
    rw [hexpand]
    exact Expand.notMem_pickings_of_takenApart happart w (List.mem_of_getElem? hw) item hitem

/-- A script with an array of two colours, and one of a single item. -/
def painting : Script :=
  { Script.new {} with
    arrays := (Table.empty.insert "colors" ["red", "light blue"]).insert "steps" ["go go"] }

/-- A turn in which every roll is 1, or 0 if there is one choice only. -/
def secondTurn : Turn where
  vars := ∅
  globals := ∅
  sessions := .new
  dice := { rolls := fun _ => 1 }

/-- The second of two items, with its space; and never the single item, as it has one. -/
theorem run_expand_array_painting :
    (∀ item ∈ ["red", "light blue"], Text.IsItem item.toList) ∧
      (expand painting ⟨"ann", none⟩ pure [] [] "(@colors)".toList).run secondTurn =
        ("light blue".toList, { secondTurn with dice := (secondTurn.dice.roll 2).2 }) ∧
      ((expand painting ⟨"ann", none⟩ pure [] [] "(@steps)".toList).run secondTurn).1 ≠
        "go go".toList := by
  have hcolors : ∀ item ∈ ["red", "light blue"], Text.IsItem item.toList := by decide
  have hwhole : ¬TakenApart ["red", "light blue"] := by
    rintro ⟨item, hitem, -⟩
    cases hitem
  have happart : TakenApart ["go go"] := ⟨_, rfl, by decide⟩
  have hname : "colors".toList ≠ [] ∧ ∀ c ∈ "colors".toList, Shorthand.isNameChar c :=
    ⟨by decide, List.all_eq_true.1 (by decide)⟩
  have hname' : "steps".toList ≠ [] ∧ ∀ c ∈ "steps".toList, Shorthand.isNameChar c :=
    ⟨by decide, List.all_eq_true.1 (by decide)⟩
  refine ⟨hcolors, ?_, ?_⟩
  · obtain ⟨item, hitem, hexpand⟩ := (run_expand_array (s := painting) (by decide) hname (by decide)
      (by decide) hcolors ⟨"ann", none⟩ pure [] [] secondTurn).1 hwhole 1
      { secondTurn with dice := (secondTurn.dice.roll 2).2 } rfl
    cases hitem
    exact hexpand
  · exact (run_expand_array (s := painting) (by decide) hname' (by decide) (by decide) (by decide)
      ⟨"ann", none⟩ pure [] [] secondTurn).2 happart _ List.mem_cons_self

/-- The reply is one of the two words of the single item. -/
theorem run_expand_array_steps :
    painting.arrays.find? "steps" = some ["go go"] ∧
      ((expand painting ⟨"ann", none⟩ pure [] [] "(@steps)".toList).run secondTurn).1 =
        "go".toList ∧
      "go".toList ∉ ["go go"].map String.toList := by
  decide +kernel

end Repartee

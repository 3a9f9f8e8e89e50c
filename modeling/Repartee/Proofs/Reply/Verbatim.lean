import Mathlib.Data.List.Infix
import Repartee.Proofs.Reply.Prepare

/-!
# Texts in which no tag is recognised

Brackets alone make no tag. What stands between brackets and has no name that a pass looks for is
set aside and taken back, so that a text of such brackets stays as it is, however they nest.

* `tagNames`: the names that passes look for behind a bracket.
* `Text.Unread`: a text in which no name stands behind a bracket, and nothing else is recognised.
* `Text.Nameless`: a text without some names behind a bracket.
* `Text.UserOnly`, `Expand.prepare_userOnly`: the first passes recognise nothing but the user.
* `Text.Unprepared`, `Expand.prepare_unprepared`: the first passes leave it alone.
* `VariableTag.of_named?`: what stands where a variable tag is recognised.
* `Variables.step_unread`, `Variables.replacing_unread`: what is set aside can be taken back, also
  if the pass gives up early.
* **`expand_unread`**: the text stays as it is, and nothing changes.
-/

namespace Repartee

/-- The names that passes look for behind a bracket. -/
def tagNames : List String :=
  ["call", "person", "@", "formal", "sentence", "uppercase", "lowercase", "star", "botstar",
    "input", "reply", "id", "bot", "env", "set", "add", "sub", "mult", "div", "get"]

/-- A text without the characters and the pair that blocks, escapes, arrays and marks begin with,
and without a bracket that a name in any letter case follows. -/
structure Text.Unread (t : Text) : Prop where
  brace : '\x7b' ∉ t
  escape : '\\' ∉ t
  array : ¬['(', '@'] <:+: t
  marks : t.Clear 4
  names : ∀ u ∈ t.tails, ∀ name ∈ tagNames, startsWithFolded? ('<' :: name.toList) u = none

variable {t u : Text}

/-- An array is found where its opening is. -/
theorem Shorthand.find?_arrayTag (h : ¬['(', '@'] <:+: t) : arrayTag.find? t = none := by
  induction t with
  | nil => rfl
  | cons c cs ih =>
    have htag : arrayTag (c :: cs) = none := by
      have hopening : "(@".toList = ['(', '@'] := by decide
      by_cases hc : c = '('
      · cases cs with
        | nil => simp [arrayTag, Scan.delimited, hopening, Text.startsWithFolded?]
        | cons d ds =>
          have hd : d ≠ '@' := by
            rintro rfl
            exact h ⟨[], ds, by rw [hc]; rfl⟩
          have hfolded : Text.sameFolded '@' d = false := Text.sameFolded_of_ne rfl hd
          simp [arrayTag, Scan.delimited, hopening, Text.startsWithFolded?, hfolded]
      · exact (Scan.needs_delimited rfl rfl : arrayTag.Needs '(') c cs hc
    rw [Scan.find?, htag, ih fun hcs => h (hcs.trans (List.suffix_cons c cs).isInfix)]
    rfl

/-! ## The first passes -/

/-- The names that the first passes look for behind a bracket. -/
def firstNames : List String :=
  ["call", "person", "@", "formal", "sentence", "uppercase", "lowercase", "star", "botstar",
    "input", "reply", "id"]

/-- A text in which the first passes recognise nothing. -/
structure Text.Unprepared (t : Text) : Prop where
  brace : '\x7b' ∉ t
  escape : '\\' ∉ t
  array : ¬['(', '@'] <:+: t
  parked : '\x00' ∉ t
  names : ∀ u, u <:+ t → ∀ name ∈ firstNames, startsWithFolded? ('<' :: name.toList) u = none

theorem Text.Unread.unprepared (h : t.Unread) : t.Unprepared where
  brace := h.brace
  escape := h.escape
  array := h.array
  parked := h.marks.notMem (by decide)
  names u hu name hname :=
    h.names u ((List.mem_tails u t).2 hu) name ((by decide : firstNames ⊆ tagNames) hname)

/-- No name of a list stands behind a bracket of a text. -/
def Text.Nameless (names : List String) (t : Text) : Prop :=
  ∀ u, u <:+ t → ∀ name ∈ names, startsWithFolded? ('<' :: name.toList) u = none

namespace Text.Nameless

variable {names : List String}

theorem of_free (h : ∀ name ∈ names, (Scan.opening ("<" ++ name)).Free t) : t.Nameless names := by
  intro u hu name hname
  cases u with
  | nil => rfl
  | cons c cs =>
    have hfront := Option.map_eq_none_iff.1 ((h name hname).eq_none_of_suffix (by simp) hu)
    rwa [String.toList_append] at hfront

/-- No opening that has a name behind its bracket is in such a text. -/
theorem startsWithFolded? (h : t.Nameless names) {o : Text}
    (ho : ∃ name ∈ names, ('<' :: name.toList) <+: o) (hu : u <:+ t) :
    Text.startsWithFolded? o u = none := by
  obtain ⟨name, hname, os, rfl⟩ := ho
  exact Scan.startsWithFolded?_append_eq_none (h u hu name hname)

theorem find?_delimited (h : t.Nameless names) {opening : String}
    (ho : ∃ name ∈ names, ('<' :: name.toList) <+: opening.toList) (allowed : Char → Bool)
    (least : Nat) (closing : String) :
    (Scan.delimited opening allowed least closing).find? t = none :=
  Scan.find?_eq_none_of_suffix fun u hu => by
    rw [Scan.delimited, h.startsWithFolded? ho hu]
    rfl

theorem find?_opening (h : t.Nameless names) {s : String}
    (ho : ∃ name ∈ names, ('<' :: name.toList) <+: s.toList) :
    (Scan.opening s).find? t = none :=
  Scan.find?_eq_none_of_suffix fun u hu => by
    rw [Scan.opening, h.startsWithFolded? ho hu]
    rfl

theorem find?_historyTag (h : t.Nameless names)
    (hinput : ∃ name ∈ names, ('<' :: name.toList) <+: "<input".toList)
    (hreply : ∃ name ∈ names, ('<' :: name.toList) <+: "<reply".toList) :
    Shorthand.historyTag.find? t = none :=
  Scan.find?_eq_none_of_suffix fun u hu => by
    rw [Shorthand.historyTag, h.startsWithFolded? hinput hu, h.startsWithFolded? hreply hu]
    rfl

end Text.Nameless

/-- The names that the first passes look for, without that of the user. -/
def textNames : List String := firstNames.erase "id"

/-- A text in which the first passes recognise nothing but the tag of the user. -/
structure Text.UserOnly (t : Text) : Prop where
  brace : '\x7b' ∉ t
  array : Shorthand.arrayTag.find? t = none
  parked : '\x00' ∉ t
  names : t.Nameless textNames

theorem Text.Unprepared.userOnly (h : t.Unprepared) : t.UserOnly where
  brace := h.brace
  array := Shorthand.find?_arrayTag h.array
  parked := h.parked
  names u hu name hname := h.names u hu name (List.mem_of_mem_erase hname)

/-- In such a text the first passes put the user in place, and take escapes away. -/
theorem Expand.prepare_userOnly (h : t.UserOnly) (s : Script) (a : Speaker) (hist : History)
    (stars botstars : List String) :
    prepare s a hist stars botstars t = Shorthand.unescape (Shorthand.user a.user t) := by
  have hdelimited {opening closing : String} {allowed : Char → Bool} {least : Nat}
      (ho : ∃ name ∈ textNames, ('<' :: name.toList) <+: opening.toList) (f : Text → Text) :
      (Scan.delimited opening allowed least closing).replaceAll f t = t :=
    Scan.replaceAll_of_find? (h.names.find?_delimited ho _ _ _)
  have hopening {o : String} (ho : ∃ name ∈ textNames, ('<' :: name.toList) <+: o.toList)
      (f : Unit → Text) : (Scan.opening o).replaceAll f t = t :=
    Scan.replaceAll_of_find? (h.names.find?_opening ho)
  have htags : Shorthand.tags t = t := by
    have hshort : ∀ e ∈ Shorthand.shortTags,
        ∃ name ∈ textNames, ('<' :: name.toList) <+: e.1.toList := by decide
    refine Shorthand.tags_induction (Q := fun u => u = t) rfl fun e he u hu => ?_
    rw [hu, hopening (hshort e he)]
  rw [prepare, Shorthand.arrays_eq_self h.array h.parked, Call.wrap, hdelimited (by decide), htags,
    Metadata.stripWeight_eq_self h.brace, Shorthand.stars, hdelimited (by decide),
    hdelimited (by decide), Shorthand.history,
    Scan.replaceAll_of_find? (h.names.find?_historyTag (by decide) (by decide))]

/-- The first passes leave a text alone in which they recognise nothing. -/
theorem Expand.prepare_unprepared (h : t.Unprepared) (s : Script) (a : Speaker) (hist : History)
    (stars botstars : List String) : prepare s a hist stars botstars t = t := by
  have hnames : t.Nameless firstNames := h.names
  rw [prepare_userOnly h.userOnly, Shorthand.user,
    Scan.replaceAll_of_find? (hnames.find?_opening (by decide)),
    Shorthand.unescape_eq_self h.escape]

theorem Expand.prepare_unread (h : t.Unread) (s : Script) (a : Speaker) (hist : History)
    (stars botstars : List String) : prepare s a hist stars botstars t = t :=
  prepare_unprepared h.unprepared s a hist stars botstars

/-! ## Variable tags -/

/-- A variable tag has one of the names in any letter case. -/
theorem VariableTag.of_named? {name : Text} {tag : VariableTag} (h : named? name = some tag) :
    ∃ n ∈ tagNames, name.map Char.toLower = n.toList := by
  have hmem := Table.mem_of_lookup_eq_some h
  have hnames : String.ofList (name.map Char.toLower) ∈ tagNames :=
    (by decide : ∀ e ∈ _, e.1 ∈ tagNames) _ hmem
  exact ⟨_, hnames, String.toList_ofList.symm⟩

/-- A text begins with a name in any letter case. -/
theorem Text.startsWithFolded?_of_map_toLower (u : Text) : ∀ {o name : Text},
    name.map Char.toLower = o → startsWithFolded? o (name ++ u) = some u
  | _, [], rfl => rfl
  | _, c :: cs, rfl => by
    have hc : sameFolded c.toLower c = true := by simp [sameFolded]
    rw [List.map_cons, List.cons_append, startsWithFolded?, if_pos hc,
      startsWithFolded?_of_map_toLower u rfl]

namespace Variables

variable {user : String} {before body after : Text}

@[simp] theorem unpark_append (t u : Text) : unpark (t ++ u) = unpark t ++ unpark u :=
  List.map_append

theorem unpark_angle (t : Text) : unpark ('<' :: t) = '<' :: unpark t := by simp [unpark]

/-- Letters stay what they are when brackets are taken back. -/
theorem unpark_name {name : Text} {n : String} (hn : n ∈ tagNames)
    (h : name.map Char.toLower = n.toList) : unpark name = name := by
  have hlow : ∀ n ∈ tagNames, '\x00' ∉ n.toList ∧ '\x01' ∉ n.toList := by decide
  have hnot (c : Char) (hc : c.toLower ∉ n.toList) : c ∉ name := fun hmem =>
    hc (h ▸ List.mem_map_of_mem hmem)
  exact unpark_eq_self ⟨hnot _ (hlow n hn).1, hnot _ (hlow n hn).2⟩

/-- What is around the first tag without another one inside. -/
theorem find?_innermost_eq_some (h : innermost.find? u = some (before, body, after)) :
    u = before ++ '<' :: (body ++ '>' :: after) := by
  obtain ⟨v, rfl, hv⟩ := Scan.find?_eq_some h
  obtain ⟨o, cl, rfl, ho, hcl, -⟩ := Scan.delimited_eq_some hv
  rw [Scan.Folds.eq_singleton rfl ho, Scan.Folds.eq_singleton rfl hcl]
  rfl

/-- What stands between brackets in an unread text is set aside. -/
theorem step_unread (h : t.Unread) (hu : unpark (before ++ '<' :: (body ++ '>' :: after)) = t) :
    step user body = pure (park body) := by
  have hname : ∃ name rest, (Text.cut? ' ' body).getD (body, []) = (name, rest) ∧ name <+: body := by
    cases hcut : Text.cut? ' ' body with
    | none => exact ⟨body, [], rfl, List.prefix_rfl⟩
    | some parts =>
      obtain ⟨hbody, -⟩ := Text.cut?_eq_some hcut
      exact ⟨_, _, rfl, _, hbody.symm⟩
  obtain ⟨name, data, hcut, rest, hbody⟩ := hname
  rw [step, hcut]
  dsimp only
  cases hnamed : VariableTag.named? name with
  | none => rfl
  | some tag =>
    obtain ⟨n, hn, hlower⟩ := VariableTag.of_named? hnamed
    have hopening : Text.startsWithFolded? ('<' :: n.toList)
        ('<' :: (name ++ unpark (rest ++ '>' :: after))) = some (unpark (rest ++ '>' :: after)) := by
      rw [Text.startsWithFolded?, if_pos (by decide), Text.startsWithFolded?_of_map_toLower _ hlower]
    have hsuffix : '<' :: (name ++ unpark (rest ++ '>' :: after)) ∈ t.tails := by
      rw [List.mem_tails, ← hu, ← hbody, unpark_append before, unpark_angle, List.append_assoc,
        unpark_append name, unpark_name hn hlower]
      exact List.suffix_append _ _
    rw [h.names _ hsuffix n hn] at hopening
    cases hopening

/-- **What is set aside can be taken back**, when the pass is over or when it gives up. -/
theorem replacing_unread (user : String) (h : t.Unread) : ∀ (n : Nat) {u : Text}, unpark u = t →
    ∃ v, Talk.replacing innermost (step user) n u = pure v ∧ unpark v = t
  | 0, u, hu => ⟨u, rfl, hu⟩
  | n + 1, u, hu => by
    rw [Talk.replacing]
    split
    · exact ⟨u, rfl, hu⟩
    · rename_i before body after hfind
      obtain rfl := find?_innermost_eq_some hfind
      rw [step_unread h hu, pure_bind]
      refine replacing_unread user h n ?_
      rw [← hu]
      simp [park, unpark]

theorem resolve_unread (h : t.Unread) (user : String) : resolve user t = pure t := by
  have hparked : unpark t = t :=
    unpark_eq_self ⟨h.marks.notMem (by decide), h.marks.notMem (by decide)⟩
  obtain ⟨v, hv, hunpark⟩ := replacing_unread user h limit hparked
  rw [resolve, hv, map_pure, hunpark]

end Variables

/-- **A text in which no tag is recognised stays as it is when it is expanded, and nothing
changes.** -/
theorem expand_unread (h : t.Unread) (s : Script) (a : Speaker) (redirect : Redirect)
    (stars botstars : List String) : expand s a redirect stars botstars t = pure t := by
  obtain ⟨hchoice, hformats, htopic, hredirect⟩ := Expand.find?_eq_none_of_brace h.brace
  have hcall : '\x02' ∉ t := h.marks.notMem (by decide)
  simp only [expand, Expand.prepare_unread h, Expand.choose, Talk.replacing_of_find? _ hchoice,
    pure_bind, Expand.formats_eq_self s hformats, Variables.resolve_unread h, Expand.topics,
    Talk.replacing_of_find? _ htopic, Expand.redirects, Talk.replacing_of_find? _ hredirect,
    Call.runAll, Talk.replacing_of_find? _ (Call.needs_marked.find?_eq_none hcall), map_pure,
    Call.unmark_eq_self hcall]
  rfl

/-- Unknown, nested, empty and unbalanced brackets stay. -/
theorem expand_unread_brackets :
    Text.Unread "<hello <your name>> <> a<b> > < <".toList ∧
      expand (.new {}) ⟨"ann", none⟩ pure ["bob"] [] "<hello <your name>> <> a<b> > < <".toList =
        pure "<hello <your name>> <> a<b> > < <".toList := by
  have h : Text.Unread "<hello <your name>> <> a<b> > < <".toList :=
    ⟨by decide, by decide, by decide, Text.clear_of_all (Nat.le_refl 4) (by decide), by decide⟩
  exact ⟨h, expand_unread h (.new {}) ⟨"ann", none⟩ pure ["bob"] []⟩

end Repartee

import Repartee.Proofs.Text.Clear
import Repartee.Reply.Calls

/-!
# Marked calls

What becomes of marks where they belong: what is in a call can be read, and none is left behind.

* `Text.Free`: in a text, whatever follows it, no occurrence of another one begins.
* `Call.Marked`: a text whose marks are where they belong; `Call.marked_wrap`.
* **`Call.Marked.replaceAll`**: replacing what has no mark in it leaves the marks where they belong.
* `Call.inner`, `Call.read_inner`: what stands in a call, and how it is read.
* **`Call.Marked.find?`**: the first call of a text.
* **`Call.Marked.clear_unmark`**: no mark stays in a text.
-/

namespace Repartee

/-! ## Occurrences -/

namespace Text

/-- No occurrence of a text begins in `t`, whatever follows. -/
def Free (sep : Text) : (t : Text) → Prop
  | [] => True
  | c :: cs => (∀ u, startsWith? sep (c :: cs ++ u) = none) ∧ Free sep cs

variable {sep t u : Text}

theorem free_iff : ∀ {t : Text}, Free sep t ↔ (Scan.exactly sep).Free t
  | [] => Iff.rfl
  | _ :: _ => and_congr (forall_congr' fun _ => Option.map_eq_none_iff.symm) free_iff

theorem Free.append (ht : Free sep t) (hu : Free sep u) : Free sep (t ++ u) :=
  free_iff.2 ((free_iff.1 ht).append (free_iff.1 hu))

theorem free_flatMap {α : Type} {f : α → Text} {as : List α} (h : ∀ a ∈ as, Free sep (f a)) :
    Free sep (as.flatMap f) :=
  free_iff.2 (Scan.free_flatMap fun a ha => free_iff.1 (h a ha))

theorem free_of_notMem {o : Char} {os : Text} (h : o ∉ t) : Free (o :: os) t :=
  free_iff.2 ((Scan.needs_exactly o os).free h)

theorem startsWith?_append : ∀ o t : Text, startsWith? o (o ++ t) = some t
  | [], _ => rfl
  | c :: cs, t => by rw [List.cons_append, startsWith?, if_pos rfl, startsWith?_append cs t]

theorem Free.cutAt? (u : Text) : ∀ {t : Text}, Free sep t →
    cutAt? sep (t ++ u) = (cutAt? sep u).map fun r => (t ++ r.1, r.2)
  | [], _ => by simp
  | c :: cs, ⟨hc, hcs⟩ => by
    rw [List.cons_append, Text.cutAt?, ← List.cons_append, hc u]
    dsimp only
    rw [hcs.cutAt? u, Option.map_map]
    rfl

/-- A text is cut at a separator that occurs nowhere before. -/
theorem Free.cutAt?_append (h : Free sep t) (hsep : sep ≠ []) (u : Text) :
    Text.cutAt? sep (t ++ (sep ++ u)) = some (t, u) := by
  obtain ⟨o, os, rfl⟩ := List.exists_cons_of_ne_nil hsep
  have hfront : Text.cutAt? (o :: os) (o :: os ++ u) = some ([], u) := by
    rw [List.cons_append, Text.cutAt?, ← List.cons_append, startsWith?_append]
  rw [h.cutAt?, hfront]
  simp

theorem Free.cutAt?_eq_none (h : Free sep t) : Text.cutAt? sep t = none := by
  have hcut := h.cutAt? []
  rw [List.append_nil] at hcut
  rw [hcut]
  rfl

theorem Free.replace (new u : Text) (h : Free sep t) :
    Text.replace sep new (t ++ u) = t ++ Text.replace sep new u :=
  (free_iff.1 h).replaceAll_append u

theorem replace_append (hsep : sep ≠ []) (new u : Text) :
    Text.replace sep new (sep ++ u) = new ++ Text.replace sep new u := by
  have hfront : Scan.exactly sep (sep ++ u) = some ((), u) := by
    rw [Scan.exactly, startsWith?_append]
    rfl
  exact Scan.replaceAll_append hsep hfront

end Text

namespace Call

variable {n : Nat} {t u : Text}

/-! ## Marks -/

theorem callOpen_eq : callOpen = ['\x02', 'c', 'a', 'l', 'l', '\x03'] := by decide

theorem callClose_eq : callClose = ['\x02', '/', 'c', 'a', 'l', 'l', '\x03'] := by decide

theorem argOpen_eq : argOpen = ['\x02', 'a', 'r', 'g', '\x03'] := by decide

theorem argClose_eq : argClose = ['\x02', '/', 'a', 'r', 'g', '\x03'] := by decide

/-- The marks in the order in which they are taken away. -/
def marks : List Text := [callOpen, callClose, argOpen, argClose]

/-- No mark begins in another one. -/
theorem free_of_mem_marks {m m' : Text} (hm : m ∈ marks) (hm' : m' ∈ marks) (hne : m ≠ m') :
    Text.Free m m' := by
  have hsymm : Std.Symm fun m m' => Text.Free m m' ∧ Text.Free m' m := ⟨fun _ _ => And.symm⟩
  have hpairs : marks.Pairwise fun m m' => Text.Free m m' ∧ Text.Free m' m := by
    simp [marks, callOpen_eq, callClose_eq, argOpen_eq, argClose_eq, Text.Free, Text.startsWith?]
  exact (hpairs.forall hm hm' hne).1

/-- A mark begins with a character that no clear text has. -/
theorem exists_of_mem_marks {m : Text} (hm : m ∈ marks) : ∃ os, m = '\x02' :: os := by
  simp only [marks, List.mem_cons, List.not_mem_nil, or_false] at hm
  rcases hm with rfl | rfl | rfl | rfl
  · exact ⟨_, callOpen_eq⟩
  · exact ⟨_, callClose_eq⟩
  · exact ⟨_, argOpen_eq⟩
  · exact ⟨_, argClose_eq⟩

theorem free_of_clear (hlow : 2 < n) {m : Text} (hm : m ∈ marks) (h : t.Clear n) :
    Text.Free m t := by
  obtain ⟨os, rfl⟩ := exists_of_mem_marks hm
  exact Text.free_of_notMem (h.notMem hlow)

theorem notMem_of_mem_marks {c : Char} (h : (marks.all fun m => !m.contains c) = true) {m : Text}
    (hm : m ∈ marks) : c ∉ m := by
  simpa using List.all_eq_true.1 h m hm

/-! ## Marks where they belong -/

/-- Where a text begins: outside of calls, in a call, or in an argument of a call. -/
inductive Spot where
  | outside
  | call
  | argument
  deriving DecidableEq, Repr

/-- A text of clear characters and of marks that lead from a spot to the outside. -/
inductive Marked (n : Nat) : Spot → Text → Prop
  | nil : Marked n .outside []
  | char {q : Spot} {c : Char} {t : Text} : n ≤ c.toNat → Marked n q t → Marked n q (c :: t)
  | openCall {t : Text} : Marked n .call t → Marked n .outside (callOpen ++ t)
  | closeCall {t : Text} : Marked n .outside t → Marked n .call (callClose ++ t)
  | openArg {t : Text} : Marked n .argument t → Marked n .call (argOpen ++ t)
  | closeArg {t : Text} : Marked n .call t → Marked n .argument (argClose ++ t)

namespace Marked

variable {q : Spot}

theorem clear_append (hu : u.Clear n) (ht : Marked n q t) : Marked n q (u ++ t) := by
  induction u with
  | nil => exact ht
  | cons c cs ih =>
    obtain ⟨hc, hcs⟩ := Text.clear_cons.1 hu
    exact .char hc (ih hcs)

/-- A text that begins with a character, or with a mark and thus with `U+0002`. -/
theorem of_cons {c : Char} (hc : '\x02' ≠ c) (h : Marked n q (c :: t)) : Marked n q t := by
  have hmark {m v : Text} (hm : m ∈ marks) (heq : c :: t = m ++ v) : False := by
    obtain ⟨os, rfl⟩ := exists_of_mem_marks hm
    exact hc (List.cons.inj heq).1.symm
  generalize heq : c :: t = w at h
  cases h with
  | nil => cases heq
  | char _ h =>
    cases heq
    exact h
  | openCall => exact (hmark (by simp [marks]) heq).elim
  | closeCall => exact (hmark (by simp [marks]) heq).elim
  | openArg => exact (hmark (by simp [marks]) heq).elim
  | closeArg => exact (hmark (by simp [marks]) heq).elim

theorem of_append : ∀ {u : Text}, '\x02' ∉ u → Marked n q (u ++ t) → Marked n q t
  | [], _, h => h
  | _ :: _, hu, h =>
    have hne := List.ne_and_not_mem_of_not_mem_cons hu
    of_append hne.2 (of_cons hne.1 h)

/-- **Clear texts in the place of what has no mark in it leave the marks where they belong.** -/
theorem replaceAll {α : Type} {p : Scan α} {f : α → Text} {o : Char} (hp : p.Avoids '\x02')
    (hneeds : p.Needs o) (ho : (marks.all fun m => !m.contains o) = true)
    (hf : ∀ a, (f a).Clear n) (h : Marked n q t) : Marked n q (p.replaceAll f t) := by
  have hskip {m : Text} (hm : m ∈ marks) (u : Text) :
      p.replaceAll f (m ++ u) = m ++ p.replaceAll f u :=
    hneeds.replaceAll_notMem u (notMem_of_mem_marks ho hm)
  have hshort {m : Text} (hm : m ∈ marks) (u : Text) : u.length < (m ++ u).length := by
    obtain ⟨os, rfl⟩ := exists_of_mem_marks hm
    simp only [List.length_append, List.length_cons]
    omega
  -- what is recognised may be long, so that the induction is on the length of the text
  induction hlength : t.length using Nat.strong_induction_on generalizing q t with
  | h k ih =>
    subst hlength
    cases h with
    | nil => exact .nil
    | @char _ c t hc ht =>
      cases hfront : p (c :: t) with
      | none =>
        have hrest := ih _ (Nat.lt_succ_self t.length) ht rfl
        rw [Scan.replaceAll, Scan.replaceFrom, hfront]
        exact .char hc hrest
      | some found =>
        obtain ⟨a, rest⟩ := found
        obtain ⟨u, hu, hne, hnot⟩ := hp hfront
        have hrest : Marked n q rest := of_append hnot (hu ▸ .char hc ht)
        have hshorter : rest.length < (c :: t).length := by
          rw [hu, List.length_append]
          exact Nat.lt_add_of_pos_left (List.length_pos_iff.2 hne)
        rw [hu] at hfront ⊢
        rw [Scan.replaceAll_append hne hfront]
        exact clear_append (hf a) (ih _ hshorter hrest rfl)
    | @openCall t ht =>
      rw [hskip (by simp [marks])]
      exact .openCall (ih _ (hshort (by simp [marks]) t) ht rfl)
    | @closeCall t ht =>
      rw [hskip (by simp [marks])]
      exact .closeCall (ih _ (hshort (by simp [marks]) t) ht rfl)
    | @openArg t ht =>
      rw [hskip (by simp [marks])]
      exact .openArg (ih _ (hshort (by simp [marks]) t) ht rfl)
    | @closeArg t ht =>
      rw [hskip (by simp [marks])]
      exact .closeArg (ih _ (hshort (by simp [marks]) t) ht rfl)

end Marked

theorem callWords_subset {w : Text} (h : w ∈ callWords t) : w ⊆ t := by
  have hfrom : ∀ (t current : Text) (quoted pending : Bool),
      ∀ w ∈ callWordsFrom current quoted pending t, ∀ c ∈ w, c ∈ current ∨ c ∈ t := by
    intro t
    induction t with
    | nil =>
      intro current quoted pending w hw c hc
      rw [callWordsFrom] at hw
      split at hw
      · rw [List.mem_singleton.1 hw] at hc
        exact .inl (List.mem_reverse.1 hc)
      · exact absurd hw List.not_mem_nil
    | cons d ds ih =>
      intro current quoted pending w hw c hc
      rw [callWordsFrom] at hw
      split at hw
      · exact (ih _ _ _ w hw c hc).imp_right (List.mem_cons_of_mem d)
      · split at hw
        · split at hw
          · rcases List.mem_cons.1 hw with rfl | hw
            · exact .inl (List.mem_reverse.1 hc)
            · exact .inr (List.mem_cons_of_mem d ((ih _ _ _ w hw c hc).resolve_left
                List.not_mem_nil))
          · exact (ih _ _ _ w hw c hc).imp_right (List.mem_cons_of_mem d)
        · rcases ih _ _ _ w hw c hc with h | h
          · rcases List.mem_cons.1 h with rfl | h
            · exact .inr List.mem_cons_self
            · exact .inl h
          · exact .inr (List.mem_cons_of_mem d h)
  exact fun c hc => (hfrom t [] false false w h c hc).resolve_left List.not_mem_nil

/-- **Marking the calls of a clear text puts the marks where they belong.** -/
theorem marked_wrap (hn : n ≤ 4) (h : t.Clear n) : Marked n .outside (wrap t) := by
  have hargs : ∀ {args : List Text}, (∀ a ∈ args, a.Clear n) → ∀ {u : Text}, Marked n .outside u →
      Marked n .call ((args.flatMap fun a => ' ' :: argOpen ++ a ++ argClose) ++
        (callClose ++ u)) := by
    intro args
    induction args with
    | nil => exact fun _ _ hu => .closeCall hu
    | cons a args ih =>
      intro hargs u hu
      rw [List.forall_mem_cons] at hargs
      have hrest := Marked.openArg ((Marked.closeArg (ih hargs.2 hu)).clear_append hargs.1)
      simpa using Marked.char (hn.trans (by decide) : n ≤ ' '.toNat) hrest
  refine (Scan.within_delimited _ _ _ _).replaceAll_induction .nil (fun _ _ hc hu => .char hc hu)
    (fun text u htext hu => ?_) h
  have hwords : ∀ w ∈ callWords text, w.Clear n := fun w hw =>
    Text.Clear.subset htext (callWords_subset hw)
  cases hsplit : callWords text with
  | nil =>
    rw [mark, List.append_assoc]
    exact .openCall (.closeCall hu)
  | cons name args =>
    rw [hsplit, List.forall_mem_cons] at hwords
    simp only [mark, List.append_assoc]
    exact .openCall ((hargs hwords.2 hu).clear_append hwords.1)

/-! ## What stands in a call -/

/-- What stands between the marks of a call: a name, and arguments with a gap behind each. -/
def inner (name : Text) (args : List (Text × Text)) : Text :=
  name ++ args.flatMap fun a => argOpen ++ (a.1 ++ (argClose ++ a.2))

/-- The name, the arguments and the gaps are clear. -/
structure ClearInner (n : Nat) (name : Text) (args : List (Text × Text)) : Prop where
  name : name.Clear n
  args : ∀ a ∈ args, a.1.Clear n ∧ a.2.Clear n

theorem Marked.exists_inner (h : Marked n .call t) : ∃ name args rest, ClearInner n name args ∧
    t = inner name args ++ (callClose ++ rest) ∧ Marked n .outside rest := by
  have hspots : ∀ {q : Spot} {t : Text}, Marked n q t →
      match q with
      | .outside => True
      | .call => ∃ name args rest, ClearInner n name args ∧
        t = inner name args ++ (callClose ++ rest) ∧ Marked n .outside rest
      | .argument => ∃ a gap args rest, a.Clear n ∧ ClearInner n gap args ∧
        t = a ++ (argClose ++ (inner gap args ++ (callClose ++ rest))) ∧
          Marked n .outside rest := by
    intro q t h
    induction h with
    | nil => trivial
    | @char q c t hc ht ih =>
      have hone {u : Text} (hu : u.Clear n) : Text.Clear n (c :: u) := Text.clear_cons.2 ⟨hc, hu⟩
      cases q with
      | outside => trivial
      | call =>
        obtain ⟨name, args, rest, hinner, rfl, hrest⟩ := ih
        exact ⟨c :: name, args, rest, ⟨hone hinner.name, hinner.args⟩, rfl, hrest⟩
      | argument =>
        obtain ⟨a, gap, args, rest, ha, hinner, rfl, hrest⟩ := ih
        exact ⟨c :: a, gap, args, rest, hone ha, hinner, rfl, hrest⟩
    | openCall => trivial
    | @closeCall t ht =>
      exact ⟨[], [], t, ⟨Text.clear_nil, fun _ ha => absurd ha List.not_mem_nil⟩, rfl, ht⟩
    | openArg ht ih =>
      obtain ⟨a, gap, args, rest, ha, hinner, rfl, hrest⟩ := ih
      refine ⟨[], (a, gap) :: args, rest, ⟨Text.clear_nil, ?_⟩, ?_, hrest⟩
      · exact List.forall_mem_cons.2 ⟨⟨ha, hinner.name⟩, hinner.args⟩
      · simp [inner]
    | closeArg ht ih =>
      obtain ⟨name, args, rest, hinner, rfl, hrest⟩ := ih
      exact ⟨[], name, args, rest, Text.clear_nil, hinner, rfl, hrest⟩
  exact hspots h

theorem free_inner (hlow : 2 < n) {name : Text} {args : List (Text × Text)}
    (h : ClearInner n name args) : Text.Free callClose (inner name args) := by
  have hclear {u : Text} (hu : u.Clear n) : Text.Free callClose u :=
    free_of_clear hlow (by simp [marks]) hu
  have hopen : Text.Free callClose argOpen :=
    free_of_mem_marks (by simp [marks]) (by simp [marks]) (by decide)
  have hclose : Text.Free callClose argClose :=
    free_of_mem_marks (by simp [marks]) (by simp [marks]) (by decide)
  refine (hclear h.name).append (Text.free_flatMap fun a ha => ?_)
  obtain ⟨harg, hgap⟩ := h.args a ha
  exact hopen.append ((hclear harg).append (hclose.append (hclear hgap)))

theorem length_le_length_flatMap {α : Type} {f : α → Text} (h : ∀ a, f a ≠ []) :
    ∀ as : List α, as.length ≤ (as.flatMap f).length
  | [] => Nat.le_refl 0
  | a :: as => by
    have ha := List.length_pos_iff.2 (h a)
    have ih := length_le_length_flatMap h as
    rw [List.flatMap_cons, List.length_append, List.length_cons]
    omega

/-- The pieces of what stands in a call are the name and the arguments, each with its gap. -/
theorem piecesAt_inner (hlow : 2 < n) : ∀ {args : List (Text × Text)} {name : Text} {k : Nat},
    Text.Free argOpen name → (∀ a ∈ args, a.1.Clear n ∧ a.2.Clear n) → args.length ≤ k →
      piecesAt argOpen k (inner name args) =
        name :: args.map fun a => a.1 ++ (argClose ++ a.2)
  | [], name, k, hname, _, _ => by
    cases k with
    | zero => simp [piecesAt, inner]
    | succ k => simp [piecesAt, inner, hname.cutAt?_eq_none]
  | a :: args, name, k + 1, hname, hargs, hk => by
    rw [List.forall_mem_cons] at hargs
    have hclear {u : Text} (hu : u.Clear n) : Text.Free argOpen u :=
      free_of_clear hlow (by simp [marks]) hu
    have hclose : Text.Free argOpen argClose :=
      free_of_mem_marks (by simp [marks]) (by simp [marks]) (by decide)
    have hpiece : Text.Free argOpen (a.1 ++ (argClose ++ a.2)) :=
      (hclear hargs.1.1).append (hclose.append (hclear hargs.1.2))
    have hcut : Text.cutAt? argOpen (inner name (a :: args)) =
        some (name, inner (a.1 ++ (argClose ++ a.2)) args) := by
      rw [inner, List.flatMap_cons, List.append_assoc argOpen, hname.cutAt?_append (by decide)]
      rfl
    rw [piecesAt, hcut]
    dsimp only
    rw [piecesAt_inner hlow hpiece hargs.2 (Nat.le_of_succ_le_succ hk), List.map_cons]

/-- **What stands in a call is read as its name and its arguments.** -/
theorem read_inner (hlow : 2 < n) {name : Text} {args : List (Text × Text)}
    (h : ClearInner n name args) : read (inner name args) = (name.trim, args.map (·.1)) := by
  have hlength : args.length ≤ (inner name args).length := by
    rw [inner, List.length_append]
    refine Nat.le_add_left_of_le (length_le_length_flatMap (fun a => ?_) args)
    rw [argOpen_eq]
    exact List.cons_ne_nil _ _
  have hname : Text.Free argOpen name := free_of_clear hlow (by simp [marks]) h.name
  have harg : ∀ a ∈ args, ((Text.cutAt? argClose (a.1 ++ (argClose ++ a.2))).map (·.1)).getD
      (a.1 ++ (argClose ++ a.2)) = a.1 := by
    intro a ha
    have hfree : Text.Free argClose a.1 := free_of_clear hlow (by simp [marks]) (h.args a ha).1
    rw [hfree.cutAt?_append (by decide)]
    rfl
  rw [read, piecesAt_inner hlow hname h.args hlength]
  dsimp only
  rw [List.map_map]
  exact congrArg _ (List.map_congr_left harg)

/-! ## The first call -/

theorem needs_marked : marked.Needs '\x02' := by
  intro c cs hc
  simp [marked, callOpen_eq, Text.startsWith?, hc]

/-- A call in front of a text. -/
theorem find?_marked (hlow : 2 < n) {name : Text} {args : List (Text × Text)}
    (h : ClearInner n name args) (rest : Text) :
    marked.find? (callOpen ++ (inner name args ++ (callClose ++ rest))) =
      some ([], inner name args, rest) := by
  have hfront : marked (callOpen ++ (inner name args ++ (callClose ++ rest))) =
      some (inner name args, rest) := by
    rw [marked, Text.startsWith?_append, Option.bind_some,
      (free_inner hlow h).cutAt?_append (by decide)]
  rw [callOpen_eq] at hfront ⊢
  rw [List.cons_append] at hfront ⊢
  rw [Scan.find?, hfront]

/-- **What is around the first call, and in it.** -/
theorem Marked.find? (hlow : 2 < n) (h : Marked n .outside t) {before body after : Text}
    (hfind : marked.find? t = some (before, body, after)) :
    before.Clear n ∧ (∃ name args, ClearInner n name args ∧ body = inner name args) ∧
      Marked n .outside after := by
  generalize hq : Spot.outside = q at h
  induction h generalizing before with
  | nil => cases hfind
  | @char q c t hc ht ih =>
    have hne : c ≠ '\x02' := by
      rintro rfl
      exact absurd hc (Nat.not_le.2 hlow)
    rw [Scan.find?, needs_marked c t hne] at hfind
    obtain ⟨⟨u, a, v⟩, hr, he⟩ := Option.map_eq_some_iff.1 hfind
    cases he
    obtain ⟨hu, hrest⟩ := ih hr hq
    exact ⟨Text.clear_cons.2 ⟨hc, hu⟩, hrest⟩
  | openCall ht _ =>
    obtain ⟨name, args, rest, hinner, rfl, hrest⟩ := ht.exists_inner
    rw [find?_marked hlow hinner] at hfind
    cases hfind
    exact ⟨Text.clear_nil, ⟨name, args, hinner, rfl⟩, hrest⟩
  | closeCall | openArg | closeArg => cases hq

/-! ## Marks that are left -/

/-- A text made of clear characters and some marks. -/
inductive MadeOf (n : Nat) (ms : List Text) : Text → Prop
  | nil : MadeOf n ms []
  | char {c : Char} {t : Text} : n ≤ c.toNat → MadeOf n ms t → MadeOf n ms (c :: t)
  | mark {m t : Text} : m ∈ ms → MadeOf n ms t → MadeOf n ms (m ++ t)

namespace MadeOf

variable {m : Text} {ms : List Text}

theorem clear_append (hu : u.Clear n) (ht : MadeOf n ms t) : MadeOf n ms (u ++ t) := by
  induction u with
  | nil => exact ht
  | cons c cs ih =>
    obtain ⟨hc, hcs⟩ := Text.clear_cons.1 hu
    exact .char hc (ih hcs)

theorem clear (h : MadeOf n [] t) : t.Clear n := by
  induction h with
  | nil => exact Text.clear_nil
  | char hc _ ih => exact Text.clear_cons.2 ⟨hc, ih⟩
  | mark hm => exact absurd hm List.not_mem_nil

/-- Replacing a mark by a clear text leaves the other marks. -/
theorem replace (hlow : 2 < n) (hms : ∀ m' ∈ m :: ms, m' ∈ marks) (h : MadeOf n (m :: ms) t)
    {new : Text} (hnew : new.Clear n) : MadeOf n ms (Text.replace m new t) := by
  have hm : m ∈ marks := hms m List.mem_cons_self
  induction h with
  | nil => exact .nil
  | @char c t hc _ ih =>
    have hfree : Text.Free m [c] :=
      free_of_clear hlow hm (Text.clear_cons.2 ⟨hc, Text.clear_nil⟩)
    rw [← List.singleton_append, hfree.replace]
    exact .char hc ih
  | @mark m' t hm' _ ih =>
    by_cases hne : m = m'
    · subst hne
      obtain ⟨os, rfl⟩ := exists_of_mem_marks hm
      rw [Text.replace_append (List.cons_ne_nil _ _)]
      exact clear_append hnew ih
    · rw [(free_of_mem_marks hm (hms m' hm') hne).replace]
      exact .mark ((List.mem_cons.1 hm').resolve_left (Ne.symm hne)) ih

end MadeOf

theorem Marked.madeOf {q : Spot} (h : Marked n q t) : MadeOf n marks t := by
  induction h with
  | nil => exact .nil
  | char hc _ ih => exact .char hc ih
  | openCall _ ih | closeCall _ ih | openArg _ ih | closeArg _ ih =>
    exact .mark (by simp [marks]) ih

/-- **No mark stays in a text.** -/
theorem Marked.clear_unmark (hlow : 2 < n) (hn : n ≤ 4) {q : Spot} (h : Marked n q t) :
    (unmark t).Clear n := by
  have h₁ : MadeOf n [callClose, argOpen, argClose]
      (Text.replace callOpen "<call>".toList t) :=
    h.madeOf.replace hlow (by simp [marks]) (Text.clear_of_all hn (by decide))
  have h₂ : MadeOf n [argOpen, argClose] (Text.replace callClose "</call>".toList _) :=
    h₁.replace hlow (by simp [marks]) (Text.clear_of_all hn (by decide))
  have h₃ : MadeOf n [argClose] (Text.replace argOpen [] _) :=
    h₂.replace hlow (by simp [marks]) Text.clear_nil
  exact (h₃.replace hlow (by simp [marks]) Text.clear_nil).clear

end Call

end Repartee

import Repartee.Proofs.Reply.Prepare
import Repartee.Proofs.Reply.Respects

/-!
# Expanding without marks

What a reply says and stores is clear if what it is made of is: each pass gives a clear text and
leaves the turn clear. Marks of calls are the exception. They stay out of what is stored where no
call stands in one text with other tags.

* `Talk.Ensures`: what a computation promises from turns with a property, with a rule for each way
  of putting computations together.
* `Turn.Clear`, `Speaker.Clear`: what an answer starts from is clear.
* **`Variables.ensures_resolve`**: the variable tags, which are set aside in between.
* **`Call.ensures_runAll`**, **`Call.ensures_runAll_marked`**: calls without marks around them.
* `Script.Unmixed`: a text whose calls are not mixed with other tags.
* **`ensures_expand`**: all passes.
-/

namespace Repartee

variable {n : Nat}

/-! ## Computations -/

namespace Talk

/-- From a turn with a property, a computation gives a result with a property and again such a
turn. -/
def Ensures {α : Type} (I : Turn → Prop) (P : α → Prop) (m : Talk α) : Prop :=
  ∀ t, I t → P (m.run t).1 ∧ I (m.run t).2

namespace Ensures

variable {α β : Type} {I : Turn → Prop} {P : α → Prop} {Q : β → Prop}

theorem pure {a : α} (h : P a) : Ensures I P (Pure.pure a) := fun _ ht => ⟨h, ht⟩

theorem bind {m : Talk α} {f : α → Talk β} (hm : Ensures I P m)
    (hf : ∀ a, P a → Ensures I Q (f a)) : Ensures I Q (m >>= f) := by
  intro t ht
  obtain ⟨ha, ht⟩ := hm t ht
  exact hf _ ha _ ht

theorem map {m : Talk α} {f : α → β} (hm : Ensures I P m) (hf : ∀ a, P a → Q (f a)) :
    Ensures I Q (f <$> m) :=
  hm.bind fun a ha => .pure (hf a ha)

theorem ite {p : Prop} [Decidable p] {m₁ m₂ : Talk α} (h₁ : Ensures I P m₁)
    (h₂ : Ensures I P m₂) : Ensures I P (if p then m₁ else m₂) := by
  split
  · exact h₁
  · exact h₂

theorem mono {P' : α → Prop} {m : Talk α} (hm : Ensures I P m) (h : ∀ a, P a → P' a) :
    Ensures I P' m :=
  fun t ht => (hm t ht).imp_left (h _)

/-- A loop of replacements keeps a property of texts that each replacement keeps. -/
theorem replacing {R : Text → Prop} {p : Scan α} {f : α → Talk Text}
    (hstep : ∀ t before a after, R t → p.find? t = some (before, a, after) →
      Ensures I (fun new => R (before ++ new ++ after)) (f a)) :
    ∀ (k : Nat) {t : Text}, R t → Ensures I R (Talk.replacing p f k t)
  | 0, _, ht => .pure ht
  | k + 1, t, ht => by
    rw [Talk.replacing]
    cases hfind : p.find? t with
    | none => exact .pure ht
    | some found =>
      obtain ⟨before, a, after⟩ := found
      exact (hstep t before a after ht hfind).bind fun new hnew => replacing hstep k hnew

/-- Clear texts in the place of what is found in a clear text leave it clear. -/
theorem replacing_clear {body : α → Text} {p : Scan α} (hp : p.Within body) {f : α → Talk Text}
    (hf : ∀ a, (body a).Clear n → Ensures I (Text.Clear n) (f a)) (k : Nat) {t : Text}
    (ht : t.Clear n) : Ensures I (Text.Clear n) (Talk.replacing p f k t) := by
  refine replacing (fun t before a after ht hfind => ?_) k ht
  obtain ⟨h₁, h₂, h₃⟩ := hp.find? hfind
  exact (hf a (ht.subset h₂)).mono fun new hnew =>
    ((ht.subset h₁).append hnew).append (ht.subset h₃)

end Ensures

end Talk

open Talk (Ensures)

/-! ## Elementary computations -/

/-- The tables and the sessions of a turn are clear. -/
def Turn.Clear (n : Nat) (t : Turn) : Prop := t.toDesk.Clear n

/-- The name of a user, and what the host passes through to macros, are clear. -/
structure Speaker.Clear (n : Nat) (a : Speaker) : Prop where
  user : Text.Clear n a.user.toList
  scope : ∀ s ∈ a.scope, s.Clear n

namespace Talk

theorem ensures_data? (hn : n ≤ 4) (user : String) :
    Ensures (Turn.Clear n) (fun data => (data.getD {}).Clear n) (Talk.data? user) :=
  fun _ ht => ⟨ht.sessions.getD hn user, ht⟩

theorem ensures_setVar (hn : n ≤ 4) (user : String) {name value : Text} (hname : name.Clear n)
    (hvalue : value.Clear n) :
    Ensures (Turn.Clear n) (fun _ => True) (Talk.setVar user name value) := by
  have hpatch : (SessionPatch.setting (String.ofList name) (String.ofList value)).Clear n := by
    apply SessionPatch.clear_setting
    · rwa [String.toList_ofList]
    · rwa [String.toList_ofList]
  exact fun t ht => ⟨trivial, ht.vars, ht.globals, ht.sessions.set hn user hpatch⟩

theorem ensures_getVar (hn : n ≤ 4) (user : String) (name : Text) :
    Ensures (Turn.Clear n) (Text.Clear n) (Talk.getVar user name) := by
  intro t ht
  refine ⟨?_, ht⟩
  change Text.Clear n (((t.sessions.data? user).map (·.var (String.ofList name))).getD
    undefined).toList
  cases hdata : t.sessions.data? user with
  | none => exact clear_undefined hn
  | some u => exact (ht.sessions.data? hdata).var hn _

theorem ensures_roll (k : Nat) : Ensures (Turn.Clear n) (fun _ => True) (Talk.roll k) :=
  fun _ ht => ⟨trivial, ht.vars, ht.globals, ht.sessions⟩

end Talk

/-! ## Variables -/

/-- Numbers are written with digits, a sign and a point. -/
theorem Double.clear_text (hn : n ≤ 4) (d : Double) : Text.Clear n d.text.toList := by
  have hpositional (digits : Nat) (place : Int) :
      Text.Clear n (positional digits place).toList := by
    rw [positional]
    split
    · exact Text.clear_toString hn _
    · have hzeros (k : Nat) : Text.Clear n (List.replicate k '0') := fun c hc => by
        rw [List.eq_of_mem_replicate hc]
        exact hn.trans (by decide)
      simp only [String.toList_append, String.toList_ofList]
      exact ((Text.clear_toString hn _).append (Text.clear_of_all hn (by decide))).append
        ((hzeros _).append (Text.clear_toString hn _))
  unfold text
  generalize d.fraction = q, d.shortest = shortest
  obtain ⟨a, b⟩ := q
  obtain ⟨digits, place⟩ := shortest
  dsimp only
  have hmagnitude : Text.Clear n (if a % b = 0 ∧ a / b < Nat.pow 2 63 then toString (a / b)
      else positional digits place).toList := by
    split
    · exact Text.clear_toString hn _
    · exact hpositional digits place
  generalize (if a % b = 0 ∧ a / b < Nat.pow 2 63 then toString (a / b)
    else positional digits place) = magnitude at hmagnitude
  split
  · rw [String.toList_append]
    exact (Text.clear_of_all hn (by decide)).append hmagnitude
  · exact hmagnitude

namespace Variables

/-- A text of clear characters and brackets that are set aside. -/
def Parked (n : Nat) (t : Text) : Prop := ∀ c ∈ t, c = '\x00' ∨ c = '\x01' ∨ n ≤ c.toNat

variable {t : Text}

theorem Parked.subset {u : Text} (h : Parked n t) (hu : u ⊆ t) : Parked n u :=
  fun c hc => h c (hu hc)

theorem parked_append {u : Text} : Parked n (t ++ u) ↔ Parked n t ∧ Parked n u :=
  List.forall_mem_append

theorem parked_of_clear (h : t.Clear n) : Parked n t := fun c hc => .inr (.inr (h c hc))

/-- **No bracket stays set aside.** -/
theorem clear_unpark (hn : n ≤ 4) (h : Parked n t) : Text.Clear n (unpark t) := by
  intro d hd
  obtain ⟨c, hc, rfl⟩ := List.mem_map.1 hd
  split
  · exact hn.trans (by decide)
  · rename_i h₀
    split
    · exact hn.trans (by decide)
    · rename_i h₁
      exact ((h c hc).resolve_left h₀).resolve_left h₁

theorem clear_readOrAssign (hn : n ≤ 4) {table : Table String} (htable : table.Clear n)
    {data : Text} (hdata : data.Clear n) :
    (readOrAssign table data).1.Clear n ∧ Text.Clear n (readOrAssign table data).2 := by
  rw [readOrAssign]
  cases hcut : Text.cut? '=' data with
  | some assignment =>
    obtain ⟨name, value⟩ := assignment
    obtain ⟨hname, hvalue⟩ := Text.cut?_subset hcut
    refine ⟨htable.insert ?_ ?_, Text.clear_nil⟩
    · rw [String.toList_ofList]
      exact hdata.subset hname
    · rw [String.toList_ofList]
      exact hdata.subset hvalue
  | none =>
    dsimp only
    split
    · exact ⟨htable, clear_undefined hn⟩
    · exact ⟨htable, clear_undefined hn⟩
    · rename_i value hfind
      exact ⟨htable, (htable _ _ hfind).2⟩

theorem clear_refusal (hn : n ≤ 4) (op : Arithmetic) {what : String}
    (hwhat : Text.Clear n what.toList) (ht : t.Clear n) : Text.Clear n (refusal op what t) := by
  have hname : Text.Clear n op.name.toList := by
    cases op <;> exact Text.clear_of_all hn (by decide)
  simp only [refusal, String.toList_append]
  exact (((((Text.clear_of_all hn (by decide)).append hname).append
    (Text.clear_of_all hn (by decide))).append hwhat).append
      (Text.clear_of_all hn (by decide))).append ht |>.append (Text.clear_of_all hn (by decide))

variable {user : String}

theorem ensures_calculateFrom (hn : n ≤ 4) (op : Arithmetic) {name value current : Text}
    (hname : name.Clear n) (hvalue : value.Clear n) :
    Ensures (Turn.Clear n) (Text.Clear n) (calculateFrom user op name value current) := by
  unfold calculateFrom
  split
  · exact .pure (clear_refusal hn op (Text.clear_of_all hn (by decide)) hvalue)
  · exact .pure (clear_refusal hn op (Text.clear_of_all hn (by decide)) hname)
  · refine .ite (.pure (Text.clear_of_all hn (by decide))) ?_
    exact (Talk.ensures_setVar hn user hname (Double.clear_text hn _)).bind fun _ _ =>
      .pure Text.clear_nil

theorem ensures_calculate (hn : n ≤ 4) (op : Arithmetic) {data : Text} (hdata : data.Clear n) :
    Ensures (Turn.Clear n) (Text.Clear n) (calculate user op data) := by
  have hparts : Text.Clear n ((Text.cut? '=' data).getD (data, [])).1 ∧
      Text.Clear n ((Text.cut? '=' data).getD (data, [])).2 := by
    cases hcut : Text.cut? '=' data with
    | none => exact ⟨hdata, Text.clear_nil⟩
    | some parts =>
      obtain ⟨hname, hvalue⟩ := Text.cut?_subset hcut
      exact ⟨hdata.subset hname, hdata.subset hvalue⟩
  refine (Talk.ensures_getVar hn user _).bind fun stored _ => .ite ?_ ?_
  · exact (Talk.ensures_setVar hn user hparts.1 (Text.clear_of_all hn (by decide))).bind
      fun _ _ => ensures_calculateFrom hn op hparts.1 hparts.2
  · exact ensures_calculateFrom hn op hparts.1 hparts.2

theorem ensures_carryOut (hn : n ≤ 4) (tag : VariableTag) {data : Text} (hdata : data.Clear n) :
    Ensures (Turn.Clear n) (Text.Clear n) (carryOut user tag data) := by
  cases tag with
  | bot =>
    intro t ht
    obtain ⟨hvars, htext⟩ := clear_readOrAssign hn ht.vars hdata
    exact ⟨htext, hvars, ht.globals, ht.sessions⟩
  | env =>
    intro t ht
    obtain ⟨hglobals, htext⟩ := clear_readOrAssign hn ht.globals hdata
    exact ⟨htext, ht.vars, hglobals, ht.sessions⟩
  | get => exact Talk.ensures_getVar hn user data
  | arithmetic op => exact ensures_calculate hn op hdata
  | set =>
    rw [carryOut]
    cases hcut : Text.cut? '=' data with
    | none => exact .pure Text.clear_nil
    | some assignment =>
      obtain ⟨hname, hvalue⟩ := Text.cut?_subset hcut
      exact (Talk.ensures_setVar hn user (hdata.subset hname) (hdata.subset hvalue)).bind
        fun _ _ => .pure Text.clear_nil

theorem ensures_step (hn : n ≤ 4) {body : Text} (hbody : Parked n body) :
    Ensures (Turn.Clear n) (Parked n) (step user body) := by
  have hdata : Parked n ((Text.cut? ' ' body).getD (body, [])).2 := by
    cases hcut : Text.cut? ' ' body with
    | none => exact fun c hc => absurd hc List.not_mem_nil
    | some parts => exact hbody.subset (Text.cut?_subset hcut).2
  unfold step
  dsimp only
  cases VariableTag.named? ((Text.cut? ' ' body).getD (body, [])).1 with
  | none =>
    refine .pure (List.forall_mem_cons.2 ⟨.inl rfl, parked_append.2 ⟨hbody, ?_⟩⟩)
    exact fun c hc => .inr (.inl (List.mem_singleton.1 hc))
  | some tag =>
    exact (ensures_carryOut hn tag (clear_unpark hn hdata)).mono fun _ => parked_of_clear

/-- **Variable tags make clear texts and clear changes of a clear text.** -/
theorem ensures_resolve (hn : n ≤ 4) (ht : t.Clear n) :
    Ensures (Turn.Clear n) (Text.Clear n) (resolve user t) := by
  have hloop : Ensures (Turn.Clear n) (Parked n)
      (Talk.replacing innermost (step user) limit t) := by
    refine .replacing (fun t before body after ht hfind => ?_) limit (parked_of_clear ht)
    obtain ⟨h₁, h₂, h₃⟩ := (Scan.within_delimited _ _ _ _).find? hfind
    exact (ensures_step hn (ht.subset h₂)).mono fun new hnew =>
      parked_append.2 ⟨parked_append.2 ⟨ht.subset h₁, hnew⟩, ht.subset h₃⟩
  exact hloop.map fun _ => clear_unpark hn

end Variables

/-! ## Calls -/

namespace Call

variable {s : Script} {a : Speaker}

theorem piecesAt_subset {sep : Text} : ∀ {k : Nat} {t : Text}, ∀ w ∈ piecesAt sep k t, w ⊆ t
  | 0, t, w, hw => by
    rw [piecesAt, List.mem_singleton] at hw
    exact hw ▸ List.Subset.refl _
  | k + 1, t, w, hw => by
    rw [piecesAt] at hw
    split at hw
    · rw [List.mem_singleton] at hw
      exact hw ▸ List.Subset.refl _
    · rename_i hcut
      obtain ⟨hpiece, hrest⟩ := Text.cutAt?_subset hcut
      rcases List.mem_cons.1 hw with rfl | hw
      · exact hpiece
      · exact List.Subset.trans (piecesAt_subset w hw) hrest

/-- The name and the arguments that are read in a call are clear. -/
def Legible (n : Nat) (body : Text) : Prop :=
  (read body).1.Clear n ∧ ∀ a ∈ (read body).2, Text.Clear n a

theorem legible_of_clear {body : Text} (h : body.Clear n) : Legible n body := by
  have hpieces : ∀ w ∈ piecesAt argOpen body.length body, w.Clear n := fun w hw =>
    h.subset (piecesAt_subset w hw)
  rw [Legible, read]
  cases hsplit : piecesAt argOpen body.length body with
  | nil => exact ⟨Text.clear_nil, fun _ ha => absurd ha List.not_mem_nil⟩
  | cons name args =>
    rw [hsplit, List.forall_mem_cons] at hpieces
    refine ⟨hpieces.1.subset (Text.trim_subset name), fun a ha => ?_⟩
    obtain ⟨w, hw, rfl⟩ := List.mem_map.1 ha
    cases hcut : Text.cutAt? argClose w with
    | none => exact hpieces.2 w hw
    | some parts => exact (hpieces.2 w hw).subset (Text.cutAt?_subset hcut).1

theorem legible_inner (hlow : 2 < n) {name : Text} {args : List (Text × Text)}
    (h : ClearInner n name args) : Legible n (inner name args) := by
  rw [Legible, read_inner hlow h]
  refine ⟨h.name.subset (Text.trim_subset name), fun a ha => ?_⟩
  obtain ⟨arg, harg, rfl⟩ := List.mem_map.1 ha
  exact (h.args arg harg).1

theorem ensures_run (hn : n ≤ 4) (hs : s.Clear n) (ha : a.Clear n) {name : String}
    {args : List String} (hname : Text.Clear n name.toList)
    (hargs : ∀ x ∈ args, Text.Clear n x.toList) :
    Ensures (Turn.Clear n) (Text.Clear n) (run s a name args) := by
  rw [run]
  cases hlanguage : s.languages.find? name with
  | none => exact .pure hs.notices.objectNotFound
  | some language =>
    dsimp only
    cases hhandler : s.handlers.find? language with
    | none => exact .pure (Text.clear_of_all hn (by decide))
    | some h =>
      intro t ht
      have hgives := (hs.handlers _ _ hhandler).call hn hs.registry ⟨a.user, name, args, a.scope⟩
        t.toDesk ⟨ha.user, hname, hargs, ha.scope⟩ ht
      refine ⟨?_, Desk.Clear.afterCall hn ht hgives.deeds⟩
      simp only [modifyGet, MonadStateOf.modifyGet, StateT.modifyGet, StateT.run, pure]
      cases hresult : (h.call s.registry ⟨a.user, name, args, a.scope⟩ t.toDesk).1 with
      | ok text => exact hgives.text text hresult
      | error e =>
        simp only [String.toList_append]
        exact ((((Text.clear_of_all hn (by decide)).append (hs.languages _ _ hlanguage)).append
          (Text.clear_of_all hn (by decide))).append (hgives.error e hresult)).append
            (Text.clear_of_all hn (by decide))

/-- The text of a call that can be read. -/
theorem ensures_run_read (hn : n ≤ 4) (hs : s.Clear n) (ha : a.Clear n) {body : Text}
    (h : Legible n body) : Ensures (Turn.Clear n) (Text.Clear n)
      (run s a (String.ofList (read body).1) ((read body).2.map String.ofList)) := by
  refine ensures_run hn hs ha ?_ fun x hx => ?_
  · rw [String.toList_ofList]
    exact h.1
  · obtain ⟨w, hw, rfl⟩ := List.mem_map.1 hx
    rw [String.toList_ofList]
    exact h.2 w hw

theorem within_marked : marked.Within id := by
  intro t body rest h
  obtain ⟨u, hu, hcut⟩ := Option.bind_eq_some_iff.1 h
  have hsub := Text.startsWith?_subset hu
  exact ⟨List.Subset.trans (Text.cutAt?_subset hcut).1 hsub,
    List.Subset.trans (Text.cutAt?_subset hcut).2 hsub⟩

/-- **Running the calls of a clear text.** -/
theorem ensures_runAll (hn : n ≤ 4) (hs : s.Clear n) (ha : a.Clear n) {t : Text}
    (ht : t.Clear n) : Ensures (Turn.Clear n) (Text.Clear n) (runAll s a t) := by
  have hloop := Ensures.replacing_clear within_marked
    (fun body hbody => ensures_run_read hn hs ha (legible_of_clear hbody)) limit ht
  refine hloop.map fun u hu => ?_
  exact (((hu.replace _ (Text.clear_of_all hn (by decide))).replace _
    (Text.clear_of_all hn (by decide))).replace _ Text.clear_nil).replace _ Text.clear_nil

/-- **Running the calls of a text whose marks are where they belong.** -/
theorem ensures_runAll_marked (hlow : 2 < n) (hn : n ≤ 4) (hs : s.Clear n) (ha : a.Clear n)
    {t : Text} (ht : Marked n .outside t) :
    Ensures (Turn.Clear n) (Text.Clear n) (runAll s a t) := by
  have hloop : Ensures (Turn.Clear n) (Marked n .outside) (Talk.replacing marked
      (fun body => run s a (String.ofList (read body).1) ((read body).2.map String.ofList))
      limit t) := by
    refine .replacing (fun t before body after ht hfind => ?_) limit ht
    obtain ⟨hbefore, ⟨name, args, hinner, rfl⟩, hafter⟩ := ht.find? hlow hfind
    exact (ensures_run_read hn hs ha (legible_inner hlow hinner)).mono fun new hnew =>
      hafter.clear_append (hbefore.append hnew)
  exact hloop.map fun u hu => hu.clear_unmark hlow hn

end Call

/-! ## Expanding -/

/-- No call is recognised in a text, or nothing but calls, weights and, in the plain mode, stars. -/
def Script.Unmixed (s : Script) (t : Text) : Prop :=
  Call.wrap (Shorthand.arrays s t) = Shorthand.arrays s t ∨
    Call.Alone (Shorthand.arrays s t) ∧ (s.options.utf8 = true →
      Shorthand.starTag.find? (Call.called (Shorthand.arrays s t)) = none)

section Expand

variable {s : Script} {a : Speaker} (hn : n ≤ 4) (hs : s.Clear n) (ha : a.Clear n)

namespace Expand

theorem ensures_choose (k : Nat) {t : Text} (ht : t.Clear n) :
    Ensures (Turn.Clear n) (Text.Clear n) (choose k t) := by
  refine Ensures.replacing_clear (Scan.within_delimited _ _ _ _) (fun body hbody => ?_) k ht
  have hchoices : ∀ w ∈ choices body, w.Clear n := by
    rw [choices]
    split
    · exact hbody.pieces
    · exact hbody.pieces
  refine (Talk.ensures_roll _).bind fun i _ => .pure ?_
  cases hi : (choices body)[i]? with
  | none => exact Text.clear_nil
  | some w => exact hchoices w (List.mem_of_getElem? hi)

include hn

theorem ensures_topics (user : String) {t : Text} (ht : t.Clear n) :
    Ensures (Turn.Clear n) (Text.Clear n) (topics user t) :=
  Ensures.replacing_clear (Scan.within_delimited _ _ _ _) (fun _ hname =>
    (Talk.ensures_setVar hn user (Text.clear_of_all hn (by decide)) hname).bind
      fun _ _ => .pure Text.clear_nil) limit ht

include hs

theorem clear_formats {t : Text} (ht : t.Clear n) : Text.Clear n (formats s t) := by
  have happly (f : Format) {t : Text} (ht : t.Clear n) : Text.Clear n (f.apply s t) := by
    cases f with
    | person => exact hs.person.apply _ ht
    | casing c => exact c.clear_apply hn ht
  rw [formats]
  generalize allFormats = fs
  induction fs generalizing t with
  | nil => exact ht
  | cons f fs ih =>
    exact ih ((Scan.within_delimited _ _ _ _).replaceAgain (fun _ hbody => happly f.2 hbody)
      limit ht)

include ha

theorem ensures_redirects {redirect : Redirect}
    (hr : ∀ m, s.Compared n m → Ensures (Turn.Clear n) (Text.Clear n) (redirect m)) {t : Text}
    (ht : t.Clear n) : Ensures (Turn.Clear n) (Text.Clear n) (redirects s a redirect t) := by
  refine Ensures.replacing_clear (Scan.within_delimited _ _ _ _) (fun body hbody => ?_) limit ht
  have htrimmed : Text.Clear n (Text.trim body) := hbody.subset (Text.trim_subset body)
  exact (Call.ensures_runAll hn hs ha htrimmed).bind fun target htarget =>
    hr _ (hs.normalize hn false htarget)

end Expand

include hn hs ha in
/-- **Expanding a clear text whose calls are not mixed with other tags.** -/
theorem ensures_expand (hpos : 0 < n) {redirect : Redirect}
    (hr : ∀ m, s.Compared n m → Ensures (Turn.Clear n) (Text.Clear n) (redirect m))
    {stars botstars : List String} (hstars : ∀ x ∈ stars, s.Compared n x.toList)
    (hbotstars : ∀ x ∈ botstars, s.Compared n x.toList) {t : Text} (ht : t.Clear n)
    (hcalls : n ≤ 2 ∨ s.Unmixed t) :
    Ensures (Turn.Clear n) (Text.Clear n) (expand s a redirect stars botstars t) := by
  have harrays := Shorthand.clear_arrays hpos hn hs.arrays ht
  have hexpand (hwrap : Text.Clear n (Call.wrap (Shorthand.arrays s t))) :
      Ensures (Turn.Clear n) (Text.Clear n) (expand s a redirect stars botstars t) := by
    refine (Talk.ensures_data? hn a.user).bind fun data hdata => ?_
    have hprepare := Expand.clear_prepare hn ha.user hdata.history (fun x hx => (hstars x hx).clear)
      (fun x hx => (hbotstars x hx).clear) hwrap
    refine (Expand.ensures_choose _ hprepare).bind fun t ht => ?_
    refine (Variables.ensures_resolve hn (Expand.clear_formats hn hs ht)).bind fun t ht => ?_
    refine (Expand.ensures_topics hn a.user ht).bind fun t ht => ?_
    exact (Expand.ensures_redirects hn hs ha hr ht).bind fun t ht => Call.ensures_runAll hn hs ha ht
  by_cases hlow : n ≤ 2
  · exact hexpand (Call.clear_wrap hlow harrays)
  · rcases hcalls.resolve_left hlow with hwrap | ⟨halone, hstarless⟩
    · exact hexpand (hwrap.symm ▸ harrays)
    · have hlow : 2 < n := Nat.not_le.1 hlow
      have harrays₂ : s.arrays.ClearItems 2 := fun k items hfind i hi =>
        (hs.arrays k items hfind i hi).mono hlow.le
      have hplain : (∀ x ∈ stars, '<' ∉ x.toList ∧ '\x7b' ∉ x.toList) ∨
          Shorthand.starTag.find? (Call.called (Shorthand.arrays s t)) = none := by
        cases hutf8 : s.options.utf8 with
        | true => exact .inr (hstarless hutf8)
        | false => exact .inl fun x hx => (hstars x hx).plain hutf8
      rw [expand_alone harrays₂ (ht.mono hlow.le) halone
        (fun x hx => (hstars x hx).clear.mono hlow.le) hplain]
      have hmarked := Expand.marked_starred hpos hn hs.arrays (fun x hx => (hstars x hx).clear) ht
      exact Call.ensures_runAll_marked hlow hn hs ha (hmarked.unescape hn)

end Expand

end Repartee

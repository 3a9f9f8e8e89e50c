import Repartee.Proofs.Reply.Inert

/-!
# Nested tags as trees

The variable tags of a text are carried out one by one, always the first one without another one
inside. On a text that is written as a tree of tags this is what evaluating the tree gives: what
stands in a tag is evaluated from left to right before the tag itself.

* `Text.Bracketless`: a text without brackets and without what stands for them.
* `Template`: a tree of texts and tags; `Template.render`: the text it is written as.
* `TagName.carryOut`: a tag reads or assigns a variable, or stays as it is written.
* `Template.evaluate`, `Template.reads`: the value of a tree, and the texts that its tags read.
* `Variables.find?_innermost`: the first tag without another one inside.
* **`Template.run_replacing`**: the tags of a tree are carried out as the tree is evaluated,
  whatever stands around them.
* **`Template.resolve_render`**: so are the variable tags of a whole text.
-/

namespace Repartee

/-- A text without brackets, and without the characters that stand for brackets set aside. -/
def Text.Bracketless (t : Text) : Prop :=
  ∀ c ∈ t, c ≠ '<' ∧ c ≠ '>' ∧ c ≠ '\x00' ∧ c ≠ '\x01'

instance (t : Text) : Decidable t.Bracketless := List.decidableBAll _ t

/-! ## Trees -/

/-- The name of a tag: that of a table, of an assignment to the user or of a read, or an unknown
word. -/
structure TagName where
  text : Text
  bracketless : text.Bracketless
  blankless : ' ' ∉ text
  noArithmetic : ∀ op, VariableTag.named? text ≠ some (.arithmetic op)

/-- A tree of texts and tags, from left to right. -/
inductive Template where
  | done
  | text (t : Text) (bracketless : t.Bracketless) (rest : Template)
  | tag (name : TagName) (data rest : Template)

namespace Template

/-- The text that a tree is written as. -/
def render : Template → Text
  | done => []
  | text t _ rest => t ++ rest.render
  | tag name data rest => '<' :: (name.text ++ ' ' :: data.render) ++ '>' :: rest.render

/-- The number of tags of a tree. -/
def tags : Template → Nat
  | done => 0
  | text _ _ rest => rest.tags
  | tag _ data rest => data.tags + 1 + rest.tags

end Template

/-! ## Evaluating -/

/-- What a tag does with a variable. -/
inductive Access where
  | read (name : Text)
  | assign (name value : Text)
  | nothing
  deriving DecidableEq, Repr

namespace VariableTag

/-- What a tag does with its data. What has an equals sign is an assignment, unless the tag is one
that reads the user. -/
def access (tag : VariableTag) (data : Text) : Access :=
  match Text.cut? '=' data with
  | some (name, value) => if tag = .get then .read data else .assign name value
  | none => if tag = .set then .nothing else .read data

/-- The value that a tag reads. An empty variable of the bot counts as unset, one of the user does
not. -/
def value (user : String) (name : Text) (t : Turn) : VariableTag → Text
  | bot => (((t.vars.find? (String.ofList name)).filter (· ≠ "")).getD undefined).toList
  | env => (((t.globals.find? (String.ofList name)).filter (· ≠ "")).getD undefined).toList
  | _ => (((t.sessions.data? user).bind (·.vars.find? (String.ofList name))).getD undefined).toList

/-- The turn after a tag has assigned a value. -/
def assigned (user : String) (name value : Text) (t : Turn) : VariableTag → Turn
  | bot => { t with vars := t.vars.insert (String.ofList name) (String.ofList value) }
  | env => { t with globals := t.globals.insert (String.ofList name) (String.ofList value) }
  | _ =>
    { t with
      sessions := t.sessions.set user (.setting (String.ofList name) (String.ofList value)) }

end VariableTag

namespace TagName

/-- A tag as it is written. -/
def written (name : TagName) (data : Text) : Text := '<' :: (name.text ++ ' ' :: data) ++ ['>']

/-- Carry out a tag; an unknown one stays as it is written. -/
def carryOut (user : String) (name : TagName) (data : Text) : Talk Text := fun t =>
  match VariableTag.named? name.text with
  | none => (name.written data, t)
  | some tag =>
    match tag.access data with
    | .read name => (tag.value user name t, t)
    | .assign name value => ([], tag.assigned user name value t)
    | .nothing => ([], t)

/-- The texts that a tag reads. -/
def reads (user : String) (name : TagName) (data : Text) (t : Turn) : List Text :=
  match VariableTag.named? name.text with
  | none => []
  | some tag =>
    match tag.access data with
    | .read name => [tag.value user name t]
    | _ => []

end TagName

namespace Template

/-- The value of a tree: what stands in a tag is evaluated before the tag is carried out. -/
def evaluate (user : String) : Template → Talk Text
  | done => pure []
  | text t _ rest => do
    pure (t ++ (← rest.evaluate user))
  | tag name data rest => do
    let d ← data.evaluate user
    let v ← name.carryOut user d
    pure (v ++ (← rest.evaluate user))

/-- The texts that the tags of a tree read when it is evaluated. -/
def reads (user : String) : Template → Turn → List Text
  | done, _ => []
  | text _ _ rest, t => rest.reads user t
  | tag name data rest, t =>
    let (d, t₁) := (data.evaluate user).run t
    data.reads user t ++ name.reads user d t₁ ++ rest.reads user ((name.carryOut user d).run t₁).2

end Template

/-! ## Brackets set aside -/

namespace Variables

variable {t u : Text} {user : String}

/-- A text with its brackets set aside. -/
def setAside (t : Text) : Text :=
  t.map fun c => if c = '<' then '\x00' else if c = '>' then '\x01' else c

@[simp] theorem setAside_append (t u : Text) : setAside (t ++ u) = setAside t ++ setAside u :=
  List.map_append

theorem setAside_eq_self (h : t.Bracketless) : setAside t = t := by
  have hc : ∀ c ∈ t, (if c = '<' then '\x00' else if c = '>' then '\x01' else c) = c := by
    intro c hc
    rw [if_neg (h c hc).1, if_neg (h c hc).2.1]
  rw [setAside, List.map_congr_left hc, List.map_id']

theorem unpark_setAside (h : t.Clear 2) : unpark (setAside t) = t := by
  rw [unpark, setAside, List.map_map]
  conv_rhs => rw [← List.map_id t]
  refine List.map_congr_left fun c hc => ?_
  have h₀ : c ≠ '\x00' := ne_of_mem_of_not_mem hc (h.notMem (by decide))
  have h₁ : c ≠ '\x01' := ne_of_mem_of_not_mem hc (h.notMem (by decide))
  rw [Function.comp_apply, id_eq]
  split_ifs <;> simp_all

theorem notMem_setAside (t : Text) : '<' ∉ setAside t ∧ '>' ∉ setAside t := by
  simp only [setAside, List.mem_map, not_exists, not_and]
  constructor <;> intro c _ <;> split_ifs <;> simp_all

/-! ## The first tag without another one inside -/

/-- No tag begins where the next bracket is one that opens. -/
theorem until?_innermost (u : Text) : ∀ (n : Nat) {t : Text}, '>' ∉ t →
    Scan.until? (· != '<') ['>'] n (t ++ '<' :: u) = none
  | 0, [], _ => by simp [Scan.until?, Text.startsWithFolded?, Text.sameFolded_of_ne]
  | _ + 1, [], _ => by simp [Scan.until?]
  | 0, c :: cs, h => by
    obtain ⟨hc, hcs⟩ := List.ne_and_not_mem_of_not_mem_cons h
    rw [List.cons_append, Scan.until?, Text.startsWithFolded?,
      Text.sameFolded_of_ne rfl hc.symm, until?_innermost u 0 hcs]
    simp
  | n + 1, c :: cs, h => by
    obtain ⟨-, hcs⟩ := List.ne_and_not_mem_of_not_mem_cons h
    rw [List.cons_append, Scan.until?, until?_innermost u n hcs]
    simp

/-- A tag without another one inside is the first one if no bracket closes before it. -/
theorem find?_innermost {before body : Text} (hbefore : '>' ∉ before) (hne : body ≠ [])
    (hopen : '<' ∉ body) (hclose : '>' ∉ body) (after : Text) :
    innermost.find? (before ++ '<' :: (body ++ '>' :: after)) = some (before, body, after) := by
  induction before with
  | nil =>
    have hallowed : ∀ c ∈ body, (c != '<') = true ∧ Text.sameFolded '>' c = false := fun c hc =>
      ⟨bne_iff_ne.2 (ne_of_mem_of_not_mem hc hopen),
        Text.sameFolded_of_ne rfl (ne_of_mem_of_not_mem hc hclose)⟩
    have hopening : ∀ c ∈ "<".toList, Text.sameFolded c c := List.all_eq_true.1 (by decide)
    have hfront : innermost ('<' :: (body ++ '>' :: after)) = some (body, after) :=
      Scan.delimited_append hopening (by decide) (List.length_pos_of_ne_nil hne) hallowed after
    rw [List.nil_append, Scan.find?, hfront]
  | cons c cs ih =>
    obtain ⟨-, hcs⟩ := List.ne_and_not_mem_of_not_mem_cons hbefore
    have hnone : innermost (c :: (cs ++ '<' :: (body ++ '>' :: after))) = none := by
      by_cases hc : c = '<'
      · rw [innermost, Scan.delimited, show "<".toList = ['<'] by decide, Text.startsWithFolded?,
          hc, if_pos (by decide), Text.startsWithFolded?, Option.bind_some]
        exact until?_innermost _ 1 hcs
      · exact (Scan.needs_delimited rfl rfl : innermost.Needs '<') c _ hc
    rw [List.cons_append, Scan.find?, hnone, ih hcs]
    rfl

end Variables

/-! ## Single tags -/

theorem Text.Bracketless.clear {t : Text} (h : t.Bracketless) : t.Clear 2 := by
  intro c hc
  obtain ⟨-, -, h₀, h₁⟩ := h c hc
  by_contra hlow
  have hlow : c.toNat = 0 ∨ c.toNat = 1 := by omega
  rcases hlow with h | h
  · exact h₀ (Char.toNat_inj.1 h)
  · exact h₁ (Char.toNat_inj.1 h)

/-- A value that is read from a table without an assignment. -/
theorem Variables.readOrAssign_read {table : Table String} {d : Text}
    (h : Text.cut? '=' d = none) : readOrAssign table d =
      (table, (((table.find? (String.ofList d)).filter (· ≠ "")).getD undefined).toList) := by
  rw [readOrAssign, h]
  dsimp only
  split
  · rename_i hfind
    rw [hfind]
    rfl
  · rename_i hfind
    rw [hfind]
    rfl
  · rename_i value hne hfind
    have hvalue : value ≠ "" := hne
    rw [hfind, Option.filter_some, if_pos (decide_eq_true hvalue), Option.getD_some]

namespace TagName

variable {user : String} {name : TagName} {d v : Text} {t t' : Turn}

/-- Carrying out a known tag reads or assigns. -/
theorem carryOut_named {tag : VariableTag} (h : VariableTag.named? name.text = some tag)
    (d : Text) : Variables.carryOut user tag d = name.carryOut user d := by
  funext t
  rw [TagName.carryOut, h]
  dsimp only
  rw [VariableTag.access]
  cases tag with
  | arithmetic op => exact absurd h (name.noArithmetic op)
  | get =>
    have hread (data : Option UserData) : ((data.map (·.var (String.ofList d))).getD undefined) =
        (data.bind (·.vars.find? (String.ofList d))).getD undefined := by
      cases data <;> rfl
    change (((t.sessions.data? user).map (·.var (String.ofList d))).getD undefined |>.toList, t) = _
    rw [hread]
    cases Text.cut? '=' d <;> rfl
  | set =>
    rw [Variables.carryOut]
    cases Text.cut? '=' d <;> rfl
  | bot | env =>
    rw [Variables.carryOut]
    cases hcut : Text.cut? '=' d with
    | none =>
      simp only [Variables.readOrAssign_read hcut]
      rfl
    | some parts =>
      simp only [Variables.readOrAssign, hcut]
      rfl

/-- What a known tag gives has no brackets, if what it reads has none. -/
theorem bracketless_carryOut {tag : VariableTag} (h : VariableTag.named? name.text = some tag)
    (hreads : ∀ v ∈ name.reads user d t, v.Bracketless)
    (hrun : (name.carryOut user d).run t = (v, t')) : v.Bracketless := by
  change name.carryOut user d t = (v, t') at hrun
  rw [reads, h] at hreads
  rw [TagName.carryOut, h] at hrun
  dsimp only at hreads hrun
  cases haccess : tag.access d with
  | read name =>
    rw [haccess] at hreads hrun
    cases hrun
    exact hreads _ List.mem_cons_self
  | assign name value =>
    rw [haccess] at hrun
    cases hrun
    exact fun c hc => absurd hc List.not_mem_nil
  | nothing =>
    rw [haccess] at hrun
    cases hrun
    exact fun c hc => absurd hc List.not_mem_nil

/-- An unknown tag gives the tag as it is written. -/
theorem carryOut_unknown (h : VariableTag.named? name.text = none) (d : Text) :
    name.carryOut user d = pure (name.written d) := by
  funext t
  rw [TagName.carryOut, h]
  rfl

theorem clear_written (hd : d.Clear 2) : (name.written d).Clear 2 := by
  have hdata : Text.Clear 2 (' ' :: d) := Text.clear_cons.2 ⟨by decide, hd⟩
  have hinner := name.bracketless.clear.append hdata
  exact (Text.clear_cons.2 ⟨by decide, hinner⟩).append fun c hc => by
    rw [List.mem_singleton.1 hc]
    decide

/-- An unknown tag that is set aside. -/
theorem park_setAside (name : TagName) (d : Text) :
    Variables.park (name.text ++ ' ' :: Variables.setAside d) =
      Variables.setAside (name.written d) := by
  have hbody : Variables.setAside (name.text ++ ' ' :: d) =
      name.text ++ ' ' :: Variables.setAside d := by
    rw [Variables.setAside_append, Variables.setAside_eq_self name.bracketless]
    rfl
  rw [← hbody]
  simp [Variables.park, written, Variables.setAside]

/-- The engine carries out a tag whose data is evaluated, and sets aside the brackets of what it
gives. -/
theorem step_run (hd : d.Clear 2) (hreads : ∀ v ∈ name.reads user d t, v.Bracketless)
    (hrun : (name.carryOut user d).run t = (v, t')) :
    (Variables.step user (name.text ++ ' ' :: Variables.setAside d)).run t =
      (Variables.setAside v, t') ∧ v.Clear 2 := by
  rw [Variables.step, Text.cut?_append name.blankless, Option.getD_some]
  dsimp only
  cases hnamed : VariableTag.named? name.text with
  | none =>
    rw [carryOut_unknown hnamed] at hrun
    cases hrun
    rw [park_setAside]
    exact ⟨rfl, clear_written hd⟩
  | some tag =>
    have hvalue := bracketless_carryOut hnamed hreads hrun
    dsimp only
    rw [Variables.unpark_setAside hd, carryOut_named hnamed, Variables.setAside_eq_self hvalue]
    exact ⟨hrun, hvalue.clear⟩

theorem notMem_text (name : TagName) : '<' ∉ name.text ∧ '>' ∉ name.text :=
  ⟨fun hmem => (name.bracketless _ hmem).1 rfl, fun hmem => (name.bracketless _ hmem).2.1 rfl⟩

/-- A tag whose data is evaluated is the next one that is carried out, if no bracket closes before
it. -/
theorem replacing_succ (hd : d.Clear 2) (hreads : ∀ v ∈ name.reads user d t, v.Bracketless)
    (hrun : (name.carryOut user d).run t = (v, t')) {before : Text} (hbefore : '>' ∉ before)
    (after : Text) (n : Nat) :
    (Talk.replacing Variables.innermost (Variables.step user) (n + 1)
        (before ++ '<' :: (name.text ++ ' ' :: Variables.setAside d ++ '>' :: after))).run t =
      (Talk.replacing Variables.innermost (Variables.step user) n
        (before ++ Variables.setAside v ++ after)).run t' := by
  obtain ⟨hopen, hclose⟩ := Variables.notMem_setAside d
  have hfind := Variables.find?_innermost hbefore
    (List.append_ne_nil_of_right_ne_nil name.text (List.cons_ne_nil ' ' (Variables.setAside d)))
    (by simp [name.notMem_text.1, hopen]) (by simp [name.notMem_text.2, hclose]) after
  rw [Talk.replacing, hfind]
  dsimp only
  rw [StateT.run_bind, (step_run hd hreads hrun).1]
  rfl

end TagName

namespace Template

variable {user : String} {t t₁ t₂ t₃ : Turn} {d v u : Text}

open Variables (setAside)

theorem reads_tag {name : TagName} {data rest : Template}
    (hdata : (data.evaluate user).run t = (d, t₁))
    (htag : (name.carryOut user d).run t₁ = (v, t₂)) :
    (tag name data rest).reads user t =
      data.reads user t ++ name.reads user d t₁ ++ rest.reads user t₂ := by
  rw [reads, hdata]
  dsimp only
  rw [htag]

theorem evaluate_tag {name : TagName} {data rest : Template}
    (hdata : (data.evaluate user).run t = (d, t₁))
    (htag : (name.carryOut user d).run t₁ = (v, t₂))
    (hrest : (rest.evaluate user).run t₂ = (u, t₃)) :
    ((tag name data rest).evaluate user).run t = (v ++ u, t₃) := by
  rw [evaluate, StateT.run_bind, hdata]
  change (name.carryOut user d >>= _).run t₁ = _
  rw [StateT.run_bind, htag]
  change (rest.evaluate user >>= _).run t₂ = _
  rw [StateT.run_bind, hrest]
  rfl

/-- **The tags of a tree are carried out as the tree is evaluated, whatever stands around them**,
if no bracket closes before the tree. The value has no brackets set aside. -/
theorem run_replacing : ∀ (T : Template) {before u : Text} {t t' : Turn} (after : Text) (n : Nat),
    '>' ∉ before → (∀ v ∈ T.reads user t, v.Bracketless) → (T.evaluate user).run t = (u, t') →
      (Talk.replacing Variables.innermost (Variables.step user) (T.tags + n)
        (before ++ (T.render ++ after))).run t =
      (Talk.replacing Variables.innermost (Variables.step user) n
        (before ++ (setAside u ++ after))).run t' ∧ u.Clear 2
  | done, before, u, t, t', after, n, _, _, hrun => by
    cases hrun
    rw [tags, Nat.zero_add]
    exact ⟨rfl, Text.clear_nil⟩
  | text w hw rest, before, u, t, t', after, n, hbefore, hreads, hrun => by
    cases hrest : (rest.evaluate user).run t with
    | mk u₁ t₁ =>
      have heval : (w ++ u₁, t₁) = (u, t') := by
        rw [← hrun, evaluate, StateT.run_bind, hrest]
        rfl
      cases heval
      have hbefore : '>' ∉ before ++ w := by
        rw [List.mem_append, not_or]
        exact ⟨hbefore, fun hmem => (hw _ hmem).2.1 rfl⟩
      obtain ⟨hrun, hclear⟩ := run_replacing rest after n hbefore hreads hrest
      refine ⟨?_, hw.clear.append hclear⟩
      rw [render, tags, Variables.setAside_append, Variables.setAside_eq_self hw]
      simpa only [List.append_assoc] using hrun
  | tag name data rest, before, u, t, t', after, n, hbefore, hreads, hrun => by
    cases hdata : (data.evaluate user).run t with
    | mk d t₁ =>
    cases htag : (name.carryOut user d).run t₁ with
    | mk v t₂ =>
    cases hrest : (rest.evaluate user).run t₂ with
    | mk u₁ t₃ =>
    rw [evaluate_tag hdata htag hrest] at hrun
    cases hrun
    rw [reads_tag hdata htag] at hreads
    obtain ⟨hreads, hreads₃⟩ := List.forall_mem_append.1 hreads
    obtain ⟨hreads₁, hreads₂⟩ := List.forall_mem_append.1 hreads
    -- what stands in the tag is evaluated first, behind the opening of the tag
    have hopening : '>' ∉ before ++ '<' :: (name.text ++ [' ']) := by
      simp [hbefore, name.notMem_text.2]
    obtain ⟨hrun₁, hd⟩ := run_replacing data ('>' :: (rest.render ++ after)) (rest.tags + n + 1)
      hopening hreads₁ hdata
    -- then the tag, and then what follows it, behind the value of the tag
    have hrun₂ := TagName.replacing_succ hd hreads₂ htag hbefore (rest.render ++ after)
      (rest.tags + n)
    have hvalue : '>' ∉ before ++ setAside v := by
      rw [List.mem_append, not_or]
      exact ⟨hbefore, (Variables.notMem_setAside v).2⟩
    obtain ⟨hrun₃, hu⟩ := run_replacing rest after n hvalue hreads₃ hrest
    refine ⟨?_, (TagName.step_run hd hreads₂ htag).2.append hu⟩
    have htags : (tag name data rest).tags + n = data.tags + (rest.tags + n + 1) := by
      rw [tags]
      omega
    simp only [List.append_assoc, List.cons_append, List.nil_append] at hrun₁ hrun₂ hrun₃
    rw [htags, render, Variables.setAside_append]
    simp only [List.append_assoc, List.cons_append]
    rw [hrun₁, hrun₂, hrun₃]

/-- **The variable tags of a text that is written as a tree of at most 1000 tags give what
evaluating the tree gives**, if no text that the tags read has brackets or what stands for them. -/
theorem resolve_render (user : String) (T : Template) (t : Turn) (htags : T.tags ≤ 1000)
    (hreads : ∀ v ∈ T.reads user t, v.Bracketless) :
    (Variables.resolve user T.render).run t = (T.evaluate user).run t := by
  cases heval : (T.evaluate user).run t with
  | mk u t' =>
  obtain ⟨n, hn⟩ := Nat.exists_eq_add_of_le htags
  have hlimit : Variables.limit = T.tags + n := hn
  obtain ⟨hrun, hclear⟩ := run_replacing T [] n List.not_mem_nil hreads heval
  have hneeds : Variables.innermost.Needs '<' := Scan.needs_delimited rfl rfl
  have hnone := hneeds.find?_eq_none (Variables.notMem_setAside u).1
  simp only [List.nil_append, List.append_nil] at hrun
  rw [Talk.replacing_of_find? _ hnone] at hrun
  rw [Variables.resolve, StateT.run_map, hlimit, hrun]
  change (Variables.unpark (setAside u), t') = _
  rw [Variables.unpark_setAside hclear]

/-- A turn of the user `ann`, whose variable `name` is set. -/
def annTurn : Turn where
  vars := ∅
  globals := ∅
  sessions := SessionStore.new.set "ann" (.setting "name" "Ann")
  dice := .first

/-- The tag `set`. -/
def setName : TagName :=
  ⟨"set".toList, by decide, by decide, fun op => by cases op <;> decide⟩

/-- The tag `get`. -/
def getName : TagName :=
  ⟨"get".toList, by decide, by decide, fun op => by cases op <;> decide⟩

/-- An unknown tag. -/
def helloName : TagName :=
  ⟨"hello".toList, by decide, by decide, fun op => by cases op <;> decide⟩

/-- An assignment of an unknown tag that has a read in it, and what follows. -/
def greeting : Template :=
  .tag setName
    (.text "greeting=".toList (by decide)
      (.tag helloName (.tag getName (.text "name".toList (by decide) .done) .done) .done))
    (.text "Hi!".toList (by decide) .done)

/-- The unknown tag is stored as it is written, with the variable in it. -/
theorem resolve_render_greeting :
    greeting.render = "<set greeting=<hello <get name>>>Hi!".toList ∧ greeting.tags ≤ 1000 ∧
      (∀ v ∈ greeting.reads "ann" annTurn, v.Bracketless) ∧
      (Variables.resolve "ann" greeting.render).run annTurn =
        ("Hi!".toList,
          { annTurn with
            sessions := annTurn.sessions.set "ann" (.setting "greeting" "<hello Ann>") }) := by
  have htags : greeting.tags ≤ 1000 := by decide
  have hreads : ∀ v ∈ greeting.reads "ann" annTurn, v.Bracketless := by decide
  refine ⟨by decide, htags, hreads, ?_⟩
  rw [resolve_render "ann" greeting annTurn htags hreads]
  rfl

end Template

end Repartee

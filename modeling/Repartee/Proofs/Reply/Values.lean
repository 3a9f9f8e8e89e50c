import Repartee.Proofs.Reply.Conditions

/-!
# Values with tags

A value is made of words and of tags that read a variable or name the user. In a reply that is
expanded what its tags read is put in their place, also where the value is assigned to a variable.

* `Text.Plain`: letters, digits and spaces.
* `ValueTag`, `Value`: tags without another one inside, and values.
* `Value.written`, `Value.read`: a value as it is written, and as it reads.
* `Value.template`: a value as a tree; `Value.user_written`: how the user is put in place.
* `Template.run_expand_render`: a reply that the first passes write as a tree and an inert rest.
* **`Value.run_expand_written`**: a value in front of such a rest becomes what it reads as.
* **`Value.run_expand_assignment`**: an assignment leaves nothing but the value in its variable.
-/

namespace Repartee

/-! ## Words -/

/-- Letters, digits and spaces. -/
def Text.Plain (t : Text) : Prop := ∀ c ∈ t, (c == ' ' || c.isAlphanum) = true

instance (t : Text) : Decidable t.Plain := List.decidableBAll _ t

namespace Text

variable {t u : Text}

theorem Plain.notMem (h : t.Plain) {c : Char} (hc : (c == ' ' || c.isAlphanum) = false) :
    c ∉ t := by
  intro hmem
  rw [h c hmem] at hc
  cases hc

theorem Plain.append (ht : t.Plain) (hu : u.Plain) : (t ++ u).Plain :=
  List.forall_mem_append.2 ⟨ht, hu⟩

theorem Plain.bracketless (h : t.Plain) : t.Bracketless := fun _ hc =>
  ⟨ne_of_mem_of_not_mem hc (h.notMem rfl), ne_of_mem_of_not_mem hc (h.notMem rfl),
    ne_of_mem_of_not_mem hc (h.notMem rfl), ne_of_mem_of_not_mem hc (h.notMem rfl)⟩

theorem Plain.inert (h : t.Plain) : t.Inert := inert_of_forall h (by decide)

theorem IsPlainWord.plain (h : t.IsPlainWord) : t.Plain := fun c hc => by
  rw [h.2 c hc, Bool.or_true]

/-- Words in front of an inert text leave it inert. -/
theorem Plain.inert_append (ht : t.Plain) (hu : u.Inert) : (t ++ u).Inert where
  angle := by simp [ht.notMem, hu.angle]
  brace := by simp [ht.notMem, hu.brace]
  escape := by simp [ht.notMem, hu.escape]
  array := by
    rintro ⟨p, q, h⟩
    rw [List.append_assoc] at h
    rcases List.append_eq_append_iff.1 h with ⟨v, rfl, hv⟩ | ⟨v, rfl, hv⟩
    · -- the pair begins in the words, or where they end
      cases v with
      | nil => exact hu.array ⟨[], q, hv⟩
      | cons c v =>
        obtain ⟨rfl, -⟩ := List.cons.inj hv
        exact ht.notMem rfl (List.mem_append_right p List.mem_cons_self)
    · exact hu.array ⟨v, q, by rw [hv, List.append_assoc]⟩
  marks := ht.inert.marks.append hu.marks

/-- A bracket that closes is inert. -/
theorem Inert.close (h : t.Inert) : Text.Inert ('>' :: t) where
  angle := by simp [h.angle]
  brace := by simp [h.brace]
  escape := by simp [h.escape]
  array harray := by
    rcases List.infix_cons_iff.1 harray with hfront | hrest
    · exact absurd hfront (by simp)
    · exact h.array hrest
  marks := clear_cons.2 ⟨by decide, h.marks⟩

end Text

/-! ## Values -/

/-- Whose variable a tag reads. -/
inductive Source where
  | user
  | bot

namespace Source

/-- The name of the tag. -/
def tagName : Source → TagName
  | user => Template.getName
  | bot => ⟨"bot".toList, by decide, by decide, fun op => by cases op <;> decide⟩

/-- What a variable reads as. An empty one of the bot counts as unset, one of the user does not. -/
def read (user : String) (t : Turn) (name : Text) : Source → Text
  | .user => ((stored user name t).getD undefined).toList
  | .bot => (((t.vars.find? (String.ofList name)).filter (· ≠ "")).getD undefined).toList

/-- The variable tag. -/
def variableTag : Source → VariableTag
  | user => .get
  | bot => .bot

theorem named?_tagName (source : Source) :
    VariableTag.named? source.tagName.text = some source.variableTag := by
  cases source <;> decide

theorem access_variableTag {name : Text} (hname : name.IsPlainWord) (source : Source) :
    source.variableTag.access name = .read name := by
  rw [VariableTag.access, Text.cut?_eq_none (hname.notMem rfl)]
  cases source <;> rfl

/-- The tag reads the variable, and changes nothing. -/
theorem carryOut_tagName {name : Text} (hname : name.IsPlainWord) (user : String)
    (source : Source) :
    source.tagName.carryOut user name = fun t => (source.read user t name, t) := by
  funext t
  rw [TagName.carryOut, source.named?_tagName]
  dsimp only
  rw [source.access_variableTag hname]
  cases source <;> rfl

theorem reads_tagName {name : Text} (hname : name.IsPlainWord) (user : String) (t : Turn)
    (source : Source) : source.tagName.reads user name t = [source.read user t name] := by
  rw [TagName.reads, source.named?_tagName]
  dsimp only
  rw [source.access_variableTag hname]
  cases source <;> rfl

end Source

/-- A tag that reads a variable or names the user. -/
inductive ValueTag where
  | lookup (source : Source) (name : Text) (word : name.IsPlainWord)
  | id

namespace ValueTag

/-- What stands behind the opening bracket. -/
def opening : ValueTag → Text
  | lookup source _ _ => source.tagName.text ++ [' ']
  | id => "id".toList

/-- The variable that is read. -/
def name : ValueTag → Text
  | lookup _ name _ => name
  | id => []

/-- What stands between the brackets. -/
def body (g : ValueTag) : Text := g.opening ++ g.name

/-- A tag as it is written. -/
def written (g : ValueTag) : Text := '<' :: (g.body ++ ['>'])

/-- What a tag reads. -/
def read (user : String) (t : Turn) : ValueTag → Text
  | lookup source name _ => source.read user t name
  | id => user.toList

variable (g : ValueTag)

theorem opening_mem : g.opening ∈ ["get ".toList, "bot ".toList, "id".toList] := by
  rcases g with ⟨source, name, word⟩ | _
  · cases source <;> simp [opening, Source.tagName, Template.getName]
  · simp [opening]

theorem plain_name : g.name.Plain := by
  cases g with
  | lookup source name word => exact word.plain
  | id => exact fun c hc => absurd hc List.not_mem_nil

theorem plain_body : g.body.Plain := by
  have hopening : ∀ o ∈ ["get ".toList, "bot ".toList, "id".toList], Text.Plain o := by decide
  exact (hopening _ g.opening_mem).append g.plain_name

/-- Nothing begins in a tag if its opening differs from that of a scan. -/
theorem free_written {α : Type} {p : Scan α} (hp : p.Needs '<') {os : Text}
    (hopening : ∀ u, Text.startsWithFolded? ('<' :: os) u = none → p u = none)
    (hclash : os.Clashes g.opening) : p.Free g.written := by
  have hnot : '<' ∉ g.opening ++ (g.name ++ ['>']) := by
    rw [← List.append_assoc]
    change '<' ∉ g.body ++ ['>']
    simp [g.plain_body.notMem]
  have hfree := hp.free_of_clashes hopening hclash hnot
  rwa [← List.append_assoc] at hfree

theorem free_opening {s : String} {os : Text} (hs : s.toList = '<' :: os)
    (hclash : os.Clashes g.opening) : (Scan.opening s).Free g.written := by
  refine g.free_written (Scan.needs_opening hs rfl) (fun u hu => ?_) hclash
  rw [Scan.opening, hs, hu]
  rfl

end ValueTag

/-- A part of a value: words or a tag. -/
inductive ValuePart where
  | words (t : Text) (plain : t.Plain)
  | tag (g : ValueTag)

namespace ValuePart

/-- A part as it is written. -/
def written : ValuePart → Text
  | words t _ => t
  | tag g => g.written

/-- A part as it reads. -/
def read (user : String) (t : Turn) : ValuePart → Text
  | words w _ => w
  | tag g => g.read user t

/-- A part is a tag. -/
def isTag : ValuePart → Bool
  | words _ _ => false
  | tag _ => true

end ValuePart

/-- The value of an assignment. -/
abbrev Value := List ValuePart

namespace Value

/-- A value as it is written. -/
def written (V : Value) : Text := V.flatMap ValuePart.written

/-- A value as it reads. -/
def read (user : String) (t : Turn) (V : Value) : Text := V.flatMap (·.read user t)

/-- The tags of a value read words. -/
def Readable (user : String) (t : Turn) (V : Value) : Prop :=
  ∀ g, .tag g ∈ V → (g.read user t).Plain

/-- The number of tags of a value. -/
def tags (V : Value) : Nat := V.countP ValuePart.isTag

/-- What stands before the value in an assignment to a variable. -/
def front (name : Text) : Text := '<' :: ("set ".toList ++ (name ++ ['=']))

/-- An assignment of a value to a variable as it is written. -/
def assignment (name : Text) (V : Value) : Text := front name ++ (V.written ++ ['>'])

variable {V : Value} {user : String} {t : Turn}

@[simp] theorem written_cons (part : ValuePart) (V : Value) :
    written (part :: V) = part.written ++ V.written := List.flatMap_cons

@[simp] theorem read_cons (part : ValuePart) (V : Value) :
    read user t (part :: V) = part.read user t ++ V.read user t := List.flatMap_cons

theorem Readable.of_cons {part : ValuePart} (h : Readable user t (part :: V)) :
    Readable user t V := fun g hg => h g (List.mem_cons_of_mem part hg)

/-- A value has brackets, letters, digits and spaces. -/
theorem notMem_written {c : Char} (hopen : c ≠ '<') (hclose : c ≠ '>')
    (hc : (c == ' ' || c.isAlphanum) = false) : c ∉ V.written := by
  intro hmem
  obtain ⟨part, -, hpart⟩ := List.mem_flatMap.1 hmem
  cases part with
  | words w hw => exact hw.notMem hc hpart
  | tag g =>
    have hbody := g.plain_body.notMem hc
    simp [ValuePart.written, ValueTag.written, hopen, hclose, hbody] at hpart

theorem Readable.plain_read (h : Readable user t V) : (V.read user t).Plain := by
  intro c hc
  obtain ⟨part, hmem, hpart⟩ := List.mem_flatMap.1 hc
  cases part with
  | words w hw => exact hw c hpart
  | tag g => exact h g hmem c hpart

/-- Nothing begins in a value if the openings of tags differ from that of a scan. -/
theorem free_written {α : Type} {p : Scan α} (hp : p.Needs '<') {os : Text}
    (hopening : ∀ u, Text.startsWithFolded? ('<' :: os) u = none → p u = none)
    (hclash : ∀ o ∈ ["get ".toList, "bot ".toList, "id".toList], os.Clashes o) :
    p.Free V.written := by
  refine Scan.free_flatMap fun part _ => ?_
  cases part with
  | words w hw => exact hp.free (hw.notMem rfl)
  | tag g => exact g.free_written hp hopening (hclash _ g.opening_mem)

/-! ## Values as trees -/

/-- A value as a tree, with the user in place. -/
def template (huser : Text.Plain user.toList) : Value → Template
  | [] => .done
  | .words w hw :: V => .text w hw.bracketless (template huser V)
  | .tag (.lookup source name word) :: V =>
    .tag source.tagName (.text name word.plain.bracketless .done) (template huser V)
  | .tag .id :: V => .text user.toList huser.bracketless (template huser V)

variable (huser : Text.Plain user.toList)

theorem tags_template : ∀ V : Value, (template huser V).tags ≤ V.tags
  | [] => Nat.le_refl 0
  | .words w hw :: V => tags_template V
  | .tag (.lookup source name word) :: V | .tag .id :: V => by
    have ih := tags_template V
    simp only [template, Template.tags, tags, List.countP_cons, ValuePart.isTag, if_true] at ih ⊢
    omega

/-- Evaluating the tree gives what the value reads as, and changes nothing. -/
theorem evaluate_template : ∀ V : Value,
    (template huser V).evaluate user = fun t => (V.read user t, t)
  | [] => rfl
  | .words w hw :: V | .tag .id :: V => by
    rw [template, Template.evaluate, evaluate_template V]
    rfl
  | .tag (.lookup source name word) :: V => by
    rw [template, Template.evaluate, evaluate_template V, Template.evaluate]
    simp only [Template.evaluate, pure_bind, List.append_nil, source.carryOut_tagName word user]
    rfl

/-- What the tags of the tree read has no brackets. -/
theorem bracketless_reads : ∀ {V : Value}, Readable user t V →
    ∀ v ∈ (template huser V).reads user t, v.Bracketless
  | [], _ => fun v hv => absurd hv List.not_mem_nil
  | .words w hw :: V, h | .tag .id :: V, h => bracketless_reads (V := V) h.of_cons
  | .tag (.lookup source name word) :: V, h => by
    have hread : Text.Plain (source.read user t name) :=
      h (.lookup source name word) List.mem_cons_self
    have hdata : ((Template.text name word.plain.bracketless .done).evaluate user).run t =
        (name, t) := by
      rw [Template.evaluate, Template.evaluate, pure_bind, List.append_nil]
      rfl
    have htag : (source.tagName.carryOut user name).run t = (source.read user t name, t) := by
      rw [source.carryOut_tagName word]
      rfl
    rw [template, Template.reads_tag hdata htag, source.reads_tagName word]
    refine List.forall_mem_append.2 ⟨?_, bracketless_reads (V := V) h.of_cons⟩
    exact List.forall_mem_singleton.2 hread.bracketless

/-- The first passes put the user in place. -/
theorem user_written (u : Text) : ∀ V : Value, Shorthand.user user (written V ++ u) =
    (template huser V).render ++ Shorthand.user user u
  | [] => rfl
  | .words w hw :: V => by
    have hneeds : (Scan.opening "<id>").Needs '<' := Scan.needs_opening rfl rfl
    have hrest := user_written u V
    rw [Shorthand.user] at hrest
    rw [written_cons, ValuePart.written, List.append_assoc, Shorthand.user,
      hneeds.replaceAll_notMem _ (hw.notMem rfl), hrest, template, Template.render,
      List.append_assoc]
  | .tag (.lookup source name word) :: V => by
    have hfree : (Scan.opening "<id>").Free (ValueTag.lookup source name word).written := by
      have hclash (source : Source) :
          Text.Clashes "id>".toList (source.tagName.text ++ [' ']) := by
        cases source <;> decide
      exact ValueTag.free_opening _ rfl (hclash source)
    have hrest := user_written u V
    rw [Shorthand.user] at hrest
    rw [written_cons, ValuePart.written, List.append_assoc, Shorthand.user,
      hfree.replaceAll_append, hrest, template, Template.render, Template.render, Template.render]
    simp [ValueTag.written, ValueTag.body, ValueTag.opening, ValueTag.name]
  | .tag .id :: V => by
    have hfolds : ∀ c ∈ "<id>".toList, Text.sameFolded c c := List.all_eq_true.1 (by decide)
    have hfront : Scan.opening "<id>" ("<id>".toList ++ (written V ++ u)) =
        some ((), written V ++ u) := by
      rw [Scan.opening, Scan.startsWithFolded?_append hfolds]
      rfl
    have hrest := user_written u V
    rw [Shorthand.user] at hrest
    rw [written_cons, List.append_assoc, Shorthand.user]
    refine (Scan.replaceAll_append (by decide) hfront).trans ?_
    rw [hrest, template, Template.render, List.append_assoc]

/-- The tree has letters, digits, spaces and brackets. -/
theorem notMem_render {c : Char} (hopen : c ≠ '<') (hclose : c ≠ '>')
    (hc : (c == ' ' || c.isAlphanum) = false) : ∀ V : Value, c ∉ (template huser V).render
  | [] => List.not_mem_nil
  | .words w hw :: V | .tag .id :: V => by
    simp [template, Template.render, Text.Plain.notMem, notMem_render hopen hclose hc V, *]
  | .tag (.lookup source name word) :: V => by
    have hopening : Text.Plain (source.tagName.text ++ [' ']) := by cases source <;> decide
    have hopening := hopening.notMem hc
    rw [List.mem_append, List.mem_singleton, not_or] at hopening
    simp [template, Template.render, word.plain.notMem hc, notMem_render hopen hclose hc V, *]

end Value

section

variable {a : Speaker} {x z : Text}

/-- Around a value that names the user, the first passes recognise nothing. -/
theorem Value.userOnly (hx : ∀ c ∈ ['\x7b', '(', '\x00'], c ∉ x)
    (hfree : ∀ name ∈ firstNames, (Scan.opening ("<" ++ name)).Free x) (hz : z.Inert) (V : Value) :
    (x ++ (V.written ++ z)).UserOnly where
  brace := by simp [hx, hz.brace, Value.notMem_written]
  array := by
    have hneeds : Shorthand.arrayTag.Needs '(' := Scan.needs_delimited rfl rfl
    have hfront : '(' ∉ x ++ V.written := by simp [hx, Value.notMem_written]
    rw [← List.append_assoc, hneeds.find?_append _ hfront, Shorthand.find?_arrayTag hz.array]
    rfl
  parked := by simp [hx, Value.notMem_written, hz.marks.notMem]
  names := .of_free fun name hname => by
    have hs : ("<" ++ name).toList = '<' :: name.toList := String.toList_append
    have hneeds : (Scan.opening ("<" ++ name)).Needs '<' := Scan.needs_opening hs rfl
    have hclash : ∀ name ∈ textNames, ∀ o ∈ ["get ".toList, "bot ".toList, "id".toList],
        Text.Clashes name.toList o := by decide
    refine (hfree name (List.mem_of_mem_erase hname)).append (.append ?_ (hneeds.free hz.angle))
    refine V.free_written hneeds (fun u hu => ?_) (hclash name hname)
    rw [Scan.opening, hs, hu]
    rfl

/-- The first passes put the user in place, and nothing else. -/
theorem Value.prepare_written (huser : Text.Plain a.user.toList)
    (hx : ∀ c ∈ ['\x7b', '(', '\\', '\x00'], c ∉ x)
    (hfree : ∀ name ∈ firstNames, (Scan.opening ("<" ++ name)).Free x) (hz : z.Inert) (V : Value)
    (s : Script) (hist : History) (stars botstars : List String) :
    Expand.prepare s a hist stars botstars (x ++ (V.written ++ z)) =
      x ++ ((V.template huser).render ++ z) := by
  have hx' : ∀ c ∈ ['\x7b', '(', '\x00'], c ∉ x := fun c hc => hx c (by simp at hc ⊢; tauto)
  have hid : (Scan.opening "<id>").Free x := (hfree "id" (by decide)).imp fun u hu => by
    have hname : Text.startsWithFolded? "<id".toList u = none := Option.map_eq_none_iff.1 hu
    rw [Scan.opening, show "<id>".toList = "<id".toList ++ ['>'] by decide,
      Scan.startsWithFolded?_append_eq_none hname]
    rfl
  have hneeds : (Scan.opening "<id>").Needs '<' := Scan.needs_opening rfl rfl
  have hz' : Shorthand.user a.user z = z :=
    Scan.replaceAll_of_find? (hneeds.find?_eq_none hz.angle)
  rw [Expand.prepare_userOnly (V.userOnly hx' hfree hz), Shorthand.user, hid.replaceAll_append]
  change Shorthand.unescape (x ++ Shorthand.user a.user (V.written ++ z)) = _
  rw [V.user_written huser, hz']
  refine Shorthand.unescape_eq_self ?_
  simp [hx, hz.escape, Value.notMem_render]

/-! ## Expanding -/

/-- A reply that the first passes write as a tree and an inert rest becomes the value of the tree
and this rest. -/
theorem Template.run_expand_render {s : Script} {stars botstars : List String} {text u : Text}
    {t t' : Turn} (T : Template)
    (hprepare : ∀ hist, Expand.prepare s a hist stars botstars text = T.render ++ z)
    (hbrace : '\x7b' ∉ T.render) (htags : T.tags ≤ 1000)
    (hreads : ∀ v ∈ T.reads a.user t, v.Bracketless) (heval : (T.evaluate a.user).run t = (u, t'))
    (hu : u.Plain) (hz : z.Inert) (redirect : Redirect) :
    (expand s a redirect stars botstars text).run t = (u ++ z, t') := by
  have hbrace : '\x7b' ∉ T.render ++ z := by simp [hbrace, hz.brace]
  have hinert : (u ++ z).Inert := hu.inert_append hz
  obtain ⟨hchoice, hformats, -⟩ := Expand.find?_eq_none_of_brace hbrace
  have hchoose : (Expand.choose s.depth (T.render ++ z)).run t = (T.render ++ z, t) := by
    rw [Expand.choose, Talk.replacing_of_find? _ hchoice]
    rfl
  have hresolve : (Variables.resolve a.user (T.render ++ z)).run t = (u ++ z, t') := by
    obtain ⟨n, hn⟩ := Nat.exists_eq_add_of_le htags
    have hlimit : Variables.limit = T.tags + n := hn
    have hneeds : Variables.innermost.Needs '<' := Scan.needs_delimited rfl rfl
    obtain ⟨hrun, -⟩ := T.run_replacing z n List.not_mem_nil hreads heval
    rw [List.nil_append, List.nil_append, Variables.setAside_eq_self hu.bracketless,
      Talk.replacing_of_find? _ (hneeds.find?_eq_none hinert.angle)] at hrun
    rw [Variables.resolve, StateT.run_map, hlimit, hrun]
    change (Variables.unpark (u ++ z), t') = _
    rw [Variables.unpark_eq_self ⟨hinert.marks.notMem (by decide), hinert.marks.notMem (by decide)⟩]
  exact run_expand_of_passes hprepare hchoose (Expand.formats_eq_self s hformats) hresolve hinert
    redirect

namespace Value

variable {V : Value} {t : Turn}

/-- **A value in front of an inert text becomes what it reads as**, and nothing changes. -/
theorem run_expand_written (huser : Text.Plain a.user.toList) (hread : V.Readable a.user t)
    (htags : V.tags ≤ 1000) (hz : z.Inert) (s : Script) (redirect : Redirect)
    (stars botstars : List String) :
    (expand s a redirect stars botstars (V.written ++ z)).run t = (V.read a.user t ++ z, t) := by
  have heval : ((V.template huser).evaluate a.user).run t = (V.read a.user t, t) := by
    rw [evaluate_template huser V]
    rfl
  exact (V.template huser).run_expand_render
    (V.prepare_written huser (x := []) (fun _ _ => List.not_mem_nil) (fun _ _ => trivial) hz s ·
      stars botstars)
    (V.notMem_render huser (by decide) (by decide) rfl) ((V.tags_template huser).trans htags)
    (V.bracketless_reads huser hread) heval hread.plain_read hz redirect

/-- What assigning a value to a variable of a user leaves of a turn. -/
def assigned (user : String) (name value : Text) (t : Turn) : Turn :=
  VariableTag.set.assigned user name value t

variable {name : Text}

theorem bracketless_name (hname : name.IsPlainWord) : (name ++ ['=']).Bracketless :=
  List.forall_mem_append.2 ⟨hname.plain.bracketless, List.forall_mem_singleton.2 (by decide)⟩

/-- An assignment as a tree, with the user in place. -/
def assignmentTree (huser : Text.Plain a.user.toList) (hname : name.IsPlainWord) (V : Value) :
    Template :=
  .tag Template.setName (.text (name ++ ['=']) (bracketless_name hname) (V.template huser)) .done

theorem run_data (huser : Text.Plain a.user.toList) (hname : name.IsPlainWord) (V : Value)
    (t : Turn) :
    ((Template.text (name ++ ['=']) (bracketless_name hname) (V.template huser)).evaluate
      a.user).run t = (name ++ '=' :: V.read a.user t, t) := by
  rw [Template.evaluate, V.evaluate_template huser, Talk.run_bind]
  change (name ++ ['='] ++ V.read a.user t, t) = _
  rw [List.append_assoc]
  rfl

theorem run_carryOut_setName (hname : name.IsPlainWord) (value : Text) (t : Turn) :
    (Template.setName.carryOut a.user (name ++ '=' :: value)).run t =
      ([], assigned a.user name value t) := by
  have hnamed : VariableTag.named? Template.setName.text = some .set := by decide
  change Template.setName.carryOut a.user (name ++ '=' :: value) t = _
  rw [TagName.carryOut, hnamed]
  dsimp only
  rw [VariableTag.access, Text.cut?_append (hname.notMem rfl)]
  rfl

theorem evaluate_assignmentTree (huser : Text.Plain a.user.toList) (hname : name.IsPlainWord)
    (V : Value) (t : Turn) :
    ((V.assignmentTree huser hname).evaluate a.user).run t =
      ([], assigned a.user name (V.read a.user t) t) :=
  Template.evaluate_tag (run_data huser hname V t) (run_carryOut_setName hname _ t) rfl

theorem bracketless_reads_assignmentTree (huser : Text.Plain a.user.toList)
    (hname : name.IsPlainWord) (hread : V.Readable a.user t) :
    ∀ v ∈ (V.assignmentTree huser hname).reads a.user t, v.Bracketless := by
  have hset : Template.setName.reads a.user (name ++ '=' :: V.read a.user t) t = [] := by
    have hnamed : VariableTag.named? Template.setName.text = some .set := by decide
    rw [TagName.reads, hnamed]
    dsimp only
    rw [VariableTag.access, Text.cut?_append (hname.notMem rfl)]
    rfl
  rw [assignmentTree, Template.reads_tag (run_data huser hname V t)
    (run_carryOut_setName hname _ t), hset, Template.reads, Template.reads, List.append_nil,
    List.append_nil]
  exact V.bracketless_reads huser hread

/-- Nothing that the first passes look for begins in front of the value. -/
theorem free_front (hname : name.IsPlainWord) (n : String) (hn : n ∈ firstNames) :
    (Scan.opening ("<" ++ n)).Free (front name) := by
  have hs : ("<" ++ n).toList = '<' :: n.toList := String.toList_append
  have hclash : ∀ n ∈ firstNames, Text.Clashes n.toList "set ".toList := by decide
  refine (Scan.needs_opening hs rfl).free_of_clashes (fun u hu => ?_) (hclash n hn) ?_
  · rw [Scan.opening, hs, hu]
    rfl
  · simp [hname.notMem]

/-- **An assignment in front of an inert text leaves nothing but the value in its variable.** -/
theorem run_expand_assignment (huser : Text.Plain a.user.toList) (hname : name.IsPlainWord)
    (hread : V.Readable a.user t) (htags : V.tags < 1000) (hz : z.Inert) (s : Script)
    (redirect : Redirect) (stars botstars : List String) :
    (expand s a redirect stars botstars (assignment name V ++ z)).run t =
      (z, assigned a.user name (V.read a.user t) t) := by
  have hfront : ∀ c ∈ ['\x7b', '(', '\\', '\x00'], c ∉ front name := by
    simp [front, hname.notMem]
  have hprepare (hist : History) : Expand.prepare s a hist stars botstars (assignment name V ++ z) =
      (V.assignmentTree huser hname).render ++ z := by
    have htext : assignment name V ++ z = front name ++ (V.written ++ ('>' :: z)) := by
      simp [assignment]
    rw [htext, V.prepare_written huser hfront (free_front hname) hz.close]
    simp [assignmentTree, Template.render, front, Template.setName]
  have hbrace : '\x7b' ∉ (V.assignmentTree huser hname).render := by
    simp [assignmentTree, Template.render, Template.setName, hname.notMem, notMem_render]
  have hlimit : (V.assignmentTree huser hname).tags ≤ 1000 := by
    have htree := V.tags_template huser
    rw [assignmentTree, Template.tags, Template.tags, Template.tags]
    omega
  exact Template.run_expand_render _ hprepare hbrace hlimit
    (bracketless_reads_assignmentTree huser hname hread) (evaluate_assignmentTree huser hname V t)
    (fun _ hc => absurd hc List.not_mem_nil) hz redirect

end Value

end

end Repartee

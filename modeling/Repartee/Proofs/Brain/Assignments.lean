import Repartee.Proofs.Brain.PassThrough
import Repartee.Proofs.Reply.Values

/-!
# Assignments in a begin reply

A begin reply is not expanded when it assigns: what it assigns is what is written before the first
bracket that closes. So a value without tags is assigned as in any other reply, and one with a tag
is cut off in its first tag; what is left of it stands in front of the answer.

* `Value.taken`, `Value.left`: what a begin reply assigns of a value, and what it leaves.
* `Resolve.run_openingReply`: one assignment.
* `Turn.Alike`: turns with the same variables, but for some of them.
* `Resolve.Answers`: a message is answered with a single reply.
* `AssignsFirst`, `AssignsHere`: scripts that assign in the begin reply, and in the answer.
* **`AssignsFirst.run_answer`**, **`AssignsHere.run_answer`**: what they answer.
* **`Brain.reply_assignment`**: they agree on a value without tags, and on no other one.
-/

namespace Repartee

/-! ## What a begin reply assigns -/

namespace Value

/-- What is written before the first bracket that closes. -/
def taken : Value → Text
  | [] => []
  | .words t _ :: V => t ++ taken V
  | .tag g :: _ => '<' :: g.body

/-- The parts behind the first tag. -/
def left : Value → Option Value
  | [] => none
  | .words _ _ :: V => left V
  | .tag _ :: V => some V

/-- What is left of a value in front of the answer. -/
def leftover (V : Value) : Text := (V.left.map fun W => W.written ++ ['>']).getD []

/-- What is left of a value as it reads. -/
def leftRead (user : String) (t : Turn) (V : Value) : Text :=
  (V.left.map fun W => W.read user t ++ ['>']).getD []

/-- A value is cut at the first bracket that closes. -/
theorem written_close (u : Text) : ∀ V : Value,
    V.written ++ '>' :: u = taken V ++ '>' :: (leftover V ++ u)
  | [] => rfl
  | .words w hw :: V => by
    rw [written_cons, List.append_assoc, written_close u V, taken, List.append_assoc]
    rfl
  | .tag g :: V => by
    simp [ValuePart.written, ValueTag.written, taken, leftover, left]

theorem tags_eq_zero : ∀ {V : Value}, V.tags = 0 → taken V = V.written ∧ left V = none ∧
    ∀ user t, V.read user t = V.written
  | [], _ => ⟨rfl, rfl, fun _ _ => rfl⟩
  | .words w hw :: V, h => by
    obtain ⟨htaken, hleft, hread⟩ := tags_eq_zero (V := V) h
    refine ⟨?_, hleft, fun user t => ?_⟩
    · rw [taken, htaken, written_cons]
      rfl
    · rw [read_cons, hread, written_cons]
      rfl
  | .tag g :: V, h => by simp [tags, ValuePart.isTag] at h

/-- What is taken of a value with a tag has a bracket, and something is left. -/
theorem tags_pos : ∀ {V : Value}, 0 < V.tags → '<' ∈ taken V ∧ (left V).isSome
  | [], h => absurd h (Nat.lt_irrefl 0)
  | .words w hw :: V, h => by
    obtain ⟨hmem, hleft⟩ := tags_pos (V := V) h
    exact ⟨List.mem_append_right w hmem, hleft⟩
  | .tag g :: V, _ => ⟨List.mem_cons_self, rfl⟩

theorem taken_ne_nil {V : Value} (h : V.written ≠ []) : taken V ≠ [] := by
  rcases Nat.eq_zero_or_pos V.tags with htags | htags
  · rwa [(tags_eq_zero htags).1]
  · exact List.ne_nil_of_mem (tags_pos htags).1

/-- What is taken has no bracket that closes, no line break and no brace. -/
theorem forall_mem_taken : ∀ V : Value, ∀ c ∈ taken V, c ≠ '>' ∧ c ≠ '\n' ∧ c ≠ '\x7b'
  | [] => fun c hc => absurd hc List.not_mem_nil
  | .words w hw :: V => by
    refine List.forall_mem_append.2 ⟨fun c hc => ?_, forall_mem_taken V⟩
    exact ⟨ne_of_mem_of_not_mem hc (hw.notMem rfl), ne_of_mem_of_not_mem hc (hw.notMem rfl),
      ne_of_mem_of_not_mem hc (hw.notMem rfl)⟩
  | .tag g :: V => by
    have hbody := g.plain_body
    refine List.forall_mem_cons.2 ⟨by decide, fun c hc => ?_⟩
    exact ⟨ne_of_mem_of_not_mem hc (hbody.notMem rfl), ne_of_mem_of_not_mem hc (hbody.notMem rfl),
      ne_of_mem_of_not_mem hc (hbody.notMem rfl)⟩

theorem notMem_leftover (V : Value) : '\x7b' ∉ V.leftover := by
  rw [leftover]
  cases V.left with
  | none => exact List.not_mem_nil
  | some W => simp [notMem_written]

theorem leftRead_ne_nil {V : Value} (h : V.left.isSome) (user : String) (t : Turn) :
    V.leftRead user t ≠ [] := by
  obtain ⟨W, hW⟩ := Option.isSome_iff_exists.1 h
  rw [leftRead, hW]
  exact List.append_ne_nil_of_right_ne_nil _ (List.cons_ne_nil _ _)

theorem left_suffix : ∀ {V W : Value}, left V = some W → W <:+ V
  | .words w hw :: V, W, h => (left_suffix (V := V) h).trans (List.suffix_cons _ _)
  | .tag g :: V, W, h => by
    cases h
    exact List.suffix_cons _ _

end Value

namespace Resolve

variable {name body u : Text} {user : String} {t : Turn}

/-- An assignment is recognised up to the first bracket that closes. -/
theorem setTag_front (hname : name.IsPlainWord) (hne : body ≠ [])
    (hbody : ∀ c ∈ body, c ≠ '>' ∧ c ≠ '\n') (u : Text) :
    setTag (Value.front name ++ (body ++ '>' :: u)) = some ((name, body), u) := by
  have hfolds : ∀ c ∈ "<set ".toList, Text.sameFolded c c := List.all_eq_true.1 (by decide)
  have hallowed : ∀ c ∈ name, (c != '\n') = true ∧ Text.sameFolded '=' c = false := fun c hc =>
    ⟨bne_iff_ne.2 (ne_of_mem_of_not_mem hc (hname.notMem rfl)),
      Text.sameFolded_of_ne rfl (ne_of_mem_of_not_mem hc (hname.notMem rfl))⟩
  have hfront : Scan.delimited "<set " (· != '\n') 1 "=" (Value.front name ++ (body ++ '>' :: u)) =
      some (name, body ++ '>' :: u) := by
    have htext : Value.front name ++ (body ++ '>' :: u) =
        "<set ".toList ++ (name ++ '=' :: (body ++ '>' :: u)) := by
      simp [Value.front]
    rw [htext]
    exact Scan.delimited_append hfolds (o := '=') (by decide) (List.length_pos_of_ne_nil hname.1)
      hallowed (body ++ '>' :: u)
  have huntil : Scan.until? (· != '\n') ['>'] 1 (body ++ '>' :: u) = some (body, u) :=
    Scan.until?_append (by decide) u (List.length_pos_of_ne_nil hne) fun c hc =>
      ⟨bne_iff_ne.2 (hbody c hc).2, Text.sameFolded_of_ne rfl (hbody c hc).1⟩
  rw [setTag, hfront]
  change (Scan.until? (· != '\n') ['>'] 1 (body ++ '>' :: u)).bind _ = _
  rw [huntil]
  rfl

theorem setTag_eq_none (u : Text) (h : Text.startsWithFolded? ('<' :: "set ".toList) u = none) :
    setTag u = none := by
  have hopening : "<set ".toList = '<' :: "set ".toList := by decide
  rw [setTag, Scan.delimited, hopening, h]
  rfl

theorem needs_setTag : setTag.Needs '<' := fun c cs hc =>
  setTag_eq_none (c :: cs) (by rw [Text.startsWithFolded?, Text.sameFolded_of_ne rfl hc]; rfl)

/-- **A begin reply assigns what is written before the first bracket that closes**, and the rest
stays, if there is nothing else to do. -/
theorem run_openingReply (hname : name.IsPlainWord) (hne : body ≠ [])
    (hbody : ∀ c ∈ body, c ≠ '>' ∧ c ≠ '\n' ∧ c ≠ '\x7b') (hset : setTag.find? u = none)
    (htopic : Expand.topicTag.find? u = none) (user : String) (t : Turn) :
    (openingReply user (Value.front name ++ (body ++ '>' :: u))).run t =
      (u, Value.assigned user name body t) := by
  have hneeds : Expand.topicTag.Needs '\x7b' := Scan.needs_delimited rfl rfl
  have hnot : '\x7b' ∉ body := fun hmem => (hbody _ hmem).2.2 rfl
  have hbrace : '\x7b' ∉ Value.front name ++ (body ++ ['>']) := by
    simp [Value.front, hname.notMem, hnot]
  have htopic : Expand.topicTag.find? (Value.front name ++ (body ++ '>' :: u)) = none := by
    have htext : Value.front name ++ (body ++ '>' :: u) =
        (Value.front name ++ (body ++ ['>'])) ++ u := by simp
    rw [htext, hneeds.find?_append u hbrace, htopic]
    rfl
  have hfind : setTag.find? (Value.front name ++ (body ++ '>' :: u)) =
      some ([], (name, body), u) := by
    have htag := setTag_front hname hne (fun c hc => ⟨(hbody c hc).1, (hbody c hc).2.1⟩) u
    rw [Value.front, List.cons_append] at htag ⊢
    rw [Scan.find?, htag]
  rw [openingReply, Expand.topics, Talk.replacing_of_find? _ htopic, pure_bind,
    show Expand.limit = 49 + 1 from rfl, Talk.replacing, hfind]
  dsimp only
  rw [bind_assoc, Talk.run_bind]
  simp only [pure_bind, List.nil_append]
  rw [Talk.replacing_of_find? _ hset]
  rfl

/-- So it does with a value, and leaves the mark in which the answer is put. -/
theorem run_openingReply_assignment (hname : name.IsPlainWord) {V : Value} (hV : V.written ≠ [])
    (user : String) (t : Turn) : (openingReply user (V.assignment name ++ okMark)).run t =
      (V.leftover ++ okMark, Value.assigned user name V.taken t) := by
  have htext : V.assignment name ++ okMark =
      Value.front name ++ (V.taken ++ '>' :: (V.leftover ++ okMark)) := by
    rw [← V.written_close, Value.assignment]
    simp
  have htopic : Expand.topicTag.find? (V.leftover ++ okMark) = none := by
    have hneeds : Expand.topicTag.Needs '\x7b' := Scan.needs_delimited rfl rfl
    have hmark : Expand.topicTag.find? okMark = none := by decide
    rw [hneeds.find?_append okMark V.notMem_leftover, hmark]
    rfl
  have hset : setTag.find? (V.leftover ++ okMark) = none := by
    have hfree : setTag.Free V.leftover := by
      have hclash : ∀ o ∈ ["get ".toList, "bot ".toList, "id".toList],
          Text.Clashes "set ".toList o := by decide
      rw [Value.leftover]
      cases V.left with
      | none => trivial
      | some W =>
        have hclose : setTag.Free ['>'] := needs_setTag.free (by decide)
        exact (W.free_written needs_setTag setTag_eq_none hclash).append hclose
    have hmark : setTag.find? okMark = none := by decide
    rw [hfree.find?_append, hmark]
    rfl
  rw [htext]
  exact run_openingReply hname (Value.taken_ne_nil hV) V.forall_mem_taken hset htopic user t

end Resolve

/-! ## Turns with the same variables -/

/-- In two turns the variables of the bot are the same, and so are those of a user but for some
names. The user may have been moved to the default topic. -/
structure Turn.Alike (user : String) (names : List Text) (t t' : Turn) : Prop where
  vars : t'.vars = t.vars
  memory : t'.sessions.IsMemory ↔ t.sessions.IsMemory
  stored : ∀ m ∉ names, Repartee.stored user m t' = Repartee.stored user m t ∨
    m = "topic".toList ∧ Repartee.stored user m t' = some defaultTopic

namespace Turn.Alike

variable {user : String} {names : List Text} {t t' t'' : Turn}

theorem of_sessions (hvars : t'.vars = t.vars) (hsessions : t'.sessions = t.sessions) :
    t.Alike user names t' :=
  ⟨hvars, by rw [hsessions], fun m _ => .inl (by rw [Repartee.stored, hsessions]; rfl)⟩

theorem trans (h : t.Alike user names t') (h' : t'.Alike user names t'') :
    t.Alike user names t'' where
  vars := h'.vars.trans h.vars
  memory := h'.memory.trans h.memory
  stored m hm := by
    rcases h'.stored m hm with hsame | hmoved
    · rw [hsame]
      exact h.stored m hm
    · exact .inr hmoved

theorem mono {names' : List Text} (h : t.Alike user names t') (hnames : names ⊆ names') :
    t.Alike user names' t' :=
  ⟨h.vars, h.memory, fun m hm => h.stored m fun hmem => hm (hnames hmem)⟩

end Turn.Alike

/-- A variable that is assigned has the value, in a store that keeps data. -/
theorem stored_assigned {user : String} {t : Turn} (h : t.sessions.IsMemory) (name value : Text) :
    stored user name (Value.assigned user name value t) = some (String.ofList value) := by
  have hdata := SessionStore.data?_set h user (.setting (String.ofList name) (String.ofList value))
  change (((t.sessions.set user _).data? user).bind (·.vars.find? (String.ofList name))) = _
  rw [hdata]
  change (((t.sessions.data? user).getD {}).setVar _ _).vars.find? _ = _
  rw [UserData.setVar, Table.find?_insert, if_pos rfl]

/-- An assignment changes no other variable, but a user who was not known is in the default topic
afterwards. -/
theorem stored_assigned_or (user : String) (name value m : Text) (t : Turn) :
    stored user m (Value.assigned user name value t) = stored user m t ∨
      m = name ∧ stored user m (Value.assigned user name value t) = some (String.ofList value) ∨
      m = "topic".toList ∧
        stored user m (Value.assigned user name value t) = some defaultTopic := by
  by_cases hmemory : t.sessions.IsMemory
  · by_cases hm : m = name
    · subst hm
      exact .inr (.inl ⟨rfl, stored_assigned hmemory m value⟩)
    · have hne : String.ofList m ≠ String.ofList name := fun he => hm (String.ofList_injective he)
      have hdata :=
        SessionStore.data?_set hmemory user (.setting (String.ofList name) (String.ofList value))
      have hstored : stored user m (Value.assigned user name value t) =
          ((t.sessions.data? user).getD {}).vars.find? (String.ofList m) := by
        change (((t.sessions.set user _).data? user).bind (·.vars.find? (String.ofList m))) = _
        rw [hdata]
        change (((t.sessions.data? user).getD {}).setVar _ _).vars.find? _ = _
        rw [UserData.setVar, Table.find?_insert, if_neg hne]
      rw [hstored, stored]
      cases t.sessions.data? user with
      | some data => exact .inl rfl
      | none =>
        rw [Option.getD_none, Table.find?_insert]
        split
        · rename_i htopic
          exact .inr (.inr ⟨by rw [← String.toList_ofList (l := m), htopic], rfl⟩)
        · exact .inl rfl
  · left
    cases hstore : t.sessions with
    | memory => exact absurd (hstore ▸ trivial) hmemory
    | forgetful =>
      change (((t.sessions.set user _).data? user).bind _) = ((t.sessions.data? user).bind _)
      rw [hstore]
      rfl

namespace Turn.Alike

variable {user : String} {t t' : Turn}

theorem assigned (user : String) (name value : Text) (t : Turn) :
    t.Alike user [name] (Value.assigned user name value t) where
  vars := rfl
  memory := by
    change (t.sessions.set user _).IsMemory ↔ _
    cases t.sessions <;> exact Iff.rfl
  stored m hm := (stored_assigned_or user name value m t).imp_right fun h =>
    h.resolve_left fun h => hm (List.mem_singleton.2 h.1)

theorem leaveUnknownTopic {s : Script} {data : UserData}
    (h : (Resolve.leaveUnknownTopic s user).run t = (data, t')) : t.Alike user [] t' := by
  rw [Resolve.leaveUnknownTopic_run] at h
  split at h
  · cases h
    exact .of_sessions rfl rfl
  · cases h
    have htopic := assigned user "topic".toList defaultTopic.toList t
    refine ⟨rfl, htopic.memory, fun m _ => ?_⟩
    exact (stored_assigned_or user "topic".toList defaultTopic.toList m t).imp_right
      (Or.elim · id id)

theorem of_matches {s : Script} {order : TrialOrder} {a : Speaker} {depth : Nat} {message : Text}
    {found : Found} {g : Trigger} (h : Resolve.Matches s order a depth message t found g t') :
    t.Alike a.user [] t' := by
  obtain ⟨data, t₁, hleave, hvars, hsessions⟩ := h.leaves
  exact (leaveUnknownTopic hleave).trans (.of_sessions hvars hsessions)

end Turn.Alike

namespace Value

/-- A value reads a variable of the user. -/
def Reads (name : Text) (V : Value) : Prop :=
  ∃ word : name.IsPlainWord, ValuePart.tag (.lookup .user name word) ∈ V

theorem tags_pos_of_reads {name : Text} {V : Value} (h : V.Reads name) : 0 < V.tags := by
  obtain ⟨word, hmem⟩ := h
  exact List.countP_pos_iff.2 ⟨_, hmem, rfl⟩

/-- What the tags of a value read stays words while no variable changes that they read. -/
theorem Readable.of_alike {V : Value} {user : String} {names : List Text} {t t' : Turn}
    (h : V.Readable user t) (halike : t.Alike user names t') (hnames : ∀ m ∈ names, ¬V.Reads m) :
    V.Readable user t' := by
  intro g hg
  rcases g with ⟨source, m, word⟩ | _
  · cases source with
    | user =>
      have hm : m ∉ names := fun hmem => hnames m hmem ⟨word, hg⟩
      change Text.Plain ((stored user m t').getD undefined).toList
      rcases halike.stored m hm with hsame | ⟨-, hmoved⟩
      · rw [hsame]
        exact h _ hg
      · rw [hmoved]
        decide
    | bot =>
      change Text.Plain (((t'.vars.find? _).filter _).getD undefined).toList
      rw [halike.vars]
      exact h _ hg
  · exact h _ hg

end Value

/-! ## Answers -/

/-- A message is answered with a single reply, which is chosen and expanded in a turn. -/
def Resolve.Answers (s : Script) (order : TrialOrder) (a : Speaker) (message : Text) (t : Turn)
    (reply : String) (t' : Turn) : Prop :=
  ∃ found g t₁, Matches s order a 0 message t found g t₁ ∧ g.redirect = none ∧ g.conditions = [] ∧
    g.replies = [reply] ∧ t' = { t₁ with dice := (t₁.dice.roll (Choice.weight reply)).2 }

variable {s : Script} {order : TrialOrder} {a : Speaker} {message name : Text} {t t' : Turn}
  {reply text : String} {V : Value}

theorem Resolve.Answers.alike (h : Answers s order a message t reply t') :
    t.Alike a.user [] t' := by
  obtain ⟨found, g, t₁, hmatches, -, -, -, rfl⟩ := h
  exact (Turn.Alike.of_matches hmatches).trans (.of_sessions rfl rfl)

theorem Resolve.Answers.run_resolve (h : Answers s order a message t reply t') (hne : reply ≠ "")
    (levels : Nat) : ∃ stars botstars,
      (resolve s order a (levels + 1) 0 .normal message).run t =
        (expand s a (resolve s order a levels 1 .normal) stars botstars reply.toList).run t' := by
  obtain ⟨found, g, t₁, hmatches, hredirect, hconditions, hreplies, rfl⟩ := h
  have hnil : reply.toList ≠ [] := fun h => hne (String.toList_eq_nil_iff.1 h)
  refine ⟨found.stars, found.botstars, ?_⟩
  have hchosen (expand : Text → Talk Text) : chosenReply expand g = (do
      let _ ← Talk.roll (Choice.weight reply)
      pure reply.toList) := by
    simp only [chosenReply, hconditions, firstReply, pure_bind, hreplies, Choice.pick_singleton,
      bind_assoc, Option.getD_some]
  have hroll : (Talk.roll (Choice.weight reply)).run t₁ =
      ((t₁.dice.roll (Choice.weight reply)).1,
        { t₁ with dice := (t₁.dice.roll (Choice.weight reply)).2 }) := rfl
  rw [run_resolve_of_matches hmatches hredirect levels]
  simp only [hchosen, bind_assoc, pure_bind, hnil, if_false]
  rw [Talk.run_bind, hroll]

/-- A script answers a message with an inert text, and assigns a value in its only begin reply. -/
structure AssignsFirst (s : Script) (order : TrialOrder) (a : Speaker) (message name : Text)
    (V : Value) (text : String) (t t' : Turn) : Prop where
  current : s.Current
  sorted : s.order = some order
  block : s.topics.find? beginTopic = some (asks (String.ofList (V.assignment name ++ okMark)))
  answers : ∃ data t₀, (Resolve.leaveUnknownTopic s a.user).run t = (data, t₀) ∧
    Resolve.Answers s order a message (Value.assigned a.user name V.taken
      (Resolve.opened (String.ofList (V.assignment name ++ okMark)) t₀)) text t'

/-- A script without begin block answers a message with a reply that assigns a value in front of an
inert text. -/
structure AssignsHere (s : Script) (order : TrialOrder) (a : Speaker) (message name : Text)
    (V : Value) (text : String) (t t' : Turn) : Prop where
  sorted : s.order = some order
  noBegin : s.topics.contains beginTopic = false
  answers : Resolve.Answers s order a message t
    (String.ofList (V.assignment name ++ text.toList)) t'

/-- The turns around an answer have the same variables, but for the one that is assigned. -/
theorem AssignsFirst.alike (h : AssignsFirst s order a message name V text t t') :
    t.Alike a.user [name] t' := by
  obtain ⟨data, t₀, hleave, hanswers⟩ := h.answers
  have hopened : t.Alike a.user []
      (Resolve.opened (String.ofList (V.assignment name ++ okMark)) t₀) :=
    (Turn.Alike.leaveUnknownTopic hleave).trans (.of_sessions rfl rfl)
  exact (hopened.mono (List.nil_subset _)).trans
    ((Turn.Alike.assigned a.user name V.taken _).trans (hanswers.alike.mono (List.nil_subset _)))

/-- What the begin reply has assigned is still there when the answer is given. -/
theorem AssignsFirst.stored_eq (h : AssignsFirst s order a message name V text t t')
    (hmemory : t.sessions.IsMemory) (htopic : name ≠ "topic".toList) :
    stored a.user name t' = some (String.ofList V.taken) := by
  obtain ⟨data, t₀, hleave, hanswers⟩ := h.answers
  have hmemory : t₀.sessions.IsMemory :=
    (Turn.Alike.leaveUnknownTopic hleave).memory.2 hmemory
  rcases hanswers.alike.stored name List.not_mem_nil with hsame | ⟨hname, -⟩
  · rw [hsame]
    exact stored_assigned hmemory name V.taken
  · exact absurd hname htopic

/-- An assignment is not the empty reply. -/
theorem Value.ofList_assignment_ne (name u : Text) (V : Value) :
    String.ofList (V.assignment name ++ u) ≠ "" := by
  intro h
  have hnil := congrArg String.toList h
  rw [String.toList_ofList] at hnil
  cases hnil

section

variable (huser : Text.Plain a.user.toList) (hname : name.IsPlainWord)
  (hread : V.Readable a.user t) (htags : V.tags < 1000) (htext : Text.Inert text.toList)

include huser hread htags htext

/-- What is left of a value becomes what it reads as, in front of the answer. -/
theorem Value.run_expand_leftover (redirect : Redirect) :
    (expand s a redirect [] [] (V.leftover ++ text.toList)).run t =
      (V.leftRead a.user t ++ text.toList, t) := by
  rw [leftover, leftRead]
  cases hleft : V.left with
  | none =>
    rw [Option.map_none, Option.map_none, Option.getD_none, List.nil_append, expand_inert htext]
    rfl
  | some W =>
    have hsuffix := left_suffix hleft
    have hW : W.Readable a.user t := fun g hg => hread g (hsuffix.mem hg)
    have hWtags : W.tags ≤ 1000 := (hsuffix.sublist.countP_le).trans (Nat.le_of_lt htags)
    have hrun := run_expand_written huser hW hWtags htext.close s redirect [] []
    simpa only [Option.map_some, Option.getD_some, List.append_assoc, List.singleton_append]
      using hrun

include hname

/-- **A begin reply assigns what it takes of a value, and the rest of the value stands in front of
the answer**, if the value does not read the variable. -/
theorem AssignsFirst.run_answer (h : AssignsFirst s order a message name V text t t')
    (hV : V.written ≠ []) (hne : text ≠ "") (hown : ¬V.Reads name) :
    (answer s order a message).run t = (V.leftRead a.user t' ++ text.toList, t') := by
  obtain ⟨data, t₀, hleave, hanswers⟩ := h.answers
  have hcontains : s.topics.contains beginTopic = true := by
    rw [Table.contains, h.block]
    rfl
  have hopening := Resolve.run_opening_asks h.current h.sorted h.block
    (Value.ofList_assignment_ne name okMark V) s.depth hleave
  have hreply := String.toList_ofList (l := V.assignment name ++ okMark)
  rw [hreply, Resolve.run_openingReply_assignment hname hV] at hopening
  obtain ⟨stars, botstars, hnormal⟩ := hanswers.run_resolve hne s.depth
  rw [expand_inert htext] at hnormal
  -- the turn in which the answer is expanded once more has the variables that the value reads
  have hread' : V.Readable a.user t' :=
    hread.of_alike h.alike fun m hm => by rwa [List.mem_singleton.1 hm]
  have hbrace : '\x7b' ∉ V.leftover := V.notMem_leftover
  rw [answer, if_pos hcontains, Talk.run_bind, hopening]
  dsimp only
  rw [fill_append_okMark hbrace, Talk.run_bind, StateT.run_map, hnormal]
  exact Value.run_expand_leftover huser hread' htags htext _

/-- **A reply assigns a value as it reads, and the answer is the rest of the reply.** -/
theorem AssignsHere.run_answer (h : AssignsHere s order a message name V text t t') :
    (answer s order a message).run t =
      (text.toList, Value.assigned a.user name (V.read a.user t') t') := by
  obtain ⟨stars, botstars, hrun⟩ :=
    h.answers.run_resolve (V.ofList_assignment_ne name text.toList) s.depth
  have hread' : V.Readable a.user t' :=
    hread.of_alike h.answers.alike fun m hm => absurd hm List.not_mem_nil
  rw [answer, if_neg (by rw [h.noBegin]; exact Bool.false_ne_true), hrun, String.toList_ofList]
  exact Value.run_expand_assignment huser hname hread' htags htext s _ _ _

end

/-! ## Replies -/

/-- After a reply a variable has the value that it had when the answer was given. -/
theorem Brain.get?_conclude (b : Brain) {user value : String} (hmemory : t.sessions.IsMemory)
    (hstored : stored user name t = some value) (message text : String) :
    (b.conclude user t message text).2.sessions.get? user (String.ofList name) = some value := by
  obtain ⟨data, hdata, hfind⟩ := Option.bind_eq_some_iff.1 hstored
  change ((t.sessions.set user _).data? user).map (·.var (String.ofList name)) = _
  rw [SessionStore.data?_set hmemory, hdata]
  change some ((data.vars.find? _).getD _) = _
  rw [hfind]
  rfl

/-- Where nothing is kept, no variable is there after a reply. -/
theorem Brain.get?_conclude_of_not (b : Brain) (user : String) (h : ¬t.sessions.IsMemory)
    (message text v : String) : (b.conclude user t message text).2.sessions.get? user v = none := by
  change ((t.sessions.set user _).data? user).map (·.var v) = _
  cases hstore : t.sessions with
  | memory => exact absurd (hstore ▸ trivial) h
  | forgetful => rfl

/-- After a reply the variable has what the begin reply has taken of the value. -/
theorem AssignsFirst.get?_conclude (h : AssignsFirst s order a message name V text t t')
    (hmemory : t.sessions.IsMemory) (htopic : name ≠ "topic".toList) (b : Brain)
    (message text : String) :
    (b.conclude a.user t' message text).2.sessions.get? a.user (String.ofList name) =
      some (String.ofList V.taken) :=
  b.get?_conclude (h.alike.memory.2 hmemory) (h.stored_eq hmemory htopic) message text

/-- After a reply the variable has the value as it reads. -/
theorem AssignsHere.get?_conclude (h : AssignsHere s order a message name V text t t')
    (hmemory : t.sessions.IsMemory) (b : Brain) (message text : String) :
    (b.conclude a.user (Value.assigned a.user name (V.read a.user t') t') message
        text).2.sessions.get? a.user (String.ofList name) =
      some (String.ofList (V.read a.user t')) := by
  have hmemory : t'.sessions.IsMemory := h.answers.alike.memory.2 hmemory
  have halike := Turn.Alike.assigned a.user name (V.read a.user t') t'
  exact b.get?_conclude (halike.memory.2 hmemory) (stored_assigned hmemory name _) message text

namespace Brain

/-- The variable is the same after both replies if the value that is taken is the value as it
reads. -/
theorem get?_conclude_agree {s' : Script} {order' : TrialOrder} {message' : Text} {u u' : Turn}
    (hfirst : AssignsFirst s order a message name V text t u)
    (hhere : AssignsHere s' order' a message' name V text t u')
    (htopic : name ≠ "topic".toList) (htaken : V.taken = V.read a.user u') (b b' : Brain)
    (m x m' x' : String) :
    (b.conclude a.user u m x).2.sessions.get? a.user (String.ofList name) =
      (b'.conclude a.user (Value.assigned a.user name (V.read a.user u') u') m'
        x').2.sessions.get? a.user (String.ofList name) := by
  by_cases hmemory : t.sessions.IsMemory
  · rw [hfirst.get?_conclude hmemory htopic, hhere.get?_conclude hmemory, htaken]
  · have hnot : ¬u.sessions.IsMemory := fun h => hmemory (hfirst.alike.memory.1 h)
    have hassigned := Turn.Alike.assigned a.user name (V.read a.user u') u'
    have hnot' : ¬(Value.assigned a.user name (V.read a.user u') u').sessions.IsMemory := fun h =>
      hmemory (hhere.answers.alike.memory.1 (hassigned.memory.1 h))
    rw [b.get?_conclude_of_not a.user hnot, b'.get?_conclude_of_not a.user hnot']

/-- **A begin reply and an answer agree on the assignment of a value without tags. Of a value with a
tag a begin reply assigns what stands before the first bracket that closes, and the rest of the
value, as it reads, stands in front of the answer.** -/
theorem reply_assignment {b : Brain} {s : Script} {order order' : TrialOrder}
    {user text : String} (message : String) {scope : Option Scope} {name : Text} {V : Value}
    {t t' : Turn}
    (huser : Text.Plain user.toList) (hname : name.IsPlainWord) (htopic : name ≠ "topic".toList)
    (hV : V.written ≠ []) (hread : V.Readable user (b.turn user))
    (htext : Text.Inert text.toList) (hne : text ≠ "")
    (hfirst : AssignsFirst b.script order ⟨user, scope⟩
      (b.script.normalize false message.toList) name V text (b.turn user) t)
    (hhere : AssignsHere s order' ⟨user, scope⟩ (s.normalize false message.toList) name V text
      (b.turn user) t') :
    ∃ r c r' c', b.reply user message scope = (.ok r, c) ∧
      { b with script := s }.reply user message scope = (.ok r', c') ∧
      (V.tags = 0 → r.text = text ∧ r'.text = text ∧
        c.sessions.get? user (String.ofList name) = c'.sessions.get? user (String.ofList name)) ∧
      (0 < V.tags → V.tags < 1000 → ¬V.Reads name →
        r.text = String.ofList (V.leftRead user t) ++ text ∧ r.text ≠ text ∧ r'.text = text ∧
        (b.sessions.IsMemory →
          c.sessions.get? user (String.ofList name) = some (String.ofList V.taken) ∧
          c'.sessions.get? user (String.ofList name) = some (String.ofList (V.read user t')) ∧
          V.taken ≠ V.read user t')) := by
  have hanswer (htags : V.tags < 1000) (hown : ¬V.Reads name) :=
    AssignsFirst.run_answer (a := ⟨user, scope⟩) huser hname hread htags htext hfirst hV hne hown
  have hanswer' (htags : V.tags < 1000) :=
    AssignsHere.run_answer (a := ⟨user, scope⟩) huser hname hread htags htext hhere
  obtain ⟨x, u, hrun⟩ : ∃ x u, (answer b.script order ⟨user, scope⟩
      (b.script.normalize false message.toList)).run (b.turn user) = (x, u) := ⟨_, _, rfl⟩
  obtain ⟨x', u', hrun'⟩ : ∃ x u, (answer s order' ⟨user, scope⟩
      (s.normalize false message.toList)).run (b.turn user) = (x, u) := ⟨_, _, rfl⟩
  have hreply := reply_of_answer hfirst.sorted hrun
  have hreply' := reply_of_answer (b := { b with script := s }) hhere.sorted hrun'
  refine ⟨_, _, _, _, hreply, hreply', fun hplain => ?_, fun htagged htags hown => ?_⟩
  · have htags : V.tags < 1000 := by omega
    have hown : ¬V.Reads name := fun h => absurd (Value.tags_pos_of_reads h) (by omega)
    obtain ⟨rfl, rfl⟩ := Prod.mk.inj (hrun.symm.trans (hanswer htags hown))
    obtain ⟨rfl, rfl⟩ := Prod.mk.inj (hrun'.symm.trans (hanswer' htags))
    obtain ⟨htaken, hleft, hvalue⟩ := Value.tags_eq_zero hplain
    refine ⟨?_, String.ofList_toList, ?_⟩
    · change String.ofList (V.leftRead user u ++ text.toList) = text
      rw [Value.leftRead, hleft]
      exact String.ofList_toList
    · exact get?_conclude_agree hfirst hhere htopic (by rw [htaken, hvalue]) _ _ _ _ _ _
  · obtain ⟨rfl, rfl⟩ := Prod.mk.inj (hrun.symm.trans (hanswer htags hown))
    obtain ⟨rfl, rfl⟩ := Prod.mk.inj (hrun'.symm.trans (hanswer' htags))
    obtain ⟨hbracket, hleft⟩ := Value.tags_pos htagged
    have htexts : String.ofList (V.leftRead user u ++ text.toList) =
        String.ofList (V.leftRead user u) ++ text :=
      String.ofList_append.trans (congrArg _ String.ofList_toList)
    refine ⟨htexts, fun heq => ?_, String.ofList_toList, fun hmemory => ?_⟩
    · have hlists := congrArg String.toList heq
      change (String.ofList (V.leftRead user u ++ text.toList)).toList = _ at hlists
      rw [String.toList_ofList] at hlists
      exact Value.leftRead_ne_nil hleft user u (List.append_left_eq_self.1 hlists)
    · have hmemory : (b.turn user).sessions.IsMemory := SessionStore.isMemory_meet hmemory user
      have hread' : V.Readable user t' :=
        hread.of_alike hhere.answers.alike fun m hm => absurd hm List.not_mem_nil
      refine ⟨hfirst.get?_conclude hmemory htopic _ _ _, hhere.get?_conclude hmemory _ _ _, ?_⟩
      exact fun heq => hread'.plain_read.notMem rfl (heq ▸ hbracket)

/-! ## An example -/

/-- A topic whose only trigger has a single reply. -/
def welcome (reply : String) : Topic :=
  { name := defaultTopic, triggers := [{ pattern := "hello", replies := [reply] }] }

/-- A script with some topics. -/
def scriptOf (topics : List Topic) : Script := ((Brain.new {} .new).load { topics }).2.sort.script

/-- The order of its triggers. -/
def orderOf (topics : List Topic) : TrialOrder :=
  .build (scriptOf topics).topics (scriptOf topics).previous (scriptOf topics).depth

theorem order_scriptOf (topics : List Topic) :
    (scriptOf topics).order = some (orderOf topics) := by
  have hsort (b : Brain) : b.sort.script.order =
      some (.build b.sort.script.topics b.sort.script.previous b.sort.script.depth) := rfl
  exact hsort _

/-- A bot with this script that knows the name of `ann`. -/
def annBot (topics : List Topic) : Brain where
  script := scriptOf topics
  sessions := SessionStore.new.set "ann" (.setting "name" "Ann")
  dice := .first

/-- The topics of a bot that assigns a value in its begin reply. -/
def nickFirst (V : Value) : List Topic :=
  [asks (String.ofList (V.assignment "nick".toList ++ okMark)), welcome "done"]

/-- The topics of a bot that assigns a value in its answer. -/
def nickHere (V : Value) : List Topic :=
  [welcome (String.ofList (V.assignment "nick".toList ++ "done".toList))]

/-- A value without tags. -/
def annie : Value := [.words "Annie".toList (by decide)]

/-- A value with a tag that reads the name. -/
def little : Value :=
  [.words "little ".toList (by decide), .tag (.lookup .user "name".toList (by decide))]

/-- A begin reply and an answer disagree on a value with a tag, and the begin reply adds a bracket
to the answer. -/
theorem reply_little :
    ((annBot (nickFirst little)).reply "ann" "hello").map
        (·.toOption.map (·.text)) (·.sessions.get? "ann" "nick") =
      (some ">done", some "little <get name") ∧
    ((annBot (nickHere little)).reply "ann" "hello").map
        (·.toOption.map (·.text)) (·.sessions.get? "ann" "nick") =
      (some "done", some "little Ann") := by
  decide +kernel

theorem welcome_answers {topics : List Topic} {reply : String} {t : Turn}
    (htopic : (scriptOf topics).topics.contains (Resolve.current "ann" t).topic)
    (hfound : ((scriptOf topics).findMatch (orderOf topics) t.vars (Resolve.current "ann" t)
      "hello".toList (Resolve.current "ann" t).topic 0).1 =
        some { id := ⟨"random", 0⟩, stars := [] })
    (htrigger : (scriptOf topics).trigger? ⟨"random", 0⟩ =
      some { pattern := "hello", replies := [reply] }) :
    ∃ t', Resolve.Answers (scriptOf topics) (orderOf topics) ⟨"ann", none⟩ "hello".toList t reply
      t' := by
  have hleave := Resolve.leaveUnknownTopic_run (scriptOf topics) "ann" t
  rw [if_pos htopic] at hleave
  have hsearch := Resolve.run_search .normal (Prod.ext hfound rfl) htrigger
  exact ⟨_, _, _, _, ⟨_, _, _, hleave, htopic, hsearch, rfl⟩, rfl, rfl, rfl, rfl⟩

theorem nickFirst_assigns {V : Value} (hV : V = annie ∨ V = little) :
    ∃ t, AssignsFirst (scriptOf (nickFirst V)) (orderOf (nickFirst V)) ⟨"ann", none⟩ "hello".toList
      "nick".toList V "done" ((annBot (nickFirst V)).turn "ann") t := by
  have hcurrent : (scriptOf (nickFirst V)).Current :=
    (Brain.Reachable.sort (.load { topics := nickFirst V } (.new {} .new {}))).current
  have hknown : (scriptOf (nickFirst V)).topics.contains
      (Resolve.current "ann" ((annBot (nickFirst V)).turn "ann")).topic := by
    rcases hV with rfl | rfl <;> decide +kernel
  have hleave := Resolve.leaveUnknownTopic_run (scriptOf (nickFirst V)) "ann"
    ((annBot (nickFirst V)).turn "ann")
  rw [if_pos hknown] at hleave
  have hanswers : ∃ t', Resolve.Answers (scriptOf (nickFirst V)) (orderOf (nickFirst V))
      ⟨"ann", none⟩ "hello".toList (Value.assigned "ann" "nick".toList V.taken
        (Resolve.opened (String.ofList (V.assignment "nick".toList ++ okMark))
          ((annBot (nickFirst V)).turn "ann"))) "done" t' := by
    apply welcome_answers <;> rcases hV with rfl | rfl <;> decide +kernel
  obtain ⟨t, hanswers⟩ := hanswers
  have hblock : (scriptOf (nickFirst V)).topics.find? beginTopic =
      some (asks (String.ofList (V.assignment "nick".toList ++ okMark))) := by
    rcases hV with rfl | rfl <;> decide +kernel
  exact ⟨t, hcurrent, order_scriptOf _, hblock, _, _, hleave, hanswers⟩

theorem nickHere_assigns {V : Value} (hV : V = annie ∨ V = little) :
    ∃ t, AssignsHere (scriptOf (nickHere V)) (orderOf (nickHere V)) ⟨"ann", none⟩ "hello".toList
      "nick".toList V "done" ((annBot (nickFirst V)).turn "ann") t := by
  have hanswers : ∃ t', Resolve.Answers (scriptOf (nickHere V)) (orderOf (nickHere V))
      ⟨"ann", none⟩ "hello".toList ((annBot (nickFirst V)).turn "ann")
      (String.ofList (V.assignment "nick".toList ++ "done".toList)) t' := by
    apply welcome_answers <;> rcases hV with rfl | rfl <;> decide +kernel
  obtain ⟨t, hanswers⟩ := hanswers
  have hnoBegin : (scriptOf (nickHere V)).topics.contains beginTopic = false := by
    rcases hV with rfl | rfl <;> decide +kernel
  exact ⟨t, order_scriptOf _, hnoBegin, hanswers⟩

/-- The bot knows the name. -/
theorem stored_name : stored "ann" "name".toList ((annBot (nickFirst little)).turn "ann") =
    some "Ann" := by
  decide +kernel

theorem little_readable : little.Readable "ann" ((annBot (nickFirst little)).turn "ann") := by
  intro g hg
  obtain rfl : g = .lookup .user "name".toList (by decide) := by simpa [little] using hg
  change Text.Plain ((stored "ann" "name".toList _).getD undefined).toList
  rw [stored_name]
  decide

theorem little_read {t : Turn}
    (h : ((annBot (nickFirst little)).turn "ann").Alike "ann" [] t) :
    String.ofList (little.read "ann" t) = "little Ann" := by
  have hread : little.read "ann" t =
      "little ".toList ++ (((stored "ann" "name".toList t).getD undefined).toList ++ []) := rfl
  rcases h.stored "name".toList List.not_mem_nil with hsame | ⟨htopic, -⟩
  · rw [hread, hsame, stored_name]
    rfl
  · exact absurd htopic (by decide)

theorem little_not_reads : ¬little.Reads "nick".toList := by
  rintro ⟨word, hmem⟩
  simp [little] at hmem

/-- Without a tag they agree, and with one they do not. -/
theorem reply_assignment_nick :
    (∃ r c r' c', (annBot (nickFirst annie)).reply "ann" "hello" = (.ok r, c) ∧
      (annBot (nickHere annie)).reply "ann" "hello" = (.ok r', c') ∧ r.text = "done" ∧
      r'.text = "done" ∧ c.sessions.get? "ann" "nick" = c'.sessions.get? "ann" "nick") ∧
    ∃ r c r' c', (annBot (nickFirst little)).reply "ann" "hello" = (.ok r, c) ∧
      (annBot (nickHere little)).reply "ann" "hello" = (.ok r', c') ∧ r.text = ">done" ∧
      r'.text = "done" ∧ c.sessions.get? "ann" "nick" = some "little <get name" ∧
      c'.sessions.get? "ann" "nick" = some "little Ann" := by
  have hannie : annie.Readable "ann" ((annBot (nickFirst annie)).turn "ann") := by
    simp [Value.Readable, annie]
  obtain ⟨t, hfirst⟩ := nickFirst_assigns (.inl rfl)
  obtain ⟨t', hhere⟩ := nickHere_assigns (.inl rfl)
  obtain ⟨u, hfirst'⟩ := nickFirst_assigns (.inr rfl)
  obtain ⟨u', hhere'⟩ := nickHere_assigns (.inr rfl)
  have hdone : Text.Inert "done".toList := Text.inert_of_isAlphanum (by decide)
  have hann : Text.Plain "ann".toList := by decide
  have hnick : Text.IsPlainWord "nick".toList := by decide
  refine ⟨?_, ?_⟩
  · obtain ⟨r, c, r', c', hr, hr', hplain, -⟩ :=
      reply_assignment (b := annBot (nickFirst annie)) "hello" hann hnick (by decide) (by decide)
        hannie hdone (by decide) hfirst hhere
    exact ⟨r, c, r', c', hr, hr', hplain (by decide)⟩
  · obtain ⟨r, c, r', c', hr, hr', -, htagged⟩ :=
      reply_assignment (b := annBot (nickFirst little)) "hello" hann hnick (by decide) (by decide)
        little_readable hdone (by decide) hfirst' hhere'
    obtain ⟨htext, -, htext', hget⟩ := htagged (by decide) (by decide) little_not_reads
    obtain ⟨hget, hget', -⟩ := hget trivial
    rw [little_read hhere'.answers.alike] at hget'
    exact ⟨r, c, r', c', hr, hr', htext, htext', hget, hget'⟩

end Brain

end Repartee

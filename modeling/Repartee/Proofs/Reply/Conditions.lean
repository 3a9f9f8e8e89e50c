import Repartee.Proofs.Brain.Termination
import Repartee.Proofs.Condition.Written
import Repartee.Proofs.Reply.Template

/-!
# The first condition that holds

The tag in a condition gives the value of the variable, so that the condition holds if its operator
says so. The reply of a trigger is that of its first condition that holds, or else one of its
replies.

* `shown`, `WrittenCondition.Holds`: what a variable reads as, and a comparison with it.
* `run_expand_getText`: the tag gives the value of the variable.
* `UserData.Inert`: no pass recognises anything in the variables of a user.
* **`WrittenCondition.run_passes`**: a condition passes if its comparison holds.
* `Resolve.Matches`: a message matches a trigger; `chosenAmong`: one of its replies.
* **`run_resolve_conditions`**: the first condition that holds gives the reply.
-/

namespace Repartee

variable {s : Script} {a : Speaker} {t : Turn} {name : Text}

/-! ## Reading a variable -/

/-- The value of a variable of a user. -/
def stored (user : String) (name : Text) (t : Turn) : Option String :=
  (t.sessions.data? user).bind (·.vars.find? (String.ofList name))

/-- What a variable of a user reads as: `undefined` if it is unset or empty. -/
def shown (user : String) (name : Text) (t : Turn) : Text :=
  (((stored user name t).filter (· ≠ "")).getD undefined).toList

/-- A comparison holds of what the variable of a user reads as. -/
def WrittenCondition.Holds (c : WrittenCondition) (user : String) (t : Turn) : Prop :=
  Comparison.Declares c.operator (shown user c.name t) c.value

theorem unprepared_getText (hname : name.IsPlainWord) : (getText name).Unprepared where
  brace := by simp [getText, hname.notMem]
  escape := by simp [getText, hname.notMem]
  array harray := absurd (harray.subset List.mem_cons_self) (by simp [getText, hname.notMem])
  parked := by simp [getText, hname.notMem]
  names u hu n hn := by
    rcases List.suffix_cons_iff.1 hu with rfl | hu
    · -- no name begins with the letter of this tag
      have hg : ∀ n ∈ firstNames, n.toList ≠ [] ∧
          n.toList.head?.any (Text.sameFolded · 'g') = false := by decide
      obtain ⟨hne, hhead⟩ := hg n hn
      obtain ⟨d, ds, hcons⟩ := List.exists_cons_of_ne_nil hne
      rw [hcons, List.head?_cons, Option.any_some] at hhead
      rw [hcons]
      change Text.startsWithFolded? (d :: ds) ('g' :: _) = none
      rw [Text.startsWithFolded?, hhead]
      rfl
    · refine Text.startsWithFolded?_of_notMem fun hmem => ?_
      exact absurd (hu.subset hmem) (by simp [hname.notMem])

/-- The variable tag gives the value of the variable. -/
theorem Variables.run_resolve_getText (hname : name.IsPlainWord) (user : String) {v : Text}
    (hv : v = ((stored user name t).getD undefined).toList) (hinert : v.Inert) :
    (resolve user (getText name)).run t = (v, t) := by
  have hbody : "get ".toList ++ name = "get".toList ++ ' ' :: name := rfl
  have hfind : innermost.find? (getText name) = some ([], "get".toList ++ ' ' :: name, []) := by
    rw [getText, hbody, ← List.nil_append ('<' :: _)]
    exact find?_innermost (by simp) (by simp) (by simp [hname.notMem]) (by simp [hname.notMem]) []
  have hunpark : unpark name = name := unpark_eq_self ⟨hname.notMem rfl, hname.notMem rfl⟩
  have hget : (Talk.getVar user name).run t = (v, t) := by
    have hvar (data : Option UserData) : (data.map (·.var (String.ofList name))).getD undefined =
        (data.bind (·.vars.find? (String.ofList name))).getD undefined := by
      cases data <;> rfl
    rw [hv, stored, ← hvar]
    rfl
  have hstep : step user ("get".toList ++ ' ' :: name) = Talk.getVar user name := by
    rw [step, Text.cut?_append (by decide), Option.getD_some]
    dsimp only
    rw [show VariableTag.named? "get".toList = some .get by decide]
    dsimp only
    rw [hunpark]
    rfl
  have hneeds : innermost.Needs '<' := Scan.needs_delimited rfl rfl
  rw [resolve, StateT.run_map, show limit = 999 + 1 from rfl, Talk.replacing, hfind]
  dsimp only
  rw [hstep, Talk.run_bind, hget]
  dsimp only
  rw [List.nil_append, List.append_nil,
    Talk.replacing_of_find? _ (hneeds.find?_eq_none hinert.angle)]
  change (unpark v, t) = (v, t)
  rw [unpark_eq_self ⟨hinert.marks.notMem (by decide), hinert.marks.notMem (by decide)⟩]

/-- The tag expands to the value of the variable, and nothing changes. -/
theorem run_expand_getText (hname : name.IsPlainWord) {v : Text}
    (hv : v = ((stored a.user name t).getD undefined).toList) (hinert : v.Inert)
    (redirect : Redirect) (stars botstars : List String) :
    (expand s a redirect stars botstars (getText name)).run t = (v, t) := by
  have hbrace : '\x7b' ∉ getText name := by simp [getText, hname.notMem]
  obtain ⟨hchoice, hformats, -⟩ := Expand.find?_eq_none_of_brace hbrace
  have hchoose : (Expand.choose s.depth (getText name)).run t = (getText name, t) := by
    rw [Expand.choose, Talk.replacing_of_find? _ hchoice]
    rfl
  exact run_expand_of_passes
    (fun hist => Expand.prepare_unprepared (unprepared_getText hname) s a hist stars botstars)
    hchoose (Expand.formats_eq_self s hformats)
    (Variables.run_resolve_getText hname a.user hv hinert) hinert redirect

/-! ## Conditions in turn -/

/-- No variable has a text in which a pass recognises anything. -/
def UserData.Inert (data : UserData) : Prop :=
  ∀ name v, data.vars.find? name = some v → Text.Inert v.toList

theorem Text.inert_of_isAlphanum {t : Text} (h : t.all Char.isAlphanum = true) : t.Inert :=
  inert_of_forall (List.all_eq_true.1 h) (by decide)

theorem UserData.Inert.setVar {data : UserData} (h : data.Inert) (name : String) {value : String}
    (hvalue : Text.Inert value.toList) : (data.setVar name value).Inert := by
  intro k v hv
  rw [UserData.setVar, Table.find?_insert] at hv
  split at hv
  · cases hv
    exact hvalue
  · exact h k v hv

namespace WrittenCondition

theorem inert_value (c : WrittenCondition) : c.value.Inert := by
  refine Text.inert_of_forall (p := fun d => d.isAlphanum || d == '+' || d == '-') (fun d hd => ?_)
    (by decide)
  rcases List.mem_append.1 hd with hd | hd
  · cases hsign : c.sign <;> simp_all [Text.Sign.text]
  · simp [c.word_word.2 d hd]

/-- The tag gives what the variable reads as, once it is known whether that is empty. -/
theorem run_side_getText (hname : name.IsPlainWord) (hvars : (Resolve.current a.user t).Inert)
    (redirect : Redirect) (stars botstars : List String) :
    (Resolve.side (expand s a redirect stars botstars) (getText name)).run t =
      (shown a.user name t, t) := by
  have hinert : Text.Inert ((stored a.user name t).getD undefined).toList := by
    cases hstored : stored a.user name t with
    | none => exact Text.inert_of_isAlphanum (by decide)
    | some v =>
      obtain ⟨data, hdata, hfind⟩ := Option.bind_eq_some_iff.1 hstored
      rw [Resolve.current, hdata] at hvars
      exact hvars _ v hfind
  have hshown : (if ((stored a.user name t).getD undefined).toList = [] then undefined.toList
      else ((stored a.user name t).getD undefined).toList) = shown a.user name t := by
    rw [shown]
    cases stored a.user name t with
    | none => rfl
    | some v =>
      by_cases hv : v = ""
      · rw [hv]
        rfl
      · have hne : v.toList ≠ [] := by simpa using hv
        rw [Option.getD_some, if_neg hne, Option.filter_some, if_pos (by simpa using hv),
          Option.getD_some]
  rw [Resolve.side, Talk.run_bind, run_expand_getText hname rfl hinert, ← hshown]
  rfl

/-- **The comparison of a condition is the one that its operator declares.** -/
theorem run_passes (c : WrittenCondition) (hvars : (Resolve.current a.user t).Inert)
    (redirect : Redirect) (stars botstars : List String) : ∃ b : Bool, (b ↔ c.Holds a.user t) ∧
      (Resolve.passes (expand s a redirect stars botstars) c.text).run t = (b, t) := by
  obtain ⟨op, hop⟩ := Condition.mem_operators.1 c.operator_mem
  have hright : Resolve.side (expand s a redirect stars botstars) c.value = pure c.value := by
    rw [Resolve.side, expand_inert c.inert_value, pure_bind, if_neg c.isWord_value.1]
  refine ⟨_, Comparison.holds_iff_declares hop, ?_⟩
  rw [Resolve.passes, c.split?_text]
  dsimp only
  rw [Resolve.holds, c.comparison?_test hop]
  dsimp only
  rw [Talk.run_bind, run_side_getText c.name_word hvars, hright, pure_bind]
  rfl

/-- Conditions that do not hold are passed over. -/
theorem run_firstReply_append {before : List WrittenCondition} (after : List String)
    (hvars : (Resolve.current a.user t).Inert) (redirect : Redirect) (stars botstars : List String)
    (h : ∀ c ∈ before, ¬c.Holds a.user t) :
    (Resolve.firstReply (expand s a redirect stars botstars) (before.map text ++ after)).run t =
      (Resolve.firstReply (expand s a redirect stars botstars) after).run t := by
  induction before with
  | nil => rfl
  | cons c before ih =>
    rw [List.forall_mem_cons] at h
    obtain ⟨b, hb, hrun⟩ := c.run_passes (s := s) hvars redirect stars botstars
    obtain rfl : b = false := Bool.eq_false_iff.2 fun hholds => h.1 (hb.1 hholds)
    rw [List.map_cons, List.cons_append, Resolve.firstReply_cons, Talk.run_bind, hrun]
    exact ih h.2

/-- A condition that holds gives the reply. -/
theorem run_firstReply_cons {c : WrittenCondition} (after : List String)
    (hvars : (Resolve.current a.user t).Inert) (redirect : Redirect) (stars botstars : List String)
    (h : c.Holds a.user t) :
    (Resolve.firstReply (expand s a redirect stars botstars) (c.text :: after)).run t =
      (some c.reply, t) := by
  obtain ⟨b, hb, hrun⟩ := c.run_passes (s := s) hvars redirect stars botstars
  obtain rfl : b = true := hb.2 h
  rw [Resolve.firstReply_cons, Talk.run_bind, hrun, c.split?_text]
  rfl

end WrittenCondition

/-! ## The reply of a trigger -/

section

variable {order : TrialOrder} {levels depth : Nat} {message : Text} {t' : Turn} {found : Found}
  {g : Trigger} {cs : List WrittenCondition}

/-- A message matches a trigger in an ordinary step, and the turn goes on with its stars. -/
def Resolve.Matches (s : Script) (order : TrialOrder) (a : Speaker) (depth : Nat) (message : Text)
    (t : Turn) (found : Found) (g : Trigger) (t' : Turn) : Prop :=
  ∃ data t₁ t₂, (leaveUnknownTopic s a.user).run t = (data, t₁) ∧ s.topics.contains data.topic ∧
    (search s order depth .normal data data.topic message).run t₁ = (some (found, g), t₂) ∧
      (keepStars depth .normal found.stars).run t₂ = ((), t')

/-- The search changes no variable of the bot and no session. -/
theorem Resolve.Matches.leaves (h : Matches s order a depth message t found g t') :
    ∃ data t₁, (leaveUnknownTopic s a.user).run t = (data, t₁) ∧ t'.vars = t₁.vars ∧
      t'.sessions = t₁.sessions := by
  obtain ⟨data, t₁, t₂, hleave, -, hsearch, hkeep⟩ := h
  have hvars : ((search s order depth .normal data data.topic message).run t₁).2.vars =
      t₁.vars := rfl
  have hsessions : ((search s order depth .normal data data.topic message).run t₁).2.sessions =
      t₁.sessions := rfl
  rw [hsearch] at hvars hsessions
  cases hkeep
  exact ⟨data, t₁, hleave, hvars, hsessions⟩

/-- If no variable had such a text before the step, none has one after the search. -/
theorem UserData.Inert.of_matches (hvars : (Resolve.current a.user t).Inert)
    (h : Resolve.Matches s order a depth message t found g t') :
    (Resolve.current a.user t').Inert := by
  obtain ⟨data, t₁, hleave, -, hsessions⟩ := h.leaves
  have hdefault : Text.Inert defaultTopic.toList := Text.inert_of_isAlphanum (by decide)
  rw [Resolve.current, hsessions]
  rw [Resolve.leaveUnknownTopic_run] at hleave
  split at hleave
  · cases hleave
    exact hvars
  · cases hleave
    cases hstore : t.sessions with
    | forgetful => rwa [Resolve.current, hstore] at hvars
    | memory users frozen =>
      rw [Resolve.current, hstore] at hvars
      have hset : (SessionStore.set (.memory users frozen) a.user
          (.setting "topic" defaultTopic)).data? a.user =
            some (((users.find? a.user).getD {}).setVar "topic" defaultTopic) := by
        rw [SessionStore.set, SessionStore.data?, Table.find?_insert, if_pos rfl]
        rfl
      rw [hset]
      exact hvars.setVar "topic" hdefault

/-- The outcome of the choice among the replies of a trigger, expanded. If it is empty, or there is
none, what is said is that there is no reply. -/
def chosenAmong (s : Script) (order : TrialOrder) (a : Speaker) (levels depth : Nat) (found : Found)
    (replies : List String) : Talk Text := do
  let expandWith := expand s a (resolve s order a levels (depth + 1) .normal)
  match (← Choice.pick replies).filter (· ≠ "") with
  | some reply => expandWith found.stars found.botstars reply.toList
  | none => expandWith [] [] s.options.notices.notFound.toList

/-- What is done with the reply that is chosen for a trigger without a redirect. -/
theorem Resolve.run_resolve_of_matches (h : Matches s order a depth message t found g t')
    (hredirect : g.redirect = none) (levels : Nat) :
    (resolve s order a (levels + 1) depth .normal message).run t = (do
      let expandWith := expand s a (resolve s order a levels (depth + 1) .normal)
      let reply ← chosenReply (expandWith found.stars found.botstars) g
      if reply = [] then expandWith [] [] s.options.notices.notFound.toList
      else expandWith found.stars found.botstars reply).run t' := by
  obtain ⟨data, t₁, t₂, hleave, htopic, hsearch, hkeep⟩ := h
  rw [run_resolve_succ levels depth message hleave, searchedTopic, if_pos htopic, Talk.run_bind,
    hsearch, respond]
  dsimp only
  rw [Talk.run_bind, hkeep, hredirect]
  rfl

/-- **The first condition that holds gives the reply**, and where none holds it is chosen among the
replies of the trigger. -/
theorem run_resolve_conditions (h : Resolve.Matches s order a depth message t found g t')
    (hredirect : g.redirect = none) (hconditions : g.conditions = cs.map WrittenCondition.text)
    (hvars : (Resolve.current a.user t).Inert) (levels : Nat) :
    (∀ before c after, cs = before ++ c :: after → (∀ b ∈ before, ¬b.Holds a.user t') →
      c.Holds a.user t' →
        (resolve s order a (levels + 1) depth .normal message).run t = (c.reply, t')) ∧
    ((∀ c ∈ cs, ¬c.Holds a.user t') →
      (resolve s order a (levels + 1) depth .normal message).run t =
        (chosenAmong s order a levels depth found g.replies).run t') := by
  have hvars := hvars.of_matches h
  have hrun := Resolve.run_resolve_of_matches h hredirect levels
  dsimp only at hrun
  rw [hrun, Talk.run_bind]
  refine ⟨fun before c after hcs hbefore hc => ?_, fun hnone => ?_⟩
  · have hchosen (redirect : Redirect) (stars botstars : List String) :
        (Resolve.chosenReply (expand s a redirect stars botstars) g).run t' = (c.reply, t') := by
      rw [Resolve.chosenReply, Talk.run_bind, hconditions, hcs, List.map_append, List.map_cons,
        WrittenCondition.run_firstReply_append _ hvars redirect stars botstars hbefore,
        WrittenCondition.run_firstReply_cons _ hvars redirect stars botstars hc]
      rfl
    rw [hchosen]
    dsimp only
    rw [if_neg c.ne_nil, expand_inert c.inert]
    rfl
  · have hchosen (redirect : Redirect) (stars botstars : List String) :
        (Resolve.chosenReply (expand s a redirect stars botstars) g).run t' =
          ((((Choice.pick g.replies).run t').1.getD "").toList,
            ((Choice.pick g.replies).run t').2) := by
      have hfirst := WrittenCondition.run_firstReply_append (s := s) [] hvars redirect stars
        botstars hnone
      rw [List.append_nil] at hfirst
      rw [Resolve.chosenReply, Talk.run_bind, hconditions, hfirst]
      rfl
    rw [hchosen, chosenAmong, Talk.run_bind]
    dsimp only
    cases ((Choice.pick g.replies).run t').1 with
    | none => rfl
    | some reply =>
      by_cases hreply : reply = ""
      · rw [hreply]
        rfl
      · have hne : reply.toList ≠ [] := by simpa using hreply
        rw [Option.getD_some, if_neg hne, Option.filter_some, if_pos (by simpa using hreply)]

end

/-! ## An example -/

/-- A condition on the age, and the reply that it gives. -/
def ageCondition (operator : String) (hop : operator ∈ Condition.operators) (reply : String)
    (h : reply ∈ ["Yes.", "No."]) : WrittenCondition where
  name := "age".toList
  operator
  sign := .none
  word := "18".toList
  reply := reply.toList
  name_word := by decide
  operator_mem := hop
  word_word := by decide
  ne_nil := (by decide : ∀ r ∈ ["Yes.", "No."], String.toList r ≠ []) reply h
  ends := by obtain rfl | rfl := List.mem_pair.1 h <;> simp [isBlank]
  arrowless := (by decide : ∀ r ∈ ["Yes.", "No."], ¬arrow <:+: String.toList r) reply h
  inert := Text.inert_of_forall (p := fun c => c.isAlphanum || c == '.')
    (by obtain rfl | rfl := List.mem_pair.1 h <;> simp [Char.isAlphanum]) (by decide)

/-- Grown up. -/
def adult : WrittenCondition := ageCondition ">=" (by decide) "Yes." (by decide)

/-- Not grown up. -/
def minor : WrittenCondition := ageCondition "<" (by decide) "No." (by decide)

/-- A trigger with both conditions, and a reply if the age is unknown. -/
def mayEnter : Trigger where
  pattern := "may i enter"
  conditions := [adult, minor].map WrittenCondition.text
  replies := ["Who knows."]

/-- A script with this trigger. -/
def doorman : Script :=
  { Script.new {} with
    topics := Table.empty.insert "random" { name := "random", triggers := [mayEnter] } }

/-- The order of its triggers. -/
def doormanOrder : TrialOrder := .build doorman.topics doorman.previous doorman.depth

/-- A turn of the user `ann`, who is twelve. -/
def guestTurn : Turn :=
  { Template.annTurn with sessions := SessionStore.new.set "ann" (.setting "age" "12") }

/-- The step in which the message matches the trigger. -/
def doormanStep : Step where
  depth := 0
  kind := .normal
  message := "may i enter"
  topic := "random"
  candidates := 1
  matched := some "may i enter"
  viaPrevious := false

/-- The message matches the trigger, and the sessions stay as they are. -/
theorem matches_doorman : ∃ t', Resolve.Matches doorman doormanOrder ⟨"ann", none⟩ 0
    "may i enter".toList guestTurn { id := ⟨"random", 0⟩, stars := [] } mayEnter t' ∧
      t'.sessions = guestTurn.sessions := by
  have hleave : (Resolve.leaveUnknownTopic doorman "ann").run guestTurn =
      (Resolve.current "ann" guestTurn, guestTurn) := by
    rw [Resolve.leaveUnknownTopic_run, if_pos (by decide)]
  have hfound : doorman.findMatch doormanOrder guestTurn.vars (Resolve.current "ann" guestTurn)
      "may i enter".toList (Resolve.current "ann" guestTurn).topic 0 =
        (some { id := ⟨"random", 0⟩, stars := [] }, 1) := by
    decide +kernel
  have htrigger : doorman.trigger? ⟨"random", 0⟩ = some mayEnter := by decide
  have hsearch : (Resolve.search doorman doormanOrder 0 .normal (Resolve.current "ann" guestTurn)
      (Resolve.current "ann" guestTurn).topic "may i enter".toList).run guestTurn =
        (some ({ id := ⟨"random", 0⟩, stars := [] }, mayEnter),
          ((Resolve.record doormanStep (some ⟨"random", 0⟩)).run guestTurn).2) :=
    Resolve.run_search .normal hfound htrigger
  exact ⟨_, ⟨_, _, _, hleave, by decide, hsearch, rfl⟩, rfl⟩

/-- The second condition holds, and the first does not. -/
theorem run_resolve_doorman :
    mayEnter.conditions = ["<get age> >= 18 => Yes.", "<get age> < 18 => No."] ∧
      ((resolve doorman doormanOrder ⟨"ann", none⟩ 1 0 .normal "may i enter".toList).run
        guestTurn).1 = "No.".toList := by
  obtain ⟨t', hmatches, hsessions⟩ := matches_doorman
  have hshown : shown "ann" "age".toList t' = "12".toList := by
    rw [shown, stored, hsessions]
    decide
  have hatLeast : (">=", .atLeast) ∈ Comparison.spellings := by decide
  have hless : ("<", .less) ∈ Comparison.spellings := by decide
  have hadult : ¬adult.Holds "ann" t' := by
    change ¬Comparison.Declares ">=" (shown "ann" "age".toList t') "18".toList
    rw [hshown, ← Comparison.holds_iff_declares hatLeast]
    decide
  have hminor : minor.Holds "ann" t' := by
    change Comparison.Declares "<" (shown "ann" "age".toList t') "18".toList
    rw [hshown, ← Comparison.holds_iff_declares hless]
    decide
  have hvars : (Resolve.current "ann" guestTurn).Inert := by
    intro name v hv
    have hentries : ∀ e ∈ (Resolve.current "ann" guestTurn).vars.entries,
        e.2.toList.all Char.isAlphanum = true := by decide
    exact Text.inert_of_isAlphanum (hentries _ (Table.mem_of_lookup_eq_some hv))
  refine ⟨by decide, ?_⟩
  have hrun := (run_resolve_conditions hmatches rfl rfl hvars 0).1 [adult] minor [] rfl
    (List.forall_mem_singleton.2 hadult) hminor
  rw [hrun]
  rfl

end Repartee

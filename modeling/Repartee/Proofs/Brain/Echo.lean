import Repartee.Proofs.Pattern.Metadata
import Repartee.Proofs.Reply.Inert
import Repartee.Proofs.Reply.Respects
import Repartee.Proofs.Script.Match
import Repartee.Proofs.Script.Normal

/-!
# What a user types is not carried out

A bot that answers every message with the message shows what becomes of the text of a user. In the
plain mode nothing in it is ever carried out. In the other mode braces pass, so that the same holds
only of messages in which no block is recognised.

* `Pattern.stars?_anything`: a lone `*` captures the whole message.
* `Script.Parrots`: the script of such a bot; `answer_parrot`: its answer.
* `Brain.Echoes`: a reply that is the message, while the variables stay as they are.
* **`Brain.parrot_echoes`**: the reply to a message in which nothing is recognised is such, and no
  macro has a say in it.
* `Brain.mimic_obeys`: a change of topic that a user types is carried out.
-/

namespace Repartee

/-! ## The whole message -/

/-- A lone `*` captures the whole message. -/
theorem Pattern.stars?_anything (scope : Scope) {t : Text} (ht : '\n' ∉ t) :
    stars? scope "*" t = some [String.ofList t] := by
  have hstrip : Metadata.strip "*".toList = ['*'] := by decide
  exact stars?_loneWild scope hstrip ht

/-! ## The bot -/

/-- The trigger that answers every message with the message. -/
def parrot : Trigger := { pattern := "*", replies := ["<star>"] }

/-- A script without begin block whose default topic has no trigger but a parrot. -/
structure Script.Parrots (s : Script) : Prop where
  noBegin : s.topics.contains beginTopic = false
  topic : ∃ t, s.topics.find? defaultTopic = some t ∧ t.triggers = [parrot]
  /-- The default topic may draw on others, but not on triggers of theirs. -/
  others : ∀ name t, s.topics.DrawsOn defaultTopic name → name ≠ defaultTopic →
    s.topics.find? name = some t → t.triggers = []

namespace Script.Parrots

variable {s : Script} {order : TrialOrder} {message : Text}

/-- The triggers that are searched are parrots. -/
theorem trigger_eq (h : s.Parrots) {id : TriggerId} {g : Trigger}
    (hid : s.topics.DrawsOn defaultTopic id.topic) (hg : s.trigger? id = some g) :
    g = parrot := by
  obtain ⟨t, ht, hg⟩ := Option.bind_eq_some_iff.1 hg
  by_cases hname : id.topic = defaultTopic
  · obtain ⟨u, hu, htriggers⟩ := h.topic
    rw [hname, hu] at ht
    cases ht
    rw [htriggers] at hg
    exact List.mem_singleton.1 (List.mem_of_getElem? hg)
  · rw [h.others _ t hid hname ht] at hg
    cases hg

/-- No trigger follows the last reply. -/
theorem foundAfterReply_eq (h : s.Parrots) (vars : Table String) (data : UserData)
    (message : Text) : s.foundAfterReply vars data message defaultTopic = none :=
  Script.foundAfterReply_eq_none (fun _ _ hdraws hg => by rw [h.trigger_eq hdraws hg]; rfl) vars
    data message

/-- The parrot is found for every message of one line, and its star is the message. -/
theorem foundOrdinary_eq (h : s.Parrots) (vars : Table String) (data : UserData)
    (hm : '\n' ∉ message) :
    ∃ f, s.foundOrdinary vars data message defaultTopic = some f ∧
      f.stars = [String.ofList message] ∧ s.trigger? f.id = some parrot := by
  have hbare {e : Entry} (he : e ∈ s.topics.ordinary s.depth defaultTopic) :
      s.trigger? e.id = some parrot ∧ e.bare.pattern = "*" := by
    obtain ⟨g, hs⟩ := Topics.mem_collect he
    obtain rfl := h.trigger_eq (Topics.DrawsOn.self.of_mem_collect he) hs.trigger
    have hstar : String.ofList (Metadata.stripLevel parrot.pattern.toList) = "*" := by decide
    exact ⟨hs.trigger, (Entry.bare_pattern hs.pattern).trans hstar⟩
  obtain ⟨hnone, hsome⟩ := Script.foundOrdinary_spec s vars data message defaultTopic
  obtain ⟨t, ht, htriggers⟩ := h.topic
  have hfirst : t.triggers[0]? = some parrot := by rw [htriggers]; rfl
  obtain ⟨e, he, -⟩ := @Topics.own_mem_collect s.topics (fun _ g => g.previous.isNone)
    s.depth defaultTopic t ht 0 parrot hfirst rfl
  cases hfound : s.foundOrdinary vars data message defaultTopic with
  | none =>
    refine absurd ?_ (hnone.1 hfound e he)
    rw [Entry.Matches, (hbare he).2, Pattern.stars?_anything _ hm]
    rfl
  | some f =>
    obtain ⟨e, i, hfirst, hid, -, hstars⟩ := hsome f hfound
    obtain ⟨htrigger, hpattern⟩ := hbare (List.mem_of_getElem? hfirst.here)
    rw [hpattern, Pattern.stars?_anything _ hm] at hstars
    exact ⟨f, rfl, (Option.some_inj.1 hstars).symm, hid ▸ htrigger⟩

end Script.Parrots

/-! ## The answer -/

/-- What answering with the message leaves in a turn: a step, the star, and a roll of the dice. -/
def echoing (s : Script) (order : TrialOrder) (data : UserData) (message : Text) : Talk Unit := do
  let _ ← Resolve.search s order 0 .normal data defaultTopic message
  Resolve.keepStars 0 .normal [String.ofList message]
  let _ ← Talk.roll 1

variable {s : Script} {order : TrialOrder} {a : Speaker} {message : Text}

/-- A parrot responds with its star. -/
theorem respond_parrot (levels : Nat) {f : Found}
    (hstars : f.stars = [String.ofList message]) (hm : Harmless message) (hangle : '<' ∉ message)
    (hescape : '\\' ∉ message) :
    Resolve.respond s order a levels 0 .normal (some (f, parrot)) = (do
      Resolve.keepStars 0 .normal [String.ofList message]
      let _ ← Talk.roll 1
      pure message) := by
  have hweight : Choice.weight "<star>" = 1 := by decide
  have hne : ¬("<star>".toList = ([] : Text)) := by decide
  simp only [Resolve.respond, hstars, parrot, Resolve.chosenReply, Resolve.firstReply, pure_bind,
    Choice.pick_singleton, hweight, bind_assoc, Option.getD_some, hne, reduceCtorEq, false_and,
    if_false, expand_star s a hm hangle hescape]

/-- The answer to a message of one line in which nothing is recognised is the message. -/
theorem answer_parrot (h : s.Parrots) (hs : s.Current) (ho : s.order = some order) {t : Turn}
    (htopic : ((t.sessions.data? a.user).getD {}).topic = defaultTopic) (hm : Harmless message)
    (hline : '\n' ∉ message) (hangle : '<' ∉ message) (hescape : '\\' ∉ message) :
    (answer s order a message).run t = (message,
      ((echoing s order ((t.sessions.data? a.user).getD {}) message).run t).2) := by
  obtain ⟨u, hu, -⟩ := h.topic
  have hcontains : s.topics.contains defaultTopic = true := by
    rw [Table.contains, hu]
    rfl
  have hthere : s.topics.contains (Resolve.current a.user t).topic = true := htopic ▸ hcontains
  have hleave := Resolve.leaveUnknownTopic_run s a.user t
  rw [if_pos hthere] at hleave
  obtain ⟨f, hfound, hstars, htrigger⟩ :=
    h.foundOrdinary_eq t.vars ((t.sessions.data? a.user).getD {}) hline
  have hsearch : ((Resolve.search s order 0 .normal ((t.sessions.data? a.user).getD {})
      defaultTopic message).run t).1 = some (f, parrot) := by
    have hfind := @Script.findMatch_eq s order t.vars
      ((t.sessions.data? a.user).getD {}) message defaultTopic 0 hs ho
    rw [if_pos rfl, h.foundAfterReply_eq, hfound] at hfind
    change ((s.findMatch order t.vars ((t.sessions.data? a.user).getD {}) message
      defaultTopic 0).1.bind fun f => (s.trigger? f.id).map fun g => (f, g)) = _
    rw [hfind]
    change (s.trigger? f.id).map _ = _
    rw [htrigger]
    rfl
  have hsearched : Resolve.searchedTopic .normal (Resolve.current a.user t) = defaultTopic := htopic
  rw [answer, if_neg (by rw [h.noBegin]; exact Bool.false_ne_true),
    Resolve.run_resolve_succ _ _ _ hleave, hsearched, hcontains, if_pos rfl, Talk.run_bind,
    Resolve.current, hsearch, respond_parrot _ hstars hm hangle hescape]
  rfl

/-! ## Replies -/

namespace SessionStore

variable (store : SessionStore) (user : String)

/-- A patch without variables changes no variable of anybody. -/
theorem vars_set {p : SessionPatch} (hp : p.vars = ∅) (v : String) :
    (((store.set user p).data? v).getD {}).vars = ((store.data? v).getD {}).vars := by
  cases store with
  | forgetful => rfl
  | memory users frozen =>
    rw [set, data?, data?, Table.find?_insert]
    split
    · rename_i hv
      rw [hv, Option.getD_some, UserData.apply, hp]
      rfl
    · rfl

/-- Meeting a user changes no variable of anybody. -/
theorem vars_meet (v : String) :
    (((store.meet user).data? v).getD {}).vars = ((store.data? v).getD {}).vars := by
  cases store with
  | forgetful => rfl
  | memory users frozen =>
    rw [meet, data?]
    cases hu : users.find? user with
    | some data => rfl
    | none =>
      dsimp only
      rw [set, data?, data?, Table.find?_insert]
      split
      · rename_i hv
        rw [hv, hu]
        rfl
      · rfl

end SessionStore

namespace Brain

/-- A bot that has no trigger but a parrot for a user, who is in the default topic. -/
structure Parrots (b : Brain) (user : String) : Prop where
  reachable : b.Reachable
  sorted : b.script.order.isSome
  script : b.script.Parrots
  user : ((b.sessions.data? user).getD {}).topic = defaultTopic

/-- A reply that is the message as it is compared, of one step, and the variables of the bot and of
all users are as before. -/
structure Echoes (b : Brain) (message : String) (r : Reply) (b' : Brain) : Prop where
  text : r.text = String.ofList (b.script.normalize false message.toList)
  step : r.steps.length = 1
  vars : b'.vars = b.vars
  globals : b'.globals = b.globals
  userVars : ∀ v, ((b'.sessions.data? v).getD {}).vars = ((b.sessions.data? v).getD {}).vars

/-- The bot with other macros. -/
def withMacros (b : Brain) (handlers : Table Handler) (registry : Routines)
    (languages : Table String) : Brain :=
  { b with script := { b.script with handlers, registry, languages } }

variable {b : Brain} {user : String} {message : String}

/-- What a user who is in the default topic, and the bot, are left with by the reply to a message in
which nothing is recognised. -/
def echo (b : Brain) (order : TrialOrder) (user message : String) : Reply × Brain :=
  let normal := b.script.normalize false message.toList
  let data := ((b.turn user).sessions.data? user).getD {}
  b.conclude user ((echoing b.script order data normal).run (b.turn user)).2 (String.ofList normal)
    (String.ofList normal)

theorem reply_parrot (hb : b.script.Parrots) (hc : b.script.Current)
    (ho : b.script.order = some order)
    (htopic : ((b.sessions.data? user).getD {}).topic = defaultTopic)
    (hm : Harmless (b.script.normalize false message.toList)) (scope : Option Scope) :
    b.reply user message scope = (b.echo order user message).map .ok id := by
  have hmet : (((b.turn user).sessions.data? user).getD {}).topic = defaultTopic := by
    rw [UserData.topic, ← SessionStore.vars_meet b.sessions user user] at htopic
    exact htopic
  have hanswer := @answer_parrot b.script order ⟨user, scope⟩ _ hb hc ho (b.turn user) hmet hm
    (Script.notMem_normalize (by decide) (by decide) (by decide))
    (Script.notMem_normalize (by decide) (by decide) (by decide))
    (Script.notMem_normalize (by decide) (by decide) (by decide))
  simp only [reply, ho, hanswer]
  rfl

theorem echoes_echo (b : Brain) (order : TrialOrder) (user message : String) :
    b.Echoes message (b.echo order user message).1 (b.echo order user message).2 := by
  refine ⟨rfl, rfl, rfl, rfl, fun v => ?_⟩
  refine (SessionStore.vars_set _ user rfl v).trans ?_
  exact SessionStore.vars_meet b.sessions user v

/-- **A bot without triggers but a parrot answers with the message, and no macro has a say in it,
if the message is plain or nothing in it is recognised.** -/
theorem parrot_echoes (h : b.Parrots user) (message : String) (scope : Option Scope)
    (hm : b.script.options.utf8 = true → Harmless (b.script.normalize false message.toList)) :
    ∃ r b', b.reply user message scope = (.ok r, b') ∧ b.Echoes message r b' ∧
      ∀ handlers registry languages,
        (b.withMacros handlers registry languages).reply user message scope =
          (.ok r, b'.withMacros handlers registry languages) := by
  obtain ⟨order, ho⟩ := Option.isSome_iff_exists.1 h.sorted
  have hcurrent := h.reachable.current
  have hharmless : Harmless (b.script.normalize false message.toList) := by
    cases hu : b.script.options.utf8 with
    | true => exact hm hu
    | false => exact harmless_of_plain fun c hc => Script.mem_normalize_plain hu hc
  refine ⟨_, _, reply_parrot h.script hcurrent ho h.user hharmless scope,
    b.echoes_echo order user message, fun handlers registry languages => ?_⟩
  have hb : (b.withMacros handlers registry languages).script.Parrots :=
    ⟨h.script.noBegin, h.script.topic, h.script.others⟩
  exact reply_parrot hb ⟨hcurrent.previous, hcurrent.order⟩ ho h.user hharmless scope

/-- A bot that has no trigger but a parrot. -/
def mimic (utf8 : Bool) : Brain :=
  ((Brain.new { utf8 } .new).load
    { topics := [{ name := defaultTopic, triggers := [parrot] }] }).2.sort

theorem mimic_parrots (utf8 : Bool) (user : String) : (mimic utf8).Parrots user := by
  have htopics : (mimic utf8).script.topics =
      Table.empty.insert defaultTopic { name := defaultTopic, triggers := [parrot] } := by
    cases utf8 <;> rfl
  have hothers : ∀ name t, name ≠ defaultTopic →
      (mimic utf8).script.topics.find? name = some t → t.triggers = [] := by
    intro name t hne ht
    rw [htopics, Table.find?_insert, if_neg hne] at ht
    cases ht
  have hscript : (mimic utf8).script.Parrots := by
    have htopic : (mimic utf8).script.topics.find? defaultTopic =
        some { name := defaultTopic, triggers := [parrot] } := by
      rw [htopics, Table.find?_insert, if_pos rfl]
    refine ⟨?_, ⟨_, htopic, rfl⟩, fun name t _ => hothers name t⟩
    rw [htopics]
    rfl
  exact ⟨.sort (.load _ (.new _ _ _)), by cases utf8 <;> rfl, hscript, by cases utf8 <;> rfl⟩

/-- A greeting is answered with the greeting. -/
theorem mimic_echoes : (mimic true).Parrots "ann" ∧
    Harmless ((mimic true).script.normalize false "Hello there!".toList) ∧
      ∃ r b', (mimic true).reply "ann" "Hello there!" = (.ok r, b') ∧
        (mimic true).Echoes "Hello there!" r b' := by
  have hnormal : (mimic true).script.normalize false "Hello there!".toList =
      "hello there".toList := by
    decide +kernel
  have hharmless : Harmless ((mimic true).script.normalize false "Hello there!".toList) := by
    have hplain : ("hello there".toList.all fun c => c == ' ' || c.isAlphanum) = true := by decide
    rw [hnormal]
    exact harmless_of_plain fun c hc => by simpa using List.all_eq_true.1 hplain c hc
  obtain ⟨r, b', hr, hechoes, -⟩ :=
    parrot_echoes (mimic_parrots true "ann") "Hello there!" none fun _ => hharmless
  exact ⟨mimic_parrots true "ann", hharmless, r, b', hr, hechoes⟩

/-- A change of topic that a user types is carried out, and is not in the reply. -/
theorem mimic_obeys : (mimic true).Parrots "ann" ∧
    ∃ r b', (mimic true).reply "ann" "\x7btopic=x\x7d" = (.ok r, b') ∧
      r.message = "\x7btopic=x\x7d" ∧ r.text = "" ∧
        b'.sessions.get? "ann" "topic" = some "x" := by
  have hout : ((mimic true).reply "ann" "\x7btopic=x\x7d").1.toOption.map (fun r =>
      (r.message, r.text)) = some ("\x7btopic=x\x7d", "") ∧
        ((mimic true).reply "ann" "\x7btopic=x\x7d").2.sessions.get? "ann" "topic" =
          some "x" := by
    decide +kernel
  refine ⟨mimic_parrots true "ann", ?_⟩
  generalize (mimic true).reply "ann" "\x7btopic=x\x7d" = out at hout ⊢
  obtain ⟨result, b'⟩ := out
  obtain ⟨hreply, htopic⟩ := hout
  cases result with
  | error e => cases hreply
  | ok r =>
    obtain ⟨hmessage, htext⟩ := Prod.mk.inj (Option.some_inj.1 hreply)
    exact ⟨r, b', rfl, hmessage, htext, htopic⟩

end Brain

end Repartee

import Repartee.Proofs.Brain.Echo
import Repartee.Proofs.Brain.Splitting
import Repartee.Proofs.Reply.Opening

/-!
# Answers pass through a begin block

A bot and the same bot with a begin block that lets answers pass give the same answers, but for the
step of the opening pass.

* `Dice.Alike`: dice that give the same rolls from now on.
* `Turn.After`: a turn like another one, but for some steps before; `Elementary.after`: turns stay
  so related.
* `Turn.Resumes`, `Resolve.opening_resumes`: the opening pass also leaves match records.
* `Resolve.normal_after`: these are forgotten, and the answer is the same in both turns.
* **`answer_passThrough`**: the answer that passes through the begin block.
* `Brain.withPassThrough`: the bot with the begin block.
* **`Brain.reply_passThrough`**: its replies are those of the bot without it.
-/

namespace Repartee

/-! ## Dice -/

/-- Dice that give the same rolls from now on. -/
def Dice.Alike (d d' : Dice) : Prop := ∀ i, d.rolls (d.used + i) = d'.rolls (d'.used + i)

theorem Dice.Alike.roll {d d' : Dice} (h : d.Alike d') (n : Nat) :
    (d.roll n).1 = (d'.roll n).1 ∧ (d.roll n).2.Alike (d'.roll n).2 := by
  refine ⟨congrArg (· % n) (h 0), fun i => ?_⟩
  have hnext := h (1 + i)
  rwa [← Nat.add_assoc, ← Nat.add_assoc] at hnext

/-! ## Turns with steps before -/

/-- A turn that is like another one, but for some steps before and for dice that are alike. -/
inductive Turn.After (before : List Step) (t : Turn) : Turn → Prop
  | intro (dice : Dice) (h : t.dice.Alike dice) :
    After before t { t with steps := before ++ t.steps, dice }

variable {s : Script} {order order' : TrialOrder} {a : Speaker} {before : List Step}

/-- A step is recorded behind the other ones. -/
theorem Turn.After.record {t u : Turn} (h : t.After before u) (step : Step)
    (id : Option TriggerId) : ((Resolve.record step id).run t).2.After before
      ((Resolve.record step id).run u).2 := by
  obtain ⟨dice, h⟩ := h
  change Turn.After before _ { ((Resolve.record step id).run t).2 with
    steps := before ++ t.steps ++ [step]
    dice }
  rw [List.append_assoc]
  exact .intro dice h

/-- The elementary computations go on alike after other steps. -/
theorem Elementary.after : Elementary (Turn.After before) s order a where
  data? := by
    rintro t _ ⟨dice, h⟩
    exact ⟨rfl, dice, h⟩
  setVar name value := by
    rintro t _ ⟨dice, h⟩
    exact ⟨rfl, dice, h⟩
  roll n := by
    rintro t _ ⟨dice, h⟩
    exact ⟨(h.roll n).1, _, (h.roll n).2⟩
  bot data := by
    rintro t _ ⟨dice, h⟩
    exact ⟨rfl, dice, h⟩
  env data := by
    rintro t _ ⟨dice, h⟩
    exact ⟨rfl, dice, h⟩
  run name args := by
    rintro t _ ⟨dice, h⟩
    unfold Call.run
    split
    · exact ⟨rfl, dice, h⟩
    · split
      · exact ⟨rfl, dice, h⟩
      · exact ⟨rfl, dice, h⟩
  keepStars depth kind stars := by
    rintro t _ ⟨dice, h⟩
    exact ⟨rfl, dice, h⟩
  search depth kind data topic message := by
    rintro t _ ⟨dice, h⟩
    exact ⟨rfl, (Turn.After.intro dice h).record _ _⟩

/-- A turn that goes on after steps, whatever these have left in the match records. -/
inductive Turn.Resumes (before : List Step) (t : Turn) : Turn → Prop
  | intro {v : Turn} (h : t.After before v) (lastMatch initialMatch : Option String)
    (triggers : List TriggerId) : Resumes before t { v with lastMatch, initialMatch, triggers }

/-! ## Answers -/

namespace Resolve

/-- Answering goes on alike from the first search on, which forgets the records from before. -/
theorem normal_after (hdefault : s.topics.contains defaultTopic = true) (levels : Nat)
    (message : Text) {t t' u : Turn} {data : UserData}
    (hleave : (leaveUnknownTopic s a.user).run t = (data, t')) (hu : t'.Resumes before u) :
    ((resolve s order a (levels + 1) 0 .normal message).run t).1 =
        ((resolve s order a (levels + 1) 0 .normal message).run u).1 ∧
      ((resolve s order a (levels + 1) 0 .normal message).run t).2.After before
        ((resolve s order a (levels + 1) 0 .normal message).run u).2 := by
  obtain ⟨hv, lastMatch, initialMatch, triggers⟩ := hu
  rename_i v
  have hsessions : v.sessions = ((leaveUnknownTopic s a.user).run t).2.sessions := by
    rw [hleave]
    obtain ⟨dice, -⟩ := hv
    rfl
  obtain ⟨hin, hleave'⟩ := leaveUnknownTopic_settled hdefault
    (u := { v with lastMatch, initialMatch, triggers }) hsessions
  rw [hleave] at hin hleave'
  have hin' : s.topics.contains (searchedTopic .normal data) = true := hin
  have hsearch : (search s order 0 .normal data (searchedTopic .normal data) message).run
      { v with lastMatch, initialMatch, triggers } =
    (search s order 0 .normal data (searchedTopic .normal data) message).run v := rfl
  have h : Elementary (Turn.After before) s order a := .after
  rw [run_resolve_succ levels 0 message hleave, run_resolve_succ levels 0 message hleave',
    if_pos hin', if_pos hin', Talk.run_bind _ _ { v with lastMatch, initialMatch, triggers },
    hsearch]
  exact ((h.search 0 .normal data _ message).bind fun found =>
    h.respond (h.resolve levels) 0 .normal found) t' v hv

/-- The opening pass leaves the mark, and a turn that goes on after its step. -/
theorem opening_resumes (ho : (s.withTopic passThrough).order = some order) (levels : Nat)
    {t : Turn} (hsteps : t.steps = []) (htopic : (current a.user t).topic ≠ beginTopic)
    {dice : Dice} (hdice : t.dice.Alike (dice.roll 1).2) :
    ∃ data t' u, (leaveUnknownTopic s a.user).run t = (data, t') ∧
      (resolve (s.withTopic passThrough) order a (levels + 1) 0 .opening "request".toList).run
        { t with dice } = (okMark, u) ∧ t'.Resumes [openingStep] u := by
  have hs := s.current_withTopic passThrough
  have hblock := s.find?_withTopic passThrough
  obtain ⟨data, store, hleave, hleave'⟩ : ∃ data store,
      (leaveUnknownTopic s a.user).run t = (data, { t with sessions := store }) ∧
        (leaveUnknownTopic (s.withTopic passThrough) a.user).run { t with dice } =
          (data, { t with sessions := store, dice }) := by
    have hcurrent : current a.user { t with dice } = current a.user t := rfl
    rw [leaveUnknownTopic_withTopic htopic, leaveUnknownTopic_run, leaveUnknownTopic_run, hcurrent]
    split
    · exact ⟨_, _, rfl, rfl⟩
    · exact ⟨_, _, rfl, rfl⟩
  refine ⟨data, _, _, hleave, run_opening hs ho hblock levels hleave', ?_⟩
  have hafter : Turn.After [openingStep] { t with sessions := store }
    { t with
      sessions := store
      steps := [openingStep] ++ t.steps
      dice := (dice.roll 1).2 } := .intro _ hdice
  rw [hsteps] at hafter ⊢
  exact .intro hafter _ _ _

end Resolve

/-- **With a begin block that lets answers pass, the answer is that of the script without it, and so
is the turn, but for the step of the opening pass.** -/
theorem answer_passThrough (hs : s.Current) (ho : s.order = some order)
    (hdefault : s.topics.contains defaultTopic = true) (hbegin : s.topics.Unmentioned beginTopic)
    (ho' : (s.withTopic passThrough).order = some order') (message : Text) {t u u' : Turn}
    (hsteps : t.steps = []) (htopic : (Resolve.current a.user t).topic ≠ beginTopic) {dice : Dice}
    (hdice : t.dice.Alike (dice.roll 1).2) {text text' : Text}
    (hanswer : (answer s order a message).run t = (text, u))
    (hanswer' : (answer (s.withTopic passThrough) order' a message).run { t with dice } =
      (text', u')) (henters : ¬u'.Enters beginTopic) (hinert : text.Inert) :
    text' = text ∧ u.After [Resolve.openingStep] u' := by
  have hplain : s.topics.contains beginTopic = false := by
    rw [Table.contains, hbegin.absent]
    rfl
  have hblock : (s.withTopic passThrough).topics.contains beginTopic = true :=
    s.contains_withTopic passThrough
  obtain ⟨data, t', w, hleave, hopening, hw⟩ :=
    Resolve.opening_resumes ho' s.depth hsteps htopic hdice
  rw [answer, hplain, if_neg Bool.false_ne_true] at hanswer
  rw [answer, hblock, if_pos rfl, Talk.run_bind, show (s.withTopic passThrough).depth = s.depth
    from rfl, hopening, fill_okMark, Talk.run_bind] at hanswer'
  have hagree : Talk.AgreeUntil (Turn.Enters beginTopic)
      (resolve s order a (s.depth + 1) 0 .normal message)
      (resolve (s.withTopic passThrough) order' a (s.depth + 1) 0 .normal message) :=
    Resolve.agree_withTopic hs ho hbegin ho' (by decide) (s.depth + 1) 0 message
  rcases hagree.agree w with hentered | hsame
  · -- a search in the begin block would be among the steps
    have hkeeps : Elementary (fun t₁ t₂ => t₁ = t₂ ∧ t₁.Enters beginTopic)
      (s.withTopic passThrough) order' a := .enters
    have hexpand (text : Text) := Talk.respects_iff_keeps.1
      (hkeeps.expand (fun _ => hkeeps.resolve s.depth 1 .normal _) [] [] text)
    have hlast : _ = u' := congrArg Prod.snd hanswer'
    exact absurd (hlast ▸ hexpand _ _ hentered) henters
  · obtain ⟨htext, hafter⟩ := @Resolve.normal_after s order a [Resolve.openingStep] hdefault
      s.depth message t t' w data hleave hw
    rw [← hsame] at hanswer'
    rw [hanswer] at htext hafter
    rw [← htext, expand_inert hinert] at hanswer'
    obtain ⟨rfl, rfl⟩ := Prod.mk.inj hanswer'
    exact ⟨rfl, hafter⟩

/-! ## Replies -/

namespace Brain

variable {b : Brain}

/-- The bot with a begin block that lets answers pass, its triggers sorted. -/
def withPassThrough (b : Brain) : Brain := (b.load { topics := [passThrough] }).2.sort

/-- The bot with other dice. -/
def withDice (b : Brain) (dice : Dice) : Brain := { b with dice }

/-- The document of the begin block is accepted, and adds one topic. -/
theorem withPassThrough_eq (h : b.script.topics.find? beginTopic = none) :
    b.withPassThrough = { b with script := b.script.withTopic passThrough } := by
  have hproblems (utf8 forceCase : Bool) :
      Check.problems utf8 forceCase { topics := [passThrough] } = [] := by
    cases utf8 <;> cases forceCase <;> decide +kernel
  have hadd : Script.addTopics b.script.topics [passThrough] =
      b.script.topics.insert beginTopic passThrough := by
    have hnew : b.script.topics.find? passThrough.name = none := h
    rw [Script.addTopics, List.foldl_cons, List.foldl_nil, Script.addTopic, hnew]
    rfl
  rw [withPassThrough, load_topics _ fun _ => hproblems _ _, withTopics, hadd]
  rfl

/-- A reply is concluded from the answer. -/
theorem reply_of_answer (ho : b.script.order = some order) {user message : String}
    {scope : Option Scope} {text : Text} {t : Turn}
    (hanswer : (answer b.script order ⟨user, scope⟩
      (b.script.normalize false message.toList)).run (b.turn user) = (text, t)) :
    b.reply user message scope =
      (b.conclude user t (String.ofList (b.script.normalize false message.toList))
        (String.ofList text)).map .ok id := by
  rw [reply, ho]
  dsimp only
  rw [hanswer]

/-- A reply and a bot are like others, but for a step of the opening pass that comes first. -/
structure PassedThrough (r : Reply) (b : Brain) (r' : Reply) (b' : Brain) : Prop where
  reply : r' = { r with steps := Resolve.openingStep :: r.steps }
  sessions : b'.sessions = b.sessions
  vars : b'.vars = b.vars
  globals : b'.globals = b.globals

/-- **Answers pass through the begin block.** The bot with the block gives the reply of the bot
without it, and both are left with the same data, if the same choices are made, the text of the
reply is inert and no message is answered in the begin block. A message is answered in the topic
that the user is in, so that it is enough that this does not become the begin block. -/
theorem reply_passThrough (hb : b.Reachable) (hsorted : b.script.order.isSome)
    (hdefault : b.script.topics.contains defaultTopic = true)
    (hbegin : b.script.topics.Unmentioned beginTopic) {user : String}
    (htopic : ((b.sessions.data? user).getD {}).topic ≠ beginTopic) {dice dice₂ : Dice}
    (hdice : dice.Alike (dice₂.roll 1).2) (message : String) (scope : Option Scope) :
    ∃ r b₁ r₂ b₂, (b.withDice dice).reply user message scope = (.ok r, b₁) ∧
      (b.withPassThrough.withDice dice₂).reply user message scope = (.ok r₂, b₂) ∧
        (Text.Inert r.text.toList →
          (∀ step ∈ r₂.steps, step.kind = .normal → step.topic ≠ beginTopic) →
            PassedThrough r b₁ r₂ b₂) := by
  obtain ⟨order, ho⟩ := Option.isSome_iff_exists.1 hsorted
  obtain ⟨order₂, ho₂⟩ : ∃ order, (b.script.withTopic passThrough).order = some order := ⟨_, rfl⟩
  have hmet : (Resolve.current user (b.turn user)).topic ≠ beginTopic := by
    rwa [UserData.topic, ← SessionStore.vars_meet b.sessions user user] at htopic
  rw [withPassThrough_eq hbegin.absent]
  cases hanswer : (answer b.script order ⟨user, scope⟩
    (b.script.normalize false message.toList)).run { b.turn user with dice } with
  | mk text t =>
    cases hanswer₂ : (answer (b.script.withTopic passThrough) order₂ ⟨user, scope⟩
      (b.script.normalize false message.toList)).run { b.turn user with dice := dice₂ } with
    | mk text₂ t₂ =>
      refine ⟨_, _, _, _, reply_of_answer (b := b.withDice dice) ho hanswer,
        reply_of_answer (b := { b with script := b.script.withTopic passThrough, dice := dice₂ })
          ho₂ hanswer₂, fun hinert hsteps => ?_⟩
      have hinert' : Text.Inert (String.ofList text).toList := hinert
      rw [String.toList_ofList] at hinert'
      have houtside : ¬t₂.Enters beginTopic := by
        rintro ⟨step, hstep, hkind, hentered⟩
        exact hsteps step hstep hkind hentered
      obtain ⟨rfl, dice', -⟩ := answer_passThrough hb.current ho hdefault hbegin ho₂ _ rfl hmet
        hdice hanswer hanswer₂ houtside hinert'
      exact ⟨rfl, rfl, rfl, rfl⟩

/-- A topic in which a greeting is answered with one of two greetings. -/
def lobby : Topic where
  name := defaultTopic
  triggers := [{ pattern := "hello", replies := ["hi there", "hey"] }]

/-- A bot with this topic. -/
def porter : Brain := ((Brain.new {} .new).load { topics := [lobby] }).2.sort

/-- If the first greeting is always chosen, it is the answer also with the begin block. -/
theorem porter_passThrough : porter.Reachable ∧ porter.script.order.isSome ∧
    porter.script.topics.contains defaultTopic = true ∧
      porter.script.topics.Unmentioned beginTopic ∧
        ((porter.sessions.data? "ann").getD {}).topic ≠ beginTopic ∧
          Dice.first.Alike (Dice.first.roll 1).2 ∧
    ∃ r b₁ r₂ b₂, (porter.withDice .first).reply "ann" "Hello!" = (.ok r, b₁) ∧
      (porter.withPassThrough.withDice .first).reply "ann" "Hello!" = (.ok r₂, b₂) ∧
        r.text = "hi there" ∧ r₂.steps.map (·.topic) = [beginTopic, defaultTopic] ∧
          PassedThrough r b₁ r₂ b₂ := by
  have hreachable : porter.Reachable := .sort (.load _ (.new _ _ _))
  have hsorted : porter.script.order.isSome := rfl
  have hcontains : porter.script.topics.contains defaultTopic = true := by decide +kernel
  have hbegin : porter.script.topics.Unmentioned beginTopic := by
    refine ⟨by decide +kernel, fun u t ht => ?_⟩
    have htopics : porter.script.topics = Table.empty.insert defaultTopic lobby := rfl
    rw [htopics, Table.find?_insert] at ht
    split at ht
    · cases ht
      exact List.not_mem_nil
    · cases ht
  have htopic : ((porter.sessions.data? "ann").getD {}).topic ≠ beginTopic := by decide +kernel
  have hdice : Dice.first.Alike (Dice.first.roll 1).2 := fun _ => rfl
  have htext : ((porter.withDice .first).reply "ann" "Hello!").1.toOption.map (·.text) =
      some "hi there" := by
    decide +kernel
  have hsteps : ((porter.withPassThrough.withDice .first).reply "ann" "Hello!").1.toOption.map
      (·.steps.map fun step => (step.kind, step.topic)) =
        some [(StepKind.opening, beginTopic), (StepKind.normal, defaultTopic)] := by
    decide +kernel
  obtain ⟨r, b₁, r₂, b₂, hr, hr₂, hpassed⟩ :=
    reply_passThrough hreachable hsorted hcontains hbegin htopic hdice "Hello!" none
  rw [hr] at htext
  rw [hr₂] at hsteps
  have htext' : r.text = "hi there" := Option.some_inj.1 htext
  have hsteps' : r₂.steps.map (fun step => (step.kind, step.topic)) = _ := Option.some_inj.1 hsteps
  have hinert : Text.Inert r.text.toList := by
    rw [htext']
    exact ⟨by decide, by decide, by decide, fun h => absurd (h.subset List.mem_cons_self)
      (by decide), Text.clear_of_all (by decide) (by decide)⟩
  have houtside : ∀ step ∈ r₂.steps, step.kind = .normal → step.topic ≠ beginTopic := by
    intro step hstep hkind htopic
    have hmem := List.mem_map_of_mem (f := fun step => (step.kind, step.topic)) hstep
    rw [hsteps', hkind, htopic] at hmem
    exact absurd hmem (by decide)
  refine ⟨hreachable, hsorted, hcontains, hbegin, htopic, hdice, r, b₁, r₂, b₂, hr, hr₂, htext', ?_,
    hpassed hinert houtside⟩
  have htopics := congrArg (List.map Prod.snd) hsteps'
  rwa [List.map_map] at htopics

end Brain

end Repartee

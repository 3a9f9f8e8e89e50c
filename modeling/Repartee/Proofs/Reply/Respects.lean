import Repartee.Brain.Reply

/-!
# Relations between turns

A computation respects a relation between turns if from related turns it gives the same result and
again related turns. The passes of a reply are put together from a few elementary ones; what these
respect, every answer respects.

* `Talk.Respects`: a computation respects a relation.
* `Passive`, `Elementary`: the elementary computations of a speaker respect a relation, without the
  search for a trigger and with it.
* `ElementaryOn`: they do so as long as messages with a property are searched for.
* `Talk.Keeps`: a computation keeps an invariant.
* `Resolve.respond`, `resolve_succ`: what follows a search, and a level of resolving by it.
* `Resolve.leaveUnknownTopic_run`, `Resolve.run_search`, `Resolve.run_resolve_succ`: where a level
  leads from a turn.
* **`ElementaryOn.answer`**, **`Elementary.answer`**: an answer respects what the elementary
  computations respect.
-/

namespace Repartee

/-! ## Computations -/

namespace Talk

/-- A computation goes on from the turn that the one before it leads to. -/
theorem run_bind {α β : Type} (m : Talk α) (f : α → Talk β) (t : Turn) :
    (m >>= f).run t = (f (m.run t).1).run (m.run t).2 := rfl

/-- From related turns a computation gives the same result and again related turns. -/
def Respects {α : Type} (R : Turn → Turn → Prop) (m : Talk α) : Prop :=
  ∀ t₁ t₂, R t₁ t₂ → (m.run t₁).1 = (m.run t₂).1 ∧ R (m.run t₁).2 (m.run t₂).2

namespace Respects

variable {α β : Type} {R : Turn → Turn → Prop}

theorem pure (a : α) : Respects R (Pure.pure a) := fun _ _ h => ⟨rfl, h⟩

theorem bind {m : Talk α} {f : α → Talk β} (hm : Respects R m) (hf : ∀ a, Respects R (f a)) :
    Respects R (m >>= f) := by
  intro t₁ t₂ h
  obtain ⟨ha, hR⟩ := hm t₁ t₂ h
  have hb := hf (m.run t₁).1 _ _ hR
  change ((f (m.run t₁).1).run (m.run t₁).2).1 = ((f (m.run t₂).1).run (m.run t₂).2).1 ∧
    R ((f (m.run t₁).1).run (m.run t₁).2).2 ((f (m.run t₂).1).run (m.run t₂).2).2
  rwa [← ha]

theorem map {m : Talk α} (f : α → β) (hm : Respects R m) : Respects R (f <$> m) :=
  hm.bind fun a => .pure (f a)

theorem ite {p : Prop} [Decidable p] {m n : Talk α} (hm : Respects R m) (hn : Respects R n) :
    Respects R (if p then m else n) := by
  split
  · exact hm
  · exact hn

/-- A loop of replacements respects what its body respects. -/
theorem replacing {p : Scan α} {f : α → Talk Text} (hf : ∀ a, Respects R (f a)) :
    ∀ (n : Nat) (t : Text), Respects R (Talk.replacing p f n t)
  | 0, t => .pure t
  | n + 1, t => by
    rw [Talk.replacing]
    cases p.find? t with
    | none => exact .pure t
    | some found =>
      obtain ⟨before, a, after⟩ := found
      exact (hf a).bind fun new => replacing hf n (before ++ new ++ after)

/-- The first condition that holds is found with what expanding its texts respects. -/
theorem firstReply {expand : Text → Talk Text} (he : ∀ t, Respects R (expand t)) :
    ∀ cs : List String, Respects R (Resolve.firstReply expand cs)
  | [] => .pure none
  | c :: cs => by
    have hside (t : Text) : Respects R (Resolve.side expand t) := (he t).bind fun _ => .pure _
    have hholds (test : Text) : Respects R (Resolve.holds expand test) := by
      rw [Resolve.holds]
      cases Condition.comparison? test with
      | none => exact .pure _
      | some c => exact (hside _).bind fun _ => (hside _).bind fun _ => .pure _
    rw [Resolve.firstReply]
    cases Condition.split? c.toList with
    | none => exact firstReply he cs
    | some c => exact (hholds _).bind fun b => .ite (.pure _) (firstReply he cs)

theorem fill {normal : Talk Text} (hn : Respects R normal) (opening : Text) :
    Respects R (Repartee.fill normal opening) :=
  .ite (hn.bind fun _ => .pure _) (.pure _)

end Respects

end Talk

open Talk (Respects)

/-- From a turn with a property a computation leads to a turn with the property. -/
def Talk.Keeps {α : Type} (I : Turn → Prop) (m : Talk α) : Prop := ∀ t, I t → I (m.run t).2

/-- An invariant is kept where the relation of being equal with the invariant is respected. -/
theorem Talk.respects_iff_keeps {α : Type} {I : Turn → Prop} {m : Talk α} :
    Respects (fun t₁ t₂ => t₁ = t₂ ∧ I t₁) m ↔ Keeps I m := by
  constructor
  · intro h t ht
    exact (h t t ⟨rfl, ht⟩).2.2
  · rintro h t _ ⟨rfl, ht⟩
    exact ⟨rfl, rfl, h t ht⟩

/-! ## Elementary computations -/

/-- The elementary computations of an answer to a speaker, apart from the search for a trigger,
respect a relation. -/
structure Passive (R : Turn → Turn → Prop) (s : Script) (a : Speaker) : Prop where
  data? : Respects R (Talk.data? a.user)
  setVar : ∀ name value, Respects R (Talk.setVar a.user name value)
  roll : ∀ n, Respects R (Talk.roll n)
  bot : ∀ data, Respects R (Variables.carryOut a.user .bot data)
  env : ∀ data, Respects R (Variables.carryOut a.user .env data)
  run : ∀ name args, Respects R (Call.run s a name args)
  keepStars : ∀ depth kind stars, Respects R (Resolve.keepStars depth kind stars)

/-- The elementary computations of an answer to a speaker respect a relation. -/
structure Elementary (R : Turn → Turn → Prop) (s : Script) (order : TrialOrder) (a : Speaker) :
    Prop extends Passive R s a where
  search : ∀ depth kind data topic message,
    Respects R (Resolve.search s order depth kind data topic message)

/-- The elementary computations of an answer to a speaker respect a relation where a property of
messages holds. Normalized messages have it. -/
structure ElementaryOn (M : Text → Prop) (R : Turn → Turn → Prop) (s : Script) (order : TrialOrder)
    (a : Speaker) : Prop extends Passive R s a where
  normalized : ∀ t, M (s.normalize false t)
  search : ∀ depth kind data topic message, M message →
    Respects R (Resolve.search s order depth kind data topic message)

namespace Passive

variable {R : Turn → Turn → Prop} {s : Script} {a : Speaker} (h : Passive R s a)

include h

/-! ## Variables and calls -/

theorem getVar (name : Text) : Respects R (Talk.getVar a.user name) :=
  h.data?.bind fun _ => .pure _

theorem calculateFrom (op : Arithmetic) (name value current : Text) :
    Respects R (Variables.calculateFrom a.user op name value current) := by
  unfold Variables.calculateFrom
  split
  · exact .pure _
  · exact .pure _
  · exact .ite (.pure _) ((h.setVar _ _).bind fun _ => .pure _)

theorem calculate (op : Arithmetic) (data : Text) :
    Respects R (Variables.calculate a.user op data) :=
  (h.getVar _).bind fun _ =>
    .ite ((h.setVar _ _).bind fun _ => h.calculateFrom _ _ _ _) (h.calculateFrom _ _ _ _)

theorem carryOut (tag : VariableTag) (data : Text) :
    Respects R (Variables.carryOut a.user tag data) := by
  cases tag with
  | bot => exact h.bot data
  | env => exact h.env data
  | get => exact h.getVar data
  | arithmetic op => exact h.calculate op data
  | set =>
    rw [Variables.carryOut]
    cases Text.cut? '=' data with
    | none => exact .pure _
    | some assignment => exact (h.setVar _ _).bind fun _ => .pure _

theorem step (body : Text) : Respects R (Variables.step a.user body) := by
  unfold Variables.step
  cases (Text.cut? ' ' body).getD (body, []) with
  | mk name data =>
    dsimp only
    cases VariableTag.named? name with
    | none => exact .pure _
    | some tag => exact h.carryOut tag _

theorem variableTags (t : Text) : Respects R (Variables.resolve a.user t) :=
  .map _ (.replacing h.step _ _)

theorem runAll (t : Text) : Respects R (Call.runAll s a t) :=
  .map _ (.replacing (fun _ => h.run _ _) _ _)

/-! ## Expanding -/

theorem choose (n : Nat) (t : Text) : Respects R (Expand.choose n t) :=
  .replacing (fun _ => (h.roll _).bind fun _ => .pure _) n t

theorem topics (t : Text) : Respects R (Expand.topics a.user t) :=
  .replacing (fun _ => (h.setVar _ _).bind fun _ => .pure _) _ t

theorem pick (replies : List String) : Respects R (Choice.pick replies) := by
  cases replies with
  | nil => exact .pure none
  | cons r rs => exact (h.roll _).bind fun _ => .pure _

theorem openingReply (t : Text) : Respects R (Resolve.openingReply a.user t) :=
  (h.topics t).bind fun t => .replacing (fun _ => (h.setVar _ _).bind fun _ => .pure _) _ t

theorem leaveUnknownTopic : Respects R (Resolve.leaveUnknownTopic s a.user) :=
  h.data?.bind fun _ => .ite (.pure _) ((h.setVar _ _).bind fun _ => .pure _)

/-- Inline redirects lead to normalized messages. -/
theorem redirects {redirect : Redirect} (hr : ∀ t, Respects R (redirect (s.normalize false t)))
    (t : Text) : Respects R (Expand.redirects s a redirect t) :=
  .replacing (fun _ => (h.runAll _).bind fun _ => hr _) _ t

theorem expand {redirect : Redirect} (hr : ∀ t, Respects R (redirect (s.normalize false t)))
    (stars botstars : List String) (t : Text) :
    Respects R (expand s a redirect stars botstars t) := by
  unfold Repartee.expand
  refine h.data?.bind fun data => ?_
  refine (h.choose _ _).bind fun t => ?_
  refine (h.variableTags _).bind fun t => ?_
  refine (h.topics _).bind fun t => ?_
  exact (h.redirects hr _).bind fun t => h.runAll t

theorem chosenReply {expand : Text → Talk Text} (he : ∀ t, Respects R (expand t)) (g : Trigger) :
    Respects R (Resolve.chosenReply expand g) := by
  refine (Respects.firstReply he _).bind fun reply => ?_
  cases reply with
  | some reply => exact .pure _
  | none => exact (h.pick _).bind fun _ => .pure _

end Passive

/-! ## Resolving -/

namespace Resolve

/-- The topic that a search of a kind looks in. -/
def searchedTopic (kind : StepKind) (data : UserData) : String :=
  match kind with
  | .opening => beginTopic
  | .normal => data.topic

/-- What is answered to a message, given what the search for a trigger found. -/
def respond (s : Script) (order : TrialOrder) (a : Speaker) (levels depth : Nat)
    (kind : StepKind) (found : Option (Found × Trigger)) : Talk Text :=
  let expandWith := expand s a (resolve s order a levels (depth + 1) .normal)
  let opening := kind = .opening ∧ depth = 0
  let notice (text : String) : Talk Text :=
    if opening then pure text.toList else expandWith [] [] text.toList
  match found with
  | none => notice s.options.notices.notMatched
  | some (found, trigger) => do
    keepStars depth kind found.stars
    let expandHere := expandWith found.stars found.botstars
    match trigger.redirect with
    | some redirect => do
      let target ← expandHere redirect.toList
      resolve s order a levels (depth + 1) kind (s.normalize false target)
    | none => do
      let reply ← chosenReply expandHere trigger
      if reply = [] then notice s.options.notices.notFound
      else if opening then openingReply a.user reply
      else expandHere reply

end Resolve

/-- A level of resolving: search, and respond to what was found. -/
theorem resolve_succ (s : Script) (order : TrialOrder) (a : Speaker) (levels depth : Nat)
    (kind : StepKind) (message : Text) :
    resolve s order a (levels + 1) depth kind message = (do
      let data ← Resolve.leaveUnknownTopic s a.user
      if !s.topics.contains (Resolve.searchedTopic kind data) then
        pure ("ERR: No default topic '" ++ defaultTopic ++ "' was found!").toList
      else
        Resolve.search s order depth kind data (Resolve.searchedTopic kind data) message >>=
          Resolve.respond s order a levels depth kind) := by
  rw [resolve]
  rfl

namespace Resolve

/-- The data of a user, fresh for an unknown one. -/
def current (user : String) (t : Turn) : UserData := (t.sessions.data? user).getD {}

/-- A user is left in a topic that is there, and moved from one that is not. -/
theorem leaveUnknownTopic_run (s : Script) (user : String) (t : Turn) :
    (leaveUnknownTopic s user).run t =
      if s.topics.contains (current user t).topic then (current user t, t)
      else ((current user t).setVar "topic" defaultTopic,
        { t with sessions := t.sessions.set user (.setting "topic" defaultTopic) }) := by
  rw [leaveUnknownTopic, Talk.run_bind]
  change (if s.topics.contains (current user t).topic then pure (current user t)
    else (do
      Talk.setVar user "topic".toList defaultTopic.toList
      pure ((current user t).setVar "topic" defaultTopic)) : Talk UserData).run t = _
  split <;> rfl

/-- What is answered where there is no topic to search. -/
def missingTopic : Text := ("ERR: No default topic '" ++ defaultTopic ++ "' was found!").toList

variable {s : Script} {order : TrialOrder} {a : Speaker}

/-- A level of resolving from the turn in which a user has left an unknown topic. -/
theorem run_resolve_succ {t t' : Turn} {data : UserData} {kind : StepKind} (levels depth : Nat)
    (message : Text) (hleave : (leaveUnknownTopic s a.user).run t = (data, t')) :
    (resolve s order a (levels + 1) depth kind message).run t =
      if s.topics.contains (searchedTopic kind data) then
        (search s order depth kind data (searchedTopic kind data) message >>=
          respond s order a levels depth kind).run t'
      else (missingTopic, t') := by
  rw [resolve_succ, Talk.run_bind, hleave]
  cases hin : s.topics.contains (searchedTopic kind data) with
  | true => exact congrArg (fun m : Talk Text => m.run t') (if_neg (by simp))
  | false => exact congrArg (fun m : Talk Text => m.run t') (if_pos (by simp))

/-- A search that finds a trigger notes it. -/
theorem run_search {t : Turn} {f : Found} {candidates : Nat} {trigger : Trigger} {depth : Nat}
    {data : UserData} {topic : String} {message : Text} (kind : StepKind)
    (hfound : s.findMatch order t.vars data message topic depth = (some f, candidates))
    (htrigger : s.trigger? f.id = some trigger) :
    (search s order depth kind data topic message).run t = (some (f, trigger),
      ((record
        { depth, kind, message := String.ofList message, topic, candidates
          matched := some trigger.pattern
          viaPrevious := f.viaPrevious } (some f.id)).run t).2) := by
  unfold search
  simp only [bind, StateT.bind, get, getThe, MonadStateOf.get, StateT.get, StateT.run, pure,
    hfound, htrigger, Option.bind_some]
  rfl

end Resolve

namespace ElementaryOn

variable {M : Text → Prop} {R : Turn → Turn → Prop} {s : Script} {order : TrialOrder} {a : Speaker}
  (h : ElementaryOn M R s order a)

include h

/-- Responding respects the relation if resolving with the levels left does. -/
theorem respond {levels : Nat} (hr : ∀ depth kind message, M message →
      Respects R (resolve s order a levels depth kind message))
    (depth : Nat) (kind : StepKind) (found : Option (Found × Trigger)) :
    Respects R (Resolve.respond s order a levels depth kind found) := by
  have hexpand := h.expand fun t => hr (depth + 1) .normal _ (h.normalized t)
  have hnotice (text : String) : Respects R
      (if kind = .opening ∧ depth = 0 then pure text.toList
        else Repartee.expand s a (Repartee.resolve s order a levels (depth + 1) .normal) [] []
          text.toList) := .ite (.pure _) (hexpand _ _ _)
  cases found with
  | none => exact hnotice _
  | some f =>
    obtain ⟨found, trigger⟩ := f
    refine (h.keepStars _ _ _).bind fun _ => ?_
    cases trigger.redirect with
    | some redirect => exact (hexpand _ _ _).bind fun target => hr _ _ _ (h.normalized target)
    | none =>
      refine (h.chosenReply (hexpand _ _) _).bind fun reply => ?_
      exact .ite (hnotice _) (.ite (h.openingReply _) (hexpand _ _ _))

/-- Resolving a message respects the relation, by induction on the levels left. -/
theorem resolve : ∀ (levels depth : Nat) (kind : StepKind) (message : Text), M message →
    Respects R (resolve s order a levels depth kind message)
  | 0, _, _, _, _ => .pure _
  | levels + 1, depth, kind, message, hm => by
    rw [resolve_succ]
    refine h.leaveUnknownTopic.bind fun data => ?_
    refine .ite (.pure _) ?_
    exact (h.search _ _ _ _ _ hm).bind fun found => h.respond (resolve levels) depth kind found

/-- **An answer to a message with the property respects what the elementary computations
respect.** -/
theorem answer (hrequest : M "request".toList) {message : Text} (hm : M message) :
    Respects R (answer s order a message) := by
  rw [Repartee.answer]
  have hnormal := h.resolve (s.depth + 1) 0 .normal message hm
  refine .ite ?_ hnormal
  refine (h.resolve _ _ _ _ hrequest).bind fun opening => ?_
  exact (hnormal.fill opening).bind fun text =>
    h.expand (fun t => h.resolve _ _ _ _ (h.normalized t)) _ _ _

end ElementaryOn

namespace Elementary

variable {R : Turn → Turn → Prop} {s : Script} {order : TrialOrder} {a : Speaker}
  (h : Elementary R s order a)

include h

theorem onAll : ElementaryOn (fun _ => True) R s order a where
  toPassive := h.toPassive
  normalized _ := trivial
  search depth kind data topic message _ := h.search depth kind data topic message

theorem respond {levels : Nat}
    (hr : ∀ depth kind message, Respects R (resolve s order a levels depth kind message))
    (depth : Nat) (kind : StepKind) (found : Option (Found × Trigger)) :
    Respects R (Resolve.respond s order a levels depth kind found) :=
  h.onAll.respond (fun depth kind message _ => hr depth kind message) depth kind found

theorem resolve (levels depth : Nat) (kind : StepKind) (message : Text) :
    Respects R (resolve s order a levels depth kind message) :=
  h.onAll.resolve levels depth kind message trivial

/-- **An answer respects what the elementary computations respect.** -/
theorem answer (message : Text) : Respects R (answer s order a message) :=
  h.onAll.answer trivial trivial

end Elementary

end Repartee

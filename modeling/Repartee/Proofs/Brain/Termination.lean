import Repartee.Proofs.Brain.Bookkeeping
import Repartee.Proofs.Reply.Course

/-!
# Replies end

* `Passive.shallow`: only searches record steps.
* `Course.follows_redirects`, `Course.follows_expand`, `Course.follows_holds`,
  `Course.follows_respond`: the parts of the engine end at a depth if resolutions end one level
  deeper.
* `Course.follows_resolve`, `Course.follows_answer`: resolutions and answers end.
* **`Brain.reply_ends`**: every reply ends, with bounded calls and without deep steps.
-/

namespace Repartee

variable {s : Script} {order : TrialOrder} {a : Speaker}

/-- Apart from searches nothing records a step. -/
theorem Passive.shallow (limit : Nat) :
    Passive (fun t₁ t₂ => t₁ = t₂ ∧ t₁.Shallow limit) s a :=
  .ofRecords fun t u hsteps _ _ _ ht => by
    rw [Turn.Shallow, hsteps]
    exact ht

/-- A search records a step of its depth. -/
theorem Resolve.shallow_search {limit depth : Nat} (h : depth ≤ limit) (kind : StepKind)
    (data : UserData) (topic : String) (message : Text) :
    Talk.Respects (fun t₁ t₂ => t₁ = t₂ ∧ t₁.Shallow limit)
      (search s order depth kind data topic message) :=
  Talk.respects_iff_keeps.2 fun _ ht =>
    List.forall_mem_append.2 ⟨ht, List.forall_mem_singleton.2 h⟩

/-- A condition is well formed and holds, given how texts are expanded. -/
def Resolve.passes (expand : Text → Talk Text) (condition : String) : Talk Bool :=
  match Condition.split? condition.toList with
  | none => pure false
  | some (test, _) => holds expand test

theorem Resolve.firstReply_cons (expand : Text → Talk Text) (c : String) (cs : List String) :
    firstReply expand (c :: cs) = (do
      if ← passes expand c then pure ((Condition.split? c.toList).map (·.2))
      else firstReply expand cs) := by
  rw [firstReply, passes]
  cases Condition.split? c.toList <;> rfl

namespace Course

/-! ## Parts at a depth -/

section Level

variable {levels depth : Nat}

/-- Resolutions one level deeper end. -/
def FollowsBelow (s : Script) (order : TrialOrder) (a : Speaker) (levels depth : Nat) : Prop :=
  ∀ kind message, Follows s.depth (Frame.Single s.depth .resolution (depth + 1))
    (resolve s order a (depth + 1) kind message)
    (Repartee.resolve s order a levels (depth + 1) kind message)

variable (hr : FollowsBelow s order a levels depth)

include hr

/-- The inline redirects of a text end, by induction on the number of those still answered. -/
theorem follows_redirects : ∀ (n answered : Nat) (t : Text), answered + n = Expand.limit →
    Follows s.depth
      (fun frames => frames.length ≤ n ∧ Frame.AllFrom s.depth .expansion depth frames)
      (redirects s order a depth answered t)
      (Talk.replacing Expand.redirectTag (fun body => do
        let target ← Call.runAll s a (Text.trim body)
        Repartee.resolve s order a levels (depth + 1) .normal (s.normalize false target)) n t)
  | 0, answered, t, h => by
    refine .tick ?_
    simp only [redirects, Talk.replacing]
    cases Expand.redirectTag.find? t with
    | none => exact .pure ⟨Nat.le_refl 0, .nil⟩ t
    | some found =>
      have hfull : ¬answered < Expand.limit := by omega
      simp only [if_neg hfull]
      exact .pure ⟨Nat.le_refl 0, .nil⟩ t
  | n + 1, answered, t, h => by
    refine .tick ?_
    simp only [redirects, Talk.replacing]
    cases Expand.redirectTag.find? t with
    | none => exact .pure ⟨Nat.zero_le _, .nil⟩ t
    | some found =>
      obtain ⟨before, body, rest⟩ := found
      have hmore : answered < Expand.limit := by omega
      simp only [if_pos hmore, bind_assoc]
      refine .after (Passive.runAll (.shallow _) _) fun target => ?_
      refine (hr .normal _).bind (fun new => follows_redirects n (answered + 1) _ (by omega)) ?_
      rintro xs ys hxs ⟨hlength, hys⟩
      have hall : Frame.AllFrom s.depth .expansion depth xs := hxs.allFrom (by decide) rfl
      obtain ⟨f, rfl, -⟩ := hxs
      exact ⟨Nat.succ_le_succ hlength, hall.append hys⟩

theorem follows_expand (hd : depth ≤ s.depth) (stars botstars : List String) (t : Text) :
    Follows s.depth (Frame.Single s.depth .expansion depth)
      (expand s order a depth stars botstars t)
      (Repartee.expand s a (Repartee.resolve s order a levels (depth + 1) .normal) stars botstars
        t) := by
  have hk : Passive _ s a := .shallow s.depth
  refine .tick ?_
  simp only [expand, Repartee.expand]
  refine Follows.call (P := fun frames => frames.length ≤ Expand.limit ∧
    Frame.AllFrom s.depth .expansion depth frames) ?_ ?_
  · refine .after hk.data? fun data => ?_
    refine .after (hk.choose _ _) fun t => ?_
    refine .after (hk.variableTags _) fun t => ?_
    refine .after (hk.topics _) fun t => ?_
    refine (follows_redirects hr Expand.limit 0 t (Nat.zero_add _)).before fun t => ?_
    exact .lift rfl (hk.runAll t)
  · rintro inner ⟨hlength, hinner⟩
    exact hinner.bounded hd fun _ => hlength

theorem follows_holds (hd : depth ≤ s.depth) (stars botstars : List String) (condition : String) :
    Follows s.depth (Frame.Single s.depth .condition depth)
      (holds s order a depth stars botstars condition)
      (Resolve.passes (Repartee.expand s a
        (Repartee.resolve s order a levels (depth + 1) .normal) stars botstars) condition) := by
  refine .tick ?_
  simp only [holds, Resolve.passes]
  refine Follows.call (P := Frame.AllFrom s.depth .condition depth) ?_ ?_
  · cases Condition.split? condition.toList with
    | none => exact .pure .nil false
    | some parts =>
      obtain ⟨test, reply⟩ := parts
      dsimp only [Option.bind_some]
      rw [Resolve.holds]
      cases Condition.comparison? test with
      | none => exact .pure .nil false
      | some sides =>
        obtain ⟨left, op, right⟩ := sides
        simp only [Resolve.side, bind_assoc, pure_bind]
        have hexpand (t : Text) : Follows s.depth (Frame.AllFrom s.depth .condition depth) _ _ :=
          (follows_expand hr hd stars botstars t).calledFrom (by decide) rfl
        refine (hexpand left).bind (fun left => ?_) fun _ _ => .append
        refine (hexpand right).bind (fun right => ?_) fun _ _ => .append
        exact .pure .nil _
  · exact fun inner hinner => hinner.bounded hd fun h => by cases h

/-- The conditions of a trigger are tested up to the first one that holds. -/
theorem follows_firstReply (hd : depth ≤ s.depth) (stars botstars : List String) :
    ∀ conditions : List String, Follows s.depth (Frame.AllFrom s.depth .resolution depth)
      (firstReply s order a depth stars botstars conditions)
      (Resolve.firstReply (Repartee.expand s a
        (Repartee.resolve s order a levels (depth + 1) .normal) stars botstars) conditions)
  | [] => by
    refine .tick ?_
    simp only [firstReply]
    exact .pure .nil none
  | c :: cs => by
    rw [Resolve.firstReply_cons]
    refine .tick ?_
    simp only [firstReply]
    have hholds : Follows s.depth (Frame.AllFrom s.depth .resolution depth) _ _ :=
      (follows_holds hr hd stars botstars c).calledFrom (by decide) rfl
    refine hholds.bind (fun b => ?_) fun _ _ => .append
    exact .ite (.pure .nil _) (follows_firstReply hd stars botstars cs)

theorem follows_chosenReply (hd : depth ≤ s.depth) (stars botstars : List String) (g : Trigger) :
    Follows s.depth (Frame.AllFrom s.depth .resolution depth)
      (chosenReply s order a depth stars botstars g)
      (Resolve.chosenReply (Repartee.expand s a
        (Repartee.resolve s order a levels (depth + 1) .normal) stars botstars) g) := by
  have hk : Passive _ s a := .shallow s.depth
  refine .tick ?_
  simp only [chosenReply, Resolve.chosenReply]
  refine (follows_firstReply hr hd stars botstars g.conditions).bind (fun reply => ?_)
    fun _ _ => .append
  cases reply with
  | some reply => exact .pure .nil reply
  | none =>
    exact .after (hk.pick _) fun _ => .pure .nil _

theorem follows_notice (hd : depth ≤ s.depth) (kind : StepKind) (text : String) :
    Follows s.depth (Frame.AllFrom s.depth .resolution depth)
      (notice s order a depth kind text)
      (if kind = .opening ∧ depth = 0 then pure text.toList
        else Repartee.expand s a (Repartee.resolve s order a levels (depth + 1) .normal) [] []
          text.toList) := by
  refine .tick ?_
  simp only [notice]
  exact .ite (.pure .nil _) ((follows_expand hr hd [] [] _).calledFrom (by decide) rfl)

theorem follows_respond (hd : depth ≤ s.depth) (kind : StepKind)
    (found : Option (Found × Trigger)) :
    Follows s.depth (Frame.AllFrom s.depth .resolution depth)
      (respond s order a depth kind found)
      (Resolve.respond s order a levels depth kind found) := by
  have hk : Passive _ s a := .shallow s.depth
  refine .tick ?_
  simp only [respond, Resolve.respond]
  cases found with
  | none => exact follows_notice hr hd kind _
  | some f =>
    obtain ⟨found, trigger⟩ := f
    have hexpand (t : Text) : Follows s.depth (Frame.AllFrom s.depth .resolution depth) _ _ :=
      (follows_expand hr hd found.stars found.botstars t).calledFrom (by decide) rfl
    refine .after (hk.keepStars _ _ _) fun _ => ?_
    cases trigger.redirect with
    | some redirect =>
      exact (hexpand _).bind (fun target => (hr kind _).calledFrom (by decide) rfl) fun _ _ =>
        .append
    | none =>
      refine (follows_chosenReply hr hd _ _ trigger).bind (fun reply => ?_) fun _ _ => .append
      refine .ite (follows_notice hr hd kind _) (.ite ?_ ?_)
      · exact .lift .nil (hk.openingReply reply)
      · exact hexpand reply

end Level

/-! ## Answers -/

/-- Resolutions end, by induction on the levels left: the guard of the engine refuses to go on just
where no level is left. -/
theorem follows_resolve : ∀ (levels depth : Nat), levels + depth = s.depth + 1 →
    ∀ (kind : StepKind) (message : Text), Follows s.depth (Frame.Single s.depth .resolution depth)
      (resolve s order a depth kind message) (Repartee.resolve s order a levels depth kind message)
  | 0, depth, h, kind, message => by
    obtain rfl : depth = s.depth + 1 := by omega
    refine .tick ?_
    simp only [resolve, Repartee.resolve, if_pos (Nat.lt_succ_self s.depth)]
    refine Follows.call (P := (· = [])) (Follows.pure (P := (· = [])) rfl _) ?_
    rintro _ rfl
    exact .tooDeep
  | levels + 1, depth, h, kind, message => by
    have hd : depth ≤ s.depth := by omega
    have hk : Passive _ s a := .shallow s.depth
    have hr : FollowsBelow s order a levels depth := follows_resolve levels (depth + 1) (by omega)
    rw [resolve_succ]
    refine .tick ?_
    simp only [resolve, if_neg (Nat.not_lt_of_ge hd)]
    refine Follows.call (P := Frame.AllFrom s.depth .resolution depth) ?_ ?_
    · refine .after hk.leaveUnknownTopic fun data => ?_
      refine .ite (.pure .nil _) ?_
      exact .after (Resolve.shallow_search hd _ _ _ _) fun found => follows_respond hr hd kind found
    · exact fun inner hinner => hinner.bounded hd fun h => by cases h

/-- Frames of calls at depth zero. -/
def OnTop (limit : Nat) (frames : List Frame) : Prop :=
  ∀ f ∈ frames, f.depth = 0 ∧ f.Bounded limit

theorem OnTop.append {limit : Nat} {xs ys : List Frame} (hx : OnTop limit xs)
    (hy : OnTop limit ys) : OnTop limit (xs ++ ys) :=
  List.forall_mem_append.2 ⟨hx, hy⟩

theorem OnTop.single {limit : Nat} {part : Part} {frames : List Frame}
    (h : Frame.Single limit part 0 frames) : OnTop limit frames := by
  obtain ⟨f, rfl, -, hdepth, hbounded⟩ := h
  exact List.forall_mem_singleton.2 ⟨hdepth, hbounded⟩

theorem follows_answer (message : Text) : Follows s.depth (OnTop s.depth)
    (answer s order a message) (Repartee.answer s order a message) := by
  have hresolve (kind : StepKind) (message : Text) :=
    (@follows_resolve s order a (s.depth + 1) 0 rfl kind message).mono fun _ => OnTop.single
  have hr : FollowsBelow s order a s.depth 0 := follows_resolve s.depth 1 rfl
  have hexpand (t : Text) :=
    (follows_expand hr (Nat.zero_le _) [] [] t).mono fun _ => OnTop.single
  unfold answer Repartee.answer
  refine .ite ?_ (hresolve .normal message)
  refine (hresolve .opening _).bind (fun opening => ?_) fun _ _ => OnTop.append
  rw [fill]
  split
  · rw [bind_assoc]
    refine (hresolve .normal message).bind (fun normal => ?_) fun _ _ => OnTop.append
    rw [pure_bind]
    exact hexpand _
  · rw [pure_bind]
    exact hexpand opening

end Course

namespace Brain

/-- **Every reply ends.** The course of the engine that has no number of levels left ends with what
is replied; its calls keep to the limits, and its steps to the limit of depth. -/
theorem reply_ends {b : Brain} {order : TrialOrder} (ho : b.script.order = some order)
    (user message : String) (scope : Option Scope) : ∃ text t frames,
    Course.Ends (Course.answer b.script order ⟨user, scope⟩
      (b.script.normalize false message.toList)) (b.turn user) [] text t frames ∧
    b.reply user message scope = (b.conclude user t
      (String.ofList (b.script.normalize false message.toList)) (String.ofList text)).map .ok id ∧
    (∀ step ∈ t.steps, step.depth ≤ b.script.depth) ∧
    ∀ f ∈ frames, f.depth = 0 ∧ f.Bounded b.script.depth := by
  obtain ⟨frames, hframes, hends, hshallow⟩ := @Course.follows_answer b.script order ⟨user, scope⟩
    (b.script.normalize false message.toList) (b.turn user) [] fun _ h => absurd h List.not_mem_nil
  refine ⟨_, _, frames, hends, ?_, hshallow, hframes⟩
  rw [reply, ho]
  rfl

/-- A bot that asks itself the same thing again with every reply. -/
def carousel : Brain :=
  ((Brain.new {} .new).load
    { topics := [{
        name := "random"
        triggers := [{ pattern := "*", replies := ["once \x7b@again\x7d"] }] }] }).2.sort

/-- A reply of the carousel ends. -/
theorem carousel_ends : ∃ order, carousel.script.order = some order ∧ ∃ text t frames,
    Course.Ends (Course.answer carousel.script order ⟨"rider", none⟩
      (carousel.script.normalize false "hello".toList)) (carousel.turn "rider") [] text t frames ∧
    carousel.reply "rider" "hello" none = (carousel.conclude "rider" t
      (String.ofList (carousel.script.normalize false "hello".toList))
      (String.ofList text)).map .ok id ∧
    (∀ step ∈ t.steps, step.depth ≤ carousel.script.depth) ∧
    ∀ f ∈ frames, f.depth = 0 ∧ f.Bounded carousel.script.depth :=
  ⟨_, rfl, reply_ends rfl "rider" "hello" none⟩

end Brain

end Repartee

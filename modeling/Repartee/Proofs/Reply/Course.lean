import Repartee.Proofs.Reply.Respects

/-!
# The course of a reply

The engine resolves messages, tests conditions and expands texts, and each of these starts others
of them. A course does the same without a number of levels that are left: only the guards that the
engine checks itself keep it from going on forever. It runs against a clock that every call winds
down by one; a course ends if its result does not depend on the clock, once that is wound up far
enough.

* `Frame`: a call of a part of the engine, and the calls made in it.
* `Frame.Bounded`: the calls keep to a limit of depth, and to the limit of inline redirects.
* `Course`: a computation that may be stopped by the clock, and takes down the calls.
* `Course.resolve`, `Course.holds`, `Course.expand`, `Course.answer`: the parts of the engine.
* `Course.Ends`: a course ends with a result.
* `Course.Follows`: a course ends, as a computation does; rules for courses that are put together.
-/

namespace Repartee

/-! ## Calls -/

/-- The parts of the engine that call each other. -/
inductive Part where
  /-- Answering a message. -/
  | resolution
  /-- Testing a condition. -/
  | condition
  /-- Expanding a text. -/
  | expansion
  deriving DecidableEq, Repr

/-- The parts that a part calls. -/
def Part.calls : Part → List Part
  | resolution => [.resolution, .condition, .expansion]
  | condition => [.expansion]
  | expansion => [.resolution]

/-- A call of a part at a depth, and the calls made in it. -/
structure Frame where
  part : Part
  depth : Nat
  inner : List Frame

namespace Frame

/-- A part calls others at its own depth, but resolutions one level deeper. -/
structure StartedFrom (part : Part) (depth : Nat) (f : Frame) : Prop where
  part : f.part ∈ part.calls
  depth : f.depth = if f.part = .resolution then depth + 1 else depth

/-- A call beyond the limit of depth ends at once. The others start what they may start, and an
expansion starts no more resolutions than there are inline redirects answered in one text. -/
inductive Bounded (limit : Nat) : Frame → Prop
  | tooDeep : Bounded limit ⟨.resolution, limit + 1, []⟩
  | started {part : Part} {depth : Nat} {inner : List Frame} : depth ≤ limit →
    (∀ f ∈ inner, f.StartedFrom part depth) → (part = .expansion → inner.length ≤ Expand.limit) →
    (∀ f ∈ inner, Bounded limit f) → Bounded limit ⟨part, depth, inner⟩

end Frame

/-! ## Courses -/

/-- A computation on a turn that takes down the calls, and has no result if the clock stops it. -/
abbrev Course := StateT (Turn × List Frame) Option

namespace Course

/-- A computation that calls no part of the engine. -/
def lift {α : Type} (m : Talk α) : Course α := fun (t, frames) =>
  let (x, t) := m.run t
  some (x, t, frames)

instance : MonadLift Talk Course := ⟨lift⟩

/-- Begin to take down the calls anew. -/
def enter : Course (List Frame) := fun (t, frames) => some (frames, t, [])

/-- Put what was taken down into a frame, behind the frames from before. -/
def leave (part : Part) (depth : Nat) (frames : List Frame) : Course Unit := fun (t, inner) =>
  some ((), t, frames ++ [⟨part, depth, inner⟩])

/-- A call of a part. -/
abbrev call {α : Type} (part : Part) (depth : Nat) (c : Course α) : Course α := do
  let frames ← enter
  let x ← c
  leave part depth frames
  pure x

/-- A course that the clock stops. -/
def stopped {α : Type} : Course α := fun _ => none

/-- An expanded side of a comparison; an empty one is undefined. -/
def orUndefined (t : Text) : Text := if t = [] then undefined.toList else t

variable (s : Script) (order : TrialOrder) (a : Speaker)

mutual

/-- Answer a message at a depth. -/
def resolve (depth : Nat) (kind : StepKind) (message : Text) : (clock : Nat) → Course Text
  | 0 => stopped
  | k + 1 => call .resolution depth do
    if s.depth < depth then pure s.options.notices.deepRecursion.toList
    else
      let data ← Resolve.leaveUnknownTopic s a.user
      if !s.topics.contains (Resolve.searchedTopic kind data) then
        pure ("ERR: No default topic '" ++ defaultTopic ++ "' was found!").toList
      else
        let found ←
          Resolve.search s order depth kind data (Resolve.searchedTopic kind data) message
        respond depth kind found k
termination_by structural k => k

/-- Answer with what a search found. -/
def respond (depth : Nat) (kind : StepKind) (found : Option (Found × Trigger)) :
    (clock : Nat) → Course Text
  | 0 => stopped
  | k + 1 =>
    match found with
    | none => notice depth kind s.options.notices.notMatched k
    | some (found, trigger) => do
      Resolve.keepStars depth kind found.stars
      match trigger.redirect with
      | some redirect =>
        let target ← expand depth found.stars found.botstars redirect.toList k
        resolve (depth + 1) kind (s.normalize false target) k
      | none =>
        let reply ← chosenReply depth found.stars found.botstars trigger k
        if reply = [] then notice depth kind s.options.notices.notFound k
        else if kind = .opening ∧ depth = 0 then Resolve.openingReply a.user reply
        else expand depth found.stars found.botstars reply k
termination_by structural k => k

/-- Answer with a notice. -/
def notice (depth : Nat) (kind : StepKind) (text : String) : (clock : Nat) → Course Text
  | 0 => stopped
  | k + 1 =>
    if kind = .opening ∧ depth = 0 then pure text.toList else expand depth [] [] text.toList k
termination_by structural k => k

/-- Choose the reply of a trigger. -/
def chosenReply (depth : Nat) (stars botstars : List String) (g : Trigger) :
    (clock : Nat) → Course Text
  | 0 => stopped
  | k + 1 => do
    match ← firstReply depth stars botstars g.conditions k with
    | some reply => pure reply
    | none => pure ((← Choice.pick g.replies).getD "").toList
termination_by structural k => k

/-- The reply of the first condition that holds. -/
def firstReply (depth : Nat) (stars botstars : List String) (conditions : List String) :
    (clock : Nat) → Course (Option Text)
  | 0 => stopped
  | k + 1 =>
    match conditions with
    | [] => pure none
    | c :: cs => do
      if ← holds depth stars botstars c k then pure ((Condition.split? c.toList).map (·.2))
      else firstReply depth stars botstars cs k
termination_by structural k => k

/-- Test a condition. -/
def holds (depth : Nat) (stars botstars : List String) (condition : String) :
    (clock : Nat) → Course Bool
  | 0 => stopped
  | k + 1 => call .condition depth do
    match (Condition.split? condition.toList).bind fun c => Condition.comparison? c.1 with
    | none => pure false
    | some (left, op, right) =>
      let left ← expand depth stars botstars left k
      let right ← expand depth stars botstars right k
      pure (op.holds (orUndefined left) (orUndefined right))
termination_by structural k => k

/-- Expand a text. -/
def expand (depth : Nat) (stars botstars : List String) (t : Text) : (clock : Nat) → Course Text
  | 0 => stopped
  | k + 1 => call .expansion depth do
    let data ← Talk.data? a.user
    let t := Expand.prepare s a (data.getD {}).history stars botstars t
    let t ← Expand.choose s.depth t
    let t ← Variables.resolve a.user (Expand.formats s t)
    let t ← Expand.topics a.user t
    let t ← redirects depth 0 t k
    Call.runAll s a t
termination_by structural k => k

/-- Answer the inline redirects of a text in which some were answered already. -/
def redirects (depth answered : Nat) (t : Text) : (clock : Nat) → Course Text
  | 0 => stopped
  | k + 1 =>
    match Expand.redirectTag.find? t with
    | none => pure t
    | some (before, body, after) =>
      if answered < Expand.limit then do
        let target ← Call.runAll s a (Text.trim body)
        let new ← resolve (depth + 1) .normal (s.normalize false target) k
        redirects depth (answered + 1) (before ++ new ++ after) k
      else pure t
termination_by structural k => k

end

/-- Answer a normalized message, by way of the begin block if there is one. -/
def answer (message : Text) (clock : Nat) : Course Text :=
  if s.topics.contains beginTopic then do
    let opening ← resolve s order a 0 .opening "request".toList clock
    if (Text.cutAt? okMark opening).isSome then
      let normal ← resolve s order a 0 .normal message clock
      expand s order a 0 [] [] (Text.replace okMark normal opening) clock
    else expand s order a 0 [] [] opening clock
  else resolve s order a 0 .normal message clock

end Course

/-! ## Courses that end -/

open Talk (Respects)

/-- No step of a turn is deeper than a limit. -/
def Turn.Shallow (limit : Nat) (t : Turn) : Prop := ∀ step ∈ t.steps, step.depth ≤ limit

/-- Frames that a part may take down at a depth. -/
def Frame.AllFrom (limit : Nat) (part : Part) (depth : Nat) (frames : List Frame) : Prop :=
  ∀ f ∈ frames, f.StartedFrom part depth ∧ f.Bounded limit

/-- The frames of a single call. -/
def Frame.Single (limit : Nat) (part : Part) (depth : Nat) (frames : List Frame) : Prop :=
  ∃ f, frames = [f] ∧ f.part = part ∧ f.depth = depth ∧ f.Bounded limit

namespace Frame

variable {limit : Nat} {part : Part} {depth : Nat} {xs ys : List Frame}

theorem AllFrom.nil : AllFrom limit part depth [] := fun _ h => absurd h List.not_mem_nil

theorem AllFrom.append (hx : AllFrom limit part depth xs) (hy : AllFrom limit part depth ys) :
    AllFrom limit part depth (xs ++ ys) :=
  List.forall_mem_append.2 ⟨hx, hy⟩

/-- A call that keeps to the limits takes down a bounded frame. -/
theorem AllFrom.bounded (h : AllFrom limit part depth xs) (hd : depth ≤ limit)
    (hlength : part = .expansion → xs.length ≤ Expand.limit) : Bounded limit ⟨part, depth, xs⟩ :=
  .started hd (fun f hf => (h f hf).1) hlength fun f hf => (h f hf).2

/-- A single call of a part that another one may call. -/
theorem Single.allFrom {caller : Part} {callerDepth : Nat} (h : Single limit part depth xs)
    (hpart : part ∈ caller.calls)
    (hdepth : depth = if part = .resolution then callerDepth + 1 else callerDepth) :
    AllFrom limit caller callerDepth xs := by
  obtain ⟨f, rfl, rfl, rfl, hbounded⟩ := h
  exact List.forall_mem_singleton.2 ⟨⟨hpart, hdepth⟩, hbounded⟩

end Frame

namespace Course

variable {α β : Type} {limit : Nat}

/-- A course ends with a result, on every clock that is wound up far enough. -/
def Ends (c : Nat → Course α) (t : Turn) (frames : List Frame) (x : α) (t' : Turn)
    (frames' : List Frame) : Prop :=
  ∃ n, ∀ k, n ≤ k → (c k).run (t, frames) = some (x, t', frames')

/-- From a turn without deep steps a course ends as a computation does; the frames that it takes
down have a property, and the turn it leads to has no deep steps. -/
def Follows (limit : Nat) (P : List Frame → Prop) (c : Nat → Course α) (m : Talk α) : Prop :=
  ∀ t frames, t.Shallow limit → ∃ taken, P taken ∧
    Ends c t frames (m.run t).1 (m.run t).2 (frames ++ taken) ∧ (m.run t).2.Shallow limit

namespace Follows

variable {P P' P'' : List Frame → Prop}

theorem pure (h : P []) (x : α) : Follows limit P (fun _ => Pure.pure x) (Pure.pure x) := by
  intro t frames ht
  refine ⟨[], h, ⟨0, fun _ _ => ?_⟩, ht⟩
  rw [List.append_nil]
  rfl

theorem lift {m : Talk α} (h : P [])
    (hm : Respects (fun t₁ t₂ => t₁ = t₂ ∧ t₁.Shallow limit) m) :
    Follows limit P (fun _ => liftM m) m := by
  intro t frames ht
  refine ⟨[], h, ⟨0, fun _ _ => ?_⟩, Talk.respects_iff_keeps.1 hm t ht⟩
  rw [List.append_nil]
  rfl

theorem mono {c : Nat → Course α} {m : Talk α} (hc : Follows limit P c m)
    (h : ∀ frames, P frames → P' frames) : Follows limit P' c m := by
  intro t frames ht
  obtain ⟨taken, htaken, hends, hshallow⟩ := hc t frames ht
  exact ⟨taken, h taken htaken, hends, hshallow⟩

/-- A single call, as part of the one that it is made in. -/
theorem calledFrom {part caller : Part} {depth callerDepth : Nat} {c : Nat → Course α} {m : Talk α}
    (hc : Follows limit (Frame.Single limit part depth) c m) (hpart : part ∈ caller.calls)
    (hdepth : depth = if part = .resolution then callerDepth + 1 else callerDepth) :
    Follows limit (Frame.AllFrom limit caller callerDepth) c m :=
  hc.mono fun _ h => h.allFrom hpart hdepth

/-- A call winds down the clock. -/
theorem tick {c : Nat → Course α} {m : Talk α} (hc : Follows limit P (fun k => c (k + 1)) m) :
    Follows limit P c m := by
  intro t frames ht
  obtain ⟨taken, htaken, ⟨n, hrun⟩, hshallow⟩ := hc t frames ht
  refine ⟨taken, htaken, ⟨n + 1, fun k hk => ?_⟩, hshallow⟩
  obtain ⟨k, rfl⟩ := Nat.exists_eq_add_of_le' hk
  exact hrun (k + n) (Nat.le_add_left n k)

theorem bind {c : Nat → Course α} {m : Talk α} {f : Nat → α → Course β} {g : α → Talk β}
    (hc : Follows limit P c m) (hf : ∀ x, Follows limit P' (fun k => f k x) (g x))
    (happend : ∀ xs ys, P xs → P' ys → P'' (xs ++ ys)) :
    Follows limit P'' (fun k => c k >>= f k) (m >>= g) := by
  intro t frames ht
  obtain ⟨xs, hxs, ⟨n, hrun⟩, hmiddle⟩ := hc t frames ht
  obtain ⟨ys, hys, ⟨n', hrun'⟩, hshallow⟩ := hf (m.run t).1 (m.run t).2 (frames ++ xs) hmiddle
  refine ⟨xs ++ ys, happend xs ys hxs hys, ⟨max n n', fun k hk => ?_⟩, hshallow⟩
  rw [StateT.run_bind, hrun k (Nat.max_le.1 hk).1, Talk.run_bind, ← List.append_assoc]
  exact hrun' k (Nat.max_le.1 hk).2

/-- A computation before a course takes down nothing. -/
theorem after {m : Talk α} {f : Nat → α → Course β} {g : α → Talk β}
    (hm : Respects (fun t₁ t₂ => t₁ = t₂ ∧ t₁.Shallow limit) m)
    (hf : ∀ x, Follows limit P (fun k => f k x) (g x)) :
    Follows limit P (fun k => liftM m >>= f k) (m >>= g) :=
  bind (P := (· = [])) (lift rfl hm) hf fun xs ys hxs hys => by rwa [hxs]

/-- A computation behind a course takes down nothing. -/
theorem before {c : Nat → Course α} {m : Talk α} {f : Nat → α → Course β} {g : α → Talk β}
    (hc : Follows limit P c m) (hf : ∀ x, Follows limit (· = []) (fun k => f k x) (g x)) :
    Follows limit P (fun k => c k >>= f k) (m >>= g) :=
  hc.bind hf fun xs ys hxs hys => by rwa [hys, List.append_nil]

theorem ite {p : Prop} [Decidable p] {c d : Nat → Course α} {m n : Talk α}
    (hc : Follows limit P c m) (hd : Follows limit P d n) :
    Follows limit P (fun k => if p then c k else d k) (if p then m else n) := by
  split
  · exact hc
  · exact hd

/-- A call of a part ends if its course does. -/
theorem call {part : Part} {depth : Nat} {c : Nat → Course α} {m : Talk α}
    (hc : Follows limit P c m) (h : ∀ inner, P inner → Frame.Bounded limit ⟨part, depth, inner⟩) :
    Follows limit (Frame.Single limit part depth) (fun k => Course.call part depth (c k)) m := by
  intro t frames ht
  obtain ⟨inner, hinner, ⟨n, hrun⟩, hshallow⟩ := hc t [] ht
  refine ⟨[⟨part, depth, inner⟩], ⟨_, rfl, rfl, rfl, h inner hinner⟩, ⟨n, fun k hk => ?_⟩,
    hshallow⟩
  have hcall : (Course.call part depth (c k)).run (t, frames) = ((c k).run (t, [])).bind fun r =>
      (leave part depth frames >>= fun _ => Pure.pure r.1).run r.2 := rfl
  rw [hcall, hrun k hk]
  rfl

end Follows

end Course

end Repartee

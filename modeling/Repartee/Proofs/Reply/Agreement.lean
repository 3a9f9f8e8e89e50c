import Repartee.Proofs.Brain.Bookkeeping
import Repartee.Proofs.Script.Apart

/-!
# Answers with one more topic

With one more topic a bot answers as before, until it searches in this topic.

* `Talk.AgreeUntil`: two computations do the same unless something happens in the second one.
* `Passive.expand_agree`: expanding agrees if answering inline redirects does.
* `Turn.Enters`: an ordinary search was made in a topic.
* **`Resolve.agree_withTopic`**: resolving with one more topic agrees until this topic is entered.
-/

namespace Repartee

namespace Talk

variable {α β : Type} {bad : Turn → Prop} {m n : Talk α}

/-- From every turn two computations do the same, unless something has happened in the end of the
second one. What has happened before stays so. -/
structure AgreeUntil (bad : Turn → Prop) (m n : Talk α) : Prop where
  keeps : Keeps bad n
  agree : ∀ t, bad (n.run t).2 ∨ m.run t = n.run t

namespace AgreeUntil

theorem refl (h : Respects (fun t₁ t₂ => t₁ = t₂ ∧ bad t₁) m) : AgreeUntil bad m m :=
  ⟨respects_iff_keeps.1 h, fun _ => .inr rfl⟩

theorem pure (a : α) : AgreeUntil bad (Pure.pure a) (Pure.pure a) := refl (.pure a)

theorem bind (h : AgreeUntil bad m n) {f g : α → Talk β} (hfg : ∀ a, AgreeUntil bad (f a) (g a)) :
    AgreeUntil bad (m >>= f) (n >>= g) where
  keeps t ht := (hfg (n.run t).1).keeps _ (h.keeps t ht)
  agree t := by
    rcases h.agree t with hbad | hsame
    · exact .inl ((hfg (n.run t).1).keeps _ hbad)
    · rw [run_bind, run_bind, hsame]
      exact (hfg (n.run t).1).agree (n.run t).2

theorem ite {p : Prop} [Decidable p] {m' n' : Talk α} (h : AgreeUntil bad m n)
    (h' : AgreeUntil bad m' n') : AgreeUntil bad (if p then m else m') (if p then n else n') := by
  split
  · exact h
  · exact h'

/-- Loops of replacements agree if their bodies do. -/
theorem replacing {p : Scan α} {f g : α → Talk Text} (h : ∀ a, AgreeUntil bad (f a) (g a)) :
    ∀ (k : Nat) (t : Text), AgreeUntil bad (Talk.replacing p f k t) (Talk.replacing p g k t)
  | 0, t => .pure t
  | k + 1, t => by
    rw [Talk.replacing, Talk.replacing]
    cases p.find? t with
    | none => exact .pure t
    | some found =>
      obtain ⟨before, a, after⟩ := found
      exact (h a).bind fun new => replacing h k (before ++ new ++ after)

end AgreeUntil

end Talk

open Talk (AgreeUntil)

/-! ## Expanding -/

section

variable {bad : Turn → Prop} {s : Script} {a : Speaker}
  (hp : Passive (fun t₁ t₂ => t₁ = t₂ ∧ bad t₁) s a)

include hp

/-- Expanding agrees if answering inline redirects does. -/
theorem Passive.expand_agree {redirect redirect' : Redirect}
    (h : ∀ t, AgreeUntil bad (redirect t) (redirect' t)) (stars botstars : List String) (t : Text) :
    AgreeUntil bad (Repartee.expand s a redirect stars botstars t)
      (Repartee.expand s a redirect' stars botstars t) := by
  unfold Repartee.expand
  refine .bind (.refl hp.data?) fun data => ?_
  refine .bind (.refl (hp.choose _ _)) fun t => ?_
  refine .bind (.refl (hp.variableTags _)) fun t => ?_
  refine .bind (.refl (hp.topics _)) fun t => ?_
  refine .bind (.replacing (fun body => ?_) _ _) fun t => ?_
  · exact .bind (.refl (hp.runAll _)) fun target => h _
  · exact .refl (hp.runAll t)

omit hp in
/-- The first condition that holds is the same if expanding agrees. -/
theorem Resolve.firstReply_agree {expand expand' : Text → Talk Text}
    (h : ∀ t, AgreeUntil bad (expand t) (expand' t)) :
    ∀ cs : List String, AgreeUntil bad (firstReply expand cs) (firstReply expand' cs)
  | [] => .pure none
  | c :: cs => by
    have hside (t : Text) : AgreeUntil bad (side expand t) (side expand' t) :=
      (h t).bind fun _ => .pure _
    have hholds (test : Text) : AgreeUntil bad (holds expand test) (holds expand' test) := by
      rw [holds, holds]
      cases Condition.comparison? test with
      | none => exact .pure _
      | some c => exact (hside _).bind fun _ => (hside _).bind fun _ => .pure _
    rw [firstReply, firstReply]
    cases Condition.split? c.toList with
    | none => exact firstReply_agree h cs
    | some c => exact (hholds _).bind fun b => .ite (.pure _) (firstReply_agree h cs)

theorem Passive.chosenReply_agree {expand expand' : Text → Talk Text}
    (h : ∀ t, AgreeUntil bad (expand t) (expand' t)) (g : Trigger) :
    AgreeUntil bad (Resolve.chosenReply expand g) (Resolve.chosenReply expand' g) := by
  refine (Resolve.firstReply_agree h _).bind fun reply => ?_
  cases reply with
  | some reply => exact .pure _
  | none => exact .bind (.refl (hp.pick _)) fun _ => .pure _

end

/-! ## Resolving -/

/-- An ordinary search was made in a topic. -/
def Turn.Enters (name : String) (t : Turn) : Prop :=
  ∃ step ∈ t.steps, step.kind = .normal ∧ step.topic = name

variable {s : Script} {order order' : TrialOrder} {a : Speaker} {name : String} {u : Topic}

/-- The elementary computations keep a search that was made. -/
theorem Elementary.enters :
    Elementary (fun t₁ t₂ => t₁ = t₂ ∧ t₁.Enters name) s order a := by
  refine .ofRecords (fun t u hs _ _ _ h => ?_) fun t step found _ _ h => ?_
  · rw [Turn.Enters, hs]
    exact h
  · obtain ⟨step, hstep, h⟩ := h
    exact ⟨step, List.mem_append_left _ hstep, h⟩

theorem UserData.topic_setVar (data : UserData) (name : String) :
    (data.setVar "topic" name).topic = name := by
  rw [topic, setVar, Table.find?_insert, if_pos rfl, Option.getD_some]

namespace Resolve

/-- Responding agrees if resolving with the levels left does. -/
theorem respond_agree {levels : Nat}
    (h : ∀ depth message, AgreeUntil (Turn.Enters u.name)
      (resolve s order a levels depth .normal message)
      (resolve (s.withTopic u) order' a levels depth .normal message))
    (depth : Nat) (found : Option (Found × Trigger)) :
    AgreeUntil (Turn.Enters u.name) (respond s order a levels depth .normal found)
      (respond (s.withTopic u) order' a levels depth .normal found) := by
  have hp : Passive (fun t₁ t₂ => t₁ = t₂ ∧ t₁.Enters u.name) s a :=
    (@Elementary.enters s order a u.name).toPassive
  have hexpand := hp.expand_agree (h (depth + 1))
  cases found with
  | none => exact hexpand _ _ _
  | some f =>
    obtain ⟨found, trigger⟩ := f
    refine .bind (.refl (hp.keepStars _ _ _)) fun _ => ?_
    cases trigger.redirect with
    | some redirect => exact (hexpand _ _ _).bind fun target => h _ _
    | none =>
      refine (hp.chosenReply_agree (hexpand _ _) _).bind fun reply => ?_
      exact .ite (hexpand _ _ _) (hexpand _ _ _)

/-- After a user has left an unknown topic, the topic of the user is the one that it was, or the
default one. -/
theorem topic_leaveUnknownTopic (s : Script) (user : String) (t : Turn) :
    ((leaveUnknownTopic s user).run t).1.topic = (current user t).topic ∨
      ((leaveUnknownTopic s user).run t).1.topic = defaultTopic := by
  rw [leaveUnknownTopic_run]
  split
  · exact .inl rfl
  · exact .inr (UserData.topic_setVar _ _)

/-- With one more topic a user in another topic stays or is moved as before. -/
theorem leaveUnknownTopic_withTopic {user : String} {t : Turn}
    (h : (current user t).topic ≠ u.name) :
    (leaveUnknownTopic (s.withTopic u) user).run t = (leaveUnknownTopic s user).run t := by
  rw [leaveUnknownTopic_run, leaveUnknownTopic_run, s.contains_withTopic_of_ne u h]

/-- A user who has left an unknown topic is in a topic that is there, and stays in it whatever else
changes. -/
theorem leaveUnknownTopic_settled (hdefault : s.topics.contains defaultTopic = true)
    {user : String} {t u : Turn}
    (hu : u.sessions = ((leaveUnknownTopic s user).run t).2.sessions) :
    s.topics.contains ((leaveUnknownTopic s user).run t).1.topic = true ∧
      (leaveUnknownTopic s user).run u = (((leaveUnknownTopic s user).run t).1, u) := by
  have hcurrent : current user u = ((leaveUnknownTopic s user).run t).1 ∧
      s.topics.contains ((leaveUnknownTopic s user).run t).1.topic = true := by
    rw [leaveUnknownTopic_run] at hu ⊢
    by_cases hin : s.topics.contains (current user t).topic = true
    · rw [if_pos hin] at hu ⊢
      exact ⟨congrArg (fun store => (SessionStore.data? store user).getD {}) hu, hin⟩
    · rw [if_neg hin] at hu ⊢
      refine ⟨?_, (UserData.topic_setVar _ _).symm ▸ hdefault⟩
      have hmemory : t.sessions.IsMemory := by
        rw [current] at hin
        cases hstore : t.sessions with
        | memory => trivial
        | forgetful =>
          rw [hstore] at hin
          exact absurd hdefault hin
      rw [current, hu, SessionStore.data?_set hmemory]
      rfl
  rw [leaveUnknownTopic_run s user u, hcurrent.1, if_pos hcurrent.2]
  exact ⟨hcurrent.2, rfl⟩

/-- **Resolving with one more topic agrees until this topic is entered.** -/
theorem agree_withTopic (hs : s.Current) (ho : s.order = some order)
    (h : s.topics.Unmentioned u.name) (ho' : (s.withTopic u).order = some order')
    (hdefault : u.name ≠ defaultTopic) : ∀ (levels depth : Nat) (message : Text),
      AgreeUntil (Turn.Enters u.name) (resolve s order a levels depth .normal message)
        (resolve (s.withTopic u) order' a levels depth .normal message)
  | 0, _, _ => .pure _
  | levels + 1, depth, message => by
    have hkeeps : Elementary (fun t₁ t₂ => t₁ = t₂ ∧ t₁.Enters u.name) (s.withTopic u) order' a :=
      .enters
    refine ⟨Talk.respects_iff_keeps.1 (hkeeps.resolve _ _ _ _), fun t => ?_⟩
    have hrespond := respond_agree (agree_withTopic hs ho h ho' hdefault levels) depth
    by_cases htopic : (current a.user t).topic = u.name
    · -- the user is in the topic, and stays there
      left
      have hin : (s.withTopic u).topics.contains (current a.user t).topic = true := by
        rw [htopic, s.contains_withTopic u]
      have hleave := leaveUnknownTopic_run (s.withTopic u) a.user t
      rw [if_pos hin] at hleave
      have hin' : (s.withTopic u).topics.contains
        (searchedTopic .normal (current a.user t)) = true := hin
      rw [run_resolve_succ levels depth message hleave, if_pos hin', Talk.run_bind]
      refine Talk.respects_iff_keeps.1 (hkeeps.respond (hkeeps.resolve levels) depth .normal _) _ ?_
      exact ⟨_, List.mem_append_right _ (List.mem_singleton_self _), rfl, htopic⟩
    · have hleave' := @leaveUnknownTopic_withTopic s u a.user t htopic
      have hne : ((leaveUnknownTopic s a.user).run t).1.topic ≠ u.name := by
        rcases topic_leaveUnknownTopic s a.user t with hstays | hmoves
        · rwa [hstays]
        · rw [hmoves]
          exact hdefault.symm
      cases hleave : (leaveUnknownTopic s a.user).run t with
      | mk data t' =>
        rw [hleave] at hne
        have hthere : (s.withTopic u).topics.contains (searchedTopic .normal data) =
          s.topics.contains (searchedTopic .normal data) := s.contains_withTopic_of_ne u hne
        have hsearch : search (s.withTopic u) order' depth .normal data (searchedTopic .normal data)
            message = search s order depth .normal data (searchedTopic .normal data) message :=
          search_withTopic hs ho h ho' depth .normal data hne message
        rw [run_resolve_succ levels depth message hleave,
          run_resolve_succ levels depth message (hleave'.trans hleave), hthere, hsearch]
        split
        · rw [Talk.run_bind, Talk.run_bind]
          exact (hrespond _).agree _
        · exact .inr rfl

end Resolve

end Repartee

import Repartee.Proofs.Reply.Respects

/-!
# Match records and steps

* `Booked`: the match records agree with the steps that were recorded.
* `Turn.Booked.record`: recording a search keeps them in agreement.
* `answer_top`: if a step is recorded for an answer, one of depth zero is.
* **`Brain.reply_booked`**: the records of every reply agree with its steps, and are those that the
  user is left with.
-/

namespace Repartee

/-! ## Agreement -/

/-- The last match is that of the last step; the initial match is that of the last step of depth
zero, and the triggers are those that matched from this step on. -/
structure Booked (s : Script) (steps : List Step) (last initial : Option String)
    (triggers : List TriggerId) : Prop where
  last : last = steps.getLast?.bind (·.matched)
  /-- Without steps nothing is recorded. -/
  none : steps = [] → initial = none ∧ triggers = []
  latest : (∃ step ∈ steps, step.depth = 0) → ∃ before top after,
    steps = before ++ top :: after ∧ top.depth = 0 ∧ (∀ step ∈ after, step.depth ≠ 0) ∧
      initial = top.matched ∧
        triggers.map (fun id => (s.trigger? id).map (·.pattern)) =
          ((top :: after).filterMap (·.matched)).map some

/-- The records of a turn agree with its steps. -/
def Turn.Booked (s : Script) (t : Turn) : Prop :=
  Repartee.Booked s t.steps t.lastMatch t.initialMatch t.triggers

/-- A turn in which a search of depth zero was recorded. -/
def Turn.HasTop (t : Turn) : Prop := ∃ step ∈ t.steps, step.depth = 0

variable {s : Script} {order : TrialOrder} {a : Speaker} {t : Turn}

/-! ## Recording -/

namespace Resolve

variable (t) (step : Step) (id : Option TriggerId)

theorem steps_record : ((record step id).run t).2.steps = t.steps ++ [step] := rfl

theorem lastMatch_record : ((record step id).run t).2.lastMatch = step.matched := rfl

theorem initialMatch_record : ((record step id).run t).2.initialMatch =
    if step.depth = 0 then step.matched else t.initialMatch := rfl

theorem triggers_record : ((record step id).run t).2.triggers =
    (if step.depth = 0 then [] else t.triggers) ++ id.toList := rfl

end Resolve

/-- Recording a search and the trigger it found keeps the records in agreement with the steps. -/
theorem Turn.Booked.record (h : t.Booked s) (step : Step) (id : Option TriggerId)
    (hid : id.map (fun i => (s.trigger? i).map (·.pattern)) = step.matched.map some) :
    (((Resolve.record step id).run t).2).Booked s := by
  have hpatterns : id.toList.map (fun i => (s.trigger? i).map (·.pattern)) =
      ([step].filterMap (·.matched)).map some := by
    cases id <;> cases hm : step.matched <;> simp_all
  rw [Turn.Booked, Resolve.steps_record, Resolve.lastMatch_record, Resolve.initialMatch_record,
    Resolve.triggers_record]
  refine ⟨by simp, by simp, ?_⟩
  rintro ⟨top, htop, hdepth⟩
  by_cases hd : step.depth = 0
  · -- a step of depth zero starts anew
    refine ⟨t.steps, step, [], rfl, hd, by simp, if_pos hd, ?_⟩
    rw [if_pos hd, List.nil_append]
    exact hpatterns
  · have hold : ∃ top ∈ t.steps, top.depth = 0 := by
      rcases List.mem_append.1 htop with htop | htop
      · exact ⟨top, htop, hdepth⟩
      · rw [List.mem_singleton.1 htop] at hdepth
        exact absurd hdepth hd
    obtain ⟨before, top, after, hsteps, htop, hafter, hinitial, htriggers⟩ := h.latest hold
    refine ⟨before, top, after ++ [step], ?_, htop, ?_, (if_neg hd).trans hinitial, ?_⟩
    · rw [hsteps, List.append_assoc, List.cons_append]
    · intro later hlater
      rcases List.mem_append.1 hlater with hlater | hlater
      · exact hafter later hlater
      · rwa [List.mem_singleton.1 hlater]
    · rw [if_neg hd, List.map_append, htriggers, hpatterns, ← List.cons_append,
        List.filterMap_append, List.map_append]

/-- A macro leaves the records alone. -/
theorem Call.run_desk (name : String) (args : List String) :
    ∃ desk, ((run s a name args).run t).2 = { t with toDesk := desk } := by
  unfold run
  split
  · exact ⟨t.toDesk, rfl⟩
  · split
    · exact ⟨t.toDesk, rfl⟩
    · exact ⟨_, rfl⟩

/-- The elementary computations of an answer, apart from the search, keep an invariant of the steps
and records. -/
theorem Passive.ofRecords {I : Turn → Prop}
    (hI : ∀ t u : Turn, u.steps = t.steps → u.lastMatch = t.lastMatch →
      u.initialMatch = t.initialMatch → u.triggers = t.triggers → I t → I u) :
    Passive (fun t₁ t₂ => t₁ = t₂ ∧ I t₁) s a where
  data? := Talk.respects_iff_keeps.2 fun _ ht => ht
  setVar _ _ := Talk.respects_iff_keeps.2 fun t => hI t _ rfl rfl rfl rfl
  roll _ := Talk.respects_iff_keeps.2 fun t => hI t _ rfl rfl rfl rfl
  bot _ := Talk.respects_iff_keeps.2 fun t => hI t _ rfl rfl rfl rfl
  env _ := Talk.respects_iff_keeps.2 fun t => hI t _ rfl rfl rfl rfl
  run name args := Talk.respects_iff_keeps.2 fun t ht => by
    obtain ⟨desk, hdesk⟩ := @Call.run_desk s a t name args
    rw [hdesk]
    exact hI t _ rfl rfl rfl rfl ht
  keepStars _ _ _ := Talk.respects_iff_keeps.2 fun t => hI t _ rfl rfl rfl rfl

/-- They all keep it, if recording what is found keeps it. -/
theorem Elementary.ofRecords {I : Turn → Prop}
    (hI : ∀ t u : Turn, u.steps = t.steps → u.lastMatch = t.lastMatch →
      u.initialMatch = t.initialMatch → u.triggers = t.triggers → I t → I u)
    (hrecord : ∀ (t : Turn) (step : Step) (found : Option (Found × Trigger)),
      (∀ f ∈ found, s.trigger? f.1.id = some f.2) → step.matched = found.map (·.2.pattern) →
        I t → I ((Resolve.record step (found.map (·.1.id))).run t).2) :
    Elementary (fun t₁ t₂ => t₁ = t₂ ∧ I t₁) s order a where
  toPassive := .ofRecords hI
  search depth kind data topic message := Talk.respects_iff_keeps.2 fun t ht => by
    refine hrecord t _ _ (fun f hf => ?_) rfl ht
    obtain ⟨f', -, hf'⟩ := Option.bind_eq_some_iff.1 hf
    obtain ⟨g, hg, rfl⟩ := Option.map_eq_some_iff.1 hf'
    exact hg

/-- The elementary computations of an answer keep the records in agreement with the steps. -/
theorem Elementary.booked : Elementary (fun t₁ t₂ => t₁ = t₂ ∧ t₁.Booked s) s order a := by
  refine .ofRecords (fun t u hs hl hi ht h => ?_) fun t step found hfound hmatched h => ?_
  · rw [Turn.Booked, hs, hl, hi, ht]
    exact h
  · refine h.record step _ ?_
    rw [hmatched]
    cases found with
    | none => rfl
    | some f => simp [hfound f rfl]

/-- They keep a step of depth zero. -/
theorem Elementary.hasTop : Elementary (fun t₁ t₂ => t₁ = t₂ ∧ t₁.HasTop) s order a := by
  refine .ofRecords (fun t u hs _ _ _ h => ?_) fun t step found _ _ h => ?_
  · rw [Turn.HasTop, hs]
    exact h
  · obtain ⟨top, htop, hdepth⟩ := h
    exact ⟨top, List.mem_append_left _ htop, hdepth⟩

/-! ## The first step -/

theorem Resolve.steps_leaveUnknownTopic :
    ((leaveUnknownTopic s a.user).run t).2.steps = t.steps := by
  rw [leaveUnknownTopic_run]
  split <;> rfl

/-- A search of depth zero is recorded as one. -/
theorem Resolve.hasTop_search (kind : StepKind) (data : UserData) (topic : String)
    (message : Text) : ((search s order 0 kind data topic message).run t).2.HasTop :=
  ⟨_, List.mem_append_right _ (List.mem_singleton_self _), rfl⟩

/-- At depth zero a search is recorded, unless there is no topic to search. -/
theorem resolve_top (levels : Nat) (kind : StepKind) (message : Text) :
    ((resolve s order a (levels + 1) 0 kind message).run t).2.HasTop ∨
      ((resolve s order a (levels + 1) 0 kind message).run t).2.steps = t.steps ∧
        ∃ data, s.topics.contains (Resolve.searchedTopic kind data) = false := by
  rw [resolve_succ, Talk.run_bind]
  split
  · rename_i hmissing
    exact .inr ⟨Resolve.steps_leaveUnknownTopic, _, by simpa using hmissing⟩
  · left
    rw [Talk.run_bind]
    have hkept : Elementary (fun t₁ t₂ => t₁ = t₂ ∧ t₁.HasTop) s order a := .hasTop
    have hrespond := hkept.respond (hkept.resolve levels) 0 kind
    exact Talk.respects_iff_keeps.1 (hrespond _) _ (Resolve.hasTop_search _ _ _ _)

/-- If a step is recorded for an answer, one of depth zero is. -/
theorem answer_top (message : Text) (ht : t.steps = []) :
    ((answer s order a message).run t).2.steps = [] ∨
      ((answer s order a message).run t).2.HasTop := by
  have hkept : Elementary (fun t₁ t₂ => t₁ = t₂ ∧ t₁.HasTop) s order a := .hasTop
  have hnormal := hkept.resolve (s.depth + 1) 0 .normal message
  rw [answer]
  split
  · -- the opening search is the first step
    rename_i hbegin
    right
    rw [Talk.run_bind]
    rcases @resolve_top s order a t s.depth .opening "request".toList with hopening | ⟨-, _, hno⟩
    · have hrest (opening : Text) := (hnormal.fill opening).bind fun text =>
        hkept.expand (fun _ => hkept.resolve s.depth 1 .normal _) [] [] text
      exact Talk.respects_iff_keeps.1 (hrest _) _ hopening
    · rw [Resolve.searchedTopic, hbegin] at hno
      cases hno
  · rcases @resolve_top s order a t s.depth .normal message with htop | ⟨hsteps, -⟩
    · exact .inr htop
    · exact .inl (hsteps.trans ht)

/-! ## Stores that keep data -/

/-- A store that keeps data. -/
def SessionStore.IsMemory : SessionStore → Prop
  | memory _ _ => True
  | forgetful => False

namespace SessionStore

variable {store : SessionStore} (h : store.IsMemory) (user : String)

include h

theorem isMemory_set (p : SessionPatch) : (store.set user p).IsMemory := by
  cases store with
  | memory => trivial
  | forgetful => exact h

theorem isMemory_meet : (store.meet user).IsMemory := by
  unfold meet
  split
  · exact h
  · exact isMemory_set h user _

theorem isMemory_reset : (store.reset user).IsMemory := by
  cases store with
  | memory => trivial
  | forgetful => exact h

theorem isMemory_resetAll : store.resetAll.IsMemory := by
  cases store with
  | memory => trivial
  | forgetful => exact h

theorem isMemory_freeze : ((store.freeze user).toOption.getD store).IsMemory := by
  cases store with
  | memory users frozen =>
    rw [freeze]
    cases users.find? user <;> trivial
  | forgetful => exact h

theorem isMemory_thaw (action : ThawAction) :
    ((store.thaw user action).toOption.getD store).IsMemory := by
  cases store with
  | memory users frozen =>
    rw [thaw.eq_def]
    dsimp only
    cases frozen.find? user with
    | none => trivial
    | some data => cases action <;> trivial
  | forgetful => exact h

/-- The data of a user in a store that keeps data, after a patch. -/
theorem data?_set (p : SessionPatch) :
    (store.set user p).data? user = some (((store.data? user).getD {}).apply p) := by
  cases store with
  | memory users frozen => rw [set, data?, Table.find?_insert, if_pos rfl, data?]
  | forgetful => exact absurd h id

end SessionStore

namespace Desk

variable {d : Desk} (h : d.sessions.IsMemory)

include h

theorem isMemory_carryOut (deed : Deed) : (d.carryOut deed).sessions.IsMemory := by
  cases deed with
  | setVariable | setGlobal => exact h
  | setUserVars user => exact SessionStore.isMemory_set h user _
  | clearUser user => exact SessionStore.isMemory_reset h user
  | clearAllUsers => exact SessionStore.isMemory_resetAll h
  | freeze user => exact SessionStore.isMemory_freeze h user
  | thaw user action => exact SessionStore.isMemory_thaw h user action

/-- No macro makes a store forgetful. -/
theorem isMemory_carryOutAll (deeds : List Deed) :
    (d.carryOutAll deeds).sessions.IsMemory := by
  induction deeds generalizing d with
  | nil => exact h
  | cons deed deeds ih => exact ih (isMemory_carryOut h deed)

end Desk

/-- The elementary computations of an answer do not make a store forgetful. -/
theorem Elementary.isMemory :
    Elementary (fun t₁ t₂ => t₁ = t₂ ∧ t₁.sessions.IsMemory) s order a where
  data? := Talk.respects_iff_keeps.2 fun _ ht => ht
  setVar _ _ := Talk.respects_iff_keeps.2 fun _ ht => SessionStore.isMemory_set ht _ _
  roll _ := Talk.respects_iff_keeps.2 fun _ ht => ht
  bot _ := Talk.respects_iff_keeps.2 fun _ ht => ht
  env _ := Talk.respects_iff_keeps.2 fun _ ht => ht
  run name args := Talk.respects_iff_keeps.2 fun t ht => by
    unfold Call.run
    split
    · exact ht
    · split
      · exact ht
      · exact Desk.isMemory_carryOutAll ht _
  search _ _ _ _ _ := Talk.respects_iff_keeps.2 fun _ ht => ht
  keepStars _ _ _ := Talk.respects_iff_keeps.2 fun _ ht => ht

/-! ## Replies -/

/-- The match records of a reply agree with its steps, of which one has depth zero if there are
any. -/
structure Reply.Booked (s : Script) (r : Reply) : Prop where
  agree : Repartee.Booked s r.steps r.lastMatch r.initialMatch r.triggers
  top : r.steps ≠ [] → ∃ step ∈ r.steps, step.depth = 0

namespace Brain

variable {b : Brain}

/-- A user is left with the match records of a turn. -/
theorem records_conclude (user : String) {t : Turn} (ht : t.sessions.IsMemory)
    (message text : String) :
    (b.conclude user t message text).2.lastMatch user = t.lastMatch ∧
      (b.conclude user t message text).2.initialMatch user = t.initialMatch ∧
        (b.conclude user t message text).2.lastTriggers user = t.triggers := by
  have hdata : (b.conclude user t message text).2.sessions.data? user = _ :=
    SessionStore.data?_set ht user _
  rw [lastMatch, initialMatch, lastTriggers, hdata]
  exact ⟨rfl, rfl, rfl⟩

/-- **The match records of a reply agree with its steps, and where data is kept they are those that
the user is left with.** -/
theorem reply_booked (ho : b.script.order = some order) (user message : String)
    (scope : Option Scope) : ∃ r b', b.reply user message scope = (.ok r, b') ∧
      r.Booked b.script ∧
        (∀ users frozen, b.sessions = .memory users frozen → b'.lastMatch user = r.lastMatch ∧
          b'.initialMatch user = r.initialMatch ∧ b'.lastTriggers user = r.triggers) := by
  have hempty : (b.turn user).Booked b.script :=
    ⟨rfl, fun _ => ⟨rfl, rfl⟩, fun ⟨_, hstep, _⟩ => absurd hstep List.not_mem_nil⟩
  have hbooked := Talk.respects_iff_keeps.1
    ((@Elementary.booked b.script order ⟨user, scope⟩).answer
      (b.script.normalize false message.toList)) (b.turn user) hempty
  have htop := @answer_top b.script order ⟨user, scope⟩ (b.turn user)
    (b.script.normalize false message.toList) rfl
  have hmemory := Talk.respects_iff_keeps.1
    ((@Elementary.isMemory b.script order ⟨user, scope⟩).answer
      (b.script.normalize false message.toList)) (b.turn user)
  simp only [reply, ho]
  generalize (answer b.script order ⟨user, scope⟩ (b.script.normalize false message.toList)).run
    (b.turn user) = run at hbooked htop hmemory ⊢
  obtain ⟨text, t⟩ := run
  refine ⟨_, _, rfl, ⟨hbooked, htop.resolve_left⟩, fun users frozen hsessions => ?_⟩
  have hmet : (b.turn user).sessions.IsMemory := by
    refine SessionStore.isMemory_meet ?_ user
    rw [hsessions]
    trivial
  exact records_conclude user (hmemory hmet) _ _

/-- A bot that answers a greeting with a redirect into another topic. -/
def switchboard : Brain :=
  ((Brain.new {} .new).load
    { topics := [
        { name := "random"
          triggers := [{ pattern := "hi", replies := ["\x7btopic=end\x7dhi and \x7b@bye\x7d"] }] },
        { name := "end", triggers := [{ pattern := "bye", replies := ["bye"] }] }] }).2.sort

/-- A greeting is matched twice, and the user is left with the records of the reply. -/
theorem switchboard_reply_booked : (∃ order, switchboard.script.order = some order) ∧
    switchboard.sessions = .memory ∅ ∅ ∧ ∃ r b', switchboard.reply "ann" "hi" = (.ok r, b') ∧
      r.steps.map (·.matched) = [some "hi", some "bye"] ∧ r.Booked switchboard.script ∧
        b'.lastMatch "ann" = r.lastMatch ∧ b'.initialMatch "ann" = r.initialMatch ∧
          b'.lastTriggers "ann" = r.triggers := by
  obtain ⟨order, ho⟩ : ∃ order, switchboard.script.order = some order := ⟨_, rfl⟩
  have hmatched : (switchboard.reply "ann" "hi").1.toOption.map (·.steps.map (·.matched)) =
      some [some "hi", some "bye"] := by
    decide +kernel
  obtain ⟨r, b', hr, hbooked, hstored⟩ := reply_booked ho "ann" "hi" none
  rw [hr] at hmatched
  exact ⟨⟨order, ho⟩, rfl, r, b', hr, Option.some_inj.1 hmatched, hbooked, hstored ∅ ∅ rfl⟩

end Brain

end Repartee

import Repartee.Proofs.Brain.Bookkeeping
import Repartee.Proofs.Brain.Fresh
import Repartee.Proofs.Topic.Growth

/-!
# Identifiers of triggers stay valid

What a user matched is stored as identifiers of triggers, and copied when the user is frozen.
Topics only grow, so that an identifier stands for the same trigger as long as the bot lives.

* `Cell.Stores`, `Cell.Step.stores`: the identifiers kept of a user, and those a change brings.
* `Elementary.ofSessions`: what changes of the sessions keep, the elementary computations keep.
* `Brain.extends_act`: an action of the host leaves every identifier its trigger.
* `Brain.Recorded`: a reply of a run stored an identifier when its trigger had matched.
* **`Brain.stored_recorded`**: every identifier that is stored was recorded, and those recorded
  stand for the triggers that matched then.
-/

namespace Repartee

/-! ## What is stored of a user -/

namespace Cell

/-- An identifier is stored in the data of a user or in the frozen copy. -/
def Stores (c : Cell) (id : TriggerId) : Prop :=
  ∃ u : UserData, (c.data = some u ∨ c.snapshot = some u) ∧ id ∈ u.lastTriggers

end Cell

/-- A command stores an identifier. -/
def Command.Brings (id : TriggerId) : Command → Prop
  | .set p => ∃ ids ∈ p.lastTriggers, id ∈ ids
  | .reset | .freeze | .thaw _ => False

/-- What is stored after a command was stored before, or the command brings it. -/
theorem Cell.Step.stores {user : String} {id : TriggerId} {c c' : Cell} {command : Command}
    {e : Option StoreError} (h : Cell.Step user c command e c') (hid : c'.Stores id) :
    c.Stores id ∨ command.Brings id := by
  obtain ⟨u, hu, hid⟩ := hid
  cases h with
  | @set data snapshot p new hmerges =>
    rcases hu with hu | hu
    · obtain rfl := Option.some_inj.1 hu
      rw [hmerges.lastTriggers] at hid
      cases hp : p.lastTriggers with
      | some ids =>
        rw [hp] at hid
        exact .inr ⟨ids, hp, hid⟩
      | none =>
        rw [hp] at hid
        cases data with
        | some data => exact .inl ⟨data, .inl rfl, hid⟩
        | none => exact absurd hid List.not_mem_nil
    · exact .inl ⟨u, .inr hu, hid⟩
  | reset => rcases hu with hu | hu <;> cases hu
  | freeze => exact .inl ⟨u, .inl (hu.elim (fun h => h) fun h => h), hid⟩
  | unknown | notFrozen => exact .inl ⟨u, hu, hid⟩
  | thaw | discard | keep =>
    rcases hu with hu | hu
    · exact .inl ⟨u, by simp_all, hid⟩
    · exact .inl ⟨u, by simp_all, hid⟩

namespace SessionStore

/-- A change stores an identifier for a user. -/
def Change.Brings (user : String) (id : TriggerId) (c : Change) : Prop :=
  ∃ command ∈ c.command? user, command.Brings id

/-- A change stores no identifiers. -/
def Change.Silent (c : Change) : Prop := ∀ user id, ¬c.Brings user id

/-- What is stored of every user has a property. -/
def Holds (P : String → TriggerId → Prop) (s : SessionStore) : Prop :=
  ∀ user id, (s.cell user).Stores id → P user id

variable {P Q : String → TriggerId → Prop} {s : SessionStore}

theorem holds_new : new.Holds P := by
  rintro user id ⟨u, hu, -⟩
  rcases hu with hu | hu <;> cases hu

theorem Holds.mono (h : s.Holds P) (hPQ : ∀ user id, P user id → Q user id) : s.Holds Q :=
  fun user id hid => hPQ user id (h user id hid)

/-- A change stores what was stored and what it brings. -/
theorem Holds.perform (h : s.Holds P) {c : Change} (hc : ∀ user id, c.Brings user id → P user id) :
    (s.perform c).2.Holds P := by
  intro user id hid
  cases s with
  | forgetful =>
    have hforget : ((forgetful.perform c).2).cell user = ⟨none, none⟩ := by
      cases c with
      | resetAll => rfl
      | of u c => cases c <;> rfl
    rw [hforget] at hid
    obtain ⟨u, hu, -⟩ := hid
    rcases hu with hu | hu <;> cases hu
  | memory users frozen =>
    cases hcommand : c.command? user with
    | none =>
      rw [cell_perform hcommand] at hid
      exact h user id hid
    | some command =>
      rcases (step_perform hcommand).stores hid with hold | hnew
      · exact h user id hold
      · exact hc user id ⟨command, hcommand, hnew⟩

/-- A patch of a user brings the identifiers it mentions. -/
theorem brings_set {user u : String} {id : TriggerId} {p : SessionPatch} :
    (Change.of u (.set p)).Brings user id ↔ u = user ∧ ∃ ids ∈ p.lastTriggers, id ∈ ids := by
  rw [Change.Brings, Change.command?]
  by_cases hu : u = user
  · simp [hu, Command.Brings]
  · simp [hu]

theorem silent_set {u : String} {p : SessionPatch} (h : p.lastTriggers = none) :
    (Change.of u (.set p)).Silent := by
  intro user id hid
  obtain ⟨-, ids, hids, -⟩ := brings_set.1 hid
  rw [h] at hids
  cases hids

/-- All changes but patches are silent. -/
theorem Change.silent_of_not_set {c : Change} (h : ∀ user p, c ≠ .of user (.set p)) : c.Silent := by
  rintro user id ⟨command, hcommand, hid⟩
  cases command with
  | reset | freeze | thaw => exact hid
  | set p =>
    cases c with
    | resetAll => cases hcommand
    | of u c =>
      obtain ⟨-, hc⟩ := Option.ite_none_right_eq_some.1 hcommand
      obtain rfl := Option.some_inj.1 hc
      exact h u p rfl

/-- Meeting a user is a silent change, or none. -/
theorem meet_eq (s : SessionStore) (user : String) :
    s.meet user = s ∨ ∃ c : Change, c.Silent ∧ s.meet user = (s.perform c).2 := by
  rw [meet]
  cases s.data? user with
  | some data => exact .inl rfl
  | none => exact .inr ⟨.of user (.set (.setting "topic" defaultTopic)), silent_set rfl, rfl⟩

end SessionStore

/-! ## What an answer stores -/

open SessionStore (Change)

/-- The change of the sessions that a macro asks for. -/
def Deed.change? : Deed → Option Change
  | setVariable _ _ | setGlobal _ _ => none
  | setUserVars user values => some (.of user (.set (.settingAll values)))
  | clearUser user => some (.of user .reset)
  | clearAllUsers => some .resetAll
  | freeze user => some (.of user .freeze)
  | thaw user action => some (.of user (.thaw action))

namespace Deed

/-- No macro asks for a change that stores identifiers. -/
theorem silent_change {deed : Deed} {c : Change} (h : deed.change? = some c) : c.Silent := by
  cases deed with
  | setVariable | setGlobal => cases h
  | setUserVars =>
    obtain rfl := Option.some_inj.1 h
    exact SessionStore.silent_set rfl
  | clearUser | clearAllUsers | freeze | thaw =>
    obtain rfl := Option.some_inj.1 h
    exact SessionStore.Change.silent_of_not_set (by simp)

/-- The sessions after a change are those after the change of the sessions. -/
theorem sessions_carryOut (d : Desk) (deed : Deed) :
    (d.carryOut deed).sessions =
      (deed.change?.map fun c => (d.sessions.perform c).2).getD d.sessions := by
  cases deed with
  | setVariable | setGlobal | setUserVars | clearUser | clearAllUsers => rfl
  | freeze user =>
    change (d.sessions.freeze user).toOption.getD d.sessions =
      (d.sessions.settle (d.sessions.freeze user)).2
    cases d.sessions.freeze user <;> rfl
  | thaw user action =>
    change (d.sessions.thaw user action).toOption.getD d.sessions =
      (d.sessions.settle (d.sessions.thaw user action)).2
    cases d.sessions.thaw user action <;> rfl

end Deed

section

variable {I : SessionStore → Prop} (hI : ∀ (s : SessionStore) (c : Change), c.Silent → I s →
  I (s.perform c).2) {s : Script} {order : TrialOrder} {a : Speaker}

include hI

/-- What silent changes keep, the changes that macros ask for keep. -/
theorem Desk.sessions_carryOutAll (deeds : List Deed) {d : Desk} (h : I d.sessions) :
    I (d.carryOutAll deeds).sessions := by
  induction deeds generalizing d with
  | nil => exact h
  | cons deed deeds ih =>
    refine ih ?_
    rw [Deed.sessions_carryOut]
    cases hc : deed.change? with
    | none => exact h
    | some c => exact hI _ c (Deed.silent_change hc) h

/-- What silent changes of the sessions keep, the elementary computations keep. -/
theorem Elementary.ofSessions :
    Elementary (fun t₁ t₂ => t₁ = t₂ ∧ I t₁.sessions) s order a where
  data? := Talk.respects_iff_keeps.2 fun _ ht => ht
  setVar name value := Talk.respects_iff_keeps.2 fun t ht =>
    hI t.sessions (.of a.user (.set (.setting (String.ofList name) (String.ofList value))))
      (SessionStore.silent_set rfl) ht
  roll _ := Talk.respects_iff_keeps.2 fun _ ht => ht
  bot _ := Talk.respects_iff_keeps.2 fun _ ht => ht
  env _ := Talk.respects_iff_keeps.2 fun _ ht => ht
  run name args := Talk.respects_iff_keeps.2 fun t ht => by
    unfold Call.run
    split
    · exact ht
    · split
      · exact ht
      · exact @Desk.sessions_carryOutAll I hI _ t.toDesk ht
  search _ _ _ _ _ := Talk.respects_iff_keeps.2 fun _ ht => ht
  keepStars _ _ _ := Talk.respects_iff_keeps.2 fun _ ht => ht

end

/-- The triggers of a turn are triggers of the script, and matched in one of its steps. -/
def Turn.Matched (s : Script) (t : Turn) : Prop :=
  ∀ id ∈ t.triggers, ∃ g, s.trigger? id = some g ∧ ∃ step ∈ t.steps, step.matched = some g.pattern

/-- The elementary computations keep the triggers matched. -/
theorem Elementary.matched {s : Script} {order : TrialOrder} {a : Speaker} :
    Elementary (fun t₁ t₂ => t₁ = t₂ ∧ t₁.Matched s) s order a := by
  refine .ofRecords (fun t u hs _ _ ht h => ?_) fun t step found hfound hmatched h => ?_
  · rw [Turn.Matched, hs, ht]
    exact h
  · intro id hid
    rw [Resolve.triggers_record] at hid
    rw [Resolve.steps_record]
    rcases List.mem_append.1 hid with hid | hid
    · have hold : id ∈ t.triggers := by
        split at hid
        · cases hid
        · exact hid
      obtain ⟨g, hg, old, hmem, hold⟩ := h id hold
      exact ⟨g, hg, old, List.mem_append_left _ hmem, hold⟩
    · obtain ⟨f, hf, rfl⟩ := Option.map_eq_some_iff.1 (Option.mem_toList.1 hid)
      refine ⟨f.2, hfound f hf, step, List.mem_append_right _ (List.mem_singleton_self _), ?_⟩
      rw [hmatched, hf]
      rfl

/-! ## What a host does -/

/-- Handing macros to their handlers leaves the topics alone. -/
theorem Script.topics_loadObjects : ∀ (os : List ObjectMacro) (s : Script),
    (s.loadObjects os).2.topics = s.topics
  | [], _ => rfl
  | o :: os, s => by
    rw [loadObjects]
    cases s.handlers.find? o.language with
    | none => exact topics_loadObjects os s
    | some handler =>
      dsimp only
      cases handler.load o.name o.code with
      | ok handler => exact topics_loadObjects os _
      | error e =>
        dsimp only
        split
        · rfl
        · exact topics_loadObjects os s

namespace Brain

/-- An action that does not write the identifiers of a user from outside. -/
def Action.LeavesRecords : Action → Prop
  | changeSessions c => c.Silent
  | _ => True

theorem extends_load (b : Brain) (d : Document) :
    b.script.topics.Extends (b.load d).2.script.topics := by
  rw [load]
  split
  · exact .refl _
  · have htopics := Script.topics_loadObjects d.objects b.script
    split
    · rename_i heq
      rw [heq] at htopics
      rw [show _ = b.script.topics from htopics]
      exact .refl _
    · rename_i heq
      rw [heq] at htopics
      rw [← show _ = b.script.topics from htopics]
      exact Topics.extends_addTopics d.topics _

/-- An action leaves every identifier its trigger. -/
theorem extends_act (b : Brain) (x : Action) : b.script.topics.Extends (b.act x).script.topics := by
  cases x with
  | load d => exact b.extends_load d
  | loadJson text =>
    rw [act, loadJson]
    cases Document.read? text with
    | none => exact .refl _
    | some d => exact b.extends_load d
  | reply user message scope =>
    rw [act, reply_script]
    exact .refl _
  | sort | setHandler | setSubroutine | setVariable | setGlobal | setSubstitution | setPerson
  | setArray | changeSessions => exact .refl _

/-- Actions leave every identifier its trigger. -/
theorem extends_actAll (xs : List Action) : ∀ b : Brain,
    b.script.topics.Extends (b.actAll xs).script.topics := by
  induction xs with
  | nil => exact fun b => .refl _
  | cons x xs ih => exact fun b => (b.extends_act x).trans (ih (b.act x))

/-! ## Recorded identifiers -/

/-- An action is a reply to the user that stores an identifier, whose trigger matched in one of its
steps. -/
def Records (b : Brain) (x : Action) (user : String) (id : TriggerId) (g : Trigger) : Prop :=
  ∃ message scope r b', x = .reply user message scope ∧ b.reply user message scope = (.ok r, b') ∧
    id ∈ r.triggers ∧ b.script.trigger? id = some g ∧
      ∃ step ∈ r.steps, step.matched = some g.pattern

/-- One of some actions stores an identifier for the user when its trigger has matched. -/
inductive Recorded (user : String) (id : TriggerId) (g : Trigger) : Brain → List Action → Prop
  | now {b : Brain} {x : Action} {xs : List Action} :
    b.Records x user id g → Recorded user id g b (x :: xs)
  | later {b : Brain} {x : Action} {xs : List Action} :
    Recorded user id g (b.act x) xs → Recorded user id g b (x :: xs)

variable {b : Brain} {P : String → TriggerId → Prop}

/-- After a reply there is stored what was stored before and what the reply records. -/
theorem holds_reply (h : b.sessions.Holds P) (user message : String) (scope : Option Scope) :
    (b.reply user message scope).2.sessions.Holds fun u id =>
      P u id ∨ ∃ g, b.Records (.reply user message scope) u id g := by
  obtain ⟨result, hreply⟩ : ∃ result, b.reply user message scope = result := ⟨_, rfl⟩
  have hr := hreply
  rw [reply] at hr
  cases ho : b.script.order with
  | none =>
    rw [ho] at hr
    rw [hreply, ← hr]
    exact h.mono fun u id hid => .inl hid
  | some order =>
    rw [ho] at hr
    have hkept (s : SessionStore) (c : Change) (hc : c.Silent) (hs : s.Holds P) :
        (s.perform c).2.Holds P :=
      hs.perform fun u id hid => absurd hid (hc u id)
    have hmet : (b.turn user).sessions.Holds P := by
      rcases b.sessions.meet_eq user with hmeet | ⟨c, hc, hmeet⟩
      · rwa [turn, hmeet]
      · rw [turn, hmeet]
        exact hkept _ c hc h
    have hsessions := Talk.respects_iff_keeps.1
      ((@Elementary.ofSessions _ hkept b.script order ⟨user, scope⟩).answer
        (b.script.normalize false message.toList)) (b.turn user) hmet
    have hmatched := Talk.respects_iff_keeps.1
      ((@Elementary.matched b.script order ⟨user, scope⟩).answer
        (b.script.normalize false message.toList)) (b.turn user)
        fun id hid => absurd hid List.not_mem_nil
    dsimp only at hr
    generalize (answer b.script order ⟨user, scope⟩ (b.script.normalize false message.toList)).run
      (b.turn user) = run at hr hsessions hmatched
    obtain ⟨text, t⟩ := run
    rw [hreply, ← hr]
    have hstored := (hsessions.mono fun u id hid => (Or.inl hid :
      P u id ∨ ∃ g, b.Records (.reply user message scope) u id g))
    -- the last change of a reply stores the triggers of the turn
    refine hstored.perform (c := .of user (.set _)) fun u id hid => .inr ?_
    obtain ⟨rfl, ids, hids, hid⟩ := SessionStore.brings_set.1 hid
    obtain rfl := Option.some_inj.1 hids
    obtain ⟨g, hg, hstep⟩ := hmatched id hid
    exact ⟨g, message, scope, _, _, rfl, hreply.trans hr.symm, hid, hg, hstep⟩

/-- After an action there is stored what was stored before and what the action records. -/
theorem holds_act (h : b.sessions.Holds P) {x : Action} (hx : x.LeavesRecords) :
    (b.act x).sessions.Holds fun u id => P u id ∨ ∃ g, b.Records x u id g := by
  have hsame := h.mono fun u id hid =>
    (Or.inl hid : P u id ∨ ∃ g, b.Records x u id g)
  have hload (d : Document) : (b.load d).2.sessions = b.sessions := by
    rw [load]
    split
    · rfl
    · split <;> rfl
  cases x with
  | load d => rwa [act, hload]
  | loadJson text =>
    rw [act, loadJson]
    cases Document.read? text with
    | none => exact hsame
    | some d => exact hload d ▸ hsame
  | reply user message scope => exact holds_reply h user message scope
  | changeSessions c => exact hsame.perform fun u id hid => absurd hid (hx u id)
  | sort | setHandler | setSubroutine | setVariable | setGlobal | setSubstitution | setPerson
  | setArray => exact hsame

/-- After some actions there is stored what was stored before and what the actions record. -/
theorem holds_actAll : ∀ (xs : List Action) {b : Brain} {P : String → TriggerId → Prop},
    b.sessions.Holds P → (∀ x ∈ xs, x.LeavesRecords) →
      (b.actAll xs).sessions.Holds fun user id => P user id ∨ ∃ g, Recorded user id g b xs
  | [], _, _, h, _ => h.mono fun _ _ => .inl
  | x :: xs, b, P, h, hxs => by
    have hact := holds_act h (hxs x List.mem_cons_self)
    have hrest := holds_actAll xs hact fun y hy => hxs y (List.mem_cons_of_mem x hy)
    refine hrest.mono fun user id hid => ?_
    rcases hid with (hold | ⟨g, hnow⟩) | ⟨g, hlater⟩
    · exact .inl hold
    · exact .inr ⟨g, .now hnow⟩
    · exact .inr ⟨g, .later hlater⟩

/-- A recorded identifier stands for the trigger that matched then. -/
theorem Recorded.trigger {user : String} {id : TriggerId} {g : Trigger} {xs : List Action}
    (h : Recorded user id g b xs) : (b.actAll xs).script.trigger? id = some g := by
  induction h with
  | @now b x xs h =>
    obtain ⟨-, -, -, -, -, -, -, hg, -⟩ := h
    exact b.extends_actAll (x :: xs) id g hg
  | later _ ih => exact ih

/-- The identifiers that a host reads are stored. -/
theorem stores_of_mem_lastTriggers {user : String} {id : TriggerId}
    (h : id ∈ b.lastTriggers user) : (b.sessions.cell user).Stores id := by
  rw [lastTriggers] at h
  cases hs : b.sessions with
  | forgetful =>
    rw [hs] at h
    cases h
  | memory users frozen =>
    rw [hs, SessionStore.data?] at h
    cases hu : users.find? user with
    | none =>
      rw [hu] at h
      cases h
    | some u =>
      rw [hu] at h
      exact ⟨u, .inl hu, h⟩

/-- **What is stored of the users of a new bot after some actions, in their data or in a frozen
copy, was recorded by a reply to the user; and a recorded identifier stands for the very trigger
that matched then, whatever was loaded since.** -/
theorem stored_recorded (options : Options) (host : Host) {xs : List Action}
    (hxs : ∀ x ∈ xs, x.LeavesRecords) :
    (∀ user id, (((new options .new host).actAll xs).sessions.cell user).Stores id →
      ∃ g, Recorded user id g (new options .new host) xs ∧
        ((new options .new host).actAll xs).script.trigger? id = some g) ∧
    ∀ user id g, Recorded user id g (new options .new host) xs →
      ((new options .new host).actAll xs).script.trigger? id = some g := by
  refine ⟨fun user id hid => ?_, fun user id g h => h.trigger⟩
  have hnew : (new options .new host).sessions.Holds fun _ _ => False := SessionStore.holds_new
  obtain ⟨g, hg⟩ := (holds_actAll xs hnew hxs user id hid).resolve_left not_false
  exact ⟨g, hg, hg.trigger⟩

/-- A user is greeted and frozen, the topic grows, and the user is thawed. -/
def thawedGreeting : List Action :=
  [.load (Document.listing
      [{ name := "random", triggers := [{ pattern := "hi", replies := ["hello"] }] }]),
    .sort,
    .reply "ann" "hi" none,
    .changeSessions (.of "ann" .freeze),
    .load (Document.listing
      [{ name := "random", triggers := [{ pattern := "hi bot", replies := ["hi ann"] }] }]),
    .sort,
    .changeSessions (.of "ann" (.thaw .thaw))]

/-- The user has the identifier of the greeting, which is still that of its trigger. -/
theorem thawedGreeting_recorded : (∀ x ∈ thawedGreeting, x.LeavesRecords) ∧
    ((new {} .new).actAll thawedGreeting).lastTriggers "ann" = [⟨"random", 0⟩] ∧
      ∃ g, Recorded "ann" ⟨"random", 0⟩ g (new {} .new) thawedGreeting ∧
        ((new {} .new).actAll thawedGreeting).script.trigger? ⟨"random", 0⟩ = some g := by
  have hleaves : ∀ x ∈ thawedGreeting, x.LeavesRecords := by
    simp only [thawedGreeting, List.forall_mem_cons]
    refine ⟨trivial, trivial, trivial, ?_, trivial, trivial, ?_, by simp⟩
    · exact SessionStore.Change.silent_of_not_set (by simp)
    · exact SessionStore.Change.silent_of_not_set (by simp)
  have hlast : ((new {} .new).actAll thawedGreeting).lastTriggers "ann" = [⟨"random", 0⟩] := by
    decide +kernel
  have hstores := stores_of_mem_lastTriggers (hlast ▸ List.mem_singleton_self _)
  exact ⟨hleaves, hlast, (stored_recorded {} {} hleaves).1 "ann" _ hstores⟩

end Brain

end Repartee

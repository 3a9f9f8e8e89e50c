import Repartee.Proofs.Macro.Confined
import Repartee.Proofs.Reply.Respects

/-!
# Users do not see each other

* `Alike`: two turns that differ in the sessions of other users only, these being as they were.
* **`Brain.reply_private`**: a reply depends on the session of its user only, and changes no other.
-/

namespace Repartee

/-! ## Turns that are alike to a user -/

/-- The data of users as they were, for all but one user. -/
def Untouched (user : String) (before after : Table UserData) : Prop :=
  ∀ v, v ≠ user → after.find? v = before.find? v

/-- Two turns that differ in the sessions of other users only; these, and the frozen copies, are as
they were in two stores. -/
inductive Alike (user : String) (users₁ frozen₁ users₂ frozen₂ : Table UserData) :
    Turn → Turn → Prop
  | intro (t : Turn) (now₁ now₂ : Table UserData) (same : now₁.find? user = now₂.find? user)
    (kept₁ : Untouched user users₁ now₁) (kept₂ : Untouched user users₂ now₂) :
    Alike user users₁ frozen₁ users₂ frozen₂
      { t with sessions := .memory now₁ frozen₁ } { t with sessions := .memory now₂ frozen₂ }

variable {user : String} {users₁ frozen₁ users₂ frozen₂ : Table UserData}

theorem Untouched.insert {before after : Table UserData} (h : Untouched user before after)
    (data : UserData) : Untouched user before (after.insert user data) := by
  intro v hv
  rw [Table.find?_insert, if_neg hv, h v hv]

namespace Alike

/-- Setting variables of the user keeps turns alike. -/
theorem set {t : Turn} {now₁ now₂ : Table UserData} (same : now₁.find? user = now₂.find? user)
    (kept₁ : Untouched user users₁ now₁) (kept₂ : Untouched user users₂ now₂) (p : SessionPatch) :
    Alike user users₁ frozen₁ users₂ frozen₂
      { t with sessions := (SessionStore.memory now₁ frozen₁).set user p }
      { t with sessions := (SessionStore.memory now₂ frozen₂).set user p } := by
  refine .intro t _ _ ?_ (kept₁.insert _) (kept₂.insert _)
  rw [Table.find?_insert, Table.find?_insert, if_pos rfl, if_pos rfl, same]

/-- Changes of its own that a macro asks for keep turns alike. -/
theorem carryOutAll : ∀ {deeds : List Deed}, (∀ deed ∈ deeds, deed.IsOwn user) →
    ∀ {t₁ t₂ : Turn}, Alike user users₁ frozen₁ users₂ frozen₂ t₁ t₂ →
      Alike user users₁ frozen₁ users₂ frozen₂ { t₁ with toDesk := t₁.carryOutAll deeds }
        { t₂ with toDesk := t₂.carryOutAll deeds }
  | [], _, _, _, h => h
  | deed :: deeds, hown, t₁, t₂, h => by
    have hrest := fun d hd => hown d (List.mem_cons_of_mem deed hd)
    have hdeed : Alike user users₁ frozen₁ users₂ frozen₂
        { t₁ with toDesk := t₁.carryOut deed } { t₂ with toDesk := t₂.carryOut deed } := by
      have hd := hown deed List.mem_cons_self
      obtain ⟨t, now₁, now₂, same, kept₁, kept₂⟩ := h
      cases deed with
      | setVariable name value =>
        exact .intro { t with vars := t.vars.assign name value } _ _ same kept₁ kept₂
      | setGlobal name value =>
        exact .intro { t with globals := t.globals.assign name value } _ _ same kept₁ kept₂
      | setUserVars u values =>
        obtain rfl : u = user := hd
        exact Alike.set same kept₁ kept₂ _
      | clearUser | clearAllUsers | freeze | thaw => exact absurd hd id
    exact carryOutAll hrest hdeed

/-- So does a call that asks for such changes. -/
theorem afterCall {deeds : List Deed} (hown : ∀ deed ∈ deeds, deed.IsOwn user) {t₁ t₂ : Turn}
    (h : Alike user users₁ frozen₁ users₂ frozen₂ t₁ t₂) :
    Alike user users₁ frozen₁ users₂ frozen₂ { t₁ with toDesk := t₁.afterCall deeds }
      { t₂ with toDesk := t₂.afterCall deeds } := by
  have hcount {u₁ u₂ : Turn} (h : Alike user users₁ frozen₁ users₂ frozen₂ u₁ u₂) (n : Nat) :
      Alike user users₁ frozen₁ users₂ frozen₂ { u₁ with calls := n } { u₂ with calls := n } := by
    obtain ⟨u, now₁, now₂, same, kept₁, kept₂⟩ := h
    exact .intro { u with calls := n } now₁ now₂ same kept₁ kept₂
  have hcalls : t₁.calls = t₂.calls := by
    cases h
    rfl
  have hdone := hcount (carryOutAll hown h) (t₁.calls + 1)
  rw [Desk.afterCall, Desk.afterCall, ← hcalls]
  exact hdone

/-- The elementary computations of an answer keep turns alike. -/
theorem elementary {s : Script} (hs : s.Confined) (order : TrialOrder) (scope : Option Scope) :
    Elementary (Alike user users₁ frozen₁ users₂ frozen₂) s order ⟨user, scope⟩ where
  data? := by
    rintro _ _ ⟨t, now₁, now₂, same, kept₁, kept₂⟩
    exact ⟨same, .intro t now₁ now₂ same kept₁ kept₂⟩
  setVar name value := by
    rintro _ _ ⟨t, now₁, now₂, same, kept₁, kept₂⟩
    exact ⟨rfl, .set same kept₁ kept₂ _⟩
  roll n := by
    rintro _ _ ⟨t, now₁, now₂, same, kept₁, kept₂⟩
    exact ⟨rfl, .intro { t with dice := (t.dice.roll n).2 } now₁ now₂ same kept₁ kept₂⟩
  bot data := by
    rintro _ _ ⟨t, now₁, now₂, same, kept₁, kept₂⟩
    exact ⟨rfl, .intro { t with vars := (Variables.readOrAssign t.vars data).1 } now₁ now₂ same
      kept₁ kept₂⟩
  env data := by
    rintro _ _ ⟨t, now₁, now₂, same, kept₁, kept₂⟩
    exact ⟨rfl, .intro { t with globals := (Variables.readOrAssign t.globals data).1 } now₁ now₂
      same kept₁ kept₂⟩
  run name args := by
    unfold Call.run
    split
    · exact .pure _
    · split
      · exact .pure _
      · rename_i h hh
        intro t₁ t₂ ht
        have hc := hs _ h hh
        have hreads : h.call s.registry ⟨user, name, args, scope⟩ t₁.toDesk =
            h.call s.registry ⟨user, name, args, scope⟩ t₂.toDesk := by
          obtain ⟨t, now₁, now₂, same, -, -⟩ := ht
          exact hc.reads _ _ _ rfl rfl rfl same
        have hwrites := hc.writes ⟨user, name, args, scope⟩ t₂.toDesk
        simp only [modifyGet, MonadStateOf.modifyGet, StateT.modifyGet, StateT.run, pure, hreads,
          true_and]
        exact afterCall hwrites ht
  search depth kind data topic message := by
    rintro _ _ ⟨t, now₁, now₂, same, kept₁, kept₂⟩
    exact ⟨rfl, .intro ((Resolve.search s order depth kind data topic message).run t).2 now₁ now₂
      same kept₁ kept₂⟩
  keepStars depth kind stars := by
    rintro _ _ ⟨t, now₁, now₂, same, kept₁, kept₂⟩
    exact ⟨rfl, .intro ((Resolve.keepStars depth kind stars).run t).2 now₁ now₂ same kept₁ kept₂⟩

end Alike

/-! ## Replies -/

namespace Brain

variable {b : Brain} {order : TrialOrder}

/-- A known user's data after meeting the user; an unknown user is given fresh data. -/
theorem meet_memory (users frozen : Table UserData) (user : String) :
    ∃ now, (SessionStore.memory users frozen).meet user = .memory now frozen ∧
      Untouched user users now ∧
        now.find? user =
          some ((users.find? user).getD (UserData.apply {} (.setting "topic" defaultTopic))) := by
  rw [SessionStore.meet, SessionStore.data?]
  cases h : users.find? user with
  | some data => exact ⟨users, rfl, fun _ _ => rfl, h⟩
  | none =>
    refine ⟨_, rfl, fun v hv => by rw [Table.find?_insert, if_neg hv], ?_⟩
    rw [Table.find?_insert, if_pos rfl, h]
    rfl

/-- What turns that are alike are concluded with. -/
theorem conclude_alike (b : Brain) (t : Turn) (frozen₁ frozen₂ : Table UserData)
    {now₁ now₂ : Table UserData} (same : users₁.find? user = users₂.find? user)
    (hnow : now₁.find? user = now₂.find? user)
    (message text : String) : ∃ r data,
      ({ b with sessions := .memory users₁ frozen₁ }).conclude user
          { t with sessions := .memory now₁ frozen₁ } message text =
        (r, { b with
          vars := t.vars, globals := t.globals, calls := t.calls, dice := t.dice
          sessions := .memory (now₁.insert user data) frozen₁ }) ∧
      ({ b with sessions := .memory users₂ frozen₂ }).conclude user
          { t with sessions := .memory now₂ frozen₂ } message text =
        (r, { b with
          vars := t.vars, globals := t.globals, calls := t.calls, dice := t.dice
          sessions := .memory (now₂.insert user data) frozen₂ }) := by
  refine ⟨_, ((now₁.find? user).getD {}).apply (exchange t (now₁.find? user) message text),
    rfl, ?_⟩
  simp only [conclude, afterTurn, exchange, SessionStore.set, SessionStore.get?, SessionStore.data?,
    Table.find?_insert, same, hnow]

/-- **A reply depends on the session of its user only, and changes no other.** -/
theorem reply_private (hs : b.script.Confined) (ho : b.script.order = some order)
    (same : users₁.find? user = users₂.find? user) (message : String) (scope : Option Scope) :
    ∃ r vars globals calls dice data now₁ now₂,
      ({ b with sessions := .memory users₁ frozen₁ }).reply user message scope =
        (.ok r, { b with vars, globals, calls, dice, sessions := .memory now₁ frozen₁ }) ∧
      ({ b with sessions := .memory users₂ frozen₂ }).reply user message scope =
        (.ok r, { b with vars, globals, calls, dice, sessions := .memory now₂ frozen₂ }) ∧
      now₁.find? user = some data ∧ now₂.find? user = some data ∧
      Untouched user users₁ now₁ ∧ Untouched user users₂ now₂ := by
  obtain ⟨met₁, hmet₁, kept₁, hdata₁⟩ := meet_memory users₁ frozen₁ user
  obtain ⟨met₂, hmet₂, kept₂, hdata₂⟩ := meet_memory users₂ frozen₂ user
  have hmet : met₁.find? user = met₂.find? user := by rw [hdata₁, hdata₂, same]
  have hturns : Alike user users₁ frozen₁ users₂ frozen₂
      (turn { b with sessions := .memory users₁ frozen₁ } user)
      (turn { b with sessions := .memory users₂ frozen₂ } user) := by
    have h : Alike user users₁ frozen₁ users₂ frozen₂
        { b.turn user with sessions := .memory met₁ frozen₁ }
        { b.turn user with sessions := .memory met₂ frozen₂ } :=
      .intro (b.turn user) met₁ met₂ hmet kept₁ kept₂
    rw [← hmet₁, ← hmet₂] at h
    exact h
  have hanswer := (Alike.elementary hs order scope).answer
    (b.script.normalize false message.toList) _ _ hturns
  simp only [reply, ho]
  generalize (answer b.script order ⟨user, scope⟩ (b.script.normalize false message.toList)).run
    (turn { b with sessions := .memory users₁ frozen₁ } user) = run₁ at hanswer ⊢
  generalize (answer b.script order ⟨user, scope⟩ (b.script.normalize false message.toList)).run
    (turn { b with sessions := .memory users₂ frozen₂ } user) = run₂ at hanswer ⊢
  obtain ⟨text, t₁⟩ := run₁
  obtain ⟨_, t₂⟩ := run₂
  obtain ⟨htext, hafter⟩ := hanswer
  cases htext
  obtain ⟨t, now₁, now₂, hnow, kept₁, kept₂⟩ := hafter
  obtain ⟨r, data, h₁, h₂⟩ := conclude_alike b t frozen₁ frozen₂ same hnow
    (String.ofList (b.script.normalize false message.toList)) (String.ofList text)
  have hdata (now : Table UserData) : (now.insert user data).find? user = some data := by
    rw [Table.find?_insert, if_pos rfl]
  exact ⟨r, t.vars, t.globals, t.calls, t.dice, data, _, _,
    congrArg (Prod.map Except.ok id) h₁, congrArg (Prod.map Except.ok id) h₂,
    hdata now₁, hdata now₂, kept₁.insert data, kept₂.insert data⟩

/-- A bot with a macro that keeps what it is told. -/
def keeper : Brain :=
  (((Brain.new {} .new).setHandler "session" (some (.sources .session ∅))).load
    { topics := [{
        name := "random"
        triggers := [{ pattern := "i have a *", replies := ["<call>keep pet <star></call>"] }] }]
      objects := [{ name := "keep", language := "session" }] }).2.sort

theorem keeper_confined : keeper.script.Confined := by
  intro language h hh
  have hhandlers : keeper.script.handlers =
      (((Table.empty.insert nativeLanguage Handler.registered).insert "session"
        (.sources .session ∅)).insert "session"
          (.sources .session (Table.empty.insert "keep" ""))) :=
    rfl
  have hregistry : keeper.script.registry = ∅ := rfl
  rw [hhandlers, Table.find?_insert, Table.find?_insert, Table.find?_insert] at hh
  rw [hregistry]
  split at hh
  · cases hh
    exact SourceLanguage.confined_session _
  · split at hh
    · cases hh
      refine @Routines.confined_call ∅ fun name f hf => ?_
      rw [Table.find?_empty] at hf
      cases hf
    · cases hh

/-- To a new user the bot is the same whether or not it knows somebody else. -/
theorem keeper_private :
    keeper.script.Confined ∧ (∃ order, keeper.script.order = some order) ∧
      (Table.empty.insert "mary" ({} : UserData)).find? "ann" = (∅ : Table UserData).find? "ann" ∧
      ∃ r vars globals calls dice data now₁ now₂,
        ({ keeper with sessions := .memory (Table.empty.insert "mary" {}) ∅ }).reply "ann"
            "I have a cat" none =
          (.ok r, { keeper with vars, globals, calls, dice, sessions := .memory now₁ ∅ }) ∧
        ({ keeper with sessions := .memory ∅ ∅ }).reply "ann" "I have a cat" none =
          (.ok r, { keeper with vars, globals, calls, dice, sessions := .memory now₂ ∅ }) ∧
        now₁.find? "ann" = some data ∧ now₂.find? "ann" = some data ∧
        Untouched "ann" (Table.empty.insert "mary" {}) now₁ ∧ Untouched "ann" ∅ now₂ := by
  have hagree : (Table.empty.insert "mary" ({} : UserData)).find? "ann" =
      (∅ : Table UserData).find? "ann" := by
    rw [Table.find?_insert, if_neg (by decide)]
    rfl
  obtain ⟨order, ho⟩ : ∃ order, keeper.script.order = some order := ⟨_, rfl⟩
  exact ⟨keeper_confined, ⟨order, ho⟩, hagree,
    reply_private keeper_confined ho hagree "I have a cat" none⟩

end Brain

end Repartee

import Repartee.Proofs.Brain.Reachable
import Repartee.Proofs.Reply.Quiet

/-!
# Marks stay inside

The engine marks places in a text with the first four characters. `U+0000` and `U+0001` set tags
aside, `U+0002` and `U+0003` stand around calls and their arguments. Where a bot is fed texts
without them, the first two never get out. The other two get out where a tag stores a text with a
call in it; they do not where calls are not mixed with other tags.

* `Brain.Unmarked`: no variable and no history of a bot has one of the first `n` characters.
* `Brain.Fed`: the bots that are fed texts without them.
* **`Brain.fed_unmarked`**: such a bot is unmarked, and its replies are clear.
* `Brain.storing_leaks`: a user variable with the marks of a call.
-/

namespace Repartee

namespace Brain

variable {n : Nat}

/-! ## Bots -/

/-- The variables of a bot, and those and the histories of its users, are clear. -/
structure Unmarked (n : Nat) (b : Brain) : Prop where
  vars : b.vars.Clear n
  globals : b.globals.Clear n
  sessions : b.sessions.Clear n

/-- The bots that arise from a new one by loads, changes of the host and replies, all with texts
clear of the first `n` characters. Where these are more than the two that set tags aside, no call
is mixed with other tags. -/
inductive Fed (n : Nat) : Brain → Prop
  | new {options : Options} {sessions : SessionStore} (host : Host) :
    options.notices.Clear n → sessions.Clear n → Fed n (.new options sessions host)
  | load {b : Brain} {d : Document} : d.Clear n → Fed n b → Fed n (b.load d).2
  | loadJson {b : Brain} {text : String} :
    (∀ d, Document.read? text = some d → d.Clear n) → Fed n b → Fed n (b.loadJson text).2
  | sort {b : Brain} : Fed n b → Fed n b.sort
  | setHandler {b : Brain} (language : String) {h : Option Handler} :
    (∀ x ∈ h, x.Clear n) → Fed n b → Fed n (b.setHandler language h)
  | setSubroutine {b : Brain} (name : String) {f : Subroutine} :
    f.Clear n → Fed n b → Fed n (b.setSubroutine name f)
  | setVariable {b : Brain} {name : String} {value : Option String} :
    Text.Clear n name.toList → (∀ v ∈ value, Text.Clear n v.toList) → Fed n b →
      Fed n (b.setVariable name value)
  | setGlobal {b : Brain} {name : String} {value : Option String} :
    Text.Clear n name.toList → (∀ v ∈ value, Text.Clear n v.toList) → Fed n b →
      Fed n (b.setGlobal name value)
  | setSubstitution {b : Brain} (phrase : String) {replacement : Option String} :
    (∀ v ∈ replacement, Text.Clear n v.toList) → Fed n b →
      Fed n (b.setSubstitution phrase replacement)
  | setPerson {b : Brain} (phrase : String) {replacement : Option String} :
    (∀ v ∈ replacement, Text.Clear n v.toList) → Fed n b → Fed n (b.setPerson phrase replacement)
  | setArray {b : Brain} (name : String) {items : Option (List String)} :
    (∀ is ∈ items, ∀ i ∈ is, Text.Clear n i.toList) → Fed n b → Fed n (b.setArray name items)
  | patchUser {b : Brain} (user : String) {p : SessionPatch} :
    p.Clear n → Fed n b → Fed n (b.patchUser user p)
  | reset {b : Brain} (user : String) :
    Fed n b → Fed n { b with sessions := b.sessions.reset user }
  | resetAll {b : Brain} : Fed n b → Fed n { b with sessions := b.sessions.resetAll }
  | freeze {b : Brain} {user : String} {sessions : SessionStore} :
    b.sessions.freeze user = .ok sessions → Fed n b → Fed n { b with sessions }
  | thaw {b : Brain} {user : String} {action : ThawAction} {sessions : SessionStore} :
    b.sessions.thaw user action = .ok sessions → Fed n b → Fed n { b with sessions }
  | reply {b : Brain} {user message : String} {scope : Option Scope} :
    Text.Clear n user.toList → Text.Clear n message.toList → (∀ s ∈ scope, s.Clear n) →
      (n ≤ 2 ∨ b.script.Quiet) → Fed n b → Fed n (b.reply user message scope).2

/-! ## Steps -/

theorem clear_load {b : Brain} {d : Document} (hd : d.Clear n) (hs : b.script.Clear n)
    (hb : b.Unmarked n) : (b.load d).2.script.Clear n ∧ (b.load d).2.Unmarked n := by
  unfold load
  dsimp only
  split
  · exact ⟨hs, hb⟩
  · have hobjects := hs.loadObjects d.objects hd.objects
    split
    · rename_i heq
      rw [heq] at hobjects
      exact ⟨hobjects, hb.vars, hb.globals, hb.sessions⟩
    · rename_i heq
      rw [heq] at hobjects
      exact ⟨hobjects.define hd, Script.Clear.defineAll hb.vars hd.var,
        Script.Clear.defineAll hb.globals hd.global, hb.sessions⟩

/-- **A reply to a clear message is clear and leaves the bot unmarked.** -/
theorem clear_reply (hpos : 0 < n) (hn : n ≤ 4) {b : Brain} (hs : b.script.Clear n)
    (hb : b.Unmarked n) {user message : String} {scope : Option Scope}
    (huser : Text.Clear n user.toList) (hmessage : Text.Clear n message.toList)
    (hscope : ∀ s ∈ scope, s.Clear n) (hcalls : n ≤ 2 ∨ b.script.Quiet) :
    (∀ r, (b.reply user message scope).1 = .ok r → Text.Clear n r.text.toList) ∧
      (b.reply user message scope).2.Unmarked n := by
  unfold reply
  split
  · exact ⟨fun _ h => (nomatch h), hb⟩
  · rename_i order _
    have hnormal := hs.normalize hn false hmessage
    have hstart : (b.turn user).Clear n := ⟨hb.vars, hb.globals, hb.sessions.meet hn user⟩
    have hundisturbed : Undisturbed n b.script ⟨user, scope⟩ :=
      ⟨hpos, hn, hs, ⟨huser, hscope⟩, hcalls⟩
    obtain ⟨htext, ht⟩ :=
      @Undisturbed.ensures_answer n b.script order _ hundisturbed _ hnormal _ hstart
    dsimp only
    generalize b.script.normalize false message.toList = normal at hnormal htext ht ⊢
    generalize (answer b.script order ⟨user, scope⟩ normal).run (b.turn user) = out at htext ht ⊢
    obtain ⟨text, t⟩ := out
    have htext : Text.Clear n (String.ofList text).toList := by rwa [String.toList_ofList]
    have hnormal : Text.Clear n (String.ofList normal).toList := by
      rw [String.toList_ofList]
      exact hnormal.clear
    refine ⟨fun r hr => ?_, ht.vars, ht.globals,
      ht.sessions.set hn user ⟨fun _ _ h => (nomatch h), ?_⟩⟩
    · cases hr
      exact htext
    intro h hh
    cases hh
    exact (ht.sessions.getD hn user).history.push hnormal htext

theorem Fed.clear (hpos : 0 < n) (hn : n ≤ 4) {b : Brain} (h : b.Fed n) :
    b.script.Clear n ∧ b.Unmarked n := by
  induction h with
  | new host hnotices hsessions =>
    exact ⟨.new hnotices, Table.clear_empty, Table.clear_empty, hsessions⟩
  | load hd _ ih => exact clear_load hd ih.1 ih.2
  | @loadJson b text hd _ ih =>
    rw [Brain.loadJson]
    cases hread : Document.read? text with
    | none => exact ih
    | some d => exact clear_load (hd d hread) ih.1 ih.2
  | sort _ ih => exact ⟨{ ih.1 with }, { ih.2 with }⟩
  | setHandler language hh _ ih =>
    exact ⟨{ ih.1 with handlers := Table.forall_assign ih.1.handlers hh }, { ih.2 with }⟩
  | setSubroutine name hf _ ih =>
    have hlanguage : Text.Clear n nativeLanguage.toList := Text.clear_of_all hn (by decide)
    exact ⟨{ ih.1 with
      registry := Table.forall_insert ih.1.registry hf
      languages := Table.forall_insert ih.1.languages hlanguage }, { ih.2 with }⟩
  | setVariable hname hvalue _ ih =>
    exact ⟨ih.1, { ih.2 with vars := ih.2.vars.assign hname hvalue }⟩
  | setGlobal hname hvalue _ ih =>
    exact ⟨ih.1, { ih.2 with globals := ih.2.globals.assign hname hvalue }⟩
  | setSubstitution phrase hv _ ih =>
    exact ⟨{ ih.1 with subs := ih.1.subs.assign phrase hv }, { ih.2 with }⟩
  | setPerson phrase hv _ ih =>
    exact ⟨{ ih.1 with person := ih.1.person.assign phrase hv }, { ih.2 with }⟩
  | setArray name hitems _ ih =>
    exact ⟨{ ih.1 with arrays := Table.forall_assign ih.1.arrays hitems }, { ih.2 with }⟩
  | patchUser user hp _ ih => exact ⟨ih.1, { ih.2 with sessions := ih.2.sessions.set hn user hp }⟩
  | reset user _ ih => exact ⟨ih.1, { ih.2 with sessions := ih.2.sessions.reset user }⟩
  | resetAll _ ih => exact ⟨ih.1, { ih.2 with sessions := ih.2.sessions.resetAll }⟩
  | freeze hs _ ih => exact ⟨ih.1, { ih.2 with sessions := ih.2.sessions.freeze hs }⟩
  | thaw hs _ ih => exact ⟨ih.1, { ih.2 with sessions := ih.2.sessions.thaw hs }⟩
  | reply huser hmessage hscope hcalls _ ih =>
    rw [reply_script]
    exact ⟨ih.1, (clear_reply hpos hn ih.1 ih.2 huser hmessage hscope hcalls).2⟩

/-- **A bot that is fed texts clear of the first `n` characters has none of them in its variables,
nor in those and the histories of its users, nor in its replies.** -/
theorem fed_unmarked (hpos : 0 < n) (hn : n ≤ 4) {b : Brain} (h : b.Fed n) :
    b.Unmarked n ∧ ∀ (user message : String) (scope : Option Scope) (r : Reply),
      Text.Clear n user.toList → Text.Clear n message.toList → (∀ s ∈ scope, s.Clear n) →
        (n ≤ 2 ∨ b.script.Quiet) → (b.reply user message scope).1 = .ok r →
          Text.Clear n r.text.toList := by
  obtain ⟨hscript, hunmarked⟩ := h.clear hpos hn
  exact ⟨hunmarked, fun user message scope r huser hmessage hscope hcalls hr =>
    (clear_reply hpos hn hscript hunmarked huser hmessage hscope hcalls).1 r hr⟩

/-! ## A bot with a macro -/

/-- A bot with a constant macro that answers whatever is said with one reply. -/
def herald (reply : String) : Brain :=
  (((Brain.new {} .new).setSubroutine "1" (.const "2")).load
    { topics := [
        { name := "random", triggers := [{ pattern := "*", replies := [reply] }] }] }).2.sort

/-- A bot that stores a call in a variable of the user. -/
def storing : Brain := herald "<set x=<call>1</call>>ok"

/-- A bot that says what a call gives for what was said. -/
def saying : Brain := herald "it is <call>1 <star></call>"

theorem herald_fed (hn : n ≤ 4) {reply : String} (hr : Text.Clear n reply.toList) :
    (herald reply).Fed n := by
  have htwo : Text.Clear n "2".toList := Text.clear_of_all hn (by decide)
  refine .sort (.load ?_ (.setSubroutine "1" (Subroutine.clear_const htwo)
    (.new {} (Notices.clear_default hn) SessionStore.clear_new)))
  have htrigger : Trigger.Clear n { pattern := "*", replies := [reply] } :=
    ⟨List.forall_mem_singleton.2 hr, fun _ hc => absurd hc List.not_mem_nil, fun _ h => (nomatch h)⟩
  refine ⟨Table.clear_empty, Table.clear_empty, fun _ _ h => (nomatch h), fun _ _ h => (nomatch h),
    fun _ _ h => (nomatch h), ?_, fun _ h => absurd h List.not_mem_nil⟩
  exact List.forall_mem_singleton.2 (List.forall_mem_singleton.2 htrigger)

/-- A call with a star in it is mixed with no other tag. -/
theorem saying_quiet : saying.script.Quiet := by
  have htopics : saying.script.topics = Table.empty.insert "random"
      { name := "random"
        triggers := [{ pattern := "*", replies := ["it is <call>1 <star></call>"] }] } := by
    rfl
  refine ⟨by rw [htopics]; rfl, fun t ht => ?_⟩
  cases ht with
  | notMatched => exact .inl (by decide +kernel)
  | notFound => exact .inl (by decide +kernel)
  | @trigger name u g _ hfind hg hexpands =>
    rw [htopics, Table.find?_insert] at hfind
    split at hfind
    · cases hfind
      obtain rfl := List.mem_singleton.1 hg
      cases hexpands with
      | reply hr =>
        obtain rfl := List.mem_singleton.1 hr
        exact .inr ⟨⟨by decide +kernel, by decide +kernel⟩, fun h => (nomatch h)⟩
      | redirect hr => cases hr
      | conditionReply hc | left hc | right hc => exact absurd hc List.not_mem_nil
    · cases hfind

/-- Whatever is stored, the marks of tags stay inside, and those of a call that is said do. -/
theorem herald_unmarked :
    (storing.Fed 2 ∧ ∃ r b', storing.reply "ann" "hello" = (.ok r, b') ∧
      Text.Clear 2 r.text.toList ∧ b'.Unmarked 2) ∧
    (saying.Fed 4 ∧ saying.script.Quiet ∧ ∃ r b', saying.reply "ann" "hello" = (.ok r, b') ∧
      Text.Clear 4 r.text.toList ∧ b'.Unmarked 4) := by
  have hgreet {n : Nat} (hpos : 0 < n) (hn : n ≤ 4) {b : Brain} {order : TrialOrder}
      (ho : b.script.order = some order) (hfed : b.Fed n) (hcalls : n ≤ 2 ∨ b.script.Quiet) :
      ∃ r b', b.reply "ann" "hello" = (.ok r, b') ∧ Text.Clear n r.text.toList ∧
        b'.Unmarked n := by
    have huser : Text.Clear n "ann".toList := Text.clear_of_all hn (by decide)
    have hmessage : Text.Clear n "hello".toList := Text.clear_of_all hn (by decide)
    have hscope : ∀ s ∈ (none : Option Scope), s.Clear n := fun _ h => (nomatch h)
    obtain ⟨r, b', hr⟩ : ∃ r b', b.reply "ann" "hello" = (.ok r, b') := by
      simp only [Brain.reply, ho]
      exact ⟨_, _, rfl⟩
    have hfed' : b'.Fed n := by
      have h := Fed.reply huser hmessage hscope hcalls hfed
      rwa [hr] at h
    exact ⟨r, b', hr, (fed_unmarked hpos hn hfed).2 _ _ _ _ huser hmessage hscope hcalls
      (congrArg Prod.fst hr), (fed_unmarked hpos hn hfed').1⟩
  have hstoring : storing.Fed 2 :=
    herald_fed (by decide) (Text.clear_of_all (by decide) (by decide))
  have hsaying : saying.Fed 4 :=
    herald_fed (by decide) (Text.clear_of_all (by decide) (by decide))
  exact ⟨⟨hstoring, hgreet (by decide) (by decide) rfl hstoring (.inl (Nat.le_refl 2))⟩,
    hsaying, saying_quiet, hgreet (by decide) (by decide) rfl hsaying (.inr saying_quiet)⟩

/-- The marks of a call that is stored are left in a variable of the user. -/
theorem storing_leaks : storing.Fed 4 ∧ Text.Clear 4 "ann".toList ∧ Text.Clear 4 "hello".toList ∧
    ∃ r b', storing.reply "ann" "hello" = (.ok r, b') ∧
      b'.sessions.get? "ann" "x" = some "\x02call\x031\x02/call\x03" ∧ ¬b'.Unmarked 4 := by
  have hout : (storing.reply "ann" "hello").1.toOption.isSome ∧
      (storing.reply "ann" "hello").2.sessions.get? "ann" "x" =
        some "\x02call\x031\x02/call\x03" := by
    decide +kernel
  refine ⟨herald_fed (by decide) (Text.clear_of_all (by decide) (by decide)),
    Text.clear_of_all (by decide) (by decide), Text.clear_of_all (by decide) (by decide), ?_⟩
  generalize storing.reply "ann" "hello" = out at hout ⊢
  obtain ⟨result, b'⟩ := out
  obtain ⟨hok, hvar⟩ := hout
  cases result with
  | error e => cases hok
  | ok r =>
    refine ⟨r, b', rfl, hvar, fun hclear => ?_⟩
    obtain ⟨u, hu, hx⟩ := Option.map_eq_some_iff.1 hvar
    have hmarked := (hclear.sessions.data? hu).var (by decide) "x"
    rw [hx] at hmarked
    exact absurd (hmarked '\x02' (by decide)) (by decide)

end Brain

end Repartee

import Repartee.Proofs.Brain.PassThrough
import Repartee.Proofs.Pattern.Fixed

/-!
# Redirects from trigger to trigger

In a topic of fixed patterns a message that is one of them is answered by its trigger. A redirect to
the next pattern is followed one level deeper, up to the limit.

* `Script.Fixed`: the script of such a topic; `Script.Fixed.foundOrdinary_eq`: what is found.
* `Topic.Chain`: triggers that redirect to the next one.
* `Trail`: the steps and the match records that are left by the first triggers of a chain.
* `Resolve.run_level`, `Resolve.respond_redirect`, `Resolve.respond_text`: one level.
* **`Topic.Chain.run_resolve`**: any number of levels.
* **`Brain.reply_chain`**: a chain is followed to its end, if that is within the limit, and a loop
  up to the limit.
-/

namespace Repartee

/-! ## Fixed patterns -/

/-- A script whose default topic has triggers with fixed patterns, none of which follows a reply.
There is no begin block, messages are compared in the plain mode, and no phrase is substituted. -/
structure Script.Fixed (s : Script) (u : Topic) : Prop where
  noBegin : s.topics.contains beginTopic = false
  topic : s.topics.find? defaultTopic = some u
  /-- The default topic may draw on others, but not on triggers of theirs. -/
  others : ∀ name v, s.topics.DrawsOn defaultTopic name → name ≠ defaultTopic →
    s.topics.find? name = some v → v.triggers = []
  patterns : ∀ g ∈ u.triggers, Pattern.Fixed g.pattern.toList
  unprompted : ∀ g ∈ u.triggers, g.previous = none
  plain : s.options.utf8 = false
  subs : s.subs.phrases = ∅

namespace Script.Fixed

variable {s : Script} {order : TrialOrder} {u : Topic} {g : Trigger} {i : Nat}

/-- The triggers that are searched are those of the topic. -/
theorem trigger_mem (h : s.Fixed u) {id : TriggerId}
    (hid : s.topics.DrawsOn defaultTopic id.topic) (hg : s.trigger? id = some g) :
    id.topic = defaultTopic ∧ u.triggers[id.index]? = some g := by
  obtain ⟨v, hv, hg⟩ := Option.bind_eq_some_iff.1 hg
  by_cases hname : id.topic = defaultTopic
  · rw [hname, h.topic] at hv
    cases hv
    exact ⟨hname, hg⟩
  · rw [h.others _ v hid hname hv] at hg
    cases hg

theorem trigger_eq (h : s.Fixed u) (i : Nat) : s.trigger? ⟨defaultTopic, i⟩ = u.triggers[i]? := by
  rw [Script.trigger?, Topics.trigger?, h.topic]
  rfl

/-- A pattern that no other trigger has is found, and nothing is captured. -/
theorem foundOrdinary_eq (h : s.Fixed u) (hg : u.triggers[i]? = some g)
    (honly : ∀ (j : Nat) (g' : Trigger), u.triggers[j]? = some g' → g'.pattern = g.pattern → j = i)
    (vars : Table String) (data : UserData) :
    ∃ f, s.foundOrdinary vars data g.pattern.toList defaultTopic = some f ∧
      f.id = ⟨defaultTopic, i⟩ ∧ f.stars = [] := by
  have hentry {e : Entry} (he : e ∈ s.topics.ordinary s.depth defaultTopic) :
      ∃ g', e.id.topic = defaultTopic ∧ u.triggers[e.id.index]? = some g' ∧
        e.bare.pattern = g'.pattern := by
    obtain ⟨g', hs⟩ := Topics.mem_collect he
    obtain ⟨hname, hg'⟩ := h.trigger_mem (Topics.DrawsOn.self.of_mem_collect he) hs.trigger
    exact ⟨g', hname, hg', (h.patterns g' (List.mem_of_getElem? hg')).bare hs.pattern⟩
  have hstars {g' : Trigger} {j : Nat} (hg' : u.triggers[j]? = some g') :=
    Pattern.stars?_fixed (h.patterns g' (List.mem_of_getElem? hg')) (s.scope vars data)
      g.pattern.toList
  obtain ⟨hnone, hsome⟩ :=
    Script.foundOrdinary_spec s vars data g.pattern.toList defaultTopic
  cases hfound : s.foundOrdinary vars data g.pattern.toList defaultTopic with
  | none =>
    obtain ⟨e, he, hs⟩ := @Topics.own_mem_collect s.topics (fun _ g => g.previous.isNone)
      s.depth defaultTopic u h.topic i g hg (by rw [h.unprompted g (List.mem_of_getElem? hg)]; rfl)
    refine absurd ?_ (hnone.1 hfound e he)
    rw [Entry.Matches, (h.patterns g (List.mem_of_getElem? hg)).bare hs.pattern, hstars hg,
      if_pos rfl]
    rfl
  | some f =>
    obtain ⟨e, n, hfirst, hid, -, hf⟩ := hsome f hfound
    obtain ⟨g', hname, hg', hpattern⟩ := hentry (List.mem_of_getElem? hfirst.here)
    rw [hpattern, hstars hg'] at hf
    split at hf
    · rename_i heq
      have hindex := honly _ g' hg' (String.toList_inj.1 heq)
      refine ⟨f, rfl, ?_, (Option.some_inj.1 hf).symm⟩
      rw [hid, ← hname, ← hindex]
    · cases hf

/-- The search for such a pattern finds its trigger. -/
theorem findMatch_eq (h : s.Fixed u) (hs : s.Current) (ho : s.order = some order)
    (hg : u.triggers[i]? = some g)
    (honly : ∀ (j : Nat) (g' : Trigger), u.triggers[j]? = some g' → g'.pattern = g.pattern → j = i)
    (vars : Table String) (data : UserData) (depth : Nat) :
    ∃ f, (s.findMatch order vars data g.pattern.toList defaultTopic depth).1 = some f ∧
      f.id = ⟨defaultTopic, i⟩ ∧ f.stars = [] := by
  obtain ⟨f, hfound, hf⟩ := h.foundOrdinary_eq hg honly vars data
  refine ⟨f, ?_, hf⟩
  have hafter : s.foundAfterReply vars data g.pattern.toList defaultTopic = none :=
    Script.foundAfterReply_eq_none (fun id g' hdraws hg' =>
      h.unprompted g' (List.mem_of_getElem? (h.trigger_mem hdraws hg').2)) vars data _
  rw [Script.findMatch_eq hs ho, hafter, hfound]
  split <;> rfl

end Script.Fixed

/-! ## Chains -/

/-- Triggers of a topic, by their positions, of which each one before the last redirects to the next
one. Their patterns are words of small letters and digits, and no other trigger has one of them. -/
structure Topic.Chain (u : Topic) (last : Nat) (pos : Nat → Nat) (g : Nat → Trigger) : Prop where
  here : ∀ i ≤ last, u.triggers[pos i]? = some (g i)
  words : ∀ i ≤ last, ∃ ws, ws ≠ [] ∧ (g i).pattern.toList = Pattern.sentence ws
  only : ∀ i ≤ last, ∀ (j : Nat) (g' : Trigger), u.triggers[j]? = some g' →
    g'.pattern = (g i).pattern → j = pos i
  next : ∀ i < last, (g i).redirect = some (g (i + 1)).pattern

/-- The steps and the match records that the first `n` triggers of a chain leave, one a level
deeper than the other. -/
structure Trail (pos : Nat → Nat) (g : Nat → Trigger) (n : Nat) (steps : List Step)
    (triggers : List TriggerId) (initial last : Option String) : Prop where
  depths : steps.map (·.depth) = List.range n
  matched : steps.map (·.matched) = (List.range n).map fun i => some (g i).pattern
  triggers : triggers = (List.range n).map fun i => ⟨defaultTopic, pos i⟩
  initial : 0 < n → initial = some (g 0).pattern
  last : 0 < n → last = some (g (n - 1)).pattern

variable {s : Script} {order : TrialOrder} {a : Speaker} {u : Topic} {pos : Nat → Nat}
  {g : Nat → Trigger} {k n : Nat}

theorem Topic.Chain.mono (h : u.Chain k pos g) (hn : n ≤ k) : u.Chain n pos g where
  here i hi := h.here i (hi.trans hn)
  words i hi := h.words i (hi.trans hn)
  only i hi := h.only i (hi.trans hn)
  next i hi := h.next i (Nat.lt_of_lt_of_le hi hn)

/-- Words of small letters and digits are inert. -/
theorem Pattern.inert_sentence (ws : List Pattern.Word) : Text.Inert (Pattern.sentence ws) :=
  Text.inert_of_forall
    (@Pattern.forall_mem_sentence ws (fun c => c == ' ' || Pattern.isPlain c) (by decide))
    (by decide)

/-- A turn in which the first `n` triggers of a chain have been tried, for a user in the default
topic. -/
structure Turn.Follows (pos : Nat → Nat) (g : Nat → Trigger) (user : String) (n : Nat) (t : Turn) :
    Prop where
  topic : (Resolve.current user t).topic = defaultTopic
  trail : Trail pos g n t.steps t.triggers t.initialMatch t.lastMatch

/-- One more trigger is noted. -/
theorem Turn.Follows.record {user : String} {t : Turn} (h : t.Follows pos g user n) {step : Step}
    (hdepth : step.depth = n) (hmatched : step.matched = some (g n).pattern) :
    ((Resolve.record step (some ⟨defaultTopic, pos n⟩)).run t).2.Follows pos g user (n + 1) := by
  refine ⟨h.topic, ?_⟩
  have ht := h.trail
  change Trail pos g (n + 1) (t.steps ++ [step])
    ((if step.depth = 0 then [] else t.triggers) ++ [⟨defaultTopic, pos n⟩])
    (if step.depth = 0 then step.matched else t.initialMatch) step.matched
  refine ⟨?_, ?_, ?_, fun _ => ?_, fun _ => hmatched⟩
  · rw [List.map_append, ht.depths, List.range_succ, List.map_singleton, hdepth]
  · rw [List.map_append, ht.matched, List.range_succ, List.map_append, List.map_singleton, hmatched,
      List.map_singleton]
  · rw [hdepth, List.range_succ, List.map_append, List.map_singleton]
    split
    · rename_i hn
      rw [hn]
      rfl
    · rw [ht.triggers]
  · rw [hdepth]
    split
    · rename_i hn
      rw [hmatched, hn]
    · rename_i hn
      exact ht.initial (Nat.pos_of_ne_zero hn)

namespace Resolve

/-- At a level the trigger of a message is found, noted, and responded to. -/
theorem run_level (h : s.Fixed u) (hs : s.Current) (ho : s.order = some order)
    (hc : u.Chain k pos g) {t : Turn} (ht : t.Follows pos g a.user n) (hn : n ≤ k) (levels : Nat) :
    ∃ f t', f.stars = [] ∧ t'.Follows pos g a.user (n + 1) ∧
      (resolve s order a (levels + 1) n .normal (g n).pattern.toList).run t =
        (respond s order a levels n .normal (some (f, g n))).run t' := by
  have hcontains : s.topics.contains defaultTopic = true := by
    rw [Table.contains, h.topic]
    rfl
  have hleave := leaveUnknownTopic_run s a.user t
  rw [ht.topic, if_pos hcontains] at hleave
  obtain ⟨f, hfound, hid, hstars⟩ :=
    h.findMatch_eq hs ho (hc.here n hn) (hc.only n hn) t.vars (current a.user t) n
  have htrigger : s.trigger? f.id = some (g n) := by rw [hid, h.trigger_eq, hc.here n hn]
  obtain ⟨step, hdepth, hmatched, hsearch⟩ : ∃ step : Step, step.depth = n ∧
      step.matched = some (g n).pattern ∧ (search s order n .normal (current a.user t) defaultTopic
        (g n).pattern.toList).run t = (some (f, g n), ((record step (some f.id)).run t).2) :=
    ⟨_, rfl, rfl, run_search .normal (Prod.ext hfound rfl) htrigger⟩
  have hsearched : searchedTopic .normal (current a.user t) = defaultTopic := ht.topic
  refine ⟨f, _, hstars, ht.record hdepth hmatched, ?_⟩
  rw [run_resolve_succ levels n _ hleave, hsearched, if_pos hcontains, Talk.run_bind, hsearch, hid]

/-- A redirect to words is followed one level deeper. -/
theorem respond_redirect (h : s.Fixed u) {f : Found} (hstars : f.stars = []) (hc : u.Chain k pos g)
    (hn : n < k) (levels depth : Nat) :
    respond s order a levels depth .normal (some (f, g n)) = (do
      keepStars depth .normal []
      resolve s order a levels (depth + 1) .normal (g (n + 1)).pattern.toList) := by
  obtain ⟨ws, hws, hwords⟩ := hc.words (n + 1) hn
  have hinert : Text.Inert (g (n + 1)).pattern.toList := hwords ▸ Pattern.inert_sentence ws
  have hnormal : s.normalize false (g (n + 1)).pattern.toList = (g (n + 1)).pattern.toList := by
    rw [hwords, Script.normalize_sentence h.plain h.subs hws]
  simp only [respond, hstars, hc.next n hn, expand_inert hinert, pure_bind, hnormal]

/-- A single inert reply is the answer. -/
theorem respond_text {f : Found} {trigger : Trigger} {text : String}
    (hredirect : trigger.redirect = none) (hconditions : trigger.conditions = [])
    (hreplies : trigger.replies = [text]) (hne : text ≠ "") (hinert : Text.Inert text.toList)
    (levels depth : Nat) :
    respond s order a levels depth .normal (some (f, trigger)) = (do
      keepStars depth .normal f.stars
      let _ ← Talk.roll (Choice.weight text)
      pure text.toList) := by
  have hnil : text.toList ≠ [] := fun h => hne (String.toList_eq_nil_iff.1 h)
  simp only [respond, hredirect, hconditions, hreplies, chosenReply, firstReply, pure_bind,
    Choice.pick_singleton, bind_assoc, Option.getD_some, hnil, if_false, reduceCtorEq, false_and,
    expand_inert hinert]

end Resolve

/-- **A chain of redirects is followed level by level.** -/
theorem Topic.Chain.run_resolve (h : s.Fixed u) (hs : s.Current) (ho : s.order = some order)
    (hc : u.Chain k pos g) {t : Turn} (ht : t.Follows pos g a.user 0) : ∀ n ≤ k, ∀ levels : Nat,
    ∃ t', t'.Follows pos g a.user n ∧
      (resolve s order a (levels + n) 0 .normal (g 0).pattern.toList).run t =
        (resolve s order a levels n .normal (g n).pattern.toList).run t'
  | 0, _, levels => ⟨t, ht, rfl⟩
  | n + 1, hn, levels => by
    obtain ⟨t₁, ht₁, hrun⟩ := hc.run_resolve h hs ho ht n (Nat.le_of_succ_le hn) (levels + 1)
    obtain ⟨f, t₂, hstars, ht₂, hlevel⟩ :=
      Resolve.run_level h hs ho hc ht₁ (Nat.le_of_succ_le hn) levels
    refine ⟨((Resolve.keepStars n .normal []).run t₂).2, ⟨ht₂.topic, ht₂.trail⟩, ?_⟩
    rw [Nat.add_assoc, Nat.add_comm 1 n] at hrun
    rw [hrun, hlevel, Resolve.respond_redirect h hstars hc hn, Talk.run_bind]

/-! ## Loops -/

/-- The places of a chain in the order they are visited if the last one, `k`, leads back to `j`. -/
def around (j k : Nat) : Nat → Nat
  | 0 => 0
  | i + 1 => if around j k i = k then j else around j k i + 1

theorem around_le {j : Nat} (hj : j ≤ k) : ∀ i, around j k i ≤ k
  | 0 => Nat.zero_le k
  | i + 1 => by
    have ih := around_le hj i
    rw [around]
    split
    · exact hj
    · omega

/-- A chain whose last trigger redirects back into it goes on for ever. -/
theorem Topic.Chain.around (h : u.Chain k pos g) {j : Nat} (hj : j ≤ k)
    (hback : (g k).redirect = some (g j).pattern) (n : Nat) :
    u.Chain n (pos ∘ around j k) (g ∘ around j k) where
  here i _ := h.here _ (around_le hj i)
  words i _ := h.words _ (around_le hj i)
  only i _ := h.only _ (around_le hj i)
  next i _ := by
    rw [Function.comp_apply, Function.comp_apply, Repartee.around]
    split
    · rename_i hk
      rw [hk, hback]
    · rename_i hk
      exact h.next _ (Nat.lt_of_le_of_ne (around_le hj i) hk)

/-! ## Replies -/

namespace Brain

/-- A bot with a chain of redirects, for a user who is in the default topic. -/
structure Chained (b : Brain) (user : String) (u : Topic) (k : Nat) (pos : Nat → Nat)
    (g : Nat → Trigger) : Prop where
  reachable : b.Reachable
  sorted : b.script.order.isSome
  script : b.script.Fixed u
  chain : u.Chain k pos g
  user : ((b.sessions.data? user).getD {}).topic = defaultTopic

/-- A reply with a text, and with the steps and match records of the first `n` triggers of a
chain. -/
structure Visits (r : Reply) (text : String) (pos : Nat → Nat) (g : Nat → Trigger) (n : Nat) :
    Prop where
  text : r.text = text
  trail : Trail pos g n r.steps r.triggers r.initialMatch r.lastMatch

variable {b : Brain} {user : String} {scope : Option Scope}

/-- Before a reply nothing is noted. -/
theorem Chained.follows (h : b.Chained user u k pos g) : (b.turn user).Follows pos g user 0 := by
  have htopic := h.user
  rw [UserData.topic, ← SessionStore.vars_meet b.sessions user user] at htopic
  exact ⟨htopic, rfl, rfl, rfl, fun h => absurd h (Nat.lt_irrefl 0),
    fun h => absurd h (Nat.lt_irrefl 0)⟩

/-- Without begin block the reply to the first pattern of a chain is what resolving it leads to. -/
theorem Chained.reply_eq (h : b.Chained user u k pos g) (ho : b.script.order = some order)
    {text : String} {t : Turn}
    (hrun : (resolve b.script order ⟨user, scope⟩ (b.script.depth + 1) 0 .normal
      (g 0).pattern.toList).run (b.turn user) = (text.toList, t))
    (ht : t.Follows pos g user n) :
    ∃ r b', b.reply user (g 0).pattern scope = (.ok r, b') ∧ Visits r text pos g n := by
  obtain ⟨ws, hws, hwords⟩ := h.chain.words 0 (Nat.zero_le k)
  have hnormal : b.script.normalize false (g 0).pattern.toList = (g 0).pattern.toList := by
    rw [hwords, Script.normalize_sentence h.script.plain h.script.subs hws]
  have hanswer : (answer b.script order ⟨user, scope⟩
      (b.script.normalize false (g 0).pattern.toList)).run (b.turn user) = (text.toList, t) := by
    rw [answer, if_neg (by rw [h.script.noBegin]; exact Bool.false_ne_true), hnormal, hrun]
  exact ⟨_, _, reply_of_answer ho hanswer, String.ofList_toList, ht.trail⟩

/-- A chain that is longer than the limit is followed up to the limit. -/
theorem Chained.reply_deep (h : b.Chained user u k pos g) (hk : b.script.depth < k) :
    ∃ r b', b.reply user (g 0).pattern scope = (.ok r, b') ∧
      Visits r b.script.options.notices.deepRecursion pos g (b.script.depth + 1) := by
  obtain ⟨order, ho⟩ := Option.isSome_iff_exists.1 h.sorted
  obtain ⟨t, ht, hrun⟩ := h.chain.run_resolve (a := ⟨user, scope⟩) h.script h.reachable.current ho
    h.follows (b.script.depth + 1) hk 0
  rw [Nat.zero_add] at hrun
  exact h.reply_eq ho hrun ht

/-- A chain that is not longer than the limit is followed to its end. -/
theorem Chained.reply_end (h : b.Chained user u k pos g) (hk : k ≤ b.script.depth)
    (hredirect : (g k).redirect = none) (hconditions : (g k).conditions = []) {text : String}
    (hreplies : (g k).replies = [text]) (hne : text ≠ "") (hinert : Text.Inert text.toList) :
    ∃ r b', b.reply user (g 0).pattern scope = (.ok r, b') ∧ Visits r text pos g (k + 1) := by
  obtain ⟨order, ho⟩ := Option.isSome_iff_exists.1 h.sorted
  have hcurrent := h.reachable.current
  obtain ⟨t₁, ht₁, hrun⟩ := h.chain.run_resolve (a := ⟨user, scope⟩) h.script hcurrent ho
    h.follows k (Nat.le_refl k) (b.script.depth - k + 1)
  obtain ⟨f, t₂, -, ht₂, hlevel⟩ := Resolve.run_level h.script hcurrent ho h.chain ht₁
    (Nat.le_refl k) (b.script.depth - k)
  rw [Nat.add_right_comm, Nat.sub_add_cancel hk, hlevel,
    Resolve.respond_text hredirect hconditions hreplies hne hinert] at hrun
  -- keeping the stars and the roll of the dice leave the steps and the match records as they are
  exact h.reply_eq ho hrun ⟨ht₂.topic, ht₂.trail⟩

/-- **A chain of redirects is followed to its end, if that is within the limit, and else up to the
limit; so is a loop.** -/
theorem reply_chain (h : b.Chained user u k pos g) (scope : Option Scope) :
    (∀ text, (g k).redirect = none → (g k).conditions = [] → (g k).replies = [text] → text ≠ "" →
      (∀ c ∈ text.toList, c ∉ ['<', '\x7b', '(', '\\', '\x00', '\x01', '\x02', '\x03']) →
      k ≤ b.script.depth → ∃ r b', b.reply user (g 0).pattern scope = (.ok r, b') ∧
        Visits r text pos g (k + 1)) ∧
    (b.script.depth < k → ∃ r b', b.reply user (g 0).pattern scope = (.ok r, b') ∧
      Visits r b.script.options.notices.deepRecursion pos g (b.script.depth + 1)) ∧
    (∀ j ≤ k, (g k).redirect = some (g j).pattern →
      ∃ r b', b.reply user (g 0).pattern scope = (.ok r, b') ∧
        Visits r b.script.options.notices.deepRecursion (pos ∘ around j k) (g ∘ around j k)
          (b.script.depth + 1)) := by
  refine ⟨fun text hredirect hconditions hreplies hne hplain hk => ?_, h.reply_deep,
    fun j hj hback => ?_⟩
  · have hinert : Text.Inert text.toList := by
      refine Text.inert_of_forall (p := fun c => decide
        (c ∉ ['<', '\x7b', '(', '\\', '\x00', '\x01', '\x02', '\x03'])) (fun c hc => ?_)
        (by decide)
      exact decide_eq_true (hplain c hc)
    exact h.reply_end hk hredirect hconditions hreplies hne hinert
  · exact Chained.reply_deep ⟨h.reachable, h.sorted, h.script, h.chain.around hj hback _, h.user⟩
      (Nat.lt_succ_self _)

/-- Triggers that redirect to others before and behind them, and two that redirect to each other. -/
def relay : List Trigger := [
  { pattern := "bye", replies := ["see you"] },
  { pattern := "good day", redirect := some "hello" },
  { pattern := "hello", replies := ["hi"] },
  { pattern := "hey you", redirect := some "good day" },
  { pattern := "there", redirect := some "back" },
  { pattern := "back", redirect := some "there" }]

/-- A bot with these triggers that follows a number of redirects. -/
def relayBot (depth : Nat) : Brain :=
  ((Brain.new { depth } .new).load
    { topics := [{ name := defaultTopic, triggers := relay }] }).2.sort

theorem relay_words : ∀ g ∈ relay, ∃ ws, ws ≠ [] ∧ g.pattern.toList = Pattern.sentence ws := by
  intro g hg
  simp only [relay, List.mem_cons, List.not_mem_nil, or_false] at hg
  rcases hg with rfl | rfl | rfl | rfl | rfl | rfl
  · exact ⟨[.of "bye" (by decide)], List.cons_ne_nil _ _, rfl⟩
  · exact ⟨[.of "good" (by decide), .of "day" (by decide)], List.cons_ne_nil _ _, rfl⟩
  · exact ⟨[.of "hello" (by decide)], List.cons_ne_nil _ _, rfl⟩
  · exact ⟨[.of "hey" (by decide), .of "you" (by decide)], List.cons_ne_nil _ _, rfl⟩
  · exact ⟨[.of "there" (by decide)], List.cons_ne_nil _ _, rfl⟩
  · exact ⟨[.of "back" (by decide)], List.cons_ne_nil _ _, rfl⟩

/-- The places of some of the triggers, and the triggers there. -/
def relayPlace (places : List Nat) (i : Nat) : Nat := places.getD i 0

def relayAt (places : List Nat) (i : Nat) : Trigger := relay.getD (relayPlace places i) {}

theorem relay_chained (depth : Nat) (user : String) {places : List Nat} {k : Nat}
    (hhere : ∀ i ≤ k, relay[relayPlace places i]? = some (relayAt places i))
    (hnext : ∀ i < k, (relayAt places i).redirect = some (relayAt places (i + 1)).pattern) :
    (relayBot depth).Chained user { name := defaultTopic, triggers := relay } k
      (relayPlace places) (relayAt places) := by
  have htopics : (relayBot depth).script.topics =
      Table.empty.insert defaultTopic { name := defaultTopic, triggers := relay } := rfl
  have hothers : ∀ name v, name ≠ defaultTopic →
      (relayBot depth).script.topics.find? name = some v → v.triggers = [] := by
    intro name v hne hv
    rw [htopics, Table.find?_insert, if_neg hne] at hv
    cases hv
  have hscript : (relayBot depth).script.Fixed { name := defaultTopic, triggers := relay } := by
    refine ⟨by rw [htopics]; rfl, by rw [htopics, Table.find?_insert, if_pos rfl],
      fun name v _ => hothers name v, fun g hg => ?_, by decide, rfl, rfl⟩
    obtain ⟨ws, hws, hwords⟩ := relay_words g hg
    exact hwords ▸ Pattern.fixed_sentence hws
  have hnodup : (relay.map (·.pattern)).Nodup := by decide
  refine ⟨.sort (.load _ (.new _ _ _)), rfl, hscript, ⟨hhere, fun i hi => ?_, ?_, hnext⟩, rfl⟩
  · exact relay_words _ (List.mem_of_getElem? (hhere i hi))
  · intro i hi j g hg hpattern
    have hj : j < (relay.map (·.pattern)).length := by
      rw [List.length_map]
      exact (List.getElem?_eq_some_iff.1 hg).1
    refine (List.getElem?_inj hj hnodup).1 ?_
    change (relay.map (·.pattern))[j]? = (relay.map (·.pattern))[relayPlace places i]?
    rw [List.getElem?_map, List.getElem?_map, hg, hhere i hi, Option.map_some, hpattern]
    rfl

/-- Two redirects within the limit and beyond it, and a loop. -/
theorem relay_replies :
    (∃ r b', (relayBot 2).reply "ann" "hey you" = (.ok r, b') ∧
      Visits r "hi" (relayPlace [3, 1, 2]) (relayAt [3, 1, 2]) 3) ∧
    (∃ r b', (relayBot 1).reply "ann" "hey you" = (.ok r, b') ∧
      Visits r "ERR: Deep Recursion Detected" (relayPlace [3, 1, 2]) (relayAt [3, 1, 2]) 2) ∧
    ∃ r b', (relayBot 3).reply "ann" "there" = (.ok r, b') ∧
      Visits r "ERR: Deep Recursion Detected" (relayPlace [4, 5] ∘ around 0 1)
        (relayAt [4, 5] ∘ around 0 1) 4 := by
  have hchain (depth : Nat) := @relay_chained depth "ann" [3, 1, 2] 2 (by decide) (by decide)
  have hloop := @relay_chained 3 "ann" [4, 5] 1 (by decide) (by decide)
  exact ⟨(reply_chain (hchain 2) none).1 "hi" rfl rfl rfl (by decide)
      (List.all_iff_forall_prop.1 (by decide)) (by decide),
    (reply_chain (hchain 1) none).2.1 (by decide),
    (reply_chain hloop none).2.2 0 (by decide) rfl⟩

end Brain

end Repartee

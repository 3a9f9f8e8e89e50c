import Repartee.Brain.Reply
import Repartee.Proofs.Reply.Clear
import Repartee.Proofs.Script.Match

/-!
# Answers without marks

Triggers are answered with texts of the script, which are expanded. An answer is clear if these are,
and if no call in them is mixed with other tags.

* `Trigger.Expands`, `Script.Expands`: the texts that are expanded.
* `Script.Quiet`: in none of them is a call mixed with other tags, and no begin block has answers
  expanded.
* `Resolve.ensures_search`: what is captured from a clear message is clear.
* `Undisturbed`: what an answer starts from.
* **`Undisturbed.ensures_resolve`**, **`Undisturbed.ensures_answer`**: an answer to a clear message
  is clear.
-/

namespace Repartee

variable {n : Nat}

open Talk (Ensures)

/-! ## Texts of a script -/

namespace Condition

variable {t : Text}

theorem split?_subset {test reply : Text} (h : split? t = some (test, reply)) :
    test ⊆ t ∧ reply ⊆ t := by
  rw [split?] at h
  split at h
  · rename_i hcut
    obtain ⟨hbefore, hafter⟩ := Text.cutAt?_subset hcut
    split at h
    · cases h
    · cases h
      exact ⟨List.Subset.trans (Text.trim_subset _) hbefore,
        List.Subset.trans (Text.trim_subset _) hafter⟩
  · cases h

theorem operator?_subset {op : Comparison} {right : Text} (h : operator? t = some (op, right)) :
    right ⊆ t := by
  rw [operator?] at h
  split at h
  · obtain ⟨⟨spelling, op'⟩, -, h⟩ := List.exists_of_findSome?_eq_some h
    dsimp only at h
    split at h
    · rename_i hstart
      split at h
      · cases h
        exact List.Subset.trans (Text.trimLeft_subset _)
          (List.Subset.trans (Text.startsWith?_subset hstart) (Text.trimLeft_subset t))
      · cases h
    · cases h
  · cases h

theorem sides?_subset : ∀ {t left right : Text} {op : Comparison},
    sides? t = some (left, op, right) → left ⊆ t ∧ right ⊆ t
  | c :: cs, left, right, op, h => by
    rw [sides?] at h
    split at h
    · cases h
    · split at h
      · rename_i hop
        cases h
        exact ⟨List.cons_subset_cons c (List.nil_subset cs),
          List.subset_cons_of_subset c (operator?_subset hop)⟩
      · obtain ⟨⟨left, op, right⟩, hr, he⟩ := Option.map_eq_some_iff.1 h
        cases he
        obtain ⟨hl, hr⟩ := sides?_subset hr
        exact ⟨List.cons_subset_cons c hl, List.subset_cons_of_subset c hr⟩

theorem comparison?_subset {left right : Text} {op : Comparison}
    (h : comparison? t = some (left, op, right)) : left ⊆ t ∧ right ⊆ t := by
  obtain ⟨⟨l, o, r⟩, hr, he⟩ := Option.map_eq_some_iff.1 h
  cases he
  obtain ⟨hl, hr⟩ := sides?_subset hr
  exact ⟨List.Subset.trans (Text.trim_subset l) hl, List.Subset.trans (Text.trim_subset r) hr⟩

end Condition

/-- The texts that a trigger has expanded. -/
inductive Trigger.Expands (g : Trigger) : Text → Prop
  | reply {r : String} : r ∈ g.replies → Expands g r.toList
  | redirect {r : String} : r ∈ g.redirect → Expands g r.toList
  | conditionReply {c : String} {test reply : Text} : c ∈ g.conditions →
    Condition.split? c.toList = some (test, reply) → Expands g reply
  | left {c : String} {test reply left right : Text} {op : Comparison} : c ∈ g.conditions →
    Condition.split? c.toList = some (test, reply) →
    Condition.comparison? test = some (left, op, right) → Expands g left
  | right {c : String} {test reply left right : Text} {op : Comparison} : c ∈ g.conditions →
    Condition.split? c.toList = some (test, reply) →
    Condition.comparison? test = some (left, op, right) → Expands g right

/-- The texts that a script has expanded. -/
inductive Script.Expands (s : Script) : Text → Prop
  | notMatched : Expands s s.options.notices.notMatched.toList
  | notFound : Expands s s.options.notices.notFound.toList
  | trigger {name : String} {t : Topic} {g : Trigger} {u : Text} :
    s.topics.find? name = some t → g ∈ t.triggers → g.Expands u → Expands s u

/-- No call is mixed with other tags in the texts that are expanded, and no begin block has answers
expanded once more. -/
structure Script.Quiet (s : Script) : Prop where
  noBegin : s.topics.contains beginTopic = false
  unmixed : ∀ t, s.Expands t → s.Unmixed t

theorem Trigger.Expands.clear {g : Trigger} (hg : g.Clear n) {t : Text} (h : g.Expands t) :
    t.Clear n := by
  cases h with
  | reply hr => exact hg.replies _ hr
  | redirect hr => exact hg.redirect _ hr
  | conditionReply hc hsplit =>
    exact (hg.conditions _ hc).subset (Condition.split?_subset hsplit).2
  | left hc hsplit hsides =>
    exact ((hg.conditions _ hc).subset (Condition.split?_subset hsplit).1).subset
      (Condition.comparison?_subset hsides).1
  | right hc hsplit hsides =>
    exact ((hg.conditions _ hc).subset (Condition.split?_subset hsplit).1).subset
      (Condition.comparison?_subset hsides).2

theorem Script.Expands.clear {s : Script} (hs : s.Clear n) {t : Text} (h : s.Expands t) :
    t.Clear n := by
  cases h with
  | notMatched => exact hs.notices.notMatched
  | notFound => exact hs.notices.notFound
  | trigger ht hg hexpands => exact hexpands.clear (hs.topics _ _ ht _ hg)

/-! ## Choosing -/

namespace Resolve

variable {g : Trigger} {expand : Text → Talk Text}

/-- The reply of the first condition that holds is one that the trigger has expanded. -/
theorem ensures_firstReply (hn : n ≤ 4)
    (he : ∀ t, g.Expands t → Ensures (Turn.Clear n) (Text.Clear n) (expand t)) :
    ∀ {cs : List String}, cs ⊆ g.conditions → Ensures (Turn.Clear n)
      (fun reply => ∀ t ∈ reply, g.Expands t) (firstReply expand cs)
  | [], _ => .pure fun _ ht => (nomatch ht)
  | c :: cs, hcs => by
    have hc : c ∈ g.conditions := hcs List.mem_cons_self
    have hrest := ensures_firstReply hn he (List.subset_of_cons_subset hcs)
    rw [firstReply]
    cases hsplit : Condition.split? c.toList with
    | none => exact hrest
    | some parts =>
      obtain ⟨test, reply⟩ := parts
      have hreply : g.Expands reply := .conditionReply hc hsplit
      have hside {t : Text} (ht : g.Expands t) :
          Ensures (Turn.Clear n) (fun _ => True) (side expand t) :=
        (he t ht).bind fun _ _ => .pure trivial
      have hholds : Ensures (Turn.Clear n) (fun _ => True) (holds expand test) := by
        rw [holds]
        cases hsides : Condition.comparison? test with
        | none => exact .pure trivial
        | some sides =>
          obtain ⟨left, op, right⟩ := sides
          exact (hside (.left hc hsplit hsides)).bind fun _ _ =>
            (hside (.right hc hsplit hsides)).bind fun _ _ => .pure trivial
      refine hholds.bind fun b _ => .ite (.pure fun t ht => ?_) hrest
      cases ht
      exact hreply

theorem ensures_pick (replies : List String) :
    Ensures (Turn.Clear n) (fun reply => ∀ r ∈ reply, r ∈ replies) (Choice.pick replies) := by
  have hat : ∀ (rs : List String) (roll : Nat), ∀ r ∈ Choice.at? rs roll, r ∈ rs := by
    intro rs
    induction rs with
    | nil =>
      intro roll r hr
      cases hr
    | cons x xs ih =>
      intro roll r hr
      rw [Choice.at?] at hr
      split at hr
      · cases hr
        exact List.mem_cons_self
      · exact List.mem_cons_of_mem x (ih _ r hr)
  cases replies with
  | nil =>
    refine .pure fun r hr => ?_
    cases hr
  | cons x xs =>
    refine (Talk.ensures_roll _).bind fun roll _ => .pure fun r hr => ?_
    rcases Option.or_eq_some_iff.1 hr with h | ⟨-, h⟩
    · exact hat _ roll r h
    · exact List.mem_of_getLast? h

/-- The reply of a trigger is empty or one that the trigger has expanded. -/
theorem ensures_chosenReply (hn : n ≤ 4)
    (he : ∀ t, g.Expands t → Ensures (Turn.Clear n) (Text.Clear n) (expand t)) :
    Ensures (Turn.Clear n) (fun reply => reply = [] ∨ g.Expands reply) (chosenReply expand g) := by
  refine (ensures_firstReply hn he (List.Subset.refl _)).bind fun reply hreply => ?_
  cases reply with
  | some reply => exact .pure (.inr (hreply reply rfl))
  | none =>
    refine (ensures_pick g.replies).bind fun reply hreply => .pure ?_
    cases reply with
    | none => exact .inl rfl
    | some r => exact .inr (.reply (hreply r rfl))

/-! ## Searching -/

variable {s : Script}

/-- What is captured for a trigger of the script is clear. -/
structure Captured (n : Nat) (s : Script) (found : Found × Trigger) : Prop where
  stars : ∀ x ∈ found.1.stars, s.Compared n x.toList
  botstars : ∀ x ∈ found.1.botstars, s.Compared n x.toList
  trigger : ∃ name t, s.topics.find? name = some t ∧ found.2 ∈ t.triggers

/-- What is found for a clear message, and after a clear reply, is clear. -/
theorem clear_findMatch (hn : n ≤ 4) (hs : s.Clear n) (order : TrialOrder) (vars : Table String)
    {data : UserData} (hdata : data.Clear n) {message : Text} (hm : s.Compared n message)
    (topic : String) (depth : Nat) {f : Found}
    (hf : (s.findMatch order vars data message topic depth).1 = some f) :
    (∀ x ∈ f.stars, s.Compared n x.toList) ∧ ∀ x ∈ f.botstars, s.Compared n x.toList := by
  have hordinary {e : Entry} {f : Found}
      (h : Script.ordinary? (s.scope vars data) message e = some f) :
      (∀ x ∈ f.stars, s.Compared n x.toList) ∧ ∀ x ∈ f.botstars, s.Compared n x.toList := by
    obtain ⟨stars, hstars, rfl⟩ := Option.map_eq_some_iff.1 h
    exact ⟨Pattern.compared_stars hn hstars hm, fun _ hx => absurd hx List.not_mem_nil⟩
  have hlast : s.Compared n (s.normalize true (data.history.nthReply 1).toList) :=
    hs.normalize hn true (History.clear_nth hn hdata.history.reply 1)
  have hafter {e : Entry} {f : Found} (h : s.afterReply? (s.scope vars data) message
      (s.normalize true (data.history.nthReply 1).toList) e = some f) :
      (∀ x ∈ f.stars, s.Compared n x.toList) ∧ ∀ x ∈ f.botstars, s.Compared n x.toList := by
    obtain ⟨g, p, botstars, stars, -, -, hbotstars, hstars, rfl⟩ :=
      Script.afterReply?_eq_some.1 h
    exact ⟨Pattern.compared_stars hn hstars hm, Pattern.compared_stars hn hbotstars hlast⟩
  rw [Script.findMatch] at hf
  dsimp only at hf
  cases hfirst : (if depth = 0 then Script.firstFound (s.afterReply? (s.scope vars data) message
      (s.normalize true (data.history.nthReply 1).toList)) (s.afterReplyEntries order topic)
      else (none, 0)) with
  | mk first m =>
    rw [hfirst] at hf
    cases first with
    | some f' =>
      cases hf
      split at hfirst
      · have hfound := congrArg Prod.fst hfirst
        rw [Script.firstFound_eq] at hfound
        obtain ⟨e, -, he⟩ := List.exists_of_findSome?_eq_some hfound
        exact hafter he
      · cases hfirst
    | none =>
      change (Script.firstFound (Script.ordinary? (s.scope vars data) message) _).1 = some f at hf
      rw [Script.firstFound_eq] at hf
      obtain ⟨e, -, he⟩ := List.exists_of_findSome?_eq_some hf
      exact hordinary he

theorem ensures_search (hn : n ≤ 4) (hs : s.Clear n) (order : TrialOrder) (depth : Nat)
    (kind : StepKind) {data : UserData} (hdata : data.Clear n) (topic : String) {message : Text}
    (hm : s.Compared n message) : Ensures (Turn.Clear n) (fun found => ∀ f ∈ found, Captured n s f)
      (search s order depth kind data topic message) := by
  intro t ht
  refine ⟨?_, ht.vars, ht.globals, ht.sessions⟩
  change ∀ f ∈ (s.findMatch order t.vars data message topic depth).1.bind fun f =>
    (s.trigger? f.id).map fun g => (f, g), Captured n s f
  intro f hf
  obtain ⟨found, hfound, hf⟩ := Option.bind_eq_some_iff.1 hf
  obtain ⟨g, hg, rfl⟩ := Option.map_eq_some_iff.1 hf
  obtain ⟨hstars, hbotstars⟩ := clear_findMatch hn hs order t.vars hdata hm topic depth hfound
  obtain ⟨u, hu, hmem⟩ := Option.bind_eq_some_iff.1 hg
  exact ⟨hstars, hbotstars, _, u, hu, List.mem_of_getElem? hmem⟩

theorem ensures_leaveUnknownTopic (hn : n ≤ 4) (s : Script) (user : String) :
    Ensures (Turn.Clear n) (UserData.Clear n) (leaveUnknownTopic s user) := by
  have htopic : Text.Clear n "topic".toList := Text.clear_of_all hn (by decide)
  have hdefault : Text.Clear n defaultTopic.toList := Text.clear_of_all hn (by decide)
  refine (Talk.ensures_data? hn user).bind fun data hdata => .ite (.pure hdata) ?_
  exact (Talk.ensures_setVar hn user htopic hdefault).bind fun _ _ =>
    .pure ⟨hdata.vars.insert htopic hdefault, hdata.history⟩

theorem ensures_openingReply (hn : n ≤ 4) (user : String) {t : Text} (ht : t.Clear n) :
    Ensures (Turn.Clear n) (Text.Clear n) (openingReply user t) := by
  have hwithin : setTag.Within fun a => a.1 ++ a.2 := by
    intro t a rest h
    obtain ⟨⟨name, rest₁⟩, hname, h⟩ := Option.bind_eq_some_iff.1 h
    obtain ⟨⟨value, rest₂⟩, hvalue, he⟩ := Option.bind_eq_some_iff.1 h
    cases he
    obtain ⟨u, v, rfl, -⟩ := Scan.delimited_eq_some hname
    obtain ⟨w, rfl, -⟩ := Scan.until?_eq_some hvalue
    constructor
    · intro c hc
      rcases List.mem_append.1 hc with hc | hc <;> simp [hc]
    · intro c hc
      simp [hc]
  refine (Expand.ensures_topics hn user ht).bind fun t ht => ?_
  refine Ensures.replacing_clear hwithin (fun a ha => ?_) _ ht
  obtain ⟨hname, hvalue⟩ := Text.clear_append.1 ha
  exact (Talk.ensures_setVar hn user hname hvalue).bind fun _ _ => .pure Text.clear_nil

end Resolve

/-! ## Resolving -/

open Resolve

variable {s : Script} {order : TrialOrder} {a : Speaker}

/-- What an answer starts from. The script is clear, and calls are not mixed with other tags unless
their marks do not count. -/
structure Undisturbed (n : Nat) (s : Script) (a : Speaker) : Prop where
  pos : 0 < n
  le : n ≤ 4
  script : s.Clear n
  speaker : a.Clear n
  calls : n ≤ 2 ∨ s.Quiet

/-- The texts of a script are expanded to clear texts if redirects are. -/
theorem Undisturbed.ensures_expand (h : Undisturbed n s a) {redirect : Redirect}
    (hr : ∀ m, s.Compared n m → Ensures (Turn.Clear n) (Text.Clear n) (redirect m))
    {stars botstars : List String} (hstars : ∀ x ∈ stars, s.Compared n x.toList)
    (hbotstars : ∀ x ∈ botstars, s.Compared n x.toList) {t : Text} (ht : s.Expands t) :
    Ensures (Turn.Clear n) (Text.Clear n) (expand s a redirect stars botstars t) :=
  Repartee.ensures_expand h.le h.script h.speaker h.pos hr hstars hbotstars (ht.clear h.script)
    (h.calls.imp_right fun hq => hq.unmixed t ht)

namespace Undisturbed

/-- Responding is clear if resolving with the levels left is. -/
theorem ensures_respond (h : Undisturbed n s a) {levels : Nat}
    (hr : ∀ depth kind m, s.Compared n m →
      Ensures (Turn.Clear n) (Text.Clear n) (resolve s order a levels depth kind m))
    (depth : Nat) (kind : StepKind) {found : Option (Found × Trigger)}
    (hfound : ∀ f ∈ found, Captured n s f) :
    Ensures (Turn.Clear n) (Text.Clear n) (respond s order a levels depth kind found) := by
  have hnone : ∀ x ∈ ([] : List String), s.Compared n x.toList := fun _ hx =>
    absurd hx List.not_mem_nil
  have hnotice {text : String} (ht : s.Expands text.toList) :
      Ensures (Turn.Clear n) (Text.Clear n)
        (if kind = .opening ∧ depth = 0 then pure text.toList
          else expand s a (resolve s order a levels (depth + 1) .normal) [] [] text.toList) :=
    .ite (.pure (ht.clear h.script))
      (h.ensures_expand (hr (depth + 1) .normal) hnone hnone ht)
  cases found with
  | none => exact hnotice .notMatched
  | some f =>
    obtain ⟨hstars, hbotstars, name, t, ht, hg⟩ := hfound f rfl
    obtain ⟨found, g⟩ := f
    have hexpand {x : Text} (hx : g.Expands x) : Ensures (Turn.Clear n) (Text.Clear n)
        (expand s a (resolve s order a levels (depth + 1) .normal) found.stars found.botstars x) :=
      h.ensures_expand (hr (depth + 1) .normal) hstars hbotstars (.trigger ht hg hx)
    have hkeep : Ensures (Turn.Clear n) (fun _ => True) (keepStars depth kind found.stars) :=
      fun t ht => ⟨trivial, ht.vars, ht.globals, ht.sessions⟩
    refine hkeep.bind fun _ _ => ?_
    cases hredirect : g.redirect with
    | some redirect =>
      exact (hexpand (.redirect hredirect)).bind fun target htarget =>
        hr _ _ _ (h.script.normalize h.le false htarget)
    | none =>
      refine (ensures_chosenReply h.le fun x hx => hexpand hx).bind fun reply hreply => ?_
      by_cases hempty : reply = []
      · rw [if_pos hempty]
        exact hnotice .notFound
      · have hreply := hreply.resolve_left hempty
        rw [if_neg hempty]
        exact .ite (ensures_openingReply h.le a.user (Script.Expands.clear h.script
          (.trigger ht hg hreply))) (hexpand hreply)

/-- **A clear message is resolved to a clear text**, by induction on the levels left. -/
theorem ensures_resolve (h : Undisturbed n s a) : ∀ (levels depth : Nat) (kind : StepKind)
    (message : Text), s.Compared n message →
      Ensures (Turn.Clear n) (Text.Clear n) (resolve s order a levels depth kind message)
  | 0, _, _, _, _ => .pure h.script.notices.deepRecursion
  | levels + 1, depth, kind, message, hm => by
    have hnoTopic : Text.Clear n
        ("ERR: No default topic '" ++ defaultTopic ++ "' was found!").toList :=
      Text.clear_of_all h.le (by decide)
    rw [resolve_succ]
    refine (ensures_leaveUnknownTopic h.le s a.user).bind fun data hdata => ?_
    refine .ite (.pure hnoTopic) ?_
    exact (ensures_search h.le h.script order depth kind hdata _ hm).bind fun found hfound =>
      h.ensures_respond (ensures_resolve h levels) depth kind hfound

/-- **The answer to a clear message is clear.** -/
theorem ensures_answer (h : Undisturbed n s a) {message : Text} (hm : s.Compared n message) :
    Ensures (Turn.Clear n) (Text.Clear n) (answer s order a message) := by
  have hnormal := @ensures_resolve n s order a h (s.depth + 1) 0 .normal message hm
  rw [answer]
  by_cases hbegin : s.topics.contains beginTopic = true
  · have hlow : n ≤ 2 := h.calls.resolve_right fun hq => by
      rw [hq.noBegin] at hbegin
      cases hbegin
    have hrequest : s.Compared n "request".toList := Script.compared_of_all h.le (by decide)
    have hfill {opening : Text} (ho : opening.Clear n) : Ensures (Turn.Clear n) (Text.Clear n)
        (fill (resolve s order a (s.depth + 1) 0 .normal message) opening) :=
      .ite (hnormal.bind fun t ht => .pure (ho.replace okMark ht)) (.pure ho)
    rw [if_pos hbegin]
    refine (h.ensures_resolve _ _ _ _ hrequest).bind fun opening ho => ?_
    refine (hfill ho).bind fun text ht => ?_
    exact Repartee.ensures_expand h.le h.script h.speaker h.pos (h.ensures_resolve _ _ _)
      (fun _ hx => absurd hx List.not_mem_nil) (fun _ hx => absurd hx List.not_mem_nil) ht
      (.inl hlow)
  · rw [if_neg hbegin]
    exact hnormal

end Undisturbed

end Repartee

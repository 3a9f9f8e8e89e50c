import Repartee.Proofs.Reply.Agreement
import Repartee.Proofs.Reply.Verbatim

/-!
# A begin block that lets answers pass

The begin block with the only trigger `request` and the only reply `{ok}`. The opening pass finds
this trigger and leaves the mark in which the answer is put; the answer itself is expanded once
more.

* `Text.Inert`: a text in which no pass recognises anything; **`expand_inert`**: it stays as it is.
* `run_expand_of_passes`: nothing is left to do behind the pass that leaves such a text.
* `asks`: a begin block with the only trigger `request`; `passThrough`: with the reply `{ok}`.
* `Script.findMatch_asks`: its trigger is found.
* `Resolve.run_opening_asks`: the opening pass carries out the changes of the reply.
* **`Resolve.run_opening`**: the opening pass leaves a step, a match record and a roll of the dice.
-/

namespace Repartee

/-! ## Inert texts -/

/-- A text without the characters and the pair that tags, blocks, escapes, arrays and marks begin
with. -/
structure Text.Inert (t : Text) : Prop where
  angle : '<' ∉ t
  brace : '\x7b' ∉ t
  escape : '\\' ∉ t
  array : ¬['(', '@'] <:+: t
  marks : t.Clear 4

variable {t : Text}

/-- A text is inert if its characters are of a class without those that something begins with. -/
theorem Text.inert_of_forall {p : Char → Bool} (h : ∀ c ∈ t, p c)
    (hp : ['<', '\x7b', '\\', '(', '\x00', '\x01', '\x02', '\x03'].any p = false) : t.Inert := by
  rw [List.any_eq_false] at hp
  have hnot {c : Char} (hc : ¬p c) : c ∉ t := fun hmem => hc (h c hmem)
  refine ⟨hnot (hp _ (by decide)), hnot (hp _ (by decide)), hnot (hp _ (by decide)),
    fun harray => hnot (hp '(' (by decide)) (harray.subset List.mem_cons_self), fun c hc => ?_⟩
  have hlow : ∀ n < 4, Char.ofNat n ∈
      ['<', '\x7b', '\\', '(', '\x00', '\x01', '\x02', '\x03'] := by decide
  by_contra hlt
  have hfalse := hp _ (hlow c.toNat (Nat.not_le.1 hlt))
  rw [Char.ofNat_toNat] at hfalse
  exact hfalse (h c hc)

theorem Text.startsWithFolded?_of_notMem {o : Text} (h : '<' ∉ t) :
    startsWithFolded? ('<' :: o) t = none := by
  cases t with
  | nil => rfl
  | cons c cs =>
    have hc : c ≠ '<' := (List.ne_and_not_mem_of_not_mem_cons h).1.symm
    rw [startsWithFolded?, sameFolded_of_ne rfl hc]
    rfl

theorem Text.Inert.unread (h : t.Inert) : t.Unread where
  brace := h.brace
  escape := h.escape
  array := h.array
  marks := h.marks
  names u hu _ _ :=
    startsWithFolded?_of_notMem fun hmem => h.angle ((List.mem_tails u t).1 hu |>.mem hmem)

/-- **Expanding leaves an inert text as it is, and changes nothing.** -/
theorem expand_inert (h : t.Inert) (s : Script) (a : Speaker) (redirect : Redirect)
    (stars botstars : List String) : expand s a redirect stars botstars t = pure t := by
  obtain ⟨hchoice, hformats, htopic, hredirect⟩ := Expand.find?_eq_none_of_brace h.brace
  have hcall : '\x02' ∉ t := h.marks.notMem (by decide)
  rw [expand_eq_runAll s a (fun hist => Expand.prepare_unread h.unread s a hist stars botstars)
      ⟨h.marks.notMem (by decide), h.marks.notMem (by decide)⟩ h.angle hchoice hformats htopic
      hredirect,
    Call.runAll, Talk.replacing_of_find? _ (Call.needs_marked.find?_eq_none hcall), map_pure,
    Call.unmark_eq_self hcall]

/-- Nothing is left to do when the choices and the variable tags leave an inert text. -/
theorem run_expand_of_passes {s : Script} {a : Speaker} {stars botstars : List String}
    {u v w : Text} {t₁ t₂ t₃ : Turn} (hprepare : ∀ h, Expand.prepare s a h stars botstars t = u)
    (hchoose : (Expand.choose s.depth u).run t₁ = (v, t₂)) (hformats : Expand.formats s v = v)
    (hresolve : (Variables.resolve a.user v).run t₂ = (w, t₃)) (hw : w.Inert)
    (redirect : Redirect) : (expand s a redirect stars botstars t).run t₁ = (w, t₃) := by
  obtain ⟨-, -, htopic, hredirect⟩ := Expand.find?_eq_none_of_brace hw.brace
  have hcall : '\x02' ∉ w := hw.marks.notMem (by decide)
  have hdata : (Talk.data? a.user).run t₁ = (t₁.sessions.data? a.user, t₁) := rfl
  rw [expand, Talk.run_bind, hdata]
  dsimp only
  rw [hprepare, Talk.run_bind, hchoose]
  dsimp only
  rw [hformats, Talk.run_bind, hresolve]
  dsimp only
  rw [Expand.topics, Talk.replacing_of_find? _ htopic, pure_bind, Expand.redirects,
    Talk.replacing_of_find? _ hredirect, pure_bind, Call.runAll,
    Talk.replacing_of_find? _ (Call.needs_marked.find?_eq_none hcall), map_pure,
    Call.unmark_eq_self hcall]
  rfl

/-! ## The begin block -/

/-- The trigger of the opening pass, with a single reply. -/
def asking (reply : String) : Trigger := { pattern := "request", replies := [reply] }

/-- The begin block with this trigger alone. -/
def asks (reply : String) : Topic := { name := beginTopic, triggers := [asking reply] }

/-- The trigger that asks for the answer and nothing else. -/
def askThrough : Trigger := { pattern := "request", replies := ["\x7bok\x7d"] }

/-- The begin block with this trigger alone. -/
def passThrough : Topic := { name := beginTopic, triggers := [askThrough] }

theorem Text.isSome_cutAt? {sep : Text} (hsep : sep ≠ []) (u : Text) : ∀ t : Text,
    (cutAt? sep (t ++ (sep ++ u))).isSome
  | [] => by
    obtain ⟨c, cs, rfl⟩ := List.exists_cons_of_ne_nil hsep
    have hfront := startsWith?_append (c :: cs) u
    rw [List.cons_append] at hfront
    rw [List.nil_append, List.cons_append, cutAt?, hfront]
    rfl
  | c :: t => by
    rw [List.cons_append, cutAt?]
    split
    · rfl
    · rw [Option.isSome_map]
      exact isSome_cutAt? hsep u t

/-- The mark in which the answer is put becomes the answer, behind the text in front of it. -/
theorem fill_append_okMark (h : '\x7b' ∉ t) (normal : Talk Text) :
    fill normal (t ++ okMark) = (t ++ ·) <$> normal := by
  have hmark : okMark ≠ [] := by decide
  have hreplace (text : Text) : Text.replace okMark text (t ++ okMark) = t ++ text := by
    have hneeds : (Scan.exactly okMark).Needs '\x7b' := Scan.needs_exactly _ _
    have hwhole := Text.replace_append hmark text []
    rw [List.append_nil, show Text.replace okMark text [] = [] from rfl, List.append_nil] at hwhole
    rw [Text.replace, hneeds.replaceAll_notMem _ h]
    exact congrArg (t ++ ·) hwhole
  have hcut := Text.isSome_cutAt? hmark [] t
  rw [List.append_nil] at hcut
  rw [fill, if_pos hcut]
  simp only [hreplace, bind_pure_comp]

/-- The mark alone becomes the answer. -/
theorem fill_okMark (normal : Talk Text) : fill normal okMark = normal := by
  have hfill := fill_append_okMark (t := []) List.not_mem_nil normal
  simpa only [List.nil_append, id_map'] using hfill

variable {s : Script} {order : TrialOrder} {reply : String} (hs : s.Current)
  (ho : s.order = some order) (hbegin : s.topics.find? beginTopic = some (asks reply))

include hs ho hbegin

/-- The only trigger of the begin block is tried, and found. -/
theorem Script.findMatch_asks (vars : Table String) (data : UserData) :
    s.findMatch order vars data "request".toList beginTopic 0 =
      (some { id := ⟨beginTopic, 0⟩, stars := [] }, 1) := by
  have htree : s.topics.tree s.depth beginTopic = [beginTopic] := by
    rw [Topics.tree, Topics.walk, hbegin]
    rfl
  have hordinary : s.topics.ordinary s.depth beginTopic = [⟨"request", ⟨beginTopic, 0⟩⟩] := by
    rw [Topics.ordinary, Topics.collect, hbegin]
    rfl
  have hprevious : s.topics.previous s.previous s.depth beginTopic = [] := by
    rw [Topics.previous, Topics.collect, hbegin]
    rfl
  have hstrip : String.ofList (Metadata.stripLevel "request".toList) = "request" := by decide
  obtain rfl := hs.order order ho
  have htried : ((TrialOrder.build s.topics s.previous s.depth).ordinary.find? beginTopic).getD [] =
      [⟨"request", ⟨beginTopic, 0⟩⟩] := by
    have hsort (e : Entry) : Entry.sort [e] = [e.bare] := by simp [Entry.sort, Entry.bare]
    rw [TrialOrder.ordinary_build, hordinary, hsort, Entry.bare, hstrip]
  have hentries : s.afterReplyEntries (.build s.topics s.previous s.depth) beginTopic = [] := by
    rw [afterReplyEntries, htree, List.flatMap_singleton, TrialOrder.previous_build, hprevious]
    simp [Entry.sort]
  rw [findMatch, hentries, htried]
  rfl

namespace Resolve

omit hs ho hbegin

/-- The step of the opening pass. -/
def openingStep : Step where
  depth := 0
  kind := .opening
  message := "request"
  topic := beginTopic
  candidates := 1
  matched := some "request"
  viaPrevious := false

variable {a : Speaker}

/-- The trigger is answered with its reply, whose changes are carried out. -/
theorem respond_asking (hne : reply ≠ "") (levels : Nat) (f : Found) :
    respond s order a levels 0 .opening (some (f, asking reply)) = (do
      let _ ← Talk.roll (Choice.weight reply)
      openingReply a.user reply.toList) := by
  have hkeep : keepStars 0 .opening f.stars = pure () := rfl
  have hnil : reply.toList ≠ [] := fun h => hne (String.toList_eq_nil_iff.1 h)
  simp only [respond, asking, hkeep, chosenReply, firstReply, pure_bind, Choice.pick_singleton,
    bind_assoc, Option.getD_some, hnil, if_false, and_self, if_true]

/-- The mark alone is left as it is. -/
theorem openingReply_okMark : openingReply a.user okMark = pure okMark := by
  have htopic : Expand.topicTag.find? okMark = none := by decide
  have hset : setTag.find? okMark = none := by decide
  rw [openingReply, Expand.topics, Talk.replacing_of_find? _ htopic, pure_bind,
    Talk.replacing_of_find? _ hset]

/-- What the search of the opening pass leaves of a turn, and the choice of the reply. -/
def opened (reply : String) (t : Turn) : Turn :=
  { ((record openingStep (some ⟨beginTopic, 0⟩)).run t).2 with
    dice := (t.dice.roll (Choice.weight reply)).2 }

include hs ho hbegin

/-- The opening pass finds the trigger and carries out the changes of its reply. -/
theorem run_opening_asks (hne : reply ≠ "") (levels : Nat) {t t' : Turn} {data : UserData}
    (hleave : (leaveUnknownTopic s a.user).run t = (data, t')) :
    (resolve s order a (levels + 1) 0 .opening "request".toList).run t =
      (openingReply a.user reply.toList).run (opened reply t') := by
  have hcontains : s.topics.contains (searchedTopic .opening data) = true := by
    change (s.topics.find? beginTopic).isSome = true
    rw [hbegin]
    rfl
  have hsearch : (search s order 0 .opening data (searchedTopic .opening data)
      "request".toList).run t' = (some ({ id := ⟨beginTopic, 0⟩, stars := [] }, asking reply),
        ((record openingStep (some ⟨beginTopic, 0⟩)).run t').2) := by
    have hfound := Script.findMatch_asks hs ho hbegin t'.vars data
    have htrigger : s.trigger? ⟨beginTopic, 0⟩ = some (asking reply) := by
      rw [Script.trigger?, Topics.trigger?, hbegin]
      rfl
    exact run_search .opening hfound htrigger
  rw [run_resolve_succ levels 0 _ hleave, if_pos hcontains, Talk.run_bind, hsearch,
    respond_asking hne]
  rfl

omit hbegin

/-- **The opening pass leaves a step, a match record and a roll of the dice.** -/
theorem run_opening (hbegin : s.topics.find? beginTopic = some passThrough) (levels : Nat)
    {t t' : Turn} {data : UserData}
    (hleave : (leaveUnknownTopic s a.user).run t = (data, t')) :
    (resolve s order a (levels + 1) 0 .opening "request".toList).run t =
      (okMark,
        { ((record openingStep (some ⟨beginTopic, 0⟩)).run t').2 with
          dice := (t'.dice.roll 1).2 }) := by
  have hweight : Choice.weight "\x7bok\x7d" = 1 := by decide
  have hbegin : s.topics.find? beginTopic = some (asks "\x7bok\x7d") := hbegin
  rw [run_opening_asks hs ho hbegin (by decide) levels hleave, opened, hweight]
  change (openingReply a.user okMark).run _ = _
  rw [openingReply_okMark]
  rfl

end Resolve

end Repartee

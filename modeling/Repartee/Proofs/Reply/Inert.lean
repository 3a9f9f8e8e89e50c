import Repartee.Proofs.Reply.Marks
import Repartee.Reply.Choice
import Repartee.Reply.Expand

/-!
# Texts that no pass recognises

What takes the place of a star goes through the passes that follow. They leave it alone if it has
none of the characters that tags and marks begin with and no block that a pass carries out.

* `Harmless`: no block is recognised, and no mark stands in the text.
* `Choice.pick_singleton`: a choice that is none.
* `Expand.prepare_star`: a star becomes the text captured for it.
* **`expand_star`**: a reply that is a star is a harmless text itself, and nothing changes.
-/

namespace Repartee

/-- A text without marks in which no choice, format, change of topic or redirect is recognised. -/
structure Harmless (t : Text) : Prop where
  parked : '\x00' ∉ t ∧ '\x01' ∉ t
  marks : '\x02' ∉ t
  choice : Expand.randomTag.find? t = none
  formats : ∀ f ∈ Expand.allFormats, (Expand.block f.1).find? t = none
  topic : Expand.topicTag.find? t = none
  redirect : Expand.redirectTag.find? t = none

variable {t : Text}

/-- No block is recognised in a text without braces. -/
theorem Expand.find?_eq_none_of_brace (h : '\x7b' ∉ t) :
    randomTag.find? t = none ∧ (∀ f ∈ allFormats, (block f.1).find? t = none) ∧
      topicTag.find? t = none ∧ redirectTag.find? t = none := by
  have hblock {opening closing : String} {allowed : Char → Bool} {least : Nat} {os : Text}
      (ho : opening.toList = '\x7b' :: os) :
      (Scan.delimited opening allowed least closing).find? t = none :=
    (Scan.needs_delimited ho rfl).find?_eq_none h
  refine ⟨hblock rfl, fun f _ => ?_, hblock rfl, hblock rfl⟩
  exact @hblock _ _ _ _ (f.1.toList ++ ['\x7d']) (by simp)

/-- Letters, digits and spaces are harmless. -/
theorem harmless_of_plain (h : ∀ c ∈ t, c = ' ' ∨ c.isAlphanum) : Harmless t := by
  have hnot (c : Char) (hc : c ≠ ' ' ∧ c.isAlphanum = false) : c ∉ t := by
    intro hm
    rcases h c hm with rfl | ha
    · exact hc.1 rfl
    · rw [hc.2] at ha
      cases ha
  obtain ⟨hchoice, hformats, htopic, hredirect⟩ :=
    Expand.find?_eq_none_of_brace (hnot '\x7b' (by decide))
  exact ⟨⟨hnot _ (by decide), hnot _ (by decide)⟩, hnot _ (by decide), hchoice, hformats, htopic,
    hredirect⟩

/-! ## Single passes -/

/-- A loop ends at once where nothing is found. -/
theorem Talk.replacing_of_find? {α : Type} {p : Scan α} (f : α → Talk Text)
    (h : p.find? t = none) (n : Nat) : Talk.replacing p f n t = pure t := by
  cases n with
  | zero => rfl
  | succ n => rw [replacing, h]

theorem Shorthand.needs_historyTag : historyTag.Needs '<' := by
  intro c cs hc
  have hinput : "<input".toList = '<' :: "input".toList := by decide
  have hreply : "<reply".toList = '<' :: "reply".toList := by decide
  have hfolded : Text.sameFolded '<' c = false := Text.sameFolded_of_ne rfl hc
  simp [historyTag, hinput, hreply, Text.startsWithFolded?, hfolded]

theorem Shorthand.arrays_eq_self (hopen : arrayTag.find? t = none) (hparked : '\x00' ∉ t)
    (s : Script) : arrays s t = t := by
  have hneeds : parkedArray.Needs '\x00' := Scan.needs_delimited rfl rfl
  rw [arrays, Scan.replaceAgain_of_find? hopen,
    Scan.replaceAll_of_find? (hneeds.find?_eq_none hparked)]

theorem Metadata.stripWeight_eq_self (h : '\x7b' ∉ t) : stripWeight t = t := by
  have hneeds : weightTag.Needs '\x7b' := Scan.needs_delimited rfl rfl
  exact Scan.replaceAll_of_find? (hneeds.find?_eq_none h)

theorem Shorthand.unescape_eq_self (h : '\\' ∉ t) : unescape t = t := by
  simp only [unescape, Text.replace_eq_self _ _ h]

theorem Call.unmark_eq_self (h : '\x02' ∉ t) : unmark t = t := by
  simp only [unmark, callOpen_eq, callClose_eq, argOpen_eq, argClose_eq,
    Text.replace_eq_self _ _ h]

theorem Variables.unpark_eq_self (h : '\x00' ∉ t ∧ '\x01' ∉ t) : unpark t = t := by
  have hc : ∀ c ∈ t, (if c = '\x00' then '<' else if c = '\x01' then '>' else c) = c := by
    intro c hc
    rw [if_neg (ne_of_mem_of_not_mem hc h.1), if_neg (ne_of_mem_of_not_mem hc h.2)]
  rw [unpark, List.map_congr_left hc, List.map_id']

theorem Expand.formats_eq_self (s : Script)
    (h : ∀ f ∈ allFormats, (block f.1).find? t = none) : formats s t = t := by
  rw [formats]
  generalize allFormats = fs at h
  induction fs with
  | nil => rfl
  | cons f fs ih =>
    rw [List.foldl_cons]
    dsimp only
    rw [Scan.replaceAgain_of_find? (h f List.mem_cons_self)]
    exact ih fun g hg => h g (List.mem_cons_of_mem f hg)

/-- A single reply is chosen with one roll of the dice. -/
theorem Choice.pick_singleton (r : String) :
    pick [r] = (do
      let _ ← Talk.roll (weight r)
      pure (some r)) := by
  have htotal : total [r] = weight r := Nat.add_zero _
  have hat (roll : Nat) : (at? [r] roll).or (some r) = some r := by
    rw [at?, at?]
    split <;> rfl
  change (do
    let roll ← Talk.roll (total [r])
    pure ((at? [r] roll).or (some r))) = _
  simp only [htotal, hat]

/-! ## A star -/

variable (s : Script) (a : Speaker)

/-- A star becomes the text captured for it. -/
theorem Expand.prepare_star (hangle : '<' ∉ t) (hescape : '\\' ∉ t) (h : History)
    (botstars : List String) :
    prepare s a h [String.ofList t] botstars "<star>".toList = t := by
  have harrays := Shorthand.arrays_eq_self (t := "<star>".toList) (by decide) (by decide) s
  have hwrap : Call.wrap "<star>".toList = "<star>".toList := by decide
  have htags : Shorthand.tags "<star>".toList = "<star>".toList := by decide
  have hweight : Metadata.stripWeight "<star>".toList = "<star>".toList :=
    Metadata.stripWeight_eq_self (by decide)
  have hbotstar : (Scan.delimited "<botstar" isDigit 0 ">").Needs '<' :=
    Scan.needs_delimited rfl rfl
  have hid : (Scan.opening "<id>").Needs '<' := Scan.needs_opening rfl rfl
  have hstar : Shorthand.stars [String.ofList t] botstars "<star>".toList = t := by
    have hstar : (Scan.delimited "<star" isDigit 0 ">").replaceAll
        (Shorthand.star [String.ofList t]) ("<star>".toList ++ []) = t := by
      rw [@Scan.replaceAll_append _ _ _ _ _ [] (by decide) (by decide)]
      change (String.ofList t).toList ++ [] = t
      rw [String.toList_ofList, List.append_nil]
    rw [List.append_nil] at hstar
    rw [Shorthand.stars, hstar, Scan.replaceAll_of_find? (hbotstar.find?_eq_none hangle)]
  rw [prepare, harrays, hwrap, htags, hweight, hstar, Shorthand.history,
    Scan.replaceAll_of_find? (Shorthand.needs_historyTag.find?_eq_none hangle), Shorthand.user,
    Scan.replaceAll_of_find? (hid.find?_eq_none hangle), Shorthand.unescape_eq_self hescape]

/-- Where the first passes leave no tag and no block, nothing is left to do but run calls. -/
theorem expand_eq_runAll {u : Text} {stars botstars : List String}
    (hprepare : ∀ h, Expand.prepare s a h stars botstars u = t)
    (hparked : '\x00' ∉ t ∧ '\x01' ∉ t) (hangle : '<' ∉ t)
    (hchoice : Expand.randomTag.find? t = none)
    (hformats : ∀ f ∈ Expand.allFormats, (Expand.block f.1).find? t = none)
    (htopic : Expand.topicTag.find? t = none) (hredirect : Expand.redirectTag.find? t = none)
    (redirect : Redirect) : expand s a redirect stars botstars u = Call.runAll s a t := by
  have hvariable : Variables.innermost.Needs '<' := Scan.needs_delimited rfl rfl
  have hvariables : Variables.resolve a.user t = pure t := by
    rw [Variables.resolve, Talk.replacing_of_find? _ (hvariable.find?_eq_none hangle), map_pure,
      Variables.unpark_eq_self hparked]
  simp only [expand, hprepare, Expand.choose, Talk.replacing_of_find? _ hchoice, pure_bind,
    Expand.formats_eq_self s hformats, hvariables, Expand.topics,
    Talk.replacing_of_find? _ htopic, Expand.redirects, Talk.replacing_of_find? _ hredirect]
  rfl

/-- **A reply that is a star is a harmless text itself, and nothing changes.** -/
theorem expand_star (h : Harmless t) (hangle : '<' ∉ t) (hescape : '\\' ∉ t)
    (redirect : Redirect) (botstars : List String) :
    expand s a redirect [String.ofList t] botstars "<star>".toList = pure t := by
  have hcalls : Call.runAll s a t = pure t := by
    rw [Call.runAll, Talk.replacing_of_find? _ (Call.needs_marked.find?_eq_none h.marks), map_pure,
      Call.unmark_eq_self h.marks]
  rw [expand_eq_runAll s a (fun _ => Expand.prepare_star s a hangle hescape _ _) h.parked hangle
    h.choice h.formats h.topic h.redirect, hcalls]

end Repartee

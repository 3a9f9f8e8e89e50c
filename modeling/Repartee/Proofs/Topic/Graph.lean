import Repartee.Pattern.Metadata
import Repartee.Proofs.Text.Clear
import Repartee.Topic.Graph

/-!
# The triggers of a topic graph

* `Metadata.levelTag_tagged`, `Metadata.stripLevel_tagged`: the level that a walk puts before a
  pattern is recognised and can be removed again.
* `Topics.DrawsOn`: a topic draws on another one, maybe through further ones.
* `Topics.mem_collect`: what a walk collects are triggers of the topics, their patterns with a level
  or without.
* `Topics.DrawsOn.of_mem_collect`: they are those of topics that its first topic draws on.
* `Topics.previousIndex_find?`: a trigger with a previous pattern is indexed, or a later one with
  the same patterns is.
-/

namespace Repartee

/-- The positions in a list go up. -/
theorem pairwise_zipIdx {α : Type} (l : List α) : l.zipIdx.Pairwise fun a b => a.2 < b.2 := by
  rw [← List.pairwise_map (f := Prod.snd), List.zipIdx_map_snd]
  exact List.pairwise_lt_range'

/-! ## Levels -/

namespace Metadata

/-- The level that a walk puts before a pattern, behind its opening brace. -/
def levelText (level : Nat) : Text := ("inherits=" ++ toString level ++ "\x7d").toList

theorem levelText_eq (level : Nat) :
    levelText level = "inherits=".toList ++ (Nat.toDigits 10 level ++ ['\x7d']) := by
  simp [levelText]

theorem tagged_toList (level : Nat) (pattern : String) :
    (Topics.tagged level pattern).toList = '\x7b' :: (levelText level ++ pattern.toList) := by
  simp [Topics.tagged, levelText]

/-- The level is written in decimal between its opening and a brace. -/
theorem tagged_toList_digits (level : Nat) (pattern : String) :
    (Topics.tagged level pattern).toList =
      "\x7binherits=".toList ++ (Nat.toDigits 10 level ++ '\x7d' :: pattern.toList) := by
  rw [tagged_toList, levelText_eq]
  simp

theorem isDigit_of_mem_toDigits {level : Nat} {c : Char} (h : c ∈ Nat.toDigits 10 level) :
    c.isDigit :=
  Nat.isDigit_of_mem_toDigits (by decide) (by decide) h

/-- The level that a walk puts before a pattern is recognised. -/
theorem levelTag_tagged (level : Nat) (pattern : String) :
    levelTag ('\x7b' :: (levelText level ++ pattern.toList)) =
      some (Nat.toDigits 10 level, pattern.toList) := by
  have hdigits : ∀ c ∈ Nat.toDigits 10 level, isDigit c ∧ Text.sameFolded '\x7d' c = false := by
    intro c hc
    have hd := isDigit_of_mem_toDigits hc
    refine ⟨isDigit_of_isDigit hd, Text.sameFolded_of_ne (by decide) ?_⟩
    rintro rfl
    exact absurd hd (by decide)
  rw [levelText_eq, List.append_assoc, List.append_assoc]
  exact Scan.delimited_append (List.all_eq_true.1 (by decide)) (by decide)
    Nat.length_toDigits_pos hdigits _

/-- The level that a walk puts before a pattern can be removed again. -/
theorem stripLevel_tagged (level : Nat) (pattern : String) :
    stripLevel (Topics.tagged level pattern).toList = stripLevel pattern.toList := by
  have hreplace := Scan.replaceAll_append (f := fun _ => []) (List.cons_ne_nil _ _)
    (levelTag_tagged level pattern)
  rw [stripLevel, stripLevel, tagged_toList, ← List.cons_append, hreplace]
  rfl

end Metadata

namespace Topics

variable {ts : Topics} {keep : TriggerId → Trigger → Bool}

/-! ## Walks -/

/-- An entry is for a trigger of the topics that was kept, its pattern with a level or without. -/
structure Stems (ts : Topics) (keep : TriggerId → Trigger → Bool) (e : Entry) (g : Trigger) :
    Prop where
  trigger : ts.trigger? e.id = some g
  kept : keep e.id g
  pattern : e.pattern = g.pattern ∨ ∃ level, e.pattern = tagged level g.pattern

theorem mem_own {t : Topic} {name : String} {tag : Bool} {level : Nat} {e : Entry} :
    e ∈ own keep t name tag level ↔ ∃ i g, t.triggers[i]? = some g ∧ keep ⟨name, i⟩ g ∧
      e = ⟨if tag then tagged level g.pattern else g.pattern, ⟨name, i⟩⟩ := by
  rw [own, List.mem_filterMap]
  constructor
  · rintro ⟨⟨g, i⟩, hg, he⟩
    dsimp only at he
    split at he
    · rename_i hk
      exact ⟨i, g, List.mk_mem_zipIdx_iff_getElem?.1 hg, hk, (Option.some_inj.1 he).symm⟩
    · cases he
  · rintro ⟨i, g, hg, hk, rfl⟩
    exact ⟨(g, i), List.mk_mem_zipIdx_iff_getElem?.2 hg, if_pos hk⟩

/-- What a walk collects stems from the triggers of the topics. -/
theorem mem_collect : ∀ {n : Nat} {name : String} {level : Nat} {inherited : Bool} {e : Entry},
    e ∈ collect ts keep n name level inherited → ∃ g, Stems ts keep e g
  | n + 1, name, level, inherited, e, h => by
    rw [collect] at h
    cases ht : ts.find? name with
    | none =>
      rw [ht] at h
      exact absurd h List.not_mem_nil
    | some t =>
      rw [ht] at h
      simp only [List.mem_append, List.mem_flatMap] at h
      rcases h with (⟨u, -, h⟩ | ⟨u, -, h⟩) | h
      · exact mem_collect h
      · exact mem_collect h
      · obtain ⟨i, g, hg, hk, rfl⟩ := mem_own.1 h
        refine ⟨g, by rw [trigger?, ht]; exact hg, hk, ?_⟩
        dsimp only
        split
        · exact .inr ⟨level, rfl⟩
        · exact .inl rfl

/-- A topic draws on itself, and on the topics included or inherited by those it draws on. -/
inductive DrawsOn (ts : Topics) (name : String) : String → Prop
  | self : DrawsOn ts name name
  | further {u v : String} {t : Topic} : DrawsOn ts name u → ts.find? u = some t →
    v ∈ t.includes ++ t.inherits → DrawsOn ts name v

/-- A walk leads only to topics that its first topic draws on. -/
theorem DrawsOn.of_mem_walk {name : String} :
    ∀ {n : Nat} {u v : String}, ts.DrawsOn name u → v ∈ walk ts n u → ts.DrawsOn name v
  | n + 1, u, v, hu, h => by
    rw [walk, List.mem_cons] at h
    rcases h with rfl | h
    · exact hu
    · cases ht : ts.find? u with
      | none => simp [ht] at h
      | some t =>
        rw [ht] at h
        obtain ⟨w, hw, hv⟩ := List.mem_flatMap.1 h
        exact of_mem_walk (hu.further ht hw) hv

/-- The triggers that a walk collects are those of topics that its first topic draws on. -/
theorem DrawsOn.of_mem_collect {name : String} :
    ∀ {n : Nat} {u : String} {level : Nat} {inherited : Bool} {e : Entry}, ts.DrawsOn name u →
      e ∈ collect ts keep n u level inherited → ts.DrawsOn name e.id.topic
  | n + 1, u, level, inherited, e, hu, h => by
    rw [collect] at h
    cases ht : ts.find? u with
    | none =>
      rw [ht] at h
      exact absurd h List.not_mem_nil
    | some t =>
      rw [ht] at h
      simp only [List.mem_append, List.mem_flatMap] at h
      rcases h with (⟨v, hv, h⟩ | ⟨v, hv, h⟩) | h
      · exact of_mem_collect (hu.further ht (List.mem_append_left _ hv)) h
      · exact of_mem_collect (hu.further ht (List.mem_append_right _ hv)) h
      · obtain ⟨i, g, -, -, rfl⟩ := mem_own.1 h
        exact hu

/-- The triggers of a topic are collected with it. -/
theorem own_mem_collect {n : Nat} {name : String} {t : Topic} (ht : ts.find? name = some t)
    {i : Nat} {g : Trigger} (hg : t.triggers[i]? = some g) (hk : keep ⟨name, i⟩ g) :
    ∃ e ∈ collect ts keep (n + 1) name 0 false, Stems ts keep e g := by
  have hown : ∃ e ∈ own keep t name (!t.inherits.isEmpty || false) 0, e.id = ⟨name, i⟩ :=
    ⟨_, mem_own.2 ⟨i, g, hg, hk, rfl⟩, rfl⟩
  obtain ⟨e, he, hid⟩ := hown
  have hmem : e ∈ collect ts keep (n + 1) name 0 false := by
    rw [collect, ht]
    exact List.mem_append_right _ he
  obtain ⟨g', hs⟩ := mem_collect hmem
  have hg' : ts.trigger? e.id = some g := by
    rw [hid, trigger?, ht]
    exact hg
  obtain rfl : g = g' := Option.some_inj.1 (hg'.symm.trans hs.trigger)
  exact ⟨e, hmem, hs⟩

/-! ## Triggers that follow a reply -/

theorem mem_previousPairs {t : Topic} {pattern previous : String} {i : Nat} :
    ((pattern, previous), i) ∈ t.previousPairs ↔
      ∃ g, t.triggers[i]? = some g ∧ g.pattern = pattern ∧ g.previous = some previous := by
  rw [Topic.previousPairs, List.mem_reverse, List.mem_filterMap]
  constructor
  · rintro ⟨⟨g, j⟩, hg, h⟩
    obtain ⟨p, hp, h⟩ := Option.map_eq_some_iff.1 h
    cases h
    exact ⟨g, List.mk_mem_zipIdx_iff_getElem?.1 hg, rfl, hp⟩
  · rintro ⟨g, hg, rfl, hp⟩
    exact ⟨(g, i), List.mk_mem_zipIdx_iff_getElem?.2 hg, by simp [hp]⟩

/-- A trigger with a previous pattern is indexed, or a later one with the same patterns is. -/
theorem previousIndex_find? {name : String} {t : Topic} (ht : ts.find? name = some t) {i : Nat}
    {g : Trigger} (hg : t.triggers[i]? = some g) {previous : String}
    (hp : g.previous = some previous) : ∃ j h, t.triggers[j]? = some h ∧ h.pattern = g.pattern ∧
      h.previous = some previous ∧
      ts.previousIndex.find? name g.pattern previous = some ⟨name, j⟩ := by
  have hmem := mem_previousPairs.2 ⟨g, hg, rfl, hp⟩
  have hsome : (t.previousPairs.lookup (g.pattern, previous)).isSome :=
    List.lookup_isSome_iff.2 ⟨_, hmem, beq_self_eq_true _⟩
  obtain ⟨j, hj⟩ := Option.isSome_iff_exists.1 hsome
  obtain ⟨l₁, l₂, hl, -⟩ := List.lookup_eq_some_iff.1 hj
  obtain ⟨h, hh, hpat, hprev⟩ := mem_previousPairs.1 (show ((g.pattern, previous), j) ∈ _ by
    rw [hl]
    exact List.mem_append_right _ List.mem_cons_self)
  refine ⟨j, h, hh, hpat, hprev, ?_⟩
  rw [PreviousIndex.find?, previousIndex, Table.find?_map, ht, Option.map_some, Option.bind_some,
    hj]
  rfl

end Topics

end Repartee

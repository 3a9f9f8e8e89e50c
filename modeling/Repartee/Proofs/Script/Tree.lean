import Repartee.Proofs.Topic.Inheritance

/-!
# One list stands for a topic tree

The triggers that follow a reply are looked for in the lists of all topics of a tree. Where no walk
is cut off, the list of the first topic has all of them.

* `Topics.mem_walk`: the topics met on a walk are those that there is a way to.
* `Topics.Within`: no way from a topic is longer than the limit of the walks.
* `Topics.bare_mem_collect`: what is collected from a topic of the tree is collected from the first
  one.
* **`Script.foundInLists_tree`**: the search through the lists of a tree finds what the search
  through the list of its first topic finds.
-/

namespace Repartee

namespace Topics

variable {ts : Topics} {name u v : String} {links : List Link} {n limit : Nat}

/-! ## Ways -/

/-- The topics one step from a topic. -/
def next (ts : Topics) (name : String) : List String :=
  (ts.find? name).elim [] fun t => t.includes ++ t.inherits

theorem mem_next : u ∈ ts.next name ↔ ∃ t, ts.find? name = some t ∧
    (u ∈ t.includes ∨ u ∈ t.inherits) := by
  rw [next]
  cases ts.find? name <;> simp

theorem Way.append {more : List Link} (h : ts.Way name links u) (h' : ts.Way u more v) :
    ts.Way name (links ++ more) v := by
  induction h with
  | here => exact h'
  | includes ht hu _ ih => exact .includes ht hu (ih h')
  | inherits ht hu _ ih => exact .inherits ht hu (ih h')

/-- A step and a way from where it leads. -/
theorem exists_way (hu : u ∈ ts.next name) (h : ts.Way u links v) :
    ∃ more, ts.Way name more v ∧ more.length = links.length + 1 := by
  obtain ⟨t, ht, hu | hu⟩ := mem_next.1 hu
  · exact ⟨_, .includes ht hu h, rfl⟩
  · exact ⟨_, .inherits ht hu h, rfl⟩

/-- A way takes no step, or begins with one. -/
theorem Way.cases_next (h : ts.Way name links v) : links = [] ∧ v = name ∨
    ∃ u ∈ ts.next name, ∃ more, ts.Way u more v ∧ links.length = more.length + 1 := by
  cases h with
  | here => exact .inl ⟨rfl, rfl⟩
  | includes ht hu h => exact .inr ⟨_, mem_next.2 ⟨_, ht, .inl hu⟩, _, h, rfl⟩
  | inherits ht hu h => exact .inr ⟨_, mem_next.2 ⟨_, ht, .inr hu⟩, _, h, rfl⟩

theorem walk_succ (ts : Topics) (n : Nat) (name : String) :
    walk ts (n + 1) name = name :: (ts.next name).flatMap (walk ts n) := by
  rw [walk, next]
  cases ts.find? name <;> rfl

/-- The topics met on a walk are those that there is a way to. -/
theorem mem_walk : v ∈ walk ts n name ↔ ∃ links, ts.Way name links v ∧ links.length < n := by
  induction n generalizing name with
  | zero => simp [walk]
  | succ n ih =>
    simp only [walk_succ, List.mem_cons, List.mem_flatMap, ih]
    constructor
    · rintro (rfl | ⟨u, hu, links, hway, hlength⟩)
      · exact ⟨[], .here, Nat.succ_pos n⟩
      · obtain ⟨more, hmore, hsucc⟩ := exists_way hu hway
        exact ⟨more, hmore, by omega⟩
    · rintro ⟨links, hway, hlength⟩
      rcases hway.cases_next with ⟨-, rfl⟩ | ⟨u, hu, more, hmore, hsucc⟩
      · exact .inl rfl
      · exact .inr ⟨u, hu, more, hmore, by omega⟩

/-! ## Limits that no walk exceeds -/

/-- No way from a topic has more steps than a limit. -/
def Within (ts : Topics) (limit : Nat) (name : String) : Prop :=
  ∀ links v, ts.Way name links v → links.length ≤ limit

theorem within_zero : ts.Within 0 name ↔ ts.next name = [] := by
  rw [List.eq_nil_iff_forall_not_mem]
  constructor
  · intro h u hu
    obtain ⟨more, hmore, hsucc⟩ := exists_way hu .here
    have := h more u hmore
    omega
  · intro h links v hway
    rcases hway.cases_next with ⟨rfl, -⟩ | ⟨u, hu, -⟩
    · exact Nat.le_refl 0
    · exact absurd hu (h u)

theorem within_succ : ts.Within (limit + 1) name ↔ ∀ u ∈ ts.next name, ts.Within limit u := by
  constructor
  · intro h u hu links v hway
    obtain ⟨more, hmore, hsucc⟩ := exists_way hu hway
    have := h more v hmore
    omega
  · intro h links v hway
    rcases hway.cases_next with ⟨rfl, -⟩ | ⟨u, hu, more, hmore, hsucc⟩
    · exact Nat.zero_le _
    · have := h u hu more v hmore
      omega

instance decidableWithin (ts : Topics) : ∀ limit name, Decidable (ts.Within limit name)
  | 0, _ => decidable_of_iff' _ within_zero
  | limit + 1, name =>
    have := decidableWithin ts limit
    decidable_of_iff' (∀ u ∈ ts.next name, ts.Within limit u) within_succ

/-- What a walk collects from a topic of a tree it collects, levels aside, from the first topic. -/
theorem bare_mem_collect {keep : TriggerId → Trigger → Bool} (h : ts.Within limit name)
    (hu : u ∈ ts.tree limit name) {d : Entry} (hd : d ∈ ts.collect keep (limit + 1) u 0 false) :
    ∃ e ∈ ts.collect keep (limit + 1) name 0 false, e.bare = d.bare := by
  obtain ⟨links, hway, -⟩ := mem_walk.1 hu
  rw [collect_eq] at hd ⊢
  obtain ⟨r, hr, rfl⟩ := List.mem_map.1 hd
  obtain ⟨hmore, -, hg, hk⟩ := mem_reached.1 hr
  -- the same trigger, reached from the first topic
  have hall := hway.append hmore
  have hreached : ⟨links ++ r.way, r.id, r.trigger⟩ ∈ ts.reached keep (limit + 1) name :=
    mem_reached.2 ⟨hall, Nat.lt_succ_of_le (h _ _ hall), hg, hk⟩
  exact ⟨_, List.mem_map_of_mem hreached, by rw [Reached.bare_entry, Reached.bare_entry]; rfl⟩

end Topics

namespace Script

variable {s : Script} {topic : String}

/-- The order of the triggers of a script. -/
def trialOrder (s : Script) : TrialOrder := .build s.topics s.previous s.depth

/-- What is found in the lists of some topics among the triggers that follow the last reply. -/
def foundInLists (s : Script) (vars : Table String) (user : UserData) (message : Text)
    (names : List String) : Option Found :=
  (firstFound (s.afterReply? (s.scope vars user) message (s.lastReply user))
    (names.flatMap fun name => (s.trialOrder.previous.find? name).getD [])).1

/-- A search through the lists of a topic tree finds what is found in the first of them. -/
theorem findSome?_tree {β : Type} (h : s.topics.Within s.depth topic) (f : Entry → Option β) :
    ((s.topics.tree s.depth topic).flatMap fun name =>
      Entry.sort (s.topics.previous s.previous s.depth name)).findSome? f =
        (Entry.sort (s.topics.previous s.previous s.depth topic)).findSome? f := by
  rw [Topics.tree, Topics.walk_succ, List.flatMap_cons, List.findSome?_append]
  cases hown : (Entry.sort (s.topics.previous s.previous s.depth topic)).findSome? f with
  | some b => rfl
  | none =>
    -- what is in a further list is in the first one, where nothing was found
    rw [Option.none_or, List.findSome?_eq_none_iff]
    intro e he
    obtain ⟨u, hu, he⟩ := List.mem_flatMap.1 he
    obtain ⟨d, hd, rfl⟩ := Entry.mem_sort.1 he
    have htree : u ∈ s.topics.tree s.depth topic := by
      rw [Topics.tree, Topics.walk_succ]
      exact List.mem_cons_of_mem topic hu
    obtain ⟨e, he, hbare⟩ := Topics.bare_mem_collect h htree hd
    exact List.findSome?_eq_none_iff.1 hown _ (Entry.mem_sort.2 ⟨e, he, hbare⟩)

/-- **Where no walk from a topic is cut off, the search for a trigger that follows the last reply
finds in the lists of the topic's tree what it finds in the topic's own list**; if this is nothing,
the ordinary triggers are searched. -/
theorem foundInLists_tree (s : Script) (vars : Table String) (user : UserData) (message : Text)
    {topic : String} (h : s.topics.Within s.depth topic) :
    s.foundInLists vars user message (s.topics.tree s.depth topic) =
        s.foundInLists vars user message [topic] ∧
      (s.findMatch s.trialOrder vars user message topic 0).1 =
        (s.foundInLists vars user message [topic] <|>
          (firstFound (ordinary? (s.scope vars user) message)
            ((s.trialOrder.ordinary.find? topic).getD [])).1) := by
  have htree : s.foundInLists vars user message (s.topics.tree s.depth topic) =
      s.foundInLists vars user message [topic] := by
    simp only [foundInLists, firstFound_eq, trialOrder, TrialOrder.previous_build]
    rw [findSome?_tree h, List.flatMap_singleton]
  refine ⟨htree, ?_⟩
  rw [← htree, findMatch, if_pos rfl]
  simp only [foundInLists, afterReplyEntries, lastReply]
  generalize firstFound (s.afterReply? _ _ _) _ = r
  obtain ⟨_ | found, m⟩ := r <;> rfl

/-- A topic that inherits one in which a trigger follows a reply; a walk takes at most one step. -/
def porch : Script :=
  let topics : Topics := (Table.empty.insert "random" {
      name := "random", inherits := ["door"] }).insert "door" {
      name := "door", triggers := [{ pattern := "*", previous := some "who is there" }] }
  { Script.new {} with depth := 1, topics, previous := topics.previousIndex }

/-- A user who was asked who is there. -/
def asked : UserData := { history := ({} : History).push "knock knock" "Who is there?" }

/-- The trigger of the inherited topic is found in the list of the first topic. -/
theorem porch_foundInLists :
    porch.topics.Within porch.depth "random" ∧
      porch.foundInLists ∅ asked "lettuce".toList (porch.topics.tree porch.depth "random") =
        porch.foundInLists ∅ asked "lettuce".toList ["random"] ∧
      (porch.findMatch porch.trialOrder ∅ asked "lettuce".toList "random" 0).1 =
        (porch.foundInLists ∅ asked "lettuce".toList ["random"] <|>
          (firstFound (ordinary? (porch.scope ∅ asked) "lettuce".toList)
            ((porch.trialOrder.ordinary.find? "random").getD [])).1) ∧
      (porch.foundInLists ∅ asked "lettuce".toList ["random"]).isSome :=
  have h : porch.topics.Within porch.depth "random" := by decide
  ⟨h, (porch.foundInLists_tree ∅ asked "lettuce".toList h).1,
    (porch.foundInLists_tree ∅ asked "lettuce".toList h).2, by decide +kernel⟩

end Script

end Repartee

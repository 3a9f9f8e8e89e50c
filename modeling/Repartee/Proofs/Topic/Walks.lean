import Mathlib.Data.List.Lex
import Repartee.Proofs.Topic.Inheritance

/-!
# The graph of topics laid out

What a topic draws on is read off the walks from it along inclusions and inheritances. The triggers
of each walk's last topic come after those of all walks that go on from it; in the tree, a walk
comes before those that go on from it.

* `Topics.Edge`, `Topics.Walk`: a step from one topic to another, and steps in a row.
* `Topics.Edge.Before`: inclusions come before inheritances, each in their order.
* `Topics.Postorder`: a walk comes after those that go on from it.
* `Topics.Lists`: a list of what has a property, in an order; `Topics.Lists.unique`.
* `Topics.Enters`, **`Topics.lists_entries`**: the entries of a walk, one by one.
* `Topics.walksThrough`, `Topics.walksTo`: the walks of fewer than some number of steps, through
  topics that exist and to a topic that need not.
* `Topics.reached_eq`: the triggers reached, walk by walk.
* **`Topics.ordinary_walks`**: what a topic draws on and its tree, walk by walk.
-/

namespace Repartee

namespace Topics

/-! ## Walks -/

/-- A step to a topic: along an inheritance or an inclusion, and which of them. -/
structure Edge where
  inherits : Bool
  position : Nat
  target : String
  deriving DecidableEq, Repr

/-- A topic has a step: the target is at its position among the topics included or inherited. -/
def Edge.From (t : Topic) (e : Edge) : Prop :=
  (if e.inherits then t.inherits else t.includes)[e.position]? = some e.target

/-- Inclusions come before inheritances, each in their order. -/
def Edge.Before (e f : Edge) : Prop :=
  e.inherits = false ∧ f.inherits = true ∨ e.inherits = f.inherits ∧ e.position < f.position

/-- Steps in a row from a topic. Each topic that is left exists; the last one need not. -/
def Walk (ts : Topics) : String → List Edge → Prop
  | _, [] => True
  | name, e :: w => (∃ t, ts.find? name = some t ∧ e.From t) ∧ Walk ts e.target w

/-- The topics on a walk, its ends included. -/
def stops (name : String) (w : List Edge) : List String := name :: w.map (·.target)

/-- The topic that a walk ends at. -/
def finish : String → List Edge → String
  | name, [] => name
  | _, e :: w => finish e.target w

/-- The number of inheritances of a walk. -/
def inheritances (w : List Edge) : Nat := w.countP (·.inherits)

/-- A walk comes after those that go on from it, and walks that part are in the order of the steps
that they part with. -/
inductive Postorder : List Edge → List Edge → Prop
  | further {e : Edge} {w : List Edge} : Postorder (e :: w) []
  | parted {e f : Edge} {w v : List Edge} : e.Before f → Postorder (e :: w) (f :: v)
  | together {e : Edge} {w v : List Edge} : Postorder w v → Postorder (e :: w) (e :: v)

/-- The triggers without a previous pattern of the topic that a walk ends at, in their order. Their
patterns have the number of inheritances of the walk in front if a topic on it inherits. -/
def entries (ts : Topics) (name : String) (w : List Edge) : List Entry :=
  (((ts.find? (finish name w)).elim [] Topic.triggers).zipIdx.filter (·.1.previous.isNone)).map
    fun (g, i) => {
      pattern :=
        if (stops name w).any ts.inheriting then tagged (inheritances w) g.pattern else g.pattern
      id := ⟨finish name w, i⟩ }

/-! ## Lists in an order -/

/-- A list of all that has a property, in an order. -/
structure Lists {α : Type} (r : α → α → Prop) (p : α → Prop) (l : List α) : Prop where
  mem : ∀ a, a ∈ l ↔ p a
  ordered : l.Pairwise r

/-- There is at most one such list. -/
theorem Lists.unique {α : Type} {r : α → α → Prop} (hr : ∀ a b, r a b → ¬r b a) {p : α → Prop}
    {l m : List α} (hl : Lists r p l) (hm : Lists r p m) : l = m := by
  have hirrefl (a : α) : ¬r a a := fun h => hr a a h h
  have hnodup {k : List α} (hk : Lists r p k) : k.Nodup :=
    hk.ordered.imp fun {a b} hab => by
      rintro rfl
      exact hirrefl a hab
  have hperm : l.Perm m :=
    (List.perm_ext_iff_of_nodup (hnodup hl) (hnodup hm)).2 fun a => (hl.mem a).trans (hm.mem a).symm
  exact hperm.eq_of_pairwise (fun a b _ _ hab hba => absurd hba (hr a b hab)) hl.ordered hm.ordered

theorem Edge.Before.asymm {e f : Edge} (h : e.Before f) : ¬f.Before e := by
  rintro (⟨he, hf⟩ | ⟨heq, hlt⟩) <;> rcases h with ⟨he', hf'⟩ | ⟨heq', hlt'⟩
  · simp_all
  · simp_all
  · simp_all
  · omega

instance : Std.Asymm Edge.Before := ⟨fun _ _ => Edge.Before.asymm⟩

theorem Postorder.asymm {w v : List Edge} (h : Postorder w v) : ¬Postorder v w := by
  induction h with
  | further => intro h; cases h
  | parted hef =>
    intro h
    cases h with
    | parted hfe => exact hef.asymm hfe
    | together => exact hef.asymm hef
  | together _ ih =>
    intro h
    cases h with
    | parted hee => exact hee.asymm hee
    | together h => exact ih h

variable {ts : Topics} {name : String} {w : List Edge} {n : Nat}

/-! ## The entries of a walk -/

/-- A walk passes a topic that inherits others. -/
def PassesInheriting (ts : Topics) (name : String) (w : List Edge) : Prop :=
  ∃ u ∈ stops name w, ∃ t, ts.find? u = some t ∧ t.inherits ≠ []

theorem any_inheriting_iff : (stops name w).any ts.inheriting ↔ ts.PassesInheriting name w := by
  refine List.any_eq_true.trans (exists_congr fun u => and_congr_right fun _ => ?_)
  simp [inheriting, Option.any_eq_true]

/-- A trigger of the topic that a walk ends at is entered: with the number of inheritances of the
walk in front of its pattern if the walk passes a topic that inherits, as it is if not. -/
structure Enters (ts : Topics) (name : String) (w : List Edge) (e : Entry) (g : Trigger) :
    Prop where
  topic : e.id.topic = finish name w
  trigger : ts.trigger? e.id = some g
  previous : g.previous = none
  inheriting : ts.PassesInheriting name w → e.pattern.toList =
    "\x7binherits=".toList ++ (Nat.toDigits 10 (inheritances w) ++ '\x7d' :: g.pattern.toList)
  other : ¬ts.PassesInheriting name w → e.pattern = g.pattern

theorem enters_iff {e : Entry} {g : Trigger} : ts.Enters name w e g ↔
    ts.trigger? ⟨finish name w, e.id.index⟩ = some g ∧ g.previous = none ∧ {
      pattern :=
        if (stops name w).any ts.inheriting then tagged (inheritances w) g.pattern else g.pattern
      id := ⟨finish name w, e.id.index⟩ } = e := by
  obtain ⟨pattern, topic, i⟩ := e
  have hpattern : (if (stops name w).any ts.inheriting then tagged (inheritances w) g.pattern
      else g.pattern) = pattern ↔
        (ts.PassesInheriting name w → pattern.toList = "\x7binherits=".toList ++
          (Nat.toDigits 10 (inheritances w) ++ '\x7d' :: g.pattern.toList)) ∧
        (¬ts.PassesInheriting name w → pattern = g.pattern) := by
    rw [← Metadata.tagged_toList_digits, String.toList_inj, ← any_inheriting_iff]
    split <;> simp [*, eq_comm]
  simp only [Entry.mk.injEq, TriggerId.mk.injEq, and_true, hpattern]
  constructor
  · rintro ⟨rfl, htrigger, hprevious, hinheriting, hother⟩
    exact ⟨htrigger, hprevious, ⟨hinheriting, hother⟩, rfl⟩
  · rintro ⟨htrigger, hprevious, ⟨hinheriting, hother⟩, rfl⟩
    exact ⟨rfl, htrigger, hprevious, hinheriting, hother⟩

/-- **The entries of a walk are those for the triggers without a previous pattern of the topic that
it ends at, each entered once, in the order of the triggers.** -/
theorem lists_entries (ts : Topics) (name : String) (w : List Edge) :
    Lists (fun d e : Entry => d.id.index < e.id.index) (fun e => ∃ g, ts.Enters name w e g)
      (ts.entries name w) where
  mem e := by
    have htrigger (i : Nat) : ((ts.find? (finish name w)).elim [] Topic.triggers)[i]? =
        ts.trigger? ⟨finish name w, i⟩ := by
      rw [trigger?]
      cases ts.find? (finish name w) <;> rfl
    simp only [entries, enters_iff, List.mem_map, List.mem_filter, Prod.exists,
      List.mk_mem_zipIdx_iff_getElem?, htrigger, Option.isNone_iff_eq_none]
    constructor
    · rintro ⟨g, i, ⟨hg, hprevious⟩, rfl⟩
      exact ⟨g, hg, hprevious, rfl⟩
    · rintro ⟨g, hg, hprevious, he⟩
      exact ⟨g, _, ⟨hg, hprevious⟩, he⟩
  ordered := by
    rw [entries, List.pairwise_map]
    exact (pairwise_zipIdx _).filter _

/-! ## The walks in order -/

/-- The steps of a kind to some topics. -/
def edgesTo (inherits : Bool) (us : List String) : List Edge :=
  us.zipIdx.map fun (u, i) => ⟨inherits, i, u⟩

/-- The steps from a topic. -/
def edges (ts : Topics) (name : String) : List Edge :=
  (ts.find? name).elim [] fun t => edgesTo false t.includes ++ edgesTo true t.inherits

theorem mem_edgesTo {inherits : Bool} {us : List String} {e : Edge} :
    e ∈ edgesTo inherits us ↔ e.inherits = inherits ∧ us[e.position]? = some e.target := by
  obtain ⟨b, i, u⟩ := e
  simp only [edgesTo, List.mem_map, Prod.exists, Edge.mk.injEq, List.mk_mem_zipIdx_iff_getElem?]
  constructor
  · rintro ⟨u, i, hu, rfl, rfl, rfl⟩
    exact ⟨rfl, hu⟩
  · rintro ⟨rfl, hu⟩
    exact ⟨u, i, hu, rfl, rfl, rfl⟩

theorem mem_edges {e : Edge} : e ∈ ts.edges name ↔ ∃ t, ts.find? name = some t ∧ e.From t := by
  rw [edges]
  cases ts.find? name with
  | none => simp
  | some t =>
    obtain ⟨b, i, u⟩ := e
    cases b <;> simp [mem_edgesTo, Edge.From]

theorem map_target_edgesTo (inherits : Bool) (us : List String) :
    (edgesTo inherits us).map (·.target) = us := by
  rw [edgesTo, List.map_map]
  exact List.zipIdx_map_fst 0 us

theorem pairwise_edgesTo (inherits : Bool) (us : List String) :
    (edgesTo inherits us).Pairwise Edge.Before := by
  rw [edgesTo, List.pairwise_map]
  exact (pairwise_zipIdx us).imp fun hlt => .inr ⟨rfl, hlt⟩

theorem pairwise_edges (ts : Topics) (name : String) : (ts.edges name).Pairwise Edge.Before := by
  rw [edges]
  cases ts.find? name with
  | none => exact .nil
  | some t =>
    refine List.pairwise_append.2 ⟨pairwise_edgesTo .., pairwise_edgesTo .., fun e he f hf => ?_⟩
    exact .inl ⟨(mem_edgesTo.1 he).1, (mem_edgesTo.1 hf).1⟩

/-- The walks of fewer than `n` steps through topics that exist, those that go on first. -/
def walksThrough (ts : Topics) : (n : Nat) → String → List (List Edge)
  | 0, _ => []
  | n + 1, name =>
    (ts.edges name).flatMap (fun e => (walksThrough ts n e.target).map (e :: ·)) ++
      if ts.contains name then [[]] else []

/-- The walks of fewer than `n` steps, those that go on last. -/
def walksTo (ts : Topics) : (n : Nat) → String → List (List Edge)
  | 0, _ => []
  | n + 1, name =>
    [] :: (ts.edges name).flatMap fun e => (walksTo ts n e.target).map (e :: ·)

theorem mem_walksThrough : ∀ {n : Nat} {name : String} {w : List Edge},
    w ∈ ts.walksThrough n name ↔ ts.Walk name w ∧ ts.contains (finish name w) ∧ w.length < n
  | 0, _, _ => by simp [walksThrough]
  | n + 1, name, [] => by simp [walksThrough, Walk, finish]
  | n + 1, name, e :: w => by
    simp only [walksThrough, List.mem_append, List.mem_flatMap, List.mem_map, List.cons.injEq,
      Walk, finish, List.length_cons, Nat.add_lt_add_iff_right]
    constructor
    · rintro (⟨f, hf, v, hv, rfl, rfl⟩ | h)
      · obtain ⟨hwalk, hfinish, hlength⟩ := mem_walksThrough.1 hv
        exact ⟨⟨mem_edges.1 hf, hwalk⟩, hfinish, hlength⟩
      · split at h <;> simp at h
    · rintro ⟨⟨he, hwalk⟩, hfinish, hlength⟩
      exact .inl ⟨e, mem_edges.2 he, w, mem_walksThrough.2 ⟨hwalk, hfinish, hlength⟩, rfl, rfl⟩

theorem mem_walksTo : ∀ {n : Nat} {name : String} {w : List Edge},
    w ∈ ts.walksTo n name ↔ ts.Walk name w ∧ w.length < n
  | 0, _, _ => by simp [walksTo]
  | n + 1, name, [] => by simp [walksTo, Walk]
  | n + 1, name, e :: w => by
    simp only [walksTo, List.mem_cons, List.mem_flatMap, List.mem_map, List.cons.injEq, Walk,
      List.length_cons, Nat.add_lt_add_iff_right, reduceCtorEq, false_or]
    constructor
    · rintro ⟨f, hf, v, hv, rfl, rfl⟩
      obtain ⟨hwalk, hlength⟩ := mem_walksTo.1 hv
      exact ⟨⟨mem_edges.1 hf, hwalk⟩, hlength⟩
    · rintro ⟨⟨he, hwalk⟩, hlength⟩
      exact ⟨e, mem_edges.2 he, w, mem_walksTo.2 ⟨hwalk, hlength⟩, rfl, rfl⟩

/-- Walks put together from the steps of a topic are in an order that begins with the steps. -/
theorem pairwise_flatMap_cons {r : List Edge → List Edge → Prop}
    (parted : ∀ e f w v, e.Before f → r (e :: w) (f :: v))
    (together : ∀ e w v, r w v → r (e :: w) (e :: v)) {es : List Edge}
    (hes : es.Pairwise Edge.Before) {f : Edge → List (List Edge)} (hf : ∀ e, (f e).Pairwise r) :
    (es.flatMap fun e => (f e).map (e :: ·)).Pairwise r := by
  refine List.pairwise_flatMap.2 ⟨fun e _ => ?_, hes.imp fun {e f} hef => ?_⟩
  · exact List.pairwise_map.2 ((hf e).imp fun {w v} h => together e w v h)
  · intro w hw v hv
    obtain ⟨w, -, rfl⟩ := List.mem_map.1 hw
    obtain ⟨v, -, rfl⟩ := List.mem_map.1 hv
    exact parted e f w v hef

theorem pairwise_walksThrough : ∀ (n : Nat) (name : String),
    (ts.walksThrough n name).Pairwise Postorder
  | 0, _ => .nil
  | n + 1, name => by
    refine List.pairwise_append.2 ⟨?_, ?_, fun w hw v hv => ?_⟩
    · exact pairwise_flatMap_cons (fun _ _ _ _ => .parted) (fun _ _ _ => .together)
        (ts.pairwise_edges name) fun e => pairwise_walksThrough n e.target
    · split
      · exact List.pairwise_singleton _ _
      · exact .nil
    · -- a walk with a step comes before the one without any
      obtain ⟨e, -, hw⟩ := List.mem_flatMap.1 hw
      obtain ⟨w, -, rfl⟩ := List.mem_map.1 hw
      split at hv
      · rw [List.mem_singleton.1 hv]
        exact .further
      · exact absurd hv List.not_mem_nil

theorem pairwise_walksTo : ∀ (n : Nat) (name : String),
    (ts.walksTo n name).Pairwise (List.Lex Edge.Before)
  | 0, _ => .nil
  | n + 1, name => by
    refine List.pairwise_cons.2 ⟨fun w hw => ?_, ?_⟩
    · obtain ⟨e, -, hw⟩ := List.mem_flatMap.1 hw
      obtain ⟨w, -, rfl⟩ := List.mem_map.1 hw
      exact .nil
    · exact pairwise_flatMap_cons (fun _ _ _ _ => .rel) (fun _ _ _ => .cons)
        (ts.pairwise_edges name) fun e => pairwise_walksTo n e.target

/-! ## What is met on the walks -/

/-- What is put together from the topics that the steps of a kind lead to. -/
theorem flatMap_edgesTo {β : Type} (inherits : Bool) (us : List String) (f : String → List β) :
    (edgesTo inherits us).flatMap (fun e => f e.target) = us.flatMap f := by
  conv_rhs => rw [← map_target_edgesTo inherits us, List.flatMap_map]

/-- The names met on a walk are those that the walks end at. -/
theorem walk_eq_map_finish : ∀ (n : Nat) (name : String),
    walk ts n name = (ts.walksTo n name).map (finish name)
  | 0, _ => rfl
  | n + 1, name => by
    have hedges : (ts.edges name).flatMap (fun e => walk ts n e.target) =
        ((ts.find? name).elim [] fun t => (t.includes ++ t.inherits).flatMap (walk ts n)) := by
      rw [edges]
      cases ts.find? name with
      | none => rfl
      | some t =>
        simp only [Option.elim_some, List.flatMap_append]
        rw [flatMap_edgesTo, flatMap_edgesTo]
    have hsteps (e : Edge) : ((ts.walksTo n e.target).map (e :: ·)).map (finish name) =
        walk ts n e.target := by
      rw [List.map_map, walk_eq_map_finish n e.target]
      rfl
    rw [walk, walksTo, List.map_cons, List.map_flatMap]
    simp only [hsteps, hedges]
    cases ts.find? name <;> rfl

/-- The steps of a walk with the topics that they begin at. -/
def links : String → List Edge → List Link
  | _, [] => []
  | name, e :: w => ⟨name, e.inherits⟩ :: links e.target w

theorem passed_links : ∀ (name : String) (w : List Edge),
    (links name w).map (·.source) ++ [finish name w] = stops name w
  | _, [] => rfl
  | _, e :: w => congrArg _ (passed_links e.target w)

theorem countP_links : ∀ (name : String) (w : List Edge),
    (links name w).countP (·.inherits) = inheritances w
  | _, [] => rfl
  | name, e :: w => by
    rw [links, inheritances, List.countP_cons, List.countP_cons, countP_links e.target w,
      inheritances]

/-- The triggers that a walk leads to. -/
def reachedBy (ts : Topics) (keep : TriggerId → Trigger → Bool) (name : String) (w : List Edge) :
    List Reached :=
  ((ts.find? (finish name w)).elim [] Topic.triggers).zipIdx.filterMap fun (g, i) =>
    if keep ⟨finish name w, i⟩ g then some ⟨links name w, ⟨finish name w, i⟩, g⟩ else none

theorem reachedBy_cons (keep : TriggerId → Trigger → Bool) (e : Edge) :
    ts.reachedBy keep name (e :: w) =
      (ts.reachedBy keep e.target w).map (.after ⟨name, e.inherits⟩) := by
  rw [reachedBy, reachedBy, List.map_filterMap]
  refine List.filterMap_congr fun p _ => ?_
  obtain ⟨g, i⟩ := p
  rw [finish]
  dsimp only
  split <;> rfl

/-- **The triggers reached from a topic are those that the walks from it lead to.** -/
theorem reached_eq (keep : TriggerId → Trigger → Bool) : ∀ (n : Nat) (name : String),
    reached ts keep n name = (ts.walksThrough n name).flatMap (ts.reachedBy keep name)
  | 0, _ => rfl
  | n + 1, name => by
    have hsteps (e : Edge) : ((ts.walksThrough n e.target).map (e :: ·)).flatMap
        (ts.reachedBy keep name) =
          (reached ts keep n e.target).map (.after ⟨name, e.inherits⟩) := by
      rw [List.flatMap_map, reached_eq keep n e.target, List.map_flatMap]
      exact List.flatMap_congr fun w _ => reachedBy_cons keep e
    rw [walksThrough, List.flatMap_append, List.flatMap_assoc]
    simp only [hsteps]
    rw [reached, edges, Table.contains]
    cases ht : ts.find? name with
    | none => rfl
    | some t =>
      have hkind (b : Bool) (us : List String) : (edgesTo b us).flatMap
          (fun e => (reached ts keep n e.target).map (Reached.after ⟨name, e.inherits⟩)) =
            us.flatMap fun u => (reached ts keep n u).map (Reached.after ⟨name, b⟩) := by
        rw [← flatMap_edgesTo b]
        exact List.flatMap_congr fun e he => by rw [(mem_edgesTo.1 he).1]
      simp only [Option.elim_some, List.flatMap_append, hkind, Option.isSome_some, if_true,
        List.flatMap_singleton]
      rw [reachedBy, finish, ht]
      rfl

/-- The entries for the triggers that a walk leads to. -/
theorem map_entry_reachedBy (ts : Topics) (name : String) (w : List Edge) :
    (ts.reachedBy (fun _ g => g.previous.isNone) name w).map (Reached.entry ts 0 false) =
      ts.entries name w := by
  rw [reachedBy, List.map_filterMap, entries, ← List.filterMap_eq_map, List.filterMap_filter]
  refine List.filterMap_congr fun p _ => ?_
  obtain ⟨g, i⟩ := p
  dsimp only
  split
  · simp [Reached.entry, Reached.passed, Reached.inheritances, passed_links, countP_links]
  · rfl

/-- **What a topic draws on are, for each walk of at most `limit` steps through topics that exist,
the triggers of its last topic, in the order in which a topic comes after all that it includes, then
inherits. Its tree are the topics that the walks of at most `limit` steps lead to, existing or not,
in the order in which a topic comes before what it includes, then inherits.** -/
theorem ordinary_walks (ts : Topics) (limit : Nat) (name : String) :
    (∃! ws : List (List Edge),
      Lists Postorder
        (fun w => ts.Walk name w ∧ ts.contains (finish name w) ∧ w.length ≤ limit) ws ∧
      ts.ordinary limit name = ws.flatMap (ts.entries name)) ∧
    ∃! ws : List (List Edge),
      Lists (List.Lex Edge.Before) (fun w => ts.Walk name w ∧ w.length ≤ limit) ws ∧
      ts.tree limit name = ws.map (finish name) := by
  have hthrough : Lists Postorder
      (fun w => ts.Walk name w ∧ ts.contains (finish name w) ∧ w.length ≤ limit)
        (ts.walksThrough (limit + 1) name) :=
    ⟨fun w => by rw [mem_walksThrough, Nat.lt_succ_iff], pairwise_walksThrough _ _⟩
  have hto : Lists (List.Lex Edge.Before) (fun w => ts.Walk name w ∧ w.length ≤ limit)
      (ts.walksTo (limit + 1) name) :=
    ⟨fun w => by rw [mem_walksTo, Nat.lt_succ_iff], pairwise_walksTo _ _⟩
  refine ⟨⟨_, ⟨hthrough, ?_⟩, fun ws h => h.1.unique (fun _ _ => Postorder.asymm) hthrough⟩,
    ⟨_, ⟨hto, walk_eq_map_finish _ _⟩, fun ws h => h.1.unique (fun _ _ => asymm) hto⟩⟩
  rw [ordinary, collect_eq, reached_eq, List.map_flatMap]
  exact List.flatMap_congr fun w _ => map_entry_reachedBy ts name w

end Topics

end Repartee

import Mathlib.Data.List.Basic
import Repartee.Proofs.Script.Match

/-!
# What a topic inherits comes after what is its own

* `Metadata.level?_tagged`, `Metadata.weight_tagged`: the level and the weight of a pattern with a
  level in front.
* `Topics.Way`, `Topics.Reached`: triggers, and the steps that lead to them.
* `Topics.reached`, `Topics.mem_reached`: the triggers that fewer than some number of steps lead to.
* `Topics.collect_eq`: a walk collects an entry for each of them.
* **`Topics.inherited_last`**: what was inherited does not come before what was not, if there is a
  topic with inheritances on the way to the latter; if there is none, this comes last.
-/

namespace Repartee

/-! ## The rank of a pattern with a level -/

theorem Text.value_toDigits (n : Nat) : value 10 (Nat.toDigits 10 n) = n := by
  have hvalue : value 10 (Nat.toDigits 10 n) = Nat.ofDigitChars 10 (Nat.toDigits 10 n) 0 := by
    refine List.foldl_ext _ _ _ fun m c hc => ?_
    rw [digitValue, if_pos (Metadata.isDigit_of_mem_toDigits hc)]
  rw [hvalue, Nat.ofDigitChars_ten_toDigits]

theorem Text.natural?_toDigits (n : Nat) : natural? (Nat.toDigits 10 n) = some n := by
  have hne : Nat.toDigits 10 n ≠ [] := List.ne_nil_of_length_pos Nat.length_toDigits_pos
  have hdigits : (Nat.toDigits 10 n).all Char.isDigit :=
    List.all_eq_true.2 fun _ hc => Metadata.isDigit_of_mem_toDigits hc
  rw [natural?, if_pos ⟨hne, hdigits⟩, value_toDigits]

namespace Metadata

/-- A level in front of a pattern is its level, if it fits 32 bits. -/
theorem level?_tagged (level : Nat) (pattern : String) :
    level? (Topics.tagged level pattern).toList = (some level).filter (· < Nat.pow 2 32) := by
  rw [level?, number?, tagged_toList, Scan.find?, levelTag_tagged]
  dsimp only
  rw [Text.natural?_toDigits]

/-- A level in front of a pattern does not change its weight. -/
theorem weight_tagged (level : Nat) (pattern : String) :
    weight (Topics.tagged level pattern).toList = weight pattern.toList := by
  have hbrace : '\x7b' ∉ levelText level := by
    have hdigits : '\x7b' ∉ Nat.toDigits 10 level := fun hc =>
      absurd (isDigit_of_mem_toDigits hc) (by decide)
    simp [levelText_eq, hdigits]
  -- a weight and a level differ in the second character already
  have hnone : weightTag ('\x7b' :: (levelText level ++ pattern.toList)) = none := by
    rw [levelText_eq]
    rfl
  rw [weight, weight, number?, number?, tagged_toList, Scan.find?, hnone,
    needs_weightTag.find?_append _ hbrace]
  cases weightTag.find? pattern.toList <;> rfl

end Metadata

namespace Topics

/-! ## Ways -/

/-- A step from a topic to one that it includes or inherits. -/
structure Link where
  source : String
  inherits : Bool
  deriving DecidableEq, Repr

/-- Steps that lead from one topic to another. -/
inductive Way (ts : Topics) : String → List Link → String → Prop
  | here {name : String} : Way ts name [] name
  | includes {name u v : String} {t : Topic} {links : List Link} : ts.find? name = some t →
    u ∈ t.includes → Way ts u links v → Way ts name (⟨name, false⟩ :: links) v
  | inherits {name u v : String} {t : Topic} {links : List Link} : ts.find? name = some t →
    u ∈ t.inherits → Way ts u links v → Way ts name (⟨name, true⟩ :: links) v

/-- A trigger, and steps that lead to it. -/
structure Reached where
  way : List Link
  id : TriggerId
  trigger : Trigger
  deriving DecidableEq, Repr

/-- A topic inherits other ones. -/
def inheriting (ts : Topics) (name : String) : Bool :=
  (ts.find? name).any fun t => !t.inherits.isEmpty

namespace Reached

/-- A trigger reached with one more step in front. -/
def after (l : Link) (r : Reached) : Reached := { r with way := l :: r.way }

/-- The topics on the way to a trigger, its own one included. -/
def passed (r : Reached) : List String := r.way.map (·.source) ++ [r.id.topic]

/-- The number of inheritances on the way to a trigger. -/
def inheritances (r : Reached) : Nat := r.way.countP (·.inherits)

/-- There is an inheritance on the way to a trigger. -/
def Inherited (r : Reached) : Prop := ∃ l ∈ r.way, l.inherits

instance (r : Reached) : Decidable r.Inherited := List.decidableBEx ..

/-- A topic on the way to a trigger inherits other ones. -/
def Tagged (ts : Topics) (r : Reached) : Prop := ∃ name ∈ r.passed, ts.inheriting name

instance (ts : Topics) (r : Reached) : Decidable (r.Tagged ts) := List.decidableBEx ..

/-- The weight of a trigger. -/
def weight (r : Reached) : Nat := Metadata.weight r.trigger.pattern.toList

/-- The pattern of a trigger is written without a level. -/
def Plain (r : Reached) : Prop := (Metadata.levelTag.find? r.trigger.pattern.toList).isNone

instance (r : Reached) : Decidable r.Plain := instDecidableEqBool _ _

/-- A trigger as it is tried. -/
def tried (r : Reached) : Entry := Entry.bare ⟨r.trigger.pattern, r.id⟩

/-- The entry for a trigger of a walk that begins at a level, with or without an inheriting topic
before it. -/
def entry (ts : Topics) (level : Nat) (inherited : Bool) (r : Reached) : Entry where
  pattern :=
    if inherited || r.passed.any ts.inheriting then
      tagged (level + r.inheritances) r.trigger.pattern
    else r.trigger.pattern
  id := r.id

end Reached

/-- The triggers that fewer than `n` steps lead to. -/
def reached (ts : Topics) (keep : TriggerId → Trigger → Bool) : (n : Nat) → String → List Reached
  | 0, _ => []
  | n + 1, name =>
    match ts.find? name with
    | none => []
    | some t =>
      t.includes.flatMap (fun u => (reached ts keep n u).map (.after ⟨name, false⟩)) ++
        t.inherits.flatMap (fun u => (reached ts keep n u).map (.after ⟨name, true⟩)) ++
        t.triggers.zipIdx.filterMap fun (g, i) =>
          if keep ⟨name, i⟩ g then some ⟨[], ⟨name, i⟩, g⟩ else none

variable {ts : Topics} {keep : TriggerId → Trigger → Bool}

/-- Of a topic are reached its own triggers, and those reached from the topics that it includes or
inherits. -/
theorem mem_reached_succ {n : Nat} {name : String} {t : Topic} (ht : ts.find? name = some t)
    {r : Reached} : r ∈ reached ts keep (n + 1) name ↔
      (∃ u ∈ t.includes, ∃ s ∈ reached ts keep n u, s.after ⟨name, false⟩ = r) ∨
      (∃ u ∈ t.inherits, ∃ s ∈ reached ts keep n u, s.after ⟨name, true⟩ = r) ∨
      r.way = [] ∧ r.id.topic = name ∧ t.triggers[r.id.index]? = some r.trigger ∧
        keep r.id r.trigger := by
  rw [reached, ht]
  simp only [List.mem_append, List.mem_flatMap, List.mem_map, or_assoc]
  refine or_congr_right (or_congr_right ?_)
  rw [List.mem_filterMap]
  constructor
  · rintro ⟨⟨g, i⟩, hg, hr⟩
    dsimp only at hr
    split at hr
    · rename_i hk
      cases hr
      exact ⟨rfl, rfl, List.mk_mem_zipIdx_iff_getElem?.1 hg, hk⟩
    · cases hr
  · obtain ⟨way, ⟨topic, i⟩, g⟩ := r
    rintro ⟨rfl, rfl, hg, hk⟩
    exact ⟨(g, i), List.mk_mem_zipIdx_iff_getElem?.2 hg, if_pos hk⟩

/-- The triggers reached are those that there is a way to of fewer than `n` steps. -/
theorem mem_reached : ∀ {n : Nat} {name : String} {r : Reached}, r ∈ reached ts keep n name ↔
    ts.Way name r.way r.id.topic ∧ r.way.length < n ∧ ts.trigger? r.id = some r.trigger ∧
      keep r.id r.trigger
  | 0, name, r => by simp [reached]
  | n + 1, name, r => by
    constructor
    · intro h
      cases ht : ts.find? name with
      | none =>
        rw [reached, ht] at h
        exact absurd h List.not_mem_nil
      | some t =>
        rcases (mem_reached_succ ht).1 h with
          ⟨u, hu, s, hs, rfl⟩ | ⟨u, hu, s, hs, rfl⟩ | ⟨hway, hid, hg, hk⟩
        · obtain ⟨hway, hlength, hg, hk⟩ := mem_reached.1 hs
          exact ⟨.includes ht hu hway, Nat.succ_lt_succ hlength, hg, hk⟩
        · obtain ⟨hway, hlength, hg, hk⟩ := mem_reached.1 hs
          exact ⟨.inherits ht hu hway, Nat.succ_lt_succ hlength, hg, hk⟩
        · refine ⟨?_, ?_, ?_, hk⟩
          · rw [hway, hid]
            exact .here
          · rw [hway]
            exact Nat.succ_pos n
          · rw [trigger?, hid, ht]
            exact hg
    · obtain ⟨way, id, g⟩ := r
      rintro ⟨hway, hlength, hg, hk⟩
      cases hway with
      | here =>
        obtain ⟨t, ht, hi⟩ := Option.bind_eq_some_iff.1 hg
        exact (mem_reached_succ ht).2 (.inr (.inr ⟨rfl, rfl, hi, hk⟩))
      | @includes _ u _ t links ht hu hway =>
        have hs : ⟨links, id, g⟩ ∈ reached ts keep n u :=
          mem_reached.2 ⟨hway, Nat.lt_of_succ_lt_succ hlength, hg, hk⟩
        exact (mem_reached_succ ht).2 (.inl ⟨u, hu, _, hs, rfl⟩)
      | @inherits _ u _ t links ht hu hway =>
        have hs : ⟨links, id, g⟩ ∈ reached ts keep n u :=
          mem_reached.2 ⟨hway, Nat.lt_of_succ_lt_succ hlength, hg, hk⟩
        exact (mem_reached_succ ht).2 (.inr (.inl ⟨u, hu, _, hs, rfl⟩))

/-! ## Entries -/

theorem inheriting_of_find? {name : String} {t : Topic} (ht : ts.find? name = some t) :
    ts.inheriting name = !t.inherits.isEmpty := by
  rw [inheriting, ht]
  rfl

theorem inheriting_of_mem {name u : String} {t : Topic} (ht : ts.find? name = some t)
    (hu : u ∈ t.inherits) : ts.inheriting name := by
  rw [inheriting_of_find? ht, List.isEmpty_eq_false_iff_exists_mem.2 ⟨u, hu⟩]
  rfl

namespace Reached

variable {level : Nat} {inherited : Bool} {name : String}

theorem any_passed_after (l : Link) (r : Reached) :
    (r.after l).passed.any ts.inheriting =
      (ts.inheriting l.source || r.passed.any ts.inheriting) := by
  rw [after, passed, List.map_cons, List.cons_append, List.any_cons]
  rfl

/-- The triggers of an included topic are entered at the level of the topic that includes it. -/
theorem entry_includes (r : Reached) :
    (r.after ⟨name, false⟩).entry ts level inherited =
      r.entry ts level (ts.inheriting name || inherited) := by
  have hcount : (r.after ⟨name, false⟩).inheritances = r.inheritances :=
    List.countP_cons_of_neg Bool.false_ne_true
  rw [entry, entry, any_passed_after, hcount, Bool.or_comm (ts.inheriting name) inherited,
    Bool.or_assoc]
  rfl

/-- The triggers of an inherited topic are entered one level further. -/
theorem entry_inherits (h : ts.inheriting name) (r : Reached) :
    (r.after ⟨name, true⟩).entry ts level inherited = r.entry ts (level + 1) true := by
  have hcount : (r.after ⟨name, true⟩).inheritances = r.inheritances + 1 :=
    List.countP_cons_of_pos rfl
  rw [entry, entry, any_passed_after, hcount, h, Bool.true_or, Bool.or_true,
    Nat.add_right_comm level 1]
  rfl

end Reached

/-- A walk collects an entry for every trigger reached. -/
theorem collect_eq : ∀ (n : Nat) (name : String) (level : Nat) (inherited : Bool),
    collect ts keep n name level inherited =
      (reached ts keep n name).map (Reached.entry ts level inherited)
  | 0, _, _, _ => rfl
  | n + 1, name, level, inherited => by
    rw [collect, reached]
    cases ht : ts.find? name with
    | none => rfl
    | some t =>
      dsimp only
      rw [← inheriting_of_find? ht, List.map_append, List.map_append]
      congr 1
      · congr 1
        · rw [List.map_flatMap]
          refine List.flatMap_congr fun u _ => ?_
          rw [collect_eq n u, List.map_map]
          exact List.map_congr_left fun r _ => r.entry_includes.symm
        · rw [List.map_flatMap]
          refine List.flatMap_congr fun u hu => ?_
          rw [collect_eq n u, List.map_map]
          exact List.map_congr_left fun r _ => (r.entry_inherits (inheriting_of_mem ht hu)).symm
      · rw [own, List.map_filterMap]
        refine List.filterMap_congr fun p _ => ?_
        obtain ⟨g, i⟩ := p
        dsimp only
        split
        · simp [Reached.entry, Reached.passed, Reached.inheritances, Bool.or_comm]
        · rfl

namespace Reached

variable {r : Reached}

theorem weight_entry (level : Nat) (inherited : Bool) (r : Reached) :
    Metadata.weight (r.entry ts level inherited).pattern.toList = r.weight := by
  rw [entry]
  dsimp only
  split
  · exact Metadata.weight_tagged _ _
  · rfl

theorem bare_entry (level : Nat) (inherited : Bool) (r : Reached) :
    (r.entry ts level inherited).bare = r.tried := by
  rw [entry, tried, Entry.bare, Entry.bare]
  dsimp only
  split
  · rw [Metadata.stripLevel_tagged]
  · rfl

/-- The level of a trigger in the order of the topic that it was reached from. -/
def level? (ts : Topics) (r : Reached) : Option Nat :=
  Metadata.level? (r.entry ts 0 false).pattern.toList

theorem level?_of_tagged (h : r.Tagged ts) :
    r.level? ts = (some r.inheritances).filter (· < Nat.pow 2 32) := by
  have hany : r.passed.any ts.inheriting := List.any_eq_true.2 h
  rw [level?, entry, Bool.false_or, if_pos hany, Nat.zero_add, Metadata.level?_tagged]

theorem level?_of_not_tagged (h : ¬r.Tagged ts) (hp : r.Plain) : r.level? ts = none := by
  have hany : ¬r.passed.any ts.inheriting := mt List.any_eq_true.1 h
  rw [level?, entry, Bool.false_or, if_neg hany, Metadata.level?, Metadata.number?,
    Option.isNone_iff_eq_none.1 hp]

theorem level?_of_small (h : r.Tagged ts) (hsmall : r.inheritances < Nat.pow 2 32) :
    r.level? ts = some r.inheritances := by
  rw [level?_of_tagged h, Option.filter_some, if_pos (decide_eq_true hsmall)]

/-- What is not inherited has level zero where a topic on the way to it inherits. -/
theorem level?_of_not_inherited (h : r.Tagged ts) (hown : ¬r.Inherited) :
    r.level? ts = some 0 := by
  have hzero : r.inheritances = 0 := List.countP_eq_zero.2 fun l hl hi => hown ⟨l, hl, hi⟩
  have hsmall : r.inheritances < Nat.pow 2 32 := by
    rw [hzero]
    exact Nat.pow_pos (by decide)
  rw [level?_of_small h hsmall, hzero]

/-- What is inherited has a higher level than zero. -/
theorem zero_lt_levelKey (h : r.Tagged ts) (hinherited : r.Inherited) :
    Rank.levelKey (some 0) < Rank.levelKey (r.level? ts) := by
  have hpos : 0 < r.inheritances := List.countP_pos_iff.2 hinherited
  by_cases hsmall : r.inheritances < Nat.pow 2 32
  · rw [level?_of_small h hsmall]
    exact WithTop.coe_lt_coe.2 hpos
  · rw [level?_of_tagged h, Option.filter_some, if_neg (mt of_decide_eq_true hsmall)]
    exact WithTop.coe_lt_top 0

end Reached

/-- A step to an inherited topic is taken from a topic that inherits. -/
theorem Way.inheriting {name v : String} {links : List Link} (h : ts.Way name links v) :
    ∀ l ∈ links, l.inherits → ts.inheriting l.source := by
  induction h with
  | here => exact fun l hl => absurd hl List.not_mem_nil
  | includes ht hu _ ih => exact List.forall_mem_cons.2 ⟨fun h => absurd h Bool.false_ne_true, ih⟩
  | inherits ht hu _ ih => exact List.forall_mem_cons.2 ⟨fun _ => inheriting_of_mem ht hu, ih⟩

theorem Reached.Inherited.tagged {r : Reached} {name : String} (h : r.Inherited)
    (hway : ts.Way name r.way r.id.topic) : r.Tagged ts := by
  obtain ⟨l, hl, hi⟩ := h
  exact ⟨l.source, List.mem_append_left _ (List.mem_map_of_mem hl), hway.inheriting l hl hi⟩

/-- The topic that a walk begins at is passed on every way. -/
theorem Way.mem_passed {r : Reached} {name : String} (h : ts.Way name r.way r.id.topic) :
    name ∈ r.passed := by
  obtain ⟨way, id, g⟩ := r
  cases h with
  | here => exact List.mem_append_right _ List.mem_cons_self
  | includes => exact List.mem_append_left _ List.mem_cons_self
  | inherits => exact List.mem_append_left _ List.mem_cons_self

/-! ## The order of the triggers -/

/-- **Among triggers of equal weight an inherited one does not come before one that is not, if a
topic on the way to the latter inherits, as all do if the first topic inherits. A trigger without a
level comes before an inherited one only if a topic on the way to it inherits.** -/
theorem inherited_last (ts : Topics) (index : PreviousIndex) (limit : Nat) (name : String) :
    ∃ rs : List Reached,
      rs.Perm (ts.reached (fun _ g => g.previous.isNone) (limit + 1) name) ∧
      ((TrialOrder.build ts index limit).ordinary.find? name).getD [] = rs.map Reached.tried ∧
      (rs.Pairwise fun a b => a.weight = b.weight → a.Inherited → b.Tagged ts → b.Inherited) ∧
      (ts.inheriting name → ∀ r ∈ rs, r.Tagged ts) ∧
      rs.Pairwise fun a b => a.weight = b.weight → a.Plain → b.Inherited →
        b.inheritances < Nat.pow 2 32 → a.Tagged ts := by
  obtain ⟨L, hperm, hsort, hsorted⟩ := Entry.exists_sort (Reached.entry ts 0 false)
    (ts.reached (fun _ g => g.previous.isNone) (limit + 1) name)
  have hperm : (L.map (·.1)).Perm (ts.reached (fun _ g => g.previous.isNone) (limit + 1) name) :=
    (hperm.map _).trans (.of_eq (List.zipIdx_map_fst 0 _))
  have hway : ∀ r ∈ L.map (·.1), ts.Way name r.way r.id.topic := fun r hr =>
    (mem_reached.1 (hperm.mem_iff.1 hr)).1
  -- the levels ascend among triggers of equal weight
  have hlevels : (L.map (·.1)).Pairwise fun a b => a.weight = b.weight →
      Rank.levelKey (a.level? ts) ≤ Rank.levelKey (b.level? ts) := by
    rw [List.pairwise_map]
    refine hsorted.imp fun {a b} hab hw => ?_
    refine Rank.levelKey_le ((Prod.Lex.toLex_le_toLex.1 hab).elim le_of_lt fun h => h.1.le) ?_
    exact (Reached.weight_entry ..).trans (hw.trans (Reached.weight_entry ..).symm)
  refine ⟨L.map (·.1), hperm, ?_, ?_, ?_, ?_⟩
  · rw [TrialOrder.ordinary_build, ordinary, collect_eq, hsort, List.map_map]
    exact List.map_congr_left fun p _ => p.1.bare_entry 0 false
  · refine hlevels.imp_of_mem fun {a b} ha hb hab hw hinherited htagged => ?_
    by_contra hown
    have hle := hab hw
    rw [Reached.level?_of_not_inherited htagged hown] at hle
    exact not_lt_of_ge hle (Reached.zero_lt_levelKey (hinherited.tagged (hway a ha)) hinherited)
  · exact fun hname r hr => ⟨name, (hway r hr).mem_passed, hname⟩
  · refine hlevels.imp_of_mem fun {a b} ha hb hab hw hplain hinherited hsmall => ?_
    by_contra hown
    have hle := hab hw
    rw [Reached.level?_of_not_tagged hown hplain,
      Reached.level?_of_small (hinherited.tagged (hway b hb)) hsmall] at hle
    exact not_lt_of_ge hle (WithTop.coe_lt_top _)

/-- A topic that includes one with an inheritance, and inherits nothing itself. -/
def parlor : Topics :=
  ((Table.empty.insert "random" {
      name := "random", includes := ["hall"],
      triggers := [{ pattern := "hello", replies := ["own"] }] }).insert "hall" {
      name := "hall", inherits := ["attic"] }).insert "attic" {
      name := "attic", triggers := [{ pattern := "hello", replies := ["inherited"] }] }

/-- What is inherited from the attic comes before the topic's own trigger. -/
theorem parlor_inherited_first :
    (∀ r ∈ parlor.reached (fun _ g => g.previous.isNone) 51 "random", r.Plain) ∧
      ¬∃ rs : List Reached,
        rs.Perm (parlor.reached (fun _ g => g.previous.isNone) 51 "random") ∧
        ((TrialOrder.build parlor parlor.previousIndex 50).ordinary.find? "random").getD [] =
          rs.map Reached.tried ∧
        rs.Pairwise fun a b => a.weight = b.weight → a.Inherited → b.Inherited := by
  have hreached : parlor.reached (fun _ g => g.previous.isNone) 51 "random" =
      [{ way := [⟨"random", false⟩, ⟨"hall", true⟩], id := ⟨"attic", 0⟩,
         trigger := { pattern := "hello", replies := ["inherited"] } },
        { way := [], id := ⟨"random", 0⟩,
          trigger := { pattern := "hello", replies := ["own"] } }] := by
    decide
  refine ⟨by rw [hreached]; decide, ?_⟩
  rintro ⟨rs, hperm, horder, hpairwise⟩
  rw [hreached] at hperm
  -- the entries are in the order of the list already
  rw [TrialOrder.ordinary_build, ordinary, collect_eq, hreached, Entry.sort,
    List.mergeSort_of_pairwise (by decide)] at horder
  obtain ⟨a, b, rfl⟩ := List.length_eq_two.1 hperm.length_eq
  have hids : [(⟨"attic", 0⟩ : TriggerId), ⟨"random", 0⟩] = [a.id, b.id] :=
    congrArg (List.map Entry.id) horder
  have ha := hperm.mem_iff.1 List.mem_cons_self
  have hb := hperm.mem_iff.1 (List.mem_cons_of_mem a List.mem_cons_self)
  have hab := List.rel_of_pairwise_cons hpairwise List.mem_cons_self
  simp only [List.mem_cons, List.not_mem_nil, or_false] at ha hb
  rcases ha with rfl | rfl
  · rcases hb with rfl | rfl
    · exact absurd hids (by decide)
    · exact absurd hab (by decide)
  · exact absurd (List.cons.inj hids).1 (by decide)

end Topics

end Repartee

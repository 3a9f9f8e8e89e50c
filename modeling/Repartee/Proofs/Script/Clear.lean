import Repartee.Proofs.Macro.Clear
import Repartee.Proofs.Regex.Captures
import Repartee.Proofs.Script.Normal
import Repartee.Proofs.Text.Casing
import Repartee.Script.Load
import Repartee.Script.Match

/-!
# Scripts without marks

* `Substitution.Clear.apply`: substituting clear texts in clear ones.
* `Document.Clear`, `Script.Clear`: the texts of a document, and of what is loaded, are clear.
* **`Script.Clear.define`**, **`Script.Clear.loadObjects`**: loading a clear document.
* `Script.Compared`: a clear text that in the plain mode has no brackets and no braces.
* **`Script.Clear.normalize`**, **`Pattern.compared_stars`**: what is compared and captured is such.
-/

namespace Repartee

variable {n : Nat}

/-! ## Substitutions -/

/-- A token with clear parts. -/
structure Token.Clear (n : Nat) (x : Token) : Prop where
  gap : Text.Clear n x.gap
  word : Text.Clear n x.word

theorem Text.Clear.tokens : ∀ {t : Text}, t.Clear n →
    (∀ x ∈ t.tokens.1, x.Clear n) ∧ Text.Clear n t.tokens.2
  | [], _ => ⟨fun _ hx => absurd hx List.not_mem_nil, Text.clear_nil⟩
  | c :: cs, h => by
    obtain ⟨hc, hcs⟩ := Text.clear_cons.1 h
    obtain ⟨htokens, htail⟩ := Text.Clear.tokens hcs
    have hone : Text.Clear n [c] := Text.clear_cons.2 ⟨hc, Text.clear_nil⟩
    unfold Text.tokens
    split
    · rename_i heq
      rw [heq] at htail
      exact ⟨fun _ hx => absurd hx List.not_mem_nil, Text.clear_cons.2 ⟨hc, htail⟩⟩
    · rename_i heq
      rw [heq] at htokens htail
      rw [List.forall_mem_cons] at htokens
      refine ⟨List.forall_mem_cons.2 ⟨⟨Text.clear_cons.2 ⟨hc, htokens.1.gap⟩, htokens.1.word⟩,
        htokens.2⟩, htail⟩
    · rename_i heq
      rw [heq] at htokens htail
      rw [List.forall_mem_cons] at htokens
      exact ⟨List.forall_mem_cons.2 ⟨⟨Text.clear_nil, Text.clear_cons.2 ⟨hc, htokens.1.word⟩⟩,
        htokens.2⟩, htail⟩
    · rename_i heq
      rw [heq] at htokens htail
      exact ⟨List.forall_mem_cons.2 ⟨⟨Text.clear_nil, hone⟩, htokens⟩, htail⟩

namespace Substitution

/-- The replacements are clear. -/
def Clear (n : Nat) (s : Substitution) : Prop :=
  ∀ k v, s.phrases.find? k = some v → Text.Clear n v.toList

variable {s : Substitution}

theorem clear_empty : Clear n {} := fun _ _ h => (nomatch h)

theorem Clear.assign (h : s.Clear n) (phrase : String) {v : Option String}
    (hv : ∀ w ∈ v, Text.Clear n w.toList) : (s.assign phrase v).Clear n := by
  cases v with
  | some w => exact Table.forall_insert h (hv w rfl)
  | none => exact Table.forall_erase h _

theorem Clear.longest? (h : s.Clear n) {keys : List Text} : ∀ {k m : Nat} {v : String},
    s.longest? keys k = some (m, v) → Text.Clear n v.toList
  | k + 1, m, v, hv => by
    rw [Substitution.longest?] at hv
    split at hv
    · rename_i hfind
      cases hv
      exact h _ _ hfind
    · exact Clear.longest? h hv

theorem Clear.applyFrom (h : s.Clear n) : ∀ (skip : Nat) (ts : List (Token × Text)),
    (∀ x ∈ ts, x.1.Clear n) → Text.Clear n (s.applyFrom skip ts)
  | _, [], _ => by
    rw [Substitution.applyFrom]
    exact Text.clear_nil
  | k + 1, _ :: ts, hts => by
    rw [Substitution.applyFrom]
    exact Clear.applyFrom h k ts (List.forall_mem_cons.1 hts).2
  | 0, x :: ts, hts => by
    obtain ⟨hx, hts⟩ := List.forall_mem_cons.1 hts
    rw [Substitution.applyFrom]
    split
    · rename_i hlongest
      exact (hx.gap.append (h.longest? hlongest)).append (Clear.applyFrom h _ ts hts)
    · exact (hx.gap.append hx.word).append (Clear.applyFrom h 0 ts hts)

theorem Clear.apply (h : s.Clear n) (punctuation : Regex) {t : Text} (ht : t.Clear n) :
    Text.Clear n (s.apply punctuation t) := by
  obtain ⟨htokens, htail⟩ := ht.tokens
  refine Text.Clear.append (h.applyFrom 0 _ fun x hx => ?_) htail
  obtain ⟨y, hy, rfl⟩ := List.mem_map.1 hx
  exact htokens y hy

end Substitution

/-! ## Documents -/

/-- The items of all arrays are clear. -/
def Table.ClearItems (n : Nat) (t : Table (List String)) : Prop :=
  ∀ k items, t.find? k = some items → ∀ i ∈ items, Text.Clear n i.toList

/-- What a trigger may be answered with is clear. -/
structure Trigger.Clear (n : Nat) (g : Trigger) : Prop where
  replies : ∀ r ∈ g.replies, Text.Clear n r.toList
  conditions : ∀ c ∈ g.conditions, Text.Clear n c.toList
  redirect : ∀ r ∈ g.redirect, Text.Clear n r.toList

/-- The texts of a document that are expanded or stored are clear. -/
structure Document.Clear (n : Nat) (d : Document) : Prop where
  global : d.begin.global.Clear n
  var : d.begin.var.Clear n
  sub : ∀ k v, d.begin.sub.find? k = some v → Text.Clear n v.toList
  person : ∀ k v, d.begin.person.find? k = some v → Text.Clear n v.toList
  array : d.begin.array.ClearItems n
  topics : ∀ t ∈ d.topics, ∀ g ∈ t.triggers, g.Clear n
  objects : ∀ o ∈ d.objects, Text.Clear n o.name.toList ∧ Text.Clear n o.language.toList ∧
    Text.Clear n o.code.toList

/-- The notices are clear. -/
structure Notices.Clear (n : Nat) (notices : Notices) : Prop where
  notMatched : Text.Clear n notices.notMatched.toList
  notFound : Text.Clear n notices.notFound.toList
  objectNotFound : Text.Clear n notices.objectNotFound.toList
  deepRecursion : Text.Clear n notices.deepRecursion.toList

/-- What is loaded is clear. -/
structure Script.Clear (n : Nat) (s : Script) : Prop where
  notices : s.options.notices.Clear n
  topics : ∀ name t, s.topics.find? name = some t → ∀ g ∈ t.triggers, g.Clear n
  subs : s.subs.Clear n
  person : s.person.Clear n
  arrays : s.arrays.ClearItems n
  handlers : ∀ language h, s.handlers.find? language = some h → h.Clear n
  registry : s.registry.Clear n
  languages : ∀ name language, s.languages.find? name = some language →
    Text.Clear n language.toList

theorem Notices.clear_default (hn : n ≤ 4) : Notices.Clear n {} := by
  constructor <;> exact Text.clear_of_all hn (by decide)

theorem definition?_clear {v : String} (hv : Text.Clear n v.toList) :
    ∀ w ∈ Script.definition? v, Text.Clear n w.toList := by
  intro w hw
  rw [Script.definition?] at hw
  split at hw
  · cases hw
  · cases hw
    exact hv

namespace Script.Clear

variable {s : Script}

theorem new {options : Options} {engine : Regex.Engine} (h : options.notices.Clear n) :
    (Script.new options engine).Clear n := by
  refine ⟨h, fun _ _ h => (nomatch h), Substitution.clear_empty, Substitution.clear_empty,
    fun _ _ h => (nomatch h), ?_, fun _ _ h => (nomatch h), fun _ _ h => (nomatch h)⟩
  exact Table.forall_insert (fun _ _ h => (nomatch h)) trivial

theorem defineAll {t definitions : Table String} (ht : t.Clear n) (hd : definitions.Clear n) :
    (Script.defineAll t definitions).Clear n :=
  Table.foldl_entries
    (fun _ k v hkv h => h.assign (hd k v hkv).1 (definition?_clear (hd k v hkv).2)) ht

theorem substituteAll {t : Substitution} {definitions : Table String} (ht : t.Clear n)
    (hd : ∀ k v, definitions.find? k = some v → Text.Clear n v.toList) :
    (Script.substituteAll t definitions).Clear n :=
  Table.foldl_entries (fun _ k v hkv h => h.assign k (definition?_clear (hd k v hkv))) ht

theorem arrangeAll {t definitions : Table (List String)} (ht : t.ClearItems n)
    (hd : definitions.ClearItems n) : (Script.arrangeAll t definitions).ClearItems n := by
  have hassign (b : Table (List String)) (k : String) (v : List String)
      (hkv : definitions.find? k = some v) (hb : b.ClearItems n) :
      (b.assign k (if v.any (· ≠ undefMark) then some v else none)).ClearItems n := by
    refine Table.forall_assign hb fun items hitems => ?_
    split at hitems
    · cases hitems
      exact hd k v hkv
    · cases hitems
  exact Table.foldl_entries hassign ht

theorem addTopics {topics : List Topic} (hd : ∀ t ∈ topics, ∀ g ∈ t.triggers, g.Clear n) :
    ∀ {ts : Topics}, (∀ name t, ts.find? name = some t → ∀ g ∈ t.triggers, g.Clear n) →
      ∀ name t, (Script.addTopics ts topics).find? name = some t → ∀ g ∈ t.triggers, g.Clear n := by
  induction topics with
  | nil => exact fun h => h
  | cons u us ih =>
    rw [List.forall_mem_cons] at hd
    intro ts h
    refine ih hd.2 ?_
    rw [addTopic]
    split
    · rename_i v hv
      refine Table.forall_insert h fun g hg => ?_
      rcases List.mem_append.1 hg with hg | hg
      · exact h _ v hv g hg
      · exact hd.1 g hg
    · exact Table.forall_insert h hd.1

/-- **Taking over a clear document leaves a script clear.** -/
theorem define (h : s.Clear n) {d : Document} (hd : d.Clear n) : (s.define d).Clear n :=
  { h with
    topics := addTopics hd.topics h.topics
    subs := substituteAll h.subs hd.sub
    person := substituteAll h.person hd.person
    arrays := arrangeAll h.arrays hd.array }

/-- **Handing over clear macros leaves a script clear.** -/
theorem loadObjects : ∀ {s : Script}, s.Clear n → ∀ os : List ObjectMacro,
    (∀ o ∈ os, Text.Clear n o.name.toList ∧ Text.Clear n o.language.toList ∧
      Text.Clear n o.code.toList) → (s.loadObjects os).2.Clear n
  | _, h, [], _ => h
  | s, h, o :: os, hos => by
    obtain ⟨⟨hname, hlanguage, hcode⟩, hos⟩ := List.forall_mem_cons.1 hos
    rw [Script.loadObjects]
    cases hhandler : s.handlers.find? o.language with
    | none => exact loadObjects h os hos
    | some handler =>
      dsimp only
      cases hload : handler.load o.name o.code with
      | ok handler' =>
        have hclear : handler'.Clear n := (h.handlers _ _ hhandler).load hname hcode hload
        have hs : Script.Clear n
            { s with
              handlers := s.handlers.insert o.language handler'
              languages := s.languages.insert o.name o.language } :=
          { h with
            handlers := Table.forall_insert h.handlers hclear
            languages := Table.forall_insert h.languages hlanguage }
        exact loadObjects hs os hos
      | error e =>
        dsimp only
        split
        · exact h
        · exact loadObjects h os hos

end Script.Clear

/-! ## Messages -/

/-- A clear text that in the plain mode has no brackets and no braces. -/
structure Script.Compared (n : Nat) (s : Script) (t : Text) : Prop where
  clear : t.Clear n
  plain : s.options.utf8 = false → '<' ∉ t ∧ '\x7b' ∉ t

variable {s : Script} {t : Text}

theorem Script.compared_of_all (hn : n ≤ 4)
    (h : (t.all fun c => decide (4 ≤ c.toNat) && c != '<' && c != '\x7b') = true) :
    s.Compared n t := by
  have hall : ∀ c ∈ t, (4 ≤ c.toNat ∧ c ≠ '<') ∧ c ≠ '\x7b' := by
    simpa only [List.all_eq_true, Bool.and_eq_true, decide_eq_true_eq, bne_iff_ne] using h
  refine ⟨fun c hc => hn.trans (hall c hc).1.1, fun _ => ⟨fun hc => ?_, fun hc => ?_⟩⟩
  · exact (hall _ hc).1.2 rfl
  · exact (hall _ hc).2 rfl

theorem Script.Compared.subset {u : Text} (h : s.Compared n t) (hu : u ⊆ t) : s.Compared n u :=
  ⟨h.clear.subset hu, fun hs => (h.plain hs).imp (mt (hu ·)) (mt (hu ·))⟩

/-- **What is compared of a clear message.** -/
theorem Script.Clear.normalize (hn : n ≤ 4) (h : s.Clear n) (reply : Bool) (ht : t.Clear n) :
    s.Compared n (s.normalize reply t) := by
  have hsubstituted := h.subs.apply s.punctuation (Text.clear_lower hn ht)
  constructor
  · intro c hc
    rcases Script.mem_normalize hc with rfl | ⟨-, hc⟩
    · exact hn.trans (by decide)
    · exact hsubstituted c (List.mem_filter.1 hc).1
  · intro hutf8
    have hnot {c : Char} (hspace : c ≠ ' ') (halnum : c.isAlphanum = false) :
        c ∉ s.normalize reply t := by
      intro hc
      rcases Script.mem_normalize_plain hutf8 hc with h | h
      · exact hspace h
      · rw [halnum] at h
        cases h
    exact ⟨hnot (by decide) (by decide), hnot (by decide) (by decide)⟩

/-- **What a pattern captures from a message that is compared.** -/
theorem Pattern.compared_stars (hn : n ≤ 4) {scope : Scope} {pattern : String} {message : Text}
    {stars : List String} (h : stars? scope pattern message = some stars)
    (hm : s.Compared n message) : ∀ x ∈ stars, s.Compared n x.toList := by
  rw [stars?] at h
  split at h
  · rename_i m _
    cases m with
    | exact t =>
      rw [Matcher.stars?] at h
      split at h
      · cases h
        exact fun _ hx => absurd hx List.not_mem_nil
      · cases h
    | regex r =>
      obtain ⟨captures, hcaptures, rfl⟩ := Option.map_eq_some_iff.1 h
      intro x hx
      obtain ⟨c, hc, rfl⟩ := List.mem_map.1 hx
      cases c with
      | none => exact Script.compared_of_all hn (by decide)
      | some u =>
        rw [Option.map_some, Option.getD_some, String.toList_ofList]
        exact hm.subset (Regex.fullMatch?_subset hcaptures u hc)
  · cases h

end Repartee

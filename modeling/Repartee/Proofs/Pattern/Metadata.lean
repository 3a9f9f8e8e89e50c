import Repartee.Pattern.Matcher
import Repartee.Proofs.Pattern.Tidy
import Repartee.Proofs.Regex.Places
import Repartee.Proofs.Text.Tokens

/-!
# Tags on patterns and what is around them

Blanks around a pattern do not matter to its tags, and neither do its levels to the pattern that is
left, as long as every brace is that of a tag.

* `Scan.IgnoresBlanks`: a scan recognises the same with blanks behind the text.
* `Metadata.weight_trim`, `Metadata.level?_trim`, `Metadata.strip_trim`: the tags of a trimmed
  pattern, and what is left without them.
* `Scan.Takes`: a scan recognises a text whatever follows.
* `Metadata.Braced`: every opening brace is that of a tag.
* **`Metadata.filter_strip_stripLevel`**: a pattern without its levels has the same characters.
* **`Pattern.stars?_loneWild`**: a pattern that is a `*` but for tags and blanks captures the whole
  message.
-/

namespace Repartee

/-! ## Blanks behind a text -/

/-- No blank is matched by a character of an opening. -/
theorem Text.sameFolded_blank {o : Text} {c d : Char} (hd : d ∈ o) (hc : isBlank c)
    (h : (o.all fun d => blankCodes.all fun n => !sameFolded d (Char.ofNat n)) = true) :
    sameFolded d c = false := by
  have hcode := List.all_eq_true.1 (List.all_eq_true.1 h d hd) c.toNat (mem_blankCodes hc)
  rw [Char.ofNat_toNat] at hcode
  simpa using hcode

namespace Scan

variable {α : Type} {p q : Scan α} {f : α → Text} {t u : Text}

/-- Blanks are not recognised, and blanks behind a text are left over. -/
structure IgnoresBlanks (p : Scan α) : Prop where
  front : ∀ c t, isBlank c → p (c :: t) = none
  behind : ∀ t u, (∀ c ∈ u, isBlank c) → p (t ++ u) = (p t).map fun r => (r.1, r.2 ++ u)

theorem IgnoresBlanks.orElse (hp : p.IgnoresBlanks) (hq : q.IgnoresBlanks) :
    (p.orElse q).IgnoresBlanks where
  front c t hc := by
    rw [Scan.orElse, hp.front c t hc, hq.front c t hc]
    rfl
  behind t u hu := by
    rw [Scan.orElse, Scan.orElse, hp.behind t u hu, hq.behind t u hu]
    cases p t <;> rfl

theorem IgnoresBlanks.free (h : p.IgnoresBlanks) : ∀ {u : Text}, (∀ c ∈ u, isBlank c) → p.Free u
  | [], _ => trivial
  | c :: _, hu =>
    ⟨fun v => h.front c (_ ++ v) (hu c List.mem_cons_self),
      h.free fun d hd => hu d (List.mem_cons_of_mem c hd)⟩

/-- What is found is found with blanks behind the text. -/
theorem IgnoresBlanks.find?_append (h : p.IgnoresBlanks) (hu : ∀ c ∈ u, isBlank c) : ∀ t : Text,
    p.find? (t ++ u) = (p.find? t).map fun r => (r.1, r.2.1, r.2.2 ++ u)
  | [] => (h.free hu).find?_eq_none
  | c :: cs => by
    have hfront := h.behind (c :: cs) u hu
    rw [List.cons_append] at hfront
    rw [List.cons_append, find?, find?, hfront]
    cases p (c :: cs) with
    | some r => rfl
    | none =>
      rw [Option.map_none, h.find?_append hu cs, Option.map_map, Option.map_map]
      rfl

theorem IgnoresBlanks.replaceFrom_append (h : p.IgnoresBlanks) (hu : ∀ c ∈ u, isBlank c) :
    ∀ (t : Text) (skip : Nat), skip ≤ t.length →
      p.replaceFrom f skip (t ++ u) = p.replaceFrom f skip t ++ u
  | [], 0, _ => replaceAll_of_find? (h.free hu).find?_eq_none
  | c :: cs, skip + 1, hskip => h.replaceFrom_append hu cs skip (Nat.le_of_succ_le_succ hskip)
  | c :: cs, 0, _ => by
    have hfront := h.behind (c :: cs) u hu
    rw [List.cons_append] at hfront
    rw [List.cons_append, replaceFrom, replaceFrom, hfront]
    cases p (c :: cs) with
    | none => exact congrArg (c :: ·) (h.replaceFrom_append hu cs 0 (Nat.zero_le _))
    | some r =>
      obtain ⟨a, rest⟩ := r
      have hlength : (cs ++ u).length - (rest ++ u).length = cs.length - rest.length := by
        rw [List.length_append, List.length_append, Nat.add_sub_add_right]
      rw [Option.map_some]
      dsimp only
      rw [hlength, h.replaceFrom_append hu cs _ (Nat.sub_le _ _), List.append_assoc]

/-- What is replaced is replaced with blanks around the text. -/
theorem IgnoresBlanks.replaceAll_append (h : p.IgnoresBlanks) {v : Text}
    (hu : ∀ c ∈ u, isBlank c) (hv : ∀ c ∈ v, isBlank c) (t : Text) :
    p.replaceAll f (u ++ (t ++ v)) = u ++ (p.replaceAll f t ++ v) := by
  rw [(h.free hu).replaceAll_append]
  exact congrArg (u ++ ·) (h.replaceFrom_append hv t 0 (Nat.zero_le _))

theorem startsWithFolded?_append_blanks (hu : ∀ c ∈ u, isBlank c) : ∀ {o : Text} (t : Text),
    (∀ d ∈ o, ∀ c, isBlank c → Text.sameFolded d c = false) →
      Text.startsWithFolded? o (t ++ u) = (Text.startsWithFolded? o t).map (· ++ u)
  | [], _, _ => rfl
  | o :: os, [], ho => by
    cases u with
    | nil => rfl
    | cons c cs =>
      have hfront : Text.startsWithFolded? (o :: os) (c :: cs) = none := by
        rw [Text.startsWithFolded?, ho o List.mem_cons_self c (hu c List.mem_cons_self)]
        rfl
      exact hfront
  | o :: os, c :: cs, ho => by
    rw [List.cons_append, Text.startsWithFolded?, Text.startsWithFolded?]
    split
    · exact startsWithFolded?_append_blanks hu cs fun d hd => ho d (List.mem_cons_of_mem o hd)
    · rfl

theorem until?_append_blanks {allowed : Char → Bool} {o : Char} {os : Text}
    (hu : ∀ c ∈ u, isBlank c) (ho : ∀ d ∈ o :: os, ∀ c, isBlank c → Text.sameFolded d c = false)
    (hallowed : ∀ c, isBlank c → allowed c = false) : ∀ (n : Nat) (t : Text),
      until? allowed (o :: os) n (t ++ u) =
        (until? allowed (o :: os) n t).map fun r => (r.1, r.2 ++ u)
  | n, [] => by
    cases u with
    | nil => cases n <;> rfl
    | cons c cs =>
      have hc := hu c List.mem_cons_self
      have hfront : until? allowed (o :: os) n (c :: cs) = none := by
        cases n with
        | zero =>
          rw [until?, Text.startsWithFolded?, ho o List.mem_cons_self c hc, hallowed c hc]
          rfl
        | succ n =>
          rw [until?, hallowed c hc]
          rfl
      rw [List.nil_append, hfront]
      cases n <;> rfl
  | 0, c :: cs => by
    have hfront := startsWithFolded?_append_blanks hu (c :: cs) ho
    rw [List.cons_append] at hfront
    rw [List.cons_append, until?, until?, hfront]
    cases Text.startsWithFolded? (o :: os) (c :: cs) with
    | some rest => rfl
    | none =>
      rw [Option.map_none, until?_append_blanks hu ho hallowed 0 cs]
      dsimp only
      split
      · rw [Option.map_map, Option.map_map]
        rfl
      · rfl
  | n + 1, c :: cs => by
    rw [List.cons_append, until?, until?, until?_append_blanks hu ho hallowed n cs]
    split
    · rw [Option.map_map, Option.map_map]
      rfl
    · rfl

/-- A tag that no blank belongs to ignores blanks. -/
theorem ignoresBlanks_delimited {opening closing : String} {allowed : Char → Bool} {least : Nat}
    (hopening : opening.toList ≠ []) (hclosing : closing.toList ≠ [])
    (h : ((opening.toList ++ closing.toList).all fun d =>
      blankCodes.all fun n => !Text.sameFolded d (Char.ofNat n)) = true)
    (hallowed : ∀ c, isBlank c → allowed c = false) :
    (delimited opening allowed least closing).IgnoresBlanks := by
  have hblank (d : Char) (hd : d ∈ opening.toList ++ closing.toList) (c : Char) (hc : isBlank c) :
      Text.sameFolded d c = false := Text.sameFolded_blank hd hc h
  obtain ⟨o, os, ho⟩ := List.exists_cons_of_ne_nil hopening
  obtain ⟨e, es, he⟩ := List.exists_cons_of_ne_nil hclosing
  constructor
  · intro c t hc
    exact delimited_eq_none ho (hblank o (by simp [ho]) c hc)
  · intro t u hu
    rw [delimited, delimited, startsWithFolded?_append_blanks hu t fun d hd =>
      hblank d (List.mem_append_left _ hd)]
    cases Text.startsWithFolded? opening.toList t with
    | none => rfl
    | some rest =>
      rw [Option.map_some, Option.bind_some, Option.bind_some, he]
      exact until?_append_blanks hu (fun d hd => hblank d (List.mem_append_right _ (he ▸ hd)))
        hallowed least rest

/-! ## Whatever follows -/

/-- A character, and a text without it, are recognised whatever follows. -/
structure Takes (p : Scan α) (o : Char) (u : Text) (a : α) : Prop where
  notMem : o ∉ u
  reads : ∀ v, p (o :: (u ++ v)) = some (a, v)

theorem Takes.replaceAll {o : Char} {a : α} (h : p.Takes o u a) (t : Text) :
    p.replaceAll f (o :: (u ++ t)) = f a ++ p.replaceAll f t :=
  Scan.replaceAll_append (t := o :: u) (List.cons_ne_nil o u) (h.reads t)

theorem Takes.orElse_left {o : Char} {a : α} (h : p.Takes o u a) : (p.orElse q).Takes o u a where
  notMem := h.notMem
  reads v := by
    rw [Scan.orElse, h.reads v]
    rfl

theorem Takes.orElse_right {o : Char} {a : α} (h : q.Takes o u a)
    (hp : ∀ v, p (o :: (u ++ v)) = none) : (p.orElse q).Takes o u a where
  notMem := h.notMem
  reads v := by
    rw [Scan.orElse, hp v, h.reads v]
    rfl

theorem startsWithFolded?_append_of_some : ∀ {o u r : Text},
    Text.startsWithFolded? o (u ++ r) = some r → ∀ v, Text.startsWithFolded? o (u ++ v) = some v
  | [], u, r, h => by
    obtain rfl : u = [] := by simpa [Text.startsWithFolded?] using h
    exact fun v => rfl
  | o :: os, [], r, h => by
    have hlength : r.length < r.length := by
      obtain ⟨w, hw, hfolds⟩ := startsWithFolded?_eq_some h
      have hwhole := congrArg List.length hw
      rw [List.nil_append, List.length_append, hfolds.length, List.length_cons] at hwhole
      omega
    exact absurd hlength (Nat.lt_irrefl _)
  | o :: os, c :: u, r, h => by
    rw [List.cons_append, Text.startsWithFolded?] at h
    split at h
    · rename_i hc
      intro v
      rw [List.cons_append, Text.startsWithFolded?, if_pos hc,
        startsWithFolded?_append_of_some h v]
    · cases h

/-- A character that is no small letter begins an opening as it is. -/
theorem startsWithFolded?_cons_eq_some {o : Char} {os t r : Text} (ho : o.isLower = false)
    (h : Text.startsWithFolded? (o :: os) t = some r) :
    Text.sameFolded o o ∧ ∃ cs, t = o :: cs ∧ Text.startsWithFolded? os cs = some r := by
  cases t with
  | nil => cases h
  | cons c cs =>
    rw [Text.startsWithFolded?] at h
    split at h
    · rename_i hc
      obtain rfl : c = o := by
        by_contra hco
        rw [Text.sameFolded_of_ne ho hco] at hc
        cases hc
      exact ⟨hc, cs, rfl, h⟩
    · cases h

/-- A tag in brackets is recognised whatever follows. -/
theorem takes_delimited {opening : String} {allowed : Char → Bool} {least : Nat} {o e : Char}
    {os t body rest : Text} (ho : opening.toList = o :: os) (hlower : o.isLower = false)
    (hos : (os.all fun d => !Text.sameFolded d o) = true) (he : e.isLower = false)
    (hfolds : Text.sameFolded e e) (hne : o ≠ e) (hopen : allowed o = false)
    (hclose : allowed e = false)
    (h : delimited opening allowed least (String.ofList [e]) t = some (body, rest)) :
    ∃ u, t = o :: (u ++ rest) ∧
      (delimited opening allowed least (String.ofList [e])).Takes o u body := by
  obtain ⟨r, hr, huntil⟩ := Option.bind_eq_some_iff.1 h
  rw [String.toList_ofList] at huntil
  rw [ho] at hr
  obtain ⟨hself, cs, rfl, htail⟩ := startsWithFolded?_cons_eq_some hlower hr
  obtain ⟨w, rfl, hw⟩ := startsWithFolded?_eq_some htail
  obtain ⟨v, rfl, hv, hbody, hleast⟩ := until?_eq_some huntil
  obtain rfl : v = [e] := hv.eq_singleton he
  have hfree (d : Char) (hd : d ∈ body) : allowed d ∧ Text.sameFolded e d = false := by
    refine ⟨hbody d hd, Text.sameFolded_of_ne he ?_⟩
    rintro rfl
    rw [hbody d hd] at hclose
    cases hclose
  have hnot : o ∉ body := fun hmem => by
    rw [hbody o hmem] at hopen
    cases hopen
  refine ⟨w ++ (body ++ [e]), by simp, by simp [hw.notMem hos, hnot, hne], fun x => ?_⟩
  have hstart := startsWithFolded?_append_of_some htail (body ++ e :: x)
  have hread := until?_append hfolds x hleast hfree
  rw [delimited, ho, List.append_assoc, List.append_assoc, List.singleton_append,
    Text.startsWithFolded?, if_pos hself, hstart, String.toList_ofList, Option.bind_some, hread]

end Scan

/-! ## Tags -/

/-- A text whose only character that is no blank is a given one. -/
theorem Text.squeeze_of_filter {t : Text} {c : Char} (h : t.filter (!isBlank ·) = [c]) :
    t.squeeze = [c] := by
  obtain ⟨u, v, rfl, hu, hc, hv⟩ := List.filter_eq_cons_iff.1 h
  have hblanks : ∀ d ∈ u, isBlank d := fun d hd => by simpa using hu d hd
  have hbehind : ∀ d ∈ v, isBlank d := fun d hd => by simpa using List.filter_eq_nil_iff.1 hv d hd
  have hword : Text.IsWord [c] :=
    ⟨List.cons_ne_nil c [], List.forall_mem_singleton.2 (by simpa using hc)⟩
  have hnone : Text.words v = [] := by
    have hwords := Text.words_blanks_append (t := []) hbehind
    rwa [List.append_nil] at hwords
  have hwords : Text.words (c :: v) = [[c]] := by
    have hfirst := Text.words_append hword fun d hd => hbehind d (List.mem_of_mem_head? hd)
    rwa [hnone] at hfirst
  rw [Text.squeeze, Text.words_blanks_append hblanks, hwords]
  rfl

namespace Metadata

theorem isDigit_of_isBlank {c : Char} (h : isBlank c) : isDigit c = false := by
  have hcodes : ∀ n ∈ blankCodes, isDigit (Char.ofNat n) = false :=
    List.all_iff_forall_prop.1 (by decide +kernel)
  have hc := hcodes c.toNat (mem_blankCodes h)
  rwa [Char.ofNat_toNat] at hc

theorem ignoresBlanks_weightTag : weightTag.IgnoresBlanks :=
  Scan.ignoresBlanks_delimited (by decide) (by decide) (by decide +kernel)
    fun _ => isDigit_of_isBlank

theorem ignoresBlanks_levelTag : levelTag.IgnoresBlanks :=
  Scan.ignoresBlanks_delimited (by decide) (by decide) (by decide +kernel)
    fun _ => isDigit_of_isBlank

theorem needs_weightTag : weightTag.Needs '\x7b' := Scan.needs_delimited rfl (by decide)

theorem needs_levelTag : levelTag.Needs '\x7b' := Scan.needs_delimited rfl (by decide)

/-! ## Blanks around a pattern -/

variable {t : Text}

theorem number?_trim {tag : Scan Text} (h : tag.IgnoresBlanks) (t : Text) :
    number? tag t.trim = number? tag t := by
  obtain ⟨u, v, hu, hv, ht⟩ := Text.exists_trim t
  have hfind : tag.find? t = (tag.find? t.trim).map fun r => (u ++ r.1, r.2.1, r.2.2 ++ v) := by
    conv_lhs => rw [ht]
    rw [(h.free hu).find?_append, h.find?_append hv, Option.map_map]
    rfl
  rw [number?, number?, hfind]
  cases tag.find? t.trim <;> rfl

theorem weight_trim (t : Text) : weight t.trim = weight t := by
  rw [weight, weight, number?_trim ignoresBlanks_weightTag]

theorem level?_trim (t : Text) : level? t.trim = level? t := number?_trim ignoresBlanks_levelTag t

/-- Blanks around a pattern are not in what is left without its tags. -/
theorem strip_trim (t : Text) : strip t.trim = strip t := by
  obtain ⟨u, v, hu, hv, ht⟩ := Text.exists_trim t
  have htags := ignoresBlanks_weightTag.orElse ignoresBlanks_levelTag
  conv_rhs => rw [ht]
  rw [strip, strip, htags.replaceAll_append hu hv, Text.squeeze, Text.squeeze,
    Text.words_blanks_append hu, Text.words_append_blanks hv]

/-- A pattern without levels is trimmed. -/
theorem stripLevel_of_find? (h : levelTag.find? t = none) : stripLevel t = t.trim := by
  rw [stripLevel, Scan.replaceAll_of_find? h]

theorem find?_levelTag_trim (h : levelTag.find? t = none) : levelTag.find? t.trim = none := by
  obtain ⟨u, v, hu, hv, ht⟩ := Text.exists_trim t
  rw [ht, (ignoresBlanks_levelTag.free hu).find?_append, ignoresBlanks_levelTag.find?_append hv,
    Option.map_map, Option.map_eq_none_iff] at h
  exact h

/-! ## Levels among other tags -/

/-- An opening is not found where the second character is another one. -/
theorem startsWithFolded?_of_second {o₁ o₂ : Char} {os : Text}
    (h : ∀ d ∈ t[1]?, Text.sameFolded o₂ d = false) :
    Text.startsWithFolded? (o₁ :: o₂ :: os) t = none := by
  cases t with
  | nil => rfl
  | cons c cs =>
    rw [Text.startsWithFolded?]
    split
    · cases cs with
      | nil => rfl
      | cons d cs =>
        rw [Text.startsWithFolded?, h d rfl]
        rfl
    · rfl

/-- A weight and a level differ in the second character already. -/
theorem weightTag_or_levelTag (t : Text) : weightTag t = none ∨ levelTag t = none := by
  by_cases hw : ∀ d ∈ t[1]?, Text.sameFolded 'w' d = false
  · have hnone : Text.startsWithFolded? "\x7bweight=".toList t = none :=
      startsWithFolded?_of_second hw
    left
    rw [weightTag, Scan.delimited, hnone]
    rfl
  · have hi : ∀ d ∈ t[1]?, Text.sameFolded 'i' d = false := by
      intro d hd
      have hlower : d.toLower = 'w' := by simpa [Text.sameFolded, Option.mem_def.1 hd] using hw
      simp [Text.sameFolded, hlower]
    have hnone : Text.startsWithFolded? "\x7binherits=".toList t = none :=
      startsWithFolded?_of_second hi
    right
    rw [levelTag, Scan.delimited, hnone]
    rfl

/-- Every opening brace in a text is that of a weight or of a level. -/
inductive Braced : Text → Prop
  | nil : Braced []
  | char {c : Char} {t : Text} : c ≠ '\x7b' → Braced t → Braced (c :: t)
  | weight {u digits t : Text} : weightTag.Takes '\x7b' u digits → Braced t →
    Braced ('\x7b' :: (u ++ t))
  | level {u digits t : Text} : levelTag.Takes '\x7b' u digits → Braced t →
    Braced ('\x7b' :: (u ++ t))

/-- Tags of either kind. -/
def tag : Scan Text := weightTag.orElse levelTag

theorem takes_weightTag {digits rest : Text} (h : weightTag t = some (digits, rest)) :
    ∃ u, t = '\x7b' :: (u ++ rest) ∧ weightTag.Takes '\x7b' u digits :=
  Scan.takes_delimited rfl (by decide) (by decide) (by decide) (by decide) (by decide) (by decide)
    (by decide) h

theorem takes_levelTag {digits rest : Text} (h : levelTag t = some (digits, rest)) :
    ∃ u, t = '\x7b' :: (u ++ rest) ∧ levelTag.Takes '\x7b' u digits :=
  Scan.takes_delimited rfl (by decide) (by decide) (by decide) (by decide) (by decide) (by decide)
    (by decide) h

theorem takes_tag_of_weight {u digits : Text} (h : weightTag.Takes '\x7b' u digits) :
    tag.Takes '\x7b' u digits :=
  h.orElse_left

theorem takes_tag_of_level {u digits : Text} (h : levelTag.Takes '\x7b' u digits) :
    tag.Takes '\x7b' u digits := by
  refine h.orElse_right fun v => (weightTag_or_levelTag _).resolve_right ?_
  rw [h.reads v]
  exact Option.some_ne_none _

/-- Where no opening brace is left without the tags, all of them are those of tags. -/
theorem braced_of_notMem (h : '\x7b' ∉ tag.replaceAll (fun _ => [' ']) t) : Braced t := by
  induction hn : t.length using Nat.strong_induction_on generalizing t with
  | _ n ih =>
    subst hn
    have hrest {u digits rest : Text} (ht : t = '\x7b' :: (u ++ rest))
        (htakes : tag.Takes '\x7b' u digits) : Braced rest := by
      refine ih rest.length ?_ (fun hmem => h ?_) rfl
      · rw [ht, List.length_cons, List.length_append]
        omega
      · rw [ht, htakes.replaceAll]
        exact List.mem_append_right _ hmem
    cases hweight : weightTag t with
    | some r =>
      obtain ⟨u, ht, htakes⟩ := takes_weightTag hweight
      have hbraced := hrest ht (takes_tag_of_weight htakes)
      rw [ht]
      exact .weight htakes hbraced
    | none =>
      cases hlevel : levelTag t with
      | some r =>
        obtain ⟨u, ht, htakes⟩ := takes_levelTag hlevel
        have hbraced := hrest ht (takes_tag_of_level htakes)
        rw [ht]
        exact .level htakes hbraced
      | none =>
        cases t with
        | nil => exact .nil
        | cons c cs =>
          have hnone : tag (c :: cs) = none := by
            rw [tag, Scan.orElse, hweight, hlevel]
            rfl
          rw [Scan.replaceAll, Scan.replaceFrom, hnone] at h
          have hne := List.ne_and_not_mem_of_not_mem_cons h
          exact .char hne.1.symm (ih cs.length (Nat.lt_succ_self _) hne.2 rfl)

/-- Without its levels a text has the same characters left, blanks aside. -/
theorem Braced.filter_replaceAll (h : Braced t) :
    (tag.replaceAll (fun _ => [' ']) (levelTag.replaceAll (fun _ => []) t)).filter (!isBlank ·) =
      (tag.replaceAll (fun _ => [' ']) t).filter (!isBlank ·) := by
  have hneeds : tag.Needs '\x7b' := needs_weightTag.orElse needs_levelTag
  induction h with
  | nil => rfl
  | char hc _ ih =>
    rw [needs_levelTag.replaceAll_cons hc, hneeds.replaceAll_cons hc, hneeds.replaceAll_cons hc,
      List.filter_cons, List.filter_cons, ih]
  | @weight u digits t hu _ ih =>
    have hfree : levelTag.Free ('\x7b' :: u) := by
      refine ⟨fun v => (weightTag_or_levelTag _).resolve_left ?_, needs_levelTag.free hu.notMem⟩
      rw [hu.reads v]
      exact Option.some_ne_none _
    have hkept := hfree.replaceAll_append (f := fun _ => []) t
    rw [List.cons_append, List.cons_append] at hkept
    rw [hkept, (takes_tag_of_weight hu).replaceAll, (takes_tag_of_weight hu).replaceAll,
      List.filter_append, List.filter_append, ih]
  | level hu _ ih =>
    rw [hu.replaceAll, (takes_tag_of_level hu).replaceAll, List.nil_append, List.filter_append, ih]
    rfl

/-- What is left without the tags has the characters that are left, blanks aside. -/
theorem filter_strip (t : Text) :
    (strip t).filter (!isBlank ·) = (tag.replaceAll (fun _ => [' ']) t).filter (!isBlank ·) :=
  Text.filter_squeeze (fun c hc => by simp [hc]) _

/-- **A pattern in which every opening brace is that of a tag has the same characters without its
levels.** -/
theorem filter_strip_stripLevel (h : '\x7b' ∉ strip t) :
    (strip (stripLevel t)).filter (!isBlank ·) = (strip t).filter (!isBlank ·) := by
  have hbraced : Braced t := by
    refine braced_of_notMem fun hmem => h ?_
    have hbrace (c : Char) (hc : isBlank c) : (c == '\x7b') = false := by
      refine beq_false_of_ne ?_
      rintro rfl
      exact absurd hc (by decide)
    have hkept : (strip t).filter (· == '\x7b') =
        (tag.replaceAll (fun _ => [' ']) t).filter (· == '\x7b') := Text.filter_squeeze hbrace _
    have hleft : '\x7b' ∈ (tag.replaceAll (fun _ => [' ']) t).filter (· == '\x7b') :=
      List.mem_filter.2 ⟨hmem, beq_self_eq_true '\x7b'⟩
    rw [← hkept] at hleft
    exact (List.mem_filter.1 hleft).1
  rw [stripLevel, strip_trim, filter_strip, filter_strip, hbraced.filter_replaceAll]

end Metadata

/-! ## Lone wildcards -/

namespace Pattern

/-- **A pattern that is a `*` but for tags and blanks captures the whole of a message of one
line.** -/
theorem stars?_loneWild (s : Scope) {pattern : Text} (hp : Metadata.strip pattern = ['*'])
    {message : Text} (hm : '\n' ∉ message) :
    stars? s (String.ofList pattern) message = some [String.ofList message] := by
  have htidy : tidy pattern = ['*'] := by
    rw [tidy, hp]
    decide
  have hmatcher : matcher s pattern = .ok (.regex (.group (.anyLazy Regex.isInline))) := by
    rw [matcher_of_takes (Scope.takes_any htidy), htidy]
    rfl
  rw [stars?, String.toList_ofList, hmatcher]
  dsimp only
  rw [Matcher.stars?, Regex.fullMatch?_anything hm]
  rfl

/-- It does so without its levels, too. -/
theorem stars?_loneWild_stripLevel (s : Scope) {pattern : Text}
    (hp : Metadata.strip pattern = ['*']) {message : Text} (hm : '\n' ∉ message) :
    stars? s (String.ofList (Metadata.stripLevel pattern)) message =
      some [String.ofList message] := by
  have hfilter := Metadata.filter_strip_stripLevel (t := pattern) (by rw [hp]; decide)
  rw [hp, Metadata.filter_strip] at hfilter
  exact stars?_loneWild s (Text.squeeze_of_filter hfilter) hm

end Pattern

end Repartee

import Mathlib.Data.Bool.AllAny
import Repartee.Pattern.Basic
import Repartee.Proofs.Text.Scan
import Repartee.Proofs.Text.Words

/-!
# What tidying keeps

Tidying a pattern takes away tags, blanks and pipes. The characters that give the pattern its
structure stay, in their order.

* `Scan.Spares`: what a scan recognises has no character of a class.
* `Scan.filter_replaceAll`, `Text.filter_squeeze`, `Text.filter_trim`: what replacing, squeezing and
  trimming keep.
* `Pattern.isSign`: the signs of a pattern, pipes and the braces of tags aside.
* **`Pattern.filter_tidy`**: tidying keeps the signs in their order.
-/

namespace Repartee

/-! ## Texts -/

namespace Text

variable {keep : Char → Bool}

theorem filter_join {sep : Text} (hsep : sep.filter keep = []) : ∀ ws : List Text,
    (join sep ws).filter keep = ws.flatten.filter keep
  | [] => rfl
  | [w] => by rw [join, List.flatten_singleton]
  | w :: v :: ws => by
    rw [join, List.filter_append, List.filter_append, hsep, List.append_nil,
      filter_join hsep (v :: ws), ← List.filter_append, ← List.flatten_cons]

theorem flatten_pieces (sep : Char → Bool) : ∀ t : Text,
    (pieces sep t).flatten = t.filter (!sep ·)
  | [] => rfl
  | c :: cs => by
    have ih := flatten_pieces sep cs
    unfold pieces
    split
    · rename_i hc
      rw [List.filter_cons_of_neg (by simpa using hc), ← ih]
      rfl
    · rename_i hc
      rw [List.filter_cons_of_pos (by simpa using hc), ← ih]
      cases pieces sep cs <;> rfl

theorem flatten_filter_isEmpty : ∀ ws : List Text, (ws.filter (!·.isEmpty)).flatten = ws.flatten
  | [] => rfl
  | [] :: ws => flatten_filter_isEmpty ws
  | (c :: w) :: ws => by
    rw [List.filter_cons_of_pos rfl, List.flatten_cons, flatten_filter_isEmpty ws,
      List.flatten_cons]

/-- Squeezing keeps all but blanks. -/
theorem filter_squeeze (hb : ∀ c, isBlank c → keep c = false) (t : Text) :
    t.squeeze.filter keep = t.filter keep := by
  have hsep : [' '].filter keep = [] := by
    rw [List.filter_singleton, hb ' ' rfl]
    rfl
  rw [squeeze, filter_join hsep, words, flatten_filter_isEmpty, flatten_pieces, List.filter_filter]
  refine List.filter_congr fun c _ => ?_
  cases hc : isBlank c with
  | false => simp
  | true => simp [hb c hc]

theorem filter_dropWhile {drop : Char → Bool} (h : ∀ c, drop c → keep c = false) : ∀ t : Text,
    (t.dropWhile drop).filter keep = t.filter keep
  | [] => rfl
  | c :: cs => by
    rw [List.dropWhile_cons]
    split
    · rename_i hc
      rw [filter_dropWhile h cs, List.filter_cons_of_neg (by simp [h c hc])]
    · rfl

/-- Trimming keeps all but blanks. -/
theorem filter_trim (hb : ∀ c, isBlank c → keep c = false) (t : Text) :
    t.trim.filter keep = t.filter keep := by
  rw [trim, trimRight, trimLeft, List.filter_reverse, filter_dropWhile hb, List.filter_reverse,
    List.reverse_reverse, trimLeft, filter_dropWhile hb]

end Text

/-! ## Scans -/

namespace Scan

variable {α : Type} {p q : Scan α} {keep : Char → Bool}

/-- What the scan recognises is not empty, and it has no character of a class. -/
def Spares (p : Scan α) (keep : Char → Bool) : Prop :=
  ∀ ⦃t a rest⦄, p t = some (a, rest) → ∃ u, t = u ++ rest ∧ u ≠ [] ∧ u.filter keep = []

theorem Spares.orElse (hp : p.Spares keep) (hq : q.Spares keep) : (p.orElse q).Spares keep := by
  intro t a rest h
  rw [Scan.orElse] at h
  cases hpt : p t with
  | none =>
    rw [hpt] at h
    exact hq h
  | some r =>
    rw [hpt] at h
    cases h
    exact hp hpt

theorem spares_delimited {opening closing : String} {allowed : Char → Bool} {least : Nat}
    (hne : opening.toList ≠ [])
    (ho : ∀ c, keep c → (opening.toList.all fun d => !Text.sameFolded d c) = true)
    (hcl : ∀ c, keep c → (closing.toList.all fun d => !Text.sameFolded d c) = true)
    (hb : ∀ c, keep c → allowed c = false) :
    (delimited opening allowed least closing).Spares keep := by
  intro t body rest h
  obtain ⟨u, v, rfl, hu, hv, hbody, -⟩ := delimited_eq_some h
  refine ⟨u ++ (body ++ v), by simp, List.append_ne_nil_of_left_ne_nil (hu.ne_nil hne) _, ?_⟩
  refine List.filter_eq_nil_iff.2 fun c hc hkeep => ?_
  rcases List.mem_append.1 hc with hc | hc
  · exact hu.notMem (ho c hkeep) hc
  rcases List.mem_append.1 hc with hc | hc
  · have hallowed := hbody c hc
    rw [hb c hkeep] at hallowed
    exact Bool.false_ne_true hallowed
  · exact hv.notMem (hcl c hkeep) hc

/-- Where neither what is found nor what takes its place has a character of a class, the characters
of the class stay. -/
theorem filter_replaceAll (hp : p.Spares keep) {f : α → Text} (hf : ∀ a, (f a).filter keep = [])
    (t : Text) : (p.replaceAll f t).filter keep = t.filter keep := by
  induction h : t.length using Nat.strong_induction_on generalizing t with
  | _ n ih =>
    cases t with
    | nil => rfl
    | cons c cs =>
      cases hpt : p (c :: cs) with
      | none =>
        have ih := ih cs.length (by rw [← h]; exact Nat.lt_succ_self _) cs rfl
        rw [replaceAll, replaceFrom, hpt]
        change (c :: p.replaceAll f cs).filter keep = _
        rw [List.filter_cons, List.filter_cons, ih]
      | some r =>
        obtain ⟨a, rest⟩ := r
        obtain ⟨u, hu, hne, hkeep⟩ := hp hpt
        have hlt : rest.length < n := by
          have hlen := congrArg List.length hu
          rw [List.length_append] at hlen
          have := List.length_pos_iff.2 hne
          omega
        rw [hu] at hpt ⊢
        rw [replaceAll_append hne hpt, List.filter_append, hf, List.nil_append,
          ih rest.length hlt rest rfl, List.filter_append, hkeep, List.nil_append]

end Scan

/-! ## Tidying -/

namespace Pattern

/-- The signs of wildcards, brackets, arrays and references. -/
def isSign (c : Char) : Bool := "*#_()[]<>@".toList.contains c

variable {keep : Char → Bool}

theorem isBlank_of_isSign {c : Char} (h : isSign c) : isBlank c = false := by
  have hall : ∀ d ∈ "*#_()[]<>@".toList, isBlank d = false :=
    List.all_iff_forall_prop.1 (by decide)
  exact hall c (by simpa [isSign] using h)

/-- A tag is written without signs. -/
theorem spares_tag {opening : String} (h : ∀ c, keep c → isSign c) (hne : opening.toList ≠ [])
    (ho : "*#_()[]<>@".toList.all fun c => opening.toList.all fun d => !Text.sameFolded d c) :
    (Scan.delimited opening isDigit 1 "\x7d").Spares keep := by
  have hmem (c : Char) (hc : keep c) : c ∈ "*#_()[]<>@".toList := by simpa [isSign] using h c hc
  have hcl : ∀ c ∈ "*#_()[]<>@".toList,
      ("\x7d".toList.all fun d => !Text.sameFolded d c) = true :=
    List.all_iff_forall_prop.1 (by decide)
  have hb : ∀ c ∈ "*#_()[]<>@".toList, isDigit c = false :=
    List.all_iff_forall_prop.1 (by decide)
  exact Scan.spares_delimited hne (fun c hc => List.all_eq_true.1 ho c (hmem c hc))
    (fun c hc => hcl c (hmem c hc)) fun c hc => hb c (hmem c hc)

theorem filter_strip (h : ∀ c, keep c → isSign c) (t : Text) :
    (Metadata.strip t).filter keep = t.filter keep := by
  have hblank (c : Char) (hc : isBlank c) : keep c = false := by
    by_contra hk
    rw [isBlank_of_isSign (h c (by simpa using hk))] at hc
    exact Bool.false_ne_true hc
  have htags : (Metadata.weightTag.orElse Metadata.levelTag).Spares keep :=
    (spares_tag h (by decide) (by decide)).orElse (spares_tag h (by decide) (by decide))
  have hspace : [' '].filter keep = [] := by
    rw [List.filter_singleton, hblank ' ' rfl]
    rfl
  rw [Metadata.strip, Text.filter_squeeze hblank, Scan.filter_replaceAll htags fun _ => hspace]

theorem filter_mergePipes (hbar : keep '|' = false) : ∀ t : Text,
    (mergePipes t).filter keep = t.filter keep
  | [] => rfl
  | c :: cs => by
    have ih := filter_mergePipes hbar cs
    rw [mergePipes] at ih ⊢
    rw [List.foldr_cons]
    split
    · rename_i hc
      rw [ih, hc.1, List.filter_cons_of_neg (by simp [hbar])]
    · rw [List.filter_cons, List.filter_cons, ih]

theorem filter_dropLeadingPipes (hbar : keep '|' = false) : ∀ t : Text,
    (dropLeadingPipes t).filter keep = t.filter keep
  | [] => rfl
  | c :: cs => by
    have ih := filter_dropLeadingPipes hbar cs
    have hdrop (d : Char) (hd : d == '|') : keep d = false := by rw [beq_iff_eq.1 hd, hbar]
    rw [dropLeadingPipes] at ih ⊢
    rw [List.foldr_cons]
    split
    · rw [List.filter_cons, List.filter_cons, Text.filter_dropWhile hdrop, ih]
    · rw [List.filter_cons, List.filter_cons, ih]

theorem filter_dropTrailingPipes (hbar : keep '|' = false) : ∀ t : Text,
    (dropTrailingPipes t).filter keep = t.filter keep
  | [] => rfl
  | c :: cs => by
    have ih := filter_dropTrailingPipes hbar cs
    rw [dropTrailingPipes] at ih ⊢
    rw [List.foldr_cons]
    split
    · rename_i hc
      rw [ih, hc.1, List.filter_cons_of_neg (by simp [hbar])]
    · rw [List.filter_cons, List.filter_cons, ih]

/-- **Tidying keeps the signs of a pattern in their order.** -/
theorem filter_tidy (h : ∀ c, keep c → isSign c) (t : Text) :
    (tidy t).filter keep = t.filter keep := by
  have hbar : keep '|' = false := by
    by_contra hk
    exact absurd (h '|' (by simpa using hk)) (by decide)
  rw [tidy, filter_dropTrailingPipes hbar, filter_dropLeadingPipes hbar, filter_mergePipes hbar,
    filter_strip h]

end Pattern

end Repartee

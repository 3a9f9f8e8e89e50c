import Repartee.Proofs.Text.Words
import Repartee.Script.Basic

/-!
# The characters of a normalized message

* `Regex.mem_remove`: deleting adds no characters.
* **`Script.mem_normalize`**: a normalized text consists of spaces and of what stripping leaves.
* `Script.notMem_normalize`: line feeds, angle brackets and backslashes are not in one.
-/

namespace Repartee

theorem Regex.mem_removeFrom {r : Regex} {c : Char} :
    ∀ {stop pos : Nat} {last : Option Char} {t : Text}, c ∈ r.removeFrom stop pos last t → c ∈ t
  | _, _, _, [], h => h
  | stop, pos, last, d :: ds, h => by
    have hrest {stop : Nat} (h : c ∈ r.removeFrom stop (pos + 1) (some d) ds) : c ∈ d :: ds :=
      List.mem_cons_of_mem d (mem_removeFrom h)
    have hkept {stop : Nat} (h : c ∈ d :: r.removeFrom stop (pos + 1) (some d) ds) :
        c ∈ d :: ds := by
      rcases List.mem_cons.1 h with rfl | h
      · exact List.mem_cons_self
      · exact hrest h
    rw [removeFrom] at h
    split at h
    · exact hrest h
    · split at h
      · exact hkept h
      · split at h
        · exact hrest h
        · exact hkept h

/-- Deleting adds no characters. -/
theorem Regex.mem_remove {r : Regex} {c : Char} {t : Text} (h : c ∈ r.remove t) : c ∈ t :=
  mem_removeFrom h

namespace Script

variable {s : Script} {reply : Bool} {t : Text} {c : Char}

/-- **A normalized text consists of spaces and of what stripping leaves of the substituted one.** -/
theorem mem_normalize (h : c ∈ s.normalize reply t) : c = ' ' ∨ isBlank c = false ∧
    c ∈ stripSpecial s.options.utf8 (s.subs.apply s.punctuation (Text.lower t)) := by
  rw [normalize] at h
  refine (Text.mem_squeeze h).imp_right fun ⟨hc, hb⟩ => ⟨hb, ?_⟩
  cases hu : s.options.utf8 with
  | false => simpa only [hu, Bool.false_eq_true, if_false] using hc
  | true =>
    simp only [hu, if_true] at hc
    split at hc
    · exact Regex.mem_remove (List.mem_filter.1 hc).1
    · exact Regex.mem_remove hc

/-- In the plain mode a normalized text consists of spaces, letters and digits. -/
theorem mem_normalize_plain (hu : s.options.utf8 = false) (h : c ∈ s.normalize reply t) :
    c = ' ' ∨ c.isAlphanum := by
  rcases mem_normalize h with h | ⟨-, h⟩
  · exact .inl h
  · have hkept := (List.mem_filter.1 h).2
    simp only [hu, Bool.false_eq_true, if_false, Bool.or_eq_true, beq_iff_eq] at hkept
    exact hkept.symm

/-- No blank but a space stands in a normalized text, and none of the characters that break tags. -/
theorem notMem_normalize (hspace : c ≠ ' ') (halnum : c.isAlphanum = false)
    (hspecial : isBlank c ∨ c = '<' ∨ c = '>' ∨ c = '\\') : c ∉ s.normalize reply t := by
  intro hc
  rcases mem_normalize hc with h | ⟨hb, hkept⟩
  · exact hspace h
  · have hkept := (List.mem_filter.1 hkept).2
    rcases hspecial with hblank | hspecial
    · rw [hb] at hblank
      cases hblank
    · cases hu : s.options.utf8 with
      | true =>
        rw [hu, if_pos rfl] at hkept
        rcases hspecial with rfl | rfl | rfl <;> exact absurd hkept (by decide)
      | false =>
        simp only [hu, Bool.false_eq_true, if_false, halnum, Bool.false_or, beq_iff_eq] at hkept
        exact hspace hkept

end Script

end Repartee

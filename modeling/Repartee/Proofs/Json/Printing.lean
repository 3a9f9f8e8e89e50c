import Mathlib.Tactic.SplitIfs
import Repartee.Json.Record
import Repartee.Proofs.Json.Grammar

/-!
# Printed values are written

* `Json.quoted_printString`: printing escapes what has to be escaped.
* **`Json.Prints`**, `Json.prints_array`, `Json.prints_obj`: the text of a value is a way to write
  it.
-/

namespace Repartee

namespace Json

/-! ## Strings -/

/-- Control characters are printed as four hexadecimal digits. -/
theorem hexDigits_control {n : Nat} (hn : n < 32) :
    HexDigits n ['0', '0', hexDigit (n / 16), hexDigit (n % 16)] := by
  have hdigit : ∀ k < 16, isHexDigit (hexDigit k) = true := by decide
  have hzero : isHexDigit '0' = true := by decide
  have hdigits : ∀ c ∈ ['0', '0', hexDigit (n / 16), hexDigit (n % 16)], isHexDigit c = true := by
    simp [hzero, hdigit (n / 16) (by omega), hdigit (n % 16) (by omega)]
  have hvalue : ∀ n < 32, Text.value 16 ['0', '0', hexDigit (n / 16), hexDigit (n % 16)] = n := by
    decide
  exact ⟨rfl, hdigits, hvalue n hn⟩

/-- A character is printed in a way to write it. -/
theorem Spells.escapeChar {cs t : Text} (h : Spells cs t) (c : Char) :
    Spells (c :: cs) (escapeChar c ++ t) := by
  rw [Json.escapeChar]
  split_ifs with hquote hbackslash hnewline hreturn htab hbackspace hfeed hcontrol
  · exact .short (by simp [hquote, shortEscapes]) h
  · exact .short (by simp [hbackslash, shortEscapes]) h
  · exact .short (by simp [hnewline, shortEscapes]) h
  · exact .short (by simp [hreturn, shortEscapes]) h
  · exact .short (by simp [htab, shortEscapes]) h
  · exact .short (by simp [hbackspace, shortEscapes]) h
  · exact .short (by simp [hfeed, shortEscapes]) h
  · exact .unit (hexDigits_control hcontrol) h
  · exact .plain ⟨Nat.not_lt.1 hcontrol, hquote, hbackslash⟩ h

theorem spells_flatMap : ∀ cs : Text, Spells cs (cs.flatMap escapeChar)
  | [] => .nil
  | c :: cs => (spells_flatMap cs).escapeChar c

theorem quoted_printString (s : String) : Quoted (some s) (printString s) :=
  .string (spells_flatMap s.toList)

/-! ## Values -/

theorem gaps_nil : Gaps [] := fun _ h => absurd h List.not_mem_nil

/-- The text of a value is a way to write it. -/
def Prints (j : Json) : Prop := Written j j.print

theorem prints_text (s : String) : (text s).Prints := .string (quoted_printString s)

theorem prints_optionalText (s : Option String) : (optionalText s).Prints := by
  cases s with
  | none => exact .null
  | some s => exact prints_text s

/-- Items are printed without blanks. -/
theorem writtenItems_print : ∀ (vs : List Json) (v : Json), (∀ w ∈ v :: vs, w.Prints) →
    WrittenItems (v :: vs) (printItems (v :: vs))
  | [], v, h => by
    have hone := WrittenItems.one gaps_nil (h v List.mem_cons_self) gaps_nil
    rwa [List.nil_append, List.append_nil] at hone
  | w :: vs, v, h => by
    have hrest := writtenItems_print vs w fun u hu => h u (List.mem_cons_of_mem v hu)
    exact .cons gaps_nil (h v List.mem_cons_self) gaps_nil hrest

theorem prints_array {vs : List Json} (h : ∀ v ∈ vs, v.Prints) : (array vs).Prints := by
  cases vs with
  | nil => exact .noItems gaps_nil
  | cons v vs => exact .array (writtenItems_print vs v h)

/-- Fields are printed without blanks. -/
theorem writtenFields_print : ∀ (fs : List (String × Json)) (f : String × Json),
    (∀ e ∈ f :: fs, e.2.Prints) →
      WrittenFields ((f :: fs).map fun e => (some e.1, e.2))
        (printFields ((f :: fs).map fun e => (some e.1, e.2)))
  | [], (k, v), h => by
    have hone := WrittenFields.one gaps_nil (quoted_printString k) gaps_nil gaps_nil
      (h (k, v) List.mem_cons_self) gaps_nil
    simp only [List.nil_append, List.append_nil] at hone
    exact hone
  | e :: fs, (k, v), h => by
    have hrest := writtenFields_print fs e fun d hd => h d (List.mem_cons_of_mem (k, v) hd)
    have hcons := WrittenFields.cons gaps_nil (quoted_printString k) gaps_nil gaps_nil
      (h (k, v) List.mem_cons_self) gaps_nil hrest
    simpa only [List.map_cons, printFields, Option.getD_some, List.nil_append, List.append_assoc,
      List.cons_append] using hcons

theorem prints_obj {fs : List (String × Json)} (h : ∀ f ∈ fs, f.2.Prints) : (obj fs).Prints := by
  cases fs with
  | nil => exact .noFields gaps_nil
  | cons f fs => exact .object (writtenFields_print fs f h)

theorem prints_texts (ss : List String) : (texts ss).Prints := by
  refine prints_array fun v hv => ?_
  obtain ⟨s, -, rfl⟩ := List.mem_map.1 hv
  exact prints_text s

theorem prints_ofTable {α : Type} {encode : α → Json} (h : ∀ x, (encode x).Prints) (t : Table α) :
    (ofTable encode t).Prints := by
  refine prints_obj fun f hf => ?_
  obtain ⟨e, -, rfl⟩ := List.mem_map.1 hf
  exact h e.2

end Json

end Repartee

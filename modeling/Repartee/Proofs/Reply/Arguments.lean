import Repartee.Proofs.Macro.Words
import Repartee.Proofs.Reply.Prepare

/-!
# Calls with arguments

A call whose arguments are stars and quoted texts. Its words are taken apart and marked before the
stars are put in place, and are read again from between the marks behind all other passes. The
macro gets the arguments that were written.

* `Text.Quotable`: a text without the characters that quotes, tags, blocks, arrays and escapes are
  made of, and without marks.
* `Argument`, `WrittenCall`: a call as it is written; `WrittenCall.values`: what its arguments stand
  for.
* `WrittenCall.wrap_text`: the words of a call are marked.
* `WrittenCall.starred_text`: the stars are put in place between the marks.
* `Call.exists_inner`, `Call.runAll_mark`: a marked call is run with its words.
* **`WrittenCall.run_expand`**: the macro is run once, with these arguments, and its text is the
  reply.
-/

namespace Repartee

/-- Double quotes, brackets, braces, parentheses that open, and backslashes. -/
def unquotable : List Char := ['"', '<', '>', '\x7b', '\x7d', '(', '\\']

/-- A text without these and without the characters that the engine marks places with. -/
def Text.Quotable (t : Text) : Prop := ∀ c ∈ t, c ∉ unquotable ∧ 4 ≤ c.toNat

instance (t : Text) : Decidable t.Quotable := List.decidableBAll _ t

namespace Text.Quotable

variable {t : Text}

theorem clear (h : t.Quotable) : t.Clear 4 := fun c hc => (h c hc).2

theorem notMem (h : t.Quotable) {c : Char} (hc : c ∈ unquotable ∨ c.toNat < 4) : c ∉ t := fun hmem =>
  hc.elim (h c hmem).1 fun hlow => absurd (h c hmem).2 (Nat.not_le.2 hlow)

end Text.Quotable

/-! ## Calls as they are written -/

/-- An argument of a call: a star, counted from 1 or without a number, or a text in quotes. -/
inductive Argument where
  | star (index : Text) (digits : ∀ c ∈ index, c.isDigit)
  | quoted (t : Text) (quotable : t.Quotable)

/-- A star as it is written. -/
def starText (index : Text) : Text := '<' :: ("star".toList ++ (index ++ ['>']))

namespace Argument

/-- An argument as it is written. -/
def written : Argument → Text
  | star index _ => starText index
  | quoted t _ => '"' :: (t ++ ['"'])

/-- What an argument stands for. -/
def value (stars : List String) : Argument → Text
  | star index _ =>
    match if index = [] then 1 else Text.value 10 index with
    | 0 => undefined.toList
    | n + 1 => (stars[n]?.getD undefined).toList
  | quoted t _ => t

end Argument

/-- A call with a name that is a word and with blanks before each of its arguments. -/
structure WrittenCall where
  name : Text
  word : name.IsWord
  quotable : name.Quotable
  args : List (Gap × Argument)

namespace WrittenCall

/-- What stands in the call. -/
def body (w : WrittenCall) : Text := w.name ++ w.args.flatMap fun a => a.1.text ++ a.2.written

/-- The call as it is written. -/
def text (w : WrittenCall) : Text := "<call>".toList ++ (w.body ++ "</call>".toList)

/-- What the arguments stand for. -/
def values (w : WrittenCall) (stars : List String) : List Text :=
  w.args.map fun a => a.2.value stars

end WrittenCall

namespace Call

/-- The text that takes the place of a call. -/
def said (language : String) : Except MacroError String → Text
  | .ok text => text.toList
  | .error e =>
    ("[ERR: Error when executing " ++ language ++ " object: " ++ e.message ++ "]").toList

/-- The text or the message of a macro is quotable, and no mark begins in the name of the language
of a macro that fails. -/
def Unmarked (language : String) : Except MacroError String → Prop
  | .ok text => Text.Quotable text.toList
  | .error e => Text.Quotable e.message.toList ∧ '\x02' ∉ language.toList

end Call

/-! ## Words -/

theorem of_isDigit {P : Char → Bool} (hP : "0123456789".toList.all P = true) {c : Char}
    (h : c.isDigit) : P c := by
  have hbounds := Bool.and_eq_true_iff.1 h
  have hlow : 48 ≤ c.toNat := UInt32.le_iff_toNat_le.1 (of_decide_eq_true hbounds.1)
  have hhigh : c.toNat ≤ 57 := UInt32.le_iff_toNat_le.1 (of_decide_eq_true hbounds.2)
  have hall : ∀ n < 58, 48 ≤ n → Char.ofNat n ∈ "0123456789".toList := by decide
  rw [← Char.ofNat_toNat c]
  exact List.all_eq_true.1 hP _ (hall _ (Nat.lt_succ_of_le hhigh) hlow)

/-- Behind its bracket, a star has only characters of a word and digits. -/
theorem of_mem_starText {P : Char → Bool} (hP : "star>0123456789".toList.all P = true)
    {index : Text} (digits : ∀ c ∈ index, c.isDigit) :
    ∀ c ∈ "star".toList ++ (index ++ ['>']), P c := by
  have hsplit : "star>0123456789".toList = "star".toList ++ ('>' :: "0123456789".toList) := by
    decide
  rw [hsplit, List.all_append, List.all_cons, Bool.and_eq_true_iff, Bool.and_eq_true_iff] at hP
  obtain ⟨hstar, hclose, hdigits⟩ := hP
  intro c hc
  simp only [List.mem_append, List.mem_singleton] at hc
  rcases hc with hc | hc | rfl
  · exact List.all_eq_true.1 hstar c hc
  · exact of_isDigit hdigits (digits c hc)
  · exact hclose

namespace Argument

/-- An argument as a piece of a word. -/
def piece : Argument → Piece
  | star index digits =>
    .bare (starText index) (List.cons_ne_nil _ _) (List.forall_mem_cons.2 ⟨by decide, fun c hc => by
      simpa using of_mem_starText (P := fun c => c != '"' && !isBlank c) (by decide) digits c hc⟩)
  | quoted t quotable => .quoted t (quotable.notMem (.inl (by decide)))

theorem written_piece (a : Argument) : a.piece.written = a.written := by
  cases a <;> rfl

/-- A character that is not quotable is in no argument, unless it is one of these. -/
theorem notMem (a : Argument) {c : Char} (hc : c ∈ unquotable ∨ c.toNat < 4)
    (hquote : '"' ≠ c) (hopen : '<' ≠ c)
    (hstar : ("star>0123456789".toList.all fun d => d != c) = true) :
    c ∉ a.written ∧ c ∉ a.piece.text := by
  cases a with
  | star index digits =>
    have hrest : ∀ d ∈ "star".toList ++ (index ++ ['>']), d ≠ c := fun d hd =>
      bne_iff_ne.1 (of_mem_starText hstar digits d hd)
    have htext : c ∉ starText index :=
      List.not_mem_cons_of_ne_of_not_mem hopen.symm fun hmem => hrest c hmem rfl
    exact ⟨htext, htext⟩
  | quoted t quotable =>
    have ht := quotable.notMem hc
    exact ⟨by simp [written, hquote.symm, ht], ht⟩

end Argument

namespace WrittenCall

variable (w : WrittenCall)

/-- The arguments of a call before stars are put in place. -/
def words : List Text := w.args.map fun a => a.2.piece.text

/-- The words of a call are its name and its arguments. -/
theorem callWords_body : callWords w.body = w.name :: w.words := by
  let name : Piece := .bare w.name w.word.1 fun c hc =>
    ⟨ne_of_mem_of_not_mem hc (w.quotable.notMem (.inl (by decide))), w.word.2 c hc⟩
  let args : List SpacedWord := w.args.map fun a => ⟨a.1, [a.2.piece], List.cons_ne_nil _ _⟩
  have hname : name.written = w.name := rfl
  have hbody : w.body = name.written ++ args.flatMap SpacedWord.written := by
    rw [hname, body]
    simp [args, SpacedWord.written, List.flatMap_map, Argument.written_piece]
  have hwords : args.map SpacedWord.text = w.words := by
    simp [args, words, SpacedWord.text]
  rw [hbody, callWords, callWordsFrom_piece, callWordsFrom_words, hwords, List.append_nil,
    List.reverse_reverse]
  rfl

end WrittenCall

/-! ## Stars among other tags -/

section

variable {α : Type} {p : Scan α} {t u : Text}

/-- An opening that differs from that of a star in one of the first five characters. -/
theorem Text.startsWithFolded?_star {o : Text}
    (h : startsWithFolded? (o.take 5) ('<' :: "star".toList) = none) (u : Text) :
    startsWithFolded? o ('<' :: ("star".toList ++ u)) = none := by
  have hlength : (o.take 5).length ≤ ('<' :: "star".toList).length := List.length_take_le 5 o
  rw [← List.take_append_drop 5 o]
  exact Scan.startsWithFolded?_append_eq_none (Scan.startsWithFolded?_eq_none_append h hlength)

/-- What begins with a bracket, but not as a star does, begins nowhere in a star. -/
theorem Scan.Needs.free_starText (hp : p.Needs '<')
    (hstar : ∀ u, p ('<' :: ("star".toList ++ u)) = none) {index : Text}
    (digits : ∀ c ∈ index, c.isDigit) : p.Free (starText index) := by
  have hrest : ∀ c ∈ "star".toList ++ (index ++ ['>']), c != '<' :=
    of_mem_starText (by decide) digits
  refine ⟨fun u => ?_, hp.free fun hmem => bne_iff_ne.1 (hrest '<' hmem) rfl⟩
  rw [List.append_assoc]
  exact hstar _

/-- So it begins nowhere in an argument. -/
theorem Scan.Needs.free_argument (hp : p.Needs '<')
    (hstar : ∀ u, p ('<' :: ("star".toList ++ u)) = none) (a : Argument) :
    p.Free a.written ∧ p.Free a.piece.text := by
  cases a with
  | star index digits => exact ⟨hp.free_starText hstar digits, hp.free_starText hstar digits⟩
  | quoted t quotable =>
    have ht : '<' ∉ t := quotable.notMem (.inl (by decide))
    exact ⟨hp.free (t := '"' :: (t ++ ['"'])) (by simp [ht]), hp.free ht⟩

end

namespace WrittenCall

variable (w : WrittenCall)

theorem free_body {α : Type} {p : Scan α} (hp : p.Needs '<')
    (hstar : ∀ u, p ('<' :: ("star".toList ++ u)) = none) : p.Free w.body := by
  refine (hp.free (w.quotable.notMem (.inl (by decide)))).append (Scan.free_flatMap fun a _ => ?_)
  have hgap : '<' ∉ a.1.text := fun hmem => absurd (a.1.blank _ hmem) (by decide)
  exact (hp.free hgap).append (hp.free_argument hstar a.2).1

/-- **The words of a call are marked.** -/
theorem wrap_text : Call.wrap w.text = Call.mark (w.name :: w.words) := by
  have hclose : (Scan.opening "</call>").Free w.body :=
    w.free_body (Scan.needs_opening rfl rfl) fun u => by
      rw [Scan.opening, Text.startsWithFolded?_star (by decide)]
      rfl
  have hopening : ∀ c ∈ "<call>".toList, Text.sameFolded c c := List.all_eq_true.1 (by decide)
  have hclosing : ∀ c ∈ "</call>".toList, Text.sameFolded c c := List.all_eq_true.1 (by decide)
  have htext : w.text ++ [] = "<call>".toList ++ (w.body ++ ("</call>".toList ++ [])) := by
    unfold text
    rw [List.append_assoc, List.append_assoc]
  have hfront : Scan.delimited "<call>" (fun _ => true) 0 "</call>" (w.text ++ []) =
      some (w.body, []) := by
    rw [htext, Scan.delimited, Scan.startsWithFolded?_append hopening, Option.bind_some,
      hclose.until?_append (by decide) hclosing]
  have hne : w.text ≠ [] := List.append_ne_nil_of_left_ne_nil (by decide) _
  have hwrap := Scan.replaceAll_append (f := fun body => Call.mark (callWords body)) hne hfront
  rw [List.append_nil w.text, w.callWords_body] at hwrap
  exact hwrap.trans (List.append_nil _)

end WrittenCall

/-! ## Between the marks -/

namespace Call

variable {α : Type} {p : Scan α} {ws : List Text} {c : Char}

/-- A character that is in no mark and no word of a call. -/
theorem notMem_mark (hmarks : c ∉ ' ' :: marks.flatten) (h : ∀ w ∈ ws, c ∉ w) : c ∉ mark ws := by
  have hmarks : c ≠ ' ' ∧ c ∉ callOpen ∧ c ∉ callClose ∧ c ∉ argOpen ∧ c ∉ argClose := by
    simpa [marks] using hmarks
  obtain ⟨hspace, hcallOpen, hcallClose, hargOpen, hargClose⟩ := hmarks
  cases ws with
  | nil => simp [mark, hcallOpen, hcallClose]
  | cons name args =>
    rw [List.forall_mem_cons] at h
    obtain ⟨hname, hargs⟩ := h
    simp only [mark, List.mem_append, List.mem_flatMap, List.mem_cons, not_or, not_exists, not_and]
    exact ⟨⟨⟨hcallOpen, hname⟩, fun w hw => ⟨⟨⟨hspace, hargOpen⟩, hargs w hw⟩, hargClose⟩⟩,
      hcallClose⟩

/-- What begins in no word of a call begins nowhere in the marked call. -/
theorem free_mark (hp : p.Needs '<') {name : Text} (hname : '<' ∉ name)
    (h : ∀ w ∈ ws, p.Free w) : p.Free (mark (name :: ws)) := by
  have hargs : p.Free (ws.flatMap fun w => ' ' :: argOpen ++ w ++ argClose) :=
    Scan.free_flatMap fun w hw =>
      ((hp.free (t := ' ' :: argOpen) (by decide)).append (h w hw)).append (hp.free (by decide))
  exact (((hp.free (by decide)).append (hp.free hname)).append hargs).append (hp.free (by decide))

/-- What follows the name in a marked call: each argument is between marks, and a space before the
next one is the gap behind it. -/
theorem exists_inner : ∀ {ws : List Text}, (∀ w ∈ ws, w.Clear 4) → ∃ gap args,
    (gap = [] ∨ gap = [' ']) ∧ ClearInner 4 gap args ∧ args.map (·.1) = ws ∧
      (ws.flatMap fun w => ' ' :: argOpen ++ w ++ argClose) = inner gap args
  | [], _ =>
    ⟨[], [], .inl rfl, ⟨Text.clear_nil, fun _ ha => absurd ha List.not_mem_nil⟩, rfl, rfl⟩
  | w :: ws, h => by
    rw [List.forall_mem_cons] at h
    obtain ⟨gap, args, -, hinner, rfl, heq⟩ := exists_inner h.2
    refine ⟨[' '], (w, gap) :: args, .inr rfl, ⟨Text.clear_of_all (Nat.le_refl 4) (by decide), ?_⟩,
      rfl, ?_⟩
    · exact List.forall_mem_cons.2 ⟨⟨h.1, hinner.name⟩, hinner.args⟩
    · rw [List.flatMap_cons, heq]
      simp [inner]

section

variable {s : Script} {a : Speaker} {language : String} {h : Handler} {t : Turn}
  {result : Except MacroError String} {deeds : List Deed}

theorem notMem_said (h : Unmarked language result) : '\x02' ∉ said language result := by
  cases result with
  | ok text => exact h.notMem (.inr (by decide))
  | error e =>
    obtain ⟨hmessage, hlanguage⟩ := h
    have hmessage : '\x02' ∉ e.message.toList := hmessage.notMem (.inr (by decide))
    simp [said, hmessage, hlanguage]

variable (hhandler : s.handlers.find? language = some h)

include hhandler

/-- A macro with a handler is run on the desk as it is, and what it asks for is carried out. -/
theorem run_registered {name : String} (hlanguage : s.languages.find? name = some language)
    {args : List String}
    (hcall : h.call s.registry ⟨a.user, name, args, a.scope⟩ t.toDesk = (result, deeds)) :
    (run s a name args).run t =
      (said language result, { t with toDesk := t.afterCall deeds }) := by
  simp only [run, hlanguage, hhandler]
  change ((match (h.call s.registry ⟨a.user, name, args, a.scope⟩ t.toDesk).1 with
      | .ok text => text
      | .error e =>
        "[ERR: Error when executing " ++ language ++ " object: " ++ e.message ++ "]").toList,
    { t with toDesk := t.afterCall (h.call s.registry ⟨a.user, name, args, a.scope⟩ t.toDesk).2 }) =
      _
  rw [hcall]
  cases result <;> rfl

/-- **A marked call is run with its words.** -/
theorem runAll_mark {name : Text} (hname : name.Clear 4) (hword : name.IsWord)
    (hws : ∀ w ∈ ws, w.Clear 4)
    (hlanguage : s.languages.find? (String.ofList name) = some language)
    (hcall : h.call s.registry ⟨a.user, String.ofList name, ws.map String.ofList, a.scope⟩ t.toDesk =
      (result, deeds)) (hresult : Unmarked language result) :
    (runAll s a (mark (name :: ws))).run t =
      (said language result, { t with toDesk := t.afterCall deeds }) := by
  obtain ⟨gap, args, hgap, hinner, rfl, heq⟩ := exists_inner hws
  have hclear : ClearInner 4 (name ++ gap) args := ⟨hname.append hinner.name, hinner.args⟩
  have hmark : mark (name :: args.map (·.1)) =
      callOpen ++ (inner (name ++ gap) args ++ (callClose ++ [])) := by
    rw [mark, heq]
    simp [inner]
  have hread : read (inner (name ++ gap) args) = (name, args.map (·.1)) := by
    have hblank : ∀ c ∈ gap, isBlank c := by
      rcases hgap with rfl | rfl <;> exact List.all_eq_true.1 (by decide)
    have htrim := Text.trim_append (u := []) (fun _ hc => absurd hc List.not_mem_nil) hblank
      (fun c hc => hword.2 c (List.mem_of_mem_head? hc))
      (fun c hc => hword.2 c (List.mem_of_mem_getLast? hc)) hword.1
    rw [List.nil_append] at htrim
    rw [read_inner (by decide) hclear, htrim]
  have hsaid := notMem_said hresult
  rw [runAll, StateT.run_map, hmark, limit, Talk.replacing, find?_marked (by decide) hclear]
  dsimp only
  rw [hread]
  dsimp only
  rw [StateT.run_bind, run_registered hhandler hlanguage hcall]
  -- the result has no mark, so the next round finds nothing
  change (fun p => (unmark p.1, p.2)) <$>
    (Talk.replacing marked _ 49 ([] ++ said language result ++ [])).run _ = _
  rw [List.nil_append, List.append_nil,
    Talk.replacing_of_find? _ (needs_marked.find?_eq_none hsaid)]
  change (unmark (said language result), _) = _
  rw [unmark_eq_self hsaid]
  rfl

end

end Call

/-! ## Stars between the marks -/

namespace Argument

variable {stars : List String}

theorem star_eq_value (stars : List String) {index : Text} (digits : ∀ c ∈ index, c.isDigit) :
    Shorthand.star stars index = (star index digits).value stars := by
  have hnumber : (if index = [] then 1 else (Text.natural? index).getD 0) =
      if index = [] then 1 else Text.value 10 index := by
    by_cases h : index = []
    · rw [if_pos h, if_pos h]
    · rw [if_neg h, if_neg h, Text.natural?, if_pos ⟨h, List.all_eq_true.2 digits⟩, Option.getD_some]
  rw [Shorthand.star, hnumber, value]
  cases if index = [] then 1 else Text.value 10 index <;> rfl

/-- A star is replaced, a quoted text stays. -/
theorem replaceAll_piece (a : Argument) (stars : List String) (u : Text) :
    Shorthand.starTag.replaceAll (Shorthand.star stars) (a.piece.text ++ u) =
      a.value stars ++ Shorthand.starTag.replaceAll (Shorthand.star stars) u := by
  cases a with
  | star index digits =>
    have hopening : ∀ c ∈ "<star".toList, Text.sameFolded c c := List.all_eq_true.1 (by decide)
    have hindex : ∀ c ∈ index, isDigit c ∧ Text.sameFolded '>' c = false := fun c hc =>
      ⟨isDigit_of_isDigit (digits c hc), Text.sameFolded_of_ne rfl
        (bne_iff_ne.1 (of_isDigit (P := (· != '>')) (by decide) (digits c hc)))⟩
    have hfront := Scan.delimited_append hopening (by decide) (Nat.zero_le index.length) hindex u
    have htext : "<star".toList ++ (index ++ '>' :: u) = starText index ++ u := by
      simp [starText]
    rw [htext] at hfront
    have hreplaced := Scan.replaceAll_append (f := Shorthand.star stars)
      (List.cons_ne_nil '<' _ : starText index ≠ []) hfront
    rw [← star_eq_value stars digits]
    exact hreplaced
  | quoted t quotable =>
    have hneeds : Shorthand.starTag.Needs '<' := Scan.needs_delimited rfl rfl
    exact hneeds.replaceAll_notMem u (quotable.notMem (.inl (by decide)))

theorem quotable_value (a : Argument) (h : ∀ x ∈ stars, Text.Quotable x.toList) :
    (a.value stars).Quotable := by
  have hundefined : Text.Quotable undefined.toList := by decide
  cases a with
  | star index digits =>
    rw [value]
    cases if index = [] then 1 else Text.value 10 index with
    | zero => exact hundefined
    | succ n =>
      dsimp only
      cases hn : stars[n]? with
      | none => exact hundefined
      | some x => exact h x (List.mem_of_getElem? hn)
  | quoted t quotable => exact quotable

end Argument

namespace WrittenCall

variable (w : WrittenCall) {s : Script} {stars : List String}

/-- A character that is not quotable is in no call, unless it is blank or stands in a tag. -/
theorem notMem_text {c : Char} (hc : c ∈ unquotable ∨ c.toNat < 4) (hblank : isBlank c = false)
    (hquote : '"' ≠ c) (hcall : c ∉ "<call>".toList ++ "</call>".toList)
    (hstar : ("star>0123456789".toList.all fun d => d != c) = true) : c ∉ w.text := by
  rw [List.mem_append, not_or] at hcall
  obtain ⟨hopening, hclosing⟩ := hcall
  have hopen : '<' ≠ c := fun h => hopening (h ▸ by decide)
  have hargs : ∀ a ∈ w.args, c ∉ a.1.text ∧ c ∉ a.2.written := by
    intro a _
    refine ⟨fun hmem => ?_, (a.2.notMem hc hquote hopen hstar).1⟩
    rw [a.1.blank c hmem] at hblank
    cases hblank
  unfold text
  simp only [body, List.mem_append, List.mem_flatMap, not_or, not_exists, not_and]
  exact ⟨hopening, ⟨w.quotable.notMem hc, hargs⟩, hclosing⟩

/-- Short tags are not in a marked call. -/
theorem tags_mark : Shorthand.tags (Call.mark (w.name :: w.words)) =
    Call.mark (w.name :: w.words) := by
  refine Shorthand.tags_induction (Q := fun u => u = Call.mark (w.name :: w.words)) rfl
    fun e he u hu => ?_
  have hopen : ∀ e ∈ Shorthand.shortTags, e.1.toList.head? = some '<' ∧
      Text.startsWithFolded? (e.1.toList.take 5) ('<' :: "star".toList) = none := by decide
  obtain ⟨hhead, hstar⟩ := hopen e he
  obtain ⟨os, hos⟩ := List.head?_eq_some_iff.1 hhead
  have hneeds : (Scan.opening e.1).Needs '<' := Scan.needs_opening hos rfl
  have hwords : ∀ v ∈ w.words, (Scan.opening e.1).Free v := by
    intro v hv
    obtain ⟨a, -, rfl⟩ := List.mem_map.1 hv
    refine (hneeds.free_argument (fun u => ?_) a.2).2
    rw [Scan.opening, Text.startsWithFolded?_star hstar]
    rfl
  have hfree := Call.free_mark hneeds (w.quotable.notMem (.inl (by decide))) hwords
  rw [hu, Scan.replaceAll_of_find? hfree.find?_eq_none]

/-- The stars are put in place between the marks. -/
theorem replaceAll_mark (stars : List String) :
    Shorthand.starTag.replaceAll (Shorthand.star stars) (Call.mark (w.name :: w.words)) =
      Call.mark (w.name :: w.values stars) := by
  have hneeds : Shorthand.starTag.Needs '<' := Scan.needs_delimited rfl rfl
  have hargs (as : List (Gap × Argument)) : Shorthand.starTag.replaceAll (Shorthand.star stars)
      ((as.flatMap fun a => ' ' :: Call.argOpen ++ a.2.piece.text ++ Call.argClose) ++
        Call.callClose) =
      (as.flatMap fun a => ' ' :: Call.argOpen ++ a.2.value stars ++ Call.argClose) ++
        Call.callClose := by
    induction as with
    | nil => exact Scan.replaceAll_of_find? (hneeds.find?_eq_none (by decide))
    | cons a as ih =>
      have hopen : '<' ∉ ' ' :: Call.argOpen := by decide
      have hclose : '<' ∉ Call.argClose := by decide
      simp only [List.flatMap_cons, List.append_assoc] at ih ⊢
      rw [hneeds.replaceAll_notMem _ hopen, Argument.replaceAll_piece,
        hneeds.replaceAll_notMem _ hclose, ih]
  have hname : '<' ∉ Call.callOpen ++ w.name := by
    rw [List.mem_append, not_or]
    exact ⟨by decide, w.quotable.notMem (.inl (by decide))⟩
  simp only [Call.mark, words, values, List.flatMap_map]
  rw [List.append_assoc, hneeds.replaceAll_notMem _ hname, hargs, ← List.append_assoc]

/-- **The first passes mark a call and put its stars in place.** -/
theorem starred_text (s : Script) (stars : List String) :
    Expand.starred s stars w.text = Call.mark (w.name :: w.values stars) := by
  have harray : Shorthand.arrayTag.Needs '(' := Scan.needs_delimited rfl rfl
  have hopen : '(' ∉ w.text :=
    w.notMem_text (by decide) (by decide) (by decide) (by decide) (by decide)
  have hzero : '\x00' ∉ w.text :=
    w.notMem_text (by decide) (by decide) (by decide) (by decide) (by decide)
  have harrays : Shorthand.arrays s w.text = w.text :=
    Shorthand.arrays_eq_self (harray.find?_eq_none hopen) hzero s
  have hbrace : '\x7b' ∉ Call.mark (w.name :: w.words) := by
    refine Call.notMem_mark (by decide) (List.forall_mem_cons.2 ⟨?_, fun v hv => ?_⟩)
    · exact w.quotable.notMem (.inl (by decide))
    · obtain ⟨a, -, rfl⟩ := List.mem_map.1 hv
      exact (a.2.notMem (.inl (by decide)) (by decide) (by decide) (by decide)).2
  rw [Expand.starred, Call.called, harrays, wrap_text, tags_mark,
    Metadata.stripWeight_eq_self hbrace, replaceAll_mark]

/-- A call is expanded by running it with what its arguments stand for. -/
theorem expand_text (hstars : ∀ x ∈ stars, Text.Quotable x.toList) (a : Speaker)
    (redirect : Redirect) (botstars : List String) :
    expand s a redirect stars botstars w.text =
      Call.runAll s a (Call.mark (w.name :: w.values stars)) := by
  have hvalues : ∀ v ∈ w.name :: w.values stars, v.Quotable := by
    refine List.forall_mem_cons.2 ⟨w.quotable, fun v hv => ?_⟩
    obtain ⟨b, -, rfl⟩ := List.mem_map.1 hv
    exact b.2.quotable_value hstars
  have hnot {c : Char} (hmarks : c ∉ ' ' :: Call.marks.flatten)
      (hc : c ∈ unquotable ∨ c.toNat < 4) :
      c ∉ Call.mark (w.name :: w.values stars) :=
    Call.notMem_mark hmarks fun v hv => (hvalues v hv).notMem hc
  have hangle : '<' ∉ Call.mark (w.name :: w.values stars) := hnot (by decide) (by decide)
  have hprepare (hist : History) : Expand.prepare s a hist stars botstars w.text =
      Call.mark (w.name :: w.values stars) := by
    rw [Expand.prepare_alone (w.starred_text s stars ▸ hangle), starred_text,
      Shorthand.unescape_eq_self (hnot (by decide) (by decide))]
  obtain ⟨hchoice, hformats, htopic, hredirect⟩ :=
    Expand.find?_eq_none_of_brace (hnot (by decide) (by decide))
  exact expand_eq_runAll s a hprepare ⟨hnot (by decide) (by decide), hnot (by decide) (by decide)⟩
    hangle hchoice hformats htopic hredirect redirect

/-- **A macro that is called is run once, with the arguments of the call, and its text or the text
of its error is the reply.** -/
theorem run_expand (hstars : ∀ x ∈ stars, Text.Quotable x.toList) {a : Speaker}
    {language : String} {h : Handler}
    (hlanguage : s.languages.find? (String.ofList w.name) = some language)
    (hhandler : s.handlers.find? language = some h) {t : Turn}
    {result : Except MacroError String} {deeds : List Deed}
    (hcall : h.call s.registry
      ⟨a.user, String.ofList w.name, (w.values stars).map String.ofList, a.scope⟩ t.toDesk =
        (result, deeds)) (hresult : Call.Unmarked language result) (redirect : Redirect)
    (botstars : List String) :
    (expand s a redirect stars botstars w.text).run t =
      (Call.said language result, { t with toDesk := t.afterCall deeds }) := by
  have hvalues : ∀ v ∈ w.values stars, v.Clear 4 := by
    intro v hv
    obtain ⟨b, -, rfl⟩ := List.mem_map.1 hv
    exact (b.2.quotable_value hstars).clear
  rw [w.expand_text hstars]
  exact Call.runAll_mark hhandler w.quotable.clear w.word hvalues hlanguage hcall hresult

/-- A turn in which nothing is set. -/
def blankTurn : Turn where
  vars := ∅
  globals := ∅
  sessions := .new
  dice := .first

theorem isWord_of_all {t : Text} (hne : t ≠ []) (h : (t.all fun c => !isBlank c) = true) :
    t.IsWord :=
  ⟨hne, fun c hc => by simpa using List.all_eq_true.1 h c hc⟩

/-- A space, and a space with a line break. -/
def space : Gap := ⟨[' '], List.cons_ne_nil _ _, List.all_eq_true.1 (by decide)⟩

@[inherit_doc space]
def spaceAndLine : Gap := ⟨[' ', '\n'], List.cons_ne_nil _ _, List.all_eq_true.1 (by decide)⟩

/-- A script with a macro that shows its arguments. -/
def showing : Script :=
  { Script.new {} with
    registry := Table.empty.insert "show" .showArgs
    languages := Table.empty.insert "show" nativeLanguage }

/-- A call of this macro. -/
def showCall : WrittenCall where
  name := "show".toList
  word := isWord_of_all (by decide) (by decide)
  quotable := by decide
  args :=
    [(space, .star "2".toList (List.all_eq_true.1 (by decide))),
      (spaceAndLine, .quoted "a  b".toList (by decide)),
      (space, .quoted [] (by decide)),
      (space, .star [] (List.all_eq_true.1 (by decide))),
      (space, .star "9".toList (List.all_eq_true.1 (by decide)))]

/-- Stars with and without a number, one that is missing, and quoted texts. -/
theorem run_expand_showCall :
    showCall.text = "<call>show <star2> \n\"a  b\" \"\" <star> <star9></call>".toList ∧
      (∀ x ∈ ["bob", "the  builder"], Text.Quotable x.toList) ∧
      (expand showing ⟨"ann", none⟩ pure ["bob", "the  builder"] [] showCall.text).run blankTurn =
        ("5[the  builder][a  b][][bob][undefined]".toList, { blankTurn with calls := 1 }) := by
  have hstars : ∀ x ∈ ["bob", "the  builder"], Text.Quotable x.toList := by decide
  refine ⟨by decide, hstars, ?_⟩
  have hquotable : Text.Quotable "5[the  builder][a  b][][bob][undefined]".toList := by decide
  exact run_expand showCall hstars (s := showing) (a := ⟨"ann", none⟩) (h := .registered) rfl rfl
    rfl hquotable pure []

/-- A name of a language that is a marked call. -/
def markedLanguage : String := "\x02call\x03x\x02/call\x03"

/-- A script with a macro of this language that fails. -/
def marking : Script :=
  { Script.new {} with
    handlers :=
      Table.empty.insert markedLanguage (.sources .template (Table.empty.insert "n" "fail"))
    languages := Table.empty.insert "n" markedLanguage }

/-- A call of this macro. -/
def markingCall : WrittenCall :=
  ⟨"n".toList, isWord_of_all (by decide) (by decide), by decide, []⟩

/-- In the text of the error, the name of the language is taken for another call. -/
theorem run_expand_marking :
    markingCall.text = "<call>n</call>".toList ∧
      marking.languages.find? "n" = some markedLanguage ∧
      (marking.handlers.find? markedLanguage).map (fun h =>
        (h.call marking.registry ⟨"ann", "n", [], none⟩ blankTurn.toDesk).1) =
          some (.error ⟨"boom"⟩) ∧
      Text.Quotable "boom".toList ∧
      ((expand marking ⟨"ann", none⟩ pure [] [] markingCall.text).run blankTurn).1 =
        "[ERR: Error when executing [ERR: Object Not Found] object: boom]".toList ∧
      ((expand marking ⟨"ann", none⟩ pure [] [] markingCall.text).run blankTurn).1 ≠
        Call.said markedLanguage (.error ⟨"boom"⟩) := by
  have hexpand : ((expand marking ⟨"ann", none⟩ pure [] [] markingCall.text).run blankTurn).1 =
      "[ERR: Error when executing [ERR: Object Not Found] object: boom]".toList := by
    decide +kernel
  refine ⟨by decide, by decide, by rfl, by decide, hexpand, ?_⟩
  rw [hexpand]
  decide

end WrittenCall

end Repartee

import Repartee.Proofs.Substitution.Found
import Repartee.Proofs.Text.Gaps
import Repartee.Proofs.Text.LeadingInt

/-!
# The gaps of a message

* `Substitution.respaced_apply`: other gaps go through a substitution.
* `Script.keeps`: the characters that are kept of a message or an earlier reply.
* **`Script.normalize_respace`**: in the UTF-8 mode a message can have any other gaps; in the plain
  mode a gap counts as a space if it holds one, and as a line break if it does not, and a line break
  does not keep words apart.
-/

namespace Repartee

open Text (Respaced Alike marked written)

namespace Substitution

variable {s : Substitution} {punctuation : Regex} {keep : Char → Bool}

/-! ## Substitution -/

/-- Where only the gaps of words change, the phrases that are found are the same. -/
theorem respaced_applyFrom {f : Token → Token} (hword : ∀ x, (f x).word = x.word) :
    ∀ {xs : List Token} (skip : Nat), (∀ x ∈ xs, Alike keep x.gap (f x).gap) →
      Respaced keep (s.applyFrom skip (keyed punctuation xs))
        (s.applyFrom skip (keyed punctuation (xs.map f)))
  | [], 0, _ | [], _ + 1, _ => .nil
  | x :: xs, skip + 1, h => by
    rw [keyed, keyed, List.map_cons, List.map_cons, List.map_cons, applyFrom, applyFrom]
    exact respaced_applyFrom hword skip (List.forall_mem_cons.1 h).2
  | x :: xs, 0, h => by
    rw [List.forall_mem_cons] at h
    have hlater (skip : Nat) : Respaced keep (s.applyFrom skip (keyed punctuation xs))
        (s.applyFrom skip (keyed punctuation (xs.map f))) :=
      respaced_applyFrom hword skip h.2
    have hkeys : (keyed punctuation (xs.map f)).map (·.2) = (keyed punctuation xs).map (·.2) := by
      rw [snd_keyed, snd_keyed, List.map_map]
      exact List.map_congr_left fun y _ => congrArg (key punctuation) (hword y)
    have hlength : (keyed punctuation (xs.map f)).length = (keyed punctuation xs).length := by
      rw [keyed, keyed, List.length_map, List.length_map, List.length_map]
    rw [List.map_cons, keyed, keyed, List.map_cons, List.map_cons, ← keyed, ← keyed, applyFrom,
      applyFrom, hkeys, hlength, hword]
    dsimp only
    generalize s.longest? _ _ = found
    cases found with
    | none =>
      rw [List.append_assoc, List.append_assoc]
      exact .gap h.1 ((hlater 0).append_left x.word)
    | some found =>
      obtain ⟨n, r⟩ := found
      dsimp only
      rw [List.append_assoc, List.append_assoc]
      exact .gap h.1 ((hlater n).append_left r.toList)

/-- Texts whose tokens differ in their gaps only are substituted alike. -/
theorem respaced_apply {f : Token → Token} {t u : Text} (hword : ∀ x, (f x).word = x.word)
    (htokens : (Text.tokens u).1 = (Text.tokens t).1.map f)
    (hgap : ∀ x ∈ (Text.tokens t).1, Alike keep x.gap (f x).gap)
    (hend : Alike keep (Text.tokens t).2 (Text.tokens u).2) :
    Respaced keep (s.apply punctuation t) (s.apply punctuation u) := by
  have hmargin := Respaced.gap hend .nil
  rw [List.append_nil, List.append_nil] at hmargin
  rw [apply, apply, ← keyed, ← keyed, htokens]
  exact (respaced_applyFrom hword 0 hgap).append hmargin

end Substitution

namespace Script

variable {s : Script} {reply : Bool} {t : Text} {c : Char}

/-! ## What is kept -/

/-- The characters that are kept of a message or an earlier reply, if the punctuation is the default
one. -/
def keeps (s : Script) (reply : Bool) (c : Char) : Bool :=
  if s.options.utf8 then
    !(c == '<' || c == '>' || c == '\\') && !isPunctuation c &&
      !(reply && replyPunctuation.contains c)
  else c.isAlphanum || c == ' '

/-- Without content the punctuation is the one of the options. -/
theorem punctuation_new {o : Options} (h : o.punctuation = defaultPunctuation) :
    (new o).punctuation = ({} : Options).punctuationRegex := by
  rw [new, Options.punctuationRegex, Options.punctuationRegex, h]

/-- Normalization keeps some characters of the substituted text and leaves one space between its
words. -/
theorem normalize_eq (hp : s.punctuation = ({} : Options).punctuationRegex) :
    s.normalize reply t =
      Text.squeeze ((s.subs.apply s.punctuation (Text.lower t)).filter (s.keeps reply)) := by
  rw [normalize]
  congr 1
  by_cases hu : s.options.utf8 = true
  · rw [if_pos hu, hp, Options.remove_default, stripSpecial, List.filter_filter]
    cases reply with
    | false =>
      refine List.filter_congr fun c _ => ?_
      simp [keeps, hu, Bool.and_comm]
    | true =>
      rw [if_pos rfl, List.filter_filter]
      refine List.filter_congr fun c _ => ?_
      simp [keeps, hu, Bool.and_comm, Bool.and_left_comm]
  · rw [if_neg hu, stripSpecial]
    refine List.filter_congr fun c _ => ?_
    simp [keeps, hu]

/-- Of the blanks all are kept in the UTF-8 mode, and in the plain mode the spaces. -/
theorem keeps_of_isBlank (h : isBlank c) : s.keeps reply c = (s.options.utf8 || c == ' ') := by
  have hcodes : ∀ k ∈ blankCodes, ¬(Char.ofNat k = '<' ∨ Char.ofNat k = '>' ∨ Char.ofNat k = '\\') ∧
      isPunctuation (Char.ofNat k) = false ∧ Char.ofNat k ∉ replyPunctuation ∧
      (Char.ofNat k).isAlphanum = false := by
    decide +kernel
  have hc := hcodes c.toNat (mem_blankCodes h)
  rw [Char.ofNat_toNat] at hc
  obtain ⟨htag, hpunct, hreply, halnum⟩ := hc
  cases hu : s.options.utf8 with
  | false => simp [keeps, hu, halnum]
  | true =>
    rw [not_or, not_or] at htag
    simp [keeps, hu, htag, hpunct, hreply]

theorem keeps_space : s.keeps reply ' ' = true := by
  rw [keeps_of_isBlank rfl, beq_self_eq_true, Bool.or_true]

/-! ## Other gaps -/

/-- A message can have other gaps, if of these the same is kept. -/
theorem normalize_marked (hp : s.punctuation = ({} : Options).punctuationRegex)
    {mark : Text → Char} (hmark : ∀ gap, isBlank (mark gap))
    (hkeep : ∀ gap : Text, gap ≠ [] → (∀ c ∈ gap, c ∈ t ∧ isBlank c) →
      gap.any (s.keeps reply) = s.keeps reply (mark gap)) :
    s.normalize reply (t.respace mark) = s.normalize reply t := by
  obtain ⟨heq, hspread, hend⟩ := Text.spread_tokens t
  have hblank : ∀ x ∈ (Text.tokens t).1, ∀ c ∈ x.gap, isBlank c :=
    fun x hx => (hspread.proper x hx).gap
  have hmem : ∀ x ∈ (Text.tokens t).1, ∀ c ∈ x.gap, c ∈ t := by
    intro x hx c hc
    rw [heq, written, List.mem_append, List.mem_flatMap]
    exact .inl ⟨x, hx, List.mem_append_left _ hc⟩
  have hmargin : ∀ c ∈ (Text.tokens t).2, c ∈ t := by
    intro c hc
    rw [heq]
    exact List.mem_append_right _ hc
  have hrespaced : Respaced (s.keeps reply) (s.subs.apply s.punctuation (Text.lower t))
      (s.subs.apply s.punctuation (Text.lower (t.respace mark))) := by
    refine Substitution.respaced_apply (f := Text.Token.marked mark) (fun _ => rfl) ?_ ?_ ?_
    · rw [Text.tokens_lower, Text.tokens_lower, Text.tokens_respace hmark, List.map_map,
        List.map_map]
      rfl
    · rw [Text.tokens_lower]
      intro y hy
      obtain ⟨x, hx, rfl⟩ := List.mem_map.1 hy
      exact Text.alike_marked hmark (hblank x hx) fun hne =>
        hkeep x.gap hne fun c hc => ⟨hmem x hx c hc, hblank x hx c hc⟩
    · rw [Text.tokens_lower, Text.tokens_lower, Text.tokens_respace hmark]
      exact Text.alike_marked hmark hend fun hne =>
        hkeep _ hne fun c hc => ⟨hmargin c hc, hend c hc⟩
  rw [normalize_eq hp, normalize_eq hp, Text.squeeze, Text.squeeze, hrespaced.words_filter]

/-- **A message can have any other gaps** in the UTF-8 mode, and where only spaces are blank. In the
plain mode a gap counts as a space if it holds one, and as a line break if it does not: a line break
keeps words apart while phrases are substituted, and no longer; where nothing is substituted, all
words of a message that holds no space come together. -/
theorem normalize_respace (hp : s.punctuation = ({} : Options).punctuationRegex) (reply : Bool)
    (t : Text) :
    (s.options.utf8 = true ∨ (∀ c ∈ t, isBlank c → c = ' ') →
      s.normalize reply (t.respace fun _ => ' ') = s.normalize reply t) ∧
    (s.options.utf8 = false →
      s.normalize reply (t.respace fun gap => if ' ' ∈ gap then ' ' else '\n') =
        s.normalize reply t) ∧
    (s.options.utf8 = false → s.subs.phrases = ∅ → ' ' ∉ t →
      s.normalize reply t = (Text.lower t).filter (·.isAlphanum)) := by
  refine ⟨fun h => ?_, fun hu => ?_, fun hu hsubs hspace => ?_⟩
  · refine normalize_marked hp (fun _ => rfl) fun gap hne hgap => ?_
    rw [keeps_space, List.any_eq_true]
    obtain ⟨c, hc⟩ := List.exists_mem_of_ne_nil gap hne
    refine ⟨c, hc, ?_⟩
    rw [keeps_of_isBlank (hgap c hc).2, Bool.or_eq_true, beq_iff_eq]
    exact h.imp_right fun hspaces => hspaces c (hgap c hc).1 (hgap c hc).2
  · refine normalize_marked hp (fun gap => by split <;> rfl) fun gap _ hgap => ?_
    have hkept : gap.any (s.keeps reply) = true ↔ ' ' ∈ gap := by
      rw [List.any_eq_true]
      constructor
      · rintro ⟨c, hc, hkeep⟩
        rw [keeps_of_isBlank (hgap c hc).2, hu, Bool.false_or, beq_iff_eq] at hkeep
        exact hkeep ▸ hc
      · exact fun hmem => ⟨' ', hmem, keeps_space⟩
    rw [Bool.eq_iff_iff, hkept]
    split
    · rename_i hmem
      exact iff_of_true hmem keeps_space
    · rename_i hmem
      refine iff_of_false hmem ?_
      rw [keeps_of_isBlank rfl, hu]
      decide
  · have hlower : ' ' ∉ Text.lower t :=
      fun hmem => hspace ((Text.mem_lower_iff (mem_caseless_of_isBlank rfl)).1 hmem)
    have hkeeps : (Text.lower t).filter (s.keeps reply) =
        (Text.lower t).filter (·.isAlphanum) := by
      refine List.filter_congr fun c hc => ?_
      have hne : c ≠ ' ' := fun h => hlower (h ▸ hc)
      simp [keeps, hu, hne]
    rw [normalize_eq hp, Substitution.apply_empty hsubs, hkeeps]
    exact Text.squeeze_of_unbroken fun c hc => Text.isBlank_of_isAlphanum (List.mem_filter.1 hc).2

/-- Blanks of several kinds around and between words. -/
def severalLines : Text := "One\u3000 two,\r\n\tHELLO there\n\n".toList

theorem normalize_respace_severalLines :
    (new { utf8 := true }).normalize true severalLines =
        (new { utf8 := true }).normalize true "One two, HELLO there ".toList ∧
      (new {}).normalize false severalLines =
        (new {}).normalize false "One two,\nHELLO there\n".toList := by
  have hspace : severalLines.respace (fun _ => ' ') = "One two, HELLO there ".toList := by decide
  have hbreak : severalLines.respace (fun gap => if ' ' ∈ gap then ' ' else '\n') =
      "One two,\nHELLO there\n".toList := by decide
  constructor
  · rw [← hspace, (normalize_respace (punctuation_new rfl) true severalLines).1 (.inl rfl)]
  · rw [← hbreak, (normalize_respace (punctuation_new rfl) false severalLines).2.1 rfl]

/-- Two words on two lines, and with a space in the place of the line break. -/
theorem normalize_line_break :
    Text.respace (fun _ => ' ') "hello\nworld".toList = "hello world".toList ∧
    (new {}).normalize false "hello\nworld".toList = "helloworld".toList ∧
    (new {}).normalize false "hello world".toList = "hello world".toList := by
  decide +kernel

end Script

end Repartee

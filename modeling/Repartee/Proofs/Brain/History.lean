import Repartee.Proofs.Brain.Privacy
import Repartee.Proofs.Session.Remembers

/-!
# The history of a user

* `Brain.replyAll`: a run of replies.
* `Brain.reply_remembers`: a reply to a user puts one entry in front of the history, a reply to
  somebody else none.
* **`Brain.advances_history`**: after a run of replies the history is that of the run, in front of
  the earlier one.
-/

namespace Repartee

/-! ## Rings -/

namespace History

variable {h : History} {n : Nat}

/-- A list cut to the length of a history has the same entries up to this length. -/
theorem nth_append_take (xs ys : List String) (hn : n ≤ historyLength) :
    nth (xs ++ ys.take historyLength) n = nth (xs ++ ys) n := by
  cases n with
  | zero => rfl
  | succ n =>
    rw [nth, nth, List.getElem?_append, List.getElem?_append, List.getElem?_take]
    split
    · rfl
    · rw [if_pos (by omega)]

/-- Exchanges recorded one after another. -/
def pushAll (h : History) (exchanges : List (String × String)) : History :=
  exchanges.foldl (fun h e => h.push e.1 e.2) h

/-- The latest entries are those recorded, the last one first, and then the earlier ones. -/
theorem nth_pushAll (hn : n ≤ historyLength) : ∀ (es : List (String × String)) (h : History),
    (h.pushAll es).nthInput n = nth ((es.map (·.1)).reverse ++ h.input) n ∧
      (h.pushAll es).nthReply n = nth ((es.map (·.2)).reverse ++ h.reply) n
  | [], _ => ⟨rfl, rfl⟩
  | e :: es, h => by
    obtain ⟨hinput, hreply⟩ := nth_pushAll hn es (h.push e.1 e.2)
    rw [pushAll, List.foldl_cons]
    rw [pushAll] at hinput hreply
    rw [hinput, hreply, push, nth_append_take _ _ hn, nth_append_take _ _ hn, List.map_cons,
      List.map_cons, List.reverse_cons, List.reverse_cons, List.append_assoc, List.append_assoc]
    exact ⟨rfl, rfl⟩

/-- Recording exchanges keeps the length of full lists. -/
theorem length_pushAll : ∀ (es : List (String × String)) (h : History),
    (h.input.length = historyLength → (h.pushAll es).input.length = historyLength) ∧
      (h.reply.length = historyLength → (h.pushAll es).reply.length = historyLength)
  | [], _ => ⟨id, id⟩
  | e :: es, h => by
    obtain ⟨hinput, hreply⟩ := length_pushAll es (h.push e.1 e.2)
    constructor
    · intro hl
      exact hinput (by simp [push, hl])
    · intro hl
      exact hreply (by simp [push, hl])

end History

/-! ## Turns -/

/-- The elementary computations of an answer to anybody leave the history of a user alone. -/
theorem Elementary.remembers {s : Script} {user : String} (hs : s.Spares user) (h : History)
    (order : TrialOrder) (a : Speaker) :
    Elementary (fun t₁ t₂ => t₁ = t₂ ∧ t₁.sessions.Remembers user h) s order a where
  data? := Talk.respects_iff_keeps.2 fun _ ht => ht
  setVar _ _ := Talk.respects_iff_keeps.2 fun _ ht => ht.set _ rfl
  roll _ := Talk.respects_iff_keeps.2 fun _ ht => ht
  bot _ := Talk.respects_iff_keeps.2 fun _ ht => ht
  env _ := Talk.respects_iff_keeps.2 fun _ ht => ht
  run name args := by
    unfold Call.run
    split
    · exact .pure _
    · split
      · exact .pure _
      · rename_i handler hh
        refine Talk.respects_iff_keeps.2 fun t ht => ?_
        exact Desk.remembers_afterCall (hs _ handler hh ⟨a.user, name, args, a.scope⟩ t.toDesk) ht
  search _ _ _ _ _ := Talk.respects_iff_keeps.2 fun _ ht => ht
  keepStars _ _ _ := Talk.respects_iff_keeps.2 fun _ ht => ht

/-- A message to a bot. -/
structure Ask where
  user : String
  message : String
  scope : Option Scope := none

namespace Brain

/-! ## Replies -/

variable {b : Brain} {order : TrialOrder} {user : String} {h : History}

/-- Concluding a turn records the exchange in the history of the user who was answered. -/
theorem remembers_set_exchange {t : Turn} (ht : t.sessions.Remembers user h)
    (asker message text : String) :
    (t.sessions.set asker (exchange t (t.sessions.data? asker) message text)).Remembers user
        (if asker = user then h.push message text else h) ∧
      ((t.sessions.set asker (exchange t (t.sessions.data? asker) message text)).data?
        asker).isSome := by
  obtain ⟨users, frozen, hu⟩ := ht.keeps
  have hhistory := ht.history
  rw [hu] at ht hhistory ⊢
  constructor
  · by_cases hasker : asker = user
    · subst hasker
      refine ⟨⟨_, _, rfl⟩, ?_⟩
      rw [if_pos rfl, SessionStore.set, SessionStore.data?, Table.find?_insert, if_pos rfl,
        ← hhistory]
      rfl
    · rw [if_neg hasker]
      exact ht.insert fun h => absurd h hasker
  · rw [SessionStore.set, SessionStore.data?, Table.find?_insert, if_pos rfl]
    rfl

/-- A reply to a user puts one entry in front of the history, a reply to somebody else none. -/
theorem reply_remembers (hs : b.script.Spares user) (ho : b.script.order = some order)
    (hb : b.sessions.Remembers user h) (asker message : String) (scope : Option Scope) :
    ∃ r b', b.reply asker message scope = (.ok r, b') ∧ b'.script = b.script ∧
      r.message = String.ofList (b.script.normalize false message.toList) ∧
      b'.sessions.Remembers user (if asker = user then h.push r.message r.text else h) ∧
      (b'.sessions.data? asker).isSome := by
  have hanswer := (Elementary.remembers hs h order ⟨asker, scope⟩).answer
    (b.script.normalize false message.toList) (b.turn asker) (b.turn asker) ⟨rfl, hb.meet asker⟩
  obtain ⟨-, -, hafter⟩ := hanswer
  simp only [reply, ho]
  generalize (answer b.script order ⟨asker, scope⟩ (b.script.normalize false message.toList)).run
    (b.turn asker) = run at hafter ⊢
  obtain ⟨text, t⟩ := run
  obtain ⟨hremembers, hknown⟩ := remembers_set_exchange hafter asker
    (String.ofList (b.script.normalize false message.toList)) (String.ofList text)
  exact ⟨_, _, rfl, rfl, rfl, hremembers, hknown⟩

/-! ## Runs -/

/-- Answer messages one after another. -/
def replyAll (b : Brain) : List Ask → Except ReplyError (List Reply) × Brain
  | [] => (.ok [], b)
  | q :: qs =>
    match b.reply q.user q.message q.scope with
    | (.error e, b) => (.error e, b)
    | (.ok r, b) =>
      let (rs, b) := replyAll b qs
      (rs.map (r :: ·), b)

/-- The exchanges of a user in a run, in order. -/
def exchanges (s : Script) (user : String) (qs : List Ask) (rs : List Reply) :
    List (String × String) :=
  ((qs.zip rs).filter fun p => p.1.user = user).map fun p =>
    (String.ofList (s.normalize false p.1.message.toList), p.2.text)

/-- A run of replies records the exchanges of a user one after another. -/
theorem replyAll_remembers : ∀ (qs : List Ask) {b : Brain} {h : History}, b.script.Spares user →
    b.script.order = some order → b.sessions.Remembers user h →
      ∃ rs b', b.replyAll qs = (.ok rs, b') ∧ rs.length = qs.length ∧
        b'.sessions.Remembers user (h.pushAll (exchanges b.script user qs rs))
  | [], b, _, _, _, hb => ⟨[], b, rfl, rfl, hb⟩
  | q :: qs, b, h, hs, ho, hb => by
    obtain ⟨r, b', hr, hscript, hmessage, hb', -⟩ :=
      reply_remembers hs ho hb q.user q.message q.scope
    rw [← hscript] at hs ho
    obtain ⟨rs, b'', hrs, hlength, hb''⟩ := replyAll_remembers qs hs ho hb'
    refine ⟨r :: rs, b'', ?_, by rw [List.length_cons, hlength, List.length_cons], ?_⟩
    · rw [replyAll, hr]
      dsimp only
      rw [hrs]
      rfl
    · rw [hscript] at hb''
      rw [exchanges, List.zip_cons_cons]
      by_cases hq : q.user = user
      · rw [if_pos hq, hmessage] at hb''
        rw [List.filter_cons_of_pos (by simpa using hq), List.map_cons, History.pushAll,
          List.foldl_cons]
        exact hb''
      · rw [if_neg hq] at hb''
        rw [List.filter_cons_of_neg (by simpa using hq)]
        exact hb''

/-- Replies advance the history of a user, which was `h`, once per message. -/
structure AdvancesHistory (b : Brain) (user : String) (h : History) : Prop where
  /-- A reply puts its exchange in front, cuts both lists, and changes nothing else. -/
  once : ∀ message scope, ∃ r b', b.reply user message scope = (.ok r, b') ∧
    r.message = String.ofList (b.script.normalize false message.toList) ∧
    (b'.sessions.data? user).map (·.history) = some
      { input := (r.message :: h.input).take 10, reply := (r.text :: h.reply).take 10 }
  /-- After a run of replies to anybody the latest entries are those of the user's messages in the
  run, the last one first, and then the earlier ones; full lists stay full. -/
  run : ∀ qs : List Ask, ∃ rs b' h', b.replyAll qs = (.ok rs, b') ∧ rs.length = qs.length ∧
    ((b'.sessions.data? user).getD {}).history = h' ∧
    (∀ n, 1 ≤ n → n ≤ 10 →
      h'.nthInput n =
        History.nth (((exchanges b.script user qs rs).map (·.1)).reverse ++ h.input) n ∧
      h'.nthReply n =
        History.nth (((exchanges b.script user qs rs).map (·.2)).reverse ++ h.reply) n) ∧
    (h.input.length = 10 → h'.input.length = 10) ∧ (h.reply.length = 10 → h'.reply.length = 10)

/-- **Replies advance the history of a user once per message.** -/
theorem advances_history {users frozen : Table UserData} (hs : b.script.Spares user)
    (ho : b.script.order = some order) (hb : b.sessions = .memory users frozen) :
    b.AdvancesHistory user ((users.find? user).getD {}).history := by
  have hremembers : b.sessions.Remembers user ((users.find? user).getD {}).history := by
    refine ⟨⟨users, frozen, hb⟩, ?_⟩
    rw [hb]
    rfl
  constructor
  · intro message scope
    obtain ⟨r, b', hr, -, hmessage, hb', hknown⟩ :=
      reply_remembers hs ho hremembers user message scope
    refine ⟨r, b', hr, hmessage, ?_⟩
    obtain ⟨data, hdata⟩ := Option.isSome_iff_exists.1 hknown
    have hhistory := hb'.history
    rw [hdata, if_pos rfl] at hhistory
    rw [hdata, Option.map_some]
    exact congrArg some hhistory
  · intro qs
    obtain ⟨rs, b', hrs, hlength, hb'⟩ := replyAll_remembers qs hs ho hremembers
    obtain ⟨hinput, hreply⟩ := History.length_pushAll (exchanges b.script user qs rs)
      ((users.find? user).getD {}).history
    exact ⟨rs, b', _, hrs, hlength, hb'.history, fun n _ hn => History.nth_pushAll hn _ _, hinput,
      hreply⟩

/-- A bot whose macro keeps variables advances the default history of a new user. -/
theorem keeper_advances_history :
    keeper.script.Spares "ann" ∧ (∃ order, keeper.script.order = some order) ∧
      keeper.sessions = .memory ∅ ∅ ∧ keeper.AdvancesHistory "ann" {} := by
  obtain ⟨order, ho⟩ : ∃ order, keeper.script.order = some order := ⟨_, rfl⟩
  exact ⟨keeper_confined.spares "ann", ⟨order, ho⟩, rfl,
    advances_history (keeper_confined.spares "ann") ho rfl⟩

end Brain

end Repartee

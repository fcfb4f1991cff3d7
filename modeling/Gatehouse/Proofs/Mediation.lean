import Gatehouse.Proofs.Running

/-! Complete mediation: nobody gets anywhere past the gate. The paths in the history are those of
    the entries in the journal, and every entry comes right after the verdict by which the gate let
    the visitor in to just that route, with everything found out that the policy of the route asks
    for. This holds of every entry at all times, whatever the replies are and in whatever order they
    come: there is only one deed that enters a route. -/

namespace Gatehouse

/-! ### Entries in the journal -/

/-- What an event enters, if it enters a route: the path, and the token that was stored then. -/
def Event.entry? : Event → Option (String × Option Json)
  | entered path token => some (path, token)
  | _ => none

theorem Event.entry?_of_isNote {e : Event} (h : e.isNote) : e.entry? = none := by
  cases e <;> simp_all [isNote, entry?]

namespace Journal

/-- The paths of the entries, the earliest first. -/
def entries (j : Journal) : List String := j.reverse.filterMap fun e => e.entry?.map (·.1)

/-- Each entry is as `P` says of its path, of the token that was stored then and of the journal
    before it. -/
def EachEntry (P : String → Option Json → Journal → Prop) (j : Journal) : Prop :=
  ∀ later path token earlier, j = later ++ .entered path token :: earlier → P path token earlier

variable {P : String → Option Json → Journal → Prop}

/-- Entries are looked at one by one, each with the journal before it. -/
theorem eachEntry_cons (e : Event) (j : Journal) :
    EachEntry P (e :: j) ↔
      (∀ path token, e = .entered path token → P path token j) ∧ EachEntry P j := by
  constructor
  · intro h
    refine ⟨?_, fun later path token earlier hj => h (e :: later) path token earlier (by simp [hj])⟩
    rintro path token rfl
    exact h [] path token j rfl
  · rintro ⟨hhead, htail⟩ later path token earlier hj
    cases later with
    | nil =>
      obtain ⟨rfl, rfl⟩ : e = .entered path token ∧ j = earlier := by simpa using hj
      exact hhead path token rfl
    | cons e' later =>
      obtain ⟨-, hj⟩ : e = e' ∧ j = later ++ .entered path token :: earlier := by simpa using hj
      exact htail later path token earlier hj

/-- Events that enter nothing put nothing between an entry and what comes before it. -/
theorem eachEntry_append {es : List Event} (hes : ∀ e ∈ es, e.entry? = none) (j : Journal) :
    EachEntry P (es ++ j) ↔ EachEntry P j := by
  induction es with
  | nil => rfl
  | cons e es ih =>
    obtain ⟨he, hes⟩ := List.forall_mem_cons.1 hes
    rw [List.cons_append, eachEntry_cons, ih hes]
    refine and_iff_right fun path token h => ?_
    rw [h] at he
    cases he

theorem entries_append {es : List Event} (hes : ∀ e ∈ es, e.entry? = none) (j : Journal) :
    entries (es ++ j) = entries j := by
  have hnone : es.reverse.filterMap (fun e => e.entry?.map (·.1)) = [] := by
    rw [List.filterMap_eq_nil_iff]
    intro e he
    simp [hes e (List.mem_reverse.1 he)]
  simp [entries, hnone]

theorem entries_entered (path : String) (token : Option Json) (j : Journal) :
    entries (.entered path token :: j) = entries j ++ [path] := by
  simp [entries, Event.entry?]

end Journal

/-! ### What deeds enter -/

/-- Nothing was entered on the way from one state to another. -/
def Quiet (s t : State) : Prop :=
  t.navigation.history = s.navigation.history ∧
    ∃ es, (∀ e ∈ es, e.entry? = none) ∧ t.journal = es ++ s.journal

theorem Noted.quiet {s t : State} (h : Noted s t) : Quiet s t := by
  obtain ⟨es, hes, rfl⟩ := h
  exact ⟨rfl, es, fun e he => Event.entry?_of_isNote (hes e he), rfl⟩

/-- The work of an operation that does no more than that leaves nothing but notes behind, apart from
    the store and the session. -/
theorem Operation.after_work {setup : Setup} {op : Operation} {work : Work Unit}
    (h : op.work? setup = some work) (s : State) :
    ∃ store session, Noted (s.holding store session) (s.after work) := by
  cases op with
  | beginSession token => cases h; exact ⟨_, _, s.after_signIn _ token⟩
  | endSession => cases h; exact ⟨_, _, s.after_signOut⟩
  | setUser data =>
    obtain ⟨user, -, rfl⟩ := Option.map_eq_some_iff.1 h
    exact ⟨_, _, s.after_setUser user⟩
  | clearUser => cases h; exact ⟨_, _, .refl _⟩
  | setToken token => cases h; exact ⟨_, _, s.after_access (·.setToken _ s.slot token)⟩
  | removeToken => cases h; exact ⟨_, _, s.after_access (·.removeToken s.slot)⟩
  | clearStore => cases h; exact ⟨_, _, s.after_access Store.clear⟩
  | _ => cases h

variable {setup : Setup} {X : Exchange State → Prop} {op : Operation} {turn : Turn State}
  {s t : State}

/-- There is only one deed that enters a route. -/
theorem Deed.quiet_or_entered (h : Deed setup X op turn s t) :
    Quiet s t ∨ ∃ v begun lookups done origin, Evaluation setup v begun lookups done ∧
      (∀ x ∈ lookups, X x) ∧ v.decision = .allow ∧ v.route ∈ setup.table.routes ∧
      v.route.redirect? = none ∧ s = (done.noting [.judged v]).settling origin ∧
      t = s.entering v.route := by
  cases h with
  | noted hn => exact .inl hn.quiet
  | @requested _ _ _ q hq => exact .inl ⟨rfl, [.requested q], by simp [Event.entry?], rfl⟩
  | @judged _ v => exact .inl ⟨rfl, [.judged v], by simp [Event.entry?], rfl⟩
  | departed path => exact .inl ⟨rfl, [.departed path], by simp [Event.entry?], rfl⟩
  | settled path => exact .inl ⟨rfl, [.settled path], by simp [Event.entry?], rfl⟩
  | entered origin hev hxs hallow hroute hredirect =>
    exact .inr ⟨_, _, _, _, origin, hev, hxs, hallow, hroute, hredirect, rfl, rfl⟩
  | expired => exact .inl (State.after_signOut _).quiet
  | left => exact .inl (State.after_signOut _).quiet
  | signedIn => exact .inl (State.after_signIn _ _ _).quiet
  | welcomed => exact .inl (State.after_setUser _ _).quiet
  | recognised => exact .inl (State.after_setUser _ _).quiet
  | worked hwork =>
    obtain ⟨store, session, hn⟩ := Operation.after_work hwork s
    exact .inl hn.quiet
  | connected connections => exact .inl ⟨rfl, [], by simp, rfl⟩

/-! ### What stands behind an entry -/

/-- An entry comes right after the verdict of an evaluation that let the visitor in to a declared
    route without a redirect of its own, and that route was entered. -/
def Behind (setup : Setup) (X : Exchange State → Prop) (path : String) (token : Option Json)
    (earlier : Journal) : Prop :=
  ∃ v begun lookups done origin, Evaluation setup v begun lookups done ∧ (∀ x ∈ lookups, X x) ∧
    v.decision = .allow ∧ v.route ∈ setup.table.routes ∧ v.route.redirect? = none ∧
    path = v.route.path ∧ token = done.stored ∧
    earlier = .settled origin :: .judged v :: done.journal

/-- What complete mediation asks for, of an entry and of the evaluation right before it: its route
    is declared and leads on to nowhere by itself, it let the visitor in to just that route, it made
    its lookups itself, and it found out all that the policy asks for. -/
structure Mediated (setup : Setup) (X : Exchange State → Prop) (path : String) (earlier : Journal)
    (v : Verdict) (begun : State) (lookups : List (Exchange State)) (done : State) : Prop where
  declared : v.route ∈ setup.table.routes
  noRedirect : v.route.redirect? = none
  reached : path = v.route.path
  allowed : v.decision = .allow
  evaluation : Evaluation setup v begun lookups done
  own : ∀ x ∈ lookups, X x
  last : ∃ origin, earlier = .settled origin :: .judged v :: done.journal
  read : v.token = begun.stored
  admissible : Admissible setup v lookups

/-- The history tells the entries in the journal, and all of them have a verdict behind them. The
    exchanges of the operation with number `i` are of kind `X i`. -/
def Recorded (setup : Setup) (X : Nat → Exchange State → Prop) (t : State) : Prop :=
  t.navigation.history = t.journal.entries ∧
    t.journal.EachEntry fun path token earlier => ∃ i, Behind setup (X i) path token earlier

theorem Quiet.recorded {Y : Nat → Exchange State → Prop} (h : Quiet s t)
    (hs : Recorded setup Y s) : Recorded setup Y t := by
  obtain ⟨hhistory, es, hes, hjournal⟩ := h
  obtain ⟨hsame, heach⟩ := hs
  refine ⟨?_, ?_⟩
  · rw [hhistory, hjournal, Journal.entries_append hes, hsame]
  · rw [hjournal, Journal.eachEntry_append hes]
    exact heach

/-- A deed that enters a route adds it to the history and to the journal at once. -/
theorem Deed.recorded {Y : Nat → Exchange State → Prop} {i : Nat} (h : Deed setup (Y i) op turn s t)
    (hs : Recorded setup Y s) : Recorded setup Y t := by
  rcases h.quiet_or_entered with
    hquiet | ⟨v, begun, lookups, done, origin, hev, hxs, hallow, hroute, hredirect, rfl, rfl⟩
  · exact hquiet.recorded hs
  · obtain ⟨hsame, heach⟩ := hs
    refine ⟨?_, ?_⟩
    · show _ ++ _ = _
      rw [State.entering, Journal.entries_entered, hsame]
    · refine (Journal.eachEntry_cons _ _).2 ⟨?_, heach⟩
      rintro path token heq
      cases heq
      exact ⟨i, v, begun, lookups, done, origin, hev, hxs, hallow, hroute, hredirect, rfl, rfl, rfl⟩

namespace Pool

theorem recorded_of_run (setup : Setup) (store : Store) (slot : String) (rows : List LogRow)
    (connections : Connections) (moves : List Move) :
    Recorded setup ((opened store slot rows connections).Exchanged setup moves)
      ((opened store slot rows connections).run setup moves).state := by
  refine invariant_of_deeds ?_ fun i op turn s t _ hs hdeed => hdeed.recorded hs
  refine (State.opening_noted store slot rows connections).quiet.recorded ⟨rfl, ?_⟩
  intro later path token earlier hj
  simp at hj

end Pool

end Gatehouse

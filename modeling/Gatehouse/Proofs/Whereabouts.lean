import Mathlib.Data.List.Chain
import Mathlib.Data.List.Nodup
import Gatehouse.Proofs.Running
import Gatehouse.Proofs.Steps

/-! Where the visitor is, and which walks are under way, at all times. However the turns of
    operations fall, the current route is the one that was entered last, and the history only grows.
    The pending paths are those of the walks that have begun and not yet settled, each of them once.
    So a walk that settles takes its own path away and nobody else's, although it goes by the path
    alone. -/

namespace Gatehouse

variable {setup : Setup} {table : Table} {mine mine' : List String} {s t : State} {i : Nat}

/-! ### The current route and the history -/

/-- The current route is the one that is declared under the last path of the history, and there is
    none before a route was entered. No route was entered where the visitor was already. -/
structure Navigation.Sound (table : Table) (n : Navigation) : Prop where
  nowhere : n.current = none ↔ n.history = []
  somewhere : ∀ path, n.history.getLast? = some path →
    ∃ route, n.current = some route ∧ table.get? path = some route
  onward : n.history.IsChain (· ≠ ·)

namespace Navigation

theorem sound_start (table : Table) : start.Sound table :=
  ⟨by simp [start], by simp [start], .nil⟩

/-- The last path of the history is that of the current route. -/
theorem Sound.currentPath {n : Navigation} (h : n.Sound table) :
    n.currentPath = n.history.getLast? := by
  cases hlast : n.history.getLast? with
  | none =>
    have hcurrent := h.nowhere.2 (List.getLast?_eq_none_iff.1 hlast)
    simp [Navigation.currentPath, hcurrent]
  | some path =>
    obtain ⟨route, hcurrent, hget⟩ := h.somewhere path hlast
    have hpath : route.path = path := by simpa using List.find?_some hget
    simp [Navigation.currentPath, hcurrent, hpath]

theorem Sound.entering (h : s.navigation.Sound table) {route : Route}
    (hnew : s.navigation.currentPath ≠ some route.path)
    (hget : table.get? route.path = some route) : (s.entering route).navigation.Sound table := by
  refine ⟨by simp [State.entering], fun path hpath => ?_, ?_⟩
  · obtain rfl : route.path = path := by simpa [State.entering] using hpath
    exact ⟨route, rfl, hget⟩
  · refine List.isChain_append.2 ⟨h.onward, .singleton _, fun last hlast path hpath => ?_⟩
    obtain rfl : route.path = path := by simpa using hpath
    rintro rfl
    exact hnew (h.currentPath.trans hlast)

end Navigation

namespace Steps

theorem sound (h : Steps table mine s mine' t) (hs : s.navigation.Sound table) :
    t.navigation.Sound table := by
  induction h with
  | here => exact hs
  | still _ hstill ih => exact hstill.navigation ▸ ih
  | depart _ _ ih => exact ⟨ih.nowhere, ih.somewhere, ih.onward⟩
  | settle _ ih => exact ⟨ih.nowhere, ih.somewhere, ih.onward⟩
  | enter _ hnew hget ih => exact ih.entering hnew hget

/-- The history only grows. -/
theorem history (h : Steps table mine s mine' t) :
    s.navigation.history <+: t.navigation.history := by
  induction h with
  | here => exact List.prefix_refl _
  | still _ hstill ih => exact hstill.navigation ▸ ih
  | depart _ _ ih => exact ih
  | settle _ ih => exact ih
  | enter _ _ _ ih => exact ih.trans (List.prefix_append ..)

end Steps

/-! ### Walks under way -/

/-- The walks under way after an event in a turn of the operation `i`. Each is listed with the
    number of the operation that has begun it and with the path from which it began. -/
def Event.pursue (i : Nat) (e : Event) (walks : List (Nat × String)) : List (Nat × String) :=
  match e with
  | .departed path => walks ++ [(i, path)]
  | .settled path => walks.erase (i, path)
  | _ => walks

/-- The walks of one operation, by their paths. -/
def ownWalks (i : Nat) (walks : List (Nat × String)) : List String :=
  (walks.filter (·.1 = i)).map Prod.snd

/-- The pending paths are those of the walks that are under way, each of them once. -/
structure Accounted (walks : List (Nat × String)) (n : Navigation) : Prop where
  paths : n.pending = walks.map Prod.snd
  nodup : n.pending.Nodup

theorem foldr_pursue_of_still {es : List Event} (h : ∀ e ∈ es, e.isStep = false)
    (walks : List (Nat × String)) : es.foldr (Event.pursue i) walks = walks := by
  induction es with
  | nil => rfl
  | cons e es ih =>
    obtain ⟨he, hes⟩ := List.forall_mem_cons.1 h
    rw [List.foldr_cons, ih hes]
    cases e <;> first | rfl | cases he

theorem mem_ownWalks {walks : List (Nat × String)} {path : String} :
    path ∈ ownWalks i walks ↔ (i, path) ∈ walks := by
  simp [ownWalks]

theorem ownWalks_filter (walks : List (Nat × String)) (path : String) :
    ownWalks i (walks.filter (·.2 ≠ path)) = (ownWalks i walks).filter (· ≠ path) := by
  rw [ownWalks, ownWalks, List.filter_comm, List.filter_map]
  rfl

namespace Accounted

variable {walks : List (Nat × String)} {n : Navigation} {path : String}

/-- A path belongs to one walk only. -/
theorem unique (h : Accounted walks n) {walk walk' : Nat × String} (hwalk : walk ∈ walks)
    (hwalk' : walk' ∈ walks) (hpath : walk.2 = walk'.2) : walk = walk' :=
  List.inj_on_of_nodup_map (h.paths ▸ h.nodup : (walks.map Prod.snd).Nodup) hwalk hwalk' hpath

theorem erase_eq_filter (h : Accounted walks n) (hmem : (i, path) ∈ walks) :
    walks.erase (i, path) = walks.filter (·.2 ≠ path) := by
  have hnodup : (walks.map Prod.snd).Nodup := h.paths ▸ h.nodup
  rw [(List.Nodup.of_map _ hnodup).erase_eq_filter]
  refine List.filter_congr fun walk hwalk => ?_
  rw [Bool.eq_iff_iff, bne_iff_ne, decide_eq_true_iff]
  exact not_congr ⟨fun heq => heq ▸ rfl, fun heq => h.unique hwalk hmem heq⟩

/-- A walk that begins where no other one did is pending from then on. -/
theorem departing (h : Accounted walks s.navigation) (hnew : path ∉ s.navigation.pending) :
    Accounted (walks ++ [(i, path)]) (s.departing path).navigation := by
  refine ⟨by simp [State.departing, h.paths], ?_⟩
  exact List.nodup_append.2 ⟨h.nodup, List.nodup_singleton _, by
    rintro a ha b hb rfl
    exact hnew (List.mem_singleton.1 hb ▸ ha)⟩

/-- A walk that settles is not pending any more. -/
theorem settling (h : Accounted walks s.navigation) (hmem : (i, path) ∈ walks) :
    Accounted (walks.erase (i, path)) (s.settling path).navigation := by
  refine ⟨?_, h.nodup.filter _⟩
  rw [h.erase_eq_filter hmem]
  show s.navigation.pending.filter (· ≠ path) = _
  rw [h.paths, List.filter_map]
  rfl

/-- It was one of the operation's own, and the walks of the others are as they were. -/
theorem ownWalks_erase (h : Accounted walks n) (hown : ownWalks i walks = mine ++ [path]) :
    ownWalks i (walks.erase (i, path)) = mine ∧
      ∀ j ≠ i, ownWalks j (walks.erase (i, path)) = ownWalks j walks := by
  have hmem : (i, path) ∈ walks := mem_ownWalks.1 (by simp [hown])
  have hnodup : (ownWalks i walks).Nodup :=
    (h.paths ▸ h.nodup : (walks.map Prod.snd).Nodup).sublist (List.filter_sublist.map _)
  rw [h.erase_eq_filter hmem]
  refine ⟨?_, fun j hj => ?_⟩
  · rw [hown] at hnodup
    have hnot : ∀ p ∈ mine, p ≠ path := fun p hp =>
      (List.nodup_append.1 hnodup).2.2 p hp path (List.mem_singleton_self path)
    rw [ownWalks_filter, hown, List.filter_append, List.filter_eq_self.2 (by simpa using hnot)]
    simp
  · rw [ownWalks_filter, List.filter_eq_self]
    intro p hp
    have hne : p ≠ path := by
      rintro rfl
      exact hj (congrArg Prod.fst (h.unique (mem_ownWalks.1 hp) hmem rfl))
    simpa using hne

end Accounted

/-- What the steps of an operation make of the walks under way. -/
theorem Steps.accounted {walks : List (Nat × String)} (h : Steps table mine s mine' t)
    (hs : Accounted walks s.navigation) (hown : ownWalks i walks = mine) :
    ∃ es, t.journal = es ++ s.journal ∧ Accounted (es.foldr (Event.pursue i) walks) t.navigation ∧
      ownWalks i (es.foldr (Event.pursue i) walks) = mine' ∧
      ∀ j ≠ i, ownWalks j (es.foldr (Event.pursue i) walks) = ownWalks j walks := by
  induction h with
  | here => exact ⟨[], rfl, hs, hown, fun _ _ => rfl⟩
  | still _ hstill ih =>
    obtain ⟨es, hes, hpending, hmine, hothers⟩ := ih
    obtain ⟨fs, hfs, hno⟩ := hstill.journal
    refine ⟨fs ++ es, by simp [hfs, hes], ?_⟩
    rw [List.foldr_append, foldr_pursue_of_still hno]
    exact ⟨hstill.navigation ▸ hpending, hmine, hothers⟩
  | @depart _ t path _ hnew ih =>
    obtain ⟨es, hes, hpending, hmine, hothers⟩ := ih
    refine ⟨.departed path :: es, by simp [State.departing, hes], hpending.departing hnew, ?_, ?_⟩
    · simp [Event.pursue, ownWalks, ← hmine]
    · intro j hj
      rw [← hothers j hj]
      simp [Event.pursue, ownWalks, hj.symm]
  | @settle _ t path _ ih =>
    obtain ⟨es, hes, hpending, hmine, hothers⟩ := ih
    have hmem := mem_ownWalks.1 (hmine ▸ List.mem_append_right _ (List.mem_singleton_self path))
    obtain ⟨hmine', hothers'⟩ := hpending.ownWalks_erase hmine
    exact ⟨.settled path :: es, by simp [State.settling, hes], hpending.settling hmem, hmine',
      fun j hj => (hothers' j hj).trans (hothers j hj)⟩
  | @enter _ t route _ _ _ ih =>
    obtain ⟨es, hes, hpending, hmine, hothers⟩ := ih
    exact ⟨.entered route.path t.stored :: es, by simp [State.entering, hes],
      ⟨hpending.paths, hpending.nodup⟩, hmine, hothers⟩

/-- An operation at this stage has some walks under way, and goes on from there step by step. -/
def Stage.Carries (table : Table) (mine : List String) : Stage → Prop
  | .over _ => mine = []
  | .waiting _ resume => ∀ r u, (resume r u).Paces table [] mine u

/-- At the end of a turn it is known which walks the operation has under way. -/
theorem Progress.Paces.split {progress : Progress State (Except Fault Value)}
    (h : progress.Paces table [] mine s) :
    ∃ mine', Steps table mine s mine' progress.state ∧
      (Pool.split progress).2.Carries table mine' := by
  cases h with
  | ended hsteps => exact ⟨[], hsteps, rfl⟩
  | waits hsteps hresume => exact ⟨_, hsteps, hresume⟩

namespace Pool

/-- The number of the operation whose turn a move is. -/
def turnOf (p : Pool) : Move → Nat
  | .start _ => p.stages.length
  | .reply i _ => i

/-- A move, told by what it does to the pool and to the walks under way: its events are those of the
    operation whose turn it is. -/
def watch (setup : Setup) (w : Pool × List (Nat × String)) (move : Move) :
    Pool × List (Nat × String) :=
  let p := w.1.step setup move
  let events := p.state.journal.take (p.state.journal.length - w.1.state.journal.length)
  (p, events.foldr (Event.pursue (w.1.turnOf move)) w.2)

/-- The walks that have begun in a course of events, and have not settled. -/
def underWay (setup : Setup) (p : Pool) (moves : List Move) : List (Nat × String) :=
  (moves.foldl (watch setup) (p, [])).2

theorem watch_fst (setup : Setup) (p : Pool) (walks : List (Nat × String)) (moves : List Move) :
    (moves.foldl (watch setup) (p, walks)).1 = p.run setup moves := by
  induction moves generalizing p walks with
  | nil => rfl
  | cons move moves ih => exact ih ..

theorem underWay_concat (setup : Setup) (p : Pool) (done : List Move) (move : Move) :
    (p.run setup (done ++ [move]), p.underWay setup (done ++ [move])) =
      watch setup (p.run setup done, p.underWay setup done) move := by
  rw [underWay, ← watch_fst setup p [] (done ++ [move]), List.foldl_concat]
  rw [← watch_fst setup p [] done]
  rfl

/-- The state is in order, and so are the walks under way: each belongs to an operation that
    waits. -/
structure Watched (table : Table) (p : Pool) (walks : List (Nat × String)) : Prop where
  sound : p.state.navigation.Sound table
  accounted : Accounted walks p.state.navigation
  unstarted : ∀ i, p.stages[i]? = none → ownWalks i walks = []
  carries : ∀ i (stage : Stage), p.stages[i]? = some stage → stage.Carries table (ownWalks i walks)

namespace Watched

variable {p : Pool} {walks : List (Nat × String)} {stages : List Stage} {stage : Stage}

/-- A turn of one operation leaves the walks of the others alone. -/
theorem turn (h : Watched table p walks) (hsteps : Steps table (ownWalks i walks) p.state mine t)
    (hstage : stages[i]? = some stage) (hcarries : stage.Carries table mine)
    (hothers : ∀ j ≠ i, stages[j]? = p.stages[j]?) :
    Watched table ⟨t, stages⟩ ((t.journal.take
      (t.journal.length - p.state.journal.length)).foldr (Event.pursue i) walks) := by
  obtain ⟨es, hes, hpending, hmine, hsame⟩ := hsteps.accounted h.accounted rfl
  have hnews : t.journal.take (t.journal.length - p.state.journal.length) = es := by simp [hes]
  rw [hnews]
  refine ⟨hsteps.sound h.sound, hpending, fun j hj => ?_, fun j stage' hj => ?_⟩
  · have hji : j ≠ i := by
      rintro rfl
      simp [hstage] at hj
    rw [hsame j hji]
    exact h.unstarted j (hothers j hji ▸ hj)
  · by_cases hji : j = i
    · subst hji
      obtain rfl := Option.some.inj (hstage.symm.trans hj)
      exact hmine ▸ hcarries
    · rw [hsame j hji]
      exact h.carries j stage' (hothers j hji ▸ hj)

/-- Every move keeps the state in order, and the history only grows. -/
theorem step (h : Watched setup.table p walks) (move : Move) :
    Watched setup.table (p.step setup move) (watch setup (p, walks) move).2 ∧
      p.state.navigation.history <+: (p.step setup move).state.navigation.history := by
  cases move with
  | start op =>
    have hidle := h.unstarted p.stages.length (List.getElem?_eq_none (Nat.le_refl _))
    obtain ⟨mine, hsteps, hcarries⟩ := ((op.run_paces setup).paces [] p.state).split
    rw [watch, Pool.step, start_eq]
    refine ⟨turn h (hidle ▸ hsteps) List.getElem?_concat_length hcarries fun j hj => ?_,
      hsteps.history⟩
    rcases Nat.lt_or_gt_of_ne hj with hlt | hgt
    · exact List.getElem?_append_left hlt
    · rw [List.getElem?_eq_none (Nat.le_of_lt hgt), List.getElem?_eq_none]
      simpa [turnOf] using Nat.succ_le_of_lt hgt
  | reply i r =>
    rw [watch, Pool.step]
    rcases reply_cases p i r with ⟨-, hsame⟩ | ⟨request, resume, hstage, -, hnext⟩
    · rw [hsame]
      refine ⟨by simpa using h, List.prefix_refl _⟩
    · obtain ⟨mine, hsteps, hcarries⟩ := (h.carries i _ hstage r p.state).split
      rw [hnext]
      have hi := (List.getElem?_eq_some_iff.1 hstage).1
      exact ⟨turn h hsteps (List.getElem?_set_self hi) hcarries
        fun j hj => List.getElem?_set_ne hj.symm, hsteps.history⟩

end Watched

/-- The state of a house is in order at all times. -/
theorem watched_of_run (hs : s.navigation = .start) (moves : List Move) :
    Watched setup.table ((fresh s).run setup moves) ((fresh s).underWay setup moves) := by
  induction moves using List.reverseRecOn with
  | nil =>
    refine ⟨hs ▸ Navigation.sound_start _, ⟨?_, ?_⟩, fun _ _ => rfl, by simp [run, fresh]⟩
    · simp [run, fresh, hs, underWay, Navigation.start]
    · simp [run, fresh, hs, Navigation.start]
  | append_singleton done move ih =>
    have hstep := (ih.step move).1
    rw [← underWay_concat, ← run_concat] at hstep
    exact hstep

/-- The history only grows. -/
theorem history_of_prefix (hs : s.navigation = .start) {done moves : List Move}
    (h : done <+: moves) : ((fresh s).run setup done).state.navigation.history <+:
      ((fresh s).run setup moves).state.navigation.history := by
  obtain ⟨rest, rfl⟩ := h
  induction rest using List.reverseRecOn with
  | nil => simp
  | append_singleton rest move ih =>
    rw [← List.append_assoc, run_concat]
    exact ih.trans ((watched_of_run hs _).step move).2

end Pool

/-! ### What a walk does itself -/

section

variable {X : Exchange State → Prop} {R : Turn State → State → Prop} {turn : Turn State}
  {ask : Call → Job Answer} {path : String}

/-- A rule about where the visitor is and was, and about nothing else. -/
def AboutPlace (R : Turn State → State → Prop) : Prop :=
  ∀ turn s t, t.navigation.current = s.navigation.current →
    t.navigation.history = s.navigation.history → R turn s → R turn t

/-- Work that walks nowhere keeps to such rules if its parts do. -/
theorem AboutPlace.modular (hR : AboutPlace R) : Modular fun _ work => work.Respects X R where
  pure _ _ _ h := .pure h trivial
  stop _ _ _ h := .stop h
  read _ _ _ h := .read h trivial
  bind hwork hnext turn s h := .bind (hwork turn s h) fun _ t a ht _ => hnext a _ t ht
  outcome hwork turn s h := .outcome (hwork turn s h) fun _ _ _ _ _ => trivial
  chore hchore turn s h := by
    have hsame := (hchore.still s).navigation
    exact ⟨hR turn s _ (congrArg _ hsame) (congrArg _ hsame) h, fun _ _ => trivial⟩
  connect _ turn s h := ⟨hR turn s _ rfl rfl h, fun _ _ => trivial⟩

namespace Walk

/-- How a walk to a path goes from the state `s`, whatever its calls do. Either it changes nothing
    at once, or it is pending from its start to its end, and is taken off then even if it fails. A
    walk that fails keeps to every rule about where the visitor is and was that its calls keep to:
    it has not moved anybody itself. -/
structure Proper (setup : Setup) (ask : Call → Job Answer) (path : String) (s : State) :
    Prop where
  unknown : ∀ f, setup.table.resolve path = .error f →
    go setup ask path s = .ended s (.error (.navigation f))
  ignored : ∀ route, setup.table.resolve path = .ok route → s.navigation.Ignores route →
    go setup ask path s = .ended (s.ignoring route) (.ok s.navigation.current)
  begun : ∀ route, setup.table.resolve path = .ok route → ¬s.navigation.Ignores route →
    go setup ask path s =
      (follow setup ask setup.settings.maxRedirects route (s.departing route.path)).andThen
        fun r u => match r with
          | .error f => .ended (u.settling route.path) (.error f)
          | .ok dest => .ended ((u.settling route.path).arriving dest) (.ok (some dest))
  failed : ∀ xs t f, (go setup ask path s).Course xs t (.error f) →
    (∃ g, setup.table.resolve path = .error g ∧ xs = [] ∧ t = s) ∨
      ∃ route u, setup.table.resolve path = .ok route ∧
        (follow setup ask setup.settings.maxRedirects route (s.departing route.path)).Course
          xs u (.error f) ∧
        t = u.settling route.path ∧ route.path ∉ t.navigation.pending
  unmoved : ∀ (X : Exchange State → Prop) (R : Turn State → State → Prop) turn, AboutPlace R →
    (∀ c, (ask c).Respects X R) → R turn s →
    (go setup ask path s).Goes X R turn fun xs t r => (∃ f, r = .error f) → R (turn.through xs) t

theorem failed_of_course {xs : List (Exchange State)} {f : Fault}
    (h : (go setup ask path s).Course xs t (.error f)) :
    (∃ g, setup.table.resolve path = .error g ∧ xs = [] ∧ t = s) ∨
      ∃ route u, setup.table.resolve path = .ok route ∧
        (follow setup ask setup.settings.maxRedirects route (s.departing route.path)).Course
          xs u (.error f) ∧
        t = u.settling route.path ∧ route.path ∉ t.navigation.pending := by
  cases hroute : setup.table.resolve path with
  | error g =>
    rw [go_unknown hroute] at h
    obtain ⟨rfl, rfl, -⟩ := Progress.course_ended_iff.1 h
    exact .inl ⟨g, rfl, rfl, rfl⟩
  | ok route =>
    by_cases hignored : s.navigation.Ignores route
    · rw [go_ignored hroute hignored] at h
      obtain ⟨-, -, hf⟩ := Progress.course_ended_iff.1 h
      cases hf
    · rw [go_begun hroute hignored, Progress.course_andThen_iff] at h
      obtain ⟨ys, zs, u, g | dest, rfl, hfollow, hend⟩ := h
      · obtain ⟨rfl, rfl, hf⟩ := Progress.course_ended_iff.1 hend
        cases hf
        exact .inr ⟨route, u, rfl, by simpa using hfollow, rfl, by simp [State.settling]⟩
      · obtain ⟨-, -, hf⟩ := Progress.course_ended_iff.1 hend
        cases hf

/-- Only entering a route moves the visitor, and a walk that fails enters none. -/
theorem go_unmoved (hR : AboutPlace R) (hask : ∀ c, (ask c).Respects X R) (hs : R turn s) :
    (go setup ask path s).Goes X R turn
      fun xs t r => (∃ f, r = .error f) → R (turn.through xs) t := by
  cases hroute : setup.table.resolve path with
  | error g =>
    rw [go_unknown hroute]
    exact fun _ => hs
  | ok route =>
    by_cases hignored : s.navigation.Ignores route
    · rw [go_ignored hroute hignored]
      exact fun _ => hR turn s _ rfl rfl hs
    · rw [go_begun hroute hignored]
      have hfollow : (follow setup ask setup.settings.maxRedirects route).Respects X R :=
        hR.modular.follow hask _ route
      have hdeparted : R turn (s.departing route.path) := hR turn s _ rfl rfl hs
      refine (hfollow turn _ hdeparted).andThen ?_
      rintro xs u (f | dest) ⟨hu, -⟩
      · exact fun _ => by simpa using hR _ u (u.settling route.path) rfl rfl hu
      · rintro ⟨f, hf⟩
        cases hf

theorem proper (setup : Setup) (ask : Call → Job Answer) (path : String) (s : State) :
    Proper setup ask path s where
  unknown _ := go_unknown
  ignored _ := go_ignored
  begun _ := go_begun
  failed _ _ _ := failed_of_course
  unmoved _ _ _ := go_unmoved

end Walk

end

/-! ### At all times -/

/-- Nobody has been anywhere where a house is opened. -/
theorem State.navigation_opening (store : Store) (slot : String) (rows : List LogRow)
    (connections : Connections) : (opening store slot rows connections).navigation = .start := by
  obtain ⟨es, -, hopening⟩ := opening_noted store slot rows connections
  rw [hopening]
  rfl

namespace Pool

/-- The navigation is in order at all times, whatever the routes are, whatever the gate decides and
    however walks fall between one another: where the visitor is follows from the history, which
    only grows, and the pending paths are those of the walks under way, each of an operation that
    waits. Every walk does its part in that. -/
theorem navigation_in_order (setup : Setup) (store : Store) (slot : String) (rows : List LogRow)
    (connections : Connections) (moves : List Move) :
    let house := opened store slot rows connections
    let p := house.run setup moves
    p.state.navigation.Sound setup.table ∧
      (∀ done, done <+: moves → (house.run setup done).state.navigation.history <+:
        p.state.navigation.history) ∧
      Accounted (house.underWay setup moves) p.state.navigation ∧
      (∀ walk ∈ house.underWay setup moves, (p.request? walk.1).isSome) ∧
      ∀ ask path s, Walk.Proper setup ask path s := by
  intro house p
  have hs := State.navigation_opening store slot rows connections
  have hwatched : Watched setup.table p (house.underWay setup moves) := watched_of_run hs moves
  refine ⟨hwatched.sound, fun done => history_of_prefix hs, hwatched.accounted, ?_,
    fun ask path s => Walk.proper setup ask path s⟩
  rintro ⟨i, path⟩ hwalk
  have hown : path ∈ ownWalks i (house.underWay setup moves) := mem_ownWalks.2 hwalk
  cases hstage : p.stages[i]? with
  | none => simp [hwatched.unstarted i hstage] at hown
  | some stage =>
    have hcarries := hwatched.carries i stage hstage
    rcases stage with result | ⟨request, resume⟩
    · simp [show ownWalks i _ = [] from hcarries] at hown
    · simp [request?, hstage]

/-- A walk that waits for the status of the security PIN is under way. -/
example : (openedWith "a").underWay .default [.start (.walk "/vault")] = [(0, "/vault")] := by
  decide +kernel

end Pool

end Gatehouse

import Gatehouse.Proofs.Mediation
import Gatehouse.Proofs.Sequence

/-! Operations that nobody disturbs. Where each operation is started when the one before is over,
    whatever waits is on its own: nothing happens between a request and its reply, so what single
    turns leave behind adds up over a whole operation. A walk without a rejection leaves the
    credential alone from its start to its end, and a walk with one leaves no session behind. -/

namespace Gatehouse

variable {setup : Setup} {X : Exchange State → Prop} {turn : Turn State} {s t u : State}
  {xs : List (Exchange State)} {route dest : Route} {path : String}

/-! ### Walks without a rejection -/

/-- An exchange of an operation on its own whose reply does not reject the credential. -/
structure Exchange.Accepted (x : Exchange State) : Prop where
  alone : x.Alone
  accepted : x.reply.isRejection = false

/-- One state comes after another one, with the same credential. -/
structure Since (s t : State) : Prop where
  journal : s.journal <:+ t.journal
  untouched : Untouched s t

namespace Since

theorem refl (s : State) : Since s s := ⟨List.suffix_refl _, .refl s⟩

theorem trans (h : Since s t) (h' : Since t u) : Since s u :=
  ⟨h.journal.trans h'.journal, h.untouched.trans h'.untouched⟩

theorem noting (s : State) (es : List Event) : Since s (s.noting es) :=
  ⟨List.suffix_append es _, ⟨rfl, rfl, rfl⟩⟩

theorem departing (s : State) (path : String) : Since s (s.departing path) :=
  ⟨List.suffix_cons .., ⟨rfl, rfl, rfl⟩⟩

theorem settling (s : State) (path : String) : Since s (s.settling path) :=
  ⟨List.suffix_cons .., ⟨rfl, rfl, rfl⟩⟩

theorem arriving (s : State) (route : Route) : Since s (s.arriving route) := by
  unfold State.arriving
  split
  · exact .refl s
  · exact Since.trans (t := s.entering route) ⟨List.suffix_cons .., ⟨rfl, rfl, rfl⟩⟩ (.noting _ _)

end Since

/-- Deeds only add to the journal. -/
theorem Deed.journal {op : Operation} (h : Deed setup X op turn s t) : s.journal <:+ t.journal := by
  rcases h.quiet_or_entered with ⟨-, es, -, hjournal⟩ | ⟨v, _, _, _, _, -, -, -, -, -, -, rfl⟩
  · exact ⟨es, hjournal.symm⟩
  · exact List.suffix_cons ..

/-- A walk touches the credential in one deed only, and only after a rejection. -/
theorem Deed.untouched_or_expired (h : Deed setup X (.walk path) turn s t) :
    Untouched s t ∨ ∃ x, turn = .after x ∧ x.reply.isRejection ∧ s = x.resumed ∧
      t = s.after Desk.signOut := by
  rcases h.untouched_or with
    huntouched | hexpired | ⟨hop, -⟩ | ⟨x, data, token, -, hgranted, -⟩ | ⟨_, -, hop⟩
  · exact .inl huntouched
  · exact .inr hexpired
  · cases hop
  · obtain ⟨username, password, hop, -⟩ := hgranted.signIn
    cases hop
  · cases hop

/-- Whether a turn begins with a reply that rejects the credential. -/
def Turn.IsRejected : Turn State → Prop
  | first _ => False
  | after x => x.reply.isRejection

/-- A turn that no rejection has begun leaves the credential alone. -/
def Forbears (turn : Turn State) (t : State) : Prop := ¬turn.IsRejected → Since turn.state t

theorem forbears_rule : Rule setup Exchange.Accepted (.walk path) Forbears where
  deed hR hdeed hturn := by
    refine (hR hturn).trans ⟨hdeed.journal, ?_⟩
    rcases hdeed.untouched_or_expired with huntouched | ⟨x, rfl, hrej, -⟩
    · exact huntouched
    · exact absurd hrej hturn
  resumed _ _ _ _ := .refl _
  expired hx hrej := by simp [hx.accepted] at hrej
  left _ _ hvisit := by cases hvisit.1

/-- What the turns of a walk leave behind adds up, as long as no reply rejects the credential. -/
theorem Progress.Keeps.since {α : Type} {p : Progress State α} {a : α}
    (h : p.Keeps Exchange.Accepted Forbears (.first s)) (hcourse : p.Course xs t a)
    (hxs : ∀ x ∈ xs, x.Accepted) : Since s t := by
  have hsum : ¬(Turn.first s).IsRejected → Since s t := by
    refine h.of_course (P := fun turn _ t => Forbears turn t) (fun _ _ hR => hR) ?_ hcourse hxs
    intro turn x xs t hx hR hrest hturn
    have hresumed : Since x.resumed t := hrest (by simp [Turn.IsRejected, hx.accepted])
    exact (hR hturn).trans (hx.alone.same ▸ hresumed)
  exact hsum id

/-- A look of a walk at a route leaves the credential alone if it is not rejected. -/
theorem Walk.onward_since {r : Except Fault (Option String)}
    (h : (onward setup setup.lookup route s).Course xs t r) (hxs : ∀ x ∈ xs, x.Accepted) :
    Since s t := by
  have hbegun : Forbears (.first s) s := fun _ => .refl s
  have rule : Rule setup Exchange.Accepted (.walk "") Forbears := forbears_rule
  have hlead : setup.toLogin.Respects Exchange.Accepted Forbears :=
    fun _ _ hR => Setup.toLogin_holds rule hR
  exact (onward_holds rule (.inl rfl) hlead hbegun).keeps.since h hxs

/-- So do all looks on the way to a route. -/
theorem Redirected.since {k : Nat} (h : Redirected setup route s xs dest u k)
    (hxs : ∀ x ∈ xs, x.Accepted) : Since s u := by
  induction h with
  | here => exact .refl _
  | on hlook _ _ ih =>
    obtain ⟨hlooked, hrest⟩ := List.forall_mem_append.1 hxs
    exact (Walk.onward_since hlook hlooked).trans (ih hrest)

theorem Setup.walk_since {r : Except Fault (Option Route)}
    (h : (setup.walk path s).Course xs t r) (hxs : ∀ x ∈ xs, x.Accepted) : Since s t := by
  have hbegun : Forbears (.first s) s := fun _ => .refl s
  have rule : Rule setup Exchange.Accepted (.walk path) Forbears := forbears_rule
  exact (walk_holds rule hbegun).keeps.since h hxs

/-! ### Walks with a rejection -/

/-- Nobody is signed in: a memory keeps no token, and the session is empty. -/
structure State.Closed (s : State) : Prop where
  memory : s.store.InMemory
  stored : s.stored = none
  session : s.session = ⟨none, none⟩

theorem State.closed_after_signOut (hs : s.store.InMemory) : (s.after Desk.signOut).Closed := by
  obtain ⟨hmemory, hstored, -⟩ := vacant_after_signOut hs
  exact ⟨hmemory, hstored, session_after_signOut (hs.removeToken s.slot)⟩

/-- Nobody becomes known to a session that nobody has begun. -/
theorem State.Closed.setUser (hs : s.Closed) (user : User) :
    (s.after (Desk.setUser user)).Closed := by
  have huntouched := s.untouched_after_setUser user
  refine ⟨huntouched.store ▸ hs.memory, huntouched.stored.trans hs.stored, ?_⟩
  obtain ⟨es, -, hafter⟩ := s.after_setUser user
  rw [hafter]
  simp [recognising, hs.session, Session.isAuthenticated]

/-- A walk opens no session. -/
theorem Deed.closed (h : Deed setup X (.walk path) turn s t) (hs : s.Closed) : t.Closed := by
  cases h with
  | noted hn =>
    obtain ⟨es, -, rfl⟩ := hn
    exact ⟨hs.memory, hs.stored, hs.session⟩
  | requested => exact ⟨hs.memory, hs.stored, hs.session⟩
  | judged => exact ⟨hs.memory, hs.stored, hs.session⟩
  | departed => exact ⟨hs.memory, hs.stored, hs.session⟩
  | settled => exact ⟨hs.memory, hs.stored, hs.session⟩
  | entered => exact ⟨hs.memory, hs.stored, hs.session⟩
  | expired => exact State.closed_after_signOut hs.memory
  | left hop => cases hop
  | signedIn _ hgranted =>
    obtain ⟨username, password, hop, -⟩ := hgranted.signIn
    cases hop
  | welcomed _ hgranted =>
    obtain ⟨username, password, hop, -⟩ := hgranted.signIn
    cases hop
  | recognised => exact hs.setUser _
  | worked hwork => cases hwork
  | connected _ hop => cases hop

/-- A turn that a rejection has begun, or that began with nobody signed in, leaves nobody signed in
    behind. -/
def Closes (turn : Turn State) (t : State) : Prop :=
  turn.IsRejected ∨ turn.state.Closed → t.Closed

theorem closes_rule : Rule setup Exchange.Alone (.walk path) Closes where
  deed hR hdeed hturn := hdeed.closed (hR hturn)
  resumed hx hrej _ hturn := by
    rcases hturn with hrej' | hclosed
    · exact absurd hrej' (by simp [Turn.IsRejected, hrej])
    · exact hclosed
  expired hx _ _ := State.closed_after_signOut hx.memory
  left _ _ hvisit := by cases hvisit.1

/-- A walk on its own that gets a rejection leaves nobody signed in, whatever comes after it. -/
theorem Setup.walk_closed {r : Except Fault (Option Route)} (h : (setup.walk path s).Course xs t r)
    (hxs : ∀ x ∈ xs, x.Alone) (hrej : ∃ x ∈ xs, x.reply.isRejection) : t.Closed := by
  have hbegun : Closes (.first s) s := by
    rintro (hrej | hclosed)
    · cases hrej
    · exact hclosed
  have rule : Rule setup Exchange.Alone (.walk path) Closes := closes_rule
  have hkeeps : (setup.walk path s).Keeps Exchange.Alone Closes (.first s) :=
    (walk_holds rule hbegun).keeps
  refine hkeeps.of_course (P := fun turn xs t => (turn.IsRejected ∨ turn.state.Closed) ∨
    (∃ x ∈ xs, x.reply.isRejection) → t.Closed) ?_ ?_ h hxs (.inr hrej)
  · rintro turn t hR (hturn | ⟨x, hx, -⟩)
    · exact hR hturn
    · cases hx
  · rintro turn x xs t hx hR hrest (hturn | ⟨y, hy, hrej⟩)
    · have hclosed : x.resumed.Closed := hx.same ▸ hR hturn
      exact hrest (.inl (.inr hclosed))
    · rcases List.mem_cons.1 hy with rfl | hy
      · exact hrest (.inl (.inl hrej))
      · exact hrest (.inr ⟨y, hy, hrej⟩)

/-! ### Operations that come one after another -/

namespace Pool

variable {moves : List Move}

/-- Where operations come one after another, one of them waits at the most. -/
theorem Sequential.unique (hseq : Sequential setup (fresh s) moves) {done : List Move}
    (hdone : done <+: moves) {i j : Nat} (hi : ((fresh s).run setup done).request? i ≠ none)
    (hj : ((fresh s).run setup done).request? j ≠ none) : i = j := by
  -- The induction goes from the last move back to the first.
  induction done using List.reverseRecOn generalizing i j with
  | nil => exact absurd (by simp [run, fresh, request?]) hi
  | append_singleton done move ih =>
    have hprefix := (List.prefix_append done [move]).trans hdone
    rw [run_concat] at hi hj
    cases move with
    | start op =>
      -- Nobody has waited before, so it is the operation that has just been started.
      have hstarted : ∀ k, (((fresh s).run setup done).start setup op).request? k ≠ none →
          k = ((fresh s).run setup done).stages.length := by
        intro k hk
        obtain ⟨request, hrequest⟩ := Option.ne_none_iff_exists'.1 hk
        unfold request? at hrequest
        split at hrequest
        · rename_i request' resume hstage
          rcases getElem?_start hstage with hold | ⟨hlength, -⟩
          · have hidle := hseq done op hdone k
            simp [request?, hold] at hidle
          · exact hlength.symm
        · cases hrequest
      rw [hstarted i hi, hstarted j hj]
    | reply k r =>
      rcases reply_cases ((fresh s).run setup done) k r with
        ⟨-, hsame⟩ | ⟨request, resume, hstage, hwaits, hnext⟩
      · rw [step, hsame] at hi hj
        exact ih hprefix hi hj
      · -- The others wait if they have waited before, so it is the operation whose reply it is.
        have hreplied : ∀ l, (((fresh s).run setup done).reply k r).request? l ≠ none → l = k := by
          intro l hl
          by_contra hlk
          have hold : ((fresh s).run setup done).request? l ≠ none := by
            simpa [request?, hnext, List.getElem?_set_ne (Ne.symm hlk)] using hl
          exact hlk (ih hprefix hold (by simp [hwaits]))
        rw [hreplied i hi, hreplied j hj]

/-- Whether each operation is started when nobody waits any more, found out move by move. -/
def comesInOrder (setup : Setup) : Pool → List Move → Bool
  | _, [] => true
  | p, .start op :: moves => p.isIdle && comesInOrder setup (p.start setup op) moves
  | p, .reply i r :: moves => comesInOrder setup (p.reply i r) moves

theorem sequential_of_comesInOrder {p : Pool} (h : comesInOrder setup p moves) :
    Sequential setup p moves := by
  induction moves generalizing p with
  | nil =>
    intro done op hdone
    simp at hdone
  | cons move moves ih =>
    intro done op hdone i
    cases done with
    | nil =>
      obtain ⟨rfl, -⟩ := List.cons_prefix_cons.1 hdone
      exact request?_of_isIdle (Bool.and_eq_true_iff.1 h).1 i
    | cons first done =>
      obtain ⟨rfl, hrest⟩ := List.cons_prefix_cons.1 hdone
      cases first with
      | start op' => exact ih (Bool.and_eq_true_iff.1 h).2 done op hrest i
      | reply j r => exact ih h done op hrest i

/-- While an operation waits nothing happens. -/
theorem Sequential.still (hseq : Sequential setup (fresh s) moves) {before between : List Move}
    (hdone : before ++ between <+: moves) {i : Nat}
    (hi : ((fresh s).run setup before).request? i ≠ none) (hbetween : ∀ r, .reply i r ∉ between) :
    (fresh s).run setup (before ++ between) = (fresh s).run setup before := by
  induction between using List.reverseRecOn with
  | nil => rw [List.append_nil]
  | append_singleton between move ih =>
    rw [← List.append_assoc] at hdone ⊢
    have hprefix := (List.prefix_append (before ++ between) [move]).trans hdone
    have hsame := ih hprefix fun r hr => hbetween r (List.mem_append_left _ hr)
    rw [run_concat, hsame]
    cases move with
    | start op => exact absurd (hsame ▸ hseq (before ++ between) op hdone i) hi
    | reply j r =>
      rcases reply_cases ((fresh s).run setup before) j r with ⟨-, hquiet⟩ | ⟨_, _, -, hwaits, -⟩
      · exact hquiet
      · have hij : i = j := hseq.unique hprefix (hsame ▸ hi) (by simp [hsame, hwaits])
        exact absurd (List.mem_append_right _ (List.mem_singleton_self _)) (hij ▸ hbetween r)

/-- So every exchange is one of an operation on its own. -/
theorem Sequential.alone (hseq : Sequential setup (fresh s) moves) (hs : s.store.InMemory) {i : Nat}
    {x : Exchange State} (hx : (fresh s).Exchanged setup moves i x) : x.Alone := by
  obtain ⟨_, rest, rfl, ⟨before, move, between, rfl, -, hbetween, hasked, hq⟩, hresumed⟩ := hx
  have hdone : (before ++ [move]) ++ between <+:
      before ++ move :: between ++ .reply i x.reply :: rest := by
    simp
  have hstill := hseq.still hdone (i := i) (by simp [hq]) hbetween
  rw [List.append_assoc] at hstill
  have hsame : x.resumed = x.asked := by
    rw [← hasked, ← hstill, ← hresumed]
    rfl
  exact ⟨hsame, hresumed ▸ inMemory_of_run hs _⟩

/-- The move with which an operation comes to its end leads to the end of a way on which nobody
    disturbed it, from a state in which nobody waited. -/
theorem Sequential.course_of_finish {done : List Move} {move : Move} {i : Nat} {op : Operation}
    {r : Except Fault Value} (hseq : Sequential setup (fresh s) (done ++ [move]))
    (hs : s.store.InMemory) (hop : (Move.operations (done ++ [move]))[i]? = some op)
    (hbefore : ((fresh s).run setup done).result? i = none)
    (hr : ((fresh s).run setup (done ++ [move])).result? i = some r) :
    ∃ before xs, before ++ [.start op] <+: done ++ [move] ∧
      (∀ j, ((fresh s).run setup before).request? j = none) ∧
      (op.run setup ((fresh s).run setup before).state).Course xs
        ((fresh s).run setup (done ++ [move])).state r ∧
      (∀ x ∈ xs, (fresh s).Exchanged setup (done ++ [move]) i x) ∧ ∀ x ∈ xs, x.Alone := by
  obtain ⟨before, xs, hprefix, hcourse, hxs⟩ := Pool.course_of_finish hop hbefore hr
  exact ⟨before, xs, hprefix, hseq before op hprefix, hcourse, hxs,
    fun x hx => hseq.alone hs (hxs x hx)⟩

end Pool

end Gatehouse

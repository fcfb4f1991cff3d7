import Gatehouse.Proofs.Running

/-! Who closes which connection. The client may be handed a connection at the beginning; all others
    it makes itself, one at a time. Opening, closing and what others do to the held connection are
    the only moves that touch connections: so it is enough to see that none of these three loses
    sight of a connection that the client has made, or takes one that was handed over for its
    own. -/

namespace Gatehouse

/-! ### Connections on their own -/

namespace Connections

/-- The connections at the beginning: there is none, or one was handed over. It may have been closed
    before. -/
def given : Option Bool → Connections
  | .none => none
  | some closed => ⟨[closed], some 0, false⟩

/-- The connections that the client closes are those that it made, the first `lent` having been
    handed over; and those that it made and that are not closed it has at hand. -/
structure Kept (lent : ℕ) (c : Connections) : Prop where
  count : lent ≤ c.closed.length
  owns : ∀ i, c.held = some i → (c.owns ↔ lent ≤ i)
  held : ∀ i, lent ≤ i → c.isClosed i = false → c.held = some i

variable {c : Connections} {lent i : ℕ}

theorem isOpen_iff : c.isOpen ↔ ∃ i, c.held = some i ∧ c.isClosed i = false := by
  simp [isOpen, Option.any_eq_true]

theorem opened_of_isOpen (h : c.isOpen) : c.opened = c := if_pos h

theorem opened_of_not_isOpen (h : ¬c.isOpen) :
    c.opened = ⟨c.closed ++ [false], some c.closed.length, true⟩ := if_neg h

theorem isOpen_opened (c : Connections) : c.opened.isOpen := by
  by_cases h : c.isOpen
  · rwa [opened_of_isOpen h]
  · rw [opened_of_not_isOpen h, isOpen_iff]
    exact ⟨_, rfl, by simp [isClosed]⟩

/-- Making a connection closes none and opens none that was closed before. -/
theorem isClosed_opened_of_lt (h : i < c.closed.length) : c.opened.isClosed i = c.isClosed i := by
  by_cases hopen : c.isOpen
  · rw [opened_of_isOpen hopen]
  · rw [opened_of_not_isOpen hopen, isClosed, isClosed, List.getElem?_append_left h]

theorem isClosed_of_length_le (h : c.closed.length ≤ i) : c.isClosed i := by
  simp [isClosed, List.getElem?_eq_none h]

theorem isClosed_cut (c : Connections) (i : ℕ) :
    c.cut.isClosed i ↔ c.isClosed i ∨ c.held = some i := by
  cases hheld : c.held with
  | none => simp [cut, hheld]
  | some j =>
    rw [cut, hheld]
    simp only [isClosed, List.getElem?_set, Option.some.injEq]
    by_cases hij : j = i
    · subst hij
      by_cases hlt : j < c.closed.length <;> simp [hlt]
    · simp [hij]

theorem isClosed_released (c : Connections) (i : ℕ) :
    c.released.isClosed i ↔ c.isClosed i ∨ c.owns ∧ c.held = some i := by
  cases howns : c.owns with
  | true => simpa [released, howns, isClosed] using isClosed_cut c i
  | false => simp [released, howns, isClosed]

theorem held_cut (c : Connections) : c.cut.held = c.held := by
  unfold cut
  split <;> rfl

theorem owns_cut (c : Connections) : c.cut.owns = c.owns := by
  unfold cut
  split <;> rfl

theorem length_cut (c : Connections) : c.cut.closed.length = c.closed.length := by
  unfold cut
  split <;> simp

theorem length_released (c : Connections) : c.released.closed.length = c.closed.length := by
  unfold released
  split
  · exact c.length_cut
  · rfl

theorem held_released (c : Connections) : c.released.held = .none := by
  simp [released]

namespace Kept

theorem given (handed : Option Bool) : Kept handed.toList.length (given handed) := by
  cases handed with
  | none => exact ⟨Nat.le_refl _, fun i h => (by cases h), fun i _ h => by cases h⟩
  | some closed =>
    refine ⟨Nat.le_refl _, ?_, fun i hi h => ?_⟩
    · rintro i ⟨⟩
      simp [Connections.given]
    · have hclosed : (Connections.given (some closed)).isClosed i := isClosed_of_length_le hi
      simp [hclosed] at h

theorem opened (h : c.Kept lent) : c.opened.Kept lent := by
  by_cases hopen : c.isOpen
  · rwa [opened_of_isOpen hopen]
  have hshut : ∀ i, lent ≤ i → i < c.closed.length → c.isClosed i := by
    intro i hi _
    by_contra hi'
    exact hopen (isOpen_iff.2 ⟨i, h.held i hi (by simpa using hi'), by simpa using hi'⟩)
  rw [opened_of_not_isOpen hopen]
  refine ⟨by simpa using Nat.le_succ_of_le h.count, ?_, fun i hi hi' => ?_⟩
  · rintro i ⟨⟩
    simpa using h.count
  · rcases Nat.lt_trichotomy i c.closed.length with hlt | rfl | hgt
    · have hsame := isClosed_opened_of_lt hlt
      rw [opened_of_not_isOpen hopen, hi', hshut i hi hlt] at hsame
      cases hsame
    · rfl
    · have hnone := isClosed_of_length_le (c := ⟨c.closed ++ [false], some c.closed.length, true⟩)
        (i := i) (by simpa [Nat.succ_le_iff] using hgt)
      simp [hnone] at hi'

theorem cut (h : c.Kept lent) : c.cut.Kept lent := by
  refine ⟨c.length_cut ▸ h.count, fun i hheld => ?_, fun i hi hi' => ?_⟩
  · rw [owns_cut]
    exact h.owns i (c.held_cut ▸ hheld)
  rw [held_cut]
  refine h.held i hi ?_
  by_contra hclosed
  simp [(isClosed_cut c i).2 (.inl (by simpa using hclosed))] at hi'

/-- When the held connection is let go of, none is left that the client has made and not closed. -/
theorem isClosed_released (h : c.Kept lent) (hi : lent ≤ i) : c.released.isClosed i := by
  rw [Connections.isClosed_released]
  by_cases hclosed : c.isClosed i
  · exact .inl hclosed
  · have hheld := h.held i hi (by simpa using hclosed)
    exact .inr ⟨(h.owns i hheld).2 hi, hheld⟩

theorem released (h : c.Kept lent) : c.released.Kept lent := by
  refine ⟨c.length_released ▸ h.count, fun i hheld => ?_, fun i hi hi' => ?_⟩
  · rw [held_released] at hheld
    cases hheld
  · simp [h.isClosed_released hi] at hi'

end Kept

end Connections

/-! ### What operations make of them -/

namespace Operation

/-- What an operation makes of the connections, if it is about them. -/
def handling? : Operation → Option (Connections → Connections)
  | start | connect => some Connections.opened
  | close | disconnect => some Connections.released
  | cut => some Connections.cut
  | _ => none

/-- What an operation makes of the connections. -/
def handling (op : Operation) : Connections → Connections := op.handling?.getD id

/-- Whether an operation is a call that can be made: the arguments of an endpoint have to fit. -/
def makesCall : Operation → Bool
  | call .. => true
  | send _ => true
  | endpoint e args => (e.call? args).isSome
  | _ => false

end Operation

variable {setup : Setup} {X : Exchange State → Prop} {op : Operation} {turn : Turn State}
  {s t : State}

/-- A turn leaves the connections as they were when it began. -/
def Unconnected (turn : Turn State) (t : State) : Prop :=
  t.connections = turn.state.connections

/-- No deed of a visit touches the connections. -/
theorem Deed.connections (h : Deed setup X op turn s t) (hop : op.isVisit) :
    t.connections = s.connections := by
  cases h with
  | noted hn =>
    obtain ⟨es, -, rfl⟩ := hn
    rfl
  | connected connections hother => simp [hop] at hother
  | _ => rfl

theorem unconnected_rule (hop : op.isVisit) : Rule setup X op Unconnected where
  deed hR h := (h.connections hop).trans hR
  resumed _ _ _ := rfl
  expired _ _ := rfl
  left _ _ _ hn := by
    obtain ⟨es, -, rfl⟩ := hn
    rfl

namespace Operation

/-- A turn of an operation makes of the connections what the operation does with them if it is the
    first, and leaves them alone if it is another. -/
def Connects (op : Operation) : Turn State → State → Prop
  | .first s, t => t.connections = op.handling s.connections
  | .after x, t => t.connections = x.resumed.connections

/-- An operation that is none of those that are about connections leaves them alone. -/
theorem run_unconnected (setup : Setup) (X : Exchange State → Prop) (s : State)
    (hop : op.handling? = none) :
    (op.run setup).Holds X Unconnected (.first s) s fun _ _ _ => True := by
  have hdesk : ∀ {α : Type} (work : Work α) (next : α → Job Value),
      (∀ a t, Unconnected (.first s) t →
        (next a).Holds X Unconnected (.first s) t fun _ _ _ => True) →
      (Job.desk work >>= next).Holds X Unconnected (.first s) s fun _ _ _ => True :=
    fun work next hnext => .bind_atOnce (Job.desk_holds rfl) fun t a hR _ => hnext a t hR
  have rule : Rule setup X .signOut Unconnected := unconnected_rule rfl
  have hjudge : ∀ route, (setup.judge route).Holds X Unconnected (.first s) s fun _ _ _ => True :=
    fun route => Setup.judge_holds rule rfl
  cases op with
  | call | send | endpoint | walk | signIn | signOut => exact run_holds (unconnected_rule rfl) rfl
  | judgePath path =>
    exact .bind_ofExcept rfl fun route _ => .bind (hjudge route) fun _ _ _ hR _ => .pure hR trivial
  | judgeRoute data =>
    exact .bind_ofExcept rfl fun route _ => .bind (hjudge route) fun _ _ _ hR _ => .pure hR trivial
  | setUser data =>
    exact .bind_ofExcept rfl fun user _ => hdesk _ _ fun _ _ hR => .pure hR trivial
  | beginSession | endSession | clearUser | setToken | getToken | hasToken | removeToken
  | clearStore => exact hdesk _ _ fun _ _ hR => .pure hR trivial
  | current | settings | describe => exact .pure rfl trivial
  | start | close | connect | disconnect | cut => cases hop

/-- The operations that are about connections end at once. -/
theorem run_connects (setup : Setup) (X : Exchange State → Prop) (op : Operation) (s : State) :
    (op.run setup s).Keeps X op.Connects (.first s) := by
  cases hop : op.handling? with
  | none =>
    have hsame : op.Connects = Unconnected := by
      funext turn t
      cases turn <;> simp [Connects, Unconnected, handling, hop, Turn.state]
    rw [hsame]
    exact (run_unconnected setup X s hop).keeps
  | some f =>
    cases op with
    | start | close | connect | disconnect => exact (rfl : _ = _)
    | cut =>
      rw [run, Flow.bind_of_ok (t := s) (a := s.connections.held) rfl]
      cases hheld : s.connections.held with
      | none =>
        show s.connections = s.connections.cut
        simp [Connections.cut, hheld]
      | some i => exact (rfl : _ = _)
    | _ => cases hop

end Operation

/-- A call on no connection stops at once and leaves everything as it was. -/
theorem Service.call_notOpen (setup : Setup) (h : s.connections.held = none) (toLogin : Job Unit)
    (c : Call) (notify : Bool) :
    Service.call setup toLogin c notify s = .ended s (.error .notOpen) := by
  have hrequest : ∀ c, Service.requestOf setup c s = .ended s (.error .notOpen) := by
    intro c
    rw [Service.requestOf, Flow.bind_of_ok (t := s) (a := s.connections.held) rfl, h]
    rfl
  exact Flow.bind_of_error (hrequest _) _

/-- So does an operation that makes it. -/
theorem Operation.run_notOpen (setup : Setup) (h : s.connections.held = none)
    (hop : op.makesCall) : op.run setup s = .ended s (.error .notOpen) := by
  have hcall : ∀ c notify, setup.call c notify s = .ended s (.error .notOpen) :=
    fun c notify => Service.call_notOpen setup h _ c notify
  have hsend : ∀ c, setup.send c s = .ended s (.error .notOpen) :=
    fun c => Flow.bind_of_error (hcall c true) _
  cases op with
  | call c notify => exact Flow.bind_of_error (hcall c notify) _
  | send c => exact Flow.bind_of_error (hsend c) _
  | endpoint e args =>
    obtain ⟨c, hc⟩ := Option.isSome_iff_exists.1 hop
    refine Flow.bind_of_error ?_ _
    rw [Endpoint.send, hc]
    exact hsend c
  | _ => cases hop

/-! ### Courses of events -/

/-- What a move makes of the connections. -/
def Move.handling : Move → Connections → Connections
  | .start op => op.handling
  | .reply .. => id

/-- A connection that was handed over is closed in one move only, by others. -/
theorem Connections.Kept.closedBy {c : Connections} {lent i : ℕ} {move : Move} (h : c.Kept lent)
    (hi : i < lent) (hclosed : (move.handling c).isClosed i) :
    c.isClosed i ∨ move = .start .cut ∧ c.held = some i := by
  cases move with
  | reply j r => exact .inl hclosed
  | start op =>
    cases op with
    | start | connect =>
      have hlt := Nat.lt_of_lt_of_le hi h.count
      exact .inl ((isClosed_opened_of_lt hlt).symm.trans hclosed)
    | close | disconnect =>
      rcases (c.isClosed_released i).1 hclosed with hbefore | ⟨howns, hheld⟩
      · exact .inl hbefore
      · exact absurd ((h.owns i hheld).1 howns) (Nat.not_le_of_lt hi)
    | cut => exact ((c.isClosed_cut i).1 hclosed).imp_right fun hheld => ⟨rfl, hheld⟩
    | _ => exact .inl hclosed

namespace Pool

/-- Every move makes of the connections what its operation does with them. -/
theorem connections_of_move (setup : Setup) (s : State) (done : List Move) (move : Move) :
    ((fresh s).run setup (done ++ [move])).state.connections =
      move.handling ((fresh s).run setup done).state.connections := by
  have hrun : ∀ i op t, (Move.operations (done ++ [move]))[i]? = some op →
      (Operation.run setup op t).Keeps ((fresh s).Exchanged setup (done ++ [move]) i) op.Connects
        (.first t) := fun i op t _ => op.run_connects setup _ t
  rcases turn_of_move (R := fun _ op => op.Connects) hrun (List.prefix_refl _) with
    ⟨i, r, rfl, -, hsame⟩ | ⟨i, op, turn, htakes, hconnects⟩
  · rw [hsame]
    rfl
  · cases htakes with
    | start op => exact hconnects
    | reply _ _ _ hs => exact hconnects.trans (congrArg State.connections hs.symm)

/-- No move loses sight of a connection. -/
theorem kept_of_run {s : State} {lent : ℕ} (hs : s.connections.Kept lent) (moves : List Move) :
    ((fresh s).run setup moves).state.connections.Kept lent := by
  -- A course grows at its end, so the induction goes from the last move back to the first.
  induction moves using List.reverseRecOn with
  | nil => exact hs
  | append_singleton moves move ih =>
    rw [connections_of_move]
    cases move with
    | reply i r => exact ih
    | start op =>
      cases op with
      | start | connect => exact ih.opened
      | close | disconnect => exact ih.released
      | cut => exact ih.cut
      | _ => exact ih

/-- The client looks after its connections, in every course of events over a house to which a
    connection was handed over or not. The one that was handed over is closed by others only. Of
    those that the client has made, all are closed but the one that it holds. It holds an open one
    when it was told to open, and none when it was told to close; then all that it has made are
    closed. As long as it holds none, all calls stop at once, and nothing has happened. -/
theorem connections_looked_after (setup : Setup) (store : Store) (slot : String)
    (rows : List LogRow) (handed : Option Bool) (moves : List Move) :
    let lent := handed.toList.length
    let p := (opened store slot rows (.given handed)).run setup moves
    let c := p.state.connections
    (∀ move i, i < lent → (p.step setup move).state.connections.isClosed i →
      c.isClosed i ∨ move = .start .cut ∧ c.held = some i) ∧
    (∀ i, lent ≤ i → c.isClosed i = false → c.held = some i) ∧
    (∀ op ∈ [Operation.start, .connect], (p.step setup (.start op)).state.connections.isOpen ∧
      ∃ value, (p.step setup (.start op)).stages = p.stages ++ [.over (.ok value)]) ∧
    (∀ op ∈ [Operation.close, .disconnect],
      (p.step setup (.start op)).state.connections.held = none ∧
      (∀ i, lent ≤ i → (p.step setup (.start op)).state.connections.isClosed i) ∧
      ∃ value, (p.step setup (.start op)).stages = p.stages ++ [.over (.ok value)]) ∧
    (c.held = none →
      (∀ toLogin call notify, Service.call setup toLogin call notify p.state =
        .ended p.state (.error .notOpen)) ∧
      ∀ op, op.makesCall →
        p.step setup (.start op) = ⟨p.state, p.stages ++ [.over (.error .notOpen)]⟩) := by
  intro lent p c
  have hkept : c.Kept lent := kept_of_run (Connections.Kept.given handed) moves
  have hmove : ∀ move, (p.step setup move).state.connections = move.handling c := by
    intro move
    have hconcat := connections_of_move setup (State.opening store slot rows (.given handed)) moves
      move
    rwa [run_concat] at hconcat
  refine ⟨fun move i hi hclosed => ?_, hkept.held, ?_, ?_, fun hheld => ⟨?_, fun op hop => ?_⟩⟩
  · exact hkept.closedBy hi (hmove move ▸ hclosed)
  · intro op hop
    rw [hmove]
    simp only [List.mem_cons, List.not_mem_nil, or_false] at hop
    rcases hop with rfl | rfl
    · exact ⟨c.isOpen_opened, _, rfl⟩
    · exact ⟨c.isOpen_opened, _, rfl⟩
  · intro op hop
    rw [hmove]
    simp only [List.mem_cons, List.not_mem_nil, or_false] at hop
    rcases hop with rfl | rfl
    · exact ⟨c.held_released, fun i hi => hkept.isClosed_released hi, _, rfl⟩
    · exact ⟨c.held_released, fun i hi => hkept.isClosed_released hi, _, rfl⟩
  · exact Service.call_notOpen setup hheld
  · rw [step, start_eq, Operation.run_notOpen setup hheld hop]
    rfl

/-- A connection was handed over; someone else closes it, and the client makes one of its own and
    closes that in the end. -/
theorem connections_looked_after_handedOver :
    let house := opened (.memory []) Store.tokenSlot [] (.given (some false))
    let cut := house.run .default [.start .cut]
    let opened := house.run .default [.start .cut, .start .start]
    let closed := house.run .default [.start .cut, .start .start, .start .close]
    house.state.connections.held = some 0 ∧ cut.state.connections.isClosed 0 ∧
      opened.state.connections.isClosed 1 = false ∧ opened.state.connections.held = some 1 ∧
      closed.state.connections.isClosed 1 ∧
      ∀ c, closed.step .default (.start (.send c)) =
        ⟨closed.state, closed.stages ++ [.over (.error .notOpen)]⟩ := by
  intro house cut opened closed
  have hcut : cut.state.connections.isClosed 0 := by decide +kernel
  have hopened : opened.state.connections.isClosed 1 = false := by decide +kernel
  have hclosed : closed.state.connections.held = none := by decide +kernel
  obtain ⟨hothers, -⟩ :=
    connections_looked_after .default (.memory []) Store.tokenSlot [] (some false) []
  obtain ⟨-, hheld, -, hcloses, -⟩ := connections_looked_after .default (.memory [])
    Store.tokenSlot [] (some false) [.start .cut, .start .start]
  obtain ⟨-, -, -, -, hstops⟩ := connections_looked_after .default (.memory []) Store.tokenSlot []
    (some false) [.start .cut, .start .start, .start .close]
  refine ⟨?_, hcut, hopened, hheld 1 (by decide) hopened,
    (hcloses .close (by simp)).2.1 1 (by decide), fun c => (hstops hclosed).2 (.send c) rfl⟩
  rcases hothers (.start .cut) 0 (by decide) hcut with hbefore | ⟨-, hheld⟩
  · cases hbefore
  · exact hheld

end Pool

end Gatehouse

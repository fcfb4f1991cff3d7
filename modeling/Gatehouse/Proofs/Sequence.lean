import Gatehouse.Proofs.Alone
import Gatehouse.Proofs.Memory

/-! Operations of a visit that come one after another, each when the one before is over. Then every
    operation is on its own, and the house is settled whenever nobody waits: a visitor who sees a
    route that asks for a token has one. -/

namespace Gatehouse.Pool

/-- Each operation is started when nobody waits any more. -/
def Sequential (setup : Setup) (p : Pool) (moves : List Move) : Prop :=
  ∀ done op, done ++ [.start op] <+: moves → ∀ i, (p.run setup done).request? i = none

/-- Nobody waits and the house is settled, or one operation waits that began when it was settled and
    has been on its own since then. -/
inductive Orderly (setup : Setup) (p : Pool) : Prop
  | idle : (∀ i, p.request? i = none) → p.state.Settled setup → Orderly setup p
  | busy {i : Nat} {op : Operation} {begun : State} {xs : List (Exchange State)} {request : Request}
      {resume : Reply → State → Progress State (Except Fault Value)} :
      op.isVisit → begun.Settled setup →
      (op.run setup begun).Leads xs (.waits p.state request resume) → (∀ x ∈ xs, x.Alone) →
      p.stages[i]? = some (.waiting request resume) → (∀ j, j ≠ i → p.request? j = none) →
      Orderly setup p

variable {setup : Setup} {p : Pool} {i : Nat} {op : Operation}

theorem request?_of_over {result : Except Fault Value} (h : p.stages[i]? = some (.over result)) :
    p.request? i = none := by
  simp [request?, h]

/-- When nobody waits the house is settled. -/
theorem Orderly.settled (h : Orderly setup p) (hidle : ∀ i, p.request? i = none) :
    p.state.Settled setup := by
  cases h with
  | idle _ hs => exact hs
  | @busy i _ _ _ request _ _ _ _ _ hstage _ =>
    have hwaits : p.request? i = some request := by simp [request?, hstage]
    simp [hidle] at hwaits

section

variable (hw : setup.WellFormed) (hleads : setup.leadsToLogin)
  (hmax : 4 ≤ setup.settings.maxRedirects)

include hw hleads hmax

namespace Orderly

/-- The operation whose turn it was has come to its end or waits. -/
theorem of_led {begun : State} {xs : List (Exchange State)}
    {progress : Progress State (Except Fault Value)} (hop : op.isVisit)
    (hbegun : begun.Settled setup) (hled : (op.run setup begun).Leads xs progress)
    (hxs : ∀ x ∈ xs, x.Alone) (hstate : p.state = progress.state)
    (hstage : p.stages[i]? = some (split progress).2)
    (hothers : ∀ j, j ≠ i → p.request? j = none) : Orderly setup p := by
  cases progress with
  | ended t result =>
    refine .idle (fun j => ?_) ?_
    · by_cases hj : j = i
      · exact hj ▸ request?_of_over hstage
      · exact hothers j hj
    · have hcourse := hled.course (.ended t result)
      rw [hstate]
      exact (Operation.run_settles hw hleads hmax hop).settled hbegun hcourse (by simpa using hxs)
  | waits t request resume =>
    obtain rfl : p.state = t := hstate
    exact .busy hop hbegun hled hxs hstage hothers

/-- An operation starts when nobody waits. -/
theorem start (h : Orderly setup p) (hidle : ∀ i, p.request? i = none) (hop : op.isVisit) :
    Orderly setup (p.start setup op) := by
  rw [start_eq]
  refine of_led hw hleads hmax (i := p.stages.length) hop (h.settled hidle) .here (by simp) rfl
    List.getElem?_concat_length fun j hj => ?_
  have hsame := hidle j
  by_cases hlt : j < p.stages.length
  · simpa [request?, List.getElem?_append_left hlt] using hsame
  · have hnone : (p.stages ++ [(split (op.run setup p.state)).2])[j]? = none := by
      rw [List.getElem?_eq_none_iff, List.length_append, List.length_singleton]
      omega
    simp [request?, hnone]

/-- A reply comes in for the operation that waits, or nobody takes notice of it. -/
theorem reply (h : Orderly setup p) (hmemory : p.state.store.InMemory) (i : Nat) (r : Reply) :
    Orderly setup (p.reply i r) := by
  rcases reply_cases p i r with ⟨-, hsame⟩ | ⟨request, resume, hstage, hwaits, hnext⟩
  · rwa [hsame]
  cases h with
  | idle hidle _ => simp [hidle] at hwaits
  | @busy j op begun xs request' resume' hop hbegun hled hxs hstage' hothers =>
    -- Nobody else waits, so the reply is for the operation that does.
    obtain rfl : i = j := by
      by_contra hij
      simp [hothers i hij] at hwaits
    obtain ⟨rfl, rfl⟩ : request = request' ∧ resume = resume' := by simpa [hstage] using hstage'
    have hlt := (List.getElem?_eq_some_iff.1 hstage).1
    rw [hnext]
    refine of_led hw hleads hmax (i := i) hop hbegun (.on r p.state hled) ?_ rfl
      (List.getElem?_set_self hlt) fun k hk => ?_
    · exact List.forall_mem_append.2 ⟨hxs, by simpa using ⟨rfl, hmemory⟩⟩
    · have hsame := hothers k hk
      simpa [request?, List.getElem?_set_ne (Ne.symm hk)] using hsame

end Orderly

/-- Operations that come one after another keep the house in order at all times. -/
theorem orderly_of_sequential {s : State} {moves : List Move} (hs : s.Settled setup)
    (hops : ∀ op ∈ Move.operations moves, op.isVisit) (hseq : Sequential setup (fresh s) moves)
    {done : List Move} (hdone : done <+: moves) : Orderly setup ((fresh s).run setup done) := by
  -- A move is one step of the pool, so the induction goes from the last move back to the first.
  induction done using List.reverseRecOn with
  | nil => exact .idle (fun i => by simp [run, fresh, request?]) hs
  | append_singleton done move ih =>
    have h := ih ((List.prefix_append done [move]).trans hdone)
    rw [run_concat]
    cases move with
    | start op =>
      refine h.start hw hleads hmax (hseq done op hdone) (hops op ?_)
      obtain ⟨rest, rfl⟩ := hdone
      simp [Move.operations]
    | reply i r => exact h.reply hw hleads hmax (inMemory_of_run hs.tidy.memory done) i r

end

/-- Nobody has been anywhere in a house that has just been opened. -/
theorem settled_opening (setup : Setup) (slots : Record Json) (slot : String) (rows : List LogRow)
    (connections : Connections) :
    (State.opening (.memory slots) slot rows connections).Settled setup := by
  obtain ⟨es, -, hopening⟩ := State.opening_noted (.memory slots) slot rows connections
  have hstart : (State.opening (.memory slots) slot rows connections).navigation = .start := by
    rw [hopening]
    rfl
  refine ⟨⟨State.inMemory_opening .., by rw [hstart]; rfl, ?_⟩, ?_⟩
  · intro route hroute
    rw [hstart] at hroute
    cases hroute
  · intro route hroute
    rw [hstart] at hroute
    cases hroute

/-- Where the operations of a visit come one after another, and rejections lead on to the login
    route, a visitor who is at a route that asks for a token when nobody waits has one, whatever the
    service has replied. -/
theorem sequential_view_has_token (setup : Setup) (hw : setup.WellFormed)
    (hleads : setup.leadsToLogin) (hmax : 4 ≤ setup.settings.maxRedirects) (slots : Record Json)
    (slot : String) (rows : List LogRow) (connections : Connections) (moves : List Move)
    (hops : ∀ op ∈ Move.operations moves, op.isVisit)
    (hseq : Sequential setup (opened (.memory slots) slot rows connections) moves)
    (hidle : ∀ i,
      ((opened (.memory slots) slot rows connections).run setup moves).request? i = none) :
    let s := ((opened (.memory slots) slot rows connections).run setup moves).state
    ∀ route, s.navigation.current = some route → route.policy.requiresAuth → s.stored.isSome := by
  have horderly := orderly_of_sequential hw hleads hmax
    (settled_opening setup slots slot rows connections) hops hseq (List.prefix_refl moves)
  exact (horderly.settled hidle).guarded

/-! ### A visit to look at -/

/-- Whether nobody waits. -/
def isIdle (p : Pool) : Bool :=
  p.stages.all fun
    | .over _ => true
    | .waiting .. => false

theorem request?_of_isIdle (h : p.isIdle) (i : Nat) : p.request? i = none := by
  rcases hstage : p.stages[i]? with _ | ⟨result⟩ | ⟨request, resume⟩
  · simp [request?, hstage]
  · exact request?_of_over hstage
  · cases List.all_eq_true.1 h _ (List.mem_of_getElem? hstage)

/-- A visitor with a token walks to the vault and looks at the secrets. -/
def visitToVault : List Move :=
  [.start (.walk "/vault"), .reply 0 (.success "\x7b\"has_security_pin\":true\x7d"),
    .start (.call ⟨"GET", "/v1/secrets", .null, .null⟩ false), .reply 1 (.success "null")]

theorem sequential_view_has_token_vault :
    let s := ((openedWith "a").run .default visitToVault).state
    s.navigation.current = some (Table.closedRoute "/vault" "Vault") ∧ s.stored.isSome := by
  have hcurrent : ((openedWith "a").run .default visitToVault).state.navigation.current =
      some (Table.closedRoute "/vault" "Vault") := by decide +kernel
  have hend : ((openedWith "a").run .default visitToVault).isIdle := by decide +kernel
  have hmiddle : ((openedWith "a").run .default (visitToVault.take 2)).isIdle := by decide +kernel
  have hops : ∀ op ∈ Move.operations visitToVault, op.isVisit := by
    simp [Move.operations, visitToVault, Operation.isVisit]
  have hseq : Sequential .default (openedWith "a") visitToVault := by
    intro done op hdone
    have hstart : visitToVault[done.length]? = some (.start op) := by
      obtain ⟨rest, hrest⟩ := hdone
      simp [← hrest]
    have htake := List.prefix_iff_eq_take.1 ((List.prefix_append done _).trans hdone)
    have hlength : done.length < 4 := (List.getElem?_eq_some_iff.1 hstart).1
    rcases h : done.length with _ | _ | _ | _ | n
    · obtain rfl := List.length_eq_zero_iff.1 h
      exact fun i => by simp [run, openedWith, opened, fresh, request?]
    · simp [h, visitToVault] at hstart
    · rw [h] at htake
      exact htake ▸ request?_of_isIdle hmiddle
    · simp [h, visitToVault] at hstart
    · omega
  unfold openedWith at hcurrent hend hseq ⊢
  exact ⟨hcurrent, sequential_view_has_token .default .default rfl (by decide) _ _ _ _ visitToVault
    hops hseq (request?_of_isIdle hend) _ hcurrent rfl⟩

end Gatehouse.Pool

import Gatehouse.Proofs.Mediation

/-! The credential at an entry. The gate reads the token once, at the start of an evaluation, and
    looks nothing up about it any more while it waits; so a protected route can be entered when the
    token has been removed in the meantime. That is the only way: an evaluation itself leaves the
    stored token alone, from its start to the entry. -/

namespace Gatehouse

theorem Journal.EachEntry.of_mem {P : String → Option Json → Journal → Prop} {j : Journal}
    (h : j.EachEntry P) {path : String} {token : Option Json} (hmem : .entered path token ∈ j) :
    ∃ earlier, P path token earlier := by
  obtain ⟨later, earlier, hj⟩ := List.append_of_mem hmem
  exact ⟨earlier, h later path token earlier hj⟩

/-- A token that work left alone and that is gone in the end was removed while the work waited. -/
theorem Kept.exists_removed {s t : State} {xs : List (Exchange State)} (h : Kept s xs t)
    (hs : s.stored.isSome) (ht : t.stored = none) :
    ∃ x ∈ xs, x.asked.stored.isSome ∧ x.resumed.stored = none := by
  induction xs generalizing s with
  | nil =>
    have hts : t.stored = s.stored := h
    rw [← hts, ht] at hs
    cases hs
  | cons x xs ih =>
    obtain ⟨hasked, hrest⟩ := h
    -- Either the token went during this exchange, or it was still there when the work went on.
    cases hx : x.resumed.stored with
    | none => exact ⟨x, by simp, by rwa [hasked], hx⟩
    | some token =>
      obtain ⟨y, hy, hremoved⟩ := ih hrest (by simp [hx])
      exact ⟨y, List.mem_cons_of_mem x hy, hremoved⟩

/-- An entry, the evaluation right before it, and the token that was stored when the route was
    entered: the evaluation left the token alone that it found, and found one if the route asks for
    it; so if none was stored in the end, it was removed during a lookup. -/
structure Credited (setup : Setup) (X : Exchange State → Prop) (path : String) (token : Option Json)
    (earlier : Journal) (v : Verdict) (begun : State) (lookups : List (Exchange State))
    (done : State) : Prop extends Mediated setup X path earlier v begun lookups done where
  stored : token = done.stored
  kept : Kept begun lookups done
  found : v.route.policy.requiresAuth → begun.stored.isSome
  removed : v.route.policy.requiresAuth → token = none →
    ∃ x ∈ lookups, x.asked.stored.isSome ∧ x.resumed.stored = none

namespace Pool

/-- A protected route is entered with a token, unless it was removed during a lookup. -/
theorem entries_credited (setup : Setup) (store : Store) (slot : String) (rows : List LogRow)
    (connections : Connections) (moves : List Move) :
    let house := opened store slot rows connections
    (house.run setup moves).state.journal.EachEntry fun path token earlier =>
      ∃ i v begun lookups done, Credited setup (house.Exchanged setup moves i) path token earlier v
        begun lookups done := by
  obtain ⟨-, heach⟩ := recorded_of_run setup store slot rows connections moves
  intro house later path token earlier hj
  obtain ⟨i, v, begun, lookups, done, origin, hev, hxs, hallow, hroute, hredirect, hpath, hstored,
    hearlier⟩ := heach later path token earlier hj
  obtain ⟨htoken, hkept, hadmits⟩ := hev.admits hallow
  have hfound : v.route.policy.requiresAuth → begun.stored.isSome :=
    fun h => htoken ▸ hadmits.authenticated h
  have hmediated : Mediated setup _ path earlier v begun lookups done :=
    ⟨hroute, hredirect, hpath, hallow, hev, hxs, ⟨origin, hearlier⟩, htoken, hadmits⟩
  refine ⟨i, v, begun, lookups, done, hmediated, hstored, hkept, hfound, fun hauth hnone => ?_⟩
  exact hkept.exists_removed (hfound hauth) (hstored.symm.trans hnone)

/-- While a walk waits for the status of the security PIN, the visitor signs out; then the status
    does not come, which keeps nobody out. -/
def signedOutMeanwhile : List Move :=
  [.start (.walk "/vault"), .start .signOut, .reply 1 (.success "null"), .reply 0 .timedOut]

/-- Whether an event enters a path while no token is stored. -/
def entersBare (path : String) : Event → Bool
  | .entered there none => there = path
  | _ => false

theorem eq_of_entersBare {path : String} {e : Event} (h : entersBare path e = true) :
    e = .entered path none := by
  unfold entersBare at h
  split at h
  · rw [of_decide_eq_true h]
  · cases h

theorem entered_signedOut :
    .entered "/vault" none ∈ ((openedWith "t").run .default signedOutMeanwhile).state.journal := by
  have h : (((openedWith "t").run .default signedOutMeanwhile).state.journal.any
      (entersBare "/vault")) = true := by decide +kernel
  obtain ⟨e, he, hentry⟩ := List.any_eq_true.1 h
  rwa [eq_of_entersBare hentry] at he

/-- A protected route can be entered while no token is stored. -/
theorem entries_not_all_credited : ¬∀ (setup : Setup) (slots : Record Json) (slot : String)
    (rows : List LogRow) (connections : Connections) (moves : List Move),
    (∀ op ∈ Move.operations moves, op.isVisit) →
      ((opened (.memory slots) slot rows connections).run setup moves).state.journal.EachEntry
        fun path token _ => ∀ route, setup.table.get? path = some route →
          route.policy.requiresAuth → token.isSome := by
  intro hall
  have heach := hall .default [(Store.tokenSlot, .str "t")] Store.tokenSlot [] .borrowed
    signedOutMeanwhile (by simp [Move.operations, signedOutMeanwhile, Operation.isVisit])
  obtain ⟨earlier, hentry⟩ := heach.of_mem entered_signedOut
  exact absurd (hentry (Table.closedRoute "/vault" "Vault") (by decide) rfl) (by simp)

end Pool

end Gatehouse

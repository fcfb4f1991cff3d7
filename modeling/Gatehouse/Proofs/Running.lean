import Gatehouse.Proofs.Operations
import Gatehouse.Proofs.Turns

/-! Courses of events, told in deeds. A course begins where a house is opened over some store, and
    what no deed breaks holds in all the states that it leads through. -/

namespace Gatehouse

/-- The state in which a house is opened: some rows have been logged, nobody has been anywhere, and
    the session is seeded from the store. -/
def State.opening (store : Store) (slot : String) (rows : List LogRow) (connections : Connections) :
    State :=
  State.after ⟨⟨store, slot, ⟨none, none⟩, Journal.addRows [] rows⟩, connections, .start⟩ Desk.seed

/-- Seeding leaves nothing but notes behind, apart from the session. -/
theorem State.opening_noted (store : Store) (slot : String) (rows : List LogRow)
    (connections : Connections) :
    Noted ⟨⟨store, slot, ⟨(store.token slot).result.toOption.join, none⟩, []⟩, connections, .start⟩
      (opening store slot rows connections) := by
  let base : State := ⟨⟨store, slot, ⟨none, none⟩, Journal.addRows [] rows⟩, connections, .start⟩
  obtain ⟨es, hes, ht⟩ := base.after_token
  have hr : base.result Desk.token = (store.token slot).result := rfl
  refine ⟨es ++ (rows.map Event.logged).reverse, ?_, ?_⟩
  · exact List.forall_mem_append.2 ⟨hes, rows_isNote rows⟩
  · show base.after Desk.seed = _
    simp only [Desk.seed, after_bind, after_modify, hr, ht]
    cases h : (store.token slot).result with
    | error f => simp [Except.toOption, base, noting, Journal.addRows]
    | ok token => simp [Except.toOption, base, noting, Journal.addRows]

variable {setup : Setup} {moves : List Move} {s : State}

/-- A rule that asks for no more than that what was true before stays true. -/
theorem Rule.of_invariant {X : Exchange State → Prop} {op : Operation} {I : State → Prop}
    (h : ∀ turn s t, I s → Deed setup X op turn s t → I t) :
    Rule setup X op fun turn t => I turn.state → I t := by
  refine ⟨fun hR hdeed hI => h _ _ _ (hR hI) hdeed, fun _ _ _ hI => hI, ?_, ?_⟩
  · intro x hx hrej hI
    exact h (.after x) _ _ hI (.expired hx hrej)
  · intro x t hx _ hvisit hn hI
    have ht : I t := h (.after x) _ _ hI (.noted hn)
    exact h (.after x) _ _ ht (.left hvisit.1)

namespace Pool

/-- The house when it has been opened and no operation has been started. -/
def opened (store : Store) (slot : String) (rows : List LogRow) (connections : Connections) :
    Pool :=
  fresh (State.opening store slot rows connections)

/-- What no deed breaks is true at all times. -/
theorem invariant_of_deeds {I : State → Prop} (hs : I s)
    (h : ∀ i op turn s' t, (Move.operations moves)[i]? = some op → I s' →
      Deed setup ((fresh s).Exchanged setup moves i) op turn s' t → I t) :
    I ((fresh s).run setup moves).state :=
  invariant hs fun _ _ _ hop =>
    Operation.run_keeps (.of_invariant fun turn s' t => h _ _ turn s' t hop) fun hI => hI

end Pool

/-! ### A house to look at -/

/-- The default settings and routes. -/
def Setup.default : Setup :=
  ⟨Settings.default, Table.default, true, true, Json.usualRoom, Json.usualRoom⟩

/-- A house that is opened over a memory in which a token is stored. -/
def Pool.openedWith (token : String) : Pool :=
  opened (.memory [(Store.tokenSlot, .str token)]) Store.tokenSlot [] .borrowed

/-- A reply that reports a success, with this text as its data. -/
def Reply.success (data : String) : Reply :=
  .received 200 ("\x7b\"code\":200,\"data\":" ++ data ++ "\x7d").toUTF8 Json.usualRoom

/-- A reply that rejects the credential, without a word. -/
def Reply.rejection : Reply := .received 401 .empty Json.usualRoom

/-- The text that a value is, if it is one. -/
def Json.text? : Json → Option String
  | .str s => some s
  | _ => none

theorem Json.eq_str_of_text? {v : Option Json} {s : String} (h : v.bind text? = some s) :
    v = some (.str s) := by
  obtain ⟨w, rfl, hw⟩ := Option.bind_eq_some_iff.1 h
  cases w <;> simp_all [text?]

end Gatehouse

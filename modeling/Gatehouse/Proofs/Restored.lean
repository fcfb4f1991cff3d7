import Gatehouse.Marked.Restoring
import Gatehouse.Proofs.Reread

/-! Values that stand for themselves. A value in which no name begins like a mark is restored as it
    is: its containers are numbered, but nothing refers to them, so whatever stands in the table,
    the value that is written in the end is the one that was read. And nothing is dropped from it
    before it is written. -/

namespace Gatehouse.Marked

variable {names : Names} {v : Json} {α β : Type}

/-! ### Names that begin like a mark -/

/-- How the names of marks begin. -/
def markHead : List Char := "py/".toList

/-- A name begins like a mark. -/
def IsMarkLike (name : String) : Prop := markHead <+: name.toList

instance (name : String) : Decidable (IsMarkLike name) := by
  unfold IsMarkLike
  infer_instance

theorem isMarkLike_of_keys {k : String × Mark} (h : k ∈ keys) : IsMarkLike k.1 := by
  revert k
  decide

theorem isMarkLike_of_reserved {name : String} (h : reservedKeys.contains name = true) :
    IsMarkLike name := by
  have all : ∀ key ∈ reservedKeys, IsMarkLike key := by decide
  exact all name (List.contains_iff_mem.mp h)

/-- No name inside of a value begins like a mark. -/
inductive IsBare : Json → Prop where
  | word {v : Json} (h : v.isContainer = false) : IsBare v
  | list {items : List Json} (h : ∀ v ∈ items, IsBare v) : IsBare (.arr items)
  | object {fields : List (String × Json)} (unmarked : ∀ e ∈ fields, ¬ IsMarkLike e.1)
    (h : ∀ e ∈ fields, IsBare e.2) : IsBare (.obj fields)

/-- An object none of whose names begins like a mark has no mark. -/
theorem mark_none {fields : List (String × Json)} (h : ∀ e ∈ fields, ¬ IsMarkLike e.1) :
    mark? fields = none := by
  rw [mark?, List.find?_eq_none]
  intro k hk marked
  obtain ⟨e, he, same⟩ := List.any_eq_true.mp marked
  exact h e he (of_decide_eq_true same ▸ isMarkLike_of_keys hk)

/-! ### Writing -/

theorem unmarkedItems_eq {items : List Json} (h : ∀ v ∈ items, unmarked v = v) :
    unmarkedItems items = items := by
  induction items with
  | nil => rfl
  | cons v items ih =>
    obtain ⟨hv, hitems⟩ := List.forall_mem_cons.mp h
    rw [unmarkedItems, hv, ih hitems]

theorem unmarkedFields_eq {fields : List (String × Json)}
    (unmarked : ∀ e ∈ fields, ¬ IsMarkLike e.1) (h : ∀ e ∈ fields, Marked.unmarked e.2 = e.2) :
    unmarkedFields fields = fields := by
  induction fields with
  | nil => rfl
  | cons e fields ih =>
    obtain ⟨k, v⟩ := e
    obtain ⟨hk, hkeys⟩ := List.forall_mem_cons.mp unmarked
    obtain ⟨hv, hfields⟩ := List.forall_mem_cons.mp h
    rw [unmarkedFields, if_neg fun reserved => hk (isMarkLike_of_reserved reserved), hv,
      ih hkeys hfields]

/-- Nothing is dropped from a value without marks. -/
theorem IsBare.unmarked (h : IsBare v) : unmarked v = v := by
  induction h with
  | @word v h =>
    cases v with
    | arr items => cases h
    | obj fields => cases h
    | _ => rfl
  | list _ ih => rw [Marked.unmarked, unmarkedItems_eq ih]
  | object unmarked _ ih => rw [Marked.unmarked, unmarkedFields_eq unmarked ih]

/-! ### Reading -/

/-- Work on the numbered containers comes to a result, whatever has been numbered before. -/
def Yields (work : Restoring α) (a : α) : Prop :=
  ∀ t : Table, ∃ t', work.run.run t = (.ok a, t')

theorem yields_pure (a : α) : Yields (pure a) a := fun t => ⟨t, rfl⟩

/-- One work after another comes to a result when both do. -/
theorem Yields.bind {work : Restoring α} {next : α → Restoring β} {a : α} {b : β}
    (h : Yields work a) (h' : Yields (next a) b) : Yields (work >>= next) b := by
  intro t
  obtain ⟨t₁, h⟩ := h t
  obtain ⟨t₂, h'⟩ := h' t₁
  refine ⟨t₂, ?_⟩
  rw [ExceptT.run_bind, StateT.run_bind, h]
  exact h'

/-- A container gets a number, and it does not matter which. -/
theorem yields_entered {d : Option Draft} {next : Nat → Restoring α} {a : α}
    (h : ∀ number, Yields (next number) a) : Yields (enter d >>= next) a :=
  fun t => h t.size (t.push d)

/-- A container is what it was completed with. -/
theorem yields_complete (number : Nat) (d : Draft) : Yields (complete number d) d :=
  fun t => ⟨t.setIfInBounds number (some d), rfl⟩

theorem Yields.discard {work : Restoring α} {a : α} (h : Yields work a) :
    Yields (Functor.discard work) () := by
  rw [Functor.discard, LawfulFunctor.map_const, Function.comp_apply, map_eq_pure_bind]
  exact h.bind (yields_pure _)

/-- A value comes to a draft that writes it again, whatever stands in the table. -/
def StandsForItself (names : Names) (v : Json) : Prop :=
  ∃ d, Yields (restore names v) d ∧ ∀ look, d.value? look = some v

theorem itemValues_cons {look : Int → Option Json} {d : Draft} (h : d.value? look = some v)
    (ds : List Draft) : itemValues? look (d :: ds) = (itemValues? look ds).map (v :: ·) := by
  cases d with
  | awaited number => cases h
  | pending number => cases h
  | _ =>
    rw [itemValues?, h]
    · cases itemValues? look ds <;> rfl
    all_goals simp

theorem fieldValues_cons {look : Int → Option Json} {d : Draft} (h : d.value? look = some v)
    (k : String) (ds : List (String × Draft)) :
    fieldValues? look ((k, d) :: ds) = (fieldValues? look ds).map ((k, v) :: ·) := by
  cases d with
  | awaited number => cases h
  | pending number => cases h
  | _ =>
    rw [fieldValues?, h]
    · cases fieldValues? look ds <;> rfl
    all_goals simp

theorem restoreItems_yields {items : List Json} (h : ∀ v ∈ items, StandsForItself names v) :
    ∃ ds, Yields (restoreItems names items) ds ∧ ∀ look, itemValues? look ds = some items := by
  induction items with
  | nil => exact ⟨[], yields_pure _, fun _ => rfl⟩
  | cons v items ih =>
    obtain ⟨⟨d, hd, value⟩, hitems⟩ := List.forall_mem_cons.mp h
    obtain ⟨ds, hds, values⟩ := ih hitems
    refine ⟨d :: ds, ?_, fun look => ?_⟩
    · rw [restoreItems]
      exact hd.bind (hds.bind (yields_pure _))
    · rw [itemValues_cons (value look), values look, Option.map_some]

/-- Fields whose values stand for themselves, behind those that are done. -/
theorem restoreFields_yields {fields : List (String × Json)}
    (h : ∀ e ∈ fields, StandsForItself names e.2) : ∃ ds : List (String × Draft),
      (∀ number done, Yields (restoreFields names number done fields)
        (.object (done.reverse ++ ds))) ∧ ∀ look, fieldValues? look ds = some fields := by
  induction fields with
  | nil =>
    refine ⟨[], fun number done => ?_, fun _ => rfl⟩
    rw [List.append_nil, restoreFields]
    exact yields_complete _ _
  | cons e fields ih =>
    obtain ⟨k, v⟩ := e
    obtain ⟨⟨d, hd, value⟩, hfields⟩ := List.forall_mem_cons.mp h
    obtain ⟨ds, hds, values⟩ := ih hfields
    refine ⟨(k, d) :: ds, fun number done => ?_, fun look => ?_⟩
    · have rest := hds number ((k, d) :: done)
      rw [List.reverse_cons, List.append_assoc, List.singleton_append] at rest
      rw [restoreFields]
      exact hd.bind ((yields_complete _ _).discard.bind rest)
    · rw [fieldValues_cons (value look), values look, Option.map_some]

/-- A value without marks stands for itself. -/
theorem IsBare.standsForItself (h : IsBare v) : StandsForItself names v := by
  induction h with
  | @word v h =>
    refine ⟨.plain v, ?_, fun _ => rfl⟩
    cases v with
    | arr items => cases h
    | obj fields => cases h
    | _ =>
      rw [restore]
      · exact yields_pure _
      all_goals simp
  | list _ ih =>
    obtain ⟨ds, hds, values⟩ := restoreItems_yields ih
    refine ⟨.list ds, ?_, fun look => ?_⟩
    · rw [restore]
      exact yields_entered fun number => hds.bind (yields_complete _ _)
    · rw [Draft.value?, values look, Option.map_some]
  | object unmarked _ ih =>
    obtain ⟨ds, hds, values⟩ := restoreFields_yields ih
    refine ⟨.object ds, ?_, fun look => ?_⟩
    · rw [restore, mark_none unmarked]
      exact yields_entered fun number => hds number []
    · rw [Draft.value?, values look, Option.map_some]

/-- A value without marks is restored as it is, whatever the names stand for. -/
theorem IsBare.restored (h : IsBare v) (names : Names) : restored names v = .ok v := by
  have itself : StandsForItself names v := h.standsForItself
  obtain ⟨d, yields, value⟩ := itself
  obtain ⟨t, ht⟩ := yields #[]
  have finished : d.finished? t = some v := value _
  rw [Marked.restored, ht]
  simp only [finished]

end Gatehouse.Marked

import Gatehouse.Bench
import Gatehouse.Proofs.Kept

/-! A store on a disk refines a store in memory. Whatever a store is asked to do, it reads all its
    slots, and then it may write all of them; so it is enough that a document gives back the slots
    that were written to it. Each access works alike on both, one access carries what both keep to
    the next, and opening a document anew changes nothing, since it is read on every access. -/

namespace Gatehouse

namespace Store

variable {α β : Type} {disk : Disk} {place : List String} {slots : Record Json}

/-- An access works alike on a store in memory and on a document that keeps the same slots: its
    result is the same, and they keep the same slots after it. -/
def WorksAlike (f : Store → Access α) : Prop :=
  ∀ slots disk place path, Keeps disk place slots → ∃ slots' disk', Keeps disk' place slots' ∧
    (f (memory slots)).store = memory slots' ∧
    (f (file disk place path)).store = file disk' place path ∧
    (f (file disk place path)).result = (f (memory slots)).result

theorem WorksAlike.map {f : Store → Access α} (h : WorksAlike f)
    (g : Except Fault α → Except Fault β) :
    WorksAlike fun s => ⟨g (f s).result, (f s).store, (f s).rows⟩ := by
  intro slots disk place path keeps
  obtain ⟨slots', disk', keeps', inMemory, onDisk, result⟩ := h slots disk place path keeps
  exact ⟨slots', disk', keeps', inMemory, onDisk, congrArg g result⟩

/-- An access that touches no slot works alike. -/
theorem worksAlike_untouched (result : Except Fault α) : WorksAlike fun s => ⟨result, s, []⟩ :=
  fun slots disk _ _ keeps => ⟨slots, disk, keeps, rfl, rfl, rfl⟩

/-- A write to one slot of a document that can be written is kept, and has no fault. -/
theorem Keeps.saveLogged (keeps : Keeps disk place slots) (path : String) {new : Record Json}
    (h : new.IsSlots) (rows : List LogRow) (verb key : String) :
    ∃ disk', Keeps disk' place new ∧
      ((file disk place path).saveLogged new rows verb key).store = file disk' place path ∧
      ((file disk place path).saveLogged new rows verb key).result = .ok () := by
  obtain ⟨disk', saved, keeps'⟩ := keeps.save path h
  refine ⟨disk', keeps', ?_, ?_⟩
  · rw [Store.saveLogged, saved]
  · rw [Store.saveLogged, saved]

/-- A store in memory always gives its slots. -/
theorem load_memory (slots : Record Json) : (memory slots).load = (.ok slots, []) := rfl

theorem worksAlike_get (key : String) : WorksAlike (·.get key) := by
  intro slots disk place path keeps
  obtain ⟨rows, load⟩ := keeps.load path
  refine ⟨slots, disk, keeps, rfl, ?_, ?_⟩
  · simp only [get, load]
  · simp only [get, load]
    rfl

theorem worksAlike_write (key : String) (text : Except Json.Obstacle String) :
    WorksAlike (·.write key text) := by
  intro slots disk place path keeps
  obtain ⟨rows, load⟩ := keeps.load path
  cases text with
  | error o =>
    refine ⟨slots, disk, keeps, rfl, ?_, ?_⟩
    · simp only [write, load]
    · simp only [write, load]
      rfl
  | ok text =>
    obtain ⟨disk', keeps', store, result⟩ :=
      keeps.saveLogged path (keeps.isSlots.put key text) rows "set" key
    refine ⟨_, disk', keeps', rfl, ?_, ?_⟩
    · simp only [write, load, store]
    · simp only [write, load, result]
      rfl

theorem worksAlike_set (key : String) (value : Json) : WorksAlike (·.set key value) :=
  worksAlike_write key (.ok value.display)

/-- Slots are removed alike, those that are not there too. -/
theorem worksAlike_remove (key : String) : WorksAlike (·.remove key) := by
  intro slots disk place path keeps
  obtain ⟨rows, load⟩ := keeps.load path
  by_cases there : Record.has slots key
  · obtain ⟨disk', keeps', store, result⟩ :=
      keeps.saveLogged path (keeps.isSlots.erase key) rows "remove" key
    refine ⟨Record.erase slots key, disk', keeps', ?_, ?_, ?_⟩
    · simp only [remove, load_memory, there, if_true]
      rfl
    · simp only [remove, load, there, if_true, store]
    · simp only [remove, load, load_memory, there, if_true, result]
      rfl
  · refine ⟨slots, disk, keeps, ?_, ?_, ?_⟩
    · simp only [remove, load_memory, there, if_false, Bool.false_eq_true]
    · simp only [remove, load, there, if_false, Bool.false_eq_true]
    · simp only [remove, load, load_memory, there, if_false, Bool.false_eq_true]

theorem worksAlike_clear : WorksAlike clear := by
  intro slots disk place path keeps
  rcases keeps.read with read | ⟨read, none⟩
  · have there := Disk.has_of_read read
    obtain ⟨disk', saved, keeps'⟩ := keeps.save path Record.isSlots_nil
    refine ⟨[], disk', keeps', rfl, ?_, ?_⟩
    · simp only [clear, there, saved]
    · simp only [clear, there, saved]
  · have missing := Disk.has_of_missing read
    refine ⟨[], disk, none ▸ keeps, rfl, ?_, ?_⟩
    · simp only [clear, missing]
    · simp only [clear, missing]

theorem worksAlike_getValue (names : Marked.Names) (key : String) :
    WorksAlike (·.getValue names key) := by
  intro slots disk place path keeps
  obtain ⟨slots', disk', keeps', inMemory, onDisk, result⟩ :=
    worksAlike_get key slots disk place path keeps
  refine ⟨slots', disk', keeps', inMemory, onDisk, ?_⟩
  simp only [getValue, result]

theorem worksAlike_setValue (key : String) (value : Json) : WorksAlike (·.setValue key value) :=
  worksAlike_set key _

theorem worksAlike_token (slot : String) : WorksAlike (·.token slot) :=
  (worksAlike_get slot).map _

/-- Tokens are written alike, and what is no token is refused alike. -/
theorem worksAlike_setToken (room : Nat) (slot : String) (token : Json) :
    WorksAlike (·.setToken room slot token) := by
  by_cases present : token.isPresent
  · simpa only [setToken, present, if_true] using worksAlike_write slot (token.shown room)
  · simpa only [setToken, present, if_false, Bool.false_eq_true] using
      worksAlike_untouched (.error .emptyToken)

theorem worksAlike_hasToken (slot : String) : WorksAlike (·.hasToken slot) :=
  (worksAlike_token slot).map _

end Store

/-! ### The bench -/

/-- Whether an operation is an access to the slots of the store or to the token in one of them. -/
def BenchOperation.isAccess : BenchOperation → Bool
  | .get _ | .set _ _ | .remove _ | .clear => true
  | .getValue _ | .setValue _ _ | .setUnwritable _ _ => true
  | .getToken | .setToken _ | .removeToken | .hasToken => true
  | _ => false

/-- Whether an operation opens the store anew. -/
def BenchOperation.isReopen : BenchOperation → Bool
  | .reopen => true
  | _ => false

theorem BenchOperation.not_isReopen {operation : BenchOperation}
    (h : operation.isAccess = true) : operation.isReopen = false := by
  cases operation <;> first | rfl | cases h

namespace Bench

/-- A step at a bench: an operation, and the slot in which it keeps the token. -/
structure Step where
  slot : String
  operation : BenchOperation

/-- Takes a step. -/
def take (b : Bench) (step : Step) : Except Fault Value × Bench :=
  run { b with desk := { b.desk with slot := step.slot } } step.operation

/-- What comes of the steps other than opening the store anew: their results, and the slots that are
    read back after each of them. -/
def outcomes (b : Bench) : List Step → List (Except Fault Value × Except Fault (Record Json))
  | [] => []
  | step :: rest =>
    if step.operation.isReopen then (b.take step).2.outcomes rest
    else ((b.take step).1, (b.take step).2.desk.store.load.1) :: (b.take step).2.outcomes rest

/-- A bench with a store on a disk keeps the same slots as one with a store in memory. -/
def Refines (f m : Bench) : Prop :=
  ∃ slots disk place path, Store.Keeps disk place slots ∧
    m.desk.store = .memory slots ∧ f.desk.store = .file disk place path

variable {α : Type} {f m : Bench}

/-- What works alike on stores has the same result at the benches, and one still keeps the slots of
    the other. -/
theorem Refines.onStore {access : Store → Access α} (hr : f.Refines m)
    (h : Store.WorksAlike access) (value : α → Value) :
    (asValue value (f.onStore (Desk.access access))).1 =
        (asValue value (m.onStore (Desk.access access))).1 ∧
      (asValue value (f.onStore (Desk.access access))).2.Refines
        (asValue value (m.onStore (Desk.access access))).2 := by
  obtain ⟨slots, disk, place, path, keeps, inMemory, onDisk⟩ := hr
  obtain ⟨slots', disk', keeps', inMemory', onDisk', result⟩ := h slots disk place path keeps
  rw [← inMemory] at inMemory' result
  rw [← onDisk] at onDisk' result
  exact ⟨congrArg (Except.map value) result, slots', disk', place, path, keeps', inMemory', onDisk'⟩

/-- An access has the same result at both benches, and one still keeps the slots of the other. -/
theorem Refines.take {step : Step} (hr : f.Refines m) (h : step.operation.isAccess = true) :
    (f.take step).1 = (m.take step).1 ∧ (f.take step).2.Refines (m.take step).2 := by
  obtain ⟨slot, operation⟩ := step
  have hs : Refines { f with desk := { f.desk with slot := slot } }
      { m with desk := { m.desk with slot := slot } } := hr
  cases operation with
  | get key => exact hs.onStore (Store.worksAlike_get key) _
  | set key value => exact hs.onStore (Store.worksAlike_set key value) _
  | remove key => exact hs.onStore (Store.worksAlike_remove key) _
  | clear => exact hs.onStore Store.worksAlike_clear _
  | getValue key => exact hs.onStore (Store.worksAlike_getValue KnownNames.all key) _
  | setValue key value => exact hs.onStore (Store.worksAlike_setValue key value) _
  | setUnwritable _ reason =>
    exact hs.onStore (Store.worksAlike_untouched (.error (.unwritable reason))) _
  | getToken => exact hs.onStore (Store.worksAlike_token slot) _
  | setToken token => exact hs.onStore (Store.worksAlike_setToken Json.usualRoom slot token) _
  | removeToken => exact hs.onStore (Store.worksAlike_remove slot) _
  | hasToken => exact hs.onStore (Store.worksAlike_hasToken slot) _
  | _ => cases h

/-- Opening a document anew changes nothing. -/
theorem Refines.reopen {step : Step} (hr : f.Refines m) (h : step.operation.isReopen = true) :
    (f.take step).2.Refines m := by
  obtain ⟨slot, operation⟩ := step
  obtain ⟨slots, disk, place, path, keeps, inMemory, onDisk⟩ := hr
  cases operation with
  | reopen =>
    have same : ((f.take ⟨slot, .reopen⟩).2).desk.store = f.desk.store := by
      simp only [Bench.take, run, reopened, onDisk]
    exact ⟨slots, disk, place, path, keeps, inMemory, same.trans onDisk⟩
  | _ => cases h

theorem Refines.load (hr : f.Refines m) : f.desk.store.load.1 = m.desk.store.load.1 := by
  obtain ⟨slots, disk, place, path, keeps, inMemory, onDisk⟩ := hr
  obtain ⟨rows, load⟩ := keeps.load path
  rw [onDisk, load, inMemory, Store.load_memory]

/-- The same comes of the same accesses, however often the document is opened anew in between. -/
theorem Refines.outcomes (hr : f.Refines m) (steps : List Step)
    (h : ∀ step ∈ steps, step.operation.isAccess = true ∨ step.operation.isReopen = true) :
    f.outcomes steps = m.outcomes (steps.filter fun step => step.operation.isAccess) := by
  induction steps generalizing f m with
  | nil => rfl
  | cons step steps ih =>
    obtain ⟨hstep, hsteps⟩ := List.forall_mem_cons.mp h
    by_cases access : step.operation.isAccess = true
    · obtain ⟨result, hr'⟩ := hr.take access
      have notReopen := BenchOperation.not_isReopen access
      rw [List.filter_cons, if_pos access, Bench.outcomes, Bench.outcomes, notReopen, result,
        hr'.load, ih hr' hsteps]
    · have reopen := hstep.resolve_left access
      rw [List.filter_cons, if_neg access, Bench.outcomes, reopen, if_pos rfl]
      exact ih (hr.reopen reopen) hsteps

/-- A store on a disk refines a store in memory: from a document that is missing and can be
    written, whatever accesses are made through whatever slots, the same comes of each of them as
    from an empty store in memory, and the slots that are read back after it are the same and in
    the same order; and so it is however often the document is opened anew in between. -/
theorem file_refines_memory {disk : Disk} {place : List String} {path : String}
    (hm : m.desk.store = .memory []) (hf : f.desk.store = .file disk place path)
    (missing : disk.read place = .error .missing) (writable : disk.IsWritable place)
    (steps : List Step)
    (h : ∀ step ∈ steps, step.operation.isAccess = true ∨ step.operation.isReopen = true) :
    f.outcomes steps = m.outcomes (steps.filter fun step => step.operation.isAccess) := by
  have refines : f.Refines m :=
    ⟨[], disk, place, path, ⟨Record.isSlots_nil, writable, .inr ⟨missing, rfl⟩⟩, hm, hf⟩
  exact refines.outcomes steps h

/-- A document in a directory that is still to be made, on a disk with nothing on it, and a few
    accesses through two slots with the document opened anew between them. -/
theorem file_refines_memory_of_nothing :
    (⟨⟨.file [] ["client", "storage.json"] "storage.json", "token", ⟨none, none⟩, []⟩, none,
        []⟩ : Bench).outcomes
      [⟨"token", .setToken (.str "a\"b")⟩, ⟨"token", .reopen⟩, ⟨"other", .set "\n" (.int 1)⟩,
        ⟨"other", .hasToken⟩, ⟨"token", .getToken⟩, ⟨"token", .clear⟩] =
    (⟨⟨.memory [], "token", ⟨none, none⟩, []⟩, none, []⟩ : Bench).outcomes
      [⟨"token", .setToken (.str "a\"b")⟩, ⟨"other", .set "\n" (.int 1)⟩, ⟨"other", .hasToken⟩,
        ⟨"token", .getToken⟩, ⟨"token", .clear⟩] := by
  have missing : Disk.read [] ["client", "storage.json"] = .error .missing := by rfl
  have writable : Disk.IsWritable [] ["client", "storage.json"] := by
    refine ⟨[(["client"], .directory 0o700)], by rfl, by decide,
      ⟨["client", "storage.json.tmp"], by rfl, ?_⟩, ⟨["client", "storage.json"], by rfl, ?_⟩⟩
    · rintro ⟨mode, h⟩
      cases h
    · rintro ⟨mode, h⟩
      cases h
  refine file_refines_memory rfl rfl missing writable _ ?_
  decide

end Bench

end Gatehouse

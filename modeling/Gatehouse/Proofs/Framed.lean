import Gatehouse.Proofs.Returned
import Gatehouse.Proofs.Written

/-! Changes to a document are framed and atomic. A change reads all slots, and then it may write the
    document anew; so it is told by the slots that it makes of those that it found. A change that
    succeeds leaves just these slots to be read, whatever was in the file before. A change that
    fails leaves the file as it was, whatever stopped it, and nothing of what it does leave is seen
    by the next change. -/

namespace Gatehouse.Store

open Disk Json

variable {disk left : Disk} {place dirs : List String} {name path key : String}
  {slots : Record Json} {rows : List LogRow}

/-! ### Reading -/

/-- What is shown of a slot: null counts as missing. -/
def shownIn (slots : Record Json) (key : String) : Option Json :=
  match slots.get? key with
  | some .null => none
  | v => v

theorem get_result (s : Store) (key : String) :
    (s.get key).result = s.load.1.map fun slots => shownIn slots key := by
  rw [get]
  rcases s.load with ⟨_ | slots, rows⟩ <;> rfl

/-- A document has a content: it is missing, or it holds some bytes. -/
def HasContent (disk : Disk) (place : List String) : Prop :=
  disk.read place = .error .missing ∨ ∃ bytes, disk.read place = .ok bytes

/-- The slots that a file holds; where there is no file, there are none. -/
def heldBy (path : String) (file : Option (ByteArray × Nat)) : Record Json :=
  match file with
  | some (bytes, _) => (slotsOf path bytes).1
  | none => []

theorem HasContent.load (h : HasContent disk place) (path : String) :
    ∃ slots, (file disk place path).load.1 = .ok slots := by
  rw [Store.load]
  rcases h with missing | ⟨bytes, read⟩
  · rw [missing]
    exact ⟨_, rfl⟩
  · rw [read]
    exact ⟨_, rfl⟩

/-- The slots that are loaded are those of the file that the path leads to. -/
theorem load_eq_heldBy (h : (file disk place path).load.1 = .ok slots) :
    slots = heldBy path (disk.fileWhere disk place) := by
  rw [load] at h
  rw [fileWhere]
  cases found : disk.locate place with
  | error fault =>
    rw [read_of_unlocated found] at h
    split at h
    case h_1 heq => cases heq
    case h_2 =>
      cases h
      rfl
    case h_3 => cases h
  | ok p =>
    rw [read_of_located found] at h
    show slots = heldBy path (disk.file? p)
    rw [file?]
    cases stands : disk.at? p with
    | none =>
      rw [stands] at h
      cases h
      rfl
    | some n =>
      rw [stands] at h
      cases n with
      | file bytes mode =>
        cases h
        rfl
      | directory mode => cases h

/-- What is loaded from a document can be held. -/
theorem load_isHeld (h : (file disk place path).load.1 = .ok slots) : slots.IsHeld := by
  rw [load_eq_heldBy h]
  unfold heldBy
  split
  · exact slotsOf_isHeld path _
  · exact Record.isHeld_nil

/-! ### Changes -/

/-- A change to a document. -/
inductive Change where
  | set (key : String) (value : Json)
  /-- Writes a text that cannot be encoded. -/
  | setUnencodable
  | remove (key : String)
  | clear

namespace Change

/-- Makes a change. A text that cannot be encoded is found out when the document is written. -/
def make (c : Change) (disk : Disk) (place : List String) (path : String) : Access Unit :=
  let s := file disk place path
  match c with
  | set key value => s.set key value
  | setUnencodable =>
    match s.load with
    | (.error fault, rows) => ⟨.error fault, s, rows⟩
    | (.ok _, rows) => ⟨(renew disk place none).1, file (renew disk place none).2 place path, rows⟩
  | remove key => s.remove key
  | clear => s.clear

/-- The slots that a change makes of those that it finds. -/
def edit (c : Change) (slots : Record Json) : Record Json :=
  match c with
  | set key value => Record.put slots key (.str value.display)
  | setUnencodable => slots
  | remove key => Record.erase slots key
  | clear => []

/-- What a change that succeeds leaves in a slot, by what was there before. -/
def leaves (c : Change) (key : String) (before : Option Json) : Option Json :=
  match c with
  | set changed value => if key = changed then some (.str value.display) else before
  | setUnencodable => before
  | remove changed => if key = changed then none else before
  | clear => none

/-- The bytes of a document with the slots, if they have one. -/
def documentBytes? (slots : Record Json) : Option ByteArray :=
  (Json.document? (.obj slots)).map bytesOf

/-- What a change is about to write: nothing, or the document anew, with the bytes that it has. -/
def plan (c : Change) (disk : Disk) (place : List String) (path : String) :
    Except Fault (Option (Option ByteArray)) :=
  let loaded := (file disk place path).load.1
  match c with
  | set _ _ => loaded.map fun slots => some (documentBytes? (c.edit slots))
  | setUnencodable => loaded.map fun _ => some none
  | remove key => loaded.map fun slots =>
    if Record.has slots key then some (documentBytes? (c.edit slots)) else none
  | clear =>
    match disk.has place with
    | .error fault => .error (.disk fault)
    | .ok isThere => .ok (if isThere then some (documentBytes? []) else none)

/-- What comes of a change: what is planned is written, if anything is. -/
def outcome (c : Change) (disk : Disk) (place : List String) (path : String) :
    Except Fault Unit × Disk :=
  match c.plan disk place path with
  | .error fault => (.error fault, disk)
  | .ok none => (.ok (), disk)
  | .ok (some bytes?) => renew disk place bytes?

variable {c : Change}

theorem make_eq (c : Change) (disk : Disk) (place : List String) (path : String) :
    (c.make disk place path).result = (c.outcome disk place path).1 ∧
      (c.make disk place path).store = file (c.outcome disk place path).2 place path := by
  have saved (slots : Record Json) (rows : List LogRow) (verb key : String) :
      ((file disk place path).saveLogged slots rows verb key).result =
          (renew disk place (documentBytes? slots)).1 ∧
        ((file disk place path).saveLogged slots rows verb key).store =
          file (renew disk place (documentBytes? slots)).2 place path := ⟨rfl, rfl⟩
  cases c with
  | set key value =>
    unfold make outcome plan
    simp only [Store.set, Store.write]
    rcases (file disk place path).load with ⟨_ | slots, rows⟩
    · exact ⟨rfl, rfl⟩
    · exact saved ..
  | setUnencodable =>
    unfold make outcome plan
    simp only
    rcases (file disk place path).load with ⟨_ | slots, rows⟩ <;> exact ⟨rfl, rfl⟩
  | remove key =>
    unfold make outcome plan
    simp only [Store.remove]
    rcases (file disk place path).load with ⟨_ | slots, rows⟩
    · exact ⟨rfl, rfl⟩
    · simp only [Except.map]
      split
      · exact saved ..
      · exact ⟨rfl, rfl⟩
  | clear =>
    unfold make outcome plan
    simp only [Store.clear]
    cases disk.has place with
    | error fault => exact ⟨rfl, rfl⟩
    | ok isThere => cases isThere <;> exact ⟨rfl, rfl⟩

theorem isHeld_edit (c : Change) (h : slots.IsHeld) : (c.edit slots).IsHeld := by
  cases c with
  | set key value => exact h.put key _
  | setUnencodable => exact h
  | remove key => exact h.erase key
  | clear => exact Record.isHeld_nil

theorem shownIn_edit (c : Change) (slots : Record Json) (key : String) :
    shownIn (c.edit slots) key = c.leaves key (shownIn slots key) := by
  cases c with
  | set changed value =>
    rw [edit, leaves, shownIn, shownIn]
    by_cases h : key = changed
    · rw [if_pos h, h, Record.get?_put_self]
    · rw [if_neg h, Record.get?_put_of_ne slots _ h]
  | setUnencodable => rfl
  | remove changed =>
    rw [edit, leaves, shownIn, shownIn]
    by_cases h : key = changed
    · rw [if_pos h, h, Record.get?_erase_self]
    · rw [if_neg h, Record.get?_erase_of_ne slots h]
  | clear => rfl

theorem plan_some (loads : (file disk place path).load.1 = .ok slots) {bytes : ByteArray}
    (h : c.plan disk place path = .ok (some (some bytes))) :
    documentBytes? (c.edit slots) = some bytes := by
  unfold plan at h
  rw [loads] at h
  cases c with
  | set key value => exact Option.some.inj (Except.ok.inj h)
  | setUnencodable => cases h
  | remove key =>
    simp only [Except.map] at h
    split at h
    · exact Option.some.inj (Except.ok.inj h)
    · cases h
  | clear =>
    simp only at h
    split at h
    · cases h
    · split at h
      · exact Option.some.inj (Except.ok.inj h)
      · cases h

/-- A change that writes nothing would change nothing. -/
theorem plan_none (loads : (file disk place path).load.1 = .ok slots)
    (h : c.plan disk place path = .ok none) (key : String) :
    shownIn slots key = shownIn (c.edit slots) key := by
  unfold plan at h
  rw [loads] at h
  cases c with
  | set key value => cases h
  | setUnencodable => cases h
  | remove removed =>
    simp only [Except.map] at h
    split at h
    · cases h
    case isFalse absent =>
      rw [Record.has, Option.not_isSome_iff_eq_none] at absent
      by_cases hk : key = removed
      · rw [shownIn, shownIn, edit, hk, absent, Record.get?_erase_self]
      · rw [shownIn, shownIn, edit, Record.get?_erase_of_ne slots hk]
  | clear =>
    rw [load] at loads
    simp only at h
    cases read : disk.read place with
    | ok bytes =>
      rw [has_of_read read] at h
      cases h
    | error fault =>
      rw [read] at loads
      cases fault <;> cases loads
      rfl

/-- A change that succeeds has found a document that could be read, unless it removes all slots. -/
theorem loads_of_ok (h : (c.make disk place path).result = .ok ())
    (content : c = .clear → HasContent disk place) :
    ∃ slots, (file disk place path).load.1 = .ok slots := by
  rw [(make_eq c disk place path).1] at h
  unfold outcome plan at h
  cases hl : (file disk place path).load.1 with
  | ok slots => exact ⟨slots, rfl⟩
  | error fault =>
    rw [hl] at h
    cases c with
    | clear =>
      obtain ⟨slots, loads⟩ := (content rfl).load path
      rw [hl] at loads
      cases loads
    | _ => cases h

theorem load_make (h : (c.make disk (dirs ++ [name]) path).result = .ok ())
    (loads : (file disk (dirs ++ [name]) path).load.1 = .ok slots) :
    ∃ new, (c.make disk (dirs ++ [name]) path).store.load.1 = .ok new ∧
      ∀ key, shownIn new key = shownIn (c.edit slots) key := by
  obtain ⟨result, store⟩ := make_eq c disk (dirs ++ [name]) path
  rw [result] at h
  rw [store]
  unfold outcome at h ⊢
  split at h
  case h_1 => cases h
  case h_2 plan => exact ⟨slots, loads, plan_none loads plan⟩
  case h_3 bytes? plan =>
    refine ⟨c.edit slots, ?_, fun _ => rfl⟩
    have written := renewed disk (dirs ++ [name]) bytes?
    rw [h] at written
    obtain ⟨bytes, there, -, rfl, found, file, -⟩ := written.written
    obtain ⟨text, document, rfl⟩ := Option.map_eq_some_iff.mp (plan_some loads plan)
    have read := read_of_located found
    rw [file] at read
    rw [load, read]
    exact congrArg Except.ok (slotsOf_held path (isHeld_edit c (load_isHeld loads)) document)

/-- A change that succeeds leaves in each slot what it makes of it. -/
theorem get_make (h : (c.make disk (dirs ++ [name]) path).result = .ok ())
    (loads : (file disk (dirs ++ [name]) path).load.1 = .ok slots) (key : String) :
    ((c.make disk (dirs ++ [name]) path).store.get key).result =
      .ok (c.leaves key (shownIn slots key)) := by
  obtain ⟨new, left, shown⟩ := load_make h loads
  rw [get_result, left, ← shownIn_edit, ← shown key]
  rfl

/-- The slots that a change makes fit into a document where those before did. -/
theorem documentBytes_edit (c : Change) (fits : fitsDocument documentDepth (.obj slots) = true) :
    ∃ bytes, documentBytes? (c.edit slots) = some bytes := by
  rw [fitsDocument, Bool.and_eq_true, fieldsFit_iff] at fits
  have edited : ∀ e ∈ c.edit slots, fitsDocument (documentDepth - 1) e.2 = true := by
    intro e he
    cases c with
    | set key value =>
      rcases Record.mem_put he with he | rfl
      · exact fits.2 e he
      · rfl
    | setUnencodable => exact fits.2 e he
    | remove key => exact fits.2 e (List.mem_filter.mp he).1
    | clear => exact absurd he List.not_mem_nil
  exact ⟨_, congrArg (Option.map bytesOf) (document_of_fits edited)⟩

theorem plan_of_loads (content : HasContent disk place)
    (loads : (file disk place path).load.1 = .ok slots) (encodable : c ≠ .setUnencodable) :
    c.plan disk place path = .ok none ∨
      c.plan disk place path = .ok (some (documentBytes? (c.edit slots))) := by
  unfold plan
  rw [loads]
  cases c with
  | set key value => exact .inr rfl
  | setUnencodable => exact absurd rfl encodable
  | remove key =>
    simp only [Except.map]
    split
    · exact .inr rfl
    · exact .inl rfl
  | clear =>
    rcases content with missing | ⟨bytes, read⟩
    · rw [has_of_missing missing]
      exact .inl rfl
    · rw [has_of_read read]
      exact .inr rfl

/-- Where the document can be read and written and its slots fit, just what cannot be encoded is
    not written. -/
theorem make_ok_iff (content : HasContent disk place) (writable : disk.IsWritable place)
    (fits : ∀ slots, (file disk place path).load.1 = .ok slots →
      fitsDocument documentDepth (.obj slots) = true) :
    (c.make disk place path).result = .ok () ↔ c ≠ .setUnencodable := by
  obtain ⟨slots, loads⟩ := content.load path
  rw [(make_eq c disk place path).1, outcome]
  constructor
  · rintro succeeds rfl
    have plan : setUnencodable.plan disk place path = .ok (some none) := by
      unfold Change.plan
      rw [loads]
      rfl
    have written := renewed disk place none
    rw [plan] at succeeds
    simp only at succeeds
    rw [succeeds] at written
    generalize (renew disk place none).2 = left at written
    cases written with
    | moved _ _ some => cases some
  · intro encodable
    rcases plan_of_loads content loads encodable with plan | plan
    · rw [plan]
    · obtain ⟨bytes, document⟩ := documentBytes_edit c (fits slots loads)
      obtain ⟨left, written, -⟩ := renew_writable writable bytes
      rw [plan, document]
      simp only [written]

/-- A change that fails leaves the document as it was. -/
theorem spares_make {fault : Fault}
    (h : (c.make disk (dirs ++ [name]) path).result = .error fault) :
    ∃ left, (c.make disk (dirs ++ [name]) path).store = file left (dirs ++ [name]) path ∧
      disk.Spares left (dirs ++ [name]) := by
  obtain ⟨result, store⟩ := make_eq c disk (dirs ++ [name]) path
  rw [result] at h
  refine ⟨_, store, ?_⟩
  unfold outcome at h ⊢
  split at h
  case h_1 => exact ⟨id, rfl⟩
  case h_2 => cases h
  case h_3 bytes? plan =>
    have left := renewed disk (dirs ++ [name]) bytes?
    rw [h] at left
    exact left.spares

end Change

/-- Changes to a document are framed and atomic, whatever the file holds, and also where there is
    none. After a change that succeeds, each slot holds what the change makes of what was there
    before: a written slot its text, a removed one nothing, and every other one what it held. Where
    the document can be read and written and its slots fit, only a text that cannot be encoded
    fails. After a change that fails, the path leads wherever it led, and the file there is what it
    was, to the last byte, or is still missing; and what any later change leaves when it succeeds
    is told by what that file held, as if the first change had never been tried. -/
theorem document_framed (disk : Disk) (dirs : List String) (name path : String) (change : Change) :
    let place := dirs ++ [name]
    let before := file disk place path
    let after := change.make disk place path
    (after.result = .ok () → (change = .clear → HasContent disk place) → ∀ key, ∃ value,
      (before.get key).result = .ok value ∧
        (after.store.get key).result = .ok (change.leaves key value)) ∧
    (HasContent disk place → disk.IsWritable place →
      (∀ slots, before.load.1 = .ok slots → fitsDocument documentDepth (.obj slots) = true) →
        (after.result = .ok () ↔ change ≠ .setUnencodable)) ∧
    ∀ fault, after.result = .error fault → ∃ left, after.store = file left place path ∧
      (∀ bytes, disk.read place = .ok bytes → left.read place = .ok bytes) ∧
      disk.Spares left place ∧
      ∀ later : Change, (later.make left place path).result = .ok () →
        (later = .clear → HasContent left place) → ∀ key,
          ((later.make left place path).store.get key).result =
            .ok (later.leaves key (shownIn (heldBy path (disk.fileWhere left place)) key)) := by
  intro place before after
  refine ⟨fun succeeds content key => ?_, Change.make_ok_iff, fun fault fails => ?_⟩
  · obtain ⟨slots, loads⟩ := Change.loads_of_ok succeeds content
    refine ⟨shownIn slots key, ?_, Change.get_make succeeds loads key⟩
    rw [get_result, loads]
    rfl
  · obtain ⟨left, store, spares⟩ := Change.spares_make fails
    refine ⟨left, store, fun bytes => spares.read, spares, fun later succeeds content key => ?_⟩
    obtain ⟨slots, loads⟩ := Change.loads_of_ok succeeds content
    rw [← spares.kept, ← load_eq_heldBy loads]
    exact Change.get_make succeeds loads key

end Gatehouse.Store

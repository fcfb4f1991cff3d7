import Gatehouse.Proofs.Framed
import Gatehouse.Proofs.Restored

/-! Values inside of slots. A slot holds a text; what it is given out as depends on whether the text
    is a value in writing. Reading copes with every document and with every text, but not with
    something else that was put into a slot from outside. And a value that was written to a slot is
    the value that is read from it: its text is read as it was written, whatever the document makes
    of that text, and it is restored as it is, since nothing in it is marked. -/

namespace Gatehouse

/-! ### Values that are plain -/

namespace Json

variable {v : Json}

/-- A value is plain: its whole numbers have no more digits than a slot can hold, its other numbers
    are finite, and in its objects every name stands once and none begins like a mark. -/
inductive IsPlain : Json → Prop where
  | null : IsPlain .null
  | bool (b : Bool) : IsPlain (.bool b)
  | int {n : Int} (few : (Decimal.digitsOf n.natAbs).length ≤ 4300) : IsPlain (.int n)
  | float {x : Float} (finite : (Decimal.Binary.ofFloat? x).isSome) : IsPlain (.float x)
  | str (t : String) : IsPlain (.str t)
  | list {items : List Json} (h : ∀ v ∈ items, IsPlain v) : IsPlain (.arr items)
  | object {fields : List (String × Json)} (names : (Record.keys fields).Nodup)
    (unmarked : ∀ e ∈ fields, ¬ Marked.IsMarkLike e.1) (h : ∀ e ∈ fields, IsPlain e.2) :
    IsPlain (.obj fields)

theorem IsPlain.isBare (h : v.IsPlain) : Marked.IsBare v := by
  induction h with
  | list _ ih => exact .list ih
  | object _ unmarked _ ih => exact .object unmarked ih
  | _ => exact .word rfl

/-- There is no end to the depth of nesting inside a slot. -/
theorem slot_unbounded (height : Nat) : ¬ Dialect.slot.depth.any (· ≤ height) = true :=
  Bool.false_ne_true

/-- A plain value is read where it was written, at any depth. -/
theorem IsPlain.reread (h : v.IsPlain) (height : Nat) :
    Dialect.slot.reread? Style.slot height v = some v := by
  induction h generalizing height with
  | null => rfl
  | bool b => cases b <;> rfl
  | int few => exact word_int (decide_eq_true few) fun machine => by cases machine
  | float finite =>
    obtain ⟨b, hb⟩ := Option.isSome_iff_exists.mp finite
    exact word_render (by decide) hb
  | str t => rfl
  | list _ ih =>
    rw [Dialect.reread?, if_neg (slot_unbounded _), rereadItems_self fun v hv => ih v hv _]
    rfl
  | object names _ _ ih =>
    rw [Dialect.reread?, if_neg (slot_unbounded _), rereadFields_self fun e he => ih e he _,
      Option.map_some, Record.ofList_eq_self _ names]

theorem IsPlain.read (h : v.IsPlain) : Dialect.slot.read? (slotText v) = some v :=
  (read_written _ Style.slot_isReadable v).trans (h.reread 0)

end Json

namespace Store

open Json Marked

variable {s : Store} {names : Names} {key text : String} {v : Json} {disk : Disk}
  {place : List String} {bytes : ByteArray}

/-! ### What a text stands for -/

/-- A text that is no value in writing stands for itself. -/
theorem decoded_of_none (h : Dialect.slot.read? text = none) :
    decoded names text = .ok (.str text) := by
  rw [decoded, h]

/-- A text that is a value without marks in writing stands for that value. -/
theorem decoded_of_bare (h : Dialect.slot.read? text = some v) (bare : IsBare v) :
    decoded names text = .ok v := by
  rw [decoded, h]
  simp only [bare.restored]

theorem getValue_of_missing (h : (s.get key).result = .ok none) :
    (s.getValue names key).result = .ok .null := by
  rw [getValue]
  simp only [h]

theorem getValue_of_text (h : (s.get key).result = .ok (some (.str text))) :
    (s.getValue names key).result = decoded names text := by
  rw [getValue]
  simp only [h]

/-- A slot with anything else has no value, and not even a missing one. -/
theorem getValue_of_other (h : (s.get key).result = .ok (some v)) (other : ∀ text, v ≠ .str text) :
    (s.getValue names key).result = .error .unfit := by
  rw [getValue]
  cases v with
  | str text => exact absurd rfl (other text)
  | _ => simp only [h]

/-! ### Reading whatever there is -/

/-- Bytes that are no object hold no slots. -/
theorem slotsOf_other (path : String)
    (h : ∀ fields, Dialect.document.readBytes? bytes ≠ some (.obj fields)) :
    (slotsOf path bytes).1 = [] := by
  unfold slotsOf
  split
  · rfl
  split
  case h_1 fields read => exact absurd read (h fields)
  · rfl
  · rfl

theorem get_of_read (readable : disk.read place = .ok bytes) (path key : String) :
    ((file disk place path).get key).result = .ok (shownIn (slotsOf path bytes).1 key) := by
  rw [get_result, load, readable]
  rfl

theorem shownIn_ne_null (slots : Record Json) (key : String) :
    shownIn slots key ≠ some .null := by
  unfold shownIn
  split
  · simp
  case h_2 notNull => exact notNull

/-- Reading copes with every document, as long as there are texts in its slots. Whatever bytes there
    are, a slot is found or it is missing, and all are missing when the bytes are no object. What
    is found counts as the token when it is not empty. A missing slot gives null; a text gives
    itself when it is no value in writing, and the value when it is one without marks. Something
    else in a slot is given out as it is, and refused where a value is asked for. -/
theorem reading_copes (names : Names) (path key : String)
    (readable : disk.read place = .ok bytes) :
    let s := file disk place path
    let value := (s.getValue names key).result
    ∃ found token : Option Json,
      (s.get key).result = .ok found ∧ (s.token key).result = .ok token ∧
      found = shownIn (slotsOf path bytes).1 key ∧ found ≠ some .null ∧
      ((∀ fields, Dialect.document.readBytes? bytes ≠ some (.obj fields)) → found = none) ∧
      (∀ v, token = some v ↔ found = some v ∧ v.isPresent = true) ∧
      (found = none → value = .ok .null) ∧
      (∀ text, found = some (.str text) →
        (Dialect.slot.read? text = none → value = .ok (.str text)) ∧
        ∀ v, Dialect.slot.read? text = some v → IsBare v → value = .ok v) ∧
      ∀ v, found = some v → (∀ text, v ≠ .str text) → value = .error .unfit := by
  intro s value
  have get := get_of_read readable path key
  have token : (s.token key).result =
      .ok ((shownIn (slotsOf path bytes).1 key).bind Json.present?) :=
    congrArg (Except.map fun v : Option Json => v.bind Json.present?) get
  refine ⟨_, _, get, token, rfl, shownIn_ne_null _ _, fun other => ?_, fun v => ?_,
    fun missing => ?_, fun text found => ⟨fun none => ?_, fun v read bare => ?_⟩,
    fun v found other => ?_⟩
  · rw [slotsOf_other path other]
    rfl
  · rw [Option.bind_eq_some_iff]
    constructor
    · rintro ⟨w, found, present⟩
      rw [Json.present?] at present
      split at present
      case isTrue h =>
        cases present
        exact ⟨found, h⟩
      case isFalse => cases present
    · rintro ⟨found, present⟩
      exact ⟨v, found, if_pos present⟩
  · exact getValue_of_missing (get.trans (congrArg Except.ok missing))
  · exact (getValue_of_text (get.trans (congrArg Except.ok found))).trans (decoded_of_none none)
  · exact (getValue_of_text (get.trans (congrArg Except.ok found))).trans
      (decoded_of_bare read bare)
  · exact getValue_of_other (get.trans (congrArg Except.ok found)) other

/-- A document with a number in a slot. -/
def documentOfFive : ByteArray := bytesOf (documentText [("k", .int 5)])

/-- A disk with the document. -/
def diskOfFive : Disk := [(["s"], .file documentOfFive 0o600)]

theorem read_diskOfFive : diskOfFive.read ["s"] = .ok documentOfFive := rfl

theorem shownIn_documentOfFive (path : String) :
    shownIn (slotsOf path documentOfFive).1 "k" = some (.int 5) := by
  have held : Record.IsHeld [("k", .int 5)] := by
    refine ⟨by decide, fun e he => ?_⟩
    obtain rfl := List.mem_singleton.mp he
    exact fun height depth _ fits => word_int rfl fun _ => fits
  have slots : (slotsOf path documentOfFive).1 = [("k", .int 5)] :=
    slotsOf_held path held (document_of_fits (by decide))
  rw [slots]
  rfl

/-- The number is found and counts as the token, and where a value is asked for it is refused. -/
theorem reading_copes_five : diskOfFive.read ["s"] = .ok documentOfFive ∧
    ∃ found token : Option Json,
      ((file diskOfFive ["s"] "s").get "k").result = .ok found ∧
        ((file diskOfFive ["s"] "s").token "k").result = .ok token ∧
        found = some (.int 5) ∧ token = some (.int 5) ∧
        ((file diskOfFive ["s"] "s").getValue [] "k").result = .error .unfit := by
  refine ⟨read_diskOfFive, ?_⟩
  obtain ⟨found, token, get, getToken, held, -, -, present, -, -, other⟩ :=
    reading_copes [] "s" "k" read_diskOfFive
  rw [shownIn_documentOfFive] at held
  exact ⟨found, token, get, getToken, held, (present _).mpr ⟨held, rfl⟩,
    other _ held fun _ h => by cases h⟩

/-- Reading does not cope with all documents: a number in a slot is found and counts as the token,
    though it is no text, and asking for its value fails. -/
theorem reading_not_always_copes : ¬ ∀ (names : Names) (disk : Disk) (place : List String)
    (path key : String) (bytes : ByteArray), disk.read place = .ok bytes →
    let s := file disk place path
    (∃ text? : Option String, (s.get key).result = .ok (text?.map .str)) ∧
      (∃ text? : Option String, (s.token key).result = .ok (text?.map .str) ∧ text? ≠ some "") ∧
      ∃ v, (s.getValue names key).result = .ok v := by
  intro hall
  obtain ⟨-, -, v, value⟩ := hall [] diskOfFive ["s"] "s" "k" documentOfFive read_diskOfFive
  have get := get_of_read read_diskOfFive "s" "k"
  rw [shownIn_documentOfFive] at get
  rw [getValue_of_other get fun _ h => by cases h] at value
  cases value

/-! ### Reading what was written -/

theorem decoded_slotText (plain : v.IsPlain) (names : Names) :
    decoded names (slotText (unmarked v)) = .ok v := by
  rw [plain.isBare.unmarked]
  exact decoded_of_bare plain.read plain.isBare

theorem get_set_memory (slots : Record Json) (key : String) (value : Json) (other : String) :
    (((memory slots).set key value).store.get other).result =
      .ok (if other = key then some (.str value.display) else shownIn slots other) := by
  have held : ((memory slots).set key value).store =
      memory ((Change.set key value).edit slots) := rfl
  rw [held, get_result]
  exact congrArg Except.ok (Change.shownIn_edit (.set key value) slots other)

/-- Where one slot shows the text of a plain value, the value is read, and the others show what
    they showed. -/
theorem reads_of_get {slots : Record Json} (plain : v.IsPlain) (names : Names)
    (h : ∀ other, (s.get other).result =
      .ok (if other = key then some (.str (slotText (unmarked v))) else shownIn slots other)) :
    (s.getValue names key).result = .ok v ∧
      ∀ other, other ≠ key → (s.get other).result = .ok (shownIn slots other) := by
  constructor
  · have slot := h key
    rw [if_pos rfl] at slot
    exact (getValue_of_text slot).trans (decoded_slotText plain names)
  · intro other apart
    rw [h other, if_neg apart]

/-- A value that is written to a slot is the value that is read from it. In memory it is always
    written; a document takes it when it can be read and written and can hold the slots that are
    there. Then the slot gives the value, with its names in their order, also to a store that has
    been opened anew, and every other slot is what it was. A value that has no written form is
    refused, and no slot is touched. -/
theorem getValue_setValue (names : Names) (key : String) (plain : v.IsPlain) :
    (∀ slots,
      let after := (memory slots).setValue key v
      after.result = .ok () ∧ (after.store.getValue names key).result = .ok v ∧
        ∀ other, other ≠ key →
          (after.store.get other).result = ((memory slots).get other).result) ∧
    (∀ (disk : Disk) (dirs : List String) (name path : String),
      let place := dirs ++ [name]
      let before := file disk place path
      let after := before.setValue key v
      (HasContent disk place → disk.IsWritable place →
        (∀ slots, before.load.1 = .ok slots → fitsDocument documentDepth (.obj slots) = true) →
        after.result = .ok ()) ∧
      (after.result = .ok () → ∃ left, after.store = file left place path ∧
        ((file left place path).getValue names key).result = .ok v ∧
        ∀ other, other ≠ key →
          ((file left place path).get other).result = (before.get other).result)) ∧
    ∀ (s : Store) (reason : String), (s.setUnwritable reason).result = .error (.unwritable reason) ∧
      (s.setUnwritable reason).store = s := by
  refine ⟨fun slots => ⟨rfl, ?_⟩, fun disk dirs name path => ?_, fun s reason => ⟨rfl, rfl⟩⟩
  · exact reads_of_get plain names (get_set_memory slots key _)
  · intro place before after
    let change : Change := .set key (.str (slotText (unmarked v)))
    have made : after = change.make disk place path := rfl
    have encodable : change ≠ .setUnencodable := by simp [change]
    have notClear : change ≠ .clear := by simp [change]
    rw [made]
    refine ⟨fun content writable fits => (Change.make_ok_iff content writable fits).mpr encodable,
      fun succeeds => ?_⟩
    obtain ⟨slots, loads⟩ := Change.loads_of_ok succeeds fun h => absurd h notClear
    have store := (Change.make_eq change disk place path).2
    obtain ⟨value, others⟩ := reads_of_get plain names (Change.get_make succeeds loads)
    rw [store] at value others
    refine ⟨_, store, value, fun other apart => ?_⟩
    rw [others other apart, get_result, loads]
    rfl

/-- A value with lists and objects in it, and a text that looks like a list. -/
def nested : Json :=
  .obj [("b", .arr [.null, .bool true, .int (-5), .str "[1]"]), ("a", .obj [])]

theorem isPlain_nested : nested.IsPlain := by
  refine .object (by decide) (by decide) (List.forall_mem_cons.mpr ⟨.list ?_, ?_⟩)
  · simp only [List.forall_mem_cons]
    exact ⟨.null, .bool true, .int (by decide), .str _, fun _ h => absurd h List.not_mem_nil⟩
  · have none {p : String × Json → Prop} : ∀ e ∈ [], p e := fun _ h => absurd h List.not_mem_nil
    exact List.forall_mem_singleton.mpr (.object List.nodup_nil none none)

/-- The value is written to memory and to a new document, and read again. -/
theorem getValue_setValue_nested : nested.IsPlain ∧
    (((memory []).setValue "k" nested).store.getValue [] "k").result = .ok nested ∧
      ((file [] ["s"] "s").setValue "k" nested).result = .ok () ∧
      (((file [] ["s"] "s").setValue "k" nested).store.getValue [] "k").result = .ok nested := by
  obtain ⟨inMemory, onDisk, -⟩ := getValue_setValue [] "k" isPlain_nested
  obtain ⟨succeeds, gives⟩ := onDisk [] [] "s" "s"
  have ready : Disk.IsReady [] ["s"] := by
    refine ⟨by decide, ⟨["s.tmp"], by rfl, ?_⟩, ⟨["s"], by rfl, ?_⟩⟩
    · rintro ⟨mode, h⟩
      cases h
    · rintro ⟨mode, h⟩
      cases h
  have written := succeeds (.inl rfl) ready.isWritable (by rintro _ ⟨⟩; rfl)
  obtain ⟨left, store, value, -⟩ := gives written
  exact ⟨isPlain_nested, (inMemory []).2.1, written, by rw [← store] at value; exact value⟩

end Store

end Gatehouse

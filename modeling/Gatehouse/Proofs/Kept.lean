import Gatehouse.Proofs.Located
import Gatehouse.Proofs.Reread

/-! What a document keeps. The bytes that a store writes are never blank and are read as one object
    again, so what a document holds after a write is what is read where its slots were written.
    Slots that hold texts come back as they were, in their order; and a store only ever writes
    texts. So a document that can be written keeps the slots, from one write to the next. -/

namespace Gatehouse

namespace Record

/-- Slots as a store makes them: no name stands twice, and every slot holds a text. -/
structure IsSlots (slots : Record Json) : Prop where
  names : (keys slots).Nodup
  texts : ∀ e ∈ slots, ∃ t, e.2 = .str t

theorem isSlots_nil : IsSlots [] := ⟨List.nodup_nil, by simp⟩

theorem IsSlots.put {slots : Record Json} (h : slots.IsSlots) (key text : String) :
    (Record.put slots key (.str text)).IsSlots where
  names := nodup_put h.names key _
  texts := by
    intro e he
    rcases mem_put he with he | rfl
    · exact h.texts e he
    · exact ⟨text, rfl⟩

theorem IsSlots.erase {slots : Record Json} (h : slots.IsSlots) (key : String) :
    (Record.erase slots key).IsSlots where
  names := h.names.sublist ((List.filter_sublist).map Prod.fst)
  texts _ he := h.texts _ (List.mem_filter.mp he).1

end Record

namespace Json

/-! ### What fits into a document -/

/-- Items can be part of a document when each of them can be. -/
theorem itemsFit_iff {depth : Nat} {items : List Json} :
    itemsFit depth items = true ↔ ∀ v ∈ items, fitsDocument depth v = true := by
  induction items with
  | nil => simp [itemsFit]
  | cons v items ih => rw [itemsFit, Bool.and_eq_true, ih, List.forall_mem_cons]

theorem fieldsFit_iff {depth : Nat} {fields : List (String × Json)} :
    fieldsFit depth fields = true ↔ ∀ e ∈ fields, fitsDocument depth e.2 = true := by
  induction fields with
  | nil => simp [fieldsFit]
  | cons e fields ih => rw [fieldsFit, Bool.and_eq_true, ih, List.forall_mem_cons]

end Json

namespace Store

open Json

/-! ### Documents -/

/-- The text of a document with the slots. -/
def documentText (slots : Record Json) : String :=
  String.ofList (Style.document.write (.obj slots))

theorem documentText_head (slots : Record Json) :
    ∃ rest, Style.document.write (.obj slots) = '\x7b' :: rest := by
  cases slots with
  | nil => exact ⟨_, rfl⟩
  | cons e slots => exact ⟨_, rfl⟩

/-- A document is never blank. -/
theorem documentText_not_blank (slots : Record Json) :
    isBlankBytes (bytesOf (documentText slots)) = false := by
  obtain ⟨rest, head⟩ := documentText_head slots
  have bytes : bytesOf (documentText slots) = ['\x7b'].utf8Encode ++ rest.utf8Encode := by
    rw [bytesOf, documentText, head, String.toUTF8_eq_toByteArray, String.toByteArray_ofList,
      List.utf8Encode_cons]
  have first : ['\x7b'].utf8Encode.data.toList = [0x7b] := by
    rw [List.utf8Encode_singleton, List.toList_data_toByteArray]
    rfl
  rw [isBlankBytes, bytes, ByteArray.toList_data_append, first, List.all_append]
  rfl

/-- The bytes of a text are read as the text. -/
theorem fromUTF8_bytesOf (text : String) : String.fromUTF8? (bytesOf text) = some text := by
  rw [bytesOf, String.toUTF8_eq_toByteArray, String.fromUTF8?, dif_pos text.isValidUTF8]
  rfl

/-- What is read from a document is what is read where its slots were written. -/
theorem slotsOf_documentText (path : String) (slots : Record Json) :
    (slotsOf path (bytesOf (documentText slots))).1 =
      ((Dialect.document.rereadFields? Style.document 1 slots).map Record.ofList).getD [] := by
  have read : Dialect.document.readBytes? (bytesOf (documentText slots)) =
      (Dialect.document.rereadFields? Style.document 1 slots).map
        fun entries => .obj (Record.ofList entries) := by
    rw [Dialect.readBytes?, fromUTF8_bytesOf, Option.bind_eq_bind, Option.bind_some, documentText,
      read_written _ Style.document_isReadable, Dialect.reread?, if_neg (by decide)]
  rw [slotsOf, if_neg (by rw [documentText_not_blank]; decide), read]
  cases Dialect.document.rereadFields? Style.document 1 slots <;> rfl

/-- Slots that hold texts come back from a document as they were. -/
theorem slotsOf_texts (path : String) {slots : Record Json} (h : slots.IsSlots) :
    (slotsOf path (bytesOf (documentText slots))).1 = slots := by
  rw [slotsOf_documentText, rereadFields_texts h.texts, Option.map_some, Option.getD_some,
    Record.ofList_eq_self slots h.names]

/-- Slots can be written when their values can be part of a document. -/
theorem document_of_fits {slots : Record Json}
    (h : ∀ e ∈ slots, fitsDocument (documentDepth - 1) e.2 = true) :
    Json.document? (.obj slots) = some (documentText slots) := by
  rw [document?, fitsDocument, fieldsFit_iff.mpr h]
  rfl

theorem document_texts {slots : Record Json} (h : slots.IsSlots) :
    Json.document? (.obj slots) = some (documentText slots) := by
  refine document_of_fits fun e he => ?_
  obtain ⟨t, text⟩ := h.texts e he
  rw [text]
  rfl

/-! ### Writing and reading -/

variable {disk : Disk} {place : List String} {slots : Record Json}

/-- A document that can be written and keeps the slots; one that is not there keeps none. -/
structure Keeps (disk : Disk) (place : List String) (slots : Record Json) : Prop where
  isSlots : slots.IsSlots
  writable : disk.IsWritable place
  read : disk.read place = .ok (bytesOf (documentText slots)) ∨
    disk.read place = .error .missing ∧ slots = []

theorem Keeps.load (h : Keeps disk place slots) (path : String) :
    ∃ rows, (file disk place path).load = (.ok slots, rows) := by
  rw [Store.load]
  rcases h.read with read | ⟨read, none⟩
  · rw [read]
    exact ⟨_, Prod.ext (congrArg Except.ok (slotsOf_texts path h.isSlots)) rfl⟩
  · rw [read, none]
    exact ⟨[], rfl⟩

/-- A document that can be written is written anew, and can be written again. -/
theorem renew_writable (h : disk.IsWritable place) (bytes : ByteArray) :
    ∃ left, renew disk place (some bytes) = (.ok (), left) ∧ left.IsReady place ∧
      left.read place = .ok bytes := by
  obtain ⟨made, directories, ready⟩ := h
  obtain ⟨left, performed, ready, read⟩ := ready.perform bytes
  refine ⟨left, ?_, ready, read⟩
  rw [renew, Disk.makeDirectories_ok_iff.mp directories]
  simp only [performed]
  rfl

/-- What is saved to a document that can be written is kept. -/
theorem Keeps.save (h : Keeps disk place slots) (path : String) {new : Record Json}
    (hnew : new.IsSlots) :
    ∃ disk', (file disk place path).save new = (.ok (), file disk' place path) ∧
      Keeps disk' place new := by
  obtain ⟨disk', renewed, ready, read⟩ := renew_writable h.writable (bytesOf (documentText new))
  refine ⟨disk', ?_, hnew, ready.isWritable, .inl read⟩
  rw [Store.save, document_texts hnew, Option.map_some, renewed]

end Store

end Gatehouse

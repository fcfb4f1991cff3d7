import Gatehouse.Proofs.Kept
import Gatehouse.Proofs.Numbers

/-! Whatever a document holds comes back when it is written again. A document may come from
    elsewhere and hold values of any kind, not texts alone; what is read from it is made of words,
    texts, lists and objects in which no name stands twice, and each of these is read back where it
    was written. So a slot that is not written to keeps its value, to the last digit. -/

namespace Gatehouse

namespace Json

/-- A value comes back from a document as it was, wherever it can stand in one. -/
def Returns (v : Json) : Prop :=
  ∀ height depth, height + depth ≤ 1024 → fitsDocument depth v = true →
    Dialect.document.reread? Style.document height v = some v

/-- A number of a document is finite. -/
theorem word_float {cs : List Char} {x : Float}
    (h : Dialect.document.word? cs = some (.float x)) : (Decimal.Binary.ofFloat? x).isSome := by
  have number (n : Decimal.Numeral) : (Dialect.document.toFloat n).isNaN = false :=
    n.isNaN_estimated
  unfold Dialect.word? at h
  iterate 3
    split at h
    · cases h
  -- no words for what is not finite are read
  iterate 3 rw [if_neg (by simp [Dialect.document])] at h
  obtain ⟨n, -, h⟩ := Option.bind_eq_some_iff.mp h
  split at h
  · split at h
    · unfold Dialect.whole? at h
      split at h
      · cases h
      split at h
      · split at h
        · cases h
        case isFalse finite =>
          cases h
          exact Decimal.ofFloat?_isSome (number n) (Bool.not_eq_true _ ▸ finite)
      · cases h
    · unfold Dialect.fractional? at h
      split at h
      · cases h
      case isFalse finite =>
        cases h
        refine Decimal.ofFloat?_isSome (number n) ?_
        simpa [Dialect.document] using finite
  · cases h

theorem rereadItems_returns {items : List Json} (h : ∀ v ∈ items, v.Returns) {height depth : Nat}
    (room : height + depth ≤ 1024) (fits : itemsFit depth items = true) :
    Dialect.document.rereadItems? Style.document height items = some items :=
  rereadItems_self fun v hv => h v hv height depth room (itemsFit_iff.mp fits v hv)

theorem rereadFields_returns {fields : List (String × Json)} (h : ∀ e ∈ fields, e.2.Returns)
    {height depth : Nat} (room : height + depth ≤ 1024) (fits : fieldsFit depth fields = true) :
    Dialect.document.rereadFields? Style.document height fields = some fields :=
  rereadFields_self fun e he => h e he height depth room (fieldsFit_iff.mp fits e he)

/-- Where a container fits, the reader is not too deep in others. -/
theorem depth_inside {height depth : Nat} (room : height + depth ≤ 1024) (some : 0 < depth) :
    ¬ Dialect.document.depth.any (· ≤ height) = true := by
  simp only [Dialect.document, Option.any_some, decide_eq_true_eq]
  omega

/-- Whatever is read from a document comes back. -/
theorem document_passes : Dialect.document.Passes Returns where
  word := by
    intro cs v h height depth room fits
    cases v with
    | null => rfl
    | bool b => cases b <;> rfl
    | int n => exact word_int rfl fun _ => fits
    | float x =>
      obtain ⟨b, hb⟩ := Option.isSome_iff_exists.mp (word_float h)
      exact word_render (by decide) hb
    | str t => rfl
    | arr items => cases word_isContainer h
    | obj fields => cases word_isContainer h
  text := fun t height depth room fits => rfl
  list := by
    intro items h height depth room fits
    rw [fitsDocument, Bool.and_eq_true, decide_eq_true_eq] at fits
    rw [Dialect.reread?, if_neg (depth_inside room fits.1),
      rereadItems_returns h (by omega) fits.2]
    rfl
  object := by
    intro fields names h height depth room fits
    rw [fitsDocument, Bool.and_eq_true, decide_eq_true_eq] at fits
    rw [Dialect.reread?, if_neg (depth_inside room fits.1),
      rereadFields_returns h (by omega) fits.2, Option.map_some, Record.ofList_eq_self fields names]

end Json

/-! ### Slots -/

namespace Record

/-- Slots as a document can hold them: no name stands twice, and every value comes back. -/
structure IsHeld (slots : Record Json) : Prop where
  names : (keys slots).Nodup
  values : ∀ e ∈ slots, e.2.Returns

theorem isHeld_nil : IsHeld [] := ⟨List.nodup_nil, by simp⟩

theorem IsHeld.put {slots : Record Json} (h : slots.IsHeld) (key text : String) :
    (Record.put slots key (.str text)).IsHeld where
  names := nodup_put h.names key _
  values e he := by
    rcases mem_put he with he | rfl
    · exact h.values e he
    · exact Json.document_passes.text text

theorem IsHeld.erase {slots : Record Json} (h : slots.IsHeld) (key : String) :
    (Record.erase slots key).IsHeld where
  names := h.names.sublist (List.filter_sublist.map Prod.fst)
  values _ he := h.values _ (List.mem_filter.mp he).1

end Record

namespace Store

open Json

/-- What is read from a document can be held, whatever the bytes are. -/
theorem slotsOf_isHeld (path : String) (bytes : ByteArray) : (slotsOf path bytes).1.IsHeld := by
  have isHeld {text : String} {v : Json} (h : Dialect.document.read? text = some v) :
      ∀ fields, v = .obj fields → Record.IsHeld fields := by
    refine Dialect.Passes.read (P := fun v => v.Returns ∧ ∀ fields, v = .obj fields →
      Record.IsHeld fields) ⟨fun h => ?_, fun t => ?_, fun h => ?_, fun names h => ?_⟩ h |>.2
    · refine ⟨document_passes.word h, ?_⟩
      rintro fields rfl
      cases word_isContainer h
    · exact ⟨document_passes.text t, fun _ h => by cases h⟩
    · exact ⟨document_passes.list fun v hv => (h v hv).1, fun _ h => by cases h⟩
    · refine ⟨document_passes.object names fun e he => (h e he).1, ?_⟩
      rintro _ ⟨⟩
      exact ⟨names, fun e he => (h e he).1⟩
  unfold slotsOf
  split
  · exact Record.isHeld_nil
  split
  case h_1 fields read =>
    obtain ⟨text, -, read⟩ := Option.bind_eq_some_iff.mp read
    exact isHeld read fields rfl
  · exact Record.isHeld_nil
  · exact Record.isHeld_nil

/-- Slots that can be held and have a document are read from it as they are. -/
theorem slotsOf_held (path : String) {slots : Record Json} {text : String} (h : slots.IsHeld)
    (document : Json.document? (.obj slots) = some text) :
    (slotsOf path (bytesOf text)).1 = slots := by
  unfold Json.document? at document
  split at document
  case isFalse => cases document
  case isTrue fits =>
    cases document
    rw [fitsDocument, Bool.and_eq_true] at fits
    have room : 1 + (documentDepth - 1) ≤ 1024 := by decide
    exact (slotsOf_documentText path slots).trans (by
      rw [rereadFields_returns h.values room fits.2, Option.map_some, Option.getD_some,
        Record.ofList_eq_self slots h.names])

end Store

end Gatehouse

import Gatehouse.Proofs.Desk
import Gatehouse.Proofs.Kept

/-! What an access makes of the token in a slot. A store is steady once it has shown a token: it is
    a memory, or the path of its document leads somewhere. A steady store stays one, and whatever
    becomes of an access to it, a token that it shows afterwards is the one that it showed before or
    the one that was written: a write to a disk may fail half way, and what else a document holds
    may not be read again, but no other token can come out of it. -/

namespace Gatehouse.Store

variable {s : Store} {disk : Disk} {place : List String} {path slot : String}

/-- The token that a store shows in a slot. One that cannot be read shows none. -/
def shown (s : Store) (slot : String) : Option Json := (s.token slot).result.toOption.join

/-- What a store shows is a matter of the slots that are loaded from it. -/
theorem shown_eq (s : Store) (slot : String) :
    s.shown slot = (s.load.1.toOption.bind (Record.get? · slot)).bind Json.present? := by
  rw [shown, token, get]
  rcases s.load with ⟨_ | slots, rows⟩
  · rfl
  · simp only [Except.map, Except.toOption, Option.bind_some, Option.join_some]
    rcases Record.get? slots slot with _ | v
    · rfl
    · cases v <;> rfl

/-- A memory, or a document whose path leads somewhere. -/
def IsSteady : Store → Prop
  | memory _ => True
  | file disk place _ => ∃ there, disk.locate place = .ok there

theorem isSteady_of_shown {token : Json} (h : s.shown slot = some token) : s.IsSteady := by
  cases s with
  | memory slots => trivial
  | file disk place path =>
    rw [shown_eq, load] at h
    cases hl : disk.locate place with
    | ok there => exact ⟨there, hl⟩
    | error fault =>
      rw [Disk.read_of_unlocated hl] at h
      cases fault <;> cases h

/-- Whatever becomes of a write to a document whose path leads somewhere, the document holds what it
    held before or what was written; or nothing, where it is its own temporary file. -/
theorem save_file (path : String) {there : List String} (found : disk.locate place = .ok there)
    (slots : Record Json) :
    ∃ disk', ((file disk place path).save slots).2 = file disk' place path ∧
      disk'.locate place = .ok there ∧ (disk'.read place = disk.read place ∨
        ∃ bytes, disk'.read place = .ok bytes ∧
          (bytes = .empty ∨ bytes = bytesOf (documentText slots))) := by
  have directories :
      disk.layDirectories Disk.ownerOnly.1 place.dropLast.reverse = (disk, none) := by
    rcases List.eq_nil_or_concat place with rfl | ⟨dirs, name, rfl⟩
    · rfl
    · rw [List.concat_eq_append] at found ⊢
      rw [List.dropLast_concat]
      exact Disk.layDirectories_of_located _ found
  obtain ⟨keeps, left⟩ :=
    Disk.perform_writing ((Json.document? (.obj slots)).map bytesOf) found
  have found' := Disk.locate_keeps keeps found
  refine ⟨_, ?_, found', ?_⟩
  · rw [save, renew, directories]
    simp only
    rcases disk.perform (writing place ((Json.document? (.obj slots)).map bytesOf)) with
      ⟨_, _ | fault⟩ <;> rfl
  · rcases left with same | ⟨bytes, mode, written, file⟩
    · left
      rw [Disk.read_of_located found', Disk.read_of_located found, same]
    · right
      refine ⟨bytes, by rw [Disk.read_of_located found', file], written.imp_right fun h => ?_⟩
      unfold Json.document? at h
      split at h
      · exact (Option.some.inj h).symm
      · cases h

theorem load_file_nodup {slots : Record Json} {rows : List LogRow}
    (h : (file disk place path).load = (.ok slots, rows)) : (Record.keys slots).Nodup := by
  have nothing : (Record.keys ([] : Record Json)).Nodup := List.nodup_nil
  rw [load] at h
  split at h
  case h_1 bytes _ =>
    obtain rfl : (slotsOf path bytes).1 = slots := Except.ok.inj (congrArg Prod.fst h)
    unfold slotsOf
    split
    · exact nothing
    split
    case h_1 fields read =>
      obtain ⟨text, -, read⟩ := Option.bind_eq_some_iff.mp read
      exact Json.read_isDistinct read
    · exact nothing
    · exact nothing
  case h_2 =>
    cases h
    exact nothing
  case h_3 => cases h

/-- The store that an access leaves is steady, and the token that it shows is the one that was shown
    before, or none, or a new one. -/
structure Turns (slot : String) (s t : Store) (new : Option Json) : Prop where
  steady : t.IsSteady
  shown : t.shown slot = s.shown slot ∨ t.shown slot = none ∨ t.shown slot = new

theorem Turns.refl (h : s.IsSteady) (slot : String) (new : Option Json) : Turns slot s s new :=
  ⟨h, .inl rfl⟩

/-- A write of slots that hold a text, or nothing, in the slot of the token. -/
theorem turns_save (h : s.IsSteady) {slots : Record Json} (text? : Option String)
    (names : ∀ disk place path, s = file disk place path → (Record.keys slots).Nodup)
    (held : Record.get? slots slot = text?.map .str) :
    Turns slot s (s.save slots).2 (text?.map .str) := by
  have shows (text? : Option String) : (text?.map Json.str).bind Json.present? = none ∨
      (text?.map Json.str).bind Json.present? = text?.map .str := by
    cases text? with
    | none => exact .inl rfl
    | some t =>
      rw [Option.map_some, Option.bind_some, Json.present?]
      split
      · exact .inr rfl
      · exact .inl rfl
  cases s with
  | memory old =>
    refine ⟨trivial, .inr ?_⟩
    rw [save, shown_eq, load, Except.toOption, Option.bind_some, held]
    exact shows text?
  | file disk place path =>
    obtain ⟨there, found⟩ := h
    obtain ⟨disk', saved, found', left⟩ := save_file path found slots
    rw [saved]
    refine ⟨⟨there, found'⟩, ?_⟩
    rcases left with same | ⟨bytes, read, empty | written⟩
    · left
      rw [shown_eq, shown_eq, load, load, same]
    · right
      left
      rw [shown_eq, load, read, empty]
      rfl
    · right
      rw [shown_eq, load, read, written]
      simp only [slotsOf_documentText, Except.toOption, Option.bind_some]
      cases hr : Json.Dialect.document.rereadFields? Json.Style.document 1 slots with
      | none => exact .inl rfl
      | some entries =>
        have distinct : (Record.keys entries).Nodup := by
          rw [Json.rereadFields_keys hr]
          exact names disk place path rfl
        rw [Option.map_some, Option.getD_some, Record.ofList_eq_self entries distinct,
          Json.rereadFields_get hr held]
        exact shows text?

/-- The removal of a token leaves the token that was there, or none. -/
theorem turns_removeToken (h : s.IsSteady) (slot : String) :
    Turns slot s (s.removeToken slot).store none := by
  rw [removeToken, remove]
  cases hl : s.load with
  | mk loaded rows =>
    cases loaded with
    | error fault => exact .refl h slot none
    | ok slots =>
      simp only
      split
      case isFalse => exact .refl h slot none
      case isTrue =>
        refine turns_save h none ?_ (Record.get?_erase_self slots slot)
        rintro disk place path rfl
        exact (load_file_nodup hl).sublist (List.filter_sublist.map Prod.fst)

/-- The write of a token leaves the token that was there, or none, or the text of the new one. -/
theorem turns_setToken (h : s.IsSteady) (room : Nat) (slot : String) (token : Json) :
    Turns slot s (s.setToken room slot token).store (some (.str token.display)) := by
  rw [setToken]
  split
  case isFalse => exact .refl h slot _
  case isTrue =>
    rw [write]
    cases hl : s.load with
    | mk loaded rows =>
      cases loaded with
      | error fault => exact .refl h slot _
      | ok slots =>
        cases hshown : token.shown room with
        | error o => exact .refl h slot _
        | ok text =>
          obtain rfl := Json.display_of_shown hshown
          refine turns_save h (some token.display) ?_ (Record.get?_put_self ..)
          rintro disk place path rfl
          exact Record.nodup_put (load_file_nodup hl) _ _

theorem turns_clear (h : s.IsSteady) (slot : String) : Turns slot s s.clear.store none := by
  cases s with
  | memory slots => exact ⟨trivial, .inr (.inl rfl)⟩
  | file disk place path =>
    rw [clear]
    split
    · exact .refl h slot none
    · exact .refl h slot none
    · exact turns_save h none (fun _ _ _ _ => List.nodup_nil) rfl

end Gatehouse.Store

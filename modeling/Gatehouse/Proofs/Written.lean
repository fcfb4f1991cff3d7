import Gatehouse.Proofs.Located

/-! What becomes of a disk when a document is written anew, whatever was on it before. Directories
    are made first, and no file is touched by that. Then each action says what it must have found:
    the temporary file was drafted beside the document, and either it was refused to be moved, or it
    stands where the document stood. So a file other than these two is never touched, and until the
    move the document is not either. -/

namespace Gatehouse.Disk

variable {d e f : Disk} {p q here there path : List String} {n : Node} {m : Nat}

/-- The file at a place: its bytes and its permissions. -/
def file? (d : Disk) (p : List String) : Option (ByteArray × Nat) :=
  match d.at? p with
  | some (.file bytes mode) => some (bytes, mode)
  | _ => none

theorem file_eq_some_iff {bytes : ByteArray} :
    d.file? p = some (bytes, m) ↔ d.at? p = some (.file bytes m) := by
  unfold file?
  split
  case h_1 h => simp [h]
  case h_2 none =>
    constructor
    · intro h
      cases h
    · intro h
      exact (none _ _ h).elim

theorem file_congr (h : e.at? p = d.at? p) : e.file? p = d.file? p := by
  rw [file?, file?, h]

/-! ### Making directories -/

/-- Directories are made, and no file is touched. -/
structure Gains (d e : Disk) : Prop where
  directories : d.KeepsDirectories e
  files : ∀ p, e.file? p = d.file? p

theorem Gains.refl (d : Disk) : d.Gains d := ⟨fun _ h => h, fun _ => rfl⟩

theorem Gains.trans (h : d.Gains e) (h' : e.Gains f) : d.Gains f where
  directories := h.directories.trans h'.directories
  files p := (h'.files p).trans (h.files p)

/-- A directory is made where nothing stands. -/
theorem gains_makeDirectory {mode : Nat} (h : d.makeDirectory path mode = .ok e) : d.Gains e := by
  obtain ⟨p, -, h⟩ := bind_eq_ok_iff.mp h
  split at h
  · cases h
  case isFalse free =>
    cases h
    rw [Option.not_isSome_iff_eq_none] at free
    constructor
    · refine (beside_put ?_).directories
      rintro ⟨mode, there⟩
      rw [free] at there
      cases there
    · intro q
      by_cases hq : q = p
      · rw [file?, file?, at_put, if_pos hq, hq, free]
      · exact file_congr (by rw [at_put, if_neg hq])

/-- However far the directories on a way are made, no file is touched. -/
theorem gains_layDirectories (d : Disk) (mode : Nat) (above : List String) :
    d.Gains (d.layDirectories mode above).1 := by
  induction above generalizing d mode with
  | nil => exact .refl d
  | cons name above ih =>
    rw [layDirectories]
    cases made : d.makeDirectory (name :: above).reverse mode with
    | ok e => exact gains_makeDirectory made
    | error fault =>
      have parents := ih d directoryMode
      cases fault with
      | missing =>
        simp only
        rcases laid : d.layDirectories directoryMode above with ⟨e, _ | fault⟩
        · rw [laid] at parents
          simp only
          split
          · exact parents
          · cases last : e.makeDirectory (name :: above).reverse mode with
            | ok f => exact parents.trans (gains_makeDirectory last)
            | error fault => exact parents
        · rw [laid] at parents
          exact parents
      | _ => exact .refl d

/-! ### What an action has found -/

variable {mode : Nat} {bytes : ByteArray}

/-- A file that was emptied, or made, is where no directory stands. -/
theorem act_openEmpty_ok (h : d.act (.openEmpty path mode) = .ok e) :
    ∃ p m, d.locate path = .ok p ∧ ¬ d.IsDirectoryAt p ∧ e = d.put p (.file .empty m) := by
  obtain ⟨p, found, h⟩ := bind_eq_ok_iff.mp h
  split at h
  · cases h
  case h_2 bytes m stands =>
    exact ⟨p, m, found, not_isDirectoryAt stands, (Except.ok.inj h).symm⟩
  case h_3 free =>
    refine ⟨p, mode, found, ?_, (Except.ok.inj h).symm⟩
    rintro ⟨m, directory⟩
    rw [free] at directory
    cases directory

theorem act_setMode_ok (h : d.act (.setMode path mode) = .ok e) :
    ∃ p, d.locate path = .ok p ∧
      ((d.IsDirectoryAt p ∧ e = d.put p (.directory mode)) ∨
        ∃ bytes m, d.at? p = some (.file bytes m) ∧ e = d.put p (.file bytes mode)) := by
  obtain ⟨p, found, h⟩ := bind_eq_ok_iff.mp h
  refine ⟨p, found, ?_⟩
  split at h
  case h_1 m stands => exact .inl ⟨⟨m, stands⟩, (Except.ok.inj h).symm⟩
  case h_2 bytes m stands => exact .inr ⟨bytes, m, stands, (Except.ok.inj h).symm⟩
  case h_3 => cases h

theorem act_write_ok (h : d.act (.write path bytes) = .ok e) :
    ∃ p old m, d.locate path = .ok p ∧ d.at? p = some (.file old m) ∧
      e = d.put p (.file bytes m) := by
  obtain ⟨p, found, h⟩ := bind_eq_ok_iff.mp h
  split at h
  · cases h
  case h_2 old m stands => exact ⟨p, old, m, found, stands, (Except.ok.inj h).symm⟩
  · cases h

theorem act_move_ok {source target : List String} (h : d.act (.move source target) = .ok e) :
    ∃ here there n, d.locate source = .ok here ∧ d.locate target = .ok there ∧
      d.at? here = some n ∧ ¬ d.IsDirectoryAt there ∧ e = (d.erase here).put there n := by
  obtain ⟨here, source, h⟩ := bind_eq_ok_iff.mp h
  obtain ⟨there, target, h⟩ := bind_eq_ok_iff.mp h
  split at h
  · cases h
  · cases h
  case h_3 n at_ notDirectory =>
    cases h
    refine ⟨here, there, n, source, target, at_, ?_, rfl⟩
    rintro ⟨m, directory⟩
    exact notDirectory _ directory

/-! ### Drafting and moving -/

/-- The temporary file of a document has been drafted: its path leads somewhere, and there stands a
    file with the bytes that there are, which only its owner may read; nothing else has changed. -/
structure Drafts (d : Disk) (place : List String) (bytes? : Option ByteArray) (here : List String)
    (e : Disk) : Prop where
  found : d.locate (Store.temporary place) = .ok here
  free : ¬ d.IsDirectoryAt here
  beside : Beside here d e
  file : e.at? here = some (.file (bytes?.getD .empty) ownerOnly.2)

end Gatehouse.Disk

namespace Gatehouse.Store

open Disk

variable {disk : Disk} {place dirs here there : List String} {name : String}
  {bytes? : Option ByteArray}

/-- What can become of writing a document anew, by its result and the disk that it leaves. -/
inductive Renewed (disk : Disk) (place : List String) (bytes? : Option ByteArray) :
    Except Fault Unit → Disk → Prop where
  /-- A directory was refused, or the temporary file. -/
  | refused {made : Disk} (fault : Fault) (directories : disk.Gains made) :
    Renewed disk place bytes? (.error fault) made
  /-- There was no document for the temporary file, or it was refused to be moved. -/
  | drafted {made drafted : Disk} {here : List String} (fault : Fault)
    (directories : disk.Gains made) (draft : made.Drafts place bytes? here drafted) :
    Renewed disk place bytes? (.error fault) drafted
  /-- The temporary file stands where the document stood. -/
  | moved {made drafted : Disk} {here there : List String} {bytes : ByteArray}
    (directories : disk.Gains made) (draft : made.Drafts place bytes? here drafted)
    (written : bytes? = some bytes) (found : drafted.locate place = .ok there)
    (free : ¬ drafted.IsDirectoryAt there) :
    Renewed disk place bytes? (.ok ())
      ((drafted.erase here).put there (.file bytes ownerOnly.2))

/-- Nothing else can become of it. -/
theorem renewed (disk : Disk) (place : List String) (bytes? : Option ByteArray) :
    Renewed disk place bytes? (renew disk place bytes?).1 (renew disk place bytes?).2 := by
  have directories := gains_layDirectories disk ownerOnly.1 place.dropLast.reverse
  rw [renew]
  rcases laid : disk.layDirectories ownerOnly.1 place.dropLast.reverse with ⟨made, _ | fault⟩
  case some =>
    rw [laid] at directories
    exact .refused _ directories
  rw [laid] at directories
  simp only
  cases opened : made.act (.openEmpty (temporary place) ownerOnly.2) with
  | error fault =>
    have first : writing place bytes? =
      .openEmpty (temporary place) ownerOnly.2 :: (writing place bytes?).tail := rfl
    have performed : made.perform (writing place bytes?) = (made, some fault) := by
      rw [first, perform, opened]
    rw [performed]
    exact .refused _ directories
  | ok opened' =>
    obtain ⟨here, m, found, free, -⟩ := act_openEmpty_ok opened
    obtain ⟨drafted, beside, file, performed⟩ := perform_draft found free bytes?
    have draft : made.Drafts place bytes? here drafted := ⟨found, free, beside, file⟩
    rw [performed]
    cases bytes? with
    | none => exact .drafted _ directories draft
    | some bytes =>
      simp only [Option.isSome_some, if_true, perform]
      cases moved : drafted.act (.move (temporary place) place) with
      | error fault => exact .drafted _ directories draft
      | ok left =>
        obtain ⟨here', there, n, source, target, stands, notDirectory, rfl⟩ := act_move_ok moved
        have same := source.symm.trans (locate_keeps beside.directories found)
        cases same
        rw [file] at stands
        cases stands
        exact .moved directories draft rfl target notDirectory

/-! ### The document and its temporary file -/

/-- The temporary file is named after the document. -/
theorem temporary_concat (dirs : List String) (name : String) :
    temporary (dirs ++ [name]) = dirs ++ [name ++ ".tmp"] := by
  simp [temporary]

/-- The temporary file is below the directory of the document, and not the document. -/
theorem temporary_apart (document : disk.locate (dirs ++ [name]) = .ok there)
    (draft : disk.locate (temporary (dirs ++ [name])) = .ok here) : there ≠ here ∧ here ≠ [] := by
  rw [temporary_concat] at draft
  obtain ⟨p, hp, document⟩ := locate_append document
  obtain ⟨q, hq, draft⟩ := locate_append draft
  obtain rfl : p = q := Except.ok.inj (hp.symm.trans hq)
  have last {n : String} {r : List String} (h : [n].foldlM disk.stepInto p = .ok r) :
      r = if n = ".." then p.dropLast else p ++ [n] := by
    rw [List.foldlM_cons, bind_eq_ok_iff] at h
    obtain ⟨s, step, h⟩ := h
    cases h
    exact (stepInto_ok_iff.mp step).2.2
  have longer : (name ++ ".tmp").length = name.length + 4 := by
    rw [String.length_append]
    rfl
  have notUp : name ++ ".tmp" ≠ ".." := by
    intro same
    rw [same] at longer
    have two : "..".length = 2 := rfl
    omega
  have other : name ≠ name ++ ".tmp" := by
    intro same
    rw [← same] at longer
    omega
  rw [last document, last draft, if_neg notUp]
  refine ⟨?_, by simp⟩
  split
  · intro same
    have := congrArg List.length same
    simp at this
  · intro same
    exact other (List.cons.inj (List.append_cancel_left same)).1

end Gatehouse.Store

/-! ### What is left -/

namespace Gatehouse.Disk

variable {d e : Disk} {path : List String}

/-- The file of a disk at the place that a path leads to on another one. -/
def fileWhere (d e : Disk) (path : List String) : Option (ByteArray × Nat) :=
  (e.locate path).toOption.bind d.file?

/-- A path that led somewhere on the one disk leads there on the other, and where it leads on the
    other there stands the same file as on the one, or none as on the one. -/
structure Spares (d e : Disk) (path : List String) : Prop where
  leads : ∀ {p}, d.locate path = .ok p → e.locate path = .ok p
  kept : e.fileWhere e path = d.fileWhere e path

theorem Spares.read (h : d.Spares e path) {bytes : ByteArray} (hb : d.read path = .ok bytes) :
    e.read path = .ok bytes := by
  cases found : d.locate path with
  | error fault =>
    rw [read_of_unlocated found] at hb
    cases hb
  | ok p =>
    have kept := h.kept
    rw [fileWhere, fileWhere, h.leads found] at kept
    rw [read_of_located found] at hb
    rw [read_of_located (h.leads found)]
    split at hb
    case h_1 mode stands =>
      cases hb
      have file := kept.trans (file_eq_some_iff.mpr stands)
      rw [file_eq_some_iff.mp file]
    case h_2 => cases hb
    case h_3 => cases hb

end Gatehouse.Disk

namespace Gatehouse.Store

open Disk

variable {disk left : Disk} {dirs : List String} {name : String} {bytes? : Option ByteArray}

/-- A document that was not written anew is what it was. -/
theorem Renewed.spares {fault : Fault}
    (h : Renewed disk (dirs ++ [name]) bytes? (.error fault) left) :
    disk.Spares left (dirs ++ [name]) := by
  have spares {e : Disk} (keeps : disk.KeepsDirectories e)
      (files : ∀ p, e.locate (dirs ++ [name]) = .ok p → e.file? p = disk.file? p) :
      disk.Spares e (dirs ++ [name]) := by
    refine ⟨fun found => locate_keeps keeps found, ?_⟩
    rw [fileWhere, fileWhere]
    cases found : e.locate (dirs ++ [name]) with
    | error fault => rfl
    | ok p => exact files p found
  cases h with
  | refused fault directories => exact spares directories.directories fun p _ => directories.files p
  | @drafted made _ here fault directories draft =>
    refine spares (directories.directories.trans draft.beside.directories) fun p found => ?_
    have tmp := locate_keeps draft.beside.directories draft.found
    have apart := temporary_apart found tmp
    exact (file_congr (draft.beside.elsewhere p apart.1)).trans (directories.files p)

/-- A document that was written anew holds the new bytes, only its owner may read it, and the
    temporary file is gone. -/
theorem Renewed.written (h : Renewed disk (dirs ++ [name]) bytes? (.ok ()) left) :
    ∃ bytes there here, bytes? = some bytes ∧ left.locate (dirs ++ [name]) = .ok there ∧
      left.at? there = some (.file bytes ownerOnly.2) ∧
      left.locate (temporary (dirs ++ [name])) = .ok here ∧ left.at? here = none := by
  cases h with
  | @moved made drafted here there bytes directories draft written found free =>
    have tmp := locate_keeps draft.beside.directories draft.found
    obtain ⟨apart, below⟩ := temporary_apart found tmp
    have keeps := moved_keeps (not_isDirectoryAt draft.file) free (n := .file bytes ownerOnly.2)
    refine ⟨bytes, there, here, written, locate_keeps keeps found, ?_, locate_keeps keeps tmp, ?_⟩
    · rw [at_put, if_pos rfl]
    · rw [at_put, if_neg apart.symm, at_erase_self _ below]

end Gatehouse.Store

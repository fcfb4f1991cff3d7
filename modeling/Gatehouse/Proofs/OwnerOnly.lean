import Gatehouse.Proofs.Framed

/-! Who can read what a store writes. A disk is traced along with the places whose files hold bytes
    that were written to it: emptying a file takes the bytes away, and moving one takes them along.
    No single action opens such a file to others, as long as bytes are written to a file that only
    its owner may read; and the temporary file is made one before they are. So it holds at every
    stage of every change, whatever was on the disk at first, and wherever a change stops. -/

namespace Gatehouse

open Store

namespace Disk

/-! ### What actions leave behind -/

variable {d e : Disk} {path : List String} {mode : Nat} {bytes : ByteArray}

theorem stages_getLastD (d : Disk) (actions : List Action) :
    (d.stages actions).getLastD d = (d.perform actions).1 := by
  induction actions generalizing d with
  | nil => rfl
  | cons a rest ih =>
    rw [stages, perform]
    cases d.act a with
    | error fault => rfl
    | ok d =>
      simp only [List.getLastD_cons]
      exact ih d

/-- After something has been given permissions, a file that its path leads to has them. -/
theorem mode_of_setMode (h : d.act (.setMode path mode) = .ok e) {p : List String} {m : Nat}
    (found : e.locate path = .ok p) (file : e.at? p = some (.file bytes m)) : m = mode := by
  obtain ⟨q, source, ⟨⟨m', directory⟩, rfl⟩ | ⟨bytes', m', stands, rfl⟩⟩ := act_setMode_ok h
  · have keeps : d.KeepsDirectories (d.put q (.directory mode)) := by
      rintro r ⟨k, hr⟩
      by_cases same : r = q
      · exact ⟨mode, by rw [at_put, if_pos same]⟩
      · exact ⟨k, by rw [at_put, if_neg same, hr]⟩
    obtain rfl : q = p := Except.ok.inj ((locate_keeps keeps source).symm.trans found)
    rw [at_put, if_pos rfl] at file
    cases file
  · have keeps := (beside_put (n := .file bytes' mode) (not_isDirectoryAt stands)).directories
    obtain rfl : q = p := Except.ok.inj ((locate_keeps keeps source).symm.trans found)
    rw [at_put, if_pos rfl] at file
    cases file
    rfl

theorem not_file_erased (d : Disk) (p : List String) :
    (d.erase p).at? p ≠ some (.file bytes mode) := by
  rw [at?, lookup_erase, if_pos rfl, Option.none_or]
  split <;> simp

end Disk

/-- A disk, and the places whose files hold bytes that were written to it. -/
structure Traced where
  disk : Disk
  written : List (List String)

namespace Traced

variable {t t' : Traced} {a : Disk.Action} {place dirs path p q : List String} {name : String}
  {bytes? : Option ByteArray}

/-! ### Tracing -/

/-- The places that hold written bytes after an action. -/
def marked (t : Traced) : Disk.Action → List (List String)
  | .openEmpty path _ =>
    match t.disk.locate path with
    | .ok p => t.written.filter (· ≠ p)
    | .error _ => t.written
  | .setMode _ _ => t.written
  | .write path _ =>
    match t.disk.locate path with
    | .ok p => p :: t.written
    | .error _ => t.written
  | .move source target =>
    match t.disk.locate source, t.disk.locate target with
    | .ok here, .ok there =>
      let others := t.written.filter fun p => p ≠ here && p ≠ there
      if here ∈ t.written then there :: others else others
    | _, _ => t.written

/-- The traced disk after an action. -/
def act (t : Traced) (a : Disk.Action) : Except DiskFault Traced :=
  (t.disk.act a).map fun disk => ⟨disk, t.marked a⟩

/-- The traced disks that the actions leave behind one after another. -/
def stages (t : Traced) : List Disk.Action → List Traced
  | [] => []
  | a :: rest =>
    match t.act a with
    | .ok t => t :: stages t rest
    | .error _ => []

/-- The traced disks that a change leaves behind: with the directories on the way, and then after
    each action, as far as it comes. -/
def change (t : Traced) (place : List String) (path : String) (c : Change) : List Traced :=
  match c.plan t.disk place path with
  | .ok (some bytes?) =>
    match t.disk.layDirectories Disk.ownerOnly.1 place.dropLast.reverse with
    | (made, some _) => [⟨made, t.written⟩]
    | (made, none) => ⟨made, t.written⟩ :: stages ⟨made, t.written⟩ (writing place bytes?)
  | _ => []

/-- The traced disk after a change. -/
def after (t : Traced) (place : List String) (path : String) (c : Change) : Traced :=
  (t.change place path c).getLastD t

/-- All traced disks that changes leave behind one after another. -/
def run (t : Traced) (place : List String) (path : String) : List Change → List Traced
  | [] => []
  | c :: rest => t.change place path c ++ (t.after place path c).run place path rest

/-- An action leaves a traced disk where it leaves a disk. -/
theorem act_ok_iff : t.act a = .ok t' ↔ t.disk.act a = .ok t'.disk ∧ t'.written = t.marked a := by
  rw [act]
  cases t.disk.act a with
  | error fault => simp [Except.map]
  | ok disk =>
    simp only [Except.map, Except.ok.injEq]
    constructor
    · rintro rfl
      exact ⟨rfl, rfl⟩
    · rintro ⟨rfl, h⟩
      rw [← h]

/-- The traced disks are the disks that the actions leave behind. -/
theorem stages_map_disk (t : Traced) (actions : List Disk.Action) :
    (t.stages actions).map disk = t.disk.stages actions := by
  induction actions generalizing t with
  | nil => rfl
  | cons a rest ih =>
    rw [stages, Disk.stages, act]
    cases t.disk.act a with
    | error fault => rfl
    | ok disk =>
      simp only [Except.map, List.map_cons]
      rw [ih]

theorem stages_disk (t : Traced) (actions : List Disk.Action) :
    ((t.stages actions).getLastD t).disk = (t.disk.perform actions).1 := by
  rw [← Disk.stages_getLastD, ← stages_map_disk, List.getLastD_eq_getLast?,
    List.getLastD_eq_getLast?, List.getLast?_map, Option.getD_map]

theorem after_disk (t : Traced) (place : List String) (path : String) (c : Change) :
    (c.make t.disk place path).store = file (t.after place path c).disk place path := by
  rw [(Change.make_eq c t.disk place path).2, Change.outcome, after, change]
  split
  case h_1 fault plan => simp [plan]
  case h_2 plan => simp [plan]
  case h_3 bytes? plan =>
    rw [plan]
    simp only
    rw [renew]
    rcases t.disk.layDirectories Disk.ownerOnly.1 place.dropLast.reverse with ⟨made, _ | fault⟩
    · simp only [List.getLastD_cons, stages_disk]
      rcases made.perform (writing place bytes?) with ⟨disk, _ | fault⟩ <;> rfl
    · rfl

/-! ### Files that only their owner may read -/

/-- Only its owner may read a file that holds written bytes. -/
def IsPrivate (t : Traced) : Prop :=
  ∀ p ∈ t.written, ∃ bytes, t.disk.at? p = some (.file bytes Disk.ownerOnly.2)

/-- Every file holds written bytes, or none at all, or those of a file that was there at first. -/
def Accounts (first : Disk) (t : Traced) : Prop :=
  ∀ p bytes mode, t.disk.at? p = some (.file bytes mode) →
    p ∈ t.written ∨ bytes = .empty ∨ ∃ q m, first.at? q = some (.file bytes m)

/-- An action does not open a file to others, and writes only where nobody else may read. -/
def IsCareful (t : Traced) : Disk.Action → Prop
  | .setMode _ mode => mode = Disk.ownerOnly.2
  | .write path _ => ∀ p bytes mode, t.disk.locate path = .ok p →
    t.disk.at? p = some (.file bytes mode) → mode = Disk.ownerOnly.2
  | _ => True

/-- A careful action keeps written bytes from others. -/
theorem IsPrivate.act (h : t.IsPrivate) (careful : t.IsCareful a) (ha : t.act a = .ok t') :
    t'.IsPrivate := by
  obtain ⟨acts, written⟩ := act_ok_iff.mp ha
  intro q hq
  rw [written] at hq
  cases a with
  | openEmpty path mode =>
    obtain ⟨p, m, found, -, put⟩ := Disk.act_openEmpty_ok acts
    rw [marked, found] at hq
    obtain ⟨hq, other⟩ := List.mem_filter.mp hq
    rw [put, Disk.at_put, if_neg (by simpa using other)]
    exact h q hq
  | setMode path mode =>
    obtain rfl : mode = Disk.ownerOnly.2 := careful
    obtain ⟨bytes, file⟩ := h q hq
    obtain ⟨p, -, ⟨⟨m, directory⟩, put⟩ | ⟨bytes', m, -, put⟩⟩ := Disk.act_setMode_ok acts
    · have other : q ≠ p := by
        rintro rfl
        rw [file] at directory
        cases directory
      exact ⟨bytes, by rw [put, Disk.at_put, if_neg other, file]⟩
    · rw [put, Disk.at_put]
      split
      · exact ⟨bytes', rfl⟩
      · exact ⟨bytes, file⟩
  | write path bytes =>
    obtain ⟨p, old, m, found, stands, put⟩ := Disk.act_write_ok acts
    obtain rfl : m = Disk.ownerOnly.2 := careful p old m found stands
    rw [marked, found] at hq
    rw [put, Disk.at_put]
    split
    · exact ⟨bytes, rfl⟩
    case isFalse other => exact h q ((List.mem_cons.mp hq).resolve_left other)
  | move source target =>
    obtain ⟨here, there, n, source, target, stands, -, moved⟩ := Disk.act_move_ok acts
    rw [marked, source, target] at hq
    have untouched (hq : q ∈ t.written.filter fun p => p ≠ here && p ≠ there) :
        ∃ bytes, t'.disk.at? q = some (.file bytes Disk.ownerOnly.2) := by
      obtain ⟨hq, others⟩ := List.mem_filter.mp hq
      simp only [ne_eq, decide_not, Bool.and_eq_true, Bool.not_eq_true', decide_eq_false_iff_not]
        at others
      rw [moved, Disk.at_put, if_neg others.2, Disk.at_erase_of_ne _ others.1]
      exact h q hq
    simp only at hq
    split at hq
    case isTrue carried =>
      rcases List.mem_cons.mp hq with rfl | hq
      · obtain ⟨bytes, file⟩ := h here carried
        obtain rfl := Option.some.inj (stands.symm.trans file)
        exact ⟨bytes, by rw [moved, Disk.at_put, if_pos rfl]⟩
      · exact untouched hq
    case isFalse => exact untouched hq

/-- Whatever an action does, written bytes are marked wherever they come to. -/
theorem Accounts.act {first : Disk} (h : t.Accounts first) (ha : t.act a = .ok t') :
    t'.Accounts first := by
  obtain ⟨acts, written⟩ := act_ok_iff.mp ha
  intro q bytes mode file
  rw [written]
  cases a with
  | openEmpty path mode =>
    obtain ⟨p, m, found, -, put⟩ := Disk.act_openEmpty_ok acts
    rw [put, Disk.at_put] at file
    rw [marked, found]
    split at file
    · cases file
      exact .inr (.inl rfl)
    case isFalse other =>
      exact (h q bytes _ file).imp_left fun hq => List.mem_filter.mpr ⟨hq, by simpa using other⟩
  | setMode path mode =>
    rw [marked]
    obtain ⟨p, -, ⟨-, put⟩ | ⟨bytes', m, stands, put⟩⟩ := Disk.act_setMode_ok acts
    · rw [put, Disk.at_put] at file
      split at file
      · cases file
      · exact h q bytes _ file
    · rw [put, Disk.at_put] at file
      split at file
      case isTrue same =>
        cases file
        exact h q bytes m (same ▸ stands)
      · exact h q bytes _ file
  | write path new =>
    obtain ⟨p, old, m, found, stands, put⟩ := Disk.act_write_ok acts
    rw [put, Disk.at_put] at file
    rw [marked, found]
    split at file
    case isTrue same => exact .inl (same ▸ List.mem_cons_self)
    · exact (h q bytes _ file).imp_left (List.mem_cons_of_mem p)
  | move source target =>
    obtain ⟨here, there, n, source, target, stands, -, moved⟩ := Disk.act_move_ok acts
    rw [moved, Disk.at_put] at file
    rw [marked, source, target]
    simp only
    split at file
    case isTrue same =>
      obtain rfl := Option.some.inj file
      refine (h here bytes mode stands).imp_left fun carried => ?_
      rw [if_pos carried, same]
      exact List.mem_cons_self
    case isFalse other =>
      have hence : q ≠ here := by
        rintro rfl
        exact Disk.not_file_erased t.disk q file
      rw [Disk.at_erase_of_ne _ hence] at file
      refine (h q bytes mode file).imp_left fun hq => ?_
      have kept : q ∈ t.written.filter fun p => p ≠ here && p ≠ there :=
        List.mem_filter.mpr ⟨hq, by simp [hence, other]⟩
      split
      · exact List.mem_cons_of_mem _ kept
      · exact kept

/-- All actions are careful, each where the ones before it lead. -/
def AreCareful (t : Traced) : List Disk.Action → Prop
  | [] => True
  | a :: rest => t.IsCareful a ∧ ∀ t', t.act a = .ok t' → t'.AreCareful rest

/-- A document is written with care. -/
theorem areCareful_writing (t : Traced) (place : List String) (bytes? : Option ByteArray) :
    t.AreCareful (writing place bytes?) := by
  refine ⟨trivial, fun t₁ opened => ⟨rfl, fun t₂ closed => ?_⟩⟩
  cases bytes? with
  | none => trivial
  | some bytes =>
    refine ⟨fun p old mode found file => ?_, fun t₃ written => ⟨trivial, fun _ _ => trivial⟩⟩
    exact Disk.mode_of_setMode (act_ok_iff.mp closed).1 found file

/-! ### Every stage -/

/-- Written bytes are kept from others, and it is known where they are. -/
structure IsGuarded (first : Disk) (t : Traced) : Prop where
  isPrivate : t.IsPrivate
  accounts : t.Accounts first

variable {first : Disk}

theorem isGuarded_nil (disk : Disk) : IsGuarded disk ⟨disk, []⟩ where
  isPrivate _ h := absurd h List.not_mem_nil
  accounts p _ mode file := .inr (.inr ⟨p, mode, file⟩)

theorem IsGuarded.gains (h : t.IsGuarded first) {made : Disk} (directories : t.disk.Gains made) :
    IsGuarded first ⟨made, t.written⟩ := by
  have same (p : List String) (bytes : ByteArray) (mode : Nat) :
      made.at? p = some (.file bytes mode) ↔ t.disk.at? p = some (.file bytes mode) := by
    rw [← Disk.file_eq_some_iff, ← Disk.file_eq_some_iff, directories.files]
  refine ⟨fun p hp => ?_, fun p bytes mode file => h.accounts p bytes mode ((same ..).mp file)⟩
  obtain ⟨bytes, file⟩ := h.isPrivate p hp
  exact ⟨bytes, (same ..).mpr file⟩

/-- Careful actions keep written bytes from others at every stage. -/
theorem IsGuarded.stages {actions : List Disk.Action} (h : t.IsGuarded first)
    (careful : t.AreCareful actions) : ∀ t' ∈ t.stages actions, t'.IsGuarded first := by
  induction actions generalizing t with
  | nil => exact fun _ h => absurd h List.not_mem_nil
  | cons a rest ih =>
    rw [Traced.stages]
    split
    case h_1 next ha =>
      have hn : next.IsGuarded first := ⟨h.isPrivate.act careful.1 ha, h.accounts.act ha⟩
      exact List.forall_mem_cons.mpr ⟨hn, ih hn (careful.2 next ha)⟩
    case h_2 => exact fun _ h => absurd h List.not_mem_nil

-- Where the written bytes are at the stages of a write: first nowhere, while the temporary file is
-- opened and closed to others, then in it, and then in the document.
example : ((⟨[], []⟩ : Traced).stages (writing ["s"] (some (bytesOf "a")))).map written =
    [[], [], [["s.tmp"]], [["s"]]] := by rfl

theorem IsGuarded.change (h : t.IsGuarded first) (place : List String) (path : String)
    (c : Change) : ∀ t' ∈ t.change place path c, t'.IsGuarded first := by
  have made := h.gains (Disk.gains_layDirectories t.disk Disk.ownerOnly.1 place.dropLast.reverse)
  unfold Traced.change
  split
  case h_1 bytes? _ =>
    split
    case h_1 laid =>
      rw [laid] at made
      exact List.forall_mem_singleton.mpr made
    case h_2 laid =>
      rw [laid] at made
      exact List.forall_mem_cons.mpr ⟨made, made.stages (areCareful_writing ..)⟩
  case h_2 => exact fun _ h => absurd h List.not_mem_nil

theorem IsGuarded.after (h : t.IsGuarded first) (place : List String) (path : String)
    (c : Change) : (t.after place path c).IsGuarded first := by
  rw [Traced.after, List.getLastD_eq_getLast?]
  cases last : (t.change place path c).getLast? with
  | none => exact h
  | some t' => exact h.change place path c t' (List.mem_of_getLast? last)

/-- Changes keep written bytes from others at every stage. -/
theorem IsGuarded.run (h : t.IsGuarded first) (place : List String) (path : String)
    (changes : List Change) : ∀ t' ∈ t.run place path changes, t'.IsGuarded first := by
  induction changes generalizing t with
  | nil => exact fun _ h => absurd h List.not_mem_nil
  | cons c rest ih =>
    rw [Traced.run]
    exact List.forall_mem_append.mpr ⟨h.change place path c, ih (h.after place path c)⟩

end Traced

namespace Store

/-- A change that has written a document left it to its owner only, and no temporary file. -/
theorem Change.written_make {c : Change} {disk : Disk} {dirs : List String} {name path : String}
    {bytes? : Option ByteArray} (plan : c.plan disk (dirs ++ [name]) path = .ok (some bytes?))
    (succeeds : (c.make disk (dirs ++ [name]) path).result = .ok ()) :
    let left := (c.outcome disk (dirs ++ [name]) path).2
    ∃ there here bytes, left.locate (dirs ++ [name]) = .ok there ∧
      left.at? there = some (.file bytes Disk.ownerOnly.2) ∧
      left.locate (temporary (dirs ++ [name])) = .ok here ∧ left.at? here = none := by
  rw [(Change.make_eq c disk _ path).1, Change.outcome, plan] at succeeds
  intro left
  have renewed := renewed disk (dirs ++ [name]) bytes?
  rw [show (renew disk (dirs ++ [name]) bytes?).1 = .ok () from succeeds] at renewed
  obtain ⟨bytes, there, here, -, document, file, draft, gone⟩ := renewed.written
  have leaves : left = (renew disk (dirs ++ [name]) bytes?).2 := by
    show (c.outcome disk (dirs ++ [name]) path).2 = _
    rw [Change.outcome, plan]
  rw [leaves]
  exact ⟨there, here, bytes, document, file, draft, gone⟩

/-- What a store writes is never in a file that others can read. Whatever is on the disk at first,
    and whatever changes are made: at every stage of every one of them, in which directories are
    made or a file is opened, closed to others, written or moved, only its owner may read a file
    that holds bytes which were written since; and all other files are empty or hold what a file
    held at first. These stages are those of the changes that are made, and a change that has
    written the document leaves it to its owner only, and no temporary file. -/
theorem written_owner_only (disk : Disk) (dirs : List String) (name path : String)
    (changes : List Change) :
    let place := dirs ++ [name]
    (∀ t ∈ Traced.run ⟨disk, []⟩ place path changes,
      (∀ p ∈ t.written, ∃ bytes, t.disk.at? p = some (.file bytes 0o600)) ∧
        ∀ p bytes mode, t.disk.at? p = some (.file bytes mode) →
          p ∈ t.written ∨ bytes = .empty ∨ ∃ q m, disk.at? q = some (.file bytes m)) ∧
    ∀ (before rest : List Change) (c : Change), changes = before ++ c :: rest →
      let t := before.foldl (fun t c => t.after place path c) (⟨disk, []⟩ : Traced)
      let made := c.make t.disk place path
      let left := (t.after place path c).disk
      made.store = file left place path ∧
        ∀ bytes?, c.plan t.disk place path = .ok (some bytes?) → made.result = .ok () →
          ∃ there here bytes, left.locate place = .ok there ∧
            left.at? there = some (.file bytes 0o600) ∧
            left.locate (temporary place) = .ok here ∧ left.at? here = none := by
  intro place
  constructor
  · intro t ht
    have guarded := (Traced.isGuarded_nil disk).run place path changes t ht
    exact ⟨guarded.isPrivate, guarded.accounts⟩
  · intro before rest c _ t made left
    have store : made.store = file left place path := Traced.after_disk t place path c
    refine ⟨store, fun bytes? plan succeeds => ?_⟩
    have same : (c.outcome t.disk place path).2 = left := by
      have outcome := (Change.make_eq c t.disk place path).2.symm.trans store
      exact (Store.file.inj outcome).1
    rw [← same]
    exact Change.written_make plan succeeds

end Store

end Gatehouse

import Gatehouse.Store

/-! Where a path leads while files come and go. A path leads to its place because of the directories
    that it passes through, so a file that is put where no directory stands changes no path. That is
    all that writing a document does: the temporary file is drafted where its path leads, and moved
    to where the path of the document leads. So the path of a document that led somewhere leads
    there for good, and what stands there is what was there before or the file that was drafted. -/

namespace Gatehouse.Disk

variable {d e f : Disk} {p q : List String} {n : Node}

/-! ### Nodes -/

theorem lookup_entry (p q : List String) (n : Node) (d : Disk) :
    List.lookup q ((p, n) :: d) = if q = p then some n else d.lookup q := by
  by_cases h : q = p
  · simp [h]
  · simp [List.lookup_cons, beq_false_of_ne h, h]

/-- Replacing what stands at a place leaves the other places alone. -/
theorem lookup_replace_of_ne (d : Disk) (n : Node) (h : q ≠ p) :
    (d.map fun e => if e.1 = p then (p, n) else e).lookup q = d.lookup q := by
  induction d with
  | nil => rfl
  | cons e d ih =>
    obtain ⟨r, m⟩ := e
    by_cases hr : r = p
    · simp only [List.map_cons, hr, if_true, lookup_entry, if_neg h, ih]
    · simp only [List.map_cons, hr, if_false, lookup_entry, ih]

theorem lookup_replace (d : Disk) (n : Node) (h : (d.lookup p).isSome) :
    (d.map fun e => if e.1 = p then (p, n) else e).lookup p = some n := by
  induction d with
  | nil => cases h
  | cons e d ih =>
    obtain ⟨r, m⟩ := e
    by_cases hr : r = p
    · simp only [List.map_cons, hr, if_true, lookup_entry]
    · rw [lookup_entry, if_neg (Ne.symm hr)] at h
      simp only [List.map_cons, hr, if_false, lookup_entry, if_neg (Ne.symm hr), ih h]

theorem at_put (d : Disk) (p q : List String) (n : Node) :
    (d.put p n).at? q = if q = p then some n else d.at? q := by
  have listed : (d.put p n).lookup q = if q = p then some n else d.lookup q := by
    unfold put
    split
    case isTrue h =>
      by_cases hq : q = p
      · rw [hq, lookup_replace d n h, if_pos rfl]
      · rw [lookup_replace_of_ne d n hq, if_neg hq]
    case isFalse h =>
      rw [List.lookup_append, lookup_entry]
      by_cases hq : q = p
      · rw [Option.not_isSome_iff_eq_none] at h
        simp [hq, h]
      · simp [hq]
  rw [at?, listed]
  by_cases hq : q = p
  · simp [hq]
  · simp [hq, at?]

/-- What is listed after a place has been cleared. -/
theorem lookup_erase (d : Disk) (p q : List String) :
    (d.erase p).lookup q = if q = p then none else d.lookup q := by
  unfold erase
  induction d with
  | nil => simp
  | cons e d ih =>
    obtain ⟨r, m⟩ := e
    by_cases hr : r = p
    · rw [List.filter_cons_of_neg (by simp [hr]), ih, lookup_entry, hr]
      by_cases hq : q = p <;> simp [hq]
    · rw [List.filter_cons_of_pos (by simp [hr]), lookup_entry, lookup_entry, ih]
      by_cases hq : q = p
      · simp [hq, Ne.symm hr]
      · simp [hq]

theorem at_erase_of_ne (d : Disk) (h : q ≠ p) : (d.erase p).at? q = d.at? q := by
  rw [at?, at?, lookup_erase, if_neg h]

theorem at_erase_self (d : Disk) (h : p ≠ []) : (d.erase p).at? p = none := by
  rw [at?, lookup_erase, if_pos rfl]
  simp [h]

/-! ### Paths -/

theorem bind_eq_ok_iff {α β : Type} {x : Except DiskFault α} {next : α → Except DiskFault β}
    {b : β} : (x >>= next) = .ok b ↔ ∃ a, x = .ok a ∧ next a = .ok b := by
  cases x with
  | error fault => simp [Bind.bind, Except.bind]
  | ok a => simp [Bind.bind, Except.bind]

/-- A directory stands at the place. -/
def IsDirectoryAt (d : Disk) (p : List String) : Prop := ∃ mode, d.at? p = some (.directory mode)

/-- Every directory of the one disk is a directory of the other. -/
def KeepsDirectories (d e : Disk) : Prop := ∀ p, d.IsDirectoryAt p → e.IsDirectoryAt p

theorem KeepsDirectories.trans (h : d.KeepsDirectories e) (h' : e.KeepsDirectories f) :
    d.KeepsDirectories f :=
  fun p hp => h' p (h p hp)

/-- A step goes where it goes because there is a directory to go from. -/
theorem stepInto_ok_iff {name : String} :
    d.stepInto p name = .ok q ↔ d.IsDirectoryAt p ∧ ¬ longest.1 < name.utf8ByteSize ∧
      q = if name = ".." then p.dropLast else p ++ [name] := by
  unfold stepInto IsDirectoryAt
  split
  case h_1 h => simp [h]
  case h_2 h => simp [h]
  case h_3 mode h =>
    simp only [h, Option.some.injEq, Node.directory.injEq, exists_eq', true_and]
    split
    case isTrue hl => simp [hl]
    case isFalse hl =>
      simp only [Except.ok.injEq, hl, not_false_eq_true, true_and]
      exact eq_comm

/-- A way through directories is a way on every disk that keeps them. -/
theorem foldlM_stepInto_keeps (h : d.KeepsDirectories e) (path : List String)
    (found : path.foldlM d.stepInto p = .ok q) : path.foldlM e.stepInto p = .ok q := by
  induction path generalizing p with
  | nil => exact found
  | cons name path ih =>
    rw [List.foldlM_cons, bind_eq_ok_iff] at found ⊢
    obtain ⟨r, hstep, hrest⟩ := found
    refine ⟨r, ?_, ih hrest⟩
    rw [stepInto_ok_iff] at hstep ⊢
    exact ⟨h p hstep.1, hstep.2⟩

/-- A path that can be one leads where its names lead from the top. -/
theorem locate_ok_iff {path : List String} :
    d.locate path = .ok p ↔ checkPath path = .ok () ∧ path.foldlM d.stepInto [] = .ok p := by
  rw [locate, bind_eq_ok_iff]
  constructor
  · rintro ⟨_, hcheck, hsteps⟩
    exact ⟨hcheck, hsteps⟩
  · rintro ⟨hcheck, hsteps⟩
    exact ⟨_, hcheck, hsteps⟩

/-- A path leads to the same place on every disk that keeps the directories. -/
theorem locate_keeps (h : d.KeepsDirectories e) {path : List String}
    (found : d.locate path = .ok q) : e.locate path = .ok q := by
  rw [locate_ok_iff] at found ⊢
  exact ⟨found.1, foldlM_stepInto_keeps h path found.2⟩

theorem node_of_located {path : List String} (found : d.locate path = .ok p) :
    d.node path = match d.at? p with
      | some n => .ok n
      | none => .error .missing := by
  rw [node, found]
  rfl

theorem read_of_located {path : List String} (found : d.locate path = .ok p) :
    d.read path = match d.at? p with
      | some (.file bytes _) => .ok bytes
      | some (.directory _) => .error .isDirectory
      | none => .error .missing := by
  rw [read, node_of_located found]
  cases d.at? p with
  | none => rfl
  | some n => cases n <;> rfl

theorem read_of_unlocated {path : List String} {fault : DiskFault}
    (h : d.locate path = .error fault) : d.read path = .error fault := by
  rw [read, node, h]
  rfl

theorem has_of_read {path : List String} {bytes : ByteArray} (h : d.read path = .ok bytes) :
    d.has path = .ok true := by
  obtain ⟨n, hn, -⟩ := bind_eq_ok_iff.1 h
  rw [has, hn]

theorem has_of_missing {path : List String} (h : d.read path = .error .missing) :
    d.has path = .ok false := by
  rw [read] at h
  rw [has]
  cases hn : d.node path with
  | error fault =>
    rw [hn] at h
    cases h
    rfl
  | ok n =>
    rw [hn] at h
    cases n <;> cases h

theorem pathBytes_append (path rest : List String) :
    pathBytes (path ++ rest) = pathBytes path + pathBytes rest := by
  induction path with
  | nil => rw [List.nil_append, pathBytes, Nat.zero_add]
  | cons name path ih =>
    rw [List.cons_append, pathBytes, pathBytes, ih]
    omega

/-- A path that can be one stays one without its last name. -/
theorem checkPath_of_append {path rest : List String} (h : checkPath (path ++ rest) = .ok ()) :
    checkPath path = .ok () := by
  unfold checkPath at h ⊢
  rw [List.any_append, pathBytes_append] at h
  split at h
  · cases h
  case isFalse hz =>
    rw [Bool.or_eq_true, not_or] at hz
    rw [if_neg hz.1]
    split at h
    · cases h
    case isFalse hl => rw [if_neg (by omega)]

/-- What a path ends in is found from where the rest of it leads. -/
theorem locate_append {path rest : List String} (found : d.locate (path ++ rest) = .ok q) :
    ∃ p, d.locate path = .ok p ∧ rest.foldlM d.stepInto p = .ok q := by
  obtain ⟨hcheck, hsteps⟩ := locate_ok_iff.1 found
  rw [List.foldlM_append, bind_eq_ok_iff] at hsteps
  obtain ⟨p, hp, hrest⟩ := hsteps
  exact ⟨p, locate_ok_iff.2 ⟨checkPath_of_append hcheck, hp⟩, hrest⟩

/-- Directories that are all there are not made again. -/
theorem layDirectories_of_located (mode : Nat) {path : List String} {name : String}
    (found : d.locate (path ++ [name]) = .ok q) :
    d.layDirectories mode path.reverse = (d, none) := by
  obtain ⟨p, hp, step⟩ := locate_append found
  rw [List.foldlM_cons, bind_eq_ok_iff] at step
  obtain ⟨r, hs, -⟩ := step
  obtain ⟨⟨m, hm⟩, -⟩ := stepInto_ok_iff.mp hs
  cases hr : path.reverse with
  | nil => rfl
  | cons last above =>
    have back : (last :: above).reverse = path := by rw [← hr, List.reverse_reverse]
    have there : d.makeDirectory path mode = .error .alreadyThere := by
      rw [makeDirectory, hp]
      simp [Bind.bind, Except.bind, hm]
    have directory : d.hasDirectory path = true := by
      rw [hasDirectory, node_of_located hp, hm]
    rw [layDirectories]
    simp only [back, there, directory, if_true]

/-- Directories are made when none of them is refused. -/
theorem makeDirectories_ok_iff {mode : Nat} {path : List String} :
    d.makeDirectories mode path = .ok e ↔ d.layDirectories mode path = (e, none) := by
  rw [makeDirectories]
  rcases d.layDirectories mode path with ⟨f, _ | fault⟩
  · simp
  · simp

/-! ### Writing a document -/

variable {path place here there : List String} {bytes old : ByteArray} {m : Nat}

/-- Two disks differ at one place at the most, and the one keeps the directories of the other. -/
structure Beside (p : List String) (d e : Disk) : Prop where
  directories : d.KeepsDirectories e
  elsewhere : ∀ q ≠ p, e.at? q = d.at? q

theorem Beside.trans (h : Beside p d e) (h' : Beside p e f) : Beside p d f where
  directories := h.directories.trans h'.directories
  elsewhere q hq := (h'.elsewhere q hq).trans (h.elsewhere q hq)

/-- What is put where no directory stands changes nothing else. -/
theorem beside_put (h : ¬ d.IsDirectoryAt p) : Beside p d (d.put p n) where
  directories := by
    rintro q ⟨mode, hq⟩
    have hne : q ≠ p := by
      rintro rfl
      exact h ⟨mode, hq⟩
    exact ⟨mode, by rw [at_put, if_neg hne, hq]⟩
  elsewhere q hq := by rw [at_put, if_neg hq]

theorem not_isDirectoryAt (h : d.at? p = some (.file bytes m)) : ¬ d.IsDirectoryAt p := by
  rintro ⟨mode, hd⟩
  rw [h] at hd
  cases hd

/-- A file is emptied, or made, where no directory stands. -/
theorem act_openEmpty (mode : Nat) (found : d.locate path = .ok p) (h : ¬ d.IsDirectoryAt p) :
    ∃ m, d.act (.openEmpty path mode) = .ok (d.put p (.file .empty m)) := by
  rw [act, found]
  simp only [Bind.bind, Except.bind]
  split
  case h_1 m hm => exact absurd ⟨m, hm⟩ h
  case h_2 _ m _ => exact ⟨m, rfl⟩
  case h_3 => exact ⟨mode, rfl⟩

theorem act_openEmpty_directory (mode : Nat) (found : d.locate path = .ok p)
    (h : d.IsDirectoryAt p) :
    d.act (.openEmpty path mode) = .error .isDirectory := by
  obtain ⟨m, hm⟩ := h
  rw [act, found]
  simp only [Bind.bind, Except.bind, hm]

theorem act_setMode (mode : Nat) (found : d.locate path = .ok p)
    (h : d.at? p = some (.file bytes m)) :
    d.act (.setMode path mode) = .ok (d.put p (.file bytes mode)) := by
  rw [act, found]
  simp only [Bind.bind, Except.bind, h]

theorem act_write (bytes : ByteArray) (found : d.locate path = .ok p)
    (h : d.at? p = some (.file old m)) :
    d.act (.write path bytes) = .ok (d.put p (.file bytes m)) := by
  rw [act, found]
  simp only [Bind.bind, Except.bind, h]

theorem act_move (found : d.locate path = .ok p) (found' : d.locate place = .ok q)
    (h : d.at? p = some n) (h' : ¬ d.IsDirectoryAt q) :
    d.act (.move path place) = .ok ((d.erase p).put q n) := by
  rw [act, found, found']
  simp only [Bind.bind, Except.bind, h]
  split
  case h_1 heq => cases heq
  case h_2 m _ hm => exact absurd ⟨m, hm⟩ h'
  case h_3 heq _ =>
    cases heq
    rfl

theorem moved_keeps (h : ¬ d.IsDirectoryAt p) (h' : ¬ d.IsDirectoryAt q) :
    d.KeepsDirectories ((d.erase p).put q n) := by
  rintro r ⟨mode, hr⟩
  have hp : r ≠ p := by
    rintro rfl
    exact h ⟨mode, hr⟩
  have hq : r ≠ q := by
    rintro rfl
    exact h' ⟨mode, hr⟩
  exact ⟨mode, by rw [at_put, if_neg hq, at_erase_of_ne d hp, hr]⟩

/-- No directory is replaced by a file. -/
theorem act_move_directory (found : d.locate path = .ok p) (found' : d.locate place = .ok q)
    (h : d.at? p = some n) (h' : d.IsDirectoryAt q) :
    ∃ fault, d.act (.move path place) = .error fault := by
  obtain ⟨m, hm⟩ := h'
  rw [act, found, found']
  simp only [Bind.bind, Except.bind, h, hm]
  exact ⟨_, rfl⟩

/-- The temporary file is drafted where its path leads: it holds all the bytes that there are, only
    its owner may read it, and nothing else has changed. -/
theorem perform_draft (found : d.locate (Store.temporary place) = .ok here)
    (h : ¬ d.IsDirectoryAt here) (bytes? : Option ByteArray) :
    ∃ e, Beside here d e ∧ e.at? here = some (.file (bytes?.getD .empty) ownerOnly.2) ∧
      d.perform (Store.writing place bytes?) =
        if bytes?.isSome then e.perform [.move (Store.temporary place) place] else (e, none) := by
  obtain ⟨m, opened⟩ := act_openEmpty ownerOnly.2 found h
  have beside := beside_put h (n := .file .empty m)
  have file : (d.put here (.file .empty m)).at? here = some (.file .empty m) := by
    rw [at_put, if_pos rfl]
  have closed := act_setMode ownerOnly.2 (locate_keeps beside.directories found) file
  have beside' := beside.trans
    (beside_put (not_isDirectoryAt file) (n := .file .empty ownerOnly.2))
  have file' : ((d.put here (.file .empty m)).put here (.file .empty ownerOnly.2)).at? here =
      some (.file .empty ownerOnly.2) := by
    rw [at_put, if_pos rfl]
  cases bytes? with
  | none =>
    refine ⟨_, beside', file', ?_⟩
    rw [Store.writing]
    simp only [List.append_nil, perform, opened, closed]
    rfl
  | some bytes =>
    have written := act_write bytes (locate_keeps beside'.directories found) file'
    refine ⟨_, beside'.trans (beside_put (not_isDirectoryAt file')), by rw [at_put, if_pos rfl],
      ?_⟩
    rw [Store.writing]
    simp only [List.cons_append, List.nil_append, perform, opened, closed, written,
      Option.isSome_some, Option.getD_some, if_true]

/-- Whatever becomes of a write, the path of the document leads where it led, and what stands there
    is what was there before, or a file with the new bytes; or an empty one, where the document is
    its own temporary file. -/
theorem perform_writing (bytes? : Option ByteArray) (found : d.locate place = .ok there) :
    d.KeepsDirectories (d.perform (Store.writing place bytes?)).1 ∧
      ((d.perform (Store.writing place bytes?)).1.at? there = d.at? there ∨
        ∃ bytes mode, (bytes = .empty ∨ bytes? = some bytes) ∧
          (d.perform (Store.writing place bytes?)).1.at? there = some (.file bytes mode)) := by
  have refused
      (h : ∃ fault, d.act (.openEmpty (Store.temporary place) ownerOnly.2) = .error fault) :
      (d.perform (Store.writing place bytes?)).1 = d := by
    obtain ⟨fault, h⟩ := h
    simp only [Store.writing, List.cons_append, perform, h]
  cases hh : d.locate (Store.temporary place) with
  | error fault =>
    rw [refused ⟨fault, by rw [act, hh]; rfl⟩]
    exact ⟨fun _ h => h, .inl rfl⟩
  | ok here =>
    by_cases directory : d.IsDirectoryAt here
    · rw [refused ⟨_, act_openEmpty_directory _ hh directory⟩]
      exact ⟨fun _ h => h, .inl rfl⟩
    obtain ⟨e, beside, draft, performed⟩ := perform_draft hh directory bytes?
    have drafted : e.at? there = d.at? there ∨ ∃ bytes mode,
        (bytes = .empty ∨ bytes? = some bytes) ∧ e.at? there = some (.file bytes mode) := by
      by_cases same : there = here
      · refine .inr ⟨_, _, ?_, same ▸ draft⟩
        cases bytes? <;> simp
      · exact .inl (beside.elsewhere there same)
    rw [performed]
    cases bytes? with
    | none => exact ⟨beside.directories, drafted⟩
    | some bytes =>
      have here' := locate_keeps beside.directories hh
      have there' := locate_keeps beside.directories found
      simp only [Option.isSome_some, if_true, perform]
      by_cases taken : e.IsDirectoryAt there
      · obtain ⟨fault, refused⟩ := act_move_directory here' there' draft taken
        rw [refused]
        exact ⟨beside.directories, drafted⟩
      · rw [act_move here' there' draft taken]
        have moved : ((e.erase here).put there (.file bytes ownerOnly.2)).at? there =
            some (.file bytes ownerOnly.2) := by
          rw [at_put, if_pos rfl]
        exact ⟨beside.directories.trans (moved_keeps (not_isDirectoryAt draft) taken),
          .inr ⟨bytes, _, .inr rfl, moved⟩⟩

/-! ### Documents that can be written -/

/-- A document that can be written: the directories on the way are there, and no directory stands
    in the place of the document or of its temporary file. -/
structure IsReady (d : Disk) (place : List String) : Prop where
  named : place ≠ []
  temporary : ∃ here, d.locate (Store.temporary place) = .ok here ∧ ¬ d.IsDirectoryAt here
  document : ∃ there, d.locate place = .ok there ∧ ¬ d.IsDirectoryAt there

/-- A temporary file stands below the top. -/
theorem located_temporary (named : place ≠ [])
    (found : d.locate (Store.temporary place) = .ok here) : here ≠ [] := by
  obtain ⟨dirs, name, rfl⟩ := (List.eq_nil_or_concat place).resolve_left named
  have temporary : Store.temporary (dirs.concat name) = dirs ++ [name ++ ".tmp"] := by
    rw [Store.temporary, List.concat_eq_append, List.dropLast_concat, List.getLast?_concat]
    rfl
  rw [temporary] at found
  obtain ⟨p, -, step⟩ := locate_append found
  rw [List.foldlM_cons, bind_eq_ok_iff] at step
  have notUp : name ++ ".tmp" ≠ ".." := by
    intro h
    have length := congrArg String.length h
    rw [String.length_append] at length
    have short : "..".length = 2 ∧ ".tmp".length = 4 := by decide
    omega
  obtain ⟨q, hs, hq⟩ := step
  obtain rfl : q = here := Except.ok.inj hq
  obtain ⟨-, -, rfl⟩ := stepInto_ok_iff.mp hs
  rw [if_neg notUp]
  exact List.append_ne_nil_of_right_ne_nil _ (List.cons_ne_nil _ _)

/-- A document that can be written is written, holds what was written, and can be written again. -/
theorem IsReady.perform (h : d.IsReady place) (bytes : ByteArray) :
    ∃ e, d.perform (Store.writing place (some bytes)) = (e, none) ∧ e.IsReady place ∧
      e.read place = .ok bytes := by
  obtain ⟨named, ⟨here, hh, notHere⟩, ⟨there, ht, notThere⟩⟩ := h
  obtain ⟨e, beside, draft, performed⟩ := perform_draft hh notHere (some bytes)
  have here' := locate_keeps beside.directories hh
  have there' := locate_keeps beside.directories ht
  have free : ¬ e.IsDirectoryAt there := by
    by_cases same : there = here
    · exact same ▸ not_isDirectoryAt draft
    · rintro ⟨mode, hm⟩
      exact notThere ⟨mode, beside.elsewhere there same ▸ hm⟩
  have keeps := moved_keeps (not_isDirectoryAt draft) free (n := .file bytes ownerOnly.2)
  have moved : ((e.erase here).put there (.file bytes ownerOnly.2)).at? there =
      some (.file bytes ownerOnly.2) := by
    rw [at_put, if_pos rfl]
  have left : ¬ ((e.erase here).put there (.file bytes ownerOnly.2)).IsDirectoryAt here := by
    by_cases same : here = there
    · rw [same] at moved ⊢
      exact not_isDirectoryAt moved
    · rintro ⟨mode, hm⟩
      rw [at_put, if_neg same, at_erase_self e (located_temporary named hh)] at hm
      cases hm
  have found := locate_keeps keeps there'
  refine ⟨(e.erase here).put there (.file bytes ownerOnly.2), ?_,
    ⟨named, ⟨here, locate_keeps keeps here', left⟩, ⟨there, found, not_isDirectoryAt moved⟩⟩, ?_⟩
  · rw [performed]
    simp only [Option.isSome_some, if_true, Disk.perform]
    rw [act_move here' there' draft free]
    rfl
  · rw [read_of_located found, moved]

/-- A document can be written: the directories on the way to it are there or can be made, and no
    directory stands in its place or in that of its temporary file. -/
def IsWritable (d : Disk) (place : List String) : Prop :=
  ∃ made, d.makeDirectories ownerOnly.1 place.dropLast.reverse = .ok made ∧ made.IsReady place

/-- No directory is made for a document that is ready to be written. -/
theorem IsReady.isWritable (h : d.IsReady place) : d.IsWritable place := by
  refine ⟨d, ?_, h⟩
  obtain ⟨dirs, name, rfl⟩ := (List.eq_nil_or_concat place).resolve_left h.named
  obtain ⟨there, found, -⟩ := h.document
  rw [List.concat_eq_append] at found ⊢
  rw [List.dropLast_concat]
  exact makeDirectories_ok_iff.mpr (layDirectories_of_located ownerOnly.1 found)

end Gatehouse.Disk

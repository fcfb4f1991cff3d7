import Gatehouse.Proofs.Spelled
import Gatehouse.Service

/-! Settings that have been checked. What a check lets pass it lets pass again: paths come in normal
    form, numbers within their bounds, and the special routes as they are written. There is one
    exception. The address of the service is looked at before the slashes at its end are dropped, so
    an address that is nothing but a scheme loses a part of it and is refused the second time. -/

namespace Gatehouse

/-! ### Paths of files -/

namespace Path

/-- The parts of a path hold something, are more than a single dot, and have no slashes in them, and
    there are no more than two slashes in front. -/
structure IsNormal (p : Path) : Prop where
  root : p.root = slashes 0 ∨ p.root = slashes 1 ∨ p.root = slashes 2
  parts : ∀ part ∈ p.parts, part ≠ "" ∧ part ≠ "." ∧ '/' ∉ part.toList

/-- No slash is left where a text was split at the slashes. -/
theorem not_mem_of_mem_splitOn {cs part : List Char} (h : part ∈ cs.splitOn '/') : '/' ∉ part := by
  induction cs generalizing part with
  | nil =>
    rw [List.splitOn_nil, List.mem_singleton] at h
    exact h ▸ List.not_mem_nil
  | cons c cs ih =>
    rw [List.splitOn_cons_eq_if_modifyHead] at h
    split at h
    case isTrue =>
      rcases List.mem_cons.mp h with rfl | h
      · exact List.not_mem_nil
      · exact ih h
    case isFalse other =>
      cases split : cs.splitOn '/' with
      | nil => exact absurd split (List.splitOn_ne_nil _ _)
      | cons first rest =>
        rw [split] at h ih
        rcases List.mem_cons.mp h with rfl | h
        · refine List.not_mem_cons_of_ne_of_not_mem ?_ (ih List.mem_cons_self)
          rintro rfl
          exact other rfl
        · exact ih (List.mem_cons_of_mem _ h)

theorem isNormal_ofText (s : String) : (ofText s).IsNormal where
  root := by
    unfold ofText
    dsimp only
    split
    · exact .inl rfl
    · split
      · exact .inr (.inr rfl)
      · exact .inr (.inl rfl)
  parts := by
    intro part h
    obtain ⟨h, filled⟩ := List.mem_filter.mp h
    obtain ⟨piece, split, rfl⟩ := List.mem_map.mp h
    simp only [Bool.and_eq_true, decide_eq_true_eq] at filled
    exact ⟨filled.1, filled.2, by simpa using not_mem_of_mem_splitOn split⟩

theorem partsOf_slash_cons (cs : List Char) : partsOf ('/' :: cs) = partsOf cs := by
  rw [partsOf, List.splitOn_cons_eq_if_modifyHead, if_pos (by decide)]
  rfl

/-- Slashes in front give no parts. -/
theorem partsOf_slashes_append (n : ℕ) (cs : List Char) :
    partsOf (List.replicate n '/' ++ cs) = partsOf cs := by
  induction n with
  | zero => rfl
  | succ n ih => rw [List.replicate_succ, List.cons_append, partsOf_slash_cons, ih]

/-- Slashes in front are kept, up to two of them. -/
theorem ofText_slashes_append {n : ℕ} (few : n ≤ 2) {body : String}
    (h : body.toList.takeWhile (· = '/') = []) :
    ofText (slashes n ++ body) = ⟨slashes n, partsOf body.toList⟩ := by
  have row : (slashes n ++ body).toList.takeWhile (· = '/') = List.replicate n '/' := by
    rw [String.toList_append, toList_slashes, List.takeWhile_append_of_pos, h, List.append_nil]
    exact fun c hc => decide_eq_true (List.eq_of_mem_replicate hc)
  have parts : partsOf (slashes n ++ body).toList = partsOf body.toList := by
    rw [String.toList_append, toList_slashes, partsOf_slashes_append]
  unfold ofText
  dsimp only
  rw [row, parts, List.length_replicate]
  rcases (by omega : n = 0 ∨ n = 1 ∨ n = 2) with rfl | rfl | rfl <;> rfl

section

variable {parts : List String} (h : ∀ part ∈ parts, part ≠ "" ∧ part ≠ "." ∧ '/' ∉ part.toList)

include h

/-- The parts of a path are found again where they are joined by slashes. -/
theorem partsOf_intercalate : partsOf ("/".intercalate parts).toList = parts := by
  rw [String.toList_intercalate]
  by_cases none : parts = []
  · subst none
    rfl
  have split : (['/'].intercalate (parts.map String.toList)).splitOn '/' =
      parts.map String.toList := by
    refine List.splitOn_intercalate '/' ?_ (by simpa using none)
    intro l hl
    obtain ⟨part, hpart, rfl⟩ := List.mem_map.mp hl
    exact (h part hpart).2.2
  have same : (parts.map String.toList).map String.ofList = parts := by
    rw [List.map_map]
    exact List.map_id'' (fun part => String.ofList_toList) parts
  rw [partsOf, show "/".toList = ['/'] from rfl, split, same, List.filter_eq_self]
  intro part hpart
  simp [h part hpart]

/-- A path without slashes in front begins with its first part. -/
theorem takeWhile_intercalate : ("/".intercalate parts).toList.takeWhile (· = '/') = [] := by
  rw [String.toList_intercalate]
  cases parts with
  | nil => rfl
  | cons first rest =>
    obtain ⟨filled, -, bare⟩ := h first List.mem_cons_self
    cases hfirst : first.toList with
    | nil => exact absurd (String.toList_eq_nil_iff.mp hfirst) filled
    | cons c cs =>
      have other : c ≠ '/' := by
        rintro rfl
        exact bare (hfirst ▸ List.mem_cons_self)
      cases rest with
      | nil => simp [hfirst, other]
      | cons second rest => simp [hfirst, other, List.intercalate_cons_cons]

end

/-- A path in normal form is read where it was written. -/
theorem IsNormal.ofText_text {p : Path} (h : p.IsNormal) : ofText p.text = p := by
  obtain ⟨root, parts⟩ := p
  unfold text
  split
  case isTrue nothing =>
    simp only [Bool.and_eq_true, decide_eq_true_eq, List.isEmpty_iff] at nothing
    obtain ⟨rfl, rfl⟩ := nothing
    rfl
  case isFalse =>
    have written {n : ℕ} (few : n ≤ 2) :
        ofText (slashes n ++ "/".intercalate parts) = ⟨slashes n, parts⟩ := by
      rw [ofText_slashes_append few (takeWhile_intercalate h.parts), partsOf_intercalate h.parts]
    rcases h.root with rfl | rfl | rfl
    · exact written (by decide)
    · exact written (by decide)
    · exact written (by decide)

end Path

/-! ### Checks side by side -/

namespace Checked

variable {α β : Type}

theorem map_eq_good_iff {f : α → β} {a : Checked α} {b : β} :
    f <$> a = .good b ↔ ∃ x, a = .good x ∧ f x = b := by
  cases a <;> simp [Functor.map, both, map]

theorem seq_eq_good_iff {f : Checked (α → β)} {a : Checked α} {b : β} :
    f <*> a = .good b ↔ ∃ g x, f = .good g ∧ a = .good x ∧ g x = b := by
  cases f <;> cases a <;> simp [Seq.seq, both, map]

theorem andThen_eq_good_iff {a : Checked α} {f : α → Checked β} {b : β} :
    a.andThen f = .good b ↔ ∃ x, a = .good x ∧ f x = .good b := by
  cases a <;> simp [andThen]

theorem within_eq_good_iff {place : Place} {a : Checked α} {x : α} :
    a.within place = .good x ↔ a = .good x := by
  cases a <;> simp [within]

end Checked

/-- A field that may be left out gives what stands for it then, or what was found in order. -/
theorem Record.optional_eq_good_iff {α : Type} {r : Record Json} {name : String} {absent a : α}
    {check : Json → Checked α} : r.optional name absent check = .good a ↔
      r.get? name = none ∧ absent = a ∨ ∃ v, r.get? name = some v ∧ check v = .good a := by
  rw [optional]
  cases r.get? name with
  | none => simp
  | some v => simp [Checked.within_eq_good_iff]

theorem Field.text_eq_good_iff {v : Json} {s : String} : Field.text v = .good s ↔ v = .str s := by
  cases v <;> simp [Field.text, Checked.fail]

namespace Settings

variable {r : Record Json} {s : Settings} {v : Json}

/-! ### Settings, value by value -/

/-- Each of the settings is what a record gives for it. -/
structure GivenBy (s : Settings) (r : Record Json) : Prop where
  baseUrl : r.optional "base_url" default.baseUrl checkBaseUrl = .good s.baseUrl
  timeout : r.optional "timeout" default.timeout checkTimeout = .good s.timeout
  storagePath : r.optional "storage_path" default.storagePath checkStoragePath = .good s.storagePath
  loginPath : r.optional "login_path" default.loginPath checkRoutePath = .good s.loginPath
  registerPath :
    r.optional "register_path" default.registerPath checkRoutePath = .good s.registerPath
  landingPath : r.optional "landing_path" default.landingPath checkRoutePath = .good s.landingPath
  enrollmentPath :
    r.optional "enrollment_path" default.enrollmentPath checkRoutePath = .good s.enrollmentPath
  maxRedirects :
    r.optional "max_redirects" default.maxRedirects checkMaxRedirects = .good s.maxRedirects

theorem eq_of_checkLanding {t : Settings} (h : checkLanding s = .good t) : s = t := by
  unfold checkLanding at h
  split at h
  · cases h
  · simpa using h

/-- Settings pass if each of them does and the landing route is none that is for strangers. -/
theorem check_eq_good_iff : check r = .good s ↔ s.GivenBy r ∧ checkLanding s = .good s := by
  simp only [check, Checked.andThen_eq_good_iff, Checked.seq_eq_good_iff, Checked.map_eq_good_iff]
  constructor
  · rintro ⟨t, ⟨_, _, ⟨_, _, ⟨_, _, ⟨_, _, ⟨_, _, ⟨_, _, ⟨_, _, ⟨_, baseUrl, rfl⟩, timeout, rfl⟩,
      storagePath, rfl⟩, loginPath, rfl⟩, registerPath, rfl⟩, landingPath, rfl⟩, enrollmentPath,
      rfl⟩, maxRedirects, rfl⟩, landing⟩
    obtain rfl := eq_of_checkLanding landing
    exact ⟨⟨baseUrl, timeout, storagePath, loginPath, registerPath, landingPath, enrollmentPath,
      maxRedirects⟩, landing⟩
  · rintro ⟨h, landing⟩
    exact ⟨s, ⟨_, _, ⟨_, _, ⟨_, _, ⟨_, _, ⟨_, _, ⟨_, _, ⟨_, _, ⟨_, h.baseUrl, rfl⟩, h.timeout, rfl⟩,
      h.storagePath, rfl⟩, h.loginPath, rfl⟩, h.registerPath, rfl⟩, h.landingPath, rfl⟩,
      h.enrollmentPath, rfl⟩, h.maxRedirects, rfl⟩, landing⟩

/-- A route path is taken as it is written, if it begins with a slash. -/
theorem checkRoutePath_eq_good_iff {path : String} :
    checkRoutePath v = .good path ↔ v = .str path ∧ path.startsWith "/" := by
  simp only [checkRoutePath, Checked.andThen_eq_good_iff, Field.text_eq_good_iff]
  constructor
  · rintro ⟨s, rfl, h⟩
    split at h
    case isTrue absolute =>
      cases h
      exact ⟨rfl, absolute⟩
    case isFalse => cases h
  · rintro ⟨rfl, absolute⟩
    exact ⟨path, rfl, if_pos absolute⟩

theorem checkTimeout_float {x : Float} : checkTimeout (.float x) = .good x ↔ x > 0.0 := by
  show (if x > 0.0 then Checked.good x else .fail .notAbove) = .good x ↔ _
  split
  case isTrue h => simp [h]
  case isFalse h => simp [h, Checked.fail]

/-- A number of seconds that is taken is more than none. -/
theorem pos_of_checkTimeout {x : Float} (h : checkTimeout v = .good x) : x > 0.0 := by
  obtain ⟨y, -, h⟩ := Checked.andThen_eq_good_iff.mp h
  split at h
  case isTrue pos =>
    cases h
    exact pos
  case isFalse => cases h

theorem isNormal_of_checkStoragePath {p : Path} (h : checkStoragePath v = .good p) :
    p.IsNormal := by
  unfold checkStoragePath at h
  split at h
  · cases h
    exact Path.isNormal_ofText _
  · cases h

/-- A bound on redirects that is taken keeps to its own bounds, and would be taken again. -/
theorem checkMaxRedirects_again {n : ℕ} (h : checkMaxRedirects v = .good n) :
    checkMaxRedirects (.int n) = .good n := by
  obtain ⟨i, -, h⟩ := Checked.andThen_eq_good_iff.mp h
  split at h
  case isTrue => cases h
  case isFalse least =>
    split at h
    case isTrue => cases h
    case isFalse most =>
      cases h
      have natural : ((i.toNat : ℕ) : ℤ) = i := Int.toNat_of_nonneg (by
        simp only [redirectBounds] at least
        omega)
      show (if ((i.toNat : ℕ) : ℤ) < _ then _ else if _ < ((i.toNat : ℕ) : ℤ) then _ else _) = _
      rw [natural, if_neg least, if_neg most]

/-! ### Settings once more -/

/-- The named values of settings. -/
def written (s : Settings) : Record Json :=
  [("base_url", .str s.baseUrl), ("timeout", .float s.timeout),
    ("storage_path", .str s.storagePath.text), ("login_path", .str s.loginPath),
    ("register_path", .str s.registerPath), ("landing_path", .str s.landingPath),
    ("enrollment_path", .str s.enrollmentPath), ("max_redirects", .int s.maxRedirects)]

/-- All settings but the address of the service would pass again. -/
structure PassesAgain (s : Settings) : Prop where
  timeout : checkTimeout (.float s.timeout) = .good s.timeout
  storagePath : checkStoragePath (.str s.storagePath.text) = .good s.storagePath
  loginPath : checkRoutePath (.str s.loginPath) = .good s.loginPath
  registerPath : checkRoutePath (.str s.registerPath) = .good s.registerPath
  landingPath : checkRoutePath (.str s.landingPath) = .good s.landingPath
  enrollmentPath : checkRoutePath (.str s.enrollmentPath) = .good s.enrollmentPath
  maxRedirects : checkMaxRedirects (.int s.maxRedirects) = .good s.maxRedirects
  landing : checkLanding s = .good s

/-- What is true of what stands for a field that is left out, and of all that is found in order, is
    true of what the field gives. -/
theorem of_optional {α : Type} {P : α → Prop} {name : String} {absent a : α}
    {check : Json → Checked α} (h : r.optional name absent check = .good a) (left : P absent)
    (found : ∀ v a, check v = .good a → P a) : P a := by
  rcases Record.optional_eq_good_iff.mp h with ⟨-, rfl⟩ | ⟨v, -, passed⟩
  · exact left
  · exact found v a passed

theorem passesAgain_of_check (h : check r = .good s) : s.PassesAgain := by
  obtain ⟨given, landing⟩ := check_eq_good_iff.mp h
  have route {name absent path : String} (h : r.optional name absent checkRoutePath = .good path)
      (left : absent.startsWith "/") : checkRoutePath (.str path) = .good path := by
    refine checkRoutePath_eq_good_iff.mpr ⟨rfl, ?_⟩
    refine of_optional (P := fun path => path.startsWith "/") h left ?_
    exact fun v path passed => (checkRoutePath_eq_good_iff.mp passed).2
  refine ⟨?_, ?_, ?_, ?_, ?_, ?_, ?_, landing⟩
  · refine checkTimeout_float.mpr (of_optional (P := fun x => x > 0.0) given.timeout ?_ ?_)
    · decide +kernel
    · exact fun v x passed => pos_of_checkTimeout passed
  · have normal : s.storagePath.IsNormal := of_optional given.storagePath
      ⟨.inr (.inl rfl), by decide⟩ fun v p passed => isNormal_of_checkStoragePath passed
    exact congrArg Checked.good normal.ofText_text
  · exact route given.loginPath (by decide +kernel)
  · exact route given.registerPath (by decide +kernel)
  · exact route given.landingPath (by decide +kernel)
  · exact route given.enrollmentPath (by decide +kernel)
  · refine of_optional (P := fun n : ℕ => checkMaxRedirects (.int n) = .good n)
      given.maxRedirects rfl ?_
    exact fun v n passed => checkMaxRedirects_again passed

/-- When all settings but the address pass again, it is the address that decides. -/
theorem check_written (h : s.PassesAgain) : check s.written =
    ((checkBaseUrl (.str s.baseUrl)).within (.field "base_url")).andThen fun url =>
      checkLanding { s with baseUrl := url } := by
  have passes (name : String) {α : Type} {absent a : α} {check : Json → Checked α} {v : Json}
      (there : s.written.get? name = some v) (passed : check v = .good a) :
      s.written.optional name absent check = .good a :=
    Record.optional_eq_good_iff.mpr (.inr ⟨v, there, passed⟩)
  have baseUrl : s.written.optional "base_url" default.baseUrl checkBaseUrl =
      (checkBaseUrl (.str s.baseUrl)).within (.field "base_url") := rfl
  rw [check, baseUrl, passes "timeout" rfl h.timeout, passes "storage_path" rfl h.storagePath,
    passes "login_path" rfl h.loginPath, passes "register_path" rfl h.registerPath,
    passes "landing_path" rfl h.landingPath, passes "enrollment_path" rfl h.enrollmentPath,
    passes "max_redirects" rfl h.maxRedirects]
  cases (checkBaseUrl (.str s.baseUrl)).within (.field "base_url") <;> rfl

/-! ### The address -/

/-- The schemes of the addresses that are taken. -/
def schemes : List String := ["http:", "https:"]

/-- The address is one that is reached over HTTP. -/
def IsHttp (url : String) : Prop := url.startsWith "http://" ∨ url.startsWith "https://"

instance (url : String) : Decidable (IsHttp url) := inferInstanceAs (Decidable (_ ∨ _))

theorem startsWith_iff {text start : String} :
    text.startsWith start ↔ ∃ rest, text = start ++ rest := by
  rw [String.startsWith_string_iff]
  constructor
  · rintro ⟨rest, h⟩
    exact ⟨String.ofList rest, by
      rw [← String.toList_inj, String.toList_append, String.toList_ofList, h]⟩
  · rintro ⟨rest, rfl⟩
    exact ⟨rest.toList, String.toList_append.symm⟩

theorem isHttp_iff {url : String} :
    IsHttp url ↔ ∃ scheme ∈ schemes, ∃ rest, url = scheme ++ "//" ++ rest := by
  simp only [IsHttp, startsWith_iff, schemes, List.mem_cons, List.not_mem_nil, or_false,
    exists_eq_or_imp, exists_eq_left]
  rfl

/-- A scheme alone is no address. -/
theorem not_isHttp_of_mem {scheme : String} (h : scheme ∈ schemes) : ¬IsHttp scheme := by
  simp only [schemes, List.mem_cons, List.not_mem_nil, or_false] at h
  rcases h with rfl | rfl <;> decide +kernel

/-- Behind the scheme there must be two slashes. -/
theorem not_isHttp_append {scheme rest : String} (h : scheme ∈ schemes)
    (bare : ¬rest.startsWith "/") : ¬IsHttp (scheme ++ "/" ++ rest) := by
  rw [String.startsWith_string_iff] at bare
  simp only [IsHttp, String.startsWith_string_iff, String.toList_append]
  simp only [schemes, List.mem_cons, List.not_mem_nil, or_false] at h
  rcases h with rfl | rfl <;> simpa [List.cons_prefix_cons] using bare

theorem toList_withoutTrailingSlashes (text : String) :
    (withoutTrailingSlashes text).toList = text.toList.rdropWhile (· = '/') := String.toList_ofList

/-- The two slashes behind the scheme are dropped with all others if nothing comes behind them. -/
theorem withoutTrailingSlashes_scheme {scheme : String} (h : scheme ∈ schemes) (n : ℕ) :
    withoutTrailingSlashes (scheme ++ slashes n) = scheme := by
  rw [← String.toList_inj, toList_withoutTrailingSlashes, String.toList_append, toList_slashes,
    rdropWhile_append_slashes]
  simp only [schemes, List.mem_cons, List.not_mem_nil, or_false] at h
  rcases h with rfl | rfl <;> decide

/-- An address stays one that is reached over HTTP, unless it is nothing but a scheme. -/
theorem isHttp_withoutTrailingSlashes_iff {text : String} (h : IsHttp text) :
    IsHttp (withoutTrailingSlashes text) ↔
      ¬∃ scheme ∈ schemes, ∃ n, text = scheme ++ slashes (n + 2) := by
  constructor
  · rintro http ⟨scheme, listed, n, rfl⟩
    rw [withoutTrailingSlashes_scheme listed] at http
    exact not_isHttp_of_mem listed http
  · intro more
    obtain ⟨scheme, listed, rest, rfl⟩ := isHttp_iff.mp h
    refine isHttp_iff.mpr ⟨scheme, listed, String.ofList (rest.toList.rdropWhile (· = '/')), ?_⟩
    rw [← String.toList_inj, toList_withoutTrailingSlashes, String.toList_append,
      rdropWhile_slash_append, if_neg]
    · simp only [String.toList_append, String.toList_ofList]
    · intro nothing
      have row : String.ofList rest.toList = slashes rest.toList.length :=
        ofList_eq_slashes (by simpa [List.rdropWhile_eq_nil_iff] using nothing)
      rw [String.ofList_toList] at row
      refine more ⟨scheme, listed, rest.toList.length, ?_⟩
      rw [Nat.add_comm, ← slashes_append, ← row, String.append_assoc]
      rfl

theorem checkBaseUrl_eq_good_iff {url : String} : checkBaseUrl v = .good url ↔
    ∃ text, v = .str text ∧ IsHttp text ∧ withoutTrailingSlashes text = url := by
  simp only [checkBaseUrl, Checked.andThen_eq_good_iff, Field.text_eq_good_iff]
  refine exists_congr fun text => and_congr_right fun _ => ?_
  by_cases http : IsHttp text
  · rw [if_pos (by simpa [IsHttp] using http)]
    simp [http]
  · rw [if_neg (by simpa [IsHttp] using http)]
    simp [http, Checked.fail]

theorem checkBaseUrl_of_not_isHttp {url : String} (h : ¬IsHttp url) :
    checkBaseUrl (.str url) =
      .fail (.refused ("base_url must be an http(s) URL, got " ++ Text.quoted url)) := by
  show (if _ then _ else _) = _
  rw [if_neg (by simpa [IsHttp] using h)]

/-- The address that settings come to hold. -/
theorem baseUrl_of_check (h : check r = .good s) : s.baseUrl.toList.getLast? ≠ some '/' ∧
    ((¬∃ scheme ∈ schemes, ∃ n, r.get? "base_url" = some (.str (scheme ++ slashes (n + 2)))) ∧
        IsHttp s.baseUrl ∨
      (∃ scheme ∈ schemes, ∃ n, r.get? "base_url" = some (.str (scheme ++ slashes (n + 2)))) ∧
        s.baseUrl ∈ schemes) := by
  rcases Record.optional_eq_good_iff.mp (check_eq_good_iff.mp h).1.baseUrl with
    ⟨left, absent⟩ | ⟨v, there, passed⟩
  · rw [← absent, left]
    refine ⟨by decide, .inl ⟨?_, by decide +kernel⟩⟩
    rintro ⟨_, -, _, given⟩
    cases given
  · obtain ⟨text, rfl, http, url⟩ := checkBaseUrl_eq_good_iff.mp passed
    constructor
    · rw [← url, ← rdropWhile_slash_eq_self_iff, toList_withoutTrailingSlashes]
      exact List.rdropWhile_idempotent _ _
    by_cases bare : ∃ scheme ∈ schemes, ∃ n, text = scheme ++ slashes (n + 2)
    · obtain ⟨scheme, listed, n, rfl⟩ := bare
      refine .inr ⟨⟨scheme, listed, n, there⟩, ?_⟩
      rw [← url, withoutTrailingSlashes_scheme listed]
      exact listed
    · refine .inl ⟨?_, url ▸ (isHttp_withoutTrailingSlashes_iff http).mpr bare⟩
      rintro ⟨scheme, listed, n, given⟩
      rw [there] at given
      cases given
      exact bare ⟨scheme, listed, n, rfl⟩

/-- The address of a request: the slashes in front of its path give way to a single one. -/
theorem url_eq (s : Settings) (path : String) : ∃ n rest, path = slashes n ++ rest ∧
    ¬rest.startsWith "/" ∧ Service.url s path = s.baseUrl ++ "/" ++ rest := by
  refine ⟨(path.toList.takeWhile (· = '/')).length,
    String.ofList (path.toList.dropWhile (· = '/')), ?_, ?_, rfl⟩
  · rw [← ofList_eq_slashes fun c hc => by simpa using List.mem_takeWhile_imp hc,
      ← String.ofList_append, List.takeWhile_append_dropWhile, String.ofList_toList]
  · rw [String.startsWith_string_iff, String.toList_ofList, String.toList_ofList]
    rintro ⟨rest, h⟩
    have head := List.head?_dropWhile_not (· = '/') path.toList
    rw [← h] at head
    simp at head

/-- Settings that have passed hold an address without a slash at its end, and pass again unless this
    address is nothing but a scheme any more, as it is if nothing but slashes stood behind it; then
    they are refused for their address. The address of every request is that of the service, one
    slash, and the path without the slashes in front, and is reached over HTTP as the service is. -/
theorem check_again (passed : check r = .good s) :
    s.baseUrl.toList.getLast? ≠ some '/' ∧
    (IsHttp s.baseUrl ↔
      ¬∃ scheme ∈ schemes, ∃ n, r.get? "base_url" = some (.str (scheme ++ slashes (n + 2)))) ∧
    (IsHttp s.baseUrl → check s.written = .good s) ∧
    (¬IsHttp s.baseUrl → s.baseUrl ∈ schemes ∧ check s.written = .bad [⟨[.field "base_url"],
      .refused ("base_url must be an http(s) URL, got " ++ Text.quoted s.baseUrl)⟩]) ∧
    ∀ path, ∃ n rest, path = slashes n ++ rest ∧ ¬rest.startsWith "/" ∧
      Service.url s path = s.baseUrl ++ "/" ++ rest ∧
      (IsHttp (Service.url s path) ↔ IsHttp s.baseUrl) := by
  have again := passesAgain_of_check passed
  obtain ⟨last, address⟩ := baseUrl_of_check passed
  have either : IsHttp s.baseUrl ∨ s.baseUrl ∈ schemes := address.imp And.right And.right
  refine ⟨last, ?_, fun http => ?_, fun lost => ?_, fun path => ?_⟩
  · rcases address with ⟨more, http⟩ | ⟨bare, listed⟩
    · exact iff_of_true http more
    · exact iff_of_false (not_isHttp_of_mem listed) (not_not_intro bare)
  · have kept : withoutTrailingSlashes s.baseUrl = s.baseUrl := by
      rw [← String.toList_inj, toList_withoutTrailingSlashes]
      exact (rdropWhile_slash_eq_self_iff _).mpr last
    have good := checkBaseUrl_eq_good_iff.mpr ⟨s.baseUrl, rfl, http, kept⟩
    rw [check_written again, good]
    exact again.landing
  · refine ⟨either.resolve_left lost, ?_⟩
    rw [check_written again, checkBaseUrl_of_not_isHttp lost]
    rfl
  · obtain ⟨n, rest, whole, bare, url⟩ := url_eq s path
    refine ⟨n, rest, whole, bare, url, ?_⟩
    rw [url]
    rcases either with http | listed
    · refine iff_of_true ?_ http
      obtain ⟨scheme, listed, host, h⟩ := isHttp_iff.mp http
      exact isHttp_iff.mpr ⟨scheme, listed, host ++ "/" ++ rest, by simp [h, String.append_assoc]⟩
    · exact iff_of_false (not_isHttp_append listed bare) (not_isHttp_of_mem listed)

/-- Settings of which only the address is given. -/
theorem check_of_address {text url : String} (h : checkBaseUrl (.str text) = .good url) :
    check [("base_url", .str text)] = .good { default with baseUrl := url } := by
  refine check_eq_good_iff.mpr ⟨⟨?_, rfl, rfl, rfl, rfl, rfl, rfl, rfl⟩, by rfl⟩
  exact Record.optional_eq_good_iff.mpr (.inr ⟨_, rfl, h⟩)

/-- An address with a path behind it passes again. -/
theorem check_again_vault :
    check [("base_url", .str "https://vault.example/api//")] =
        .good { default with baseUrl := "https://vault.example/api" } ∧
      check (written { default with baseUrl := "https://vault.example/api" }) =
        .good { default with baseUrl := "https://vault.example/api" } := by
  have address : checkBaseUrl (.str "https://vault.example/api//") =
      .good "https://vault.example/api" := by decide +kernel
  have passed := check_of_address address
  exact ⟨passed, (check_again passed).2.2.1 (by decide +kernel)⟩

/-- An address that is nothing but a scheme passes, but does not pass again. -/
theorem check_not_always_again : ¬∀ (r : Record Json) (s : Settings), check r = .good s →
    IsHttp s.baseUrl ∧ s.baseUrl.toList.getLast? ≠ some '/' ∧ check s.written = .good s ∧
      ∀ path, IsHttp (Service.url s path) := by
  intro all
  have address : checkBaseUrl (.str "http://") = .good "http:" := by decide +kernel
  exact absurd (all _ _ (check_of_address address)).1 (by decide +kernel)

end Settings

end Gatehouse

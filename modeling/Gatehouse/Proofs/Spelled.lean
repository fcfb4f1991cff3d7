import Gatehouse.Route
import Mathlib.Data.List.DropRight
import Mathlib.Data.List.Nodup

/-! The spellings of a path. A lookup disregards what may be added to a path: slashes at its end, a
    query, a fragment. So a route is found under every spelling of the path that it is declared
    under, provided that it was declared under the plain one. There is one spelling that is lost:
    the root with more slashes behind it is not the root any more. -/

namespace Gatehouse

/-! ### Slashes -/

/-- So many slashes. -/
def slashes (n : ℕ) : String := String.ofList (List.replicate n '/')

theorem toList_slashes (n : ℕ) : (slashes n).toList = List.replicate n '/' := String.toList_ofList

theorem slashes_append (m n : ℕ) : slashes m ++ slashes n = slashes (m + n) := by
  rw [slashes, slashes, slashes, ← String.ofList_append, List.replicate_append_replicate]

/-- A text of nothing but slashes is known by their number. -/
theorem ofList_eq_slashes {cs : List Char} (h : ∀ c ∈ cs, c = '/') :
    String.ofList cs = slashes cs.length :=
  congrArg String.ofList (List.eq_replicate_iff.mpr ⟨rfl, h⟩)

theorem rdropWhile_slash_eq_self_iff (cs : List Char) :
    cs.rdropWhile (· = '/') = cs ↔ cs.getLast? ≠ some '/' := by
  rw [List.rdropWhile_eq_self_iff]
  cases cs using List.reverseRecOn with
  | nil => simp
  | append_singleton cs c => simp

/-- Slashes are dropped from the end of what was added behind a text, and then from the text itself
    if nothing else was added. -/
theorem rdropWhile_slash_append (cs added : List Char) : (cs ++ added).rdropWhile (· = '/') =
    if added.rdropWhile (· = '/') = [] then cs.rdropWhile (· = '/')
    else cs ++ added.rdropWhile (· = '/') := by
  simp only [List.rdropWhile, List.reverse_append, List.dropWhile_append, List.isEmpty_iff,
    List.reverse_eq_nil_iff]
  split <;> simp

theorem rdropWhile_append_slashes (cs : List Char) (n : ℕ) :
    (cs ++ List.replicate n '/').rdropWhile (· = '/') = cs.rdropWhile (· = '/') := by
  rw [rdropWhile_slash_append, if_pos]
  exact List.rdropWhile_eq_nil_iff.mpr fun c hc => decide_eq_true (List.eq_of_mem_replicate hc)

namespace Table

/-! ### What may be added to a path -/

/-- What may stand behind a path: nothing, or a query or a fragment, whatever they say. -/
inductive IsTail : String → Prop
  | nothing : IsTail ""
  | query (text : String) : IsTail ("?" ++ text)
  | fragment (text : String) : IsTail ("#" ++ text)

/-- Whether a character may stand in front of the query and the fragment. -/
def isFront (c : Char) : Bool := c ≠ '?' && c ≠ '#'

/-- What stands in front of the query and the fragment. -/
def front (path : String) : List Char := path.toList.takeWhile isFront

variable {path tail : String} {n : ℕ}

theorem front_eq_self_iff : front path = path.toList ↔ ∀ c ∈ path.toList, isFront c :=
  List.takeWhile_eq_self_iff

theorem front_of_isTail (h : IsTail tail) : front tail = [] := by
  cases h with
  | nothing => rfl
  | query text => simp [front, isFront]
  | fragment text => simp [front, isFront]

theorem front_append_tail (path : String) (h : IsTail tail) :
    front (path ++ tail) = front path := by
  rw [front, String.toList_append, List.takeWhile_append]
  split
  case isTrue whole =>
    have bare : front path = path.toList := (List.takeWhile_prefix _).eq_of_length whole
    have none : tail.toList.takeWhile isFront = [] := front_of_isTail h
    rw [none, List.append_nil, bare]
  case isFalse => rfl

/-- Slashes come to stand in front of everything else, or they belong to the tail. -/
theorem front_append_slashes (path : String) (n : ℕ) :
    front (path ++ slashes n) = path.toList ++ List.replicate n '/' ∧ front path = path.toList ∨
      front (path ++ slashes n) = front path := by
  have slash : (List.replicate n '/').takeWhile isFront = List.replicate n '/' :=
    List.takeWhile_eq_self_iff.mpr fun c hc => List.eq_of_mem_replicate hc ▸ rfl
  rw [front, String.toList_append, toList_slashes, List.takeWhile_append, slash]
  split
  case isTrue whole => exact .inl ⟨rfl, (List.takeWhile_prefix _).eq_of_length whole⟩
  case isFalse => exact .inr rfl

/-- A path is its front and a tail. -/
theorem exists_tail (path : String) :
    ∃ tail, IsTail tail ∧ path = String.ofList (front path) ++ tail := by
  refine ⟨String.ofList (path.toList.dropWhile isFront), ?_, ?_⟩
  · cases rest : path.toList.dropWhile isFront with
    | nil => exact .nothing
    | cons c cs =>
      have stop : isFront c = false := by
        have head := List.head?_dropWhile_not isFront path.toList
        simpa [rest] using head
      have mark : c = '?' ∨ c = '#' := by
        by_contra other
        simp [isFront, not_or.mp other] at stop
      have cons : String.ofList (c :: cs) = String.ofList [c] ++ String.ofList cs := by
        rw [← String.ofList_append, List.singleton_append]
      rw [cons]
      rcases mark with rfl | rfl
      · exact .query _
      · exact .fragment _
  · rw [← String.ofList_append, front, List.takeWhile_append_dropWhile, String.ofList_toList]

/-! ### Normal forms -/

/-- A path is in normal form: it is the root, or there is something in it, neither query nor
    fragment, and no slash at its end. -/
def IsNormal (path : String) : Prop :=
  path = "/" ∨ path ≠ "" ∧ (∀ c ∈ path.toList, isFront c) ∧ path.toList.getLast? ≠ some '/'

-- The characters of the path are gone through, not all that there are.
instance (path : String) : Decidable (IsNormal path) :=
  haveI : Decidable (∀ c ∈ path.toList, isFront c) := List.decidableBAll _ _
  inferInstanceAs (Decidable (_ ∨ _))

/-- The normal form is the front, without slashes at its end. But the root keeps its slash, and an
    empty front stands for the root. -/
theorem normal_eq (path : String) : normal path =
    if front path = [] ∨ front path = ['/'] then "/"
    else String.ofList ((front path).rdropWhile (· = '/')) := by
  have same : (path.toList.takeWhile fun c => c ≠ '?' && c ≠ '#') = front path := rfl
  rw [normal, same]
  cases front path with
  | nil => simp
  | cons c cs =>
    cases cs with
    | nil =>
      by_cases slash : c = '/'
      · subst slash
        rfl
      · simp [List.rdropWhile, slash]
    | cons d cs =>
      rw [if_neg (by simp)]
      rfl

theorem normal_append_tail (path : String) (h : IsTail tail) :
    normal (path ++ tail) = normal path := by
  rw [normal_eq, normal_eq, front_append_tail path h]

/-- Slashes at the end are disregarded, unless they stand behind the root. -/
theorem normal_append_slashes (empty : path = "" → n ≤ 1) (root : path = "/" → n = 0) :
    normal (path ++ slashes n) = normal path := by
  rcases front_append_slashes path n with ⟨longer, bare⟩ | same
  · by_cases hroot : path = "/"
    · rw [root hroot, show slashes 0 = "" from rfl, String.append_empty]
    by_cases hempty : path = ""
    · subst hempty
      rcases Nat.le_one_iff_eq_zero_or_eq_one.mp (empty rfl) with rfl | rfl <;> decide
    have notEmpty : path.toList ≠ [] := mt String.toList_eq_nil_iff.mp hempty
    have notRoot : path.toList ≠ ['/'] := fun h => hroot (String.toList_inj.mp h)
    rw [normal_eq, normal_eq, longer, bare, rdropWhile_append_slashes,
      if_neg (not_or.mpr ⟨notEmpty, notRoot⟩), if_neg]
    rw [List.append_eq_nil_iff, List.append_eq_singleton_iff]
    tauto
  · rw [normal_eq, normal_eq, same]

theorem normal_slashes (n : ℕ) : normal (slashes (n + 2)) = "" := by
  have whole : front (slashes (n + 2)) = List.replicate (n + 2) '/' := by
    rw [← toList_slashes]
    refine front_eq_self_iff.mpr fun c hc => ?_
    rw [toList_slashes] at hc
    exact List.eq_of_mem_replicate hc ▸ rfl
  rw [normal_eq, whole, if_neg (by simp [List.replicate_succ])]
  have none := rdropWhile_append_slashes [] (n + 2)
  rw [List.nil_append, List.rdropWhile_nil] at none
  rw [none]

/-- Nothing is left of a path only if a row of slashes is all that stands in front. -/
theorem normal_eq_empty_iff :
    normal path = "" ↔ ∃ n tail, IsTail tail ∧ path = slashes (n + 2) ++ tail := by
  constructor
  · intro h
    rw [normal_eq] at h
    split at h
    case isTrue => exact absurd h (by decide)
    case isFalse other =>
      have all : ∀ c ∈ front path, c = '/' := by
        rw [← String.ofList_nil, String.ofList_inj, List.rdropWhile_eq_nil_iff] at h
        simpa using h
      obtain ⟨tail, isTail, whole⟩ := exists_tail path
      rw [ofList_eq_slashes all] at whole
      match long : (front path).length with
      | 0 => exact absurd (.inl (List.eq_nil_of_length_eq_zero long)) other
      | 1 =>
        obtain ⟨c, single⟩ := List.length_eq_one_iff.mp long
        obtain rfl : c = '/' := all c (single ▸ List.mem_singleton_self c)
        exact absurd (.inr single) other
      | n + 2 =>
        rw [long] at whole
        exact ⟨n, tail, isTail, whole⟩
  · rintro ⟨n, tail, isTail, rfl⟩
    rw [normal_append_tail _ isTail, normal_slashes]

/-- A path is its own normal form exactly if it is in normal form. -/
theorem normal_eq_self_iff : normal path = path ↔ IsNormal path := by
  constructor
  · intro h
    rw [normal_eq] at h
    split at h
    case isTrue => exact .inl h.symm
    case isFalse other =>
      have kept : (front path).rdropWhile (· = '/') = path.toList := by
        rw [← h, String.toList_ofList, h]
      have longer : path.toList.length ≤ (front path).length := by
        rw [← kept]
        exact (List.rdropWhile_prefix _ _).length_le
      have bare : front path = path.toList := (List.takeWhile_prefix _).eq_of_length_le longer
      refine .inr ⟨?_, front_eq_self_iff.mp bare, ?_⟩
      · rintro rfl
        exact other (.inl rfl)
      · rwa [bare, rdropWhile_slash_eq_self_iff] at kept
  · rintro (rfl | ⟨notEmpty, bare, last⟩)
    · decide
    · rw [normal_eq, front_eq_self_iff.mpr bare, (rdropWhile_slash_eq_self_iff _).mpr last, if_neg,
        String.ofList_toList]
      rintro (empty | root)
      · exact notEmpty (String.toList_eq_nil_iff.mp empty)
      · exact last (congrArg List.getLast? root)

theorem isNormal_normal (h : normal path ≠ "") : IsNormal (normal path) := by
  rw [normal_eq] at h ⊢
  split
  case isTrue => exact .inl rfl
  case isFalse other =>
    rw [if_neg other] at h
    refine .inr ⟨h, fun c hc => ?_, ?_⟩
    · rw [String.toList_ofList] at hc
      exact List.mem_takeWhile_imp ((List.rdropWhile_prefix _ _).subset hc)
    · rw [String.toList_ofList, ← rdropWhile_slash_eq_self_iff]
      exact List.rdropWhile_idempotent _ _

/-! ### Lookups -/

variable {table : Table} {routes : List Route} {route : Route}

theorem resolve_eq_ok_iff :
    table.resolve path = .ok route ↔ table.get? (normal path) = some route := by
  rw [resolve]
  cases table.get? (normal path) with
  | none => simp
  | some found => simp

theorem ofList_concat (routes : List Route) (route : Route) :
    ofList (routes ++ [route]) = (ofList routes).bind (·.add route) := by
  rw [ofList, List.foldlM_append, ← ofList]
  cases ofList routes with
  | error f => rfl
  | ok before =>
    show (before.add route).bind .ok = before.add route
    cases before.add route <;> rfl

/-- A table that can be made of routes holds these, each under a path of its own. -/
theorem of_ofList (built : ofList routes = .ok table) :
    table.routes = routes ∧ (routes.map (·.path)).Nodup := by
  induction routes using List.reverseRecOn generalizing table with
  | nil =>
    cases built
    exact ⟨rfl, List.nodup_nil⟩
  | append_singleton routes route ih =>
    rw [ofList_concat] at built
    cases first : ofList routes with
    | error f =>
      rw [first] at built
      cases built
    | ok before =>
      obtain ⟨held, apart⟩ := ih first
      have added : before.add route = .ok table := by rwa [first] at built
      rw [add, get?, held] at added
      split at added
      case isTrue => cases added
      case isFalse free =>
        cases added
        refine ⟨rfl, ?_⟩
        rw [List.map_append, List.nodup_append]
        refine ⟨apart, List.nodup_singleton _, ?_⟩
        simpa using free

/-- A lookup finds the route whose path is the normal form. -/
theorem resolve_ofList_iff (built : ofList routes = .ok table) :
    table.resolve path = .ok route ↔ route ∈ routes ∧ route.path = normal path := by
  obtain ⟨held, apart⟩ := of_ofList built
  rw [resolve_eq_ok_iff, get?, held]
  constructor
  · intro found
    exact ⟨List.mem_of_find?_eq_some found, by simpa using List.find?_some found⟩
  · rintro ⟨listed, there⟩
    cases found : routes.find? (·.path = normal path) with
    | none =>
      have missing := List.find?_eq_none.mp found route listed
      simp [there] at missing
    | some other =>
      have same : other.path = route.path := by
        rw [there]
        simpa using List.find?_some found
      rw [List.inj_on_of_nodup_map apart (List.mem_of_find?_eq_some found) listed same]

/-- Lookups disregard what is added to a path. A route that is declared under a path in normal form
    is found under every spelling of it, except for the root with more slashes; and one that is not
    declared so is never found, unless it has the empty path. Whatever path one asks for, slashes at
    its end, a query and a fragment make no difference, except for slashes behind the root; then
    nothing is left to look up but the empty path. And a normal form is its own, unless nothing is
    left. -/
theorem resolve_disregards_additions (built : ofList routes = .ok table) :
    (∀ route ∈ routes, IsNormal route.path → ∀ n tail, IsTail tail → (route.path = "/" → n = 0) →
      table.resolve (route.path ++ slashes n ++ tail) = .ok route) ∧
    (∀ route, ¬IsNormal route.path → ∀ path, table.resolve path = .ok route → route.path = "") ∧
    (∀ path n tail, IsTail tail → (path = "" → n ≤ 1) → (path = "/" → n = 0) → ∀ route,
      table.resolve (path ++ slashes n ++ tail) = .ok route ↔ table.resolve path = .ok route) ∧
    (∀ n tail, IsTail tail → ∀ route,
      table.resolve (slashes (n + 2) ++ tail) = .ok route ↔ route ∈ routes ∧ route.path = "") ∧
    ∀ path, normal (normal path) = normal path ↔
      ¬∃ n tail, IsTail tail ∧ path = slashes (n + 2) ++ tail := by
  have found {path : String} {route : Route} :
      table.resolve path = .ok route ↔ route ∈ routes ∧ route.path = normal path :=
    resolve_ofList_iff built
  refine ⟨fun route listed isNormal n tail isTail root => ?_, fun route other path resolved => ?_,
    fun path n tail isTail empty root route => ?_, fun n tail isTail route => ?_, fun path => ?_⟩
  · have filled : route.path ≠ "" := by
      rintro h
      rw [h] at isNormal
      exact absurd isNormal (by decide)
    refine found.mpr ⟨listed, ?_⟩
    rw [normal_append_tail _ isTail, normal_append_slashes (fun h => absurd h filled) root,
      normal_eq_self_iff.mpr isNormal]
  · have there := (found.mp resolved).2
    by_contra filled
    exact other (there ▸ isNormal_normal (there ▸ filled))
  · rw [found, found, normal_append_tail _ isTail, normal_append_slashes empty root]
  · rw [found, normal_append_tail _ isTail, normal_slashes]
  · rw [← normal_eq_empty_iff, normal_eq_self_iff]
    constructor
    · intro isNormal nothing
      rw [nothing] at isNormal
      exact absurd isNormal (by decide)
    · exact isNormal_normal

/-- The default routes make a table, the vault is found under a spelling with slashes and a query,
    and the root is not found with a slash behind it. -/
theorem resolve_disregards_additions_vault :
    ofList Table.default.routes = .ok Table.default ∧ IsNormal "/vault" ∧ IsTail "?next=/user" ∧
      Table.default.resolve ("/vault" ++ slashes 2 ++ "?next=/user") =
        .ok (closedRoute "/vault" "Vault") ∧
      ∀ route, Table.default.resolve (slashes 2) ≠ .ok route := by
  have built : ofList Table.default.routes = .ok Table.default := by decide +kernel
  obtain ⟨declared, -, -, rows, -⟩ := resolve_disregards_additions built
  have vault : closedRoute "/vault" "Vault" ∈ Table.default.routes := by decide +kernel
  have tail : IsTail "?next=/user" := .query "next=/user"
  have isNormal : IsNormal "/vault" := by decide +kernel
  refine ⟨built, isNormal, tail, declared _ vault isNormal 2 _ tail (by decide), ?_⟩
  intro route resolved
  rw [← String.append_empty (s := slashes 2)] at resolved
  obtain ⟨listed, empty⟩ := (rows 0 "" .nothing route).mp resolved
  have none : ∀ route ∈ Table.default.routes, route.path ≠ "" := by decide +kernel
  exact none route listed empty

/-- Not all additions are disregarded: the root is not found with a slash behind it. -/
theorem resolve_not_disregards_all : ¬∀ (routes : List Route) (table : Table),
    ofList routes = .ok table →
    (∀ route ∈ routes, ∀ n tail, IsTail tail →
      table.resolve (route.path ++ slashes n ++ tail) = .ok route) ∧
    ∀ path route, table.resolve path = .ok route → ∀ tail, IsTail tail →
      table.resolve (path ++ "/") = .ok route ∧ table.resolve (path ++ tail) = .ok route := by
  intro all
  obtain ⟨declared, -⟩ := all Table.default.routes Table.default (by decide +kernel)
  have root := declared ⟨"/", none, .none, some "/vault"⟩ (by decide +kernel) 1 "" .nothing
  exact absurd root (by decide +kernel)

end Table

end Gatehouse

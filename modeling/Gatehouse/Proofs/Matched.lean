import Gatehouse.Text.Pattern
import Mathlib.Computability.Language

/-! What patterns match. A pattern stands for a language, which is put together from those of its
    parts; how a text is read plays no role in it. Reading a text character by character comes to
    the same: before each character, one of the patterns that are left matches the rest. Many
    patterns ask for nothing but a row of characters of one set, with a bound on its length; rows
    are known by that without a look at the pattern. -/

namespace Gatehouse.Text

open scoped Computability

/-! ### Sets of characters -/

namespace CharSet

variable {s t : CharSet} {c : Char}

@[simp] theorem has_append : has (s ++ t) c = (s.has c || t.has c) := List.any_append

@[simp] theorem has_of {cs : List Char} : (of cs).has c = decide (c ∈ cs) := by
  rw [Bool.eq_iff_iff, decide_eq_true_iff]
  simp only [has, of, List.any_map, List.any_eq_true, Function.comp_apply, Bool.and_eq_true,
    decide_eq_true_eq]
  constructor
  · rintro ⟨d, hd, hle, hge⟩
    rwa [← Char.le_antisymm hle hge]
  · intro hc
    exact ⟨c, hc, Char.le_refl c, Char.le_refl c⟩

end CharSet

/-! ### Languages, read from the left -/

section Language

variable {l m : Language Char} {c : Char} {cs : List Char}

/-- A text in two parts is empty only if both parts are. -/
theorem nil_mem_mul_iff : [] ∈ l * m ↔ [] ∈ l ∧ [] ∈ m := by
  simp [Language.mem_mul, List.append_eq_nil_iff]

/-- The first character belongs to the first part, unless that is empty. -/
theorem cons_mem_mul_iff : c :: cs ∈ l * m ↔
    (∃ as bs, c :: as ∈ l ∧ bs ∈ m ∧ as ++ bs = cs) ∨ [] ∈ l ∧ c :: cs ∈ m := by
  rw [Language.mem_mul]
  constructor
  · rintro ⟨as, has, bs, hbs, happend⟩
    rcases List.append_eq_cons_iff.1 happend with ⟨rfl, rfl⟩ | ⟨as', rfl, rfl⟩
    · exact .inr ⟨has, hbs⟩
    · exact .inl ⟨as', bs, has, hbs, rfl⟩
  · rintro (⟨as, bs, has, hbs, rfl⟩ | ⟨hnil, hcs⟩)
    · exact ⟨c :: as, has, bs, hbs, rfl⟩
    · exact ⟨[], hnil, c :: cs, hcs, rfl⟩

/-- The first character belongs to the first of the texts in a row that is not empty. -/
theorem cons_mem_kstar_iff :
    c :: cs ∈ l∗ ↔ ∃ as bs, c :: as ∈ l ∧ bs ∈ l∗ ∧ as ++ bs = cs := by
  constructor
  · rw [Language.mem_kstar_iff_exists_nonempty]
    rintro ⟨row, hrow, hmem⟩
    match row with
    | [] => cases hrow
    | [] :: _ => exact absurd rfl (hmem [] List.mem_cons_self).2
    | (d :: as) :: more =>
      obtain ⟨rfl, rfl⟩ := List.cons.inj hrow
      refine ⟨as, more.flatten, (hmem _ List.mem_cons_self).1, Language.join_mem_kstar ?_, rfl⟩
      exact fun as has => (hmem as (List.mem_cons_of_mem _ has)).1
  · rintro ⟨as, bs, has, hbs, rfl⟩
    rw [← Language.one_add_self_mul_kstar_eq_kstar]
    exact (Language.mem_add ..).2 (.inr (Language.append_mem_mul has hbs))

end Language

namespace Pattern

/-! ### Reading a text -/

/-- The texts that a pattern stands for. -/
def language : Pattern → Language Char
  | empty => 1
  | one s => {cs | ∃ c, s.has c ∧ cs = [c]}
  | seq p q => p.language * q.language
  | either p q => p.language + q.language
  | many p => p.language∗

variable {p q : Pattern} {c : Char} {cs : List Char} {s : CharSet}

theorem mem_language_empty : cs ∈ empty.language ↔ cs = [] := Iff.rfl

theorem mem_language_one : cs ∈ (one s).language ↔ ∃ c, s.has c ∧ cs = [c] := Iff.rfl

theorem mem_language_seq :
    cs ∈ (seq p q).language ↔ ∃ as ∈ p.language, ∃ bs ∈ q.language, as ++ bs = cs :=
  Language.mem_mul

theorem mem_language_either :
    cs ∈ (either p q).language ↔ cs ∈ p.language ∨ cs ∈ q.language := Iff.rfl

theorem mem_language_many : cs ∈ (many p).language ↔ cs ∈ p.language∗ := Iff.rfl

/-- Whether the empty text is accepted is read off the pattern. -/
theorem acceptsEmpty_iff (p : Pattern) : p.acceptsEmpty = true ↔ [] ∈ p.language := by
  induction p with
  | empty => simp [acceptsEmpty, mem_language_empty]
  | one s => simp [acceptsEmpty, mem_language_one]
  | seq p q ihp ihq => simp [acceptsEmpty, language, ihp, ihq, nil_mem_mul_iff]
  | either p q ihp ihq => simp [acceptsEmpty, mem_language_either, ihp, ihq]
  | many p _ => simp [acceptsEmpty, language, Language.nil_mem_kstar]

/-- Leaving out an empty first part does not change the language. -/
theorem language_before (p q : Pattern) : (before p q).language = p.language * q.language := by
  cases p with
  | empty => exact (one_mul q.language).symm
  | _ => rfl

/-- What is left of the first part may be followed by the second. -/
theorem mem_rests_before (ps : List Pattern) (q : Pattern) (cs : List Char) :
    (∃ r ∈ ps.map (before · q), cs ∈ r.language) ↔
      ∃ as bs, (∃ r ∈ ps, as ∈ r.language) ∧ bs ∈ q.language ∧ as ++ bs = cs := by
  constructor
  · rintro ⟨_, hmem, hcs⟩
    obtain ⟨r, hr, rfl⟩ := List.mem_map.1 hmem
    rw [language_before, Language.mem_mul] at hcs
    obtain ⟨as, has, bs, hbs, rfl⟩ := hcs
    exact ⟨as, bs, ⟨r, hr, has⟩, hbs, rfl⟩
  · rintro ⟨as, bs, ⟨r, hr, has⟩, hbs, rfl⟩
    refine ⟨before r q, List.mem_map_of_mem hr, ?_⟩
    rw [language_before]
    exact Language.append_mem_mul has hbs

/-- A pattern matches a text if one of those that its first character leaves behind matches the
    rest. -/
theorem exists_mem_rests_iff (p : Pattern) :
    (∃ r ∈ rests c p, cs ∈ r.language) ↔ c :: cs ∈ p.language := by
  induction p generalizing cs with
  | empty => simp [rests, mem_language_empty]
  | one s =>
    by_cases hc : s.has c
    · simp [rests, hc, mem_language_empty, mem_language_one]
    · simp [rests, hc, mem_language_one]
  | seq p q ihp ihq =>
    have hfirst := mem_rests_before (rests c p) q cs
    simp only [ihp] at hfirst
    rw [language, cons_mem_mul_iff, rests, ← acceptsEmpty_iff]
    split
    · rename_i hempty
      simp only [List.mem_append, or_and_right, exists_or, hfirst, ihq, hempty, true_and]
    · rename_i hempty
      simp only [List.append_nil, hfirst, hempty, Bool.false_eq_true, false_and, or_false]
  | either p q ihp ihq =>
    simp only [rests, List.mem_append, or_and_right, exists_or, ihp, ihq, mem_language_either]
  | many p ih =>
    have hfirst := mem_rests_before (rests c p) (many p) cs
    simp only [ih] at hfirst
    rw [rests, hfirst, mem_language_many, cons_mem_kstar_iff]
    rfl

/-- One step with all patterns that are left: some of them matches the rest after it just if some
    matched before. -/
theorem exists_mem_advance_iff (ps : List Pattern) :
    (∃ r ∈ advance ps c, cs ∈ r.language) ↔ ∃ p ∈ ps, c :: cs ∈ p.language := by
  simp only [advance, List.mem_eraseDups, List.mem_flatMap, ← exists_mem_rests_iff]
  constructor
  · rintro ⟨r, ⟨p, hp, hr⟩, hcs⟩
    exact ⟨p, hp, r, hr, hcs⟩
  · rintro ⟨p, hp, r, hr, hcs⟩
    exact ⟨r, ⟨p, hp, hr⟩, hcs⟩

/-- Reading decides the language: a whole text is accepted exactly if the pattern stands for it. -/
theorem accepts_iff (p : Pattern) (cs : List Char) :
    p.accepts cs = true ↔ cs ∈ p.language := by
  suffices h : ∀ ps, (cs.foldl advance ps).any acceptsEmpty = true ↔
      ∃ p ∈ ps, cs ∈ p.language by
    rw [accepts, h]
    simp
  induction cs with
  | nil => simp [acceptsEmpty_iff]
  | cons c cs ih => simp [ih, exists_mem_advance_iff]

/-! ### Rows of characters -/

/-- A pattern stands for the rows of characters of a set whose length is of some kind. -/
def Rows (s : CharSet) (P : ℕ → Prop) (p : Pattern) : Prop :=
  ∀ cs, cs ∈ p.language ↔ P cs.length ∧ ∀ c ∈ cs, s.has c

namespace Rows

variable {P Q R : ℕ → Prop} {n low high : ℕ}

theorem one : Rows s (· = 1) (one s) := by
  intro cs
  show _ ↔ cs.length = 1 ∧ _
  rw [mem_language_one, List.length_eq_one_iff]
  constructor
  · rintro ⟨c, hc, rfl⟩
    exact ⟨⟨c, rfl⟩, by simpa using hc⟩
  · rintro ⟨⟨c, rfl⟩, hc⟩
    exact ⟨c, by simpa using hc, rfl⟩

theorem empty : Rows s (· = 0) empty := by
  intro cs
  show _ ↔ cs.length = 0 ∧ _
  rw [mem_language_empty, List.length_eq_zero_iff]
  exact ⟨fun h => ⟨h, by simp [h]⟩, And.left⟩

/-- Two rows make one, whose length is the sum of theirs. -/
theorem seq (hp : Rows s P p) (hq : Rows s Q q)
    (hlength : ∀ n, R n ↔ ∃ k ≤ n, P k ∧ Q (n - k)) : Rows s R (seq p q) := by
  intro cs
  rw [mem_language_seq, hlength]
  constructor
  · rintro ⟨as, has, bs, hbs, rfl⟩
    obtain ⟨hP, has⟩ := (hp as).1 has
    obtain ⟨hQ, hbs⟩ := (hq bs).1 hbs
    refine ⟨⟨as.length, ?_, hP, ?_⟩, List.forall_mem_append.2 ⟨has, hbs⟩⟩
    · simp
    · simpa using hQ
  · rintro ⟨⟨k, hk, hP, hQ⟩, hcs⟩
    refine ⟨cs.take k, (hp _).2 ⟨?_, fun c hc => hcs c (List.mem_of_mem_take hc)⟩, cs.drop k,
      (hq _).2 ⟨?_, fun c hc => hcs c (List.mem_of_mem_drop hc)⟩, List.take_append_drop k cs⟩
    · simpa [hk] using hP
    · simpa using hQ

/-- Rows of either kind are rows, whose length is of one kind or the other. -/
theorem either (hp : Rows s P p) (hq : Rows s Q q) (hlength : ∀ n, R n ↔ P n ∨ Q n) :
    Rows s R (either p q) := by
  intro cs
  rw [mem_language_either, hp, hq, hlength, or_and_right]

theorem times (n : ℕ) : Rows s (· = n) (times n (.one s)) := by
  induction n with
  | zero => exact empty
  | succ n ih =>
    refine one.seq ih fun k => ⟨?_, ?_⟩
    · rintro rfl
      exact ⟨1, by omega, rfl, by omega⟩
    · rintro ⟨_, hk, rfl, h⟩
      omega

/-- So many characters at the most: none, or one and so many others at the most. -/
theorem upTo (n : ℕ) : Rows s (· ≤ n) (upTo n (.one s)) := by
  induction n with
  | zero =>
    show Rows s (· ≤ 0) Pattern.empty
    simpa only [Nat.le_zero] using empty
  | succ n ih =>
    have hmore : Rows s (fun k => 1 ≤ k ∧ k ≤ n + 1) (.seq (.one s) (Pattern.upTo n (.one s))) := by
      refine one.seq ih fun k => ⟨fun h => ⟨1, h.1, rfl, by omega⟩, ?_⟩
      rintro ⟨_, hk, rfl, h⟩
      omega
    exact empty.either hmore fun k => by omega

/-- Any number of characters, which is shown by taking the first one off. -/
theorem many : Rows s (fun _ => True) (many (.one s)) := by
  intro cs
  induction cs with
  | nil => exact iff_of_true (Language.nil_mem_kstar _) ⟨trivial, by simp⟩
  | cons c cs ih =>
    rw [mem_language_many, cons_mem_kstar_iff, List.forall_mem_cons]
    constructor
    · rintro ⟨_, bs, ⟨d, hd, hone⟩, hbs, rfl⟩
      obtain ⟨rfl, rfl⟩ := List.cons.inj hone
      exact ⟨trivial, hd, (ih.1 hbs).2⟩
    · rintro ⟨-, hc, hcs⟩
      exact ⟨[], cs, ⟨c, hc, rfl⟩, ih.2 ⟨trivial, hcs⟩, rfl⟩

/-- So many characters, and some more up to the bound. -/
theorem between (h : low ≤ high) :
    Rows s (fun k => low ≤ k ∧ k ≤ high) (between low high (.one s)) := by
  refine (times low).seq (upTo (high - low)) fun k => ⟨fun hk => ⟨low, hk.1, rfl, by omega⟩, ?_⟩
  rintro ⟨_, hk, rfl, hle⟩
  omega

theorem atLeast (n : ℕ) : Rows s (n ≤ ·) (atLeast n (.one s)) := by
  refine (times n).seq many fun k => ⟨fun hk => ⟨n, hk, rfl, trivial⟩, ?_⟩
  rintro ⟨_, hk, rfl, -⟩
  exact hk

end Rows

variable {n low high : ℕ}

theorem mem_language_times :
    cs ∈ (times n (one s)).language ↔ cs.length = n ∧ ∀ c ∈ cs, s.has c := Rows.times n cs

theorem mem_language_many_one : cs ∈ (many (one s)).language ↔ ∀ c ∈ cs, s.has c :=
  by simpa using Rows.many cs

theorem mem_language_atLeast :
    cs ∈ (atLeast n (one s)).language ↔ n ≤ cs.length ∧ ∀ c ∈ cs, s.has c := Rows.atLeast n cs

/-- The form in which most patterns of forms are read: a bound below, a bound above, and a set. -/
theorem mem_language_between (h : low ≤ high) :
    cs ∈ (between low high (one s)).language ↔
      (low ≤ cs.length ∧ cs.length ≤ high) ∧ ∀ c ∈ cs, s.has c := Rows.between h cs

/-! ### Given texts -/

theorem mem_language_of_singleton : cs ∈ (one (CharSet.of [c])).language ↔ cs = [c] := by
  simp [mem_language_one]

/-- A fixed text stands for itself, character by character. -/
theorem mem_language_text (t : String) : cs ∈ (text t).language ↔ cs = t.toList := by
  rw [text]
  generalize t.toList = ds
  induction ds generalizing cs with
  | nil => exact mem_language_empty
  | cons d ds ih =>
    have hd : ∀ as, as ∈ (one [(d, d)]).language ↔ as = [d] := fun _ => mem_language_of_singleton
    rw [List.foldr_cons, mem_language_seq]
    simp [hd, ih, eq_comm]

theorem mem_language_optional : cs ∈ (optional p).language ↔ cs = [] ∨ cs ∈ p.language := Iff.rfl

end Pattern

end Gatehouse.Text

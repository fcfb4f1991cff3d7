import Gatehouse.Form
import Gatehouse.Proofs.Matched
import Mathlib

/-! Forms, filled in. Each check accepts the values of one grammar and no others. The grammars are
    told here without patterns: by the parts of a value, their lengths and their characters. -/

namespace Gatehouse.Form

open Text Text.Pattern

variable {c : Char} {cs : List Char}

/-! ### Kinds of characters -/

theorem has_lower : lower.has c = c.isLower := by
  simp [lower, CharSet.has, Char.isLower, Char.le_def]

theorem has_upper : upper.has c = c.isUpper := by
  simp [upper, CharSet.has, Char.isUpper, Char.le_def]

theorem has_digit : digit.has c = c.isDigit := by
  simp [digit, CharSet.has, Char.isDigit, Char.le_def]

theorem has_letter : letter.has c = c.isAlpha := by
  rw [letter, CharSet.has_append, has_lower, has_upper, Char.isAlpha, Bool.or_comm]

theorem has_alphanumeric_or (cs : List Char) :
    (letter ++ digit ++ CharSet.of cs).has c ↔ c.isAlphanum ∨ c ∈ cs := by
  rw [CharSet.has_append, CharSet.has_append, has_letter, has_digit, CharSet.has_of]
  simp [Char.isAlphanum]

/-! ### Mail addresses -/

/-- A mail address: exactly one at sign, a name in front of it, and behind it a domain whose last
    dot is not its first character and has nothing behind it but two to six letters. -/
structure IsEmail (cs : List Char) : Prop where
  once : cs.count '@' = 1
  parts : ∃ name domain, cs = name ++ '@' :: domain ∧
    name ≠ [] ∧ (∀ c ∈ name, c.isAlphanum ∨ c ∈ ['.', '_', '-']) ∧
    (∀ c ∈ domain, c.isAlphanum ∨ c ∈ ['.', '-']) ∧
    ∃ host top, domain = host ++ '.' :: top ∧ '.' ∉ top ∧ host ≠ [] ∧
      2 ≤ top.length ∧ top.length ≤ 6 ∧ ∀ c ∈ top, c.isAlpha

theorem mem_language_email : cs ∈ email.language ↔ ∃ name host top,
    cs = name ++ '@' :: (host ++ '.' :: top) ∧
      (1 ≤ name.length ∧ ∀ c ∈ name, c.isAlphanum ∨ c ∈ ['.', '_', '-']) ∧
      (1 ≤ host.length ∧ ∀ c ∈ host, c.isAlphanum ∨ c ∈ ['.', '-']) ∧
      (2 ≤ top.length ∧ top.length ≤ 6) ∧ ∀ c ∈ top, c.isAlpha := by
  simp only [email, all, mem_language_seq, mem_language_atLeast, mem_language_of_singleton,
    mem_language_between (show 2 ≤ 6 by decide), has_alphanumeric_or, has_letter]
  constructor
  · rintro ⟨name, hname, _, ⟨_, rfl, _, ⟨host, hhost, _, ⟨_, rfl, top, htop, rfl⟩, rfl⟩, rfl⟩, rfl⟩
    exact ⟨name, host, top, rfl, hname, hhost, htop⟩
  · rintro ⟨name, host, top, rfl, hname, hhost, htop⟩
    exact ⟨name, hname, _, ⟨_, rfl, _, ⟨host, hhost, _, ⟨_, rfl, top, htop, rfl⟩, rfl⟩, rfl⟩, rfl⟩

/-- A character that is no letter and no digit and is not listed does not occur. -/
theorem not_mem_of_listed {d : Char} {ds : List Char}
    (h : ∀ c ∈ cs, c.isAlphanum ∨ c ∈ ds) (hd : d.isAlphanum = false) (hds : d ∉ ds) : d ∉ cs := by
  intro hmem
  rcases h d hmem with halnum | hlisted
  · exact absurd halnum (by simp [hd])
  · exact hds hlisted

theorem isAlphanum_of_isAlpha (h : c.isAlpha) : c.isAlphanum := by
  simp [Char.isAlphanum, h]

theorem email_accepts_iff : email.accepts cs ↔ IsEmail cs := by
  rw [accepts_iff, mem_language_email]
  constructor
  · rintro ⟨name, host, top, rfl, ⟨hname, hnameChars⟩, ⟨hhost, hhostChars⟩, htop, htopChars⟩
    have hletters : ∀ c ∈ top, c.isAlphanum ∨ c ∈ [] :=
      fun c hc => .inl (isAlphanum_of_isAlpha (htopChars c hc))
    have hdomain : ∀ c ∈ host ++ '.' :: top, c.isAlphanum ∨ c ∈ ['.', '-'] := by
      refine List.forall_mem_append.2 ⟨hhostChars, List.forall_mem_cons.2 ⟨by simp, ?_⟩⟩
      exact fun c hc => (hletters c hc).imp_right fun h => by cases h
    refine ⟨?_, name, _, rfl, List.length_pos_iff.1 hname, hnameChars, hdomain, host, top, rfl,
      not_mem_of_listed hletters rfl (by decide), List.length_pos_iff.1 hhost, htop.1, htop.2,
      htopChars⟩
    have hinName : name.count '@' = 0 :=
      List.count_eq_zero.2 (not_mem_of_listed hnameChars rfl (by decide))
    have hinDomain : (host ++ '.' :: top).count '@' = 0 :=
      List.count_eq_zero.2 (not_mem_of_listed hdomain rfl (by decide))
    rw [List.count_append, List.count_cons_self, hinName, hinDomain]
  · rintro ⟨-, name, _, rfl, hname, hnameChars, hdomain, host, top, rfl, -, hhost, htwo, hsix, htop⟩
    exact ⟨name, host, top, rfl, ⟨List.length_pos_iff.2 hname, hnameChars⟩,
      ⟨List.length_pos_iff.2 hhost, fun c hc => hdomain c (List.mem_append_left _ hc)⟩,
      ⟨htwo, hsix⟩, htop⟩

/-! ### Passwords -/

/-- A strong password: at least eight letters, digits and special characters, and among them one of
    each kind, where small and capital letters are two kinds. -/
structure IsStrongPassword (cs : List Char) : Prop where
  length : 8 ≤ cs.length
  listed : ∀ c ∈ cs, c.isAlphanum ∨ c ∈ ['@', '$', '!', '%', '*', '?', '&']
  small : ∃ c ∈ cs, c.isLower
  capital : ∃ c ∈ cs, c.isUpper
  digit : ∃ c ∈ cs, c.isDigit
  special : ∃ c ∈ cs, c ∈ ['@', '$', '!', '%', '*', '?', '&']

/-- A text without a line break has no other line than the first. -/
theorem inFirstLine_iff {s : CharSet} (h : '\n' ∉ cs) :
    inFirstLine s cs ↔ ∃ c ∈ cs, s.has c := by
  have hall : cs.takeWhile (· ≠ '\n') = cs := by
    rw [List.takeWhile_eq_self_iff]
    intro c hc
    simpa using fun hbreak : c = '\n' => h (hbreak ▸ hc)
  rw [inFirstLine, hall, List.any_eq_true]

theorem strongPassword_accepts_iff (v : String) :
    Check.strongPassword.accepts v ↔ IsStrongPassword v.toList := by
  simp only [Check.accepts, Bool.and_eq_true, passwordBody, accepts_iff, mem_language_atLeast,
    special, has_alphanumeric_or, List.all_cons, List.all_nil]
  constructor
  · rintro ⟨⟨hlength, hlisted⟩, hsmall, hcapital, hdigit, hspecial, -⟩
    have hline := not_mem_of_listed (d := '\n') hlisted rfl (by decide)
    rw [inFirstLine_iff hline] at hsmall hcapital hdigit hspecial
    refine ⟨hlength, hlisted, ?_, ?_, ?_, ?_⟩
    · simpa only [has_lower] using hsmall
    · simpa only [has_upper] using hcapital
    · simpa only [has_digit] using hdigit
    · simpa only [CharSet.has_of, decide_eq_true_eq] using hspecial
  · rintro ⟨hlength, hlisted, hsmall, hcapital, hdigit, hspecial⟩
    have hline := not_mem_of_listed (d := '\n') hlisted rfl (by decide)
    simp only [inFirstLine_iff hline, has_lower, has_upper, has_digit, CharSet.has_of,
      decide_eq_true_eq]
    exact ⟨⟨hlength, hlisted⟩, hsmall, hcapital, hdigit, hspecial, trivial⟩

/-! ### Numbers and names -/

/-- A mobile number: a one, a digit from three on, and nine more digits. -/
def IsPhone (cs : List Char) : Prop :=
  ∃ d rest, cs = '1' :: d :: rest ∧ ('3' ≤ d ∧ d ≤ '9') ∧ rest.length = 9 ∧ ∀ c ∈ rest, c.isDigit

theorem phone_accepts_iff : phone.accepts cs ↔ IsPhone cs := by
  have hsecond : ∀ ds, ds ∈ (one [('3', '9')]).language ↔ ∃ d, ('3' ≤ d ∧ d ≤ '9') ∧ ds = [d] :=
    fun ds => by simp [mem_language_one, CharSet.has]
  simp only [accepts_iff, phone, all, mem_language_seq, mem_language_of_singleton,
    mem_language_times, hsecond, has_digit]
  constructor
  · rintro ⟨_, rfl, _, ⟨_, ⟨d, hd, rfl⟩, rest, hrest, rfl⟩, rfl⟩
    exact ⟨d, rest, rfl, hd, hrest⟩
  · rintro ⟨d, rest, rfl, hd, hrest⟩
    exact ⟨_, rfl, _, ⟨_, ⟨d, hd, rfl⟩, rest, hrest, rfl⟩, rfl⟩

/-- A user name: four to twenty letters, digits and underscores. -/
def IsUsername (cs : List Char) : Prop :=
  (4 ≤ cs.length ∧ cs.length ≤ 20) ∧ ∀ c ∈ cs, c.isAlphanum ∨ c ∈ ['_']

theorem username_accepts_iff : username.accepts cs ↔ IsUsername cs := by
  rw [accepts_iff, username, mem_language_between (by decide)]
  simp only [wordChar, has_alphanumeric_or, IsUsername]

/-- One to three digits. -/
def IsOctet (cs : List Char) : Prop :=
  (1 ≤ cs.length ∧ cs.length ≤ 3) ∧ ∀ c ∈ cs, c.isDigit

/-- A dotted quad: the dots divide it into four parts of one to three digits. -/
structure IsQuad (cs : List Char) : Prop where
  count : (cs.splitOn '.').length = 4
  octets : ∀ part ∈ cs.splitOn '.', IsOctet part

theorem mem_language_ip : cs ∈ ip.language ↔ ∃ parts : List (List Char),
    parts.length = 4 ∧ (∀ part ∈ parts, IsOctet part) ∧ cs = ['.'].intercalate parts := by
  simp only [ip, times, mem_language_seq, mem_language_empty, mem_language_of_singleton,
    mem_language_between (show 1 ≤ 3 by decide), has_digit]
  constructor
  · rintro ⟨_, ⟨_, ⟨a, ha, _, rfl, rfl⟩, _, ⟨_, ⟨b, hb, _, rfl, rfl⟩, _,
      ⟨_, ⟨c, hc, _, rfl, rfl⟩, _, rfl, rfl⟩, rfl⟩, rfl⟩, d, hd, rfl⟩
    refine ⟨[a, b, c, d], rfl, ?_, by simp [List.intercalate, List.intersperse]⟩
    simpa using ⟨ha, hb, hc, hd⟩
  · rintro ⟨parts, hlength, hparts, rfl⟩
    obtain ⟨a, b, c, d, rfl⟩ := List.length_eq_four.1 hlength
    simp only [List.forall_mem_cons] at hparts
    obtain ⟨ha, hb, hc, hd, -⟩ := hparts
    exact ⟨_, ⟨_, ⟨a, ha, _, rfl, rfl⟩, _, ⟨_, ⟨b, hb, _, rfl, rfl⟩, _,
      ⟨_, ⟨c, hc, _, rfl, rfl⟩, _, rfl, rfl⟩, rfl⟩, rfl⟩, d, hd,
      by simp [List.intercalate, List.intersperse]⟩

theorem ip_accepts_iff : ip.accepts cs ↔ IsQuad cs := by
  rw [accepts_iff, mem_language_ip]
  constructor
  · rintro ⟨parts, hlength, hparts, rfl⟩
    have hnone : ∀ part ∈ parts, '.' ∉ part := fun part hpart hdot =>
      absurd ((hparts part hpart).2 _ hdot) (by decide)
    have hsplit : (['.'].intercalate parts).splitOn '.' = parts :=
      List.splitOn_intercalate '.' hnone (by rintro rfl; cases hlength)
    exact ⟨hsplit.symm ▸ hlength, hsplit.symm ▸ hparts⟩
  · intro h
    exact ⟨_, h.count, h.octets, (List.intercalate_splitOn '.').symm⟩

/-! ### All but addresses -/

/-- The checks accept the values of their grammars: mail addresses, strong passwords, dotted quads,
    mobile numbers and user names, and nothing else. -/
theorem accepts_iff_grammar (v : String) :
    (Check.email.accepts v ↔ IsEmail v.toList) ∧
      (Check.strongPassword.accepts v ↔ IsStrongPassword v.toList) ∧
      (Check.ip.accepts v ↔ IsQuad v.toList) ∧
      (Check.phone.accepts v ↔ IsPhone v.toList) ∧
      (Check.username.accepts v ↔ IsUsername v.toList) :=
  ⟨email_accepts_iff, strongPassword_accepts_iff v, ip_accepts_iff, phone_accepts_iff,
    username_accepts_iff⟩

/-- A line break at the end is a character like any other. -/
example : Check.ip.accepts "10.0.0.1" ∧ ¬Check.ip.accepts "10.0.0.1\n" := by decide +kernel

/-! ### Addresses -/

/-- The scheme of an open address. -/
def plainScheme : List Char := ['h', 't', 't', 'p', ':', '/', '/']

/-- The scheme of a sealed address. -/
def secureScheme : List Char := ['h', 't', 't', 'p', 's', ':', '/', '/']

/-- What is left of an address without its scheme, if it has one. -/
def schemeless (cs : List Char) : List Char :=
  if plainScheme <+: cs then cs.drop plainScheme.length
  else if secureScheme <+: cs then cs.drop secureScheme.length
  else cs

/-- An address without a scheme has a dot in the place `i`: what stands in front of it is no more
    than a host, two small letters or dots follow, and then a path. -/
structure IsAddress (cs : List Char) (i : ℕ) : Prop where
  pos : 1 ≤ i
  dot : cs[i]? = some '.'
  host : ∀ c ∈ cs.take i, c.isDigit ∨ c.isLower ∨ c ∈ ['.', '-']
  first : ∃ c, cs[i + 1]? = some c ∧ (c.isLower ∨ c = '.')
  second : ∃ c, cs[i + 2]? = some c ∧ (c.isLower ∨ c = '.')
  path : ∀ c ∈ cs.drop (i + 3), c.isAlphanum ∨ c ∈ ['_', '/', ' ', '.', '-']

/-- An address, told by its parts instead of places. -/
theorem isAddress_iff {i : ℕ} : IsAddress cs i ↔ ∃ host a b path,
    cs = host ++ '.' :: a :: b :: path ∧ host.length = i ∧ host ≠ [] ∧
      (∀ c ∈ host, c.isDigit ∨ c.isLower ∨ c ∈ ['.', '-']) ∧ (a.isLower ∨ a = '.') ∧
      (b.isLower ∨ b = '.') ∧ ∀ c ∈ path, c.isAlphanum ∨ c ∈ ['_', '/', ' ', '.', '-'] := by
  constructor
  · rintro ⟨hpos, hdot, hhost, ⟨a, ha, hisa⟩, ⟨b, hb, hisb⟩, hpath⟩
    obtain ⟨hlt, hdot⟩ := List.getElem?_eq_some_iff.1 hdot
    obtain ⟨hlta, ha⟩ := List.getElem?_eq_some_iff.1 ha
    obtain ⟨hltb, hb⟩ := List.getElem?_eq_some_iff.1 hb
    have hlength : (cs.take i).length = i := by simp; omega
    refine ⟨cs.take i, a, b, cs.drop (i + 3), ?_, hlength, ?_, hhost, hisa, hisb, hpath⟩
    · rw [← hdot, ← ha, ← hb, List.getElem_cons_drop, List.getElem_cons_drop,
        List.getElem_cons_drop, List.take_append_drop]
    · rw [← List.length_pos_iff, hlength]
      exact hpos
  · rintro ⟨host, a, b, path, rfl, rfl, hne, hhost, ha, hb, hpath⟩
    refine ⟨List.length_pos_iff.2 hne, by simp, by simpa using hhost, ⟨a, ?_, ha⟩, ⟨b, ?_, hb⟩, ?_⟩
    · simp
    · simp
    · simpa using hpath

/-- What may stand behind the dot may stand in the path. -/
theorem listed_of_ending (h : c.isLower ∨ c = '.') :
    c.isAlphanum ∨ c ∈ ['_', '/', ' ', '.', '-'] := by
  rcases h with h | rfl
  · exact .inl (by simp [Char.isAlphanum, Char.isAlpha, h])
  · simp

/-- What may stand in the host may stand in the path. -/
theorem listed_of_host (h : c.isDigit ∨ c.isLower ∨ c ∈ ['.', '-']) :
    c.isAlphanum ∨ c ∈ ['_', '/', ' ', '.', '-'] := by
  rcases h with h | h | h
  · exact .inl (by simp [Char.isAlphanum, h])
  · exact listed_of_ending (.inl h)
  · exact .inr (List.mem_cons_of_mem _ (List.mem_cons_of_mem _ (List.mem_cons_of_mem _ h)))

/-- All characters of an address without a scheme may stand in its path. -/
theorem IsAddress.listed {i : ℕ} (h : IsAddress cs i) :
    ∀ c ∈ cs, c.isAlphanum ∨ c ∈ ['_', '/', ' ', '.', '-'] := by
  obtain ⟨host, a, b, path, rfl, -, -, hhost, ha, hb, hpath⟩ := isAddress_iff.1 h
  refine List.forall_mem_append.2 ⟨fun c hc => listed_of_host (hhost c hc), ?_⟩
  exact List.forall_mem_cons.2 ⟨by simp, List.forall_mem_cons.2 ⟨listed_of_ending ha,
    List.forall_mem_cons.2 ⟨listed_of_ending hb, hpath⟩⟩⟩

theorem schemeless_plain (rest : List Char) : schemeless (plainScheme ++ rest) = rest := by
  simp [schemeless]

theorem schemeless_secure (rest : List Char) : schemeless (secureScheme ++ rest) = rest := by
  have hother : ¬plainScheme <+: secureScheme ++ rest := by
    simp [plainScheme, secureScheme]
  rw [schemeless, if_neg hother]
  simp

theorem schemeless_of_no_colon (h : ':' ∉ cs) : schemeless cs = cs := by
  have hnone : ∀ scheme : List Char, ':' ∈ scheme → ¬scheme <+: cs :=
    fun scheme hcolon hbegins => h (hbegins.subset hcolon)
  rw [schemeless, if_neg (hnone plainScheme (by simp [plainScheme])),
    if_neg (hnone secureScheme (by simp [secureScheme]))]

/-- Nothing but a scheme has been taken away. -/
theorem exists_scheme (cs : List Char) :
    ∃ scheme ∈ [[], plainScheme, secureScheme], scheme ++ schemeless cs = cs := by
  unfold schemeless
  split
  · rename_i h
    exact ⟨plainScheme, by simp, List.prefix_iff_eq_append.1 h⟩
  · split
    · rename_i h
      exact ⟨secureScheme, by simp, List.prefix_iff_eq_append.1 h⟩
    · exact ⟨[], by simp, rfl⟩

theorem mem_language_scheme :
    cs ∈ (optional (all [text "http", optional (text "s"), text "://"])).language ↔
      cs ∈ [[], plainScheme, secureScheme] := by
  simp only [mem_language_optional, all, mem_language_seq, mem_language_text, List.mem_cons,
    List.not_mem_nil, or_false]
  constructor
  · rintro (rfl | ⟨_, rfl, _, ⟨_, rfl | rfl, _, rfl, rfl⟩, rfl⟩)
    · exact .inl rfl
    · exact .inr (.inl (by simp [plainScheme]))
    · exact .inr (.inr (by simp [secureScheme]))
  · rintro (rfl | rfl | rfl)
    · exact .inl rfl
    · exact .inr ⟨_, rfl, _, ⟨_, .inl rfl, _, rfl, rfl⟩, by simp [plainScheme]⟩
    · exact .inr ⟨_, rfl, _, ⟨_, .inr rfl, _, rfl, rfl⟩, by simp [secureScheme]⟩

theorem has_hostChar : (digit ++ lower ++ CharSet.of ['.', '-']).has c ↔
    c.isDigit ∨ c.isLower ∨ c ∈ ['.', '-'] := by
  rw [CharSet.has_append, CharSet.has_append, has_digit, has_lower, CharSet.has_of]
  simp [or_assoc]

theorem has_endingChar : (lower ++ CharSet.of ['.']).has c ↔ c.isLower ∨ c = '.' := by
  rw [CharSet.has_append, has_lower, CharSet.has_of]
  simp

theorem has_pathChar : (wordChar ++ CharSet.of ['/', ' ', '.', '-']).has c ↔
    c.isAlphanum ∨ c ∈ ['_', '/', ' ', '.', '-'] := by
  rw [CharSet.has_append, Bool.or_eq_true, wordChar, has_alphanumeric_or, CharSet.has_of]
  simp [or_assoc]

/-- The pattern of what follows the scheme: all but the first two characters of the ending may as
    well be read as the beginning of the path. -/
theorem mem_language_address :
    cs ∈ (all [atLeast 1 (one (digit ++ lower ++ CharSet.of ['.', '-'])), one (CharSet.of ['.']),
      between 2 6 (one (lower ++ CharSet.of ['.'])),
      many (one (wordChar ++ CharSet.of ['/', ' ', '.', '-'])), optional (text "/")]).language ↔
    ∃ i, IsAddress cs i := by
  simp only [all, mem_language_seq, mem_language_atLeast, mem_language_of_singleton,
    mem_language_between (show 2 ≤ 6 by decide), mem_language_many_one, mem_language_optional,
    mem_language_text, has_hostChar, has_endingChar, has_pathChar, isAddress_iff]
  constructor
  · rintro ⟨host, ⟨hne, hhost⟩, _, ⟨_, rfl, _, ⟨ending, ⟨⟨hlength, -⟩, hending⟩, _, ⟨path, hpath,
      slash, hslash, rfl⟩, rfl⟩, rfl⟩, rfl⟩
    match ending, hlength with
    | a :: b :: more, _ =>
      obtain ⟨ha, hb, hmore⟩ := by simpa only [List.forall_mem_cons] using hending
      have hslashChars : ∀ c ∈ slash, c.isAlphanum ∨ c ∈ ['_', '/', ' ', '.', '-'] := by
        rcases hslash with rfl | rfl <;> simp
      have hmoreChars : ∀ c ∈ more, c.isAlphanum ∨ c ∈ ['_', '/', ' ', '.', '-'] :=
        fun c hc => listed_of_ending (hmore c hc)
      exact ⟨_, host, a, b, more ++ (path ++ slash), rfl, rfl, List.length_pos_iff.1 hne, hhost, ha,
        hb, List.forall_mem_append.2 ⟨hmoreChars, List.forall_mem_append.2 ⟨hpath, hslashChars⟩⟩⟩
  · rintro ⟨_, host, a, b, path, rfl, -, hne, hhost, ha, hb, hpath⟩
    refine ⟨host, ⟨List.length_pos_iff.2 hne, hhost⟩, _, ⟨_, rfl, _, ⟨[a, b], ⟨by simp, ?_⟩, _,
      ⟨path, hpath, [], .inl rfl, rfl⟩, rfl⟩, rfl⟩, by simp⟩
    simpa using ⟨ha, hb⟩

theorem url_accepts_iff : url.accepts cs ↔ ∃ i, IsAddress (schemeless cs) i := by
  rw [accepts_iff]
  show cs ∈ (seq _ _).language ↔ _
  simp only [mem_language_seq, mem_language_scheme]
  constructor
  · rintro ⟨scheme, hscheme, rest, hrest, rfl⟩
    obtain ⟨i, h⟩ := mem_language_address.1 hrest
    have hcolon : ':' ∉ rest := not_mem_of_listed h.listed rfl (by decide)
    simp only [List.mem_cons, List.not_mem_nil, or_false] at hscheme
    rcases hscheme with rfl | rfl | rfl
    · exact ⟨i, (schemeless_of_no_colon hcolon).symm ▸ h⟩
    · exact ⟨i, (schemeless_plain rest).symm ▸ h⟩
    · exact ⟨i, (schemeless_secure rest).symm ▸ h⟩
  · rintro ⟨i, h⟩
    obtain ⟨scheme, hscheme, happend⟩ := exists_scheme cs
    exact ⟨scheme, hscheme, _, mem_language_address.2 ⟨i, h⟩, happend⟩

/-- Letters and digits are ASCII characters. -/
theorem toNat_lt_of_isAlphanum (h : c.isAlphanum) : c.toNat < 128 := by
  simp only [Char.isAlphanum, Char.isAlpha, Char.isUpper, Char.isLower, Char.isDigit,
    Bool.or_eq_true, Bool.and_eq_true, decide_eq_true_eq, UInt32.le_iff_toNat_le] at h
  change ((65 ≤ c.toNat ∧ c.toNat ≤ 90) ∨ (97 ≤ c.toNat ∧ c.toNat ≤ 122)) ∨
    (48 ≤ c.toNat ∧ c.toNat ≤ 57) at h
  omega

/-- The check of addresses looks for a dot with a host in front of it, and with two small letters or
    dots and a path behind it; how long the run of small letters and dots is does not matter. No
    address has a line break, a character that is not ASCII, or a colon outside its scheme. -/
theorem accepts_address_iff (v : String) :
    (Check.url.accepts v ↔ ∃ i, IsAddress (schemeless v.toList) i) ∧
      (Check.url.accepts v →
        '\n' ∉ v.toList ∧ ':' ∉ schemeless v.toList ∧ ∀ c ∈ v.toList, c.toNat < 128) := by
  refine ⟨url_accepts_iff, fun haccepts => ?_⟩
  obtain ⟨i, h⟩ := url_accepts_iff.1 haccepts
  obtain ⟨scheme, hscheme, happend⟩ := exists_scheme v.toList
  have hschemes : ∀ scheme ∈ [[], plainScheme, secureScheme],
      '\n' ∉ scheme ∧ ∀ c ∈ scheme, c.toNat < 128 := by
    simp [plainScheme, secureScheme]
  have hmarks : ∀ c ∈ ['_', '/', ' ', '.', '-'], c.toNat < 128 := by simp
  obtain ⟨hbreak, hasciiScheme⟩ := hschemes scheme hscheme
  have hascii : ∀ c ∈ schemeless v.toList, c.toNat < 128 := by
    intro c hc
    rcases h.listed c hc with halnum | hlisted
    · exact toNat_lt_of_isAlphanum halnum
    · exact hmarks c hlisted
  refine ⟨?_, not_mem_of_listed h.listed rfl (by decide), ?_⟩
  · rw [← happend, List.mem_append, not_or]
    exact ⟨hbreak, not_mem_of_listed h.listed rfl (by decide)⟩
  · rw [← happend]
    exact List.forall_mem_append.2 ⟨hasciiScheme, hascii⟩

/-- An address with a scheme, two dots and a path. -/
theorem accepts_address_iff_vault :
    Check.url.accepts "https://vault.example.com/api" ∧
      (∃ i, IsAddress (schemeless "https://vault.example.com/api".toList) i) ∧
      ':' ∉ schemeless "https://vault.example.com/api".toList := by
  have haccepts : Check.url.accepts "https://vault.example.com/api" := by decide +kernel
  obtain ⟨hiff, honly⟩ := accepts_address_iff "https://vault.example.com/api"
  exact ⟨haccepts, hiff.1 haccepts, (honly haccepts).2.1⟩

end Gatehouse.Form

import Gatehouse.Json.Writer

/-! What is written is scanned as the tokens it was written with. A quoted text comes back whatever
    characters are in it: each of them is written so that the scan, wherever it stands in the text,
    has read just that character more. A word, which has nothing in it that ends a word, comes back
    as long as what follows ends it; and all that the writer puts behind a value does. So the scan
    of a written value is its tokens, one after another, and then what follows the value. -/

namespace Gatehouse

namespace Text

/-- Four digits in base sixteen are enough for a sixteen-bit unit. -/
theorem hex_four {n : Nat} (h : n < 0x10000) :
    hex 4 n = [Nat.digitChar (n / 4096), Nat.digitChar (n / 256 % 16),
      Nat.digitChar (n / 16 % 16), Nat.digitChar (n % 16)] := by
  have hb : (1 : Nat) < 16 := by decide
  rcases Nat.lt_or_ge n 16 with h₁ | h₁
  · rw [hex, Nat.toDigits_of_lt_base h₁, Nat.div_eq_of_lt (show n < 4096 by omega),
      Nat.div_eq_of_lt (show n < 256 by omega), Nat.div_eq_of_lt h₁, Nat.mod_eq_of_lt h₁]
    rfl
  rw [hex, Nat.toDigits_of_base_le hb h₁]
  rcases Nat.lt_or_ge n 256 with h₂ | h₂
  · rw [Nat.toDigits_of_lt_base (show n / 16 < 16 by omega),
      Nat.div_eq_of_lt (show n < 4096 by omega), Nat.div_eq_of_lt h₂,
      Nat.mod_eq_of_lt (show n / 16 < 16 by omega)]
    rfl
  rw [Nat.toDigits_of_base_le hb (show 16 ≤ n / 16 by omega), Nat.div_div_eq_div_mul]
  rcases Nat.lt_or_ge n 4096 with h₃ | h₃
  · rw [Nat.toDigits_of_lt_base (show n / (16 * 16) < 16 by omega), Nat.div_eq_of_lt h₃,
      Nat.mod_eq_of_lt (show n / 256 < 16 by omega)]
    rfl
  rw [Nat.toDigits_of_base_le hb (show 16 ≤ n / (16 * 16) by omega), Nat.div_div_eq_div_mul,
    Nat.toDigits_of_lt_base (show n / (16 * 16 * 16) < 16 by omega)]
  rfl

end Text

namespace Json

/-! ### Escapes -/

theorem hexValue_digitChar {n : Nat} (h : n < 16) : hexValue? (Nat.digitChar n) = some n := by
  have all : ∀ n : Fin 16, hexValue? (Nat.digitChar n) = some n.val := by decide
  exact all ⟨n, h⟩

theorem unit_digits {n : Nat} (h : n < 0x10000) :
    unit? (Nat.digitChar (n / 4096)) (Nat.digitChar (n / 256 % 16))
      (Nat.digitChar (n / 16 % 16)) (Nat.digitChar (n % 16)) = some n := by
  rw [unit?, hexValue_digitChar (show n / 4096 < 16 by omega),
    hexValue_digitChar (show n / 256 % 16 < 16 by omega),
    hexValue_digitChar (show n / 16 % 16 < 16 by omega),
    hexValue_digitChar (show n % 16 < 16 by omega)]
  have value : ((n / 4096 * 16 + n / 256 % 16) * 16 + n / 16 % 16) * 16 + n % 16 = n := by omega
  simp only [Option.bind_eq_bind, Option.bind_some, value]
  rfl

variable {mends : Bool} {read : List Char} {half : Option Nat} {rest : List Char}

theorem scan_escapedUnit {n : Nat} (h : n < 0x10000) :
    scan mends (.inText read half) (escapedUnit n ++ rest) =
      (joined? mends read half n).bind fun place => scan mends place rest := by
  rw [escapedUnit, Text.hex_four h]
  simp only [List.cons_append, List.nil_append]
  rw [scan, unit_digits h]
  rfl

theorem joined_single {n : Nat} (high : isHigh n = false) (low : isLow n = false) :
    joined? mends read none n = some (.inText (Char.ofNat n :: read) none) := by
  simp [joined?, settled?, high, low]

/-- A unit that opens a pair waits for its partner. -/
theorem joined_high {n : Nat} (high : isHigh n = true) :
    joined? mends read none n = some (.inText read (some n)) := by
  simp [joined?, settled?, high]

theorem joined_low {m n : Nat} (low : isLow n = true) :
    joined? mends read (some m) n = some (.inText (pairChar m n :: read) none) := by
  simp [joined?, low]

/-- A character is no half of a pair. -/
theorem char_isSingle (c : Char) : isHigh c.toNat = false ∧ isLow c.toNat = false := by
  have valid : c.toNat < 0xd800 ∨ 0xdfff < c.toNat := by
    rcases c.valid with h | h
    · exact .inl h
    · exact .inr h.1
  constructor
  · rw [isHigh, Bool.and_eq_false_iff, decide_eq_false_iff_not, decide_eq_false_iff_not]
    omega
  · rw [isLow, Bool.and_eq_false_iff, decide_eq_false_iff_not, decide_eq_false_iff_not]
    omega

theorem scan_plain {c : Char} (h : 0x20 ≤ c.toNat) (quote : c ≠ '"') (slash : c ≠ '\\') :
    scan mends (.inText read none) (c :: rest) = scan mends (.inText (c :: read) none) rest := by
  rw [scan]
  · simp [settled?, Nat.not_lt.mpr h, slash]
  · exact quote
  · exact fun _ _ _ _ _ hc => absurd hc slash
  · exact fun _ _ hc => absurd hc slash

theorem scan_letter {c x : Char} (h : unescape? c = some x) (hu : c ≠ 'u') :
    scan mends (.inText read none) ('\\' :: c :: rest) =
      scan mends (.inText (x :: read) none) rest := by
  rw [scan]
  · simp [settled?, h]
  · exact fun _ _ _ _ _ hc => absurd hc hu

/-- The pair of units that a character beyond the sixteen bits is written with. -/
theorem pairChar_units {c : Char} (h : 0x10000 ≤ c.toNat) :
    pairChar (0xd800 + (c.toNat - 0x10000) / 0x400) (0xdc00 + (c.toNat - 0x10000) % 0x400) = c := by
  have value : 0x10000 + (0xd800 + (c.toNat - 0x10000) / 0x400 - 0xd800) * 0x400 +
      (0xdc00 + (c.toNat - 0x10000) % 0x400 - 0xdc00) = c.toNat := by omega
  rw [pairChar, value, Char.ofNat_toNat]

/-- However a character is written, the scan has read just that character more. -/
theorem scan_char (s : Style) (c : Char) :
    scan mends (.inText read none) (s.char c ++ rest) =
      scan mends (.inText (c :: read) none) rest := by
  obtain ⟨high, low⟩ := char_isSingle c
  have bound : c.toNat < 0x110000 := by
    rcases c.valid with h | h
    · exact Nat.lt_trans h (by decide)
    · exact h.2
  have single (h : c.toNat < 0x10000) :
      scan mends (.inText read none) (escapedUnit c.toNat ++ rest) =
        scan mends (.inText (c :: read) none) rest := by
    rw [scan_escapedUnit h, joined_single high low, Char.ofNat_toNat]
    rfl
  unfold Style.char
  split
  case isTrue h =>
    rcases Bool.or_eq_true_iff.mp h with h | h <;> rw [decide_eq_true_eq] at h <;> subst h
    · exact scan_letter rfl (by decide)
    · exact scan_letter rfl (by decide)
  case isFalse h =>
    simp only [Bool.or_eq_true, decide_eq_true_eq, not_or] at h
    split
    case isTrue h => subst h; exact scan_letter rfl (by decide)
    split
    case isTrue h => subst h; exact scan_letter rfl (by decide)
    split
    case isTrue h => subst h; exact scan_letter rfl (by decide)
    split
    case isTrue h => subst h; exact scan_letter rfl (by decide)
    split
    case isTrue h => subst h; exact scan_letter rfl (by decide)
    split
    case isTrue small => exact single (by omega)
    case isFalse small =>
      split
      case isTrue => exact scan_plain (Nat.le_of_not_lt small) h.1 h.2
      split
      case isTrue fits => exact single fits
      case isFalse far =>
        have far : 0x10000 ≤ c.toNat := Nat.le_of_not_lt far
        rw [List.append_assoc, scan_escapedUnit (by omega), joined_high, Option.bind_some,
          scan_escapedUnit (by omega), joined_low, Option.bind_some, pairChar_units far]
        all_goals simp only [isHigh, isLow, Bool.and_eq_true, decide_eq_true_eq]
        all_goals omega

theorem scan_chars (s : Style) (cs : List Char) (read rest : List Char) :
    scan mends (.inText read none) (cs.flatMap s.char ++ rest) =
      scan mends (.inText (cs.reverse ++ read) none) rest := by
  induction cs generalizing read with
  | nil => rfl
  | cons c cs ih =>
    rw [List.flatMap_cons, List.append_assoc, scan_char, ih, List.reverse_cons, List.append_assoc]
    rfl

/-- A quoted text comes back, whatever is in it. -/
theorem scan_text (s : Style) (t : String) :
    scan mends .between (s.text t ++ rest) = (scan mends .between rest).map (.text t :: ·) := by
  have opened : scan mends .between (s.text t ++ rest) =
      scan mends (.inText [] none) (t.toList.flatMap s.char ++ '"' :: rest) := by
    rw [Style.text, List.cons_append, List.cons_append, List.append_assoc, scan] <;>
      simp [Place.ended]
  rw [opened, scan_chars, scan]
  cases scan mends .between rest with
  | none => rfl
  | some tokens => simp [settled?]

/-! ### Words and marks -/

/-- Whether a character can be part of a word. -/
def isWordChar (c : Char) : Bool := c ≠ '"' && !isSpace c && (mark? c).isNone

/-- Characters that are a word when something that ends it comes next. -/
structure IsWord (cs : List Char) : Prop where
  nonempty : cs ≠ []
  chars : ∀ c ∈ cs, isWordChar c = true

/-- The characters of a fixed text are checked by going through them once. -/
theorem IsWord.of_all {cs : List Char} (nonempty : cs.isEmpty = false)
    (chars : cs.all isWordChar = true) : IsWord cs where
  nonempty := by
    rintro rfl
    cases nonempty
  chars := List.all_eq_true.mp chars

/-- Whether a text begins with something that ends a word. -/
def EndsWord : List Char → Prop
  | [] => True
  | c :: _ => isWordChar c = false

/-- A character of a word is taken to those read so far. -/
theorem scan_wordChar {place : Place} (hp : ∀ read half, place ≠ .inText read half) {c : Char}
    (hc : isWordChar c = true) :
    scan mends place (c :: rest) = scan mends (.inWord (c :: place.pending)) rest := by
  simp only [isWordChar, Bool.and_eq_true, decide_eq_true_eq, Bool.not_eq_true',
    Option.isNone_iff_eq_none] at hc
  obtain ⟨⟨quote, blank⟩, mark⟩ := hc
  rw [scan]
  · simp [quote, blank, mark]
  · exact fun _ _ h => absurd h (hp _ _)
  · exact fun _ _ _ _ _ _ _ h => absurd h (hp _ _)
  · exact fun _ _ _ _ h => absurd h (hp _ _)
  · exact fun _ _ h => absurd h (hp _ _)

theorem scan_wordChars {cs : List Char} (h : ∀ c ∈ cs, isWordChar c = true)
    (read rest : List Char) :
    scan mends (.inWord read) (cs ++ rest) = scan mends (.inWord (cs.reverse ++ read)) rest := by
  induction cs generalizing read with
  | nil => rfl
  | cons c cs ih =>
    obtain ⟨hc, hcs⟩ := List.forall_mem_cons.mp h
    rw [List.cons_append, scan_wordChar (by simp) hc, Place.pending, ih hcs, List.reverse_cons,
      List.append_assoc]
    rfl

/-- A word ends where something comes that ends it. -/
theorem scan_ended (h : EndsWord rest) :
    scan mends (.inWord read) rest =
      (scan mends .between rest).map (.word read.reverse :: ·) := by
  cases rest with
  | nil => rw [scan, scan] <;> simp [Place.ended]
  | cons c rest =>
    simp only [EndsWord, isWordChar, Bool.and_eq_false_iff, decide_eq_false_iff_not,
      Bool.not_eq_false', ne_eq, Classical.not_not, Option.isNone_eq_false_iff] at h
    rw [scan, scan] <;> try simp
    by_cases quote : c = '"'
    · simp [quote, Place.ended]
    by_cases blank : isSpace c
    · simp [quote, blank, Place.ended]
    obtain ⟨token, mark⟩ := Option.isSome_iff_exists.mp (h.resolve_left (by simp [quote, blank]))
    simp [quote, blank, mark, Place.ended, Function.comp_def]

/-- A word comes back where something comes that ends it. -/
theorem scan_word {cs : List Char} (hw : IsWord cs) (h : EndsWord rest) :
    scan mends .between (cs ++ rest) = (scan mends .between rest).map (.word cs :: ·) := by
  obtain ⟨nonempty, chars⟩ := hw
  cases cs with
  | nil => exact absurd rfl nonempty
  | cons c cs =>
    obtain ⟨hc, hcs⟩ := List.forall_mem_cons.mp chars
    rw [List.cons_append, scan_wordChar (by simp) hc, scan_wordChars hcs, scan_ended h]
    simp [Place.pending]

theorem scan_mark {c : Char} {token : Token} (h : mark? c = some token) (quote : c ≠ '"')
    (blank : isSpace c = false) :
    scan mends .between (c :: rest) = (scan mends .between rest).map (token :: ·) := by
  rw [scan] <;> simp [quote, blank, h, Place.ended]

theorem endsWord_mark {c : Char} {token : Token} (h : mark? c = some token) :
    EndsWord (c :: rest) := by
  simp [EndsWord, isWordChar, h]

theorem scan_blanks {blanks : List Char} (h : ∀ c ∈ blanks, isSpace c = true) :
    scan mends .between (blanks ++ rest) = scan mends .between rest := by
  induction blanks with
  | nil => rfl
  | cons c blanks ih =>
    obtain ⟨hc, hcs⟩ := List.forall_mem_cons.mp h
    have quote : c ≠ '"' := by rintro rfl; exact absurd hc (by decide)
    rw [List.cons_append, scan, ih hcs] <;> simp [quote, hc, Place.ended]

/-! ### Numbers -/

/-- A digit can be part of a word. -/
theorem isWordChar_of_isDigit {c : Char} (h : c.isDigit = true) : isWordChar c = true := by
  have apart : ∀ d ∈ ['"', ' ', '\t', '\n', '\r', '[', ']', '\x7b', '\x7d', ',', ':'], c ≠ d := by
    have digits : ∀ d ∈ ['"', ' ', '\t', '\n', '\r', '[', ']', '\x7b', '\x7d', ',', ':'],
        d.isDigit = false := by simp
    rintro d hd rfl
    rw [digits c hd] at h
    cases h
  simp only [List.forall_mem_cons] at apart
  obtain ⟨quote, space, tab, line, feed, l, l', o, o', comma, colon, -⟩ := apart
  simp [isWordChar, isSpace, mark?, quote, space, tab, line, feed, l, l', o, o', comma, colon]

theorem isDigit_digitsOf (n : Nat) : ∀ c ∈ Decimal.digitsOf n, c.isDigit = true :=
  fun _ h => Nat.isDigit_of_mem_toDigits (by decide) (by decide) h

theorem isWord_digitsOf (n : Nat) : IsWord (Decimal.digitsOf n) where
  nonempty := Nat.toDigits_ne_nil
  chars c h := isWordChar_of_isDigit (isDigit_digitsOf n c h)

theorem IsWord.negative {cs : List Char} (h : IsWord cs) : IsWord ('-' :: cs) where
  nonempty := List.cons_ne_nil _ _
  chars := List.forall_mem_cons.mpr ⟨rfl, h.chars⟩

/-- The text of an integer: its digits, with a sign in front where it is negative. -/
theorem toString_int (n : Int) : (toString n).toList =
    if n < 0 then '-' :: Decimal.digitsOf n.natAbs else Decimal.digitsOf n.natAbs := by
  have digits (m : Nat) : m.repr.toList = Decimal.digitsOf m := by
    rw [Nat.repr_eq_ofList_toDigits, String.toList_ofList, Decimal.digitsOf]
  cases n with
  | ofNat m =>
    have text : toString (Int.ofNat m) = m.repr := rfl
    have natural : ¬ Int.ofNat m < 0 := Int.not_lt.mpr (Int.natCast_nonneg m)
    rw [text, digits, if_neg natural]
    rfl
  | negSucc m =>
    have text : toString (Int.negSucc m) = "-" ++ (m + 1).repr := rfl
    rw [text, String.toList_append, digits, if_pos (Int.negSucc_lt_zero m)]
    rfl

theorem isWord_int (n : Int) : IsWord (toString n).toList := by
  rw [toString_int]
  split
  · exact (isWord_digitsOf _).negative
  · exact isWord_digitsOf _

theorem isWordChar_zeros {n : Nat} : ∀ c ∈ List.replicate n '0', isWordChar c = true := by
  intro c h
  rw [List.eq_of_mem_replicate h]
  rfl

/-- A magnitude is a word, whatever the layout. -/
theorem isWord_magnitude (f : Decimal.Layout) (d : Decimal.Magnitude) :
    IsWord (f.magnitude d) := by
  obtain ⟨nonempty, chars⟩ := isWord_digitsOf d.digits
  unfold Decimal.Layout.magnitude
  simp only
  split
  · -- the positional cases: the point after, inside or before the digits
    split
    · refine ⟨by simp, ?_⟩
      simp only [List.forall_mem_append]
      exact ⟨⟨chars, isWordChar_zeros⟩, List.all_eq_true.mp rfl⟩
    split
    · refine ⟨by simp, ?_⟩
      simp only [List.forall_mem_append, List.forall_mem_cons]
      exact ⟨fun c h => chars c (List.mem_of_mem_take h), rfl,
        fun c h => chars c (List.mem_of_mem_drop h)⟩
    · refine ⟨by simp, ?_⟩
      simp only [List.forall_mem_append]
      exact ⟨⟨List.all_eq_true.mp rfl, isWordChar_zeros⟩, chars⟩
  · refine ⟨by simp, ?_⟩
    simp only [List.forall_mem_append, Decimal.padded]
    refine ⟨⟨?mantissa, ?sign⟩, isWordChar_zeros, (isWord_digitsOf _).chars⟩
    case sign => split <;> exact List.all_eq_true.mp rfl
    case mantissa =>
      split
      case h_1 first second rest heq =>
        rw [heq, List.forall_mem_cons] at chars
        exact List.forall_mem_cons.mpr ⟨chars.1, List.forall_mem_cons.mpr ⟨rfl, chars.2⟩⟩
      case h_2 => exact chars

/-- A number is a word, if the layout has words for what is not finite. -/
theorem isWord_render {f : Decimal.Layout} (nan : IsWord f.nan.toList)
    (infinity : IsWord f.infinity.toList) (minus : IsWord f.minusInfinity.toList) (x : Float) :
    IsWord (f.render x).toList := by
  unfold Decimal.Layout.render
  split
  · split
    · exact nan
    split
    · exact minus
    · exact infinity
  case h_2 b _ =>
    have body : IsWord (if b.units = 0 then ['0', '.', '0'] else f.magnitude b.shortest) := by
      split
      · exact .of_all rfl rfl
      · exact isWord_magnitude f b.shortest
    rw [String.toList_ofList]
    split
    · exact body.negative
    · exact body

/-! ### Values -/

mutual

/-- The tokens that a value is written with. -/
def Style.tokens (s : Style) : Json → List Token
  | .null => [.word "null".toList]
  | .bool true => [.word "true".toList]
  | .bool false => [.word "false".toList]
  | .int n => [.word (toString n).toList]
  | .float x => [.word (s.number.render x).toList]
  | .str t => [.text t]
  | .arr [] => [.openList, .closeList]
  | .arr (v :: items) => .openList :: s.tokens v ++ s.itemTokens items ++ [.closeList]
  | .obj [] => [.openObject, .closeObject]
  | .obj ((k, v) :: fields) =>
    .openObject :: .text k :: .colon :: s.tokens v ++ s.fieldTokens fields ++ [.closeObject]

/-- The tokens of the items after the first one. -/
def Style.itemTokens (s : Style) : List Json → List Token
  | [] => []
  | v :: items => .comma :: s.tokens v ++ s.itemTokens items

/-- The tokens of the fields after the first one. -/
def Style.fieldTokens (s : Style) : List (String × Json) → List Token
  | [] => []
  | (k, v) :: fields => .comma :: .text k :: .colon :: s.tokens v ++ s.fieldTokens fields

end

/-- A style that can be read again: nothing but blanks stands behind its commas and colons, and its
    numbers are words. -/
structure Style.IsReadable (s : Style) : Prop where
  comma : ∃ blanks, s.comma = ',' :: blanks ∧ ∀ c ∈ blanks, isSpace c = true
  colon : ∃ blanks, s.colon = ':' :: blanks ∧ ∀ c ∈ blanks, isSpace c = true
  number : ∀ x, IsWord (s.number.render x).toList

theorem Style.document_isReadable : Style.document.IsReadable where
  comma := ⟨[], rfl, by simp⟩
  colon := ⟨[], rfl, by simp⟩
  number := isWord_render (.of_all rfl rfl) (.of_all rfl rfl) (.of_all rfl rfl)

theorem Style.slot_isReadable : Style.slot.IsReadable where
  comma := ⟨[' '], rfl, List.all_eq_true.mp rfl⟩
  colon := ⟨[' '], rfl, List.all_eq_true.mp rfl⟩
  number := isWord_render (.of_all rfl rfl) (.of_all rfl rfl) (.of_all rfl rfl)

variable {s : Style}

/-- A comma with the blanks behind it is a comma. -/
theorem scan_comma (hs : s.IsReadable) :
    scan mends .between (s.comma ++ rest) = (scan mends .between rest).map (.comma :: ·) := by
  obtain ⟨blanks, comma, h⟩ := hs.comma
  rw [comma, List.cons_append, scan_mark rfl (by decide) rfl, scan_blanks h]

theorem scan_colon (hs : s.IsReadable) :
    scan mends .between (s.colon ++ rest) = (scan mends .between rest).map (.colon :: ·) := by
  obtain ⟨blanks, colon, h⟩ := hs.colon
  rw [colon, List.cons_append, scan_mark rfl (by decide) rfl, scan_blanks h]

/-- What follows the first item of a list ends a word. -/
theorem endsWord_items (hs : s.IsReadable) (items : List Json) (h : EndsWord rest) :
    EndsWord (s.writeItems items ++ rest) := by
  obtain ⟨blanks, comma, -⟩ := hs.comma
  cases items with
  | nil => exact h
  | cons v items =>
    rw [Style.writeItems, comma]
    rfl

theorem endsWord_fields (hs : s.IsReadable) (fields : List (String × Json)) (h : EndsWord rest) :
    EndsWord (s.writeFields fields ++ rest) := by
  obtain ⟨blanks, comma, -⟩ := hs.comma
  cases fields with
  | nil => exact h
  | cons e fields =>
    rw [Style.writeFields, comma]
    rfl

mutual

/-- A written value is scanned as its tokens, where something comes that ends a word. -/
theorem scan_write (hs : s.IsReadable) (v : Json) (rest : List Char) (h : EndsWord rest) :
    scan mends .between (s.write v ++ rest) =
      (scan mends .between rest).map (s.tokens v ++ ·) := by
  cases v with
  | null =>
    have word : IsWord "null".toList := .of_all rfl rfl
    exact scan_word word h
  | bool b =>
    cases b with
    | true =>
      have word : IsWord "true".toList := .of_all rfl rfl
      exact scan_word word h
    | false =>
      have word : IsWord "false".toList := .of_all rfl rfl
      exact scan_word word h
  | int n => exact scan_word (isWord_int n) h
  | float x => exact scan_word (hs.number x) h
  | str t => exact scan_text s t
  | arr items =>
    cases items with
    | nil =>
      rw [Style.write, List.cons_append, scan_mark rfl (by decide) rfl, List.cons_append,
        scan_mark rfl (by decide) rfl, Option.map_map]
      rfl
    | cons v items =>
      simp only [Style.write, List.cons_append, List.append_assoc, List.nil_append]
      rw [scan_mark rfl (by decide) rfl,
        scan_write hs v _ (endsWord_items hs items (endsWord_mark rfl)),
        scan_writeItems hs items _ (endsWord_mark rfl), scan_mark rfl (by decide) rfl]
      simp only [Option.map_map, Function.comp_def, Style.tokens, List.append_assoc,
        List.cons_append, List.nil_append]
  | obj fields =>
    cases fields with
    | nil =>
      rw [Style.write, List.cons_append, scan_mark rfl (by decide) rfl, List.cons_append,
        scan_mark rfl (by decide) rfl, Option.map_map]
      rfl
    | cons e fields =>
      obtain ⟨k, v⟩ := e
      simp only [Style.write, List.cons_append, List.append_assoc, List.nil_append]
      rw [scan_mark rfl (by decide) rfl, scan_text, scan_colon hs,
        scan_write hs v _ (endsWord_fields hs fields (endsWord_mark rfl)),
        scan_writeFields hs fields _ (endsWord_mark rfl),
        scan_mark rfl (by decide) rfl]
      simp only [Option.map_map, Function.comp_def, Style.tokens, List.append_assoc,
        List.cons_append, List.nil_append]

theorem scan_writeItems (hs : s.IsReadable) (items : List Json) (rest : List Char)
    (h : EndsWord rest) :
    scan mends .between (s.writeItems items ++ rest) =
      (scan mends .between rest).map (s.itemTokens items ++ ·) := by
  cases items with
  | nil => exact Option.map_id'.symm
  | cons v items =>
    rw [Style.writeItems, List.append_assoc, List.append_assoc, scan_comma hs,
      scan_write hs v _ (endsWord_items hs items h), scan_writeItems hs items _ h]
    simp only [Option.map_map, Function.comp_def, Style.itemTokens, List.append_assoc,
      List.cons_append]

theorem scan_writeFields (hs : s.IsReadable) (fields : List (String × Json)) (rest : List Char)
    (h : EndsWord rest) :
    scan mends .between (s.writeFields fields ++ rest) =
      (scan mends .between rest).map (s.fieldTokens fields ++ ·) := by
  cases fields with
  | nil => exact Option.map_id'.symm
  | cons e fields =>
    obtain ⟨k, v⟩ := e
    rw [Style.writeFields]
    simp only [List.append_assoc]
    rw [scan_comma hs, scan_text, scan_colon hs, scan_write hs v _ (endsWord_fields hs fields h),
      scan_writeFields hs fields _ h]
    simp only [Option.map_map, Function.comp_def, Style.fieldTokens, List.append_assoc,
      List.cons_append]

end

/-- A written value is scanned as its tokens. -/
theorem scan_written (hs : s.IsReadable) (v : Json) :
    scan mends .between (s.write v) = some (s.tokens v) := by
  have h : scan mends .between (s.write v ++ []) = _ := scan_write hs v [] trivial
  rw [List.append_nil, scan] at h
  · rw [h]
    simp [Place.ended]
  · simp

end Json

end Gatehouse

import Gatehouse.Text.Pattern

/-! The checks of the registration and profile forms. Each check is a pattern that the whole value
    must match; all character sets are plain ASCII. A password must in addition hold one character
    of each of four kinds. -/

namespace Gatehouse.Form

open Text Text.Pattern

/-- Lower-case letters. -/
def lower : CharSet := [('a', 'z')]

/-- Upper-case letters. -/
def upper : CharSet := [('A', 'Z')]

/-- Letters. -/
def letter : CharSet := lower ++ upper

/-- Digits. -/
def digit : CharSet := [('0', '9')]

/-- Letters, digits and the underscore. -/
def wordChar : CharSet := letter ++ digit ++ CharSet.of ['_']

/-- The special characters of a password. -/
def special : CharSet := CharSet.of ['@', '$', '!', '%', '*', '?', '&']

/-- A local part, an at sign, and a domain that ends in a dot and two to six letters. -/
def email : Pattern :=
  all [atLeast 1 (one (letter ++ digit ++ CharSet.of ['.', '_', '-'])), one (CharSet.of ['@']),
    atLeast 1 (one (letter ++ digit ++ CharSet.of ['.', '-'])), one (CharSet.of ['.']),
    between 2 6 (one letter)]

/-- A mobile number of mainland China. -/
def phone : Pattern := all [one (CharSet.of ['1']), one [('3', '9')], times 9 (one digit)]

/-- Eight or more letters, digits and special characters. -/
def passwordBody : Pattern := atLeast 8 (one (letter ++ digit ++ special))

/-- Whether a character of a set stands in the first line. -/
def inFirstLine (s : CharSet) (cs : List Char) : Bool := (cs.takeWhile (· ≠ '\n')).any s.has

/-- Four to twenty letters, digits or underscores. -/
def username : Pattern := between 4 20 (one wordChar)

/-- An optional scheme, a host, a dot with two to six lower-case letters or dots, and a path. -/
def url : Pattern :=
  all [optional (all [text "http", optional (text "s"), text "://"]),
    atLeast 1 (one (digit ++ lower ++ CharSet.of ['.', '-'])), one (CharSet.of ['.']),
    between 2 6 (one (lower ++ CharSet.of ['.'])),
    many (one (wordChar ++ CharSet.of ['/', ' ', '.', '-'])), optional (text "/")]

/-- Four groups of one to three digits with dots between them. -/
def ip : Pattern :=
  seq (times 3 (seq (between 1 3 (one digit)) (one (CharSet.of ['.'])))) (between 1 3 (one digit))

/-- The form checks. -/
inductive Check where
  | email
  | phone
  | strongPassword
  | username
  | url
  | ip
  deriving DecidableEq, Repr

/-- Whether a value passes a check. -/
def Check.accepts (k : Check) (value : String) : Bool :=
  let cs := value.toList
  match k with
  | email => Form.email.accepts cs
  | phone => Form.phone.accepts cs
  | strongPassword =>
    passwordBody.accepts cs && [lower, upper, digit, special].all fun s => inFirstLine s cs
  | username => Form.username.accepts cs
  | url => Form.url.accepts cs
  | ip => Form.ip.accepts cs

end Gatehouse.Form

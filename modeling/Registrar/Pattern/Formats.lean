import Registrar.Pattern.Basic

/-!
# Formats known by name

The shapes of text that a rule can ask for by name: addresses, colours, numbers. Each is a pattern
for the whole text, except that `letter` and `decimalDigit` are looked for anywhere.
-/

namespace Registrar.Pattern

open CharSet (between single unions)

/-- One of the characters of some sets. -/
def oneOf (sets : List CharSet) : Pattern := .char (unions sets)

/-- The last part of a host name: two to six letters or points. -/
def topLevel : Pattern := repeated (oneOf [between 'a' 'z', single '.']) 2 (some 6) true

/-- A host name in front of its last part: digits, letters, points and hyphens. -/
def hostName : Pattern :=
  plus (oneOf [between '0' '9', between 'a' 'z', single '.', single '-'])

/-- A mail address in lower case. -/
def email : Pattern :=
  whole <| sequence
    [plus (oneOf [between 'a' 'z', between '0' '9', single '_', single '.', single '-']),
      literal "@", hostName, literal ".", topLevel]

/-- A hexadecimal digit. -/
def hexDigit : Pattern := oneOf [between 'A' 'F', between 'a' 'f', between '0' '9']

/-- A colour: a hash and six hexadecimal digits, or three. -/
def hexColor : Pattern :=
  whole <| .cat (literal "#") (.alt (exactly hexDigit 6) (exactly hexDigit 3))

/-- A web address: an optional scheme, a host name and a path. -/
def url : Pattern :=
  whole <| sequence
    [optional (sequence [literal "http", optional (literal "s"), literal "://"]),
      hostName, literal ".", topLevel,
      star (star (oneOf [single '/', .word, single ' ', single '.', single '-'])),
      optional (literal "/")]

/-- A digit `0` to `9`. -/
def decimalDigit : Pattern := .char (between '0' '9')

/-- One of the four numbers of a network address, at most 255: `25` and a digit up to 5, or `2`, a
digit up to 4 and any digit, or at most three digits of which a third in front is `0` or `1`. -/
def octet : Pattern :=
  choice
    [.cat (literal "25") (.char (between '0' '5')),
      sequence [literal "2", .char (between '0' '4'), decimalDigit],
      sequence [optional (oneOf [single '0', single '1']), decimalDigit, optional decimalDigit]]

/-- A network address: four numbers with points between them. -/
def ip : Pattern :=
  whole <| .cat (exactly (.cat octet (literal ".")) 3) octet

/-- A positive number without zeros in front, and perhaps decimals. -/
def numeral : Pattern :=
  whole <| sequence
    [.char (between '1' '9'), star decimalDigit,
      optional (.cat (literal ".") (plus decimalDigit))]

/-- A letter `A` to `Z` in either case. -/
def letter : Pattern := oneOf [between 'a' 'z', between 'A' 'Z']

/-- Letters only. -/
def letters : Pattern := whole (star letter)

end Registrar.Pattern

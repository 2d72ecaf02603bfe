import Sieve.Element.Id
import Sieve.Text.Basic

/-!
Unique ids: 128-bit numbers that name an element across documents. They are written as 32 lower-case
hexadecimal digits in hyphenated groups of 8, 4, 4, 4 and 12. Read are also the bare digits, the
hyphenated form in braces, the hyphenated form after `urn:uuid:`, and digits of either case.
-/

namespace Sieve

structure UniqueId where
  bits : BitVec 128
deriving DecidableEq

namespace UniqueId

/-- The unique id of an element that was given none: its number, as 64 unsigned bits. -/
def ofElementId (id : ElementId) : UniqueId := ⟨id.number.toBitVec.setWidth 128⟩

def groups : List Nat := [8, 4, 4, 4, 12]

/-- The 32 digits, the most significant first. -/
def digits (u : UniqueId) : List Char := Text.Hex.digits 32 u.bits.toNat

/-- Puts a hyphen between groups of the given lengths. -/
def hyphenate : List Nat → List Char → List Char
  | [], _ => []
  | [_], cs => cs
  | n :: more, cs => cs.take n ++ '-' :: hyphenate more (cs.drop n)

def text (u : UniqueId) : String := String.ofList (hyphenate groups u.digits)

/-- Exactly 32 digits. -/
def ofDigits? (cs : List Char) : Option UniqueId :=
  if cs.length = 32 then (Text.Hex.ofDigits? cs).map fun n => ⟨BitVec.ofNat 128 n⟩ else none

/-- The characters of groups of the given lengths, where a hyphen stands between each two. -/
def unhyphenate? : List Nat → List Char → Option (List Char)
  | [], cs => if cs.isEmpty then some [] else none
  | [n], cs => if cs.length = n then some cs else none
  | n :: more, cs =>
    match cs.drop n with
    | '-' :: rest => (unhyphenate? more rest).map (cs.take n ++ ·)
    | _ => none

def ofHyphenated? (cs : List Char) : Option UniqueId :=
  (unhyphenate? groups cs).bind ofDigits?

/-- The part after `urn:uuid:`, which may be in either case. -/
def afterUrn? (cs : List Char) : Option (List Char) :=
  if (cs.take 9).map Char.toLower = ['u', 'r', 'n', ':', 'u', 'u', 'i', 'd', ':'] then
    some (cs.drop 9)
  else none

/-- The part between braces. -/
def insideBraces? : List Char → Option (List Char)
  | '\x7b' :: rest => if rest.getLast? = some '\x7d' then some rest.dropLast else none
  | _ => none

def parse? (s : String) : Option UniqueId :=
  let cs := s.toList
  ofDigits? cs <|> ofHyphenated? cs <|> (insideBraces? cs).bind ofHyphenated? <|>
    (afterUrn? cs).bind ofHyphenated?

end UniqueId

end Sieve

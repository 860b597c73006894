import QueryMethods.Text.Ascii

/-!
Universally unique identifiers: sixteen bytes, written as 32 hexadecimal digits in groups of 8, 4,
4, 4 and 12.
-/

namespace QueryMethods

structure Uuid where
  bits : BitVec 128
deriving DecidableEq

namespace Uuid

/-- Exactly 32 hexadecimal digits of either case. -/
def ofDigits? (digits : List Char) : Option Uuid :=
  if digits.length = 32 then
    (digits.mapM hexDigit?).map fun values =>
      ⟨BitVec.ofNat 128 (values.foldl (fun total digit => 16 * total + digit) 0)⟩
  else
    none

/-- Digits in five groups, with a hyphen between two groups. -/
def ofHyphenated? (text : List Char) : Option Uuid :=
  if text.length = 36 ∧ [8, 13, 18, 23].all (fun i => text[i]? == some '-') then
    ofDigits? (text.filter (· ≠ '-'))
  else
    none

/-- Reads a hyphenated identifier, bare, in braces or after `urn:uuid:`, or 32 bare digits. -/
def ofText? (text : String) : Option Uuid :=
  let chars := text.toList
  match chars.length with
  | 32 => ofDigits? chars
  | 36 => ofHyphenated? chars
  | 38 =>
      if chars.head? = some '{' ∧ chars.getLast? = some '}' then
        ofHyphenated? (chars.drop 1).dropLast
      else
        none
  | 45 =>
      if "urn:uuid:".toList.isPrefixOf chars then ofHyphenated? (chars.drop 9) else none
  | _ => none

/-- The value of the hexadecimal digit that stands `place` digits from the right. -/
def digit (uuid : Uuid) (place : Nat) : Nat :=
  (uuid.bits.toNat >>> (4 * place)) % 16

/-- The `count` digits whose last stands `place` digits from the right. -/
def group (uuid : Uuid) (place count : Nat) : List Char :=
  (List.range count).reverse.map fun i => Nat.digitChar (uuid.digit (place + i))

/-- The hyphenated form, in small letters. -/
def toText (uuid : Uuid) : String :=
  String.ofList <| uuid.group 24 8 ++ '-' :: uuid.group 20 4 ++ '-' :: uuid.group 16 4 ++
    '-' :: uuid.group 12 4 ++ '-' :: uuid.group 0 12

end Uuid

end QueryMethods

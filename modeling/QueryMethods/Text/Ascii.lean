/-! Names are compared, SQL text is cut, and digits are read by ASCII rules alone. -/

namespace QueryMethods

/-- A name with its ASCII capitals lowered; other characters stay. -/
def foldCase (name : List Char) : List Char :=
  name.map Char.toLower

/-- Two names are the same when they differ at most in ASCII case. -/
def sameName (left right : String) : Bool :=
  foldCase left.toList == foldCase right.toList

/-- A letter, a digit or an underscore. -/
def isWordChar (c : Char) : Bool :=
  c.isAlphanum || c == '_'

def isBlank (c : Char) : Bool :=
  c == ' ' || c == '\t' || c == '\n' || c == '\x0c' || c == '\r'

/-- A letter or an underscore, then letters, digits and underscores. -/
def isIdentifier : List Char → Bool
  | [] => false
  | c :: rest => (c.isAlpha || c == '_') && rest.all isWordChar

/-- The value of a hexadecimal digit of either case. -/
def hexDigit? (c : Char) : Option Nat :=
  if '0' ≤ c ∧ c ≤ '9' then
    some (c.toNat - '0'.toNat)
  else if 'a' ≤ c ∧ c ≤ 'f' then
    some (c.toNat - 'a'.toNat + 10)
  else if 'A' ≤ c ∧ c ≤ 'F' then
    some (c.toNat - 'A'.toNat + 10)
  else
    none

theorem ne_of_isWordChar {c d : Char} (hc : isWordChar c = true) (hd : isWordChar d = false) :
    c ≠ d := by
  intro h
  rw [← h, hc] at hd
  cases hd

theorem all_isWordChar_of_isIdentifier {name : List Char} (h : isIdentifier name = true) :
    name.all isWordChar = true := by
  cases name with
  | nil => rfl
  | cons c rest =>
      rw [isIdentifier, Bool.and_eq_true] at h
      rw [List.all_cons, h.2, Bool.and_true, isWordChar, Char.isAlphanum]
      rcases Bool.or_eq_true_iff.mp h.1 with halpha | hunderscore
      · simp [halpha]
      · simp [hunderscore]

theorem foldCase_append (left right : List Char) :
    foldCase (left ++ right) = foldCase left ++ foldCase right :=
  List.map_append

/-- Lowering a name twice is lowering it once. -/
theorem foldCase_foldCase (name : List Char) : foldCase (foldCase name) = foldCase name := by
  have hchar (c : Char) : c.toLower.toLower = c.toLower := by
    by_cases hc : c.val ≥ 'A'.val ∧ c.val ≤ 'Z'.val
    · have hval : c.toLower.val = c.val + ('a'.val - 'A'.val) := congrArg Char.val (dif_pos hc)
      have hlow : ¬ (c.toLower.val ≥ 'A'.val ∧ c.toLower.val ≤ 'Z'.val) := by
        rw [hval]
        grind [UInt32.toNat_add]
      exact dif_neg hlow
    · have hsame : c.toLower = c := dif_neg hc
      rw [hsame, hsame]
  rw [foldCase, foldCase, List.map_map]
  exact List.map_congr_left fun c _ => hchar c

theorem takeWhile_eq_nil_of_head? {test : Char → Bool} {text : List Char}
    (h : text.head?.any test = false) : text.takeWhile test = [] := by
  cases text with
  | nil => rfl
  | cons c rest =>
      rw [List.head?_cons, Option.any_some] at h
      rw [List.takeWhile_cons, h]
      rfl

@[simp]
theorem sameName_self (name : String) : sameName name name = true := by
  simp [sameName]

theorem sameName_comm (left right : String) : sameName left right = sameName right left :=
  BEq.comm

theorem sameName_trans {first second third : String}
    (hleft : sameName first second = true) (hright : sameName second third = true) :
    sameName first third = true := by
  simp only [sameName, beq_iff_eq] at *
  exact hleft.trans hright

end QueryMethods

import Mathlib.Data.List.TakeWhile
import QueryMethods.Template.Bytes.Columns
import QueryMethods.Proofs.Template.Stretched.Basic

/-!
# Compared columns, by places

The checks by places cut no text outside its bounds, and find the column that the checks on the
reversed text find.
-/

namespace QueryMethods.Bytes

variable {text : List Char}

theorem slice?_afterLast (kind : Char → Bool) (text : List Char) :
    slice? text 0 (afterLast kind text) =
      some (text.reverse.dropWhile fun c => !kind c).reverse := by
  have hsplit := List.takeWhile_append_dropWhile (p := fun c => !kind c) (l := text.reverse)
  have htext : text = (text.reverse.dropWhile fun c => !kind c).reverse ++
      (text.reverse.takeWhile fun c => !kind c).reverse := by
    rw [← List.reverse_append, hsplit, List.reverse_reverse]
  have hslice := slice?_append [] (text.reverse.dropWhile fun c => !kind c).reverse
    (text.reverse.takeWhile fun c => !kind c).reverse
  rw [List.nil_append, ← htext, List.length_nil, Nat.zero_add, List.length_reverse] at hslice
  exact hslice

theorem slice?_from_afterLast (kind : Char → Bool) (text : List Char) :
    slice? text (afterLast kind text) text.length =
      some (text.reverse.takeWhile fun c => !kind c).reverse := by
  have hsplit := List.takeWhile_append_dropWhile (p := fun c => !kind c) (l := text.reverse)
  have htext : text = (text.reverse.dropWhile fun c => !kind c).reverse ++
      (text.reverse.takeWhile fun c => !kind c).reverse := by
    rw [← List.reverse_append, hsplit, List.reverse_reverse]
  have hslice := slice?_append (text.reverse.dropWhile fun c => !kind c).reverse
    (text.reverse.takeWhile fun c => !kind c).reverse []
  rw [List.append_nil, ← htext, ← List.length_append, ← htext, List.length_reverse] at hslice
  exact hslice

theorem trimEnd?_eq (text : List Char) :
    trimEnd? text = some (text.reverse.dropWhile isBlank).reverse := by
  have hslice := slice?_afterLast (fun c => !isBlank c) text
  simp only [Bool.not_not] at hslice
  exact hslice

theorem trim?_eq (text : List Char) :
    trim? text = some ((text.dropWhile isBlank).reverse.dropWhile isBlank).reverse := by
  have hsplit := List.takeWhile_append_dropWhile (p := isBlank) (l := text)
  have hslice := slice?_append (text.takeWhile isBlank) (text.dropWhile isBlank) []
  rw [List.append_nil, ← List.length_append, hsplit] at hslice
  simp only [trim?, hslice, trimEnd?_eq, Option.bind_eq_bind, Option.bind_some]

def inReference (c : Char) : Bool :=
  isWordChar c || c == '.' || c == '"'

theorem isWordChar_of_inReference {c : Char} (h : inReference c = true) (hdot : c ≠ '.')
    (hquote : c ≠ '"') : isWordChar c = true := by
  simpa [inReference, hdot, hquote] using h

theorem all_isWordChar_name (text : List Char) :
    (((text.takeWhile inReference).takeWhile (· != '.')).filter (· != '"')).all isWordChar =
      true := by
  refine List.all_eq_true.mpr fun c hmem => ?_
  obtain ⟨hname, hquote⟩ := List.mem_filter.mp hmem
  have hdot := List.mem_takeWhile_imp hname
  have hreference := List.mem_takeWhile_imp ((List.takeWhile_prefix _).subset hname)
  exact isWordChar_of_inReference hreference (by simpa using hdot) (by simpa using hquote)

theorem identifierAtEnd?_eq (text : List Char) :
    identifierAtEnd? text = some (columnAtEnd? text.reverse) := by
  have hslice := slice?_from_afterLast
    (fun c => !(isWordChar c || c == '.' || c == '"')) text
  have hword := all_isWordChar_name text.reverse
  simp only [Bool.not_not] at hslice
  simp only [identifierAtEnd?, hslice, Option.bind_eq_bind, Option.bind_some, List.reverse_reverse,
    List.filter_reverse, List.isEmpty_reverse, List.all_reverse, columnAtEnd?]
  change ((((text.reverse.takeWhile fun c => isWordChar c || c == '.' || c == '"').takeWhile
    (· != '.')).filter (· != '"')).all isWordChar) = true at hword
  simp only [hword, Bool.not_true, Bool.or_false]

theorem map_operators : operators.map (fun operator => (operator.toList.reverse, operator.length)) =
    [(['>', '<'], 2), (['=', '!'], 2), (['=', '<'], 2), (['=', '>'], 2), (['='], 1), (['<'], 1),
      (['>'], 1)] :=
  rfl

/-- The length of the operator that a text ends with. The text is given from its end. -/
def operatorLength? : List Char → Option Nat
  | [] => none
  | c :: rest =>
      if c = '>' then
        some (if rest.head?.any (· == '<') then 2 else 1)
      else if c = '=' then
        some (if rest.head?.any (fun d => d == '!' || d == '<' || d == '>') then 2 else 1)
      else if c = '<' then
        some 1
      else
        none

theorem map_length_find?_operators (text : List Char) :
    (operators.find? (·.toList.isSuffixOf text)).map String.length =
      operatorLength? text.reverse := by
  have hfind := congrArg (fun table => (table.find? (·.1.isPrefixOf text.reverse)).map (·.2))
    map_operators
  rw [List.find?_map, Option.map_map] at hfind
  refine Eq.trans hfind ?_
  generalize text.reverse = reversed
  have hne : ∀ {c d : Char}, ¬ c = d → (d == c) = false := fun h => beq_false_of_ne (Ne.symm h)
  cases reversed with
  | nil => rfl
  | cons c rest =>
      by_cases hmore : c = '>'
      · subst hmore
        cases rest with
        | nil => rfl
        | cons d rest =>
            by_cases hless : d = '<'
            · subst hless
              rfl
            · simp [List.find?, List.isPrefixOf_cons_cons, operatorLength?, hne hless, hless]
      by_cases hequal : c = '='
      · subst hequal
        cases rest with
        | nil => rfl
        | cons d rest =>
            by_cases hbang : d = '!'
            · subst hbang
              rfl
            by_cases hless : d = '<'
            · subst hless
              rfl
            by_cases hmore : d = '>'
            · subst hmore
              rfl
            simp [List.find?, List.isPrefixOf_cons_cons, operatorLength?, hne hbang, hne hless,
              hne hmore, hbang, hless, hmore]
      by_cases hless : c = '<'
      · subst hless
        rfl
      simp [List.find?, List.isPrefixOf_cons_cons, operatorLength?, hne hmore, hne hequal,
        hne hless, hmore, hequal, hless]

/-- The operator that a text ends with is dropped, or else a keyword. -/
theorem dropOperator?_eq (reversed : List Char) :
    dropOperator? reversed = match operatorLength? reversed with
      | some length => some (reversed.drop length)
      | none =>
          if isKeyword "like" (reversed.takeWhile isWordChar).reverse ||
              isKeyword "ilike" (reversed.takeWhile isWordChar).reverse then
            some (reversed.dropWhile isWordChar)
          else
            none := by
  cases reversed with
  | nil => rfl
  | cons c rest =>
      rw [dropOperator?_cons, operatorLength?]
      by_cases hmore : c = '>'
      · simp only [if_pos hmore]
        split <;> simp
      by_cases hequal : c = '='
      · simp only [if_neg hmore, if_pos hequal]
        split <;> simp
      by_cases hless : c = '<'
      · simp only [if_neg hmore, if_neg hequal, if_pos hless]
        rfl
      simp only [if_neg hmore, if_neg hequal, if_neg hless]

theorem length_le_of_operatorLength? {reversed : List Char} {length : Nat}
    (h : operatorLength? reversed = some length) : length ≤ reversed.length := by
  cases reversed with
  | nil => cases h
  | cons c rest =>
      have hsecond : ∀ test : Char → Bool,
          (if rest.head?.any test then 2 else 1) ≤ (c :: rest).length := by
        intro test
        cases rest with
        | nil => exact Nat.le_refl _
        | cons d rest =>
            rw [List.length_cons, List.length_cons]
            split <;> omega
      simp only [operatorLength?] at h
      split at h
      · rw [← Option.some.inj h]
        exact hsecond _
      split at h
      · rw [← Option.some.inj h]
        exact hsecond _
      split at h
      · rw [← Option.some.inj h]
        exact Nat.succ_le_succ (Nat.zero_le _)
      · cases h

/-- The column that is compared with what begins at a place is the one that the text on the left
tells, read from its end. -/
theorem comparedColumn?_eq {place : Nat} (hplace : place ≤ text.length) :
    comparedColumn? text place =
      some (QueryMethods.comparedColumn? (text.take place).reverse) := by
  have hslice : slice? text 0 place = some (text.take place) := by
    rw [slice?, if_pos ⟨Nat.zero_le _, hplace⟩, List.drop_zero]
  simp only [comparedColumn?, hslice, trimEnd?_eq, Option.bind_eq_bind, Option.bind_some,
    QueryMethods.comparedColumn?]
  generalize hreversed : (text.take place).reverse.dropWhile isBlank = reversed
  have hlength := map_length_find?_operators reversed.reverse
  rw [List.reverse_reverse] at hlength
  rw [dropOperator?_eq]
  cases hfound : operators.find? (·.toList.isSuffixOf reversed.reverse) with
  | some operator =>
      rw [hfound, Option.map_some] at hlength
      have hle := length_le_of_operatorLength? hlength.symm
      have hstop : minus? reversed.reverse.length operator.length =
          some (reversed.length - operator.length) := by
        rw [minus?, List.length_reverse, if_pos hle]
      have hrest : slice? reversed.reverse 0 (reversed.length - operator.length) =
          some (reversed.drop operator.length).reverse := by
        rw [slice?, if_pos ⟨Nat.zero_le _, by rw [List.length_reverse]; omega⟩, List.drop_zero,
          List.reverse_drop]
      simp only [← hlength, hstop, hrest, Option.bind_some, List.reverse_reverse,
        identifierAtEnd?_eq]
  | none =>
      rw [hfound, Option.map_none] at hlength
      have hword := slice?_from_afterLast (fun c => !isWordChar c) reversed.reverse
      have hrest := slice?_afterLast (fun c => !isWordChar c) reversed.reverse
      simp only [Bool.not_not, List.reverse_reverse] at hword hrest
      simp only [← hlength, hword, hrest, Option.bind_some, List.reverse_reverse,
        identifierAtEnd?_eq]
      split <;> rfl

end QueryMethods.Bytes

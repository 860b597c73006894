import QueryMethods.Proofs.Template.Bytes.Columns
import QueryMethods.Proofs.Template.Stretched.Insert

/-!
# The `INSERT`, by places

Words, parentheses and ranges are found at the places where the cells have them. A range holds the
cells of one column or value, and its first placeholder is the first whose bytes lie in the range.
-/

namespace QueryMethods.Bytes

theorem isWordChar_of_toLower {c : Char} (h : isWordChar c.toLower = true) :
    isWordChar c = true := by
  by_cases hc : c.val ≥ 'A'.val ∧ c.val ≤ 'Z'.val
  · unfold isWordChar Char.isAlphanum Char.isAlpha Char.isUpper
    simp only [Bool.or_eq_true, decide_eq_true_eq]
    exact .inl (.inl (.inl hc))
  · have hsame : c.toLower = c := dif_neg hc
    rwa [hsame] at h

theorem head?_dropWhile_isWordChar (text : List Char) :
    (text.dropWhile isWordChar).head?.any isWordChar = false := by
  have hhead := List.head?_dropWhile_not isWordChar text
  cases hrest : (text.dropWhile isWordChar).head? with
  | none => rfl
  | some c =>
      rw [hrest] at hhead
      simpa using hhead

/-- A word of a text is the keyword if the keyword is where the word begins, and ends there. -/
theorem isKeyword_takeWhile {keyword : String} (hkeyword : keyword.toList.all isWordChar = true)
    (text : List Char) :
    isKeyword keyword (text.takeWhile isWordChar) =
      (isKeyword keyword (text.take keyword.length) &&
        !(text[keyword.length]?).any isWordChar) := by
  have hlength : keyword.toList.length = keyword.length := String.length_toList
  have hnext : text[keyword.length]? = (text.drop keyword.length).head? := by
    rw [List.head?_drop]
  rw [Bool.eq_iff_iff, Bool.and_eq_true, Bool.not_eq_true', hnext]
  simp only [isKeyword, beq_iff_eq]
  constructor
  · intro hword
    have hcount : (text.takeWhile isWordChar).length = keyword.length := by
      rw [← hlength, ← hword, foldCase, List.length_map]
    have hsplit := List.takeWhile_append_dropWhile (p := isWordChar) (l := text)
    have htake : text.take keyword.length = text.takeWhile isWordChar := by
      conv => lhs; rw [← hsplit]
      rw [← hcount, List.take_left]
    have hdrop : text.drop keyword.length = text.dropWhile isWordChar := by
      conv => lhs; rw [← hsplit]
      rw [← hcount, List.drop_left]
    rw [htake, hdrop]
    exact ⟨hword, head?_dropWhile_isWordChar text⟩
  · rintro ⟨hword, hend⟩
    have hall : ∀ c ∈ text.take keyword.length, isWordChar c = true := by
      intro c hmem
      refine isWordChar_of_toLower (List.all_eq_true.mp hkeyword _ ?_)
      rw [← hword]
      exact List.mem_map_of_mem hmem
    have htake : text.takeWhile isWordChar = text.take keyword.length := by
      conv => lhs; rw [← List.take_append_drop keyword.length text]
      rw [List.takeWhile_append_of_pos hall, takeWhile_eq_nil_of_head? hend, List.append_nil]
    rw [htake, hword]

section

variable {keyword : String} {cell : Cell} {before rest : List Cell}

theorem wordAt?_eq (hkeyword : keyword.toList.all isWordChar = true)
    (hlength : keyword.length ≤ rest.length) :
    wordAt? (visible (before ++ rest)) keyword before.length =
      some (!(before.getLast?.any (isWordChar ·.char)) &&
        isKeyword keyword (leadingWord rest)) := by
  have hslice : slice? (visible (before ++ rest)) before.length
      (before.length + keyword.length) = some ((visible rest).take keyword.length) := by
    have hcut := slice?_append (visible before) ((visible rest).take keyword.length)
      ((visible rest).drop keyword.length)
    have hcount : ((visible rest).take keyword.length).length = keyword.length := by
      rw [List.length_take, visible, List.length_map]
      omega
    rw [List.take_append_drop, hcount] at hcut
    simpa [visible] using hcut
  have hnext : (visible (before ++ rest))[before.length + keyword.length]? =
      (visible rest)[keyword.length]? := by
    rw [visible, List.map_append, List.getElem?_append_right (by simp)]
    simp [visible]
  have hword : isKeyword keyword (leadingWord rest) = _ :=
    (congrArg (isKeyword keyword) (visible_takeWhile isWordChar rest).symm).trans
      (isKeyword_takeWhile hkeyword (visible rest))
  rw [wordAt?, hword]
  simp only [hslice, hnext, Option.bind_eq_bind, Option.bind_some]
  by_cases hfound : isKeyword keyword ((visible rest).take keyword.length) = true
  · rw [if_pos hfound, hfound, Bool.true_and]
    rcases List.eq_nil_or_concat before with rfl | ⟨front, last, rfl⟩
    · simp
    · simp [visible]
  · rw [if_neg hfound, Bool.eq_false_iff.mpr hfound, Bool.false_and, Bool.and_false]

theorem length_leadingWord_le (cells : List Cell) : (leadingWord cells).length ≤ cells.length := by
  rw [leadingWord, visible, List.length_map]
  exact (List.takeWhile_prefix _).length_le

theorem length_eq_of_isKeyword {word : List Char} (h : isKeyword keyword word = true) :
    word.length = keyword.length := by
  rw [← String.length_toList, ← beq_iff_eq.mp h, foldCase, List.length_map]

theorem isKeyword_leadingWord_eq_false {cells : List Cell} (h : cells.length < keyword.length) :
    isKeyword keyword (leadingWord cells) = false := by
  rw [Bool.eq_false_iff]
  intro hword
  have hle := length_leadingWord_le cells
  rw [length_eq_of_isKeyword hword] at hle
  exact absurd hle (Nat.not_le_of_lt h)

/-- The first whole word is where the cells from it on begin. -/
theorem findWord?_eq (hkeyword : keyword.toList.all isWordChar = true) (hne : keyword ≠ "")
    (before rest : List Cell) :
    findWord? (visible (before ++ rest)) keyword before.length =
      some ((fromWord? keyword (before.getLast?.any (isWordChar ·.char)) rest).map
        fun found => before.length + rest.length - found.length) := by
  have hpos : 0 < keyword.length := by
    rw [← String.length_toList, List.length_pos_iff]
    simpa using hne
  have hcount : ∀ before rest : List Cell, (visible (before ++ rest)).length -
      (keyword.length - 1) - before.length = rest.length + 1 - keyword.length := by
    intro before rest
    rw [visible, List.length_map, List.length_append]
    omega
  -- the places that are left to try go along with the cells that are left
  induction rest generalizing before with
  | nil =>
      have hzero : ([] : List Cell).length + 1 - keyword.length = 0 := by
        rw [List.length_nil]
        omega
      rw [findWord?, hcount, hzero]
      rfl
  | cons cell rest ih =>
      have hlast : (before ++ [cell]).getLast?.any (isWordChar ·.char) = isWordChar cell.char := by
        rw [List.getLast?_concat]
        rfl
      have hlater := ih (before ++ [cell])
      rw [findWord?, hcount, hlast, List.append_assoc, List.length_append, List.length_singleton]
        at hlater
      rw [findWord?, hcount, fromWord?]
      by_cases hlength : keyword.length ≤ (cell :: rest).length
      · have hstep : (cell :: rest).length + 1 - keyword.length =
            rest.length + 1 - keyword.length + 1 := by
          rw [List.length_cons] at *
          omega
        rw [hstep, List.range'_succ, List.findM?, wordAt?_eq hkeyword hlength]
        cases hfound : !before.getLast?.any (isWordChar ·.char) &&
            isKeyword keyword (leadingWord (cell :: rest)) with
        | true =>
            have hplace : before.length + (cell :: rest).length - (cell :: rest).length =
                before.length := Nat.add_sub_cancel ..
            simp only [if_true, Option.map_some, hplace]
            rfl
        | false =>
            simp only [Bool.false_eq_true, if_false, List.length_cons]
            refine hlater.trans ?_
            rw [Nat.add_assoc, Nat.add_comm 1]
      · have hshort := isKeyword_leadingWord_eq_false (Nat.lt_of_not_le hlength)
        have hnow : (cell :: rest).length + 1 - keyword.length = 0 := by omega
        have hthen : rest.length + 1 - keyword.length = 0 := by
          rw [List.length_cons] at hnow
          omega
        rw [hthen] at hlater
        rw [hnow, hshort, Bool.and_false, if_neg Bool.false_ne_true, List.length_cons]
        refine hlater.trans ?_
        rw [Nat.add_assoc, Nat.add_comm 1]

theorem exists_append_of_fromWord? {afterWord : Bool} {cells found : List Cell}
    (h : fromWord? keyword afterWord cells = some found) : ∃ front, cells = front ++ found := by
  induction cells generalizing afterWord with
  | nil => cases h
  | cons cell cells ih =>
      rw [fromWord?] at h
      split at h
      · exact ⟨[], Option.some.inj h⟩
      · obtain ⟨front, rfl⟩ := ih h
        exact ⟨cell :: front, rfl⟩

/-- A search for a word comes out alike by places and on the cells. -/
theorem findWord?_cases (hkeyword : keyword.toList.all isWordChar = true) (hne : keyword ≠ "")
    {cells : List Cell} (hcells : cells = before ++ rest) :
    (findWord? (visible cells) keyword before.length = some none ∧
      fromWord? keyword (before.getLast?.any (isWordChar ·.char)) rest = none) ∨
    ∃ front found, findWord? (visible cells) keyword before.length = some (some front.length) ∧
      fromWord? keyword (before.getLast?.any (isWordChar ·.char)) rest = some found ∧
      cells = front ++ found := by
  have hfind := findWord?_eq hkeyword hne before rest
  rw [← hcells] at hfind
  cases hfound : fromWord? keyword (before.getLast?.any (isWordChar ·.char)) rest with
  | none =>
      rw [hfound] at hfind
      exact .inl ⟨hfind, rfl⟩
  | some found =>
      obtain ⟨front, rfl⟩ := exists_append_of_fromWord? hfound
      have hplace : before.length + (front ++ found).length - found.length =
          (before ++ front).length := by
        simp only [List.length_append]
        omega
      rw [hfound, Option.map_some, hplace] at hfind
      exact .inr ⟨before ++ front, found, hfind, rfl, by rw [hcells, List.append_assoc]⟩

end

theorem slice?_visible (before inside after : List Cell) :
    slice? (visible (before ++ (inside ++ after))) before.length
      (before.length + inside.length) = some (visible inside) := by
  have hslice := slice?_append (visible before) (visible inside) (visible after)
  simpa [visible] using hslice

theorem slice?_visible_rest (before rest : List Cell) :
    slice? (visible (before ++ rest)) before.length (visible (before ++ rest)).length =
      some (visible rest) := by
  have hslice := slice?_visible before rest []
  have hlength : (visible (before ++ rest)).length = before.length + rest.length := by
    rw [visible, List.length_map, List.length_append]
  rwa [List.append_nil, ← hlength] at hslice

/-- The count of open parentheses never goes below zero. -/
theorem closeFrom?_eq (depth place : Nat) (cells : List Cell) :
    closeFrom? (depth + 1) place (visible cells) =
      some ((splitAtClose? depth cells).map fun split => place + split.1.length) := by
  induction cells generalizing depth place with
  | nil => rfl
  | cons cell cells ih =>
      have hvisible : visible (cell :: cells) = cell.char :: visible cells := rfl
      have hplace : ∀ split : List Cell × List Cell,
          place + 1 + split.1.length = place + (cell :: split.1).length := by
        intro split
        rw [List.length_cons]
        omega
      rw [hvisible, closeFrom?]
      by_cases hclose : cell.char = ')'
      · have hopen : cell.char ≠ '(' := by
          rw [hclose]
          decide
        have hleft : minus? (depth + 1) 1 = some depth := rfl
        rw [if_neg hopen, if_pos hclose, hleft]
        cases depth with
        | zero => simp [splitAtClose?, hclose]
        | succ depth =>
            simp only [Option.bind_eq_bind, Option.bind_some, if_neg (Nat.succ_ne_zero depth), ih,
              splitAtClose?, hclose, if_true, Option.map_map]
            simp only [Function.comp_def, hplace]
      · rw [splitAtClose?_cons_of_ne hclose]
        by_cases hopen : cell.char = '('
        · simp only [if_pos hopen, ih, Option.map_map, Function.comp_def, hplace]
        · simp only [if_neg hopen, if_neg hclose, ih, Option.map_map, Function.comp_def, hplace]

theorem parenthesized?_eq (before rest : List Cell) :
    parenthesized? (visible (before ++ rest)) before.length =
      some ((QueryMethods.parenthesized? rest).map fun split =>
        (before.length + (rest.takeWhile (·.char != '(')).length,
          before.length + (rest.takeWhile (·.char != '(')).length + 1 + split.1.length)) := by
  have hdrop := visible_dropWhile (· != '(') rest
  have htake := visible_takeWhile (· != '(') rest
  have hlength : ((visible rest).takeWhile (· != '(')).length =
      (rest.takeWhile (·.char != '(')).length := by
    rw [htake, visible, List.length_map]
  rw [parenthesized?, slice?_visible_rest]
  simp only [Option.bind_eq_bind, Option.bind_some, hdrop, hlength, QueryMethods.parenthesized?]
  cases hrest : rest.dropWhile (·.char != '(') with
  | nil => rfl
  | cons opening after =>
      have hopen := List.head?_dropWhile_not (·.char != '(') rest
      rw [hrest, List.head?_cons] at hopen
      simp only [bne_eq_false_iff_eq] at hopen
      show (closeFrom? 0 _ (opening.char :: visible after)).map _ = _
      rw [closeFrom?, if_pos hopen, closeFrom?_eq, Option.map_some, Option.map_map]
      rfl

theorem eq_of_splitAtClose? {depth : Nat} {cells inside after : List Cell}
    (h : splitAtClose? depth cells = some (inside, after)) :
    ∃ closing, closing.char = ')' ∧ cells = inside ++ closing :: after := by
  induction cells generalizing depth inside with
  | nil => cases h
  | cons cell cells ih =>
      have hcons : ∀ {depth : Nat}, (splitAtClose? depth cells).map
          (fun split => (cell :: split.1, split.2)) = some (inside, after) →
          ∃ closing, closing.char = ')' ∧ cell :: cells = inside ++ closing :: after := by
        intro depth hsplit
        obtain ⟨⟨inner, later⟩, hinner, heq⟩ := Option.map_eq_some_iff.mp hsplit
        obtain ⟨rfl, rfl⟩ := Prod.mk.inj heq
        obtain ⟨closing, hclosing, rfl⟩ := ih hinner
        exact ⟨closing, hclosing, rfl⟩
      by_cases hclose : cell.char = ')'
      · cases depth with
        | zero =>
            simp only [splitAtClose?, hclose, if_true, Option.some.injEq, Prod.mk.injEq] at h
            obtain ⟨rfl, rfl⟩ := h
            exact ⟨cell, hclose, rfl⟩
        | succ depth =>
            simp only [splitAtClose?, hclose, if_true] at h
            exact hcons h
      · rw [splitAtClose?_cons_of_ne hclose] at h
        exact hcons h

theorem eq_of_parenthesized? {rest inside after : List Cell}
    (h : QueryMethods.parenthesized? rest = some (inside, after)) :
    ∃ opening closing, closing.char = ')' ∧
      rest = rest.takeWhile (·.char != '(') ++ opening :: (inside ++ closing :: after) := by
  have hsplit := List.takeWhile_append_dropWhile (p := fun cell : Cell => cell.char != '(')
    (l := rest)
  rw [QueryMethods.parenthesized?] at h
  cases hrest : rest.dropWhile (·.char != '(') with
  | nil =>
      rw [hrest] at h
      cases h
  | cons opening later =>
      rw [hrest] at h hsplit
      obtain ⟨closing, hclosing, rfl⟩ := eq_of_splitAtClose? h
      exact ⟨opening, closing, hclosing, hsplit.symm⟩

/-- A search for parentheses comes out alike by places and on the cells. -/
theorem parenthesized?_cases {cells before rest : List Cell} (hcells : cells = before ++ rest) :
    (parenthesized? (visible cells) before.length = some none ∧
      QueryMethods.parenthesized? rest = none) ∨
    ∃ front inside closing after,
      parenthesized? (visible cells) before.length =
        some (some (front.length, front.length + 1 + inside.length)) ∧
      QueryMethods.parenthesized? rest = some (inside, after) ∧ closing.char = ')' ∧
      ∃ opening, cells = front ++ opening :: (inside ++ closing :: after) := by
  have hfind := parenthesized?_eq before rest
  rw [← hcells] at hfind
  cases hfound : QueryMethods.parenthesized? rest with
  | none =>
      rw [hfound] at hfind
      exact .inl ⟨hfind, rfl⟩
  | some split =>
      obtain ⟨inside, after⟩ := split
      obtain ⟨opening, closing, hclosing, hrest⟩ := eq_of_parenthesized? hfound
      rw [hfound, Option.map_some] at hfind
      refine .inr ⟨before ++ rest.takeWhile (·.char != '('), inside, closing, after, ?_, rfl,
        hclosing, opening, ?_⟩
      · rw [List.length_append]
        exact hfind
      · rw [List.append_assoc, ← hrest, hcells]

/-- The ranges of parts that commas divide; `start` is the place of the first one. -/
def rangesOf : Nat → List (List Cell) → List (Nat × Nat)
  | _, [] => []
  | start, part :: parts => (start, start + part.length) :: rangesOf (start + part.length + 1) parts

theorem rangesFrom_eq (depth start : Nat) (front cells : List Cell) :
    rangesFrom depth (start + front.length) start (visible cells) =
      rangesOf start ((splitCommas depth cells).modifyHead (front ++ ·)) := by
  induction cells generalizing depth start front with
  | nil => simp [visible, rangesFrom, splitCommas, rangesOf]
  | cons cell cells ih =>
      have hplace : start + front.length + 1 = start + (front ++ [cell]).length := by
        rw [List.length_append, List.length_singleton, Nat.add_assoc]
      have hkeep : ∀ depth, rangesFrom depth (start + front.length + 1) start (visible cells) =
          rangesOf start (((splitCommas depth cells).modifyHead (cell :: ·)).modifyHead
            (front ++ ·)) := by
        intro depth
        rw [hplace, ih, List.modifyHead_modifyHead]
        congr 2
        funext part
        simp
      show rangesFrom depth _ start (cell.char :: visible cells) = _
      rw [rangesFrom, splitCommas_cons, nesting]
      by_cases hopen : cell.char = '('
      · have hcomma : ¬ (cell.char = ',' ∧ depth = 0) := by
          rw [hopen]
          exact fun h => absurd h.1 (by decide)
        rw [if_pos hopen, if_neg hcomma, if_pos hopen, hkeep]
      by_cases hclose : cell.char = ')'
      · have hcomma : ¬ (cell.char = ',' ∧ depth = 0) := by
          rw [hclose]
          exact fun h => absurd h.1 (by decide)
        rw [if_neg hopen, if_pos hclose, if_neg hcomma, if_neg hopen, if_pos hclose, hkeep]
      by_cases hcomma : cell.char = ',' ∧ depth = 0
      · have hlater := ih 0 (start + front.length + 1) []
        rw [List.length_nil, Nat.add_zero] at hlater
        rw [if_neg hopen, if_neg hclose, if_pos hcomma, if_pos hcomma, hcomma.2, hlater]
        have hempty : (splitCommas 0 cells).modifyHead ([] ++ ·) = splitCommas 0 cells := by
          cases splitCommas 0 cells <;> rfl
        rw [hempty]
        simp [rangesOf]
      · rw [if_neg hopen, if_neg hclose, if_neg hcomma, if_neg hcomma, if_neg hopen, if_neg hclose,
          hkeep]

theorem splitTopLevel?_eq (before inside after : List Cell) :
    splitTopLevel? (visible (before ++ (inside ++ after))) before.length
        (before.length + inside.length) =
      some (rangesOf before.length (splitCommas 0 inside)) := by
  have hranges := rangesFrom_eq 0 before.length [] inside
  have hempty : (splitCommas 0 inside).modifyHead ([] ++ ·) = splitCommas 0 inside := by
    cases splitCommas 0 inside <;> rfl
  rw [List.length_nil, Nat.add_zero, hempty] at hranges
  rw [splitTopLevel?, slice?_visible, Option.map_some, hranges]

theorem columnAtEnd?_congr {left right : List Char}
    (h : left.takeWhile inReference = right.takeWhile inReference) :
    columnAtEnd? left = columnAtEnd? right := by
  change left.takeWhile (fun c => isWordChar c || c == '.' || c == '"') =
    right.takeWhile (fun c => isWordChar c || c == '.' || c == '"') at h
  rw [columnAtEnd?, columnAtEnd?, h]

theorem takeWhile_inReference_append {blanks : List Char} (hblank : blanks.all isBlank = true)
    (text : List Char) :
    (text ++ blanks).takeWhile inReference = text.takeWhile inReference := by
  induction text with
  | nil =>
      cases blanks with
      | nil => rfl
      | cons c blanks =>
          rw [List.all_cons, Bool.and_eq_true] at hblank
          have hc : inReference c = false :=
            narrow_inReference c (by rw [isQuiet, hblank.1, Bool.true_or])
          rw [List.nil_append, List.takeWhile_cons, hc]
          rfl
  | cons c text ih => rw [List.cons_append, List.takeWhile_cons, List.takeWhile_cons, ih]

/-- Blanks in front of an identifier make no difference. The text is given from its end. -/
theorem columnAtEnd?_append_of_blank {blanks : List Char} (hblank : blanks.all isBlank = true)
    (reversed : List Char) :
    columnAtEnd? ((reversed ++ blanks).dropWhile isBlank) =
      columnAtEnd? (reversed.dropWhile isBlank) := by
  apply columnAtEnd?_congr
  induction reversed with
  | nil =>
      have hnone : blanks.dropWhile isBlank = [] :=
        List.dropWhile_eq_nil_iff.mpr (List.all_eq_true.mp hblank)
      rw [List.nil_append, hnone]
      rfl
  | cons c reversed ih =>
      rw [List.cons_append, List.dropWhile_cons, List.dropWhile_cons]
      split
      · exact ih
      · exact takeWhile_inReference_append hblank (c :: reversed)

theorem columnIn?_eq (before part after : List Cell) :
    columnIn? (visible (before ++ (part ++ after))) (before.length, before.length + part.length) =
      some (columnAtEnd? ((visible part).reverse.dropWhile isBlank)) := by
  have hsplit := List.takeWhile_append_dropWhile (p := isBlank) (l := visible part)
  have hreverse := congrArg List.reverse hsplit
  rw [List.reverse_append] at hreverse
  have hblank : ((visible part).takeWhile isBlank).reverse.all isBlank = true := by
    rw [List.all_reverse]
    exact List.all_takeWhile
  have hcolumn := columnAtEnd?_append_of_blank hblank ((visible part).dropWhile isBlank).reverse
  rw [hreverse] at hcolumn
  simp only [columnIn?, slice?_visible, trim?_eq, identifierAtEnd?_eq, Option.bind_eq_bind,
    Option.bind_some, List.reverse_reverse, hcolumn]

end QueryMethods.Bytes

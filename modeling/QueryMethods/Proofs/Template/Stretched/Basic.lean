import Mathlib.Data.List.Forall2
import QueryMethods.Template.Column

/-!
# Stretched cells

A masked template can take more room: a blank cell may show as several blanks, and a cell with a
character that means nothing to the checks as several such characters. The checks find the same
words and columns, since they look at what is between such cells and never at how long they are.
-/

namespace QueryMethods

/-- No check on a template tells these characters apart, blanks from the others excepted. -/
def isQuiet (c : Char) : Bool :=
  isBlank c || 128 ≤ c.toNat

theorem toNat_lt_of_isWordChar {c : Char} (h : isWordChar c = true) : c.toNat < 128 := by
  unfold isWordChar Char.isAlphanum Char.isAlpha Char.isUpper Char.isLower Char.isDigit at h
  simp only [Bool.or_eq_true, Bool.and_eq_true, decide_eq_true_eq, beq_iff_eq,
    UInt32.le_iff_toNat_le, ge_iff_le] at h
  have hval : c.toNat = c.val.toNat := rfl
  have hupper : 'Z'.val.toNat = 90 := rfl
  have hlower : 'z'.val.toNat = 122 := rfl
  have hdigit : '9'.val.toNat = 57 := rfl
  rcases h with ((⟨_, hle⟩ | ⟨_, hle⟩) | ⟨_, hle⟩) | rfl
  · omega
  · omega
  · omega
  · decide

theorem isWordChar_eq_false_of_isQuiet {c : Char} (h : isQuiet c = true) :
    isWordChar c = false := by
  rw [Bool.eq_false_iff]
  intro hword
  rw [isQuiet, Bool.or_eq_true, decide_eq_true_eq] at h
  rcases h with hblank | hforeign
  · simp only [isBlank, Bool.or_eq_true, beq_iff_eq] at hblank
    rcases hblank with (((rfl | rfl) | rfl) | rfl) | rfl <;> cases hword
  · have := toNat_lt_of_isWordChar hword
    omega

theorem ne_of_isQuiet {c d : Char} (h : isQuiet c = true) (hd : isQuiet d = false) : c ≠ d := by
  rintro rfl
  rw [h] at hd
  cases hd

/-- Cells that take the room of one. -/
structure Widens (cell : Cell) (block : List Cell) : Prop where
  ne_nil : block ≠ []
  quiet : ∀ other ∈ cell :: block, isQuiet other.char = true
  isBlank_eq : ∀ other ∈ block, isBlank other.char = isBlank cell.char
  slots_eq : block.filterMap Cell.slot? = cell.slot?.toList

inductive Stretched : List Cell → List Cell → Prop where
  | nil : Stretched [] []
  | keep (cell : Cell) {cells wide : List Cell} (hrest : Stretched cells wide) :
      Stretched (cell :: cells) (cell :: wide)
  | widen {cell : Cell} {block cells wide : List Cell} (hblock : Widens cell block)
      (hrest : Stretched cells wide) : Stretched (cell :: cells) (block ++ wide)

/-- A test that does not tell quiet characters apart, blanks from the others excepted. -/
def Even (test : Char → Bool) : Prop :=
  ∀ c d, isQuiet c = true → isQuiet d = true → isBlank c = isBlank d → test c = test d

/-- A test that no quiet character passes. -/
def Narrow (test : Char → Bool) : Prop :=
  ∀ c, isQuiet c = true → test c = false

theorem Narrow.even {test : Char → Bool} (h : Narrow test) : Even test :=
  fun c d hc hd _ => (h c hc).trans (h d hd).symm

theorem narrow_isWordChar : Narrow isWordChar :=
  fun _ => isWordChar_eq_false_of_isQuiet

theorem even_isBlank : Even isBlank :=
  fun _ _ _ _ h => h

section

variable {cell : Cell} {block cells wide more wider : List Cell} {test : Char → Bool}

theorem Widens.quiet_cell (h : Widens cell block) : isQuiet cell.char = true :=
  h.quiet cell List.mem_cons_self

theorem Widens.test_eq (h : Widens cell block) (htest : Even test) :
    ∀ other ∈ block, test other.char = test cell.char := fun other hmem =>
  htest _ _ (h.quiet other (List.mem_cons_of_mem _ hmem)) h.quiet_cell (h.isBlank_eq other hmem)

theorem Widens.reverse (h : Widens cell block) : Widens cell block.reverse where
  ne_nil := by simpa using h.ne_nil
  quiet := by
    intro other hmem
    exact h.quiet other (by simpa using hmem)
  isBlank_eq := by
    intro other hmem
    exact h.isBlank_eq other (by simpa using hmem)
  slots_eq := by
    rw [List.filterMap_reverse, h.slots_eq]
    cases cell.slot? <;> rfl

theorem Widens.exists_cons (h : Widens cell block) :
    ∃ first rest, block = first :: rest ∧ isQuiet first.char = true ∧
      isBlank first.char = isBlank cell.char := by
  cases block with
  | nil => exact absurd rfl h.ne_nil
  | cons first rest =>
      exact ⟨first, rest, rfl, h.quiet first (by simp), h.isBlank_eq first (by simp)⟩

namespace Stretched

theorem append (h : Stretched cells wide) (hmore : Stretched more wider) :
    Stretched (cells ++ more) (wide ++ wider) := by
  induction h with
  | nil => exact hmore
  | keep cell _ ih => exact .keep cell ih
  | widen hblock _ ih =>
      rw [List.append_assoc]
      exact .widen hblock ih

theorem reverse (h : Stretched cells wide) : Stretched cells.reverse wide.reverse := by
  induction h with
  | nil => exact .nil
  | keep cell _ ih =>
      rw [List.reverse_cons, List.reverse_cons]
      exact ih.append (.keep cell .nil)
  | @widen cell block cells wide hblock _ ih =>
      have hlast : Stretched [cell] block.reverse := by
        simpa using Stretched.widen hblock.reverse .nil
      rw [List.reverse_cons, List.reverse_append]
      exact ih.append hlast

/-- Cells are dropped alike by a test that goes along with the stretching. -/
theorem dropWhile (h : Stretched cells wide) (htest : Even test) :
    Stretched (cells.dropWhile (test ·.char)) (wide.dropWhile (test ·.char)) := by
  induction h with
  | nil => exact .nil
  | keep cell hrest ih =>
      by_cases hcell : test cell.char = true
      · simpa [hcell] using ih
      · simpa [hcell] using Stretched.keep cell hrest
  | @widen cell block cells wide hblock hrest ih =>
      have hsame := hblock.test_eq htest
      by_cases hcell : test cell.char = true
      · have hdrop : ((block ++ wide).dropWhile (test ·.char)) = wide.dropWhile (test ·.char) := by
          rw [List.dropWhile_append_of_pos]
          exact fun other hmem => (hsame other hmem).trans hcell
        rw [hdrop]
        simpa [hcell] using ih
      · obtain ⟨first, rest, hcons, -, -⟩ := hblock.exists_cons
        have hfirst : ¬ test first.char = true := by
          rw [hsame first (hcons ▸ List.mem_cons_self)]
          exact hcell
        have hdrop : ((block ++ wide).dropWhile (test ·.char)) = block ++ wide := by
          rw [hcons, List.cons_append, List.dropWhile_cons, if_neg hfirst]
        rw [hdrop]
        simpa [hcell] using Stretched.widen hblock hrest

/-- Cells with printed characters alone are the same. -/
theorem takeWhile_eq (h : Stretched cells wide) (htest : Narrow test) :
    cells.takeWhile (test ·.char) = wide.takeWhile (test ·.char) := by
  induction h with
  | nil => rfl
  | keep cell _ ih => rw [List.takeWhile_cons, List.takeWhile_cons, ih]
  | widen hblock _ _ =>
      obtain ⟨first, rest, rfl, hfirst, -⟩ := hblock.exists_cons
      rw [List.takeWhile_cons, List.cons_append, List.takeWhile_cons,
        htest _ hblock.quiet_cell, htest _ hfirst]
      rfl

end Stretched

theorem words_cons (c : Char) (rest : List Char) :
    words (c :: rest) =
      if isWordChar c then
        match rest.head?.any isWordChar, words rest with
        | true, word :: others => (c :: word) :: others
        | _, others => [c] :: others
      else
        words rest := by
  cases rest with
  | nil => rfl
  | cons next rest =>
      conv => lhs; unfold words
      cases words (next :: rest) <;> cases hnext : isWordChar next <;> simp [hnext]

theorem words_append_of_quiet {text : List Char} (h : ∀ c ∈ text, isQuiet c = true)
    (rest : List Char) : words (text ++ rest) = words rest := by
  induction text with
  | nil => rfl
  | cons c text ih =>
      have hc := isWordChar_eq_false_of_isQuiet (h c List.mem_cons_self)
      rw [List.cons_append, words_cons, hc, if_neg Bool.false_ne_true]
      exact ih fun d hmem => h d (List.mem_cons_of_mem _ hmem)

namespace Stretched

theorem head?_any_eq (h : Stretched cells wide) (htest : Even test) :
    (visible cells).head?.any test = (visible wide).head?.any test := by
  cases h with
  | nil => rfl
  | keep cell _ => rfl
  | widen hblock _ =>
      obtain ⟨first, rest, rfl, -, -⟩ := hblock.exists_cons
      have hsame := hblock.test_eq htest first List.mem_cons_self
      simpa [visible] using hsame.symm

theorem words_eq (h : Stretched cells wide) : words (visible cells) = words (visible wide) := by
  induction h with
  | nil => rfl
  | @keep cell cells wide hrest ih =>
      have hhead := hrest.head?_any_eq narrow_isWordChar.even
      show words (cell.char :: visible cells) = words (cell.char :: visible wide)
      rw [words_cons, words_cons, ih, hhead]
  | @widen cell block cells wide hblock hrest ih =>
      have hquiet : ∀ c ∈ visible block, isQuiet c = true := by
        intro c hmem
        obtain ⟨other, hother, rfl⟩ := List.mem_map.mp hmem
        exact hblock.quiet other (List.mem_cons_of_mem _ hother)
      have hcell := isWordChar_eq_false_of_isQuiet hblock.quiet_cell
      have hwide : visible (block ++ wide) = visible block ++ visible wide := List.map_append
      rw [hwide, words_append_of_quiet hquiet, ← ih]
      show words (cell.char :: visible cells) = _
      rw [words_cons, hcell, if_neg Bool.false_ne_true]

/-- A statement produces rows by what it shows, however much room that takes. -/
theorem producesRows_eq (h : Stretched cells wide) :
    producesRows (visible cells) = producesRows (visible wide) := by
  rw [producesRows, producesRows, h.words_eq]

end Stretched

theorem visible_dropWhile (test : Char → Bool) (cells : List Cell) :
    (visible cells).dropWhile test = visible (cells.dropWhile (test ·.char)) :=
  List.dropWhile_map

theorem visible_takeWhile (test : Char → Bool) (cells : List Cell) :
    (visible cells).takeWhile test = visible (cells.takeWhile (test ·.char)) :=
  List.takeWhile_map

theorem narrow_inReference : Narrow fun c => isWordChar c || c == '.' || c == '"' := by
  intro c hc
  have hdot := ne_of_isQuiet hc (d := '.') rfl
  have hquote := ne_of_isQuiet hc (d := '"') rfl
  simp [isWordChar_eq_false_of_isQuiet hc, hdot, hquote]

/-- The text without the operator that it ends with. The text is given from its end. -/
theorem dropOperator?_cons (c : Char) (rest : List Char) :
    dropOperator? (c :: rest) =
      if c = '>' then
        some (if rest.head?.any (· == '<') then rest.tail else rest)
      else if c = '=' then
        some (if rest.head?.any (fun d => d == '!' || d == '<' || d == '>') then rest.tail
          else rest)
      else if c = '<' then
        some rest
      else if isKeyword "like" ((c :: rest).takeWhile isWordChar).reverse ||
          isKeyword "ilike" ((c :: rest).takeWhile isWordChar).reverse then
        some ((c :: rest).dropWhile isWordChar)
      else
        none := by
  unfold dropOperator?
  split <;> simp_all
  case h_5 later hbang hless hmore _ => cases later <;> simp_all
  case h_7 later hless _ => cases later <;> simp_all

theorem dropOperator?_of_isQuiet {c : Char} (hc : isQuiet c = true) (rest : List Char) :
    dropOperator? (c :: rest) = none := by
  have hmore := ne_of_isQuiet hc (d := '>') rfl
  have hequal := ne_of_isQuiet hc (d := '=') rfl
  have hless := ne_of_isQuiet hc (d := '<') rfl
  have hword : (c :: rest).takeWhile isWordChar = [] := by
    rw [List.takeWhile_cons, isWordChar_eq_false_of_isQuiet hc]
    rfl
  rw [dropOperator?_cons, if_neg hmore, if_neg hequal, if_neg hless, hword]
  rfl

theorem narrow_less : Narrow fun c => c == '<' := by
  intro c hc
  have hless := ne_of_isQuiet hc (d := '<') rfl
  simp [hless]

theorem narrow_isOperator : Narrow fun c => c == '!' || c == '<' || c == '>' := by
  intro c hc
  have hbang := ne_of_isQuiet hc (d := '!') rfl
  have hless := ne_of_isQuiet hc (d := '<') rfl
  have hmore := ne_of_isQuiet hc (d := '>') rfl
  simp [hbang, hless, hmore]

namespace Stretched

theorem columnAtEnd?_eq (h : Stretched cells wide) :
    columnAtEnd? (visible cells) = columnAtEnd? (visible wide) := by
  have hreference := h.takeWhile_eq narrow_inReference
  simp only [columnAtEnd?, visible_takeWhile (fun c => isWordChar c || c == '.' || c == '"'),
    hreference]

theorem tail_of_head (h : Stretched cells wide) (htest : Narrow test)
    (hhead : (visible cells).head?.any test = true) : Stretched cells.tail wide.tail := by
  cases h with
  | nil => cases hhead
  | keep cell hrest => exact hrest
  | widen hblock hrest =>
      rw [visible, List.map_cons, List.head?_cons, Option.any_some, htest _ hblock.quiet_cell]
        at hhead
      cases hhead

theorem exists_second (h : Stretched cells wide) (htest : Narrow test) :
    ∃ left right, Stretched left right ∧
      (if (visible cells).head?.any test then (visible cells).tail else visible cells) =
        visible left ∧
      (if (visible wide).head?.any test then (visible wide).tail else visible wide) =
        visible right := by
  rw [← h.head?_any_eq htest.even]
  by_cases hhead : (visible cells).head?.any test = true
  · rw [if_pos hhead, if_pos hhead]
    exact ⟨_, _, h.tail_of_head htest hhead, List.map_tail.symm, List.map_tail.symm⟩
  · rw [if_neg hhead, if_neg hhead]
    exact ⟨_, _, h, rfl, rfl⟩

theorem dropOperator?_cases (h : Stretched cells wide) :
    (dropOperator? (visible cells) = none ∧ dropOperator? (visible wide) = none) ∨
      ∃ left right, dropOperator? (visible cells) = some (visible left) ∧
        dropOperator? (visible wide) = some (visible right) ∧ Stretched left right := by
  cases h with
  | nil => exact .inl ⟨rfl, rfl⟩
  | @widen cell block cells wide hblock hrest =>
      obtain ⟨first, rest, rfl, hfirst, -⟩ := hblock.exists_cons
      exact .inl ⟨dropOperator?_of_isQuiet hblock.quiet_cell _, dropOperator?_of_isQuiet hfirst _⟩
  | @keep cell cells wide hrest =>
      have hwhole := Stretched.keep cell hrest
      have hword := congrArg visible (hwhole.takeWhile_eq narrow_isWordChar)
      rw [← visible_takeWhile, ← visible_takeWhile] at hword
      have hcells : visible (cell :: cells) = cell.char :: visible cells := rfl
      have hwide : visible (cell :: wide) = cell.char :: visible wide := rfl
      rw [hcells, hwide, dropOperator?_cons, dropOperator?_cons, ← hcells, ← hwide, ← hword]
      by_cases hmore : cell.char = '>'
      · obtain ⟨left, right, hsecond, hleft, hright⟩ := hrest.exists_second narrow_less
        rw [if_pos hmore, if_pos hmore, hleft, hright]
        exact .inr ⟨left, right, rfl, rfl, hsecond⟩
      by_cases hequal : cell.char = '='
      · obtain ⟨left, right, hsecond, hleft, hright⟩ := hrest.exists_second narrow_isOperator
        rw [if_neg hmore, if_neg hmore, if_pos hequal, if_pos hequal, hleft, hright]
        exact .inr ⟨left, right, rfl, rfl, hsecond⟩
      rw [if_neg hmore, if_neg hmore, if_neg hequal, if_neg hequal]
      by_cases hless : cell.char = '<'
      · rw [if_pos hless, if_pos hless]
        exact .inr ⟨_, _, rfl, rfl, hrest⟩
      rw [if_neg hless, if_neg hless]
      split
      · exact .inr ⟨_, _, congrArg some (visible_dropWhile ..), congrArg some (visible_dropWhile ..),
          hwhole.dropWhile narrow_isWordChar.even⟩
      · exact .inl ⟨rfl, rfl⟩

/-- The column that is compared with what follows does not depend on the room that blanks take. -/
theorem comparedColumn?_eq (h : Stretched cells wide) :
    comparedColumn? (visible cells) = comparedColumn? (visible wide) := by
  rw [comparedColumn?, comparedColumn?, visible_dropWhile, visible_dropWhile]
  rcases (h.dropWhile even_isBlank).dropOperator?_cases with
    ⟨hleft, hright⟩ | ⟨left, right, hleft, hright, hrest⟩
  · rw [hleft, hright]
  · rw [hleft, hright, Option.bind_some, Option.bind_some, visible_dropWhile, visible_dropWhile]
    exact (hrest.dropWhile even_isBlank).columnAtEnd?_eq

end Stretched

end

end QueryMethods

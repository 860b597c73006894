import Mathlib.Data.List.Forall2
import Mathlib.Data.List.Nodup
import QueryMethods.Proofs.Checked
import QueryMethods.Proofs.Template.Bytes.Insert

/-!
# Columns behind placeholders, by places

The placeholders of a template are at known places among its cells, so a range holds a placeholder
exactly when the cells of the range do. With that, the checks by places come to the columns that the
checks on the cells come to.
-/

namespace QueryMethods.Bytes

/-- Placeholders take the bytes of their slots, and the blanks after them. -/
structure Marked (cells : List Cell) (placeholders : List Occurrence) : Prop where
  slots_eq : cells.filterMap Cell.slot? = List.range placeholders.length
  exists_blanks : ∀ number placeholder, placeholders[number]? = some placeholder →
    ∃ before blanks after, cells = before ++ .slot number :: (blanks ++ after) ∧
      blanks.all (isBlank ·.char) = true ∧ placeholder.start = before.length ∧
      placeholder.stop = before.length + 1 + blanks.length

section

variable {cells before part after : List Cell} {placeholders : List Occurrence} {number : Nat}

theorem mem_slots_iff : number ∈ cells.filterMap Cell.slot? ↔ Cell.slot number ∈ cells := by
  rw [List.mem_filterMap]
  constructor
  · rintro ⟨cell, hmem, hslot⟩
    cases cell with
    | text c => cases hslot
    | slot other =>
        obtain rfl := Option.some.inj hslot
        exact hmem
  · exact fun hmem => ⟨_, hmem, rfl⟩

theorem Marked.eq_of_slot (h : Marked cells placeholders) {before' after' : List Cell}
    (heq : cells = before ++ .slot number :: after)
    (heq' : cells = before' ++ .slot number :: after') : before = before' ∧ after = after' := by
  have hnodup : (cells.filterMap Cell.slot?).Nodup := h.slots_eq ▸ List.nodup_range
  have hslots : (Cell.slot number :: after).filterMap Cell.slot? =
      number :: after.filterMap Cell.slot? := rfl
  rw [heq, List.filterMap_append, hslots] at hnodup
  have hmiddle := List.nodup_middle.mp hnodup
  have hnotMem := (List.nodup_cons.mp hmiddle).1
  rw [List.mem_append, not_or, mem_slots_iff, mem_slots_iff] at hnotMem
  have hinj := (List.append_cons_inj_of_notMem hnotMem.1 hnotMem.2).mp (heq.symm.trans heq')
  exact ⟨hinj.1, hinj.2.2⟩

/-- Cells that a printed character ends. -/
def Ended (after : List Cell) : Prop :=
  ∃ closing later, after = closing :: later ∧ isBlank closing.char = false

/-- Blanks do not reach beyond a printed character. -/
theorem exists_append_of_blank {blanks rest later : List Cell}
    (hblank : blanks.all (isBlank ·.char) = true) (hended : Ended after)
    (heq : blanks ++ later = rest ++ after) : ∃ more, rest = blanks ++ more := by
  obtain ⟨closing, tail, rfl, hclosing⟩ := hended
  rcases List.append_eq_append_iff.mp heq with ⟨more, hrest, _⟩ | ⟨more, hblanks, hafter⟩
  · exact ⟨more, hrest⟩
  · cases more with
    | nil => exact ⟨[], by rw [List.append_nil] at hblanks ⊢; exact hblanks.symm⟩
    | cons first more =>
        rw [List.cons_append] at hafter
        obtain ⟨rfl, -⟩ := List.cons.inj hafter
        have hmem : closing ∈ blanks := by
          rw [hblanks]
          simp
        rw [List.all_eq_true.mp hblank closing hmem] at hclosing
        cases hclosing

/-- A placeholder lies in a range exactly when its slot is among the cells of the range. -/
theorem Marked.mem_range_iff (h : Marked cells placeholders)
    (hcells : cells = before ++ (part ++ after)) (hended : Ended after) {placeholder : Occurrence}
    (hplaceholder : placeholders[number]? = some placeholder) :
    (before.length ≤ placeholder.start ∧ placeholder.stop ≤ before.length + part.length) ↔
      Cell.slot number ∈ part := by
  obtain ⟨front, blanks, back, hfront, hblank, hstart, hstop⟩ :=
    h.exists_blanks number placeholder hplaceholder
  have hmem : Cell.slot number ∈ before ++ (part ++ after) := by
    rw [← hcells, hfront]
    simp
  constructor
  · rintro ⟨hlow, hhigh⟩
    rcases List.mem_append.mp hmem with hbefore | hmem
    · obtain ⟨left, right, rfl⟩ := List.append_of_mem hbefore
      have hplace : cells = left ++ .slot number :: (right ++ (part ++ after)) := by
        simpa using hcells
      obtain ⟨rfl, -⟩ := h.eq_of_slot hfront hplace
      simp only [List.length_append, List.length_cons] at hlow
      omega
    rcases List.mem_append.mp hmem with hpart | hafter
    · exact hpart
    · obtain ⟨left, right, rfl⟩ := List.append_of_mem hafter
      have hplace : cells = (before ++ (part ++ left)) ++ .slot number :: right := by
        simpa using hcells
      obtain ⟨rfl, -⟩ := h.eq_of_slot hfront hplace
      simp only [List.length_append] at hstop
      omega
  · intro hpart
    obtain ⟨left, right, rfl⟩ := List.append_of_mem hpart
    have hplace : cells = (before ++ left) ++ .slot number :: (right ++ after) := by
      simpa using hcells
    obtain ⟨rfl, htail⟩ := h.eq_of_slot hfront hplace
    obtain ⟨more, rfl⟩ := exists_append_of_blank hblank hended htail
    simp only [List.length_append, List.length_cons] at hstart hstop ⊢
    omega

theorem Marked.slots_part (h : Marked cells placeholders)
    (hcells : cells = before ++ (part ++ after)) :
    ∃ first, part.filterMap Cell.slot? =
      List.range' first (part.filterMap Cell.slot?).length := by
  have hslots := h.slots_eq
  rw [hcells, List.filterMap_append, List.filterMap_append, List.range_eq_range'] at hslots
  obtain ⟨_, _, _, hrest⟩ := List.range'_eq_append_iff.mp hslots.symm
  obtain ⟨count, _, hpart, _⟩ := List.range'_eq_append_iff.mp hrest.symm
  exact ⟨_, by rw [hpart, List.length_range']⟩

/-- The first placeholder in a range is the one of the first slot among the cells of the range. -/
theorem Marked.findIdx?_eq (h : Marked cells placeholders)
    (hcells : cells = before ++ (part ++ after)) (hended : Ended after) :
    placeholders.findIdx? (fun placeholder => before.length ≤ placeholder.start &&
        placeholder.stop ≤ before.length + part.length) = part.findSome? Cell.slot? := by
  have hrange : ∀ number placeholder, placeholders[number]? = some placeholder →
      ((decide (before.length ≤ placeholder.start) &&
        decide (placeholder.stop ≤ before.length + part.length)) = true ↔
          number ∈ part.filterMap Cell.slot?) := by
    intro number placeholder hplaceholder
    rw [Bool.and_eq_true, decide_eq_true_eq, decide_eq_true_eq, mem_slots_iff]
    exact h.mem_range_iff hcells hended hplaceholder
  have hbound : ∀ number ∈ part.filterMap Cell.slot?, number < placeholders.length := by
    intro number hmem
    rw [← List.mem_range, ← h.slots_eq, hcells, List.filterMap_append, List.filterMap_append]
    exact List.mem_append_right _ (List.mem_append_left _ hmem)
  obtain ⟨first, hslots⟩ := h.slots_part hcells
  rw [← List.head?_filterMap]
  cases hpart : part.filterMap Cell.slot? with
  | nil =>
      rw [List.head?_nil, List.findIdx?_eq_none_iff]
      intro placeholder hmem
      obtain ⟨number, hnumber⟩ := List.mem_iff_getElem?.mp hmem
      rw [Bool.eq_false_iff]
      intro hin
      have hslot := (hrange number placeholder hnumber).mp hin
      rw [hpart] at hslot
      cases hslot
  | cons number numbers =>
      rw [hpart, List.length_cons, List.range'_succ] at hslots
      obtain ⟨rfl, hnumbers⟩ := List.cons.inj hslots
      have hlt := hbound number (by rw [hpart]; exact List.mem_cons_self)
      rw [List.head?_cons, List.findIdx?_eq_some_iff_getElem]
      refine ⟨hlt, (hrange number _ (List.getElem?_eq_getElem hlt)).mpr
        (by rw [hpart]; exact List.mem_cons_self), ?_⟩
      intro earlier hearlier hin
      have hslot := (hrange earlier _ (List.getElem?_eq_getElem (by omega))).mp hin
      rw [hpart, List.mem_cons, hnumbers, List.mem_range'_1] at hslot
      omega

theorem isEmpty_trim (text : List Char) :
    ((text.dropWhile isBlank).reverse.dropWhile isBlank).reverse.isEmpty = text.all isBlank := by
  have hsplit := List.takeWhile_append_dropWhile (p := isBlank) (l := text)
  have hall : text.all isBlank = (text.dropWhile isBlank).all isBlank := by
    conv => lhs; rw [← hsplit]
    rw [List.all_append, List.all_takeWhile, Bool.true_and]
  rw [hall, List.isEmpty_reverse, Bool.eq_iff_iff, List.isEmpty_iff, List.dropWhile_eq_nil_iff,
    List.all_eq_true]
  simp only [List.mem_reverse]

theorem all_visible (test : Char → Bool) (cells : List Cell) :
    (visible cells).all test = cells.all (test ·.char) := by
  rw [visible, List.all_map]
  rfl

theorem Marked.exists_placeholder (h : Marked cells placeholders)
    (hmem : Cell.slot number ∈ cells) :
    ∃ placeholder, placeholders[number]? = some placeholder := by
  rw [← mem_slots_iff, h.slots_eq, List.mem_range] at hmem
  exact ⟨_, List.getElem?_eq_getElem hmem⟩

theorem Marked.exists_around (h : Marked cells placeholders)
    (hcells : cells = before ++ (part ++ after)) (hended : Ended after)
    (hmem : Cell.slot number ∈ part) {placeholder : Occurrence}
    (hplaceholder : placeholders[number]? = some placeholder) :
    ∃ left blanks right, part = left ++ ((.slot number :: blanks) ++ right) ∧
      blanks.all (isBlank ·.char) = true ∧ placeholder.start = before.length + left.length ∧
      placeholder.stop = before.length + (left.length + (blanks.length + 1)) := by
  obtain ⟨front, blanks, back, hfront, hblank, hstart, hstop⟩ :=
    h.exists_blanks number placeholder hplaceholder
  obtain ⟨left, right, rfl⟩ := List.append_of_mem hmem
  have hplace : cells = (before ++ left) ++ .slot number :: (right ++ after) := by
    simpa using hcells
  obtain ⟨rfl, htail⟩ := h.eq_of_slot hfront hplace
  obtain ⟨more, rfl⟩ := exists_append_of_blank hblank hended htail
  rw [List.length_append] at hstart hstop
  exact ⟨left, blanks, more, rfl, hblank, hstart, by omega⟩

/-- A placeholder that is the whole value of a column, found by places. -/
theorem target?_eq {found : Scan} (hshown : found.shown = visible cells)
    (h : Marked cells found.occurrences) (hcells : cells = before ++ (part ++ after))
    (hended : Ended after) (column : List Cell) :
    target? found (columnAtEnd? ((visible column).reverse.dropWhile isBlank))
        (before.length, before.length + part.length) =
      some (lonePlaceholder? (column, part)) := by
  have hfind := h.findIdx?_eq hcells hended
  unfold target? lonePlaceholder? loneSlot?
  simp only [hfind, Option.bind_eq_bind]
  cases columnAtEnd? ((visible column).reverse.dropWhile isBlank) with
  | none => simp
  | some name =>
      cases hslot : part.findSome? Cell.slot? with
      | none => simp
      | some number =>
          have hmem : Cell.slot number ∈ part := by
            rw [← mem_slots_iff]
            exact List.mem_of_head? (by rw [List.head?_filterMap, hslot])
          have hmemCells : Cell.slot number ∈ cells := by
            rw [hcells]
            exact List.mem_append_right _ (List.mem_append_left _ hmem)
          obtain ⟨placeholder, hplaceholder⟩ := h.exists_placeholder hmemCells
          obtain ⟨left, blanks, right, rfl, hblank, hstart, hstop⟩ :=
            h.exists_around hcells hended hmem hplaceholder
          have hleft := slice?_visible before left ((.slot number :: blanks) ++ right ++ after)
          have hright := slice?_visible (before ++ left ++ (.slot number :: blanks)) right after
          have hmiddle : (Cell.slot number :: blanks).all (isBlank ·.char) = true := by
            rw [List.all_cons, hblank]
            rfl
          have hlength : (before ++ left ++ (Cell.slot number :: blanks)).length =
              before.length + (left.length + (blanks.length + 1)) := by
            simp only [List.length_append, List.length_cons]
            omega
          have hend : before.length + (left.length + (blanks.length + 1)) + right.length =
              before.length + (left ++ ((.slot number :: blanks) ++ right)).length := by
            simp only [List.length_append, List.length_cons]
            omega
          rw [hlength, hend] at hright
          simp only [List.append_assoc] at hcells hleft hright
          rw [← hcells] at hleft hright
          simp only [hplaceholder, hshown, hstart, hstop, hleft, hright, trim?_eq, isEmpty_trim,
            all_visible, Option.bind_some, List.all_append, hmiddle, Bool.true_and]
          split <;> rfl

end

/-- The range holds these cells, and a printed character ends them. -/
def Covers (cells : List Cell) (range : Nat × Nat) (part : List Cell) : Prop :=
  ∃ before after, cells = before ++ (part ++ after) ∧ Ended after ∧
    range = (before.length, before.length + part.length)

/-- Cells that commas divide into parts. -/
inductive Joined : List Cell → List (List Cell) → Prop where
  | last (part : List Cell) : Joined part [part]
  | more (part : List Cell) {comma : Cell} {rest : List Cell} {parts : List (List Cell)}
      (hcomma : comma.char = ',') (hrest : Joined rest parts) :
      Joined (part ++ comma :: rest) (part :: parts)

theorem Joined.cons {inside : List Cell} {parts : List (List Cell)} (h : Joined inside parts)
    (cell : Cell) : Joined (cell :: inside) (parts.modifyHead (cell :: ·)) := by
  cases h with
  | last part => exact .last _
  | more part hcomma hrest => exact .more (cell :: part) hcomma hrest

theorem joined_splitCommas (depth : Nat) (inside : List Cell) :
    Joined inside (splitCommas depth inside) := by
  induction inside generalizing depth with
  | nil => exact .last []
  | cons cell inside ih =>
      rw [splitCommas_cons]
      split
      case isTrue hcomma => exact .more [] hcomma.1 (ih 0)
      case isFalse => exact (ih _).cons cell

theorem Joined.covers {cells before inside after : List Cell} {parts : List (List Cell)}
    (h : Joined inside parts) (hcells : cells = before ++ (inside ++ after))
    (hended : Ended after) :
    List.Forall₂ (Covers cells) (rangesOf before.length parts) parts := by
  induction h generalizing before with
  | last part => exact .cons ⟨before, after, hcells, hended, rfl⟩ .nil
  | @more part comma rest parts hcomma hrest ih =>
      have hblank : isBlank comma.char = false := by
        rw [hcomma]
        rfl
      have hlater := @ih (before ++ (part ++ [comma])) (by simpa using hcells)
      have hplace : (before ++ (part ++ [comma])).length = before.length + part.length + 1 := by
        simp only [List.length_append, List.length_singleton]
        omega
      rw [hplace] at hlater
      exact .cons ⟨before, comma :: (rest ++ after), by simpa using hcells,
        ⟨comma, _, rfl, hblank⟩, rfl⟩ hlater

theorem mapM_columnIn? {cells : List Cell} {ranges : List (Nat × Nat)} {parts : List (List Cell)}
    (h : List.Forall₂ (Covers cells) ranges parts) :
    ranges.mapM (columnIn? (visible cells)) =
      some (parts.map fun part => columnAtEnd? ((visible part).reverse.dropWhile isBlank)) := by
  rw [mapM_eq_some_iff, List.forall₂_map_right_iff]
  refine h.imp ?_
  rintro range part ⟨before, after, rfl, -, rfl⟩
  exact columnIn?_eq before part after

theorem mapM_target? {cells : List Cell} {found : Scan} (hshown : found.shown = visible cells)
    (hmarked : Marked cells found.occurrences) {ranges : List (Nat × Nat)}
    {values : List (List Cell)} (h : List.Forall₂ (Covers cells) ranges values)
    (columns : List (List Cell)) :
    ((columns.map fun column => columnAtEnd? ((visible column).reverse.dropWhile isBlank)).zip
        ranges).mapM (fun (column, range) => target? found column range) =
      some ((columns.zip values).map lonePlaceholder?) := by
  induction h generalizing columns with
  | nil => simp
  | @cons range value ranges values hcover _ ih =>
      cases columns with
      | nil => rfl
      | cons column columns =>
          obtain ⟨before, after, hcells, hended, rfl⟩ := hcover
          have htarget := target?_eq hshown hmarked hcells hended column
          simp only [List.map_cons, List.zip_cons_cons, List.mapM_cons, ih columns, htarget]
          rfl

theorem Ended.of_close {closing : Cell} (hclosing : closing.char = ')') (after : List Cell) :
    Ended (closing :: after) :=
  ⟨closing, after, rfl, by rw [hclosing]; rfl⟩

theorem exists_ranges {cells front inside after : List Cell} {opening closing : Cell}
    (hcells : cells = front ++ opening :: (inside ++ closing :: after))
    (hclosing : closing.char = ')') :
    ∃ ranges, splitTopLevel? (visible cells) (front.length + 1)
        (front.length + 1 + inside.length) = some ranges ∧
      List.Forall₂ (Covers cells) ranges (splitCommas 0 inside) := by
  have hplace : cells = (front ++ [opening]) ++ (inside ++ closing :: after) := by
    simpa using hcells
  have hsplit := splitTopLevel?_eq (front ++ [opening]) inside (closing :: after)
  have hcovers := (joined_splitCommas 0 inside).covers hplace (.of_close hclosing after)
  rw [← hplace, List.length_append, List.length_singleton] at hsplit
  rw [List.length_append, List.length_singleton] at hcovers
  exact ⟨_, hsplit, hcovers⟩

/-- The `INSERT` of a template is read by places as it is read on the cells. -/
theorem insertTargets?_eq {cells : List Cell} {found : Scan} (hshown : found.shown = visible cells)
    (hmarked : Marked cells found.occurrences) :
    insertTargets? found = some (insertedColumns cells) := by
  have hinsertWord : "insert".toList.all isWordChar = true := by decide
  have hvaluesWord : "values".toList.all isWordChar = true := by decide
  have hstart : cells = [] ++ cells := rfl
  rw [insertedColumns_eq_filterMap, insertParts?]
  unfold insertTargets?
  rw [hshown]
  -- each search either fails on both sides, or tells its place and what follows there
  rcases findWord?_cases hinsertWord (by decide) hstart with
    ⟨hplace, hnone⟩ | ⟨front, insert, hplace, hinsert, hcells⟩
  · have hfrom : fromWord? "insert" false cells = none := hnone
    rw [List.length_nil] at hplace
    rw [hplace, hfrom]
    rfl
  have hfrom : fromWord? "insert" false cells = some insert := hinsert
  rw [List.length_nil] at hplace
  rw [hplace, hfrom]
  simp only [Option.bind_eq_bind, Option.bind_some]
  rcases parenthesized?_cases hcells with
    ⟨hplace, hnone⟩ | ⟨front, columns, closing, afterColumns, hplace, hcolumns, hclosing, opening,
      hcells⟩
  · rw [hplace, hnone]
    rfl
  rw [hplace, hcolumns]
  simp only [Option.bind_some]
  have hclose : cells = (front ++ opening :: columns) ++ closing :: afterColumns := by
    simpa using hcells
  have hlength : (front ++ opening :: columns).length = front.length + 1 + columns.length := by
    simp only [List.length_append, List.length_cons]
    omega
  have hword : isWordChar closing.char = false := by
    rw [hclosing]
    rfl
  obtain ⟨columnRanges, hcolumnRanges, hcolumnCovers⟩ := exists_ranges hcells hclosing
  rcases findWord?_cases hvaluesWord (by decide) hclose with
    ⟨hplace, hnone⟩ | ⟨front, values, hplace, hvalues, hcells⟩
  · rw [fromWord?_cons (by decide) hword] at hnone
    rw [hlength] at hplace
    rw [hplace, hnone]
    rfl
  rw [fromWord?_cons (by decide) hword] at hvalues
  rw [hlength] at hplace
  rw [hplace, hvalues]
  simp only [Option.bind_some]
  rcases parenthesized?_cases hcells with
    ⟨hplace, hnone⟩ | ⟨front, row, closing, afterRow, hplace, hrow, hclosing, opening, hcells⟩
  · rw [hplace, hnone]
    rfl
  rw [hplace, hrow]
  simp only [Option.bind_some]
  obtain ⟨rowRanges, hrowRanges, hrowCovers⟩ := exists_ranges hcells hclosing
  rw [hcolumnRanges, hrowRanges]
  simp only [Option.bind_some, mapM_columnIn? hcolumnCovers,
    mapM_target? hshown hmarked hrowCovers, Option.getD_some, List.filterMap_map]
  rfl

/-- The column of every placeholder is found by places as it is found on the cells. -/
theorem targetColumns?_eq {cells : List Cell} {found : Scan} (hshown : found.shown = visible cells)
    (hmarked : Marked cells found.occurrences) :
    targetColumns? found = some (found.occurrences.mapIdx fun number placeholder =>
      ((insertedColumns cells).lookup number).or
        (QueryMethods.comparedColumn? ((visible cells).take placeholder.start).reverse)) := by
  unfold targetColumns?
  rw [insertTargets?_eq hshown hmarked]
  simp only [Option.bind_eq_bind, Option.bind_some]
  rw [List.mapIdx_eq_zipIdx_map, mapM_eq_some_iff, List.forall₂_map_right_iff, List.forall₂_same]
  rintro ⟨placeholder, number⟩ hmem
  rw [List.mk_mem_zipIdx_iff_getElem?] at hmem
  obtain ⟨before, blanks, after, hcells, -, hstart, -⟩ := hmarked.exists_blanks _ _ hmem
  have hbound : placeholder.start ≤ (visible cells).length := by
    rw [hcells, hstart, visible, List.length_map, List.length_append]
    exact Nat.le_add_right _ _
  dsimp only
  cases (insertedColumns cells).lookup number with
  | some column => rfl
  | none => simp only [hshown, comparedColumn?_eq hbound, Option.none_or]

end QueryMethods.Bytes

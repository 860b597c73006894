import Mathlib.Data.List.Nodup
import QueryMethods.Proofs.Template.Inserted

/-!
# Columns that placeholders are meant for

A placeholder is meant for a column exactly if it is all of a value that an `INSERT` gives to the
column, or stands behind a comparison of the column. Never both: what stands right before a value
is no operator.
-/

namespace QueryMethods

section

variable {cells inside row rest : List Cell} {parts : List (List Cell)} {number : Nat}

def slots (cells : List Cell) : List Nat :=
  cells.filterMap Cell.slot?

theorem slots_maskFrom (number : Nat) (pieces : List Piece) :
    slots (maskFrom number pieces) = List.range' number (placeholders pieces).length := by
  induction pieces generalizing number with
  | nil => rfl
  | cons piece pieces ih =>
      cases piece with
      | placeholder name quote =>
          rw [placeholders, List.length_cons, List.range'_succ, ← ih]
          rfl
      | _ => exact ih number

theorem Bytes.Joined.slots_eq (h : Bytes.Joined inside parts) :
    slots inside = parts.flatMap slots := by
  induction h with
  | last part => simp
  | @more part comma rest parts hcomma hrest ih =>
      have hslot : comma.slot? = none := by
        cases comma with
        | text c => rfl
        | slot number => cases hcomma
      rw [slots, List.filterMap_append, List.filterMap_cons_none hslot]
      exact congrArg (slots part ++ ·) ih

/-- Each value yields at most the number of one placeholder in it. -/
theorem numbers_sublist (columns values : List (List Cell)) :
    (((columns.zip values).filterMap lonePlaceholder?).map Prod.fst).Sublist
      (values.flatMap slots) := by
  induction values generalizing columns with
  | nil => simp
  | cons value values ih =>
      cases columns with
      | nil => exact List.nil_sublist _
      | cons column columns =>
          rw [List.zip_cons_cons, List.filterMap_cons, List.flatMap_cons]
          split
          case h_1 => exact (ih columns).trans (List.sublist_append_right ..)
          case h_2 found hfound =>
            obtain ⟨hslot, -⟩ := lonePlaceholder?_eq_some_iff.mp hfound
            rw [loneSlot?] at hslot
            split at hslot
            case isFalse => cases hslot
            case isTrue =>
              rw [← List.head?_filterMap, List.head?_eq_some_iff] at hslot
              obtain ⟨others, hothers⟩ := hslot
              rw [slots, hothers, List.cons_append, List.map_cons]
              exact ((ih columns).trans (List.sublist_append_right ..)).cons_cons _

theorem slots_sublist_of_listBehind? {keyword : String} (hkeyword : keyword ≠ "")
    (h : listBehind? keyword cells = some (inside, rest)) :
    (slots inside).Sublist (slots cells) ∧ (slots rest).Sublist (slots cells) := by
  obtain ⟨head, opening, more, rfl, -, -, hsplit⟩ := (listBehind?_eq_some_iff hkeyword).mp h
  obtain ⟨closing, -, rfl⟩ := Bytes.eq_of_splitAtClose? hsplit
  refine ⟨List.Sublist.filterMap _ ?_, List.Sublist.filterMap _ ?_⟩
  · exact ((List.sublist_append_left ..).cons _).trans (List.sublist_append_right ..)
  · exact (((List.sublist_cons_self ..).trans (List.sublist_append_right ..)).cons _).trans
      (List.sublist_append_right ..)

theorem nodup_insertedColumns (h : (slots cells).Nodup) :
    ((insertedColumns cells).map Prod.fst).Nodup := by
  rw [insertedColumns_eq]
  cases hpairs : (listBehind? "insert" cells).bind fun columns =>
      (listBehind? "values" columns.2).map fun row =>
        (splitCommas 0 columns.1).zip (splitCommas 0 row.1) with
  | none => exact List.nodup_nil
  | some pairs =>
      obtain ⟨⟨columns, after⟩, hcolumns, hzip⟩ := Option.bind_eq_some_iff.mp hpairs
      obtain ⟨⟨row, rest⟩, hrow, rfl⟩ := Option.map_eq_some_iff.mp hzip
      have hafter := (slots_sublist_of_listBehind? (by decide) hcolumns).2
      have hinside := (slots_sublist_of_listBehind? (by decide) hrow).1
      have hnumbers := numbers_sublist (splitCommas 0 columns) (splitCommas 0 row)
      rw [← (Bytes.joined_splitCommas 0 row).slots_eq] at hnumbers
      exact h.sublist (hnumbers.trans (hinside.trans hafter))

theorem lookup_eq_some_iff_mem {items : List (Nat × String)} (h : (items.map Prod.fst).Nodup)
    {name : String} : items.lookup number = some name ↔ (number, name) ∈ items := by
  induction items with
  | nil => simp
  | cons item items ih =>
      obtain ⟨first, found⟩ := item
      obtain ⟨hfirst, hlater⟩ := List.nodup_cons.mp h
      rw [List.lookup_cons, List.mem_cons]
      by_cases hnumber : number = first
      · subst hnumber
        have hnot : ∀ other, (number, other) ∉ items := fun _ hmem =>
          hfirst (List.mem_map.mpr ⟨_, hmem, rfl⟩)
        simp [hnot, eq_comm]
      · rw [beq_false_of_ne hnumber]
        simp [hnumber, ih hlater]

end

/-- The pieces in front of a placeholder show a comparison of the column. -/
def IsCompared (front : List Piece) (column : String) : Prop :=
  ∃ operand operator blanks, front.map Piece.char = operand ++ operator ++ blanks ∧
    EndsInColumn operand column ∧ Compares operand operator ∧ blanks.all isBlank = true

/-- A value is inserted into the column, and shows nothing but blanks. Its first placeholder is the
one between these pieces. -/
def IsInserted (front back : List Piece) (column : String) : Prop :=
  ∃ (insertion : Insertion) (before gap gap' after : List Piece) (rest : List Char),
    front = before ++ gap ∧ back = gap' ++ after ∧
      before.map Piece.char = insertion.left ∧
      after.map Piece.char = insertion.values.right ++ rest ∧
      (gap.map Piece.char).all isBlank = true ∧ (gap'.map Piece.char).all isBlank = true ∧
      placeholders gap = [] ∧
      EndsInColumn insertion.column column

section

variable {pieces front back : List Piece} {name column : String} {quote : Option Char}

theorem length_maskFrom (number : Nat) (pieces : List Piece) :
    (maskFrom number pieces).length = pieces.length := by
  have hlength := congrArg List.length (visible_maskFrom number pieces)
  rwa [visible, List.length_map, List.length_map] at hlength

theorem exists_of_maskFrom_eq_append {number : Nat} {left right : List Cell}
    (h : maskFrom number pieces = left ++ right) :
    ∃ front back, pieces = front ++ back ∧ maskFrom number front = left ∧
      maskFrom (number + (placeholders front).length) back = right := by
  have hlength : (maskFrom number (pieces.take left.length)).length = left.length := by
    have hwhole := congrArg List.length h
    rw [length_maskFrom, List.length_append] at hwhole
    rw [length_maskFrom, List.length_take]
    omega
  have hsplit := maskFrom_append number (pieces.take left.length) (pieces.drop left.length)
  rw [List.take_append_drop, h] at hsplit
  obtain ⟨hleft, hright⟩ := List.append_inj hsplit.symm hlength
  exact ⟨_, _, (List.take_append_drop ..).symm, hleft, hright⟩

theorem nodup_slots_mask (pieces : List Piece) : (slots (mask pieces)).Nodup := by
  rw [mask, slots_maskFrom]
  exact List.nodup_range'

theorem loneSlot?_eq_some_iff {value : List Cell} {number : Nat} :
    loneSlot? value = some number ↔
      ∃ gap gap', value = gap ++ .slot number :: gap' ∧ (visible gap).all isBlank = true ∧
        (visible gap').all isBlank = true ∧ slots gap = [] := by
  have hall : ∀ gap gap', (gap ++ Cell.slot number :: gap').all (isBlank ·.char) =
      ((visible gap).all isBlank && (visible gap').all isBlank) := by
    intro gap gap'
    rw [List.all_append, List.all_cons, visible, visible, List.all_map, List.all_map]
    rfl
  constructor
  · intro h
    have hblank := all_isBlank_of_loneSlot? h
    rw [loneSlot?, if_pos hblank, List.findSome?_eq_some_iff] at h
    obtain ⟨gap, cell, gap', rfl, hcell, hgap⟩ := h
    cases cell with
    | text c => cases hcell
    | slot found =>
        obtain rfl := Option.some.inj hcell
        rw [hall, Bool.and_eq_true] at hblank
        exact ⟨gap, gap', rfl, hblank.1, hblank.2, List.filterMap_eq_nil_iff.mpr hgap⟩
  · rintro ⟨gap, gap', rfl, hgap, hgap', hslots⟩
    rw [loneSlot?, hall, hgap, hgap', Bool.and_true, if_pos rfl, List.findSome?_eq_some_iff]
    exact ⟨gap, _, gap', rfl, rfl, List.filterMap_eq_nil_iff.mp hslots⟩

theorem mask_placeholder :
    mask (front ++ .placeholder name quote :: back) =
      mask front ++ .slot (placeholders front).length ::
        maskFrom ((placeholders front).length + 1) back := by
  rw [mask, maskFrom_append, Nat.zero_add]
  rfl

/-- A placeholder is found among the values exactly if it is inserted. -/
theorem lookup_insertedColumns_iff :
    (insertedColumns (mask (front ++ .placeholder name quote :: back))).lookup
        (placeholders front).length = some column ↔ IsInserted front back column := by
  rw [lookup_eq_some_iff_mem (nodup_insertedColumns (nodup_slots_mask _)), mem_insertedColumns_iff,
    mask_placeholder]
  constructor
  · rintro ⟨insertion, before, value, after, rest, hcells, hbefore, hafter, hslot, hcolumn⟩
    obtain ⟨gap, gap', rfl, hgap, hgap', hslots⟩ := loneSlot?_eq_some_iff.mp hslot
    have hfront : Cell.slot (placeholders front).length ∉ mask front := by
      rw [← Bytes.mem_slots_iff]
      show _ ∉ slots (mask front)
      rw [mask, slots_maskFrom, List.mem_range']
      omega
    have hback : Cell.slot (placeholders front).length ∉
        maskFrom ((placeholders front).length + 1) back := by
      rw [← Bytes.mem_slots_iff]
      show _ ∉ slots (maskFrom _ back)
      rw [slots_maskFrom, List.mem_range']
      omega
    have hsplit : before ++ ((gap ++ Cell.slot (placeholders front).length :: gap') ++ after) =
        (before ++ gap) ++ Cell.slot (placeholders front).length :: (gap' ++ after) := by
      simp
    rw [hsplit, List.append_cons_inj_of_notMem hfront hback] at hcells
    obtain ⟨frontBefore, frontGap, rfl, rfl, rfl⟩ := exists_of_maskFrom_eq_append hcells.1
    obtain ⟨backGap, backAfter, rfl, rfl, rfl⟩ := exists_of_maskFrom_eq_append hcells.2.2
    rw [visible_maskFrom] at hbefore hafter hgap hgap'
    rw [slots_maskFrom, List.range'_eq_nil_iff, List.length_eq_zero_iff] at hslots
    exact ⟨insertion, frontBefore, frontGap, backGap, backAfter, rest, rfl, rfl, hbefore, hafter,
      hgap, hgap', hslots, hcolumn⟩
  · rintro ⟨insertion, before, gap, gap', after, rest, rfl, rfl, hbefore, hafter, hgap, hgap',
      hslots, hcolumn⟩
    rw [mask, maskFrom_append, maskFrom_append, List.append_assoc, ← List.cons_append,
      ← List.append_assoc (maskFrom _ gap)]
    refine ⟨insertion, _, _, _, rest, rfl, ?_, ?_, loneSlot?_eq_some_iff.mpr
      ⟨_, _, rfl, ?_, ?_, ?_⟩, hcolumn⟩
    · rwa [visible_maskFrom]
    · rwa [visible_maskFrom]
    · rwa [visible_maskFrom]
    · rwa [visible_maskFrom]
    · rw [slots_maskFrom, hslots]
      rfl

/-- Right before a value, blanks excepted, there is no operator. -/
theorem IsCompared.not_isInserted {other : String} (h : IsCompared front column) :
    ¬ IsInserted front back other := by
  obtain ⟨operand, operator, blanks, hfront, -, hcompares, hblanks⟩ := h
  rintro ⟨insertion, before, gap, gap', after, rest, rfl, rfl, hbefore, -, hgap, -⟩
  obtain ⟨text, c, hplace, hc⟩ := insertion.values.exists_left_eq
  have hleft : insertion.left = (insertion.head ++ insertion.columns.left ++ insertion.column ++
      insertion.columns.right ++ insertion.between ++ text) ++ [c] := by
    rw [Insertion.left, hplace, List.append_assoc _ text]
  have hlast : insertion.left.getLast?.any isBlank = false := by
    rw [hleft, List.getLast?_concat, Option.any_some]
    rcases hc with rfl | rfl <;> rfl
  have hoperator : (operand ++ operator).getLast?.any isBlank = false := by
    rw [getLast?_any_append hcompares.ne_nil]
    exact hcompares.last_any isBlank fun _ => isBlank_apart
  -- both texts end in the same character
  rw [List.map_append, hbefore] at hfront
  have hsame := congrArg (fun text => (text.reverse.dropWhile isBlank).head?) hfront
  rw [dropWhile_reverse_append hlast hgap, dropWhile_reverse_append hoperator hblanks,
    List.head?_reverse, List.head?_reverse, hleft, List.getLast?_concat] at hsame
  have hfalse := hcompares.last_any (· == c) fun d hd => by
    obtain rfl := beq_iff_eq.mp hd
    rcases hc with rfl | rfl <;> decide
  rw [← getLast?_any_append hcompares.ne_nil, ← hsame, Option.any_some, beq_self_eq_true] at hfalse
  cases hfalse

/-- A placeholder is meant for the columns that it is inserted into or compared with. -/
theorem getElem?_targetColumns_iff :
    (targetColumns (mask (front ++ .placeholder name quote :: back)))[
        (placeholders front).length]? = some (some column) ↔
      IsInserted front back column ∨ IsCompared front column := by
  have hcompared : comparedColumn? (front.map Piece.char).reverse = some column ↔
      IsCompared front column := comparedColumn?_eq_some_iff
  have hinserted := @lookup_insertedColumns_iff front back name column quote
  rw [getElem?_targetColumns, Option.some_inj, ← hcompared, ← hinserted]
  cases hfound : (insertedColumns (mask (front ++ .placeholder name quote :: back))).lookup
      (placeholders front).length with
  | none => simp
  | some found =>
      rw [lookup_insertedColumns_iff] at hfound
      have hnot : comparedColumn? (front.map Piece.char).reverse ≠ some column := fun h =>
        (hcompared.mp h).not_isInserted hfound
      simp [hnot]

end

end QueryMethods

import QueryMethods.Proofs.Template.Stretched.Basic

/-!
# The `INSERT` of stretched cells

Keywords, parentheses and commas are found at the same cells, and what stands between them is
stretched as the whole is. So the values of a row are lone placeholders where they were before, and
meant for the same columns.
-/

namespace QueryMethods

variable {cell : Cell} {block cells wide : List Cell}

theorem leadingWord_cons (hcell : isWordChar cell.char = false) :
    leadingWord (cell :: cells) = [] := by
  rw [leadingWord, List.takeWhile_cons, hcell]
  rfl

theorem isKeyword_nil {keyword : String} (hkeyword : keyword ≠ "") :
    isKeyword keyword [] = false := by
  have hne : keyword.toList ≠ [] := by simpa using hkeyword
  rw [isKeyword, Bool.eq_false_iff]
  intro heq
  exact hne (beq_iff_eq.mp heq).symm

theorem fromWord?_cons {keyword : String} (hkeyword : keyword ≠ "")
    (hcell : isWordChar cell.char = false) (afterWord : Bool) :
    fromWord? keyword afterWord (cell :: cells) = fromWord? keyword false cells := by
  rw [fromWord?, leadingWord_cons hcell, isKeyword_nil hkeyword, Bool.and_false,
    if_neg Bool.false_ne_true, hcell]

theorem fromWord?_append_of_quiet {keyword : String} (hkeyword : keyword ≠ "")
    (hne : block ≠ []) (hquiet : ∀ other ∈ block, isQuiet other.char = true) (afterWord : Bool) :
    fromWord? keyword afterWord (block ++ wide) = fromWord? keyword false wide := by
  induction block generalizing afterWord with
  | nil => exact absurd rfl hne
  | cons first block ih =>
      have hfirst := isWordChar_eq_false_of_isQuiet (hquiet first List.mem_cons_self)
      rw [List.cons_append, fromWord?_cons hkeyword hfirst]
      cases block with
      | nil => rfl
      | cons second block =>
          exact ih (List.cons_ne_nil _ _)
            (fun other hmem => hquiet other (List.mem_cons_of_mem _ hmem)) false

theorem Stretched.fromWord? (h : Stretched cells wide) {keyword : String} (hkeyword : keyword ≠ "")
    (afterWord : Bool) :
    Option.Rel Stretched (fromWord? keyword afterWord cells) (fromWord? keyword afterWord wide) := by
  induction h generalizing afterWord with
  | nil => exact .none
  | @keep cell cells wide hrest ih =>
      have hword : leadingWord (cell :: cells) = leadingWord (cell :: wide) :=
        congrArg visible ((Stretched.keep cell hrest).takeWhile_eq narrow_isWordChar)
      rw [QueryMethods.fromWord?, QueryMethods.fromWord?, hword]
      split
      · exact .some (.keep cell hrest)
      · exact ih _
  | @widen cell block cells wide hblock hrest ih =>
      have hquiet := fun other hmem => hblock.quiet other (List.mem_cons_of_mem _ hmem)
      have hcell := isWordChar_eq_false_of_isQuiet hblock.quiet_cell
      rw [fromWord?_cons hkeyword hcell,
        fromWord?_append_of_quiet hkeyword hblock.ne_nil hquiet]
      exact ih false

theorem splitAtClose?_cons_of_ne (hclose : cell.char ≠ ')') (depth : Nat) :
    splitAtClose? depth (cell :: cells) =
      (splitAtClose? (if cell.char = '(' then depth + 1 else depth) cells).map
        fun split => (cell :: split.1, split.2) := by
  cases depth <;> simp [splitAtClose?, hclose]

theorem splitAtClose?_append_of_quiet (hquiet : ∀ other ∈ block, isQuiet other.char = true)
    (depth : Nat) : splitAtClose? depth (block ++ wide) =
      (splitAtClose? depth wide).map fun split => (block ++ split.1, split.2) := by
  induction block with
  | nil => simp
  | cons first block ih =>
      have hfirst := hquiet first List.mem_cons_self
      rw [List.cons_append, splitAtClose?_cons_of_ne (ne_of_isQuiet hfirst rfl),
        if_neg (ne_of_isQuiet hfirst rfl),
        ih fun other hmem => hquiet other (List.mem_cons_of_mem _ hmem), Option.map_map]
      rfl

/-- Two splits of which each part is the other one stretched. -/
def SplitAlike (left right : List Cell × List Cell) : Prop :=
  Stretched left.1 right.1 ∧ Stretched left.2 right.2

theorem SplitAlike.map {split split' : Option (List Cell × List Cell)}
    (h : Option.Rel SplitAlike split split') (hfront : ∀ {inside inside' : List Cell},
      Stretched inside inside' → Stretched (cell :: inside) (block ++ inside')) :
    Option.Rel SplitAlike (split.map fun parts => (cell :: parts.1, parts.2))
      (split'.map fun parts => (block ++ parts.1, parts.2)) := by
  cases h with
  | none => exact .none
  | some hparts => exact .some ⟨hfront hparts.1, hparts.2⟩

theorem Stretched.splitAtClose? (h : Stretched cells wide) (depth : Nat) :
    Option.Rel SplitAlike (splitAtClose? depth cells) (splitAtClose? depth wide) := by
  induction h generalizing depth with
  | nil => exact .none
  | @keep cell cells wide hrest ih =>
      have hfront : ∀ {inside inside' : List Cell}, Stretched inside inside' →
          Stretched (cell :: inside) ([cell] ++ inside') := fun h => .keep cell h
      by_cases hclose : cell.char = ')'
      · cases depth with
        | zero =>
            simp only [QueryMethods.splitAtClose?, hclose, if_true]
            exact .some ⟨.nil, hrest⟩
        | succ depth =>
            simp only [QueryMethods.splitAtClose?, hclose, if_true]
            exact SplitAlike.map (ih depth) hfront
      · rw [splitAtClose?_cons_of_ne hclose, splitAtClose?_cons_of_ne hclose]
        exact SplitAlike.map (ih _) hfront
  | @widen cell block cells wide hblock hrest ih =>
      have hquiet := fun other hmem => hblock.quiet other (List.mem_cons_of_mem _ hmem)
      rw [splitAtClose?_cons_of_ne (ne_of_isQuiet hblock.quiet_cell rfl),
        if_neg (ne_of_isQuiet hblock.quiet_cell rfl), splitAtClose?_append_of_quiet hquiet]
      exact SplitAlike.map (ih depth) fun h => .widen hblock h

theorem even_ne_open : Even (· != '(') := by
  intro c d hc hd _
  have hleft : c ≠ '(' := ne_of_isQuiet hc rfl
  have hright : d ≠ '(' := ne_of_isQuiet hd rfl
  exact (bne_iff_ne.mpr hleft).trans (bne_iff_ne.mpr hright).symm

theorem Stretched.parenthesized? (h : Stretched cells wide) :
    Option.Rel SplitAlike (parenthesized? cells) (parenthesized? wide) := by
  have hrest := h.dropWhile even_ne_open
  have hquiet : ∀ c rest, (cells.dropWhile (·.char != '(')) = c :: rest → isQuiet c.char = false := by
    intro c rest heq
    have hopen := List.head?_dropWhile_not (·.char != '(') cells
    rw [heq, List.head?_cons] at hopen
    simp only [bne_eq_false_iff_eq] at hopen
    rw [hopen]
    rfl
  unfold QueryMethods.parenthesized?
  generalize cells.dropWhile (·.char != '(') = left at *
  generalize wide.dropWhile (·.char != '(') = right at *
  cases hrest with
  | nil => exact .none
  | keep cell hrest => exact hrest.splitAtClose? 0
  | widen hblock hrest =>
      have hcell := hblock.quiet_cell
      rw [hquiet _ _ rfl] at hcell
      cases hcell

/-- The number of open parentheses after a cell. -/
def nesting (depth : Nat) (cell : Cell) : Nat :=
  if cell.char = '(' then depth + 1 else if cell.char = ')' then depth - 1 else depth

theorem splitCommas_ne_nil (depth : Nat) (cells : List Cell) : splitCommas depth cells ≠ [] := by
  cases cells with
  | nil => exact List.cons_ne_nil _ _
  | cons cell rest =>
      rw [splitCommas]
      split
      · exact List.cons_ne_nil _ _
      · dsimp only
        split <;> exact List.cons_ne_nil _ _

theorem splitCommas_cons (depth : Nat) (cell : Cell) (rest : List Cell) :
    splitCommas depth (cell :: rest) =
      if cell.char = ',' ∧ depth = 0 then
        [] :: splitCommas 0 rest
      else
        (splitCommas (nesting depth cell) rest).modifyHead (cell :: ·) := by
  rw [splitCommas]
  split
  · rfl
  · dsimp only
    rw [← nesting]
    cases hparts : splitCommas (nesting depth cell) rest with
    | nil => exact absurd hparts (splitCommas_ne_nil _ _)
    | cons part parts => rfl

theorem splitCommas_cons_of_isQuiet (depth : Nat) (hcell : isQuiet cell.char = true) :
    splitCommas depth (cell :: cells) = (splitCommas depth cells).modifyHead (cell :: ·) := by
  have hcomma : ¬ (cell.char = ',' ∧ depth = 0) := fun h => ne_of_isQuiet hcell rfl h.1
  have hnesting : nesting depth cell = depth := by
    rw [nesting, if_neg (ne_of_isQuiet hcell rfl), if_neg (ne_of_isQuiet hcell rfl)]
  rw [splitCommas_cons, if_neg hcomma, hnesting]

theorem splitCommas_append_of_quiet (hquiet : ∀ other ∈ block, isQuiet other.char = true)
    (depth : Nat) :
    splitCommas depth (block ++ wide) = (splitCommas depth wide).modifyHead (block ++ ·) := by
  induction block with
  | nil =>
      rw [List.nil_append]
      cases splitCommas depth wide <;> rfl
  | cons first block ih =>
      rw [List.cons_append, splitCommas_cons_of_isQuiet depth (hquiet _ List.mem_cons_self),
        ih fun other hmem => hquiet other (List.mem_cons_of_mem _ hmem)]
      cases splitCommas depth wide <;> rfl

theorem forall₂_modifyHead {parts wider : List (List Cell)} (h : List.Forall₂ Stretched parts wider)
    {front front' : List Cell → List Cell}
    (hfront : ∀ part part', Stretched part part' → Stretched (front part) (front' part')) :
    List.Forall₂ Stretched (parts.modifyHead front) (wider.modifyHead front') := by
  cases h with
  | nil => exact .nil
  | cons hpart hparts => exact .cons (hfront _ _ hpart) hparts

theorem Stretched.splitCommas (h : Stretched cells wide) (depth : Nat) :
    List.Forall₂ Stretched (splitCommas depth cells) (splitCommas depth wide) := by
  induction h generalizing depth with
  | nil => exact .cons .nil .nil
  | keep cell hrest ih =>
      rw [splitCommas_cons, splitCommas_cons]
      split
      · exact .cons .nil (ih 0)
      · exact forall₂_modifyHead (ih _) fun _ _ h => .keep cell h
  | widen hblock hrest ih =>
      have hquiet := fun other hmem => hblock.quiet other (List.mem_cons_of_mem _ hmem)
      rw [splitCommas_cons_of_isQuiet depth hblock.quiet_cell, splitCommas_append_of_quiet hquiet]
      exact forall₂_modifyHead (ih depth) fun _ _ h => .widen hblock h

theorem Stretched.all_eq (h : Stretched cells wide) {test : Char → Bool} (htest : Even test) :
    cells.all (test ·.char) = wide.all (test ·.char) := by
  induction h with
  | nil => rfl
  | keep cell _ ih => rw [List.all_cons, List.all_cons, ih]
  | @widen cell block cells wide hblock _ ih =>
      have hsame := hblock.test_eq htest
      have hall : block.all (test ·.char) = test cell.char := by
        obtain ⟨first, rest, rfl, -, -⟩ := hblock.exists_cons
        cases hcell : test cell.char with
        | true => exact List.all_eq_true.mpr fun other hmem => (hsame other hmem).trans hcell
        | false => rw [List.all_cons, hsame first List.mem_cons_self, hcell, Bool.false_and]
      rw [List.all_cons, List.all_append, hall, ih]

theorem Stretched.slots_eq (h : Stretched cells wide) :
    cells.filterMap Cell.slot? = wide.filterMap Cell.slot? := by
  induction h with
  | nil => rfl
  | keep cell _ ih => rw [List.filterMap_cons, List.filterMap_cons, ih]
  | @widen cell block cells wide hblock _ ih =>
      rw [List.filterMap_append, hblock.slots_eq, List.filterMap_cons, ih]
      cases cell.slot? <;> rfl

theorem Stretched.loneSlot?_eq (h : Stretched cells wide) : loneSlot? cells = loneSlot? wide := by
  rw [loneSlot?, loneSlot?, h.all_eq even_isBlank, ← List.head?_filterMap, ← List.head?_filterMap,
    h.slots_eq]

theorem Stretched.lastColumn?_eq (h : Stretched cells wide) :
    columnAtEnd? ((visible cells).reverse.dropWhile isBlank) =
      columnAtEnd? ((visible wide).reverse.dropWhile isBlank) := by
  have hcells : (visible cells).reverse = visible cells.reverse := List.map_reverse.symm
  have hwide : (visible wide).reverse = visible wide.reverse := List.map_reverse.symm
  rw [hcells, hwide, visible_dropWhile, visible_dropWhile]
  exact (h.reverse.dropWhile even_isBlank).columnAtEnd?_eq

/-! ### The whole `INSERT` -/

/-- The columns of an `INSERT`, each with its value in the first row. -/
def insertParts? (cells : List Cell) : Option (List (List Cell × List Cell)) := do
  let insert ← fromWord? "insert" false cells
  let (columns, afterColumns) ← parenthesized? insert
  let values ← fromWord? "values" false afterColumns
  let (row, _) ← parenthesized? values
  some ((splitCommas 0 columns).zip (splitCommas 0 row))

/-- The placeholder that is the whole value of a column, with that column. -/
def lonePlaceholder? (parts : List Cell × List Cell) : Option (Nat × String) := do
  let number ← loneSlot? parts.2
  let name ← columnAtEnd? ((visible parts.1).reverse.dropWhile isBlank)
  some (number, name)

theorem insertedColumns_eq_filterMap (cells : List Cell) :
    insertedColumns cells = ((insertParts? cells).getD []).filterMap lonePlaceholder? :=
  rfl

theorem rel_bind {α β α' β' : Type} {related : α → β → Prop} {later : α' → β' → Prop}
    {left : Option α} {right : Option β} {next : α → Option α'} {next' : β → Option β'}
    (h : Option.Rel related left right)
    (hnext : ∀ x y, related x y → Option.Rel later (next x) (next' y)) :
    Option.Rel later (left.bind next) (right.bind next') := by
  cases h with
  | none => exact .none
  | some hxy => exact hnext _ _ hxy

theorem forall₂_zip {columns columns' values values' : List (List Cell)}
    (hcolumns : List.Forall₂ Stretched columns columns')
    (hvalues : List.Forall₂ Stretched values values') :
    List.Forall₂ SplitAlike (columns.zip values) (columns'.zip values') := by
  induction hcolumns generalizing values values' with
  | nil => exact .nil
  | cons hcolumn _ ih =>
      cases hvalues with
      | nil => exact .nil
      | cons hvalue hvalues => exact .cons ⟨hcolumn, hvalue⟩ (ih hvalues)

theorem Stretched.insertParts? (h : Stretched cells wide) :
    Option.Rel (List.Forall₂ SplitAlike) (insertParts? cells) (insertParts? wide) := by
  refine rel_bind (h.fromWord? (by decide) false) fun insert insert' hinsert => ?_
  refine rel_bind hinsert.parenthesized? fun columns columns' hcolumns => ?_
  refine rel_bind (hcolumns.2.fromWord? (by decide) false) fun values values' hvalues => ?_
  refine rel_bind hvalues.parenthesized? fun row row' hrow => ?_
  exact .some (forall₂_zip (hcolumns.1.splitCommas 0) (hrow.1.splitCommas 0))

/-- The lone placeholders of an `INSERT`, and their columns, stay the same. -/
theorem Stretched.insertedColumns_eq (h : Stretched cells wide) :
    insertedColumns cells = insertedColumns wide := by
  have hlone : ∀ parts parts', SplitAlike parts parts' →
      lonePlaceholder? parts = lonePlaceholder? parts' := by
    intro parts parts' halike
    rw [lonePlaceholder?, lonePlaceholder?, halike.2.loneSlot?_eq, halike.1.lastColumn?_eq]
  have hfound := h.insertParts?
  rw [insertedColumns_eq_filterMap, insertedColumns_eq_filterMap]
  generalize QueryMethods.insertParts? cells = found at *
  generalize QueryMethods.insertParts? wide = found' at *
  cases hfound with
  | none => rfl
  | some hparts =>
      rw [Option.getD_some, Option.getD_some]
      induction hparts with
      | nil => rfl
      | cons hpair _ ih => rw [List.filterMap_cons, List.filterMap_cons, hlone _ _ hpair, ih]

end QueryMethods

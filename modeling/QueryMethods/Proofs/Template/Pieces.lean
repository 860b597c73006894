import QueryMethods.Template.Binding

/-!
# Pieces and the text they come from

Nothing of a template is lost when it is cut: its pieces, each written as the template writes it,
are the template again. In the bound text every placeholder gives way to the marker of its number,
and what stands before and after it stays where it is.
-/

namespace QueryMethods

/-- The text of an unfinished placeholder, which no piece shows yet. -/
def Region.opened : Region → List Char
  | .name _ (.opened quote) reversed => quote :: '{' :: reversed.reverse
  | .name _ _ reversed => '{' :: reversed.reverse
  | _ => []

@[simp]
theorem source_literalPiece (quote c : Char) : (literalPiece quote c).source = [c] := by
  unfold literalPiece
  split <;> rfl

theorem eq_ok_of_map {ε α β : Type} {f : α → β} {result : Except ε α} {value : β}
    (h : result.map f = .ok value) : ∃ found, result = .ok found ∧ f found = value := by
  cases result with
  | error fault => cases h
  | ok found => exact ⟨found, rfl, Except.ok.inj h⟩

theorem scan_source {region : Region} {offset : Nat} {text : List Char} {pieces : List Piece}
    (h : scan region offset text = .ok pieces) :
    region.opened ++ text = pieces.flatMap Piece.source := by
  fun_induction scan region offset text generalizing pieces
  -- the template is refused
  case case1 | case4 | case5 | case6 => cases h
  -- the text ends
  case case8 region _ hregion =>
    rw [← Except.ok.inj h]
    cases region with
    | name start enclosure reversed => exact absurd rfl (hregion start enclosure reversed)
    | _ => rfl
  case case24 => simp [← Except.ok.inj h, Region.opened, Piece.source]
  -- a placeholder ends
  case case2 name _ _ ih | case3 name _ _ _ ih =>
    obtain ⟨later, hlater, rfl⟩ := eq_ok_of_map h
    simp [Region.opened, Piece.source, name, ← ih hlater]
  -- a placeholder begins, or its name goes on
  case case7 enclosure _ _ _ _ _ ih =>
    rw [← ih h]
    cases enclosure <;> simp [Region.opened]
  case case15 ih | case21 ih =>
    rw [← ih h]
    rfl
  case case22 brace after hopens _ _ _ _ ih =>
    have hbrace : brace = '{' := by
      unfold opensPlaceholder at hopens
      split at hopens <;> simp_all
    rw [← ih h, hbrace]
    rfl
  -- one piece shows one character or two
  case case16 ih =>
    obtain ⟨later, hlater, rfl⟩ := eq_ok_of_map h
    have hrest := ih hlater
    split at hrest <;> simp_all [Region.opened]
  all_goals
    rename_i ih
    obtain ⟨later, hlater, rfl⟩ := eq_ok_of_map h
    simp [Region.opened, Piece.source, ← ih hlater]

/-- The pieces of a template, each as the template writes it, are the template. -/
theorem source_of_piecesOf {template : List Char} {pieces : List Piece}
    (h : piecesOf template = .ok pieces) : pieces.flatMap Piece.source = template :=
  (scan_source h).symm

/-- The text of pieces, where the placeholder of a number gives way to the marker of that number
and a doubled brace to a single one. The first placeholder has the given number. -/
def writeFrom (marker : Nat → String) : Nat → List Piece → List Char
  | _, [] => []
  | number, .code c :: rest | number, .hidden c :: rest | number, .brace c :: rest =>
      c :: writeFrom marker number rest
  | number, .placeholder _ _ :: rest =>
      (marker number).toList ++ writeFrom marker (number + 1) rest

theorem placeholders_append (before after : List Piece) :
    placeholders (before ++ after) = placeholders before ++ placeholders after := by
  induction before with
  | nil => rfl
  | cons piece rest ih => cases piece <;> simp [placeholders, ih]

theorem writeFrom_append (marker : Nat → String) (number : Nat) (before after : List Piece) :
    writeFrom marker number (before ++ after) =
      writeFrom marker number before ++
        writeFrom marker (number + (placeholders before).length) after := by
  induction before generalizing number with
  | nil => rfl
  | cons piece rest ih =>
      cases piece <;> simp [writeFrom, placeholders, ih, Nat.add_assoc, Nat.add_comm 1]

theorem BoundTemplate.fill_eq_writeFrom (marker : Nat → String) (number : Nat)
    (pieces : List Piece) :
    fill ((List.range' number (placeholders pieces).length).map marker) pieces =
      writeFrom marker number pieces := by
  induction pieces generalizing number with
  | nil => rfl
  | cons piece rest ih =>
      cases piece <;> simp [fill, writeFrom, placeholders, List.range'_succ, ih]

end QueryMethods

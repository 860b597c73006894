import Mathlib.Data.List.Nodup
import QueryMethods.Template.Bytes.Binding
import QueryMethods.Proofs.Template.Bytes.Spread

/-!
# Edits of a template

The markers and the single braces, sorted by their places, are the edits of the pieces from left to
right. Made one after the other, they write the text of the pieces.
-/

namespace QueryMethods

namespace Bytes

/-- The edit of a piece at a place, where it is the placeholder of that number or a doubled
brace. -/
def edit? (marker : Nat → String) (number place : Nat) (piece : Piece) : Option Edit :=
  match piece with
  | .placeholder _ _ => some ⟨place, place + piece.width, (marker number).toList⟩
  | .brace c => some ⟨place, place + piece.width, [c]⟩
  | _ => none

/-- The edits of pieces from left to right. -/
def editsFrom (marker : Nat → String) : Nat → Nat → List Piece → List Edit
  | _, _, [] => []
  | number, place, piece :: rest =>
      (edit? marker number place piece).toList ++
        editsFrom marker (number + (placeholders [piece]).length) (place + piece.width) rest

section

variable {marker : Nat → String} {number place : Nat} {pieces : List Piece} {edit : Edit}

theorem edit?_eq_some {piece : Piece} (h : edit? marker number place piece = some edit) :
    edit.start = place ∧ edit.stop = place + piece.width := by
  cases piece with
  | code c => cases h
  | hidden c => cases h
  | brace c =>
      obtain rfl := Option.some.inj h
      exact ⟨rfl, rfl⟩
  | placeholder name quote =>
      obtain rfl := Option.some.inj h
      exact ⟨rfl, rfl⟩

theorem exists_of_mem_editsFrom (h : edit ∈ editsFrom marker number place pieces) :
    ∃ front piece back, pieces = front ++ piece :: back ∧
      edit? marker (number + (placeholders front).length)
        (place + byteLength (front.flatMap Piece.source)) piece = some edit := by
  induction pieces generalizing number place with
  | nil => cases h
  | cons piece pieces ih =>
      rw [editsFrom, List.mem_append] at h
      rcases h with hfirst | hlater
      · exact ⟨[], piece, pieces, rfl, Option.mem_toList.mp hfirst⟩
      · obtain ⟨front, found, back, rfl, hedit⟩ := ih hlater
        refine ⟨piece :: front, found, back, rfl, ?_⟩
        have hcount : placeholders (piece :: front) = placeholders [piece] ++ placeholders front :=
          placeholders_append [piece] front
        rw [hcount, List.length_append, List.flatMap_cons, byteLength_append, ← Nat.add_assoc,
          ← Nat.add_assoc]
        exact hedit

theorem mem_editsFrom {front back : List Piece} {piece : Piece}
    (h : edit? marker (number + (placeholders front).length)
      (place + byteLength (front.flatMap Piece.source)) piece = some edit) :
    edit ∈ editsFrom marker number place (front ++ piece :: back) := by
  induction front generalizing number place with
  | nil =>
      rw [List.nil_append, editsFrom, List.mem_append]
      exact .inl (Option.mem_toList.mpr h)
  | cons first front ih =>
      have hcount : placeholders (first :: front) = placeholders [first] ++ placeholders front :=
        placeholders_append [first] front
      rw [hcount, List.length_append, List.flatMap_cons, byteLength_append, ← Nat.add_assoc,
        ← Nat.add_assoc] at h
      rw [List.cons_append, editsFrom, List.mem_append]
      exact .inr (ih h)

theorem le_start_of_mem (h : edit ∈ editsFrom marker number place pieces) : place ≤ edit.start := by
  obtain ⟨front, piece, back, -, hedit⟩ := exists_of_mem_editsFrom h
  rw [(edit?_eq_some hedit).1]
  exact Nat.le_add_right _ _

/-- The edits are in order, and none reaches into the next one. -/
theorem pairwise_editsFrom (marker : Nat → String) (number place : Nat) (pieces : List Piece) :
    (editsFrom marker number place pieces).Pairwise fun earlier later =>
      earlier.stop ≤ later.start := by
  induction pieces generalizing number place with
  | nil => exact .nil
  | cons piece pieces ih =>
      rw [editsFrom]
      cases hedit : edit? marker number place piece with
      | none => exact ih _ _
      | some first =>
          refine List.pairwise_cons.mpr ⟨fun later hmem => ?_, ih _ _⟩
          rw [(edit?_eq_some hedit).2]
          exact le_start_of_mem hmem

theorem start_lt_stop (h : edit ∈ editsFrom marker number place pieces) :
    edit.start < edit.stop := by
  obtain ⟨front, piece, back, -, hedit⟩ := exists_of_mem_editsFrom h
  obtain ⟨hstart, hstop⟩ := edit?_eq_some hedit
  have hpos := piece.width_pos
  omega

theorem eq_of_start_eq {other : Edit} (h : edit ∈ editsFrom marker number place pieces)
    (hother : other ∈ editsFrom marker number place pieces) (heq : edit.start = other.start) :
    edit = other := by
  have hsorted := (pairwise_editsFrom marker number place pieces).imp_of_mem
    (S := fun earlier later => earlier.start < later.start) fun hmem _ hle =>
      Nat.lt_of_lt_of_le (start_lt_stop hmem) hle
  have hnodup : ((editsFrom marker number place pieces).map Edit.start).Nodup :=
    (List.pairwise_map.mpr hsorted).imp Nat.ne_of_lt
  exact List.inj_on_of_nodup_map hnodup h hother heq

end

/-- However the edits are listed, sorting puts them in order. -/
theorem mergeSort_eq_editsFrom {marker : Nat → String} {number place : Nat} {pieces : List Piece}
    {edits : List Edit} (h : edits.Perm (editsFrom marker number place pieces)) :
    edits.mergeSort (fun left right => left.start ≤ right.start) =
      editsFrom marker number place pieces := by
  have hperm := (List.mergeSort_perm edits fun left right => left.start ≤ right.start).trans h
  have htrans : ∀ first second third : Edit, decide (first.start ≤ second.start) = true →
      decide (second.start ≤ third.start) = true → decide (first.start ≤ third.start) = true := by
    intro first second third hleft hright
    exact decide_eq_true (Nat.le_trans (of_decide_eq_true hleft) (of_decide_eq_true hright))
  have htotal : ∀ left right : Edit,
      (decide (left.start ≤ right.start) || decide (right.start ≤ left.start)) = true := by
    intro left right
    simpa using Nat.le_total left.start right.start
  have hsorted := List.pairwise_mergeSort htrans htotal edits
  have hordered := (pairwise_editsFrom marker number place pieces).imp_of_mem
    (S := fun earlier later => decide (earlier.start ≤ later.start) = true) fun hmem _ hle =>
      decide_eq_true (Nat.le_of_lt (Nat.lt_of_lt_of_le (start_lt_stop hmem) hle))
  -- no two edits begin at the same place, so there is only one way to sort them
  refine hperm.eq_of_pairwise (fun left right hleft hright hle hge => ?_) hsorted hordered
  exact eq_of_start_eq (hperm.mem_iff.mp hleft) hright
    (Nat.le_antisymm (of_decide_eq_true hle) (of_decide_eq_true hge))

theorem width_brace {c : Char} (hc : c = '{' ∨ c = '}') : (Piece.brace c).width = 2 := by
  rcases hc with rfl | rfl <;> rfl

theorem escapeEdit?_brace {template before after : List Char} {c : Char}
    (htemplate : template = before ++ ((Piece.brace c).source ++ after))
    (hc : c = '{' ∨ c = '}') :
    escapeEdit? template (byteLength before) =
      some ⟨byteLength before, byteLength before + (Piece.brace c).width, [c]⟩ := by
  have hsize : byteLength [c] = 1 := utf8Size_of_brace hc
  have hbetween := textBetween?_append before [c] (c :: after)
  rw [hsize] at hbetween
  rw [escapeEdit?, htemplate, width_brace hc]
  exact congrArg (Option.map _) hbetween

/-- The markers and the single braces are the edits of the pieces, listed otherwise. -/
theorem exists_escapes (dialect : Dialect) (slot : Nat → Nat) {template : List Char}
    (number : Nat) {before : List Char} {pieces : List Piece}
    (htemplate : template = before ++ pieces.flatMap Piece.source)
    (hproper : ∀ piece ∈ pieces, piece.Proper) :
    ∃ escapes, (escapesFrom (byteLength before) pieces).mapM (escapeEdit? template) = some escapes ∧
      (markerEdits dialect ((List.range' number (placeholders pieces).length).map slot)
          (occurrencesFrom (byteLength before) pieces) ++ escapes).Perm
        (editsFrom (fun number => dialect.marker (slot number)) number (byteLength before)
          pieces) := by
  induction pieces generalizing number before with
  | nil => exact ⟨[], rfl, .refl _⟩
  | cons piece pieces ih =>
      have hsplit : template = before ++ (piece.source ++ pieces.flatMap Piece.source) := htemplate
      have hlater : template = (before ++ piece.source) ++ pieces.flatMap Piece.source := by
        rw [hsplit, List.append_assoc]
      obtain ⟨escapes, hescapes, hperm⟩ := ih (number + (placeholders [piece]).length) hlater
        fun other hmem => hproper other (List.mem_cons_of_mem _ hmem)
      rw [byteLength_append] at hescapes hperm
      cases piece with
      | code c => exact ⟨escapes, hescapes, hperm⟩
      | hidden c => exact ⟨escapes, hescapes, hperm⟩
      | brace c =>
          have hedit := escapeEdit?_brace hsplit (hproper _ List.mem_cons_self)
          refine ⟨⟨byteLength before, byteLength before + (Piece.brace c).width, [c]⟩ :: escapes,
            ?_, ?_⟩
          · show (byteLength before :: escapesFrom _ pieces).mapM _ = _
            rw [Piece.width, List.mapM_cons, hedit, hescapes]
            rfl
          · exact List.perm_middle.trans (hperm.cons _)
      | placeholder name quote =>
          refine ⟨escapes, hescapes, ?_⟩
          exact hperm.cons _

theorem edits?_ofPieces {template : List Char} {pieces : List Piece}
    (hpieces : piecesOf template = .ok pieces) (dialect : Dialect) (slot : Nat → Nat) :
    edits? template dialect ((List.range' 0 (placeholders pieces).length).map slot)
        (Scan.ofPieces pieces) =
      some (editsFrom (fun number => dialect.marker (slot number)) 0 0 pieces) := by
  have htemplate : template = [] ++ pieces.flatMap Piece.source :=
    (source_of_piecesOf hpieces).symm
  obtain ⟨escapes, hescapes, hperm⟩ :=
    exists_escapes dialect slot 0 htemplate (proper_of_piecesOf hpieces)
  have hmapM : (Scan.ofPieces pieces).escapes.mapM (escapeEdit? template) = some escapes := hescapes
  rw [edits?, hmapM]
  exact congrArg some (mergeSort_eq_editsFrom hperm)

/-- The texts from a place on are the same but for the edits, whose places are those of the first
text. -/
inductive Rewrites : Nat → List Edit → List Char → List Char → Prop where
  | rest {place : Nat} {text : List Char} : Rewrites place [] text text
  | edit {place : Nat} {first : Edit} {later : List Edit} {kept spanned text written : List Char}
      (hstart : first.start = place + byteLength kept)
      (hstop : first.stop = first.start + byteLength spanned)
      (hlater : Rewrites first.stop later text written) :
      Rewrites place (first :: later) (kept ++ (spanned ++ text))
        (kept ++ (first.text ++ written))

namespace Rewrites

variable {place : Nat} {edits : List Edit} {text written : List Char}

theorem cons {c : Char} (h : Rewrites (place + c.utf8Size) edits text written) :
    Rewrites place edits (c :: text) (c :: written) := by
  cases h with
  | rest => exact .rest
  | @edit _ _ _ kept _ _ _ hstart hstop hlater =>
      have hlonger : place + c.utf8Size + byteLength kept = place + byteLength (c :: kept) := by
        rw [byteLength_cons, Nat.add_assoc]
      have hedit := Rewrites.edit (hstart.trans hlonger) hstop hlater
      exact hedit

theorem first {spanned replacement : List Char}
    (h : Rewrites (place + byteLength spanned) edits text written) :
    Rewrites place (⟨place, place + byteLength spanned, replacement⟩ :: edits) (spanned ++ text)
      (replacement ++ written) := by
  have hstart : place = place + byteLength [] := rfl
  have hedit := @edit place ⟨place, place + byteLength spanned, replacement⟩ _ _ _ _ _ hstart rfl h
  exact hedit

/-- The text that is left behind every place is the rest of the template. -/
theorem splice?_eq (h : Rewrites place edits text written) {before : List Char}
    (hbefore : byteLength before = place) :
    splice? (before ++ text) place edits = some written := by
  induction h generalizing before with
  | @rest place text =>
      subst hbefore
      exact textFrom?_append before text
  | @edit place first later kept spanned text written hstart hstop hlater ih =>
      subst hbefore
      have hplace : byteLength (before ++ kept ++ spanned) = first.stop := by
        rw [hstop, hstart, byteLength_append, byteLength_append]
      have htext : before ++ (kept ++ (spanned ++ text)) = before ++ kept ++ spanned ++ text := by
        simp
      have hrest := ih hplace
      rw [← htext] at hrest
      rw [splice?, hstart, textBetween?_append, hrest]
      simp

end Rewrites

/-- The edits of pieces turn the text of the template into what is written. -/
theorem rewrites_editsFrom (marker : Nat → String) (number place : Nat) (pieces : List Piece) :
    Rewrites place (editsFrom marker number place pieces) (pieces.flatMap Piece.source)
      (writeFrom marker number pieces) := by
  induction pieces generalizing number place with
  | nil => exact .rest
  | cons piece pieces ih =>
      cases piece with
      | code c => exact (ih number (place + byteLength [c])).cons
      | hidden c => exact (ih number (place + byteLength [c])).cons
      | brace c => exact (ih number _).first
      | placeholder name quote => exact (ih (number + 1) _).first

end Bytes

end QueryMethods

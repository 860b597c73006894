import QueryMethods.Proofs.Template.Bytes.Scan
import QueryMethods.Proofs.Template.Bytes.Targets

/-!
# The cells of a template, byte by byte

The masked bytes of a template show its mask, stretched: a character takes one cell for each of its
bytes, and a placeholder, a doubled brace or a hidden character as many blanks.
-/

namespace QueryMethods

/-- The cells of a piece, one for each byte. -/
def Piece.cells (number : Nat) (piece : Piece) : List Cell :=
  match piece with
  | .code c => (String.utf8EncodeChar c).map fun b => .text (Char.ofUInt8 b)
  | .placeholder _ _ => .slot number :: List.replicate (piece.width - 1) (.text ' ')
  | _ => List.replicate piece.width (.text ' ')

/-- The cells of pieces, one for each byte. The first placeholder has the given number. -/
def spreadFrom : Nat → List Piece → List Cell
  | _, [] => []
  | number, piece :: rest =>
      piece.cells number ++ spreadFrom (number + (placeholders [piece]).length) rest

def spread (pieces : List Piece) : List Cell :=
  spreadFrom 0 pieces

namespace Piece

theorem width_pos (piece : Piece) : 0 < piece.width := by
  have hpos : ∀ (c : Char) (text : List Char), 0 < byteLength (c :: text) := by
    intro c text
    have hsize := c.utf8Size_pos
    rw [byteLength_cons]
    omega
  cases piece with
  | code c => exact hpos c []
  | hidden c => exact hpos c []
  | brace c => exact hpos c [c]
  | placeholder name quote => cases quote <;> exact hpos _ _

theorem visible_cells (number : Nat) (piece : Piece) :
    visible (piece.cells number) = piece.shown.map Char.ofUInt8 := by
  have hblank : Char.ofUInt8 ' '.toUInt8 = ' ' := by decide
  cases piece with
  | code c => simp [cells, shown, visible, Cell.char]
  | hidden c => simp [cells, shown, visible, Cell.char, hblank]
  | brace c => simp [cells, shown, visible, Cell.char, hblank]
  | placeholder name quote =>
      obtain ⟨more, hmore⟩ : ∃ more, (placeholder name quote).width = more + 1 :=
        ⟨_, (Nat.succ_pred_eq_of_pos (width_pos _)).symm⟩
      simp [cells, shown, visible, Cell.char, hblank, hmore, List.replicate_succ]

theorem length_cells (number : Nat) (piece : Piece) :
    (piece.cells number).length = piece.width := by
  have hlength := congrArg List.length (visible_cells number piece)
  rwa [visible, List.length_map, List.length_map, length_shown] at hlength

end Piece

namespace Bytes

def occurrencesFrom : Nat → List Piece → List Occurrence
  | _, [] => []
  | place, piece :: rest =>
      (occurrence? place piece).toList ++ occurrencesFrom (place + piece.width) rest

def escapesFrom : Nat → List Piece → List Nat
  | _, [] => []
  | place, piece :: rest => (escape? place piece).toList ++ escapesFrom (place + piece.width) rest

theorem occurrencesFrom_append (place : Nat) (front back : List Piece) :
    occurrencesFrom place (front ++ back) =
      occurrencesFrom place front ++
        occurrencesFrom (place + byteLength (front.flatMap Piece.source)) back := by
  induction front generalizing place with
  | nil => rfl
  | cons piece front ih =>
      rw [List.cons_append, occurrencesFrom, ih, occurrencesFrom, List.append_assoc,
        List.flatMap_cons, byteLength_append, Piece.width, Nat.add_assoc]

theorem escapesFrom_append (place : Nat) (front back : List Piece) :
    escapesFrom place (front ++ back) =
      escapesFrom place front ++
        escapesFrom (place + byteLength (front.flatMap Piece.source)) back := by
  induction front generalizing place with
  | nil => rfl
  | cons piece front ih =>
      rw [List.cons_append, escapesFrom, ih, escapesFrom, List.append_assoc,
        List.flatMap_cons, byteLength_append, Piece.width, Nat.add_assoc]

theorem names_occurrencesFrom (place : Nat) (pieces : List Piece) :
    (occurrencesFrom place pieces).map Occurrence.name = placeholders pieces := by
  induction pieces generalizing place with
  | nil => rfl
  | cons piece pieces ih =>
      rw [occurrencesFrom, List.map_append, ih]
      cases piece <;> rfl

theorem Scan.addAll_eq (found : Scan) (place : Nat) (pieces : List Piece) :
    found.addAll place pieces = {
      occurrences := found.occurrences ++ occurrencesFrom place pieces
      escapes := found.escapes ++ escapesFrom place pieces
      masked := found.masked ++ pieces.flatMap Piece.shown } := by
  induction pieces generalizing found place with
  | nil => simp [addAll, occurrencesFrom, escapesFrom]
  | cons piece pieces ih =>
      rw [addAll, ih]
      simp [add, occurrencesFrom, escapesFrom]

/-- What a scan finds of pieces. -/
def Scan.ofPieces (pieces : List Piece) : Scan where
  occurrences := occurrencesFrom 0 pieces
  escapes := escapesFrom 0 pieces
  masked := pieces.flatMap Piece.shown

theorem scan?_eq_ofPieces (text : List Char) :
    scan? text = some ((piecesOf text).map Scan.ofPieces) := by
  have hadd : Scan.addAll { masked := [] } 0 = Scan.ofPieces := by
    funext pieces
    rw [Scan.addAll_eq]
    rfl
  rw [scan?_eq, hadd]

theorem shown_ofPieces (pieces : List Piece) :
    (Scan.ofPieces pieces).shown = visible (spread pieces) := by
  have hfrom : ∀ number, (pieces.flatMap Piece.shown).map Char.ofUInt8 =
      visible (spreadFrom number pieces) := by
    induction pieces with
    | nil => exact fun _ => rfl
    | cons piece pieces ih =>
        intro number
        have hvisible : visible (spreadFrom number (piece :: pieces)) =
            visible (piece.cells number) ++ visible (spreadFrom _ pieces) := List.map_append
        rw [List.flatMap_cons, List.map_append, hvisible, Piece.visible_cells, ← ih]
  exact hfrom 0

theorem slots_cells (number : Nat) (piece : Piece) :
    (piece.cells number).filterMap Cell.slot? =
      List.range' number (placeholders [piece]).length := by
  have hblanks : ∀ n, (List.replicate n (Cell.text ' ')).filterMap Cell.slot? = [] := by
    intro n
    exact List.filterMap_eq_nil_iff.mpr fun cell hmem => by
      rw [List.eq_of_mem_replicate hmem]
      rfl
  cases piece with
  | code c =>
      refine List.filterMap_eq_nil_iff.mpr fun cell hmem => ?_
      obtain ⟨b, -, rfl⟩ := List.mem_map.mp hmem
      rfl
  | hidden c => exact hblanks _
  | brace c => exact hblanks _
  | placeholder name quote => exact congrArg (number :: ·) (hblanks _)

theorem length_occurrence? (place : Nat) (piece : Piece) :
    (occurrence? place piece).toList.length = (placeholders [piece]).length := by
  cases piece <;> rfl

theorem slots_spreadFrom (number place : Nat) (pieces : List Piece) :
    (spreadFrom number pieces).filterMap Cell.slot? =
      List.range' number (occurrencesFrom place pieces).length := by
  induction pieces generalizing number place with
  | nil => rfl
  | cons piece pieces ih =>
      rw [spreadFrom, occurrencesFrom, List.filterMap_append, slots_cells, ih,
        List.length_append, length_occurrence?, List.range'_append_1]

theorem exists_blanks_spreadFrom (number : Nat) {place index : Nat} {pieces : List Piece}
    {placeholder : Occurrence} (h : (occurrencesFrom place pieces)[index]? = some placeholder) :
    ∃ before blanks after,
      spreadFrom number pieces = before ++ .slot (number + index) :: (blanks ++ after) ∧
      blanks.all (isBlank ·.char) = true ∧ placeholder.start = place + before.length ∧
      placeholder.stop = place + before.length + 1 + blanks.length := by
  induction pieces generalizing number place index with
  | nil => cases h
  | cons piece pieces ih =>
      have hlater : ∀ count, count = (placeholders [piece]).length → ∀ later,
          index = count + later →
          (occurrencesFrom (place + piece.width) pieces)[later]? = some placeholder →
          ∃ before blanks after,
            spreadFrom number (piece :: pieces) =
              before ++ .slot (number + index) :: (blanks ++ after) ∧
            blanks.all (isBlank ·.char) = true ∧ placeholder.start = place + before.length ∧
            placeholder.stop = place + before.length + 1 + blanks.length := by
        rintro count rfl later rfl hplaceholder
        obtain ⟨before, blanks, after, hcells, hblank, hstart, hstop⟩ :=
          ih (number + (placeholders [piece]).length) hplaceholder
        refine ⟨piece.cells number ++ before, blanks, after, ?_, hblank, ?_, ?_⟩
        · rw [spreadFrom, hcells, List.append_assoc, Nat.add_assoc]
        · rw [hstart, List.length_append, Piece.length_cells, Nat.add_assoc]
        · rw [hstop, List.length_append, Piece.length_cells, Nat.add_assoc place]
      rw [occurrencesFrom] at h
      cases piece with
      | placeholder name quote =>
          cases index with
          | zero =>
              obtain rfl := Option.some.inj h
              have hpos := Piece.width_pos (.placeholder name quote)
              refine ⟨[], List.replicate ((Piece.placeholder name quote).width - 1) (.text ' '),
                spreadFrom (number + 1) pieces, rfl, ?_, rfl, ?_⟩
              · exact List.all_eq_true.mpr fun cell hmem => by
                  rw [List.eq_of_mem_replicate hmem]
                  rfl
              · rw [List.length_replicate, List.length_nil]
                show place + _ = _
                omega
          | succ index => exact hlater 1 rfl index (Nat.add_comm index 1) h
      | code c => exact hlater 0 rfl index (Nat.zero_add index).symm h
      | hidden c => exact hlater 0 rfl index (Nat.zero_add index).symm h
      | brace c => exact hlater 0 rfl index (Nat.zero_add index).symm h

theorem marked_spread (pieces : List Piece) :
    Marked (spread pieces) (Scan.ofPieces pieces).occurrences where
  slots_eq := by
    rw [List.range_eq_range']
    exact slots_spreadFrom 0 0 pieces
  exists_blanks := by
    intro number placeholder h
    obtain ⟨before, blanks, after, hcells, hblank, hstart, hstop⟩ := exists_blanks_spreadFrom 0 h
    rw [Nat.zero_add] at hcells hstart hstop
    exact ⟨before, blanks, after, hcells, hblank, hstart, hstop⟩

theorem isBlank_eq_false_of_le {c : Char} (h : 128 ≤ c.toNat) : isBlank c = false := by
  rw [Bool.eq_false_iff]
  intro hblank
  simp only [isBlank, Bool.or_eq_true, beq_iff_eq] at hblank
  rcases hblank with (((rfl | rfl) | rfl) | rfl) | rfl <;> exact absurd h (by decide)

theorem widens_blanks (n : Nat) :
    Widens (.text ' ') (List.replicate (n + 1) (.text ' ')) where
  ne_nil := List.cons_ne_nil _ _
  quiet := by
    intro other hmem
    rcases List.mem_cons.mp hmem with rfl | hmem
    · rfl
    · rw [List.eq_of_mem_replicate hmem]
      rfl
  isBlank_eq := by
    intro other hmem
    rw [List.eq_of_mem_replicate hmem]
  slots_eq := List.filterMap_eq_nil_iff.mpr fun cell hmem => by
    rw [List.eq_of_mem_replicate hmem]
    rfl

theorem widens_slot (number n : Nat) :
    Widens (.slot number) (.slot number :: List.replicate n (.text ' ')) where
  ne_nil := List.cons_ne_nil _ _
  quiet := by
    intro other hmem
    rw [List.mem_cons, List.mem_cons] at hmem
    rcases hmem with rfl | rfl | hmem
    · rfl
    · rfl
    · rw [List.eq_of_mem_replicate hmem]
      rfl
  isBlank_eq := by
    intro other hmem
    rcases List.mem_cons.mp hmem with rfl | hmem
    · rfl
    · rw [List.eq_of_mem_replicate hmem]
      rfl
  slots_eq := by
    have hblanks : (List.replicate n (Cell.text ' ')).filterMap Cell.slot? = [] :=
      List.filterMap_eq_nil_iff.mpr fun cell hmem => by
        rw [List.eq_of_mem_replicate hmem]
        rfl
    exact congrArg (number :: ·) hblanks

theorem toNat_ofUInt8 (b : UInt8) : (Char.ofUInt8 b).toNat = b.toNat := by
  show b.toUInt32.toNat = b.toNat
  exact UInt8.toNat_toUInt32 b

theorem ofUInt8_toUInt8 {c : Char} (hc : c.val ≤ 127) : Char.ofUInt8 c.toUInt8 = c := by
  have hval : c.val.toNat ≤ 127 := hc
  refine Char.toNat_inj.mp ?_
  rw [toNat_ofUInt8, Char.toUInt8, UInt32.toNat_toUInt8]
  show c.val.toNat % 256 = c.val.toNat
  omega

theorem widens_bytes {c : Char} (hc : ¬ c.val ≤ 127) :
    Widens (.text c) ((String.utf8EncodeChar c).map fun b => .text (Char.ofUInt8 b)) := by
  have hlow : 128 ≤ c.toNat := by
    have hval : ¬ c.val.toNat ≤ 127 := hc
    show 128 ≤ c.val.toNat
    omega
  have hbyte : ∀ other ∈ (String.utf8EncodeChar c).map fun b => Cell.text (Char.ofUInt8 b),
      128 ≤ other.char.toNat ∧ other.slot? = none := by
    intro other hmem
    obtain ⟨b, hb, rfl⟩ := List.mem_map.mp hmem
    refine ⟨?_, rfl⟩
    show 128 ≤ (Char.ofUInt8 b).toNat
    rw [toNat_ofUInt8]
    exact UInt8.le_iff_toNat_le.mp (le_of_mem_utf8EncodeChar hc hb)
  have hquiet : ∀ d : Char, 128 ≤ d.toNat → isQuiet d = true := by
    intro d hd
    rw [isQuiet, decide_eq_true hd, Bool.or_true]
  constructor
  case ne_nil => simp [String.utf8EncodeChar_ne_nil]
  case quiet =>
    intro other hmem
    rcases List.mem_cons.mp hmem with rfl | hmem
    · exact hquiet _ hlow
    · exact hquiet _ (hbyte other hmem).1
  case isBlank_eq =>
    intro other hmem
    rw [isBlank_eq_false_of_le (hbyte other hmem).1]
    exact (isBlank_eq_false_of_le hlow).symm
  case slots_eq => exact List.filterMap_eq_nil_iff.mpr fun other hmem => (hbyte other hmem).2

theorem stretched_single {cell : Cell} {block : List Cell} (h : Widens cell block) :
    Stretched [cell] block := by
  have hwiden := Stretched.widen h .nil
  rwa [List.append_nil] at hwiden

theorem stretched_cells (number : Nat) (piece : Piece) :
    Stretched (maskFrom number [piece]) (piece.cells number) := by
  obtain ⟨more, hmore⟩ : ∃ more, piece.width = more + 1 :=
    ⟨_, (Nat.succ_pred_eq_of_pos piece.width_pos).symm⟩
  cases piece with
  | code c =>
      by_cases hc : c.val ≤ 127
      · rw [Piece.cells, utf8EncodeChar_ascii hc, List.map_singleton, ofUInt8_toUInt8 hc]
        exact .keep (.text c) .nil
      · exact stretched_single (widens_bytes hc)
  | hidden c =>
      show Stretched _ (List.replicate (Piece.hidden c).width (.text ' '))
      rw [hmore]
      exact stretched_single (widens_blanks more)
  | brace c =>
      show Stretched _ (List.replicate (Piece.brace c).width (.text ' '))
      rw [hmore]
      exact stretched_single (widens_blanks more)
  | placeholder name quote => exact stretched_single (widens_slot number _)

theorem maskFrom_cons (number : Nat) (piece : Piece) (rest : List Piece) :
    maskFrom number (piece :: rest) =
      maskFrom number [piece] ++ maskFrom (number + (placeholders [piece]).length) rest := by
  cases piece <;> rfl

theorem stretched_spreadFrom (number : Nat) (pieces : List Piece) :
    Stretched (maskFrom number pieces) (spreadFrom number pieces) := by
  induction pieces generalizing number with
  | nil => exact .nil
  | cons piece pieces ih =>
      rw [maskFrom_cons, spreadFrom]
      exact (stretched_cells number piece).append (ih _)

/-- The checks by places see what the checks on the mask see. -/
theorem producesRows_shown (pieces : List Piece) :
    producesRows (Scan.ofPieces pieces).shown = producesRows (visible (mask pieces)) := by
  rw [shown_ofPieces]
  exact (stretched_spreadFrom 0 pieces).producesRows_eq.symm

/-- The text on the left of every placeholder, where `cells` have been passed. -/
theorem comparedColumns_eq {cells wide : List Cell} (h : Stretched cells wide) (number : Nat)
    (pieces : List Piece) :
    comparedColumns (visible cells).reverse (maskFrom number pieces) =
      (occurrencesFrom wide.length pieces).map fun placeholder =>
        QueryMethods.comparedColumn?
          ((visible (wide ++ spreadFrom number pieces)).take placeholder.start).reverse := by
  induction pieces generalizing cells wide number with
  | nil => rfl
  | cons piece pieces ih =>
      have hlater := ih (h.append (stretched_cells number piece))
        (number + (placeholders [piece]).length)
      rw [List.length_append, Piece.length_cells, List.append_assoc, ← spreadFrom] at hlater
      have hpassed : ∀ cell : Cell, maskFrom number [piece] = [cell] →
          (visible (cells ++ maskFrom number [piece])).reverse =
            cell.char :: (visible cells).reverse := by
        intro cell hcell
        rw [hcell, visible, List.map_append, List.reverse_append]
        rfl
      rw [maskFrom_cons, occurrencesFrom]
      cases piece with
      | placeholder name quote =>
          rw [hpassed _ rfl] at hlater
          have htake : ∀ later, (visible (wide ++ later)).take wide.length = visible wide := by
            intro later
            have hlength : (visible wide).length = wide.length := List.length_map _
            rw [visible, List.map_append, ← hlength]
            exact List.take_left
          have hfirst : QueryMethods.comparedColumn? (visible cells).reverse =
              QueryMethods.comparedColumn? ((visible (wide ++
                spreadFrom number (.placeholder name quote :: pieces))).take
                  wide.length).reverse := by
            rw [htake, visible, visible, ← List.map_reverse, ← List.map_reverse]
            exact h.reverse.comparedColumn?_eq
          exact List.cons_eq_cons.mpr ⟨hfirst, hlater⟩
      | code c =>
          rw [hpassed _ rfl] at hlater
          exact hlater
      | hidden c =>
          rw [hpassed _ rfl] at hlater
          exact hlater
      | brace c =>
          rw [hpassed _ rfl] at hlater
          exact hlater

/-- The columns of all placeholders, by places, are those that the mask tells. -/
theorem targetColumns?_ofPieces (pieces : List Piece) :
    targetColumns? (Scan.ofPieces pieces) = some (targetColumns (mask pieces)) := by
  have hcompared : comparedColumns [] (mask pieces) = _ := comparedColumns_eq .nil 0 pieces
  have hinserted : insertedColumns (mask pieces) = insertedColumns (spread pieces) :=
    (stretched_spreadFrom 0 pieces).insertedColumns_eq
  rw [targetColumns?_eq (shown_ofPieces pieces) (marked_spread pieces), targetColumns, hcompared,
    hinserted, List.mapIdx_eq_zipIdx_map, List.mapIdx_eq_zipIdx_map, List.zipIdx_map, List.map_map]
  rfl

end Bytes

end QueryMethods

import QueryMethods.Proofs.Template.Isolation

/-!
# Markers as they are read

A reader of the bound text takes a dollar sign with as many digits as follow it for a marker. What
the binding has written for a placeholder is read together with the digits that the template has
right behind the placeholder. So a marker names its own slot exactly if there are no such digits.
-/

namespace QueryMethods

/-- The numbered markers that a reader finds in a text, each with its place and the slot that it
names, where the text begins at the given place. -/
def numberedMarkers (place : Nat) : List Char → List (Nat × Nat)
  | [] => []
  | c :: rest =>
      let digits := rest.takeWhile Char.isDigit
      -- no marker begins among digits, so the reader need not skip them
      let later := numberedMarkers (place + 1) rest
      if c = '$' ∧ digits ≠ [] then (place, Nat.ofDigitChars 10 digits 0) :: later else later

/-- The marker at that place of the text names that slot. -/
def NamesSlot (text : List Char) (place slot : Nat) : Prop :=
  ∀ read, (place, read) ∈ numberedMarkers 0 text ↔ read = slot

theorem le_of_mem_numberedMarkers {place found slot : Nat} {text : List Char}
    (h : (found, slot) ∈ numberedMarkers place text) : place ≤ found := by
  induction text generalizing place with
  | nil => cases h
  | cons c text ih =>
      simp only [numberedMarkers] at h
      split at h
      · rcases List.mem_cons.mp h with heq | hlater
        · exact Nat.le_of_eq (Prod.mk.inj heq).1.symm
        · exact Nat.le_of_succ_le (ih hlater)
      · exact Nat.le_of_succ_le (ih h)

/-- A marker takes all digits that follow its sign. -/
theorem mem_numberedMarkers_iff {place read : Nat} {before rest : List Char}
    (hdigits : rest.takeWhile Char.isDigit ≠ []) :
    (place + before.length, read) ∈ numberedMarkers place (before ++ '$' :: rest) ↔
      read = Nat.ofDigitChars 10 (rest.takeWhile Char.isDigit) 0 := by
  induction before generalizing place with
  | nil =>
      have hlater : (place, read) ∉ numberedMarkers (place + 1) rest := by
        intro hmem
        exact absurd (le_of_mem_numberedMarkers hmem) (Nat.not_succ_le_self place)
      simp [numberedMarkers, hdigits, hlater]
  | cons c before ih =>
      have hplace : place + (c :: before).length = place + 1 + before.length := by
        rw [List.length_cons]
        omega
      have hne : place + 1 + before.length ≠ place := by omega
      rw [hplace, ← ih, List.cons_append]
      simp only [numberedMarkers]
      split
      · rw [List.mem_cons]
        constructor
        · rintro (heq | hlater)
          · exact absurd (Prod.mk.inj heq).1 hne
          · exact hlater
        · exact .inr
      · exact Iff.rfl

theorem exists_of_cons_eq_append {α : Type} {first found : α} {later before after : List α}
    (h : first :: later = before ++ found :: after) (hne : first ≠ found) :
    ∃ front, later = front ++ found :: after := by
  cases before with
  | nil => exact absurd (List.cons.inj h).1 hne
  | cons _ front => exact ⟨front, (List.cons.inj h).2⟩

/-- Right behind a placeholder there is code. -/
theorem Region.Cuts.after_placeholder {region : Region} {text : List Char} {pieces : List Piece}
    (h : region.Cuts text pieces) {before after : List Piece} {name : String} {quote : Option Char}
    (hpieces : pieces = before ++ .placeholder name quote :: after) :
    Region.code.Cuts (after.flatMap Piece.source) after := by
  induction h generalizing before with
  | done _ => exact absurd hpieces (by simp)
  | @bare found rest later _ hrest ih =>
      cases before with
      | nil =>
          obtain ⟨-, rfl⟩ := List.cons.inj hpieces
          rwa [hrest.source]
      | cons _ before => exact ih (List.cons.inj hpieces).2
  | @filled _ found rest later _ _ hrest ih =>
      cases before with
      | nil =>
          obtain ⟨-, rfl⟩ := List.cons.inj hpieces
          rwa [hrest.source]
      | cons _ before => exact ih (List.cons.inj hpieces).2
  | literalChar _ _ _ _ ih =>
      obtain ⟨front, hlater⟩ := exists_of_cons_eq_append hpieces (by
        unfold literalPiece
        split <;> exact nofun)
      exact ih hlater
  | blockEnd _ ih | lineStart _ ih | blockStart _ ih =>
      obtain ⟨front, hmark⟩ := exists_of_cons_eq_append hpieces nofun
      obtain ⟨front, hlater⟩ := exists_of_cons_eq_append hmark nofun
      exact ih hlater
  | _ =>
      rename_i ih
      obtain ⟨front, hlater⟩ := exists_of_cons_eq_append hpieces nofun
      exact ih hlater

/-- What is written behind a marker begins with the digits that the template has there. -/
theorem Region.Cuts.takeWhile_isDigit {text : List Char} {pieces : List Piece}
    (h : Region.code.Cuts text pieces) (slot : Nat → Nat) (number : Nat) :
    (writeFrom (fun number => Dialect.postgres.marker (slot number)) number pieces).takeWhile
        Char.isDigit = text.takeWhile Char.isDigit := by
  induction text generalizing pieces with
  | nil => cases h with | done _ => rfl
  | cons c rest ih =>
      by_cases hc : c.isDigit = true
      · have hquote : isQuote c = false := by
          have hinert := isInert_of_isDigit hc
          simp_all [isInert]
        -- a digit in code stands for itself
        cases h with
        | char _ _ _ _ _ hrest =>
            rw [writeFrom, List.takeWhile_cons, List.takeWhile_cons, hc, ih hrest]
        | brace hbrace _ => rcases hbrace with rfl | rfl <;> cases hc
        | literalStart hopens _ _ => exact absurd hopens (Bool.eq_false_iff.mp hquote)
        | filled hopens _ _ => exact absurd hopens (Bool.eq_false_iff.mp hquote)
        | lineStart _ => cases hc
        | blockStart _ => cases hc
        | bare _ _ => cases hc
      · have hhead : (writeFrom (fun number => Dialect.postgres.marker (slot number)) number
            pieces).head?.any Char.isDigit = false := by
          rcases h.head?_writeFrom _ number with ⟨name, quote, later, rfl⟩ | hsame
          · rw [writeFrom, Dialect.toList_marker_postgres]
            rfl
          · rw [hsame]
            simpa using hc
        rw [takeWhile_eq_nil_of_head? hhead, List.takeWhile_cons, if_neg hc]

theorem isDigit_toDigits (slot : Nat) : ∀ c ∈ Nat.toDigits 10 slot, c.isDigit = true :=
  fun _ hmem => Nat.isDigit_of_mem_toDigits (by decide) (by decide) hmem

/-- A marker that is written for a slot is read with the digits behind it. -/
theorem namesSlot_marker (before rest : List Char) (slot : Nat) :
    NamesSlot (before ++ ((Dialect.postgres.marker slot).toList ++ rest)) before.length
      (Nat.ofDigitChars 10 (rest.takeWhile Char.isDigit) slot) := by
  have htake : (Nat.toDigits 10 slot ++ rest).takeWhile Char.isDigit =
      Nat.toDigits 10 slot ++ rest.takeWhile Char.isDigit :=
    List.takeWhile_append_of_pos (isDigit_toDigits slot)
  have hne : (Nat.toDigits 10 slot ++ rest).takeWhile Char.isDigit ≠ [] := by
    rw [htake]
    exact List.append_ne_nil_of_left_ne_nil Nat.toDigits_ne_nil _
  intro read
  have hiff := @mem_numberedMarkers_iff 0 read before _ hne
  rw [htake, Nat.ofDigitChars_append, Nat.ofDigitChars_ten_toDigits, Nat.zero_add] at hiff
  rwa [Dialect.toList_marker_postgres, List.cons_append]

theorem NamesSlot.unique {text : List Char} {place slot other : Nat}
    (h : NamesSlot text place slot) (hother : NamesSlot text place other) : slot = other :=
  (hother slot).mp ((h slot).mpr rfl)

theorem le_ofDigitChars (digits : List Char) (slot : Nat) :
    slot ≤ Nat.ofDigitChars 10 digits slot := by
  induction digits generalizing slot with
  | nil => exact Nat.le_refl slot
  | cons c digits ih =>
      rw [Nat.ofDigitChars_cons]
      have hlater := ih (10 * slot + (c.toNat - '0'.toNat))
      omega

/-- A digit behind a marker makes another slot of it. -/
theorem lt_ofDigitChars {digits : List Char} {slot : Nat} (hslot : 0 < slot) (h : digits ≠ []) :
    slot < Nat.ofDigitChars 10 digits slot := by
  cases digits with
  | nil => exact absurd rfl h
  | cons c digits =>
      rw [Nat.ofDigitChars_cons]
      have hlater := le_ofDigitChars digits (10 * slot + (c.toNat - '0'.toNat))
      omega

/-- **Markers as they are read.** What a reader of the bound text finds where a placeholder was is
the marker of its slot, with the digits that follow the placeholder behind the slot's own; it is the
marker of the slot itself exactly if no digit follows. -/
theorem BoundTemplate.exists_namesSlot {template : String} {params : List Param} {entity : Entity}
    {bound : BoundTemplate} (h : ofTemplate template params entity .postgres = .ok bound) :
    ∃ pieces used slot, bound.Placed template params .postgres pieces used slot ∧
      ∀ before name quote after, pieces = before ++ .placeholder name quote :: after →
        let own := slot (placeholders before).length
        let place := (writeFrom (fun number => Dialect.postgres.marker (slot number)) 0
          before).length
        let digits := (after.flatMap Piece.source).takeWhile Char.isDigit
        NamesSlot bound.sql.toList place (Nat.ofDigitChars 10 digits own) ∧
          (NamesSlot bound.sql.toList place own ↔ digits = []) := by
  obtain ⟨pieces, used, hplaced⟩ := placed_of_ofTemplate h
  refine ⟨pieces, used, slotOf .postgres used, hplaced, ?_⟩
  intro before name quote after hpieces own place digits
  have hafter := (cuts_of_piecesOf hplaced.pieces_eq).after_placeholder hpieces
  have hdigits : digits = (writeFrom (fun number => Dialect.postgres.marker
      (slotOf .postgres used number)) ((placeholders before).length + 1) after).takeWhile
        Char.isDigit :=
    (hafter.takeWhile_isDigit _ _).symm
  have hread : NamesSlot bound.sql.toList place (Nat.ofDigitChars 10 digits own) := by
    rw [(hplaced.replaced before name quote after hpieces).2.1, hdigits]
    exact namesSlot_marker _ _ own
  refine ⟨hread, fun hown => ?_, fun hnone => ?_⟩
  · by_contra hne
    have hpos : 0 < own := Nat.succ_pos _
    exact Nat.ne_of_lt (lt_ofDigitChars hpos hne) (hown.unique hread)
  · rwa [hnone] at hread

/-- A digit stands right behind the first placeholder, and none behind the second one. -/
def Accounts.digitTemplate : String :=
  "SELECT * FROM accounts WHERE id = \x7bid\x7d1 OR owner = '\x7bowner\x7d'"

def Accounts.digitBound : BoundTemplate where
  sql := "SELECT * FROM accounts WHERE id = $11 OR owner = $2"
  binds := [1, 0]
  returnsRows := true
  unused := []

theorem BoundTemplate.exists_namesSlot_accounts :
    ofTemplate Accounts.digitTemplate Accounts.find.params Accounts.entity .postgres =
        .ok Accounts.digitBound ∧
      ∃ pieces used slot,
        Accounts.digitBound.Placed Accounts.digitTemplate Accounts.find.params .postgres pieces
            used slot ∧
          ∀ before name quote after, pieces = before ++ .placeholder name quote :: after →
            let own := slot (placeholders before).length
            let place := (writeFrom (fun number => Dialect.postgres.marker (slot number)) 0
              before).length
            let digits := (after.flatMap Piece.source).takeWhile Char.isDigit
            NamesSlot Accounts.digitBound.sql.toList place (Nat.ofDigitChars 10 digits own) ∧
              (NamesSlot Accounts.digitBound.sql.toList place own ↔ digits = []) := by
  have hbound : ofTemplate Accounts.digitTemplate Accounts.find.params Accounts.entity .postgres =
      .ok Accounts.digitBound := by
    decide +kernel
  exact ⟨hbound, exists_namesSlot hbound⟩

/-- The first marker of the bound text names slot 11, although only two slots are given out. -/
theorem BoundTemplate.not_forall_namesSlot :
    ¬ ∀ template params entity bound, ofTemplate template params entity .postgres = .ok bound →
      ∃ pieces used slot, bound.Placed template params .postgres pieces used slot ∧
        ∀ before name quote after, pieces = before ++ .placeholder name quote :: after →
          NamesSlot bound.sql.toList
            (writeFrom (fun number => Dialect.postgres.marker (slot number)) 0 before).length
            (slot (placeholders before).length) := by
  intro hall
  have hbound : ofTemplate Accounts.digitTemplate Accounts.find.params Accounts.entity .postgres =
      .ok Accounts.digitBound := by
    decide +kernel
  obtain ⟨pieces, used, slot, hplaced, hnames⟩ := hall _ _ _ _ hbound
  let before := "SELECT * FROM accounts WHERE id = ".toList.map Piece.code
  let after := "1 OR owner = ".toList.map Piece.code ++ [.placeholder "owner" (some '\'')]
  have hpieces : pieces = before ++ .placeholder "id" none :: after := by
    have hcut : piecesOf Accounts.digitTemplate.toList =
        .ok (before ++ .placeholder "id" none :: after) := by
      decide +kernel
    exact Except.ok.inj (hplaced.pieces_eq.symm.trans hcut)
  have hslot : slot 0 = 11 := by
    have hread : (34, 11) ∈ numberedMarkers 0 Accounts.digitBound.sql.toList := by decide +kernel
    exact ((hnames before "id" none after hpieces 11).mp hread).symm
  have hused : used.length = 2 := by
    rw [← hplaced.named.length_eq, hpieces]
    rfl
  have hparam : used[0]? = some used[0] := List.getElem?_eq_getElem _
  have hplace : Accounts.digitBound.binds.idxOf used[0] ≤ 2 := List.idxOf_le_length
  have hown : slot 0 = Accounts.digitBound.binds.idxOf used[0] + 1 := hplaced.slot_eq 0 _ hparam
  omega

end QueryMethods

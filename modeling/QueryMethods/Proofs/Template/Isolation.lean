import QueryMethods.Proofs.Sql.Lexer
import QueryMethods.Proofs.Template.Arguments
import QueryMethods.Proofs.Template.Cuts

/-!
# Markers stand in code

A reader of the bound text is in code wherever a marker begins, never between quotes or in a
comment. The reader follows the cutting of the template step by step: it is in the region that the
cutting has left open, although placeholders have lost their quotes, doubled braces one brace, and
the cutting takes no notice of doubled quotes.
-/

namespace QueryMethods

/-- The state of a reader of the bound text. The quotes around a placeholder are not written. -/
def Region.lexState : Region → LexState
  | .code => .code
  | .literal quote => .quoted quote
  | .lineComment => .lineComment
  | .blockComment => .blockComment
  | .name _ _ _ => .code

/-- The reader, in these states before the characters of the written pieces, is in code before
every marker. -/
def InCode (marker : Nat → String) : Nat → List Piece → List LexState → Prop
  | _, [], _ => True
  | number, .placeholder _ _ :: rest, states =>
      states.head? = some .code ∧
        InCode marker (number + 1) rest (states.drop (marker number).toList.length)
  | number, _ :: rest, states => InCode marker number rest states.tail

/-- Markers that no reader takes for a quote or a comment. -/
def InertMarkers (marker : Nat → String) : Prop :=
  ∀ number, (marker number).toList ≠ [] ∧ (marker number).toList.all isInert = true

theorem Dialect.inertMarkers (dialect : Dialect) (slot : Nat → Nat) :
    InertMarkers fun number => dialect.marker (slot number) := by
  intro number
  cases dialect with
  | postgres =>
      rw [toList_marker_postgres]
      refine ⟨List.cons_ne_nil _ _, List.all_eq_true.mpr fun c hmem => ?_⟩
      rcases List.mem_cons.mp hmem with rfl | hdigits
      · rfl
      · exact isInert_of_isDigit (Nat.isDigit_of_mem_toDigits (by decide) (by decide) hdigits)
  | positional => exact show "?".toList ≠ [] ∧ "?".toList.all isInert = true by decide

variable {marker : Nat → String} {number : Nat}

theorem inCode_literalPiece {quote c : Char} {rest : List Piece} {states : List LexState} :
    InCode marker number (literalPiece quote c :: rest) states ↔
      InCode marker number rest states.tail := by
  unfold literalPiece
  split <;> rfl

theorem writeFrom_literalPiece {quote c : Char} {rest : List Piece} :
    writeFrom marker number (literalPiece quote c :: rest) =
      c :: writeFrom marker number rest := by
  unfold literalPiece
  split <;> rfl

/-- Written pieces begin as the template does, unless a marker comes first. -/
theorem Region.Cuts.head?_writeFrom {region : Region} {text : List Char} {pieces : List Piece}
    (h : region.Cuts text pieces) (marker : Nat → String) (number : Nat) :
    (∃ name quote later, pieces = .placeholder name quote :: later) ∨
      (writeFrom marker number pieces).head? = text.head? := by
  cases h with
  | bare hname hrest => exact .inl ⟨_, _, _, rfl⟩
  | filled hquote hname hrest => exact .inl ⟨_, _, _, rfl⟩
  | literalChar hc hopen hclose hrest => exact .inr (by rw [writeFrom_literalPiece]; rfl)
  | _ => exact .inr rfl

theorem InertMarkers.head?_ne (hmarkers : InertMarkers marker) {c : Char}
    (hc : isInert c = false) (rest : List Char) :
    ((marker number).toList ++ rest).head? ≠ some c := by
  obtain ⟨hne, hinert⟩ := hmarkers number
  cases hmarker : (marker number).toList with
  | nil => exact absurd hmarker hne
  | cons first more =>
      rw [hmarker, List.all_cons, Bool.and_eq_true] at hinert
      rw [List.cons_append, List.head?_cons]
      intro hfirst
      rw [Option.some.inj hfirst, hc] at hinert
      cases hinert.1

theorem Region.Cuts.head?_ne {region : Region} {text : List Char} {pieces : List Piece}
    (h : region.Cuts text pieces) (hmarkers : InertMarkers marker) {c : Char}
    (hc : isInert c = false) (htext : text.head? ≠ some c) (number : Nat) :
    (writeFrom marker number pieces).head? ≠ some c := by
  rcases h.head?_writeFrom marker number with ⟨name, quote, later, rfl⟩ | hhead
  · exact hmarkers.head?_ne hc _
  · rwa [hhead]

/-- Whether the reader was in code or between quotes before a character that no marker begins
with is the same to the markers. -/
theorem InCode.congr_head {pieces : List Piece} {first second : LexState} {states : List LexState}
    (h : InCode marker number pieces (first :: states))
    (hpieces : ∀ name quote later, pieces ≠ .placeholder name quote :: later) :
    InCode marker number pieces (second :: states) := by
  cases pieces with
  | nil => trivial
  | cons piece later =>
      cases piece with
      | placeholder name quote => exact absurd rfl (hpieces name quote later)
      | code c => exact h
      | hidden c => exact h
      | brace c => exact h

theorem InCode.placeholder {later : List Piece} (hmarkers : InertMarkers marker)
    (h : InCode marker (number + 1) later
      (lexStates .code (writeFrom marker (number + 1) later))) (name : String)
    (quote : Option Char) :
    InCode marker number (.placeholder name quote :: later)
      (lexStates .code (writeFrom marker number (.placeholder name quote :: later))) := by
  obtain ⟨hne, hinert⟩ := hmarkers number
  have hstates := lexStates_code_append hinert (writeFrom marker (number + 1) later)
  rw [writeFrom, hstates]
  constructor
  · cases hmarker : (marker number).toList with
    | nil => exact absurd hmarker hne
    | cons first rest => rfl
  · rwa [List.drop_left' (List.length_replicate ..)]

/-- Where a literal ends, the reader may take its quote for the first of a doubled one. It is back
in step as soon as the cutting has opened the next literal. -/
theorem InCode.literalEnd (hmarkers : InertMarkers marker) {quote : Char}
    (hquote : isQuote quote = true) {later : List Piece}
    (h : InCode marker number later (lexStates .code (writeFrom marker number later))) :
    InCode marker number later
      (lexStates (.quoted quote) (quote :: writeFrom marker number later)).tail := by
  by_cases hhead : (writeFrom marker number later).head? = some quote
  · obtain ⟨rest, hrest⟩ := List.head?_eq_some_iff.mp hhead
    have hpieces : ∀ name found more, later ≠ .placeholder name found :: more := by
      rintro name found more rfl
      exact hmarkers.head?_ne (by simp [isInert, hquote]) _ hhead
    rw [hrest, lexStates_code_quote hquote] at h
    rw [hrest, lexStates_quoted_doubled, List.tail_cons]
    exact h.congr_head hpieces
  · rwa [lexStates_quoted_end hhead, List.tail_cons]

theorem Region.Cuts.inCode {region : Region} {text : List Char} {pieces : List Piece}
    (h : region.Cuts text pieces) (hmarkers : InertMarkers marker)
    (hregion : region.Proper) :
    InCode marker number pieces
      (lexStates region.lexState (writeFrom marker number pieces)) := by
  induction h generalizing number with
  | done _ => trivial
  | lineEnd hrest ih =>
      rw [writeFrom, Region.lexState, lexStates_lineComment_cons, if_pos rfl]
      exact ih trivial
  | lineChar hc hrest ih =>
      rw [writeFrom, Region.lexState, lexStates_lineComment_cons, if_neg hc]
      exact ih trivial
  | blockEnd hrest ih =>
      change InCode marker number _ (lexStates .code _)
      exact ih trivial
  | blockChar hc hrest ih =>
      have hhead := fun h => hrest.head?_ne hmarkers rfl (hc h) number
      rw [writeFrom, Region.lexState, lexStates_blockComment_cons hhead]
      exact ih trivial
  | @literalBrace quote c rest later hc hrest ih =>
      have hquote : isQuote quote = true := hregion
      have hother : c ≠ quote := by
        rintro rfl
        rcases hc with rfl | rfl <;> cases hquote
      rw [writeFrom, Region.lexState, lexStates_quoted_cons hother]
      exact ih hregion
  | literalEnd hrest ih => exact (ih trivial).literalEnd hmarkers hregion
  | literalChar hc hopen hclose hrest ih =>
      rw [inCode_literalPiece, writeFrom_literalPiece, Region.lexState,
        lexStates_quoted_cons hc]
      exact ih hregion
  | @brace c rest later hc hrest ih =>
      have hinert : isInert c = true := by rcases hc with rfl | rfl <;> rfl
      rw [writeFrom, Region.lexState, lexStates_code_inert hinert]
      exact ih trivial
  | lineStart hrest ih =>
      change InCode marker number _ (lexStates .lineComment _)
      exact ih trivial
  | blockStart hrest ih =>
      change InCode marker number _ (lexStates .blockComment _)
      exact ih trivial
  | literalStart hquote hopen hrest ih =>
      rw [writeFrom, Region.lexState, lexStates_code_quote hquote]
      exact ih hquote
  | bare hname hrest ih => exact (ih trivial).placeholder hmarkers _ _
  | filled hquote hname hrest ih => exact (ih trivial).placeholder hmarkers _ _
  | char hquote hopen hclose hdash hslash hrest ih =>
      have hnoLine := fun h => hrest.head?_ne hmarkers rfl (hdash h) number
      have hnoBlock := fun h => hrest.head?_ne hmarkers rfl (hslash h) number
      rw [writeFrom, Region.lexState, lexStates_code_cons hnoLine hnoBlock, hquote]
      exact ih trivial

theorem InCode.getElem? {before later : List Piece} {name : String} {quote : Option Char}
    {states : List LexState}
    (h : InCode marker number (before ++ .placeholder name quote :: later) states) :
    states[(writeFrom marker number before).length]? = some .code := by
  induction before generalizing number states with
  | nil =>
      rw [writeFrom, List.length_nil, ← List.head?_eq_getElem?]
      exact h.1
  | cons piece before ih =>
      cases piece with
      | placeholder _ _ =>
          have hlater := ih h.2
          rw [List.getElem?_drop] at hlater
          rw [writeFrom, List.length_append]
          exact hlater
      | _ =>
          have hlater := ih h
          rw [List.getElem?_tail] at hlater
          exact hlater

/-- **Markers are isolated.** When the bound text is read from its start, the reader is in code
before every marker. -/
theorem BoundTemplate.exists_isolated {template : String} {params : List Param} {entity : Entity}
    {dialect : Dialect} {bound : BoundTemplate}
    (h : ofTemplate template params entity dialect = .ok bound) :
    ∃ pieces used slot, bound.Placed template params dialect pieces used slot ∧
      ∀ before name quote after, pieces = before ++ .placeholder name quote :: after →
        (lexStates .code bound.sql.toList)[(writeFrom
          (fun number => dialect.marker (slot number)) 0 before).length]? = some .code := by
  obtain ⟨pieces, used, hplaced⟩ := placed_of_ofTemplate h
  refine ⟨pieces, used, slotOf dialect used, hplaced, ?_⟩
  rintro before name quote after rfl
  have hcuts := cuts_of_piecesOf hplaced.pieces_eq
  have hmarkers := dialect.inertMarkers (slotOf dialect used)
  rw [hplaced.sql_eq]
  exact (hcuts.inCode hmarkers trivial).getElem?

/-- Quotes are doubled, nested and dropped here, and a literal ends right before a placeholder. -/
def Accounts.quotedTemplate : String :=
  "SELECT 'it''s -- \x7b\x7b', \"a'/*\" FROM accounts /* ' */ WHERE owner = 'o''\x7bowner\x7d' OR '\x7bowner\x7d' = owner"

theorem BoundTemplate.exists_isolated_accounts :
    ∃ bound, ofTemplate Accounts.quotedTemplate Accounts.find.params Accounts.entity
        .positional = .ok bound ∧
      bound.sql =
        "SELECT 'it''s -- \x7b', \"a'/*\" FROM accounts /* ' */ WHERE owner = 'o'? OR ? = owner" ∧
      ∃ pieces used slot,
        bound.Placed Accounts.quotedTemplate Accounts.find.params .positional pieces used slot ∧
        ∀ before name quote after, pieces = before ++ .placeholder name quote :: after →
          (lexStates .code bound.sql.toList)[(writeFrom
            (fun number => Dialect.positional.marker (slot number)) 0 before).length]? =
              some .code := by
  have hbound : ofTemplate Accounts.quotedTemplate Accounts.find.params Accounts.entity
      .positional = .ok {
        sql :=
          "SELECT 'it''s -- \x7b', \"a'/*\" FROM accounts /* ' */ WHERE owner = 'o'? OR ? = owner"
        binds := [0, 0]
        returnsRows := true
        unused := ["id"] } := by
    decide +kernel
  exact ⟨_, hbound, rfl, exists_isolated hbound⟩

end QueryMethods

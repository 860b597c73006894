import Mathlib.Data.List.Infix
import QueryMethods.Proofs.Template.Isolation

/-!
# Comments of a template

A reader of the template itself is in the region that the cutting has left open. It is never in a
comment where a placeholder or a doubled brace stands, and it is between quotes at a placeholder
exactly if these go with it. What the cutting leaves alone outside comments is no opening brace, and
no doubled one.
-/

namespace QueryMethods

def LexState.isComment : LexState → Bool
  | .lineComment | .blockComment => true
  | _ => false

/-- Whether a reader of the text is in a comment before that character, or right after it. -/
def inComment (text : List Char) (index : Nat) : Bool :=
  (((lexStates .code text).drop index).take 2).any LexState.isComment

/-- The reader, in these states before the characters of a piece and before the next one, makes of
it what the cutting has made of it. -/
def Piece.Reads (states : List LexState) (rest : List Char) : Piece → Prop
  | .code c | .hidden c =>
      (∀ state, states.head? = some state → state.isComment = false) →
        c ≠ '{' ∧ (c = '}' → rest.head? ≠ some '}')
  | .brace _ => ∀ state ∈ states, state.isComment = false
  | .placeholder _ quote =>
      (∀ state ∈ states, state.isComment = false) ∧
        states[quote.toList.length]? = some (quote.elim .code .quoted)

/-- The reader follows the cutting from piece to piece. -/
def Reads : List Piece → List LexState → Prop
  | [], _ => True
  | piece :: rest, states =>
      piece.Reads (states.take (piece.source.length + 1)) (rest.flatMap Piece.source) ∧
        Reads rest (states.drop piece.source.length)

variable {pieces later : List Piece} {states : List LexState} {rest : List Char}

theorem isComment_lexStates_eq_false {state found : LexState} {text : List Char}
    (hstate : state.isComment = false) (h : (lexStates state text).head? = some found) :
    found.isComment = false := by
  rwa [eq_of_head?_lexStates h]

/-- A comment may hold anything. -/
theorem reads_comment {s : LexState} (hs : s.isComment = true) (c : Char)
    (h : Reads later states) : Reads (.hidden c :: later) (s :: states) := by
  refine ⟨fun hhead => ?_, h⟩
  have hfalse := hhead s rfl
  rw [hs] at hfalse
  cases hfalse

theorem reads_plain {state : LexState} {piece : Piece} {c : Char}
    (hpiece : piece = .code c ∨ piece = .hidden c) (hopen : c ≠ '{')
    (hclose : c = '}' → (later.flatMap Piece.source).head? ≠ some '}') (h : Reads later states) :
    Reads (piece :: later) (state :: states) := by
  rcases hpiece with rfl | rfl
  · exact ⟨fun _ => ⟨hopen, hclose⟩, h⟩
  · exact ⟨fun _ => ⟨hopen, hclose⟩, h⟩

theorem reads_brace {state : LexState} (hstate : state.isComment = false) (c : Char)
    {text : List Char} (h : Reads later (lexStates state text)) :
    Reads (.brace c :: later) (state :: state :: lexStates state text) := by
  refine ⟨?_, h⟩
  show ∀ found ∈ state :: state :: (lexStates state text).take 1, _
  simp only [List.forall_mem_cons]
  refine ⟨hstate, hstate, fun found hmem => ?_⟩
  rw [List.take_one, Option.mem_toList] at hmem
  exact isComment_lexStates_eq_false hstate hmem

/-- Only a placeholder without quotes tells code from quoted text. -/
theorem Reads.congr_head {first second : LexState} (h : Reads pieces (first :: states))
    (hfirst : first.isComment = false) (hsecond : second.isComment = false)
    (hpieces : ∀ name later, pieces ≠ .placeholder name none :: later) :
    Reads pieces (second :: states) := by
  cases pieces with
  | nil => trivial
  | cons piece later =>
      have hstates : ∀ taken : List LexState,
          (∀ state ∈ first :: taken, state.isComment = false) →
            ∀ state ∈ second :: taken, state.isComment = false := by
        intro taken hall
        rw [List.forall_mem_cons] at hall ⊢
        exact ⟨hsecond, hall.2⟩
      have hhead : ∀ state, some first = some state → state.isComment = false := by
        rintro state ⟨⟩
        exact hfirst
      cases piece with
      | code c => exact ⟨fun _ => h.1 hhead, h.2⟩
      | hidden c => exact ⟨fun _ => h.1 hhead, h.2⟩
      | brace c => exact ⟨hstates _ h.1, h.2⟩
      | placeholder name quote =>
          cases quote with
          | none => exact absurd rfl (hpieces name later)
          | some quote => exact ⟨⟨hstates _ h.1.1, h.1.2⟩, h.2⟩

/-- Where a literal ends, the reader may take its quote for the first of a doubled one. It is back
in step as soon as the cutting has opened the next literal. -/
theorem reads_literalEnd {quote : Char} (hquote : isQuote quote = true)
    (hcuts : Region.code.Cuts rest later) (h : Reads later (lexStates .code rest)) :
    ∃ state after, lexStates (.quoted quote) (quote :: rest) = .quoted quote :: after ∧
      state.isComment = false ∧ (∀ found, after.head? = some found → found = state) ∧
      Reads later after := by
  by_cases hhead : rest.head? = some quote
  · obtain ⟨more, rfl⟩ := List.head?_eq_some_iff.mp hhead
    have hpieces : ∀ name others, later ≠ .placeholder name none :: others := by
      rintro name others rfl
      have hbrace : quote = '{' := (List.cons.inj hcuts.source).1.symm
      rw [hbrace] at hquote
      cases hquote
    rw [lexStates_code_quote hquote] at h
    refine ⟨.quoted quote, _, lexStates_quoted_doubled quote more, rfl, ?_,
      h.congr_head rfl rfl hpieces⟩
    rintro found ⟨⟩
    rfl
  · exact ⟨.code, _, lexStates_quoted_end hhead, rfl, fun _ => eq_of_head?_lexStates, h⟩

theorem reads_placeholder {name : String} {quote : Option Char} {run after : List LexState}
    (hlength : run.length = (Piece.placeholder name quote).source.length)
    (hrun : ∀ state ∈ run, state.isComment = false)
    (hinside : run[quote.toList.length]? = some (quote.elim .code .quoted))
    (hafter : ∀ state, after.head? = some state → state.isComment = false)
    (h : Reads later after) : Reads (.placeholder name quote :: later) (run ++ after) := by
  rw [Reads, ← hlength, List.take_length_add_append, List.drop_left]
  refine ⟨⟨fun state hmem => ?_, ?_⟩, h⟩
  · rw [List.take_one, List.mem_append, Option.mem_toList] at hmem
    exact hmem.elim (hrun state) (hafter state)
  · rwa [List.getElem?_append_left (List.getElem?_eq_some_iff.mp hinside).1]

theorem all_isInert_braced {name : List Char} (hname : isIdentifier name = true) :
    ('{' :: name ++ ['}']).all isInert = true := by
  have hword := List.all_eq_true.mp (all_isWordChar_of_isIdentifier hname)
  have hall : name.all isInert = true :=
    List.all_eq_true.mpr fun c hmem => isInert_of_isWordChar (hword c hmem)
  rw [List.cons_append, List.all_cons, List.all_append, hall]
  rfl

theorem lexStates_bare {name : List Char} (hname : isIdentifier name = true) (rest : List Char) :
    lexStates .code ('{' :: (name ++ '}' :: rest)) =
      List.replicate ('{' :: name ++ ['}']).length .code ++ lexStates .code rest := by
  have htext : '{' :: name ++ ['}'] ++ rest = '{' :: (name ++ '}' :: rest) := by simp
  rw [← htext, lexStates_code_append (all_isInert_braced hname)]

theorem reads_bare {name : List Char} (hname : isIdentifier name = true)
    (h : Reads later (lexStates .code rest)) :
    Reads (.placeholder (String.ofList name) none :: later)
      (lexStates .code ('{' :: (name ++ '}' :: rest))) := by
  rw [lexStates_bare hname]
  refine reads_placeholder ?_ ?_ rfl (fun _ => isComment_lexStates_eq_false rfl) h
  · simp [Piece.source]
  · intro state hmem
    rw [List.eq_of_mem_replicate hmem]
    rfl

/-- The reader is between quotes up to the one that closes the literal. -/
theorem lexStates_opened {quote : Char} {name : List Char} (hquote : isQuote quote = true)
    (hname : isIdentifier name = true) (rest : List Char) :
    lexStates .code (quote :: '{' :: name ++ ['}'] ++ rest) =
      .code :: List.replicate ('{' :: name ++ ['}']).length (.quoted quote) ++
        lexStates (.quoted quote) rest := by
  have hinside : quote ∉ '{' :: name ++ ['}'] := by
    intro hmem
    have hinert := List.all_eq_true.mp (all_isInert_braced hname) quote hmem
    rw [isInert, hquote] at hinert
    cases hinert
  have htext : quote :: '{' :: name ++ ['}'] ++ rest = quote :: ('{' :: name ++ ['}'] ++ rest) :=
    rfl
  rw [htext, lexStates_code_quote hquote, lexStates_quoted_append hinside]
  rfl

theorem lexStates_filled {quote : Char} {name : List Char} (hquote : isQuote quote = true)
    (hname : isIdentifier name = true) {after : List LexState}
    (hend : lexStates (.quoted quote) (quote :: rest) = .quoted quote :: after) :
    lexStates .code (quote :: '{' :: (name ++ '}' :: quote :: rest)) =
      (.code :: List.replicate ('{' :: name ++ ['}']).length (.quoted quote) ++
        [.quoted quote]) ++ after := by
  have hopened := lexStates_opened hquote hname (quote :: rest)
  rw [hend] at hopened
  simpa using hopened

theorem reads_filled {quote : Char} {name : List Char} (hquote : isQuote quote = true)
    (hname : isIdentifier name = true) (hcuts : Region.code.Cuts rest later)
    (h : Reads later (lexStates .code rest)) :
    Reads (.placeholder (String.ofList name) (some quote) :: later)
      (lexStates .code (quote :: '{' :: (name ++ '}' :: quote :: rest))) := by
  obtain ⟨state, after, hend, hstate, hafter, hlater⟩ := reads_literalEnd hquote hcuts h
  rw [lexStates_filled hquote hname hend]
  refine reads_placeholder ?_ ?_ rfl (fun found hhead => hafter found hhead ▸ hstate) hlater
  · simp [Piece.source]
  · intro found hmem
    rw [List.mem_append, List.mem_cons, List.mem_replicate, List.mem_singleton] at hmem
    rcases hmem with (rfl | ⟨-, rfl⟩) | rfl <;> rfl

theorem Region.Cuts.reads {region : Region} {text : List Char} {pieces : List Piece}
    (h : region.Cuts text pieces) (hregion : region.Proper) :
    Reads pieces (lexStates region.lexState text) := by
  have hclose : ∀ {region : Region} {rest later c}, region.Cuts rest later →
      (c = '}' → rest.head? ≠ some '}') →
      c = '}' → (later.flatMap Piece.source).head? ≠ some '}' := by
    intro region rest later c hrest hc
    rwa [hrest.source]
  -- before every piece, the reader is in the state of the region that the cutting has left open
  induction h with
  | done _ => trivial
  | lineEnd hrest ih =>
      rw [Region.lexState, lexStates_lineComment_cons, if_pos rfl]
      exact reads_plain (.inl rfl) (by decide) (fun h => absurd h (by decide)) (ih trivial)
  | lineChar hc hrest ih =>
      rw [Region.lexState, lexStates_lineComment_cons, if_neg hc]
      exact reads_comment rfl _ (ih trivial)
  | blockEnd hrest ih =>
      have hmark := reads_comment (s := .blockComment) rfl '/' (ih trivial)
      exact reads_comment rfl '*' hmark
  | blockChar hc hrest ih =>
      rw [Region.lexState, lexStates_blockComment_cons hc]
      exact reads_comment rfl _ (ih trivial)
  | @literalBrace quote c rest later hc hrest ih =>
      have hquote : isQuote quote = true := hregion
      have hother : c ≠ quote := by
        rintro rfl
        rcases hc with rfl | rfl <;> cases hquote
      rw [Region.lexState, lexStates_quoted_cons hother, lexStates_quoted_cons hother]
      exact reads_brace rfl c (ih hregion)
  | @literalEnd quote rest later hrest ih =>
      have hquote : isQuote quote = true := hregion
      obtain ⟨_, after, hstates, _, _, hlater⟩ := reads_literalEnd hquote hrest (ih trivial)
      rw [Region.lexState, hstates]
      refine reads_plain (.inl rfl) ?_ ?_ hlater
      · rintro rfl
        cases hquote
      · rintro rfl
        cases hquote
  | literalChar hc hopen hhead hrest ih =>
      rw [Region.lexState, lexStates_quoted_cons hc]
      refine reads_plain ?_ hopen (hclose hrest hhead) (ih hregion)
      unfold literalPiece
      split
      · exact .inr rfl
      · exact .inl rfl
  | @brace c rest later hc hrest ih =>
      have hinert : isInert c = true := by rcases hc with rfl | rfl <;> rfl
      rw [Region.lexState, lexStates_code_inert hinert, lexStates_code_inert hinert]
      exact reads_brace rfl c (ih trivial)
  | lineStart hrest ih =>
      have hmark := reads_comment (s := .lineComment) rfl '-' (ih trivial)
      exact reads_plain (.inr rfl) (by decide) (fun h => absurd h (by decide)) hmark
  | blockStart hrest ih =>
      have hmark := reads_comment (s := .blockComment) rfl '*' (ih trivial)
      exact reads_plain (.inr rfl) (by decide) (fun h => absurd h (by decide)) hmark
  | literalStart hquote hopen hrest ih =>
      rw [Region.lexState, lexStates_code_quote hquote]
      refine reads_plain (.inl rfl) ?_ ?_ (ih hquote)
      · rintro rfl
        cases hquote
      · rintro rfl
        cases hquote
  | bare hname hrest ih => exact reads_bare hname (ih trivial)
  | filled hquote hname hrest ih => exact reads_filled hquote hname hrest (ih trivial)
  | char hquote hopen hhead hdash hslash hrest ih =>
      rw [Region.lexState, lexStates_code_cons hdash hslash, hquote]
      exact reads_plain (.inl rfl) hopen (hclose hrest hhead) (ih trivial)

/-- Placeholders and doubled braces do not stay as they are. -/
def Piece.isReplaced : Piece → Bool
  | .code _ | .hidden _ => false
  | .brace _ | .placeholder _ _ => true

theorem Reads.of_append {front back : List Piece} {piece : Piece}
    (h : Reads (front ++ piece :: back) states) :
    piece.Reads
      ((states.drop (front.flatMap Piece.source).length).take (piece.source.length + 1))
      (back.flatMap Piece.source) := by
  induction front generalizing states with
  | nil => exact h.1
  | cons first front ih =>
      have hlater := ih h.2
      rwa [List.drop_drop, ← List.length_append] at hlater

/-- What is replaced has no character in a comment. -/
theorem Reads.inComment_eq_false {text : List Char} {front back : List Piece} {piece : Piece}
    (h : Reads (front ++ piece :: back) (lexStates .code text))
    (hpiece : piece.isReplaced = true) {index : Nat} (hindex : index < piece.source.length) :
    inComment text ((front.flatMap Piece.source).length + index) = false := by
  have hreads := h.of_append
  have houtside : ∀ state ∈ ((lexStates .code text).drop
      (front.flatMap Piece.source).length).take (piece.source.length + 1),
      state.isComment = false := by
    cases piece with
    | code c => cases hpiece
    | hidden c => cases hpiece
    | brace c => exact hreads
    | placeholder name quote => exact hreads.1
  rw [inComment, List.any_eq_false]
  intro state hmem
  rw [← List.drop_drop, List.take_drop] at hmem
  have htaken := List.take_prefix_take_left (l := (lexStates .code text).drop
    (front.flatMap Piece.source).length) (show index + 2 ≤ piece.source.length + 1 by omega)
  rw [houtside state (htaken.subset (List.mem_of_mem_drop hmem))]
  exact Bool.false_ne_true

theorem exists_piece_of_source {before after : List Char} {c : Char}
    (h : pieces.flatMap Piece.source = before ++ c :: after) :
    ∃ front piece back inner outer, pieces = front ++ piece :: back ∧
      piece.source = inner ++ c :: outer ∧ before = front.flatMap Piece.source ++ inner ∧
      after = outer ++ back.flatMap Piece.source := by
  induction pieces generalizing before with
  | nil => exact absurd h (by simp)
  | cons piece pieces ih =>
      have hlater : ∀ more, before = piece.source ++ more →
          pieces.flatMap Piece.source = more ++ c :: after →
          ∃ front found back inner outer, piece :: pieces = front ++ found :: back ∧
            found.source = inner ++ c :: outer ∧ before = front.flatMap Piece.source ++ inner ∧
            after = outer ++ back.flatMap Piece.source := by
        rintro more rfl hmore
        obtain ⟨front, found, back, inner, outer, rfl, hfound, rfl, hafter⟩ := ih hmore
        exact ⟨piece :: front, found, back, inner, outer, rfl, hfound, by simp, hafter⟩
      rw [List.flatMap_cons] at h
      rcases List.append_eq_append_iff.mp h with ⟨more, hbefore, hmore⟩ | ⟨inner, hpiece, hinner⟩
      · exact hlater more hbefore hmore
      · cases inner with
        | nil => exact hlater [] (by simpa using hpiece.symm) hinner.symm
        | cons d outer =>
            obtain ⟨rfl, hafter⟩ := List.cons.inj hinner
            exact ⟨[], piece, pieces, before, outer, rfl, hpiece, rfl, hafter⟩

/-- Outside comments, an opening brace and the first one of two closing ones are replaced. -/
theorem Reads.isReplaced {text : List Char} {front back : List Piece} {piece : Piece}
    (h : Reads (front ++ piece :: back) (lexStates .code text)) {inner outer : List Char} {c : Char}
    (hpiece : piece.source = inner ++ c :: outer)
    (hcomment : inComment text ((front.flatMap Piece.source).length + inner.length) = false)
    (hc : c = '{' ∨ c = '}' ∧ (outer ++ back.flatMap Piece.source).head? = some '}') :
    piece.isReplaced = true := by
  have hreads := h.of_append
  have hsingle : ∀ d, piece.source = [d] → inner = [] ∧ c = d ∧ outer = [] := by
    intro d hd
    rcases List.append_eq_cons_iff.mp (hpiece.symm.trans hd) with ⟨hinner, heq⟩ | ⟨_, _, heq⟩
    · exact ⟨hinner, List.cons.inj heq⟩
    · exact absurd heq (by simp)
  have hplain : ∀ d, piece.source = [d] → ¬ (d ≠ '{' ∧
      (d = '}' → (back.flatMap Piece.source).head? ≠ some '}')) := by
    rintro d hd ⟨hopen, hclose⟩
    obtain ⟨-, rfl, rfl⟩ := hsingle d hd
    exact hc.elim hopen fun hpair => hclose hpair.1 hpair.2
  have houtside : ∀ d, piece.source = [d] → ∀ state,
      (((lexStates .code text).drop (front.flatMap Piece.source).length).take
        (piece.source.length + 1)).head? = some state → state.isComment = false := by
    intro d hd state hhead
    rw [inComment, (hsingle d hd).1, List.any_eq_false] at hcomment
    rw [hd] at hhead
    exact Bool.eq_false_iff.mpr (hcomment state (List.mem_of_head? hhead))
  cases piece with
  | code d => exact absurd (hreads (houtside d rfl)) (hplain d rfl)
  | hidden d => exact absurd (hreads (houtside d rfl)) (hplain d rfl)
  | brace d => rfl
  | placeholder name quote => rfl

/-! ### Runs of opening braces -/

/-- How many opening braces the text ends with. -/
def openRun (text : List Char) : Nat :=
  (text.reverse.takeWhile (· == '{')).length

theorem openRun_append_singleton (text : List Char) (c : Char) :
    openRun (text ++ [c]) = if c = '{' then openRun text + 1 else 0 := by
  rw [openRun, List.reverse_append, List.reverse_singleton, List.singleton_append,
    List.takeWhile_cons]
  by_cases hc : c = '{'
  · simp [hc, openRun]
  · simp [hc]

theorem openRun_append_pair (text : List Char) (c : Char) :
    openRun (text ++ [c, c]) = if c = '{' then openRun text + 2 else 0 := by
  rw [List.append_cons, openRun_append_singleton, openRun_append_singleton]
  split <;> rfl

theorem head?_take_drop {α : Type} (items : List α) (place length : Nat) :
    ((items.drop place).take (length + 1)).head? = items[place]? := by
  rw [List.head?_take, if_neg (Nat.succ_ne_zero _), List.head?_drop]

theorem Piece.source_ne_nil (piece : Piece) : piece.source ≠ [] := by
  cases piece with
  | placeholder name quote => cases quote <;> exact List.cons_ne_nil _ _
  | _ => exact List.cons_ne_nil _ _

/-- The reader is outside comments where a placeholder or a doubled brace begins. -/
theorem Reads.exists_state {front back : List Piece} {piece : Piece} {text : List Char}
    (h : Reads (front ++ piece :: back) (lexStates .code text))
    (hsource : (front ++ piece :: back).flatMap Piece.source = text)
    (hpiece : piece.isReplaced = true) :
    ∃ state, (lexStates .code text)[(front.flatMap Piece.source).length]? = some state ∧
      state.isComment = false := by
  have hlength : (front.flatMap Piece.source).length < (lexStates .code text).length := by
    rw [length_lexStates, ← hsource, List.flatMap_append, List.flatMap_cons, List.length_append,
      List.length_append]
    have hpos := List.length_pos_iff.mpr piece.source_ne_nil
    omega
  have hstart := List.getElem?_eq_getElem hlength
  have hmem := List.mem_of_head? ((head?_take_drop _ _ piece.source.length).trans hstart)
  refine ⟨_, hstart, ?_⟩
  cases piece with
  | code c => cases hpiece
  | hidden c => cases hpiece
  | brace c => exact h.of_append _ hmem
  | placeholder name quote => exact h.of_append.1 _ hmem

/-- Outside comments, opening braces go in pairs up to where a piece begins. -/
theorem Reads.even_openRun {front back : List Piece} {text : List Char} {state : LexState}
    (h : Reads (front ++ back) (lexStates .code text))
    (hsource : (front ++ back).flatMap Piece.source = text)
    (hproper : ∀ piece ∈ front, piece.Proper)
    (hat : (lexStates .code text)[(front.flatMap Piece.source).length]? = some state)
    (hstate : state.isComment = false) : openRun (front.flatMap Piece.source) % 2 = 0 := by
  induction front using List.reverseRecOn generalizing back state with
  | nil => rfl
  | append_singleton front piece ih =>
      rw [List.append_assoc, List.singleton_append] at h hsource
      have hreads := h.of_append
      have hlater := fun {found} => @ih (piece :: back) found h hsource
        fun other hmem => hproper other (List.mem_append_left _ hmem)
      have hpiece := hproper piece (by simp)
      rw [List.flatMap_append, List.flatMap_singleton] at hat ⊢
      cases piece with
      | code c => rw [Piece.source, openRun_append_singleton, if_neg hpiece]
      | hidden c =>
          rw [Piece.source, openRun_append_singleton, if_neg]
          rintro rfl
          refine (hreads fun found hfound => ?_).1 rfl
          rw [head?_take_drop] at hfound
          -- the comment would go on behind the brace
          rw [← hsource, List.flatMap_append] at hat hfound
          rw [List.length_append] at hat
          rwa [← eq_of_lexStates_inert rfl (by decide) hfound hat]
      | brace c =>
          rw [Piece.source, openRun_append_pair]
          split
          · obtain ⟨found, hfound, hcomment⟩ := h.exists_state hsource rfl
            have heven := hlater hfound hcomment
            omega
          · rfl
      | placeholder name quote =>
          obtain ⟨text, c, hc, hlast⟩ : ∃ text c, c ≠ '{' ∧
              (Piece.placeholder name quote).source = text ++ [c] := by
            cases quote with
            | none => exact ⟨_, '}', by decide, rfl⟩
            | some quote =>
                refine ⟨quote :: '{' :: name.toList ++ ['}'], quote, ?_, by simp [Piece.source]⟩
                rintro rfl
                cases hpiece.2 '{' rfl
          rw [hlast, ← List.append_assoc, openRun_append_singleton, if_neg hc]

end QueryMethods

import QueryMethods.Proofs.Template.Comments
import QueryMethods.Proofs.Template.Slots
import QueryMethods.Proofs.Template.Stretched.Basic

/-!
# Words that decide about rows

Whether a statement produces rows depends on the words of its template, and only on those that a
reader of the template finds outside comments, single quotes and placeholders. Double quotes hide
nothing.
-/

namespace QueryMethods

/-- The longest runs of word characters, each with its place. The text begins at the given place,
and `inWord` tells whether a word character stands before it. -/
def placedWords (place : Nat) (inWord : Bool) : List Char → List (Nat × List Char)
  | [] => []
  | c :: rest =>
      if isWordChar c && !inWord then
        (place, c :: rest.takeWhile isWordChar) :: placedWords (place + 1) true rest
      else
        placedWords (place + 1) (isWordChar c) rest

/-- The reader is in no state that hides the place, and no brace before it opens a placeholder. -/
def isOutside (hides : LexState → Bool) (template : List Char) (place : Nat) : Bool :=
  (lexStates .code template)[place]?.any (!hides ·) && openRun (template.take place) % 2 == 0

def wordsOutside (hides : LexState → Bool) (template : List Char) : List (List Char) :=
  ((placedWords 0 false template).filter fun entry => isOutside hides template entry.1).map (·.2)

/-- The first word opens a statement that produces rows, or a later one is `RETURNING`. -/
def SayRows (words : List (List Char)) : Prop :=
  (∃ first ∈ words.head?, ∃ keyword ∈ rowKeywords, isKeyword keyword first = true) ∨
    ∃ word ∈ words.tail, isKeyword "returning" word = true

instance (words : List (List Char)) : Decidable (SayRows words) :=
  inferInstanceAs (Decidable (_ ∨ _))

/-- Comments and single quotes hide what they hold from the checks. -/
def LexState.hides : LexState → Bool
  | .code => false
  | .quoted quote => quote == '\''
  | .lineComment | .blockComment => true

theorem producesRows_iff (text : List Char) :
    producesRows text = true ↔ SayRows (words text) := by
  unfold producesRows SayRows
  cases words text with
  | nil => simp
  | cons first rest => simp

theorem words_of_isWordChar {c : Char} (hc : isWordChar c = true) (rest : List Char) :
    words (c :: rest) = (c :: rest.takeWhile isWordChar) :: words (rest.dropWhile isWordChar) := by
  induction rest generalizing c with
  | nil => rw [words_cons, if_pos hc]; rfl
  | cons d rest ih =>
      rw [words_cons, if_pos hc, List.head?_cons, Option.any_some, List.takeWhile_cons,
        List.dropWhile_cons]
      by_cases hd : isWordChar d = true
      · rw [hd, ih hd]
        rfl
      · rw [Bool.eq_false_iff.mpr hd]
        rfl

theorem map_placedWords (place : Nat) (inWord : Bool) (text : List Char) :
    (placedWords place inWord text).map (·.2) =
      words (if inWord then text.dropWhile isWordChar else text) := by
  induction text generalizing place inWord with
  | nil => cases inWord <;> rfl
  | cons c rest ih =>
      rw [placedWords, List.dropWhile_cons]
      by_cases hc : isWordChar c = true
      · cases inWord with
        | true => simpa [hc] using ih (place + 1) true
        | false => simpa [hc, words_of_isWordChar hc] using ih (place + 1) true
      · have hwords : words (c :: rest) = words rest := by rw [words_cons, if_neg hc]
        simp only [hc, Bool.false_and, Bool.false_eq_true, if_false, ite_self, hwords]
        exact ih (place + 1) false

theorem exists_of_mem_placedWords {place found : Nat} {inWord : Bool} {text word : List Char}
    (h : (found, word) ∈ placedWords place inWord text) :
    ∃ before c after, text = before ++ c :: after ∧ found = place + before.length ∧
      isWordChar c = true ∧ before.getLast?.elim inWord isWordChar = false := by
  induction text generalizing place inWord with
  | nil => cases h
  | cons c rest ih =>
      have hlater : ∀ {inWord' : Bool}, inWord' = isWordChar c →
          (found, word) ∈ placedWords (place + 1) inWord' rest →
          ∃ before d after, c :: rest = before ++ d :: after ∧ found = place + before.length ∧
            isWordChar d = true ∧ before.getLast?.elim inWord isWordChar = false := by
        rintro _ rfl hmem
        obtain ⟨before, d, after, rfl, rfl, hd, hlast⟩ := ih hmem
        refine ⟨c :: before, d, after, rfl, by rw [List.length_cons]; omega, hd, ?_⟩
        rw [List.getLast?_cons]
        cases hbefore : before.getLast? with
        | none => rwa [hbefore] at hlast
        | some last => rwa [hbefore] at hlast
      rw [placedWords] at h
      split at h
      · rename_i hstart
        rw [Bool.and_eq_true, Bool.not_eq_true'] at hstart
        rcases List.mem_cons.mp h with heq | hmem
        · exact ⟨[], c, rest, rfl, (Prod.mk.inj heq).1, hstart.1, hstart.2⟩
        · exact hlater hstart.1.symm hmem
      · exact hlater rfl h

/-- A text that shows blanks at some of its places. -/
def blanked (shows : Nat → Bool) (place : Nat) : List Char → List Char
  | [] => []
  | c :: rest => (if shows place then c else ' ') :: blanked shows (place + 1) rest

/-- No word shows in part. -/
def Steady (shows : Nat → Bool) (place : Nat) (text : List Char) : Prop :=
  ∀ index c d, text[index]? = some c → text[index + 1]? = some d → isWordChar c = true →
    isWordChar d = true → shows (place + index) = shows (place + index + 1)

section

variable {shows : Nat → Bool} {place : Nat} {c : Char} {text rest : List Char}

theorem Steady.tail (h : Steady shows place (c :: rest)) : Steady shows (place + 1) rest := by
  intro index d e hd he hwordD hwordE
  have hshift := h (index + 1) d e hd he hwordD hwordE
  rwa [← Nat.add_assoc, Nat.add_right_comm place] at hshift

theorem Steady.head (h : Steady shows place (c :: rest)) (hc : isWordChar c = true)
    (hrest : rest.head?.any isWordChar = true) : shows place = shows (place + 1) := by
  cases rest with
  | nil => cases hrest
  | cons d rest => exact h 0 c d rfl rfl hc hrest

theorem takeWhile_blanked (h : Steady shows place text)
    (hhead : text.head?.any isWordChar = true → shows place = true) :
    (blanked shows place text).takeWhile isWordChar = text.takeWhile isWordChar := by
  induction text generalizing place with
  | nil => rfl
  | cons c rest ih =>
      rw [blanked, List.takeWhile_cons, List.takeWhile_cons]
      by_cases hc : isWordChar c = true
      · have hshow := hhead hc
        rw [if_pos hshow, hc, ih h.tail fun hrest => (h.head hc hrest).symm.trans hshow]
      · have hblank : isWordChar (if shows place then c else ' ') = false := by
          split
          · exact Bool.eq_false_iff.mpr hc
          · rfl
        rw [hblank, Bool.eq_false_iff.mpr hc]
        rfl

/-- The words that show in full are those of the text with blanks. -/
theorem placedWords_blanked {inWord shown : Bool} (h : Steady shows place text)
    (hshown : text.head?.any isWordChar = true → shown = (inWord && shows place)) :
    placedWords place shown (blanked shows place text) =
      (placedWords place inWord text).filter (shows ·.1) := by
  induction text generalizing place inWord shown with
  | nil => rfl
  | cons c rest ih =>
      have hblank : isWordChar (if shows place then c else ' ') =
          (isWordChar c && shows place) := by
        cases shows place <;> simp [show isWordChar ' ' = false from rfl]
      rw [blanked, placedWords, placedWords, hblank]
      by_cases hc : isWordChar c = true
      · have hlater := @ih (place + 1) true (shows place) h.tail fun hrest => by
          rw [Bool.true_and]
          exact h.head hc hrest
        obtain rfl := hshown hc
        rw [hc, Bool.true_and]
        cases hshow : shows place with
        | false =>
            -- neither text has a word here that is kept
            rw [hshow] at hlater
            cases inWord with
            | true => simpa using hlater
            | false => simpa [hshow] using hlater
        | true =>
            rw [hshow] at hlater
            cases inWord with
            | true => simpa using hlater
            | false =>
                have hword := takeWhile_blanked h.tail fun hrest => (h.head hc hrest) ▸ hshow
                simpa [hshow, hword] using hlater
      · have hlater := @ih (place + 1) false false h.tail fun _ => rfl
        simpa [hc] using hlater

end

def Piece.isShown : Piece → Bool
  | .code _ => true
  | _ => false

/-- The characters of a piece, each with whether the checks see it. -/
def Piece.marks (piece : Piece) : List (Char × Bool) :=
  piece.source.map (·, piece.isShown)

/-- The character that the checks see there. -/
def shownChar (mark : Char × Bool) : Char :=
  if mark.2 then mark.1 else ' '

theorem map_marks (pieces : List Piece) :
    (pieces.flatMap Piece.marks).map (·.1) = pieces.flatMap Piece.source := by
  rw [List.map_flatMap]
  refine congrArg (pieces.flatMap ·) (funext fun piece => ?_)
  rw [Piece.marks, List.map_map]
  exact List.map_id _

theorem length_marks (pieces : List Piece) :
    (pieces.flatMap Piece.marks).length = (pieces.flatMap Piece.source).length := by
  rw [← map_marks, List.length_map]

theorem Piece.exists_blanks {piece : Piece} (h : piece.isShown = false) :
    ∃ blanks, (∀ c ∈ blanks, isQuiet c = true) ∧ piece.marks.map shownChar = ' ' :: blanks := by
  obtain ⟨c, rest, hsource⟩ := List.exists_cons_of_ne_nil piece.source_ne_nil
  refine ⟨rest.map fun _ => ' ', fun d hmem => ?_, ?_⟩
  · obtain ⟨_, _, rfl⟩ := List.mem_map.mp hmem
    rfl
  · rw [marks, List.map_map, hsource, h]
    rfl

/-- A piece that takes the room of several blanks shows as one. -/
theorem words_maskFrom (number : Nat) (pieces : List Piece) :
    words (visible (maskFrom number pieces)) =
        words ((pieces.flatMap Piece.marks).map shownChar) ∧
      (visible (maskFrom number pieces)).head?.any isWordChar =
        ((pieces.flatMap Piece.marks).map shownChar).head?.any isWordChar := by
  induction pieces generalizing number with
  | nil => exact ⟨rfl, rfl⟩
  | cons piece rest ih =>
      have hblank : ∀ later, piece.isShown = false →
          visible (maskFrom number (piece :: rest)) = ' ' :: visible (maskFrom later rest) →
          words (visible (maskFrom number (piece :: rest))) =
              words (((piece :: rest).flatMap Piece.marks).map shownChar) ∧
            (visible (maskFrom number (piece :: rest))).head?.any isWordChar =
              (((piece :: rest).flatMap Piece.marks).map shownChar).head?.any isWordChar := by
        intro later hpiece hvisible
        obtain ⟨blanks, hblanks, hmarks⟩ := Piece.exists_blanks hpiece
        rw [hvisible, List.flatMap_cons, List.map_append, hmarks]
        refine ⟨?_, rfl⟩
        rw [List.cons_append, words_cons, words_cons, words_append_of_quiet hblanks,
          ← (ih later).1]
        rfl
      cases piece with
      | code c =>
          obtain ⟨hwords, hhead⟩ := ih number
          refine ⟨?_, rfl⟩
          show words (c :: visible (maskFrom number rest)) =
            words (c :: (rest.flatMap Piece.marks).map shownChar)
          rw [words_cons, words_cons, hwords, hhead]
      | hidden c => exact hblank number rfl rfl
      | brace c => exact hblank number rfl rfl
      | placeholder name quote => exact hblank (number + 1) rfl rfl

/-- Whether the checks see the character at that place of a template. -/
def showsAt (pieces : List Piece) (place : Nat) : Bool :=
  (pieces.flatMap Piece.marks)[place]?.any (·.2)

theorem map_shownChar {marks : List (Char × Bool)} {shows : Nat → Bool} {place : Nat}
    (h : ∀ index, shows (place + index) = marks[index]?.any (·.2)) :
    marks.map shownChar = blanked shows place (marks.map (·.1)) := by
  induction marks generalizing place with
  | nil => rfl
  | cons mark marks ih =>
      have hlater : ∀ index, shows (place + 1 + index) = marks[index]?.any (·.2) := by
        intro index
        rw [Nat.add_assoc, Nat.add_comm 1, h (index + 1), List.getElem?_cons_succ]
      have hhead : shows place = mark.2 := h 0
      rw [List.map_cons, List.map_cons, blanked, hhead, ih hlater]
      rfl

theorem showsAt_of_append {front back : List Piece} {piece : Piece} {inner outer : List Char}
    {c : Char} (h : piece.source = inner ++ c :: outer) :
    showsAt (front ++ piece :: back) ((front.flatMap Piece.source).length + inner.length) =
      piece.isShown := by
  have hplace : piece.marks[inner.length]? = some (c, piece.isShown) := by
    rw [Piece.marks, List.getElem?_map, h, List.getElem?_append_right (Nat.le_refl _), Nat.sub_self]
    rfl
  rw [showsAt, List.flatMap_append, ← length_marks, List.flatMap_cons,
    List.getElem?_append_right (Nat.le_add_right ..), Nat.add_sub_cancel_left,
    List.getElem?_append_left (List.getElem?_eq_some_iff.mp hplace).1, hplace]
  rfl

/-- The reader, in these states before the characters of the pieces, hides a word exactly if the
cutting does. -/
def Tracks : List Piece → List LexState → Prop
  | [], _ => True
  | piece :: rest, states =>
      (∀ c state, piece.source = [c] → isWordChar c = true → states.head? = some state →
          piece.isShown = !state.hides) ∧
        Tracks rest (states.drop piece.source.length)

section

variable {later : List Piece} {states : List LexState} {state : LexState} {piece : Piece}
  {rest : List Char}

theorem isWordChar_eq_false_of_isQuote {quote : Char} (hquote : isQuote quote = true) :
    isWordChar quote = false := by
  rw [Bool.eq_false_iff]
  intro hword
  have hinert := isInert_of_isWordChar hword
  rw [isInert, hquote] at hinert
  cases hinert

theorem tracks_plain {c : Char} (hsource : piece.source = [c])
    (hpiece : isWordChar c = true → piece.isShown = !state.hides) (h : Tracks later states) :
    Tracks (piece :: later) (state :: states) := by
  rw [Tracks, hsource]
  refine ⟨?_, h⟩
  rintro _ _ ⟨⟩ hc ⟨⟩
  exact hpiece hc

theorem tracks_skip (hpiece : ∀ c, piece.source ≠ [c]) {run : List LexState}
    (hrun : run.length = piece.source.length) (h : Tracks later states) :
    Tracks (piece :: later) (run ++ states) := by
  rw [Tracks, ← hrun, List.drop_left]
  exact ⟨fun c _ hc => absurd hc (hpiece c), h⟩

theorem tracks_brace (c : Char) (h : Tracks later states) :
    Tracks (.brace c :: later) (state :: state :: states) := by
  have hpiece : ∀ d, (Piece.brace c).source ≠ [d] := by simp [Piece.source]
  exact @tracks_skip later states (.brace c) hpiece [state, state] rfl h

/-- The reader is back in step as soon as the cutting has opened the next literal. -/
theorem exists_tracks_literalEnd {quote : Char} (hquote : isQuote quote = true)
    (hcuts : Region.code.Cuts rest later) (h : Tracks later (lexStates .code rest)) :
    ∃ after, lexStates (.quoted quote) (quote :: rest) = .quoted quote :: after ∧
      Tracks later after := by
  by_cases hhead : rest.head? = some quote
  · obtain ⟨more, rfl⟩ := List.head?_eq_some_iff.mp hhead
    rw [lexStates_code_quote hquote] at h
    refine ⟨_, lexStates_quoted_doubled quote more, ?_⟩
    cases later with
    | nil => trivial
    | cons piece others =>
        have hsource := hcuts.source
        rw [List.flatMap_cons] at hsource
        obtain ⟨c, inner, hpiece⟩ := List.exists_cons_of_ne_nil piece.source_ne_nil
        rw [hpiece] at hsource
        obtain rfl := (List.cons.inj hsource).1
        rw [Tracks, hpiece] at h ⊢
        refine ⟨fun d _ hd hword => ?_, h.2⟩
        rw [← (List.cons.inj hd).1, isWordChar_eq_false_of_isQuote hquote] at hword
        cases hword
  · exact ⟨_, lexStates_quoted_end hhead, h⟩

theorem Region.Cuts.tracks {region : Region} {text : List Char} {pieces : List Piece}
    (h : region.Cuts text pieces) (hregion : region.Proper) :
    Tracks pieces (lexStates region.lexState text) := by
  induction h with
  | done _ => trivial
  | lineEnd hrest ih =>
      rw [Region.lexState, lexStates_lineComment_cons, if_pos rfl]
      exact tracks_plain rfl (by rintro ⟨⟩) (ih trivial)
  | lineChar hc hrest ih =>
      rw [Region.lexState, lexStates_lineComment_cons, if_neg hc]
      exact tracks_plain rfl (fun _ => rfl) (ih trivial)
  | @blockEnd rest later hrest ih =>
      have hmark : Tracks (.hidden '/' :: later) (.blockComment :: lexStates .code rest) :=
        tracks_plain rfl (by rintro ⟨⟩) (ih trivial)
      exact tracks_plain rfl (by rintro ⟨⟩) hmark
  | blockChar hc hrest ih =>
      rw [Region.lexState, lexStates_blockComment_cons hc]
      exact tracks_plain rfl (fun _ => rfl) (ih trivial)
  | @literalBrace quote c rest later hc hrest ih =>
      have hquote : isQuote quote = true := hregion
      have hother : c ≠ quote := by
        rintro rfl
        rcases hc with rfl | rfl <;> cases hquote
      rw [Region.lexState, lexStates_quoted_cons hother, lexStates_quoted_cons hother]
      exact tracks_brace c (ih hregion)
  | @literalEnd quote rest later hrest ih =>
      have hquote : isQuote quote = true := hregion
      obtain ⟨after, hstates, hlater⟩ := exists_tracks_literalEnd hquote hrest (ih trivial)
      rw [Region.lexState, hstates]
      refine tracks_plain rfl (fun hword => ?_) hlater
      rw [isWordChar_eq_false_of_isQuote hquote] at hword
      cases hword
  | @literalChar quote c rest later hc hopen hhead hrest ih =>
      rw [Region.lexState, lexStates_quoted_cons hc]
      refine tracks_plain (source_literalPiece ..) (fun _ => ?_) (ih hregion)
      rw [LexState.hides, literalPiece, bne_iff_ne.mpr hc, Bool.and_true]
      cases quote == '\'' <;> rfl
  | @brace c rest later hc hrest ih =>
      have hinert : isInert c = true := by rcases hc with rfl | rfl <;> rfl
      rw [Region.lexState, lexStates_code_inert hinert, lexStates_code_inert hinert]
      exact tracks_brace c (ih trivial)
  | @lineStart rest later hrest ih =>
      have hmark : Tracks (.hidden '-' :: later) (.lineComment :: lexStates .lineComment rest) :=
        tracks_plain rfl (by rintro ⟨⟩) (ih trivial)
      exact tracks_plain rfl (by rintro ⟨⟩) hmark
  | @blockStart rest later hrest ih =>
      have hmark : Tracks (.hidden '*' :: later) (.blockComment :: lexStates .blockComment rest) :=
        tracks_plain rfl (by rintro ⟨⟩) (ih trivial)
      exact tracks_plain rfl (by rintro ⟨⟩) hmark
  | literalStart hquote hopen hrest ih =>
      rw [Region.lexState, lexStates_code_quote hquote]
      exact tracks_plain rfl (fun _ => rfl) (ih hquote)
  | bare hname hrest ih =>
      rw [Region.lexState, lexStates_bare hname]
      exact tracks_skip (by simp [Piece.source]) (by simp [Piece.source]) (ih trivial)
  | filled hquote hname hrest ih =>
      obtain ⟨after, hend, hlater⟩ := exists_tracks_literalEnd hquote hrest (ih trivial)
      rw [Region.lexState, lexStates_filled hquote hname hend]
      exact tracks_skip (by simp [Piece.source]) (by simp [Piece.source]) hlater
  | char hquote hopen hhead hdash hslash hrest ih =>
      rw [Region.lexState, lexStates_code_cons hdash hslash, hquote]
      exact tracks_plain rfl (fun _ => rfl) (ih trivial)

theorem Tracks.isShown {front back : List Piece} {c : Char}
    (h : Tracks (front ++ piece :: back) states) (hsource : piece.source = [c])
    (hc : isWordChar c = true)
    (hstate : states[(front.flatMap Piece.source).length]? = some state) :
    piece.isShown = !state.hides := by
  induction front generalizing states with
  | nil => exact h.1 c state hsource hc (List.head?_eq_getElem? ▸ hstate)
  | cons first front ih =>
      refine ih h.2 ?_
      rwa [List.getElem?_drop, ← List.length_append]

end

/-! ### Words of a template -/

section

variable {piece : Piece} {inner outer : List Char} {c : Char}

/-- A piece of several characters neither begins nor ends with a word character. -/
theorem Piece.Proper.source_eq_singleton (h : piece.Proper) (hc : isWordChar c = true)
    (hends : piece.source.head? = some c ∨ piece.source.getLast? = some c) :
    piece.source = [c] := by
  cases piece with
  | code d =>
      obtain rfl : d = c := hends.elim Option.some.inj Option.some.inj
      rfl
  | hidden d =>
      obtain rfl : d = c := hends.elim Option.some.inj Option.some.inj
      rfl
  | brace d =>
      obtain rfl : d = c := hends.elim Option.some.inj Option.some.inj
      rcases h with rfl | rfl <;> cases hc
  | placeholder name quote =>
      cases quote with
      | none =>
          rcases hends with hhead | hlast
          · cases hhead
            cases hc
          · rw [Piece.source, List.getLast?_concat] at hlast
            cases hlast
            cases hc
      | some quote =>
          have hquote := isWordChar_eq_false_of_isQuote (h.2 quote rfl)
          have hends : quote = c := by
            rcases hends with hhead | hlast
            · exact Option.some.inj hhead
            · rw [Piece.source, List.append_cons, List.getLast?_concat] at hlast
              exact Option.some.inj hlast
          rw [← hends, hquote] at hc
          cases hc

/-- A word inside a placeholder begins right behind the opening brace. -/
theorem Piece.Proper.eq_of_placeholder {name : String} {quote : Option Char}
    (h : (Piece.placeholder name quote).Proper)
    (hsource : (Piece.placeholder name quote).source = inner ++ c :: outer)
    (hc : isWordChar c = true) (hlast : ∀ d ∈ inner.getLast?, isWordChar d = false) :
    inner = quote.toList ++ ['{'] := by
  have hquote : ∀ d ∈ quote.toList, isWordChar d = false := fun d hmem =>
    isWordChar_eq_false_of_isQuote (h.2 d (Option.mem_toList.mp hmem))
  have hopen : c ∉ quote.toList ++ ['{'] := by
    intro hmem
    rcases List.mem_append.mp hmem with hfound | hfound
    · rw [hquote c hfound] at hc
      cases hc
    · rw [List.mem_singleton.mp hfound] at hc
      cases hc
  have hclose : c ∉ '}' :: quote.toList := by
    intro hmem
    rcases List.mem_cons.mp hmem with rfl | hfound
    · cases hc
    · rw [hquote c hfound] at hc
      cases hc
  rw [source_placeholder] at hsource
  rcases List.append_eq_append_iff.mp hsource with ⟨more, hinner, hmore⟩ | ⟨more, hfront, hmore⟩
  · cases hend : more.getLast? with
    | none => rw [hinner, List.getLast?_eq_none_iff.mp hend, List.append_nil]
    | some d =>
        have hd : isWordChar d = false := hlast d (by
          rw [hinner, List.getLast?_append, hend]
          rfl)
        have hname : d ∈ name.toList := by
          rcases List.append_eq_append_iff.mp hmore with ⟨rest, -, hrest⟩ | ⟨rest, hrest, -⟩
          · exact absurd (hrest ▸ List.mem_append_right _ (List.mem_cons_self ..)) hclose
          · rw [hrest]
            exact List.mem_append_left _ (List.mem_of_getLast? hend)
        rw [List.all_eq_true.mp (all_isWordChar_of_isIdentifier h.1) d hname] at hd
        cases hd
  · cases more with
    | nil => rw [hfront, List.append_nil]
    | cons d rest =>
        rw [hfront, (List.cons.inj hmore).1] at hopen
        exact absurd (List.mem_append_right _ (List.mem_cons_self ..)) hopen

theorem exists_of_getElem? {index : Nat} {text : List Char} {d : Char} (hc : text[index]? = some c)
    (hd : text[index + 1]? = some d) :
    ∃ before after, text = before ++ c :: d :: after ∧ before.length = index := by
  obtain ⟨hindex, rfl⟩ := List.getElem?_eq_some_iff.mp hc
  obtain ⟨hnext, rfl⟩ := List.getElem?_eq_some_iff.mp hd
  refine ⟨text.take index, text.drop (index + 2), ?_, List.length_take_of_le (Nat.le_of_lt hindex)⟩
  rw [← List.drop_eq_getElem_cons hnext, ← List.drop_eq_getElem_cons hindex, List.take_append_drop]

/-- Two word characters in a row are read in one state, so the checks see both or none. -/
theorem showsAt_succ {template : List Char} {front back : List Piece} {next : Piece} {d : Char}
    (h : Tracks (front ++ piece :: next :: back) (lexStates .code template))
    (hsource : (front ++ piece :: next :: back).flatMap Piece.source = template)
    (hpiece : piece.source = [c]) (hnext : next.source = [d]) (hwordC : isWordChar c = true)
    (hwordD : isWordChar d = true) :
    showsAt (front ++ piece :: next :: back) (front.flatMap Piece.source).length =
      showsAt (front ++ piece :: next :: back) ((front.flatMap Piece.source).length + 1) := by
  have htemplate :
      template = front.flatMap Piece.source ++ c :: d :: back.flatMap Piece.source := by
    rw [← hsource, List.flatMap_append, List.flatMap_cons, List.flatMap_cons, hpiece, hnext]
    rfl
  have hbehind : ((front ++ [piece]).flatMap Piece.source).length =
      (front.flatMap Piece.source).length + 1 := by
    rw [List.flatMap_append, List.flatMap_singleton, hpiece, List.length_append,
      List.length_singleton]
  have hlength : (front.flatMap Piece.source).length + 1 < (lexStates .code template).length := by
    rw [length_lexStates, htemplate]
    simp
  obtain ⟨state, hstate⟩ : ∃ state,
      (lexStates .code template)[(front.flatMap Piece.source).length]? = some state :=
    ⟨_, List.getElem?_eq_getElem (Nat.lt_of_succ_lt hlength)⟩
  obtain ⟨found, hfound⟩ : ∃ found,
      (lexStates .code template)[(front.flatMap Piece.source).length + 1]? = some found :=
    ⟨_, List.getElem?_eq_getElem hlength⟩
  have hshown := h.isShown hpiece hwordC hstate
  have hnextShown : next.isShown = !found.hides := by
    rw [List.append_cons] at h
    exact h.isShown hnext hwordD (hbehind ▸ hfound)
  have hne : c ≠ '\n' := by
    rintro rfl
    cases hwordC
  rw [htemplate] at hstate hfound
  have hsame := eq_of_lexStates_inert (isInert_of_isWordChar hwordC) hne hstate hfound
  have hat := @showsAt_of_append front (next :: back) piece [] [] c hpiece
  have hatNext := @showsAt_of_append (front ++ [piece]) back next [] [] d hnext
  rw [hbehind, ← List.append_cons] at hatNext
  rw [List.length_nil, Nat.add_zero] at hat hatNext
  rw [hat, hatNext, hshown, hnextShown, hsame]

/-- No piece ends within a word that is read in another state. -/
theorem steady_showsAt {pieces : List Piece} {template : List Char}
    (h : piecesOf template = .ok pieces) : Steady (showsAt pieces) 0 template := by
  intro index c d hc hd hwordC hwordD
  obtain ⟨before, after, htemplate, rfl⟩ := exists_of_getElem? hc hd
  have hcuts := cuts_of_piecesOf h
  have htracks : Tracks pieces (lexStates .code template) := hcuts.tracks trivial
  have hproper := proper_of_piecesOf h
  have hsource := hcuts.source
  obtain ⟨front, piece, back, inner, outer, rfl, hpiece, hbefore, hafter⟩ :=
    exists_piece_of_source (hsource.trans htemplate)
  rw [Nat.zero_add]
  cases outer with
  | cons e outer =>
      -- both characters are in one piece
      obtain ⟨rfl, -⟩ := List.cons.inj hafter
      have hpiece' := hpiece
      rw [List.append_cons] at hpiece'
      have hnext := @showsAt_of_append front back _ _ _ _ hpiece'
      rw [List.length_append, List.length_singleton] at hnext
      rw [hbefore, List.length_append, showsAt_of_append hpiece, Nat.add_assoc, hnext]
  | nil =>
      have hlast : piece.source.getLast? = some c := by rw [hpiece, List.getLast?_concat]
      have hsingle := (hproper piece (by simp)).source_eq_singleton hwordC (.inr hlast)
      obtain rfl : inner = [] := by
        rw [hsingle] at hpiece
        rcases List.append_eq_singleton_iff.mp hpiece.symm with ⟨hinner, -⟩ | ⟨-, hcons⟩
        · exact hinner
        · cases hcons
      cases back with
      | nil => cases hafter
      | cons next back =>
          have hnext : next.source = [d] := by
            obtain ⟨e, rest, hcons⟩ := List.exists_cons_of_ne_nil next.source_ne_nil
            rw [List.flatMap_cons, hcons] at hafter
            obtain ⟨rfl, -⟩ := List.cons.inj hafter
            refine (hproper next (by simp)).source_eq_singleton hwordD (.inl ?_)
            rw [hcons, List.head?_cons]
          rw [hbefore, List.append_nil]
          exact showsAt_succ htracks hsource hsingle hnext hwordC hwordD

theorem isOutside_eq_showsAt {pieces : List Piece} {template before after : List Char}
    (h : piecesOf template = .ok pieces) (htemplate : template = before ++ c :: after)
    (hc : isWordChar c = true) (hlast : before.getLast?.elim false isWordChar = false) :
    isOutside LexState.hides template before.length = showsAt pieces before.length := by
  have hcuts := cuts_of_piecesOf h
  have hreads : Reads pieces (lexStates .code template) := hcuts.reads trivial
  have htracks : Tracks pieces (lexStates .code template) := hcuts.tracks trivial
  have hproper := proper_of_piecesOf h
  have hsource := hcuts.source
  obtain ⟨front, piece, back, inner, outer, rfl, hpiece, hbefore, hafter⟩ :=
    exists_piece_of_source (hsource.trans htemplate)
  have hfront : ∀ other ∈ front, other.Proper := fun other hmem =>
    hproper other (List.mem_append_left _ hmem)
  have hshows : showsAt (front ++ piece :: back) before.length = piece.isShown := by
    rw [hbefore, List.length_append]
    exact showsAt_of_append hpiece
  obtain ⟨state, hstate⟩ : ∃ state, (lexStates .code template)[before.length]? = some state := by
    refine ⟨_, List.getElem?_eq_getElem ?_⟩
    rw [length_lexStates, htemplate]
    simp
  have hkind : piece.source = [c] ∨ ∃ name quote, piece = .placeholder name quote := by
    have hmem : c ∈ piece.source := hpiece ▸ List.mem_append_right _ (List.mem_cons_self ..)
    cases piece with
    | code d => exact .inl (congrArg ([·]) (List.mem_singleton.mp hmem).symm)
    | hidden d => exact .inl (congrArg ([·]) (List.mem_singleton.mp hmem).symm)
    | brace d =>
        have hsame : c = d := by simpa [Piece.source] using hmem
        have hbrace : (Piece.brace d).Proper := hproper _ (by simp)
        rw [hsame] at hc
        rcases hbrace with rfl | rfl <;> cases hc
    | placeholder name quote => exact .inr ⟨name, quote, rfl⟩
  rw [isOutside, hstate, hshows, Option.any_some, show template.take before.length = before by
    rw [htemplate, List.take_left]]
  rcases hkind with hsingle | ⟨name, quote, rfl⟩
  · obtain ⟨rfl, -⟩ : inner = [] ∧ c :: outer = [c] := by
      rcases List.append_eq_singleton_iff.mp (hpiece.symm.trans hsingle) with hnil | ⟨-, hcons⟩
      · exact hnil
      · cases hcons
    rw [List.append_nil] at hbefore
    rw [hbefore] at hstate
    rw [htracks.isShown hsingle hc hstate]
    cases hhides : state.hides with
    | true => rfl
    | false =>
        have hcomment : state.isComment = false := by
          cases state with
          | code | quoted quote => rfl
          | lineComment | blockComment => cases hhides
        rw [hbefore, hreads.even_openRun hsource hfront hstate hcomment]
        rfl
  · -- the brace before the name makes the run odd
    have hodd : openRun before % 2 = 1 := by
      have hinner : inner = quote.toList ++ ['{'] := by
        refine (hproper _ (by simp)).eq_of_placeholder hpiece hc fun d hd => ?_
        rw [hbefore, List.getLast?_append, hd] at hlast
        exact hlast
      rw [hbefore, hinner, ← List.append_assoc, openRun_append_singleton, if_pos rfl]
      cases quote with
      | none =>
          obtain ⟨found, hfound, hcomment⟩ := hreads.exists_state hsource rfl
          have heven := hreads.even_openRun hsource hfront hfound hcomment
          rw [Option.toList_none, List.append_nil]
          omega
      | some quote =>
          have hquote : quote ≠ '{' := by
            rintro rfl
            cases (hproper _ (List.mem_append_right _ (List.mem_cons_self ..))).2 '{' rfl
          rw [Option.toList_some, openRun_append_singleton, if_neg hquote]
    rw [hodd]
    exact Bool.and_false _

end

/-- The checks see the words that the reader finds outside comments, single quotes and
placeholders. -/
theorem words_mask {pieces : List Piece} {template : List Char}
    (h : piecesOf template = .ok pieces) :
    words (visible (mask pieces)) = wordsOutside LexState.hides template := by
  have hshown : (pieces.flatMap Piece.marks).map shownChar =
      blanked (showsAt pieces) 0 template := by
    rw [← source_of_piecesOf h, ← map_marks]
    exact map_shownChar fun index => by rw [Nat.zero_add]; rfl
  have hsteady := steady_showsAt h
  have hkept : (placedWords 0 false template).filter (showsAt pieces ·.1) =
      (placedWords 0 false template).filter fun entry =>
        isOutside LexState.hides template entry.1 := by
    refine List.filter_congr fun entry hmem => ?_
    obtain ⟨before, c, after, htemplate, hplace, hc, hlast⟩ := exists_of_mem_placedWords hmem
    rw [hplace, Nat.zero_add, isOutside_eq_showsAt h htemplate hc hlast]
  calc words (visible (mask pieces))
      = words (blanked (showsAt pieces) 0 template) := by rw [mask, (words_maskFrom 0 pieces).1, hshown]
    _ = (placedWords 0 false (blanked (showsAt pieces) 0 template)).map (·.2) := by
        rw [map_placedWords]
        rfl
    _ = ((placedWords 0 false template).filter (showsAt pieces ·.1)).map (·.2) := by
        rw [@placedWords_blanked _ _ _ false false hsteady fun _ => rfl]
    _ = wordsOutside LexState.hides template := by rw [hkept, wordsOutside]

/-- **Words that decide about rows.** A bound template produces rows exactly if the words outside
comments, single quotes and placeholders say so. -/
theorem BoundTemplate.returnsRows_iff {template : String} {params : List Param} {entity : Entity}
    {dialect : Dialect} {bound : BoundTemplate}
    (h : ofTemplate template params entity dialect = .ok bound) :
    bound.returnsRows = true ↔ SayRows (wordsOutside LexState.hides template.toList) := by
  obtain ⟨pieces, used, hpieces, -, -, rfl⟩ := ofTemplate_eq_ok h
  rw [← words_mask hpieces]
  exact producesRows_iff _

/-- Only the last word counts: the others of its kind are in comments, quotes and a placeholder. -/
def Accounts.returningTemplate : String :=
  "/* select */ UPDATE accounts SET owner = 'returning \x7b\x7b' WHERE id = \x7bid\x7d -- it''s\n RETURNING owner"

theorem BoundTemplate.returnsRows_iff_accounts :
    ∃ bound, ofTemplate Accounts.returningTemplate Accounts.find.params Accounts.entity
        .postgres = .ok bound ∧
      wordsOutside LexState.hides Accounts.returningTemplate.toList =
        ["UPDATE", "accounts", "SET", "owner", "WHERE", "id", "RETURNING", "owner"].map
          String.toList ∧
      (bound.returnsRows = true ↔
        SayRows (wordsOutside LexState.hides Accounts.returningTemplate.toList)) := by
  have hbound : ofTemplate Accounts.returningTemplate Accounts.find.params Accounts.entity
      .postgres = .ok {
        sql :=
          "/* select */ UPDATE accounts SET owner = 'returning \x7b' WHERE id = $1 -- it''s\n RETURNING owner"
        binds := [1]
        returnsRows := true
        unused := ["owner"] } := by
    decide +kernel
  exact ⟨_, hbound, by decide +kernel, returnsRows_iff hbound⟩

/-- A column of that name is enough, although double quotes enclose it. -/
theorem BoundTemplate.returnsRows_accounts_of_quoted :
    let template := "UPDATE accounts SET owner = \x7bowner\x7d WHERE \"returning\" = 1"
    ofTemplate template Accounts.find.params Accounts.entity .postgres = .ok {
        sql := "UPDATE accounts SET owner = $1 WHERE \"returning\" = 1"
        binds := [0]
        returnsRows := true
        unused := ["id"] } ∧
      ¬ SayRows (wordsOutside (· != .code) template.toList) := by
  intro template
  exact ⟨by decide +kernel, by decide +kernel⟩

end QueryMethods

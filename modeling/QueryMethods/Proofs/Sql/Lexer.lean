import QueryMethods.Template.Piece

/-!
# Reading SQL text

A reader of SQL text is in code, between quotes or in a comment. Between quotes, a doubled quote is
part of the quoted text and a single one ends it. A line comment goes on to the end of the line, a
block comment to the first mark that ends one.
-/

namespace QueryMethods

inductive LexState where
  | code
  /-- Between single quotes, or between double ones. -/
  | quoted (quote : Char)
  | lineComment
  | blockComment
deriving DecidableEq

/-- The state of a reader before each character of a text. -/
def lexStates : LexState → List Char → List LexState
  | _, [] => []
  | .code, '-' :: '-' :: rest => .code :: .lineComment :: lexStates .lineComment rest
  | .code, '/' :: '*' :: rest => .code :: .blockComment :: lexStates .blockComment rest
  | .code, c :: rest => .code :: lexStates (if isQuote c then .quoted c else .code) rest
  | .quoted quote, c :: next :: rest =>
      if c = quote ∧ next = quote then
        .quoted quote :: .quoted quote :: lexStates (.quoted quote) rest
      else
        .quoted quote :: lexStates (if c = quote then .code else .quoted quote) (next :: rest)
  | .quoted quote, [_] => [.quoted quote]
  | .lineComment, c :: rest =>
      .lineComment :: lexStates (if c = '\n' then .code else .lineComment) rest
  | .blockComment, '*' :: '/' :: rest => .blockComment :: .blockComment :: lexStates .code rest
  | .blockComment, _ :: rest => .blockComment :: lexStates .blockComment rest

attribute [local simp] lexStates in
theorem length_lexStates (state : LexState) (text : List Char) :
    (lexStates state text).length = text.length := by
  fun_induction lexStates state text <;> simp_all

example :
    lexStates .code "a'b''c'--'".toList =
      [.code, .code, .quoted '\'', .quoted '\'', .quoted '\'', .quoted '\'', .quoted '\'', .code,
        .lineComment, .lineComment] := by
  decide

theorem lexStates_code_cons {c : Char} {rest : List Char}
    (hline : c = '-' → rest.head? ≠ some '-') (hblock : c = '/' → rest.head? ≠ some '*') :
    lexStates .code (c :: rest) =
      .code :: lexStates (if isQuote c then .quoted c else .code) rest := by
  rw [lexStates]
  · rintro after rfl rfl
    exact hline rfl rfl
  · rintro after rfl rfl
    exact hblock rfl rfl

theorem lexStates_code_quote {quote : Char} (hquote : isQuote quote = true) (rest : List Char) :
    lexStates .code (quote :: rest) = .code :: lexStates (.quoted quote) rest := by
  have hline : quote ≠ '-' := by rintro rfl; cases hquote
  have hblock : quote ≠ '/' := by rintro rfl; cases hquote
  rw [lexStates_code_cons (fun h => absurd h hline) (fun h => absurd h hblock), if_pos hquote]

theorem lexStates_lineComment_cons (c : Char) (rest : List Char) :
    lexStates .lineComment (c :: rest) =
      .lineComment :: lexStates (if c = '\n' then .code else .lineComment) rest := by
  rw [lexStates]

theorem lexStates_blockComment_cons {c : Char} {rest : List Char}
    (hc : c = '*' → rest.head? ≠ some '/') :
    lexStates .blockComment (c :: rest) = .blockComment :: lexStates .blockComment rest := by
  rw [lexStates]
  rintro after rfl rfl
  exact hc rfl rfl

theorem lexStates_quoted_cons {quote c : Char} (hc : c ≠ quote) (rest : List Char) :
    lexStates (.quoted quote) (c :: rest) = .quoted quote :: lexStates (.quoted quote) rest := by
  cases rest with
  | nil => simp [lexStates]
  | cons next rest => simp [lexStates, hc]

/-- A quote ends the quoted text if no second one follows. -/
theorem lexStates_quoted_end {quote : Char} {rest : List Char} (hrest : rest.head? ≠ some quote) :
    lexStates (.quoted quote) (quote :: rest) = .quoted quote :: lexStates .code rest := by
  cases rest with
  | nil => simp [lexStates]
  | cons next rest =>
      have hnext : next ≠ quote := fun h => hrest (congrArg some h)
      simp [lexStates, hnext]

theorem lexStates_quoted_doubled (quote : Char) (rest : List Char) :
    lexStates (.quoted quote) (quote :: quote :: rest) =
      .quoted quote :: .quoted quote :: lexStates (.quoted quote) rest := by
  simp [lexStates]

/-- Text without the quote leaves the reader between quotes. -/
theorem lexStates_quoted_append {quote : Char} {text : List Char} (htext : quote ∉ text)
    (rest : List Char) :
    lexStates (.quoted quote) (text ++ rest) =
      List.replicate text.length (.quoted quote) ++ lexStates (.quoted quote) rest := by
  induction text with
  | nil => rfl
  | cons c text ih =>
      obtain ⟨hne, hlater⟩ := List.ne_and_not_mem_of_not_mem_cons htext
      rw [List.cons_append, lexStates_quoted_cons hne.symm, ih hlater, List.length_cons,
        List.replicate_succ, List.cons_append]

theorem eq_of_head?_lexStates {state found : LexState} {text : List Char}
    (h : (lexStates state text).head? = some found) : found = state := by
  unfold lexStates at h
  repeat' split at h
  all_goals simp_all

/-- No such character begins or ends a quoted text or a comment. -/
def isInert (c : Char) : Bool :=
  !isQuote c && c != '-' && c != '/' && c != '*'

theorem isInert_of_isWordChar {c : Char} (h : isWordChar c = true) : isInert c = true := by
  have hne {d : Char} : isWordChar d = false → c ≠ d := ne_of_isWordChar h
  simp only [isInert, isQuote, Bool.and_eq_true, Bool.not_eq_true', Bool.or_eq_false_iff,
    beq_eq_false_iff_ne, bne_iff_ne]
  exact ⟨⟨⟨⟨hne rfl, hne rfl⟩, hne rfl⟩, hne rfl⟩, hne rfl⟩

theorem isInert_of_isDigit {c : Char} (h : c.isDigit = true) : isInert c = true :=
  isInert_of_isWordChar (by simp [isWordChar, Char.isAlphanum, h])

theorem lexStates_code_inert {c : Char} (hc : isInert c = true) (rest : List Char) :
    lexStates .code (c :: rest) = .code :: lexStates .code rest := by
  simp only [isInert, Bool.and_eq_true, Bool.not_eq_true', bne_iff_ne] at hc
  obtain ⟨⟨⟨hquote, hline⟩, hblock⟩, _⟩ := hc
  rw [lexStates_code_cons (fun h => absurd h hline) (fun h => absurd h hblock), if_neg]
  simp [hquote]

/-- Inert text leaves the reader in code. -/
theorem lexStates_code_append {text : List Char} (htext : text.all isInert = true)
    (rest : List Char) :
    lexStates .code (text ++ rest) =
      List.replicate text.length .code ++ lexStates .code rest := by
  induction text with
  | nil => rfl
  | cons c text ih =>
      rw [List.all_cons, Bool.and_eq_true] at htext
      rw [List.cons_append, lexStates_code_inert htext.1, ih htext.2, List.length_cons,
        List.replicate_succ, List.cons_append]

def LexState.Proper (state : LexState) : Prop :=
  ∀ quote, state = .quoted quote → isQuote quote = true

/-- Two characters that the reader takes together, with its states before the second one and
after it. -/
inductive Paired : Char → Char → LexState → LexState → Prop where
  | lineStart : Paired '-' '-' .lineComment .lineComment
  | blockStart : Paired '/' '*' .blockComment .blockComment
  | blockEnd : Paired '*' '/' .blockComment .code
  | doubled {quote : Char} (hquote : isQuote quote = true) :
      Paired quote quote (.quoted quote) (.quoted quote)

theorem Paired.proper {c d : Char} {inside next : LexState} (h : Paired c d inside next) :
    next.Proper := by
  cases h with
  | doubled hquote =>
      rintro _ ⟨⟩
      exact hquote
  | lineStart | blockStart | blockEnd => exact nofun

/-- The reader takes one character or two. -/
theorem lexStates_cons {state : LexState} (hstate : state.Proper) (c : Char) (rest : List Char) :
    (∃ next, next.Proper ∧ lexStates state (c :: rest) = state :: lexStates next rest) ∨
      ∃ d later inside next, rest = d :: later ∧ Paired c d inside next ∧
        lexStates state (c :: rest) = state :: inside :: lexStates next later := by
  have hcode : LexState.code.Proper := nofun
  cases state with
  | code =>
      by_cases hline : c = '-' ∧ rest.head? = some '-'
      · obtain ⟨later, rfl⟩ := List.head?_eq_some_iff.mp hline.2
        obtain rfl := hline.1
        exact .inr ⟨_, later, _, _, rfl, .lineStart, by rw [lexStates]⟩
      by_cases hblock : c = '/' ∧ rest.head? = some '*'
      · obtain ⟨later, rfl⟩ := List.head?_eq_some_iff.mp hblock.2
        obtain rfl := hblock.1
        exact .inr ⟨_, later, _, _, rfl, .blockStart, by rw [lexStates]⟩
      refine .inl ⟨_, ?_, lexStates_code_cons (not_and.mp hline) (not_and.mp hblock)⟩
      split
      · rintro _ ⟨⟩
        assumption
      · exact hcode
  | quoted quote =>
      by_cases hc : c = quote
      · subst hc
        by_cases hhead : rest.head? = some c
        · obtain ⟨later, rfl⟩ := List.head?_eq_some_iff.mp hhead
          exact .inr ⟨c, later, _, _, rfl, .doubled (hstate c rfl), lexStates_quoted_doubled c later⟩
        · exact .inl ⟨_, hcode, lexStates_quoted_end hhead⟩
      · exact .inl ⟨_, hstate, lexStates_quoted_cons hc rest⟩
  | lineComment =>
      refine .inl ⟨_, ?_, lexStates_lineComment_cons c rest⟩
      split <;> exact nofun
  | blockComment =>
      by_cases hend : c = '*' ∧ rest.head? = some '/'
      · obtain ⟨later, rfl⟩ := List.head?_eq_some_iff.mp hend.2
        obtain rfl := hend.1
        exact .inr ⟨_, later, _, _, rfl, .blockEnd, by rw [lexStates]⟩
      · exact .inl ⟨_, hstate, lexStates_blockComment_cons (not_and.mp hend)⟩

/-- From any place on, the reader goes on in one state, or that place stands between two characters
that it takes together. -/
theorem drop_lexStates {state : LexState} (hstate : state.Proper) (before rest : List Char) :
    (∃ next, next.Proper ∧
        (lexStates state (before ++ rest)).drop before.length = lexStates next rest) ∨
      ∃ front c d later inside next, before = front ++ [c] ∧ rest = d :: later ∧
        Paired c d inside next ∧
        (lexStates state (before ++ rest)).drop before.length =
          inside :: lexStates next later := by
  induction hlength : before.length using Nat.strongRecOn generalizing state before with
  | ind length ih =>
      subst hlength
      match before with
      | [] => exact .inl ⟨state, hstate, rfl⟩
      | c :: before =>
          rcases lexStates_cons hstate c (before ++ rest) with
            ⟨next, hnext, hstep⟩ | ⟨d, later, inside, next, hrest, hpaired, hstep⟩
          · rw [List.cons_append, hstep, List.length_cons, List.drop_succ_cons]
            rcases ih _ (Nat.lt_succ_self _) hnext before rfl with
              hsame | ⟨front, a, b, later, inside, found, rfl, rfl, hpaired, hdrop⟩
            · exact .inl hsame
            · exact .inr ⟨c :: front, a, b, later, inside, found, rfl, rfl, hpaired, hdrop⟩
          · rw [List.cons_append, hstep, List.length_cons, List.drop_succ_cons]
            cases before with
            | nil => exact .inr ⟨[], c, d, later, inside, next, rfl, hrest, hpaired, rfl⟩
            | cons first before =>
                obtain ⟨rfl, rfl⟩ := List.cons.inj hrest
                rw [List.length_cons, List.drop_succ_cons]
                rcases ih before.length (by grind) hpaired.proper before rfl with
                  hsame | ⟨front, a, b, later, inside, found, rfl, rfl, hlater, hdrop⟩
                · exact .inl hsame
                · exact .inr ⟨c :: first :: front, a, b, later, inside, found, rfl, rfl, hlater,
                    hdrop⟩

/-- Neither a quote nor a part of a mark changes the reader's state. -/
theorem eq_of_lexStates_inert {before rest : List Char} {c : Char} {state next : LexState}
    (hc : isInert c = true) (hline : c ≠ '\n')
    (hstate : (lexStates .code (before ++ c :: rest))[before.length]? = some state)
    (hnext : (lexStates .code (before ++ c :: rest))[before.length + 1]? = some next) :
    next = state := by
  rw [← List.getElem?_drop] at hnext
  rw [← Nat.add_zero before.length, ← List.getElem?_drop] at hstate
  rcases @drop_lexStates .code nofun before (c :: rest) with
    ⟨found, hfound, hdrop⟩ | ⟨front, b, d, later, inside, found, -, hrest, hpaired, -⟩
  · have hstep : lexStates found (c :: rest) = found :: lexStates found rest := by
      cases found with
      | code => exact lexStates_code_inert hc rest
      | quoted quote =>
          refine lexStates_quoted_cons ?_ rest
          rintro rfl
          rw [isInert, hfound c rfl] at hc
          cases hc
      | lineComment => rw [lexStates_lineComment_cons, if_neg hline]
      | blockComment =>
          refine lexStates_blockComment_cons ?_
          rintro rfl
          cases hc
    rw [hdrop, hstep] at hstate hnext
    obtain rfl := Option.some.inj hstate
    rw [List.getElem?_cons_succ, ← List.head?_eq_getElem?] at hnext
    exact eq_of_head?_lexStates hnext
  · obtain ⟨rfl, rfl⟩ := List.cons.inj hrest
    cases hpaired with
    | doubled hquote =>
        rw [isInert, hquote] at hc
        cases hc
    | lineStart | blockStart | blockEnd => cases hc

/-- A quote between quotes, with quoted text and no second quote behind it, has one before it. -/
theorem exists_of_lexStates_quoted {before rest : List Char} {quote other c : Char} (hc : c ≠ quote)
    (hstate : (lexStates .code (before ++ quote :: c :: rest))[before.length]? =
      some (.quoted other))
    (hnext : (lexStates .code (before ++ quote :: c :: rest))[before.length + 1]? =
      some (.quoted quote)) :
    ∃ front, before = front ++ [quote] := by
  rw [← List.getElem?_drop] at hnext
  rw [← Nat.add_zero before.length, ← List.getElem?_drop] at hstate
  rcases @drop_lexStates .code nofun before (quote :: c :: rest) with
    ⟨found, -, hdrop⟩ | ⟨front, a, b, later, inside, found, rfl, hrest, hpaired, hdrop⟩
  · rw [hdrop] at hstate hnext
    rw [← List.head?_eq_getElem?] at hstate
    have hfound := eq_of_head?_lexStates hstate
    have hhead : (c :: rest).head? ≠ some quote := fun h => hc (Option.some.inj h)
    by_cases hother : quote = other
    · rw [← hfound, ← hother, lexStates_quoted_end hhead, List.getElem?_cons_succ,
        ← List.head?_eq_getElem?] at hnext
      cases eq_of_head?_lexStates hnext
    · rw [← hfound, lexStates_quoted_cons hother, List.getElem?_cons_succ,
        ← List.head?_eq_getElem?] at hnext
      injection eq_of_head?_lexStates hnext with heq
      exact absurd heq hother
  · rw [hdrop] at hstate
    obtain rfl := Option.some.inj hstate
    obtain ⟨rfl, -⟩ := List.cons.inj hrest
    cases hpaired with
    | doubled hquote => exact ⟨front, rfl⟩

end QueryMethods

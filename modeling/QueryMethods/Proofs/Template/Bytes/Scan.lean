import QueryMethods.Proofs.Template.Bytes.Marks
import QueryMethods.Proofs.Template.Cuts

/-!
# A whole scan of bytes

Between two pieces of the template the scanner remembers all that matters: the quote that is open.
So it comes to the end of every template, and finds what the pieces of the template show.
-/

namespace QueryMethods.Bytes

theorem Scan.length_masked_addAll (found : Scan) (place : Nat) (pieces : List Piece) :
    (found.addAll place pieces).masked.length =
      found.masked.length + byteLength (pieces.flatMap Piece.source) := by
  induction pieces generalizing found place with
  | nil => rfl
  | cons piece pieces ih =>
      rw [addAll, ih, add, List.length_append, Piece.length_shown, List.flatMap_cons,
        byteLength_append, Piece.width, Nat.add_assoc]

namespace Scanner

/-- The text begins with a placeholder, and the quote after it. -/
def Fills (quote : Char) (text : List Char) : Prop :=
  ∃ name after, text = '{' :: (name ++ '}' :: quote :: after) ∧ opensPlaceholder text = true ∧
    cutAt? ['}'] (name ++ '}' :: quote :: after) = some (name, quote :: after) ∧
    isIdentifier name = true

/-- Where the scanner stands between two pieces. -/
structure Between (text before rest : List Char) (quote? : Option Char) (found : Scan) :
    Prop where
  text_eq : text = before ++ rest
  masked_length : found.masked.length = byteLength before
  isQuote : ∀ quote ∈ quote?, isQuote quote = true
  /-- A literal that a placeholder fills has not been opened. -/
  apart : ∀ quote ∈ quote?, before.getLast? = some quote → ¬ Fills quote rest

variable {text before rest name after : List Char} {c quote : Char} {quote? : Option Char}
  {found : Scan}

theorem Between.next (taken : List Char) (h : Between text before (taken ++ rest) quote? found)
    (pieces : List Piece) (next? : Option Char)
    (hsource : pieces.flatMap Piece.source = taken)
    (hquote : ∀ quote ∈ next?, QueryMethods.isQuote quote = true)
    (hapart : ∀ quote ∈ next?, (before ++ taken).getLast? = some quote → ¬ Fills quote rest) :
    Between text (before ++ taken) rest next? (found.addAll (byteLength before) pieces) where
  text_eq := by rw [h.text_eq, List.append_assoc]
  masked_length := by
    rw [Scan.length_masked_addAll, hsource, h.masked_length, byteLength_append]
  isQuote := hquote
  apart := hapart

/-- Behind such pieces no literal is open. -/
theorem Between.next_code (taken : List Char)
    (h : Between text before (taken ++ rest) quote? found) (pieces : List Piece)
    (hsource : pieces.flatMap Piece.source = taken) :
    Between text (before ++ taken) rest none (found.addAll (byteLength before) pieces) :=
  h.next taken pieces none hsource isQuote_of_mem_none (by rintro _ ⟨⟩)

theorem eq_of_cut (hcut : cutAt? ['}'] rest = some (name, after)) :
    rest = name ++ '}' :: after := by
  rw [eq_of_cutAt? hcut]
  simp

/-- A quote before a placeholder that does not fill the literal opens a literal, and it is only
there that the placeholder is refused. -/
theorem scan_code_quote_of_not_fills (offset : Nat) (hc : isQuote c = true)
    (hfills : ¬ Fills c rest) :
    scan .code offset (c :: rest) =
      (scan (.literal c) (offset + 1) rest).map (.code c :: ·) := by
  rw [scan_code_quote offset hc]
  by_cases hopen : opensPlaceholder rest = true
  · rw [if_pos hopen]
    obtain ⟨inner, rfl, -⟩ := opensPlaceholder_iff.mp hopen
    rw [scan_literal_open _ _ hopen, List.tail_cons, scan_name_nil, scan_name_nil]
    cases hcut : cutAt? ['}'] inner with
    | none => rfl
    | some cut =>
        obtain ⟨name, after⟩ := cut
        obtain rfl := eq_of_cut hcut
        simp only
        by_cases hname : isIdentifier name = true
        · rw [if_pos hname, if_pos hname]
          cases after with
          | nil => rfl
          | cons d after =>
              have hd : d ≠ c := by
                rintro rfl
                exact hfills ⟨name, after, rfl, hopen, hcut, hname⟩
              rw [scanClosed, if_neg hd]
              rfl
        · rw [if_neg hname, if_neg hname]
          rfl
  · rw [if_neg hopen]

theorem Between.runs_embedded (h : Between text before ('{' :: rest) (some quote) found)
    (hopen : opensPlaceholder ('{' :: rest) = true) :
    Runs text before ('{' :: rest) (some quote) found := by
  have hstep := step?_of_open (some quote) (found.extend ('{' :: rest)) h.text_eq hopen h.isQuote
  have hscan : scan (regionOf (some quote)) (byteLength before) ('{' :: rest) = _ :=
    (scan_literal_open (byteLength before) quote hopen).trans (scan_name_nil ..)
  cases hcut : cutAt? ['}'] rest with
  | none =>
      rw [placeholder?_of_unterminated h.text_eq rfl hcut] at hstep
      rw [hcut] at hscan
      exact Runs.refuse h.text_eq hstep hscan
  | some cut =>
      obtain ⟨name, after⟩ := cut
      obtain rfl := eq_of_cut hcut
      rw [placeholder?_of_closed (some quote) h.text_eq rfl rfl h.isQuote hcut] at hstep
      rw [hcut] at hscan
      simp only at hscan
      by_cases hname : isIdentifier name = true
      · have hwrapped : ¬ (before.getLast? = some quote ∧ after.head? = some quote) := by
          rintro ⟨hlast, hhead⟩
          obtain ⟨later, rfl⟩ := List.head?_eq_some_iff.mp hhead
          exact h.apart quote rfl hlast ⟨name, later, rfl, hopen, hcut, hname⟩
        rw [if_pos hname] at hscan hstep
        simp only [if_neg hwrapped] at hstep
        exact Runs.refuse h.text_eq hstep hscan
      · rw [if_neg hname] at hscan hstep
        exact Runs.refuse h.text_eq hstep hscan

/-- Every run from a later place, as far as it is known. -/
def RunsAfter (text rest : List Char) : Prop :=
  ∀ before' rest' quote? found, rest'.length ≤ rest.length →
    Between text before' rest' quote? found → Runs text before' rest' quote? found

theorem Between.runs_brace (h : Between text before (c :: c :: rest) quote? found)
    (hc : c = '{' ∨ c = '}') (hlater : RunsAfter text (c :: rest)) :
    Runs text before (c :: c :: rest) quote? found := by
  have hnext : Between text (before ++ [c, c]) rest quote? _ :=
    h.next [c, c] [.brace c] quote? rfl h.isQuote (by
      intro quote hquote hlast
      have hisQuote := h.isQuote quote hquote
      simp only [List.getLast?_append, List.getLast?_cons_cons, List.getLast?_singleton,
        Option.some_or, Option.some.injEq] at hlast
      subst hlast
      rcases hc with rfl | rfl <;> cases hisQuote)
  have hscan : scan (regionOf quote?) (byteLength before) (c :: c :: rest) =
      (scan (regionOf quote?) (byteLength before + 2) rest).map (.brace c :: ·) := by
    rcases hc with rfl | rfl <;> cases quote? <;> simp [regionOf, scan]
  exact Runs.brace h.text_eq h.masked_length h.isQuote hc hscan
    (hlater _ _ _ _ (by simp) hnext)

theorem Between.runs_literal (h : Between text before (c :: rest) (some quote) found)
    (hlater : RunsAfter text rest) : Runs text before (c :: rest) (some quote) found := by
  have hquote : QueryMethods.isQuote quote = true := h.isQuote quote rfl
  have hquotes : quote = '\'' ∨ quote = '"' := by simpa [QueryMethods.isQuote] using hquote
  by_cases hopen : c = '{' ∧ rest.head? ≠ some '{'
  · obtain ⟨rfl, hhead⟩ := hopen
    exact h.runs_embedded (opensPlaceholder_iff.mpr ⟨_, rfl, hhead⟩)
  by_cases hbrace : (c = '{' ∨ c = '}') ∧ rest.head? = some c
  · obtain ⟨hc, hhead⟩ := hbrace
    obtain ⟨after, rfl⟩ := List.head?_eq_some_iff.mp hhead
    exact h.runs_brace hc hlater
  have hne : c ≠ '{' := fun hc => hopen ⟨hc, fun hhead => hbrace ⟨.inl hc, hc ▸ hhead⟩⟩
  have hclose : c = '}' → rest.head? ≠ some '}' := fun hc hhead => hbrace ⟨.inr hc, hc ▸ hhead⟩
  have hscan := scan_literal_plain (byteLength before) quote hne hclose
  by_cases hc : c = quote
  · subst hc
    have hpiece : literalPiece c c = .code c := by simp [literalPiece]
    have hsize := utf8Size_of_isQuote hquote
    have hmove : Move.ofChar c rest.head? (some c) = .quote := by
      rcases hquotes with rfl | rfl <;> simp [Move.ofChar]
    have hnext : Between text (before ++ [c]) rest none _ :=
      h.next_code [c] [.code c] rfl
    rw [if_pos rfl, hpiece, hsize] at hscan
    exact Runs.quote h.text_eq h.isQuote hmove rfl hquote hscan
      (hlater _ _ _ _ (Nat.le_refl _) hnext)
  · have hother : quote ≠ c := fun heq => hc heq.symm
    have hmove : Move.ofChar c rest.head? (some quote) = .plain := by
      have hdouble : ¬ (c = '}' ∧ rest.head? = some c) := fun hand => hbrace ⟨.inr hand.1, hand.2⟩
      simp [Move.ofChar, hdouble, hother, hne]
    have hnext : Between text (before ++ [c]) rest (some quote) _ :=
      h.next [c] [literalPiece quote c] _
        (by simp [source_literalPiece]) h.isQuote (by
          rintro _ ⟨⟩ hlast
          simp only [List.getLast?_append, List.getLast?_singleton, Option.some_or,
            Option.some.injEq] at hlast
          exact absurd hlast hc)
    rw [if_neg hc] at hscan
    refine Runs.plain h.text_eq h.masked_length h.isQuote hmove ?_ hscan
      (hlater _ _ _ _ (Nat.le_refl _) hnext)
    simp [literalPiece, hc]

theorem Between.runs_quote (h : Between text before (c :: rest) none found)
    (hc : QueryMethods.isQuote c = true) (hlater : RunsAfter text rest) :
    Runs text before (c :: rest) none found := by
  have hcases : c = '\'' ∨ c = '"' := by simpa [QueryMethods.isQuote] using hc
  by_cases hfills : Fills c rest
  · obtain ⟨name, after, rfl, hopen, hcut, hname⟩ := hfills
    have hsource : c :: '{' :: (name ++ '}' :: c :: after) =
        (Piece.placeholder (String.ofList name) (some c)).source ++ after := by
      simp [Piece.source]
    have hnext := (hsource ▸ h).next_code _ [.placeholder (String.ofList name) (some c)]
      (List.flatMap_singleton ..)
    refine Runs.filled h.text_eq h.masked_length hc hopen hcut hname (hlater _ _ _ _ ?_ hnext)
    simp only [List.length_cons, List.length_append]
    omega
  · have hmove : Move.ofChar c rest.head? none = .quote := by
      rcases hcases with rfl | rfl <;> simp [Move.ofChar]
    have hnext : Between text (before ++ [c]) rest (some c) _ :=
      h.next [c] [.code c] _ rfl
        (by rintro _ ⟨⟩; exact hc) (by rintro _ ⟨⟩ -; exact hfills)
    exact Runs.quote h.text_eq isQuote_of_mem_none hmove rfl hc
      (scan_code_quote_of_not_fills _ hc hfills) (hlater _ _ _ _ (Nat.le_refl _) hnext)

theorem Between.runs_open (h : Between text before ('{' :: rest) none found)
    (hopen : opensPlaceholder ('{' :: rest) = true) (hlater : RunsAfter text rest) :
    Runs text before ('{' :: rest) none found := by
  have hstep := step?_of_open none (found.extend ('{' :: rest)) h.text_eq hopen isQuote_of_mem_none
  have hscan : scan (regionOf none) (byteLength before) ('{' :: rest) = _ :=
    (scan_code_open (byteLength before) hopen).trans (scan_name_nil ..)
  cases hcut : cutAt? ['}'] rest with
  | none =>
      rw [placeholder?_of_unterminated h.text_eq rfl hcut] at hstep
      rw [hcut] at hscan
      exact Runs.refuse h.text_eq hstep hscan
  | some cut =>
      obtain ⟨name, after⟩ := cut
      obtain rfl := eq_of_cut hcut
      by_cases hname : isIdentifier name = true
      · have hsource : '{' :: (name ++ '}' :: after) =
            (Piece.placeholder (String.ofList name) none).source ++ after := by
          simp [Piece.source]
        have hnext := (hsource ▸ h).next_code _ [.placeholder (String.ofList name) none]
          (List.flatMap_singleton ..)
        refine Runs.bare h.text_eq h.masked_length hopen hcut hname (hlater _ _ _ _ ?_ hnext)
        simp only [List.length_cons, List.length_append]
        omega
      · rw [placeholder?_of_closed none h.text_eq rfl rfl isQuote_of_mem_none hcut,
          if_neg hname] at hstep
        rw [hcut] at hscan
        simp only [if_neg hname] at hscan
        exact Runs.refuse h.text_eq hstep hscan

theorem Between.runs_lineComment (h : Between text before ('-' :: '-' :: rest) none found)
    (hlater : RunsAfter text rest) : Runs text before ('-' :: '-' :: rest) none found := by
  have hsplit : '-' :: '-' :: rest =
      '-' :: '-' :: rest.takeWhile (· != '\n') ++ rest.dropWhile (· != '\n') := by
    rw [List.cons_append, List.cons_append, List.takeWhile_append_dropWhile]
  have hscan := scan_code_lineComment (byteLength before) rest
  have hstep := fun found => step?_of_lineComment found h.text_eq
  have hlength : (rest.dropWhile (· != '\n')).length ≤ rest.length :=
    (List.dropWhile_suffix _).length_le
  rw [hsplit] at h hscan ⊢
  exact Runs.comment h.text_eq (List.cons_ne_nil _ _) h.masked_length hstep hscan
    (hlater _ _ _ _ hlength (h.next_code _ _ (source_hiddenPieces _)))

theorem Between.runs_blockComment (h : Between text before ('/' :: '*' :: rest) none found)
    (hlater : RunsAfter text rest) : Runs text before ('/' :: '*' :: rest) none found := by
  have hscan := scan_code_blockComment (byteLength before) rest
  have hstep := fun found => step?_of_blockComment found h.text_eq
  cases hcut : cutAt? ['*', '/'] rest with
  | none =>
      rw [hcut] at hscan hstep
      rw [← List.append_nil ('/' :: '*' :: rest)] at h hscan ⊢
      refine Runs.comment h.text_eq (List.cons_ne_nil _ _) h.masked_length hstep ?_
        (hlater _ _ _ _ (Nat.zero_le _) (h.next_code _ _ (source_hiddenPieces _)))
      rw [hscan]
      simp [scan, Except.map]
  | some cut =>
      obtain ⟨inside, after⟩ := cut
      have hrest := eq_of_cutAt? hcut
      have hsplit : '/' :: '*' :: rest = '/' :: '*' :: (inside ++ ['*', '/']) ++ after := by
        rw [hrest]
        rfl
      have hlength : after.length ≤ rest.length := by
        rw [hrest, List.length_append]
        exact Nat.le_add_left _ _
      rw [hcut] at hscan hstep
      rw [hsplit] at h hscan ⊢
      exact Runs.comment h.text_eq (List.cons_ne_nil _ _) h.masked_length hstep hscan
        (hlater _ _ _ _ hlength (h.next_code _ _ (source_hiddenPieces _)))

theorem Between.runs_code (h : Between text before (c :: rest) none found)
    (hlater : RunsAfter text rest) : Runs text before (c :: rest) none found := by
  by_cases hopen : c = '{' ∧ rest.head? ≠ some '{'
  · obtain ⟨rfl, hhead⟩ := hopen
    exact h.runs_open (opensPlaceholder_iff.mpr ⟨_, rfl, hhead⟩) hlater
  by_cases hbrace : (c = '{' ∨ c = '}') ∧ rest.head? = some c
  · obtain ⟨hc, hhead⟩ := hbrace
    obtain ⟨after, rfl⟩ := List.head?_eq_some_iff.mp hhead
    exact h.runs_brace hc hlater
  by_cases hquote : QueryMethods.isQuote c = true
  · exact h.runs_quote hquote hlater
  by_cases hline : c = '-' ∧ rest.head? = some '-'
  · obtain ⟨rfl, hhead⟩ := hline
    obtain ⟨after, rfl⟩ := List.head?_eq_some_iff.mp hhead
    exact h.runs_lineComment fun _ _ _ _ hle => hlater _ _ _ _ (Nat.le_succ_of_le hle)
  by_cases hblock : c = '/' ∧ rest.head? = some '*'
  · obtain ⟨rfl, hhead⟩ := hblock
    obtain ⟨after, rfl⟩ := List.head?_eq_some_iff.mp hhead
    exact h.runs_blockComment fun _ _ _ _ hle => hlater _ _ _ _ (Nat.le_succ_of_le hle)
  have hne : c ≠ '{' := fun hc => hopen ⟨hc, fun hhead => hbrace ⟨.inl hc, hc ▸ hhead⟩⟩
  have hclose : c = '}' → rest.head? ≠ some '}' := fun hc hhead => hbrace ⟨.inr hc, hc ▸ hhead⟩
  have hmove : Move.ofChar c rest.head? none = .plain := by
    have hquotes : ¬ (c = '\'' ∨ c = '"') := by simpa [QueryMethods.isQuote] using hquote
    simp only [Move.ofChar, true_and, true_or, and_true]
    rw [if_neg hline, if_neg hblock, if_neg hquotes, if_neg hbrace, if_neg hne]
  have hnext : Between text (before ++ [c]) rest none _ :=
    h.next_code [c] [.code c] rfl
  exact Runs.plain h.text_eq h.masked_length isQuote_of_mem_none hmove rfl
    (scan_code_plain _ (Bool.eq_false_iff.mpr hquote) hne hclose (fun hc hhead => hline ⟨hc, hhead⟩)
      (fun hc hhead => hblock ⟨hc, hhead⟩))
    (hlater _ _ _ _ (Nat.le_refl _) hnext)

theorem Between.runs (h : Between text before rest quote? found) :
    Runs text before rest quote? found := by
  -- a comment or a placeholder is passed as a whole, so the rest may get shorter by any number
  induction hlength : rest.length using Nat.strongRecOn generalizing before rest quote? found with
  | ind n ih =>
      cases rest with
      | nil => exact Runs.nil (by simpa using h.text_eq)
      | cons c rest =>
          have hlater : RunsAfter text rest := by
            intro before' rest' quote?' found' hle hbetween
            refine ih rest'.length ?_ hbetween rfl
            rw [← hlength, List.length_cons]
            omega
          cases quote? with
          | none => exact h.runs_code hlater
          | some quote => exact h.runs_literal hlater

end Scanner

/-- A scan of bytes comes to an end on every template, and finds what its pieces show. -/
theorem scan?_eq (text : List Char) :
    scan? text = some ((piecesOf text).map (Scan.addAll { masked := [] } 0)) := by
  have hstart : Scanner.Between text [] text none { masked := [] } :=
    ⟨rfl, rfl, Scanner.isQuote_of_mem_none, by rintro _ ⟨⟩⟩
  exact hstart.runs (byteLength text) (Nat.le_refl _)

end QueryMethods.Bytes

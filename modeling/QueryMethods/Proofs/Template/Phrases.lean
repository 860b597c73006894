import QueryMethods.Proofs.Template.Arguments
import QueryMethods.Proofs.Template.Comments
import QueryMethods.Proofs.Template.Mismatches

/-!
# Comparisons in the text of a template

Text that stands in code is cut by itself, whatever comes before it and after it. So a comparison
written out in front of a placeholder, with any blanks and comments in between, is found by the
checks.
-/

namespace QueryMethods

/-- Blanks and comments. -/
inductive IsGap : List Char → Prop where
  | nil : IsGap []
  | blank {c : Char} {rest : List Char} (hc : isBlank c = true) (hrest : IsGap rest) :
      IsGap (c :: rest)
  | lineComment {text rest : List Char} (htext : '\n' ∉ text) (hrest : IsGap rest) :
      IsGap ('-' :: '-' :: (text ++ '\n' :: rest))
  | blockComment {text rest : List Char} (htext : occursIn ['*', '/'] text = false)
      (hrest : IsGap rest) : IsGap ('/' :: '*' :: (text ++ '*' :: '/' :: rest))

def IsWord (text : List Char) : Prop :=
  text ≠ [] ∧ text.all isWordChar = true

/-- A column name, perhaps with a qualifier before it or double quotes around it. -/
structure ColumnReference where
  qualifier : Option (List Char) := none
  name : List Char
  quoted : Bool := false
  isWord_qualifier : ∀ word ∈ qualifier, IsWord word
  isWord_name : IsWord name

namespace ColumnReference

/-- The qualifier with its dot. -/
def front (reference : ColumnReference) : List Char :=
  reference.qualifier.elim [] (· ++ ['.'])

def back (reference : ColumnReference) : List Char :=
  if reference.quoted then '"' :: (reference.name ++ ['"']) else reference.name

def text (reference : ColumnReference) : List Char :=
  reference.front ++ reference.back

end ColumnReference

/-- What stands before a placeholder that is compared with a column. -/
structure Comparison where
  before : List Char
  reference : ColumnReference
  gap : List Char
  operator : List Char
  gapAfter : List Char
  /-- The reference does not go on to the left. -/
  before_ends : before.getLast?.any Bytes.inReference = false
  isGap_gap : IsGap gap
  compares : Compares (reference.text ++ gap) operator
  isGap_gapAfter : IsGap gapAfter

namespace Comparison

/-- The reference and what follows it. -/
def phrase (comparison : Comparison) : List Char :=
  comparison.reference.text ++ (comparison.gap ++ (comparison.operator ++ comparison.gapAfter))

def text (comparison : Comparison) : List Char :=
  comparison.before ++ comparison.phrase

end Comparison

section

variable {text rest : List Char} {pieces : List Piece}

/-- A step of the scan is a step of the cutting. -/
theorem Region.Cuts.of_scan_eq {region next : Region} {offset : Nat}
    {f : List Piece → List Piece} (h : region.Cuts text pieces) (hregion : region.Proper)
    (hscan : scan region 0 text = (scan next offset rest).map f) :
    ∃ later, pieces = f later ∧ next.Outcome rest later := by
  have hpieces := h.scan_eq hregion 0
  rw [hscan] at hpieces
  obtain ⟨later, hlater, rfl⟩ := eq_ok_of_map hpieces
  exact ⟨later, rfl, outcome_of_scan hlater⟩

/-- Such characters stand for themselves in code. -/
def isPlain (c : Char) : Bool :=
  isInert c && c != '{' && c != '}'

theorem isPlain_of_isWordChar {c : Char} (h : isWordChar c = true) : isPlain c = true := by
  simp only [isPlain, isInert_of_isWordChar h, Bool.true_and, Bool.and_eq_true, bne_iff_ne]
  exact ⟨ne_of_isWordChar h rfl, ne_of_isWordChar h rfl⟩

theorem cuts_plain_cons {c : Char} (hc : isPlain c = true)
    (h : Region.code.Cuts (c :: rest) pieces) :
    ∃ later, pieces = .code c :: later ∧ Region.code.Cuts rest later := by
  simp only [isPlain, isInert, Bool.and_eq_true, Bool.not_eq_true', bne_iff_ne] at hc
  obtain ⟨⟨⟨⟨⟨hquote, hline⟩, hblock⟩, -⟩, hopen⟩, hclose⟩ := hc
  exact h.of_scan_eq trivial (scan_code_plain 0 hquote hopen (fun heq => absurd heq hclose)
    (fun heq => absurd heq hline) (fun heq => absurd heq hblock))

theorem cuts_plain (htext : text.all isPlain = true) (h : Region.code.Cuts (text ++ rest) pieces) :
    ∃ later, pieces = text.map .code ++ later ∧ Region.code.Cuts rest later := by
  induction text generalizing pieces with
  | nil => exact ⟨pieces, rfl, h⟩
  | cons c text ih =>
      rw [List.all_cons, Bool.and_eq_true] at htext
      obtain ⟨others, rfl, hothers⟩ := cuts_plain_cons htext.1 h
      obtain ⟨later, rfl, hlater⟩ := ih htext.2 hothers
      exact ⟨later, rfl, hlater⟩

/-- Up to the double quote that ends it, a literal shows as it is. -/
theorem cuts_doubleQuoted (htext : text.all isWordChar = true)
    (h : (Region.literal '"').Cuts (text ++ '"' :: rest) pieces) :
    ∃ later, pieces = (text ++ ['"']).map .code ++ later ∧ Region.code.Cuts rest later := by
  have hregion : (Region.literal '"').Proper := show isQuote '"' = true from rfl
  induction text generalizing pieces with
  | nil => exact h.of_scan_eq hregion (scan_literal_plain 0 '"' (by decide) nofun)
  | cons c text ih =>
      rw [List.all_cons, Bool.and_eq_true] at htext
      have hne {d : Char} : isWordChar d = false → c ≠ d := ne_of_isWordChar htext.1
      have hscan : scan (.literal '"') 0 (c :: (text ++ '"' :: rest)) = _ :=
        scan_literal_plain 0 '"' (hne rfl) fun heq => absurd heq (hne rfl)
      rw [if_neg (hne rfl)] at hscan
      obtain ⟨others, rfl, hothers⟩ := h.of_scan_eq hregion hscan
      obtain ⟨later, rfl, hlater⟩ := ih htext.2 hothers
      exact ⟨later, rfl, hlater⟩

/-- A word between double quotes shows as it is. -/
theorem cuts_quoted {word : List Char} (hword : IsWord word)
    (h : Region.code.Cuts ('"' :: (word ++ '"' :: rest)) pieces) :
    ∃ later, pieces = ('"' :: (word ++ ['"'])).map .code ++ later ∧
      Region.code.Cuts rest later := by
  have hopens : opensPlaceholder (word ++ '"' :: rest) = false := by
    rw [Bool.eq_false_iff]
    intro hopens
    obtain ⟨after, hafter, -⟩ := opensPlaceholder_iff.mp hopens
    cases word with
    | nil => exact hword.1 rfl
    | cons c word =>
        obtain rfl := (List.cons.inj hafter).1
        have hc := List.all_eq_true.mp hword.2 _ List.mem_cons_self
        cases hc
  have hscan : scan .code 0 ('"' :: (word ++ '"' :: rest)) = _ := scan_code_quote 0 rfl
  rw [if_neg (by rw [hopens]; exact Bool.false_ne_true)] at hscan
  obtain ⟨others, rfl, hothers⟩ := h.of_scan_eq trivial hscan
  obtain ⟨later, rfl, hlater⟩ := cuts_doubleQuoted hword.2 hothers
  exact ⟨later, rfl, hlater⟩

/-- The first mark that ends a comment is found behind a text without one. -/
theorem cutAt?_blockEnd (htext : occursIn ['*', '/'] text = false) (rest : List Char) :
    cutAt? ['*', '/'] (text ++ '*' :: '/' :: rest) = some (text, rest) := by
  induction text with
  | nil => rfl
  | cons c text ih =>
      rw [occursIn, cutAt?] at htext
      split at htext
      case isTrue => cases htext
      case isFalse hmark =>
        rw [Option.isSome_map] at htext
        have hnot : ¬ ['*', '/'].isPrefixOf (c :: (text ++ '*' :: '/' :: rest)) = true := by
          rcases text with _ | ⟨d, text⟩
          · simp
          · simpa using hmark
        rw [List.cons_append, cutAt?, if_neg hnot, ih htext]
        rfl

theorem all_isBlank_hiddenPieces (text : List Char) :
    ((hiddenPieces text).map Piece.char).all isBlank = true := by
  rw [hiddenPieces, List.map_map, List.all_map]
  exact List.all_eq_true.mpr fun _ _ => rfl

theorem isPlain_of_isBlank {c : Char} (h : isBlank c = true) : isPlain c = true := by
  simp only [isBlank, Bool.or_eq_true, beq_iff_eq] at h
  rcases h with (((rfl | rfl) | rfl) | rfl) | rfl <;> rfl

/-- A gap shows as blanks. -/
theorem cuts_gap (htext : IsGap text) (h : Region.code.Cuts (text ++ rest) pieces) :
    ∃ gap later, pieces = gap ++ later ∧ gap.flatMap Piece.source = text ∧
      (gap.map Piece.char).all isBlank = true ∧ Region.code.Cuts rest later := by
  induction htext generalizing pieces with
  | nil => exact ⟨[], pieces, rfl, rfl, rfl, h⟩
  | @blank c text hc htext ih =>
      obtain ⟨others, rfl, hothers⟩ := cuts_plain_cons (isPlain_of_isBlank hc) h
      obtain ⟨gap, later, rfl, rfl, hblank, hlater⟩ := ih hothers
      refine ⟨.code c :: gap, later, rfl, rfl, ?_, hlater⟩
      rw [List.map_cons, List.all_cons, hblank, Bool.and_true]
      exact hc
  | @lineComment inside text hinside htext ih =>
      have hscan := scan_code_lineComment 0 (inside ++ '\n' :: (text ++ rest))
      have hchars : ∀ c ∈ inside, (c != '\n') = true := fun c hmem =>
        bne_iff_ne.mpr fun heq => hinside (heq ▸ hmem)
      rw [List.takeWhile_append_of_pos hchars, List.dropWhile_append_of_pos hchars,
        List.takeWhile_cons_of_neg (by decide), List.dropWhile_cons_of_neg (by decide),
        List.append_nil] at hscan
      rw [List.cons_append, List.cons_append, List.append_assoc, List.cons_append] at h
      obtain ⟨others, rfl, hothers⟩ := h.of_scan_eq trivial hscan
      obtain ⟨more, rfl, hmore⟩ := cuts_plain_cons rfl hothers
      obtain ⟨gap, later, rfl, rfl, hblank, hlater⟩ := ih hmore
      refine ⟨hiddenPieces ('-' :: '-' :: inside) ++ .code '\n' :: gap, later, by simp, ?_, ?_,
        hlater⟩
      · rw [List.flatMap_append, source_hiddenPieces]
        rfl
      · rw [List.map_append, List.all_append, all_isBlank_hiddenPieces, Bool.true_and]
        exact hblank
  | @blockComment inside text hinside htext ih =>
      have hscan := scan_code_blockComment 0 (inside ++ '*' :: '/' :: (text ++ rest))
      rw [cutAt?_blockEnd hinside] at hscan
      rw [List.cons_append, List.cons_append, List.append_assoc, List.cons_append,
        List.cons_append] at h
      obtain ⟨others, rfl, hothers⟩ := h.of_scan_eq trivial hscan
      obtain ⟨gap, later, rfl, rfl, hblank, hlater⟩ := ih hothers
      refine ⟨hiddenPieces ('/' :: '*' :: (inside ++ ['*', '/'])) ++ gap, later, by simp, ?_, ?_,
        hlater⟩
      · rw [List.flatMap_append, source_hiddenPieces]
        simp
      · rw [List.map_append, List.all_append, all_isBlank_hiddenPieces, hblank]
        rfl

/-- A reference shows as it is. -/
theorem ColumnReference.cuts_text (reference : ColumnReference)
    (h : Region.code.Cuts (reference.text ++ rest) pieces) :
    ∃ later, pieces = reference.text.map .code ++ later ∧ Region.code.Cuts rest later := by
  have hplain : ∀ {word : List Char}, word.all isWordChar = true → word.all isPlain = true :=
    fun hword => List.all_eq_true.mpr fun c hmem =>
      isPlain_of_isWordChar (List.all_eq_true.mp hword c hmem)
  have hfront : reference.front.all isPlain = true := by
    rw [front]
    cases hqualifier : reference.qualifier with
    | none => rfl
    | some word =>
        rw [Option.elim_some, List.all_append, hplain (reference.isWord_qualifier word hqualifier).2]
        rfl
  rw [text, List.append_assoc] at h
  obtain ⟨others, rfl, hothers⟩ := cuts_plain hfront h
  have hback : ∃ later, others = reference.back.map .code ++ later ∧
      Region.code.Cuts rest later := by
    rw [back] at hothers ⊢
    by_cases hquoted : reference.quoted = true
    · rw [if_pos hquoted] at hothers ⊢
      exact cuts_quoted reference.isWord_name (by simpa using hothers)
    · rw [if_neg hquoted] at hothers ⊢
      exact cuts_plain (hplain reference.isWord_name.2) hothers
  obtain ⟨later, rfl, hlater⟩ := hback
  exact ⟨later, by rw [text, List.map_append, List.append_assoc], hlater⟩

theorem Compares.all_isPlain {before operator : List Char} (h : Compares before operator) :
    operator.all isPlain = true := by
  rcases h with hsign | ⟨hword, -⟩
  · revert operator
    decide
  · exact List.all_eq_true.mpr fun c hmem => isPlain_of_isWordChar
      (List.all_eq_true.mp (all_isWordChar_of_isComparisonWord hword) c hmem)

end

/-! ### Places in code -/

/-- No placeholder and no doubled brace goes on in this text. -/
def StartsApart (text : List Char) : Prop :=
  text.head? ≠ some '{' ∧ (text.dropWhile isWordChar).head? ≠ some '}'

/-- The text is cut anew at each place that a reader in these states has for code. -/
def CutInCode (states : List LexState) (text : List Char) (pieces : List Piece) : Prop :=
  ∀ before rest, text = before ++ rest → StartsApart rest →
    states[before.length]? = some .code →
    ∃ front back, pieces = front ++ back ∧ front.flatMap Piece.source = before ∧
      Region.code.Cuts rest back

section

variable {states run : List LexState} {taken text rest : List Char} {pieces front later : List Piece}

theorem CutInCode.append (h : CutInCode states text later)
    (hsource : front.flatMap Piece.source = taken) (hlength : run.length = taken.length)
    (hrun : ∀ inner outer, taken = inner ++ outer → outer ≠ [] →
      run[inner.length]? = some .code → StartsApart (outer ++ text) →
      inner = [] ∧ Region.code.Cuts (taken ++ text) (front ++ later)) :
    CutInCode (run ++ states) (taken ++ text) (front ++ later) := by
  intro before rest htext hrest hcode
  rcases List.append_eq_append_iff.mp htext with ⟨more, rfl, rfl⟩ | ⟨outer, houter, rfl⟩
  · rw [List.length_append, ← hlength, List.getElem?_append_right (Nat.le_add_right ..),
      Nat.add_sub_cancel_left] at hcode
    obtain ⟨middle, back, rfl, rfl, hback⟩ := h more rest rfl hrest hcode
    exact ⟨front ++ middle, back, by simp, by rw [List.flatMap_append, hsource], hback⟩
  · by_cases hempty : outer = []
    · subst hempty
      rw [List.append_nil] at houter
      rw [← houter, ← hlength, List.getElem?_append_right (Nat.le_refl _), Nat.sub_self] at hcode
      obtain ⟨middle, back, rfl, hmiddle, hback⟩ := h [] _ rfl hrest hcode
      refine ⟨front ++ middle, back, by simp, ?_, hback⟩
      rw [List.flatMap_append, hsource, hmiddle, List.append_nil, houter]
    · have hlt : before.length < run.length := by
        have hpos := List.length_pos_iff.mpr hempty
        rw [hlength, houter, List.length_append]
        omega
      rw [List.getElem?_append_left hlt] at hcode
      obtain ⟨rfl, hcuts⟩ := hrun before outer houter hempty hcode hrest
      exact ⟨[], front ++ later, rfl, rfl, by rwa [houter] at hcuts⟩

/-- Outside code, nothing is to be shown. -/
theorem CutInCode.append_of_ne (h : CutInCode states text later)
    (hsource : front.flatMap Piece.source = taken) (hlength : run.length = taken.length)
    (hrun : ∀ state ∈ run, state ≠ .code) :
    CutInCode (run ++ states) (taken ++ text) (front ++ later) := by
  refine h.append hsource hlength fun inner outer _ _ hcode _ => ?_
  exact absurd rfl (hrun _ (List.mem_of_getElem? hcode))

/-- At the place before the first piece, all pieces are cut anew. -/
theorem CutInCode.append_code (h : CutInCode states text later)
    (hsource : front.flatMap Piece.source = taken) (hlength : run.length + 1 = taken.length)
    (hcuts : Region.code.Cuts (taken ++ text) (front ++ later))
    (hrun : ∀ inner outer, taken = inner ++ outer → inner ≠ [] → outer ≠ [] →
      run[inner.length - 1]? = some .code → ¬ StartsApart (outer ++ text)) :
    CutInCode (.code :: run ++ states) (taken ++ text) (front ++ later) := by
  refine h.append hsource hlength fun inner outer htaken houter hcode hapart => ⟨?_, hcuts⟩
  by_contra hinner
  obtain ⟨c, inner, rfl⟩ := List.exists_cons_of_ne_nil hinner
  exact hrun _ outer htaken hinner houter (by simpa using hcode) hapart

theorem CutInCode.cons_of_ne {state : LexState} {piece : Piece} {c : Char}
    (h : CutInCode states text later) (hsource : piece.source = [c]) (hstate : state ≠ .code) :
    CutInCode (state :: states) (c :: text) (piece :: later) := by
  refine @append_of_ne states [state] [c] text [piece] later h ?_ rfl ?_
  · rw [List.flatMap_singleton, hsource]
  · exact List.forall_mem_singleton.mpr hstate

theorem CutInCode.cons_code {piece : Piece} {c : Char} (h : CutInCode states text later)
    (hsource : piece.source = [c]) (hcuts : Region.code.Cuts (c :: text) (piece :: later)) :
    CutInCode (.code :: states) (c :: text) (piece :: later) := by
  refine @append_code states [] [c] text [piece] later h ?_ rfl hcuts ?_
  · rw [List.flatMap_singleton, hsource]
  · intro inner outer htaken hinner houter
    have hlength := congrArg List.length htaken
    have hpos := List.length_pos_iff.mpr hinner
    have hpos' := List.length_pos_iff.mpr houter
    rw [List.length_append, List.length_singleton] at hlength
    omega

/-- The reader may take the quote that ends a literal for the first of a doubled one. -/
theorem CutInCode.literalEnd {quote : Char} (hquote : isQuote quote = true)
    (h : CutInCode (lexStates .code rest) rest later) :
    ∃ after, lexStates (.quoted quote) (quote :: rest) = .quoted quote :: after ∧
      CutInCode after rest later := by
  by_cases hhead : rest.head? = some quote
  · obtain ⟨more, rfl⟩ := List.head?_eq_some_iff.mp hhead
    rw [lexStates_code_quote hquote] at h
    refine ⟨_, lexStates_quoted_doubled quote more, fun before after htext hafter hcode => ?_⟩
    cases before with
    | nil => cases hcode
    | cons c before => exact h (c :: before) after htext hafter hcode
  · exact ⟨_, lexStates_quoted_end hhead, h⟩

theorem not_startsApart_name {name outer : List Char} (hname : name.all isWordChar = true)
    (houter : outer <:+ name) (rest : List Char) : ¬ StartsApart (outer ++ '}' :: rest) := by
  rintro ⟨-, hclose⟩
  have hchars : ∀ c ∈ outer, isWordChar c = true := fun c hmem =>
    List.all_eq_true.mp hname c (houter.subset hmem)
  rw [List.dropWhile_append_of_pos hchars, List.dropWhile_cons_of_neg (by decide)] at hclose
  exact hclose rfl

theorem Region.Cuts.cutInCode {region : Region} (h : region.Cuts text pieces)
    (hregion : region.Proper) :
    CutInCode (lexStates region.lexState text) text pieces := by
  -- before every piece, the reader is in the state of the region that the cutting has left open
  induction h with
  | done _ =>
      intro before rest _ _ hstate
      rw [lexStates] at hstate
      cases hstate
  | lineEnd hrest ih =>
      rw [Region.lexState, lexStates_lineComment_cons, if_pos rfl]
      exact (ih trivial).cons_of_ne rfl (by rintro ⟨⟩)
  | lineChar hc hrest ih =>
      rw [Region.lexState, lexStates_lineComment_cons, if_neg hc]
      exact (ih trivial).cons_of_ne rfl (by rintro ⟨⟩)
  | @blockEnd rest later hrest ih =>
      have hslash : CutInCode (.blockComment :: lexStates .code rest) ('/' :: rest)
          (.hidden '/' :: later) := (ih trivial).cons_of_ne rfl (by rintro ⟨⟩)
      exact hslash.cons_of_ne rfl (by rintro ⟨⟩)
  | blockChar hc hrest ih =>
      rw [Region.lexState, lexStates_blockComment_cons hc]
      exact (ih trivial).cons_of_ne rfl (by rintro ⟨⟩)
  | @literalBrace quote c rest later hc hrest ih =>
      have hquote : isQuote quote = true := hregion
      have hother : c ≠ quote := by
        rintro rfl
        rcases hc with rfl | rfl <;> cases hquote
      rw [Region.lexState, lexStates_quoted_cons hother, lexStates_quoted_cons hother]
      exact @CutInCode.append_of_ne _ [.quoted quote, .quoted quote] [c, c] _ [.brace c] _
        (ih hregion) rfl rfl (by simp)
  | literalEnd hrest ih =>
      obtain ⟨after, hstates, hlater⟩ := (ih trivial).literalEnd hregion
      rw [Region.lexState, hstates]
      exact hlater.cons_of_ne rfl (by rintro ⟨⟩)
  | literalChar hc hopen hclose hrest ih =>
      rw [Region.lexState, lexStates_quoted_cons hc]
      exact (ih hregion).cons_of_ne (source_literalPiece ..) (by rintro ⟨⟩)
  | @brace c rest later hc hrest ih =>
      have hinert : isInert c = true := by rcases hc with rfl | rfl <;> rfl
      rw [Region.lexState, lexStates_code_inert hinert, lexStates_code_inert hinert]
      refine @CutInCode.append_code _ [.code] [c, c] _ [.brace c] _ (ih trivial) rfl rfl
        (.brace hc hrest) fun inner outer htaken hinner houter _ => ?_
      obtain rfl : outer = [c] := by
        rcases inner with _ | ⟨d, _ | ⟨e, inner⟩⟩
        · exact absurd rfl hinner
        · exact (List.cons.inj htaken).2.symm
        · have hlength := congrArg List.length htaken
          have hpos := List.length_pos_iff.mpr houter
          simp only [List.length_cons, List.length_nil, List.cons_append, List.length_append]
            at hlength
          omega
      rintro ⟨hopen, hclose⟩
      rcases hc with rfl | rfl
      · exact hopen rfl
      · exact hclose rfl
  | @lineStart rest later hrest ih =>
      have hdash : CutInCode (.lineComment :: lexStates .lineComment rest) ('-' :: rest)
          (.hidden '-' :: later) := (ih trivial).cons_of_ne rfl (by rintro ⟨⟩)
      exact hdash.cons_code rfl (.lineStart hrest)
  | @blockStart rest later hrest ih =>
      have hstar : CutInCode (.blockComment :: lexStates .blockComment rest) ('*' :: rest)
          (.hidden '*' :: later) := (ih trivial).cons_of_ne rfl (by rintro ⟨⟩)
      exact hstar.cons_code rfl (.blockStart hrest)
  | literalStart hquote hopen hrest ih =>
      rw [Region.lexState, lexStates_code_quote hquote]
      exact (ih hquote).cons_code rfl (.literalStart hquote hopen hrest)
  | @bare name rest later hname hrest ih =>
      have hword := all_isWordChar_of_isIdentifier hname
      have htext : '{' :: (name ++ '}' :: rest) = '{' :: name ++ ['}'] ++ rest := by simp
      rw [Region.lexState, lexStates_bare hname, htext]
      refine @CutInCode.append_code _ (List.replicate (name ++ ['}']).length .code) _ _
        [.placeholder (String.ofList name) none] _ (ih trivial) ?_ ?_ ?_ ?_
      · simp [Piece.source]
      · simp
      · rw [← htext]
        exact .bare hname hrest
      · intro inner outer htaken hinner houter _
        obtain ⟨c, inner, rfl⟩ := List.exists_cons_of_ne_nil hinner
        obtain ⟨last, d, rfl⟩ : ∃ last d, outer = last ++ [d] :=
          ⟨_, _, (List.dropLast_append_getLast houter).symm⟩
        obtain ⟨hname', hd⟩ := List.append_inj' ((List.cons.inj htaken).2.trans
          (List.append_assoc ..).symm) rfl
        obtain rfl := (List.cons.inj hd).1
        rw [List.append_assoc]
        exact not_startsApart_name hword ⟨inner, hname'.symm⟩ _
  | @filled quote name rest later hquote hname hrest ih =>
      obtain ⟨after, hstates, hlater⟩ := (ih trivial).literalEnd hquote
      have htext : quote :: '{' :: (name ++ '}' :: quote :: rest) =
          (quote :: '{' :: name ++ ['}', quote]) ++ rest := by simp
      rw [Region.lexState, lexStates_filled hquote hname hstates, htext]
      refine @CutInCode.append_code _
        (List.replicate ('{' :: name ++ ['}']).length (.quoted quote) ++ [.quoted quote]) _ _
        [.placeholder (String.ofList name) (some quote)] _ hlater ?_ ?_ ?_ ?_
      · simp [Piece.source]
      · simp
      · rw [← htext]
        exact .filled hquote hname hrest
      · intro inner outer _ _ _ hstate
        have hmem := List.mem_of_getElem? hstate
        rw [List.mem_append, List.mem_replicate, List.mem_singleton] at hmem
        rcases hmem with ⟨-, hfalse⟩ | hfalse <;> cases hfalse
  | char hquote hopen hclose hdash hslash hrest ih =>
      rw [Region.lexState, lexStates_code_cons hdash hslash, hquote]
      exact (ih trivial).cons_code rfl (.char hquote hopen hclose hdash hslash hrest)

end

/-! ### Comparisons -/

section

variable {rest : List Char} {front back pieces later : List Piece}

theorem eq_of_source_eq (h : front ++ back = pieces ++ later)
    (hsource : front.flatMap Piece.source = pieces.flatMap Piece.source) : front = pieces := by
  have hnil : ∀ more : List Piece, more.flatMap Piece.source = [] → more = [] := by
    intro more hmore
    cases more with
    | nil => rfl
    | cons piece more =>
        rw [List.flatMap_cons, List.append_eq_nil_iff] at hmore
        exact absurd hmore.1 piece.source_ne_nil
  rcases List.append_eq_append_iff.mp h with ⟨more, rfl, -⟩ | ⟨more, rfl, -⟩
  · rw [List.flatMap_append, List.self_eq_append_right] at hsource
    rw [hnil more hsource, List.append_nil]
  · rw [List.flatMap_append, List.append_right_eq_self] at hsource
    rw [hnil more hsource, List.append_nil]

/-- A piece shows its last character or a blank. -/
theorem getLast?_char_any (test : Char → Bool) (hblank : test ' ' = false)
    (h : (front.flatMap Piece.source).getLast?.any test = false) :
    (front.map Piece.char).getLast?.any test = false := by
  rcases List.eq_nil_or_concat front with rfl | ⟨others, piece, rfl⟩
  · rfl
  · cases piece with
    | code c => simpa [Piece.source, Piece.char] using h
    | _ => simpa [Piece.char] using hblank

theorem IsGap.exists_head {gap : List Char} (h : IsGap gap) (hne : gap ≠ []) :
    ∃ c rest, gap = c :: rest ∧ isWordChar c = false ∧ c ≠ '{' ∧ c ≠ '}' := by
  cases h with
  | nil => exact absurd rfl hne
  | @blank c rest hc hrest =>
      have hword : isWordChar c = false :=
        isWordChar_eq_false_of_isQuiet (by rw [isQuiet, hc, Bool.true_or])
      refine ⟨c, rest, rfl, hword, ?_, ?_⟩ <;>
        · rintro rfl
          cases hc
  | lineComment htext hrest => exact ⟨_, _, rfl, by decide, by decide, by decide⟩
  | blockComment htext hrest => exact ⟨_, _, rfl, by decide, by decide, by decide⟩

theorem startsApart_append {word : List Char} {c : Char} (hword : word.all isWordChar = true)
    (hc : isWordChar c = false) (hopen : c ≠ '{') (hclose : c ≠ '}') (rest : List Char) :
    StartsApart (word ++ c :: rest) := by
  have hchars := List.all_eq_true.mp hword
  constructor
  · cases word with
    | nil => simpa using hopen
    | cons d word =>
        have hd := hchars d List.mem_cons_self
        rintro ⟨⟩
        cases hd
  · rw [List.dropWhile_append_of_pos hchars, List.dropWhile_cons_of_neg (by rw [hc]; decide)]
    simpa using hclose

namespace ColumnReference

variable {reference : ColumnReference}

theorem back_ne_nil (reference : ColumnReference) : reference.back ≠ [] := by
  rw [back]
  split
  · exact List.cons_ne_nil _ _
  · exact reference.isWord_name.1

theorem text_ne_nil (reference : ColumnReference) : reference.text ≠ [] :=
  List.append_ne_nil_of_right_ne_nil _ reference.back_ne_nil

/-- A reference that stands apart on its left is the one that a text ends in. -/
theorem refersTo (reference : ColumnReference) {before : List Char}
    (hbefore : before.getLast?.any Bytes.inReference = false) :
    RefersTo before reference.front reference.back (String.ofList reference.name) := by
  have hword : ∀ {word : List Char}, word.all isWordChar = true →
      ∀ c ∈ word, Bytes.inReference c = true ∧ c ≠ '.' ∧ c ≠ '"' := by
    intro word hword c hmem
    have hc := List.all_eq_true.mp hword c hmem
    exact ⟨by rw [Bytes.inReference, hc]; rfl, ne_of_isWordChar hc rfl, ne_of_isWordChar hc rfl⟩
  have hname := @hword reference.name reference.isWord_name.2
  have hfilter : reference.name.filter (· != '"') = reference.name :=
    List.filter_eq_self.mpr fun c hmem => bne_iff_ne.mpr (hname c hmem).2.2
  constructor
  · exact hbefore
  · rw [front]
    cases hqualifier : reference.qualifier with
    | none => rfl
    | some word =>
        have hchars := hword (reference.isWord_qualifier word hqualifier).2
        rw [Option.elim_some, List.all_append, Bool.and_eq_true]
        exact ⟨List.all_eq_true.mpr fun c hmem => (hchars c hmem).1, rfl⟩
  · rw [front]
    cases reference.qualifier with
    | none => rintro _ ⟨⟩
    | some word =>
        intro c hc
        rw [Option.elim_some, List.getLast?_concat] at hc
        exact (Option.some.inj hc).symm
  · rw [back]
    split
    · intro c hmem
      rw [List.mem_cons, List.mem_append, List.mem_singleton] at hmem
      rcases hmem with rfl | hmem | rfl
      · decide
      · exact ⟨(hname c hmem).1, (hname c hmem).2.1⟩
      · decide
    · exact fun c hmem => ⟨(hname c hmem).1, (hname c hmem).2.1⟩
  · rw [String.toList_ofList, back]
    split
    · rw [List.filter_cons_of_neg (by decide), List.filter_append, hfilter]
      exact List.append_nil _
    · exact hfilter
  · rw [ne_eq, ← String.toList_inj, String.toList_ofList]
    exact reference.isWord_name.1

end ColumnReference

namespace Comparison

/-- A name without quotes ends where the gap or the operator begins. -/
theorem exists_head_behind (comparison : Comparison) (hquoted : comparison.reference.quoted = false) :
    ∃ c rest, comparison.gap ++ comparison.operator = c :: rest ∧ isWordChar c = false ∧
      c ≠ '{' ∧ c ≠ '}' := by
  by_cases hgap : comparison.gap = []
  · rcases comparison.compares with hsign | ⟨-, hlast⟩
    · rw [hgap, List.nil_append]
      simp only [comparisonSigns, List.map_cons, List.map_nil, List.mem_cons, List.not_mem_nil,
        or_false] at hsign
      rcases hsign with h | h | h | h | h | h | h <;>
        exact ⟨_, _, h, by decide, by decide, by decide⟩
    · obtain ⟨hne, hname⟩ := comparison.reference.isWord_name
      rw [hgap, List.append_nil, ColumnReference.text, ColumnReference.back, hquoted,
        if_neg Bool.false_ne_true, getLast?_any_append hne, List.getLast?_eq_some_getLast hne,
        Option.any_some, List.all_eq_true.mp hname _ (List.getLast_mem hne)] at hlast
      cases hlast
  · obtain ⟨c, rest, hhead, hc⟩ := comparison.isGap_gap.exists_head hgap
    exact ⟨c, rest ++ comparison.operator, by rw [hhead, List.cons_append], hc⟩

theorem startsApart (comparison : Comparison) (rest : List Char) :
    StartsApart (comparison.phrase ++ rest) := by
  rw [phrase, ColumnReference.text, ColumnReference.front]
  cases hqualifier : comparison.reference.qualifier with
  | some word =>
      rw [Option.elim_some, List.append_assoc, List.append_assoc, List.append_assoc,
        List.singleton_append]
      exact startsApart_append (comparison.reference.isWord_qualifier word hqualifier).2
        (by decide) (by decide) (by decide) _
  | none =>
      rw [Option.elim_none, List.nil_append, ColumnReference.back]
      cases hquoted : comparison.reference.quoted with
      | true => exact @startsApart_append [] '"' rfl (by decide) (by decide) (by decide) _
      | false =>
          obtain ⟨c, more, hbehind, hc, hopen, hclose⟩ := comparison.exists_head_behind hquoted
          rw [if_neg Bool.false_ne_true, ← List.append_assoc comparison.gap, hbehind,
            List.append_assoc, List.cons_append, List.cons_append]
          exact startsApart_append comparison.reference.isWord_name.2 hc hopen hclose _

/-- The checks find a comparison that is written out in code before a placeholder. -/
theorem isCompared (comparison : Comparison) {template : List Char} {name : String}
    {quote : Option Char}
    (hpieces : piecesOf template = .ok (front ++ .placeholder name quote :: back))
    (htext : front.flatMap Piece.source = comparison.text)
    (hcode : (lexStates .code template)[comparison.before.length]? = some .code) :
    IsCompared front (String.ofList comparison.reference.name) := by
  have hcuts := cuts_of_piecesOf hpieces
  have htemplate : template = comparison.before ++ (comparison.phrase ++
      (Piece.placeholder name quote :: back).flatMap Piece.source) := by
    rw [← hcuts.source, List.flatMap_append, htext, text, List.append_assoc]
  obtain ⟨first, behind, hsplit, hfirst, hphrase⟩ :=
    hcuts.cutInCode trivial _ _ htemplate (comparison.startsApart _) hcode
  -- each part of the phrase is cut by itself
  rw [phrase, List.append_assoc, List.append_assoc, List.append_assoc] at hphrase
  obtain ⟨afterReference, rfl, hreference⟩ := comparison.reference.cuts_text hphrase
  obtain ⟨gap, afterGap, rfl, hgap, hgapBlank, hoperator⟩ := cuts_gap comparison.isGap_gap hreference
  obtain ⟨afterOperator, rfl, hafter⟩ := cuts_plain comparison.compares.all_isPlain hoperator
  obtain ⟨gapAfter, rest, rfl, hgapAfter, hafterBlank, -⟩ := cuts_gap comparison.isGap_gapAfter hafter
  have hcode : ∀ text : List Char, (text.map Piece.code).flatMap Piece.source = text ∧
      (text.map Piece.code).map Piece.char = text := by
    intro text
    induction text with
    | nil => exact ⟨rfl, rfl⟩
    | cons c text ih => exact ⟨congrArg (c :: ·) ih.1, congrArg (c :: ·) ih.2⟩
  obtain rfl : front = first ++ (comparison.reference.text.map .code ++
      (gap ++ (comparison.operator.map .code ++ gapAfter))) := by
    refine @eq_of_source_eq _ (.placeholder name quote :: back) _ rest (by rw [hsplit]; simp) ?_
    simp only [List.flatMap_append, (hcode _).1, htext, hfirst, hgap, hgapAfter, text, phrase]
  have hends := getLast?_char_any Bytes.inReference (by decide)
    (by rw [hfirst]; exact comparison.before_ends)
  refine ⟨first.map Piece.char ++ comparison.reference.text ++ gap.map Piece.char,
    comparison.operator, gapAfter.map Piece.char, ?_, ?_, ?_, hafterBlank⟩
  · simp only [List.map_append, (hcode _).2, List.append_assoc]
  · exact ⟨_, _, _, _, rfl, hgapBlank, comparison.reference.refersTo hends⟩
  · rcases comparison.compares with hsign | ⟨hword, hlast⟩
    · exact .inl hsign
    · refine .inr ⟨hword, ?_⟩
      by_cases hempty : gap = []
      · subst hempty
        rw [← hgap, List.flatMap_nil, List.append_nil] at hlast
        rwa [List.map_nil, List.append_nil, getLast?_any_append comparison.reference.text_ne_nil]
      · rw [getLast?_any_append (by simpa using hempty)]
        exact any_eq_false_of_all hgapBlank fun c hc => (isBlank_apart hc).1

end Comparison

end

/-- **Compared columns.** Take a placeholder of a bound template behind a comparison operator and a
column reference, with any blanks and comments between these. If the reference names a field, then
the parameter that is bound to the placeholder fits the field. The reference has to begin in code:
in a comment or a literal it is text like any other. -/
theorem BoundTemplate.fits_of_comparison {template : String} {params : List Param} {entity : Entity}
    {dialect : Dialect} {bound : BoundTemplate} {pieces front back : List Piece} {used : List Nat}
    {slot : Nat → Nat} {name : String} {quote : Option Char} {index : Nat} {param : Param}
    {field : Field} (h : ofTemplate template params entity dialect = .ok bound)
    (hplaced : bound.Placed template params dialect pieces used slot)
    (hpieces : pieces = front ++ .placeholder name quote :: back)
    (hindex : used[(placeholders front).length]? = some index)
    (hparam : params[index]? = some param) (comparison : Comparison)
    (htext : front.flatMap Piece.source = comparison.text)
    (hcode : (lexStates .code template.toList)[comparison.before.length]? = some .code)
    (hfield : entity.field? (String.ofList comparison.reference.name) = some field) :
    param.type.fits field.type = true := by
  subst hpieces
  have hcompared := comparison.isCompared hplaced.pieces_eq htext hcode
  have hname : (placeholders (front ++ .placeholder name quote :: back))[
      (placeholders front).length]? = some name := by
    rw [placeholders_append, List.getElem?_append_right (Nat.le_refl _), Nat.sub_self]
    rfl
  obtain ⟨found, hfound, hnamed⟩ := exists_getElem?_of_forall₂ hplaced.named hname
  obtain rfl := Option.some.inj (hindex.symm.trans hfound)
  exact fits_of_ofTemplate h hplaced.pieces_eq hnamed hparam (.inr hcompared) hfield

/-- The comments hold a quote and an operator. -/
def Accounts.comparison : Comparison where
  before := "DELETE FROM accounts a WHERE ".toList
  reference := {
    qualifier := some "a".toList
    name := "OWNER".toList
    quoted := true
    isWord_qualifier := by
      rintro _ ⟨⟩
      exact ⟨by decide +kernel, by decide +kernel⟩
    isWord_name := ⟨by decide +kernel, by decide +kernel⟩ }
  gap := ['/', '*', '\'', '*', '/', ' ']
  operator := "Like".toList
  gapAfter := ['-', '-', ' ', '=', '\n']
  before_ends := by decide +kernel
  isGap_gap := @IsGap.blockComment ['\''] [' '] rfl (.blank rfl .nil)
  compares := .inr ⟨by decide +kernel, by decide +kernel⟩
  isGap_gapAfter := @IsGap.lineComment [' ', '='] [] (by decide) .nil

theorem BoundTemplate.fits_of_comparison_accounts :
    let template :=
      "DELETE FROM accounts a WHERE a.\"OWNER\"/*'*/ Like-- =\n'\x7bowner\x7d'"
    ∃ bound pieces used slot front,
      ofTemplate template Accounts.find.params Accounts.entity .postgres = .ok bound ∧
        bound.Placed template Accounts.find.params .postgres pieces used slot ∧
        pieces = front ++ [.placeholder "owner" (some '\'')] ∧
        used[(placeholders front).length]? = some 0 ∧
        Accounts.find.params[0]? = some ⟨"owner", .text, true⟩ ∧
        front.flatMap Piece.source = Accounts.comparison.text ∧
        (lexStates .code template.toList)[Accounts.comparison.before.length]? = some .code ∧
        Accounts.entity.field? (String.ofList Accounts.comparison.reference.name) =
          some ⟨"owner", .text, true⟩ ∧
        ValueType.text.fits .text = true := by
  intro template
  have hbind : ofTemplate template Accounts.find.params Accounts.entity .postgres = .ok {
      sql := "DELETE FROM accounts a WHERE a.\"OWNER\"/*'*/ Like-- =\n$1"
      binds := [0]
      returnsRows := false
      unused := ["id"] } := by
    decide +kernel
  obtain ⟨pieces, used, hplaced⟩ := placed_of_ofTemplate hbind
  let front := ((piecesOf template.toList).toOption.getD []).dropLast
  have hpieces : pieces = front ++ [.placeholder "owner" (some '\'')] := by
    have hfound : piecesOf template.toList =
        .ok (front ++ [.placeholder "owner" (some '\'')]) := by decide +kernel
    exact Except.ok.inj (hplaced.pieces_eq.symm.trans hfound)
  have hindex : used[(placeholders front).length]? = some 0 := by
    have hname : (placeholders pieces)[(placeholders front).length]? = some "owner" := by
      rw [hpieces]
      decide +kernel
    obtain ⟨found, hfound, hnamed⟩ := exists_getElem?_of_forall₂ hplaced.named hname
    have hfirst : findParam Accounts.find.params "owner" = .ok 0 := by decide +kernel
    rw [hfound, Except.ok.inj ((findParam_of_firstNamed hnamed).symm.trans hfirst)]
  have hparam : Accounts.find.params[0]? = some ⟨"owner", .text, true⟩ := rfl
  have htext : front.flatMap Piece.source = Accounts.comparison.text := by decide +kernel
  have hcode : (lexStates .code template.toList)[Accounts.comparison.before.length]? =
      some .code := by decide +kernel
  have hfield : Accounts.entity.field? (String.ofList Accounts.comparison.reference.name) =
      some ⟨"owner", .text, true⟩ := by decide +kernel
  exact ⟨_, _, _, _, front, hbind, hplaced, hpieces, hindex, hparam, htext, hcode, hfield,
    fits_of_comparison hbind hplaced hpieces hindex hparam Accounts.comparison htext hcode hfield⟩

end QueryMethods

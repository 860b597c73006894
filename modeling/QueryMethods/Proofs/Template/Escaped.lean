import QueryMethods.Proofs.Template.Arguments
import QueryMethods.Proofs.Template.Checks
import QueryMethods.Proofs.Template.Isolation

/-!
# Templates written from text

Any text can be put between placeholders: its braces are written twice, and it leaves no quote open
before a placeholder and opens no comment. Such a template is bound, unless a type does not fit, and
the bound text is that text with a marker in the place of each placeholder.
-/

namespace QueryMethods

def isBrace (c : Char) : Bool :=
  c == '{' || c == '}'

/-- The text with its braces written twice. -/
def doubleBraces (text : List Char) : List Char :=
  text.flatMap fun c => if isBrace c then [c, c] else [c]

/-- The quote that is open after a character. A quote of the other kind is plain text. -/
def stepQuote (quote : Option Char) (c : Char) : Option Char :=
  match quote with
  | none => if isQuote c then some c else none
  | some quote => if c = quote then none else some quote

def openQuote (quote : Option Char) (text : List Char) : Option Char :=
  text.foldl stepQuote quote

/-- Whether a comment begins anywhere in the text outside quotes. -/
def opensComment : Option Char → List Char → Bool
  | _, [] => false
  | quote, c :: rest =>
      quote.isNone &&
          (c == '-' && rest.head? == some '-' || c == '/' && rest.head? == some '*') ||
        opensComment (stepQuote quote c) rest

/-- A placeholder, with the text before it. -/
structure Segment where
  text : List Char
  name : List Char
  /-- The quotes around the placeholder, if there are any. -/
  quote : Option Char := none
  isIdentifier_name : isIdentifier name = true := by decide
  isQuote_quote : quote.all isQuote = true := by decide

namespace Segment

def placeholder (segment : Segment) : Piece :=
  .placeholder (String.ofList segment.name) segment.quote

def source (segment : Segment) : List Char :=
  doubleBraces segment.text ++ segment.placeholder.source

/-- The template that has these placeholders, and this text behind the last one. -/
def template (segments : List Segment) (last : List Char) : List Char :=
  segments.flatMap source ++ doubleBraces last

/-- The text with markers in the places of the placeholders, the first of which has the given
number. -/
def writtenFrom (marker : Nat → String) (last : List Char) : Nat → List Segment → List Char
  | _, [] => last
  | number, segment :: rest =>
      segment.text ++ ((marker number).toList ++ writtenFrom marker last (number + 1) rest)

/-- Every placeholder stands outside quotes, which are read across the text before it. -/
def Closed (segments : List Segment) : Prop :=
  ∀ count ≤ segments.length, openQuote none ((segments.take count).flatMap text) = none

instance (segments : List Segment) : Decidable (Closed segments) :=
  inferInstanceAs (Decidable (∀ count, count ≤ segments.length → _))

end Segment

/-- What is cut from a text whose braces are doubled, if that quote is open before it. -/
def textPieces : Option Char → List Char → List Piece
  | _, [] => []
  | quote, c :: rest =>
      (if isBrace c then .brace c else quote.elim (.code c) (literalPiece · c)) ::
        textPieces (stepQuote quote c) rest

/-- The region of text inside that quote. -/
def Region.within (quote : Option Char) : Region :=
  quote.elim .code .literal

section

variable {c : Char} {quote : Option Char} {text rest : List Char} {later : List Piece}

theorem openQuote_append (quote : Option Char) (text rest : List Char) :
    openQuote quote (text ++ rest) = openQuote (openQuote quote text) rest :=
  List.foldl_append

theorem isBrace_iff : isBrace c = true ↔ c = '{' ∨ c = '}' := by
  simp [isBrace]

theorem isQuote_eq_false_of_isBrace (hc : isBrace c = true) : isQuote c = false := by
  rcases isBrace_iff.mp hc with rfl | rfl <;> rfl

theorem stepQuote_of_isBrace (hquote : ∀ q ∈ quote, isQuote q = true) (hc : isBrace c = true) :
    stepQuote quote c = quote := by
  have hplain := isQuote_eq_false_of_isBrace hc
  cases quote with
  | none => exact if_neg (by rw [hplain]; exact Bool.false_ne_true)
  | some quote =>
      refine if_neg ?_
      rintro rfl
      rw [hquote c rfl] at hplain
      cases hplain

theorem isQuote_of_stepQuote (hquote : ∀ q ∈ quote, isQuote q = true) :
    ∀ q ∈ stepQuote quote c, isQuote q = true := by
  cases quote with
  | none =>
      simp only [stepQuote, Option.mem_def]
      split <;> simp_all
  | some quote =>
      simp only [stepQuote, Option.mem_def]
      split <;> simp_all

theorem doubleBraces_cons (c : Char) (text : List Char) :
    doubleBraces (c :: text) = (if isBrace c then [c, c] else [c]) ++ doubleBraces text :=
  rfl

/-- Doubling its braces leaves the first character of a text as it is. -/
theorem head?_doubleBraces_append (text rest : List Char) :
    (doubleBraces text ++ rest).head? = (text ++ rest).head? := by
  cases text with
  | nil => rfl
  | cons c text =>
      rw [doubleBraces_cons]
      split <;> rfl

theorem opensPlaceholder_doubleBraces {d : Char} (text rest : List Char) :
    opensPlaceholder (doubleBraces (d :: text) ++ rest) = false := by
  rw [Bool.eq_false_iff, ne_eq, opensPlaceholder_iff]
  rintro ⟨after, heq, hhead⟩
  rw [doubleBraces_cons] at heq
  by_cases hd : isBrace d
  · rw [if_pos hd] at heq
    obtain ⟨rfl, rfl⟩ := List.cons.inj heq
    exact hhead rfl
  · rw [if_neg hd] at heq
    obtain ⟨rfl, -⟩ := List.cons.inj heq
    exact hd rfl

/-- What may stand behind a text with doubled braces: it finishes no mark of a comment, and begins
no placeholder where the text has left a quote open. -/
structure Continues (quote : Option Char) (text rest : List Char) : Prop where
  line : rest.head? ≠ some '-'
  block : rest.head? ≠ some '*'
  opens : openQuote quote text ≠ none → opensPlaceholder rest = false

theorem Continues.tail (h : Continues quote (c :: text) rest) :
    Continues (stepQuote quote c) text rest :=
  ⟨h.line, h.block, h.opens⟩

theorem head?_ne_append {d : Char} (hrest : rest.head? ≠ some d)
    (htext : text.head? ≠ some d) :
    (doubleBraces text ++ rest).head? ≠ some d := by
  rw [head?_doubleBraces_append]
  cases text with
  | nil => exact hrest
  | cons d text => exact htext

/-- Outside quotes, a single character stands for itself. -/
theorem cuts_code_cons (hc : isBrace c = false)
    (hquote : isQuote c = true → opensPlaceholder rest = false)
    (hline : c = '-' → rest.head? ≠ some '-') (hblock : c = '/' → rest.head? ≠ some '*')
    (hrest : (Region.within (stepQuote none c)).Cuts rest later) :
    Region.code.Cuts (c :: rest) (.code c :: later) := by
  have hopen : c ≠ '{' := by rintro rfl; cases hc
  have hclose : c ≠ '}' := by rintro rfl; cases hc
  by_cases hq : isQuote c
  · have hstep : stepQuote none c = some c := if_pos hq
    rw [hstep] at hrest
    exact .literalStart hq (hquote hq) hrest
  · have hstep : stepQuote none c = none := if_neg hq
    rw [hstep] at hrest
    exact .char (Bool.eq_false_iff.mpr hq) hopen (fun h => absurd h hclose) hline hblock hrest

/-- So it does between quotes. -/
theorem cuts_literal_cons {quote : Char} (hc : isBrace c = false)
    (hrest : (Region.within (stepQuote (some quote) c)).Cuts rest later) :
    (Region.literal quote).Cuts (c :: rest) (literalPiece quote c :: later) := by
  have hopen : c ≠ '{' := by rintro rfl; cases hc
  have hclose : c ≠ '}' := by rintro rfl; cases hc
  by_cases hq : c = quote
  · have hstep : stepQuote (some quote) c = none := if_pos hq
    have hpiece : literalPiece quote c = .code quote := by simp [literalPiece, hq]
    rw [hstep] at hrest
    rw [hpiece, hq]
    exact .literalEnd hrest
  · have hstep : stepQuote (some quote) c = some quote := if_neg hq
    rw [hstep] at hrest
    exact .literalChar hq hopen (fun h => absurd h hclose) hrest

/-- Text with doubled braces falls into its characters. -/
theorem cuts_textPieces (hquote : ∀ q ∈ quote, isQuote q = true)
    (hcomment : opensComment quote text = false) (hcontinues : Continues quote text rest)
    (hrest : (Region.within (openQuote quote text)).Cuts rest later) :
    (Region.within quote).Cuts (doubleBraces text ++ rest) (textPieces quote text ++ later) := by
  induction text generalizing quote with
  | nil => exact hrest
  | cons c text ih =>
      rw [opensComment, Bool.or_eq_false_iff] at hcomment
      have hlater := ih (isQuote_of_stepQuote hquote) hcomment.2 hcontinues.tail hrest
      rw [doubleBraces_cons, textPieces]
      by_cases hc : isBrace c
      · rw [stepQuote_of_isBrace hquote hc] at hlater ⊢
        rw [if_pos hc, if_pos hc]
        cases quote with
        | none => exact .brace (isBrace_iff.mp hc) hlater
        | some quote => exact .literalBrace (isBrace_iff.mp hc) hlater
      · rw [if_neg hc, if_neg hc]
        cases quote with
        | none =>
            simp only [Option.isNone_none, Bool.true_and, Bool.or_eq_false_iff,
              Bool.and_eq_false_iff, beq_eq_false_iff_ne] at hcomment
            refine cuts_code_cons (Bool.eq_false_iff.mpr hc) (fun hq => ?_)
              (fun h => head?_ne_append hcontinues.line (hcomment.1.1.resolve_left (· h)))
              (fun h => head?_ne_append hcontinues.block (hcomment.1.2.resolve_left (· h))) hlater
            cases text with
            | nil =>
                have hstep : openQuote none [c] = some c := if_pos hq
                exact hcontinues.opens (by rw [hstep]; exact nofun)
            | cons d text => exact opensPlaceholder_doubleBraces text rest
        | some quote => exact cuts_literal_cons (Bool.eq_false_iff.mpr hc) hlater

end

namespace Segment

def textPiecesFrom (segments : List Segment) (last : List Char) : List Piece :=
  segments.flatMap (fun segment => textPieces none segment.text ++ [segment.placeholder]) ++
    textPieces none last

variable {segment : Segment} {segments : List Segment} {last : List Char}

theorem cuts_placeholder (segment : Segment) {rest : List Char} {later : List Piece}
    (h : Region.code.Cuts rest later) :
    Region.code.Cuts (segment.placeholder.source ++ rest) (segment.placeholder :: later) := by
  have hname := segment.isIdentifier_name
  have hquotes := segment.isQuote_quote
  rw [placeholder, source_placeholder, String.toList_ofList]
  cases hquote : segment.quote with
  | none => simpa using Region.Cuts.bare hname h
  | some quote =>
      rw [hquote] at hquotes
      simpa using Region.Cuts.filled hquotes hname h

theorem Closed.openQuote_eq (h : Closed (segment :: segments)) :
    openQuote none segment.text = none := by
  simpa using h 1 (Nat.succ_pos _)

theorem Closed.tail (h : Closed (segment :: segments)) : Closed segments := by
  intro count hcount
  have hlonger := h (count + 1) (Nat.succ_le_succ hcount)
  rwa [List.take_succ_cons, List.flatMap_cons, openQuote_append, h.openQuote_eq] at hlonger

theorem cuts_template (hclosed : Closed segments)
    (hsegments : ∀ segment ∈ segments, opensComment none segment.text = false)
    (hlast : opensComment none last = false) :
    Region.code.Cuts (template segments last) (textPiecesFrom segments last) := by
  have hnone : ∀ quote ∈ (none : Option Char), isQuote quote = true := by simp
  induction segments with
  | nil =>
      have hend : (Region.within (openQuote none last)).Cuts [] [] :=
        .done (by cases openQuote none last <;> rfl)
      have hcontinues : Continues none last [] := ⟨nofun, nofun, fun _ => rfl⟩
      have hcuts := cuts_textPieces hnone hlast hcontinues hend
      rwa [List.append_nil, List.append_nil] at hcuts
  | cons segment segments ih =>
      obtain ⟨hsegment, hsegments⟩ := List.forall_mem_cons.mp hsegments
      have hlater := cuts_placeholder segment (ih hclosed.tail hsegments)
      have hopen := hclosed.openQuote_eq
      have hhead : ∀ c, isQuote c = false → c ≠ '{' →
          (segment.placeholder.source ++ template segments last).head? ≠ some c := by
        rintro c hc hbrace
        have hquotes := segment.isQuote_quote
        rw [placeholder, source_placeholder]
        cases hquote : segment.quote with
        | none => exact fun heq => hbrace (Option.some.inj heq).symm
        | some quote =>
            rintro ⟨⟩
            rw [hquote] at hquotes
            exact absurd (hquotes.symm.trans hc) (by decide)
      have hcontinues : Continues none segment.text
          (segment.placeholder.source ++ template segments last) :=
        ⟨hhead '-' rfl (by decide), hhead '*' rfl (by decide), fun h => absurd hopen h⟩
      have hcuts : Region.code.Cuts _ _ :=
        cuts_textPieces hnone hsegment hcontinues (by rw [hopen]; exact hlater)
      simpa [template, source, textPiecesFrom] using hcuts

theorem placeholders_textPieces (quote : Option Char) (text : List Char) :
    placeholders (textPieces quote text) = [] := by
  induction text generalizing quote with
  | nil => rfl
  | cons c text ih =>
      rw [textPieces]
      split
      · exact ih _
      · cases quote with
        | none => exact ih _
        | some quote =>
            rw [Option.elim_some, literalPiece]
            split <;> exact ih _

theorem writeFrom_textPieces (marker : Nat → String) (number : Nat) (quote : Option Char)
    (text : List Char) : writeFrom marker number (textPieces quote text) = text := by
  induction text generalizing quote with
  | nil => rfl
  | cons c text ih =>
      rw [textPieces]
      split
      · exact congrArg (c :: ·) (ih _)
      · cases quote with
        | none => exact congrArg (c :: ·) (ih _)
        | some quote => rw [Option.elim_some, writeFrom_literalPiece, ih]

theorem placeholders_textPiecesFrom (segments : List Segment) (last : List Char) :
    placeholders (textPiecesFrom segments last) =
      segments.map fun segment => String.ofList segment.name := by
  induction segments with
  | nil => exact placeholders_textPieces none last
  | cons segment segments ih =>
      rw [textPiecesFrom, List.flatMap_cons, List.append_assoc, List.append_assoc,
        placeholders_append, placeholders_textPieces, List.nil_append, List.map_cons, ← ih]
      rfl

theorem writeFrom_textPiecesFrom (marker : Nat → String) (number : Nat) (segments : List Segment)
    (last : List Char) :
    writeFrom marker number (textPiecesFrom segments last) =
      writtenFrom marker last number segments := by
  induction segments generalizing number with
  | nil => exact writeFrom_textPieces marker number none last
  | cons segment segments ih =>
      rw [textPiecesFrom, List.flatMap_cons, List.append_assoc, List.append_assoc,
        writeFrom_append, writeFrom_textPieces, placeholders_textPieces, writtenFrom, ← ih]
      rfl

end Segment

/-- **Templates written from text.** Take text in which every placeholder of a declared name stands
outside quotes, and which opens no comment. With its braces doubled it is bound as it is written,
with the marker of its parameter in the place of each placeholder, unless a type does not fit. -/
theorem BoundTemplate.ofTemplate_written {segments : List Segment} {last : List Char}
    {params : List Param} (hclosed : Segment.Closed segments)
    (hsegments : ∀ segment ∈ segments, opensComment none segment.text = false)
    (hlast : opensComment none last = false)
    (hdeclared : ∀ segment ∈ segments,
      ∃ param ∈ params, sameName param.name (String.ofList segment.name) = true)
    (entity : Entity) (dialect : Dialect) :
    let template := String.ofList (Segment.template segments last)
    (∃ param column paramType columnType, ofTemplate template params entity dialect =
        .error (.typeMismatch param column paramType columnType)) ∨
      ∃ bound pieces used slot, ofTemplate template params entity dialect = .ok bound ∧
        bound.Placed template params dialect pieces used slot ∧
        List.Forall₂ (fun segment => FirstNamed params (String.ofList segment.name)) segments
          used ∧
        bound.sql.toList =
          Segment.writtenFrom (fun number => dialect.marker (slot number)) last 0 segments := by
  intro template
  have hpieces : piecesOf template.toList = .ok (Segment.textPiecesFrom segments last) := by
    rw [String.toList_ofList]
    exact piecesOf_eq_ok_iff.mpr (Segment.cuts_template hclosed hsegments hlast)
  have hnames := Segment.placeholders_textPiecesFrom segments last
  obtain ⟨used, hused⟩ : ∃ used, (placeholders (Segment.textPiecesFrom segments last)).mapM
      (findParam params) = .ok used := by
    refine exists_mapM_eq_ok fun name hmem => exists_findParam ?_
    rw [hnames] at hmem
    obtain ⟨segment, hsegment, rfl⟩ := List.mem_map.mp hmem
    exact hdeclared segment hsegment
  have hbind := @ofTemplate_eq entity params template dialect _ _ hpieces hused
  cases hchecked : checkColumns entity (used.filterMap (params[·]?))
      (targetColumns (mask (Segment.textPiecesFrom segments last))) with
  | error fault =>
      obtain ⟨_, _, _, -, -, hcolumn⟩ := checkColumns_eq_error hchecked
      obtain ⟨_, _, -, -, -, rfl⟩ := checkColumn_eq_error hcolumn
      exact .inl ⟨_, _, _, _, by rw [hbind, hchecked]; rfl⟩
  | ok checked =>
      rw [hchecked] at hbind
      obtain ⟨pieces, used, hplaced⟩ := placed_of_ofTemplate hbind
      obtain rfl := Except.ok.inj (hpieces.symm.trans hplaced.pieces_eq)
      refine .inr ⟨_, _, used, slotOf dialect used, hbind, hplaced, ?_, ?_⟩
      · have hnamed := hplaced.named
        rwa [hnames, List.forall₂_map_left_iff] at hnamed
      · rw [hplaced.sql_eq, Segment.writeFrom_textPiecesFrom]

/-- Marks of comments and a foreign quote are quoted, braces touch a placeholder, and the text
behind it leaves a quote open. -/
def Accounts.segments : List Segment :=
  [{ text := "SELECT '--\x7b', \"it's\" FROM accounts WHERE owner = ".toList
     name := "owner".toList
     quote := some '\'' },
   { text := " AND \x7b".toList
     name := "OWNER".toList }]

theorem BoundTemplate.ofTemplate_written_accounts :
    let last := "\x7d = 'it".toList
    let template := String.ofList (Segment.template Accounts.segments last)
    (Segment.Closed Accounts.segments ∧
        (∀ segment ∈ Accounts.segments, opensComment none segment.text = false) ∧
        opensComment none last = false ∧
        ∀ segment ∈ Accounts.segments, ∃ param ∈ Accounts.find.params,
          sameName param.name (String.ofList segment.name) = true) ∧
      template =
        "SELECT '--\x7b\x7b', \"it's\" FROM accounts WHERE owner = '\x7bowner\x7d' AND \x7b\x7b\x7bOWNER\x7d\x7d\x7d = 'it" ∧
      ∃ bound pieces used slot,
        ofTemplate template Accounts.find.params Accounts.entity .postgres = .ok bound ∧
          bound.Placed template Accounts.find.params .postgres pieces used slot ∧
          List.Forall₂ (fun segment => FirstNamed Accounts.find.params
            (String.ofList segment.name)) Accounts.segments used ∧
          bound.sql.toList = Segment.writtenFrom
            (fun number => Dialect.postgres.marker (slot number)) last 0 Accounts.segments := by
  intro last template
  have hclosed : Segment.Closed Accounts.segments := by decide +kernel
  have hsegments : ∀ segment ∈ Accounts.segments, opensComment none segment.text = false := by
    decide +kernel
  have hlast : opensComment none last = false := by decide +kernel
  have hdeclared : ∀ segment ∈ Accounts.segments, ∃ param ∈ Accounts.find.params,
      sameName param.name (String.ofList segment.name) = true := by decide +kernel
  refine ⟨⟨hclosed, hsegments, hlast, hdeclared⟩, by decide +kernel, ?_⟩
  rcases ofTemplate_written hclosed hsegments hlast hdeclared Accounts.entity .postgres with
    ⟨_, _, _, _, hmismatch⟩ | hbound
  · have hfits : (ofTemplate template Accounts.find.params Accounts.entity
        .postgres).toOption.isSome = true := by
      decide +kernel
    rw [show ofTemplate template _ _ _ = _ from hmismatch] at hfits
    cases hfits
  · exact hbound

end QueryMethods

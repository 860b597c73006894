import QueryMethods.Proofs.Template.Bytes.Substitution
import QueryMethods.Proofs.Template.Overwrites

/-!
# Overwritten templates in pieces

A template whose comments or single-quoted text are overwritten is cut by the same steps. Its pieces
are those of the template, except that a run of hidden characters gives way to another one of the
same length. Where the one run stops, the other one stops.
-/

namespace QueryMethods

/-- The same pieces, except that hidden characters give way to others of the same total length. -/
inductive Overlaid : List Piece → List Piece → Prop where
  | nil : Overlaid [] []
  | keep (piece : Piece) {pieces later : List Piece} (h : Overlaid pieces later) :
      Overlaid (piece :: pieces) (piece :: later)
  | hidden {run other : List Char} {pieces later : List Piece}
      (hlength : byteLength other = byteLength run) (h : Overlaid pieces later) :
      Overlaid (hiddenPieces run ++ pieces) (hiddenPieces other ++ later)

/-- The region behind a run of hidden characters, which ends a block comment. -/
def Region.past : Region → Region
  | .blockComment => .code
  | region => region

/-- A reader of the region finds hidden characters only, and goes on behind them in the given
state. -/
structure Region.Hides (region : Region) (next : LexState) (run rest : List Char) : Prop where
  states_eq : lexStates region.lexState (run ++ rest) =
    List.replicate run.length region.lexState ++ lexStates next rest
  covers : ∀ c ∈ run, region.lexState.coversChar c = true

/-- A text, up to where something else than the hidden characters of the region begins. -/
structure Region.RunsInto (region : Region) (text run rest : List Char) : Prop extends
    region.Hides region.past.lexState run rest where
  text_eq : text = run ++ rest
  stops : Overwrites.Stops region.lexState region.past.lexState rest
  cuts : ∀ later, region.past.Cuts rest later → region.Cuts text (hiddenPieces run ++ later)

namespace Region.RunsInto

variable {region : Region} {c : Char} {text run rest : List Char}

theorem nil (region : Region) : region.RunsInto [] [] [] where
  text_eq := rfl
  states_eq := by simp [lexStates]
  covers := nofun
  stops := nofun
  cuts := by
    intro later hlater
    cases region with
    | blockComment => cases hlater with | done _ => exact .done rfl
    | _ => exact hlater

theorem stop (hc : region.lexState.coversChar c = false) (text : List Char) :
    region.RunsInto (c :: text) [] (c :: text) := by
  have hpast : region.past = region := by
    cases region with
    | blockComment => rw [Region.lexState, coversChar_eq] at hc; cases hc
    | _ => rfl
  constructor
  case text_eq => rfl
  case toHides => exact ⟨by rw [hpast]; rfl, List.forall_mem_nil _⟩
  case stops =>
    rintro _ ⟨⟩ -
    exact hc
  case cuts =>
    rw [hpast]
    exact fun later hlater => hlater

theorem blockEnd (text : List Char) :
    Region.blockComment.RunsInto ('*' :: '/' :: text) ['*', '/'] text where
  text_eq := rfl
  states_eq := by
    show lexStates .blockComment ('*' :: '/' :: text) = _
    rw [lexStates]
    rfl
  covers := fun c _ => coversChar_eq _ c
  stops := nofun
  cuts := fun _ => .blockEnd

theorem cons (h : region.RunsInto text run rest) (hc : region.lexState.coversChar c = true)
    (hblock : region = .blockComment → c = '*' → text.head? ≠ some '/') :
    region.RunsInto (c :: text) (c :: run) rest := by
  have hstates : lexStates region.lexState (c :: text) =
      region.lexState :: lexStates region.lexState text := by
    by_cases hregion : region = .blockComment
    · subst hregion
      exact lexStates_blockComment_cons (hblock rfl)
    · refine lexStates_cons_of_coversChar ?_ hc text
      cases region with
      | blockComment => exact absurd rfl hregion
      | _ => exact nofun
  constructor
  case text_eq => rw [h.text_eq, List.cons_append]
  case toHides =>
    refine ⟨?_, List.forall_mem_cons.mpr ⟨hc, h.covers⟩⟩
    rw [List.cons_append, ← h.text_eq, hstates, h.text_eq, h.states_eq, List.length_cons,
      List.replicate_succ, List.cons_append]
  case stops => exact h.stops
  case cuts =>
    intro later hlater
    have hrest := h.cuts later hlater
    rw [coversChar_eq] at hc
    cases region with
    | code => cases hc
    | name start enclosure reversed => cases hc
    | lineComment => exact .lineChar (bne_iff_ne.mp hc) hrest
    | blockComment => exact .blockChar (hblock rfl) hrest
    | literal quote =>
        simp only [Region.lexState, Bool.and_eq_true, beq_iff_eq, bne_iff_ne] at hc
        obtain ⟨⟨⟨rfl, hquote⟩, hopen⟩, hclose⟩ := hc
        have hpiece : literalPiece '\'' c = .hidden c := by simp [literalPiece, hquote]
        have hchar := Region.Cuts.literalChar hquote hopen (fun heq => absurd heq hclose) hrest
        rwa [hpiece] at hchar

end Region.RunsInto

theorem Region.exists_run (region : Region) (text : List Char) :
    ∃ run rest, region.RunsInto text run rest := by
  induction text with
  | nil => exact ⟨[], [], .nil region⟩
  | cons c text ih =>
      obtain ⟨run, rest, hrun⟩ := ih
      by_cases hend : region = .blockComment ∧ c = '*' ∧ text.head? = some '/'
      · obtain ⟨rfl, rfl, hhead⟩ := hend
        obtain ⟨later, rfl⟩ := List.head?_eq_some_iff.mp hhead
        exact ⟨_, later, .blockEnd later⟩
      by_cases hc : region.lexState.coversChar c = true
      · exact ⟨c :: run, rest, hrun.cons hc fun hregion hstar hhead => hend ⟨hregion, hstar, hhead⟩⟩
      · exact ⟨[], c :: text, .stop (Bool.eq_false_iff.mpr hc) text⟩

/-- All places of placeholders are spared. -/
def Spares (spared : Nat → Prop) (place : Nat) (pieces : List Piece) : Prop :=
  ∀ occurrence ∈ Bytes.occurrencesFrom place pieces, ∀ found, occurrence.start ≤ found →
    found < occurrence.stop → spared found

/-- The other template is cut in the region as this one, up to what is hidden. -/
def Region.Carries (region : Region) (spared : Nat → Prop) (text : List Char)
    (pieces : List Piece) : Prop :=
  ∀ place other, Overwrites spared place region.lexState text other → Spares spared place pieces →
    ∃ later, region.Cuts other later ∧ Overlaid pieces later

/-- So it is if hidden characters of the region go before both. -/
def Region.CarriesPast (region : Region) (spared : Nat → Prop) (text : List Char)
    (pieces : List Piece) : Prop :=
  ∀ run place other, region.Hides region.lexState run text →
    Overwrites spared place region.lexState (run ++ text) other →
    Spares spared (place + byteLength run) pieces →
    ∃ later, region.Cuts other later ∧ Overlaid (hiddenPieces run ++ pieces) later

section

variable {spared : Nat → Prop} {place : Nat} {region : Region} {piece : Piece} {c quote : Char}
  {pieces : List Piece} {name text other run : List Char}

theorem Spares.tail (h : Spares spared place (piece :: pieces)) :
    Spares spared (place + piece.width) pieces :=
  fun occurrence hmem => h occurrence (List.mem_append_right _ hmem)

theorem Spares.placeholder {name : String} {quote : Option Char}
    (h : Spares spared place (.placeholder name quote :: pieces)) {index : Nat}
    (hindex : index < (Piece.placeholder name quote).width) : spared (place + index) :=
  h ⟨name, place, place + (Piece.placeholder name quote).width⟩
    (List.mem_append_left _ (by simp [Bytes.occurrence?])) _ (Nat.le_add_right ..)
    (Nat.add_lt_add_left hindex _)

theorem Region.CarriesPast.carries (h : region.CarriesPast spared text pieces) :
    region.Carries spared text pieces :=
  fun place other => h [] place other ⟨rfl, nofun⟩

theorem Region.Hides.concat (h : region.Hides region.lexState run (c :: text))
    (hc : region.lexState.coversChar c = true) {next : LexState}
    (hstep : lexStates region.lexState (c :: text) = region.lexState :: lexStates next text) :
    region.Hides next (run ++ [c]) text where
  states_eq := by
    rw [← List.append_cons, h.states_eq, hstep, List.length_append, List.length_singleton,
      List.replicate_succ', List.append_assoc, List.singleton_append]
  covers := by
    rw [List.forall_mem_append, List.forall_mem_singleton]
    exact ⟨h.covers, hc⟩

theorem Region.CarriesPast.cons (hc : region.lexState.coversChar c = true)
    (hstep : lexStates region.lexState (c :: text) =
      region.lexState :: lexStates region.lexState text)
    (h : region.CarriesPast spared text pieces) :
    region.CarriesPast spared (c :: text) (.hidden c :: pieces) := by
  intro run place other hhides hoverwrites hspares
  have hlater := h (run ++ [c]) place other (hhides.concat hc hstep)
  have hpieces : hiddenPieces (run ++ [c]) ++ pieces = hiddenPieces run ++ .hidden c :: pieces := by
    simp [hiddenPieces]
  rw [← List.append_cons, byteLength_append, ← Nat.add_assoc, hpieces] at hlater
  exact hlater hoverwrites hspares.tail

/-- Where what is hidden stops, it stops in the other template as well, and only what follows it
matters. -/
theorem Region.Hides.exists_carried (hhides : region.Hides region.past.lexState run text)
    (hoverwrites : Overwrites spared place region.lexState (run ++ text) other)
    (hstops : Overwrites.Stops region.lexState region.past.lexState text)
    (hspares : Spares spared (place + byteLength run) pieces)
    (h : region.past.Carries spared text pieces) :
    ∃ later, region.Cuts other later ∧ Overlaid (hiddenPieces run ++ pieces) later := by
  obtain ⟨run', rest, hrun⟩ := region.exists_run other
  have hother := hoverwrites
  rw [hrun.text_eq] at hother
  obtain ⟨hlength, hrest⟩ :=
    hother.drop_run hhides.states_eq hhides.covers hstops hrun.states_eq hrun.covers hrun.stops
  obtain ⟨later, hlater, hoverlaid⟩ := h _ rest hrest hspares
  exact ⟨_, hrun.cuts later hlater, .hidden hlength hoverlaid⟩

theorem Region.Carries.past (hregion : region ≠ .blockComment)
    (hstops : ∀ c, text.head? = some c → region.lexState.coversChar c = false)
    (h : region.Carries spared text pieces) : region.CarriesPast spared text pieces := by
  have hpast : region.past = region := by
    cases region with
    | blockComment => exact absurd rfl hregion
    | _ => rfl
  intro run place other hhides hoverwrites hspares
  have hbehind : region.Hides region.past.lexState run text := by rwa [hpast]
  refine hbehind.exists_carried hoverwrites (fun c hhead _ => hstops c hhead) hspares ?_
  rwa [hpast]

theorem Region.CarriesPast.nil (hregion : region.opened = []) :
    region.CarriesPast spared [] [] := by
  intro run place other hhides hoverwrites hspares
  have hbehind : region.Hides region.past.lexState run [] := ⟨hhides.states_eq, hhides.covers⟩
  refine hbehind.exists_carried hoverwrites nofun hspares ?_
  intro place other hother _
  obtain rfl := eq_nil_of_byteLength_eq_zero hother.byteLength_eq
  refine ⟨[], .done ?_, .nil⟩
  cases region with
  | blockComment => rfl
  | _ => exact hregion

theorem Region.Carries.blockEnd (h : Region.code.Carries spared text pieces) :
    Region.blockComment.CarriesPast spared ('*' :: '/' :: text)
      (.hidden '*' :: .hidden '/' :: pieces) := by
  intro run place other hhides hoverwrites hspares
  have hmark : Region.blockComment.Hides .code (run ++ ['*', '/']) text := by
    constructor
    case covers => exact fun c _ => coversChar_eq _ c
    case states_eq =>
      have hstates := hhides.states_eq
      rw [Region.lexState, lexStates] at hstates
      simp [hstates, Region.lexState, List.replicate_succ']
  have htext : run ++ '*' :: '/' :: text = run ++ ['*', '/'] ++ text := by simp
  have hpieces : hiddenPieces run ++ .hidden '*' :: .hidden '/' :: pieces =
      hiddenPieces (run ++ ['*', '/']) ++ pieces := by
    simp [hiddenPieces]
  rw [htext] at hoverwrites
  rw [hpieces]
  refine hmark.exists_carried hoverwrites (by rintro _ - ⟨⟩) ?_ h
  rw [byteLength_append, ← Nat.add_assoc]
  exact hspares.tail.tail

/-! ### What is kept -/

theorem coversChar_code (c : Char) : LexState.code.coversChar c = false :=
  coversChar_eq .code c

theorem coversChar_brace (hc : c = '{' ∨ c = '}') :
    (LexState.quoted quote).coversChar c = false := by
  rw [coversChar_eq]
  rcases hc with rfl | rfl <;> simp

theorem Region.Carries.lineEnd (h : Region.code.Carries spared text pieces) :
    Region.lineComment.Carries spared ('\n' :: text) (.code '\n' :: pieces) := by
  have hstep : ∀ rest, lexStates .lineComment ('\n' :: rest) =
      .lineComment :: lexStates .code rest := fun rest => by
    rw [lexStates_lineComment_cons, if_pos rfl]
  intro place other hoverwrites hspares
  obtain ⟨rest, rfl, hrest⟩ :=
    hoverwrites.step (coversChar_eq _ _) (hstep _) fun rest _ => hstep rest
  obtain ⟨later, hlater, hoverlaid⟩ := h _ rest hrest hspares.tail
  exact ⟨_, .lineEnd hlater, .keep _ hoverlaid⟩

theorem Region.Carries.literalBrace (hquote : isQuote quote = true) (hc : c = '{' ∨ c = '}')
    (h : (Region.literal quote).Carries spared text pieces) :
    (Region.literal quote).Carries spared (c :: c :: text) (.brace c :: pieces) := by
  have hne : c ≠ quote := by
    rintro rfl
    rcases hc with rfl | rfl <;> cases hquote
  have hstep := lexStates_quoted_cons hne
  intro place other hoverwrites hspares
  obtain ⟨_, rfl, hsecond⟩ :=
    hoverwrites.step (coversChar_brace hc) (hstep _) fun rest _ => hstep rest
  obtain ⟨rest, rfl, hrest⟩ :=
    hsecond.step (coversChar_brace hc) (hstep _) fun rest _ => hstep rest
  rw [Nat.add_assoc] at hrest
  obtain ⟨later, hlater, hoverlaid⟩ := h _ rest hrest hspares.tail
  exact ⟨_, .literalBrace hc hlater, .keep _ hoverlaid⟩

theorem Region.Carries.literalEnd (hquote : isQuote quote = true)
    (h : Region.code.Carries spared text pieces) :
    (Region.literal quote).Carries spared (quote :: text) (.code quote :: pieces) := by
  intro place other hoverwrites hspares
  obtain ⟨rest, rfl, hrest⟩ := hoverwrites.step_literalEnd hquote
  obtain ⟨later, hlater, hoverlaid⟩ := h _ rest hrest hspares.tail
  exact ⟨_, .literalEnd hlater, .keep _ hoverlaid⟩

/-- Text between double quotes is not overwritten, and neither is a brace. -/
theorem Region.Carries.literalChar (hc : c ≠ quote) (hopen : c ≠ '{')
    (hclose : c = '}' → text.head? ≠ some '}')
    (hcovers : (LexState.quoted quote).coversChar c = false)
    (h : (Region.literal quote).Carries spared text pieces) :
    (Region.literal quote).Carries spared (c :: text) (literalPiece quote c :: pieces) := by
  have hstep := lexStates_quoted_cons hc
  intro place other hoverwrites hspares
  obtain ⟨rest, rfl, hrest⟩ := hoverwrites.step hcovers (hstep _) fun rest _ => hstep rest
  have hwidth : (literalPiece quote c).width = c.utf8Size := by
    rw [Piece.width, source_literalPiece]
    rfl
  rw [← hwidth] at hrest
  have hhead := (hrest.head?_eq (coversChar_brace (.inr rfl))).not
  obtain ⟨later, hlater, hoverlaid⟩ := h _ rest hrest hspares.tail
  exact ⟨_, .literalChar hc hopen (fun heq => hhead.mpr (hclose heq)) hlater,
    .keep _ hoverlaid⟩

theorem Region.Carries.brace (hc : c = '{' ∨ c = '}')
    (h : Region.code.Carries spared text pieces) :
    Region.code.Carries spared (c :: c :: text) (.brace c :: pieces) := by
  have hinert : isInert c = true := by rcases hc with rfl | rfl <;> rfl
  have hstep := lexStates_code_inert hinert
  intro place other hoverwrites hspares
  obtain ⟨_, rfl, hsecond⟩ :=
    hoverwrites.step (coversChar_code c) (hstep _) fun rest _ => hstep rest
  obtain ⟨rest, rfl, hrest⟩ :=
    hsecond.step (coversChar_code c) (hstep _) fun rest _ => hstep rest
  rw [Nat.add_assoc] at hrest
  obtain ⟨later, hlater, hoverlaid⟩ := h _ rest hrest hspares.tail
  exact ⟨_, .brace hc hlater, .keep _ hoverlaid⟩

theorem Region.Carries.lineStart (h : Region.lineComment.Carries spared text pieces) :
    Region.code.Carries spared ('-' :: '-' :: text) (.hidden '-' :: .hidden '-' :: pieces) := by
  intro place other hoverwrites hspares
  obtain ⟨rest, rfl, hrest⟩ := hoverwrites.step_pair Overwrites.marks_lineComment
  obtain ⟨later, hlater, hoverlaid⟩ := h _ rest hrest hspares.tail.tail
  exact ⟨_, .lineStart hlater, .keep _ (.keep _ hoverlaid)⟩

theorem Region.Carries.blockStart (h : Region.blockComment.Carries spared text pieces) :
    Region.code.Carries spared ('/' :: '*' :: text) (.hidden '/' :: .hidden '*' :: pieces) := by
  intro place other hoverwrites hspares
  obtain ⟨rest, rfl, hrest⟩ := hoverwrites.step_pair Overwrites.marks_blockComment
  obtain ⟨later, hlater, hoverlaid⟩ := h _ rest hrest hspares.tail.tail
  exact ⟨_, .blockStart hlater, .keep _ (.keep _ hoverlaid)⟩

theorem Overwrites.opensPlaceholder_eq
    (h : Overwrites spared place (.quoted quote) text other) (hquote : isQuote quote = true)
    (hopen : opensPlaceholder text = true) : opensPlaceholder other = true := by
  have hne : '{' ≠ quote := by
    rintro rfl
    cases hquote
  have hstep := lexStates_quoted_cons hne
  have hcovers := @coversChar_brace '{' quote (.inl rfl)
  obtain ⟨text, rfl, hhead⟩ := opensPlaceholder_iff.mp hopen
  obtain ⟨rest, rfl, hrest⟩ := h.step hcovers (hstep _) fun rest _ => hstep rest
  exact opensPlaceholder_iff.mpr ⟨rest, rfl, (hrest.head?_eq hcovers).not.mpr hhead⟩

theorem Region.Carries.literalStart (hquote : isQuote quote = true)
    (hopen : opensPlaceholder text = false)
    (h : (Region.literal quote).Carries spared text pieces) :
    Region.code.Carries spared (quote :: text) (.code quote :: pieces) := by
  have hstep := lexStates_code_quote hquote
  intro place other hoverwrites hspares
  obtain ⟨rest, rfl, hrest⟩ :=
    hoverwrites.step (coversChar_code quote) (hstep _) fun rest _ => hstep rest
  obtain ⟨later, hlater, hoverlaid⟩ := h _ rest hrest hspares.tail
  have hother : opensPlaceholder rest = false := by
    rw [Bool.eq_false_iff] at hopen ⊢
    exact fun hrest' => hopen (hrest.symm.opensPlaceholder_eq hquote hrest')
  exact ⟨_, .literalStart hquote hother hlater, .keep _ hoverlaid⟩

theorem Region.Carries.bare (hname : isIdentifier name = true)
    (h : Region.code.Carries spared text pieces) :
    Region.code.Carries spared ('{' :: (name ++ '}' :: text))
      (.placeholder (String.ofList name) none :: pieces) := by
  have htext : ∀ rest, '{' :: (name ++ '}' :: rest) = '{' :: name ++ ['}'] ++ rest := by simp
  have hwidth : (Piece.placeholder (String.ofList name) none).width =
      byteLength ('{' :: name ++ ['}']) := by
    simp [Piece.width, Piece.source]
  have hstates := lexStates_bare hname
  intro place other hoverwrites hspares
  simp only [htext] at hoverwrites hstates ⊢
  obtain ⟨rest, rfl⟩ := hoverwrites.exists_append_of_spared fun index hindex =>
    hspares.placeholder (hwidth ▸ hindex)
  have hrest := hoverwrites.drop rfl List.length_replicate List.length_replicate (hstates text)
    (hstates rest)
  rw [← hwidth] at hrest
  obtain ⟨later, hlater, hoverlaid⟩ := h _ rest hrest hspares.tail
  rw [← htext]
  exact ⟨_, .bare hname hlater, .keep _ hoverlaid⟩

theorem Region.Carries.filled (hquote : isQuote quote = true) (hname : isIdentifier name = true)
    (h : Region.code.Carries spared text pieces) :
    Region.code.Carries spared (quote :: '{' :: (name ++ '}' :: quote :: text))
      (.placeholder (String.ofList name) (some quote) :: pieces) := by
  have htext : ∀ rest, quote :: '{' :: (name ++ '}' :: rest) =
      quote :: '{' :: name ++ ['}'] ++ rest := by
    simp
  have hwidth : (Piece.placeholder (String.ofList name) (some quote)).width =
      byteLength (quote :: '{' :: name ++ ['}']) + quote.utf8Size := by
    simp [Piece.width, Piece.source]
    omega
  have hstates := lexStates_opened hquote hname
  have hlength : (LexState.code :: List.replicate ('{' :: name ++ ['}']).length
      (LexState.quoted quote)).length = (quote :: '{' :: name ++ ['}']).length := by
    simp
  intro place other hoverwrites hspares
  rw [htext] at hoverwrites
  obtain ⟨closed, rfl⟩ := hoverwrites.exists_append_of_spared fun index hindex =>
    hspares.placeholder (hwidth ▸ Nat.lt_add_right _ hindex)
  have hclosed := hoverwrites.drop rfl hlength hlength (hstates _) (hstates closed)
  obtain ⟨rest, rfl, hrest⟩ := hclosed.step_literalEnd hquote
  rw [Nat.add_assoc, ← hwidth] at hrest
  obtain ⟨later, hlater, hoverlaid⟩ := h _ rest hrest hspares.tail
  rw [← htext]
  exact ⟨_, .filled hquote hname hlater, .keep _ hoverlaid⟩

theorem Region.Carries.char (hquote : isQuote c = false) (hopen : c ≠ '{')
    (hclose : c = '}' → text.head? ≠ some '}') (hline : c = '-' → text.head? ≠ some '-')
    (hblock : c = '/' → text.head? ≠ some '*') (h : Region.code.Carries spared text pieces) :
    Region.code.Carries spared (c :: text) (.code c :: pieces) := by
  intro place other hoverwrites hspares
  obtain ⟨rest, rfl⟩ := hoverwrites.exists_cons (coversChar_code c)
  have hline' : c = '-' → rest.head? ≠ some '-' := by
    rintro rfl
    exact hoverwrites.head?_ne Overwrites.marks_lineComment (hline rfl)
  have hblock' : c = '/' → rest.head? ≠ some '*' := by
    rintro rfl
    exact hoverwrites.head?_ne Overwrites.marks_blockComment (hblock rfl)
  have hstep : ∀ later, (c = '-' → later.head? ≠ some '-') → (c = '/' → later.head? ≠ some '*') →
      lexStates .code (c :: later) = .code :: lexStates .code later := by
    intro later hdash hslash
    rw [lexStates_code_cons hdash hslash, hquote]
    rfl
  obtain ⟨_, ⟨⟩, hrest⟩ := hoverwrites.step (coversChar_code c) (hstep text hline hblock)
    fun | _, rfl => hstep rest hline' hblock'
  have hhead := (hrest.head?_eq (coversChar_code '}')).not
  obtain ⟨later, hlater, hoverlaid⟩ := h _ rest hrest hspares.tail
  exact ⟨_, .char hquote hopen (fun heq => hhead.mpr (hclose heq)) hline' hblock' hlater,
    .keep _ hoverlaid⟩

theorem Region.Cuts.carriesPast (h : region.Cuts text pieces) (hregion : region.Proper) :
    region.CarriesPast spared text pieces := by
  have hpast : ∀ {text pieces}, Region.code.Carries spared text pieces →
      Region.code.CarriesPast spared text pieces :=
    Region.Carries.past (by rintro ⟨⟩) fun c _ => coversChar_code c
  induction h with
  | done hopened => exact .nil hopened
  | lineEnd hrest ih =>
      refine (ih trivial).carries.lineEnd.past (by rintro ⟨⟩) ?_
      rintro _ ⟨⟩
      exact coversChar_eq _ _
  | lineChar hc hrest ih =>
      refine (ih trivial).cons ((coversChar_eq _ _).trans (bne_iff_ne.mpr hc)) ?_
      rw [Region.lexState, lexStates_lineComment_cons, if_neg hc]
  | blockEnd hrest ih => exact (ih trivial).carries.blockEnd
  | blockChar hc hrest ih =>
      exact (ih trivial).cons (coversChar_eq _ _) (lexStates_blockComment_cons hc)
  | literalBrace hc hrest ih =>
      refine ((ih hregion).carries.literalBrace hregion hc).past (by rintro ⟨⟩) ?_
      rintro _ ⟨⟩
      exact coversChar_brace hc
  | @literalEnd quote _ _ hrest ih =>
      refine ((ih trivial).carries.literalEnd hregion).past (by rintro ⟨⟩) ?_
      rintro _ ⟨⟩
      exact Overwrites.coversChar_quote quote
  | @literalChar quote c _ _ hc hopen hclose hrest ih =>
      by_cases hcovers : (LexState.quoted quote).coversChar c = true
      · have hpiece : literalPiece quote c = .hidden c := by
          rw [coversChar_eq] at hcovers
          simp_all [literalPiece]
        rw [hpiece]
        exact (ih hregion).cons hcovers (lexStates_quoted_cons hc _)
      · have huncovered := Bool.eq_false_iff.mpr hcovers
        refine ((ih hregion).carries.literalChar hc hopen hclose huncovered).past (by rintro ⟨⟩) ?_
        rintro _ ⟨⟩
        exact huncovered
  | brace hc hrest ih => exact hpast ((ih trivial).carries.brace hc)
  | lineStart hrest ih => exact hpast (ih trivial).carries.lineStart
  | blockStart hrest ih => exact hpast (ih trivial).carries.blockStart
  | literalStart hquote hopen hrest ih =>
      exact hpast (Region.Carries.literalStart hquote hopen (ih hquote).carries)
  | bare hname hrest ih => exact hpast ((ih trivial).carries.bare hname)
  | filled hquote hname hrest ih => exact hpast ((ih trivial).carries.filled hquote hname)
  | char hquote hopen hclose hdash hslash hrest ih =>
      exact hpast ((ih trivial).carries.char hquote hopen hclose hdash hslash)

end

end QueryMethods

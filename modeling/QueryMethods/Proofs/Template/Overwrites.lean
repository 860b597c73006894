import QueryMethods.Proofs.Sql.Lexer
import QueryMethods.Text.Utf8

/-!
# Overwritten text

Bytes of comments and of single-quoted text are overwritten by others that leave every region as it
is: a reader of either text is in the same state at every byte. Seen as characters, both texts go
in step up to a run of overwritten characters, and again behind it.
-/

namespace QueryMethods

/-- The states of the characters, each at all bytes of the character. -/
def spreadStates : List Char → List LexState → List LexState
  | c :: text, state :: states => List.replicate c.utf8Size state ++ spreadStates text states
  | _, _ => []

/-- The reader's state at each byte of a text. -/
def byteStates (state : LexState) (text : List Char) : List LexState :=
  spreadStates text (lexStates state text)

/-- The bytes that may give way to others, and others to them, without a change of regions. -/
def LexState.covers : LexState → UInt8 → Bool
  | .code, _ => false
  | .quoted quote, b =>
      quote == '\'' && b != '\''.toUInt8 && b != '{'.toUInt8 && b != '}'.toUInt8
  | .lineComment, b => b != '\n'.toUInt8
  | .blockComment, _ => true

/-- The other text has other bytes within comments and single quotes, except at the places that are
spared. Both texts begin at the given place, where the reader is in the given state. -/
structure Overwrites (spared : Nat → Prop) (place : Nat) (state : LexState)
    (text other : List Char) : Prop where
  states_eq : byteStates state other = byteStates state text
  covered : ∀ index < byteLength text, (utf8 text)[index]? ≠ (utf8 other)[index]? →
    ¬ spared (place + index) ∧ ∃ found ∈ (byteStates state text)[index]?,
      (utf8 text)[index]?.any found.covers = true ∧ (utf8 other)[index]?.any found.covers = true

theorem length_spreadStates {text : List Char} {states : List LexState}
    (h : states.length = text.length) : (spreadStates text states).length = byteLength text := by
  induction text generalizing states with
  | nil => cases states <;> rfl
  | cons c text ih =>
      cases states with
      | nil => cases h
      | cons state states =>
          rw [spreadStates, List.length_append, List.length_replicate, ih (Nat.succ.inj h),
            byteLength_cons]

theorem length_byteStates (state : LexState) (text : List Char) :
    (byteStates state text).length = byteLength text :=
  length_spreadStates (length_lexStates state text)

theorem spreadStates_append {taken : List Char} {run : List LexState}
    (h : run.length = taken.length) (rest : List Char) (states : List LexState) :
    spreadStates (taken ++ rest) (run ++ states) =
      spreadStates taken run ++ spreadStates rest states := by
  induction taken generalizing run with
  | nil =>
      obtain rfl := List.length_eq_zero_iff.mp h
      cases rest <;> rfl
  | cons c taken ih =>
      cases run with
      | nil => cases h
      | cons state run =>
          rw [List.cons_append, List.cons_append, spreadStates, spreadStates, ih (Nat.succ.inj h),
            List.append_assoc]

theorem spreadStates_replicate (state : LexState) (text : List Char) :
    spreadStates text (List.replicate text.length state) =
      List.replicate (byteLength text) state := by
  induction text with
  | nil => rfl
  | cons c text ih =>
      rw [List.length_cons, List.replicate_succ, spreadStates, ih, byteLength_cons,
        List.replicate_append_replicate]

variable {spared : Nat → Prop} {place index : Nat} {state next : LexState} {c : Char} {b : UInt8}
  {text other taken rest later : List Char}

theorem getElem?_spreadStates_cons {states : List LexState} (hindex : index < c.utf8Size) :
    (spreadStates (c :: text) (state :: states))[index]? = some state := by
  rw [spreadStates, List.getElem?_append_left (by rwa [List.length_replicate]),
    List.getElem?_replicate, if_pos hindex]

/-- The reader's state in front of a character is that at all bytes of the character. -/
theorem getElem?_byteStates_cons (hindex : index < c.utf8Size) :
    (byteStates state (c :: rest))[index]? = some state := by
  cases hstates : lexStates state (c :: rest) with
  | nil =>
      have hlength := length_lexStates state (c :: rest)
      rw [hstates] at hlength
      cases hlength
  | cons first states =>
      obtain rfl : first = state := eq_of_head?_lexStates (by rw [hstates, List.head?_cons])
      rw [byteStates, hstates, getElem?_spreadStates_cons hindex]

theorem getElem?_byteStates_run {states : List LexState}
    (h : lexStates state (taken ++ rest) = List.replicate taken.length next ++ states)
    (hindex : index < byteLength taken) :
    (byteStates state (taken ++ rest))[index]? = some next := by
  rw [byteStates, h, spreadStates_append List.length_replicate, spreadStates_replicate,
    List.getElem?_append_left (by rwa [List.length_replicate]), List.getElem?_replicate,
    if_pos hindex]

theorem getElem?_byteStates_behind {run states : List LexState}
    (hlength : run.length = taken.length)
    (h : lexStates state (taken ++ rest) = run ++ states) (index : Nat) :
    (byteStates state (taken ++ rest))[byteLength taken + index]? =
      (spreadStates rest states)[index]? := by
  rw [byteStates, h, spreadStates_append hlength,
    List.getElem?_append_right (length_spreadStates hlength ▸ Nat.le_add_right ..),
    length_spreadStates hlength, Nat.add_sub_cancel_left]

/-- Behind a run of characters the states are those of what follows it. -/
theorem getElem?_byteStates_append {run : List LexState} (hlength : run.length = taken.length)
    (h : lexStates state (taken ++ rest) = run ++ lexStates next rest) (index : Nat) :
    (byteStates state (taken ++ rest))[byteLength taken + index]? =
      (byteStates next rest)[index]? :=
  getElem?_byteStates_behind hlength h index

def LexState.coversChar (state : LexState) (c : Char) : Bool :=
  (String.utf8EncodeChar c).all state.covers

theorem bne_toUInt8 {d : Char} (hd : d.val ≤ 127) (hb : b ∈ String.utf8EncodeChar c) :
    (b != d.toUInt8) = (c != d) := by
  by_cases hc : c = d
  · rw [hc, utf8EncodeChar_ascii hd, List.mem_singleton] at hb
    rw [hb, hc, bne_self_eq_false, bne_self_eq_false]
  · have hne : b ≠ d.toUInt8 := by
      by_cases hascii : c.val ≤ 127
      · rw [utf8EncodeChar_ascii hascii, List.mem_singleton] at hb
        rw [hb]
        exact fun heq => hc (toUInt8_inj hascii hd heq)
      · rintro rfl
        exact not_le_toUInt8 hd (le_of_mem_utf8EncodeChar hascii hb)
    rw [bne_iff_ne.mpr hne, bne_iff_ne.mpr hc]

/-- A state covers all bytes of a character or none. -/
theorem covers_eq (state : LexState) (hb : b ∈ String.utf8EncodeChar c) :
    state.covers b = match state with
      | .code => false
      | .quoted quote => quote == '\'' && c != '\'' && c != '{' && c != '}'
      | .lineComment => c != '\n'
      | .blockComment => true := by
  cases state with
  | code => rfl
  | quoted quote =>
      rw [LexState.covers, bne_toUInt8 (by decide) hb, bne_toUInt8 (by decide) hb,
        bne_toUInt8 (by decide) hb]
  | lineComment => exact bne_toUInt8 (by decide) hb
  | blockComment => rfl

theorem covers_eq_coversChar (hb : b ∈ String.utf8EncodeChar c) :
    state.covers b = state.coversChar c := by
  have hsame : ∀ d ∈ String.utf8EncodeChar c, state.covers d = state.covers b := fun d hd =>
    (covers_eq state hd).trans (covers_eq state hb).symm
  rw [LexState.coversChar]
  cases hcovers : state.covers b with
  | true => exact (List.all_eq_true.mpr fun d hd => (hsame d hd).trans hcovers).symm
  | false =>
      symm
      rw [List.all_eq_false]
      exact ⟨b, hb, by rw [hcovers]; exact Bool.false_ne_true⟩

theorem coversChar_eq (state : LexState) (c : Char) :
    state.coversChar c = match state with
      | .code => false
      | .quoted quote => quote == '\'' && c != '\'' && c != '{' && c != '}'
      | .lineComment => c != '\n'
      | .blockComment => true := by
  obtain ⟨b, rest, hbytes⟩ := List.exists_cons_of_ne_nil (@String.utf8EncodeChar_ne_nil c)
  have hb : b ∈ String.utf8EncodeChar c := hbytes ▸ List.mem_cons_self
  rw [← covers_eq_coversChar hb, covers_eq state hb]

/-- Such a character does not end the region. -/
theorem lexStates_cons_of_coversChar (hblock : state ≠ .blockComment)
    (hc : state.coversChar c = true) (rest : List Char) :
    lexStates state (c :: rest) = state :: lexStates state rest := by
  rw [coversChar_eq] at hc
  cases state with
  | code => cases hc
  | quoted quote =>
      simp only [Bool.and_eq_true, beq_iff_eq, bne_iff_ne] at hc
      exact lexStates_quoted_cons (hc.1.1.1 ▸ hc.1.1.2) rest
  | lineComment => rw [lexStates_lineComment_cons, if_neg (bne_iff_ne.mp hc)]
  | blockComment => exact absurd rfl hblock

/-! ### Both texts in step -/

namespace Overwrites

theorem byteLength_eq (h : Overwrites spared place state text other) :
    byteLength other = byteLength text := by
  rw [← length_byteStates state, h.states_eq, length_byteStates]

theorem symm (h : Overwrites spared place state text other) :
    Overwrites spared place state other text where
  states_eq := h.states_eq.symm
  covered := by
    intro index hindex hne
    obtain ⟨hspared, found, hfound, hleft, hright⟩ :=
      h.covered index (h.byteLength_eq ▸ hindex) (Ne.symm hne)
    exact ⟨hspared, found, h.states_eq ▸ hfound, hright, hleft⟩

/-- What is not overwritten at the front stands in front of the other text as well. -/
theorem exists_append (hkept : ∀ index < byteLength taken,
      (utf8 (taken ++ rest))[index]? = (utf8 other)[index]?) :
    ∃ later, other = taken ++ later := by
  have hutf8 : utf8 taken <+: utf8 other := by
    rw [List.prefix_iff_getElem?]
    intro index hindex
    have hsame := hkept index (length_utf8 taken ▸ hindex)
    rw [utf8_append, List.getElem?_append_left hindex, List.getElem?_eq_getElem hindex] at hsame
    exact hsame.symm
  obtain ⟨later, hlater⟩ := isPrefix_of_utf8 hutf8
  exact ⟨later, hlater.symm⟩

theorem exists_append_of_spared (h : Overwrites spared place state (taken ++ rest) other)
    (hspared : ∀ index < byteLength taken, spared (place + index)) :
    ∃ later, other = taken ++ later := by
  refine @exists_append other taken rest fun index hindex => Decidable.byContradiction fun hne => ?_
  have hbound : index < byteLength (taken ++ rest) := by
    rw [byteLength_append]
    exact Nat.lt_add_right _ hindex
  exact (h.covered index hbound hne).1 (hspared index hindex)

theorem exists_cons (h : Overwrites spared place state (c :: rest) other)
    (hc : state.coversChar c = false) : ∃ later, other = c :: later := by
  refine @exists_append other [c] rest fun index hindex => Decidable.byContradiction fun hne => ?_
  have hbound : index < byteLength (c :: rest) := by
    rw [byteLength_cons]
    exact Nat.lt_add_right _ hindex
  obtain ⟨-, found, hfound, hcovers, -⟩ := h.covered index hbound hne
  rw [Option.mem_def, getElem?_byteStates_cons hindex] at hfound
  obtain rfl := Option.some.inj hfound
  obtain ⟨b, hb, hcovered⟩ := (Option.any_eq_true _ _).mp hcovers
  rw [utf8_cons, List.getElem?_append_left (by rwa [String.length_utf8EncodeChar])] at hb
  rw [covers_eq_coversChar (List.mem_of_getElem? hb), hc] at hcovered
  cases hcovered

/-- Behind runs of the same length the texts go on in step. -/
theorem drop {taken' later' : List Char} {run run' : List LexState}
    (h : Overwrites spared place state (taken ++ rest) (taken' ++ later'))
    (hlength : byteLength taken' = byteLength taken)
    (hrun : run.length = taken.length) (hrun' : run'.length = taken'.length)
    (hstates : lexStates state (taken ++ rest) = run ++ lexStates next rest)
    (hstates' : lexStates state (taken' ++ later') = run' ++ lexStates next later') :
    Overwrites spared (place + byteLength taken) next rest later' := by
  have hstatesAt := getElem?_byteStates_append hrun hstates
  have hstatesAt' := getElem?_byteStates_append hrun' hstates'
  have hbytesAt := getElem?_utf8_append taken rest
  have hbytesAt' := getElem?_utf8_append taken' later'
  rw [hlength] at hstatesAt' hbytesAt'
  constructor
  case states_eq =>
    refine List.ext_getElem? fun index => ?_
    rw [← hstatesAt, ← hstatesAt', h.states_eq]
  case covered =>
    intro index hindex hne
    rw [← hbytesAt, ← hbytesAt'] at hne
    have hbound : byteLength taken + index < byteLength (taken ++ rest) := by
      rw [byteLength_append]
      exact Nat.add_lt_add_left hindex _
    have hcovered := h.covered _ hbound hne
    rwa [hstatesAt, hbytesAt, hbytesAt', ← Nat.add_assoc] at hcovered

/-- What follows a run goes on in another state, or with a character that is not covered. -/
def Stops (state next : LexState) (rest : List Char) : Prop :=
  ∀ c, rest.head? = some c → next = state → state.coversChar c = false

variable {run run' rest' : List Char} {next' : LexState}

/-- A run in one text reaches no further than the one that stops in the other. -/
theorem byteLength_le (h : Overwrites spared place state (run ++ rest) (run' ++ rest'))
    (hstates : lexStates state (run ++ rest) =
      List.replicate run.length state ++ lexStates next rest)
    (hstops : Stops state next rest)
    (hstates' : lexStates state (run' ++ rest') =
      List.replicate run'.length state ++ lexStates next' rest')
    (hcovers' : ∀ c ∈ run', state.coversChar c = true) :
    byteLength run' ≤ byteLength run := by
  refine Nat.le_of_not_lt fun hlt => ?_
  have hbound : byteLength run < byteLength (run ++ rest) := by
    rw [← h.byteLength_eq, byteLength_append]
    exact Nat.lt_add_right _ hlt
  cases rest with
  | nil => simp at hbound
  | cons c rest =>
      -- the byte behind the first run is within the second one
      have hstate : (byteStates state (run ++ c :: rest))[byteLength run]? = some next := by
        rw [← Nat.add_zero (byteLength run),
          getElem?_byteStates_append List.length_replicate hstates,
          getElem?_byteStates_cons c.utf8Size_pos]
      have hstate' := getElem?_byteStates_run hstates' hlt
      rw [h.states_eq, hstate] at hstate'
      obtain rfl := Option.some.inj hstate'
      have hc := hstops c rfl rfl
      obtain ⟨b, hb⟩ : ∃ b, (utf8 run')[byteLength run]? = some b :=
        ⟨_, List.getElem?_eq_getElem (by rwa [length_utf8])⟩
      have hbytes' : (utf8 (run' ++ rest'))[byteLength run]? = some b := by
        rw [utf8_append, List.getElem?_append_left (by rwa [length_utf8]), hb]
      obtain ⟨d, hd, hmem⟩ := List.mem_flatMap.mp (List.mem_of_getElem? hb)
      have hcovered : next.covers b = true := by rw [covers_eq_coversChar hmem, hcovers' d hd]
      obtain ⟨first, more, hfirst⟩ := List.exists_cons_of_ne_nil (@String.utf8EncodeChar_ne_nil c)
      have hbytes : (utf8 (run ++ c :: rest))[byteLength run]? = some first := by
        rw [← Nat.add_zero (byteLength run), getElem?_utf8_append, utf8_cons, hfirst]
        rfl
      have huncovered : next.covers first = false := by
        rw [covers_eq_coversChar (hfirst ▸ List.mem_cons_self), hc]
      by_cases hsame : first = b
      · rw [hsame, hcovered] at huncovered
        cases huncovered
      · have hne : (utf8 (run ++ c :: rest))[byteLength run]? ≠
            (utf8 (run' ++ rest'))[byteLength run]? := by
          rw [hbytes, hbytes']
          exact fun heq => hsame (Option.some.inj heq)
        obtain ⟨-, found, hfound, hleft, -⟩ := h.covered _ hbound hne
        rw [Option.mem_def, hstate] at hfound
        obtain rfl := Option.some.inj hfound
        rw [hbytes, Option.any_some, huncovered] at hleft
        cases hleft

/-- Runs that stop in both texts have the same length. -/
theorem drop_run (h : Overwrites spared place state (run ++ rest) (run' ++ rest'))
    (hstates : lexStates state (run ++ rest) =
      List.replicate run.length state ++ lexStates next rest)
    (hcovers : ∀ c ∈ run, state.coversChar c = true) (hstops : Stops state next rest)
    (hstates' : lexStates state (run' ++ rest') =
      List.replicate run'.length state ++ lexStates next rest')
    (hcovers' : ∀ c ∈ run', state.coversChar c = true) (hstops' : Stops state next rest') :
    byteLength run' = byteLength run ∧
      Overwrites spared (place + byteLength run) next rest rest' := by
  have hlength : byteLength run' = byteLength run :=
    Nat.le_antisymm (h.byteLength_le hstates hstops hstates' hcovers')
      (h.symm.byteLength_le hstates' hstops' hstates hcovers)
  exact ⟨hlength, h.drop hlength List.length_replicate List.length_replicate hstates hstates'⟩

theorem head?_eq (h : Overwrites spared place state text other) (hc : state.coversChar c = false) :
    other.head? = some c ↔ text.head? = some c := by
  constructor
  · intro hhead
    obtain ⟨later, rfl⟩ := List.head?_eq_some_iff.mp hhead
    obtain ⟨rest, rfl⟩ := h.symm.exists_cons hc
    rfl
  · intro hhead
    obtain ⟨rest, rfl⟩ := List.head?_eq_some_iff.mp hhead
    obtain ⟨later, rfl⟩ := h.exists_cons hc
    rfl

/-- One character that the reader takes by itself. -/
theorem step (h : Overwrites spared place state (c :: text) other)
    (hc : state.coversChar c = false)
    (hstep : lexStates state (c :: text) = state :: lexStates next text)
    (hstep' : ∀ rest, other = c :: rest → lexStates state (c :: rest) = state :: lexStates next rest) :
    ∃ rest, other = c :: rest ∧ Overwrites spared (place + c.utf8Size) next text rest := by
  obtain ⟨rest, rfl⟩ := h.exists_cons hc
  exact ⟨rest, rfl, @drop spared place state next [c] text [c] rest [state] [state] h rfl rfl rfl
    hstep (hstep' rest rfl)⟩

theorem cons (h : Overwrites spared (place + c.utf8Size) next text other)
    (hstep : ∀ rest, lexStates state (c :: rest) = state :: lexStates next rest) :
    Overwrites spared place state (c :: text) (c :: other) := by
  have hstates : ∀ rest index,
      (byteStates state (c :: rest))[c.utf8Size + index]? = (byteStates next rest)[index]? :=
    fun rest index => @getElem?_byteStates_append state next [c] rest [state] rfl (hstep rest) index
  have hbytes : ∀ rest index, (utf8 (c :: rest))[c.utf8Size + index]? = (utf8 rest)[index]? :=
    fun rest index => getElem?_utf8_append [c] rest index
  constructor
  case states_eq =>
    refine List.ext_getElem? fun index => ?_
    by_cases hindex : index < c.utf8Size
    · rw [getElem?_byteStates_cons hindex, getElem?_byteStates_cons hindex]
    · obtain ⟨behind, rfl⟩ := Nat.exists_eq_add_of_le (Nat.le_of_not_lt hindex)
      rw [hstates, hstates, h.states_eq]
  case covered =>
    intro index hbound hne
    by_cases hindex : index < c.utf8Size
    · have hsame : ∀ rest, (utf8 (c :: rest))[index]? = (String.utf8EncodeChar c)[index]? := by
        intro rest
        rw [utf8_cons, List.getElem?_append_left (by rwa [String.length_utf8EncodeChar])]
      rw [hsame, hsame] at hne
      exact absurd rfl hne
    · obtain ⟨behind, rfl⟩ := Nat.exists_eq_add_of_le (Nat.le_of_not_lt hindex)
      rw [byteLength_cons] at hbound
      rw [hbytes, hbytes] at hne
      have hcovered := h.covered behind (Nat.lt_of_add_lt_add_left hbound) hne
      rwa [hstates, hbytes, hbytes, ← Nat.add_assoc]

/-- Two characters that the reader takes together, and the first of them by itself if the second
does not follow. -/
structure Marks (state : LexState) (c d : Char) (inside behind alone : LexState) : Prop where
  coversChar_eq : state.coversChar c = false
  pair : ∀ rest, lexStates state (c :: d :: rest) = state :: inside :: lexStates behind rest
  single : ∀ rest, rest.head? ≠ some d →
    lexStates state (c :: rest) = state :: lexStates alone rest
  apart : inside ≠ alone

variable {d : Char} {inside behind alone : LexState}

theorem head?_ne (h : Overwrites spared place state (c :: text) (c :: rest))
    (hmarks : Marks state c d inside behind alone) (htext : text.head? ≠ some d) :
    rest.head? ≠ some d := by
  intro hhead
  obtain ⟨later, rfl⟩ := List.head?_eq_some_iff.mp hhead
  cases text with
  | nil =>
      have hlength := h.byteLength_eq
      have hpos := d.utf8Size_pos
      simp only [byteLength_cons, byteLength_nil] at hlength
      omega
  | cons e text =>
      -- the states behind the first character differ
      have hstate : (byteStates state (c :: e :: text))[c.utf8Size]? = some alone := by
        have hbehind := @getElem?_byteStates_append state alone [c] (e :: text) [state] rfl
          (hmarks.single _ htext) 0
        exact hbehind.trans (getElem?_byteStates_cons e.utf8Size_pos)
      have hstate' : (byteStates state (c :: d :: later))[c.utf8Size]? = some inside := by
        have hbehind := @getElem?_byteStates_behind state [c] (d :: later) [state] _ rfl
          (hmarks.pair later) 0
        exact hbehind.trans (getElem?_spreadStates_cons d.utf8Size_pos)
      rw [h.states_eq, hstate] at hstate'
      exact hmarks.apart (Option.some.inj hstate').symm

theorem step_single (h : Overwrites spared place state (c :: text) other)
    (hmarks : Marks state c d inside behind alone) (htext : text.head? ≠ some d) :
    ∃ rest, other = c :: rest ∧ rest.head? ≠ some d ∧
      Overwrites spared (place + c.utf8Size) alone text rest := by
  obtain ⟨rest, rfl⟩ := h.exists_cons hmarks.coversChar_eq
  have hrest := h.head?_ne hmarks htext
  exact ⟨rest, rfl, hrest, @drop spared place state alone [c] text [c] rest [state] [state] h rfl
    rfl rfl (hmarks.single _ htext) (hmarks.single _ hrest)⟩

theorem step_pair (h : Overwrites spared place state (c :: d :: text) other)
    (hmarks : Marks state c d inside behind alone) :
    ∃ rest, other = c :: d :: rest ∧
      Overwrites spared (place + byteLength [c, d]) behind text rest := by
  obtain ⟨later, rfl⟩ := h.exists_cons hmarks.coversChar_eq
  have hhead : later.head? = some d := by
    by_cases hne : later.head? = some d
    · exact hne
    · exact absurd rfl (h.symm.head?_ne hmarks hne)
  obtain ⟨rest, rfl⟩ := List.head?_eq_some_iff.mp hhead
  exact ⟨rest, rfl, @drop spared place state behind [c, d] text [c, d] rest [state, inside]
    [state, inside] h rfl rfl rfl (hmarks.pair text) (hmarks.pair rest)⟩

theorem marks_lineComment : Marks .code '-' '-' .lineComment .lineComment .code where
  coversChar_eq := by rw [coversChar_eq]
  pair := fun rest => by rw [lexStates]
  single := fun rest hrest => lexStates_code_cons (fun _ => hrest) nofun
  apart := nofun

theorem marks_blockComment : Marks .code '/' '*' .blockComment .blockComment .code where
  coversChar_eq := by rw [coversChar_eq]
  pair := fun rest => by rw [lexStates]
  single := fun rest hrest => lexStates_code_cons nofun (fun _ => hrest)
  apart := nofun

theorem coversChar_quote (quote : Char) : (LexState.quoted quote).coversChar quote = false := by
  rw [coversChar_eq]
  by_cases hquote : quote = '\'' <;> simp [hquote]

theorem marks_doubled (quote : Char) :
    Marks (.quoted quote) quote quote (.quoted quote) (.quoted quote) .code where
  coversChar_eq := coversChar_quote quote
  pair := lexStates_quoted_doubled quote
  single := fun _ => lexStates_quoted_end
  apart := nofun

/-- Both texts go on in code behind a quote, although the reader may take it for the first one of a
doubled one. -/
theorem step_literalEnd {quote : Char} (hquote : isQuote quote = true)
    (h : Overwrites spared place (.quoted quote) (quote :: text) other) :
    ∃ rest, other = quote :: rest ∧ Overwrites spared (place + quote.utf8Size) .code text rest := by
  by_cases hhead : text.head? = some quote
  · obtain ⟨later, rfl⟩ := List.head?_eq_some_iff.mp hhead
    obtain ⟨rest, rfl, hrest⟩ := h.step_pair (marks_doubled quote)
    refine ⟨quote :: rest, rfl, ?_⟩
    refine @cons _ _ .code (.quoted quote) quote later rest ?_ (lexStates_code_quote hquote)
    rwa [byteLength_cons, byteLength_cons, byteLength_nil, Nat.add_zero, ← Nat.add_assoc] at hrest
  · obtain ⟨rest, rfl, -, hrest⟩ := h.step_single (marks_doubled quote) hhead
    exact ⟨rest, rfl, hrest⟩

end Overwrites

end QueryMethods

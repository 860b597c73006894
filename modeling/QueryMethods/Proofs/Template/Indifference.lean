import QueryMethods.Proofs.Template.Overlaid

/-!
# Indifference to comments and literals

What stands in comments and between single quotes has no influence on the binding of a template.
With other text of the same length there, a scan finds the same and binding fails or succeeds in the
same way; the bound text differs only where the other bytes are copied.
-/

namespace QueryMethods

section

variable {pieces later : List Piece}

theorem Overlaid.addAll_eq (h : Overlaid pieces later) (found : Bytes.Scan) (place : Nat) :
    found.addAll place later = found.addAll place pieces := by
  induction h generalizing found place with
  | nil => rfl
  | keep piece hrest ih => rw [Bytes.Scan.addAll, Bytes.Scan.addAll, ih]
  | hidden hlength hrest ih =>
      rw [Bytes.Scan.addAll_append, Bytes.Scan.addAll_append, Bytes.Scan.addAll_hidden,
        Bytes.Scan.addAll_hidden, source_hiddenPieces, source_hiddenPieces, hlength, ih]

theorem Overlaid.ofPieces_eq (h : Overlaid pieces later) :
    Bytes.Scan.ofPieces later = Bytes.Scan.ofPieces pieces := by
  have hadd : ∀ pieces, Bytes.Scan.ofPieces pieces =
      Bytes.Scan.addAll { masked := [] } 0 pieces := by
    intro pieces
    rw [Bytes.Scan.addAll_eq]
    rfl
  rw [hadd, hadd, h.addAll_eq]

theorem Overlaid.placeholders_eq (h : Overlaid pieces later) :
    placeholders later = placeholders pieces := by
  rw [← Bytes.names_occurrencesFrom 0, ← Bytes.names_occurrencesFrom 0]
  exact congrArg (·.occurrences.map Bytes.Occurrence.name) h.ofPieces_eq

theorem editsFrom_hiddenPieces (marker : Nat → String) (number place : Nat) (run : List Char)
    (pieces : List Piece) :
    Bytes.editsFrom marker number place (hiddenPieces run ++ pieces) =
      Bytes.editsFrom marker number (place + byteLength run) pieces := by
  induction run generalizing place with
  | nil => rfl
  | cons c run ih =>
      rw [byteLength_cons, ← Nat.add_assoc]
      exact ih (place + c.utf8Size)

theorem Overlaid.editsFrom_eq (h : Overlaid pieces later) (marker : Nat → String)
    (number place : Nat) :
    Bytes.editsFrom marker number place later = Bytes.editsFrom marker number place pieces := by
  induction h generalizing number place with
  | nil => rfl
  | keep piece hrest ih => rw [Bytes.editsFrom, Bytes.editsFrom, ih]
  | hidden hlength hrest ih => rw [editsFrom_hiddenPieces, editsFrom_hiddenPieces, hlength, ih]

end

/-- At this place the texts have copies of bytes in which the templates differ. -/
def CopiesAt (template other text text' : List Char) (index : Nat) : Prop :=
  ∃ place : Nat, (utf8 template)[place]? ≠ (utf8 other)[place]? ∧
    (utf8 text)[index]? = (utf8 template)[place]? ∧ (utf8 text')[index]? = (utf8 other)[place]?

/-- The same edits make two texts of two templates, and the texts differ only where bytes are copied
in which the templates differ. -/
structure CopiesAlike (template other text text' : List Char) : Prop where
  rewrites : ∃ edits, Bytes.Rewrites 0 edits template text ∧ Bytes.Rewrites 0 edits other text'
  byteLength_eq : byteLength text' = byteLength text
  copied : ∀ index : Nat, (utf8 text)[index]? ≠ (utf8 text')[index]? →
    CopiesAt template other text text' index

theorem getElem?_utf8_inside {taken : List Char} {index : Nat} (hindex : index < byteLength taken)
    (rest : List Char) : (utf8 (taken ++ rest))[index]? = (utf8 taken)[index]? := by
  rw [utf8_append, List.getElem?_append_left (by rwa [length_utf8])]

section

variable {template other text text' taken taken' : List Char} {index : Nat}

theorem copiesAt_kept (hlength : byteLength taken' = byteLength taken)
    (hindex : index < byteLength taken)
    (hne : (utf8 (taken ++ text))[index]? ≠ (utf8 (taken' ++ text'))[index]?) :
    CopiesAt (taken ++ template) (taken' ++ other) (taken ++ text) (taken' ++ text') index := by
  have hindex' := hlength ▸ hindex
  have hsame : ∀ rest rest', (utf8 (taken ++ rest))[index]? = (utf8 (taken ++ rest'))[index]? :=
    fun rest rest' => by rw [getElem?_utf8_inside hindex, getElem?_utf8_inside hindex]
  have hsame' : ∀ rest rest', (utf8 (taken' ++ rest))[index]? = (utf8 (taken' ++ rest'))[index]? :=
    fun rest rest' => by rw [getElem?_utf8_inside hindex', getElem?_utf8_inside hindex']
  refine ⟨index, ?_, hsame _ _, hsame' _ _⟩
  rwa [hsame template text, hsame' other text']

/-- What is copied behind edits of the same place is copied behind the texts that they leave. -/
theorem CopiesAt.append {written written' : List Char} (h : CopiesAt template other text text' index)
    (htaken : byteLength taken' = byteLength taken)
    (hwritten : byteLength written' = byteLength written) :
    CopiesAt (taken ++ template) (taken' ++ other) (written ++ text) (written' ++ text')
      (byteLength written + index) := by
  obtain ⟨place, hne, htext, htext'⟩ := h
  have hother := getElem?_utf8_append taken' other place
  have hbytes' := getElem?_utf8_append written' text' index
  rw [htaken] at hother
  rw [hwritten] at hbytes'
  refine ⟨byteLength taken + place, ?_, ?_, ?_⟩
  · rwa [getElem?_utf8_append, hother]
  · rwa [getElem?_utf8_append, getElem?_utf8_append]
  · rwa [hother, hbytes']

end

namespace Bytes.Rewrites

variable {place : Nat} {edits : List Edit} {template other text text' : List Char}

theorem byteLength_eq (h : Rewrites place edits template text)
    (h' : Rewrites place edits other text') (hlength : byteLength other = byteLength template) :
    byteLength text' = byteLength text := by
  induction h generalizing other text' with
  | rest =>
      cases h'
      exact hlength
  | edit hstart hstop hlater ih =>
      cases h' with
      | edit hstart' hstop' hlater' =>
          simp only [byteLength_append] at hlength ⊢
          rw [ih hlater' (by omega)]
          omega

theorem copiesAt (h : Rewrites place edits template text) (h' : Rewrites place edits other text')
    {index : Nat} (hne : (utf8 text)[index]? ≠ (utf8 text')[index]?) :
    CopiesAt template other text text' index := by
  induction h generalizing other text' index with
  | rest =>
      cases h'
      exact ⟨index, hne, rfl, rfl⟩
  | @edit place first edits kept spanned template text hstart hstop hlater ih =>
      cases h' with
      | @edit _ _ _ kept' spanned' other text' hstart' hstop' hlater' =>
          have hkept : byteLength kept' = byteLength kept := by omega
          have hspanned : byteLength spanned' = byteLength spanned := by omega
          by_cases hindex : index < byteLength kept
          · exact copiesAt_kept hkept hindex hne
          obtain ⟨index, rfl⟩ := Nat.exists_eq_add_of_le (Nat.le_of_not_lt hindex)
          have hbytes' := getElem?_utf8_append kept' (first.text ++ text') index
          rw [hkept] at hbytes'
          rw [getElem?_utf8_append, hbytes'] at hne
          refine CopiesAt.append ?_ hkept hkept
          -- both edits write the same
          by_cases hinside : index < byteLength first.text
          · rw [getElem?_utf8_inside hinside, getElem?_utf8_inside hinside] at hne
            exact absurd rfl hne
          obtain ⟨index, rfl⟩ := Nat.exists_eq_add_of_le (Nat.le_of_not_lt hinside)
          rw [getElem?_utf8_append, getElem?_utf8_append] at hne
          exact (ih hlater' hne).append hspanned rfl

theorem copiesAlike (h : Rewrites 0 edits template text) (h' : Rewrites 0 edits other text')
    (hlength : byteLength other = byteLength template) :
    CopiesAlike template other text text' where
  rewrites := ⟨edits, h, h'⟩
  byteLength_eq := h.byteLength_eq h' hlength
  copied := fun _ => h.copiesAt h'

end Bytes.Rewrites

/-- The places that a placeholder takes. -/
def Bytes.Scan.replaces (found : Bytes.Scan) (place : Nat) : Prop :=
  ∃ occurrence ∈ found.occurrences, occurrence.start ≤ place ∧ place < occurrence.stop

instance (found : Bytes.Scan) (place : Nat) : Decidable (found.replaces place) :=
  inferInstanceAs (Decidable (∃ occurrence ∈ found.occurrences, _))

theorem exists_overlaid {template other : List Char} {pieces : List Piece}
    (hpieces : piecesOf template = .ok pieces)
    (h : Overwrites (Bytes.Scan.ofPieces pieces).replaces 0 .code template other) :
    ∃ later, piecesOf other = .ok later ∧ Overlaid pieces later := by
  have hspares : Spares (Bytes.Scan.ofPieces pieces).replaces 0 pieces :=
    fun occurrence hmem place hstart hstop => ⟨occurrence, hmem, hstart, hstop⟩
  obtain ⟨later, hlater, hoverlaid⟩ :=
    ((cuts_of_piecesOf hpieces).carriesPast trivial).carries 0 other h hspares
  exact ⟨later, piecesOf_eq_ok_iff.mpr hlater, hoverlaid⟩

namespace BoundTemplate

theorem fill_assignSlots {pieces : List Piece} {used : List Nat}
    (hlength : (placeholders pieces).length = used.length) (dialect : Dialect) :
    fill ((assignSlots dialect.reusesMarkers [] used).1.map dialect.marker) pieces =
      writeFrom (fun number => dialect.marker (slotOf dialect used number)) 0 pieces := by
  rw [assignSlots_eq, List.map_map, ← hlength]
  exact fill_eq_writeFrom (fun number => dialect.marker (slotOf dialect used number)) 0 pieces

/-- Pieces that differ in what is hidden are bound alike. -/
theorem ofTemplate_overlaid {template other : String} {pieces later : List Piece}
    (hpieces : piecesOf template.toList = .ok pieces) (hlater : piecesOf other.toList = .ok later)
    (h : Overlaid pieces later) (hlength : byteLength other.toList = byteLength template.toList)
    (params : List Param) (entity : Entity) (dialect : Dialect) :
    (∀ fault, ofTemplate template params entity dialect = .error fault →
        ofTemplate other params entity dialect = .error fault) ∧
      ∀ bound, ofTemplate template params entity dialect = .ok bound →
        ∃ sql, ofTemplate other params entity dialect = .ok { bound with sql } ∧
          CopiesAlike template.toList other.toList bound.sql.toList sql.toList := by
  have hcolumns : targetColumns (mask later) = targetColumns (mask pieces) := by
    have hfound := Bytes.targetColumns?_ofPieces later
    rw [h.ofPieces_eq, Bytes.targetColumns?_ofPieces] at hfound
    exact (Option.some.inj hfound).symm
  have hrows : producesRows (visible (mask later)) = producesRows (visible (mask pieces)) := by
    rw [← Bytes.producesRows_shown, h.ofPieces_eq, Bytes.producesRows_shown]
  have hother : ofTemplate other params entity dialect = do
      let used ← (placeholders pieces).mapM (findParam params)
      checkColumns entity (used.filterMap (params[·]?)) (targetColumns (mask pieces))
      return {
        sql := String.ofList (fill
          ((assignSlots dialect.reusesMarkers [] used).1.map dialect.marker) later)
        binds := (assignSlots dialect.reusesMarkers [] used).2
        returnsRows := producesRows (visible (mask pieces))
        unused := unusedNames params used } := by
    rw [ofTemplate, hlater, ← h.placeholders_eq, ← hcolumns, ← hrows]
    rfl
  constructor
  · intro fault hfault
    rw [ofTemplate, hpieces] at hfault
    rw [hother]
    cases hused : (placeholders pieces).mapM (findParam params) with
    | error first =>
        simp only [bind, Except.bind, hused] at hfault ⊢
        exact hfault
    | ok used =>
        simp only [bind, Except.bind, hused] at hfault ⊢
        cases hchecked : checkColumns entity (used.filterMap (params[·]?))
            (targetColumns (mask pieces)) with
        | error first =>
            simp only [hchecked] at hfault ⊢
            exact hfault
        | ok checked =>
            simp only [hchecked] at hfault
            cases hfault
  · intro bound hbound
    obtain ⟨_, used, hpieces', hused, hchecked, rfl⟩ := ofTemplate_eq_ok hbound
    obtain rfl := Except.ok.inj (hpieces.symm.trans hpieces')
    have hcount := (firstNamed_of_mapM hused).length_eq
    have hcount' := (congrArg List.length h.placeholders_eq).trans hcount
    refine ⟨String.ofList (fill
      ((assignSlots dialect.reusesMarkers [] used).1.map dialect.marker) later), ?_, ?_⟩
    · rw [hother, hused]
      simp only [bind, Except.bind, hchecked]
      rfl
    · rw [String.toList_ofList, String.toList_ofList, fill_assignSlots hcount,
        fill_assignSlots hcount']
      have hrewrites := Bytes.rewrites_editsFrom
        (fun number => dialect.marker (slotOf dialect used number)) 0 0 pieces
      have hrewrites' := Bytes.rewrites_editsFrom
        (fun number => dialect.marker (slotOf dialect used number)) 0 0 later
      rw [source_of_piecesOf hpieces] at hrewrites
      rw [source_of_piecesOf hlater, h.editsFrom_eq] at hrewrites'
      exact hrewrites.copiesAlike hrewrites' hlength

/-- **Comments and literals have no influence.** If a scan accepts a template, then it finds the
same in any template that has other bytes of the same regions within comments and single quotes, but
not in placeholders. Both are bound with the same result, except that the text has the other
bytes. -/
theorem ofTemplate_overwritten {template other : String} {found : Bytes.Scan}
    (hscan : Bytes.scan? template.toList = some (.ok found))
    (h : Overwrites found.replaces 0 .code template.toList other.toList) (params : List Param)
    (entity : Entity) (dialect : Dialect) :
    Bytes.scan? other.toList = some (.ok found) ∧
      (∀ fault, ofTemplate template params entity dialect = .error fault →
        ofTemplate other params entity dialect = .error fault) ∧
      ∀ bound, ofTemplate template params entity dialect = .ok bound →
        ∃ sql, ofTemplate other params entity dialect = .ok { bound with sql } ∧
          CopiesAlike template.toList other.toList bound.sql.toList sql.toList := by
  rw [Bytes.scan?_eq_ofPieces] at hscan
  obtain ⟨pieces, hpieces, rfl⟩ := eq_ok_of_map (Option.some.inj hscan)
  obtain ⟨later, hlater, hoverlaid⟩ := exists_overlaid hpieces h
  refine ⟨?_, ofTemplate_overlaid hpieces hlater hoverlaid h.byteLength_eq params entity dialect⟩
  rw [Bytes.scan?_eq_ofPieces, hlater, ← hoverlaid.ofPieces_eq]
  rfl

end BoundTemplate

/-- Comments and a literal, a doubled brace and a placeholder in quotes. -/
def Accounts.paddedTemplate : String :=
  "SELECT 'é\x7b\x7b', '\x7bowner\x7d' /* \x7bx\x7d */ -- é"

/-- Two characters for one, a quote for a brace and marks of comments. -/
def Accounts.repaddedTemplate : String :=
  "SELECT '--\x7b\x7b', '\x7bowner\x7d' /* 'x\x7d */ -- ,("

def Accounts.paddedScan : Bytes.Scan where
  occurrences := [⟨"owner", 15, 24⟩]
  escapes := [10]
  masked := utf8 "SELECT '    ',                          ".toList

theorem BoundTemplate.ofTemplate_overwritten_accounts :
    ∃ bound sql, Bytes.scan? Accounts.paddedTemplate.toList = some (.ok Accounts.paddedScan) ∧
      Overwrites Accounts.paddedScan.replaces 0 .code Accounts.paddedTemplate.toList
        Accounts.repaddedTemplate.toList ∧
      Bytes.scan? Accounts.repaddedTemplate.toList = some (.ok Accounts.paddedScan) ∧
      ofTemplate Accounts.paddedTemplate Accounts.find.params Accounts.entity .postgres =
        .ok bound ∧
      bound.sql = "SELECT 'é\x7b', $1 /* \x7bx\x7d */ -- é" ∧
      ofTemplate Accounts.repaddedTemplate Accounts.find.params Accounts.entity .postgres =
        .ok { bound with sql } ∧
      CopiesAlike Accounts.paddedTemplate.toList Accounts.repaddedTemplate.toList
        bound.sql.toList sql.toList := by
  have hscan :
      Bytes.scan? Accounts.paddedTemplate.toList = some (.ok Accounts.paddedScan) := by
    decide +kernel
  have hoverwrites : Overwrites Accounts.paddedScan.replaces 0 .code
      Accounts.paddedTemplate.toList Accounts.repaddedTemplate.toList := by
    constructor
    case states_eq => decide +kernel
    case covered => decide +kernel
  have hbound : ofTemplate Accounts.paddedTemplate Accounts.find.params Accounts.entity .postgres =
      .ok {
        sql := "SELECT 'é\x7b', $1 /* \x7bx\x7d */ -- é"
        binds := [0]
        returnsRows := true
        unused := ["id"] } := by
    decide +kernel
  obtain ⟨hfound, -, hresult⟩ := ofTemplate_overwritten hscan hoverwrites Accounts.find.params
    Accounts.entity .postgres
  obtain ⟨sql, hother, hcopies⟩ := hresult _ hbound
  exact ⟨_, sql, hscan, hoverwrites, hfound, hbound, rfl, hother, hcopies⟩

end QueryMethods

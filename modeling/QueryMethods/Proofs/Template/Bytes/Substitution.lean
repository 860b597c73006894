import QueryMethods.Proofs.Template.Bytes.Edits
import QueryMethods.Proofs.Template.Comments

/-!
# Substitution is exact

Binding by places has a result for every template, and it is the one that binding by pieces has.
Where a text is bound, the edits cover the placeholders and the doubled braces of the template, each
as a whole, and nothing else; everything between them stays as it is, and so do all comments.
-/

namespace QueryMethods

namespace Bytes

/-- The edits that a bound text is made of. -/
theorem splice?_ofPieces {template : List Char} {pieces : List Piece}
    (hpieces : piecesOf template = .ok pieces) (marker : Nat → String) :
    splice? template 0 (editsFrom marker 0 0 pieces) = some (writeFrom marker 0 pieces) := by
  have hrewrites := rewrites_editsFrom marker 0 0 pieces
  rw [source_of_piecesOf hpieces] at hrewrites
  exact hrewrites.splice?_eq byteLength_nil

/-- Binding by places comes to the same as binding by pieces. -/
theorem bind?_eq (template : String) (params : List Param) (entity : Entity) (dialect : Dialect) :
    bind? template params entity dialect =
      some (BoundTemplate.ofTemplate template params entity dialect) := by
  rw [bind?, scan?_eq_ofPieces]
  unfold BoundTemplate.ofTemplate
  cases hpieces : piecesOf template.toList with
  | error fault => rfl
  | ok pieces =>
      have hnames : (Scan.ofPieces pieces).occurrences.map Occurrence.name = placeholders pieces :=
        names_occurrencesFrom 0 pieces
      cases hused : (placeholders pieces).mapM (BoundTemplate.findParam params) with
      | error fault =>
          simp only [Except.map, Option.bind_some, hnames, hused, bind, Except.bind]
      | ok used =>
          have hcolumns := targetColumns?_ofPieces pieces
          cases hchecked : BoundTemplate.checkColumns entity (used.filterMap (params[·]?))
              (targetColumns (mask pieces)) with
          | error fault =>
              simp only [Except.map, Option.bind_some, hnames, hused, hcolumns, hchecked, bind,
                Except.bind]
          | ok checked =>
              have hlength := (BoundTemplate.firstNamed_of_mapM hused).length_eq
              have hedits := edits?_ofPieces hpieces dialect (BoundTemplate.slotOf dialect used)
              have hsql := splice?_ofPieces hpieces fun number =>
                dialect.marker (BoundTemplate.slotOf dialect used number)
              have hfill := BoundTemplate.fill_eq_writeFrom
                (fun number => dialect.marker (BoundTemplate.slotOf dialect used number)) 0 pieces
              rw [hlength] at hedits hfill
              have hmarkers : (List.range' 0 used.length).map (fun number =>
                  dialect.marker (BoundTemplate.slotOf dialect used number)) =
                  ((List.range' 0 used.length).map (BoundTemplate.slotOf dialect used)).map
                    dialect.marker := by
                rw [List.map_map]
                rfl
              rw [hmarkers] at hfill
              simp only [Except.map, Option.bind_some, hnames, hused, hcolumns, hchecked, bind,
                Except.bind, BoundTemplate.assignSlots_eq, hedits, hsql, hfill,
                producesRows_shown]
              rfl

/-- What an edit makes of the text at its place, where a reader of the template is in these states
before the characters from there on. -/
inductive Replaces (params : List Param) (dialect : Dialect) (bound : BoundTemplate) (found : Scan)
    (states : List LexState) (edit : Edit) : List Char → Prop where
  /-- A placeholder gives way to the marker of a slot of its parameter. Quotes go with it exactly if
  it stands between quotes. -/
  | placeholder {number slot param : Nat} {name : String} {quote : Option Char}
      (hfound : found.occurrences[number]? = some ⟨name, edit.start, edit.stop⟩)
      (hproper : (Piece.placeholder name quote).Proper)
      (hstate : states[quote.toList.length]? = some (quote.elim .code .quoted))
      (htext : edit.text = (dialect.marker (slot + 1)).toList)
      (hslot : dialect.slot? (dialect.marker (slot + 1)) number = some (slot + 1))
      (hbind : bound.binds[slot]? = some param) (hparam : FirstNamed params name param) :
      Replaces params dialect bound found states edit (Piece.placeholder name quote).source
  /-- A doubled brace gives way to a single one. -/
  | brace {c : Char} (hfound : edit.start ∈ found.escapes) (hc : c = '{' ∨ c = '}')
      (htext : edit.text = [c]) : Replaces params dialect bound found states edit [c, c]

/-- The edits that turn a template into a bound text. -/
structure Substituted (template : List Char) (params : List Param) (dialect : Dialect)
    (bound : BoundTemplate) (found : Scan) (edits : List Edit) : Prop where
  /-- Every edit is within the template, from the start of one character to the end of another, and
  replaces a placeholder or a doubled brace. -/
  replaces : ∀ edit ∈ edits, ∃ before spanned after,
    template = before ++ (spanned ++ after) ∧ edit.start = byteLength before ∧
      edit.stop = byteLength (before ++ spanned) ∧ edit.start < edit.stop ∧
      Replaces params dialect bound found ((lexStates .code template).drop before.length) edit
        spanned
  disjoint : edits.Pairwise fun earlier later => earlier.stop ≤ later.start
  /-- Whatever is between the edits stays as it is. -/
  rewrites : Rewrites 0 edits template bound.sql.toList
  /-- No edit touches a comment. -/
  comments : ∀ before c after, template = before ++ c :: after →
    inComment template before.length = true → ∀ edit ∈ edits,
      edit.stop ≤ byteLength before ∨ byteLength before + c.utf8Size ≤ edit.start
  /-- Outside comments every opening brace is replaced, and so is the first of two closing ones. -/
  complete : ∀ before c after, template = before ++ c :: after →
    inComment template before.length = false → (c = '{' ∨ c = '}' ∧ after.head? = some '}') →
      ∃ edit ∈ edits, edit.start ≤ byteLength before ∧ byteLength before + c.utf8Size ≤ edit.stop

theorem byteLength_le_of_isPrefix {left right : List Char} (h : left <+: right) :
    byteLength left ≤ byteLength right := by
  obtain ⟨rest, rfl⟩ := h
  rw [byteLength_append]
  exact Nat.le_add_right _ _

section

variable {marker : Nat → String} {template : List Char} {pieces : List Piece}

theorem exists_edit?_of_isReplaced {piece : Piece} (h : piece.isReplaced = true)
    (marker : Nat → String) (number place : Nat) :
    ∃ edit, edit? marker number place piece = some edit := by
  cases piece with
  | code c => cases h
  | hidden c => cases h
  | brace c => exact ⟨_, rfl⟩
  | placeholder name quote => exact ⟨_, rfl⟩

theorem isReplaced_of_edit? {piece : Piece} {number place : Nat} {edit : Edit}
    (h : edit? marker number place piece = some edit) : piece.isReplaced = true := by
  cases piece with
  | code c => cases h
  | hidden c => cases h
  | brace c => rfl
  | placeholder name quote => rfl

theorem disjoint_comments (hreads : Reads pieces (lexStates .code template))
    (hsource : pieces.flatMap Piece.source = template) {before after : List Char} {c : Char}
    (htemplate : template = before ++ c :: after)
    (hcomment : inComment template before.length = true) {edit : Edit}
    (hedit : edit ∈ editsFrom marker 0 0 pieces) :
    edit.stop ≤ byteLength before ∨ byteLength before + c.utf8Size ≤ edit.start := by
  obtain ⟨front, piece, back, rfl, hpiece⟩ := exists_of_mem_editsFrom hedit
  obtain ⟨hstart, hstop⟩ := edit?_eq_some hpiece
  rw [Nat.zero_add] at hstart hstop
  rw [List.flatMap_append, List.flatMap_cons] at hsource
  have hpassed : before ++ [c] <+: template := ⟨after, by rw [htemplate]; simp⟩
  have hfront : front.flatMap Piece.source <+: template := ⟨_, hsource⟩
  have hspanned : front.flatMap Piece.source ++ piece.source <+: template :=
    ⟨_, by rw [← hsource, List.append_assoc]⟩
  by_cases hearly : before.length < (front.flatMap Piece.source).length
  · have hle := byteLength_le_of_isPrefix
      (List.prefix_of_prefix_length_le hpassed hfront (by rwa [List.length_append]))
    right
    simpa [hstart] using hle
  · by_cases hlate : before.length < (front.flatMap Piece.source ++ piece.source).length
    · rw [List.length_append] at hlate
      have houtside := hreads.inComment_eq_false (isReplaced_of_edit? hpiece)
        (show before.length - (front.flatMap Piece.source).length < piece.source.length by omega)
      rw [Nat.add_sub_of_le (Nat.le_of_not_lt hearly), hcomment] at houtside
      cases houtside
    · have hle := byteLength_le_of_isPrefix (List.prefix_of_prefix_length_le hspanned
        ((List.prefix_append before [c]).trans hpassed) (Nat.le_of_not_lt hlate))
      left
      simpa [hstop, Piece.width] using hle

theorem exists_edit_of_brace (hreads : Reads pieces (lexStates .code template))
    (hsource : pieces.flatMap Piece.source = template) {before after : List Char} {c : Char}
    (htemplate : template = before ++ c :: after)
    (hcomment : inComment template before.length = false)
    (hc : c = '{' ∨ c = '}' ∧ after.head? = some '}') :
    ∃ edit ∈ editsFrom marker 0 0 pieces,
      edit.start ≤ byteLength before ∧ byteLength before + c.utf8Size ≤ edit.stop := by
  obtain ⟨front, piece, back, inner, outer, rfl, hpiece, rfl, rfl⟩ :=
    exists_piece_of_source (hsource.trans htemplate)
  rw [List.length_append] at hcomment
  have hreplaced := hreads.isReplaced hpiece hcomment hc
  obtain ⟨edit, hedit⟩ := exists_edit?_of_isReplaced hreplaced marker
    (0 + (placeholders front).length) (0 + byteLength (front.flatMap Piece.source))
  refine ⟨edit, mem_editsFrom hedit, ?_⟩
  obtain ⟨hstart, hstop⟩ := edit?_eq_some hedit
  rw [hstart, hstop, Piece.width, hpiece]
  simp only [byteLength_append, byteLength_cons]
  omega

theorem replaces_of_edit? {template : String} {params : List Param} {dialect : Dialect}
    {bound : BoundTemplate} {slot : Nat → Nat} {used : List Nat} {front back : List Piece}
    {piece : Piece}
    (hplaced : bound.Placed template params dialect (front ++ piece :: back) used slot)
    {edit : Edit}
    (hedit : edit? (fun number => dialect.marker (slot number)) (placeholders front).length
      (byteLength (front.flatMap Piece.source)) piece = some edit) :
    Replaces params dialect bound (Scan.ofPieces (front ++ piece :: back))
      ((lexStates .code template.toList).drop (front.flatMap Piece.source).length) edit
      piece.source := by
  have hproper := proper_of_piecesOf hplaced.pieces_eq piece (by simp)
  cases piece with
  | code c => cases hedit
  | hidden c => cases hedit
  | brace c =>
      obtain rfl := Option.some.inj hedit
      refine .brace ?_ hproper rfl
      show _ ∈ escapesFrom 0 (front ++ .brace c :: back)
      rw [escapesFrom_append, Nat.zero_add]
      exact List.mem_append_right _ List.mem_cons_self
  | placeholder name quote =>
      obtain rfl := Option.some.inj hedit
      have hname := (hplaced.replaced front name quote back rfl).2.2
      obtain ⟨param, hused, hparam⟩ := exists_getElem?_of_forall₂ hplaced.named hname
      obtain ⟨place, hslot, hbind⟩ := hplaced.bind_of_slot hused
      have hmarker := hplaced.marker_eq (placeholders front).length
      rw [hslot] at hmarker
      refine .placeholder ?_ hproper ?_ (by simp only [hslot]) hmarker hbind hparam
      · have hcount : (occurrencesFrom 0 front).length = (placeholders front).length := by
          rw [← names_occurrencesFrom 0 front, List.length_map]
        show (occurrencesFrom 0 (front ++ .placeholder name quote :: back))[_]? = _
        rw [occurrencesFrom_append, List.getElem?_append_right hcount.le, hcount, Nat.sub_self,
          Nat.zero_add]
        rfl
      · have hreads := (cuts_of_piecesOf hplaced.pieces_eq).reads trivial
        have hstate := hreads.of_append.2
        rw [List.getElem?_take] at hstate
        split at hstate
        · exact hstate
        · cases hstate

end

end Bytes

namespace BoundTemplate

/-- **Substitution is exact.** Scanning a template comes to an end and binding it has a result,
without a look beyond the template or into one of its characters. The result is that of binding by
pieces; if it is a bound text, then it is the template with each placeholder and each doubled brace
outside comments replaced, and everything else as it was. -/
theorem substitution_exact (template : String) (params : List Param) (entity : Entity)
    (dialect : Dialect) :
    (Bytes.scan? template.toList).isSome = true ∧
      Bytes.bind? template params entity dialect =
        some (ofTemplate template params entity dialect) ∧
      ∀ bound, ofTemplate template params entity dialect = .ok bound →
        ∃ found used edits, Bytes.scan? template.toList = some (.ok found) ∧
          (found.occurrences.map Bytes.Occurrence.name).mapM (findParam params) = .ok used ∧
          Bytes.edits? template.toList dialect (assignSlots dialect.reusesMarkers [] used).1
            found = some edits ∧
          Bytes.Substituted template.toList params dialect bound found edits := by
  refine ⟨?_, Bytes.bind?_eq template params entity dialect, fun bound hbound => ?_⟩
  · rw [Bytes.scan?_eq_ofPieces]
    rfl
  obtain ⟨pieces, used, hplaced⟩ := placed_of_ofTemplate hbound
  have hpieces := hplaced.pieces_eq
  have hsource := source_of_piecesOf hpieces
  have hreads : Reads pieces (lexStates .code template.toList) :=
    (cuts_of_piecesOf hpieces).reads trivial
  have hnames : (Bytes.Scan.ofPieces pieces).occurrences.map Bytes.Occurrence.name =
      placeholders pieces := Bytes.names_occurrencesFrom 0 pieces
  refine ⟨Bytes.Scan.ofPieces pieces, used,
    Bytes.editsFrom (fun number => dialect.marker (slotOf dialect used number)) 0 0 pieces,
    ?_, ?_, ?_, ?_⟩
  · rw [Bytes.scan?_eq_ofPieces, hpieces]
    rfl
  · rw [hnames]
    exact mapM_eq_ok_iff.mpr (hplaced.named.imp fun _ _ => findParam_of_firstNamed)
  · rw [assignSlots_eq, ← hplaced.named.length_eq]
    exact Bytes.edits?_ofPieces hpieces dialect (slotOf dialect used)
  constructor
  case replaces =>
    intro edit hedit
    have hlt := Bytes.start_lt_stop hedit
    obtain ⟨front, piece, back, rfl, hpiece⟩ := Bytes.exists_of_mem_editsFrom hedit
    rw [Nat.zero_add, Nat.zero_add] at hpiece
    obtain ⟨hstart, hstop⟩ := Bytes.edit?_eq_some hpiece
    refine ⟨front.flatMap Piece.source, piece.source, back.flatMap Piece.source, ?_, hstart, ?_,
      hlt, Bytes.replaces_of_edit? hplaced hpiece⟩
    · rw [← hsource, List.flatMap_append, List.flatMap_cons]
    · rw [hstop, byteLength_append, Piece.width]
  case disjoint => exact Bytes.pairwise_editsFrom _ 0 0 pieces
  case rewrites =>
    have hrewrites := Bytes.rewrites_editsFrom
      (fun number => dialect.marker (slotOf dialect used number)) 0 0 pieces
    rwa [hsource, ← hplaced.sql_eq] at hrewrites
  case comments =>
    intro before c after htemplate hcomment edit hedit
    exact Bytes.disjoint_comments hreads hsource htemplate hcomment hedit
  case complete =>
    intro before c after htemplate hcomment hc
    exact Bytes.exists_edit_of_brace hreads hsource htemplate hcomment hc

end BoundTemplate

/-- Braces are doubled or in comments here, quotes go with a placeholder or stay, and characters
have more than one byte. -/
def Accounts.bracedTemplate : String :=
  "SELECT 'é\x7b\x7b', \"ü\" -- \x7bskip\x7d \x7d\x7d\nFROM accounts /* ' \x7bno\x7d */ WHERE owner = '\x7bowner\x7d' AND owner <> '\x7d\x7d' OR owner = \x7bOWNER\x7d"

theorem BoundTemplate.substitution_exact_accounts :
    ∃ bound, ofTemplate Accounts.bracedTemplate Accounts.find.params Accounts.entity .postgres =
        .ok bound ∧
      bound.sql =
        "SELECT 'é\x7b', \"ü\" -- \x7bskip\x7d \x7d\x7d\nFROM accounts /* ' \x7bno\x7d */ WHERE owner = $1 AND owner <> '\x7d' OR owner = $1" ∧
      ∃ found used edits, Bytes.scan? Accounts.bracedTemplate.toList = some (.ok found) ∧
        (found.occurrences.map Bytes.Occurrence.name).mapM (findParam Accounts.find.params) =
          .ok used ∧
        Bytes.edits? Accounts.bracedTemplate.toList .postgres
          (assignSlots Dialect.postgres.reusesMarkers [] used).1 found = some edits ∧
        Bytes.Substituted Accounts.bracedTemplate.toList Accounts.find.params .postgres bound found
          edits := by
  have hbound : ofTemplate Accounts.bracedTemplate Accounts.find.params Accounts.entity .postgres =
      .ok {
        sql :=
          "SELECT 'é\x7b', \"ü\" -- \x7bskip\x7d \x7d\x7d\nFROM accounts /* ' \x7bno\x7d */ WHERE owner = $1 AND owner <> '\x7d' OR owner = $1"
        binds := [0]
        returnsRows := true
        unused := ["id"] } := by
    decide +kernel
  exact ⟨_, hbound, rfl,
    (substitution_exact Accounts.bracedTemplate Accounts.find.params Accounts.entity
      .postgres).2.2 _ hbound⟩

end QueryMethods

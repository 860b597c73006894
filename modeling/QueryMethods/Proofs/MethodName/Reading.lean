import QueryMethods.MethodName.Parser
import Mathlib.Control.Monad.Basic

/-!
# Names, read and written

A query name is its verb and then its fields with connectors between them. Reading cuts the name at
the leftmost connector and goes on behind it, so that the pieces give the name back. Fields are read
back from the name they are written as exactly when no connector begins inside a field.
-/

namespace QueryMethods

def HoldsConnector (text : List Char) : Prop :=
  ∃ connector : Connector, connector.infixed <:+: text

/-- No connector of the text begins before the one that stands between `before` and `after`. -/
def Connector.LeftmostIn (connector : Connector) (before after : List Char) : Prop :=
  ∀ place < before.length, ∀ other : Connector,
    ¬ other.infixed <+: (before ++ connector.infixed ++ after).drop place

/-- The pieces that a text falls into when it is cut at its leftmost connector, and what remains
behind it again as long as it holds one. -/
inductive CutsInto : List Char → List (List Char) → List Connector → Prop where
  | last {text : List Char} (h : ¬ HoldsConnector text) : CutsInto text [text] []
  | cut {before after : List Char} {connector : Connector} {pieces : List (List Char)}
      {connectors : List Connector} (hleft : connector.LeftmostIn before after)
      (hrest : CutsInto after pieces connectors) :
      CutsInto (before ++ connector.infixed ++ after) (before :: pieces) (connector :: connectors)

/-- Pieces with connectors between them. -/
def joinPieces : List (List Char) → List Connector → List Char
  | [], _ => []
  | piece :: _, [] => piece
  | piece :: pieces, connector :: connectors =>
      piece ++ connector.infixed ++ joinPieces pieces connectors

theorem Connector.leftmostIn_cons {connector : Connector} {c : Char} {before after : List Char} :
    connector.LeftmostIn (c :: before) after ↔
      (∀ other : Connector, ¬ other.infixed <+: c :: (before ++ connector.infixed ++ after)) ∧
        connector.LeftmostIn before after := by
  constructor
  · intro h
    exact ⟨h 0 (Nat.zero_lt_succ _), fun place hplace => h (place + 1) (Nat.succ_lt_succ hplace)⟩
  · rintro ⟨hfirst, hrest⟩ place hplace
    cases place with
    | zero => exact hfirst
    | succ place => exact hrest place (Nat.lt_of_succ_lt_succ hplace)

theorem Connector.prefix_of_prefix_append {connector other : Connector} {c : Char}
    {before after : List Char}
    (h : other.infixed <+: c :: (before ++ connector.infixed ++ after)) :
    other.infixed <+: c :: (before ++ connector.infixed) := by
  have hshort : c :: (before ++ connector.infixed) <+:
      c :: (before ++ connector.infixed ++ after) := ⟨after, rfl⟩
  -- any connector fits into one character and another connector
  have hlength : other.infixed.length ≤ 1 + connector.infixed.length := by
    cases other <;> cases connector <;> decide
  refine List.prefix_of_prefix_length_le h hshort ?_
  rw [List.length_cons, List.length_append]
  omega

/-- Whether a connector is leftmost does not depend on what comes behind it. -/
theorem Connector.leftmostIn_iff {connector : Connector} {before : List Char}
    (after : List Char) : connector.LeftmostIn before after ↔ connector.LeftmostIn before [] := by
  induction before with
  | nil => exact ⟨nofun, nofun⟩
  | cons c before ih =>
      rw [leftmostIn_cons, leftmostIn_cons, ih]
      refine and_congr_left' (forall_congr' fun other => not_congr ?_)
      rw [List.append_nil]
      exact ⟨prefix_of_prefix_append, fun h => h.trans ⟨after, rfl⟩⟩

theorem not_prefix_of_not_holdsConnector {text : List Char} (h : ¬ HoldsConnector text)
    (connector : Connector) : ¬ connector.infixed <+: text :=
  fun hprefix => h ⟨connector, hprefix.isInfix⟩

theorem holdsConnector_cons {c : Char} {text : List Char} :
    HoldsConnector (c :: text) ↔
      (∃ connector : Connector, connector.infixed <+: c :: text) ∨ HoldsConnector text := by
  simp only [HoldsConnector, List.infix_cons_iff, exists_or]

theorem splitConnectors_infixed (connector : Connector) (rest : List Char) :
    splitConnectors (connector.infixed ++ rest) =
      ([] :: (splitConnectors rest).1, connector :: (splitConnectors rest).2) := by
  cases connector <;> rfl

theorem splitConnectors_ne_nil (text : List Char) : (splitConnectors text).1 ≠ [] := by
  fun_induction splitConnectors text <;> simp

/-- The two texts that open with a connector are the first two that `splitConnectors` asks for. -/
theorem Connector.forall_not_prefix_iff {c : Char} {rest : List Char} :
    (∀ connector : Connector, ¬ connector.infixed <+: c :: rest) ↔
      (∀ more, c = '_' → rest = 'a' :: 'n' :: 'd' :: '_' :: more → False) ∧
        ∀ more, c = '_' → rest = 'o' :: 'r' :: '_' :: more → False := by
  constructor
  · refine fun h => ⟨?_, ?_⟩
    · rintro more rfl rfl
      exact h .and ⟨more, rfl⟩
    · rintro more rfl rfl
      exact h .or ⟨more, rfl⟩
  · rintro ⟨hand, hor⟩ connector ⟨more, hmore⟩
    cases connector with
    | and =>
        obtain ⟨hc, hrest⟩ := List.cons.inj hmore
        exact hand more hc.symm hrest.symm
    | or =>
        obtain ⟨hc, hrest⟩ := List.cons.inj hmore
        exact hor more hc.symm hrest.symm

theorem splitConnectors_cons {c : Char} {rest : List Char}
    (h : ∀ connector : Connector, ¬ connector.infixed <+: c :: rest) :
    splitConnectors (c :: rest) =
      ((splitConnectors rest).1.modifyHead (c :: ·), (splitConnectors rest).2) := by
  obtain ⟨hand, hor⟩ := Connector.forall_not_prefix_iff.mp h
  rw [splitConnectors.eq_3 c rest hand hor]
  have hne := splitConnectors_ne_nil rest
  generalize splitConnectors rest = split at hne ⊢
  obtain ⟨pieces, connectors⟩ := split
  cases pieces with
  | nil => exact absurd rfl hne
  | cons piece pieces => rfl

theorem splitConnectors_of_leftmostIn {connector : Connector} {before after : List Char}
    (h : connector.LeftmostIn before after) :
    splitConnectors (before ++ connector.infixed ++ after) =
      (before :: (splitConnectors after).1, connector :: (splitConnectors after).2) := by
  induction before with
  | nil => exact splitConnectors_infixed connector after
  | cons c before ih =>
      obtain ⟨hfirst, hrest⟩ := Connector.leftmostIn_cons.mp h
      rw [List.cons_append, List.cons_append, splitConnectors_cons hfirst, ih hrest,
        List.modifyHead_cons]

theorem splitConnectors_of_not_holdsConnector {text : List Char} (h : ¬ HoldsConnector text) :
    splitConnectors text = ([text], []) := by
  induction text with
  | nil => rfl
  | cons c rest ih =>
      have hrest : ¬ HoldsConnector rest := fun hholds => h (holdsConnector_cons.mpr (.inr hholds))
      rw [splitConnectors_cons (not_prefix_of_not_holdsConnector h), ih hrest,
        List.modifyHead_cons]

theorem CutsInto.cons {c : Char} {rest piece : List Char} {pieces : List (List Char)}
    {connectors : List Connector}
    (hfirst : ∀ connector : Connector, ¬ connector.infixed <+: c :: rest)
    (h : CutsInto rest (piece :: pieces) connectors) :
    CutsInto (c :: rest) ((c :: piece) :: pieces) connectors := by
  cases h with
  | last hnone =>
      refine .last fun hholds => ?_
      rcases holdsConnector_cons.mp hholds with ⟨connector, hprefix⟩ | hholds
      · exact hfirst connector hprefix
      · exact hnone hholds
  | cut hleft hrest => exact .cut (Connector.leftmostIn_cons.mpr ⟨hfirst, hleft⟩) hrest

theorem cutsInto_splitConnectors (text : List Char) :
    CutsInto text (splitConnectors text).1 (splitConnectors text).2 := by
  fun_induction splitConnectors text with
  | case1 rest pieces connectors hsplit ih =>
      rw [hsplit] at ih
      exact @CutsInto.cut [] rest .and _ _ nofun ih
  | case2 rest pieces connectors hsplit ih =>
      rw [hsplit] at ih
      exact @CutsInto.cut [] rest .or _ _ nofun ih
  | case3 c rest hand hor piece pieces connectors hsplit ih =>
      rw [hsplit] at ih
      exact ih.cons (Connector.forall_not_prefix_iff.mpr ⟨hand, hor⟩)
  | case4 c rest hand hor connectors hsplit ih =>
      have hnil : (splitConnectors rest).1 = [] := by rw [hsplit]
      exact absurd hnil (splitConnectors_ne_nil rest)
  | case5 =>
      refine .last ?_
      rintro ⟨connector, hinside⟩
      cases connector <;> simp [Connector.infixed] at hinside

/-- Cutting at the leftmost connectors is what `splitConnectors` does, in one pass. -/
theorem splitConnectors_eq_iff {text : List Char} {pieces : List (List Char)}
    {connectors : List Connector} :
    splitConnectors text = (pieces, connectors) ↔ CutsInto text pieces connectors := by
  constructor
  · intro h
    have hcuts := cutsInto_splitConnectors text
    rwa [h] at hcuts
  · intro h
    induction h with
    | last hnone => exact splitConnectors_of_not_holdsConnector hnone
    | cut hleft _ ih => rw [splitConnectors_of_leftmostIn hleft, ih]

/-! ### Pieces that can be cut apart again -/

/-- One connector stands between any two pieces, none begins inside a piece, and the last piece
holds none. -/
structure Separated (pieces : List (List Char)) (connectors : List Connector) : Prop where
  length_eq : pieces.length = connectors.length + 1
  leftmost : ∀ piece connector, (piece, connector) ∈ pieces.zip connectors →
    connector.LeftmostIn piece []
  last : ∀ piece ∈ pieces.getLast?, ¬ HoldsConnector piece

theorem Connector.LeftmostIn.not_holdsConnector {connector : Connector} {before after : List Char}
    (h : connector.LeftmostIn before after) : ¬ HoldsConnector before := by
  rintro ⟨other, start, rest, rfl⟩
  have hplace : start.length < (start ++ other.infixed ++ rest).length := by
    cases other <;> simp [infixed]
  refine h start.length hplace other ?_
  simp [List.append_assoc]

namespace CutsInto

variable {text : List Char} {pieces : List (List Char)} {connectors : List Connector}

theorem joinPieces_eq (h : CutsInto text pieces connectors) :
    joinPieces pieces connectors = text := by
  induction h with
  | last _ => rfl
  | cut _ _ ih => rw [joinPieces, ih]

theorem ne_nil (h : CutsInto text pieces connectors) : pieces ≠ [] := by
  cases h <;> exact List.cons_ne_nil _ _

theorem separated (h : CutsInto text pieces connectors) : Separated pieces connectors := by
  induction h with
  | last hnone =>
      refine ⟨rfl, nofun, fun piece hlast => ?_⟩
      obtain rfl := Option.some.inj hlast
      exact hnone
  | @cut before after connector pieces connectors hleft hrest ih =>
      constructor
      case length_eq => rw [List.length_cons, List.length_cons, ih.length_eq]
      case leftmost =>
        intro piece other hmem
        rcases List.mem_cons.mp hmem with heq | hmem
        · obtain ⟨rfl, rfl⟩ := Prod.mk.inj heq
          exact (Connector.leftmostIn_iff after).mp hleft
        · exact ih.leftmost piece other hmem
      case last =>
        rw [List.getLast?_cons_of_ne_nil hrest.ne_nil]
        exact ih.last

theorem infix_of_mem (h : CutsInto text pieces connectors) :
    ∀ piece ∈ pieces, piece <:+: text := by
  induction h with
  | last _ => exact fun piece hmem => List.mem_singleton.mp hmem ▸ List.infix_rfl
  | @cut before after connector _ _ _ _ ih =>
      intro piece hmem
      rcases List.mem_cons.mp hmem with rfl | hmem
      · exact ⟨[], connector.infixed ++ after, by simp⟩
      · exact (ih piece hmem).trans (List.suffix_append _ after).isInfix

theorem not_holdsConnector (h : CutsInto text pieces connectors) :
    ∀ piece ∈ pieces, ¬ HoldsConnector piece := by
  induction h with
  | last hnone => exact fun piece hmem => List.mem_singleton.mp hmem ▸ hnone
  | cut hleft _ ih =>
      intro piece hmem
      rcases List.mem_cons.mp hmem with rfl | hmem
      · exact hleft.not_holdsConnector
      · exact ih piece hmem

end CutsInto

theorem Separated.cutsInto {pieces : List (List Char)} {connectors : List Connector}
    (h : Separated pieces connectors) :
    CutsInto (joinPieces pieces connectors) pieces connectors := by
  induction pieces generalizing connectors with
  | nil => cases h.length_eq
  | cons piece pieces ih =>
      cases connectors with
      | nil =>
          obtain rfl := List.eq_nil_of_length_eq_zero (Nat.succ.inj h.length_eq)
          exact .last (h.last piece rfl)
      | cons connector connectors =>
          have hlength : pieces.length = connectors.length + 1 := Nat.succ.inj h.length_eq
          have hne : pieces ≠ [] := List.ne_nil_of_length_eq_add_one hlength
          have hrest : Separated pieces connectors :=
            { length_eq := hlength
              leftmost := fun other between hmem =>
                h.leftmost other between (List.mem_cons_of_mem _ hmem)
              last := by
                have hlast := h.last
                rwa [List.getLast?_cons_of_ne_nil hne] at hlast }
          have hleft := h.leftmost piece connector (List.mem_cons_self ..)
          exact .cut ((Connector.leftmostIn_iff _).mpr hleft) (ih hrest)

/-! ### Verbs -/

namespace Verb

theorem mem_all (verb : Verb) : verb ∈ all := by
  cases verb <;> decide

/-- No text opens with two verbs. -/
theorem eq_of_prefix {first second : Verb} {text : List Char} (hfirst : first.opening <+: text)
    (hsecond : second.opening <+: text) : first = second := by
  have hcases : first.opening <+: second.opening ∨ second.opening <+: first.opening :=
    List.prefix_or_prefix_of_prefix hfirst hsecond
  clear hfirst hsecond
  revert hcases
  cases first <;> cases second <;> decide

end Verb

namespace MethodName

theorem splitVerb?_eq_none_iff {text : List Char} :
    splitVerb? text = none ↔ ∀ verb : Verb, ¬ verb.opening <+: text := by
  unfold splitVerb?
  rw [List.findSome?_eq_none_iff]
  constructor
  · intro h verb hprefix
    have hverb := h verb verb.mem_all
    rw [if_pos (List.isPrefixOf_iff_prefix.mpr hprefix)] at hverb
    cases hverb
  · intro h verb _
    exact if_neg fun hprefix => h verb (List.isPrefixOf_iff_prefix.mp hprefix)

theorem splitVerb?_eq_some_iff {text rest : List Char} {verb : Verb} :
    splitVerb? text = some (verb, rest) ↔ text = verb.opening ++ rest := by
  have hsound : ∀ other more, splitVerb? text = some (other, more) →
      text = other.opening ++ more := by
    intro other more h
    obtain ⟨found, _, hfound⟩ := List.exists_of_findSome?_eq_some h
    split at hfound
    case isFalse => cases hfound
    case isTrue hprefix =>
      obtain ⟨tail, rfl⟩ := List.isPrefixOf_iff_prefix.mp hprefix
      obtain ⟨rfl, rfl⟩ := Prod.mk.inj (Option.some.inj hfound)
      rw [List.drop_left]
  refine ⟨hsound verb rest, fun htext => ?_⟩
  cases hsplit : splitVerb? text with
  | none => exact absurd ⟨rest, htext.symm⟩ (splitVerb?_eq_none_iff.mp hsplit verb)
  | some found =>
      obtain ⟨other, more⟩ := found
      have hother := hsound other more hsplit
      obtain rfl : other = verb :=
        Verb.eq_of_prefix ⟨more, hother.symm⟩ ⟨rest, htext.symm⟩
      rw [List.append_cancel_left (hother.symm.trans htext)]

theorem parse_eq_none_iff {text : String} :
    parse text = .ok none ↔ splitVerb? (foldCase text.toList) = none := by
  unfold parse
  cases splitVerb? (foldCase text.toList) with
  | none => simp
  | some found =>
      simp only [reduceCtorEq, iff_false]
      split <;> simp

/-- A name with a verb is read piece by piece, unless one of the pieces is empty. -/
theorem parse_eq_of_opening {text : String} {verb : Verb} {pieces : List (List Char)}
    {connectors : List Connector} {rest : List Char}
    (htext : foldCase text.toList = verb.opening ++ rest)
    (hcuts : CutsInto rest pieces connectors) :
    parse text = match pieces.findIdx? List.isEmpty with
      | some position => .error (.emptyField position)
      | none => .ok (some ⟨verb, pieces.map String.ofList, connectors⟩) := by
  have hverb := splitVerb?_eq_some_iff.mpr htext
  have hsplit := splitConnectors_eq_iff.mpr hcuts
  cases hempty : pieces.findIdx? List.isEmpty with
  | none => simp only [parse, hverb, hsplit, hempty]
  | some position => simp only [parse, hverb, hsplit, hempty]

/-- How a name with a verb is read. -/
structure ReadAs (text : String) (verb : Verb) (pieces : List (List Char))
    (connectors : List Connector) : Prop where
  /-- Of all verbs, the text opens with this one. -/
  opens_iff : ∀ other : Verb, other.opening <+: foldCase text.toList ↔ other = verb
  text_eq : foldCase text.toList = verb.opening ++ joinPieces pieces connectors
  cuts : CutsInto (joinPieces pieces connectors) pieces connectors
  undivided : ∀ piece ∈ pieces, ¬ HoldsConnector piece
  length_eq : pieces.length = connectors.length + 1
  /-- The first empty piece is the fault. -/
  empty_iff : ∀ position, parse text = .error (.emptyField position) ↔
    pieces[position]? = some [] ∧ ∀ earlier < position, pieces[earlier]? ≠ some []
  fault_eq : ∀ fault, parse text = .error fault → ∃ position, fault = .emptyField position
  name_iff : ∀ name, parse text = .ok (some name) ↔
    [] ∉ pieces ∧ name = ⟨verb, pieces.map String.ofList, connectors⟩

theorem readAs_of_opening {text : String} {verb : Verb} {rest : List Char}
    (htext : foldCase text.toList = verb.opening ++ rest) :
    ReadAs text verb (splitConnectors rest).1 (splitConnectors rest).2 := by
  have hcuts := cutsInto_splitConnectors rest
  have hparse := parse_eq_of_opening htext hcuts
  generalize (splitConnectors rest).1 = pieces at hcuts hparse ⊢
  generalize (splitConnectors rest).2 = connectors at hcuts hparse ⊢
  constructor
  case opens_iff =>
    refine fun other => ⟨fun hprefix => Verb.eq_of_prefix hprefix ⟨rest, htext.symm⟩, ?_⟩
    rintro rfl
    exact ⟨rest, htext.symm⟩
  case text_eq => rw [hcuts.joinPieces_eq, htext]
  case cuts => rwa [hcuts.joinPieces_eq]
  case undivided => exact hcuts.not_holdsConnector
  case length_eq => exact hcuts.separated.length_eq
  all_goals
    rw [hparse]
    cases hfind : pieces.findIdx? List.isEmpty
  case empty_iff.none =>
    have hall := List.findIdx?_eq_none_iff.mp hfind
    intro position
    simp only [reduceCtorEq, false_iff, not_and]
    intro hempty
    have hfalse := hall [] (List.mem_of_getElem? hempty)
    cases hfalse
  case empty_iff.some found =>
    obtain ⟨hlt, hempty, hearlier⟩ := List.findIdx?_eq_some_iff_getElem.mp hfind
    have hfound : pieces[found]? = some [] := by
      rw [List.getElem?_eq_getElem hlt, List.isEmpty_iff.mp hempty]
    have hbefore : ∀ earlier < found, pieces[earlier]? ≠ some [] := by
      intro earlier hless hnil
      obtain ⟨hplace, heq⟩ := List.getElem?_eq_some_iff.mp hnil
      exact hearlier earlier hless (by rw [heq, List.isEmpty_nil])
    intro position
    constructor
    · intro heq
      obtain rfl : found = position := NameFault.emptyField.inj (Except.error.inj heq)
      exact ⟨hfound, hbefore⟩
    · rintro ⟨hposition, hfirst⟩
      rcases Nat.lt_trichotomy found position with hless | rfl | hless
      · exact absurd hfound (hfirst found hless)
      · rfl
      · exact absurd hposition (hbefore position hless)
  case fault_eq.none => simp
  case fault_eq.some found => simp
  case name_iff.none =>
    have hnil : [] ∉ pieces := fun hmem => by
      cases List.findIdx?_eq_none_iff.mp hfind [] hmem
    simp [hnil, eq_comm]
  case name_iff.some found =>
    obtain ⟨hlt, hempty, _⟩ := List.findIdx?_eq_some_iff_getElem.mp hfind
    have hnil : [] ∈ pieces := List.isEmpty_iff.mp hempty ▸ List.getElem_mem hlt
    simp [hnil]

def render (name : MethodName) : List Char :=
  name.verb.opening ++ joinPieces (name.fields.map String.toList) name.connectors

/-- A name that can be read back from its text. -/
structure Canonical (name : MethodName) : Prop where
  lowered : ∀ field ∈ name.fields, foldCase field.toList = field.toList
  nonempty : ∀ field ∈ name.fields, field ≠ ""
  separated : Separated (name.fields.map String.toList) name.connectors

theorem foldCase_eq_self_iff {text : List Char} :
    foldCase text = text ↔ ∀ c ∈ text, c.toLower = c := by
  induction text with
  | nil => simp [foldCase]
  | cons c text ih =>
      rw [List.forall_mem_cons, ← ih]
      simp [foldCase]

theorem foldCase_render {name : MethodName} (h : name.Canonical) :
    foldCase name.render = name.render := by
  have hjoin : ∀ pieces : List (List Char), (∀ piece ∈ pieces, foldCase piece = piece) →
      ∀ connectors, foldCase (joinPieces pieces connectors) = joinPieces pieces connectors := by
    intro pieces
    induction pieces with
    | nil => exact fun _ _ => rfl
    | cons piece pieces ih =>
        intro hpieces connectors
        obtain ⟨hpiece, hrest⟩ := List.forall_mem_cons.mp hpieces
        cases connectors with
        | nil => exact hpiece
        | cons connector connectors =>
            have hconnector : foldCase connector.infixed = connector.infixed := by
              cases connector <;> decide
            rw [joinPieces, foldCase_append, foldCase_append, hpiece, hconnector, ih hrest]
  have hverb : foldCase name.verb.opening = name.verb.opening := by cases name.verb <;> decide
  have hfields : ∀ piece ∈ name.fields.map String.toList, foldCase piece = piece := by
    simpa using h.lowered
  rw [render, foldCase_append, hverb, hjoin _ hfields]

/-- A name is read from the texts that write it, in any ASCII case, and from no others. -/
theorem parse_eq_some_iff {text : String} {name : MethodName} :
    parse text = .ok (some name) ↔ name.Canonical ∧ foldCase text.toList = name.render := by
  constructor
  · intro h
    cases hsplit : splitVerb? (foldCase text.toList) with
    | none =>
        rw [parse_eq_none_iff.mpr hsplit] at h
        cases h
    | some found =>
        obtain ⟨verb, rest⟩ := found
        have hread := readAs_of_opening (splitVerb?_eq_some_iff.mp hsplit)
        obtain ⟨hnonempty, rfl⟩ := (hread.name_iff name).mp h
        have hback : ((splitConnectors rest).1.map String.ofList).map String.toList =
            (splitConnectors rest).1 := by simp
        have hlowered := foldCase_eq_self_iff.mp (foldCase_foldCase text.toList)
        rw [hread.text_eq] at hlowered
        refine ⟨?_, by rw [render, hback, hread.text_eq]⟩
        constructor
        case lowered =>
          intro field hfield
          obtain ⟨piece, hpiece, rfl⟩ := List.mem_map.mp hfield
          have hinside := hread.cuts.infix_of_mem piece hpiece
          rw [String.toList_ofList, foldCase_eq_self_iff]
          exact fun c hc => hlowered c (List.mem_append_right _ (hinside.subset hc))
        case nonempty =>
          rintro field hfield rfl
          obtain ⟨piece, hpiece, hempty⟩ := List.mem_map.mp hfield
          rw [String.ofList_eq_empty_iff.mp hempty] at hpiece
          exact hnonempty hpiece
        case separated => exact hback.symm ▸ hread.cuts.separated
  · rintro ⟨hname, htext⟩
    rw [parse_eq_of_opening htext hname.separated.cutsInto]
    have hnone : (name.fields.map String.toList).findIdx? List.isEmpty = none := by
      rw [List.findIdx?_eq_none_iff]
      simpa using hname.nonempty
    simp [hnone]

/-- **Names are read exactly.** A text without a verb is no name. Any other text falls into the
pieces between its leftmost connectors, and the first empty piece is a fault; otherwise the pieces
are the fields. Fields that no connector begins in are read back from the text that writes them. -/
theorem parse_exact (text : String) :
    (parse text = .ok none ↔ ∀ verb : Verb, ¬ verb.opening <+: foldCase text.toList) ∧
      (parse text = .ok none ↔ hasVerb text = false) ∧
      (parse text ≠ .ok none → ∃ verb pieces connectors, ReadAs text verb pieces connectors) ∧
      ∀ name : MethodName, name.Canonical → parse (String.ofList name.render) = .ok (some name) := by
  refine ⟨?_, ?_, fun hverb => ?_, fun name hname => ?_⟩
  · rw [parse_eq_none_iff, splitVerb?_eq_none_iff]
  · rw [parse_eq_none_iff, hasVerb, Option.isSome_eq_false_iff, Option.isNone_iff_eq_none]
  · cases hsplit : splitVerb? (foldCase text.toList) with
    | none => exact absurd (parse_eq_none_iff.mpr hsplit) hverb
    | some found =>
        obtain ⟨verb, rest⟩ := found
        exact ⟨verb, _, _, readAs_of_opening (splitVerb?_eq_some_iff.mp hsplit)⟩
  · rw [parse_eq_some_iff, String.toList_ofList]
    exact ⟨hname, foldCase_render hname⟩

/-- The connectors of this name share underscores with its fields. -/
def overlapping : MethodName :=
  ⟨.countBy, ["brand", "and", "and_x"], [.or, .or]⟩

theorem parse_exact_overlapping :
    parse "Count_By_brand_or_and_or_and_x" ≠ .ok none ∧
      (∃ verb pieces connectors,
        ReadAs "Count_By_brand_or_and_or_and_x" verb pieces connectors) ∧
      overlapping.Canonical ∧
      parse (String.ofList overlapping.render) = .ok (some overlapping) := by
  have hread : parse "Count_By_brand_or_and_or_and_x" = .ok (some overlapping) := by
    decide +kernel
  have hverb : parse "Count_By_brand_or_and_or_and_x" ≠ .ok none := hread ▸ nofun
  obtain ⟨hname, -⟩ := parse_eq_some_iff.mp hread
  obtain ⟨-, -, hpieces, hback⟩ := parse_exact "Count_By_brand_or_and_or_and_x"
  exact ⟨hverb, hpieces hverb, hname, hback _ hname⟩

end MethodName

end QueryMethods

import QueryMethods.Proofs.Template.Pieces
import QueryMethods.Proofs.Template.Regions

/-!
# How a template falls into pieces

`Region.Cuts` lists the steps by which a template that is not refused is cut, one for each thing
that can stand at the front of the text. What is said of the pieces of a template goes by induction
on these steps.
-/

namespace QueryMethods

/-- The text, with the region left open before it, falls into these pieces. -/
inductive Region.Cuts : Region → List Char → List Piece → Prop where
  | done {region : Region} (hregion : region.opened = []) : region.Cuts [] []
  | lineEnd {rest : List Char} {later : List Piece} (hrest : Region.code.Cuts rest later) :
      Region.lineComment.Cuts ('\n' :: rest) (.code '\n' :: later)
  | lineChar {c : Char} {rest : List Char} {later : List Piece} (hc : c ≠ '\n')
      (hrest : Region.lineComment.Cuts rest later) :
      Region.lineComment.Cuts (c :: rest) (.hidden c :: later)
  | blockEnd {rest : List Char} {later : List Piece} (hrest : Region.code.Cuts rest later) :
      Region.blockComment.Cuts ('*' :: '/' :: rest) (.hidden '*' :: .hidden '/' :: later)
  | blockChar {c : Char} {rest : List Char} {later : List Piece}
      (hc : c = '*' → rest.head? ≠ some '/') (hrest : Region.blockComment.Cuts rest later) :
      Region.blockComment.Cuts (c :: rest) (.hidden c :: later)
  | literalBrace {quote c : Char} {rest : List Char} {later : List Piece}
      (hc : c = '{' ∨ c = '}') (hrest : (Region.literal quote).Cuts rest later) :
      (Region.literal quote).Cuts (c :: c :: rest) (.brace c :: later)
  | literalEnd {quote : Char} {rest : List Char} {later : List Piece}
      (hrest : Region.code.Cuts rest later) :
      (Region.literal quote).Cuts (quote :: rest) (.code quote :: later)
  | literalChar {quote c : Char} {rest : List Char} {later : List Piece} (hc : c ≠ quote)
      (hopen : c ≠ '{') (hclose : c = '}' → rest.head? ≠ some '}')
      (hrest : (Region.literal quote).Cuts rest later) :
      (Region.literal quote).Cuts (c :: rest) (literalPiece quote c :: later)
  | brace {c : Char} {rest : List Char} {later : List Piece} (hc : c = '{' ∨ c = '}')
      (hrest : Region.code.Cuts rest later) :
      Region.code.Cuts (c :: c :: rest) (.brace c :: later)
  | lineStart {rest : List Char} {later : List Piece}
      (hrest : Region.lineComment.Cuts rest later) :
      Region.code.Cuts ('-' :: '-' :: rest) (.hidden '-' :: .hidden '-' :: later)
  | blockStart {rest : List Char} {later : List Piece}
      (hrest : Region.blockComment.Cuts rest later) :
      Region.code.Cuts ('/' :: '*' :: rest) (.hidden '/' :: .hidden '*' :: later)
  | literalStart {quote : Char} {rest : List Char} {later : List Piece}
      (hquote : isQuote quote = true) (hopen : opensPlaceholder rest = false)
      (hrest : (Region.literal quote).Cuts rest later) :
      Region.code.Cuts (quote :: rest) (.code quote :: later)
  /-- A placeholder without quotes around it. -/
  | bare {name rest : List Char} {later : List Piece} (hname : isIdentifier name = true)
      (hrest : Region.code.Cuts rest later) :
      Region.code.Cuts ('{' :: (name ++ '}' :: rest))
        (.placeholder (String.ofList name) none :: later)
  /-- A placeholder that fills a literal. -/
  | filled {quote : Char} {name rest : List Char} {later : List Piece}
      (hquote : isQuote quote = true) (hname : isIdentifier name = true)
      (hrest : Region.code.Cuts rest later) :
      Region.code.Cuts (quote :: '{' :: (name ++ '}' :: quote :: rest))
        (.placeholder (String.ofList name) (some quote) :: later)
  | char {c : Char} {rest : List Char} {later : List Piece} (hquote : isQuote c = false)
      (hopen : c ≠ '{') (hclose : c = '}' → rest.head? ≠ some '}')
      (hline : c = '-' → rest.head? ≠ some '-') (hblock : c = '/' → rest.head? ≠ some '*')
      (hrest : Region.code.Cuts rest later) :
      Region.code.Cuts (c :: rest) (.code c :: later)

/-- The quote that goes with a placeholder, where it may stand at all. -/
def Enclosure.quotes? : Enclosure → Option (Option Char)
  | .bare => some none
  | .opened quote => some (some quote)
  | .embedded => none

/-- The rest of an unfinished placeholder, and the pieces after it. -/
def Enclosure.Closes (enclosure : Enclosure) (reversed text : List Char) (pieces : List Piece) :
    Prop :=
  ∃ quote more rest later, enclosure.quotes? = some quote ∧
    isIdentifier (reversed.reverse ++ more) = true ∧
    text = more ++ '}' :: (quote.toList ++ rest) ∧ Region.code.Cuts rest later ∧
    pieces = .placeholder (String.ofList (reversed.reverse ++ more)) quote :: later

def Region.Outcome : Region → List Char → List Piece → Prop
  | .name _ enclosure reversed, text, pieces => enclosure.Closes reversed text pieces
  | region, text, pieces => region.Cuts text pieces

theorem Enclosure.Closes.cons {enclosure : Enclosure} {reversed text : List Char} {c : Char}
    {pieces : List Piece} (h : enclosure.Closes (c :: reversed) text pieces) :
    enclosure.Closes reversed (c :: text) pieces := by
  obtain ⟨quote, more, rest, later, hquote, hname, rfl, hrest, rfl⟩ := h
  refine ⟨quote, c :: more, rest, later, hquote, ?_, rfl, hrest, ?_⟩
  · simpa using hname
  · simp

theorem head?_ne_some_of_forall {text : List Char} {c : Char} (h : ∀ rest, text ≠ c :: rest) :
    text.head? ≠ some c := by
  cases text with
  | nil => simp
  | cons d rest =>
      intro hhead
      exact h rest (by rw [Option.some.inj hhead])

theorem eq_cons_of_opensPlaceholder {c : Char} {rest : List Char}
    (h : opensPlaceholder (c :: rest) = true) : c = '{' := by
  unfold opensPlaceholder at h
  split at h <;> simp_all

theorem outcome_of_scan {region : Region} {offset : Nat} {text : List Char} {pieces : List Piece}
    (h : scan region offset text = .ok pieces) : region.Outcome text pieces := by
  fun_induction scan region offset text generalizing pieces
  -- the template is refused
  case case1 | case4 | case5 | case6 => cases h
  -- a placeholder ends, or its name goes on
  case case2 name hname rest ih =>
    obtain ⟨later, hlater, rfl⟩ := eq_ok_of_map h
    exact ⟨none, [], rest, later, rfl, by simpa using hname, rfl, ih hlater, by simp [name]⟩
  case case3 name hname close rest ih =>
    obtain ⟨later, hlater, rfl⟩ := eq_ok_of_map h
    exact ⟨some close, [], rest, later, rfl, by simpa using hname, rfl, ih hlater,
      by simp [name]⟩
  case case7 ih => exact (ih h).cons
  -- the text ends
  case case8 region _ hregion =>
    rw [← Except.ok.inj h]
    cases region with
    | name start enclosure reversed => exact absurd rfl (hregion start enclosure reversed)
    | _ => exact .done rfl
  case case24 hquote _ _ _ _ =>
    rw [← Except.ok.inj h]
    exact .literalStart hquote rfl (.done rfl)
  -- a placeholder begins
  case case15 ih =>
    obtain ⟨_, _, _, _, hquote, _⟩ := ih h
    cases hquote
  case case21 ih =>
    obtain ⟨_, more, rest, later, hquote, hname, rfl, hrest, rfl⟩ := ih h
    obtain rfl := Option.some.inj hquote
    exact .bare hname hrest
  case case22 hquote brace after hopens _ _ _ _ ih =>
    obtain rfl := eq_cons_of_opensPlaceholder hopens
    obtain ⟨_, more, rest, later, henclosure, hname, rfl, hrest, rfl⟩ := ih h
    obtain rfl := Option.some.inj henclosure
    exact .filled hquote hname hrest
  -- one or two characters go to the front
  all_goals
    rename_i ih
    obtain ⟨later, hlater, rfl⟩ := eq_ok_of_map h
    have hrest := ih hlater
  case case9 => exact .lineEnd hrest
  case case10 hc => exact .lineChar hc hrest
  case case11 => exact .blockEnd hrest
  case case12 hblock =>
    exact .blockChar (fun hc => head?_ne_some_of_forall fun rest => hblock rest hc) hrest
  case case13 => exact .literalBrace (.inl rfl) hrest
  case case14 => exact .literalBrace (.inr rfl) hrest
  case case16 quote _ c rest _ hclose hopen =>
    by_cases hc : c = quote
    · rw [if_pos hc] at hrest
      rw [hc, show literalPiece quote quote = .code quote by simp [literalPiece]]
      exact .literalEnd hrest
    · rw [if_neg hc] at hrest
      have hhead := fun hc => head?_ne_some_of_forall fun rest => hclose rest hc
      exact .literalChar hc hopen hhead hrest
  case case17 => exact .brace (.inl rfl) hrest
  case case18 => exact .brace (.inr rfl) hrest
  case case19 => exact .lineStart hrest
  case case20 => exact .blockStart hrest
  case case23 hquote _ _ hopens _ _ _ _ =>
    exact .literalStart hquote (Bool.eq_false_iff.mpr hopens) hrest
  case case25 hclose hline hblock hopen hquote =>
    have hhead := fun hc => head?_ne_some_of_forall fun rest => hclose rest hc
    exact .char (Bool.eq_false_iff.mpr hquote) hopen hhead
      (fun hc => head?_ne_some_of_forall fun rest => hline rest hc)
      (fun hc => head?_ne_some_of_forall fun rest => hblock rest hc) hrest

/-- A template that is not refused falls into its pieces. -/
theorem cuts_of_piecesOf {template : List Char} {pieces : List Piece}
    (h : piecesOf template = .ok pieces) : Region.code.Cuts template pieces :=
  outcome_of_scan h

theorem opensPlaceholder_iff {text : List Char} :
    opensPlaceholder text = true ↔ ∃ rest, text = '{' :: rest ∧ rest.head? ≠ some '{' := by
  constructor
  · intro hopens
    cases text with
    | nil => cases hopens
    | cons c rest =>
        obtain rfl := eq_cons_of_opensPlaceholder hopens
        refine ⟨rest, rfl, fun hhead => ?_⟩
        obtain ⟨later, rfl⟩ := List.head?_eq_some_iff.mp hhead
        cases hopens
  · rintro ⟨rest, rfl, hhead⟩
    cases rest with
    | nil => rfl
    | cons d rest =>
        have hd : d ≠ '{' := fun heq => hhead (congrArg some heq)
        unfold opensPlaceholder
        split <;> simp_all

theorem opensPlaceholder_name {name : List Char} (hname : isIdentifier name = true)
    (after : List Char) : opensPlaceholder ('{' :: (name ++ after)) = true := by
  cases name with
  | nil => cases hname
  | cons c name =>
      refine opensPlaceholder_iff.mpr ⟨_, rfl, fun hhead => ?_⟩
      obtain rfl : c = '{' := Option.some.inj hhead
      cases List.all_eq_true.mp (all_isWordChar_of_isIdentifier hname) '{' List.mem_cons_self

theorem cutAt?_name {name : List Char} (hname : isIdentifier name = true) (after : List Char) :
    cutAt? ['}'] (name ++ '}' :: after) = some (name, after) := by
  have hword := List.all_eq_true.mp (all_isWordChar_of_isIdentifier hname)
  have hall : ∀ c ∈ name, (c != '}') = true := by
    intro c hmem
    rw [bne_iff_ne]
    rintro rfl
    cases hword _ hmem
  rw [cutAt?_singleton, List.dropWhile_append_of_pos hall, List.takeWhile_append_of_pos hall]
  simp

/-- A literal is opened by a quote. -/
def Region.Proper : Region → Prop
  | .literal quote => isQuote quote = true
  | _ => True

/-- The steps of the cutting are those of the scan. -/
theorem Region.Cuts.scan_eq {region : Region} {text : List Char} {pieces : List Piece}
    (h : region.Cuts text pieces) (hregion : region.Proper) (offset : Nat) :
    scan region offset text = .ok pieces := by
  induction h generalizing offset with
  | @done region hopened =>
      cases region with
      | name start enclosure reversed => cases enclosure <;> cases hopened
      | _ => simp [scan]
  | lineEnd hrest ih =>
      rw [scan, if_pos rfl, ih trivial]
      rfl
  | lineChar hc hrest ih =>
      rw [scan, if_neg hc, ih trivial]
      rfl
  | blockEnd hrest ih =>
      rw [scan, ih trivial]
      rfl
  | blockChar hc hrest ih =>
      rw [scan, ih trivial]
      · rfl
      · rintro after rfl rfl
        exact hc rfl rfl
  | literalBrace hc hrest ih =>
      rcases hc with rfl | rfl
      · rw [scan, ih hregion]
        rfl
      · rw [scan, ih hregion]
        rfl
  | @literalEnd quote rest later hrest ih =>
      have hquote : isQuote quote = true := hregion
      rw [scan_literal_plain, if_pos rfl, ih trivial]
      · simp [Except.map, literalPiece]
      · rintro rfl
        cases hquote
      · rintro rfl
        cases hquote
  | literalChar hc hopen hclose hrest ih =>
      rw [scan_literal_plain _ _ hopen hclose, if_neg hc, ih hregion]
      rfl
  | brace hc hrest ih =>
      rcases hc with rfl | rfl
      · rw [scan, ih trivial]
        rfl
      · rw [scan, ih trivial]
        rfl
  | lineStart hrest ih =>
      rw [scan, ih trivial]
      rfl
  | blockStart hrest ih =>
      rw [scan, ih trivial]
      rfl
  | literalStart hquote hopen hrest ih =>
      rw [scan_code_quote _ hquote, if_neg (by rw [hopen]; exact Bool.false_ne_true), ih hquote]
      rfl
  | bare hname hrest ih =>
      rw [scan_code_open _ (opensPlaceholder_name hname _), scan_name_nil, cutAt?_name hname]
      simp only [hname, if_true, scanClosed, ih trivial]
      rfl
  | filled hquote hname hrest ih =>
      rw [scan_code_quote _ hquote, if_pos (opensPlaceholder_name hname _), List.tail_cons,
        scan_name_nil, cutAt?_name hname]
      simp only [hname, if_true, scanClosed, ih trivial]
      rfl
  | char hquote hopen hclose hdash hslash hrest ih =>
      rw [scan_code_plain _ hquote hopen hclose hdash hslash, ih trivial]
      rfl

/-- A template falls into pieces by these steps exactly if a scan has them as its result. -/
theorem piecesOf_eq_ok_iff {template : List Char} {pieces : List Piece} :
    piecesOf template = .ok pieces ↔ Region.code.Cuts template pieces :=
  ⟨cuts_of_piecesOf, fun h => h.scan_eq trivial 0⟩

theorem source_placeholder (name : String) (quote : Option Char) :
    (Piece.placeholder name quote).source =
      quote.toList ++ ['{'] ++ (name.toList ++ ('}' :: quote.toList)) := by
  cases quote <;> simp [Piece.source]

theorem Region.Cuts.source {region : Region} {text : List Char} {pieces : List Piece}
    (h : region.Cuts text pieces) : pieces.flatMap Piece.source = text := by
  induction h with
  | literalChar hc hopen hclose hrest ih => rw [List.flatMap_cons, source_literalPiece, ih]; rfl
  | _ => simp_all [Piece.source]

/-- What the pieces of a template are made of. -/
def Piece.Proper : Piece → Prop
  | .code c => c ≠ '{'
  | .hidden _ => True
  | .brace c => c = '{' ∨ c = '}'
  | .placeholder name quote =>
      isIdentifier name.toList = true ∧ ∀ c ∈ quote, isQuote c = true

theorem Region.Cuts.proper {region : Region} {text : List Char} {pieces : List Piece}
    (h : region.Cuts text pieces) (hregion : region.Proper) :
    ∀ piece ∈ pieces, piece.Proper := by
  have hne : ∀ quote, isQuote quote = true → quote ≠ '{' := by
    rintro quote hquote rfl
    cases hquote
  induction h with
  | done _ => exact nofun
  | lineEnd hrest ih =>
      exact List.forall_mem_cons.mpr ⟨show '\n' ≠ '{' by decide, ih trivial⟩
  | lineChar hc hrest ih => exact List.forall_mem_cons.mpr ⟨trivial, ih trivial⟩
  | blockEnd hrest ih =>
      exact List.forall_mem_cons.mpr ⟨trivial, List.forall_mem_cons.mpr ⟨trivial, ih trivial⟩⟩
  | blockChar hc hrest ih => exact List.forall_mem_cons.mpr ⟨trivial, ih trivial⟩
  | literalBrace hc hrest ih => exact List.forall_mem_cons.mpr ⟨hc, ih hregion⟩
  | literalEnd hrest ih => exact List.forall_mem_cons.mpr ⟨hne _ hregion, ih trivial⟩
  | literalChar hc hopen hclose hrest ih =>
      refine List.forall_mem_cons.mpr ⟨?_, ih hregion⟩
      unfold literalPiece
      split
      · trivial
      · exact hopen
  | brace hc hrest ih => exact List.forall_mem_cons.mpr ⟨hc, ih trivial⟩
  | lineStart hrest ih =>
      exact List.forall_mem_cons.mpr ⟨trivial, List.forall_mem_cons.mpr ⟨trivial, ih trivial⟩⟩
  | blockStart hrest ih =>
      exact List.forall_mem_cons.mpr ⟨trivial, List.forall_mem_cons.mpr ⟨trivial, ih trivial⟩⟩
  | literalStart hquote hopen hrest ih =>
      exact List.forall_mem_cons.mpr ⟨hne _ hquote, ih hquote⟩
  | bare hname hrest ih =>
      exact List.forall_mem_cons.mpr ⟨⟨by rwa [String.toList_ofList], nofun⟩, ih trivial⟩
  | filled hquote hname hrest ih =>
      refine List.forall_mem_cons.mpr ⟨⟨by rwa [String.toList_ofList], ?_⟩, ih trivial⟩
      rintro _ ⟨⟩
      exact hquote
  | char hquote hopen hclose hdash hslash hrest ih =>
      exact List.forall_mem_cons.mpr ⟨hopen, ih trivial⟩

theorem proper_of_piecesOf {template : List Char} {pieces : List Piece}
    (h : piecesOf template = .ok pieces) : ∀ piece ∈ pieces, piece.Proper :=
  (cuts_of_piecesOf h).proper trivial

end QueryMethods

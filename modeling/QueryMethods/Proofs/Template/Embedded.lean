import QueryMethods.Proofs.Template.Comments

/-!
# Placeholders inside quoted text

A placeholder may fill a quoted text, and then goes with its quotes. Inside a longer one it is
refused, unless a doubled quote next to it looks like an end of the text to the cutting, which takes
no notice of doubled quotes.
-/

namespace QueryMethods

/-- A quoted text begins right before the placeholder and ends right behind it. -/
def IsAlone (template : List Char) (quote : Char) (before after : List Char) : Prop :=
  before.getLast? = some quote ∧
    (lexStates .code template)[before.length - 1]? = some .code ∧
    after.head? = some quote ∧ after[1]? ≠ some quote

instance (template : List Char) (quote : Char) (before after : List Char) :
    Decidable (IsAlone template quote before after) :=
  inferInstanceAs (Decidable (_ ∧ _))

/-- The quotes on both sides of the placeholder, at least one of which is doubled. -/
def IsBesideDoubled (quote : Char) (before after : List Char) : Prop :=
  before.getLast? = some quote ∧ after.head? = some quote ∧
    ([quote, quote] <:+ before ∨ [quote, quote] <+: after)

instance (quote : Char) (before after : List Char) :
    Decidable (IsBesideDoubled quote before after) :=
  inferInstanceAs (Decidable (_ ∧ _))

/-- The braces between the text before and the text after hold a name, and stand between quotes
together with something else. -/
structure IsEmbedded (template : List Char) (quote : Char) (before name after : List Char) :
    Prop where
  template_eq : template = before ++ '{' :: (name ++ '}' :: after)
  /-- The opening brace is not the second one of two. -/
  openRun_eq : openRun before % 2 = 0
  /-- It is not the first one of two. -/
  head?_ne : name.head? ≠ some '{'
  not_mem : '}' ∉ name
  quoted : (lexStates .code template)[before.length]? = some (.quoted quote)
  not_alone : ¬ IsAlone template quote before after

variable {template : List Char} {pieces : List Piece} {quote : Char}
  {before name after : List Char}

theorem eq_of_append_cons_eq {c : Char} {first second later others : List Char}
    (hfirst : c ∉ first) (hsecond : c ∉ second)
    (h : first ++ c :: later = second ++ c :: others) : first = second ∧ later = others := by
  have hlength : first.length = second.length := by
    have hplace := congrArg (List.idxOf c) h
    rwa [List.idxOf_append_of_notMem hfirst, List.idxOf_append_of_notMem hsecond,
      List.idxOf_cons_self, List.idxOf_cons_self] at hplace
  obtain ⟨hsame, hrest⟩ := List.append_inj h hlength
  exact ⟨hsame, (List.cons.inj hrest).2⟩

/-- The only opening brace of a placeholder stands before its name. -/
theorem Piece.Proper.eq_of_open {name : String} {quote : Option Char} {inner outer : List Char}
    (h : (Piece.placeholder name quote).Proper)
    (hsource : (Piece.placeholder name quote).source = inner ++ '{' :: outer) :
    inner = quote.toList ∧ outer = name.toList ++ '}' :: quote.toList := by
  have hname : '{' ∉ name.toList := fun hmem => by
    cases List.all_eq_true.mp (all_isWordChar_of_isIdentifier h.1) _ hmem
  have hquote : '{' ∉ quote.toList := fun hmem => by
    cases h.2 _ (Option.mem_toList.mp hmem)
  have hlater : '{' ∉ name.toList ++ '}' :: quote.toList := by
    simp [hname, Option.mem_toList.not.mp hquote]
  rw [source_placeholder, List.append_assoc] at hsource
  obtain ⟨hinner, -, houter⟩ := (List.append_cons_inj_of_notMem hquote hlater).mp hsource
  exact ⟨hinner.symm, houter.symm⟩

/-- A name in braces that a template keeps between quotes is a placeholder that goes with both of
them. -/
theorem IsEmbedded.exists_filled (h : IsEmbedded template quote before name after)
    (hpieces : piecesOf template = .ok pieces) :
    ∃ front back, pieces = front ++ .placeholder (String.ofList name) (some quote) :: back ∧
      before = front.flatMap Piece.source ++ [quote] ∧
      after = quote :: back.flatMap Piece.source := by
  have hcuts := cuts_of_piecesOf hpieces
  have hreads : Reads pieces (lexStates .code template) := hcuts.reads trivial
  have hproper := proper_of_piecesOf hpieces
  have hsource := hcuts.source
  obtain ⟨front, piece, back, inner, outer, rfl, hpiece, hbefore, hafter⟩ :=
    exists_piece_of_source (hsource.trans h.template_eq)
  have hquoted := h.quoted
  have hhere := hreads.of_append
  have hsingle : ∀ c, piece.source = [c] → inner = [] ∧ c = '{' := by
    intro c hc
    rcases List.append_eq_cons_iff.mp (hpiece.symm.trans hc) with ⟨hinner, heq⟩ | ⟨_, _, heq⟩
    · exact ⟨hinner, (List.cons.inj heq).1.symm⟩
    · exact absurd heq (by simp)
  have houtside : inner = [] → ∀ state, (((lexStates .code template).drop
      (front.flatMap Piece.source).length).take 2).head? = some state →
        state.isComment = false := by
    rintro rfl state hstate
    rw [List.append_nil] at hbefore
    rw [head?_take_drop, ← hbefore, hquoted] at hstate
    rw [← Option.some.inj hstate]
    rfl
  cases piece with
  | code c =>
      obtain ⟨hinner, hc⟩ := hsingle c rfl
      exact absurd hc (hhere (houtside hinner)).1
  | hidden c =>
      obtain ⟨hinner, hc⟩ := hsingle c rfl
      exact absurd hc (hhere (houtside hinner)).1
  | brace c =>
      rcases List.append_eq_cons_iff.mp hpiece.symm with ⟨rfl, heq⟩ | ⟨others, rfl, heq⟩
      · -- the opening brace is the first one of two
        obtain ⟨rfl, rfl⟩ := List.cons.inj heq
        cases name with
        | nil => cases (List.cons.inj hafter).1
        | cons d name => exact absurd (congrArg some (List.cons.inj hafter).1) h.head?_ne
      · -- it is the second one
        obtain ⟨rfl, rfl⟩ : others = [] ∧ c = '{' := by
          cases others with
          | nil => exact ⟨rfl, (List.cons.inj heq).1⟩
          | cons d others => exact absurd (List.cons.inj heq).2 (by simp)
        obtain ⟨found, hfound, hcomment⟩ := hreads.exists_state hsource rfl
        have heven := hreads.even_openRun hsource
          (fun piece hmem => hproper piece (List.mem_append_left _ hmem)) hfound hcomment
        have hodd := h.openRun_eq
        rw [hbefore, openRun_append_singleton, if_pos rfl] at hodd
        omega
  | placeholder found around =>
      have hfound := hproper _ (List.mem_append_right _ (List.mem_cons_self ..))
      obtain ⟨rfl, rfl⟩ := hfound.eq_of_open hpiece
      have hlength : around.toList.length < (Piece.placeholder found around).source.length + 1 := by
        rw [source_placeholder, List.length_append, List.length_append]
        omega
      have hstate := hhere.2
      rw [List.getElem?_take_of_lt hlength, List.getElem?_drop, ← List.length_append, ← hbefore,
        hquoted] at hstate
      cases around with
      | none => cases hstate
      | some other =>
          obtain rfl : quote = other := by injection Option.some.inj hstate
          have hclose : '}' ∉ found.toList := fun hmem => by
            cases List.all_eq_true.mp (all_isWordChar_of_isIdentifier hfound.1) _ hmem
          rw [List.append_assoc, List.cons_append] at hafter
          obtain ⟨hname, rfl⟩ := eq_of_append_cons_eq h.not_mem hclose hafter
          refine ⟨front, back, ?_, hbefore, rfl⟩
          rw [hname, String.ofList_toList]

/-- A placeholder that is kept inside a longer quoted text has a doubled quote next to it. -/
theorem IsEmbedded.isBesideDoubled (h : IsEmbedded template quote before name after)
    (hpieces : piecesOf template = .ok pieces) : IsBesideDoubled quote before after := by
  obtain ⟨front, back, rfl, hbefore, hafter⟩ := h.exists_filled hpieces
  have hcuts := cuts_of_piecesOf hpieces
  have hreads : Reads _ (lexStates .code template) := hcuts.reads trivial
  have hlast : before.getLast? = some quote := by rw [hbefore, List.getLast?_concat]
  have hhead : after.head? = some quote := by rw [hafter, List.head?_cons]
  refine ⟨hlast, hhead, ?_⟩
  by_contra hsingle
  obtain ⟨hnotBefore, hnotAfter⟩ := not_or.mp hsingle
  apply h.not_alone
  refine ⟨hlast, ?_, hhead, ?_⟩
  · have hplace : before.length - 1 = (front.flatMap Piece.source).length := by
      rw [hbefore, List.length_append, List.length_singleton, Nat.add_sub_cancel]
    have htext : template =
        front.flatMap Piece.source ++ quote :: '{' :: (name ++ '}' :: after) := by
      rw [h.template_eq, hbefore, List.append_assoc, List.singleton_append]
    obtain ⟨state, hstate, hcomment⟩ := hreads.exists_state hcuts.source rfl
    rw [hplace, hstate]
    cases state with
    | code => rfl
    | quoted other =>
        have hquoted := h.quoted
        have hne : '{' ≠ quote := by
          rintro rfl
          cases (proper_of_piecesOf hpieces _
            (List.mem_append_right _ (List.mem_cons_self ..))).2 '{' rfl
        rw [hbefore, List.length_append, List.length_singleton] at hquoted
        rw [htext] at hstate hquoted
        obtain ⟨outer, houter⟩ := exists_of_lexStates_quoted hne hstate hquoted
        refine absurd ⟨outer, ?_⟩ hnotBefore
        rw [hbefore, houter, List.append_assoc]
        rfl
    | lineComment => cases hcomment
    | blockComment => cases hcomment
  · intro hnext
    apply hnotAfter
    rw [hafter, List.getElem?_cons_succ, ← List.head?_eq_getElem?] at hnext
    obtain ⟨rest, hrest⟩ := List.head?_eq_some_iff.mp hnext
    exact ⟨rest, by rw [hafter, hrest]; rfl⟩

/-- **Placeholders inside quoted text.** A template that has a placeholder between quotes together
with something else is refused, unless quotes enclose the placeholder and one of them is doubled. -/
theorem BoundTemplate.exists_error_of_isEmbedded {template : String} {quote : Char}
    {before name after : List Char} (h : IsEmbedded template.toList quote before name after)
    (hbeside : ¬ IsBesideDoubled quote before after) :
    ∃ fault, ∀ params entity dialect,
      ofTemplate template params entity dialect = .error fault := by
  cases hpieces : piecesOf template.toList with
  | ok pieces => exact absurd (h.isBesideDoubled hpieces) hbeside
  | error fault =>
      refine ⟨fault, fun params entity dialect => ?_⟩
      rw [ofTemplate, hpieces]
      rfl

/-- Of the three braces, the first two stand for one. -/
theorem BoundTemplate.exists_error_of_isEmbedded_accounts :
    let before := "SELECT * FROM accounts WHERE owner = 'it''s \x7b\x7b".toList
    let after := "'".toList
    let template := before ++ '{' :: ("owner".toList ++ '}' :: after)
    (IsEmbedded template '\'' before "owner".toList after ∧ ¬ IsBesideDoubled '\'' before after) ∧
      ∃ fault, ∀ params entity dialect,
        ofTemplate (String.ofList template) params entity dialect = .error fault := by
  intro before after template
  have hembedded : IsEmbedded template '\'' before "owner".toList after := by
    constructor <;> decide +kernel
  have hsame : IsEmbedded (String.ofList template).toList '\'' before "owner".toList after := by
    rwa [String.toList_ofList]
  have hbeside : ¬ IsBesideDoubled '\'' before after := by decide +kernel
  exact ⟨⟨hembedded, hbeside⟩, exists_error_of_isEmbedded hsame hbeside⟩

/-- The cutting takes the doubled quote for the end of one quoted text and the start of the next
one, which the placeholder fills. -/
theorem BoundTemplate.ofTemplate_accounts_of_isEmbedded :
    let before := "SELECT * FROM accounts WHERE owner = 'it''".toList
    let after := "'".toList
    let template := before ++ '{' :: ("owner".toList ++ '}' :: after)
    IsEmbedded template '\'' before "owner".toList after ∧
      ofTemplate (String.ofList template) Accounts.find.params Accounts.entity .postgres = .ok {
        sql := "SELECT * FROM accounts WHERE owner = 'it'$1"
        binds := [0]
        returnsRows := true
        unused := ["id"] } := by
  intro before after template
  refine ⟨?_, by decide +kernel⟩
  constructor <;> decide +kernel

end QueryMethods

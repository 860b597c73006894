import Mathlib.Data.List.Infix
import QueryMethods.Proofs.Template.Bytes.Insert

/-!
# References in front of a placeholder

The checks read the text before a placeholder from its end. Seen from the front, they find a column
exactly if the text ends in a reference to it, an operator and blanks. What stands before the
reference does not matter to them.
-/

namespace QueryMethods

open Bytes (inReference)

section

variable {test : Char → Bool} {front run : List Char}

theorem exists_run (test : Char → Bool) (text : List Char) :
    ∃ front run, text = front ++ run ∧ front.getLast?.any test = false ∧ run.all test = true := by
  have hsplit := List.takeWhile_append_dropWhile (p := test) (l := text.reverse)
  refine ⟨(text.reverse.dropWhile test).reverse, (text.reverse.takeWhile test).reverse, ?_, ?_, ?_⟩
  · rw [← List.reverse_append, hsplit, List.reverse_reverse]
  · rw [List.getLast?_reverse]
    have hhead := List.head?_dropWhile_not test text.reverse
    cases h : (text.reverse.dropWhile test).head? with
    | none => rfl
    | some c =>
        rw [h] at hhead
        exact hhead
  · rw [List.all_reverse]
    exact List.all_takeWhile

theorem dropWhile_reverse_eq_self (hfront : front.getLast?.any test = false) :
    front.reverse.dropWhile test = front.reverse := by
  have hsplit := List.takeWhile_append_dropWhile (p := test) (l := front.reverse)
  rwa [takeWhile_eq_nil_of_head? (by rwa [List.head?_reverse]), List.nil_append] at hsplit

theorem takeWhile_reverse_append (hfront : front.getLast?.any test = false)
    (hrun : run.all test = true) : (front ++ run).reverse.takeWhile test = run.reverse := by
  have hchars : ∀ c ∈ run.reverse, test c = true := fun c hmem =>
    List.all_eq_true.mp hrun c (List.mem_reverse.mp hmem)
  rw [List.reverse_append, List.takeWhile_append_of_pos hchars,
    takeWhile_eq_nil_of_head? (by rwa [List.head?_reverse]), List.append_nil]

theorem dropWhile_reverse_append (hfront : front.getLast?.any test = false)
    (hrun : run.all test = true) : (front ++ run).reverse.dropWhile test = front.reverse := by
  have hchars : ∀ c ∈ run.reverse, test c = true := fun c hmem =>
    List.all_eq_true.mp hrun c (List.mem_reverse.mp hmem)
  rw [List.reverse_append, List.dropWhile_append_of_pos hchars, dropWhile_reverse_eq_self hfront]

theorem getLast?_any_append (hrun : run ≠ []) :
    (front ++ run).getLast?.any test = run.getLast?.any test := by
  rw [List.getLast?_append, List.getLast?_eq_some_getLast hrun, Option.some_or]

theorem any_eq_false_of_all {other : Char → Bool} (hrun : run.all test = true)
    (hother : ∀ c, test c = true → other c = false) : run.getLast?.any other = false := by
  cases hlast : run.getLast? with
  | none => rfl
  | some c => exact hother c (List.all_eq_true.mp hrun c (List.mem_of_getLast? hlast))

end

/-- A reference, cut at its last dot, with the text before it. -/
structure RefersTo (before qualifier name : List Char) (column : String) : Prop where
  /-- The reference begins as far to the left as it can. -/
  before_ends : before.getLast?.any inReference = false
  qualifier_chars : qualifier.all inReference = true
  qualifier_ends : ∀ c ∈ qualifier.getLast?, c = '.'
  name_chars : ∀ c ∈ name, inReference c = true ∧ c ≠ '.'
  /-- Double quotes do not count. -/
  column_eq : name.filter (· != '"') = column.toList
  column_ne : column ≠ ""

/-- The text ends in a reference to the column, up to blanks. -/
def EndsInColumn (text : List Char) (column : String) : Prop :=
  ∃ before qualifier name blanks, text = before ++ (qualifier ++ name) ++ blanks ∧
    blanks.all isBlank = true ∧ RefersTo before qualifier name column

theorem inReference_eq_false_of_isBlank {c : Char} (h : isBlank c = true) :
    inReference c = false :=
  narrow_inReference c (by rw [isQuiet, h, Bool.true_or])

section

variable {text before qualifier name blanks : List Char} {column : String}

theorem RefersTo.name_ne_nil (h : RefersTo before qualifier name column) : name ≠ [] := by
  rintro rfl
  exact h.column_ne (String.toList_inj.mp h.column_eq.symm)

theorem columnAtEnd?_reverse (hbefore : before.getLast?.any inReference = false)
    (hqualifier : qualifier.all inReference = true) (hends : ∀ c ∈ qualifier.getLast?, c = '.')
    (hname : ∀ c ∈ name, inReference c = true ∧ c ≠ '.') :
    columnAtEnd? (before ++ (qualifier ++ name)).reverse =
      if (name.filter (· != '"')).isEmpty then none
      else some (String.ofList (name.filter (· != '"'))) := by
  have hreference : (qualifier ++ name).all inReference = true := by
    rw [List.all_append, hqualifier, Bool.true_and]
    exact List.all_eq_true.mpr fun c hmem => (hname c hmem).1
  have hdot : qualifier.getLast?.any (· != '.') = false := by
    cases hlast : qualifier.getLast? with
    | none => rfl
    | some c =>
        rw [hends c hlast]
        rfl
  have hplain : name.all (· != '.') = true :=
    List.all_eq_true.mpr fun c hmem => bne_iff_ne.mpr (hname c hmem).2
  have hrun := takeWhile_reverse_append hbefore hreference
  change (before ++ (qualifier ++ name)).reverse.takeWhile
    (fun c => isWordChar c || c == '.' || c == '"') = _ at hrun
  rw [columnAtEnd?, hrun, takeWhile_reverse_append hdot hplain, List.filter_reverse,
    List.isEmpty_reverse, List.reverse_reverse]

/-- The check of a text from its end finds the reference that the text ends in. -/
theorem columnAtEnd?_eq_some_iff :
    columnAtEnd? (text.reverse.dropWhile isBlank) = some column ↔ EndsInColumn text column := by
  constructor
  · intro h
    obtain ⟨rest, blanks, rfl, hrest, hblanks⟩ := exists_run isBlank text
    obtain ⟨before, reference, rfl, hbefore, hreference⟩ := exists_run inReference rest
    obtain ⟨qualifier, name, rfl, hends, hname⟩ := exists_run (· != '.') reference
    rw [List.all_append, Bool.and_eq_true] at hreference
    have hdot : ∀ c ∈ qualifier.getLast?, c = '.' := by
      intro c hc
      rw [hc, Option.any_some, bne_eq_false_iff_eq] at hends
      exact hends
    have hchars : ∀ c ∈ name, inReference c = true ∧ c ≠ '.' := fun c hmem =>
      ⟨List.all_eq_true.mp hreference.2 c hmem, bne_iff_ne.mp (List.all_eq_true.mp hname c hmem)⟩
    rw [dropWhile_reverse_append hrest hblanks,
      columnAtEnd?_reverse hbefore hreference.1 hdot hchars] at h
    split at h
    · cases h
    · rename_i hfilter
      obtain rfl := Option.some.inj h
      refine ⟨before, qualifier, name, blanks, rfl, hblanks, hbefore, hreference.1, hdot, hchars,
        String.toList_ofList.symm, ?_⟩
      intro hempty
      rw [← String.toList_inj, String.toList_ofList] at hempty
      exact hfilter (List.isEmpty_iff.mpr hempty)
  · rintro ⟨before, qualifier, name, blanks, rfl, hblanks, h⟩
    have hlast : (before ++ (qualifier ++ name)).getLast?.any isBlank = false := by
      have hreference : name.all inReference = true :=
        List.all_eq_true.mpr fun c hmem => (h.name_chars c hmem).1
      rw [← List.append_assoc, getLast?_any_append h.name_ne_nil]
      refine any_eq_false_of_all hreference fun c hc => ?_
      rw [Bool.eq_false_iff]
      intro hblank
      rw [inReference_eq_false_of_isBlank hblank] at hc
      cases hc
    have hne : column.toList.isEmpty = false := by
      rw [List.isEmpty_eq_false_iff, ne_eq, ← String.toList_empty, String.toList_inj]
      exact h.column_ne
    rw [dropWhile_reverse_append hlast hblanks, columnAtEnd?_reverse h.before_ends
      h.qualifier_chars h.qualifier_ends h.name_chars, h.column_eq, hne, String.ofList_toList]
    rfl

/-- Behind a reference, blanks excepted, there is no part of an operator. -/
theorem EndsInColumn.last (h : EndsInColumn text column) :
    ∀ c ∈ text.getLast?, inReference c = true ∨ isBlank c = true := by
  obtain ⟨before, qualifier, name, blanks, rfl, hblanks, h⟩ := h
  intro c hc
  have hmem : c ∈ name ++ blanks := by
    have hne : name ++ blanks ≠ [] := by simp [h.name_ne_nil]
    have htext : before ++ (qualifier ++ name) ++ blanks =
        (before ++ qualifier) ++ (name ++ blanks) := by simp
    rw [htext, List.getLast?_append, List.getLast?_eq_some_getLast hne, Option.some_or] at hc
    obtain rfl := Option.some.inj hc
    exact List.getLast_mem hne
  rcases List.mem_append.mp hmem with hname | hblank
  · exact .inl (h.name_chars c hname).1
  · exact .inr (List.all_eq_true.mp hblanks c hblank)

end

/-- The operators before a placeholder that is checked, words apart. -/
def comparisonSigns : List String :=
  ["=", "<>", "!=", "<", "<=", ">", ">="]

def isComparisonWord (word : List Char) : Bool :=
  isKeyword "like" word || isKeyword "ilike" word

/-- Such an operator stands behind the text. A word does not go on to the left. -/
def Compares (text operator : List Char) : Prop :=
  operator ∈ comparisonSigns.map String.toList ∨
    isComparisonWord operator = true ∧ text.getLast?.any isWordChar = false

section

variable {text operator blanks : List Char} {column : String}

theorem all_isWordChar_of_isKeyword {keyword : String} {word : List Char}
    (hkeyword : keyword.toList.all isWordChar = true) (h : isKeyword keyword word = true) :
    word.all isWordChar = true := by
  refine List.all_eq_true.mpr fun c hmem => Bytes.isWordChar_of_toLower ?_
  refine List.all_eq_true.mp hkeyword _ ?_
  rw [← beq_iff_eq.mp h]
  exact List.mem_map_of_mem hmem

theorem all_isWordChar_of_isComparisonWord {word : List Char} (h : isComparisonWord word = true) :
    word.all isWordChar = true := by
  rcases Bool.or_eq_true_iff.mp h with hlike | hilike
  · exact all_isWordChar_of_isKeyword (by decide) hlike
  · exact all_isWordChar_of_isKeyword (by decide) hilike

theorem Compares.ne_nil (h : Compares text operator) : operator ≠ [] := by
  rintro rfl
  rcases h with hsign | ⟨hword, -⟩
  · exact absurd hsign (by decide)
  · cases hword

theorem Compares.last (h : Compares text operator) :
    ∀ c ∈ operator.getLast?, isWordChar c = true ∨ c ∈ ['=', '<', '>'] := by
  rcases h with hsign | ⟨hword, -⟩
  · intro c hc
    refine .inr ?_
    simp only [comparisonSigns, List.map_cons, List.map_nil, List.mem_cons, List.not_mem_nil,
      or_false] at hsign
    rcases hsign with rfl | rfl | rfl | rfl | rfl | rfl | rfl <;>
      · obtain rfl := Option.some.inj hc
        decide
  · exact fun c hc => .inl (List.all_eq_true.mp (all_isWordChar_of_isComparisonWord hword) c
      (List.mem_of_getLast? hc))

/-- No operator ends in such a character. -/
theorem Compares.last_any (h : Compares text operator) (test : Char → Bool)
    (htest : ∀ c, test c = true → isWordChar c = false ∧ c ∉ ['=', '<', '>']) :
    operator.getLast?.any test = false := by
  cases hlast : operator.getLast? with
  | none => rfl
  | some c =>
      rw [Option.any_some, Bool.eq_false_iff]
      intro hc
      obtain ⟨hword, hsign⟩ := htest c hc
      rcases h.last c hlast with hword' | hsign'
      · rw [hword] at hword'
        cases hword'
      · exact hsign hsign'

theorem isBlank_apart {c : Char} (h : isBlank c = true) :
    isWordChar c = false ∧ c ∉ ['=', '<', '>'] := by
  refine ⟨isWordChar_eq_false_of_isQuiet (by rw [isQuiet, h, Bool.true_or]), fun hmem => ?_⟩
  simp only [List.mem_cons, List.not_mem_nil, or_false] at hmem
  rcases hmem with rfl | rfl | rfl <;> cases h

/-- What is dropped from the end of a text is an operator. -/
theorem exists_of_dropOperator? {reversed rest : List Char}
    (h : dropOperator? reversed = some rest) :
    ∃ operator, reversed.reverse = rest.reverse ++ operator ∧ Compares rest.reverse operator := by
  have hsign : ∀ sign, sign ∈ comparisonSigns.map String.toList →
      reversed = sign.reverse ++ rest →
      ∃ operator, reversed.reverse = rest.reverse ++ operator ∧
        Compares rest.reverse operator := by
    rintro sign hmem rfl
    exact ⟨sign, by simp, .inl hmem⟩
  unfold dropOperator? at h
  split at h
  case h_1 => exact hsign ['<', '>'] (by decide) (by rw [← Option.some.inj h]; rfl)
  case h_2 => exact hsign ['!', '='] (by decide) (by rw [← Option.some.inj h]; rfl)
  case h_3 => exact hsign ['<', '='] (by decide) (by rw [← Option.some.inj h]; rfl)
  case h_4 => exact hsign ['>', '='] (by decide) (by rw [← Option.some.inj h]; rfl)
  case h_5 => exact hsign ['='] (by decide) (by rw [← Option.some.inj h]; rfl)
  case h_6 => exact hsign ['<'] (by decide) (by rw [← Option.some.inj h]; rfl)
  case h_7 => exact hsign ['>'] (by decide) (by rw [← Option.some.inj h]; rfl)
  case h_8 =>
    dsimp only at h
    split at h
    case isTrue hword =>
      obtain rfl := Option.some.inj h
      refine ⟨(reversed.takeWhile isWordChar).reverse, ?_, .inr ⟨hword, ?_⟩⟩
      · rw [← List.reverse_append, List.takeWhile_append_dropWhile]
      · rw [List.getLast?_reverse]
        exact Bytes.head?_dropWhile_isWordChar reversed
    case isFalse => cases h

/-- An operator is dropped as a whole, unless it goes on to the left. -/
theorem dropOperator?_reverse (h : Compares text operator)
    (htext : text.getLast?.any (fun c => c == '!' || c == '<' || c == '>') = false) :
    dropOperator? (text ++ operator).reverse = some text.reverse := by
  rw [List.reverse_append]
  rcases h with hsign | ⟨hword, hlast⟩
  · rw [← List.head?_reverse] at htext
    have hless : text.reverse.head?.any (· == '<') = false := by
      cases hhead : text.reverse.head? with
      | none => rfl
      | some c =>
          rw [hhead] at htext
          simp_all
    generalize text.reverse = reversed at htext hless
    simp only [comparisonSigns, List.map_cons, List.map_nil, List.mem_cons, List.not_mem_nil,
      or_false] at hsign
    rcases hsign with rfl | rfl | rfl | rfl | rfl | rfl | rfl
    · exact (dropOperator?_cons '=' _).trans (by simp [htext])
    · rfl
    · rfl
    · exact (dropOperator?_cons '<' _).trans (by simp)
    · rfl
    · exact (dropOperator?_cons '>' _).trans (by simp [hless])
    · rfl
  · have hchars := all_isWordChar_of_isComparisonWord hword
    have htake := takeWhile_reverse_append hlast hchars
    have hdrop := dropWhile_reverse_append hlast hchars
    rw [List.reverse_append] at htake hdrop
    cases hoperator : operator.reverse with
    | nil =>
        rw [List.reverse_eq_nil_iff.mp hoperator] at hword
        cases hword
    | cons c rest =>
        have hc : isWordChar c = true := by
          refine List.all_eq_true.mp hchars c (List.mem_reverse.mp ?_)
          rw [hoperator]
          exact List.mem_cons_self
        have hne {d : Char} : isWordChar d = false → c ≠ d := ne_of_isWordChar hc
        have hkeyword : (isKeyword "like" operator || isKeyword "ilike" operator) = true := hword
        rw [hoperator, List.cons_append] at htake hdrop
        rw [List.cons_append, dropOperator?_cons, if_neg (hne rfl), if_neg (hne rfl),
          if_neg (hne rfl), htake, hdrop, ← hoperator, List.reverse_reverse, if_pos hkeyword]

/-- The check of a text from its end finds the column that it ends with a comparison of. -/
theorem comparedColumn?_eq_some_iff :
    comparedColumn? text.reverse = some column ↔
      ∃ operand operator blanks, text = operand ++ operator ++ blanks ∧
        EndsInColumn operand column ∧ Compares operand operator ∧ blanks.all isBlank = true := by
  constructor
  · intro h
    obtain ⟨rest, blanks, rfl, hrest, hblanks⟩ := exists_run isBlank text
    rw [comparedColumn?, dropWhile_reverse_append hrest hblanks, Option.bind_eq_some_iff] at h
    obtain ⟨reversed, hdrop, hcolumn⟩ := h
    obtain ⟨operator, hsplit, hcompares⟩ := exists_of_dropOperator? hdrop
    rw [List.reverse_reverse] at hsplit
    rw [← List.reverse_reverse reversed, columnAtEnd?_eq_some_iff] at hcolumn
    exact ⟨reversed.reverse, operator, blanks, by rw [hsplit], hcolumn, hcompares, hblanks⟩
  · rintro ⟨operand, operator, blanks, rfl, hcolumn, hcompares, hblanks⟩
    have hlast : (operand ++ operator).getLast?.any isBlank = false := by
      rw [getLast?_any_append hcompares.ne_nil]
      exact hcompares.last_any isBlank fun _ => isBlank_apart
    have hoperand : operand.getLast?.any (fun c => c == '!' || c == '<' || c == '>') = false := by
      cases hend : operand.getLast? with
      | none => rfl
      | some c =>
          rw [Option.any_some, Bool.eq_false_iff]
          intro hc
          simp only [Bool.or_eq_true, beq_iff_eq] at hc
          rcases hcolumn.last c hend with hreference | hblank
          · rcases hc with (rfl | rfl) | rfl <;> cases hreference
          · rcases hc with (rfl | rfl) | rfl <;> cases hblank
    rw [comparedColumn?, dropWhile_reverse_append hlast hblanks,
      dropOperator?_reverse hcompares hoperand, Option.bind_some]
    exact columnAtEnd?_eq_some_iff.mpr hcolumn

end

end QueryMethods

import QueryMethods.Proofs.Template.Bytes.Targets
import QueryMethods.Proofs.Template.Checks
import QueryMethods.Proofs.Template.Compared

/-!
# Values of an `INSERT`

`Insertion` is what a template shows around a value of the first row of an `INSERT`. The checks on
cells find the column of a placeholder this way exactly if the placeholder is all of such a value.
-/

namespace QueryMethods

/-- The keyword begins as a whole word between these texts. -/
def WordAt (keyword : String) (before rest : List Char) : Prop :=
  before.getLast?.any isWordChar = false ∧ isKeyword keyword (rest.takeWhile isWordChar) = true

/-- It does so at no earlier place. -/
structure FirstWordAt (keyword : String) (before rest : List Char) : Prop where
  here : WordAt keyword before rest
  first : ∀ before' rest', before ++ rest = before' ++ rest' → WordAt keyword before' rest' →
    before.length ≤ before'.length

/-- The text has the word, and no opening parenthesis behind the first one. -/
def Introduces (keyword : String) (text : List Char) : Prop :=
  ∃ before rest, text = before ++ rest ∧ FirstWordAt keyword before rest ∧ '(' ∉ rest

section

variable {keyword : String} {before rest later : List Char}

theorem takeWhile_append_of_head? {test : Char → Bool} (hrest : rest.head?.any test = false)
    (text : List Char) : (text ++ rest).takeWhile test = text.takeWhile test := by
  induction text with
  | nil => exact takeWhile_eq_nil_of_head? hrest
  | cons c text ih => rw [List.cons_append, List.takeWhile_cons, List.takeWhile_cons, ih]

theorem wordAt_append_iff (hlater : later.head?.any isWordChar = false) :
    WordAt keyword before (rest ++ later) ↔ WordAt keyword before rest := by
  rw [WordAt, WordAt, takeWhile_append_of_head? hlater]

theorem firstWordAt_append_iff (hlater : later.head?.any isWordChar = false) :
    FirstWordAt keyword before (rest ++ later) ↔ FirstWordAt keyword before rest := by
  constructor
  · rintro ⟨hhere, hfirst⟩
    refine ⟨(wordAt_append_iff hlater).mp hhere, fun before' rest' htext hword => ?_⟩
    refine hfirst before' (rest' ++ later) ?_ ((wordAt_append_iff hlater).mpr hword)
    rw [← List.append_assoc, htext, List.append_assoc]
  · rintro ⟨hhere, hfirst⟩
    refine ⟨(wordAt_append_iff hlater).mpr hhere, fun before' rest' htext hword => ?_⟩
    rcases List.append_eq_append_iff.mp htext with ⟨between, rfl, -⟩ | ⟨between, rfl, hrest⟩
    · rw [List.length_append]
      exact Nat.le_add_right _ _
    · rw [hrest, ← List.append_assoc, wordAt_append_iff hlater] at hword
      exact hfirst before' (between ++ rest) (List.append_assoc ..) hword

/-- No word comes before a keyword that stands behind other characters alone. -/
theorem firstWordAt_of_all_not (hkeyword : keyword ≠ "")
    (hbefore : before.all (!isWordChar ·) = true)
    (hrest : isKeyword keyword (rest.takeWhile isWordChar) = true) :
    FirstWordAt keyword before rest := by
  have hchars : ∀ c ∈ before, isWordChar c = false := fun c hmem => by
    simpa using List.all_eq_true.mp hbefore c hmem
  refine ⟨⟨any_eq_false_of_all hbefore fun c hc => by simpa using hc, hrest⟩, ?_⟩
  intro before' rest' htext hword
  rcases List.append_eq_append_iff.mp htext with ⟨between, rfl, -⟩ | ⟨between, hsplit, rfl⟩
  · rw [List.length_append]
    exact Nat.le_add_right _ _
  · cases between with
    | nil => rw [hsplit, List.append_nil]
    | cons c between =>
        have hc := hchars c (by rw [hsplit]; simp)
        have hnil := hword.2
        rw [List.cons_append, List.takeWhile_cons, hc] at hnil
        cases hnil.symm.trans (isKeyword_nil hkeyword)

end

section

variable {keyword : String} {cells found : List Cell}

theorem visible_append (left right : List Cell) :
    visible (left ++ right) = visible left ++ visible right :=
  List.map_append

theorem exists_of_visible_append {left right : List Char} (h : visible cells = left ++ right) :
    ∃ front back, cells = front ++ back ∧ visible front = left ∧ visible back = right :=
  List.map_eq_append_iff.mp h

/-- What the search for a word finds behind cells that it has gone through. -/
theorem fromWord?_behind_iff (hkeyword : keyword ≠ "") (before : List Cell) :
    fromWord? keyword ((visible before).getLast?.any isWordChar) cells = some found ↔
      ∃ front, cells = front ++ found ∧
        WordAt keyword (visible (before ++ front)) (visible found) ∧
        ∀ front' found', cells = front' ++ found' →
          WordAt keyword (visible (before ++ front')) (visible found') →
          front.length ≤ front'.length := by
  induction cells generalizing before with
  | nil =>
      constructor
      · intro h
        cases h
      · rintro ⟨front, hcells, hword, -⟩
        obtain ⟨rfl, rfl⟩ := List.append_eq_nil_iff.mp hcells.symm
        cases hword.2.symm.trans (isKeyword_nil hkeyword)
  | cons cell cells ih =>
      have hhere : (!(visible before).getLast?.any isWordChar &&
          isKeyword keyword (leadingWord (cell :: cells))) = true ↔
            WordAt keyword (visible before) (visible (cell :: cells)) := by
        rw [Bool.and_eq_true, Bool.not_eq_true', WordAt, leadingWord, visible_takeWhile]
      have hnext : (visible (before ++ [cell])).getLast?.any isWordChar = isWordChar cell.char := by
        rw [visible_append]
        exact congrArg (Option.any isWordChar) List.getLast?_concat
      have hlater := ih (before ++ [cell])
      rw [hnext] at hlater
      rw [fromWord?]
      by_cases hword : WordAt keyword (visible before) (visible (cell :: cells))
      · rw [if_pos (hhere.mpr hword)]
        constructor
        · intro h
          obtain rfl := Option.some.inj h
          exact ⟨[], rfl, by rwa [List.append_nil], fun _ _ _ _ => Nat.zero_le _⟩
        · rintro ⟨front, hcells, -, hfirst⟩
          have hzero := hfirst [] (cell :: cells) rfl (by rwa [List.append_nil])
          rw [List.length_nil, Nat.le_zero, List.length_eq_zero_iff] at hzero
          rw [hcells, hzero, List.nil_append]
      · rw [if_neg (hhere.not.mpr hword), hlater]
        constructor
        · rintro ⟨front, rfl, hfound, hfirst⟩
          refine ⟨cell :: front, rfl, by rwa [List.append_cons], ?_⟩
          rintro (_ | ⟨d, front'⟩) found' hcells hfound'
          · rw [List.append_nil, ← List.nil_append found', ← hcells] at hfound'
            exact absurd hfound' hword
          · obtain ⟨rfl, htail⟩ := List.cons.inj hcells
            rw [List.append_cons] at hfound'
            exact Nat.succ_le_succ (hfirst front' found' htail hfound')
        · rintro ⟨_ | ⟨d, front⟩, hcells, hfound, hfirst⟩
          · rw [List.append_nil, ← List.nil_append found, ← hcells] at hfound
            exact absurd hfound hword
          · obtain ⟨rfl, rfl⟩ := List.cons.inj hcells
            rw [List.append_cons] at hfound
            refine ⟨front, rfl, hfound, fun front' found' hcells hfound' => ?_⟩
            rw [← List.append_cons] at hfound'
            exact Nat.le_of_succ_le_succ
              (hfirst (cell :: front') found' (congrArg (cell :: ·) hcells) hfound')

/-- The search for a word finds the first one. -/
theorem fromWord?_eq_some_iff (hkeyword : keyword ≠ "") :
    fromWord? keyword false cells = some found ↔
      ∃ front, cells = front ++ found ∧ FirstWordAt keyword (visible front) (visible found) := by
  refine (fromWord?_behind_iff hkeyword []).trans (exists_congr fun front => ?_)
  refine and_congr_right fun hcells => ⟨fun h => ⟨h.1, ?_⟩, fun h => ⟨h.here, ?_⟩⟩
  · intro before' rest' htext hword
    rw [← visible_append, ← hcells] at htext
    obtain ⟨front', found', hsplit, rfl, rfl⟩ := exists_of_visible_append htext
    simpa [visible] using h.2 front' found' hsplit hword
  · intro front' found' hsplit hword
    have htext : visible front ++ visible found = visible front' ++ visible found' := by
      rw [← visible_append, ← hcells, hsplit, visible_append]
    simpa [visible] using h.first _ _ htext hword

/-- A word is searched for, and then the first opening parenthesis. -/
theorem introduces_iff (hkeyword : keyword ≠ "") {opening : Cell} {rest : List Cell} :
    (∃ found, fromWord? keyword false cells = some found ∧
        found.dropWhile (·.char != '(') = opening :: rest) ↔
      ∃ head, cells = head ++ opening :: rest ∧ opening.char = '(' ∧
        Introduces keyword (visible head) := by
  have hlater : opening.char = '(' → (visible (opening :: rest)).head?.any isWordChar = false := by
    intro hopening
    show isWordChar opening.char = false
    rw [hopening]
    rfl
  constructor
  · rintro ⟨found, hfound, hdrop⟩
    obtain ⟨front, rfl, hword⟩ := (fromWord?_eq_some_iff hkeyword).mp hfound
    have hsplit := List.takeWhile_append_dropWhile (p := (·.char != '(')) (l := found)
    have hopening : opening.char = '(' := by
      have hhead := List.head?_dropWhile_not (fun cell : Cell => cell.char != '(') found
      rw [hdrop] at hhead
      simpa using hhead
    rw [hdrop] at hsplit
    rw [← hsplit, visible_append, firstWordAt_append_iff (hlater hopening)] at hword
    refine ⟨front ++ found.takeWhile (·.char != '('), ?_, hopening, _, _, visible_append .., hword,
      fun hmem => ?_⟩
    · rw [List.append_assoc, hsplit]
    · obtain ⟨cell, hcell, hchar⟩ := List.mem_map.mp hmem
      have hne := List.mem_takeWhile_imp hcell
      rw [hchar] at hne
      cases hne
  · rintro ⟨head, rfl, hopening, before, rest', htext, hword, hnotMem⟩
    obtain ⟨front, between, rfl, rfl, rfl⟩ := exists_of_visible_append htext
    rw [← firstWordAt_append_iff (hlater hopening), ← visible_append] at hword
    refine ⟨_, (fromWord?_eq_some_iff hkeyword).mpr ⟨front, List.append_assoc .., hword⟩, ?_⟩
    have hchars : ∀ cell ∈ between, (cell.char != '(') = true := by
      intro cell hmem
      rw [bne_iff_ne]
      intro hchar
      exact hnotMem (hchar ▸ List.mem_map_of_mem hmem)
    rw [List.dropWhile_append_of_pos hchars, List.dropWhile_cons_of_neg]
    rw [hopening]
    decide

end

/-- The text closes all its parentheses and `depth` more, and has its commas inside them. -/
def isItem : Nat → List Char → Bool
  | depth, [] => depth == 0
  | depth, c :: rest =>
      if c = '(' then isItem (depth + 1) rest
      else if c = ')' then depth != 0 && isItem (depth - 1) rest
      else !(c == ',' && depth == 0) && isItem depth rest

section

variable {depth : Nat} {cell : Cell} {item rest cells inside after : List Cell}

theorem isItem_visible_cons :
    isItem depth (visible (cell :: item)) = true ↔
      ¬ (cell.char = ',' ∧ depth = 0) ∧ ¬ (cell.char = ')' ∧ depth = 0) ∧
        isItem (nesting depth cell) (visible item) = true := by
  show isItem depth (cell.char :: visible item) = true ↔ _
  rw [isItem, nesting]
  by_cases hopen : cell.char = '('
  · simp [hopen]
  · by_cases hclose : cell.char = ')'
    · simp [hclose]
    · simp [hopen, hclose, ← not_and_or]

theorem isItem_of_all_isBlank {blanks : List Cell} (h : blanks.all (isBlank ·.char) = true) :
    isItem 0 (visible blanks) = true := by
  induction blanks with
  | nil => rfl
  | cons cell blanks ih =>
      rw [List.all_cons, Bool.and_eq_true] at h
      have hquiet : isQuiet cell.char = true := by rw [isQuiet, h.1, Bool.true_or]
      have hne {d : Char} : isQuiet d = false → cell.char ≠ d := ne_of_isQuiet hquiet
      rw [isItem_visible_cons, nesting, if_neg (hne rfl), if_neg (hne rfl)]
      exact ⟨fun hcomma => hne rfl hcomma.1, fun hclose => hne rfl hclose.1, ih h.2⟩

theorem splitCommas_append (hitem : isItem depth (visible item) = true) :
    splitCommas depth (item ++ rest) = (splitCommas 0 rest).modifyHead (item ++ ·) := by
  induction item generalizing depth with
  | nil =>
      obtain rfl := beq_iff_eq.mp hitem
      rw [List.nil_append]
      cases splitCommas 0 rest <;> rfl
  | cons cell item ih =>
      obtain ⟨hcomma, -, hlater⟩ := isItem_visible_cons.mp hitem
      rw [List.cons_append, splitCommas_cons, if_neg hcomma, ih hlater, List.modifyHead_modifyHead]
      rfl

theorem splitAtClose?_cons (depth : Nat) (cell : Cell) (cells : List Cell) :
    splitAtClose? depth (cell :: cells) =
      if cell.char = ')' ∧ depth = 0 then
        some ([], cells)
      else
        (splitAtClose? (nesting depth cell) cells).map fun split => (cell :: split.1, split.2) := by
  by_cases hclose : cell.char = ')'
  · cases depth with
    | zero => simp [splitAtClose?, hclose]
    | succ depth => simp [splitAtClose?, hclose, nesting]
  · rw [splitAtClose?_cons_of_ne hclose, if_neg (not_and_of_not_left _ hclose), nesting,
      if_neg hclose]

theorem splitAtClose?_append (hitem : isItem depth (visible item) = true) :
    splitAtClose? depth (item ++ rest) =
      (splitAtClose? 0 rest).map fun split => (item ++ split.1, split.2) := by
  induction item generalizing depth with
  | nil =>
      obtain rfl := beq_iff_eq.mp hitem
      rw [List.nil_append]
      cases splitAtClose? 0 rest <;> rfl
  | cons cell item ih =>
      obtain ⟨-, hclose, hlater⟩ := isItem_visible_cons.mp hitem
      rw [List.cons_append, splitAtClose?_cons, if_neg hclose, ih hlater, Option.map_map]
      rfl

/-- Between parentheses, the parts between commas are items. -/
theorem exists_items_of_splitAtClose? (h : splitAtClose? depth cells = some (inside, after)) :
    ∃ part parts, splitCommas depth inside = part :: parts ∧
      isItem depth (visible part) = true ∧ ∀ later ∈ parts, isItem 0 (visible later) = true := by
  induction cells generalizing depth inside with
  | nil => cases h
  | cons cell cells ih =>
      rw [splitAtClose?_cons] at h
      split at h
      case isTrue hclose =>
        obtain ⟨rfl, -⟩ := Prod.mk.inj (Option.some.inj h)
        exact ⟨[], [], rfl, by rw [hclose.2]; rfl, List.forall_mem_nil _⟩
      case isFalse hclose =>
        obtain ⟨⟨inner, later⟩, hinner, heq⟩ := Option.map_eq_some_iff.mp h
        obtain ⟨rfl, rfl⟩ := Prod.mk.inj heq
        obtain ⟨part, parts, hparts, hpart, hitems⟩ := ih hinner
        rw [splitCommas_cons]
        split
        case isTrue hcomma =>
          have hnesting : nesting depth cell = 0 := by
            rw [nesting, hcomma.1, hcomma.2]
            rfl
          rw [hnesting] at hparts hpart
          rw [hparts]
          refine ⟨[], part :: parts, rfl, by rw [hcomma.2]; rfl, ?_⟩
          exact List.forall_mem_cons.mpr ⟨hpart, hitems⟩
        case isFalse hcomma =>
          rw [hparts]
          exact ⟨cell :: part, parts, rfl, isItem_visible_cons.mpr ⟨hcomma, hclose, hpart⟩, hitems⟩

/-! ### Lists of items -/

theorem getElem?_eq_some_iff_append {α : Type} {items : List α} {number : Nat} {item : α} :
    items[number]? = some item ↔
      ∃ front back, items = front ++ item :: back ∧ front.length = number := by
  constructor
  · intro h
    obtain ⟨hlt, rfl⟩ := List.getElem?_eq_some_iff.mp h
    refine ⟨items.take number, items.drop (number + 1), ?_, List.length_take_of_le hlt.le⟩
    rw [List.getElem_cons_drop, List.take_append_drop]
  · rintro ⟨front, back, rfl, rfl⟩
    rw [List.getElem?_append_right (Nat.le_refl _), Nat.sub_self]
    rfl

open Bytes (Joined)

variable {parts parts' : List (List Cell)} {part front back : List Cell}
  {earlier later : List (List Char)}

theorem Bytes.Joined.splitCommas_eq (h : Joined inside parts)
    (hitems : ∀ part ∈ parts, isItem 0 (visible part) = true) : splitCommas 0 inside = parts := by
  induction h with
  | last part =>
      have hsplit := @splitCommas_append 0 part [] (hitems part List.mem_cons_self)
      rw [List.append_nil] at hsplit
      simpa [splitCommas] using hsplit
  | @more part comma rest parts hcomma hrest ih =>
      obtain ⟨hpart, hitems⟩ := List.forall_mem_cons.mp hitems
      rw [splitCommas_append hpart, splitCommas_cons, if_pos ⟨hcomma, rfl⟩, ih hitems]
      simp

theorem Bytes.Joined.splitAtClose?_eq (h : Joined inside parts)
    (hitems : ∀ part ∈ parts, isItem 0 (visible part) = true) {closing : Cell}
    (hclosing : closing.char = ')') :
    splitAtClose? 0 (inside ++ closing :: after) = some (inside, after) := by
  induction h with
  | last part =>
      rw [splitAtClose?_append (hitems part List.mem_cons_self), splitAtClose?_cons,
        if_pos ⟨hclosing, rfl⟩]
      simp
  | @more part comma rest parts hcomma hrest ih =>
      obtain ⟨hpart, hitems⟩ := List.forall_mem_cons.mp hitems
      have hne : ¬ (comma.char = ')' ∧ (0 : Nat) = 0) := by
        rw [hcomma]
        decide
      have hnesting : nesting 0 comma = 0 := by
        rw [nesting, hcomma]
        rfl
      rw [List.append_assoc, splitAtClose?_append hpart, List.cons_append, splitAtClose?_cons,
        if_neg hne, hnesting, ih hitems]
      rfl

theorem exists_joined (hfront : visible front = earlier.flatMap (· ++ [',']))
    (hback : visible back = later.flatMap (',' :: ·)) (part : List Cell) :
    ∃ parts parts', Joined (front ++ (part ++ back)) (parts ++ part :: parts') ∧
      parts.map visible = earlier ∧ parts'.map visible = later := by
  induction earlier generalizing front with
  | nil =>
      obtain rfl := List.map_eq_nil_iff.mp hfront
      refine ⟨[], ?_⟩
      induction later generalizing back part with
      | nil =>
          obtain rfl := List.map_eq_nil_iff.mp hback
          refine ⟨[], ?_, rfl, rfl⟩
          rw [List.append_nil]
          exact .last part
      | cons item later ih =>
          obtain ⟨comma, rest, rfl, hcomma, hrest⟩ := List.map_eq_cons_iff.mp hback
          obtain ⟨next, back, rfl, rfl, hnext⟩ := exists_of_visible_append hrest
          obtain ⟨parts', hjoined, -, rfl⟩ := ih hnext next
          exact ⟨next :: parts', .more part hcomma hjoined, rfl, rfl⟩
  | cons item earlier ih =>
      rw [List.flatMap_cons, List.append_assoc] at hfront
      obtain ⟨first, rest, rfl, rfl, hrest⟩ := exists_of_visible_append hfront
      obtain ⟨comma, rest, rfl, hcomma, hrest⟩ := List.map_eq_cons_iff.mp hrest
      obtain ⟨parts, parts', hjoined, rfl, rfl⟩ := ih hrest
      refine ⟨first :: parts, parts', ?_, rfl, rfl⟩
      rw [List.append_assoc]
      exact .more first hcomma hjoined

theorem Bytes.Joined.exists_comma (h : Joined inside (part :: parts)) (hparts : parts ≠ []) :
    ∃ comma rest, inside = part ++ comma :: rest ∧ comma.char = ',' ∧ Joined rest parts := by
  cases h with
  | last _ => exact absurd rfl hparts
  | more _ hcomma hrest => exact ⟨_, _, rfl, hcomma, hrest⟩

theorem Bytes.Joined.exists_around (h : Joined inside (parts ++ part :: parts')) :
    ∃ front back, inside = front ++ (part ++ back) ∧
      visible front = (parts.map visible).flatMap (· ++ [',']) ∧
      visible back = (parts'.map visible).flatMap (',' :: ·) := by
  induction parts generalizing inside with
  | nil =>
      refine ⟨[], ?_⟩
      rw [List.nil_append] at h
      induction parts' generalizing inside part with
      | nil =>
          cases h with
          | last _ => exact ⟨[], by simp, rfl, rfl⟩
          | more _ hcomma hrest => cases hrest
      | cons next parts' ih =>
          obtain ⟨comma, rest, rfl, hcomma, hrest⟩ := h.exists_comma (List.cons_ne_nil _ _)
          obtain ⟨back, rfl, -, hback⟩ := ih hrest
          refine ⟨comma :: (next ++ back), rfl, rfl, ?_⟩
          show comma.char :: visible (next ++ back) = _
          rw [visible_append, hback, hcomma]
          rfl
  | cons first parts ih =>
      obtain ⟨comma, rest, rfl, hcomma, hrest⟩ := h.exists_comma (by simp)
      obtain ⟨front, back, rfl, hfront, hback⟩ := ih hrest
      refine ⟨first ++ comma :: front, back, by simp, ?_, hback⟩
      rw [visible_append]
      show visible first ++ comma.char :: visible front = _
      rw [hfront, hcomma, List.map_cons, List.flatMap_cons, List.append_assoc]
      rfl

end

/-- The items of a list in parentheses, on both sides of one of them. -/
structure ListPlace where
  earlier : List (List Char)
  later : List (List Char)
  isItem_earlier : ∀ item ∈ earlier, isItem 0 item = true
  isItem_later : ∀ item ∈ later, isItem 0 item = true

namespace ListPlace

def left (place : ListPlace) : List Char :=
  '(' :: place.earlier.flatMap (· ++ [','])

def right (place : ListPlace) : List Char :=
  place.later.flatMap (',' :: ·) ++ [')']

theorem exists_left_eq (place : ListPlace) :
    ∃ front c, place.left = front ++ [c] ∧ (c = '(' ∨ c = ',') := by
  rcases List.eq_nil_or_concat place.earlier with hnil | ⟨items, item, hitems⟩
  · exact ⟨[], '(', by rw [left, hnil]; rfl, .inl rfl⟩
  · refine ⟨'(' :: (items.flatMap (· ++ [',']) ++ item), ',', ?_, .inr rfl⟩
    rw [left, hitems]
    simp

end ListPlace

/-- What the first parentheses behind a word enclose, and the cells behind them. -/
def listBehind? (keyword : String) (cells : List Cell) : Option (List Cell × List Cell) :=
  (fromWord? keyword false cells).bind parenthesized?

section

variable {keyword : String} {cells inside after : List Cell}

theorem listBehind?_eq_some_iff (hkeyword : keyword ≠ "") :
    listBehind? keyword cells = some (inside, after) ↔
      ∃ head opening rest, cells = head ++ opening :: rest ∧ opening.char = '(' ∧
        Introduces keyword (visible head) ∧ splitAtClose? 0 rest = some (inside, after) := by
  have hopened : ∀ found, parenthesized? found = some (inside, after) ↔
      ∃ opening rest, found.dropWhile (·.char != '(') = opening :: rest ∧
        splitAtClose? 0 rest = some (inside, after) := by
    intro found
    rw [parenthesized?]
    cases found.dropWhile (·.char != '(') with
    | nil => simp
    | cons opening rest => simp
  rw [listBehind?, Option.bind_eq_some_iff]
  constructor
  · rintro ⟨found, hfound, hinside⟩
    obtain ⟨opening, rest, hdrop, hsplit⟩ := (hopened found).mp hinside
    obtain ⟨head, hcells, hopening, hhead⟩ :=
      (introduces_iff hkeyword).mp ⟨found, hfound, hdrop⟩
    exact ⟨head, opening, rest, hcells, hopening, hhead, hsplit⟩
  · rintro ⟨head, opening, rest, hcells, hopening, hhead, hsplit⟩
    obtain ⟨found, hfound, hdrop⟩ :=
      (introduces_iff hkeyword).mpr ⟨head, hcells, hopening, hhead⟩
    exact ⟨found, hfound, (hopened found).mpr ⟨opening, rest, hdrop, hsplit⟩⟩

/-- One part of the list behind a word, by what stands around it. -/
theorem listBehind?_part_iff (hkeyword : keyword ≠ "") (part : List Cell) {number : Nat} :
    (∃ inside, listBehind? keyword cells = some (inside, after) ∧
        (splitCommas 0 inside)[number]? = some part) ↔
      isItem 0 (visible part) = true ∧
        ∃ (head : List Char) (place : ListPlace) (front back : List Cell),
        cells = front ++ (part ++ (back ++ after)) ∧ visible front = head ++ place.left ∧
          visible back = place.right ∧ Introduces keyword head ∧
          place.earlier.length = number := by
  constructor
  · rintro ⟨inside, hlist, hpart⟩
    obtain ⟨head, opening, rest, rfl, hopening, hhead, hsplit⟩ :=
      (listBehind?_eq_some_iff hkeyword).mp hlist
    obtain ⟨closing, hclosing, rfl⟩ := Bytes.eq_of_splitAtClose? hsplit
    obtain ⟨parts, parts', hparts, rfl⟩ := getElem?_eq_some_iff_append.mp hpart
    have hitems : ∀ item ∈ parts ++ part :: parts', isItem 0 (visible item) = true := by
      obtain ⟨first, others, hfirst, hitem, hothers⟩ := exists_items_of_splitAtClose? hsplit
      rw [← hparts, hfirst]
      exact List.forall_mem_cons.mpr ⟨hitem, hothers⟩
    have hjoined := Bytes.joined_splitCommas 0 inside
    rw [hparts] at hjoined
    obtain ⟨front, back, rfl, hfront, hback⟩ := hjoined.exists_around
    rw [List.forall_mem_append, List.forall_mem_cons] at hitems
    refine ⟨hitems.2.1, visible head, ⟨parts.map visible, parts'.map visible, ?_, ?_⟩,
      head ++ opening :: front, back ++ [closing], by simp, ?_, ?_, hhead, List.length_map _⟩
    · exact List.forall_mem_map.mpr hitems.1
    · exact List.forall_mem_map.mpr hitems.2.2
    · rw [visible_append]
      show _ ++ opening.char :: visible front = _
      rw [hopening, hfront]
      rfl
    · rw [visible_append, hback]
      show _ ++ [closing.char] = _
      rw [hclosing]
      rfl
  · rintro ⟨hpart, _, place, _, _, rfl, hleft, hright, hhead, rfl⟩
    obtain ⟨head, opened, rfl, rfl, hopened⟩ := exists_of_visible_append hleft
    obtain ⟨opening, front, rfl, hopening, hfront⟩ := List.map_eq_cons_iff.mp hopened
    obtain ⟨back, closed, rfl, hback, hclosed⟩ := exists_of_visible_append hright
    obtain ⟨closing, others, rfl, hclosing, hnil⟩ := List.map_eq_cons_iff.mp hclosed
    obtain rfl := List.map_eq_nil_iff.mp hnil
    obtain ⟨parts, parts', hjoined, hearlier, hlater⟩ := exists_joined hfront hback part
    have hitems : ∀ item ∈ parts ++ part :: parts', isItem 0 (visible item) = true := by
      rw [List.forall_mem_append, List.forall_mem_cons]
      refine ⟨?_, hpart, ?_⟩
      · exact List.forall_mem_map.mp (hearlier ▸ place.isItem_earlier)
      · exact List.forall_mem_map.mp (hlater ▸ place.isItem_later)
    refine ⟨_, (listBehind?_eq_some_iff hkeyword).mpr ⟨head, opening, _, ?_, hopening, hhead,
      hjoined.splitAtClose?_eq hitems hclosing⟩, ?_⟩
    · simp
    · rw [hjoined.splitCommas_eq hitems, ← hearlier, List.length_map]
      exact getElem?_eq_some_iff_append.mpr ⟨parts, parts', rfl, rfl⟩

end

/-- What a template shows around a value of the first row of an `INSERT`. -/
structure Insertion where
  head : List Char
  columns : ListPlace
  /-- The item of the value's place among the columns. -/
  column : List Char
  between : List Char
  values : ListPlace
  introduces_head : Introduces "insert" head
  isItem_column : isItem 0 column = true
  introduces_between : Introduces "values" between
  length_eq : columns.earlier.length = values.earlier.length

/-- The text before the value. -/
def Insertion.left (insertion : Insertion) : List Char :=
  insertion.head ++ insertion.columns.left ++ insertion.column ++ insertion.columns.right ++
    insertion.between ++ insertion.values.left

section

variable {cells : List Cell} {number : Nat} {name : String}

theorem insertedColumns_eq (cells : List Cell) :
    insertedColumns cells = (((listBehind? "insert" cells).bind fun columns =>
      (listBehind? "values" columns.2).map fun row =>
        (splitCommas 0 columns.1).zip (splitCommas 0 row.1)).getD []).filterMap
          lonePlaceholder? := by
  rw [insertedColumns_eq_filterMap, insertParts?, listBehind?]
  cases fromWord? "insert" false cells with
  | none => rfl
  | some insert =>
      simp only [Option.bind_eq_bind, Option.bind_some]
      cases parenthesized? insert with
      | none => rfl
      | some columns =>
          simp only [Option.bind_some, listBehind?]
          cases fromWord? "values" false columns.2 with
          | none => rfl
          | some values =>
              simp only [Option.bind_some]
              cases parenthesized? values <;> rfl

theorem lonePlaceholder?_eq_some_iff {column value : List Cell} :
    lonePlaceholder? (column, value) = some (number, name) ↔
      loneSlot? value = some number ∧ EndsInColumn (visible column) name := by
  rw [← columnAtEnd?_eq_some_iff, lonePlaceholder?]
  cases loneSlot? value with
  | none => simp
  | some found => cases columnAtEnd? ((visible column).reverse.dropWhile isBlank) <;> simp

theorem all_isBlank_of_loneSlot? {value : List Cell} (h : loneSlot? value = some number) :
    value.all (isBlank ·.char) = true := by
  rw [loneSlot?] at h
  split at h
  · assumption
  · cases h

/-- The checks find the placeholders that are all of a value, and no others. -/
theorem mem_insertedColumns_iff :
    (number, name) ∈ insertedColumns cells ↔
      ∃ (insertion : Insertion) (before value after : List Cell) (rest : List Char),
        cells = before ++ (value ++ after) ∧ visible before = insertion.left ∧
          visible after = insertion.values.right ++ rest ∧ loneSlot? value = some number ∧
          EndsInColumn insertion.column name := by
  have hinsert : "insert" ≠ "" := by decide
  have hvalues : "values" ≠ "" := by decide
  rw [insertedColumns_eq, List.mem_filterMap]
  constructor
  · rintro ⟨⟨column, value⟩, hmem, hlone⟩
    obtain ⟨hslot, hcolumn⟩ := lonePlaceholder?_eq_some_iff.mp hlone
    cases hpairs : (listBehind? "insert" cells).bind fun columns =>
        (listBehind? "values" columns.2).map fun row =>
          (splitCommas 0 columns.1).zip (splitCommas 0 row.1) with
    | none =>
        rw [hpairs] at hmem
        cases hmem
    | some pairs =>
        rw [hpairs, Option.getD_some] at hmem
        obtain ⟨⟨columns, afterColumns⟩, hcolumns, hzip⟩ := Option.bind_eq_some_iff.mp hpairs
        obtain ⟨⟨row, rest⟩, hrow, rfl⟩ := Option.map_eq_some_iff.mp hzip
        obtain ⟨place, hplace⟩ := List.mem_iff_getElem?.mp hmem
        obtain ⟨hcolumnAt, hvalueAt⟩ := List.getElem?_zip_eq_some.mp hplace
        obtain ⟨hitem, head, columnPlace, front, back, rfl, hfront, hback, hhead, hlength⟩ :=
          (listBehind?_part_iff hinsert column).mp ⟨columns, hcolumns, hcolumnAt⟩
        obtain ⟨-, between, valuePlace, front', back', rfl, hfront', hback', hbetween, hlength'⟩ :=
          (listBehind?_part_iff hvalues value).mp ⟨row, hrow, hvalueAt⟩
        refine ⟨⟨head, columnPlace, visible column, between, valuePlace, hhead, hitem, hbetween,
          hlength.trans hlength'.symm⟩, front ++ column ++ back ++ front', value, back' ++ rest,
          visible rest, by simp, ?_, ?_, hslot, hcolumn⟩
        · simp only [visible_append, hfront, hback, hfront', Insertion.left, List.append_assoc]
        · rw [visible_append, hback']
  · rintro ⟨insertion, _, value, _, rest, rfl, hbefore, hafter, hslot, hcolumn⟩
    obtain ⟨upTo, front', rfl, hupTo, hfront'⟩ :=
      exists_of_visible_append (hbefore.trans (List.append_assoc ..))
    obtain ⟨through, back, rfl, hthrough, hback⟩ := exists_of_visible_append hupTo
    obtain ⟨front, column, rfl, hfront, hitem⟩ := exists_of_visible_append hthrough
    obtain ⟨back', rest', rfl, hback', -⟩ := exists_of_visible_append hafter
    have hvalue := isItem_of_all_isBlank (all_isBlank_of_loneSlot? hslot)
    obtain ⟨columns, hcolumns, hcolumnAt⟩ := (listBehind?_part_iff hinsert column).mpr
      ⟨by rw [hitem]; exact insertion.isItem_column, insertion.head, insertion.columns, front, back,
        rfl, hfront, hback, insertion.introduces_head, insertion.length_eq⟩
    obtain ⟨row, hrow, hvalueAt⟩ := (listBehind?_part_iff hvalues value).mpr
      ⟨hvalue, insertion.between, insertion.values, front', back', rfl, hfront', hback',
        insertion.introduces_between, rfl⟩
    refine ⟨(column, value), ?_, lonePlaceholder?_eq_some_iff.mpr ⟨hslot, by rwa [hitem]⟩⟩
    rw [show front ++ column ++ back ++ front' ++ (value ++ (back' ++ rest')) =
      front ++ (column ++ (back ++ (front' ++ (value ++ (back' ++ rest'))))) by simp, hcolumns,
      Option.bind_some, hrow]
    exact List.mem_iff_getElem?.mpr
      ⟨_, List.getElem?_zip_eq_some.mpr ⟨hcolumnAt, hvalueAt⟩⟩

end

end QueryMethods

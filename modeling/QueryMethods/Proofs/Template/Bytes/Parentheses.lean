import Mathlib.Data.List.Chain
import Mathlib.Data.List.TakeWhile
import Mathlib.Data.Nat.Find
import QueryMethods.Template.Bytes.Columns

/-!
# Parentheses and lists, by places

The search for a closing parenthesis and the search for commas count open parentheses by different
rules. Both meet the same ones: the first opening parenthesis is matched with the one that balances
it, and between these two the count never asks for less than nothing, so the list is cut at the
commas that no further parentheses enclose.
-/

namespace QueryMethods.Bytes

/-- Text whose parentheses come in pairs. -/
inductive Balanced : List Char → Prop
  | nil : Balanced []
  | other {c : Char} {text : List Char} (hopening : c ≠ '(') (hclosing : c ≠ ')') :
      Balanced text → Balanced (c :: text)
  | group {inside after : List Char} :
      Balanced inside → Balanced after → Balanced ('(' :: (inside ++ ')' :: after))

/-- Text that closes this many parentheses before it, and every one that it opens. -/
inductive Closes : Nat → List Char → Prop
  | inner {text : List Char} : Balanced text → Closes 0 text
  | outer {depth : Nat} {inside after : List Char} :
      Balanced inside → Closes depth after → Closes (depth + 1) (inside ++ ')' :: after)

theorem Closes.other {c : Char} {depth : Nat} {text : List Char} (hopening : c ≠ '(')
    (hclosing : c ≠ ')') (h : Closes depth text) : Closes depth (c :: text) := by
  cases h with
  | inner hinside => exact .inner (.other hopening hclosing hinside)
  | outer hinside hafter => exact .outer (.other hopening hclosing hinside) hafter

theorem Closes.closing {depth : Nat} {text : List Char} (h : Closes depth text) :
    Closes (depth + 1) (')' :: text) :=
  .outer .nil h

theorem Closes.opening {depth : Nat} {text : List Char} (h : Closes (depth + 1) text) :
    Closes depth ('(' :: text) := by
  cases h with
  | @outer _ inside after hinside hafter =>
      cases hafter with
      | inner hafter => exact .inner (.group hinside hafter)
      | @outer depth second rest hsecond hrest =>
          have hfirst := Closes.outer (Balanced.group hinside hsecond) hrest
          rwa [List.cons_append, List.append_assoc, List.cons_append] at hfirst

theorem Closes.balanced {text : List Char} (h : Closes 0 text) : Balanced text := by
  cases h with
  | inner hinside => exact hinside

/-- How many parentheses a text opens, less those that it closes. -/
def level (text : List Char) : Int :=
  text.count '(' - text.count ')'

theorem level_append (before after : List Char) :
    level (before ++ after) = level before + level after := by
  simp only [level, List.count_append, Int.natCast_add]
  omega

@[simp]
theorem level_opening : level ['('] = 1 := rfl

@[simp]
theorem level_closing : level [')'] = -1 := rfl

theorem level_other {c : Char} (hopening : c ≠ '(') (hclosing : c ≠ ')') : level [c] = 0 := by
  rw [level, List.count_singleton, List.count_singleton, if_neg (by simpa using hopening),
    if_neg (by simpa using hclosing)]
  rfl

theorem level_cons (c : Char) (text : List Char) : level (c :: text) = level [c] + level text :=
  level_append [c] text

theorem Balanced.level_eq {text : List Char} (h : Balanced text) : level text = 0 := by
  induction h with
  | nil => rfl
  | other hopening hclosing _ ih => rw [level_cons, level_other hopening hclosing, ih, Int.zero_add]
  | group _ _ hinside hafter =>
      rw [level_cons, level_append, level_cons ')', hinside, hafter, level_opening, level_closing]
      rfl

/-- From its beginning on, balanced text never closes more than it has opened. -/
theorem Balanced.level_nonneg {text : List Char} (h : Balanced text) :
    ∀ front back, text = front ++ back → 0 ≤ level front := by
  induction h with
  | nil =>
      intro front back htext
      rw [(List.append_eq_nil_iff.mp htext.symm).1]
      exact Int.le_refl 0
  | other hopening hclosing _ ih =>
      intro front back htext
      obtain ⟨rfl, -⟩ | ⟨front, rfl, hrest⟩ := List.cons_eq_append_iff.mp htext
      · exact Int.le_refl 0
      · rw [level_cons, level_other hopening hclosing, Int.zero_add]
        exact ih front back hrest
  | @group inside after hbalanced _ hinside hafter =>
      intro front back htext
      obtain ⟨rfl, -⟩ | ⟨front, rfl, hrest⟩ := List.cons_eq_append_iff.mp htext
      · exact Int.le_refl 0
      rw [level_cons, level_opening]
      -- The front ends before the closing parenthesis, with the text before it, or behind it.
      obtain ⟨rest, rfl, hafterInside⟩ | ⟨rest, hfront, -⟩ := List.append_eq_append_iff.mp hrest
      · obtain ⟨rfl, -⟩ | ⟨rest, rfl, hback⟩ := List.cons_eq_append_iff.mp hafterInside
        · rw [List.append_nil, hbalanced.level_eq]
          exact Int.one_nonneg
        · have hlevel := hafter rest back hback
          rw [level_append, level_cons, hbalanced.level_eq, level_closing]
          omega
      · have hlevel := hinside front rest hfront
        omega

/-- The text from a place to before another. -/
def between (text : List Char) (start stop : Nat) : List Char :=
  (text.take stop).drop start

variable {text : List Char} {start place stop : Nat}

theorem slice?_eq_between (hstart : start ≤ stop) (hstop : stop ≤ text.length) :
    slice? text start stop = some (between text start stop) :=
  if_pos ⟨hstart, hstop⟩

theorem slice?_to_end (hstart : start ≤ text.length) :
    slice? text start text.length = some (text.drop start) := by
  rw [slice?, if_pos ⟨hstart, Nat.le_refl _⟩, List.take_length]

theorem length_between (hstop : stop ≤ text.length) :
    (between text start stop).length = stop - start := by
  rw [between, List.length_drop, List.length_take, Nat.min_eq_left hstop]

theorem forall_mem_between {c : Char}
    (h : ∀ place, start ≤ place → place < stop → text[place]? ≠ some c) :
    ∀ other ∈ between text start stop, (other != c) = true := by
  intro other hmem
  obtain ⟨place, hplace⟩ := List.mem_iff_getElem?.mp hmem
  rw [between, List.getElem?_drop, List.getElem?_take] at hplace
  split at hplace
  · have hne := h (start + place) (Nat.le_add_right _ _) ‹_›
    rw [hplace] at hne
    exact bne_iff_ne.mpr fun heq => hne (congrArg some heq)
  · cases hplace

theorem drop_eq_between_append {c : Char} (hstart : start ≤ stop) (hc : text[stop]? = some c) :
    text.drop start = between text start stop ++ c :: text.drop (stop + 1) := by
  have hbound := (List.getElem?_eq_some_iff.mp hc).1
  have hrest : text.drop stop = c :: text.drop (stop + 1) := by
    rw [List.drop_eq_getElem?_toList_append, hc]
    rfl
  rw [← hrest, between, ← List.drop_append_of_le_length (by rw [List.length_take]; omega),
    List.take_append_drop]

theorem between_self (text : List Char) (place : Nat) : between text place place = [] :=
  List.drop_eq_nil_of_le (List.length_take_le _ _)

theorem between_append (hstart : start ≤ place) (hstop : place ≤ stop) :
    between text start place ++ between text place stop = between text start stop := by
  simp only [between, List.drop_take]
  have hsplit : stop - start = place - start + (stop - place) := by omega
  have hskip : place = start + (place - start) := by omega
  rw [hsplit, List.take_add, List.drop_drop, ← hskip]

theorem between_cons {c : Char} (hplace : place < stop) (hc : text[place]? = some c) :
    between text place stop = c :: between text (place + 1) stop := by
  have htake : (text.take stop)[place]? = some c := by rw [List.getElem?_take, if_pos hplace, hc]
  rw [between, List.drop_eq_getElem?_toList_append, htake]
  rfl

theorem between_snoc {c : Char} (hstart : start ≤ place) (hc : text[place]? = some c) :
    between text start (place + 1) = between text start place ++ [c] := by
  rw [← between_append hstart (Nat.le_succ place), between_cons (Nat.lt_succ_self place) hc,
    between_self]

theorem exists_getElem?_of_between {c : Char} {rest : List Char}
    (h : between text place stop = c :: rest) : place < stop ∧ text[place]? = some c ∧
      between text (place + 1) stop = rest := by
  have hlength : place < (text.take stop).length := by
    rw [← Nat.sub_pos_iff_lt, ← List.length_drop, ← between, h]
    exact Nat.succ_pos _
  rw [List.length_take, Nat.lt_min] at hlength
  obtain ⟨hstop, htext⟩ := hlength
  have hcons := between_cons hstop (List.getElem?_eq_getElem htext)
  rw [h] at hcons
  obtain ⟨rfl, rfl⟩ := List.cons.inj hcons
  exact ⟨hstop, List.getElem?_eq_getElem htext, rfl⟩

/-! ### The closing parenthesis -/

/-- The opening parenthesis at a place is the first one that is not before another place. -/
def Opens (text : List Char) (start opening : Nat) : Prop :=
  start ≤ opening ∧ text[opening]? = some '(' ∧
    ∀ place, start ≤ place → place < opening → text[place]? ≠ some '('

/-- The closing parenthesis at a place balances the opening one at another place. -/
def Balances (text : List Char) (opening closing : Nat) : Prop :=
  opening < closing ∧ text[closing]? = some ')' ∧ Balanced (between text (opening + 1) closing)

theorem closeFrom?_opening (depth place : Nat) (rest : List Char) :
    closeFrom? depth place ('(' :: rest) = closeFrom? (depth + 1) (place + 1) rest := rfl

theorem closeFrom?_closing (depth place : Nat) (rest : List Char) :
    closeFrom? (depth + 1) place (')' :: rest) =
      if depth = 0 then some (some place) else closeFrom? depth (place + 1) rest := rfl

theorem closeFrom?_other {c : Char} (hopening : c ≠ '(') (hclosing : c ≠ ')') (depth place : Nat)
    (rest : List Char) :
    closeFrom? depth place (c :: rest) = closeFrom? depth (place + 1) rest := by
  rw [closeFrom?, if_neg hopening, if_neg hclosing]

/-- While a parenthesis is open, the count has one to take away. -/
theorem exists_closeFrom? (depth place : Nat) (text : List Char) :
    ∃ closing, closeFrom? (depth + 1) place text = some closing := by
  induction text generalizing depth place with
  | nil => exact ⟨none, rfl⟩
  | cons c rest ih =>
      by_cases hopening : c = '('
      · subst hopening
        exact ih (depth + 1) (place + 1)
      by_cases hclosing : c = ')'
      · subst hclosing
        rw [closeFrom?_closing]
        cases depth with
        | zero => exact ⟨some place, rfl⟩
        | succ depth => exact ih depth (place + 1)
      · rw [closeFrom?_other hopening hclosing]
        exact ih depth (place + 1)

/-- Balanced text is passed over. -/
theorem Balanced.closeFrom?_append {inside : List Char} (h : Balanced inside) (depth place : Nat)
    (after : List Char) : closeFrom? (depth + 1) place (inside ++ after) =
      closeFrom? (depth + 1) (place + inside.length) after := by
  induction h generalizing depth place after with
  | nil => rfl
  | @other c text hopening hclosing _ ih =>
      rw [List.cons_append, closeFrom?_other hopening hclosing, ih, List.length_cons,
        Nat.add_assoc, Nat.add_comm 1]
  | @group first second _ _ hfirst hsecond =>
      have hlength : place + 1 + first.length + 1 + second.length =
          place + ('(' :: (first ++ ')' :: second)).length := by
        simp only [List.length_cons, List.length_append]
        omega
      rw [List.cons_append, List.append_assoc, List.cons_append, closeFrom?_opening, hfirst,
        closeFrom?_closing, if_neg (Nat.succ_ne_zero depth), hsecond, hlength]

theorem Closes.of_closeFrom? {depth place closing : Nat} {text : List Char}
    (h : closeFrom? (depth + 1) place text = some (some closing)) :
    ∃ inside after, text = inside ++ ')' :: after ∧ closing = place + inside.length ∧
      Closes depth inside := by
  induction text generalizing depth place with
  | nil => cases h
  | cons c rest ih =>
      have hlength : ∀ inside : List Char,
          place + 1 + inside.length = place + (c :: inside).length := by
        intro inside
        rw [List.length_cons]
        omega
      by_cases hopening : c = '('
      · subst hopening
        obtain ⟨inside, after, rfl, rfl, hinside⟩ := ih h
        exact ⟨'(' :: inside, after, rfl, hlength inside, hinside.opening⟩
      by_cases hclosing : c = ')'
      · subst hclosing
        rw [closeFrom?_closing] at h
        cases depth with
        | zero => exact ⟨[], rest, rfl, (Option.some.inj (Option.some.inj h)).symm, .inner .nil⟩
        | succ depth =>
            obtain ⟨inside, after, rfl, rfl, hinside⟩ := ih h
            exact ⟨')' :: inside, after, rfl, hlength inside, hinside.closing⟩
      · rw [closeFrom?_other hopening hclosing] at h
        obtain ⟨inside, after, rfl, rfl, hinside⟩ := ih h
        exact ⟨c :: inside, after, rfl, hlength inside, hinside.other hopening hclosing⟩

theorem closeFrom?_eq_some_iff {opening closing : Nat} :
    closeFrom? 1 (opening + 1) (text.drop (opening + 1)) = some (some closing) ↔
      Balances text opening closing := by
  constructor
  · intro h
    obtain ⟨inside, after, htext, rfl, hinside⟩ := Closes.of_closeFrom? h
    have hcut : between text (opening + 1) (opening + 1 + inside.length) = inside := by
      rw [between, List.drop_take, Nat.add_sub_cancel_left, htext, List.take_left]
    refine ⟨by omega, ?_, ?_⟩
    · rw [← List.getElem?_drop, htext, List.getElem?_append_right (Nat.le_refl _), Nat.sub_self]
      rfl
    · rw [hcut]
      exact hinside.balanced
  · rintro ⟨hlt, hclosing, hinside⟩
    have hbound := (List.getElem?_eq_some_iff.mp hclosing).1
    rw [drop_eq_between_append hlt hclosing, hinside.closeFrom?_append 0,
      length_between (Nat.le_of_lt hbound), Nat.add_sub_cancel' hlt]
    rfl

theorem parenthesized?_of_opens {opening : Nat} (h : Opens text start opening) :
    parenthesized? text start =
      (closeFrom? 1 (opening + 1) (text.drop (opening + 1))).map (·.map (opening, ·)) := by
  obtain ⟨hstart, hopening, hfirst⟩ := h
  have hbound := (List.getElem?_eq_some_iff.mp hopening).1
  have hpassed := forall_mem_between hfirst
  have hlength : start + (between text start opening).length = opening := by
    rw [length_between (Nat.le_of_lt hbound), Nat.add_sub_cancel' hstart]
  rw [parenthesized?, slice?_to_end (by omega), drop_eq_between_append hstart hopening]
  simp only [Option.bind_eq_bind, Option.bind_some, List.takeWhile_append_of_pos hpassed,
    List.dropWhile_append_of_pos hpassed]
  rw [List.takeWhile_cons, if_neg (by decide), List.append_nil, hlength]
  rfl

theorem parenthesized?_of_no_opening (hstart : start ≤ text.length)
    (h : ∀ place, start ≤ place → text[place]? ≠ some '(') :
    parenthesized? text start = some none := by
  have hall : between text start text.length = text.drop start := by
    rw [between, List.take_length]
  have hpassed : (text.drop start).dropWhile (· != '(') = [] := by
    rw [List.dropWhile_eq_nil_iff, ← hall]
    exact forall_mem_between fun place hplace _ => h place hplace
  rw [parenthesized?, slice?_to_end hstart]
  simp only [Option.bind_eq_bind, Option.bind_some, hpassed]

theorem opens_or_no_opening (text : List Char) (start : Nat) :
    (∃ opening, Opens text start opening) ∨ ∀ place, start ≤ place → text[place]? ≠ some '(' := by
  by_cases h : ∃ place, start ≤ place ∧ text[place]? = some '('
  · obtain ⟨hstart, hopening⟩ := Nat.find_spec h
    refine .inl ⟨Nat.find h, hstart, hopening, ?_⟩
    intro place hplace hlt heq
    exact Nat.find_min h hlt ⟨hplace, heq⟩
  · refine .inr fun place hplace heq => h ⟨place, hplace, heq⟩

theorem Opens.unique {opening other : Nat} (h : Opens text start opening)
    (hother : Opens text start other) : opening = other := by
  obtain ⟨hstart, hopening, hfirst⟩ := h
  obtain ⟨hstart', hopening', hfirst'⟩ := hother
  by_contra hne
  rcases Nat.lt_or_gt_of_ne hne with hlt | hlt
  · exact hfirst' opening hstart hlt hopening
  · exact hfirst other hstart' hlt hopening'

theorem exists_parenthesized? (hstart : start ≤ text.length) :
    ∃ found, parenthesized? text start = some found := by
  obtain ⟨opening, hopening⟩ | hnone := opens_or_no_opening text start
  · obtain ⟨closing, hclosing⟩ := exists_closeFrom? 0 (opening + 1) (text.drop (opening + 1))
    exact ⟨_, by rw [parenthesized?_of_opens hopening, hclosing, Option.map_some]⟩
  · exact ⟨none, parenthesized?_of_no_opening hstart hnone⟩

theorem parenthesized?_eq_pair_iff (hstart : start ≤ text.length) {opening closing : Nat} :
    parenthesized? text start = some (some (opening, closing)) ↔
      Opens text start opening ∧ Balances text opening closing := by
  have hpair : ∀ {first : Nat}, Opens text start first →
      (parenthesized? text start = some (some (opening, closing)) ↔
        first = opening ∧ Balances text first closing) := by
    intro first hfirst
    obtain ⟨found, hfound⟩ := exists_closeFrom? 0 (first + 1) (text.drop (first + 1))
    rw [parenthesized?_of_opens hfirst, ← closeFrom?_eq_some_iff, hfound]
    cases found <;> simp
  constructor
  · intro h
    obtain ⟨first, hfirst⟩ | hnone := opens_or_no_opening text start
    · obtain ⟨rfl, hbalances⟩ := (hpair hfirst).mp h
      exact ⟨hfirst, hbalances⟩
    · rw [parenthesized?_of_no_opening hstart hnone] at h
      cases h
  · rintro ⟨hopens, hbalances⟩
    exact (hpair hopens).mpr ⟨rfl, hbalances⟩

theorem parenthesized?_eq_none_iff (hstart : start ≤ text.length) :
    parenthesized? text start = some none ↔
      (∀ place, start ≤ place → text[place]? ≠ some '(') ∨
        ∃ opening, Opens text start opening ∧ ∀ closing, ¬ Balances text opening closing := by
  constructor
  · intro h
    obtain ⟨opening, hopening⟩ | hnone := opens_or_no_opening text start
    · refine .inr ⟨opening, hopening, fun closing hbalances => ?_⟩
      rw [(parenthesized?_eq_pair_iff hstart).mpr ⟨hopening, hbalances⟩] at h
      cases h
    · exact .inl hnone
  · rintro (hnone | ⟨opening, hopening, hopen⟩)
    · exact parenthesized?_of_no_opening hstart hnone
    · obtain ⟨found, hfound⟩ := exists_parenthesized? hstart
      cases found with
      | none => exact hfound
      | some pair =>
          obtain ⟨first, closing⟩ := pair
          obtain ⟨hfirst, hbalances⟩ := (parenthesized?_eq_pair_iff hstart).mp hfound
          rw [hfirst.unique hopening] at hbalances
          exact absurd hbalances (hopen closing)

/-! ### Commas outside further parentheses -/

/-- At a place stands a comma, and from `first` on as many parentheses have been closed as opened
before it. -/
def OuterComma (text : List Char) (first place : Nat) : Prop :=
  text[place]? = some ',' ∧ level (between text first place) = 0

instance (text : List Char) (first place : Nat) : Decidable (OuterComma text first place) :=
  inferInstanceAs (Decidable (_ ∧ _))

/-- No such comma stands from a place to before another. -/
def Unbroken (text : List Char) (first start stop : Nat) : Prop :=
  ∀ place, start ≤ place → place < stop → ¬ OuterComma text first place

theorem Unbroken.self (text : List Char) (first place : Nat) : Unbroken text first place place :=
  fun _ hstart hstop => absurd hstop (Nat.not_lt.mpr hstart)

theorem Unbroken.snoc {first : Nat} (h : Unbroken text first start place)
    (hplace : ¬ OuterComma text first place) : Unbroken text first start (place + 1) := by
  intro other hstart hstop
  rcases Nat.lt_succ_iff_lt_or_eq.mp hstop with hlt | rfl
  · exact h other hstart hlt
  · exact hplace

/-- Ranges that end where such a comma stands, and begin again behind it. -/
inductive Parts (text : List Char) (first stop : Nat) : Nat → List (Nat × Nat) → Prop
  | last {start : Nat} (hstart : start ≤ stop) (hpart : Unbroken text first start stop) :
      Parts text first stop start [(start, stop)]
  | comma {start place : Nat} {rest : List (Nat × Nat)} (hstart : start ≤ place)
      (hpart : Unbroken text first start place) (hcomma : OuterComma text first place)
      (hrest : Parts text first stop (place + 1) rest) :
      Parts text first stop start ((start, place) :: rest)

/-- As `rangesFrom`, with no result where a parenthesis is closed while none is open. -/
def rangesFrom? (depth place start : Nat) : List Char → Option (List (Nat × Nat))
  | [] => some [(start, place)]
  | c :: rest =>
      if c = '(' then
        rangesFrom? (depth + 1) (place + 1) start rest
      else if c = ')' then do
        rangesFrom? (← minus? depth 1) (place + 1) start rest
      else if c = ',' ∧ depth = 0 then
        (rangesFrom? depth (place + 1) (place + 1) rest).map ((start, place) :: ·)
      else
        rangesFrom? depth (place + 1) start rest

theorem rangesFrom_of_rangesFrom? {depth place start : Nat} {text : List Char}
    {ranges : List (Nat × Nat)} (h : rangesFrom? depth place start text = some ranges) :
    rangesFrom depth place start text = ranges := by
  induction text generalizing depth place start ranges with
  | nil => exact Option.some.inj h
  | cons c rest ih =>
      rw [rangesFrom?] at h
      rw [rangesFrom]
      by_cases hopening : c = '('
      · rw [if_pos hopening] at h ⊢
        exact ih h
      rw [if_neg hopening] at h ⊢
      by_cases hclosing : c = ')'
      · rw [if_pos hclosing] at h ⊢
        cases depth with
        | zero => cases h
        | succ depth => exact ih h
      rw [if_neg hclosing] at h ⊢
      by_cases hcomma : c = ',' ∧ depth = 0
      · rw [if_pos hcomma] at h ⊢
        obtain ⟨others, hothers, rfl⟩ := Option.map_eq_some_iff.mp h
        rw [ih hothers]
      · rw [if_neg hcomma] at h ⊢
        exact ih h

/-- The invariant of the search for commas: `depth` is the level at `place`, and the range that is
under way has no outer comma yet. -/
theorem Parts.of_rangesFrom? {first : Nat} (hstop : stop ≤ text.length)
    (hlevel : ∀ place, first ≤ place → place ≤ stop → 0 ≤ level (between text first place))
    {rest : List Char} {depth place start : Nat} (hrest : between text place stop = rest)
    (hfirst : first ≤ place) (hstart : start ≤ place) (hplace : place ≤ stop)
    (hdepth : level (between text first place) = depth)
    (hpart : Unbroken text first start place) :
    ∃ ranges, rangesFrom? depth place start rest = some ranges ∧
      Parts text first stop start ranges := by
  induction rest generalizing depth place start with
  | nil =>
      have hlength := congrArg List.length hrest
      rw [length_between hstop, List.length_nil] at hlength
      obtain rfl : place = stop := by omega
      exact ⟨_, rfl, .last hstart hpart⟩
  | cons c rest ih =>
      obtain ⟨hlt, hc, hbehind⟩ := exists_getElem?_of_between hrest
      have hnext : level (between text first (place + 1)) = depth + level [c] := by
        rw [between_snoc hfirst hc, level_append, hdepth]
      have hskip : ¬ OuterComma text first place → ∀ {left : Nat},
          level (between text first (place + 1)) = left →
          ∃ ranges, rangesFrom? left (place + 1) start rest = some ranges ∧
            Parts text first stop start ranges := by
        intro hcomma left hleft
        exact ih hbehind (by omega) (by omega) hlt hleft (hpart.snoc hcomma)
      have hne : c ≠ ',' → ¬ OuterComma text first place := by
        intro hne hcomma
        exact hne (Option.some.inj (hc.symm.trans hcomma.1))
      rw [rangesFrom?]
      by_cases hopening : c = '('
      · subst hopening
        rw [if_pos rfl]
        exact hskip (hne (by decide)) (by rw [hnext, level_opening]; rfl)
      rw [if_neg hopening]
      by_cases hclosing : c = ')'
      · subst hclosing
        have hpos := hlevel (place + 1) (by omega) hlt
        rw [hnext, level_closing] at hpos
        obtain ⟨left, rfl⟩ : ∃ left, depth = left + 1 := ⟨depth - 1, by omega⟩
        rw [if_pos rfl]
        exact hskip (hne (by decide)) (by rw [hnext, level_closing]; omega)
      rw [if_neg hclosing]
      rw [level_other hopening hclosing, Int.add_zero] at hnext
      by_cases hcomma : c = ',' ∧ depth = 0
      · obtain ⟨rfl, rfl⟩ := hcomma
        obtain ⟨others, hothers, hparts⟩ :=
          ih hbehind (by omega) (Nat.le_refl _) hlt hnext (.self text first (place + 1))
        rw [if_pos ⟨rfl, rfl⟩, hothers]
        exact ⟨_, rfl, .comma hstart hpart ⟨hc, hdepth⟩ hparts⟩
      · rw [if_neg hcomma]
        refine hskip ?_ hnext
        rintro ⟨hcomma', hzero⟩
        refine hcomma ⟨Option.some.inj (hc.symm.trans hcomma'), ?_⟩
        omega

/-- Ranges with single commas between them, one more than there are outer commas, none of which
stands inside a range. -/
structure Splits (text : List Char) (start stop : Nat) (ranges : List (Nat × Nat)) : Prop where
  begins : ranges.head?.map Prod.fst = some start
  ends : ranges.getLast?.map Prod.snd = some stop
  ordered : ∀ range ∈ ranges, range.1 ≤ range.2
  chained : ranges.IsChain fun left right => text[left.2]? = some ',' ∧ right.1 = left.2 + 1
  joined : [','].intercalate (ranges.map fun range => between text range.1 range.2) =
    between text start stop
  counted : ranges.length =
    (List.range' start (stop - start)).countP (OuterComma text start ·) + 1
  unbroken : ∀ range ∈ ranges, Unbroken text start range.1 range.2

namespace Parts

variable {first : Nat} {ranges : List (Nat × Nat)}

theorem head? (h : Parts text first stop start ranges) :
    ranges.head?.map Prod.fst = some start := by
  cases h <;> rfl

theorem getLast? (h : Parts text first stop start ranges) :
    ranges.getLast?.map Prod.snd = some stop := by
  induction h with
  | last => rfl
  | @comma start place rest _ _ _ hrest ih =>
      cases hrest <;> exact ih

theorem start_le (h : Parts text first stop start ranges) : start ≤ stop := by
  induction h with
  | last hstart => exact hstart
  | comma hstart _ _ _ ih => omega

theorem forall_range (h : Parts text first stop start ranges) :
    ∀ range ∈ ranges, range.1 ≤ range.2 ∧ Unbroken text first range.1 range.2 := by
  induction h with
  | last hstart hpart => exact List.forall_mem_singleton.mpr ⟨hstart, hpart⟩
  | comma hstart hpart _ _ ih => exact List.forall_mem_cons.mpr ⟨⟨hstart, hpart⟩, ih⟩

theorem isChain (h : Parts text first stop start ranges) :
    ranges.IsChain fun left right => text[left.2]? = some ',' ∧ right.1 = left.2 + 1 := by
  induction h with
  | last => exact .singleton _
  | comma _ _ hcomma hrest ih =>
      cases hrest with
      | last => exact .cons_cons ⟨hcomma.1, rfl⟩ ih
      | comma => exact .cons_cons ⟨hcomma.1, rfl⟩ ih

theorem intercalate (h : Parts text first stop start ranges) :
    [','].intercalate (ranges.map fun range => between text range.1 range.2) =
      between text start stop := by
  induction h with
  | last => exact List.intercalate_singleton
  | @comma start place rest hstart _ hcomma hrest ih =>
      have hlt : place < stop := hrest.start_le
      have hsplit : between text start stop =
          between text start place ++ ',' :: between text (place + 1) stop := by
        rw [← between_cons hlt hcomma.1, between_append hstart hlt.le]
      obtain ⟨range, others, rfl⟩ : ∃ range others, rest = range :: others := by
        cases hrest <;> exact ⟨_, _, rfl⟩
      rw [List.map_cons] at ih
      rw [hsplit, List.map_cons, List.map_cons, List.intercalate_cons_cons, ih, List.append_assoc]
      rfl

theorem length_eq (h : Parts text first stop start ranges) : ranges.length =
    (List.range' start (stop - start)).countP (OuterComma text first ·) + 1 := by
  have hnone : ∀ {start stop : Nat}, Unbroken text first start stop →
      (List.range' start (stop - start)).countP (OuterComma text first ·) = 0 := by
    intro start stop hpart
    rw [List.countP_eq_zero]
    intro place hplace
    obtain ⟨hstart, hstop⟩ := List.mem_range'_1.mp hplace
    rw [decide_eq_true_iff]
    exact hpart place hstart (by omega)
  induction h with
  | last _ hpart => rw [hnone hpart, List.length_singleton]
  | @comma start place rest hstart hpart hcomma hrest ih =>
      have hlt : place < stop := hrest.start_le
      have hplaces : List.range' start (stop - start) =
          List.range' start (place - start) ++
            place :: List.range' (place + 1) (stop - (place + 1)) := by
        have hcount : stop - start = place - start + (stop - (place + 1) + 1) := by omega
        have hplace : start + 1 * (place - start) = place := by omega
        rw [hcount, ← List.range'_append, hplace, List.range'_succ]
      have hhere : decide (OuterComma text first place) = true := decide_eq_true hcomma
      rw [List.length_cons, ih, hplaces, List.countP_append, hnone hpart, List.countP_cons,
        if_pos hhere, Nat.zero_add]

end Parts

theorem Parts.splits {ranges : List (Nat × Nat)} (h : Parts text start stop start ranges) :
    Splits text start stop ranges where
  begins := h.head?
  ends := h.getLast?
  ordered := fun range hrange => (h.forall_range range hrange).1
  chained := h.isChain
  joined := h.intercalate
  counted := h.length_eq
  unbroken := fun range hrange => (h.forall_range range hrange).2

theorem Balances.splits {opening closing : Nat} (h : Balances text opening closing) :
    ∃ ranges, splitTopLevel? text (opening + 1) closing = some ranges ∧
      rangesFrom? 0 (opening + 1) (opening + 1) (between text (opening + 1) closing) =
        some ranges ∧
      Splits text (opening + 1) closing ranges := by
  obtain ⟨hlt, hclosing, hinside⟩ := h
  have hbound := (List.getElem?_eq_some_iff.mp hclosing).1
  have hlevel : ∀ place, opening + 1 ≤ place → place ≤ closing →
      0 ≤ level (between text (opening + 1) place) := by
    intro place hfirst hlast
    exact hinside.level_nonneg _ _ (between_append hfirst hlast).symm
  have hzero : level (between text (opening + 1) (opening + 1)) = (0 : Nat) := by
    rw [between_self]
    rfl
  obtain ⟨ranges, hranges, hparts⟩ := Parts.of_rangesFrom? hbound.le hlevel rfl (Nat.le_refl _)
    (Nat.le_refl _) hlt hzero (.self text (opening + 1) (opening + 1))
  refine ⟨ranges, ?_, hranges, hparts.splits⟩
  rw [splitTopLevel?, slice?_eq_between hlt hbound.le, Option.map_some,
    rangesFrom_of_rangesFrom? hranges]

/-- From any place of any masked template on, the first opening parenthesis is paired with the one
that balances it, there is no pair exactly if there is none to open or it stays open, and the count
never goes below zero. The text inside a pair is cut exactly at its outer commas, without a closing
parenthesis that meets a count of zero. -/
theorem parenthesized?_balances_and_splits (found : Scan) (start : Nat)
    (hstart : start ≤ found.masked.length) :
    (∃ pair, parenthesized? found.shown start = some pair) ∧
      (∀ opening closing, parenthesized? found.shown start = some (some (opening, closing)) ↔
        Opens found.shown start opening ∧ Balances found.shown opening closing) ∧
      (parenthesized? found.shown start = some none ↔
        (∀ place, start ≤ place → found.shown[place]? ≠ some '(') ∨
          ∃ opening, Opens found.shown start opening ∧
            ∀ closing, ¬ Balances found.shown opening closing) ∧
      ∀ opening closing, parenthesized? found.shown start = some (some (opening, closing)) →
        ∃ ranges, splitTopLevel? found.shown (opening + 1) closing = some ranges ∧
          rangesFrom? 0 (opening + 1) (opening + 1)
            (between found.shown (opening + 1) closing) = some ranges ∧
          Splits found.shown (opening + 1) closing ranges := by
  have hshown : start ≤ found.shown.length := by rwa [Scan.shown, List.length_map]
  refine ⟨exists_parenthesized? hshown, fun opening closing => parenthesized?_eq_pair_iff hshown,
    parenthesized?_eq_none_iff hshown, ?_⟩
  intro opening closing hpair
  exact ((parenthesized?_eq_pair_iff hshown).mp hpair).2.splits

/-- Arguments of a call, one of them a call itself. -/
def nestedCall : Scan where
  masked := utf8 "t(a, f(b, c), d)".toList

theorem nestedCall_balances_and_splits :
    0 ≤ nestedCall.masked.length ∧
      Opens nestedCall.shown 0 1 ∧ Balances nestedCall.shown 1 15 ∧
      splitTopLevel? nestedCall.shown 2 15 = some [(2, 3), (4, 12), (13, 15)] ∧
      Splits nestedCall.shown 2 15 [(2, 3), (4, 12), (13, 15)] := by
  have hstart : 0 ≤ nestedCall.masked.length := Nat.zero_le _
  have hpair : parenthesized? nestedCall.shown 0 = some (some (1, 15)) := by decide +kernel
  have hranges : splitTopLevel? nestedCall.shown 2 15 = some [(2, 3), (4, 12), (13, 15)] := by
    decide +kernel
  obtain ⟨-, hiff, -, hsplits⟩ := parenthesized?_balances_and_splits nestedCall 0 hstart
  obtain ⟨hopens, hbalances⟩ := (hiff 1 15).mp hpair
  obtain ⟨ranges, hfound, -, hparts⟩ := hsplits 1 15 hpair
  obtain rfl : ranges = [(2, 3), (4, 12), (13, 15)] :=
    Option.some.inj (hfound.symm.trans hranges)
  exact ⟨hstart, hopens, hbalances, hranges, hparts⟩

end QueryMethods.Bytes

import QueryMethods.Declaration.Repository
import Mathlib.Data.List.Nodup

/-!
# Well-formed query attributes

The arguments of an attribute are without fault when each gives a key that the attribute knows a
value that this key takes, when no key comes twice, and when none that is required is missing. A
query attribute is then a list of one template and at most one flag, in any order.
-/

namespace QueryMethods

/-- The argument gives a known key a value that it takes. -/
def ReadArgument.Known (known : List KnownKey) (argument : ReadArgument) : Prop :=
  ∃ key value found, argument = .keyed key value ∧ known.find? (·.name == key) = some found ∧
    found.check value = none

theorem ReadArgument.fault?_eq_none_iff {known : List KnownKey} {seen : List String}
    {argument : ReadArgument} :
    argument.fault? known seen = none ↔
      argument.Known known ∧ ∀ key ∈ argument.key?, key ∉ seen := by
  cases argument with
  | literal => simp [fault?, Known]
  | keyed key value =>
      cases hfound : known.find? (·.name == key) with
      | none => simp [fault?, Known, hfound]
      | some found =>
          by_cases hseen : key ∈ seen
          · simp [fault?, key?, hfound, hseen]
          · simp [fault?, Known, key?, hfound, hseen]

theorem eachFault_eq_nil_iff {known : List KnownKey} {seen : List String}
    {arguments : List ReadArgument} :
    eachFault known seen arguments = [] ↔
      (∀ argument ∈ arguments, argument.Known known ∧ ∀ key ∈ argument.key?, key ∉ seen) ∧
        (arguments.filterMap (·.key?)).Nodup := by
  induction arguments generalizing seen with
  | nil => simp [eachFault]
  | cons argument rest ih =>
      rw [eachFault, List.append_eq_nil_iff, Option.toList_eq_nil_iff,
        ReadArgument.fault?_eq_none_iff, ih, List.forall_mem_cons]
      cases argument with
      | literal => simp [ReadArgument.Known]
      | keyed key value =>
          -- A later argument must not give this key either, so that the key is new among them all.
          have hlater : (∀ later ∈ rest, later.Known known ∧
                ∀ found ∈ later.key?, found ∉ [key] ++ seen) ↔
              (∀ later ∈ rest, later.Known known ∧ ∀ found ∈ later.key?, found ∉ seen) ∧
                key ∉ rest.filterMap (·.key?) := by
            simp only [List.mem_append, List.mem_singleton, not_or, List.mem_filterMap, not_exists,
              not_and, Option.mem_def]
            grind
          rw [ReadArgument.key?, Option.toList_some, hlater,
            List.filterMap_cons_some (f := ReadArgument.key?) rfl, List.nodup_cons]
          tauto

theorem missingKeys_eq_nil_iff {known : List KnownKey} {arguments : List ReadArgument} :
    missingKeys known arguments = [] ↔
      ∀ key ∈ known, key.required = true → ∃ argument ∈ arguments,
        argument.key? = some key.name := by
  simp [missingKeys]

theorem ReadArgument.value?_eq_some_iff {α : Type} {reader : ArgumentReader α} {key : String}
    {argument : ReadArgument} {value : α} :
    argument.value? reader key = some value ↔
      ∃ given, argument = .keyed key given ∧ reader given = .ok value := by
  cases argument with
  | literal => simp [value?]
  | keyed found given =>
      rw [value?]
      by_cases hkey : found = key
      · cases hread : reader given <;> simp [hkey, hread, Except.toOption]
      · simp [hkey]

theorem ReadArgument.key?_of_value? {α : Type} {reader : ArgumentReader α} {key : String}
    {argument : ReadArgument} {value : α} (h : argument.value? reader key = some value) :
    argument.key? = some key := by
  obtain ⟨given, rfl, -⟩ := value?_eq_some_iff.mp h
  rfl

theorem readArgument?_eq_some_iff {α : Type} {reader : ArgumentReader α} {key : String}
    {arguments : List ReadArgument} {value : α}
    (hdistinct : (arguments.filterMap (·.key?)).Nodup) :
    readArgument? reader key arguments = some value ↔
      ∃ argument ∈ arguments, argument.value? reader key = some value := by
  constructor
  · exact List.exists_of_findSome?_eq_some
  · rintro ⟨argument, hmem, hvalue⟩
    have hkey := ReadArgument.key?_of_value? hvalue
    -- No argument before it gives the key a value, as the key would then come twice.
    induction arguments with
    | nil => cases hmem
    | cons first rest ih =>
        rw [readArgument?, List.findSome?_cons]
        cases hfirst : first.value? reader key with
        | none =>
            rcases List.mem_cons.mp hmem with rfl | hrest
            · rw [hvalue] at hfirst
              cases hfirst
            · exact ih (hdistinct.sublist ((List.sublist_cons_self first rest).filterMap _)) hrest
        | some other =>
            rcases List.mem_cons.mp hmem with rfl | hrest
            · exact hfirst.symm.trans hvalue
            · rw [List.filterMap_cons_some (ReadArgument.key?_of_value? hfirst),
                List.nodup_cons] at hdistinct
              exact absurd (List.mem_filterMap.mpr ⟨argument, hrest, hkey⟩) hdistinct.1

theorem forall_readArguments_iff {P : ReadArgument → Prop} {Q : Argument → Prop}
    (h : ∀ argument rest, P (argument.read rest) ↔ Q argument) (given : List Argument) :
    (∀ read ∈ readArguments given, P read) ↔ ∀ argument ∈ given, Q argument := by
  induction given with
  | nil => simp [readArguments]
  | cons argument rest ih => rw [readArguments, List.forall_mem_cons, List.forall_mem_cons, h, ih]

theorem exists_readArguments_iff {P : ReadArgument → Prop} {Q : Argument → Prop}
    (h : ∀ argument rest, P (argument.read rest) ↔ Q argument) (given : List Argument) :
    (∃ read ∈ readArguments given, P read) ↔ ∃ argument ∈ given, Q argument := by
  have hnone := forall_readArguments_iff (P := fun read => ¬ P read) (Q := fun argument =>
    ¬ Q argument) (fun argument rest => not_congr (h argument rest)) given
  simpa using not_congr hnone

/-- Any key but a truth value is read as it is written. -/
theorem Argument.key?_read {argument : Argument} (rest : List Argument)
    (hkey : argument.key ≠ "true" ∧ argument.key ≠ "false") :
    (argument.read rest).key? = some argument.key := by
  unfold read
  split
  case h_1 => rw [if_neg (by simp [hkey])]; rfl
  case h_2 => split <;> rfl
  case h_3 => rfl

theorem Argument.read_eq_word_iff {argument : Argument} {rest : List Argument} {key : String} :
    argument.read rest = .keyed key .word ↔
      argument = ⟨key, none⟩ ∧ key ≠ "true" ∧ key ≠ "false" := by
  obtain ⟨name, value⟩ := argument
  cases value with
  | none =>
      by_cases htruth : name = "true" ∨ name = "false"
      · rcases htruth with rfl | rfl <;> simp +contextual [read, eq_comm]
      · simp only [read, if_neg htruth]
        grind
  | some literal =>
      unfold read
      split <;> (try split) <;> simp_all

theorem Argument.read_eq_literal_iff {argument : Argument} {rest : List Argument} {key : String}
    {literal : Literal} (hliteral : ∀ n, literal ≠ .int n) :
    argument.read rest = .keyed key (.literal literal) ↔ argument = ⟨key, some literal⟩ := by
  obtain ⟨name, value⟩ := argument
  rcases value with _ | text | (n | n) | flag
  case none =>
    simp only [read]
    split <;> simp
  case some.int.negSucc =>
    have hother : ∀ m, Literal.int m ≠ literal := fun m => (hliteral m).symm
    simp only [read]
    split <;> simp [hother]
  all_goals simp [read]

namespace ArgumentReader

theorem refuse_ne_ok {α : Type} {value : ArgumentValue} {result : α} :
    refuse value ≠ .ok result := by
  cases value <;> simp [refuse]

theorem text_eq_ok_iff {value : ArgumentValue} {sql : String} :
    text value = .ok sql ↔ value = .literal (.text sql) := by
  unfold text
  split
  case h_1 => simp
  case h_2 hother =>
    constructor
    · exact fun h => absurd h refuse_ne_ok
    · rintro rfl
      exact absurd rfl (hother sql)

theorem flag_eq_ok_iff {value : ArgumentValue} {yes : Bool} :
    flag value = .ok yes ↔ (value = .word ∧ yes = true) ∨
      value = .literal (.bool yes) ∨ value = .literal (.text (toString yes)) := by
  unfold flag
  split
  case h_6 hword hbool htrue hfalse htext =>
    constructor
    · exact fun h => absurd h refuse_ne_ok
    · rintro (⟨rfl, -⟩ | rfl | rfl)
      · exact absurd rfl hword
      · exact absurd rfl (hbool _)
      · exact absurd rfl (htext _)
  case h_5 text htrue hfalse =>
    cases yes <;> simp_all [toString]
  all_goals cases yes <;> simp [toString]

end ArgumentReader

/-! ### Query attributes -/

/-- An argument that says whether a query is committed. -/
inductive Argument.Commits : Bool → Argument → Prop where
  | word : Commits true ⟨"modifying", none⟩
  | bool (commit : Bool) : Commits commit ⟨"modifying", some (.bool commit)⟩
  | text (commit : Bool) : Commits commit ⟨"modifying", some (.text (toString commit))⟩

/-- The argument is one that a query attribute takes. -/
def Argument.InQuery (argument : Argument) : Prop :=
  (∃ sql, argument = ⟨"sql", some (.text sql)⟩) ∨ ∃ commit, argument.Commits commit

/-- What the arguments of a well-formed query attribute are, and what they say. -/
structure QueryAttribute.WrittenBy (given : List Argument) (query : QueryAttribute) : Prop where
  known : ∀ argument ∈ given, argument.InQuery
  distinct : (given.map (·.key)).Nodup
  sql : ⟨"sql", some (.text query.sql)⟩ ∈ given
  modifying : query.modifying = true ↔ ∃ argument ∈ given, argument.Commits true

theorem Argument.text_read_iff (argument : Argument) (rest : List Argument) (sql : String) :
    (argument.read rest).value? ArgumentReader.text "sql" = some sql ↔
      argument = ⟨"sql", some (.text sql)⟩ := by
  simp only [ReadArgument.value?_eq_some_iff, ArgumentReader.text_eq_ok_iff, exists_eq_right]
  exact read_eq_literal_iff (by simp)

theorem Argument.flag_read_iff (argument : Argument) (rest : List Argument) (commit : Bool) :
    (argument.read rest).value? ArgumentReader.flag "modifying" = some commit ↔
      argument.Commits commit := by
  simp only [ReadArgument.value?_eq_some_iff, ArgumentReader.flag_eq_ok_iff, and_or_left,
    exists_or, exists_eq_right, ← and_assoc, exists_and_right]
  rw [read_eq_word_iff, read_eq_literal_iff (by simp), read_eq_literal_iff (by simp)]
  constructor
  · rintro (⟨⟨rfl, -⟩, rfl⟩ | rfl | rfl)
    · exact .word
    · exact .bool commit
    · exact .text commit
  · intro h
    cases h with
    | word => simp
    | bool => simp
    | text => simp

theorem ReadArgument.known_keys_iff {argument : ReadArgument} :
    argument.Known QueryAttribute.keys ↔
      (∃ sql, argument.value? ArgumentReader.text "sql" = some sql) ∨
        ∃ commit, argument.value? ArgumentReader.flag "modifying" = some commit := by
  cases argument with
  | literal => simp [Known, value?]
  | keyed key value =>
      by_cases hflag : key = "modifying"
      · subst hflag
        cases hvalue : ArgumentReader.flag value <;>
          simp [Known, QueryAttribute.keys, KnownKey.of, value?, hvalue, Except.toOption]
      · by_cases htext : key = "sql"
        · subst htext
          cases hvalue : ArgumentReader.text value <;>
            simp [Known, QueryAttribute.keys, KnownKey.of, value?, hvalue, Except.toOption]
        · simp [Known, QueryAttribute.keys, KnownKey.of, value?, hflag, htext, Ne.symm]

theorem Argument.InQuery.key {argument : Argument} (h : argument.InQuery) :
    argument.key = "sql" ∨ argument.key = "modifying" := by
  rcases h with ⟨sql, rfl⟩ | ⟨commit, hcommit⟩
  · exact .inl rfl
  · cases hcommit <;> exact .inr rfl

namespace QueryAttribute

variable {given : List Argument}

theorem keys_readArguments (h : ∀ argument ∈ given, argument.InQuery) :
    (readArguments given).filterMap (·.key?) = given.map (·.key) := by
  induction given with
  | nil => rfl
  | cons argument rest ih =>
      obtain ⟨hfirst, hrest⟩ := List.forall_mem_cons.mp h
      have hkey : argument.key ≠ "true" ∧ argument.key ≠ "false" := by
        rcases hfirst.key with heq | heq <;> simp [heq]
      rw [readArguments, List.filterMap_cons_some (Argument.key?_read rest hkey), ih hrest,
        List.map_cons]

theorem faults_eq_nil_iff :
    argumentFaults keys [] (readArguments given) = [] ↔
      (∀ argument ∈ given, argument.InQuery) ∧ (given.map (·.key)).Nodup ∧
        ∃ sql, ⟨"sql", some (.text sql)⟩ ∈ given := by
  have hknown : (∀ read ∈ readArguments given, read.Known keys) ↔
      ∀ argument ∈ given, argument.InQuery :=
    forall_readArguments_iff (fun argument rest => by
      simp only [ReadArgument.known_keys_iff, Argument.text_read_iff, Argument.flag_read_iff,
        Argument.InQuery]) given
  have hrequired : (∀ key ∈ keys, key.required = true → ∃ read ∈ readArguments given,
      read.key? = some key.name) ↔ "sql" ∈ (readArguments given).filterMap (·.key?) := by
    simp [keys, KnownKey.of]
  rw [argumentFaults, List.append_eq_nil_iff, eachFault_eq_nil_iff, missingKeys_eq_nil_iff,
    hrequired]
  simp only [List.not_mem_nil, not_false_eq_true, implies_true, and_true, hknown, and_assoc]
  refine and_congr_right fun hgiven => ?_
  rw [keys_readArguments hgiven]
  refine and_congr_right fun _ => ?_
  constructor
  · intro h
    obtain ⟨argument, hmem, hkey⟩ := List.mem_map.mp h
    rcases hgiven argument hmem with ⟨sql, rfl⟩ | ⟨commit, hcommit⟩
    · exact ⟨sql, hmem⟩
    · exact absurd hkey (by cases hcommit <;> simp)
  · rintro ⟨sql, hmem⟩
    exact List.mem_map.mpr ⟨_, hmem, rfl⟩

theorem sql_read_iff (hknown : ∀ argument ∈ given, argument.InQuery)
    (hdistinct : (given.map (·.key)).Nodup) {sql : String} :
    readArgument? ArgumentReader.text "sql" (readArguments given) = some sql ↔
      ⟨"sql", some (.text sql)⟩ ∈ given := by
  rw [readArgument?_eq_some_iff (by rwa [keys_readArguments hknown]),
    exists_readArguments_iff fun argument rest => Argument.text_read_iff argument rest sql]
  exact exists_eq_right

theorem flag_read_iff (hknown : ∀ argument ∈ given, argument.InQuery)
    (hdistinct : (given.map (·.key)).Nodup) {commit : Bool} :
    readArgument? ArgumentReader.flag "modifying" (readArguments given) = some commit ↔
      ∃ argument ∈ given, argument.Commits commit := by
  rw [readArgument?_eq_some_iff (by rwa [keys_readArguments hknown]),
    exists_readArguments_iff fun argument rest => Argument.flag_read_iff argument rest commit]

/-- **A query attribute is read exactly when it is well-formed,** and then as it is written. -/
theorem read_eq_ok_iff {form : AttributeForm} {query : QueryAttribute} :
    read form = .ok query ↔ ∃ given, form = .list given ∧ query.WrittenBy given := by
  cases form with
  | word => simp [read]
  | value literal => simp [read]
  | list given =>
      have hflag : ∀ read : Option Bool, read.getD false = true ↔ read = some true := by
        rintro (_ | _) <;> simp
      simp only [AttributeForm.list.injEq, exists_eq_left']
      constructor
      · intro h
        simp only [read] at h
        split at h
        case h_2 => cases h
        case h_1 hnone =>
          obtain ⟨hknown, hdistinct, sql, hsql⟩ := faults_eq_nil_iff.mp hnone
          obtain rfl := Except.ok.inj h
          rw [(sql_read_iff hknown hdistinct).mpr hsql]
          exact ⟨hknown, hdistinct, hsql, (hflag _).trans (flag_read_iff hknown hdistinct)⟩
      · rintro ⟨hknown, hdistinct, hsql, hmodifying⟩
        have hnone := faults_eq_nil_iff.mpr ⟨hknown, hdistinct, query.sql, hsql⟩
        have hread := (hflag _).trans (flag_read_iff hknown hdistinct)
        simp only [read, hnone, (sql_read_iff hknown hdistinct).mpr hsql]
        rw [Bool.eq_iff_iff.mpr (hread.trans hmodifying.symm)]
        rfl

theorem read_ne_error_nil (form : AttributeForm) : read form ≠ .error [] := by
  cases form with
  | word => simp [read]
  | value literal => simp [read]
  | list given =>
      intro h
      simp only [read] at h
      split at h
      case h_1 => cases h
      case h_2 hsome => exact hsome (Except.error.inj h)

end QueryAttribute

end QueryMethods

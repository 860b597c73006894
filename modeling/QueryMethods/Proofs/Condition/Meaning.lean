import QueryMethods.Condition.Matches
import QueryMethods.Proofs.Condition.Reader
import QueryMethods.Proofs.Condition.Slots

/-!
# What a rendered condition means

The text of a condition is read back by the reference reader and evaluated in the three-valued
logic of SQL. It is the tree that it was written from, less the comparisons with `NULL`, and it
holds on a row exactly when the condition matches the row: what is unknown counts as no match.
-/

namespace QueryMethods

namespace Sql

inductive Truth where
  | fails
  | unknown
  | holds
deriving DecidableEq

namespace Truth

def ofBool (value : Bool) : Truth :=
  if value then .holds else .fails

/-- `AND` fails with either side, `OR` holds with either side. -/
def combine : Connector → Truth → Truth → Truth
  | .and, .fails, _ | .and, _, .fails => .fails
  | .and, .holds, .holds => .holds
  | .or, .holds, _ | .or, _, .holds => .holds
  | .or, .fails, .fails => .fails
  | _, _, _ => .unknown

@[simp]
theorem ofBool_eq_holds_iff {value : Bool} : ofBool value = .holds ↔ value = true := by
  cases value <;> simp [ofBool]

theorem combine_and_eq_holds_iff {left right : Truth} :
    combine .and left right = .holds ↔ left = .holds ∧ right = .holds := by
  cases left <;> cases right <;> simp [combine]

theorem combine_or_eq_holds_iff {left right : Truth} :
    combine .or left right = .holds ↔ left = .holds ∨ right = .holds := by
  cases left <;> cases right <;> simp [combine]

end Truth

/-- The columns of a row by name; one that is missing is `NULL`. -/
def columnValue (column : String → Option Value) (field : String) : Value :=
  (column field).getD .null

/-- The comparison `=`, which is unknown when either side is `NULL`. -/
def equality (left right : Value) : Truth :=
  if left.isNull || right.isNull then .unknown else .ofBool (left.equals right)

namespace Expr

def markers : Expr → List String
  | .equal _ marker => [marker]
  | .isNull _ => []
  | .join _ left right => left.markers ++ right.markers

/-- The value of an expression behind `used` markers; a slot without a value leaves it without
one. -/
def eval (dialect : Dialect) (slots : Nat → Option Value) (column : String → Option Value) :
    Expr → Nat → Option Truth
  | .equal field marker, used =>
      ((dialect.slot? marker used).bind slots).map (equality (columnValue column field))
  | .isNull field, _ => some (.ofBool (columnValue column field).isNull)
  | .join connector left right, used =>
      (left.eval dialect slots column used).bind fun first =>
        (right.eval dialect slots column (used + left.markers.length)).map fun second =>
          .combine connector first second

/-- An operand that is itself a compound goes in parentheses. -/
def asOperand : Expr → List Token → List Token
  | .join _ _ _, tokens => .opened :: (tokens ++ [.closed])
  | _, tokens => tokens

def tokens : Expr → List Token
  | .equal field marker => [.word field, .equals, .marker marker]
  | .isNull field => [.word field, .is, .null]
  | .join connector left right =>
      left.asOperand left.tokens ++ .connector connector :: right.asOperand right.tokens

theorem reads_tokens (expr : Expr) :
    Reads .operand (expr.asOperand expr.tokens) expr ∧ Reads .disjunction expr.tokens expr := by
  induction expr with
  | equal field marker => exact ⟨.equal field marker, .term (.factor (.equal field marker))⟩
  | isNull field => exact ⟨.isNull field, .term (.factor (.isNull field))⟩
  | join connector left right hleft hright =>
      have hjoin : Reads .disjunction (join connector left right).tokens
          (.join connector left right) := by
        cases connector with
        | and => exact .term (.and (.factor hleft.1) hright.1)
        | or => exact .or (.term (.factor hleft.1)) (.factor hright.1)
      exact ⟨.enclosed hjoin, hjoin⟩

end Expr

theorem lexFrom_marker (dialect : Dialect) (slot : Nat) {rest : List Char} (hrest : EndsRun rest) :
    lexFrom [] ((dialect.marker slot).toList ++ rest) =
      (lexFrom [] rest).map (.marker (dialect.marker slot) :: ·) := by
  cases dialect with
  | postgres =>
      have hrun : (Dialect.postgres.marker slot).toList.all isRunChar = true := by
        rw [Dialect.toList_marker_postgres, List.all_cons, List.all_eq_true.mpr]
        · rfl
        · intro c hmem
          have hdigit : c.isDigit = true :=
            Nat.isDigit_of_mem_toDigits (by decide) (by decide) hmem
          simp [isRunChar, isNameChar, isWordChar, Char.isAlphanum, hdigit]
      have htoken : ofRun? (Dialect.postgres.marker slot).toList =
          some (.marker (Dialect.postgres.marker slot)) := by
        have hname : isFieldName (Dialect.postgres.marker slot).toList = false := by
          rw [Dialect.toList_marker_postgres]
          rfl
        rw [ofRun?, hname, Dialect.isNumbered_marker, String.ofList_toList]
        rfl
      exact lexFrom_run hrun htoken hrest
  | positional =>
      have htext : (Dialect.positional.marker slot).toList = ['?'] := by simp [Dialect.marker]
      rw [htext]
      exact lexFrom_sign (by decide) (by decide) rfl rest

end Sql

namespace Condition

open Sql

/-- The expression is the tree, with `IS NULL` for every comparison with a `NULL` argument. -/
inductive Mirrored (args : List Value) : Condition → Expr → Prop where
  | equal {field : String} {param : Nat} (marker : String) (harg : args[param]? ≠ some .null) :
      Mirrored args (.equal field param) (.equal field marker)
  | isNull {field : String} {param : Nat} (harg : args[param]? = some .null) :
      Mirrored args (.equal field param) (.isNull field)
  | join {connector : Connector} {left right : Condition} {first second : Expr}
      (hleft : Mirrored args left first) (hright : Mirrored args right second) :
      Mirrored args (.join connector left right) (.join connector first second)

/-- The expression that the text of a condition says, where `used` markers come before it. -/
def toExpr (dialect : Dialect) (args : List Value) : Condition → Nat → Expr
  | .equal field param, used =>
      if args[param]? = some .null then .isNull field
      else .equal field (dialect.marker (used + 1))
  | .join connector left right, used =>
      .join connector (left.toExpr dialect args used)
        (right.toExpr dialect args (used + (left.boundParams args).length))

theorem mirrored_toExpr (dialect : Dialect) (args : List Value) (tree : Condition) (used : Nat) :
    tree.Mirrored args (tree.toExpr dialect args used) := by
  induction tree generalizing used with
  | equal field param =>
      unfold toExpr
      by_cases harg : args[param]? = some .null
      · rw [if_pos harg]
        exact .isNull harg
      · rw [if_neg harg]
        exact .equal _ harg
  | join connector left right hleft hright => exact .join (hleft _) (hright _)

theorem markers_toExpr (dialect : Dialect) (args : List Value) (tree : Condition) (used : Nat) :
    (tree.toExpr dialect args used).markers =
      (List.range' (used + 1) (tree.boundParams args).length).map dialect.marker := by
  induction tree generalizing used with
  | equal field param =>
      by_cases harg : args[param]? = some .null <;>
        simp [toExpr, boundParams, leaves, harg, Expr.markers]
  | join connector left right hleft hright =>
      rw [boundParams_join, List.length_append, ← List.range'_append_1, List.map_append,
        toExpr, Expr.markers, hleft, hright]
      congr 3
      omega

theorem lexFrom_asOperand {tree : Condition} {predicate : Predicate} {expr : Expr}
    {args : List Value} (hmirror : tree.Mirrored args expr)
    (h : ∀ rest, EndsRun rest → lexFrom [] (predicate.sql.toList ++ rest) =
      (lexFrom [] rest).map (expr.tokens ++ ·))
    {rest : List Char} (hrest : EndsRun rest) :
    lexFrom [] ((tree.asOperand predicate).sql.toList ++ rest) =
      (lexFrom [] rest).map (expr.asOperand expr.tokens ++ ·) := by
  cases hmirror with
  | equal marker harg => exact h rest hrest
  | isNull harg => exact h rest hrest
  | @join connector left right first second hleft hright =>
      have htext : ((join connector left right).asOperand predicate).sql.toList ++ rest =
          '(' :: (predicate.sql.toList ++ ')' :: rest) := by
        simp [asOperand, Predicate.parenthesized]
      have hinside := h (')' :: rest) (endsRun_cons (by decide))
      rw [htext, lexFrom_sign (by decide) (by decide) rfl, hinside,
        lexFrom_sign (by decide) (by decide) rfl, Option.map_map, Option.map_map]
      simp [Function.comp_def, Expr.asOperand]

theorem lexFrom_connector (connector : Connector) (rest : List Char) :
    lexFrom [] (' ' :: (connector.keyword.toList ++ ' ' :: rest)) =
      (lexFrom [] rest).map (.connector connector :: ·) := by
  have htoken : ofRun? connector.keyword.toList = some (.connector connector) := by
    cases connector <;> decide +kernel
  have hrun : connector.keyword.toList.all isRunChar = true := by
    cases connector <;> decide +kernel
  rw [lexFrom_blank, lexFrom_run_blank hrun htoken]

theorem lexFrom_isNull {field : String} (hfield : isFieldName field.toList = true)
    {rest : List Char} (hrest : EndsRun rest) :
    lexFrom [] ((field ++ " IS NULL").toList ++ rest) =
      (lexFrom [] rest).map ((Expr.isNull field).tokens ++ ·) := by
  have htext : (field ++ " IS NULL").toList ++ rest =
      field.toList ++ ' ' :: (['I', 'S'] ++ ' ' :: (['N', 'U', 'L', 'L'] ++ rest)) := by
    simp
  have his : ofRun? ['I', 'S'] = some .is := by decide +kernel
  have hnull : ofRun? ['N', 'U', 'L', 'L'] = some .null := by decide +kernel
  rw [htext, lexFrom_field hfield, lexFrom_run_blank (by decide) his,
    lexFrom_run (by decide) hnull hrest, Option.map_map, Option.map_map]
  rfl

theorem lexFrom_equal {field : String} (hfield : isFieldName field.toList = true)
    (dialect : Dialect) (slot : Nat) {rest : List Char} (hrest : EndsRun rest) :
    lexFrom [] ((field ++ " = " ++ dialect.marker slot).toList ++ rest) =
      (lexFrom [] rest).map ((Expr.equal field (dialect.marker slot)).tokens ++ ·) := by
  have htext : (field ++ " = " ++ dialect.marker slot).toList ++ rest =
      field.toList ++ ' ' :: '=' :: ' ' :: ((dialect.marker slot).toList ++ rest) := by
    simp
  rw [htext, lexFrom_field hfield, lexFrom_sign (by decide) (by decide) rfl, lexFrom_blank,
    lexFrom_marker dialect slot hrest, Option.map_map, Option.map_map]
  rfl

theorem lexFrom_renderFrom (dialect : Dialect) {args : List Value} {tree : Condition}
    (hfields : ∀ leaf ∈ tree.leaves, isFieldName leaf.1.toList = true) (used : Nat)
    {rest : List Char} (hrest : EndsRun rest) :
    lexFrom [] ((tree.renderFrom dialect args used).sql.toList ++ rest) =
      (lexFrom [] rest).map ((tree.toExpr dialect args used).tokens ++ ·) := by
  induction tree generalizing used rest with
  | equal field param =>
      have hfield := hfields (field, param) (List.mem_singleton_self _)
      unfold renderFrom toExpr
      by_cases harg : args[param]? = some .null
      · rw [if_pos harg, if_pos harg]
        exact lexFrom_isNull hfield hrest
      · rw [if_neg harg, if_neg harg]
        exact lexFrom_equal hfield dialect (used + 1) hrest
  | join connector left right hleft hright =>
      have hleaves := List.forall_mem_append.mp hfields
      have hfirst := fun rest (hends : EndsRun rest) => hleft hleaves.1 used hends
      have hsecond := fun rest (hends : EndsRun rest) =>
        hright hleaves.2 (used + (left.boundParams args).length) hends
      have htext : ((join connector left right).renderFrom dialect args used).sql.toList ++ rest =
          (left.asOperand (left.renderFrom dialect args used)).sql.toList ++
            ' ' :: (connector.keyword.toList ++ ' ' ::
              ((right.asOperand (right.renderFrom dialect args
                (used + (left.boundParams args).length))).sql.toList ++ rest)) := by
        simp [renderFrom, Predicate.join, binds_renderFrom]
      rw [htext, lexFrom_asOperand (mirrored_toExpr dialect args left used) hfirst
          (endsRun_cons rfl), lexFrom_connector,
        lexFrom_asOperand (mirrored_toExpr dialect args right _) hsecond hrest,
        Option.map_map, Option.map_map]
      simp [Function.comp_def, toExpr, Expr.tokens]

theorem read_render (dialect : Dialect) {args : List Value} {tree : Condition}
    (hfields : ∀ leaf ∈ tree.leaves, isFieldName leaf.1.toList = true) :
    Sql.read (tree.render dialect args).sql = some (tree.toExpr dialect args 0) := by
  have hlex : lexFrom [] ((tree.renderFrom dialect args 0).sql.toList ++ []) = _ :=
    lexFrom_renderFrom dialect hfields 0 endsRun_nil
  have hread := readOperand_eq_some_iff.mpr (tree.toExpr dialect args 0).reads_tokens.2
  rw [List.append_nil] at hlex
  rw [Sql.read, render, hlex]
  simpa [lexFrom, endRun] using hread

/-! ### The meaning -/

theorem matchesColumns_isNull {column : String → Option Value} {args : List Value}
    {field : String} {param : Nat}
    (harg : args[param]? = some .null) :
    (equal field param).matchesColumns column args = (columnValue column field).isNull := by
  simp only [matchesColumns, harg, columnValue]
  cases column field <;> rfl

theorem equality_eq_holds_iff {column : String → Option Value} {args : List Value}
    {field : String} {param : Nat}
    {value : Value} (harg : args[param]? = some value) (hvalue : value ≠ .null) :
    equality (columnValue column field) value = .holds ↔
      (equal field param).matchesColumns column args = true := by
  have hnull : value.isNull = false := by
    rwa [Bool.eq_false_iff, ne_eq, Value.isNull_eq_true_iff]
  have hmatch : (equal field param).matchesColumns column args =
      (column field).any (·.equals value) := by
    simp only [matchesColumns, harg]
  rw [hmatch, equality, hnull, Bool.or_false, columnValue]
  cases column field with
  | none => simp [Value.isNull, Value.type?]
  | some actual =>
      by_cases hactual : actual = .null
      · have hdiffer : (Value.null == value) = false := beq_false_of_ne hvalue.symm
        simp [hactual, Value.isNull, Value.type?, Value.equals, hdiffer]
      · have hset : actual.isNull = false := by
          rwa [Bool.eq_false_iff, ne_eq, Value.isNull_eq_true_iff]
        simp [hset]

/-- Behind `used` others, the slots have the arguments of these parameters. -/
def Slotted (slots : Nat → Option Value) (args : List Value) (used : Nat) (params : List Nat) :
    Prop :=
  ∀ place param, params[place]? = some param → slots (used + place + 1) = args[param]?

theorem slotted_append {slots : Nat → Option Value} {args : List Value} {used : Nat}
    {first second : List Nat} (h : Slotted slots args used (first ++ second)) :
    Slotted slots args used first ∧ Slotted slots args (used + first.length) second := by
  constructor
  · intro place param hparam
    obtain ⟨hlt, _⟩ := List.getElem?_eq_some_iff.mp hparam
    exact h place param (by rw [List.getElem?_append_left hlt, hparam])
  · intro place param hparam
    have hplace := h (first.length + place) param (by
      rw [List.getElem?_append_right (Nat.le_add_right ..), Nat.add_sub_cancel_left, hparam])
    rwa [← Nat.add_assoc] at hplace

/-- Where every parameter has an argument, the expression of a condition has a value, and it holds
where the condition matches. -/
theorem eval_toExpr (dialect : Dialect) {args : List Value} {slots : Nat → Option Value}
    {tree : Condition} (hcover : ∀ leaf ∈ tree.leaves, leaf.2 < args.length) {used : Nat}
    (hslots : Slotted slots args used (tree.boundParams args)) (column : String → Option Value) :
    ∃ truth, (tree.toExpr dialect args used).eval dialect slots column used = some truth ∧
      (truth = .holds ↔ tree.matchesColumns column args = true) := by
  induction tree generalizing used with
  | equal field param =>
      by_cases harg : args[param]? = some .null
      · refine ⟨.ofBool (columnValue column field).isNull, ?_, ?_⟩
        · rw [toExpr, if_pos harg, Expr.eval]
        · rw [Truth.ofBool_eq_holds_iff, matchesColumns_isNull harg]
      · have hparam : param < args.length := hcover (field, param) (List.mem_singleton_self _)
        have hvalue := List.getElem?_eq_getElem hparam
        have hslot : slots (used + 1) = some args[param] := by
          rw [← hvalue]
          exact hslots 0 param (by simp [boundParams, leaves, harg])
        refine ⟨equality (columnValue column field) args[param], ?_, ?_⟩
        · rw [toExpr, if_neg harg, Expr.eval, Dialect.slot?_marker, Option.bind_some, hslot]
          rfl
        · exact equality_eq_holds_iff hvalue fun hnull => harg (hvalue.trans (congrArg some hnull))
  | join connector left right hleft hright =>
      have hleaves := List.forall_mem_append.mp hcover
      rw [boundParams_join] at hslots
      obtain ⟨first, hfirst, hfirstMatch⟩ := hleft hleaves.1 (slotted_append hslots).1
      obtain ⟨second, hsecond, hsecondMatch⟩ := hright hleaves.2 (slotted_append hslots).2
      have hmarkers : (left.toExpr dialect args used).markers.length =
          (left.boundParams args).length := by
        rw [markers_toExpr, List.length_map, List.length_range']
      refine ⟨.combine connector first second, ?_, ?_⟩
      · rw [toExpr, Expr.eval, hfirst, Option.bind_some, hmarkers, hsecond]
        rfl
      · cases connector with
        | and => simp [Truth.combine_and_eq_holds_iff, matchesColumns, hfirstMatch, hsecondMatch]
        | or => simp [Truth.combine_or_eq_holds_iff, matchesColumns, hfirstMatch, hsecondMatch]

/-- The value of a slot, where slots count from one: the argument of the parameter behind it. -/
def slotArgument (binds : List Nat) (args : List Value) : Nat → Option Value
  | 0 => none
  | place + 1 => binds[place]?.bind (args[·]?)

/-- The text of a condition says an expression that means the same. -/
structure Meaning (dialect : Dialect) (tree : Condition) (args : List Value) (expr : Expr) :
    Prop where
  read_eq : Sql.read (tree.render dialect args).sql = some expr
  mirrored : tree.Mirrored args expr
  markers_eq : expr.markers = (List.range (tree.render dialect args).binds.length).map
    fun place => dialect.marker (place + 1)
  binds_eq : (tree.render dialect args).binds =
    (tree.leaves.filter fun leaf => args[leaf.2]? ≠ some .null).map (·.2)
  holds_iff : ∀ column, ∃ truth,
    expr.eval dialect (slotArgument (tree.render dialect args).binds args) column 0 = some truth ∧
      (truth = .holds ↔ tree.matchesColumns column args = true)

/-- **Meaning of the rendered text.** The text of a condition is read as the condition itself, less
the comparisons with `NULL`; its markers are those of the slots in order; and with the arguments in
their slots it holds on the rows that the condition matches. -/
theorem exists_meaning (dialect : Dialect) {args : List Value} {tree : Condition}
    (hfields : ∀ leaf ∈ tree.leaves, isFieldName leaf.1.toList = true)
    (hcover : ∀ leaf ∈ tree.leaves, leaf.2 < args.length) :
    ∃ expr, tree.Meaning dialect args expr := by
  refine ⟨tree.toExpr dialect args 0, ?_⟩
  constructor
  case read_eq => exact read_render dialect hfields
  case mirrored => exact mirrored_toExpr dialect args tree 0
  case markers_eq =>
    rw [markers_toExpr, binds_render, List.range'_eq_map_range, List.map_map]
    simp [Function.comp_def, Nat.add_comm]
  case binds_eq => exact binds_render dialect args tree
  case holds_iff =>
    intro column
    refine eval_toExpr dialect hcover ?_ column
    intro place param hparam
    rw [binds_render, Nat.zero_add, slotArgument, hparam, Option.bind_some]

theorem exists_meaning_nested :
    ∃ expr, Meaning .postgres
      (join .and (join .or (equal "owner" 1) (equal "balance" 0))
        (join .or (equal "owner" 2) (join .and (equal "id" 0) (equal "balance" 1))))
      [.int 7, .null, .text "ada"] expr :=
  exists_meaning .postgres (by decide +kernel) (by decide +kernel)

end Condition

end QueryMethods

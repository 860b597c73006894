import Mathlib
import QueryMethods.Condition.Matches
import QueryMethods.Proofs.Registry.CheckedArguments
import QueryMethods.Proofs.Registry.Signatures

/-!
# Derived conditions on rows

An integer parameter may be compared with a float field, and its arguments stay integers. On a row
such a comparison holds for no argument but `NULL`, since values of two types are never equal: a
column that is the same number is passed over. All other comparisons are those of the values.
-/

namespace QueryMethods

/-- The float is this whole number. -/
def Binary.isWhole {format : Format} (x : Binary format) (n : Int) : Bool :=
  match x.unpack with
  | .finite negative m e =>
      let signed : Int := if negative then -m else m
      if 0 ≤ e then signed * 2 ^ e.toNat == n else signed == n * 2 ^ (-e).toNat
  | _ => false

namespace Condition

/-- What a condition comes to where `equal` compares a column with the argument of a parameter,
neither of them `NULL`. -/
def evaluate (equal : Nat → Value → Value → Bool) (column : String → Option Value)
    (args : List Value) : Condition → Bool
  | .equal field param =>
      match args[param]? with
      | none => false
      | some .null => (column field).all Value.isNull
      | some arg => (column field).any fun actual => !actual.isNull && equal param actual arg
  | .join .and left right =>
      left.evaluate equal column args && right.evaluate equal column args
  | .join .or left right =>
      left.evaluate equal column args || right.evaluate equal column args

variable {equal : Nat → Value → Value → Bool} {column : String → Option Value} {args : List Value}

theorem equals_null {actual arg : Value} (harg : arg ≠ .null) (hactual : actual = .null) :
    actual.equals arg = false := by
  subst hactual
  exact beq_false_of_ne harg.symm

/-- Comparisons only matter where neither side is `NULL`. -/
theorem matchesColumns_eq_evaluate {tree : Condition}
    (h : ∀ leaf ∈ tree.leaves, ∀ actual arg, column leaf.1 = some actual → actual ≠ .null →
      args[leaf.2]? = some arg → arg ≠ .null → actual.equals arg = equal leaf.2 actual arg) :
    tree.matchesColumns column args = tree.evaluate equal column args := by
  induction tree with
  | equal field param =>
      have hleaf := h (field, param) (List.mem_singleton_self _)
      cases harg : args[param]? with
      | none => simp only [matchesColumns, evaluate, harg]
      | some arg =>
          by_cases hnull : arg = .null
          · subst hnull
            simp only [matchesColumns, evaluate, harg]
          · simp only [matchesColumns, evaluate, harg]
            cases hactual : column field with
            | none => rfl
            | some actual =>
                rw [Option.any_some, Option.any_some]
                by_cases hvoid : actual = .null
                · rw [equals_null hnull hvoid, Value.isNull_eq_true_iff.mpr hvoid]
                  rfl
                · have hset : actual.isNull = false := by
                    rwa [Bool.eq_false_iff, ne_eq, Value.isNull_eq_true_iff]
                  rw [hleaf actual arg hactual hvoid harg hnull, hset]
                  rfl
  | join connector left right hleft hright =>
      obtain ⟨hfirst, hsecond⟩ := List.forall_mem_append.mp h
      cases connector with
      | and => rw [matchesColumns, evaluate, hleft hfirst, hright hsecond]
      | or => rw [matchesColumns, evaluate, hleft hfirst, hright hsecond]

end Condition

/-- Every column that is there holds `NULL` or a value of its field's type. -/
def Entity.Describes (entity : Entity) (column : String → Option Value) : Prop :=
  ∀ name field, entity.FirstField name field → ∀ value, column field.name = some value →
    value = .null ∨ value.type? = some field.type

/-- A column is compared with an argument as values are, where `number` decides for an integer
parameter and a float field. -/
def Param.compare (param : Param) (number : Binary64 → Int64 → Bool) (field : Field)
    (actual arg : Value) : Bool :=
  if param.type = .int ∧ field.type = .float then
    match actual, arg with
    | .float x, .int n => number x n
    | _, _ => false
  else
    actual.equals arg

/-- The comparisons of a method, whose parameters stand for these fields. -/
def Method.compare (method : Method) (number : Binary64 → Int64 → Bool) (fields : List Field)
    (index : Nat) (actual arg : Value) : Bool :=
  match method.params[index]?, fields[index]? with
  | some param, some field => param.compare number field actual arg
  | _, _ => actual.equals arg

/-- A checked argument is `NULL` or of the type of its parameter. -/
theorem Param.Receives.type_eq {param : Param} {arg value : Value} (h : param.Receives arg value)
    (hvalue : value ≠ .null) : value.type? = some param.type := by
  cases h with
  | null => exact absurd rfl hvalue
  | same htype => exact htype
  | widened n htype => rw [htype]; rfl

/-- An integer and a float are not equal as values. -/
theorem Param.equals_eq_compare {param : Param} {field : Field} {actual arg : Value}
    (hactual : actual.type? = some field.type) (harg : arg.type? = some param.type) :
    actual.equals arg = param.compare (fun _ _ => false) field actual arg := by
  unfold compare
  by_cases hmixed : param.type = .int ∧ field.type = .float
  · rw [if_pos hmixed]
    rw [hmixed.1] at harg
    rw [hmixed.2] at hactual
    cases actual <;> cases hactual
    cases arg <;> cases harg
    rfl
  · rw [if_neg hmixed]

theorem Param.compare_eq_equals {param : Param} {field : Field}
    (h : ¬ (param.type = .int ∧ field.type = .float)) (number : Binary64 → Int64 → Bool)
    (actual arg : Value) : param.compare number field actual arg = actual.equals arg := by
  unfold compare
  exact if_neg h

/-- A derived statement that is registered compares the fields that the name gives. -/
theorem Entry.Resolved.exists_follows {config : Config} {repository : String} {entity : Entity}
    {key : String} {entry : Entry} (h : entry.Resolved config repository entity key)
    {statement : Statement} (hstatement : entry.statement = some statement)
    {condition : Condition} (hsource : statement.source = .derived condition) :
    ∃ name fields, entry.method.Follows entity name fields ∧
      condition.leaves = (fields.map (·.name)).zipIdx := by
  rcases Method.resolve_eq_ok h.resolve_eq with ⟨-, hnone⟩ | ⟨sql, found, -, hsome, hfound⟩ |
    ⟨found, -, hsome, hfound⟩
  · rw [hnone] at hstatement
    cases hstatement
  · obtain rfl := Option.some.inj (hstatement.symm.trans hsome)
    obtain ⟨bound, -, -, rfl⟩ := Statement.ofTemplate_eq_ok hfound
    cases hsource
  · obtain rfl := Option.some.inj (hstatement.symm.trans hsome)
    obtain ⟨name, fields, tree, hfollows, hfold, rfl⟩ := Statement.derive_eq_ok_iff.mp hfound
    obtain rfl : tree = condition := StatementSource.derived.inj hsource
    have hleaves := Condition.leaves_of_build? (Condition.build?_eq_some_iff.mpr hfold)
    exact ⟨name, fields, hfollows, hleaves⟩

section

variable {method : Method} {entity : Entity} {name : MethodName} {fields : List Field}
  {args values : List Value} {column : String → Option Value} {condition : Condition}

/-- One comparison of a checked argument with a column, neither of them `NULL`. -/
theorem Method.Follows.equals_eq_compare (hfollows : method.Follows entity name fields)
    (haccepts : method.Accepts args values) (hcolumn : entity.Describes column) {field : String}
    {index : Nat} (hleaf : (field, index) ∈ (fields.map (·.name)).zipIdx) {actual arg : Value}
    (hactual : column field = some actual) (hset : actual ≠ .null)
    (harg : values[index]? = some arg) (hgiven : arg ≠ .null) :
    actual.equals arg = method.compare (fun _ _ => false) fields index actual arg := by
  obtain ⟨found, hfound, rfl⟩ : ∃ found, fields[index]? = some found ∧ found.name = field := by
    simpa [List.mk_mem_zipIdx_iff_getElem?] using hleaf
  obtain ⟨param, hparam, -⟩ := exists_getElem?_of_forall₂ hfollows.comparable.flip hfound
  obtain ⟨token, -, hfirst⟩ := exists_getElem?_of_forall₂ hfollows.found.flip hfound
  have hfield := (hcolumn token found hfirst actual hactual).resolve_left hset
  have hindex : index < args.length := by
    rw [← haccepts.length_eq]
    exact (List.getElem?_eq_some_iff.mp harg).1
  have hreceived := haccepts.received index param args[index] arg hparam
    (List.getElem?_eq_getElem hindex) harg
  simp only [compare, hparam, hfound]
  exact Param.equals_eq_compare hfield (hreceived.type_eq hgiven)

theorem Method.Follows.matchesColumns_eq (hfollows : method.Follows entity name fields)
    (haccepts : method.Accepts args values) (hcolumn : entity.Describes column)
    (hleaves : condition.leaves = (fields.map (·.name)).zipIdx) :
    condition.matchesColumns column values =
      condition.evaluate (method.compare (fun _ _ => false) fields) column values := by
  apply Condition.matchesColumns_eq_evaluate
  rintro ⟨field, index⟩ hleaf actual arg hactual hset harg hgiven
  rw [hleaves] at hleaf
  exact hfollows.equals_eq_compare haccepts hcolumn hleaf hactual hset harg hgiven

end

/-- A method that compares no integer parameter with a float field compares as values do. -/
theorem Method.compare_eq_of_unmixed {method : Method} {fields : List Field}
    (h : List.Forall₂ (fun (param : Param) (field : Field) =>
      ¬ (param.type = .int ∧ field.type = .float)) method.params fields)
    (number other : Binary64 → Int64 → Bool) :
    method.compare number fields = method.compare other fields := by
  funext index actual arg
  unfold compare
  cases hparam : method.params[index]? with
  | none => rfl
  | some param =>
      obtain ⟨field, hfield, hunmixed⟩ := exists_getElem?_of_forall₂ h hparam
      simp only [hfield, Param.compare_eq_equals hunmixed]

/-- **Derived conditions compare values.** For checked arguments, the condition of a registered
method comes to what it says on every row of the entity, where a float field is never equal to an
argument that stays an integer, and all else is compared as values are. So the numbers do not matter
to a method that compares no integer parameter with a float field. -/
theorem Registry.evaluates_values {registry : Registry} (hreach : registry.Reachable)
    {ref : MethodRef} {repository : Repository}
    (hrepository : registry.repository? ref.repository = some repository) {method : Method}
    {statement : Statement} (hentry : registry.entry? ref = some ⟨method, some statement⟩)
    {condition : Condition} (hsource : statement.source = .derived condition)
    {args values : List Value} (hvalues : method.checkArguments args = .ok values)
    {column : String → Option Value} (hcolumn : repository.entity.Describes column) :
    ∃ name fields, method.Follows repository.entity name fields ∧
      condition.matchesColumns column values =
        condition.evaluate (method.compare (fun _ _ => false) fields) column values ∧
      (List.Forall₂ (fun (param : Param) (field : Field) =>
          ¬ (param.type = .int ∧ field.type = .float)) method.params fields →
        condition.matchesColumns column values =
          condition.evaluate (method.compare (fun x n => x.isWhole n.toInt) fields) column
            values) := by
  obtain ⟨other, hother, hresolved⟩ := hreach.resolved_entry hentry
  obtain rfl := Option.some.inj (hrepository.symm.trans hother)
  obtain ⟨name, fields, hfollows, hleaves⟩ := hresolved.exists_follows rfl hsource
  have haccepts := Method.checkArguments_eq_ok_iff.mp hvalues
  have hmatches := hfollows.matchesColumns_eq haccepts hcolumn hleaves
  refine ⟨name, fields, hfollows, hmatches, fun hunmixed => ?_⟩
  rw [hmatches, Method.compare_eq_of_unmixed hunmixed]

namespace Accounts

/-- Its integer parameter is compared with a float field. -/
def byBalance : Method where
  name := "find_by_balance"
  params := [⟨"balance", .int, false⟩]

def balanceStatement : Statement :=
  .ofCondition {} entity byBalance .findBy (.equal "balance" 0)

def balances : Repository where
  entity := entity
  entries := [("find_by_balance", ⟨byBalance, some balanceStatement⟩)]

def balanceRegistry : Registry where
  config := {}
  repositories := [("accounts", balances)]

theorem reachable_balanceRegistry : balanceRegistry.Reachable :=
  ⟨[⟨"accounts", entity, [byBalance]⟩], by decide +kernel⟩

theorem follows_byBalance :
    byBalance.Follows entity ⟨.findBy, ["balance"], []⟩ [⟨"balance", .float, false⟩] where
  parse_eq := by decide +kernel
  named := .cons (by decide +kernel) .nil
  shape_eq := rfl
  found := .cons (Entity.field?_eq_some_iff.mp (by decide +kernel)) .nil
  comparable := .cons (.inr ⟨rfl, rfl⟩) .nil

/-- A balance of five. -/
def balanceRow : Row where
  columns := [("owner", .null), ("balance", .float (.ofInt 5))]

theorem describes_balanceRow : entity.Describes balanceRow.value? := by
  rintro name field ⟨before, after, hfields, -, -⟩ value hvalue
  have hmem : field ∈ entity.fields := by simp [hfields]
  have hall : ∀ field ∈ entity.fields, ∀ value ∈ balanceRow.value? field.name,
      value = .null ∨ value.type? = some field.type := by decide +kernel
  exact hall field hmem value hvalue

end Accounts

open Accounts in
theorem Registry.evaluates_values_accounts :
    balanceRegistry.Reachable ∧
      balanceRegistry.repository? "accounts" = some balances ∧
      balanceRegistry.entry? ⟨"accounts", "find_by_balance"⟩ =
        some ⟨byBalance, some balanceStatement⟩ ∧
      balanceStatement.source = .derived (.equal "balance" 0) ∧
      byBalance.checkArguments [.int 5] = .ok [.int 5] ∧
      entity.Describes balanceRow.value? ∧
      ∃ name fields, byBalance.Follows entity name fields ∧
        (Condition.equal "balance" 0).matchesColumns balanceRow.value? [.int 5] =
          (Condition.equal "balance" 0).evaluate (byBalance.compare (fun _ _ => false) fields)
            balanceRow.value? [.int 5] := by
  have hrepository : balanceRegistry.repository? "accounts" = some balances := by decide +kernel
  have hentry : balanceRegistry.entry? ⟨"accounts", "find_by_balance"⟩ =
      some ⟨byBalance, some balanceStatement⟩ := by decide +kernel
  have hvalues : byBalance.checkArguments [.int 5] = .ok [.int 5] := by decide +kernel
  obtain ⟨name, fields, hfollows, hmatches, -⟩ := evaluates_values reachable_balanceRegistry
    hrepository hentry rfl hvalues describes_balanceRow
  exact ⟨reachable_balanceRegistry, hrepository, hentry, rfl, hvalues, describes_balanceRow, name,
    fields, hfollows, hmatches⟩

open Accounts in
/-- The numbers do matter: a float column is not found by an integer that it is equal to. -/
theorem Registry.not_forall_evaluates_numbers :
    ¬ ∀ (registry : Registry) (ref : MethodRef) (repository : Repository) (method : Method)
      (statement : Statement) (condition : Condition) (name : MethodName) (fields : List Field)
      (args values : List Value) (row : Row), registry.Reachable →
      registry.repository? ref.repository = some repository →
      registry.entry? ref = some ⟨method, some statement⟩ →
      statement.source = .derived condition → method.Follows repository.entity name fields →
      method.checkArguments args = .ok values → repository.entity.Describes row.value? →
      condition.matchesRow row values =
        condition.evaluate (method.compare (fun x n => x.isWhole n.toInt) fields) row.value?
          values := by
  intro h
  have hsame := h balanceRegistry ⟨"accounts", "find_by_balance"⟩ balances byBalance
    balanceStatement (.equal "balance" 0) _ _ [.int 5] [.int 5] balanceRow
    reachable_balanceRegistry (by decide +kernel) (by decide +kernel) rfl follows_byBalance
    (by decide +kernel) describes_balanceRow
  have hdiffer : (Condition.equal "balance" 0).matchesRow balanceRow [.int 5] = false ∧
      (Condition.equal "balance" 0).evaluate (byBalance.compare (fun x n => x.isWhole n.toInt)
        [⟨"balance", .float, false⟩]) balanceRow.value? [.int 5] = true := by decide +kernel
  rw [hdiffer.1, hdiffer.2] at hsame
  cases hsame

end QueryMethods

import QueryMethods.Condition.Predicate
import QueryMethods.Registry.Resolution
import QueryMethods.Proofs.Checked

/-!
# The slots of a rendered condition

The comparisons of a condition that is built from a name follow its fields, one parameter each. Its
text has one marker slot for every comparison whose argument is not `NULL`, from left to right, and
nothing else of the arguments shows.
-/

namespace QueryMethods

namespace Condition

/-- The parameters whose arguments are compared, not asked to be `NULL`, from left to right. -/
def boundParams (tree : Condition) (args : List Value) : List Nat :=
  (tree.leaves.filter fun leaf => args[leaf.2]? ≠ some .null).map (·.2)

theorem boundParams_join (connector : Connector) (left right : Condition) (args : List Value) :
    (join connector left right).boundParams args =
      left.boundParams args ++ right.boundParams args := by
  simp [boundParams, leaves]

@[simp]
theorem binds_asOperand (tree : Condition) (predicate : Predicate) :
    (tree.asOperand predicate).binds = predicate.binds := by
  cases tree <;> rfl

theorem binds_renderFrom (dialect : Dialect) (args : List Value) (tree : Condition) (used : Nat) :
    (tree.renderFrom dialect args used).binds = tree.boundParams args := by
  induction tree generalizing used with
  | equal field param =>
      by_cases hnull : args[param]? = some .null <;>
        simp [renderFrom, boundParams, leaves, hnull]
  | join connector left right hleft hright =>
      rw [boundParams_join, ← hleft used,
        ← hright (used + (left.renderFrom dialect args used).binds.length)]
      simp [renderFrom, Predicate.join]

theorem binds_render (dialect : Dialect) (args : List Value) (tree : Condition) :
    (tree.render dialect args).binds = tree.boundParams args :=
  binds_renderFrom dialect args tree 0

/-- Of the arguments, the text depends only on which ones are `NULL`. -/
theorem renderFrom_congr {dialect : Dialect} {left right : List Value} {tree : Condition}
    (h : ∀ leaf ∈ tree.leaves, left[leaf.2]? = some .null ↔ right[leaf.2]? = some .null)
    (used : Nat) :
    tree.renderFrom dialect left used = tree.renderFrom dialect right used := by
  induction tree generalizing used with
  | equal field param =>
      have hparam := h (field, param) (List.mem_singleton_self _)
      simp only [renderFrom, hparam]
  | join connector first second hfirst hsecond =>
      have hleaves := List.forall_mem_append.mp h
      simp only [renderFrom, hfirst hleaves.1, hsecond hleaves.2]

theorem render_eq_of_no_null {dialect : Dialect} {args : List Value} {tree : Condition}
    (h : args.any Value.isNull = false) : tree.render dialect args = tree.render dialect [] := by
  refine renderFrom_congr (fun leaf _ => ?_) 0
  have hnone : args[leaf.2]? ≠ some .null := by
    intro hsome
    have hnull := List.any_eq_false.mp h .null (List.mem_of_getElem? hsome)
    exact hnull rfl
  simp [hnone]

theorem mem_leaves_of_mem_boundParams {tree : Condition} {args : List Value} {param : Nat}
    (h : param ∈ tree.boundParams args) : ∃ field, (field, param) ∈ tree.leaves := by
  obtain ⟨⟨field, other⟩, hmem, rfl⟩ := List.mem_map.mp h
  exact ⟨field, List.mem_of_mem_filter hmem⟩

theorem leaves_extend (tree : Condition) (param : Nat) (rest : List (Connector × String)) :
    (extend tree param rest).leaves = tree.leaves ++ (rest.map (·.2)).zipIdx param := by
  induction rest generalizing tree param with
  | nil => simp [extend]
  | cons head rest ih =>
      obtain ⟨connector, field⟩ := head
      rw [extend, ih]
      simp [leaves, List.zipIdx_cons]

theorem leaves_of_build? {fields : List String} {connectors : List Connector} {tree : Condition}
    (h : build? fields connectors = some tree) : tree.leaves = fields.zipIdx := by
  cases fields with
  | nil => cases h
  | cons field rest =>
      simp only [build?] at h
      split at h
      case isFalse => cases h
      case isTrue hlength =>
        have htree := Option.some.inj h
        rw [← htree, leaves_extend, List.map_snd_zip (Nat.le_of_eq hlength)]
        rfl

/-- Every row of fields with connectors between them makes a tree. -/
theorem exists_build? {fields : List String} {connectors : List Connector}
    (h : fields.length = connectors.length + 1) : ∃ tree, build? fields connectors = some tree := by
  cases fields with
  | nil => cases h
  | cons field rest =>
      have hlength : rest.length = connectors.length := by simpa using h
      exact ⟨extend (.equal field 0) 1 (connectors.zip rest), by rw [build?, if_pos hlength]⟩

end Condition

theorem Statement.conditionOf_eq_ok {name : MethodName} {entity : Entity} {method : Method}
    {condition : Condition} (h : conditionOf name entity method = .ok condition) :
    ∃ fields, List.Forall₂ (fun part field => comparedField entity part.1 part.2 = .ok field)
        (name.fields.zip method.params) fields ∧
      Condition.build? (fields.map (·.name)) name.connectors = some condition := by
  unfold conditionOf at h
  simp only [bind, Except.bind] at h
  split at h
  case h_1 => cases h
  case h_2 fields hfields =>
    split at h
    case h_2 => cases h
    case h_1 tree htree => exact ⟨fields, mapM_eq_ok_iff.mp hfields, Except.ok.inj h ▸ htree⟩

theorem comparedField_eq_ok_iff {entity : Entity} {token : String} {param : Param}
    {field : Field} :
    comparedField entity token param = .ok field ↔
      entity.field? token = some field ∧ param.type.fits field.type = true := by
  unfold comparedField
  cases hfield : entity.field? token with
  | none => simp
  | some found =>
      simp only [Option.some.injEq]
      by_cases hfits : param.type.fits found.type = true
      · rw [if_pos hfits, Except.ok.injEq]
        exact ⟨fun heq => ⟨heq, heq ▸ hfits⟩, fun h => h.1⟩
      · rw [if_neg hfits]
        simp only [reduceCtorEq, false_iff, not_and]
        exact fun heq => heq ▸ hfits

theorem comparedField_eq_error {entity : Entity} {token : String} {param : Param}
    {fault : SignatureFault} (h : comparedField entity token param = .error fault) :
    (entity.field? token = none ∧ fault = .unknownField token entity.name) ∨
      ∃ field, entity.field? token = some field ∧ param.type.fits field.type = false ∧
        fault = .incomparable param.name param.type field.name field.type := by
  unfold comparedField at h
  cases hfield : entity.field? token with
  | none =>
      simp only [hfield] at h
      exact .inl ⟨rfl, (Except.error.inj h).symm⟩
  | some field =>
      simp only [hfield] at h
      cases hfits : param.type.fits field.type with
      | true => rw [if_pos hfits] at h; cases h
      | false =>
          rw [if_neg (by simp [hfits])] at h
          exact .inr ⟨field, rfl, hfits, (Except.error.inj h).symm⟩

/-- A name that can be read has enough connectors for a tree, so that only a comparison can fail. -/
theorem Statement.conditionOf_eq_error {name : MethodName} {entity : Entity} {method : Method}
    {fault : SignatureFault} (hparams : name.fields.length = method.params.length)
    (hconnectors : name.fields.length = name.connectors.length + 1)
    (h : conditionOf name entity method = .error fault) :
    ∃ (place : Nat) (token : String) (param : Param), name.fields[place]? = some token ∧
      method.params[place]? = some param ∧ comparedField entity token param = .error fault := by
  unfold conditionOf at h
  simp only [bind, Except.bind] at h
  split at h
  case h_1 found hfound =>
    obtain rfl : found = fault := Except.error.inj h
    obtain ⟨place, ⟨token, param⟩, hplace, hcompared⟩ := exists_of_mapM_eq_error hfound
    obtain ⟨htoken, hparam⟩ := List.getElem?_zip_eq_some.mp hplace
    exact ⟨place, token, param, htoken, hparam, hcompared⟩
  case h_2 fields hfields =>
    have hcount : (fields.map (·.name)).length = name.connectors.length + 1 := by
      have hsame := (mapM_eq_ok_iff.mp hfields).length_eq
      rw [List.length_zip, hparams, Nat.min_self, ← hparams, hconnectors] at hsame
      rw [List.length_map, ← hsame]
    obtain ⟨tree, htree⟩ := Condition.exists_build? hcount
    simp only [htree] at h
    cases h

/-- A method's condition compares all its parameters, in their order. -/
theorem Statement.leaves_of_conditionOf {name : MethodName} {entity : Entity} {method : Method}
    {condition : Condition} (hlength : name.fields.length = method.params.length)
    (h : conditionOf name entity method = .ok condition) :
    condition.leaves.map (·.2) = List.range method.params.length := by
  obtain ⟨fields, hfields, htree⟩ := conditionOf_eq_ok h
  have hcount : fields.length = method.params.length := by
    have hsame := hfields.length_eq
    rw [List.length_zip, hlength, Nat.min_self] at hsame
    exact hsame.symm
  rw [Condition.leaves_of_build? htree, List.zipIdx_map_snd, List.length_map, hcount,
    List.range_eq_range']

end QueryMethods

import QueryMethods.Config
import QueryMethods.Error
import QueryMethods.Notice

/-!
# From methods to statements

A method is resolved once, when it is registered: a template is bound, and a name is turned into a
`SELECT` over the columns of its entity.
-/

namespace QueryMethods

/-- A result, and what was noticed on the way to it. -/
structure Logged (α : Type) where
  notices : List Notice
  result : α
deriving DecidableEq

/-- The field of an entity that a parameter is compared with. -/
def comparedField (entity : Entity) (token : String) (param : Param) :
    Except SignatureFault Field :=
  match entity.field? token with
  | none => .error (.unknownField token entity.name)
  | some field =>
      if param.type.fits field.type then
        .ok field
      else
        .error (.incomparable param.name param.type field.name field.type)

namespace Statement

/-- The text of a derived statement around its condition. -/
def selectText (verb : Verb) (entity : Entity) (table predicate : String) : String :=
  match verb with
  | .countBy => "SELECT COUNT(*) FROM " ++ table ++ " WHERE " ++ predicate
  | .findBy | .getBy =>
      "SELECT " ++ entity.columns ++ " FROM " ++ table ++ " WHERE " ++ predicate ++ " LIMIT 1"
  | .findAllBy | .getAllBy =>
      "SELECT " ++ entity.columns ++ " FROM " ++ table ++ " WHERE " ++ predicate

/-- The condition that a name asks for, in the entity's own spelling of the fields. -/
def conditionOf (name : MethodName) (entity : Entity) (method : Method) :
    Except SignatureFault Condition := do
  let fields ← (name.fields.zip method.params).mapM fun (token, param) =>
    comparedField entity token param
  match Condition.build? (fields.map (·.name)) name.connectors with
  | some condition => .ok condition
  | none => .error .noFields

/-- The statement of a method whose name says what it asks for. -/
def derive (config : Config) (repository : String) (entity : Entity) (method : Method) :
    Except Error Statement :=
  let ref : MethodRef := ⟨repository, method.name⟩
  match MethodName.parse method.name with
  | .error fault => .error (.signature ref (.name fault))
  | .ok none => .error (.unresolvable ref)
  | .ok (some name) =>
      match name.align (method.params.map (·.name)) method.shape with
      | .error fault => .error (.signature ref (.name fault))
      | .ok () =>
          match conditionOf name entity method with
          | .error fault => .error (.signature ref fault)
          | .ok condition =>
              let predicate := condition.render config.dialect []
              let table := entity.qualifiedTable config.defaultSchema
              .ok {
                entity
                source := .derived condition
                sql := selectText name.verb entity table predicate.sql
                binds := predicate.binds
                shape := method.shape
                returnsRows := true
                policy := .discard }

/-- The statement of a method with a template. -/
def ofTemplate (config : Config) (repository : String) (entity : Entity) (method : Method)
    (sql : String) : Logged (Except Error Statement) :=
  let ref : MethodRef := ⟨repository, method.name⟩
  match BoundTemplate.ofTemplate sql method.params entity config.dialect with
  | .error fault => ⟨[], .error (.binding ref (.template fault))⟩
  | .ok bound =>
      if bound.unused ≠ [] ∧ config.unused = .deny then
        ⟨[], .error (.binding ref (.unused bound.unused))⟩
      else
        let notices := if bound.unused = [] then [] else [.unusedParams ref bound.unused]
        if bound.returnsRows = false ∧ method.shape ≠ .scalar then
          ⟨notices, .error (.binding ref (.rowless method.shape))⟩
        else
          ⟨notices, .ok {
            entity
            source := .template bound
            sql := bound.sql
            binds := bound.binds
            shape := method.shape
            returnsRows := bound.returnsRows
            policy := .ofModifying method.modifying }⟩

end Statement

namespace Method

/-- Adds the notice that a statement is registered, if there is one. -/
def noteStatement (ref : MethodRef) (resolved : Logged (Except Error Statement)) :
    Logged (Except Error (Option Statement)) :=
  match resolved.result with
  | .error error => ⟨resolved.notices, .error error⟩
  | .ok statement =>
      ⟨resolved.notices ++ [.registered ref statement.shape statement.policy statement.sql],
        .ok (some statement)⟩

/-- The statement of a method; a skipped method has none. -/
def resolve (config : Config) (repository : String) (entity : Entity) (method : Method) :
    Logged (Except Error (Option Statement)) :=
  let ref : MethodRef := ⟨repository, method.name⟩
  match method.kind with
  | .skipped => ⟨[.skipped ref], .ok none⟩
  | .template sql => noteStatement ref (Statement.ofTemplate config repository entity method sql)
  | .derived => noteStatement ref ⟨[], Statement.derive config repository entity method⟩
  | .unresolvable => ⟨[], .error (.unresolvable ref)⟩

end Method

end QueryMethods

import QueryMethods.Registry.Basic
import QueryMethods.Session.Run
import QueryMethods.Text.Search

/-!
# Calling a registered method

Arguments are checked before a session is opened. A derived statement compares with `=`, so that
its condition is written anew when an argument is `NULL`.
-/

namespace QueryMethods

/-- The argument as a value of the parameter's type; only a nullable parameter takes `NULL`. -/
def Param.accept? (param : Param) (arg : Value) : Option Value :=
  (arg.coerce? param.type).filter fun value => param.nullable || !value.isNull

namespace Method

/-- The first argument that its parameter does not take decides. -/
def checkEach : List Param → List Value → Except BindingFault (List Value)
  | param :: params, arg :: args =>
      match param.accept? arg with
      | none => .error (.argument param.name param.type arg.type?)
      | some value => (checkEach params args).map (value :: ·)
  | _, _ => .ok []

/-- The values of a call, one for each parameter and of its type. -/
def checkArguments (method : Method) (args : List Value) : Except BindingFault (List Value) :=
  if args.length = method.params.length then
    checkEach method.params args
  else
    .error (.argumentCount method.params.length args.length)

end Method

namespace Statement

/-- A derived statement for the given values. -/
def forValues (statement : Statement) (dialect : Dialect) (values : List Value) : Statement :=
  match statement.source with
  | .template _ => statement
  | .derived condition =>
      if values.any Value.isNull then
        let cached := condition.render dialect []
        let predicate := condition.render dialect values
        { statement with
          sql := String.ofList <| replaceFirst ("WHERE " ++ cached.sql).toList
            ("WHERE " ++ predicate.sql).toList statement.sql.toList
          binds := predicate.binds }
      else
        statement

/-- The values in the order of the marker slots. -/
def bindValues (statement : Statement) (params : List Param) (values : List Value) :
    Except BindingFault (List Bind) :=
  statement.binds.mapM fun index =>
    match params[index]?, values[index]? with
    | some param, some value => .ok ⟨param.type, value⟩
    | _, _ => .error (.missingParam index)

end Statement

namespace Registry

/-- A repository can be called once it is registered. -/
def checkKnown (registry : Registry) (repository : String) : Except Error Unit :=
  match registry.repository? repository with
  | some _ => .ok ()
  | none => .error (.unknownMethod ⟨repository, "*"⟩)

/-- What a call sends to the database: the statement, and the values for its slots. -/
def prepare (registry : Registry) (ref : MethodRef) (args : List Value) :
    Except Error (Statement × List Bind) :=
  match registry.entry? ref with
  | some ⟨method, some statement⟩ =>
      match method.checkArguments args with
      | .error fault => .error (.binding ref fault)
      | .ok values =>
          let statement := statement.forValues registry.config.dialect values
          match statement.bindValues method.params values with
          | .error fault => .error (.binding ref fault)
          | .ok binds => .ok (statement, binds)
  | _ => .error (.unknownMethod ref)

/-- Calls a method with the given arguments. -/
def invoke (registry : Registry) (database : Database) (ref : MethodRef) (args : List Value) :
    Run :=
  match registry.prepare ref args with
  | .error error => .failure error
  | .ok (statement, binds) => statement.run database ref binds

end Registry

end QueryMethods

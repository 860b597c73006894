import QueryMethods.Expansion.Delegation
import QueryMethods.Registry.Invocation
import QueryMethods.Typed.Record

/-!
# Typed calls

What the generated code does: a listed method registers the types of its parameters, and a delegate
encodes its arguments, calls the registry and reads the output.
-/

namespace QueryMethods

/-- The method that a listing registers, if its types are known. -/
def Listing.method? (listing : Listing) : Option Method :=
  let params? := listing.params.mapM fun (param : TypeExpr × String) =>
    param.1.hostType?.map (Param.ofHost param.2)
  params?.map fun params =>
    { name := listing.name
      params
      shape := listing.shape
      template := listing.query.map (·.sql)
      modifying := (listing.query.map (·.modifying)).getD false
      skip := listing.skip }

/-- How the rows or the value of an output are read. -/
inductive TypedReader where
  | entity
  | entities
  | optionalFirst (type : ResultType)
  | listFirst (type : ResultType)
  | scalar (type : ResultType)

namespace TypedReader

/-- The type of what is read, where rows may be read as records of `entity`. -/
abbrev Result (entity : EntityType) : TypedReader → Type
  | .entity => Option entity.Record
  | .entities => List entity.Record
  | .optionalFirst type => Option type.Carrier
  | .listFirst type => List type.Carrier
  | .scalar type => type.Carrier

def read (entity : EntityType) (output : Output) :
    (reader : TypedReader) → Except DecodeError (reader.Result entity)
  | .entity => output.toOptional entity.ofRow
  | .entities => output.toList entity.ofRow
  | .optionalFirst type => output.toOptional (·.first type.decode)
  | .listFirst type => output.toList (·.first type.decode)
  | .scalar type => output.toScalar type.decode

end TypedReader

def OutputReader.typed? : OutputReader → Option TypedReader
  | .entity _ => some .entity
  | .entities _ => some .entities
  | .optionalFirst type => type.resultType?.map .optionalFirst
  | .listFirst type => type.resultType?.map .listFirst
  | .scalar type => type.resultType?.map .scalar

/-- A method of the generated implementation, with the types it is called with. -/
structure TypedMethod where
  name : String
  params : List HostType
  reader : TypedReader

def Delegate.typed? (delegate : Delegate) : Option TypedMethod := do
  let params ← delegate.params.mapM fun (param : String × TypeExpr) => param.2.hostType?
  let reader ← delegate.reader.typed?
  some { name := delegate.name, params, reader }

/-- The end of a typed call, with what the call did. -/
structure TypedRun (α : Type) where
  /-- A call that is dropped has no result. -/
  result : Option (Except Error α)
  events : List SessionEvent
  notices : List Notice

/-- Calls a method under the name of its repository. -/
def TypedMethod.call (method : TypedMethod) (entity : EntityType) (registry : Registry)
    (database : Database) (repository : String) (args : HostValues method.params) :
    TypedRun (method.reader.Result entity) :=
  let values := HostValues.encode method.params args
  let run := registry.invoke database ⟨repository, method.name⟩ values
  let result := match run.outcome with
    | .cancelled => none
    | .finished (.error error) => some (.error error)
    | .finished (.ok output) => some ((method.reader.read entity output).mapError .decode)
  ⟨result, run.events, run.notices⟩

end QueryMethods

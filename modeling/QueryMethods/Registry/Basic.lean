import QueryMethods.Registry.Resolution

/-!
# Registries

A registry keeps, under the name of each repository, the entity it queries and its methods with
their statements.
-/

namespace QueryMethods

structure Entry where
  method : Method
  /-- Skipped methods have no statement. -/
  statement : Option Statement
deriving DecidableEq

structure Repository where
  entity : Entity
  entries : List (String × Entry) := []
deriving DecidableEq

structure Registry where
  config : Config
  repositories : List (String × Repository) := []
deriving DecidableEq

namespace Repository

/-- Registers methods one by one, up to the first error. A method that is registered already stays
as it is if it comes again unchanged, and is an error otherwise. -/
def register (config : Config) (name : String) (repository : Repository) :
    List Method → Logged (Except Error Repository)
  | [] => ⟨[], .ok repository⟩
  | method :: rest =>
      let ref : MethodRef := ⟨name, method.name⟩
      match repository.entries.lookup method.name with
      | some entry =>
          if entry.method = method then
            let later := register config name repository rest
            ⟨.unchanged ref :: later.notices, later.result⟩
          else
            ⟨[], .error (.duplicate ref)⟩
      | none =>
          let resolved := method.resolve config name repository.entity
          match resolved.result with
          | .error error => ⟨resolved.notices, .error error⟩
          | .ok statement =>
              let entries := repository.entries ++ [(method.name, ⟨method, statement⟩)]
              let later := register config name { repository with entries } rest
              ⟨resolved.notices ++ later.notices, later.result⟩

end Repository

namespace Registry

def ofConfig (config : Config) : Registry :=
  { config }

/-- Puts a repository under its name, in the place of the one that has the name already. -/
def put (registry : Registry) (name : String) (repository : Repository) : Registry :=
  let repositories :=
    if registry.repositories.any (·.1 == name) then
      registry.repositories.map fun entry => if entry.1 == name then (name, repository) else entry
    else
      registry.repositories ++ [(name, repository)]
  { registry with repositories }

def repository? (registry : Registry) (name : String) : Option Repository :=
  registry.repositories.lookup name

/-- Registers methods under the name of a repository, which keeps the entity that it had first. -/
def register (registry : Registry) (name : String) (entity : Entity) (methods : List Method) :
    Logged (Except Error Registry) :=
  let repository := (registry.repository? name).getD { entity }
  if repository.entity = entity then
    let registered := repository.register registry.config name methods
    ⟨registered.notices, registered.result.map (registry.put name ·)⟩
  else
    ⟨[.entityConflict name repository.entity.name entity.name], .error (.duplicate ⟨name, "*"⟩)⟩

def entry? (registry : Registry) (ref : MethodRef) : Option Entry :=
  (registry.repository? ref.repository).bind (·.entries.lookup ref.method)

def statement? (registry : Registry) (ref : MethodRef) : Option Statement :=
  (registry.entry? ref).bind (·.statement)

def method? (registry : Registry) (ref : MethodRef) : Option Method :=
  (registry.entry? ref).map (·.method)

/-- The notice of a registry that takes no more methods. -/
def builtNotice (registry : Registry) : Notice :=
  .built registry.repositories.length
    (registry.repositories.foldl (fun total entry => total + entry.2.entries.length) 0)

end Registry

end QueryMethods

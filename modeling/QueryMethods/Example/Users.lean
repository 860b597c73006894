import QueryMethods.Declaration.Entity

/-!
# A repository of users

An entity and a repository over it, with methods of every kind: derived from their names, with
templates that read or write, and one with a body of its own.
-/

namespace QueryMethods.Users

def word (name : String) : TypeExpr :=
  .named name

def generic (name : String) (args : List TypeExpr) : TypeExpr :=
  .path none (.ofNames false [name]) (some args)

def option (type : TypeExpr) : TypeExpr :=
  generic "Option" [type]

def vec (type : TypeExpr) : TypeExpr :=
  generic "Vec" [type]

def instant : TypeExpr :=
  generic "DateTime" [word "Utc"]

def entityDecl : DataDecl :=
  { kind := .named
    name := "User"
    fields := [
      ⟨"id", word "Uuid"⟩, ⟨"email", word "String"⟩, ⟨"age", word "i32"⟩,
      ⟨"status", word "String"⟩, ⟨"nickname", option (word "String")⟩, ⟨"created_at", instant⟩,
      ⟨"score", option (word "f32")⟩, ⟨"active", word "bool"⟩] }

def methodDecl (attributes : List Attribute) (name : String) (params : List (String × TypeExpr))
    (ok : TypeExpr) (body : Option Code) : TraitItem :=
  .method {
    attributes
    name
    receiver := some (code "&self")
    params := params.map fun (param, type) => (code param, type)
    returns := some (generic "Result" [ok, word "Error"])
    body }

def derived (name : String) (params : List (String × TypeExpr)) (ok : TypeExpr) : TraitItem :=
  methodDecl [] name params ok none

def query (sql : String) (modifying : Bool) : Attribute :=
  ⟨"query", .list [⟨"sql", some (.text sql)⟩, ⟨"modifying", some (.bool modifying)⟩]⟩

/-- A method with a template that only reads. -/
def reading (name : String) (params : List (String × TypeExpr)) (ok : TypeExpr) (sql : String) :
    TraitItem :=
  methodDecl [query sql false] name params ok none

/-- A method with a template that is committed. -/
def writing (name : String) (params : List (String × TypeExpr)) (ok : TypeExpr) (sql : String) :
    TraitItem :=
  methodDecl [query sql true] name params ok none

def email : String × TypeExpr :=
  ("email", word "String")

def age : String × TypeExpr :=
  ("age", word "i32")

def status : String × TypeExpr :=
  ("status", word "String")

def nickname : String × TypeExpr :=
  ("nickname", option (word "String"))

def id : String × TypeExpr :=
  ("id", word "Uuid")

def active : String × TypeExpr :=
  ("active", word "bool")

def user : TypeExpr :=
  option (word "User")

def users : TypeExpr :=
  vec (word "User")

def repositoryDecl : TraitDecl :=
  { name := "UserRepository"
    items := [
      derived "find_by_email" [email] user,
      derived "get_by_id" [id] user,
      derived "find_by_email_and_age" [email, age] user,
      derived "find_all_by_email_or_age_and_status" [email, age, status] users,
      derived "get_all_by_status" [status] users,
      derived "find_all_by_nickname" [nickname] users,
      derived "find_all_by_score_or_nickname" [("score", option (word "i64")), nickname] users,
      derived "count_by_status" [status] (word "i64"),
      derived "count_by_active_and_created_at" [active, ("created_at", instant)] (word "i16"),
      reading "emails_with_status" [status] (vec (word "String"))
        "SELECT email FROM users WHERE status = \x7bstatus\x7d ORDER BY email",
      reading "lookup" [email] user
        "SELECT * FROM users WHERE email = '\x7bemail\x7d'",
      reading "nickname_of" [id] (option (option (word "String")))
        "SELECT nickname FROM users WHERE id = \x7bid\x7d",
      reading "average" [("age", word "i16")] (word "f64")
        "SELECT avg(score) FROM users WHERE age > \x7bage\x7d OR \x7bage\x7d = 0",
      writing "set_status" [id, status] (word "u64")
        "UPDATE users SET status = \x7bstatus\x7d WHERE id = \x7bid\x7d",
      reading "try_set_status" [id, status] (word "u64")
        "UPDATE users SET status = \x7bstatus\x7d WHERE id = \x7bid\x7d",
      writing "purge" [active] (.tuple [])
        "DELETE FROM users WHERE active = \x7bactive\x7d",
      writing "create" [email, ("score", option (word "f32"))] user
        "INSERT INTO users (email, score) VALUES (\x7bemail\x7d, \x7bscore\x7d) RETURNING *",
      methodDecl [⟨"skip", .word⟩] "ping" [] (.reference (word "str")) (some (inBraces []))] }

end QueryMethods.Users

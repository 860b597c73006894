import QueryMethods.Proofs.Registry.Prepared

/-!
# What the text of a call depends on

The arguments of a call reach the database as values of slots and never as text. The text of a
template does not depend on them at all. The text of a derived method depends on which of them are
`NULL`, and otherwise on what the name of the method asks for: its verb, its connectors and the
fields that it names, however they are spelled.
-/

namespace QueryMethods

def SessionEvent.text? : SessionEvent → Option String
  | .fetch sql _ | .execute sql _ => some sql
  | _ => none

/-- The SQL texts that the session receives. -/
def Run.texts (run : Run) : List String :=
  run.events.filterMap SessionEvent.text?

theorem Statement.text?_event (statement : Statement) (binds : List Bind) :
    (statement.event binds).text? = some statement.sql := by
  unfold event
  split <;> rfl

theorem Statement.texts_run {database : Database} (hopen : database.openFault = none)
    (statement : Statement) (ref : MethodRef) (binds : List Bind) :
    (statement.run database ref binds).texts = [statement.sql] := by
  have hevents : ∃ ending, ending.text? = none ∧
      (statement.run database ref binds).events = [.opening, statement.event binds, ending] := by
    unfold run
    simp only [hopen]
    split
    · exact ⟨.drop, rfl, rfl⟩
    · exact ⟨.rollback, rfl, rfl⟩
    · exact ⟨.rollback, rfl, rfl⟩
    · split <;> exact ⟨.commit, rfl, rfl⟩
  obtain ⟨ending, hending, hevents⟩ := hevents
  have hopening : SessionEvent.opening.text? = none := rfl
  rw [Run.texts, hevents, List.filterMap_cons_none hopening,
    List.filterMap_cons_some (statement.text?_event binds), List.filterMap_cons_none hending,
    List.filterMap_nil]

/-- A call of a registered method that takes the arguments. -/
structure AcceptedCall where
  registry : Registry
  ref : MethodRef
  repository : Repository
  method : Method
  args : List Value
  values : List Value
  reachable : registry.Reachable
  repository_eq : registry.repository? ref.repository = some repository
  method_eq : registry.method? ref = some method
  accepted : method.checkArguments args = .ok values

namespace AcceptedCall

/-- Whatever the database, once it opens the session it receives this one text. -/
def Sends (call : AcceptedCall) (sql : String) : Prop :=
  ∀ database : Database, database.openFault = none →
    (call.registry.invoke database call.ref call.args).texts = [sql]

/-- The places of the arguments that are `NULL`. -/
def nulls (call : AcceptedCall) : List Bool :=
  call.args.map Value.isNull

theorem sends_of_entry? (call : AcceptedCall) {statement : Statement}
    (hentry : call.registry.entry? call.ref = some ⟨call.method, some statement⟩) :
    call.Sends (statement.forValues call.registry.config.dialect call.values).sql := by
  obtain ⟨binds, hprepare, _⟩ := Registry.exists_prepare call.reachable hentry call.accepted
  intro database hopen
  unfold Registry.invoke
  rw [hprepare]
  exact Statement.texts_run hopen _ call.ref binds

end AcceptedCall

theorem Param.Receives.isNull_eq {param : Param} {arg value : Value}
    (h : param.Receives arg value) : value.isNull = arg.isNull := by
  cases h <;> rfl

theorem Method.nulls_checkArguments {method : Method} {args values : List Value}
    (h : method.checkArguments args = .ok values) :
    values.map Value.isNull = args.map Value.isNull := by
  have haccepts := checkArguments_eq_ok_iff.mp h
  rw [← List.forall₂_eq_eq_eq, List.forall₂_map_left_iff, List.forall₂_map_right_iff,
    forall₂_iff_getElem?]
  refine ⟨haccepts.length_eq, fun place value arg hvalue harg => ?_⟩
  obtain ⟨param, hparam, -⟩ := exists_getElem?_of_forall₂ haccepts.taken.flip harg
  exact (haccepts.received place param arg value hparam harg hvalue).isNull_eq

theorem getElem?_eq_null_iff {values : List Value} {index : Nat} :
    values[index]? = some .null ↔ (values.map Value.isNull)[index]? = some true := by
  simp [List.getElem?_map, Option.map_eq_some_iff]

theorem Condition.render_congr {left right : List Value}
    (h : left.map Value.isNull = right.map Value.isNull) (dialect : Dialect) (tree : Condition) :
    tree.render dialect left = tree.render dialect right := by
  refine renderFrom_congr (fun leaf _ => ?_) 0
  rw [getElem?_eq_null_iff, getElem?_eq_null_iff, h]

/-- The text for the values of a call depends on the places of `NULL` alone, and not on the method
that the statement was made for. -/
theorem Statement.sql_forValues_congr {left right : List Value}
    (h : left.map Value.isNull = right.map Value.isNull) (config : Config) (entity : Entity)
    (first second : Method) (verb : Verb) (condition : Condition) (dialect : Dialect) :
    ((ofCondition config entity first verb condition).forValues dialect left).sql =
      ((ofCondition config entity second verb condition).forValues dialect right).sql := by
  have hany : left.any Value.isNull = right.any Value.isNull := by
    calc left.any Value.isNull = (left.map Value.isNull).any id := by simp
      _ = (right.map Value.isNull).any id := by rw [h]
      _ = right.any Value.isNull := by simp
  unfold forValues
  simp only [ofCondition, hany, Condition.render_congr h]
  split <;> rfl

theorem Entity.field?_congr {left right : String} (h : sameName left right = true)
    (entity : Entity) : entity.field? left = entity.field? right := by
  have hfold : foldCase left.toList = foldCase right.toList := beq_iff_eq.mp h
  unfold Entity.field? sameName
  rw [hfold]

theorem Entity.sameName_of_field? {entity : Entity} {name : String} {field : Field}
    (h : entity.field? name = some field) : sameName field.name name = true := by
  unfold Entity.field? at h
  exact List.find?_some (p := fun field : Field => sameName field.name name) h

/-- Both tokens name a field, and the fields have one name, in any ASCII case. -/
def Entity.SameField (entity : Entity) (left right : String) : Prop :=
  ∃ first second, entity.field? left = some first ∧ entity.field? right = some second ∧
    sameName first.name second.name = true

theorem Entity.SameField.field?_eq {entity : Entity} {left right : String}
    (h : entity.SameField left right) : entity.field? left = entity.field? right := by
  obtain ⟨first, second, hfirst, hsecond, hsame⟩ := h
  have hleft : sameName first.name left = true := sameName_of_field? hfirst
  have hright : sameName second.name right = true := sameName_of_field? hsecond
  have hfields : sameName left second.name = true :=
    sameName_trans (sameName_comm left first.name ▸ hleft) hsame
  exact entity.field?_congr (sameName_trans hfields hright)

/-- Two names that ask for the same, however they spell the fields. -/
structure MethodName.SameMeaning (entity : Entity) (left right : MethodName) : Prop where
  verb_eq : left.verb = right.verb
  connectors_eq : left.connectors = right.connectors
  fields : List.Forall₂ entity.SameField left.fields right.fields

/-- A condition is made of the fields that the tokens name. -/
theorem Statement.fields_of_conditionOf {name : MethodName} {entity : Entity} {method : Method}
    {condition : Condition} (hlength : name.fields.length = method.params.length)
    (h : conditionOf name entity method = .ok condition) :
    ∃ fields : List Field, name.fields.map entity.field? = fields.map some ∧
      Condition.build? (fields.map (·.name)) name.connectors = some condition := by
  obtain ⟨fields, hfields, htree⟩ := conditionOf_eq_ok h
  refine ⟨fields, ?_, htree⟩
  have htokens : (name.fields.zip method.params).map (·.1) = name.fields :=
    List.map_fst_zip (Nat.le_of_eq hlength)
  have hnamed : List.Forall₂ (· = ·)
      ((name.fields.zip method.params).map fun part => entity.field? part.1)
      (fields.map some) := by
    rw [List.forall₂_map_left_iff, List.forall₂_map_right_iff]
    exact hfields.imp fun _ _ h => (comparedField_eq_ok_iff.mp h).1
  rw [List.forall₂_eq_eq_eq] at hnamed
  calc name.fields.map entity.field?
      = ((name.fields.zip method.params).map (·.1)).map entity.field? := by rw [htokens]
    _ = (name.fields.zip method.params).map fun part => entity.field? part.1 := List.map_map
    _ = fields.map some := hnamed

theorem MethodName.SameMeaning.condition_eq {entity : Entity} {left right : MethodName}
    (h : left.SameMeaning entity right) {first second : Method}
    (hleft : left.fields.length = first.params.length)
    (hright : right.fields.length = second.params.length) {condition other : Condition}
    (hcondition : Statement.conditionOf left entity first = .ok condition)
    (hother : Statement.conditionOf right entity second = .ok other) : condition = other := by
  obtain ⟨leftFields, hleftFields, htree⟩ := Statement.fields_of_conditionOf hleft hcondition
  obtain ⟨rightFields, hrightFields, hotherTree⟩ :=
    Statement.fields_of_conditionOf hright hother
  have hnamed : List.Forall₂ (· = ·) (left.fields.map entity.field?)
      (right.fields.map entity.field?) := by
    rw [List.forall₂_map_left_iff, List.forall₂_map_right_iff]
    exact h.fields.imp fun _ _ => Entity.SameField.field?_eq
  rw [List.forall₂_eq_eq_eq] at hnamed
  have hsame : leftFields.map some = rightFields.map some := by
    rw [← hleftFields, hnamed, hrightFields]
  have hfields : leftFields = rightFields :=
    List.map_injective_iff.mpr (fun _ _ => Option.some.inj) hsame
  rw [hfields, h.connectors_eq, hotherTree] at htree
  exact (Option.some.inj htree).symm

/-! ### Two calls -/

namespace AcceptedCall

/-- Two calls that differ in nothing that the text may depend on. -/
inductive Alike (left right : AcceptedCall) : Prop where
  /-- The same template, with any arguments. -/
  | template (sql : String)
      (hregistry : left.registry = right.registry)
      (href : left.ref = right.ref)
      (hkind : left.method.kind = .template sql)
  /-- The same derived method, with `NULL` at the same places. -/
  | derived
      (hregistry : left.registry = right.registry)
      (href : left.ref = right.ref)
      (hkind : left.method.kind = .derived)
      (hnulls : left.nulls = right.nulls)
  /-- Derived methods that ask for the same in other words, with `NULL` at the same places. -/
  | respelled (leftName rightName : MethodName)
      (hconfig : left.registry.config = right.registry.config)
      (hentity : left.repository.entity = right.repository.entity)
      (hleft : left.method.kind = .derived)
      (hright : right.method.kind = .derived)
      (hleftName : MethodName.parse left.method.name = .ok (some leftName))
      (hrightName : MethodName.parse right.method.name = .ok (some rightName))
      (hsame : leftName.SameMeaning left.repository.entity rightName)
      (hnulls : left.nulls = right.nulls)

variable {left right : AcceptedCall}

theorem nulls_values (call : AcceptedCall) :
    call.values.map Value.isNull = call.nulls :=
  Method.nulls_checkArguments call.accepted

theorem method_eq_method (hregistry : left.registry = right.registry)
    (href : left.ref = right.ref) : left.method = right.method := by
  have hright := right.method_eq
  rw [← hregistry, ← href, left.method_eq] at hright
  exact Option.some.inj hright

/-- The statement of a derived method, and the condition that its name asks for. -/
theorem exists_condition (call : AcceptedCall) (hkind : call.method.kind = .derived)
    {name : MethodName} (hname : MethodName.parse call.method.name = .ok (some name)) :
    ∃ condition, name.fields.length = call.method.params.length ∧
      Statement.conditionOf name call.repository.entity call.method = .ok condition ∧
      call.registry.entry? call.ref = some ⟨call.method, some
        (.ofCondition call.registry.config call.repository.entity call.method name.verb
          condition)⟩ := by
  obtain ⟨statement, hentry, hresolved⟩ :=
    call.reachable.exists_statement call.repository_eq call.method_eq (by simp [hkind])
  rcases Method.resolve_eq_ok hresolved.resolve_eq with ⟨hskipped, _⟩ |
    ⟨sql, found, htemplate, _⟩ | ⟨found, _, hsome, hderive⟩
  · cases hkind.symm.trans hskipped
  · cases hkind.symm.trans htemplate
  · obtain ⟨parsed, condition, hparse, halign, hcondition, rfl⟩ := Statement.derive_eq_ok hderive
    obtain rfl : parsed = name := by
      rw [hname] at hparse
      exact (Option.some.inj (Except.ok.inj hparse)).symm
    have hlength := MethodName.length_eq_of_align halign
    rw [List.length_map] at hlength
    rw [Option.some.inj hsome] at hentry
    exact ⟨condition, hlength, hcondition, hentry⟩

theorem sends_same_text_of_template (hregistry : left.registry = right.registry)
    (href : left.ref = right.ref) {sql : String} (hkind : left.method.kind = .template sql) :
    ∃ text, left.Sends text ∧ right.Sends text := by
  obtain ⟨bound, _, hleft⟩ :=
    left.reachable.template_entry left.repository_eq left.method_eq hkind
  have hright := hleft
  rw [method_eq_method hregistry href, hregistry, href] at hright
  exact ⟨bound.sql, left.sends_of_entry? hleft, right.sends_of_entry? hright⟩

theorem sends_same_text_of_derived (hregistry : left.registry = right.registry)
    (href : left.ref = right.ref) (hkind : left.method.kind = .derived)
    (hnulls : left.nulls = right.nulls) : ∃ text, left.Sends text ∧ right.Sends text := by
  obtain ⟨name, condition, _, hleft⟩ :=
    left.reachable.derived_entry left.repository_eq left.method_eq hkind
  have hright := hleft
  rw [method_eq_method hregistry href, hregistry, href] at hright
  have hvalues : left.values.map Value.isNull = right.values.map Value.isNull := by
    rw [left.nulls_values, right.nulls_values, hnulls]
  refine ⟨_, left.sends_of_entry? hleft, ?_⟩
  rw [hregistry, Statement.sql_forValues_congr hvalues _ _ _ right.method]
  exact right.sends_of_entry? hright

theorem sends_same_text_of_respelled {leftName rightName : MethodName}
    (hconfig : left.registry.config = right.registry.config)
    (hentity : left.repository.entity = right.repository.entity)
    (hleft : left.method.kind = .derived) (hright : right.method.kind = .derived)
    (hleftName : MethodName.parse left.method.name = .ok (some leftName))
    (hrightName : MethodName.parse right.method.name = .ok (some rightName))
    (hsame : leftName.SameMeaning left.repository.entity rightName)
    (hnulls : left.nulls = right.nulls) : ∃ text, left.Sends text ∧ right.Sends text := by
  obtain ⟨condition, hcount, hcondition, hentry⟩ := left.exists_condition hleft hleftName
  obtain ⟨other, hotherCount, hother, hotherEntry⟩ := right.exists_condition hright hrightName
  rw [← hentity] at hother hotherEntry
  obtain rfl := hsame.condition_eq hcount hotherCount hcondition hother
  have hvalues : left.values.map Value.isNull = right.values.map Value.isNull := by
    rw [left.nulls_values, right.nulls_values, hnulls]
  refine ⟨_, left.sends_of_entry? hentry, ?_⟩
  rw [hconfig, hsame.verb_eq, Statement.sql_forValues_congr hvalues _ _ _ right.method]
  exact right.sends_of_entry? hotherEntry

/-- **Arguments stay out of the text.** Two calls of one template send the same text, whatever their
arguments. Two calls of derived methods that ask for the same, with `NULL` at the same places, send
the same text, whatever their other arguments and however the methods are spelled. -/
theorem sends_same_text (h : left.Alike right) : ∃ text, left.Sends text ∧ right.Sends text := by
  cases h with
  | template sql hregistry href hkind => exact sends_same_text_of_template hregistry href hkind
  | derived hregistry href hkind hnulls =>
      exact sends_same_text_of_derived hregistry href hkind hnulls
  | respelled leftName rightName hconfig hentity hleft hright hleftName hrightName hsame hnulls =>
      exact sends_same_text_of_respelled hconfig hentity hleft hright hleftName hrightName hsame
        hnulls

end AcceptedCall

namespace Accounts

/-- The derived method of the accounts in other words. -/
def respelledFind : Method where
  name := "FIND_By_Owner_or_ID"
  params := [⟨"OWNER", .text, true⟩, ⟨"Id", .int, false⟩]

def respelledRegistry : Registry :=
  (((Registry.ofConfig {}).registerAll [⟨"ledger", entity, [respelledFind]⟩]).toOption).getD
    (.ofConfig {})

def ledger : Repository :=
  (respelledRegistry.repository? "ledger").getD { entity }

theorem respelled :
    (Registry.ofConfig respelledRegistry.config).registerAll
        [⟨"ledger", entity, [respelledFind]⟩] = .ok respelledRegistry ∧
      respelledRegistry.config = registry.config ∧
      respelledRegistry.repository? "ledger" = some ledger ∧ ledger.entity = entity ∧
      respelledRegistry.method? ⟨"ledger", "FIND_By_Owner_or_ID"⟩ = some respelledFind := by
  decide +kernel

def depositCall (amount id : Int64) : AcceptedCall where
  registry := registry
  ref := ⟨"accounts", "deposit"⟩
  repository := repository
  method := deposit
  args := [.int amount, .int id]
  values := [.float (.ofInt amount.toInt), .int id]
  reachable := reachable_registry
  repository_eq := registered.1
  method_eq := registered.2.2.2
  accepted := rfl

def findCall (id : Int64) : AcceptedCall where
  registry := registry
  ref := ⟨"accounts", "find_by_owner_or_id"⟩
  repository := repository
  method := find
  args := [.null, .int id]
  values := [.null, .int id]
  reachable := reachable_registry
  repository_eq := registered.1
  method_eq := registered.2.2.1
  accepted := rfl

def respelledCall (id : Int64) : AcceptedCall where
  registry := respelledRegistry
  ref := ⟨"ledger", "FIND_By_Owner_or_ID"⟩
  repository := ledger
  method := respelledFind
  args := [.null, .int id]
  values := [.null, .int id]
  reachable := ⟨_, respelled.1⟩
  repository_eq := respelled.2.2.1
  method_eq := respelled.2.2.2.2
  accepted := rfl

theorem alike_deposit (amount other id otherId : Int64) :
    (depositCall amount id).Alike (depositCall other otherId) := by
  refine .template (deposit.template.getD "") ?_ ?_ ?_
  · unfold depositCall; rfl
  · unfold depositCall; rfl
  · exact show deposit.kind = _ by decide +kernel

theorem alike_find (id other : Int64) : (findCall id).Alike (findCall other) := by
  refine .derived ?_ ?_ ?_ ?_
  · unfold findCall; rfl
  · unfold findCall; rfl
  · exact show find.kind = _ by decide +kernel
  · unfold AcceptedCall.nulls findCall; rfl

theorem alike_respelled (id other : Int64) : (findCall id).Alike (respelledCall other) := by
  let name : MethodName := ⟨.findBy, ["owner", "id"], [.or]⟩
  refine .respelled name name respelled.2.1.symm ?_ ?_ ?_ ?_ ?_ ?_ ?_
  · exact registered.2.1.trans respelled.2.2.2.1.symm
  · exact show find.kind = _ by decide +kernel
  · exact show respelledFind.kind = _ by decide +kernel
  · exact show MethodName.parse find.name = _ by decide +kernel
  · exact show MethodName.parse respelledFind.name = _ by decide +kernel
  · change name.SameMeaning repository.entity name
    rw [registered.2.1]
    have howner : entity.SameField "owner" "owner" :=
      ⟨⟨"owner", .text, true⟩, ⟨"owner", .text, true⟩, by decide +kernel⟩
    have hid : entity.SameField "id" "id" :=
      ⟨⟨"id", .int, false⟩, ⟨"id", .int, false⟩, by decide +kernel⟩
    exact ⟨rfl, rfl, .cons howner (.cons hid .nil)⟩
  · unfold AcceptedCall.nulls findCall respelledCall; rfl

end Accounts

open Accounts in
theorem AcceptedCall.sends_same_text_accounts :
    (∃ text, (depositCall 5 7).Sends text ∧ (depositCall (-1) 8).Sends text) ∧
      (∃ text, (findCall 7).Sends text ∧ (findCall 8).Sends text) ∧
      ∃ text, (findCall 7).Sends text ∧ (respelledCall 8).Sends text :=
  ⟨sends_same_text (alike_deposit 5 (-1) 7 8), sends_same_text (alike_find 7 8),
    sends_same_text (alike_respelled 7 8)⟩

end QueryMethods

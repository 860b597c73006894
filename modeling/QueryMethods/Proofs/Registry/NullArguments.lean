import QueryMethods.Proofs.Registry.Prepared

/-!
# Derived statements for `NULL` arguments

A derived statement is kept as text, and a call with `NULL` arguments puts another condition in the
place of the first text that reads like the kept one. The kept condition has an `=`, and nothing
before it does unless a column or the table is so named: the search finds the condition itself, and
the call sends what writing the whole statement anew would give.
-/

namespace QueryMethods

theorem not_isPrefixOf_cons {pattern before after : List Char} {c d : Char}
    (hbefore : c ∉ d :: before) (hmem : c ∈ pattern) :
    ¬ pattern <+: d :: before ++ (pattern ++ after) := by
  rintro ⟨suffix, hsuffix⟩
  have hplace := congrArg (List.idxOf c) hsuffix
  rw [List.idxOf_append, if_pos hmem, List.idxOf_append, if_neg hbefore, List.idxOf_append,
    if_pos hmem, List.length_cons] at hplace
  omega

/-- A pattern is found behind a text that lacks one of its characters. -/
theorem cutAt?_append {pattern before : List Char} {c : Char} (hbefore : c ∉ before)
    (hmem : c ∈ pattern) (after : List Char) :
    cutAt? pattern (before ++ (pattern ++ after)) = some (before, after) := by
  induction before with
  | nil =>
      cases pattern with
      | nil => cases hmem
      | cons first pattern => simp [cutAt?]
  | cons d before ih =>
      have hmiss : pattern.isPrefixOf (d :: before ++ (pattern ++ after)) = false := by
        rw [Bool.eq_false_iff, ne_eq, List.isPrefixOf_iff_prefix]
        exact not_isPrefixOf_cons hbefore hmem
      have hrest := ih fun hin => hbefore (List.mem_cons_of_mem d hin)
      rw [List.cons_append] at hmiss ⊢
      rw [cutAt?, hmiss, hrest]
      rfl

theorem replaceFirst_of_cutAt? {pattern replacement text before after : List Char}
    (h : cutAt? pattern text = some (before, after)) :
    replaceFirst pattern replacement text = before ++ (replacement ++ after) := by
  simp only [replaceFirst, h, List.append_assoc]

namespace Verb

def selection (verb : Verb) (entity : Entity) : String :=
  if verb = .countBy then "COUNT(*)" else ", ".intercalate (entity.fields.map (·.name))

/-- Of the verbs for one row, the limit. -/
def limit (verb : Verb) : String :=
  if verb = .findBy ∨ verb = .getBy then " LIMIT 1" else ""

/-- The text of a derived statement before its condition. -/
def opener (verb : Verb) (entity : Entity) (table : String) : String :=
  "SELECT " ++ verb.selection entity ++ " FROM " ++ table ++ " "

end Verb

theorem Statement.selectText_eq (verb : Verb) (entity : Entity) (table predicate : String) :
    selectText verb entity table predicate =
      verb.opener entity table ++ ("WHERE " ++ predicate) ++ verb.limit := by
  have hcount : "SELECT COUNT(*) FROM " = "SELECT " ++ ("COUNT(*)" ++ " FROM ") := by
    decide +kernel
  have hwhere : " WHERE " = " " ++ "WHERE " := by decide +kernel
  unfold selectText Verb.opener Verb.selection Verb.limit Entity.columns
  cases verb <;>
    simp only [reduceCtorEq, or_false, or_true, if_true, if_false, String.append_empty,
      String.append_assoc, hcount, hwhere]

/-- Nothing that a derived statement says before its condition is written with `=`. -/
structure Entity.FreeOfEquals (entity : Entity) (defaultSchema : Option String) : Prop where
  columns : ∀ field ∈ entity.fields, '=' ∉ field.name.toList
  table : '=' ∉ entity.table.toList
  schema : ∀ schema, entity.schema = some schema → '=' ∉ schema.toList
  defaultSchema : ∀ schema, defaultSchema = some schema → '=' ∉ schema.toList

theorem not_mem_intercalate {α : Type} {separator : List α} {parts : List (List α)} {item : α}
    (hseparator : item ∉ separator) (hparts : ∀ part ∈ parts, item ∉ part) :
    item ∉ separator.intercalate parts := by
  induction parts with
  | nil => simp
  | cons part rest ih =>
      rw [List.forall_mem_cons] at hparts
      cases rest with
      | nil => simpa using hparts.1
      | cons next rest =>
          rw [List.intercalate_cons_cons]
          simp [hparts.1, hseparator, ih hparts.2]

namespace Entity.FreeOfEquals

variable {entity : Entity} {defaultSchema : Option String}

theorem qualifiedTable (h : entity.FreeOfEquals defaultSchema) :
    '=' ∉ (entity.qualifiedTable defaultSchema).toList := by
  unfold Entity.qualifiedTable
  cases hschema : entity.schema.or defaultSchema with
  | none => exact h.table
  | some schema =>
      have hfree : '=' ∉ schema.toList := by
        rcases Option.or_eq_some_iff.mp hschema with hown | ⟨_, hdefault⟩
        · exact h.schema schema hown
        · exact h.defaultSchema schema hdefault
      simp [hfree, h.table]

theorem selection (h : entity.FreeOfEquals defaultSchema) (verb : Verb) :
    '=' ∉ (verb.selection entity).toList := by
  unfold Verb.selection
  split
  · decide
  · rw [String.toList_intercalate]
    refine not_mem_intercalate (by decide) fun part hpart => ?_
    rw [List.map_map] at hpart
    obtain ⟨field, hfield, rfl⟩ := List.mem_map.mp hpart
    exact h.columns field hfield

theorem opener (h : entity.FreeOfEquals defaultSchema) (verb : Verb) :
    '=' ∉ (verb.opener entity (entity.qualifiedTable defaultSchema)).toList := by
  simp [Verb.opener, h.selection verb, h.qualifiedTable]

end Entity.FreeOfEquals

theorem Condition.mem_asOperand {tree : Condition} {predicate : Predicate} {c : Char}
    (h : c ∈ predicate.sql.toList) : c ∈ (tree.asOperand predicate).sql.toList := by
  cases tree with
  | equal field param => exact h
  | join connector left right => simp [asOperand, Predicate.parenthesized, h]

theorem Condition.equals_mem_renderFrom (dialect : Dialect) (tree : Condition) (used : Nat) :
    '=' ∈ (tree.renderFrom dialect [] used).sql.toList := by
  induction tree generalizing used with
  | equal field param => simp [renderFrom]
  | join connector left right hleft _ =>
      have hin : '=' ∈ (left.asOperand (left.renderFrom dialect [] used)).sql.toList :=
        mem_asOperand (hleft used)
      simp [renderFrom, Predicate.join, hin]

namespace Statement

variable {config : Config} {entity : Entity} {method : Method} {verb : Verb}
  {condition : Condition}

/-- The first text that reads like the kept condition is the kept condition. -/
theorem cutAt?_selectText (h : entity.FreeOfEquals config.defaultSchema) :
    cutAt? ("WHERE " ++ (condition.render config.dialect []).sql).toList
        (selectText verb entity (entity.qualifiedTable config.defaultSchema)
          (condition.render config.dialect []).sql).toList =
      some ((verb.opener entity (entity.qualifiedTable config.defaultSchema)).toList,
        verb.limit.toList) := by
  generalize hpattern : "WHERE " ++ (condition.render config.dialect []).sql = pattern
  have hequals : '=' ∈ pattern.toList := by
    rw [← hpattern, String.toList_append]
    exact List.mem_append_right _ (Condition.equals_mem_renderFrom config.dialect condition 0)
  rw [selectText_eq, hpattern, String.toList_append, String.toList_append, List.append_assoc]
  exact cutAt?_append (h.opener verb) hequals verb.limit.toList

theorem sql_forValues_ofCondition (h : entity.FreeOfEquals config.defaultSchema)
    (values : List Value) :
    ((ofCondition config entity method verb condition).forValues config.dialect values).sql =
      selectText verb entity (entity.qualifiedTable config.defaultSchema)
        (condition.render config.dialect values).sql := by
  unfold forValues
  by_cases hnull : values.any Value.isNull = true
  · simp only [ofCondition, hnull, if_true]
    rw [replaceFirst_of_cutAt? (cutAt?_selectText h), selectText_eq, ← String.toList_inj]
    simp only [String.toList_ofList, String.toList_append, List.append_assoc]
  · simp only [ofCondition, hnull, if_false, Bool.false_eq_true,
      Condition.render_eq_of_no_null (Bool.eq_false_iff.mpr hnull)]

end Statement

/-- A call of a derived method, whose condition is written anew for the values of the call. -/
structure Registry.WrittenCall (registry : Registry) (ref : MethodRef) (entity : Entity)
    (method : Method) (args values : List Value) (name : MethodName) (condition : Condition)
    (kept : Statement) (binds : List Bind) : Prop where
  parse_eq : MethodName.parse method.name = .ok (some name)
  statement_eq : registry.statement? ref = some kept
  source_eq : kept.source = .derived condition
  fetched : ∀ database : Database, database.openFault = none →
    (registry.invoke database ref args).events[1]? = some (.fetch
      ("SELECT " ++ name.verb.selection entity ++
        " FROM " ++ entity.qualifiedTable registry.config.defaultSchema ++ " " ++
        ("WHERE " ++ (condition.render registry.config.dialect values).sql) ++ name.verb.limit)
      binds)
  bound : List.Forall₂ (SlotValue method.params values) (condition.boundParams values) binds
  binds_eq : (condition.render registry.config.dialect values).binds =
    condition.boundParams values
  found : cutAt? ("WHERE " ++ (condition.render registry.config.dialect []).sql).toList
      kept.sql.toList =
    some ((name.verb.opener entity
      (entity.qualifiedTable registry.config.defaultSchema)).toList, name.verb.limit.toList)
  unchanged : values.any Value.isNull = false →
    kept.sql = name.verb.opener entity (entity.qualifiedTable registry.config.defaultSchema) ++
        ("WHERE " ++ (condition.render registry.config.dialect values).sql) ++ name.verb.limit ∧
      kept.binds = (condition.render registry.config.dialect values).binds

/-- **`NULL` arguments.** A derived method sends its condition written anew for the values of the
call, and binds the values of the comparisons that stay, from left to right. -/
theorem Registry.exists_writtenCall {registry : Registry} (hreach : registry.Reachable)
    {ref : MethodRef} {repository : Repository} {method : Method} {args values : List Value}
    (hrepository : registry.repository? ref.repository = some repository)
    (hmethod : registry.method? ref = some method) (hkind : method.kind = .derived)
    (hfree : repository.entity.FreeOfEquals registry.config.defaultSchema)
    (hvalues : method.checkArguments args = .ok values) :
    ∃ name condition kept binds,
      registry.WrittenCall ref repository.entity method args values name condition kept binds := by
  obtain ⟨name, condition, hparse, hentry⟩ := hreach.derived_entry hrepository hmethod hkind
  obtain ⟨binds, hprepare, hbinds⟩ := Registry.exists_prepare hreach hentry hvalues
  refine ⟨name, condition,
    .ofCondition registry.config repository.entity method name.verb condition, binds, ?_⟩
  constructor
  case parse_eq => exact hparse
  case statement_eq =>
    rw [Registry.statement?, hentry]
    rfl
  case source_eq => rfl
  case fetched =>
    intro database hopen
    rw [events_of_prepare hprepare hopen, Statement.event, Statement.returnsRows_forValues,
      Statement.sql_forValues_ofCondition hfree, Statement.selectText_eq]
    rfl
  case bound => rwa [Statement.binds_forValues rfl rfl] at hbinds
  case binds_eq => exact Condition.binds_render _ _ _
  case found => exact Statement.cutAt?_selectText hfree
  case unchanged =>
    intro hnull
    rw [Condition.render_eq_of_no_null hnull, ← Statement.selectText_eq]
    exact ⟨rfl, rfl⟩

theorem Registry.exists_writtenCall_accounts :
    Accounts.registry.Reachable ∧
      Accounts.entity.FreeOfEquals Accounts.registry.config.defaultSchema ∧
      ∃ values, Accounts.find.checkArguments [.null, .int 7] = .ok values ∧
        ∃ name condition kept binds,
          Accounts.registry.WrittenCall ⟨"accounts", Accounts.find.name⟩ Accounts.entity
            Accounts.find [.null, .int 7] values name condition kept binds := by
  have hentity : (Accounts.registry.repository? "accounts").map (·.entity) =
      some Accounts.entity := by decide +kernel
  obtain ⟨repository, hrepository, heq⟩ := Option.map_eq_some_iff.mp hentity
  have hschema : Accounts.registry.config.defaultSchema = none := by decide +kernel
  have hfree : Accounts.entity.FreeOfEquals Accounts.registry.config.defaultSchema := by
    rw [hschema]
    constructor <;> decide +kernel
  have hvalues : Accounts.find.checkArguments [.null, .int 7] = .ok [.null, .int 7] := by
    decide +kernel
  refine ⟨Accounts.reachable_registry, hfree, _, hvalues, ?_⟩
  rw [← heq]
  rw [← heq] at hfree
  exact Registry.exists_writtenCall Accounts.reachable_registry hrepository (by decide +kernel)
    (by decide +kernel) hfree hvalues

end QueryMethods

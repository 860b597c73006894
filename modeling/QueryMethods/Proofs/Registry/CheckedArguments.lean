import QueryMethods.Registry.Invocation
import QueryMethods.Proofs.Checked
import QueryMethods.Proofs.Registry.History

/-!
# Checked arguments

A call is checked argument by argument against the parameters of its method. What a parameter takes
is what a registration lets it be compared with: `NULL` if it is nullable, and values whose type
fits its own. The first argument that is not taken is the fault, and no session is opened for it.
-/

namespace QueryMethods

/-- The parameter takes `NULL` if it is nullable, and any value whose type fits its own. -/
def Param.Takes (param : Param) (arg : Value) : Prop :=
  (arg = .null ∧ param.nullable = true) ∨
    ∃ type, arg.type? = some type ∧ type.fits param.type = true

/-- What a parameter makes of an argument. -/
inductive Param.Receives (param : Param) : Value → Value → Prop where
  | null (hnullable : param.nullable = true) : Receives param .null .null
  | same {value : Value} (htype : value.type? = some param.type) : Receives param value value
  /-- An integer is widened for a float. -/
  | widened (n : Int64) (htype : param.type = .float) :
      Receives param (.int n) (.float (.ofInt n.toInt))

/-- The method takes all arguments, and makes these values of them. -/
structure Method.Accepts (method : Method) (args values : List Value) : Prop where
  taken : List.Forall₂ Param.Takes method.params args
  length_eq : values.length = args.length
  received : ∀ (place : Nat) param arg value, method.params[place]? = some param →
    args[place]? = some arg → values[place]? = some value → param.Receives arg value

/-- Why a method does not take the arguments. -/
inductive Method.Rejects (method : Method) (args : List Value) : BindingFault → Prop where
  | count (hlength : args.length ≠ method.params.length) :
      Rejects method args (.argumentCount method.params.length args.length)
  /-- Of the arguments that are not taken, the first one. -/
  | argument {place : Nat} {param : Param} {arg : Value}
      (hlength : args.length = method.params.length)
      (hparam : method.params[place]? = some param) (harg : args[place]? = some arg)
      (hrefused : ¬ param.Takes arg)
      (hearlier : ∀ earlier < place, ∀ before given, method.params[earlier]? = some before →
        args[earlier]? = some given → before.Takes given) :
      Rejects method args (.argument param.name param.type arg.type?)

theorem Value.coerce?_eq_some_iff {arg value : Value} {target : ValueType} :
    arg.coerce? target = some value ↔
      (arg = .null ∧ value = .null) ∨ (arg.type? = some target ∧ value = arg) ∨
        ∃ n, arg = .int n ∧ target = .float ∧ value = .float (.ofInt n.toInt) := by
  cases arg <;> cases target <;> simp [coerce?, type?, eq_comm]

namespace Param

variable {param : Param} {arg value : Value}

theorem accept?_eq_some_iff : param.accept? arg = some value ↔ param.Receives arg value := by
  rw [accept?, Option.filter_eq_some_iff, Value.coerce?_eq_some_iff]
  constructor
  · rintro ⟨⟨rfl, rfl⟩ | ⟨htype, rfl⟩ | ⟨n, rfl, htype, rfl⟩, hkept⟩
    · exact .null (by simpa [Value.isNull, Value.type?] using hkept)
    · exact .same htype
    · exact .widened n htype
  · intro h
    cases h with
    | null hnullable => simp [hnullable]
    | same htype => simp [htype, Value.isNull]
    | widened n htype => simp [htype, Value.isNull, Value.type?]

theorem takes_iff : param.Takes arg ↔ ∃ value, param.Receives arg value := by
  constructor
  · rintro (⟨rfl, hnullable⟩ | ⟨type, htype, hfits⟩)
    · exact ⟨.null, .null hnullable⟩
    · rcases ValueType.fits_iff.mp hfits with rfl | ⟨rfl, hfloat⟩
      · exact ⟨arg, .same htype⟩
      · cases arg <;> cases htype
        exact ⟨_, .widened _ hfloat⟩
  · rintro ⟨value, h⟩
    cases h with
    | null hnullable => exact .inl ⟨rfl, hnullable⟩
    | same htype => exact .inr ⟨param.type, htype, ValueType.fits_iff.mpr (.inl rfl)⟩
    | widened n htype => exact .inr ⟨.int, rfl, ValueType.fits_iff.mpr (.inr ⟨rfl, htype⟩)⟩

/-- One argument, checked by its parameter. -/
def check (param : Param) (arg : Value) : Except BindingFault Value :=
  match param.accept? arg with
  | none => .error (.argument param.name param.type arg.type?)
  | some value => .ok value

theorem check_eq_ok_iff : param.check arg = .ok value ↔ param.Receives arg value := by
  rw [← accept?_eq_some_iff, check]
  cases param.accept? arg <;> simp

theorem check_eq_error_iff {fault : BindingFault} :
    param.check arg = .error fault ↔
      ¬ param.Takes arg ∧ fault = .argument param.name param.type arg.type? := by
  rw [takes_iff]
  simp only [← accept?_eq_some_iff, check]
  cases param.accept? arg <;> simp [eq_comm]

theorem exists_check_iff : (∃ value, param.check arg = .ok value) ↔ param.Takes arg := by
  rw [takes_iff]
  simp only [check_eq_ok_iff]

end Param

namespace Method

theorem checkEach_eq_mapM (params : List Param) (args : List Value) :
    checkEach params args = (params.zip args).mapM fun part => part.1.check part.2 := by
  induction params generalizing args with
  | nil => rfl
  | cons param params ih =>
      cases args with
      | nil => rfl
      | cons arg args =>
          rw [List.zip_cons_cons, List.mapM_cons, ← ih, checkEach, Param.check]
          cases param.accept? arg with
          | none => rfl
          | some value => cases checkEach params args <;> rfl

variable {method : Method} {args values : List Value} {fault : BindingFault}

theorem receives_iff_accepts (hlength : args.length = method.params.length) :
    List.Forall₂ (fun (part : Param × Value) value => part.1.Receives part.2 value)
      (method.params.zip args) values ↔ method.Accepts args values := by
  have hzip : (method.params.zip args).length = args.length := by
    rw [List.length_zip, hlength, Nat.min_self]
  constructor
  · intro h
    have hreceived : ∀ (place : Nat) param arg, method.params[place]? = some param →
        args[place]? = some arg → ∃ value, values[place]? = some value ∧
          param.Receives arg value := by
      intro place param arg hparam harg
      have hpart : (method.params.zip args)[place]? = some (param, arg) :=
        List.getElem?_zip_eq_some.mpr ⟨hparam, harg⟩
      exact exists_getElem?_of_forall₂ h hpart
    refine ⟨forall₂_iff_getElem?.mpr ⟨hlength.symm, fun place param arg hparam harg => ?_⟩,
      h.length_eq.symm.trans hzip, fun place param arg value hparam harg hvalue => ?_⟩
    · obtain ⟨value, -, hvalue⟩ := hreceived place param arg hparam harg
      exact Param.takes_iff.mpr ⟨value, hvalue⟩
    · obtain ⟨found, hfound, hrelated⟩ := hreceived place param arg hparam harg
      rw [hvalue] at hfound
      exact Option.some.inj hfound ▸ hrelated
  · intro h
    refine forall₂_iff_getElem?.mpr ⟨hzip.trans h.length_eq.symm, ?_⟩
    rintro place ⟨param, arg⟩ value hpart hvalue
    obtain ⟨hparam, harg⟩ := List.getElem?_zip_eq_some.mp hpart
    exact h.received place param arg value hparam harg hvalue

theorem checkArguments_eq_ok_iff :
    method.checkArguments args = .ok values ↔ method.Accepts args values := by
  unfold checkArguments
  by_cases hlength : args.length = method.params.length
  · rw [if_pos hlength, checkEach_eq_mapM, mapM_eq_ok_iff, ← receives_iff_accepts hlength]
    simp only [Param.check_eq_ok_iff]
  · rw [if_neg hlength]
    simp only [reduceCtorEq, false_iff]
    exact fun h => hlength h.taken.length_eq.symm

theorem checkArguments_eq_error_iff :
    method.checkArguments args = .error fault ↔ method.Rejects args fault := by
  unfold checkArguments
  by_cases hlength : args.length = method.params.length
  · rw [if_pos hlength, checkEach_eq_mapM, mapM_eq_error_iff]
    simp only [Param.check_eq_error_iff, Param.exists_check_iff]
    constructor
    · rintro ⟨place, ⟨param, arg⟩, hpart, ⟨hrefused, rfl⟩, hearlier⟩
      obtain ⟨hparam, harg⟩ := List.getElem?_zip_eq_some.mp hpart
      exact .argument hlength hparam harg hrefused fun earlier hlt before given hbefore hgiven =>
        hearlier earlier hlt (before, given) (List.getElem?_zip_eq_some.mpr ⟨hbefore, hgiven⟩)
    · intro h
      cases h with
      | count hcount => exact absurd hlength hcount
      | @argument place param arg _ hparam harg hrefused hearlier =>
          refine ⟨place, (param, arg), List.getElem?_zip_eq_some.mpr ⟨hparam, harg⟩,
            ⟨hrefused, rfl⟩, ?_⟩
          rintro earlier hlt ⟨before, given⟩ hpart
          obtain ⟨hbefore, hgiven⟩ := List.getElem?_zip_eq_some.mp hpart
          exact hearlier earlier hlt before given hbefore hgiven
  · rw [if_neg hlength, Except.error.injEq]
    constructor
    · rintro rfl
      exact .count hlength
    · intro h
      cases h with
      | count => rfl
      | argument hsame => exact absurd hsame hlength

end Method

theorem Registry.invoke_of_rejects {registry : Registry} {ref : MethodRef} {method : Method}
    {statement : Statement} {args : List Value} {fault : BindingFault}
    (hentry : registry.entry? ref = some ⟨method, some statement⟩)
    (h : method.Rejects args fault) (database : Database) :
    registry.invoke database ref args = .failure (.binding ref fault) := by
  have hcheck := Method.checkArguments_eq_error_iff.mpr h
  simp only [invoke, prepare, hentry, hcheck]

/-- **Arguments are checked by the declared types.** A method takes arguments exactly if there is
one for every parameter, each `NULL` where that is allowed or of a type that fits; it makes values
of the parameters' types of them. Otherwise the first argument that is not taken, or their count, is
the fault, and a call ends with it before a session is opened. -/
theorem Method.checkArguments_exact (method : Method) (args : List Value) :
    ((∃ values, method.checkArguments args = .ok values) ↔
        args.length = method.params.length ∧ ∀ (place : Nat) param arg,
          method.params[place]? = some param → args[place]? = some arg → param.Takes arg) ∧
      (∀ values, method.checkArguments args = .ok values ↔ method.Accepts args values) ∧
      (∀ fault, method.checkArguments args = .error fault ↔ method.Rejects args fault) ∧
      ∀ (registry : Registry) ref statement, registry.entry? ref = some ⟨method, some statement⟩ →
        ∀ fault, method.checkArguments args = .error fault → ∀ database,
          registry.invoke database ref args = .failure (.binding ref fault) ∧
            (registry.invoke database ref args).events = [] := by
  refine ⟨⟨?_, ?_⟩, fun values => checkArguments_eq_ok_iff,
    fun fault => checkArguments_eq_error_iff, ?_⟩
  · rintro ⟨values, hvalues⟩
    obtain ⟨hlength, htaken⟩ :=
      forall₂_iff_getElem?.mp (checkArguments_eq_ok_iff.mp hvalues).taken
    exact ⟨hlength.symm, htaken⟩
  · rintro ⟨hlength, htaken⟩
    cases hcheck : method.checkArguments args with
    | ok values => exact ⟨values, rfl⟩
    | error fault =>
        cases checkArguments_eq_error_iff.mp hcheck with
        | count hcount => exact absurd hlength hcount
        | argument _ hparam harg hrefused => exact absurd (htaken _ _ _ hparam harg) hrefused
  · intro registry ref statement hentry fault hfault database
    have hrun := Registry.invoke_of_rejects hentry (checkArguments_eq_error_iff.mp hfault) database
    exact ⟨hrun, by rw [hrun]; rfl⟩

/-- The second argument of a deposit is no integer. -/
theorem Method.checkArguments_exact_accounts :
    Accounts.deposit.Rejects [.int 5, .text "7"] (.argument "id" .int (some .text)) ∧
      Accounts.deposit.Accepts [.int 5, .int 7] [.float (.ofInt 5), .int 7] ∧
      ∃ statement, Accounts.registry.entry? ⟨"accounts", "deposit"⟩ =
          some ⟨Accounts.deposit, some statement⟩ ∧
        ∀ database, Accounts.registry.invoke database ⟨"accounts", "deposit"⟩
            [.int 5, .text "7"] =
          .failure (.binding ⟨"accounts", "deposit"⟩ (.argument "id" .int (some .text))) := by
  obtain ⟨-, -, hrejects, hrun⟩ := checkArguments_exact Accounts.deposit [.int 5, .text "7"]
  obtain ⟨-, haccepts, -⟩ := checkArguments_exact Accounts.deposit [.int 5, .int 7]
  have hfault : Accounts.deposit.checkArguments [.int 5, .text "7"] =
      .error (.argument "id" .int (some .text)) := by decide +kernel
  have hvalues : Accounts.deposit.checkArguments [.int 5, .int 7] =
      .ok [.float (.ofInt 5), .int 7] := by decide +kernel
  have hsome : (Accounts.registry.statement? ⟨"accounts", "deposit"⟩).isSome = true := by
    decide +kernel
  obtain ⟨statement, hstatement⟩ := Option.isSome_iff_exists.mp hsome
  obtain ⟨⟨held, kept⟩, hheld, hkept⟩ := Option.bind_eq_some_iff.mp hstatement
  obtain rfl : kept = some statement := hkept
  have hmethod : Accounts.registry.method? ⟨"accounts", "deposit"⟩ = some Accounts.deposit :=
    Accounts.registered.2.2.2
  obtain rfl : held = Accounts.deposit := by
    rw [Registry.method?, hheld] at hmethod
    exact Option.some.inj hmethod
  exact ⟨(hrejects _).mp hfault, (haccepts _).mp hvalues, statement, hheld, fun database =>
    (hrun _ _ statement hheld _ hfault database).1⟩

end QueryMethods

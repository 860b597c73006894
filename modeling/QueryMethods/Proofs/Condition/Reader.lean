import QueryMethods.MethodName.Basic
import QueryMethods.Proofs.Dialect
import QueryMethods.Template.Mask

/-!
# Reading boolean expressions

A reference reader for the conditions of a statement. The text is cut into tokens, and the tokens
are read with the usual precedence: `AND` binds tighter than `OR`, both join from the left, and
parentheses enclose an operand. The grammar is given by itself, and whatever it derives is read.
-/

namespace QueryMethods.Sql

inductive Token where
  | word (name : String)
  | marker (text : String)
  | connector (connector : Connector)
  | is
  | null
  | equals
  | opened
  | closed
deriving DecidableEq

inductive Expr where
  | equal (field marker : String)
  | isNull (field : String)
  | join (connector : Connector) (left right : Expr)
deriving DecidableEq

/-- Beyond ASCII, every character may be part of a name. -/
def isNameChar (c : Char) : Bool :=
  isWordChar c || 128 ≤ c.toNat

def isRunChar (c : Char) : Bool :=
  isNameChar c || c == '$'

def keyword? (run : List Char) : Option Token :=
  if isKeyword "and" run then some (.connector .and)
  else if isKeyword "or" run then some (.connector .or)
  else if isKeyword "is" run then some .is
  else if isKeyword "null" run then some .null
  else none

/-- An identifier that is no keyword. -/
def isFieldName : List Char → Bool
  | [] => false
  | c :: rest => !c.isDigit && (c :: rest).all isNameChar && (keyword? (c :: rest)).isNone

/-- The token of a longest run of name characters and dollar signs. -/
def ofRun? (run : List Char) : Option Token :=
  if isFieldName run then some (.word (String.ofList run))
  else if Dialect.isNumbered run then some (.marker (String.ofList run))
  else keyword? run

def sign? : Char → Option Token
  | '?' => some (.marker "?")
  | '=' => some .equals
  | '(' => some .opened
  | ')' => some .closed
  | _ => none

/-- The tokens of a run, given from its end, and of what follows it. -/
def endRun (run : List Char) (later : Option (List Token)) : Option (List Token) :=
  if run.isEmpty then later else (ofRun? run.reverse).bind fun token => later.map (token :: ·)

def lexFrom (run : List Char) : List Char → Option (List Token)
  | [] => endRun run (some [])
  | c :: rest =>
      if isRunChar c then
        lexFrom (c :: run) rest
      else if isBlank c then
        endRun run (lexFrom [] rest)
      else
        (sign? c).bind fun sign => endRun run ((lexFrom [] rest).map (sign :: ·))

inductive Level where
  | operand
  | conjunction
  | disjunction

/-- The tokens are an expression whose outermost connector binds no weaker than the level. -/
inductive Reads : Level → List Token → Expr → Prop where
  | equal (field text : String) :
      Reads .operand [.word field, .equals, .marker text] (.equal field text)
  | isNull (field : String) :
      Reads .operand [.word field, .is, .null] (.isNull field)
  | enclosed {tokens : List Token} {expr : Expr} (hexpr : Reads .disjunction tokens expr) :
      Reads .operand (.opened :: (tokens ++ [.closed])) expr
  | factor {tokens : List Token} {expr : Expr} (hexpr : Reads .operand tokens expr) :
      Reads .conjunction tokens expr
  | and {left right : List Token} {first second : Expr} (hfirst : Reads .conjunction left first)
      (hsecond : Reads .operand right second) :
      Reads .conjunction (left ++ .connector .and :: right) (.join .and first second)
  | term {tokens : List Token} {expr : Expr} (hexpr : Reads .conjunction tokens expr) :
      Reads .disjunction tokens expr
  | or {left right : List Token} {first second : Expr} (hfirst : Reads .disjunction left first)
      (hsecond : Reads .conjunction right second) :
      Reads .disjunction (left ++ .connector .or :: right) (.join .or first second)

/-! ### The reader -/

def joined (connector : Connector) : Option Expr → Expr → Expr
  | none, expr => expr
  | some left, expr => .join connector left expr

/-- What is read of an expression before its next operand. -/
structure Frame where
  /-- The operands of `OR` so far, if any. -/
  left : Option Expr := none
  /-- The operands of `AND` since then, if any. -/
  factor : Option Expr := none

mutual

/-- Reads on from an operand; the frames are those of the expressions around this one. -/
def readOperand (frame : Frame) (around : List Frame) : List Token → Option Expr
  | .word field :: .equals :: .marker text :: rest =>
      readOperator frame.left (joined .and frame.factor (.equal field text)) around rest
  | .word field :: .is :: .null :: rest =>
      readOperator frame.left (joined .and frame.factor (.isNull field)) around rest
  | .opened :: rest => readOperand {} (frame :: around) rest
  | _ => none

/-- Reads on behind an operand, which is joined to the other operands of `AND` already. -/
def readOperator (left : Option Expr) (last : Expr) (around : List Frame) :
    List Token → Option Expr
  | [] => if around.isEmpty then some (joined .or left last) else none
  | .connector .and :: rest => readOperand ⟨left, some last⟩ around rest
  | .connector .or :: rest => readOperand ⟨some (joined .or left last), none⟩ around rest
  | .closed :: rest =>
      match around with
      | [] => none
      | frame :: around =>
          readOperator frame.left (joined .and frame.factor (joined .or left last)) around rest
  | _ => none

end

/-- The expression that a text says. -/
def read (text : String) : Option Expr :=
  (lexFrom [] text.toList).bind (readOperand {} [])

/-- The reader takes the tokens for the expression, and goes on with what follows them. -/
def Consumed : Level → List Token → Expr → Prop
  | .operand, tokens, expr => ∀ frame around rest,
      readOperand frame around (tokens ++ rest) =
        readOperator frame.left (joined .and frame.factor expr) around rest
  | .conjunction, tokens, expr => ∀ left around rest,
      readOperand ⟨left, none⟩ around (tokens ++ rest) = readOperator left expr around rest
  | .disjunction, tokens, expr => ∃ left last, joined .or left last = expr ∧
      ∀ around rest, readOperand {} around (tokens ++ rest) = readOperator left last around rest

theorem Reads.consumed {level : Level} {tokens : List Token} {expr : Expr}
    (h : Reads level tokens expr) : Consumed level tokens expr := by
  induction h with
  | equal field text => exact fun frame around rest => rfl
  | isNull field => exact fun frame around rest => rfl
  | enclosed _ ih =>
      obtain ⟨left, last, rfl, hread⟩ := ih
      intro frame around rest
      rw [List.cons_append, List.append_assoc, readOperand, hread, List.singleton_append,
        readOperator]
  | factor _ ih => exact fun left around rest => ih ⟨left, none⟩ around rest
  | and _ _ hfirst hsecond =>
      intro left around rest
      rw [List.append_assoc, List.cons_append, hfirst, readOperator, hsecond]
      rfl
  | term _ ih => exact ⟨none, _, rfl, ih none⟩
  | or _ _ hfirst hsecond =>
      obtain ⟨left, last, rfl, hread⟩ := hfirst
      refine ⟨some (joined .or left last), _, rfl, fun around rest => ?_⟩
      rw [List.append_assoc, List.cons_append, hread, readOperator, hsecond]

def Disjoined : Option Expr → List Token → Prop
  | none, tokens => tokens = []
  | some left, tokens => ∃ front, tokens = front ++ [.connector .or] ∧ Reads .disjunction front left

def Conjoined : Option Expr → List Token → Prop
  | none, tokens => tokens = []
  | some factor, tokens =>
      ∃ front, tokens = front ++ [.connector .and] ∧ Reads .conjunction front factor

/-- The tokens that the frames around an expression have taken in. -/
inductive Around : List Frame → List Token → Prop where
  | nil : Around [] []
  | cons {around : List Frame} {frame : Frame} {outer front back : List Token}
      (houter : Around around outer) (hfront : Disjoined frame.left front)
      (hback : Conjoined frame.factor back) :
      Around (frame :: around) (outer ++ (front ++ (back ++ [.opened])))

theorem reads_joined_and {factor : Option Expr} {back tokens : List Token} {expr : Expr}
    (hback : Conjoined factor back) (hexpr : Reads .operand tokens expr) :
    Reads .conjunction (back ++ tokens) (joined .and factor expr) := by
  cases factor with
  | none =>
      obtain rfl : back = [] := hback
      exact .factor hexpr
  | some factor =>
      obtain ⟨front, rfl, hfront⟩ := hback
      rw [List.append_assoc]
      exact .and hfront hexpr

theorem reads_joined_or {left : Option Expr} {front tokens : List Token} {last : Expr}
    (hfront : Disjoined left front) (hlast : Reads .conjunction tokens last) :
    Reads .disjunction (front ++ tokens) (joined .or left last) := by
  cases left with
  | none =>
      obtain rfl : front = [] := hfront
      exact .term hlast
  | some left =>
      obtain ⟨begun, rfl, hbegun⟩ := hfront
      rw [List.append_assoc]
      exact .or hbegun hlast

mutual

theorem reads_of_readOperand {frame : Frame} {around : List Frame}
    {outer front back tokens : List Token} {expr : Expr}
    (h : readOperand frame around tokens = some expr) (houter : Around around outer)
    (hfront : Disjoined frame.left front) (hback : Conjoined frame.factor back) :
    Reads .disjunction (outer ++ (front ++ (back ++ tokens))) expr := by
  unfold readOperand at h
  split at h
  case h_1 field text rest =>
    have hlast := reads_joined_and hback (.equal field text)
    simpa using reads_of_readOperator h houter hfront hlast
  case h_2 field rest =>
    have hlast := reads_joined_and hback (.isNull field)
    simpa using reads_of_readOperator h houter hfront hlast
  case h_3 rest =>
    have hinner : Reads .disjunction (_ ++ ([] ++ ([] ++ rest))) expr :=
      reads_of_readOperand h (.cons houter hfront hback) rfl rfl
    simpa using hinner
  case h_4 => cases h
termination_by tokens.length

theorem reads_of_readOperator {left : Option Expr} {last : Expr} {around : List Frame}
    {outer front back tokens : List Token} {expr : Expr}
    (h : readOperator left last around tokens = some expr) (houter : Around around outer)
    (hfront : Disjoined left front) (hlast : Reads .conjunction back last) :
    Reads .disjunction (outer ++ (front ++ (back ++ tokens))) expr := by
  unfold readOperator at h
  split at h
  case h_1 =>
    cases houter with
    | nil =>
        obtain rfl := Option.some.inj h
        simpa using reads_joined_or hfront hlast
    | cons houter hfront hback => cases h
  case h_2 rest =>
    have hback : Conjoined (some last) (back ++ [.connector .and]) := ⟨back, rfl, hlast⟩
    simpa using reads_of_readOperand h houter hfront hback
  case h_3 rest =>
    have hjoined := reads_joined_or hfront hlast
    have hbefore : Disjoined (some (joined .or left last)) ((front ++ back) ++ [.connector .or]) :=
      ⟨_, rfl, hjoined⟩
    have hafter : Reads .disjunction (outer ++ (_ ++ ([] ++ rest))) expr :=
      reads_of_readOperand h houter hbefore rfl
    simpa using hafter
  case h_4 rest =>
    cases houter with
    | nil => cases h
    | cons houter hbefore hback =>
        have henclosed := reads_joined_and hback (.enclosed (reads_joined_or hfront hlast))
        simpa using reads_of_readOperator h houter hbefore henclosed
  case h_5 => cases h
termination_by tokens.length

end

/-- The reader takes for an expression what the grammar derives, so that no text says two. -/
theorem readOperand_eq_some_iff {tokens : List Token} {expr : Expr} :
    readOperand {} [] tokens = some expr ↔ Reads .disjunction tokens expr := by
  constructor
  · intro h
    have hreads : Reads .disjunction ([] ++ ([] ++ ([] ++ tokens))) expr :=
      reads_of_readOperand h .nil rfl rfl
    exact hreads
  · intro h
    obtain ⟨left, last, rfl, hread⟩ := h.consumed
    have hall := hread [] []
    rw [List.append_nil] at hall
    rw [hall]
    rfl

example : read "a = $1 OR b = $2 AND c IS NULL OR d = $3" =
    some (.join .or (.join .or (.equal "a" "$1")
      (.join .and (.equal "b" "$2") (.isNull "c"))) (.equal "d" "$3")) := by
  decide +kernel

/-- No run goes on into the text. -/
def EndsRun (text : List Char) : Prop :=
  ∀ c ∈ text.head?, isRunChar c = false

theorem endsRun_nil : EndsRun [] := by
  intro c hmem
  cases hmem

theorem endsRun_cons {c : Char} {rest : List Char} (h : isRunChar c = false) :
    EndsRun (c :: rest) := by
  intro d hmem
  rw [List.head?_cons, Option.mem_some_iff] at hmem
  exact hmem ▸ h

theorem lexFrom_append {run : List Char} (hrun : run.all isRunChar = true)
    (before rest : List Char) :
    lexFrom before (run ++ rest) = lexFrom (run.reverse ++ before) rest := by
  induction run generalizing before with
  | nil => rfl
  | cons c run ih =>
      rw [List.all_cons, Bool.and_eq_true] at hrun
      rw [List.cons_append, lexFrom, if_pos hrun.1, ih hrun.2, List.reverse_cons,
        List.append_assoc]
      rfl

theorem lexFrom_run {run : List Char} {token : Token} (hrun : run.all isRunChar = true)
    (htoken : ofRun? run = some token) {rest : List Char} (hrest : EndsRun rest) :
    lexFrom [] (run ++ rest) = (lexFrom [] rest).map (token :: ·) := by
  have hnonempty : run.reverse.isEmpty = false := by
    cases run with
    | nil => cases htoken
    | cons c run => simp
  have hend : ∀ later, endRun run.reverse later = later.map (token :: ·) := by
    intro later
    rw [endRun, hnonempty, List.reverse_reverse, htoken]
    rfl
  rw [lexFrom_append hrun, List.append_nil]
  cases rest with
  | nil => exact hend (some [])
  | cons c rest =>
      have hc : isRunChar c = false := hrest c rfl
      have hnone : ∀ later, endRun [] later = later := fun _ => rfl
      rw [lexFrom, lexFrom, hc]
      by_cases hblank : isBlank c = true
      · simp only [hblank, hend, hnone, if_true, Bool.false_eq_true, if_false]
      · cases hsign : sign? c with
        | none => simp [hblank]
        | some sign =>
            simp only [hblank, hend, hnone, Bool.false_eq_true, if_false, Option.bind_some]

theorem lexFrom_blank (rest : List Char) : lexFrom [] (' ' :: rest) = lexFrom [] rest := by
  rfl

theorem lexFrom_run_blank {run : List Char} {token : Token} (hrun : run.all isRunChar = true)
    (htoken : ofRun? run = some token) (rest : List Char) :
    lexFrom [] (run ++ ' ' :: rest) = (lexFrom [] rest).map (token :: ·) := by
  rw [lexFrom_run hrun htoken (endsRun_cons rfl), lexFrom_blank]

theorem lexFrom_sign {c : Char} {sign : Token} (hrun : isRunChar c = false)
    (hblank : isBlank c = false) (hsign : sign? c = some sign) (rest : List Char) :
    lexFrom [] (c :: rest) = (lexFrom [] rest).map (sign :: ·) := by
  rw [lexFrom, hrun, hblank, hsign]
  rfl

theorem lexFrom_field {field : String} (h : isFieldName field.toList = true) (rest : List Char) :
    lexFrom [] (field.toList ++ ' ' :: rest) = (lexFrom [] rest).map (.word field :: ·) := by
  have htoken : ofRun? field.toList = some (.word field) := by
    rw [ofRun?, if_pos h, String.ofList_toList]
  have hrun : field.toList.all isRunChar = true := by
    cases hlist : field.toList with
    | nil => rfl
    | cons c name =>
        rw [hlist] at h
        simp only [isFieldName, Bool.and_eq_true] at h
        refine List.all_eq_true.mpr fun d hmem => ?_
        rw [isRunChar, List.all_eq_true.mp h.1.2 d hmem, Bool.true_or]
  exact lexFrom_run_blank hrun htoken rest

end QueryMethods.Sql

import QueryMethods.Condition.Stack
import QueryMethods.Proofs.Condition.Slots

/-!
# Conditions fold to the left

The tree of some fields joins them strictly from the left, whatever their connectors are. Built on a
stack, it is always the tree on top, and the comparisons of the fields to come are below it: no
connector finds fewer than two trees, and the last one leaves a single tree.
-/

namespace QueryMethods.Condition

/-- The tree joins the comparisons of the fields strictly from the left. -/
inductive FoldsLeft : List String → List Connector → Condition → Prop where
  | first (field : String) : FoldsLeft [field] [] (.equal field 0)
  | join {fields : List String} {connectors : List Connector} {left : Condition}
      (connector : Connector) (field : String) (h : FoldsLeft fields connectors left) :
      FoldsLeft (fields ++ [field]) (connectors ++ [connector])
        (.join connector left (.equal field fields.length))

variable {fields : List String} {connectors : List Connector} {tree other : Condition}

namespace FoldsLeft

theorem length_eq (h : FoldsLeft fields connectors tree) :
    fields.length = connectors.length + 1 := by
  induction h with
  | first field => rfl
  | join connector field _ ih => simp [ih]

theorem unique (h : FoldsLeft fields connectors tree) (hother : FoldsLeft fields connectors other) :
    tree = other := by
  induction h generalizing other with
  | first field =>
      generalize hfields : [field] = fields at hother
      generalize hconnectors : ([] : List Connector) = connectors at hother
      cases hother with
      | first again => rw [(List.cons.inj hfields).1]
      | join connector again _ => simp at hconnectors
  | @join fields connectors left connector field _ ih =>
      generalize hfields : fields ++ [field] = all at hother
      generalize hconnectors : connectors ++ [connector] = between at hother
      cases hother with
      | first again => simp at hconnectors
      | @join others betweens rest last again hrest =>
          obtain ⟨rfl, hfield⟩ := List.append_inj' hfields rfl
          obtain ⟨rfl, hconnector⟩ := List.append_inj' hconnectors rfl
          rw [ih hrest, (List.cons.inj hfield).1, (List.cons.inj hconnector).1]

theorem extend (h : FoldsLeft fields connectors tree) (rest : List (Connector × String)) :
    FoldsLeft (fields ++ rest.map (·.2)) (connectors ++ rest.map (·.1))
      (tree.extend fields.length rest) := by
  induction rest generalizing fields connectors tree with
  | nil => simpa [Condition.extend] using h
  | cons head rest ih =>
      obtain ⟨connector, field⟩ := head
      have hrest := ih (h.join connector field)
      simpa [Condition.extend] using hrest

end FoldsLeft

/-- Of all trees, the one that is built folds to the left. -/
theorem build?_eq_some_iff :
    build? fields connectors = some tree ↔ FoldsLeft fields connectors tree := by
  have hsound : ∀ other, build? fields connectors = some other →
      FoldsLeft fields connectors other := by
    intro other h
    cases fields with
    | nil => cases h
    | cons field rest =>
        simp only [build?] at h
        split at h
        case isFalse => cases h
        case isTrue hlength =>
          have hfold := (FoldsLeft.first field).extend (connectors.zip rest)
          rw [List.map_snd_zip (Nat.le_of_eq hlength), List.map_fst_zip (Nat.le_of_eq hlength.symm)]
            at hfold
          exact Option.some.inj h ▸ hfold
  refine ⟨hsound tree, fun h => ?_⟩
  obtain ⟨other, hother⟩ := exists_build? h.length_eq
  rw [hother, (hsound other hother).unique h]

namespace Stack

variable {read unread : List String} {joined : List Connector} {stack : Stack}

/-- The tree of the fields read so far is on top of the comparisons of the others. -/
def Holds (read : List String) (joined : List Connector) (unread : List String) (stack : Stack) :
    Prop :=
  ∃ tree, FoldsLeft read joined tree ∧ stack = (ofFields read.length unread).push tree

theorem holds_ofFields (field : String) (rest : List String) :
    Holds [field] [] rest (ofFields 0 (field :: rest)) :=
  ⟨.equal field 0, .first field, rfl⟩

/-- As long as a field is unread, two trees can be taken off. -/
theorem Holds.pop? {field : String} (h : stack.Holds read joined (field :: unread)) :
    ∃ left, FoldsLeft read joined left ∧
      stack.pop? = some (left, ofFields read.length (field :: unread)) ∧
      (ofFields read.length (field :: unread)).pop? =
        some (.equal field read.length, ofFields (read.length + 1) unread) := by
  obtain ⟨left, hleft, rfl⟩ := h
  exact ⟨left, hleft, rfl, rfl⟩

theorem Holds.join? {field : String} (h : stack.Holds read joined (field :: unread))
    (connector : Connector) :
    ∃ next, stack.join? connector = some next ∧
      next.Holds (read ++ [field]) (joined ++ [connector]) unread := by
  obtain ⟨left, hleft, hfirst, hsecond⟩ := h.pop?
  refine ⟨_, join?_of_pop? hfirst hsecond connector,
    .join connector left (.equal field read.length), hleft.join connector field, ?_⟩
  rw [List.length_append, List.length_singleton]

theorem Holds.joinAll? (h : stack.Holds read joined unread) {rest : List Connector}
    (hcount : rest.length ≤ unread.length) :
    ∃ next, stack.joinAll? rest = some next ∧
      next.Holds (read ++ unread.take rest.length) (joined ++ rest) (unread.drop rest.length) := by
  -- One connector reads one field, and `Holds` is what is left for the next one.
  induction rest generalizing read joined unread stack with
  | nil => exact ⟨stack, rfl, by simpa using h⟩
  | cons connector rest ih =>
      cases unread with
      | nil => cases hcount
      | cons field unread =>
          obtain ⟨middle, hmiddle, hheld⟩ := h.join? connector
          obtain ⟨next, hnext, hlast⟩ := ih hheld (Nat.le_of_succ_le_succ hcount)
          refine ⟨next, by rw [Stack.joinAll?, hmiddle, Option.bind_some, hnext], ?_⟩
          simpa using hlast

/-- Before every connector, the stack holds the tree of the fields up to there and all others. -/
theorem exists_holds (h : fields.length = connectors.length + 1) {before after : List Connector}
    (hsplit : connectors = before ++ after) :
    ∃ stack, (ofFields 0 fields).joinAll? before = some stack ∧
      stack.Holds (fields.take (before.length + 1)) before (fields.drop (before.length + 1)) := by
  cases fields with
  | nil => cases h
  | cons field rest =>
      have hcount : before.length ≤ rest.length := by
        have hlength : rest.length = connectors.length := Nat.succ.inj h
        rw [hlength, hsplit, List.length_append]
        exact Nat.le_add_right _ _
      exact (holds_ofFields field rest).joinAll? hcount

end Stack

/-- What a tree says, and what happens on the stack on which it is built. -/
structure BuiltFrom (fields : List String) (connectors : List Connector) (tree : Condition) :
    Prop where
  folds : FoldsLeft fields connectors tree
  /-- From left to right, field `i` is compared with parameter `i`. -/
  leaves_eq : tree.leaves = fields.zipIdx
  nodup : tree.leaves.Nodup
  comparisons_eq : tree.comparisons = fields.length
  /-- Every connector finds the tree of the fields before it, and below it the next comparison. -/
  popped : ∀ before connector after, connectors = before ++ connector :: after →
    ∃ stack left middle field rest, (Stack.ofFields 0 fields).joinAll? before = some stack ∧
      stack.pop? = some (left, middle) ∧
      middle.pop? = some (.equal field (before.length + 1), rest) ∧
      FoldsLeft (fields.take (before.length + 1)) before left ∧
      fields[before.length + 1]? = some field
  /-- In the end, there is no other tree. -/
  joined : (Stack.ofFields 0 fields).joinAll? connectors = some [tree]

theorem FoldsLeft.joinAll?_eq (h : FoldsLeft fields connectors tree) :
    (Stack.ofFields 0 fields).joinAll? connectors = some [tree] := by
  obtain ⟨stack, hstack, root, hroot, rfl⟩ :=
    Stack.exists_holds h.length_eq (List.append_nil connectors).symm
  have hread : fields.length ≤ connectors.length + 1 := Nat.le_of_eq h.length_eq
  rw [List.take_of_length_le hread] at hroot
  rw [hstack, List.drop_of_length_le hread, hroot.unique h]
  rfl

theorem FoldsLeft.builtFrom (h : FoldsLeft fields connectors tree) :
    BuiltFrom fields connectors tree := by
  have hleaves : tree.leaves = fields.zipIdx := leaves_of_build? (build?_eq_some_iff.mpr h)
  constructor
  case folds => exact h
  case leaves_eq => exact hleaves
  case nodup =>
    have hparams : (tree.leaves.map (·.2)).Nodup := by
      rw [hleaves, List.zipIdx_map_snd]
      exact List.nodup_range'
    exact List.Pairwise.of_map (·.2) (fun _ _ => mt (congrArg Prod.snd)) hparams
  case comparisons_eq => rw [← length_leaves, hleaves, List.length_zipIdx]
  case popped =>
    intro before connector after hsplit
    obtain ⟨stack, hstack, hholds⟩ := Stack.exists_holds h.length_eq hsplit
    have hunread : before.length + 1 < fields.length := by
      rw [h.length_eq, hsplit, List.length_append, List.length_cons]
      omega
    rw [List.drop_eq_getElem_cons hunread] at hholds
    obtain ⟨left, hleft, hfirst, hsecond⟩ := hholds.pop?
    rw [List.length_take_of_le (Nat.le_of_lt hunread)] at hfirst hsecond
    exact ⟨stack, left, _, _, _, hstack, hfirst, hsecond, hleft,
      List.getElem?_eq_getElem hunread⟩
  case joined => exact h.joinAll?_eq

/-- **Trees fold to the left.** There is a tree exactly for one more field than connectors. It joins
the comparisons strictly from the left, and building it on a stack gives the same tree, where no
connector lacks an operand. -/
theorem build?_folds_left (fields : List String) (connectors : List Connector) :
    ((∃ tree, build? fields connectors = some tree) ↔ fields.length = connectors.length + 1) ∧
      buildOnStack? fields connectors = build? fields connectors ∧
      ∀ tree, build? fields connectors = some tree ↔ BuiltFrom fields connectors tree := by
  refine ⟨⟨?_, exists_build?⟩, ?_, fun tree => ?_⟩
  · rintro ⟨tree, htree⟩
    exact (build?_eq_some_iff.mp htree).length_eq
  · unfold buildOnStack?
    by_cases hlength : fields.length = connectors.length + 1
    · obtain ⟨tree, htree⟩ := exists_build? hlength
      rw [if_pos hlength, (build?_eq_some_iff.mp htree).joinAll?_eq, htree]
      rfl
    · rw [if_neg hlength]
      cases htree : build? fields connectors with
      | none => rfl
      | some tree => exact absurd (build?_eq_some_iff.mp htree).length_eq hlength
  · rw [build?_eq_some_iff]
    exact ⟨FoldsLeft.builtFrom, BuiltFrom.folds⟩

example : build? ["a", "b", "c"] [.or, .and] =
    some (.join .and (.join .or (.equal "a" 0) (.equal "b" 1)) (.equal "c" 2)) := by
  decide

end QueryMethods.Condition

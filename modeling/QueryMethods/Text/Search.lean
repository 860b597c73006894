/-! The leftmost occurrence of a pattern in a text. -/

namespace QueryMethods

/-- The text before the leftmost occurrence of `pattern` and the text after it. -/
def cutAt? (pattern : List Char) : List Char → Option (List Char × List Char)
  | [] => if pattern.isEmpty then some ([], []) else none
  | c :: rest =>
      if pattern.isPrefixOf (c :: rest) then
        some ([], (c :: rest).drop pattern.length)
      else
        (cutAt? pattern rest).map fun (before, after) => (c :: before, after)

/-- The leftmost occurrence of `pattern` gives way to `replacement`. -/
def replaceFirst (pattern replacement text : List Char) : List Char :=
  match cutAt? pattern text with
  | some (before, after) => before ++ replacement ++ after
  | none => text

/-- Whether `pattern` occurs anywhere in the text. -/
def occursIn (pattern text : List Char) : Bool :=
  (cutAt? pattern text).isSome

theorem eq_of_cutAt? {pattern text before after : List Char}
    (h : cutAt? pattern text = some (before, after)) :
    text = before ++ pattern ++ after := by
  induction text generalizing before with
  | nil =>
      simp only [cutAt?] at h
      split at h <;> simp_all
  | cons c rest ih =>
      simp only [cutAt?] at h
      split at h
      case isTrue hpre =>
        obtain ⟨suffix, hsuffix⟩ := List.isPrefixOf_iff_prefix.1 hpre
        simp only [Option.some.injEq, Prod.mk.injEq] at h
        obtain ⟨rfl, rfl⟩ := h
        simp [← hsuffix]
      case isFalse =>
        obtain ⟨⟨head, tail⟩, hcut, heq⟩ := Option.map_eq_some_iff.1 h
        simp only [Prod.mk.injEq] at heq
        obtain ⟨rfl, rfl⟩ := heq
        simp [ih hcut]

end QueryMethods

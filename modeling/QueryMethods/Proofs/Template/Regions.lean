import QueryMethods.Proofs.Checked
import QueryMethods.Template.Piece
import QueryMethods.Text.Utf8

/-!
# Comments and names as a whole

The scanner goes through comments and through the names of placeholders character by character. Seen
as a whole, a comment is hidden up to the mark that ends it, and a name goes up to the next closing
brace.
-/

namespace QueryMethods

/-- A pattern of one character is found at the first place of the character. -/
theorem cutAt?_singleton (d : Char) (text : List Char) :
    cutAt? [d] text = match text.dropWhile (· != d) with
      | [] => none
      | _ :: after => some (text.takeWhile (· != d), after) := by
  induction text with
  | nil => rfl
  | cons c text ih =>
      by_cases hc : c = d
      · simp [cutAt?, hc]
      · have hne : (d == c) = false := beq_false_of_ne (Ne.symm hc)
        rw [cutAt?, ih]
        simp only [List.isPrefixOf, hne, Bool.false_and, Bool.false_eq_true, if_false, bne_iff_ne,
          ne_eq, hc, not_false_eq_true, List.dropWhile_cons_of_pos, List.takeWhile_cons_of_pos]
        cases text.dropWhile (· != d) <;> rfl

section

variable {c : Char} {rest : List Char} (offset : Nat)

attribute [local simp] scan in
theorem scan_code_open (h : opensPlaceholder ('{' :: rest) = true) :
    scan .code offset ('{' :: rest) = scan (.name offset .bare []) (offset + 1) rest := by
  have hnext : ∀ after, rest ≠ '{' :: after := by
    rintro after rfl
    cases h
  cases rest with
  | nil => simp
  | cons d rest =>
      have hd : d ≠ '{' := fun hd => hnext rest (by rw [hd])
      simp [hd]

theorem scan_code_plain (hquote : isQuote c = false) (hopen : c ≠ '{')
    (hclose : c = '}' → rest.head? ≠ some '}') (hline : c = '-' → rest.head? ≠ some '-')
    (hblock : c = '/' → rest.head? ≠ some '*') :
    scan .code offset (c :: rest) =
      (scan .code (offset + c.utf8Size) rest).map (.code c :: ·) := by
  generalize hlater : scan .code (offset + c.utf8Size) rest = later
  cases rest with
  | nil =>
      rw [scan, if_neg hopen, if_neg (by simp [hquote]), hlater]
      all_goals exact fun _ _ h => nomatch h
  | cons d rest =>
      rw [scan, if_neg hopen, if_neg (by simp [hquote]), hlater]
      · exact fun _ hc _ => hopen hc
      · exact fun _ hc heq => hclose hc (by rw [(List.cons.inj heq).1]; rfl)
      · exact fun _ hc heq => hline hc (by rw [(List.cons.inj heq).1]; rfl)
      · exact fun _ hc heq => hblock hc (by rw [(List.cons.inj heq).1]; rfl)

theorem scan_code_quote (hquote : isQuote c = true) :
    scan .code offset (c :: rest) =
      if opensPlaceholder rest then scan (.name (offset + 1) (.opened c) []) (offset + 2) rest.tail
      else (scan (.literal c) (offset + 1) rest).map (.code c :: ·) := by
  have hne : ∀ d : Char, isQuote d = false → c ≠ d := by
    rintro d hd rfl
    rw [hquote] at hd
    cases hd
  generalize hname : scan (.name (offset + 1) (.opened c) []) (offset + 2) rest.tail = named
  generalize hlater : scan (.literal c) (offset + 1) rest = later
  cases rest with
  | nil =>
      rw [scan] at hlater
      · rw [scan, if_neg (hne '{' rfl), if_pos hquote, ← hlater]
        · rfl
        all_goals exact fun _ _ h => nomatch h
      · exact nofun
  | cons d rest =>
      rw [List.tail_cons] at hname
      rw [scan, if_neg (hne '{' rfl), if_pos hquote, hname, hlater]
      · exact fun _ h _ => hne '{' rfl h
      · exact fun _ h _ => hne '}' rfl h
      · exact fun _ h _ => hne '-' rfl h
      · exact fun _ h _ => hne '/' rfl h

theorem scan_literal_open (quote : Char) (h : opensPlaceholder ('{' :: rest) = true) :
    scan (.literal quote) offset ('{' :: rest) =
      scan (.name offset .embedded []) (offset + 1) rest := by
  have hnext : ∀ after, rest ≠ '{' :: after := by
    rintro after rfl
    cases h
  generalize hname : scan (.name offset .embedded []) (offset + 1) rest = named
  rw [scan, if_pos rfl, hname]
  · exact fun after _ heq => hnext after heq
  · exact fun _ h => nomatch h

theorem scan_literal_plain (quote : Char) (hopen : c ≠ '{')
    (hclose : c = '}' → rest.head? ≠ some '}') :
    scan (.literal quote) offset (c :: rest) =
      (scan (if c = quote then .code else .literal quote) (offset + c.utf8Size) rest).map
        (literalPiece quote c :: ·) := by
  generalize hlater : scan (if c = quote then .code else .literal quote) (offset + c.utf8Size)
    rest = later
  rw [scan, if_neg hopen, hlater]
  · exact fun _ hc _ => hopen hc
  · exact fun _ hc heq => hclose hc (by rw [heq]; rfl)

end

def hiddenPieces (text : List Char) : List Piece :=
  text.map .hidden

theorem source_hiddenPieces (text : List Char) :
    (hiddenPieces text).flatMap Piece.source = text := by
  induction text with
  | nil => rfl
  | cons c text ih => exact congrArg (c :: ·) ih

theorem scan_lineComment (offset : Nat) (text : List Char) :
    scan .lineComment offset text =
      (scan .code (offset + byteLength (text.takeWhile (· != '\n')))
        (text.dropWhile (· != '\n'))).map (hiddenPieces (text.takeWhile (· != '\n')) ++ ·) := by
  induction text generalizing offset with
  | nil => rfl
  | cons c text ih =>
      by_cases hc : c = '\n'
      · subst hc
        have hcode : scan .code offset ('\n' :: text) =
            (scan .code (offset + 1) text).map (.code '\n' :: ·) :=
          scan_code_plain offset rfl (by decide) nofun nofun nofun
        rw [scan, if_pos rfl, ← hcode]
        show _ = (scan .code (offset + 0) ('\n' :: text)).map ([] ++ ·)
        cases scan .code offset ('\n' :: text) <;> rfl
      · simp only [List.takeWhile_cons, List.dropWhile_cons, bne_iff_ne, ne_eq, hc,
          not_false_eq_true, if_true]
        rw [scan, if_neg hc, ih, Except.map_map_ok, byteLength_cons, Nat.add_assoc]
        rfl

theorem scan_blockComment (offset : Nat) (text : List Char) :
    scan .blockComment offset text = match cutAt? ['*', '/'] text with
      | none => .ok (hiddenPieces text)
      | some (inside, after) => (scan .code (offset + byteLength inside + 2) after).map
          (hiddenPieces (inside ++ ['*', '/']) ++ ·) := by
  induction text generalizing offset with
  | nil => rfl
  | cons c text ih =>
      by_cases hend : ['*', '/'].isPrefixOf (c :: text)
      · obtain ⟨after, hafter⟩ := List.isPrefixOf_iff_prefix.mp hend
        obtain ⟨rfl, rfl⟩ := List.cons.inj hafter
        rw [cutAt?, if_pos hend]
        rfl
      · have hnext : ∀ after, c = '*' → text = '/' :: after → False := by
          rintro after rfl rfl
          exact hend rfl
        rw [cutAt?, if_neg hend, scan, ih]
        · cases cutAt? ['*', '/'] text with
          | none => rfl
          | some cut =>
              simp only [Option.map_some, Except.map_map_ok, byteLength_cons, Nat.add_assoc]
              rfl
        · exact hnext

theorem scan_code_lineComment (offset : Nat) (rest : List Char) :
    scan .code offset ('-' :: '-' :: rest) =
      (scan .code (offset + byteLength ('-' :: '-' :: rest.takeWhile (· != '\n')))
        (rest.dropWhile (· != '\n'))).map
          (hiddenPieces ('-' :: '-' :: rest.takeWhile (· != '\n')) ++ ·) := by
  have hplace : offset + byteLength ('-' :: '-' :: rest.takeWhile (· != '\n')) =
      offset + 2 + byteLength (rest.takeWhile (· != '\n')) := by
    have hsize : '-'.utf8Size = 1 := rfl
    rw [byteLength_cons, byteLength_cons, hsize]
    omega
  rw [scan, scan_lineComment, hplace, Except.map_map_ok]
  rfl

theorem scan_code_blockComment (offset : Nat) (rest : List Char) :
    scan .code offset ('/' :: '*' :: rest) = match cutAt? ['*', '/'] rest with
      | none => .ok (hiddenPieces ('/' :: '*' :: rest))
      | some (inside, after) =>
          (scan .code (offset + byteLength ('/' :: '*' :: (inside ++ ['*', '/']))) after).map
            (hiddenPieces ('/' :: '*' :: (inside ++ ['*', '/'])) ++ ·) := by
  rw [scan, scan_blockComment]
  cases cutAt? ['*', '/'] rest with
  | none => rfl
  | some cut =>
      have hplace : offset + byteLength ('/' :: '*' :: (cut.1 ++ ['*', '/'])) =
          offset + 2 + byteLength cut.1 + 2 := by
        have hslash : '/'.utf8Size = 1 := rfl
        have hstar : '*'.utf8Size = 1 := rfl
        simp only [byteLength_cons, byteLength_append, byteLength_nil, hslash, hstar]
        omega
      simp only [Except.map_map_ok, hplace]
      rfl

/-- What follows the name of a placeholder, from its closing brace on. -/
def scanClosed (enclosure : Enclosure) (name : String) (offset : Nat) (after : List Char) :
    Except TemplateFault (List Piece) :=
  match enclosure, after with
  | .bare, after => (scan .code (offset + 1) after).map (.placeholder name none :: ·)
  | .opened quote, close :: after =>
      if close = quote then
        (scan .code (offset + 2) after).map (.placeholder name (some quote) :: ·)
      else
        .error (.insideLiteral name)
  | _, _ => .error (.insideLiteral name)

theorem scan_name (start offset : Nat) (enclosure : Enclosure) (reversed text : List Char) :
    scan (.name start enclosure reversed) offset text = match cutAt? ['}'] text with
      | none => .error (.unterminated start)
      | some (name, after) =>
          if isIdentifier (reversed.reverse ++ name) then
            scanClosed enclosure (String.ofList (reversed.reverse ++ name))
              (offset + byteLength name) after
          else
            .error (.invalidName (String.ofList (reversed.reverse ++ name))) := by
  induction text generalizing offset reversed with
  | nil => rfl
  | cons c text ih =>
      by_cases hc : c = '}'
      · subst hc
        have hcut : cutAt? ['}'] ('}' :: text) = some ([], text) := rfl
        rw [hcut]
        simp only [scan, if_true, List.append_nil, byteLength_nil, Nat.add_zero]
        split
        · cases enclosure with
          | bare => rfl
          | opened quote => cases text <;> rfl
          | embedded => rfl
        · rfl
      · have hne : ('}' == c) = false := beq_false_of_ne (Ne.symm hc)
        have hnot : ¬ ['}'].isPrefixOf (c :: text) = true := by simp [List.isPrefixOf, hne]
        rw [cutAt?, if_neg hnot, scan, if_neg hc, ih]
        cases cutAt? ['}'] text with
        | none => rfl
        | some cut => simp [Nat.add_assoc]

theorem scan_name_nil (start offset : Nat) (enclosure : Enclosure) (text : List Char) :
    scan (.name start enclosure []) offset text = match cutAt? ['}'] text with
      | none => .error (.unterminated start)
      | some (name, after) =>
          if isIdentifier name then
            scanClosed enclosure (String.ofList name) (offset + byteLength name) after
          else
            .error (.invalidName (String.ofList name)) :=
  scan_name start offset enclosure [] text

end QueryMethods

import QueryMethods.Proofs.Template.Bytes.Scanner

/-!
# Placeholders and comments, read from bytes

The scanner of bytes goes over a placeholder or a comment as a whole. A placeholder that fills a
literal takes two steps: the first one opens the literal, and the second one finds the placeholder
wrapped in the quote that is open.
-/

namespace QueryMethods.Bytes.Scanner

section

variable {text before name after rest : List Char} {c quote : Char} {quote? : Option Char}
  {scanner : Scanner} {found : Scan}

theorem isQuote_of_mem_none : ∀ quote ∈ (none : Option Char), isQuote quote = true := by
  rintro _ ⟨⟩

theorem byteLength_append_singleton (before : List Char) (hc : c.utf8Size = 1) :
    byteLength (before ++ [c]) = byteLength before + 1 := by
  rw [byteLength_append, byteLength_cons, hc, byteLength_nil]

/-- Whether a placeholder is wrapped is decided by the characters next to it. -/
theorem wrapped?_eq (hquote : isQuote quote = true) :
    wrapped? (utf8 (before ++ ('{' :: (name ++ '}' :: after)))) (byteLength before)
        (byteLength before + 1 + byteLength name) quote.toUInt8 =
      some (before.getLast? == some quote && after.head? == some quote) := by
  have hval := val_le_of_isQuote hquote
  have hnext : (utf8 (before ++ ('{' :: (name ++ '}' :: after))))[byteLength before + 1 +
      byteLength name + 1]? = (utf8 after).head? := by
    have hcut := getElem?_utf8_append (before ++ ('{' :: (name ++ ['}']))) after 0
    have hplace : byteLength (before ++ ('{' :: (name ++ ['}']))) =
        byteLength before + 1 + byteLength name + 1 := by
      have hopen : '{'.utf8Size = 1 := rfl
      have hclose : '}'.utf8Size = 1 := rfl
      simp only [byteLength_append, byteLength_cons, byteLength_nil, hopen, hclose]
      omega
    rw [hplace] at hcut
    simpa [List.head?_eq_getElem?] using hcut
  by_cases hzero : byteLength before = 0
  · obtain rfl := eq_nil_of_byteLength_eq_zero hzero
    rfl
  · have hlast : (utf8 (before ++ ('{' :: (name ++ '}' :: after))))[byteLength before - 1]? =
        (utf8 before).getLast? := by
      rw [utf8_append, List.getElem?_append_left (by rw [length_utf8]; omega), ← length_utf8,
        List.getLast?_eq_getElem?]
    obtain ⟨b, hb⟩ : ∃ b, (utf8 before).getLast? = some b := by
      refine Option.isSome_iff_exists.mp (List.getLast?_isSome.mpr fun hnil => hzero ?_)
      rw [← length_utf8, hnil, List.length_nil]
    have hbefore := getLast?_utf8_eq_byte_iff hval before
    have hafter := head?_utf8_eq_byte_iff hval after
    rw [hb, Option.some.injEq] at hbefore
    rw [wrapped?, if_neg hzero, hlast, hb, hnext]
    simp only [Option.bind_eq_bind, Option.bind_some, Option.some.injEq]
    rw [Bool.eq_iff_iff]
    simp only [Bool.and_eq_true, beq_iff_eq, hbefore, hafter]

theorem placeholder?_of_unterminated (htext : text = before ++ '{' :: after)
    (hplace : scanner.place = byteLength before) (hcut : cutAt? ['}'] after = none) :
    scanner.placeholder? text = some (.error (.unterminated (byteLength before))) := by
  have hafter : textFrom? text (byteLength before + 1) = some after := by
    have hfrom := textFrom?_append (before ++ ['{']) after
    rw [byteLength_append_singleton before rfl] at hfrom
    simpa [htext] using hfrom
  rw [placeholder?, hplace, hafter]
  simp [placeOf?, hcut]

theorem placeholder?_of_closed (quote? : Option Char)
    (htext : text = before ++ '{' :: (name ++ '}' :: after))
    (hplace : scanner.place = byteLength before)
    (hopen : scanner.quote = quote?.map Char.toUInt8)
    (hquote : ∀ quote ∈ quote?, isQuote quote = true)
    (hcut : cutAt? ['}'] (name ++ '}' :: after) = some (name, after)) :
    scanner.placeholder? text =
      if isIdentifier name then
        match quote? with
        | none => (scanner.note? (String.ofList name) (byteLength before)
            (byteLength before + byteLength name + 2)).map .ok
        | some quote =>
            if before.getLast? = some quote ∧ after.head? = some quote then
              (scanner.note? (String.ofList name) (byteLength before - 1)
                (byteLength before + byteLength name + 3)).map .ok
            else
              some (.error (.insideLiteral (String.ofList name)))
      else
        some (.error (.invalidName (String.ofList name))) := by
  have hstart := byteLength_append_singleton before (show '{'.utf8Size = 1 from rfl)
  have hafter : textFrom? text (byteLength before + 1) = some (name ++ '}' :: after) := by
    have hfrom := textFrom?_append (before ++ ['{']) (name ++ '}' :: after)
    rw [hstart] at hfrom
    simpa [htext] using hfrom
  have hname : textBetween? text (byteLength before + 1)
      (byteLength before + 1 + byteLength name) = some name := by
    have hbetween := textBetween?_append (before ++ ['{']) name ('}' :: after)
    rw [hstart] at hbetween
    simpa [htext] using hbetween
  have hclose : placeOf? ['}'] (name ++ '}' :: after) = some (byteLength name) := by
    rw [placeOf?, hcut]
    rfl
  rw [placeholder?, hplace, hopen, hafter]
  simp only [Option.bind_eq_bind, Option.bind_some, hclose, hname]
  split
  · cases quote? with
    | none =>
        have hstop : byteLength before + 1 + byteLength name + 1 =
            byteLength before + byteLength name + 2 := by omega
        simp [hstop]
    | some quote =>
        have hstop : byteLength before + 1 + byteLength name + 2 =
            byteLength before + byteLength name + 3 := by omega
        simp only [Option.map_some, htext, wrapped?_eq (hquote quote rfl), Option.bind_some, hstop,
          Bool.and_eq_true, beq_iff_eq]
  · rfl

/-- A placeholder is noted with the bytes that it takes in the template. -/
theorem note?_eq (place : Nat) (open? : Option UInt8) (found : Scan) (name rest : List Char)
    (quote? : Option Char) {start : Nat} (hmasked : found.masked.length = start) :
    note? ⟨place, open?,
        found.extend ((Piece.placeholder (String.ofList name) quote?).source ++ rest)⟩
        (String.ofList name) start
        (start + (Piece.placeholder (String.ofList name) quote?).width) =
      some ⟨start + (Piece.placeholder (String.ofList name) quote?).width, none,
        (found.addAll start [.placeholder (String.ofList name) quote?]).extend rest⟩ := by
  have hblank := blank?_append hmasked
    (utf8 (Piece.placeholder (String.ofList name) quote?).source) (utf8 rest)
  rw [length_utf8, ← utf8_append] at hblank
  rw [note?, Scan.extend, Piece.width, hblank]
  simp [Scan.extend, Scan.addAll, Scan.add, occurrence?, escape?, Piece.shown, Piece.width]

theorem step?_of_quote (found : Scan) (htext : text = before ++ c :: rest) (hc : isQuote c = true) :
    step? text ⟨byteLength before, none, found⟩ =
      some (.ok ⟨byteLength before + 1, some c.toUInt8, found⟩) := by
  obtain ⟨b, hb, -, hfirst, hof⟩ := exists_byte none htext isQuote_of_mem_none
  have hcases : c = '\'' ∨ c = '"' := by simpa [isQuote] using hc
  obtain rfl : b = c.toUInt8 := by
    rw [utf8_cons, utf8EncodeChar_ascii (val_le_of_isQuote hc)] at hb
    exact (Option.some.inj hb).symm
  have hmove : Move.ofChar c rest.head? none = .quote := by
    rcases hcases with rfl | rfl <;> simp [Move.ofChar]
  rw [Option.map_none] at hof
  simp [step?, hfirst, hof, hmove]

theorem step?_of_open (quote? : Option Char) (found : Scan)
    (htext : text = before ++ '{' :: rest)
    (hrest : opensPlaceholder ('{' :: rest) = true)
    (hquote : ∀ quote ∈ quote?, isQuote quote = true) :
    step? text ⟨byteLength before, quote?.map Char.toUInt8, found⟩ =
      placeholder? text ⟨byteLength before, quote?.map Char.toUInt8, found⟩ := by
  obtain ⟨b, -, -, hfirst, hof⟩ := exists_byte quote? htext hquote
  have hmove : Move.ofChar '{' rest.head? quote? = .placeholder := by
    have hnext : rest.head? ≠ some '{' := by
      intro hhead
      obtain ⟨after, rfl⟩ := List.head?_eq_some_iff.mp hhead
      cases hrest
    simp [Move.ofChar, hnext]
  simp [step?, hfirst, hof, hmove]

theorem width_placeholder (name : List Char) (quote? : Option Char)
    (hquote : ∀ quote ∈ quote?, isQuote quote = true) :
    (Piece.placeholder (String.ofList name) quote?).width =
      byteLength name + 2 + 2 * quote?.toList.length := by
  have hopen : '{'.utf8Size = 1 := rfl
  have hclose : '}'.utf8Size = 1 := rfl
  cases quote? with
  | none =>
      simp only [Piece.width, Piece.source, String.toList_ofList, List.cons_append,
        byteLength_append, byteLength_cons, byteLength_nil, hopen, hclose, Option.toList_none,
        List.length_nil]
      omega
  | some quote =>
      have hsize := utf8Size_of_isQuote (hquote quote rfl)
      simp only [Piece.width, Piece.source, String.toList_ofList, List.cons_append,
        byteLength_append, byteLength_cons, byteLength_nil, hopen, hclose, hsize,
        Option.toList_some, List.length_singleton]
      omega

theorem scan_bare (offset : Nat) (hopen : opensPlaceholder ('{' :: (name ++ '}' :: rest)) = true)
    (hcut : cutAt? ['}'] (name ++ '}' :: rest) = some (name, rest))
    (hname : isIdentifier name = true) :
    scan .code offset ('{' :: (name ++ '}' :: rest)) =
      (scan .code (offset + (Piece.placeholder (String.ofList name) none).width) rest).map
        (.placeholder (String.ofList name) none :: ·) := by
  have hplace : offset + 1 + byteLength name + 1 =
      offset + (Piece.placeholder (String.ofList name) none).width := by
    rw [width_placeholder name none isQuote_of_mem_none]
    simp only [Option.toList_none, List.length_nil]
    omega
  rw [scan_code_open _ hopen, scan_name_nil, hcut]
  simp only [hname, if_true, scanClosed, hplace]

theorem scan_filled (offset : Nat) (hquote : isQuote quote = true)
    (hopen : opensPlaceholder ('{' :: (name ++ '}' :: quote :: rest)) = true)
    (hcut : cutAt? ['}'] (name ++ '}' :: quote :: rest) = some (name, quote :: rest))
    (hname : isIdentifier name = true) :
    scan .code offset (quote :: '{' :: (name ++ '}' :: quote :: rest)) =
      (scan .code (offset + (Piece.placeholder (String.ofList name) (some quote)).width) rest).map
        (.placeholder (String.ofList name) (some quote) :: ·) := by
  have hwidth := width_placeholder name (some quote) (by rintro _ ⟨⟩; exact hquote)
  have hplace : offset + 2 + byteLength name + 2 =
      offset + (Piece.placeholder (String.ofList name) (some quote)).width := by
    rw [hwidth]
    simp only [Option.toList_some, List.length_singleton]
    omega
  rw [scan_code_quote _ hquote, if_pos hopen, List.tail_cons, scan_name_nil, hcut]
  simp only [hname, if_true, scanClosed, hplace]

theorem Runs.bare (htext : text = before ++ '{' :: (name ++ '}' :: rest))
    (hmasked : found.masked.length = byteLength before)
    (hopen : opensPlaceholder ('{' :: (name ++ '}' :: rest)) = true)
    (hcut : cutAt? ['}'] (name ++ '}' :: rest) = some (name, rest))
    (hname : isIdentifier name = true)
    (h : Runs text (before ++ (Piece.placeholder (String.ofList name) none).source) rest none
      (found.addAll (byteLength before) [.placeholder (String.ofList name) none])) :
    Runs text before ('{' :: (name ++ '}' :: rest)) none found := by
  have hsource : '{' :: (name ++ '}' :: rest) =
      (Piece.placeholder (String.ofList name) none).source ++ rest := by
    simp [Piece.source]
  have hwidth := width_placeholder name none isQuote_of_mem_none
  have hstop : byteLength before + byteLength name + 2 =
      byteLength before + (Piece.placeholder (String.ofList name) none).width := by
    rw [hwidth]
    simp only [Option.toList_none, List.length_nil]
    omega
  have hscan := scan_bare (byteLength before) hopen hcut hname
  have hstep := step?_of_open none (found.extend ('{' :: (name ++ '}' :: rest))) htext hopen
    isQuote_of_mem_none
  rw [placeholder?_of_closed none htext rfl rfl isQuote_of_mem_none hcut, if_pos hname] at hstep
  obtain ⟨-, -, hplace, -⟩ := exists_byte none htext isQuote_of_mem_none
  rw [hsource] at hscan hstep ⊢
  simp only [note?_eq _ _ found name rest none hmasked, Option.map_some, hstop] at hstep
  refine Runs.advance none [.placeholder (String.ofList name) none] 1 ?_
    (fun fuel => run?_of_step hplace hstep fuel) (List.flatMap_singleton ..) hscan h
  show 1 ≤ (Piece.placeholder (String.ofList name) none).width
  omega

theorem Runs.filled (htext : text = before ++ quote :: '{' :: (name ++ '}' :: quote :: rest))
    (hmasked : found.masked.length = byteLength before) (hquote : isQuote quote = true)
    (hopen : opensPlaceholder ('{' :: (name ++ '}' :: quote :: rest)) = true)
    (hcut : cutAt? ['}'] (name ++ '}' :: quote :: rest) = some (name, quote :: rest))
    (hname : isIdentifier name = true)
    (h : Runs text (before ++ (Piece.placeholder (String.ofList name) (some quote)).source) rest
      none (found.addAll (byteLength before) [.placeholder (String.ofList name) (some quote)])) :
    Runs text before (quote :: '{' :: (name ++ '}' :: quote :: rest)) none found := by
  have hsource : quote :: '{' :: (name ++ '}' :: quote :: rest) =
      (Piece.placeholder (String.ofList name) (some quote)).source ++ rest := by
    simp [Piece.source]
  have hquotes : ∀ other ∈ some quote, isQuote other = true := by
    rintro _ ⟨⟩
    exact hquote
  have hbefore := byteLength_append_singleton before (utf8Size_of_isQuote hquote)
  have hwidth := width_placeholder name (some quote) hquotes
  have hstop : byteLength before + 1 + byteLength name + 3 =
      byteLength before + (Piece.placeholder (String.ofList name) (some quote)).width := by
    rw [hwidth]
    simp only [Option.toList_some, List.length_singleton]
    omega
  have hscan := scan_filled (byteLength before) hquote hopen hcut hname
  have hinner : text = (before ++ [quote]) ++ '{' :: (name ++ '}' :: quote :: rest) := by
    simpa using htext
  -- the quote opens a literal, and the placeholder finds it open
  have hfirst := step?_of_quote
    (found.extend (quote :: '{' :: (name ++ '}' :: quote :: rest))) htext hquote
  have hsecond := step?_of_open (some quote)
    (found.extend (quote :: '{' :: (name ++ '}' :: quote :: rest))) hinner hopen hquotes
  rw [placeholder?_of_closed (some quote) hinner rfl rfl hquotes hcut, if_pos hname] at hsecond
  obtain ⟨-, -, hplace, -⟩ := exists_byte none htext isQuote_of_mem_none
  obtain ⟨-, -, hnext, -⟩ := exists_byte none hinner isQuote_of_mem_none
  rw [hbefore] at hnext
  rw [hsource] at hscan hfirst hsecond ⊢
  simp only [List.getLast?_append, List.getLast?_singleton, Option.some_or, List.head?_cons,
    and_self, if_true, hbefore, Nat.add_sub_cancel, Option.map_some, hstop,
    note?_eq _ _ found name rest (some quote) hmasked] at hsecond
  refine Runs.advance none [.placeholder (String.ofList name) (some quote)] 2 ?_ ?_
    (List.flatMap_singleton ..) hscan h
  · show 2 ≤ (Piece.placeholder (String.ofList name) (some quote)).width
    omega
  · intro fuel
    exact (run?_of_step hplace hfirst (fuel + 1)).trans (run?_of_step hnext hsecond fuel)

theorem step?_of_lineComment (found : Scan) (htext : text = before ++ '-' :: '-' :: rest) :
    step? text ⟨byteLength before, none, found⟩ =
      (skipTo? ⟨byteLength before, none, found⟩ (byteLength before +
        byteLength ('-' :: '-' :: rest.takeWhile (· != '\n')))).map .ok := by
  obtain ⟨b, -, -, hfirst, hof⟩ := exists_byte none htext isQuote_of_mem_none
  have hmove : Move.ofChar '-' ('-' :: rest).head? none = .lineComment := rfl
  have hfrom : textFrom? text (byteLength before) = some ('-' :: '-' :: rest) := by
    rw [htext, textFrom?_append]
  have hstop : ((placeOf? ['\n'] ('-' :: '-' :: rest)).map (byteLength before + ·)).getD
      (byteLength text) =
        byteLength before + byteLength ('-' :: '-' :: rest.takeWhile (· != '\n')) := by
    have htake : ('-' :: '-' :: rest).takeWhile (· != '\n') =
        '-' :: '-' :: rest.takeWhile (· != '\n') := rfl
    have hdrop : ('-' :: '-' :: rest).dropWhile (· != '\n') = rest.dropWhile (· != '\n') := rfl
    have hwhole := List.takeWhile_append_dropWhile (p := (· != '\n')) (l := rest)
    rw [placeOf?, cutAt?_singleton, htake, hdrop]
    cases hrest : rest.dropWhile (· != '\n') with
    | nil =>
        rw [hrest, List.append_nil] at hwhole
        rw [hwhole, htext, byteLength_append]
        rfl
    | cons c after => rfl
  rw [Option.map_none] at hof
  simp only [step?, hfirst, hof, hmove, hfrom, hstop, length_utf8, Option.bind_eq_bind,
    Option.bind_some]

theorem step?_of_blockComment (found : Scan) (htext : text = before ++ '/' :: '*' :: rest) :
    step? text ⟨byteLength before, none, found⟩ =
      (skipTo? ⟨byteLength before, none, found⟩ (byteLength before +
        byteLength (match cutAt? ['*', '/'] rest with
          | none => '/' :: '*' :: rest
          | some (inside, _) => '/' :: '*' :: (inside ++ ['*', '/'])))).map .ok := by
  obtain ⟨b, -, -, hfirst, hof⟩ := exists_byte none htext isQuote_of_mem_none
  have hslash : '/'.utf8Size = 1 := rfl
  have hstar : '*'.utf8Size = 1 := rfl
  have hmove : Move.ofChar '/' ('*' :: rest).head? none = .blockComment := rfl
  have hfrom : textFrom? text (byteLength before + 2) = some rest := by
    have hcut := textFrom?_append (before ++ ['/', '*']) rest
    have hplace : byteLength (before ++ ['/', '*']) = byteLength before + 2 := by
      simp [hslash, hstar]
    rw [hplace] at hcut
    simpa [htext] using hcut
  have hstop : ((placeOf? ['*', '/'] rest).map (byteLength before + 2 + · + 2)).getD
      (byteLength text) = byteLength before + byteLength (match cutAt? ['*', '/'] rest with
        | none => '/' :: '*' :: rest
        | some (inside, _) => '/' :: '*' :: (inside ++ ['*', '/'])) := by
    rw [placeOf?]
    cases cutAt? ['*', '/'] rest with
    | none =>
        rw [htext, byteLength_append]
        rfl
    | some cut =>
        simp only [Option.map_some, Option.getD_some, byteLength_cons, byteLength_append,
          byteLength_nil, hslash, hstar]
        omega
  rw [Option.map_none] at hof
  simp only [step?, hfirst, hof, hmove, hfrom, hstop, length_utf8, Option.bind_eq_bind,
    Option.bind_some]

end

end QueryMethods.Bytes.Scanner

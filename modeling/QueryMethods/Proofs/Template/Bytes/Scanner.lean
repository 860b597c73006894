import QueryMethods.Template.Bytes.Scanner
import QueryMethods.Proofs.Template.Pieces
import QueryMethods.Proofs.Template.Regions

/-!
# The scanner of bytes cuts as the template is cut

The scanner of bytes comes to an end on every template, without a look beyond the template or into a
character, and what it notes are the placeholders and doubled braces among the pieces, each at its
place.
-/

namespace QueryMethods

/-- The number of bytes that a piece has in the template. -/
def Piece.width (piece : Piece) : Nat :=
  byteLength piece.source

/-- The bytes of a piece once everything but code is blanked. -/
def Piece.shown : Piece → List UInt8
  | .code c => String.utf8EncodeChar c
  | piece => List.replicate piece.width ' '.toUInt8

theorem Piece.length_shown (piece : Piece) : piece.shown.length = piece.width := by
  cases piece <;> simp [shown, width, source]

namespace Bytes

/-- What is noted of a piece at a place. -/
def occurrence? (place : Nat) : Piece → Option Occurrence
  | .placeholder name quote => some ⟨name, place, place + (Piece.placeholder name quote).width⟩
  | _ => none

def escape? (place : Nat) : Piece → Option Nat
  | .brace _ => some place
  | _ => none

namespace Scan

def add (found : Scan) (place : Nat) (piece : Piece) : Scan where
  occurrences := found.occurrences ++ (occurrence? place piece).toList
  escapes := found.escapes ++ (escape? place piece).toList
  masked := found.masked ++ piece.shown

def addAll : Scan → Nat → List Piece → Scan
  | found, _, [] => found
  | found, place, piece :: rest => (found.add place piece).addAll (place + piece.width) rest

/-- What is found so far, with the rest of the template as it is. -/
def extend (found : Scan) (rest : List Char) : Scan :=
  { found with masked := found.masked ++ utf8 rest }

theorem addAll_append (found : Scan) (place : Nat) (before after : List Piece) :
    found.addAll place (before ++ after) =
      (found.addAll place before).addAll (place + byteLength (before.flatMap Piece.source))
        after := by
  induction before generalizing found place with
  | nil => rfl
  | cons piece before ih =>
      rw [List.cons_append, addAll, ih, addAll, List.flatMap_cons, byteLength_append, Piece.width,
        Nat.add_assoc]

theorem addAll_hidden (found : Scan) (place : Nat) (text : List Char) :
    found.addAll place (hiddenPieces text) =
      { found with
        masked := found.masked ++ List.replicate (byteLength text) ' '.toUInt8 } := by
  induction text generalizing found place with
  | nil => simp [hiddenPieces, addAll]
  | cons c text ih =>
      rw [hiddenPieces, List.map_cons, addAll, ← hiddenPieces, ih]
      simp [add, occurrence?, escape?, Piece.shown, Piece.width, Piece.source]

end Scan

theorem val_le_of_isQuote {c : Char} (h : isQuote c = true) : c.val ≤ 127 := by
  have hcases : c = '\'' ∨ c = '"' := by simpa [isQuote] using h
  rcases hcases with rfl | rfl <;> decide

theorem utf8Size_of_isQuote {c : Char} (h : isQuote c = true) : c.utf8Size = 1 :=
  Char.utf8Size_eq_one_iff.mpr (val_le_of_isQuote h)

theorem val_le_of_brace {c : Char} (h : c = '{' ∨ c = '}') : c.val ≤ 127 := by
  rcases h with rfl | rfl <;> decide

theorem utf8Size_of_brace {c : Char} (h : c = '{' ∨ c = '}') : c.utf8Size = 1 :=
  Char.utf8Size_eq_one_iff.mpr (val_le_of_brace h)

/-- The move of the scanner, by the character at hand. -/
def Move.ofChar (c : Char) (next quote : Option Char) : Move :=
  if c = '-' ∧ quote = none ∧ next = some '-' then
    .lineComment
  else if c = '/' ∧ quote = none ∧ next = some '*' then
    .blockComment
  else if (c = '\'' ∨ c = '"') ∧ (quote = none ∨ quote = some c) then
    .quote
  else if (c = '{' ∨ c = '}') ∧ next = some c then
    .brace
  else if c = '{' then
    .placeholder
  else
    .plain

theorem Move.of_eq_plain {b : UInt8} (hb : 128 ≤ b) (next quote : Option UInt8) :
    Move.of b next quote = .plain := by
  have hne : ∀ c : Char, c.val ≤ 127 → b ≠ c.toUInt8 := by
    rintro c hc rfl
    exact not_le_toUInt8 hc hb
  simp only [Move.of, hne '-' (by decide), hne '/' (by decide), hne '\'' (by decide),
    hne '"' (by decide), hne '{' (by decide), hne '}' (by decide), false_and, or_self, if_false]

section

variable {c : Char} {rest : List Char} {b : UInt8} {quote? : Option Char}

theorem firstByte_eq_iff (hb : (utf8 (c :: rest)).head? = some b) {d : Char} (hd : d.val ≤ 127) :
    b = d.toUInt8 ↔ c = d := by
  have hiff := head?_utf8_eq_byte_iff hd (c :: rest)
  rwa [hb, List.head?_cons, Option.some.injEq, Option.some.injEq] at hiff

/-- The second byte tells the second character if the first one takes a single byte. -/
theorem secondByte_eq_iff (hc : c.val ≤ 127) {d : Char} (hd : d.val ≤ 127) :
    (utf8 (c :: rest))[1]? = some d.toUInt8 ↔ rest.head? = some d := by
  rw [utf8_cons, utf8EncodeChar_ascii hc, List.singleton_append, List.getElem?_cons_succ,
    ← List.head?_eq_getElem?, head?_utf8_eq_byte_iff hd]

theorem openByte_eq_iff (hquote : ∀ quote ∈ quote?, isQuote quote = true) (hc : c.val ≤ 127) :
    quote?.map Char.toUInt8 = some c.toUInt8 ↔ quote? = some c := by
  cases quote? with
  | none => simp
  | some quote =>
      simp only [Option.map_some, Option.some.injEq]
      exact ⟨toUInt8_inj (val_le_of_isQuote (hquote quote rfl)) hc, congrArg Char.toUInt8⟩

theorem Move.of_utf8 (hquote : ∀ quote ∈ quote?, isQuote quote = true)
    (hb : (utf8 (c :: rest)).head? = some b) :
    Move.of b (utf8 (c :: rest))[1]? (quote?.map Char.toUInt8) =
      Move.ofChar c rest.head? quote? := by
  have hfirst : ∀ d : Char, d.val ≤ 127 → (b = d.toUInt8 ↔ c = d) :=
    fun _ hd => firstByte_eq_iff hb hd
  have hnone : quote?.map Char.toUInt8 = none ↔ quote? = none := Option.map_eq_none_iff
  have hmark : ∀ d e : Char, d.val ≤ 127 → e.val ≤ 127 →
      (b = d.toUInt8 ∧ quote?.map Char.toUInt8 = none ∧
          (utf8 (c :: rest))[1]? = some e.toUInt8 ↔
        c = d ∧ quote? = none ∧ rest.head? = some e) := by
    intro d e hd he
    rw [hfirst d hd, hnone]
    exact and_congr_right fun hc => and_congr_right fun _ => secondByte_eq_iff (hc ▸ hd) he
  have hquotes : (b = '\''.toUInt8 ∨ b = '"'.toUInt8) ∧
      (quote?.map Char.toUInt8 = none ∨ quote?.map Char.toUInt8 = some b) ↔
        (c = '\'' ∨ c = '"') ∧ (quote? = none ∨ quote? = some c) := by
    rw [hfirst '\'' (by decide), hfirst '"' (by decide), hnone]
    refine and_congr_right fun hc => or_congr_right ?_
    have hval : c.val ≤ 127 := val_le_of_isQuote (by simpa [isQuote] using hc)
    rw [(hfirst c hval).mpr rfl]
    exact openByte_eq_iff hquote hval
  have hbrace : (b = '{'.toUInt8 ∨ b = '}'.toUInt8) ∧ (utf8 (c :: rest))[1]? = some b ↔
      (c = '{' ∨ c = '}') ∧ rest.head? = some c := by
    rw [hfirst '{' (by decide), hfirst '}' (by decide)]
    refine and_congr_right fun hc => ?_
    have hval := val_le_of_brace hc
    rw [(hfirst c hval).mpr rfl]
    exact secondByte_eq_iff hval hval
  simp only [Move.of, Move.ofChar, hmark '-' '-' (by decide) (by decide),
    hmark '/' '*' (by decide) (by decide), hquotes, hbrace]
  simp only [hfirst '{' (by decide)]

end

namespace Scanner

variable {text : List Char} {scanner next : Scanner}

theorem run?_of_step (hplace : scanner.place < byteLength text)
    (h : scanner.step? text = some (.ok next)) (fuel : Nat) :
    run? text (fuel + 1) scanner = run? text fuel next := by
  rw [run?, if_pos hplace, h]
  rfl

theorem run?_of_fault (hplace : scanner.place < byteLength text) {fault : TemplateFault}
    (h : scanner.step? text = some (.error fault)) (fuel : Nat) :
    run? text (fuel + 1) scanner = some (.error fault) := by
  rw [run?, if_pos hplace, h]
  rfl

/-- Bytes as they show between these quotes. -/
def veil (quote : Option UInt8) (bytes : List UInt8) : List UInt8 :=
  if quote = some '\''.toUInt8 then List.replicate bytes.length ' '.toUInt8 else bytes

theorem veil_append (quote : Option UInt8) (left right : List UInt8) :
    veil quote (left ++ right) = veil quote left ++ veil quote right := by
  unfold veil
  split <;> simp

theorem length_veil (quote : Option UInt8) (bytes : List UInt8) :
    (veil quote bytes).length = bytes.length := by
  unfold veil
  split <;> simp

/-- Plain bytes are passed one by one. -/
theorem run?_plain {left inside right masked tail : List UInt8} {quote : Option UInt8}
    {occurrences : List Occurrence} {escapes : List Nat}
    (htext : utf8 text = left ++ (inside ++ right)) (hmasked : masked.length = left.length)
    (hplain : ∀ (k : Nat) (b : UInt8), inside[k]? = some b →
      Move.of b (inside ++ right)[k + 1]? quote = .plain) (fuel : Nat) :
    run? text (fuel + inside.length)
        ⟨left.length, quote, ⟨occurrences, escapes, masked ++ (inside ++ tail)⟩⟩ =
      run? text fuel ⟨left.length + inside.length, quote, ⟨occurrences, escapes,
        masked ++ (veil quote inside ++ tail)⟩⟩ := by
  -- the scanner stops at every byte, also within a character
  induction inside generalizing left masked with
  | nil => simp [veil]
  | cons b inside ih =>
      have hlength : left.length < byteLength text := by
        rw [← length_utf8, htext]
        simp
      have hb : (utf8 text)[left.length]? = some b := by
        rw [htext, List.getElem?_append_right (Nat.le_refl _), Nat.sub_self]
        rfl
      have hnext : (utf8 text)[left.length + 1]? = (b :: inside ++ right)[0 + 1]? := by
        rw [htext, List.getElem?_append_right (by omega), Nat.add_sub_cancel_left]
      have hblank : blank? (masked ++ (b :: inside ++ tail)) left.length (left.length + 1) =
          some (masked ++ [' '.toUInt8] ++ (inside ++ tail)) :=
        blank?_append hmasked [b] (inside ++ tail)
      have hstep : step? text
          ⟨left.length, quote, ⟨occurrences, escapes, masked ++ (b :: inside ++ tail)⟩⟩ =
          some (.ok ⟨left.length + 1, quote, ⟨occurrences, escapes,
            masked ++ veil quote [b] ++ (inside ++ tail)⟩⟩) := by
        simp only [step?, hb, hnext, Option.bind_eq_bind, Option.bind_some, hplain 0 b rfl, veil]
        split
        · simp only [hblank, Option.bind_some]
          rfl
        · simp
      have hrest := @ih (left ++ [b]) (masked ++ veil quote [b]) (by simp [htext])
        (by simp [length_veil, hmasked])
        (fun k d hd => by simpa using hplain (k + 1) d (by simpa using hd))
      have hveil : veil quote (b :: inside) = veil quote [b] ++ veil quote inside :=
        veil_append quote [b] inside
      rw [List.length_append, List.length_singleton] at hrest
      rw [List.length_cons, ← Nat.add_assoc, run?_of_step hlength hstep, hrest, hveil]
      simp only [List.append_assoc, Nat.add_assoc, Nat.add_comm 1]

/-- The region that an open quote means. -/
def regionOf : Option Char → Region
  | none => .code
  | some quote => .literal quote

/-- From a place in the template, a run ends and finds the pieces of what is left. -/
def Runs (text before rest : List Char) (quote? : Option Char) (found : Scan) : Prop :=
  ∀ fuel, byteLength rest ≤ fuel →
    run? text fuel ⟨byteLength before, quote?.map Char.toUInt8, found.extend rest⟩ =
      some ((scan (regionOf quote?) (byteLength before) rest).map
        (found.addAll (byteLength before)))

section

variable {before taken rest : List Char} {c : Char} {quote? : Option Char} {found : Scan}

theorem Runs.nil (htext : text = before) : Runs text before [] quote? found := by
  subst htext
  intro fuel _
  have hscan : scan (regionOf quote?) (byteLength text) [] = .ok [] := by
    cases quote? <;> rfl
  have hextend : found.extend [] = found := by simp [Scan.extend]
  unfold run?
  rw [if_neg (Nat.lt_irrefl _), hscan, hextend]
  rfl

/-- Steps that go over a part of the template, and find the pieces of that part. -/
theorem Runs.advance (next? : Option Char) (pieces : List Piece) (steps : Nat)
    (hsteps : steps ≤ byteLength taken)
    (hrun : ∀ fuel, run? text (fuel + steps)
        ⟨byteLength before, quote?.map Char.toUInt8, found.extend (taken ++ rest)⟩ =
      run? text fuel ⟨byteLength before + byteLength taken, next?.map Char.toUInt8,
        (found.addAll (byteLength before) pieces).extend rest⟩)
    (hsource : pieces.flatMap Piece.source = taken)
    (hscan : scan (regionOf quote?) (byteLength before) (taken ++ rest) =
      (scan (regionOf next?) (byteLength before + byteLength taken) rest).map (pieces ++ ·))
    (h : Runs text (before ++ taken) rest next? (found.addAll (byteLength before) pieces)) :
    Runs text before (taken ++ rest) quote? found := by
  intro fuel hfuel
  rw [byteLength_append] at hfuel
  obtain ⟨more, rfl⟩ : ∃ more, fuel = more + steps := ⟨fuel - steps, by omega⟩
  have hrest := h more (by omega)
  rw [byteLength_append] at hrest
  have hpieces : found.addAll (byteLength before) ∘ (pieces ++ ·) =
      (found.addAll (byteLength before) pieces).addAll (byteLength before + byteLength taken) := by
    funext later
    rw [Function.comp_apply, Scan.addAll_append, hsource]
  rw [hrun, hrest, hscan, Except.map_map_ok, hpieces]

theorem Runs.refuse {fault : TemplateFault} (htext : text = before ++ c :: rest)
    (hstep : step? text ⟨byteLength before, quote?.map Char.toUInt8, found.extend (c :: rest)⟩ =
      some (.error fault))
    (hscan : scan (regionOf quote?) (byteLength before) (c :: rest) = .error fault) :
    Runs text before (c :: rest) quote? found := by
  intro fuel hfuel
  have hpos := c.utf8Size_pos
  rw [byteLength_cons] at hfuel
  obtain ⟨more, rfl⟩ : ∃ more, fuel = more + 1 := ⟨fuel - 1, by omega⟩
  have hplace : byteLength before < byteLength text := by
    rw [htext, byteLength_append, byteLength_cons]
    omega
  rw [run?_of_fault hplace hstep, hscan]
  rfl

theorem exists_byte (quote? : Option Char) (htext : text = before ++ c :: rest)
    (hquote : ∀ quote ∈ quote?, isQuote quote = true) :
    ∃ b, (utf8 (c :: rest)).head? = some b ∧ byteLength before < byteLength text ∧
      (utf8 text)[byteLength before]? = some b ∧
      Move.of b (utf8 text)[byteLength before + 1]? (quote?.map Char.toUInt8) =
        Move.ofChar c rest.head? quote? := by
  have hfirst := getElem?_utf8_append before (c :: rest) 0
  have hsecond := getElem?_utf8_append before (c :: rest) 1
  rw [← htext] at hfirst hsecond
  rw [Nat.add_zero, ← List.head?_eq_getElem?] at hfirst
  have hplace : byteLength before < byteLength text := by
    have hpos := c.utf8Size_pos
    rw [htext, byteLength_append, byteLength_cons]
    omega
  cases hb : (utf8 (c :: rest)).head? with
  | none =>
      rw [List.head?_eq_none_iff, utf8_cons] at hb
      exact absurd (List.append_eq_nil_iff.mp hb).1 String.utf8EncodeChar_ne_nil
  | some b => exact ⟨b, rfl, hplace, hfirst.trans hb, by rw [hsecond, Move.of_utf8 hquote hb]⟩

theorem Move.of_eq_plain_of_mem (hquote : ∀ quote ∈ quote?, isQuote quote = true)
    (hmove : Move.ofChar c rest.head? quote? = .plain) {k : Nat} {d : UInt8}
    (hd : (String.utf8EncodeChar c)[k]? = some d) :
    Move.of d (String.utf8EncodeChar c ++ utf8 rest)[k + 1]? (quote?.map Char.toUInt8) =
      .plain := by
  by_cases hc : c.val ≤ 127
  · rw [utf8EncodeChar_ascii hc] at hd
    obtain rfl : k = 0 := by
      have hlt := (List.getElem?_eq_some_iff.mp hd).1
      simpa using hlt
    have hb : (utf8 (c :: rest)).head? = some d := by
      rw [utf8_cons, utf8EncodeChar_ascii hc]
      exact hd
    rw [← utf8_cons, Move.of_utf8 hquote hb, hmove]
  · exact Move.of_eq_plain (le_of_mem_utf8EncodeChar hc (List.mem_of_getElem? hd)) _ _

/-- A plain character stays, or is hidden between single quotes. -/
theorem Runs.plain (htext : text = before ++ c :: rest)
    (hmasked : found.masked.length = byteLength before)
    (hquote : ∀ quote ∈ quote?, isQuote quote = true)
    (hmove : Move.ofChar c rest.head? quote? = .plain) {piece : Piece}
    (hpiece : piece = if quote? = some '\'' then .hidden c else .code c)
    (hscan : scan (regionOf quote?) (byteLength before) (c :: rest) =
      (scan (regionOf quote?) (byteLength before + c.utf8Size) rest).map (piece :: ·))
    (h : Runs text (before ++ [c]) rest quote? (found.add (byteLength before) piece)) :
    Runs text before (c :: rest) quote? found := by
  have hsource : piece.source = [c] := by
    rw [hpiece]
    split <;> rfl
  have hshown : piece.shown = veil (quote?.map Char.toUInt8) (String.utf8EncodeChar c) := by
    have hiff := openByte_eq_iff hquote (show '\''.val ≤ 127 by decide)
    rw [hpiece, veil]
    by_cases hsingle : quote? = some '\''
    · rw [if_pos hsingle, if_pos (hiff.mpr hsingle)]
      simp [Piece.shown, Piece.width, Piece.source]
    · rw [if_neg hsingle, if_neg (mt hiff.mp hsingle)]
      rfl
  have hnone : occurrence? (byteLength before) piece = none ∧
      escape? (byteLength before) piece = none := by
    rw [hpiece]
    split <;> exact ⟨rfl, rfl⟩
  have hbytes : byteLength [c] = (String.utf8EncodeChar c).length := by simp
  show Runs text before ([c] ++ rest) quote? found
  refine Runs.advance quote? [piece] _ (Nat.le_of_eq hbytes.symm) ?_ (by simp [hsource])
    (by simpa using hscan) h
  intro fuel
  have hextend : found.extend ([c] ++ rest) = ⟨found.occurrences, found.escapes,
      found.masked ++ (String.utf8EncodeChar c ++ utf8 rest)⟩ := rfl
  have hmasked' : found.masked.length = (utf8 before).length := by rw [hmasked, length_utf8]
  rw [hextend, hbytes, ← length_utf8 before,
    run?_plain (by rw [htext, utf8_append, utf8_cons]) hmasked'
      (fun _ _ hd => Move.of_eq_plain_of_mem hquote hmove hd) fuel]
  simp [Scan.extend, Scan.addAll, Scan.add, hnone, hshown]

theorem Runs.quote (htext : text = before ++ c :: rest)
    (hquote : ∀ quote ∈ quote?, isQuote quote = true)
    (hmove : Move.ofChar c rest.head? quote? = .quote) {next? : Option Char}
    (hnext : next? = if quote? = none then some c else none) (hc : isQuote c = true)
    (hscan : scan (regionOf quote?) (byteLength before) (c :: rest) =
      (scan (regionOf next?) (byteLength before + 1) rest).map (.code c :: ·))
    (h : Runs text (before ++ [c]) rest next? (found.add (byteLength before) (.code c))) :
    Runs text before (c :: rest) quote? found := by
  have hsize := utf8Size_of_isQuote hc
  show Runs text before ([c] ++ rest) quote? found
  refine Runs.advance next? [.code c] 1 (by simp [hsize]) ?_ rfl
    (by simpa [hsize] using hscan) h
  intro fuel
  obtain ⟨b, hb, hplace, hfirst, hof⟩ := exists_byte quote? htext hquote
  obtain rfl : b = c.toUInt8 := by
    rw [utf8_cons, utf8EncodeChar_ascii (val_le_of_isQuote hc)] at hb
    exact (Option.some.inj hb).symm
  have hextend : (found.addAll (byteLength before) [.code c]).extend rest =
      found.extend (c :: rest) := by
    simp [Scan.extend, Scan.addAll, Scan.add, occurrence?, escape?, Piece.shown, utf8_cons]
  refine run?_of_step hplace ?_ fuel
  rw [hextend]
  simp only [step?, hfirst, hof, hmove, Option.bind_eq_bind, Option.bind_some, hnext]
  cases quote? <;> simp [hsize]

theorem Runs.brace (htext : text = before ++ c :: c :: rest)
    (hmasked : found.masked.length = byteLength before)
    (hquote : ∀ quote ∈ quote?, isQuote quote = true) (hc : c = '{' ∨ c = '}')
    (hscan : scan (regionOf quote?) (byteLength before) (c :: c :: rest) =
      (scan (regionOf quote?) (byteLength before + 2) rest).map (.brace c :: ·))
    (h : Runs text (before ++ [c, c]) rest quote? (found.add (byteLength before) (.brace c))) :
    Runs text before (c :: c :: rest) quote? found := by
  have hsize := utf8Size_of_brace hc
  have hmove : Move.ofChar c (c :: rest).head? quote? = .brace := by
    rcases hc with rfl | rfl <;> simp [Move.ofChar]
  show Runs text before ([c, c] ++ rest) quote? found
  refine Runs.advance quote? [.brace c] 1 (by simp [hsize]) ?_ rfl
    (by simpa [hsize] using hscan) h
  intro fuel
  obtain ⟨b, -, hplace, hfirst, hof⟩ := exists_byte quote? htext hquote
  have hwidth : (utf8 [c, c]).length = 2 := by simp [hsize]
  have hblank : blank? (found.extend (c :: c :: rest)).masked (byteLength before)
      (byteLength before + 2) =
        some (found.masked ++ List.replicate 2 ' '.toUInt8 ++ utf8 rest) := by
    have hextend : (found.extend (c :: c :: rest)).masked =
        found.masked ++ (utf8 [c, c] ++ utf8 rest) := by
      rw [← utf8_append]
      rfl
    rw [hextend, ← hwidth]
    exact blank?_append hmasked _ _
  refine run?_of_step hplace ?_ fuel
  simp only [List.cons_append, List.nil_append, step?, hfirst, hof, hmove, Option.bind_eq_bind,
    Option.bind_some, hblank]
  simp [Scan.extend, Scan.addAll, Scan.add, occurrence?, escape?, Piece.shown, Piece.width,
    Piece.source, hsize]

/-- A comment is blanked up to its end. -/
theorem Runs.comment (htext : text = before ++ (taken ++ rest)) (htaken : taken ≠ [])
    (hmasked : found.masked.length = byteLength before)
    (hstep : ∀ found, step? text ⟨byteLength before, none, found⟩ =
      (skipTo? ⟨byteLength before, none, found⟩ (byteLength before + byteLength taken)).map .ok)
    (hscan : scan .code (byteLength before) (taken ++ rest) =
      (scan .code (byteLength before + byteLength taken) rest).map (hiddenPieces taken ++ ·))
    (h : Runs text (before ++ taken) rest none
      (found.addAll (byteLength before) (hiddenPieces taken))) :
    Runs text before (taken ++ rest) none found := by
  have hpos : byteLength taken ≠ 0 := fun hzero => htaken (eq_nil_of_byteLength_eq_zero hzero)
  have hplace : byteLength before < byteLength text := by
    rw [htext, byteLength_append, byteLength_append]
    omega
  refine Runs.advance none (hiddenPieces taken) 1 (Nat.pos_of_ne_zero hpos) ?_
    (source_hiddenPieces taken) hscan h
  intro fuel
  have hblank := blank?_append hmasked (utf8 taken) (utf8 rest)
  rw [length_utf8] at hblank
  refine run?_of_step hplace ?_ fuel
  rw [Option.map_none, hstep, skipTo?, Scan.extend, utf8_append, hblank, Scan.addAll_hidden]
  rfl

end

end Scanner

end Bytes

end QueryMethods

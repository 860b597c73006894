import QueryMethods.Text.Search

/-!
# Text as bytes

Places in a text are counted in bytes. A text can be cut at a place between two characters, and
nowhere else; bytes can be read and overwritten within their bounds, and nowhere else. What goes
beyond that has no result.
-/

namespace QueryMethods

/-- The bytes of a text. -/
def utf8 (text : List Char) : List UInt8 :=
  text.flatMap String.utf8EncodeChar

/-- The number of bytes of a text. -/
def byteLength : List Char → Nat
  | [] => 0
  | c :: rest => c.utf8Size + byteLength rest

/-- The text before a place, and the text from it on. -/
def cutAtByte? : Nat → List Char → Option (List Char × List Char)
  | 0, text => some ([], text)
  | _ + 1, [] => none
  | place + 1, c :: rest =>
      if c.utf8Size ≤ place + 1 then
        (cutAtByte? (place + 1 - c.utf8Size) rest).map fun (before, after) => (c :: before, after)
      else
        none

def textFrom? (text : List Char) (start : Nat) : Option (List Char) :=
  (cutAtByte? start text).map (·.2)

def textBetween? (text : List Char) (start stop : Nat) : Option (List Char) := do
  let (before, _) ← cutAtByte? stop text
  textFrom? before start

/-- The place of the leftmost occurrence of a pattern. -/
def placeOf? (pattern text : List Char) : Option Nat :=
  (cutAt? pattern text).map fun (before, _) => byteLength before

def slice? {α : Type} (items : List α) (start stop : Nat) : Option (List α) :=
  if start ≤ stop ∧ stop ≤ items.length then some ((items.take stop).drop start) else none

/-- Overwrites bytes with blanks. -/
def blank? (bytes : List UInt8) (start stop : Nat) : Option (List UInt8) :=
  if start ≤ stop ∧ stop ≤ bytes.length then
    some (bytes.take start ++ List.replicate (stop - start) ' '.toUInt8 ++ bytes.drop stop)
  else
    none

@[simp]
theorem byteLength_nil : byteLength [] = 0 := rfl

@[simp]
theorem byteLength_cons (c : Char) (text : List Char) :
    byteLength (c :: text) = c.utf8Size + byteLength text := rfl

@[simp]
theorem byteLength_append (left right : List Char) :
    byteLength (left ++ right) = byteLength left + byteLength right := by
  induction left with
  | nil => simp
  | cons c left ih => simp [ih, Nat.add_assoc]

@[simp]
theorem utf8_nil : utf8 [] = [] := rfl

theorem utf8_cons (c : Char) (text : List Char) :
    utf8 (c :: text) = String.utf8EncodeChar c ++ utf8 text := rfl

theorem utf8_append (left right : List Char) : utf8 (left ++ right) = utf8 left ++ utf8 right :=
  List.flatMap_append

@[simp]
theorem length_utf8 (text : List Char) : (utf8 text).length = byteLength text := by
  induction text with
  | nil => rfl
  | cons c text ih => simp [utf8_cons, ih]

theorem eq_nil_of_byteLength_eq_zero {text : List Char} (h : byteLength text = 0) : text = [] := by
  cases text with
  | nil => rfl
  | cons c text =>
      have hpos := c.utf8Size_pos
      rw [byteLength_cons] at h
      omega

theorem cutAtByte?_zero (text : List Char) : cutAtByte? 0 text = some ([], text) := by
  cases text <;> rfl

theorem cutAtByte?_append (before after : List Char) :
    cutAtByte? (byteLength before) (before ++ after) = some (before, after) := by
  induction before with
  | nil => exact cutAtByte?_zero after
  | cons c before ih =>
      have hpos := c.utf8Size_pos
      obtain ⟨place, hplace⟩ : ∃ place, byteLength (c :: before) = place + 1 :=
        ⟨byteLength (c :: before) - 1, by rw [byteLength_cons]; omega⟩
      have hrest : place + 1 - c.utf8Size = byteLength before := by
        rw [byteLength_cons] at hplace
        omega
      have hsize : c.utf8Size ≤ place + 1 := by
        rw [byteLength_cons] at hplace
        omega
      rw [hplace, List.cons_append, cutAtByte?, if_pos hsize, hrest, ih]
      rfl

theorem textFrom?_append (before after : List Char) :
    textFrom? (before ++ after) (byteLength before) = some after := by
  rw [textFrom?, cutAtByte?_append]
  rfl

theorem textBetween?_append (before inside after : List Char) :
    textBetween? (before ++ (inside ++ after)) (byteLength before)
      (byteLength before + byteLength inside) = some inside := by
  have hcut := cutAtByte?_append (before ++ inside) after
  rw [byteLength_append, List.append_assoc] at hcut
  simp [textBetween?, hcut, textFrom?_append]

theorem getElem?_utf8_append (before after : List Char) (place : Nat) :
    (utf8 (before ++ after))[byteLength before + place]? = (utf8 after)[place]? := by
  rw [utf8_append, List.getElem?_append_right (by rw [length_utf8]; omega), length_utf8,
    Nat.add_sub_cancel_left]

theorem slice?_append {α : Type} (before inside after : List α) :
    slice? (before ++ (inside ++ after)) before.length (before.length + inside.length) =
      some inside := by
  rw [slice?, if_pos (by simp only [List.length_append]; omega), ← List.append_assoc,
    ← List.length_append, List.take_left, List.drop_left]

theorem blank?_append {before : List UInt8} {start : Nat} (hstart : before.length = start)
    (inside after : List UInt8) :
    blank? (before ++ (inside ++ after)) start (start + inside.length) =
      some (before ++ List.replicate inside.length ' '.toUInt8 ++ after) := by
  subst hstart
  have hdrop : (before ++ (inside ++ after)).drop (before.length + inside.length) = after := by
    rw [← List.append_assoc, ← List.length_append, List.drop_left]
  rw [blank?, if_pos (by simp only [List.length_append]; omega), List.take_left, hdrop,
    Nat.add_sub_cancel_left]

theorem utf8EncodeChar_ascii {c : Char} (h : c.val ≤ 127) :
    String.utf8EncodeChar c = [c.toUInt8] :=
  String.utf8EncodeChar_eq_singleton (Char.utf8Size_eq_one_iff.mpr h)

/-- The bytes of any other character are no characters by themselves. -/
theorem le_of_mem_utf8EncodeChar {c : Char} (h : ¬ c.val ≤ 127) {b : UInt8}
    (hb : b ∈ String.utf8EncodeChar c) : 128 ≤ b := by
  have hval : ¬ c.val.toNat ≤ 127 := h
  have hbound : ∀ n : Nat, 128 ≤ n → n < 256 → 128 ≤ UInt8.ofNat n := by
    intro n hlow hhigh
    rw [UInt8.le_iff_toNat_le, UInt8.toNat_ofNat_of_lt' hhigh]
    exact hlow
  simp only [String.utf8EncodeChar, hval, if_false] at hb
  split at hb
  · simp only [List.mem_cons, List.not_mem_nil, or_false] at hb
    rcases hb with rfl | rfl <;> apply hbound <;> omega
  · split at hb
    · simp only [List.mem_cons, List.not_mem_nil, or_false] at hb
      rcases hb with rfl | rfl | rfl <;> apply hbound <;> omega
    · simp only [List.mem_cons, List.not_mem_nil, or_false] at hb
      rcases hb with rfl | rfl | rfl | rfl <;> apply hbound <;> omega

theorem toUInt8_inj {c d : Char} (hc : c.val ≤ 127) (hd : d.val ≤ 127) (h : c.toUInt8 = d.toUInt8) :
    c = d := by
  have hval := congrArg UInt8.toNat h
  have hc' : c.val.toNat ≤ 127 := hc
  have hd' : d.val.toNat ≤ 127 := hd
  simp only [Char.toUInt8, UInt32.toNat_toUInt8] at hval
  refine Char.ext (UInt32.toNat_inj.mp ?_)
  omega

theorem not_le_toUInt8 {c : Char} (hc : c.val ≤ 127) : ¬ 128 ≤ c.toUInt8 := by
  have hval : c.val.toNat ≤ 127 := hc
  rw [UInt8.le_iff_toNat_le, Char.toUInt8, UInt32.toNat_toUInt8]
  show ¬ 128 ≤ _
  omega

/-- A text begins with the byte of such a character exactly when it begins with the character. -/
theorem head?_utf8_eq_byte_iff {c : Char} (hc : c.val ≤ 127) (text : List Char) :
    (utf8 text).head? = some c.toUInt8 ↔ text.head? = some c := by
  cases text with
  | nil => simp
  | cons d text =>
      by_cases hd : d.val ≤ 127
      · rw [utf8_cons, utf8EncodeChar_ascii hd]
        simp only [List.cons_append, List.head?_cons, Option.some.injEq]
        exact ⟨toUInt8_inj hd hc, congrArg Char.toUInt8⟩
      · have hne : d ≠ c := by rintro rfl; exact hd hc
        cases hbytes : String.utf8EncodeChar d with
        | nil => exact absurd hbytes (String.utf8EncodeChar_ne_nil)
        | cons b rest =>
            have hb : 128 ≤ b :=
              le_of_mem_utf8EncodeChar hd (hbytes ▸ List.mem_cons_self)
            have hne' : b ≠ c.toUInt8 := by
              rintro rfl
              exact not_le_toUInt8 hc hb
            simp [utf8_cons, hbytes, hne, hne']

theorem getLast?_utf8_eq_byte_iff {c : Char} (hc : c.val ≤ 127) (text : List Char) :
    (utf8 text).getLast? = some c.toUInt8 ↔ text.getLast? = some c := by
  rcases List.eq_nil_or_concat text with rfl | ⟨before, d, rfl⟩
  · simp
  · have hbytes : utf8 (before ++ [d]) = utf8 before ++ String.utf8EncodeChar d := by
      rw [utf8_append, utf8_cons, utf8_nil, List.append_nil]
    rw [List.concat_eq_append, hbytes]
    by_cases hd : d.val ≤ 127
    · rw [utf8EncodeChar_ascii hd]
      simp only [List.getLast?_append, List.getLast?_singleton, Option.some_or, Option.some.injEq]
      exact ⟨toUInt8_inj hd hc, congrArg Char.toUInt8⟩
    · have hne : d ≠ c := by rintro rfl; exact hd hc
      simp only [List.getLast?_append, List.getLast?_singleton, Option.some_or, Option.some.injEq,
        hne, iff_false]
      obtain ⟨b, hlast⟩ := Option.isSome_iff_exists.mp
        (List.getLast?_isSome.mpr (String.utf8EncodeChar_ne_nil (c := d)))
      have hb := le_of_mem_utf8EncodeChar hd (List.mem_of_getLast? hlast)
      rw [hlast, Option.some_or, Option.some.injEq]
      rintro rfl
      exact absurd hb (not_le_toUInt8 hc)

/-- No character begins with the bytes of another one. -/
theorem eq_of_utf8EncodeChar_append {c d : Char} {left right : List UInt8}
    (h : String.utf8EncodeChar c ++ left = String.utf8EncodeChar d ++ right) : c = d := by
  have hdecode : ∀ (e : Char) (rest : List UInt8),
      (String.utf8EncodeChar e ++ rest).toByteArray.utf8DecodeChar? 0 = some e := by
    intro e rest
    rw [List.toByteArray_append]
    exact ByteArray.utf8DecodeChar?_utf8EncodeChar_append
  exact Option.some.inj ((hdecode c left).symm.trans (h ▸ hdecode d right))

theorem isPrefix_of_utf8 {before text : List Char} (h : utf8 before <+: utf8 text) :
    before <+: text := by
  induction before generalizing text with
  | nil => exact List.nil_prefix
  | cons c before ih =>
      obtain ⟨rest, hrest⟩ := h
      rw [utf8_cons, List.append_assoc] at hrest
      cases text with
      | nil => exact absurd (List.append_eq_nil_iff.mp hrest).1 String.utf8EncodeChar_ne_nil
      | cons d text =>
          rw [utf8_cons] at hrest
          obtain rfl := eq_of_utf8EncodeChar_append hrest
          exact List.cons_prefix_cons.mpr ⟨rfl, ih ⟨rest, List.append_cancel_left hrest⟩⟩

end QueryMethods

import UtxoBalance.Json.Reader
import UtxoBalance.Json.Writer
import UtxoBalance.Proofs.Hex

/-!
# JSON texts of documents

A document that is built of texts and absent values, by lists and by objects that hold each
name once, is read back from its JSON text, whatever its texts hold: what has to be escaped
is escaped, a character beyond the first plane as a surrogate pair, and the reader puts each
escape together again. All that is written is printable ASCII, so that a text stays on one
line.

## Main definitions

- `Document.IsTextual` — the documents built of texts and absent values

## Main statements

- `Json.readPoints_quote` — the characters between two quotes are read back
- `Json.readValue_writeChars` — a document is read back, and what follows it is left
- `Json.read_write` — the JSON text of a document is read as the document
- `Json.writeChars_printable` — a JSON text is printable ASCII
-/

namespace UtxoBalance

/-- Whether a document is built of texts and absent values, by lists and by objects that
    hold each name once. -/
inductive Document.IsTextual : Document → Prop
  | null : IsTextual .null
  | text (value : String) : IsTextual (.text value)
  | list {items : List Document} : (∀ item ∈ items, IsTextual item) → IsTextual (.list items)
  | object {fields : Fields} : (∀ field ∈ fields, IsTextual field.2) →
      (fields.map Prod.fst).Nodup → IsTextual (.object fields)

/-! ## Fields with different names -/

theorem Fields.put_of_notMem {name : String} (value : Document) {fields : Fields}
    (h : name ∉ fields.map Prod.fst) : put name value fields = fields ++ [(name, value)] := by
  induction fields with
  | nil => rfl
  | cons field rest ih =>
    simp only [List.map_cons, List.mem_cons, not_or] at h
    rw [put, if_neg (Ne.symm h.1), ih h.2, List.cons_append]

theorem Fields.ofPairs_of_nodup {pairs : Fields} (h : (pairs.map Prod.fst).Nodup) :
    ofPairs pairs = pairs := by
  -- the fields that have been put so far are left open, for the induction on the others
  have hfold : ∀ (rest fields : Fields), ((fields ++ rest).map Prod.fst).Nodup →
      rest.foldl (fun fields pair => put pair.1 pair.2 fields) fields = fields ++ rest := by
    intro rest
    induction rest with
    | nil =>
      intro fields _
      rw [List.foldl_nil, List.append_nil]
    | cons pair rest ih =>
      intro fields hnodup
      have hname : pair.1 ∉ fields.map Prod.fst := by
        rw [List.map_append, List.map_cons, List.nodup_middle, List.nodup_cons] at hnodup
        exact fun hmem => hnodup.1 (List.mem_append_left _ hmem)
      rw [List.append_cons] at hnodup ⊢
      rw [List.foldl_cons, put_of_notMem pair.2 hname, ih _ hnodup]
  exact hfold pairs [] h

namespace Json

/-! ## Single characters -/

theorem hexDigits_four (unit : Nat) : Text.hexDigits 4 unit =
    [Hex.digit (unit / 16 / 16 / 16 % 16), Hex.digit (unit / 16 / 16 % 16),
      Hex.digit (unit / 16 % 16), Hex.digit (unit % 16)] := rfl

theorem fourDigits?_unit {unit : Nat} (h : unit < 0x10000) :
    fourDigits? (Hex.digit (unit / 16 / 16 / 16 % 16)) (Hex.digit (unit / 16 / 16 % 16))
      (Hex.digit (unit / 16 % 16)) (Hex.digit (unit % 16)) = some unit := by
  have hpositional : (((unit / 16 / 16 / 16 % 16) * 16 + unit / 16 / 16 % 16) * 16 +
      unit / 16 % 16) * 16 + unit % 16 = unit := by omega
  rw [fourDigits?, Hex.value?_digit (Nat.mod_lt _ (by decide)),
    Hex.value?_digit (Nat.mod_lt _ (by decide)), Hex.value?_digit (Nat.mod_lt _ (by decide)),
    Hex.value?_digit (Nat.mod_lt _ (by decide))]
  exact congrArg some hpositional

/-- The escape of a code unit that is no half of a pair gives the unit. -/
theorem codeEscape_unit {unit : Nat} (h : unit < 0x10000) (hsingle : isHighSurrogate unit = false)
    {tail : List Char} (htail : tail ≠ []) :
    codeEscape (Text.hexDigits 4 unit ++ tail) = .ok (unit, tail) := by
  obtain ⟨next, rest, rfl⟩ := List.exists_cons_of_ne_nil htail
  rw [hexDigits_four]
  simp only [List.cons_append, List.nil_append, codeEscape, fourDigits?_unit h, hsingle]

/-- The escapes of the two halves of a pair give its code point. -/
theorem codeEscape_pair {high low : Nat} (hhigh : isHighSurrogate high = true)
    (hlow : isLowSurrogate low = true) {tail : List Char} (htail : tail ≠ []) :
    codeEscape (Text.hexDigits 4 high ++ (unitEscape low ++ tail)) =
      .ok (joinSurrogates high low, tail) := by
  obtain ⟨next, rest, rfl⟩ := List.exists_cons_of_ne_nil htail
  have hhighUnit : high < 0x10000 := by
    simp only [isHighSurrogate, Bool.and_eq_true, decide_eq_true_eq] at hhigh
    omega
  have hlowUnit : low < 0x10000 := by
    simp only [isLowSurrogate, Bool.and_eq_true, decide_eq_true_eq] at hlow
    omega
  rw [unitEscape, hexDigits_four, hexDigits_four]
  simp only [List.cons_append, List.nil_append, codeEscape, fourDigits?_unit hhighUnit, hhigh,
    fourDigits?_unit hlowUnit, hlow, if_true]

/-! ## Characters between quotes -/

section Points

variable (whole : List Char) (fuel : Nat)

theorem readPoints_plain {c : Char} (hquote : c ≠ '"') (hslash : c ≠ '\\')
    (hprint : 0x20 ≤ c.toNat) (tail : List Char) :
    readPoints whole (fuel + 1) (c :: tail) =
      (readPoints whole fuel tail).map fun result => (c.toNat :: result.1, result.2) := by
  rw [readPoints.eq_def]
  simp only [if_neg hquote, if_neg (Nat.not_lt.2 hprint), if_neg hslash]
  cases readPoints whole fuel tail with
  | error stop => rfl
  | ok result => rfl

theorem readPoints_escape {e c : Char} (he : escaped? e = some c) (tail : List Char) :
    readPoints whole (fuel + 1) ('\\' :: e :: tail) =
      (readPoints whole fuel tail).map fun result => (c.toNat :: result.1, result.2) := by
  have hletter : e ≠ 'u' := by
    rintro rfl
    cases he
  rw [readPoints.eq_5 whole fuel _ _ _ hletter, if_neg (by decide), if_neg (by decide),
    if_pos rfl, he]
  cases readPoints whole fuel tail with
  | error stop => rfl
  | ok result => rfl

theorem readPoints_codeEscape {digits tail : List Char} {point : Nat}
    (h : codeEscape digits = .ok (point, tail)) :
    readPoints whole (fuel + 1) ('\\' :: 'u' :: digits) =
      (readPoints whole fuel tail).map fun result => (point :: result.1, result.2) := by
  rw [readPoints, if_neg (by decide), if_neg (by decide), if_pos rfl]
  simp only [h, bind, Except.bind]
  cases readPoints whole fuel tail with
  | error stop => rfl
  | ok result => rfl

/-- However a character is written, it is read as itself, and costs one unit of fuel. -/
theorem readPoints_quoteChar (c : Char) {tail : List Char} (htail : tail ≠ []) :
    readPoints whole (fuel + 1) (quoteChar c ++ tail) =
      (readPoints whole fuel tail).map fun result => (c.toNat :: result.1, result.2) := by
  have hvalid : c.toNat < 0xD800 ∨ 0xDFFF < c.toNat ∧ c.toNat < 0x110000 := c.valid
  unfold quoteChar
  split_ifs with hquote hslash hfeed hreturn htab hback hform hprint hplane
  · rw [hquote]
    exact readPoints_escape whole fuel rfl tail
  · rw [hslash]
    exact readPoints_escape whole fuel rfl tail
  · rw [hfeed]
    exact readPoints_escape whole fuel rfl tail
  · rw [hreturn]
    exact readPoints_escape whole fuel rfl tail
  · rw [htab]
    exact readPoints_escape whole fuel rfl tail
  · rw [hback]
    exact readPoints_escape whole fuel rfl tail
  · rw [hform]
    exact readPoints_escape whole fuel rfl tail
  · exact readPoints_plain whole fuel hquote hslash hprint.1 tail
  · have hsingle : isHighSurrogate c.toNat = false := by
      simp [isHighSurrogate]
      omega
    exact readPoints_codeEscape whole fuel (codeEscape_unit hplane hsingle htail)
  · -- beyond the first plane: the two halves of a pair
    have hhigh : isHighSurrogate (0xD800 + (c.toNat - 0x10000) / 0x400) = true := by
      simp [isHighSurrogate]
      omega
    have hlow : isLowSurrogate (0xDC00 + (c.toNat - 0x10000) % 0x400) = true := by
      simp [isLowSurrogate]
      omega
    have hjoin : joinSurrogates (0xD800 + (c.toNat - 0x10000) / 0x400)
        (0xDC00 + (c.toNat - 0x10000) % 0x400) = c.toNat := by
      unfold joinSurrogates
      omega
    have hescape := codeEscape_pair hhigh hlow htail
    rw [hjoin] at hescape
    rw [List.append_assoc]
    exact readPoints_codeEscape whole fuel hescape

theorem readPoints_quote (chars rest : List Char) :
    ∀ {fuel : Nat}, chars.length < fuel →
      readPoints whole fuel (chars.flatMap quoteChar ++ '"' :: rest) =
        .ok (chars.map Char.toNat, rest) := by
  induction chars with
  | nil =>
    intro fuel hfuel
    obtain ⟨fuel, rfl⟩ := Nat.exists_eq_add_of_lt hfuel
    rfl
  | cons c chars ih =>
    intro fuel hfuel
    obtain ⟨fuel, rfl⟩ := Nat.exists_eq_add_of_lt hfuel
    have hlength : chars.length < chars.length + 1 + fuel := by omega
    rw [List.flatMap_cons, List.append_assoc, readPoints_quoteChar whole _ c (by simp),
      List.length_cons, ih hlength]
    rfl

end Points

theorem length_le_length_flatMap_quoteChar (chars : List Char) :
    chars.length ≤ (chars.flatMap quoteChar).length := by
  have hpos : ∀ c, 1 ≤ (quoteChar c).length := by
    intro c
    unfold quoteChar
    split_ifs <;> simp [unitEscape]
  induction chars with
  | nil => simp
  | cons c chars ih =>
    have hc := hpos c
    rw [List.flatMap_cons, List.length_append, List.length_cons]
    omega

/-- A text is read back, and what follows it is left. -/
theorem readText_quote (value : String) (rest : List Char) :
    readText (value.toList.flatMap quoteChar ++ '"' :: rest) = .ok (.whole value, rest) := by
  have hlength := length_le_length_flatMap_quoteChar value.toList
  have hfuel : value.toList.length <
      (value.toList.flatMap quoteChar ++ '"' :: rest).length + 1 := by
    rw [List.length_append]
    omega
  rw [readText, readPoints_quote _ _ _ hfuel]
  simp only [bind, Except.bind, Text.Raw.ofPoints_toNat, Text.Raw.ofChars, String.ofList_toList]
  rfl

/-! ## Written characters -/

/-- Whether a character stands in printable ASCII. -/
def IsPrintable (c : Char) : Prop := 0x20 ≤ c.toNat ∧ c.toNat < 0x7F
  deriving Decidable

theorem hexDigits_printable (width n : Nat) : ∀ c ∈ Text.hexDigits width n, IsPrintable c := by
  have hdigit : ∀ n < 16, IsPrintable (Hex.digit n) := by decide
  induction width generalizing n with
  | zero => simp [Text.hexDigits]
  | succ width ih =>
    intro c hc
    rw [Text.hexDigits, List.mem_append, List.mem_singleton] at hc
    rcases hc with hc | rfl
    · exact ih _ c hc
    · exact hdigit _ (Nat.mod_lt _ (by decide))

theorem unitEscape_printable (unit : Nat) : ∀ c ∈ unitEscape unit, IsPrintable c := by
  rw [unitEscape, List.forall_mem_cons, List.forall_mem_cons]
  exact ⟨by decide, by decide, hexDigits_printable 4 unit⟩

theorem escape_printable {e : Char} (h : IsPrintable e) : ∀ c ∈ ['\\', e], IsPrintable c := by
  rw [List.forall_mem_cons, List.forall_mem_singleton]
  exact ⟨by decide, h⟩

theorem quoteChar_printable (c : Char) : ∀ d ∈ quoteChar c, IsPrintable d := by
  unfold quoteChar
  split_ifs with hquote hslash hfeed hreturn htab hback hform hprint hplane
  iterate 7 exact escape_printable (by decide)
  · rw [List.forall_mem_singleton]
    exact hprint
  · exact unitEscape_printable c.toNat
  · rw [List.forall_mem_append]
    exact ⟨unitEscape_printable _, unitEscape_printable _⟩

theorem quoteChars_printable (chars : List Char) : ∀ c ∈ quoteChars chars, IsPrintable c := by
  rw [quoteChars, List.forall_mem_cons, List.forall_mem_append, List.forall_mem_singleton]
  refine ⟨by decide, fun c hc => ?_, by decide⟩
  obtain ⟨d, -, hd⟩ := List.mem_flatMap.1 hc
  exact quoteChar_printable d c hd

theorem writeItems_cons {items : List Document} (hne : items ≠ []) (item : Document) :
    writeItems (item :: items) = writeChars item ++ ',' :: writeItems items := by
  rw [writeItems]
  exact hne

theorem writeFields_cons {fields : Fields} (hne : fields ≠ []) (name : String) (value : Document) :
    writeFields ((name, value) :: fields) =
      quoteChars name.toList ++ ':' :: (writeChars value ++ ',' :: writeFields fields) := by
  rw [writeFields]
  exact hne

theorem writeItems_printable {items : List Document}
    (h : ∀ item ∈ items, ∀ c ∈ writeChars item, IsPrintable c) :
    ∀ c ∈ writeItems items, IsPrintable c := by
  induction items with
  | nil => simp [writeItems]
  | cons item others ih =>
    have hothers := ih fun other hother => h other (List.mem_cons_of_mem _ hother)
    have hitem := h item List.mem_cons_self
    by_cases hne : others = []
    · subst hne
      rwa [writeItems]
    · rw [writeItems_cons hne, List.forall_mem_append, List.forall_mem_cons]
      exact ⟨hitem, by decide, hothers⟩

theorem writeFields_printable {fields : Fields}
    (h : ∀ field ∈ fields, ∀ c ∈ writeChars field.2, IsPrintable c) :
    ∀ c ∈ writeFields fields, IsPrintable c := by
  induction fields with
  | nil => simp [writeFields]
  | cons field others ih =>
    obtain ⟨name, value⟩ := field
    have hothers := ih fun other hother => h other (List.mem_cons_of_mem _ hother)
    have hvalue := h (name, value) List.mem_cons_self
    by_cases hne : others = []
    · subst hne
      rw [writeFields, List.forall_mem_append, List.forall_mem_cons]
      exact ⟨quoteChars_printable _, by decide, hvalue⟩
    · rw [writeFields_cons hne, List.forall_mem_append, List.forall_mem_cons,
        List.forall_mem_append, List.forall_mem_cons]
      exact ⟨quoteChars_printable _, by decide, hvalue, by decide, hothers⟩

theorem writeChars_printable {d : Document} (h : d.IsTextual) :
    ∀ c ∈ writeChars d, IsPrintable c := by
  induction h with
  | null =>
    have hword : "null".toList.all (fun c => decide (IsPrintable c)) = true := by decide
    intro c hc
    rw [writeChars] at hc
    exact of_decide_eq_true (List.all_eq_true.1 hword c hc)
  | text value =>
    rw [writeChars]
    exact quoteChars_printable _
  | list _ ih =>
    rw [writeChars, List.forall_mem_cons, List.forall_mem_append, List.forall_mem_singleton]
    exact ⟨by decide, writeItems_printable ih, by decide⟩
  | object _ _ ih =>
    rw [writeChars, List.forall_mem_cons, List.forall_mem_append, List.forall_mem_singleton]
    exact ⟨by decide, writeFields_printable ih, by decide⟩

/-! ## Documents -/

theorem skipBlanks_cons {c : Char} (h : isBlank c = false) (rest : List Char) :
    skipBlanks (c :: rest) = c :: rest := by
  rw [skipBlanks, List.dropWhile_cons, h]
  rfl

/-- A document built of texts begins with a quote, an opening bracket or the word for the
    absent value. -/
theorem exists_head {d : Document} (h : d.IsTextual) :
    ∃ c tail, writeChars d = c :: tail ∧ isBlank c = false ∧ c ≠ ']' := by
  cases h with
  | null => exact ⟨'n', "ull".toList, by rw [writeChars]; rfl, by decide, by decide⟩
  | text value => exact ⟨_, _, by rw [writeChars, quoteChars], by decide, by decide⟩
  | list hitems => exact ⟨_, _, by rw [writeChars], by decide, by decide⟩
  | object hfields hnames => exact ⟨_, _, by rw [writeChars], by decide, by decide⟩

variable (maxDigits : Option Nat)

/-- Whether the reader reads a document back, given enough fuel, and leaves what follows. -/
def IsReadBack (d : Document) : Prop :=
  ∀ (fuel : Nat) (rest : List Char), (writeChars d).length ≤ fuel →
    readValue maxDigits fuel (writeChars d ++ rest) = .ok (d, rest)

theorem exists_head_writeItems {items : List Document} (hne : items ≠ [])
    (htextual : ∀ item ∈ items, item.IsTextual) :
    ∃ c tail, writeItems items = c :: tail ∧ isBlank c = false ∧ c ≠ ']' := by
  cases items with
  | nil => exact absurd rfl hne
  | cons item others =>
    obtain ⟨c, tail, hhead, hc⟩ := exists_head (htextual item List.mem_cons_self)
    cases others with
    | nil => exact ⟨c, tail, by rw [writeItems, hhead], hc⟩
    | cons next others =>
      exact ⟨c, _, by rw [writeItems_cons (by simp), hhead, List.cons_append], hc⟩

theorem exists_head_writeFields {fields : Fields} (hne : fields ≠ []) :
    ∃ tail, writeFields fields = '"' :: tail := by
  cases fields with
  | nil => exact absurd rfl hne
  | cons field others =>
    cases others with
    | nil => exact ⟨_, by rw [writeFields, quoteChars, List.cons_append]⟩
    | cons next others =>
      exact ⟨_, by rw [writeFields_cons (by simp), quoteChars, List.cons_append]⟩

/-- The items of a list are read back up to its bracket, if each of them is. -/
theorem readItems_writeItems {items : List Document} (hne : items ≠ [])
    (htextual : ∀ item ∈ items, item.IsTextual)
    (hread : ∀ item ∈ items, IsReadBack maxDigits item) :
    ∀ (fuel : Nat) (rest : List Char), (writeItems items).length < fuel →
      readItems maxDigits fuel (writeItems items ++ ']' :: rest) = .ok (items, rest) := by
  induction items with
  | nil => exact absurd rfl hne
  | cons item others ih =>
    intro fuel rest hfuel
    cases fuel with
    | zero => exact absurd hfuel (Nat.not_lt_zero _)
    | succ fuel =>
      have hitem := hread item List.mem_cons_self
      by_cases hothers : others = []
      · subst hothers
        have hitems : writeItems [item] = writeChars item := by rw [writeItems]
        rw [hitems] at hfuel ⊢
        rw [readItems, hitem fuel _ (by omega)]
        simp only [bind, Except.bind, skipBlanks_cons (by decide : isBlank ']' = false)]
        rfl
      · have htail : ∀ other ∈ others, other.IsTextual := fun other h =>
          htextual other (List.mem_cons_of_mem item h)
        have hrest := ih hothers htail fun other h => hread other (List.mem_cons_of_mem item h)
        obtain ⟨c, tail, hhead, hblank, -⟩ := exists_head_writeItems hothers htail
        rw [writeItems_cons hothers] at hfuel ⊢
        rw [List.length_append, List.length_cons] at hfuel
        have hskip : skipBlanks (writeItems others ++ ']' :: rest) =
            writeItems others ++ ']' :: rest := by
          rw [hhead, List.cons_append, skipBlanks_cons hblank]
        rw [readItems, List.append_assoc, List.cons_append, hitem fuel _ (by omega)]
        simp only [bind, Except.bind, skipBlanks_cons (by decide : isBlank ',' = false), hskip,
          hrest fuel rest (by omega)]
        rfl

theorem skipBlanks_writeChars {d : Document} (h : d.IsTextual) (tail : List Char) :
    skipBlanks (writeChars d ++ tail) = writeChars d ++ tail := by
  obtain ⟨c, rest, hhead, hblank, -⟩ := exists_head h
  rw [hhead, List.cons_append, skipBlanks_cons hblank]

theorem quoteChars_append (value : String) (tail : List Char) :
    quoteChars value.toList ++ tail = '"' :: (value.toList.flatMap quoteChar ++ '"' :: tail) := by
  rw [quoteChars, List.cons_append, List.append_assoc, List.singleton_append]

theorem readFields_last (name : String) {value : Document} (htextual : value.IsTextual)
    (hread : IsReadBack maxDigits value) {fuel : Nat} (hfuel : (writeChars value).length ≤ fuel)
    (rest : List Char) :
    readFields maxDigits (fuel + 1)
        (quoteChars name.toList ++ ':' :: (writeChars value ++ '\x7d' :: rest)) =
      .ok ([(name, value)], rest) := by
  rw [quoteChars_append, readFields, readText_quote]
  simp only [bind, Except.bind, skipBlanks_cons (by decide : isBlank ':' = false),
    skipBlanks_writeChars htextual, hread fuel _ hfuel,
    skipBlanks_cons (by decide : isBlank '\x7d' = false)]
  rfl

theorem readFields_more (name : String) {value : Document} (htextual : value.IsTextual)
    (hread : IsReadBack maxDigits value) {fuel : Nat} (hfuel : (writeChars value).length ≤ fuel)
    {tail rest : List Char} {others : Fields}
    (htail : readFields maxDigits fuel (skipBlanks tail) = .ok (others, rest)) :
    readFields maxDigits (fuel + 1)
        (quoteChars name.toList ++ ':' :: (writeChars value ++ ',' :: tail)) =
      .ok ((name, value) :: others, rest) := by
  rw [quoteChars_append, readFields, readText_quote]
  simp only [bind, Except.bind, skipBlanks_cons (by decide : isBlank ':' = false),
    skipBlanks_writeChars htextual, hread fuel _ hfuel,
    skipBlanks_cons (by decide : isBlank ',' = false), htail]
  rfl

/-- The fields of an object are read back up to its brace, if the value of each is. -/
theorem readFields_writeFields {fields : Fields} (hne : fields ≠ [])
    (htextual : ∀ field ∈ fields, field.2.IsTextual)
    (hread : ∀ field ∈ fields, IsReadBack maxDigits field.2) :
    ∀ (fuel : Nat) (rest : List Char), (writeFields fields).length < fuel →
      readFields maxDigits fuel (writeFields fields ++ '\x7d' :: rest) = .ok (fields, rest) := by
  induction fields with
  | nil => exact absurd rfl hne
  | cons field others ih =>
    obtain ⟨name, value⟩ := field
    intro fuel rest hfuel
    cases fuel with
    | zero => exact absurd hfuel (Nat.not_lt_zero _)
    | succ fuel =>
      have hvalue : IsReadBack maxDigits value := hread (name, value) List.mem_cons_self
      have hvalueTextual : value.IsTextual := htextual (name, value) List.mem_cons_self
      by_cases hothers : others = []
      · subst hothers
        have hfields : writeFields [(name, value)] =
            quoteChars name.toList ++ ':' :: writeChars value := by rw [writeFields]
        rw [hfields] at hfuel ⊢
        rw [List.length_append, List.length_cons] at hfuel
        rw [List.append_assoc, List.cons_append]
        exact readFields_last maxDigits name hvalueTextual hvalue (by omega) rest
      · have hrest := ih hothers (fun other h => htextual other (List.mem_cons_of_mem _ h))
          fun other h => hread other (List.mem_cons_of_mem _ h)
        obtain ⟨tail, hhead⟩ := exists_head_writeFields hothers
        have hskip : skipBlanks (writeFields others ++ '\x7d' :: rest) =
            writeFields others ++ '\x7d' :: rest := by
          rw [hhead, List.cons_append, skipBlanks_cons (by decide)]
        rw [writeFields_cons hothers] at hfuel ⊢
        simp only [List.length_append, List.length_cons] at hfuel
        simp only [List.append_assoc, List.cons_append]
        refine readFields_more maxDigits name hvalueTextual hvalue (by omega) ?_
        rw [hskip, hrest fuel rest (by omega)]

/-! ## Whole texts -/

theorem readValue_writeChars {d : Document} (h : d.IsTextual) : IsReadBack maxDigits d := by
  -- the reader spends a unit of fuel on each part, and each part has a character at least
  induction h with
  | null =>
    intro fuel rest hfuel
    rw [writeChars] at hfuel ⊢
    cases fuel with
    | zero => simp at hfuel
    | succ fuel => rfl
  | text value =>
    intro fuel rest hfuel
    rw [writeChars] at hfuel ⊢
    cases fuel with
    | zero => simp [quoteChars] at hfuel
    | succ fuel =>
      rw [quoteChars_append, readValue, readText_quote]
      rfl
  | @list items hitems ih =>
    intro fuel rest hfuel
    rw [writeChars, List.length_cons, List.length_append, List.length_singleton] at hfuel
    rw [writeChars]
    cases fuel with
    | zero => omega
    | succ fuel =>
      by_cases hne : items = []
      · subst hne
        rfl
      · obtain ⟨c, tail, hhead, hblank, hbracket⟩ := exists_head_writeItems hne hitems
        have hskip : skipBlanks (writeItems items ++ ']' :: rest) = c :: (tail ++ ']' :: rest) := by
          rw [hhead, List.cons_append, skipBlanks_cons hblank]
        have hread := readItems_writeItems maxDigits hne hitems ih fuel rest (by omega)
        rw [hhead, List.cons_append] at hread
        rw [List.cons_append, List.append_assoc, List.singleton_append, readValue, hskip]
        split
        · next heq => exact absurd (List.cons.inj heq).1 hbracket
        · rw [hread]
          rfl
  | @object fields hfields hnames ih =>
    intro fuel rest hfuel
    rw [writeChars, List.length_cons, List.length_append, List.length_singleton] at hfuel
    rw [writeChars]
    cases fuel with
    | zero => omega
    | succ fuel =>
      by_cases hne : fields = []
      · subst hne
        rfl
      · obtain ⟨tail, hhead⟩ := exists_head_writeFields hne
        have hskip : skipBlanks (writeFields fields ++ '\x7d' :: rest) =
            '"' :: (tail ++ '\x7d' :: rest) := by
          rw [hhead, List.cons_append, skipBlanks_cons (by decide)]
        have hread := readFields_writeFields maxDigits hne hfields ih fuel rest (by omega)
        rw [hhead, List.cons_append] at hread
        rw [List.cons_append, List.append_assoc, List.singleton_append, readValue, hskip]
        split
        · next heq => exact absurd (List.cons.inj heq).1 (by decide)
        · rw [hread]
          change Except.ok (Document.object (Fields.ofPairs fields), rest) = _
          rw [Fields.ofPairs_of_nodup hnames]

theorem read_write {d : Document} (h : d.IsTextual) :
    read maxDigits (write d).toList = .ok d := by
  -- the reader refuses texts that begin with a byte order mark
  have hmark : (writeChars d).head? ≠ some '\ufeff' := by
    intro hhead
    have hprintable := writeChars_printable h _ (List.mem_of_head? hhead)
    exact absurd hprintable (by decide)
  have hvalue := readValue_writeChars maxDigits h (2 * (writeChars d).length + 2) [] (by omega)
  have hskip := skipBlanks_writeChars h []
  rw [List.append_nil] at hvalue hskip
  have hall : readAll maxDigits (writeChars d) = .ok d := by
    rw [readAll, hskip, hvalue]
    rfl
  rw [write, String.toList_ofList, read, if_neg hmark, hall]

end Json

end UtxoBalance

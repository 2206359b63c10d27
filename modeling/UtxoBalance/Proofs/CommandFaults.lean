import UtxoBalance.Proofs.CommandNormalForm
import UtxoBalance.Proofs.ExactNumber

/-!
# Where the reading of commands breaks

A malformed command is refused with a fault of the command, but for two kinds. An amount that
is an infinity has no integer part, and that is not reported as a fault of the command. A tag
that names no command is shown in the message, which is impossible where it holds an integer
with too many digits.

A counter is read with the integer part of its amount. If the amount is an integer, it is kept;
otherwise the fraction is dropped and the command is read all the same.

## Main definitions

- `Document.HoldsLarge` — values that cannot be shown
- `Command.Breaks` — the documents that break the reading, each with its fault

## Main statements

- `Document.shown_eq_error_iff` — which values cannot be shown
- `Command.ofDocument_breaks_iff` — the failures that are no faults of the command
- `Command.ofDocument_eq_counter_iff` — the counters that are read
- `Command.breaks_or_drops_fraction` — both, with what becomes of an amount that is a number
-/

namespace UtxoBalance

/-! ## Values that cannot be shown -/

namespace Document

/-- A value that holds an integer with too many digits to be written, at any depth. -/
inductive HoldsLarge : Document → Prop
  | int {n : Int} : Numeral.bound ≤ n.natAbs → HoldsLarge (.int n)
  | item {items : List Document} {item : Document} : item ∈ items → HoldsLarge item →
      HoldsLarge (.list items)
  | field {fields : Fields} {name : String} {value : Document} : (name, value) ∈ fields →
      HoldsLarge value → HoldsLarge (.object fields)

theorem holdsLarge_int_iff {n : Int} : (int n).HoldsLarge ↔ Numeral.bound ≤ n.natAbs := by
  constructor
  · intro h
    cases h with
    | int hn => exact hn
  · exact .int

theorem holdsLarge_list_iff {items : List Document} :
    (list items).HoldsLarge ↔ ∃ item ∈ items, item.HoldsLarge := by
  constructor
  · intro h
    cases h with
    | item hitem h => exact ⟨_, hitem, h⟩
  · rintro ⟨item, hitem, h⟩
    exact .item hitem h

theorem holdsLarge_object_iff {fields : Fields} :
    (object fields).HoldsLarge ↔ ∃ field ∈ fields, field.2.HoldsLarge := by
  constructor
  · intro h
    cases h with
    | field hfield h => exact ⟨_, hfield, h⟩
  · rintro ⟨field, hfield, h⟩
    exact .field hfield h

/-- Of two steps that can only fail with too many digits, each under a condition of its own, the
    first or the second fails. -/
theorem bind_eq_tooLarge_iff {α β : Type} {first : Except Numeral.Fault α}
    {next : α → Except Numeral.Fault β} {P Q : Prop}
    (hfirst : ∀ fault, first = .error fault ↔ fault = .tooLarge ∧ P)
    (hnext : ∀ a fault, next a = .error fault ↔ fault = .tooLarge ∧ Q) (fault : Numeral.Fault) :
    first >>= next = .error fault ↔ fault = .tooLarge ∧ (P ∨ Q) := by
  cases first with
  | error other =>
    obtain ⟨rfl, hP⟩ := (hfirst other).1 rfl
    simp [bind, Except.bind, hP, eq_comm]
  | ok a =>
    have hP : ¬P := fun hP => nomatch (hfirst .tooLarge).2 ⟨rfl, hP⟩
    simp [bind, Except.bind, hP, hnext]

mutual

/-- A value can be shown unless it holds an integer that cannot be written. -/
theorem shown_eq_error_iff : (d : Document) → (fault : Numeral.Fault) →
    (d.shown = .error fault ↔ fault = .tooLarge ∧ d.HoldsLarge)
  | .null, _ | .bool _, _ | .float _, _ | .text _, _ | .brokenText _, _ | .bytes _, _ =>
    ⟨nofun, fun h => nomatch h.2⟩
  | .int n, fault => by
    rw [shown, Numeral.write_eq_error_iff, holdsLarge_int_iff]
  | .list items, fault => by
    rw [shown, bind_pure_comp, map_eq_error_iff, shownItems_eq_error_iff items fault,
      holdsLarge_list_iff]
  | .object fields, fault => by
    rw [shown, bind_pure_comp, map_eq_error_iff, shownFields_eq_error_iff fields fault,
      holdsLarge_object_iff]

theorem shownItems_eq_error_iff : (items : List Document) → (fault : Numeral.Fault) →
    (shownItems items = .error fault ↔
      fault = .tooLarge ∧ ∃ item ∈ items, item.HoldsLarge)
  | [], _ => ⟨nofun, by simp⟩
  | item :: rest, fault => by
    rw [shownItems, List.exists_mem_cons_iff]
    refine bind_eq_tooLarge_iff (shown_eq_error_iff item) (fun first other => ?_) fault
    rw [bind_pure_comp, map_eq_error_iff, shownItems_eq_error_iff rest other]

theorem shownFields_eq_error_iff : (fields : Fields) → (fault : Numeral.Fault) →
    (shownFields fields = .error fault ↔
      fault = .tooLarge ∧ ∃ field ∈ fields, field.2.HoldsLarge)
  | [], _ => ⟨nofun, by simp⟩
  | (name, value) :: rest, fault => by
    rw [shownFields, List.exists_mem_cons_iff]
    refine bind_eq_tooLarge_iff (shown_eq_error_iff value) (fun first other => ?_) fault
    rw [bind_pure_comp, map_eq_error_iff, shownFields_eq_error_iff rest other]

end

end Document

/-- Whether a failure is a fault of the command, as a malformed one is to give. -/
inductive Failure.IsOfCommand : Failure → Prop
  | command (error : Command.FormatError) : IsOfCommand (.command error)

namespace Command

/-- What breaks the reading of a command: an infinity for the amount of a counter, or a tag that
    cannot be shown. -/
inductive Breaks : Document → Fault → Prop
  | infinite {fields : Fields} {key : Text.Raw} {negative : Bool} :
      fields.lookup "command" = some (.text counterTag) →
      fields.lookup "key" = some (.ofRaw key) →
      fields.lookup "value" = some (.float (.infinite negative)) →
      Breaks (.object fields) .infinite
  | tag {fields : Fields} {tag : Document} : fields.lookup "command" = some tag →
      tag.HoldsLarge → Breaks (.object fields) (.numeral .tooLarge)

/-! ## Readers of kinds of commands -/

theorem isOfCommand_of_need {tag name : String} {fields : Fields} {failure : Failure}
    (h : need tag fields name = .error failure) : failure.IsOfCommand := by
  rw [need] at h
  split at h
  · cases h
  · cases h
    exact .command _

theorem isOfCommand_of_asText {error : FormatError} {d : Document} {failure : Failure}
    (h : asText error d = .error failure) : failure.IsOfCommand := by
  rw [asText] at h
  split at h
  · cases h
  · cases h
    exact .command _

/-- Only that an infinity has no integer part is no fault of the command. -/
theorem badValue_isOfCommand_iff {tag : String} {fault : Fault} :
    (badValue tag fault).IsOfCommand ↔ fault ≠ .infinite := by
  cases fault with
  | infinite => exact ⟨nofun, fun h => absurd rfl h⟩
  | _ => exact ⟨fun _ => nofun, fun _ => .command _⟩

theorem toAmount_eq_infinite_iff {d : Document} :
    d.toAmount = .error .infinite ↔ ∃ negative, d = .float (.infinite negative) := by
  constructor
  · intro h
    cases d with
    | text value =>
      obtain ⟨fault, -, hfault⟩ := mapError_eq_error_iff.1 h
      cases hfault
    | brokenText points =>
      obtain ⟨fault, -, hfault⟩ := mapError_eq_error_iff.1 h
      cases hfault
    | float value =>
      cases value with
      | infinite negative => exact ⟨negative, rfl⟩
      | finite negative significand exponent => cases h
      | nan => cases h
    | _ => cases h
  · rintro ⟨negative, rfl⟩
    rfl

theorem readCounter_of_infinite {fields : Fields} {key : Text.Raw} {negative : Bool}
    (hkey : fields.lookup "key" = some (.ofRaw key))
    (hvalue : fields.lookup "value" = some (.float (.infinite negative))) :
    readCounter fields = .error (.shape .infinite) := by
  simp [readCounter, need, asText, hkey, hvalue, Document.toAmount, Except.mapError, bind,
    Except.bind, badValue]

/-- A counter is refused, unless its key is a text and its amount an infinity. -/
theorem exists_infinite_of_readCounter {fields : Fields} {failure : Failure}
    (h : readCounter fields = .error failure) (hother : ¬failure.IsOfCommand) :
    failure = .shape .infinite ∧ ∃ key negative, fields.lookup "key" = some (.ofRaw key) ∧
      fields.lookup "value" = some (.float (.infinite negative)) := by
  rcases bind_eq_error_iff.1 h with h | ⟨d, hkey, h⟩
  · exact absurd (isOfCommand_of_need h) hother
  rcases bind_eq_error_iff.1 h with h | ⟨amount, hamount, h⟩
  · exact absurd (isOfCommand_of_need h) hother
  rcases bind_eq_error_iff.1 h with h | ⟨key, htext, h⟩
  · exact absurd (isOfCommand_of_asText h) hother
  rw [need_eq_ok_iff] at hkey hamount
  rw [asText_eq_ok_iff.1 htext] at hkey
  rcases bind_eq_error_iff.1 h with h | ⟨n, -, h⟩
  · obtain ⟨fault, hfault, rfl⟩ := mapError_eq_error_iff.1 h
    obtain rfl : fault = .infinite := by
      by_contra hne
      exact hother (badValue_isOfCommand_iff.2 hne)
    obtain ⟨negative, rfl⟩ := toAmount_eq_infinite_iff.1 hfault
    exact ⟨rfl, key, negative, hkey, hamount⟩
  rcases bind_eq_error_iff.1 h with h | ⟨value, -, h⟩
  · obtain ⟨fault, -, rfl⟩ := mapError_eq_error_iff.1 h
    have hcommand : (badValue counterTag (.numeral fault)).IsOfCommand :=
      badValue_isOfCommand_iff.2 nofun
    exact absurd hcommand hother
  · cases h

theorem elements_ne_infinite (d : Document) : d.elements ≠ .error .infinite := by
  rw [Document.elements]
  cases d.elements? with
  | none => simp
  | some items => simp

/-- A statement that cannot be read is refused. -/
theorem isOfCommand_of_readStatement {fields : Fields} {failure : Failure}
    (h : readStatement fields = .error failure) : failure.IsOfCommand := by
  rcases bind_eq_error_iff.1 h with h | ⟨d, -, h⟩
  · exact isOfCommand_of_need h
  rcases bind_eq_error_iff.1 h with h | ⟨sql, -, h⟩
  · exact isOfCommand_of_asText h
  dsimp only at h
  split at h
  · rcases bind_eq_error_iff.1 h with h | ⟨items, -, h⟩
    · obtain ⟨fault, hfault, rfl⟩ := mapError_eq_error_iff.1 h
      refine badValue_isOfCommand_iff.2 ?_
      rintro rfl
      exact elements_ne_infinite _ hfault
    · cases h
  · cases h

/-! ## The reader of commands -/

theorem lookup_of_field_ne_null {fields : Fields} {name : String}
    (h : Document.field fields name ≠ .null) :
    fields.lookup name = some (Document.field fields name) := by
  rw [Document.field] at h ⊢
  cases hlookup : fields.lookup name with
  | none =>
    rw [hlookup] at h
    exact absurd rfl h
  | some value => rfl

theorem ofDocument_of_counterTag {fields : Fields}
    (h : fields.lookup "command" = some (.text counterTag)) :
    ofDocument (.object fields) = readCounter fields := by
  rw [ofDocument, Document.field, h]
  rfl

theorem ofDocument_of_holdsLarge {fields : Fields} {tag : Document}
    (hlookup : fields.lookup "command" = some tag) (h : tag.HoldsLarge) :
    ofDocument (.object fields) = .error (.shape (.numeral .tooLarge)) := by
  have htag : Document.field fields "command" = tag := by
    rw [Document.field, hlookup]
    rfl
  have hshown : tag.shown = .error .tooLarge := (Document.shown_eq_error_iff tag _).2 ⟨rfl, h⟩
  -- a text holds no integer, so the tag is neither of the two that are known
  rcases ofDocument_object_cases fields with ⟨hknown, -⟩ | ⟨hknown, -⟩ | hread
  · cases hlookup.symm.trans hknown
    cases h
  · cases hlookup.symm.trans hknown
    cases h
  · rw [hread, htag, hshown]

/-- The failures of reading are faults of the command, apart from those on which it breaks. -/
theorem ofDocument_breaks_iff {d : Document} {failure : Failure} :
    ofDocument d = .error failure ∧ ¬failure.IsOfCommand ↔
      ∃ fault, failure = .shape fault ∧ Breaks d fault := by
  constructor
  · rintro ⟨h, hother⟩
    cases d with
    | object fields =>
      rcases ofDocument_object_cases fields with ⟨htag, hread⟩ | ⟨-, hread⟩ | hread
      · rw [hread] at h
        obtain ⟨rfl, key, negative, hkey, hvalue⟩ := exists_infinite_of_readCounter h hother
        exact ⟨_, rfl, .infinite htag hkey hvalue⟩
      · rw [hread] at h
        exact absurd (isOfCommand_of_readStatement h) hother
      · rw [hread] at h
        split at h
        · cases h
          exact absurd (.command _) hother
        · next fault hshown =>
          cases h
          obtain ⟨rfl, hlarge⟩ := (Document.shown_eq_error_iff _ _).1 hshown
          have hgiven : Document.field fields "command" ≠ .null := by
            intro hnull
            rw [hnull] at hlarge
            cases hlarge
          exact ⟨_, rfl, .tag (lookup_of_field_ne_null hgiven) hlarge⟩
    | _ =>
      cases h
      exact absurd (.command _) hother
  · rintro ⟨fault, rfl, hbreaks⟩
    refine ⟨?_, nofun⟩
    cases hbreaks with
    | infinite htag hkey hvalue =>
      rw [ofDocument_of_counterTag htag, readCounter_of_infinite hkey hvalue]
    | tag hlookup hlarge => exact ofDocument_of_holdsLarge hlookup hlarge

/-- The counters that are read. -/
theorem ofDocument_eq_counter_iff {fields : Fields} {key : Text.Raw} {value : String} :
    ofDocument (.object fields) = .ok (.counter key value) ↔
      fields.lookup "command" = some (.text counterTag) ∧
        fields.lookup "key" = some (.ofRaw key) ∧
        ∃ amount n, fields.lookup "value" = some amount ∧ amount.toAmount = .ok n ∧
          Numeral.write n = .ok value := by
  constructor
  · intro h
    rcases ofDocument_object_cases fields with ⟨htag, hread⟩ | ⟨-, hread⟩ | hread
    · rw [hread] at h
      obtain ⟨_, amount, n, _, hkey, hamount, hn, hvalue, ⟨⟩⟩ := readCounter_eq_ok_iff.1 h
      exact ⟨htag, hkey, amount, n, hamount, hn, hvalue⟩
    · rw [hread] at h
      obtain ⟨sql, params, heq⟩ := exists_of_readStatement h
      cases heq
    · rw [hread] at h
      split at h
      · cases h
      · cases h
  · rintro ⟨htag, hkey, amount, n, hamount, hn, hvalue⟩
    rw [ofDocument_of_counterTag htag]
    exact readCounter_eq hkey hamount hn hvalue

/-- Among documents with a number for an amount, those that are read as counters: the value is
    the numeral of the integer part. -/
theorem ofDocument_eq_counter_iff_of_number {fields : Fields} {amount : Document} {q : ℚ}
    (hamount : fields.lookup "value" = some amount) (hq : amount.number? = some q)
    (key : Text.Raw) (value : String) :
    ofDocument (.object fields) = .ok (.counter key value) ↔
      fields.lookup "command" = some (.text counterTag) ∧
        fields.lookup "key" = some (.ofRaw key) ∧
        (towardsZero q).natAbs < Numeral.bound ∧ value = toString (towardsZero q) := by
  rw [ofDocument_eq_counter_iff]
  refine and_congr_right fun _ => and_congr_right fun _ => ?_
  constructor
  · rintro ⟨other, n, hother, hn, hvalue⟩
    cases hamount.symm.trans hother
    cases (Document.toAmount_of_number? hq).symm.trans hn
    rwa [Numeral.write_eq_ok_iff] at hvalue
  · rintro ⟨hbound, rfl⟩
    exact ⟨amount, _, hamount, Document.toAmount_of_number? hq,
      Numeral.write_eq_ok_iff.2 ⟨hbound, rfl⟩⟩

/-- Reading gives a command, or a fault of the command, or it breaks, where the documents that
    break it are told exactly. A document with a number for an amount is read as a counter unless
    its integer part has too many digits, and the value is that integer part. The amount is kept
    if it is an integer, and only then. -/
theorem breaks_or_drops_fraction (d : Document) :
    (∀ failure, ofDocument d = .error failure ∧ ¬failure.IsOfCommand ↔
      ∃ fault, failure = .shape fault ∧ Breaks d fault) ∧
    ∀ fields amount q, d = .object fields → fields.lookup "value" = some amount →
      amount.number? = some q → ∀ key value,
      (ofDocument d = .ok (.counter key value) ↔
        fields.lookup "command" = some (.text counterTag) ∧
          fields.lookup "key" = some (.ofRaw key) ∧
          (towardsZero q).natAbs < Numeral.bound ∧ value = toString (towardsZero q)) ∧
      (ofDocument d = .ok (.counter key value) → ∃ n, Numeral.read value = .ok n ∧
        n = towardsZero q ∧ ((n : ℚ) = q ↔ ∃ m : ℤ, (m : ℚ) = q)) := by
  refine ⟨fun failure => ofDocument_breaks_iff, ?_⟩
  rintro fields amount q rfl hamount hq key value
  have hcounter := ofDocument_eq_counter_iff_of_number hamount hq key value
  refine ⟨hcounter, fun hread => ?_⟩
  obtain ⟨-, -, hbound, rfl⟩ := hcounter.1 hread
  exact ⟨_, Numeral.read_toString hbound, rfl, towardsZero_eq_iff⟩

/-- A counter whose amount is one and a half. -/
def fractionalCounter : Fields :=
  [("command", .text counterTag), ("key", .text "k"),
    ("value", .float (.finite false (3 * 2 ^ 51) (-52)))]

/-- A counter under half of a surrogate pair whose amount is an infinity. -/
def endlessCounter : Fields :=
  [("command", .text counterTag), ("key", .brokenText [0xD800]),
    ("value", .float (.infinite false))]

theorem number?_oneAndHalf :
    (Document.float (.finite false (3 * 2 ^ 51) (-52))).number? = some (3 / 2) := by
  rw [Document.number?, Binary64.value?]
  norm_num

theorem towardsZero_oneAndHalf : towardsZero (3 / 2) = 1 := by
  rw [towardsZero_of_nonneg (by norm_num)]
  norm_num

theorem endlessCounter_breaks : Breaks (.object endlessCounter) .infinite :=
  @Breaks.infinite _ (.broken [0xD800]) _ rfl rfl rfl

/-- One and a half is read as one, which is not the amount. The infinity breaks the reading, and
    so does a tag with an integer that cannot be written. -/
theorem breaks_or_drops_fraction_fractionalCounter :
    ofDocument (.object fractionalCounter) = .ok (.counter (.whole "k") "1") ∧
    (∃ n, Numeral.read "1" = .ok n ∧ (n : ℚ) ≠ 3 / 2) ∧
    ofDocument (.object endlessCounter) = .error (.shape .infinite) ∧
    ofDocument (.object [("command", .int Numeral.bound)]) =
      .error (.shape (.numeral .tooLarge)) := by
  obtain ⟨-, hamounts⟩ := breaks_or_drops_fraction (.object fractionalCounter)
  obtain ⟨hread, hkept⟩ := hamounts _ _ _ rfl rfl number?_oneAndHalf (.whole "k") "1"
  rw [towardsZero_oneAndHalf] at hread hkept
  have hcounter := hread.2 ⟨rfl, rfl, by decide +kernel, by decide⟩
  obtain ⟨n, hn, rfl, -⟩ := hkept hcounter
  have hendless := ((breaks_or_drops_fraction (.object endlessCounter)).1 _).2
    ⟨_, rfl, endlessCounter_breaks⟩
  have htag : Breaks (.object [("command", .int Numeral.bound)]) (.numeral .tooLarge) :=
    .tag rfl (Document.holdsLarge_int_iff.2 (Int.natAbs_natCast _).ge)
  have hlarge := ((breaks_or_drops_fraction _).1 _).2 ⟨_, rfl, htag⟩
  exact ⟨hcounter, ⟨1, hn, by norm_num⟩, hendless.1, hlarge.1⟩

/-- Not every document that is no command is refused with a fault of the command, and not every
    number that is read as the amount of a counter is kept. -/
theorem not_refused_or_kept :
    (¬∀ d : Document, (∃ command, ofDocument d = .ok command) ∨
      ∃ error, ofDocument d = .error (.command error)) ∧
    ¬∀ fields amount q key value, fields.lookup "value" = some amount →
      amount.number? = some q → ofDocument (.object fields) = .ok (.counter key value) →
      ∃ n, Numeral.read value = .ok n ∧ (n : ℚ) = q := by
  constructor
  · intro h
    have hbroken : ofDocument (.object endlessCounter) = .error (.shape .infinite) :=
      (ofDocument_breaks_iff.2 ⟨_, rfl, endlessCounter_breaks⟩).1
    rcases h (.object endlessCounter) with ⟨command, hcommand⟩ | ⟨error, herror⟩
    · rw [hbroken] at hcommand
      cases hcommand
    · rw [hbroken] at herror
      cases herror
  · intro h
    have hread := h fractionalCounter _ _ (.whole "k") (toString (towardsZero (3 / 2))) rfl
      number?_oneAndHalf
    rw [ofDocument_eq_counter_iff_of_number rfl number?_oneAndHalf, towardsZero_oneAndHalf] at hread
    obtain ⟨n, -, hn⟩ := hread ⟨rfl, rfl, by decide +kernel, rfl⟩
    -- twice the integer would be three
    have hodd : (2 * n : ℚ) = 3 := by
      rw [hn]
      norm_num
    norm_cast at hodd
    omega

end Command

end UtxoBalance

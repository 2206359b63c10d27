import UtxoBalance.Proofs.CheckedSettings
import UtxoBalance.Proofs.TableName

/-!
# The fields of reduction settings

An object is taken for the settings of a reduction if each of its fields is one of five and
holds one of the texts that this field may hold. Two of the fields have two spellings, and
each has to be given under one of them only, since the spelling that is not looked at counts
as a field of no known name. The check of a field is a way to read texts, and the five checks
differ in what is written and in what is let through, so that one statement about such
checks serves all of them.

The settings then say which emitter to build, and it can be built: a table is named where
rows are asked for, and the emitter looks at its name less closely than the settings did.

## Main definitions

- `Settings.Reads` — a check that reads texts
- `Settings.Spelled`, `Settings.Holds` — what a field holds
- `Settings.Reduction.IsWrittenIn` — the settings that an object holds
- `Settings.Reduction.IsObjectOf` — the objects that hold settings

## Main statements

- `Settings.Reads.required_eq_ok_iff`, `Settings.Reads.optional_eq_ok_iff`,
  `Settings.Reads.nullable_eq_ok_iff` — the check of a field
- `Settings.extras_ofFields_iff`, `Settings.Reduction.mem_knownNames_iff` — the fields that
  are there
- `Settings.Reduction.ofDocument_eq_ok_iff` — the settings behind an object
- `Settings.Reduction.ofDocument_takes_and_builds` — which objects are taken, and what is
  built for them
-/

namespace UtxoBalance

/-- An object without byte strings, as a JSON text holds it. -/
def Fields.HasNoBytes (fields : Fields) : Prop :=
  ∀ field ∈ fields, ∀ octets, field.2 ≠ .bytes octets

theorem Fields.mem_of_lookup {fields : Fields} {name : String} {d : Document}
    (h : fields.lookup name = some d) : (name, d) ∈ fields := by
  obtain ⟨before, after, rfl, -⟩ := List.lookup_eq_some_iff.1 h
  simp

theorem Fields.isSome_lookup_iff {fields : Fields} {name : String} :
    (fields.lookup name).isSome ↔ ∃ field ∈ fields, field.1 = name := by
  rw [List.lookup_isSome_iff]
  exact exists_congr fun field => and_congr_right fun _ => by rw [beq_iff_eq, eq_comm]

theorem Given.ofFields_eq_map (fields : Fields) :
    ofFields fields = fields.map fun field => (.text (.whole field.1), ofDocument field.2) := by
  induction fields with
  | nil => rfl
  | cons field rest ih => rw [ofFields, ih, List.map_cons]

namespace Settings

/-! ## Checks that read texts -/

/-- A check reads the texts in which values are written, and of these values it takes those
    that are as asked. -/
def Reads {α : Type} (check : Given → Checked α) (write : α → String) (Taken : α → Prop) : Prop :=
  ∀ d : Document, (∀ octets, d ≠ .bytes octets) → ∀ a,
    check (.ofDocument d) = .ok a ↔ d = .text (write a) ∧ Taken a

theorem reads_characters : Reads characters id fun _ => True := by
  intro d hd chars
  cases d with
  | text value => simp [Given.ofDocument, characters, text, Text.Raw.whole?, bind, Except.bind]
  | bytes octets => exact absurd rfl (hd octets)
  | null | bool _ | int _ | float _ | brokenText _ | list _ | object _ =>
    simp [Given.ofDocument, characters, text, Text.Raw.whole?, Checked.refuse, bind, Except.bind]

theorem reads_checkKeyspace : Reads Reduction.checkKeyspace id (· ≠ "") := by
  intro d hd keyspace
  rw [Reduction.checkKeyspace, bind_eq_ok_iff]
  simp only [reads_characters d hd, id, and_true]
  constructor
  · rintro ⟨value, rfl, hvalue⟩
    by_cases hempty : value.isEmpty = true
    · rw [if_pos hempty] at hvalue
      cases hvalue
    · rw [if_neg hempty] at hvalue
      cases hvalue
      exact ⟨rfl, by simpa using hempty⟩
  · rintro ⟨rfl, hne⟩
    exact ⟨keyspace, rfl, by rw [if_neg (by simpa using hne)]; rfl⟩

theorem reads_checkTable : Reads Reduction.checkTable id fun table => table.toList ∈ Table.names := by
  intro d hd table
  rw [Reduction.checkTable, bind_eq_ok_iff]
  simp only [reads_characters d hd, id, and_true, ← Table.isName_iff]
  constructor
  · rintro ⟨value, rfl, hvalue⟩
    by_cases hname : Table.isName value = true
    · rw [if_pos hname] at hvalue
      cases hvalue
      exact ⟨rfl, hname⟩
    · rw [if_neg hname] at hvalue
      cases hvalue
  · rintro ⟨rfl, hname⟩
    exact ⟨table, rfl, by rw [if_pos hname]; rfl⟩

/-- A value is found by its name, if no other has that name. -/
theorem lookup_map_name_eq_some_iff {α : Type} {name : α → String} (h : Function.Injective name)
    {values : List α} {text : String} {a : α} :
    (values.map fun value => (name value, value)).lookup text = some a ↔
      text = name a ∧ a ∈ values := by
  induction values with
  | nil => simp
  | cons value rest ih =>
    rw [List.map_cons, List.lookup_cons]
    by_cases hvalue : text = name value
    · rw [hvalue, beq_self_eq_true, h.eq_iff, List.mem_cons]
      dsimp only
      rw [Option.some.injEq]
      exact ⟨fun heq => ⟨heq, .inl heq.symm⟩, And.left⟩
    · rw [beq_false_of_ne hvalue]
      dsimp only
      rw [ih, List.mem_cons]
      refine and_congr_right fun htext => (or_iff_right ?_).symm
      rintro rfl
      exact hvalue htext

theorem elim_refuse_eq_ok_iff {α : Type} {found : Option α} {trouble : Trouble} {a : α} :
    found.elim (Checked.refuse trouble) .ok = (.ok a : Checked α) ↔ found = some a := by
  cases found with
  | none => simp [Checked.refuse]
  | some other => simp

theorem reads_oneOf {α : Type} {name : α → String} (h : Function.Injective name)
    {values : List α} (hall : ∀ a, a ∈ values) :
    Reads (oneOf (values.map fun value => (name value, value))) name fun _ => True := by
  intro d _ a
  cases d with
  | text value =>
    rw [Given.ofDocument, oneOf]
    dsimp only
    rw [elim_refuse_eq_ok_iff, lookup_map_name_eq_some_iff h]
    simp [hall]
  | null | bool _ | int _ | float _ | brokenText _ | bytes _ | list _ | object _ =>
    simp [Given.ofDocument, oneOf, Checked.refuse]

theorem reads_enumerated {α : Type} {name : α → String} (h : Function.Injective name)
    {values : List α} (hall : ∀ a, a ∈ values) :
    Reads (enumerated (values.map fun value => (name value, value))) name fun _ => True := by
  intro d hd a
  cases d with
  | text value =>
    rw [Given.ofDocument, enumerated, text]
    dsimp only
    rw [elim_refuse_eq_ok_iff, lookup_map_name_eq_some_iff h]
    simp [hall]
  | bytes octets => exact absurd rfl (hd octets)
  | null | bool _ | int _ | float _ | brokenText _ | list _ | object _ =>
    simp [Given.ofDocument, enumerated, text, Checked.refuse]

/-! ## Fields -/

/-- A field is absent or null. -/
def IsUnset (fields : Fields) (name : String) : Prop :=
  fields.lookup name = none ∨ fields.lookup name = some .null

/-- A field holds the text in which a value is written, and is unset where there is none. -/
def Holds {α : Type} (write : α → String) (fields : Fields) (name : String) :
    Option α → Prop
  | none => IsUnset fields name
  | some a => fields.lookup name = some (.text (write a))

/-- A field with two spellings holds a text under one of them, and the other is absent. -/
def Spelled (fields : Fields) (first second text : String) : Prop :=
  fields.lookup first = some (.text text) ∧ fields.lookup second = none ∨
    fields.lookup first = none ∧ fields.lookup second = some (.text text)

theorem Holds.not_isUnset {α : Type} {write : α → String} {fields : Fields} {name : String} {a : α}
    (h : Holds write fields name (some a)) : ¬IsUnset fields name := by
  rintro (hnone | hnull)
  · cases h.symm.trans hnone
  · cases h.symm.trans hnull

theorem Holds.eq_some {α : Type} {write : α → String} {fields : Fields} {name : String}
    {value : Option α} (h : Holds write fields name value) (hwrite : Function.Injective write)
    {a : α} (ha : fields.lookup name = some (.text (write a))) : value = some a := by
  cases value with
  | none => exact absurd h (Holds.not_isUnset ha)
  | some other =>
    have heq := h.symm.trans ha
    rw [Option.some.injEq, Document.text.injEq] at heq
    rw [hwrite heq]

namespace Reads

variable {α : Type} {check : Given → Checked α} {write : α → String} {Taken : α → Prop}
  {fields : Fields} {name : String}

theorem check_lookup_iff (h : Reads check write Taken) (hfields : fields.HasNoBytes) {a : α} :
    (∃ given, Given.Entries.named? (Given.ofFields fields) name = some given ∧ check given = .ok a) ↔
      fields.lookup name = some (.text (write a)) ∧ Taken a := by
  simp only [Given.named?_ofFields, Option.map_eq_some_iff]
  constructor
  · rintro ⟨_, ⟨d, hd, rfl⟩, hcheck⟩
    have hbytes := hfields _ (Fields.mem_of_lookup hd)
    obtain ⟨rfl, ha⟩ := (h d hbytes a).1 hcheck
    exact ⟨hd, ha⟩
  · rintro ⟨hd, ha⟩
    exact ⟨_, ⟨_, hd, rfl⟩, (h (.text (write a)) (fun _ => nofun) a).2 ⟨rfl, ha⟩⟩

theorem required_eq_ok_iff (h : Reads check write Taken) (hfields : fields.HasNoBytes) {a : α} :
    required check (Given.ofFields fields) name = .ok a ↔
      fields.lookup name = some (.text (write a)) ∧ Taken a := by
  rw [Settings.required_eq_ok_iff, h.check_lookup_iff hfields]

theorem optional_eq_ok_iff (h : Reads check write Taken) (hfields : fields.HasNoBytes)
    {fallback a : α} :
    optional fallback check (Given.ofFields fields) name = .ok a ↔
      fields.lookup name = none ∧ a = fallback ∨
        fields.lookup name = some (.text (write a)) ∧ Taken a := by
  rw [Settings.optional_eq_ok_iff, h.check_lookup_iff hfields, Given.named?_ofFields,
    Option.map_eq_none_iff]

theorem nullable_ofDocument_iff (h : Reads check write Taken) {d : Document}
    (hd : ∀ octets, d ≠ .bytes octets) {value : Option α} :
    nullable check (.ofDocument d) = .ok value ↔
      d = .null ∧ value = none ∨ ∃ a, value = some a ∧ d = .text (write a) ∧ Taken a := by
  by_cases hnull : d = .null
  · subst hnull
    simp [Given.ofDocument, nullable, eq_comm]
  · have hgiven : nullable check (.ofDocument d) = some <$> check (.ofDocument d) := by
      unfold nullable
      split
      · next heq =>
        cases d with
        | null => exact absurd rfl hnull
        | bool _ | int _ | float _ | text _ | brokenText _ | bytes _ | list _ | object _ => cases heq
      · rfl
    rw [hgiven, map_eq_ok_iff]
    simp only [h d hd, hnull, false_and, false_or]
    exact ⟨fun ⟨a, ha, hvalue⟩ => ⟨a, hvalue.symm, ha⟩, fun ⟨a, hvalue, ha⟩ => ⟨a, ha, hvalue.symm⟩⟩

theorem nullable_eq_ok_iff (h : Reads check write Taken) (hfields : fields.HasNoBytes)
    {value : Option α} :
    optional none (nullable check) (Given.ofFields fields) name = .ok value ↔
      Holds write fields name value ∧ ∀ a ∈ value, Taken a := by
  rw [Settings.optional_eq_ok_iff, Given.named?_ofFields]
  cases hd : fields.lookup name with
  | none =>
    cases value with
    | none => simp [Holds, IsUnset, hd]
    | some a => simp [Holds, hd]
  | some d =>
    have hbytes := hfields _ (Fields.mem_of_lookup hd)
    simp only [Option.map_some, Option.some.injEq, exists_eq_left',
      h.nullable_ofDocument_iff hbytes, reduceCtorEq, false_and, false_or]
    cases value with
    | none => simp [Holds, IsUnset, hd]
    | some a => simp [Holds, hd]

end Reads

/-! ## Fields of no known name -/

theorem extras_eq_ok_iff {known : List String} {entries : Given.Entries} :
    extras known entries = .ok () ↔ ∀ entry ∈ entries,
      extraTrouble? (known.filter fun name => (entries.named? name).isSome) entry.1 = none := by
  rw [extras]
  dsimp only
  split
  · next hempty =>
    rw [List.isEmpty_iff, List.filterMap_eq_nil_iff] at hempty
    simpa using hempty
  · next hempty =>
    rw [List.isEmpty_iff, List.filterMap_eq_nil_iff] at hempty
    simpa using hempty

/-- No other field is there than those that are known. -/
theorem extras_ofFields_iff {known : List String} {fields : Fields} :
    extras known (Given.ofFields fields) = .ok () ↔
      ∀ name, (fields.lookup name).isSome → name ∈ known := by
  rw [extras_eq_ok_iff, Given.ofFields_eq_map, List.forall_mem_map, ← Given.ofFields_eq_map]
  simp only [Fields.isSome_lookup_iff, forall_exists_index, and_imp, forall_apply_eq_imp_iff₂]
  refine forall₂_congr fun field hfield => ?_
  -- a field that is there is among the known ones that are there if it is known
  have hthere : (Given.Entries.named? (Given.ofFields fields) field.1).isSome := by
    rw [Given.named?_ofFields, Option.isSome_map]
    exact Fields.isSome_lookup_iff.2 ⟨field, hfield, rfl⟩
  simp only [extraTrouble?, keyName?, Text.Raw.whole?, List.contains_eq_mem, List.mem_filter,
    hthere, and_true, decide_eq_true_eq, ite_eq_left_iff, reduceCtorEq, imp_false, not_not]

/-! ## Two spellings -/

section Spelling

variable {fields : Fields} {first second : String}

theorem spelling_ofFields (fields : Fields) (first second : String) :
    spelling (Given.ofFields fields) first second =
      if (fields.lookup first).isNone && (fields.lookup second).isSome then second else first := by
  rw [spelling, Given.named?_ofFields, Given.named?_ofFields, Option.isNone_map, Option.isSome_map]

/-- A field is not given under both of its spellings. -/
def SpelledOnce (fields : Fields) (first second : String) : Prop :=
  fields.lookup first = none ∨ fields.lookup second = none

/-- The spelling that is looked at holds what the field holds. -/
theorem spelled_iff {text : String} :
    Spelled fields first second text ↔ SpelledOnce fields first second ∧
      fields.lookup (spelling (Given.ofFields fields) first second) = some (.text text) := by
  rw [spelling_ofFields, Spelled, SpelledOnce]
  cases hfirst : fields.lookup first with
  | none =>
    cases hsecond : fields.lookup second with
    | none => simp [hfirst]
    | some d => simp [hsecond]
  | some d =>
    cases hsecond : fields.lookup second with
    | none => simp [hfirst]
    | some other => simp

theorem lookup_spelling_eq_none_iff :
    fields.lookup (spelling (Given.ofFields fields) first second) = none ↔
      fields.lookup first = none ∧ fields.lookup second = none := by
  rw [spelling_ofFields]
  cases hfirst : fields.lookup first with
  | none =>
    cases hsecond : fields.lookup second with
    | none => simp [hfirst]
    | some d => simp [hsecond]
  | some d => simp [hfirst]

theorem eq_or_of_eq_spelling {name : String}
    (h : name = spelling (Given.ofFields fields) first second) : name = first ∨ name = second := by
  rw [spelling] at h
  split at h
  · exact .inr h
  · exact .inl h

theorem ne_spelling (fields : Fields) {name : String} (hfirst : name ≠ first)
    (hsecond : name ≠ second) : name ≠ spelling (Given.ofFields fields) first second :=
  fun h => (eq_or_of_eq_spelling h).elim hfirst hsecond

/-- Where a field is given under one spelling only, this is the one that is looked at. -/
theorem eq_spelling_iff (h : SpelledOnce fields first second) {name : String}
    (hname : (fields.lookup name).isSome) :
    name = spelling (Given.ofFields fields) first second ↔ name = first ∨ name = second := by
  refine ⟨eq_or_of_eq_spelling, ?_⟩
  · rw [spelling_ofFields]
    rintro (rfl | rfl)
    · rw [if_neg (by simp [Option.isNone_iff_eq_none, Option.isSome_iff_ne_none.1 hname])]
    · rcases h with hfirst | hsecond
      · rw [if_pos (by simp [hfirst, hname])]
      · rw [hsecond] at hname
        cases hname

/-- If no other names are known than the spelling that is looked at and some that are no
    spellings of the field, the field is given under one spelling only. -/
theorem spelledOnce_of_known (others : List String) (hne : first ≠ second)
    (hfirst : first ∉ others) (hsecond : second ∉ others)
    (h : ∀ name, (fields.lookup name).isSome →
      name = spelling (Given.ofFields fields) first second ∨ name ∈ others) :
    SpelledOnce fields first second := by
  by_contra hboth
  obtain ⟨hone, hother⟩ := not_or.1 hboth
  have heq := (h first (Option.isSome_iff_ne_none.2 hone)).resolve_right hfirst
  have heq' := (h second (Option.isSome_iff_ne_none.2 hother)).resolve_right hsecond
  exact hne (heq.trans heq'.symm)

end Spelling

namespace Reduction

variable {fields : Fields}

/-! ## Settings in an object -/

/-- The names under which the fields of the settings can be given. -/
def fieldNames : List String :=
  ["addressType", "address_type", "prefix", "table", "backend", "onDecodeError",
    "on_decode_error"]

/-- The names under which they are looked at. -/
def knownNames (fields : Fields) : List String :=
  [spelling (Given.ofFields fields) "addressType" "address_type", "prefix", "table", "backend",
    spelling (Given.ofFields fields) "onDecodeError" "on_decode_error"]

theorem mem_knownNames_iff (fields : Fields) :
    (∀ name, (fields.lookup name).isSome → name ∈ knownNames fields) ↔
      SpelledOnce fields "addressType" "address_type" ∧
        SpelledOnce fields "onDecodeError" "on_decode_error" ∧
        ∀ field ∈ fields, field.1 ∈ fieldNames := by
  constructor
  · intro h
    -- no spelling of one field is what is looked at for the other
    have hmode := ne_spelling fields (by decide : "addressType" ≠ "onDecodeError")
      (by decide : "addressType" ≠ "on_decode_error")
    have hmode' := ne_spelling fields (by decide : "address_type" ≠ "onDecodeError")
      (by decide : "address_type" ≠ "on_decode_error")
    have hpolicy := ne_spelling fields (by decide : "onDecodeError" ≠ "addressType")
      (by decide : "onDecodeError" ≠ "address_type")
    have hpolicy' := ne_spelling fields (by decide : "on_decode_error" ≠ "addressType")
      (by decide : "on_decode_error" ≠ "address_type")
    simp only [knownNames, List.mem_cons, List.not_mem_nil, or_false] at h
    refine ⟨spelledOnce_of_known ["prefix", "table", "backend",
        spelling (Given.ofFields fields) "onDecodeError" "on_decode_error"] (by decide)
        (by simp [hmode]) (by simp [hmode']) (by simpa using h), spelledOnce_of_known
        [spelling (Given.ofFields fields) "addressType" "address_type", "prefix", "table",
        "backend"] (by decide) (by simp [hpolicy]) (by simp [hpolicy']) fun name hthere => ?_,
        fun field hfield => ?_⟩
    · have hname := h name hthere
      simp only [List.mem_cons, List.not_mem_nil, or_false]
      tauto
    · have hname := h field.1 (Fields.isSome_lookup_iff.2 ⟨field, hfield, rfl⟩)
      have hmodes := @eq_or_of_eq_spelling fields "addressType" "address_type" field.1
      have hpolicies := @eq_or_of_eq_spelling fields "onDecodeError" "on_decode_error" field.1
      simp only [fieldNames, List.mem_cons, List.not_mem_nil, or_false]
      tauto
  · rintro ⟨hmodes, hpolicies, hnames⟩ name hthere
    obtain ⟨field, hfield, rfl⟩ := Fields.isSome_lookup_iff.1 hthere
    have hname := hnames field hfield
    simp only [knownNames, fieldNames, List.mem_cons, List.not_mem_nil, or_false,
      eq_spelling_iff hmodes hthere, eq_spelling_iff hpolicies hthere] at hname ⊢
    tauto

/-- Settings whose fields an object holds, and nothing else. -/
structure IsWrittenIn (settings : Reduction) (fields : Fields) : Prop where
  mode : Spelled fields "addressType" "address_type" settings.mode.name
  keyspace : Holds id fields "prefix" settings.keyspace
  table : Holds id fields "table" settings.table
  backend : Holds Backend.name fields "backend" settings.backend
  /-- A policy that is not given is the strict one. -/
  policy : Spelled fields "onDecodeError" "on_decode_error" settings.policy.name ∨
    fields.lookup "onDecodeError" = none ∧ fields.lookup "on_decode_error" = none ∧
      settings.policy = .strict
  known : ∀ field ∈ fields, field.1 ∈ fieldNames
  keyspace_ne : ∀ keyspace ∈ settings.keyspace, keyspace ≠ ""
  table_mem : ∀ table ∈ settings.table, table.toList ∈ Table.names
  table_isSome : settings.resolvedBackend = .relational → settings.table.isSome

theorem reads_modes : Reads (enumerated modes) Address.Mode.name fun _ => True := by
  refine reads_enumerated (fun first second => ?_) fun mode => ?_
  · cases first <;> cases second <;> decide
  · cases mode <;> decide

theorem backendName_injective : Function.Injective Backend.name := by
  intro first second
  cases first <;> cases second <;> decide

theorem reads_backends : Reads (oneOf backends) Backend.name fun _ => True :=
  reads_oneOf backendName_injective fun backend => by cases backend <;> decide

theorem reads_policies : Reads (oneOf policies) Policy.name fun _ => True := by
  refine reads_oneOf (fun first second => ?_) fun policy => ?_
  · cases first <;> cases second <;> decide
  · cases policy <;> decide

/-- The check of the fields gives the settings that they hold, and no others. -/
theorem ofEntries_eq_ok_iff (h : fields.HasNoBytes) {settings : Reduction} :
    ofEntries (Given.ofFields fields) = .ok settings ↔ settings.IsWrittenIn fields := by
  rw [ofEntries]
  dsimp only
  rw [bind_eq_ok_iff]
  constructor
  · rintro ⟨⟨⟨mode, keyspace, table, backend, policy⟩, ⟨⟩⟩, hfields, hbackend⟩
    simp only [Checked.also_eq_ok_iff, reads_modes.required_eq_ok_iff h,
      reads_checkKeyspace.nullable_eq_ok_iff h, reads_checkTable.nullable_eq_ok_iff h,
      reads_backends.nullable_eq_ok_iff h, reads_policies.optional_eq_ok_iff h,
      extras_ofFields_iff] at hfields
    obtain ⟨⟨⟨hmode, -⟩, ⟨hkeyspace, hne⟩, ⟨htable, hmem⟩, ⟨hstore, -⟩, hpolicy⟩, hknown⟩ := hfields
    obtain ⟨hmodes, hpolicies, hnames⟩ := (mem_knownNames_iff fields).1 hknown
    obtain ⟨rfl, hrows⟩ := checkBackend_eq_ok_iff.1 hbackend
    refine ⟨spelled_iff.2 ⟨hmodes, hmode⟩, hkeyspace, htable, hstore, ?_, hnames, hne, hmem, hrows⟩
    rcases hpolicy with ⟨hnone, hstrict⟩ | ⟨htext, -⟩
    · obtain ⟨hfirst, hsecond⟩ := lookup_spelling_eq_none_iff.1 hnone
      exact .inr ⟨hfirst, hsecond, hstrict⟩
    · exact .inl (spelled_iff.2 ⟨hpolicies, htext⟩)
  · intro hwritten
    obtain ⟨hmodes, hmode⟩ := spelled_iff.1 hwritten.mode
    refine ⟨((settings.mode, settings.keyspace, settings.table, settings.backend,
      settings.policy), ()), ?_, checkBackend_eq_ok_iff.2 ⟨rfl, hwritten.table_isSome⟩⟩
    simp only [Checked.also_eq_ok_iff, reads_modes.required_eq_ok_iff h,
      reads_checkKeyspace.nullable_eq_ok_iff h, reads_checkTable.nullable_eq_ok_iff h,
      reads_backends.nullable_eq_ok_iff h, reads_policies.optional_eq_ok_iff h,
      extras_ofFields_iff]
    have hpolicy : SpelledOnce fields "onDecodeError" "on_decode_error" ∧
        (fields.lookup (spelling (Given.ofFields fields) "onDecodeError" "on_decode_error") = none ∧
          settings.policy = .strict ∨
        fields.lookup (spelling (Given.ofFields fields) "onDecodeError" "on_decode_error") =
          some (.text settings.policy.name) ∧ True) := by
      rcases hwritten.policy with hspelled | ⟨hfirst, hsecond, hstrict⟩
      · obtain ⟨hpolicies, htext⟩ := spelled_iff.1 hspelled
        exact ⟨hpolicies, .inr ⟨htext, trivial⟩⟩
      · exact ⟨.inl hfirst, .inl ⟨lookup_spelling_eq_none_iff.2 ⟨hfirst, hsecond⟩, hstrict⟩⟩
    exact ⟨⟨⟨hmode, trivial⟩, ⟨hwritten.keyspace, hwritten.keyspace_ne⟩,
      ⟨hwritten.table, hwritten.table_mem⟩, ⟨hwritten.backend, fun _ _ => trivial⟩, hpolicy.2⟩,
      (mem_knownNames_iff fields).2 ⟨hmodes, hpolicy.1, hwritten.known⟩⟩

/-- The settings behind an object are those that its fields hold. -/
theorem ofDocument_eq_ok_iff (h : fields.HasNoBytes) {settings : Reduction} :
    ofDocument (.object fields) = .ok settings ↔ settings.IsWrittenIn fields := by
  rw [ofDocument, report, mapError_eq_ok_iff]
  exact ofEntries_eq_ok_iff h

/-! ## Objects that are taken -/

/-- What an object has to hold to be taken for settings, where a keyspace is a text that is not
    empty and has a property. -/
structure IsObjectOf (Keyspace : Text.Raw → Prop) (fields : Fields) : Prop where
  mode : ∃ text ∈ ["payment", "stake"], Spelled fields "addressType" "address_type" text
  keyspace : IsUnset fields "prefix" ∨ ∃ text : Text.Raw,
    fields.lookup "prefix" = some (.ofRaw text) ∧ text.isEmpty = false ∧ Keyspace text
  table : IsUnset fields "table" ∨
    ∃ text, fields.lookup "table" = some (.text text) ∧ text.toList ∈ Table.names
  backend : IsUnset fields "backend" ∨
    ∃ text ∈ ["crdt", "relational"], fields.lookup "backend" = some (.text text)
  policy : fields.lookup "onDecodeError" = none ∧ fields.lookup "on_decode_error" = none ∨
    ∃ text ∈ ["strict", "lenient"], Spelled fields "onDecodeError" "on_decode_error" text
  known : ∀ field ∈ fields, field.1 ∈ fieldNames
  /-- Rows are not asked for without a table. -/
  backed : ¬(fields.lookup "backend" = some (.text "relational") ∧ IsUnset fields "table")

/-- Settings ask for the rows of a table: by name, or by naming a table and no store. -/
def AsksForRows (settings : Reduction) : Prop :=
  settings.backend = some .relational ∨ settings.backend = none ∧ settings.table.isSome

theorem resolvedBackend_eq_relational_iff {settings : Reduction} :
    settings.resolvedBackend = .relational ↔ settings.AsksForRows := by
  rw [resolvedBackend, AsksForRows]
  cases settings.backend with
  | none => cases settings.table <;> simp
  | some backend => cases backend <;> simp

theorem resolvedBackend_eq_crdt_iff {settings : Reduction} :
    settings.resolvedBackend = .crdt ↔ ¬settings.AsksForRows := by
  rw [← resolvedBackend_eq_relational_iff]
  cases settings.resolvedBackend with
  | crdt => simp
  | relational => simp

theorem exists_holds_iff {α : Type} {write : α → String} {Taken : α → Prop} {name : String} :
    (∃ value, Holds write fields name value ∧ ∀ a ∈ value, Taken a) ↔
      IsUnset fields name ∨ ∃ a, fields.lookup name = some (.text (write a)) ∧ Taken a := by
  rw [Option.exists]
  simp [Holds]

/-- A keyspace in an object is made of characters. -/
theorem exists_holds_keyspace_iff :
    (∃ keyspace, Holds id fields "prefix" keyspace ∧ ∀ name ∈ keyspace, name ≠ "") ↔
      IsUnset fields "prefix" ∨ ∃ text : Text.Raw,
        fields.lookup "prefix" = some (.ofRaw text) ∧ text.isEmpty = false ∧ text.IsWhole := by
  rw [exists_holds_iff]
  refine or_congr_right ⟨?_, ?_⟩
  · rintro ⟨name, hname, hne⟩
    exact ⟨.whole name, hname, by simpa [Text.Raw.isEmpty] using hne, name, rfl⟩
  · rintro ⟨_, hname, hne, name, rfl⟩
    exact ⟨name, hname, by simpa [Text.Raw.isEmpty] using hne⟩

theorem IsWrittenIn.isObjectOf {settings : Reduction} (h : settings.IsWrittenIn fields) :
    IsObjectOf Text.Raw.IsWhole fields where
  mode := ⟨settings.mode.name, by cases settings.mode <;> decide, h.mode⟩
  keyspace := exists_holds_keyspace_iff.1 ⟨settings.keyspace, h.keyspace, h.keyspace_ne⟩
  table := exists_holds_iff.1 ⟨settings.table, h.table, h.table_mem⟩
  backend := by
    refine (exists_holds_iff.1 ⟨settings.backend, h.backend, fun _ _ => trivial⟩).imp_right ?_
    rintro ⟨backend, hbackend, -⟩
    exact ⟨backend.name, by cases backend <;> decide, hbackend⟩
  policy := by
    rcases h.policy with hspelled | ⟨hfirst, hsecond, -⟩
    · exact .inr ⟨settings.policy.name, by cases settings.policy <;> decide, hspelled⟩
    · exact .inl ⟨hfirst, hsecond⟩
  known := h.known
  backed := by
    rintro ⟨hrows, hunset⟩
    have hrelational : fields.lookup "backend" = some (.text Backend.relational.name) := hrows
    have hstore := h.backend.eq_some backendName_injective hrelational
    have hasks := resolvedBackend_eq_relational_iff.2 (.inl hstore)
    obtain ⟨table, htable⟩ := Option.isSome_iff_exists.1 (h.table_isSome hasks)
    exact (htable ▸ h.table).not_isUnset hunset

theorem IsObjectOf.exists_isWrittenIn (h : IsObjectOf Text.Raw.IsWhole fields) :
    ∃ settings : Reduction, settings.IsWrittenIn fields := by
  have hmode : ∃ mode : Address.Mode, Spelled fields "addressType" "address_type" mode.name := by
    obtain ⟨text, htext, hspelled⟩ := h.mode
    rcases List.mem_pair.1 htext with rfl | rfl
    · exact ⟨.payment, hspelled⟩
    · exact ⟨.stake, hspelled⟩
  have hbackend : ∃ backend, Holds Backend.name fields "backend" backend ∧ ∀ a ∈ backend, True := by
    refine exists_holds_iff.2 (h.backend.imp_right ?_)
    rintro ⟨text, htext, hlookup⟩
    rcases List.mem_pair.1 htext with rfl | rfl
    · exact ⟨.crdt, hlookup, trivial⟩
    · exact ⟨.relational, hlookup, trivial⟩
  have hpolicy : ∃ policy : Policy,
      Spelled fields "onDecodeError" "on_decode_error" policy.name ∨
        fields.lookup "onDecodeError" = none ∧ fields.lookup "on_decode_error" = none ∧
          policy = .strict := by
    rcases h.policy with ⟨hfirst, hsecond⟩ | ⟨text, htext, hspelled⟩
    · exact ⟨.strict, .inr ⟨hfirst, hsecond, rfl⟩⟩
    · rcases List.mem_pair.1 htext with rfl | rfl
      · exact ⟨.strict, .inl hspelled⟩
      · exact ⟨.lenient, .inl hspelled⟩
  obtain ⟨mode, hmode⟩ := hmode
  obtain ⟨keyspace, hkeyspace, hne⟩ := exists_holds_keyspace_iff.2 h.keyspace
  obtain ⟨table, htable, hmem⟩ := exists_holds_iff.2 h.table
  obtain ⟨backend, hbackend, -⟩ := hbackend
  obtain ⟨policy, hpolicy⟩ := hpolicy
  refine ⟨⟨mode, keyspace, table, backend, policy⟩, hmode, hkeyspace, htable, hbackend, hpolicy,
    h.known, hne, hmem, fun hrows => ?_⟩
  rcases resolvedBackend_eq_relational_iff.1 hrows with hstore | ⟨-, htable⟩
  · -- without a table its field would be unset, beside rows that are asked for
    cases table with
    | some table => rfl
    | none =>
      dsimp only at hstore
      subst hstore
      exact absurd ⟨hbackend, htable⟩ h.backed
  · exact htable

theorem isObjectOf_iff :
    IsObjectOf Text.Raw.IsWhole fields ↔ ∃ settings : Reduction, settings.IsWrittenIn fields :=
  ⟨IsObjectOf.exists_isWrittenIn, fun ⟨_, hwritten⟩ => hwritten.isObjectOf⟩

/-! ## Building the emitter -/

theorem ofTable_of_mem_names {table : String} (h : table.toList ∈ Table.names) :
    Emitter.ofTable (.text table) = .ok (.rows table) := by
  have hline : Table.isNameLine table = true := by
    rw [Table.isNameLine, Table.isName_iff.2 h, Bool.true_or]
  rw [Emitter.ofTable, if_pos hline]

/-- Settings in which rows have a table with a fit name can be built, and what is built is
    what they ask for. -/
theorem build_eq_emitter {settings : Reduction}
    (htable : settings.resolvedBackend = .relational → settings.table.isSome)
    (hname : ∀ table ∈ settings.table, table.toList ∈ Table.names) :
    settings.build = .ok settings.emitter := by
  rw [build, emitter]
  cases hbackend : settings.resolvedBackend with
  | crdt => rfl
  | relational =>
    -- neither the assertion nor the second look at the name can fail
    obtain ⟨table, hsome⟩ := Option.isSome_iff_exists.1 (htable hbackend)
    rw [hsome]
    exact ofTable_of_mem_names (hname table hsome)

/-- An object is taken for settings exactly if its fields are as they have to be, and its
    keyspace, if it has one, is made of characters. Then the settings hold what the fields say,
    and their emitter is built without a failure: the rows of the table that is named, where
    rows are asked for, and else the counters under the keyspace. It is the emitter with which
    blocks are reduced. -/
theorem ofDocument_takes_and_builds (h : fields.HasNoBytes) :
    ((∃ settings, ofDocument (.object fields) = .ok settings) ↔
      IsObjectOf Text.Raw.IsWhole fields) ∧
    ∀ settings, ofDocument (.object fields) = .ok settings →
      settings.IsWrittenIn fields ∧ settings.build = .ok settings.emitter ∧
      (settings.AsksForRows →
        ∃ table, settings.table = some table ∧ settings.build = .ok (.rows table)) ∧
      (¬settings.AsksForRows → settings.build = .ok (.counters settings.keyspace)) := by
  refine ⟨?_, fun settings hsettings => ?_⟩
  · simp only [ofDocument_eq_ok_iff h, isObjectOf_iff]
  · have hwritten := (ofDocument_eq_ok_iff h).1 hsettings
    have hbuild := build_eq_emitter hwritten.table_isSome hwritten.table_mem
    refine ⟨hwritten, hbuild, fun hrows => ?_, fun hcounters => ?_⟩
    · have hbackend := resolvedBackend_eq_relational_iff.2 hrows
      obtain ⟨table, htable⟩ := Option.isSome_iff_exists.1 (hwritten.table_isSome hbackend)
      exact ⟨table, htable, by rw [hbuild, emitter_of_relational hbackend htable]⟩
    · rw [hbuild, emitter_of_crdt (resolvedBackend_eq_crdt_iff.2 hcounters)]

/-- Settings under their second spellings, with a keyspace that is not used and a store that
    is left open. -/
def qualifiedRows : Fields :=
  [("on_decode_error", .text "lenient"), ("prefix", .text "p"), ("backend", .null),
    ("table", .text "ledger.balances"), ("address_type", .text "stake")]

/-- They are taken and ask for the rows of the table. With the other spelling of a field
    beside them they are not taken. -/
theorem ofDocument_takes_and_builds_qualifiedRows :
    qualifiedRows.HasNoBytes ∧
    (∃ settings, ofDocument (.object qualifiedRows) = .ok settings ∧
      settings.build = .ok (.rows "ledger.balances")) ∧
    ¬∃ settings, ofDocument (.object (("addressType", .text "stake") :: qualifiedRows)) =
      .ok settings := by
  have hbytes : qualifiedRows.HasNoBytes := by simp [Fields.HasNoBytes, qualifiedRows]
  have hobject : IsObjectOf Text.Raw.IsWhole qualifiedRows :=
    { mode := ⟨"stake", by decide, .inr ⟨rfl, rfl⟩⟩
      keyspace := .inr ⟨.whole "p", rfl, by decide, "p", rfl⟩
      table := .inr ⟨"ledger.balances", rfl, Table.isName_iff.1 (by decide)⟩
      backend := .inl (.inr rfl)
      policy := .inr ⟨"lenient", by decide, .inr ⟨rfl, rfl⟩⟩
      known := by simp [qualifiedRows, fieldNames]
      backed := fun ⟨hrows, _⟩ => by cases hrows }
  obtain ⟨htakes, hbuilds⟩ := ofDocument_takes_and_builds hbytes
  obtain ⟨settings, hsettings⟩ := htakes.2 hobject
  obtain ⟨hwritten, -, hrows, -⟩ := hbuilds settings hsettings
  have htable : settings.table = some "ledger.balances" :=
    hwritten.table.eq_some Function.injective_id rfl
  have hbackend : settings.backend = none := by
    refine Option.eq_none_iff_forall_ne_some.2 fun backend hsome => ?_
    exact (hsome ▸ hwritten.backend).not_isUnset (.inr rfl)
  obtain ⟨table, hsome, hbuild⟩ := hrows (.inr ⟨hbackend, by rw [htable]; rfl⟩)
  rw [htable, Option.some.injEq] at hsome
  refine ⟨hbytes, ⟨settings, hsettings, hsome ▸ hbuild⟩, fun htaken => ?_⟩
  -- beside the first spelling the second counts as a field of no known name
  have hboth : Fields.HasNoBytes (("addressType", .text "stake") :: qualifiedRows) := by
    simp [Fields.HasNoBytes, qualifiedRows]
  obtain ⟨text, -, ⟨-, hsecond⟩ | ⟨hfirst, -⟩⟩ :=
    ((ofDocument_takes_and_builds hboth).1.1 htaken).mode
  · cases hsecond
  · cases hfirst

/-- An object with half of a surrogate pair for a keyspace. -/
def halfKeyspace : Fields :=
  [("addressType", .text "payment"), ("prefix", .brokenText [0xD800])]

/-- It is not taken, although its keyspace is a text that is not empty and all else is as it has
    to be. -/
theorem not_takes_halfKeyspace :
    halfKeyspace.HasNoBytes ∧ IsObjectOf (fun _ => True) halfKeyspace ∧
      ¬∃ settings, ofDocument (.object halfKeyspace) = .ok settings := by
  have hbytes : halfKeyspace.HasNoBytes := by simp [Fields.HasNoBytes, halfKeyspace]
  refine ⟨hbytes, ?_, ?_⟩
  · exact {
      mode := ⟨"payment", by decide, .inl ⟨rfl, rfl⟩⟩
      keyspace := .inr ⟨.broken [0xD800], rfl, rfl, trivial⟩
      table := .inl (.inl rfl)
      backend := .inl (.inl rfl)
      policy := .inl ⟨rfl, rfl⟩
      known := by simp [halfKeyspace, fieldNames]
      backed := fun ⟨hrows, _⟩ => by cases hrows }
  · rintro ⟨settings, hsettings⟩
    have hkeyspace := ((ofDocument_eq_ok_iff hbytes).1 hsettings).isObjectOf.keyspace
    rcases hkeyspace with (hnone | hnull) | ⟨_, hlookup, -, name, rfl⟩
    · cases hnone
    · cases hnull
    · cases hlookup

end Reduction

end Settings

end UtxoBalance

import UtxoBalance.Proofs.ByteField
import UtxoBalance.Proofs.Reduction
import UtxoBalance.Proofs.Rendering

/-!
# The grammar of block documents

A document is read as a block exactly if it fits a grammar: objects where parts of a block
are, arrays where lists are, and in the fields integers and byte strings, each as a value of
its own or as a text. What counts as not given may stand for any section, list or spent
output. The block of a document that fits has one part for each element of an array, in the
order of the array.

Of the documents that do not fit most are refused with a fault of the block. Reading breaks
on the others, with a fault of another kind: a section that has no fields, a list that has no
elements, or a negative amount with too many digits to be shown. It breaks only if all that
is read earlier fits.

## Main definitions

- `Block.IsBlock`, and one such predicate for each part — the documents that fit
- `Block.blockIn`, and one such function for each part — what stands in a document
- `Block.BlockBreaks`, and one such relation for each part — where reading breaks
- `Block.Reading` — what reading comes to, told by these three

## Main statements

- `Block.Reading.bind` — one reading after another
- `Block.reading_ofDocument`, and one such lemma for each part — what a reader comes to
- `Block.ofDocument_takes_grammar` — which documents are read, and as what
-/

namespace UtxoBalance

theorem Numeral.bound_pos : 0 < bound := by
  unfold bound
  -- the power is never to be computed
  generalize maxDigits = digits
  exact Nat.pow_pos (by decide)

namespace Document

/-- The fields of an object. -/
def fields : Document → Fields
  | .object fields => fields
  | _ => []

/-- The items of an array. -/
def items : Document → List Document
  | .list items => items
  | _ => []

/-- The value of a field of an object. -/
def under (d : Document) (name : String) : Document := field d.fields name

/-- The value of a field that may be spelled in two ways: the first spelling counts, even
    for the absent value. -/
def underEither (d : Document) (first second : String) : Document :=
  Block.fieldOf d.fields first second

inductive IsObject : Document → Prop
  | object (fields : Fields) : IsObject (.object fields)

end Document

namespace Block

/-! ## Documents that fit -/

inductive IsInteger : Document → Prop
  | null : IsInteger .null
  | number (n : Int) : IsInteger (.int n)
  | numeral {text : String} {n : Int} : Numeral.read text = .ok n → IsInteger (.text text)

def integerIn : Document → Option Int
  | .int n => some n
  | .text text => (Numeral.read text).toOption
  | _ => none

/-- A byte string is in no JSON text, but other callers may hand one over. -/
inductive IsBytes : Document → Prop
  | null : IsBytes .null
  | bytes (octets : Bytes) : IsBytes (.bytes octets)
  | text {text : String} {octets : Bytes} : decodeText text = .ok octets → IsBytes (.text text)
  | brokenText {points : List Nat} {octets : Bytes} :
      decodeText (Text.Raw.broken points).patched = .ok octets → IsBytes (.brokenText points)

def bytesIn : Document → Bytes
  | .bytes octets => octets
  | .text text => (decodeText text).toOption.getD []
  | .brokenText points => (decodeText (Text.Raw.broken points).patched).toOption.getD []
  | _ => []

def coinIn (d : Document) : Int := (integerIn d).getD 0

@[mk_iff]
structure IsCoin (d : Document) : Prop where
  integer : IsInteger d
  nonneg : 0 ≤ coinIn d

/-- An array whose elements fit, or anything that counts as not given. -/
inductive IsListOf (Fits : Document → Prop) : Document → Prop
  | notGiven {d : Document} : d.isPresent = false → IsListOf Fits d
  | list {items : List Document} : (∀ item ∈ items, Fits item) → IsListOf Fits (.list items)

/-- An object, or anything that counts as not given. -/
inductive IsSection : Document → Prop
  | notGiven {d : Document} : d.isPresent = false → IsSection d
  | object (fields : Fields) : IsSection (.object fields)

@[mk_iff]
structure IsOutput (d : Document) : Prop where
  isObject : d.IsObject
  coin : IsCoin (d.under "coin")
  address : IsBytes (d.under "address")

def outputIn (d : Document) : Output where
  address := bytesIn (d.under "address")
  coin := coinIn (d.under "coin")

/-- The output that an input spends, where it is given. -/
def spentIn (d : Document) : Document := d.underEither "asOutput" "as_output"

@[mk_iff]
structure IsInput (d : Document) : Prop where
  isObject : d.IsObject
  txHash : IsBytes (d.underEither "txHash" "tx_hash")
  outputIndex : IsInteger (d.underEither "outputIndex" "output_index")
  spent : (spentIn d).isPresent = true → IsOutput (spentIn d)

def inputIn (d : Document) : Input where
  txHash := bytesIn (d.underEither "txHash" "tx_hash")
  outputIndex := (integerIn (d.underEither "outputIndex" "output_index")).getD 0
  spent := if (spentIn d).isPresent then some (outputIn (spentIn d)) else none

@[mk_iff]
structure IsTransaction (d : Document) : Prop where
  isObject : d.IsObject
  outputs : IsListOf IsOutput (d.under "outputs")
  inputs : IsListOf IsInput (d.under "inputs")
  hash : IsBytes (d.under "hash")

def transactionIn (d : Document) : Transaction where
  outputs := (d.under "outputs").items.map outputIn
  inputs := (d.under "inputs").items.map inputIn
  hash := bytesIn (d.under "hash")

/-- The transactions that a block lists. -/
def listIn (d : Document) : Document := (d.under "body").under "tx"

@[mk_iff]
structure IsBlock (d : Document) : Prop where
  isObject : d.IsObject
  body : IsSection (d.under "body")
  transactions : IsListOf IsTransaction (listIn d)
  header : IsSection (d.under "header")
  slot : IsInteger ((d.under "header").under "slot")
  hash : IsBytes ((d.under "header").under "hash")
  height : IsInteger ((d.under "header").under "height")

def blockIn (d : Document) : Block where
  transactions := (listIn d).items.map transactionIn
  slot := integerIn ((d.under "header").under "slot")
  hash :=
    let octets := bytesIn ((d.under "header").under "hash")
    if octets.isEmpty then none else some octets
  height := integerIn ((d.under "header").under "height")

/-! ## Where reading breaks -/

/-- An amount so far below zero that its numeral is too long for a message. -/
inductive CoinBreaks (d : Document) : Fault → Prop
  | tooLarge : IsInteger d → coinIn d ≤ -Numeral.bound → CoinBreaks d (.numeral .tooLarge)

/-- A list without elements, or an array in which the elements before the one that breaks
    fit. -/
inductive ListBreaks (Fits : Document → Prop) (Breaks : Document → Fault → Prop) :
    Document → Fault → Prop
  | notIterable {d : Document} : d.isPresent = true → d.elements? = none →
      ListBreaks Fits Breaks d (.notIterable d.kind)
  | item {before after : List Document} {item : Document} {fault : Fault} :
      (∀ other ∈ before, Fits other) → Breaks item fault →
      ListBreaks Fits Breaks (.list (before ++ item :: after)) fault

inductive SectionBreaks (d : Document) : Fault → Prop
  | noLookup : d.isPresent = true → ¬d.IsObject → SectionBreaks d (.noLookup d.kind)

@[mk_iff]
inductive OutputBreaks (d : Document) (fault : Fault) : Prop
  | coin : d.IsObject → CoinBreaks (d.under "coin") fault → OutputBreaks d fault

@[mk_iff]
inductive InputBreaks (d : Document) (fault : Fault) : Prop
  | spent : d.IsObject → IsBytes (d.underEither "txHash" "tx_hash") →
      IsInteger (d.underEither "outputIndex" "output_index") → (spentIn d).isPresent = true →
      OutputBreaks (spentIn d) fault → InputBreaks d fault

@[mk_iff]
inductive TransactionBreaks (d : Document) (fault : Fault) : Prop
  | outputs : d.IsObject → ListBreaks IsOutput OutputBreaks (d.under "outputs") fault →
      TransactionBreaks d fault
  | inputs : d.IsObject → IsListOf IsOutput (d.under "outputs") →
      ListBreaks IsInput InputBreaks (d.under "inputs") fault → TransactionBreaks d fault

@[mk_iff]
inductive BlockBreaks (d : Document) (fault : Fault) : Prop
  | body : d.IsObject → SectionBreaks (d.under "body") fault → BlockBreaks d fault
  | transactions : d.IsObject → IsSection (d.under "body") →
      ListBreaks IsTransaction TransactionBreaks (listIn d) fault → BlockBreaks d fault
  | header : d.IsObject → IsSection (d.under "body") → IsListOf IsTransaction (listIn d) →
      SectionBreaks (d.under "header") fault → BlockBreaks d fault

/-! ## Readings -/

/-- What reading comes to: a value if the document fits, a fault of another kind if it breaks,
    and else a fault of the block. -/
inductive Reading {α : Type} (Fits : Prop) (value : α) (Breaks : Fault → Prop) :
    Except Failure α → Prop
  | taken : Fits → (∀ fault, ¬Breaks fault) → Reading Fits value Breaks (.ok value)
  | refused {error : FormatError} : ¬Fits → (∀ fault, ¬Breaks fault) →
      Reading Fits value Breaks (.error (.block error))
  | broken {fault : Fault} : ¬Fits → (∀ other, Breaks other ↔ other = fault) →
      Reading Fits value Breaks (.error (.shape fault))

namespace Reading

variable {α β : Type} {Fits Fits' : Prop} {value : α} {other : β} {Breaks Breaks' : Fault → Prop}
  {outcome : Except Failure α}

theorem eq_ok_iff (h : Reading Fits value Breaks outcome) {a : α} :
    outcome = .ok a ↔ Fits ∧ a = value := by
  cases h with
  | taken hfits _ => simp [hfits, eq_comm]
  | refused hfits _ => simp [hfits]
  | broken hfits _ => simp [hfits]

theorem eq_shape_iff (h : Reading Fits value Breaks outcome) {fault : Fault} :
    outcome = .error (.shape fault) ↔ Breaks fault := by
  cases h with
  | taken _ hbreaks => simp [hbreaks]
  | refused _ hbreaks => simp [hbreaks]
  | broken _ hbreaks => simp [hbreaks, eq_comm]

theorem congr (h : Reading Fits value Breaks outcome) (hfits : Fits ↔ Fits')
    (hbreaks : ∀ fault, Breaks fault ↔ Breaks' fault) : Reading Fits' value Breaks' outcome := by
  have heq : Breaks = Breaks' := funext fun fault => propext (hbreaks fault)
  rwa [propext hfits, heq] at h

protected theorem pure (value : α) : Reading True value (fun _ => False) (pure value) :=
  .taken trivial fun _ => id

/-- One reading after another. The second breaks only where the first gives its value. -/
protected theorem bind {f : α → Except Failure β} (h : Reading Fits value Breaks outcome)
    (hnext : Reading Fits' other Breaks' (f value)) :
    Reading (Fits ∧ Fits') other (fun fault => Breaks fault ∨ Fits ∧ Breaks' fault)
      (outcome >>= f) := by
  cases h with
  | refused hfits hbreaks => exact .refused (fun h => hfits h.1) (by simp [hfits, hbreaks])
  | broken hfits hbreaks => exact .broken (fun h => hfits h.1) (by simp [hfits, hbreaks])
  | taken hfits hbreaks =>
    change Reading _ _ _ (f value)
    exact hnext.congr (by simp [hfits]) (by simp [hfits, hbreaks])

protected theorem map (f : α → β) (h : Reading Fits value Breaks outcome) :
    Reading Fits (f value) Breaks (f <$> outcome) := by
  cases h with
  | taken hfits hbreaks => exact .taken hfits hbreaks
  | refused hfits hbreaks => exact .refused hfits hbreaks
  | broken hfits hbreaks => exact .broken hfits hbreaks

end Reading

/-! ## Readers of fields -/

theorem reading_readInteger (field : String) (d : Document) :
    Reading (IsInteger d) (integerIn d) (fun _ => False)
      ((readInteger field d).mapError .block) := by
  cases d with
  | null => exact .taken .null fun _ => id
  | int n => exact .taken (.number n) fun _ => id
  | text text =>
    cases hread : Numeral.read text with
    | ok n =>
      rw [readInteger, integerIn, hread]
      exact .taken (.numeral hread) fun _ => id
    | error fault =>
      rw [readInteger, hread]
      refine .refused (fun h => ?_) fun _ => id
      cases h with
      | numeral hn =>
        rw [hread] at hn
        cases hn
  | _ =>
    refine .refused (fun h => ?_) fun _ => id
    cases h

theorem reading_readBytes (field : String) (d : Document) :
    Reading (IsBytes d) (bytesIn d) (fun _ => False) ((readBytes field d).mapError .block) := by
  cases d with
  | null => exact .taken .null fun _ => id
  | bytes octets => exact .taken (.bytes octets) fun _ => id
  | text text =>
    cases hread : decodeText text with
    | ok octets =>
      rw [readBytes, bytesIn, hread]
      exact .taken (.text hread) fun _ => id
    | error fault =>
      rw [readBytes, hread]
      refine .refused (fun h => ?_) fun _ => id
      cases h with
      | text hn =>
        rw [hread] at hn
        cases hn
  | brokenText points =>
    cases hread : decodeText (Text.Raw.broken points).patched with
    | ok octets =>
      rw [readBytes, bytesIn, hread]
      exact .taken (.brokenText hread) fun _ => id
    | error fault =>
      rw [readBytes, hread]
      refine .refused (fun h => ?_) fun _ => id
      cases h with
      | brokenText hn =>
        rw [hread] at hn
        cases hn
  | _ =>
    refine .refused (fun h => ?_) fun _ => id
    cases h

theorem coinBreaks_iff {d : Document} {fault : Fault} :
    CoinBreaks d fault ↔
      IsInteger d ∧ coinIn d ≤ -Numeral.bound ∧ fault = .numeral .tooLarge := by
  constructor
  · rintro ⟨hinteger, hlow⟩
    exact ⟨hinteger, hlow, rfl⟩
  · rintro ⟨hinteger, hlow, rfl⟩
    exact .tooLarge hinteger hlow

theorem reading_readCoin (d : Document) :
    Reading (IsCoin d) (coinIn d) (CoinBreaks d) (readCoin d) := by
  have hinteger := reading_readInteger "coin" d
  have hbound := Numeral.bound_pos
  rw [readCoin]
  refine (hinteger.bind (show Reading (0 ≤ coinIn d) (coinIn d) (fun fault =>
    coinIn d ≤ -Numeral.bound ∧ fault = .numeral .tooLarge) _ from ?_)).congr ?_ ?_
  · rw [← coinIn]
    by_cases hneg : coinIn d < 0
    · by_cases hwrite : (coinIn d).natAbs < Numeral.bound
      · rw [if_pos hneg, Numeral.write, if_pos hwrite]
        exact .refused (by omega) fun fault hfault => by omega
      · rw [if_pos hneg, Numeral.write, if_neg hwrite]
        refine .broken (by omega) fun fault => ?_
        have hlow : coinIn d ≤ -Numeral.bound := by omega
        exact and_iff_right hlow
    · rw [if_neg hneg]
      exact .taken (by omega) fun fault hfault => by omega
  · exact (isCoin_iff d).symm
  · intro fault
    rw [coinBreaks_iff, false_or]

/-! ## Readers of lists and sections -/

theorem reading_mapM {α : Type} {Fits : Document → Prop} {value : Document → α}
    {Breaks : Document → Fault → Prop} {read : Document → Except Failure α}
    (hread : ∀ d, Reading (Fits d) (value d) (Breaks d) (read d)) (items : List Document) :
    Reading (∀ item ∈ items, Fits item) (items.map value)
      (fun fault => FirstIn Fits (Breaks · fault) items) (items.mapM read) := by
  induction items with
  | nil => exact .taken (by simp) fun fault => not_firstIn_nil
  | cons item rest ih =>
    rw [List.mapM_cons, List.map_cons]
    refine ((hread item).bind (ih.bind (f := fun values => pure (value item :: values))
      (.pure _))).congr ?_ ?_
    · rw [List.forall_mem_cons, and_true]
    · intro fault
      rw [firstIn_cons_iff, and_false, or_false]

/-- What is given and no array lists no elements, or some of which none is an object. -/
theorem elements_of_not_list {d : Document} {elements : List Document}
    (hgiven : d.isPresent = true) (helements : d.elements? = some elements)
    (hlist : ∀ items, d ≠ .list items) :
    elements ≠ [] ∧ ∀ element ∈ elements, ¬element.IsObject := by
  cases d with
  | null | bool _ | int _ | float _ => cases helements
  | list items => exact absurd rfl (hlist items)
  | text text =>
    cases helements
    refine ⟨by simpa [Document.isPresent] using hgiven, fun element helement => ?_⟩
    obtain ⟨c, -, rfl⟩ := List.mem_map.1 helement
    exact nofun
  | brokenText points =>
    cases helements
    refine ⟨by simpa [Document.isPresent] using hgiven, fun element helement => ?_⟩
    obtain ⟨point, -, rfl⟩ := List.mem_map.1 helement
    cases Text.Raw.ofPoints [point] with
    | whole text => exact nofun
    | broken points => exact nofun
  | bytes octets =>
    cases helements
    refine ⟨by simpa [Document.isPresent] using hgiven, fun element helement => ?_⟩
    obtain ⟨octet, -, rfl⟩ := List.mem_map.1 helement
    exact nofun
  | object fields =>
    cases helements
    refine ⟨by simpa [Document.isPresent] using hgiven, fun element helement => ?_⟩
    obtain ⟨entry, -, rfl⟩ := List.mem_map.1 helement
    exact nofun

theorem isListOf_list_iff {Fits : Document → Prop} {items : List Document} :
    IsListOf Fits (.list items) ↔ ∀ item ∈ items, Fits item := by
  refine ⟨fun h => ?_, .list⟩
  cases h with
  | list hitems => exact hitems
  | notGiven hgiven =>
    have hnil : items = [] := by simpa [Document.isPresent] using hgiven
    simp [hnil]

theorem listBreaks_list_iff {Fits : Document → Prop} {Breaks : Document → Fault → Prop}
    {items : List Document} {fault : Fault} :
    ListBreaks Fits Breaks (.list items) fault ↔ FirstIn Fits (Breaks · fault) items := by
  constructor
  · intro h
    cases h with
    | notIterable _ helements => cases helements
    | item hbefore hitem => exact ⟨_, _, _, rfl, hbefore, hitem⟩
  · rintro ⟨before, item, after, rfl, hbefore, hitem⟩
    exact .item hbefore hitem

theorem isListOf_iff_of_not_list {Fits : Document → Prop} {d : Document}
    (hlist : ∀ items, d ≠ .list items) : IsListOf Fits d ↔ d.isPresent = false := by
  refine ⟨fun h => ?_, .notGiven⟩
  cases h with
  | notGiven hgiven => exact hgiven
  | list _ => exact absurd rfl (hlist _)

theorem listBreaks_iff_of_not_list {Fits : Document → Prop} {Breaks : Document → Fault → Prop}
    {d : Document} {fault : Fault} (hlist : ∀ items, d ≠ .list items) :
    ListBreaks Fits Breaks d fault ↔
      d.isPresent = true ∧ d.elements? = none ∧ fault = .notIterable d.kind := by
  constructor
  · intro h
    cases h with
    | notIterable hgiven helements => exact ⟨hgiven, helements, rfl⟩
    | item _ _ => exact absurd rfl (hlist _)
  · rintro ⟨hgiven, helements, rfl⟩
    exact .notIterable hgiven helements

theorem items_of_not_list {d : Document} (hlist : ∀ items, d ≠ .list items) : d.items = [] := by
  cases d with
  | list items => exact absurd rfl (hlist items)
  | _ => rfl

/-- The elements of a list are read one by one, where each reader refuses what is no
    object. -/
theorem reading_list {α : Type} {Fits : Document → Prop} {value : Document → α}
    {Breaks : Document → Fault → Prop} {read : Document → Except Failure α}
    (hread : ∀ d, Reading (Fits d) (value d) (Breaks d) (read d))
    (hobject : ∀ d, ¬d.IsObject → ∃ error, read d = .error (.block error)) (d : Document) :
    Reading (IsListOf Fits d) (d.items.map value) (ListBreaks Fits Breaks d)
      (listed d >>= fun items => items.mapM read) := by
  by_cases h : ∃ items, d = .list items
  · obtain ⟨items, rfl⟩ := h
    rw [listed_list]
    exact (reading_mapM hread items).congr isListOf_list_iff.symm
      fun fault => listBreaks_list_iff.symm
  · have hlist : ∀ items, d ≠ .list items := fun items heq => h ⟨items, heq⟩
    rw [isListOf_iff_of_not_list hlist, items_of_not_list hlist]
    have hbreaks : ∀ fault, ListBreaks Fits Breaks d fault ↔
        d.isPresent = true ∧ d.elements? = none ∧ fault = .notIterable d.kind :=
      fun fault => listBreaks_iff_of_not_list hlist
    by_cases hgiven : d.isPresent = true
    · cases helements : d.elements? with
      | none =>
        rw [listed, if_pos hgiven, Document.elements, helements]
        refine .broken (by simp [hgiven]) fun fault => ?_
        simp [hbreaks, hgiven, helements]
      | some elements =>
        -- the first element is no object, and refused as such
        obtain ⟨hne, hnone⟩ := elements_of_not_list hgiven helements hlist
        obtain ⟨first, rest, rfl⟩ := List.exists_cons_of_ne_nil hne
        obtain ⟨error, hfirst⟩ := hobject first (hnone first List.mem_cons_self)
        rw [listed, if_pos hgiven, Document.elements, helements]
        change Reading _ _ _ ((first :: rest).mapM read)
        rw [List.mapM_cons, hfirst]
        refine .refused (by simp [hgiven]) fun fault => ?_
        simp [hbreaks, helements]
    · rw [listed, if_neg hgiven]
      refine .taken (by simpa using hgiven) fun fault => ?_
      simp [hbreaks, hgiven]

/-- The elements of a list are read before what is left to do. -/
theorem reading_list_bind {α β : Type} {Fits : Document → Prop} {value : Document → α}
    {Breaks : Document → Fault → Prop} {read : Document → Except Failure α}
    (hread : ∀ d, Reading (Fits d) (value d) (Breaks d) (read d))
    (hobject : ∀ d, ¬d.IsObject → ∃ error, read d = .error (.block error)) (d : Document)
    {Fits' : Prop} {other : β} {Breaks' : Fault → Prop} {next : List α → Except Failure β}
    (hnext : Reading Fits' other Breaks' (next (d.items.map value))) :
    Reading (IsListOf Fits d ∧ Fits') other
      (fun fault => ListBreaks Fits Breaks d fault ∨ IsListOf Fits d ∧ Breaks' fault)
      (listed d >>= fun items => items.mapM read >>= next) := by
  rw [← bind_assoc]
  exact (reading_list hread hobject d).bind hnext

theorem fields_of_not_isObject {d : Document} (h : ¬d.IsObject) : d.fields = [] := by
  cases d with
  | object fields => exact absurd (.object fields) h
  | _ => rfl

theorem sectionFields_of_not_isObject {d : Document} (h : ¬d.IsObject) :
    sectionFields d = if d.isPresent then .error (.shape (.noLookup d.kind)) else .ok [] := by
  cases d with
  | object fields => exact absurd (.object fields) h
  | _ => rfl

theorem reading_sectionFields (d : Document) :
    Reading (IsSection d) d.fields (SectionBreaks d) (sectionFields d) := by
  by_cases hobject : d.IsObject
  · obtain ⟨fields⟩ := hobject
    rw [sectionFields_object]
    exact .taken (.object fields) fun fault h => by
      obtain ⟨-, hnone⟩ := h
      exact hnone (.object fields)
  · rw [sectionFields_of_not_isObject hobject, fields_of_not_isObject hobject]
    by_cases hgiven : d.isPresent = true
    · rw [if_pos hgiven]
      refine .broken (fun h => ?_) fun fault => ⟨fun h => ?_, fun h => ?_⟩
      · cases h with
        | notGiven hnot => exact absurd hgiven (by simp [hnot])
        | object fields => exact hobject (.object fields)
      · cases h
        rfl
      · cases h
        exact .noLookup hgiven hobject
    · rw [if_neg hgiven]
      refine .taken (.notGiven (by simpa using hgiven)) fun fault h => ?_
      obtain ⟨hyes, -⟩ := h
      exact hgiven hyes

/-! ## Readers of parts -/

/-- A reader of parts that are objects refuses whatever is none. -/
theorem reading_of_object {α : Type} {Fits : Document → Prop} {value : Document → α}
    {Breaks : Document → Fault → Prop} {read : Document → Except Failure α} {part : Part}
    (hfits : ∀ d, Fits d → d.IsObject) (hbreaks : ∀ d fault, Breaks d fault → d.IsObject)
    (hother : ∀ d, ¬d.IsObject → read d = .error (.block (.notObject part)))
    (hobject : ∀ fields, Reading (Fits (.object fields)) (value (.object fields))
      (Breaks (.object fields)) (read (.object fields))) (d : Document) :
    Reading (Fits d) (value d) (Breaks d) (read d) := by
  by_cases h : d.IsObject
  · obtain ⟨fields⟩ := h
    exact hobject fields
  · rw [hother d h]
    exact .refused (fun hd => h (hfits d hd)) fun fault hd => h (hbreaks d fault hd)

theorem readOutput_of_not_isObject {d : Document} (h : ¬d.IsObject) :
    readOutput d = .error (.block (.notObject .output)) := by
  cases d with
  | object fields => exact absurd (.object fields) h
  | _ => rfl

theorem reading_readOutput (d : Document) :
    Reading (IsOutput d) (outputIn d) (OutputBreaks d) (readOutput d) := by
  refine reading_of_object (fun d h => h.isObject) (fun d fault h => ?_)
    (fun d => readOutput_of_not_isObject) (fun fields => ?_) d
  · obtain ⟨hobject, -⟩ := h
    exact hobject
  · have hobject := Document.IsObject.object fields
    refine ((reading_readCoin _).bind ((reading_readBytes "address" _).bind
      (.pure (outputIn (.object fields))))).congr ?_ ?_
    · rw [isOutput_iff]
      simp only [hobject, true_and, and_true]
      rfl
    · intro fault
      rw [outputBreaks_iff]
      simp only [hobject, true_and, and_false, or_false]
      rfl

theorem readInput_of_not_isObject {d : Document} (h : ¬d.IsObject) :
    readInput d = .error (.block (.notObject .input)) := by
  cases d with
  | object fields => exact absurd (.object fields) h
  | _ => rfl

/-- An output that an input spends is read where it is given, before what is left to do. -/
theorem reading_spent {β : Type} {Fits : Prop} {value : β} {Breaks : Fault → Prop}
    {next : Option Output → Except Failure β} (d : Document)
    (hnext : Reading Fits value Breaks (next (if d.isPresent then some (outputIn d) else none))) :
    Reading ((d.isPresent = true → IsOutput d) ∧ Fits) value
      (fun fault => (d.isPresent = true ∧ OutputBreaks d fault) ∨
        (d.isPresent = true → IsOutput d) ∧ Breaks fault)
      (if d.isPresent then some <$> readOutput d >>= next else pure none >>= next) := by
  by_cases hgiven : d.isPresent = true
  · rw [if_pos hgiven] at hnext ⊢
    exact (((reading_readOutput d).map some).bind hnext).congr (by simp [hgiven])
      (by simp [hgiven])
  · rw [if_neg hgiven] at hnext ⊢
    exact ((Reading.pure none).bind hnext).congr (by simp [hgiven]) (by simp [hgiven])

theorem reading_readInput (d : Document) :
    Reading (IsInput d) (inputIn d) (InputBreaks d) (readInput d) := by
  refine reading_of_object (fun d h => h.isObject) (fun d fault h => ?_)
    (fun d => readInput_of_not_isObject) (fun fields => ?_) d
  · obtain ⟨hobject, -⟩ := h
    exact hobject
  · have hobject := Document.IsObject.object fields
    refine ((reading_readBytes "txHash" _).bind ((reading_readInteger "outputIndex" _).bind
      (reading_spent _ (.pure (inputIn (.object fields)))))).congr ?_ ?_
    · rw [isInput_iff]
      simp only [hobject, true_and, and_true]
      rfl
    · intro fault
      rw [inputBreaks_iff]
      simp only [hobject, true_and, and_false, or_false, false_or]
      rfl

theorem readTransaction_of_not_isObject {d : Document} (h : ¬d.IsObject) :
    readTransaction d = .error (.block (.notObject .transaction)) := by
  cases d with
  | object fields => exact absurd (.object fields) h
  | _ => rfl

theorem reading_readTransaction (d : Document) :
    Reading (IsTransaction d) (transactionIn d) (TransactionBreaks d) (readTransaction d) := by
  refine reading_of_object (fun d h => h.isObject) (fun d fault h => ?_)
    (fun d => readTransaction_of_not_isObject) (fun fields => ?_) d
  · cases h with
    | outputs hobject _ => exact hobject
    | inputs hobject _ _ => exact hobject
  · have hobject := Document.IsObject.object fields
    refine (reading_list_bind reading_readOutput
      (fun d hd => ⟨_, readOutput_of_not_isObject hd⟩) _ (reading_list_bind reading_readInput
      (fun d hd => ⟨_, readInput_of_not_isObject hd⟩) _ ((reading_readBytes "hash" _).bind
      (.pure (transactionIn (.object fields)))))).congr ?_ ?_
    · rw [isTransaction_iff]
      simp only [hobject, true_and, and_true]
      rfl
    · intro fault
      rw [transactionBreaks_iff]
      simp only [hobject, true_and, and_false, or_false]
      rfl

theorem reading_ofDocument (d : Document) :
    Reading (IsBlock d) (blockIn d) (BlockBreaks d) (ofDocument d) := by
  have hother : ∀ d : Document, ¬d.IsObject →
      ofDocument d = .error (.block (.notObject .block)) := by
    intro d h
    cases d with
    | object fields => exact absurd (.object fields) h
    | _ => rfl
  refine reading_of_object (fun d h => h.isObject) (fun d fault h => ?_) hother
    (fun fields => ?_) d
  · cases h with
    | body hobject _ => exact hobject
    | transactions hobject _ _ => exact hobject
    | header hobject _ _ _ => exact hobject
  · have hobject := Document.IsObject.object fields
    refine ((reading_sectionFields _).bind (reading_list_bind reading_readTransaction
      (fun d hd => ⟨_, readTransaction_of_not_isObject hd⟩) _
      ((reading_sectionFields _).bind ((reading_readInteger "slot" _).bind
      ((reading_readBytes "hash" _).bind ((reading_readInteger "height" _).bind
      (.pure (blockIn (.object fields))))))))).congr ?_ ?_
    · rw [isBlock_iff]
      simp only [hobject, true_and, and_true]
      rfl
    · intro fault
      rw [blockBreaks_iff]
      simp only [hobject, true_and, and_false, or_false, and_or_left]
      rfl

/-! ## What is read -/

/-- Whether an input is resolved where the document gives the output that it spends, and no
    amount is below zero. -/
structure IsInputOf (d : Document) (input : Input) : Prop where
  isResolved_iff : input.isResolved = true ↔ (spentIn d).isPresent = true
  coin_nonneg : ∀ output ∈ input.spent, 0 ≤ output.coin

/-- Whether a transaction has one output and one input for each element of the arrays, in
    their order. -/
structure IsTransactionOf (d : Document) (transaction : Transaction) : Prop where
  outputs : List.Forall₂ (fun _ output => 0 ≤ output.coin) (d.under "outputs").items
    transaction.outputs
  inputs : List.Forall₂ IsInputOf (d.under "inputs").items transaction.inputs

theorem IsListOf.fits_of_mem {Fits : Document → Prop} {d : Document} (h : IsListOf Fits d) :
    ∀ item ∈ d.items, Fits item := by
  by_cases hlist : ∃ items, d = .list items
  · obtain ⟨items, rfl⟩ := hlist
    exact isListOf_list_iff.1 h
  · rw [items_of_not_list fun items heq => hlist ⟨items, heq⟩]
    simp

theorem isInputOf_inputIn {d : Document} (h : IsInput d) : IsInputOf d (inputIn d) := by
  rw [inputIn]
  by_cases hgiven : (spentIn d).isPresent = true
  · rw [if_pos hgiven]
    refine ⟨by simp [Input.isResolved, hgiven], fun output houtput => ?_⟩
    cases houtput
    exact (h.spent hgiven).coin.nonneg
  · rw [if_neg hgiven]
    exact ⟨by simp [Input.isResolved, hgiven], nofun⟩

theorem isTransactionOf_transactionIn {d : Document} (h : IsTransaction d) :
    IsTransactionOf d (transactionIn d) := by
  constructor
  · rw [transactionIn, List.forall₂_map_right_iff, List.forall₂_same]
    exact fun item hitem => (h.outputs.fits_of_mem item hitem).coin.nonneg
  · rw [transactionIn, List.forall₂_map_right_iff, List.forall₂_same]
    exact fun item hitem => isInputOf_inputIn (h.inputs.fits_of_mem item hitem)

/-- A document is read as a block exactly if it fits the grammar. What is read is what stands
    in the document: one transaction for each element of the array, with one output and one
    input for each element of its arrays, in order, where no amount is below zero and an input
    is resolved if the output that it spends is given. -/
theorem ofDocument_takes_grammar (d : Document) :
    ((∃ block, ofDocument d = .ok block) ↔ IsBlock d) ∧
      ∀ block, ofDocument d = .ok block →
        block = blockIn d ∧ List.Forall₂ IsTransactionOf (listIn d).items block.transactions := by
  have hread := reading_ofDocument d
  constructor
  · constructor
    · rintro ⟨block, hblock⟩
      exact (hread.eq_ok_iff.1 hblock).1
    · intro hfits
      exact ⟨_, hread.eq_ok_iff.2 ⟨hfits, rfl⟩⟩
  · intro block hblock
    obtain ⟨hfits, rfl⟩ := hread.eq_ok_iff.1 hblock
    refine ⟨rfl, ?_⟩
    rw [blockIn, List.forall₂_map_right_iff, List.forall₂_same]
    exact fun item hitem =>
      isTransactionOf_transactionIn (hfits.transactions.fits_of_mem item hitem)

/-- A document with a header and a list that count as not given, and with fields whose second
    spelling does not count. -/
def secondSpellings : Document :=
  .object [("header", .bool false), ("body", .object [("tx", .list [.object [
    ("outputs", .int 0),
    ("inputs", .list [
      .object [("txHash", .null), ("tx_hash", .int 5), ("outputIndex", .text " +1_0"),
        ("asOutput", .object []), ("as_output", .text "none")],
      .object [("as_output", .object [("coin", .text "7")])]])]])])]

theorem secondSpellings_fits : IsBlock secondSpellings := by
  have hindex : Numeral.read " +1_0" = .ok 10 := by decide +kernel
  have hcoin : Numeral.read "7" = .ok 7 := by decide +kernel
  have hfirst : IsInput (.object [("txHash", .null), ("tx_hash", .int 5),
      ("outputIndex", .text " +1_0"), ("asOutput", .object []), ("as_output", .text "none")]) :=
    ⟨.object _, .null, .numeral hindex, nofun⟩
  have hsecond : IsInput (.object [("as_output", .object [("coin", .text "7")])]) := by
    refine ⟨.object _, .null, .null, fun _ => ⟨.object _, ⟨.numeral hcoin, ?_⟩, .null⟩⟩
    decide +kernel
  refine ⟨.object _, .object _, .list ?_, .notGiven rfl, .null, .null, .null⟩
  rw [List.forall_mem_singleton]
  refine ⟨.object _, .notGiven rfl, .list ?_, .null⟩
  rw [List.forall_mem_cons, List.forall_mem_singleton]
  exact ⟨hfirst, hsecond⟩

/-- The document is read, and the second of its inputs is resolved. A list of transactions
    that is an object is refused. -/
theorem ofDocument_takes_grammar_secondSpellings :
    (∃ block, ofDocument secondSpellings = .ok block ∧
      block.transactions.map (fun tx => tx.inputs.map Input.isResolved) = [[false, true]]) ∧
    ¬∃ block, ofDocument (.object [("body", .object [("tx", .object [("hash", .null)])])]) =
      .ok block := by
  obtain ⟨haccepts, hcontents⟩ := ofDocument_takes_grammar secondSpellings
  constructor
  · obtain ⟨block, hblock⟩ := haccepts.2 secondSpellings_fits
    obtain ⟨rfl, -⟩ := hcontents block hblock
    exact ⟨_, hblock, rfl⟩
  · rw [(ofDocument_takes_grammar _).1]
    intro h
    cases h.transactions with
    | notGiven hgiven => cases hgiven

end Block

end UtxoBalance

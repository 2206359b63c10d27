import UtxoBalance.Proofs.ByteText
import UtxoBalance.Proofs.Numeral
import UtxoBalance.Proofs.Outcome

/-!
# Renderings of blocks

A block has many documents. An integer may stand there as a number or as its numeral, a
byte string as any of its texts, a field of an input under either of its names, and what a
block does not have as the absent value or not at all. The choice is free in every place.
Reading undoes it: whatever document renders a block is read as that block.

A relation for each part of a block says which documents render it. It leaves the order of
the fields open, and allows further fields, which are not read.

## Main definitions

- `RendersInteger`, `RendersBytes`, `RendersAddress` — the values of single fields
- `RendersField` — a field that may be absent
- `RendersOutput`, `RendersInput`, `RendersTransaction`, `RendersBlock` — the parts
- `Block.IsRenderable` — the blocks whose documents can be read
- `Block.toDocument` — one document of a block

## Main statements

- `Block.renders_toDocument` — every block has a document
- `Block.ofDocument_of_renders` — each document of a block is read as the block
-/

namespace UtxoBalance

/-! ## Documents of blocks -/

/-- The documents of an integer. -/
inductive RendersInteger (n : Int) : Document → Prop
  /-- A number. -/
  | number : RendersInteger n (.int n)
  /-- Its numeral. -/
  | numeral : RendersInteger n (.text (toString n))

/-- The documents of a byte string that may be anything: hexadecimal texts. -/
inductive RendersBytes (bytes : Bytes) : Document → Prop
  | hex {text : String} : Hex.IsTextOf text bytes → RendersBytes bytes (.text text)

/-- The documents of an address: hexadecimal texts, and base64 texts if its header names a
    layout. -/
inductive RendersAddress (address : Bytes) : Document → Prop
  | hex {text : String} : Hex.IsTextOf text address → RendersAddress address (.text text)
  | base64 {text : String} {kind : Address.Kind} : Address.classify address = .ok kind →
      Base64.IsTextOf text address → RendersAddress address (.text text)

/-- What a field holds, if it is there, for a value that may be missing. -/
inductive RendersField {α : Type} (Renders : α → Document → Prop) :
    Option α → Option Document → Prop
  /-- A value. -/
  | given {a : α} {d : Document} : Renders a d → RendersField Renders (some a) (some d)
  /-- No value, by the absent value. -/
  | null : RendersField Renders none (some .null)
  /-- No value, by no field. -/
  | absent : RendersField Renders none none

/-- Whether one of two names has what the field holds, and the other is not there. -/
def IsUnderEither (fields : Fields) (first second : String) (held : Option Document) : Prop :=
  (fields.lookup first = held ∧ fields.lookup second = none) ∨
    (fields.lookup first = none ∧ fields.lookup second = held)

/-- The documents of an output. -/
inductive RendersOutput (output : Output) : Document → Prop
  | object {fields : Fields} :
      RendersField RendersInteger (some output.coin) (fields.lookup "coin") →
      RendersField RendersAddress (some output.address) (fields.lookup "address") →
      RendersOutput output (.object fields)

/-- The documents of an input. -/
inductive RendersInput (input : Input) : Document → Prop
  | object {fields : Fields} {txHash outputIndex spent : Option Document} :
      IsUnderEither fields "txHash" "tx_hash" txHash →
      RendersField RendersBytes (some input.txHash) txHash →
      IsUnderEither fields "outputIndex" "output_index" outputIndex →
      RendersField RendersInteger (some input.outputIndex) outputIndex →
      IsUnderEither fields "asOutput" "as_output" spent →
      RendersField RendersOutput input.spent spent →
      RendersInput input (.object fields)

/-- The documents of a list: lists of documents of its elements, in order. -/
inductive RendersList {α : Type} (Renders : α → Document → Prop) (values : List α) :
    Document → Prop
  | list {items : List Document} :
      List.Forall₂ Renders values items → RendersList Renders values (.list items)

/-- The documents of a transaction. -/
inductive RendersTransaction (transaction : Transaction) : Document → Prop
  | object {fields : Fields} :
      RendersField (RendersList RendersOutput) (some transaction.outputs)
        (fields.lookup "outputs") →
      RendersField (RendersList RendersInput) (some transaction.inputs)
        (fields.lookup "inputs") →
      RendersField RendersBytes (some transaction.hash) (fields.lookup "hash") →
      RendersTransaction transaction (.object fields)

/-- The documents of a block: the transactions in the body, the place in the header. -/
inductive RendersBlock (block : Block) : Document → Prop
  | object {fields header body : Fields} :
      fields.lookup "header" = some (.object header) →
      fields.lookup "body" = some (.object body) →
      RendersField (RendersList RendersTransaction) (some block.transactions)
        (body.lookup "tx") →
      RendersField RendersInteger block.slot (header.lookup "slot") →
      RendersField RendersBytes block.hash (header.lookup "hash") →
      RendersField RendersInteger block.height (header.lookup "height") →
      RendersBlock block (.object fields)

/-! ## Blocks whose documents can be read -/

/-- Whether an output has an amount that can be written and is not below zero. -/
structure Output.IsRenderable (output : Output) : Prop where
  coin_nonneg : 0 ≤ output.coin
  coin : output.coin.natAbs < Numeral.bound

/-- Whether the integers of an input, and of the output it spends, can be written. -/
structure Input.IsRenderable (input : Input) : Prop where
  outputIndex : input.outputIndex.natAbs < Numeral.bound
  spent : ∀ output ∈ input.spent, output.IsRenderable

/-- Whether the parts of a transaction can be written. -/
structure Transaction.IsRenderable (transaction : Transaction) : Prop where
  outputs : ∀ output ∈ transaction.outputs, output.IsRenderable
  inputs : ∀ input ∈ transaction.inputs, input.IsRenderable

/-- Whether the parts of a block can be written, and its hash, if it has one, is not
    empty. -/
structure Block.IsRenderable (block : Block) : Prop where
  transactions : ∀ transaction ∈ block.transactions, transaction.IsRenderable
  slot : ∀ n ∈ block.slot, n.natAbs < Numeral.bound
  height : ∀ n ∈ block.height, n.natAbs < Numeral.bound
  hash : block.hash ≠ some []

/-! ## Reading fields back -/

namespace Block

theorem field_eq_getD (fields : Fields) (name : String) :
    Document.field fields name = (fields.lookup name).getD .null := rfl

theorem fieldOf_of_isUnderEither {fields : Fields} {first second : String}
    {held : Option Document} (h : IsUnderEither fields first second held) :
    fieldOf fields first second = held.getD .null := by
  rcases h with ⟨hfirst, hsecond⟩ | ⟨hfirst, hsecond⟩
  · rw [fieldOf, field_eq_getD, hfirst, hsecond]
    cases held with
    | none => rfl
    | some d => rfl
  · rw [fieldOf, field_eq_getD, hfirst, hsecond]
    rfl

theorem readInteger_of_renders (field : String) {n : Int} {d : Document}
    (hn : n.natAbs < Numeral.bound) (h : RendersInteger n d) : readInteger field d = .ok (some n) := by
  cases h with
  | number => rfl
  | numeral => rw [readInteger, Numeral.read_toString hn]

theorem readInteger_of_rendersField (field : String) {value : Option Int}
    {held : Option Document} (hvalue : ∀ n ∈ value, n.natAbs < Numeral.bound)
    (h : RendersField RendersInteger value held) :
    readInteger field (held.getD .null) = .ok value := by
  cases h with
  | given hd => exact readInteger_of_renders field (hvalue _ rfl) hd
  | null => rfl
  | absent => rfl

theorem readBytes_of_rendersField (field : String) {value : Option Bytes}
    {held : Option Document} (h : RendersField RendersBytes value held) :
    readBytes field (held.getD .null) = .ok (value.getD []) := by
  cases h with
  | given hd =>
    obtain ⟨htext⟩ := hd
    rw [Option.getD_some, readBytes, decodeText_of_hex htext]
    rfl
  | null => rfl
  | absent => rfl

theorem readBytes_of_rendersAddress (field : String) {address : Bytes} {held : Option Document}
    (h : RendersField RendersAddress (some address) held) :
    readBytes field (held.getD .null) = .ok address := by
  obtain ⟨haddress⟩ := h
  cases haddress with
  | hex htext =>
    rw [Option.getD_some, readBytes, decodeText_of_hex htext]
    rfl
  | base64 hkind htext =>
    rw [Option.getD_some, readBytes,
      decodeText_of_base64 htext (htext.hasHexMark_of_classify hkind)]
    rfl

theorem listed_list (items : List Document) : listed (.list items) = .ok items := by
  cases items with
  | nil => rfl
  | cons item rest => rfl

theorem sectionFields_object (fields : Fields) : sectionFields (.object fields) = .ok fields := by
  cases fields with
  | nil => rfl
  | cons field rest => rfl

/-! ## Reading parts back -/

theorem readCoin_of_renders {coin : Int} {held : Option Document} (hnonneg : 0 ≤ coin)
    (hcoin : coin.natAbs < Numeral.bound) (h : RendersField RendersInteger (some coin) held) :
    readCoin (held.getD .null) = .ok coin := by
  have hread := readInteger_of_rendersField "coin" (by simpa using hcoin) h
  have hnotNeg : ¬ coin < 0 := Int.not_lt.2 hnonneg
  rw [readCoin, hread]
  simp [Except.mapError, bind, Except.bind, pure, Except.pure, hnotNeg]

theorem readOutput_of_renders {output : Output} {d : Document} (ho : output.IsRenderable)
    (h : RendersOutput output d) : readOutput d = .ok output := by
  obtain ⟨hcoin, haddress⟩ := h
  have hread := readCoin_of_renders ho.coin_nonneg ho.coin hcoin
  have hbytes := readBytes_of_rendersAddress "address" haddress
  rw [readOutput, field_eq_getD, field_eq_getD, hread, hbytes]
  rfl

/-- An output has fields, so it counts as given. -/
theorem isPresent_of_rendersOutput {output : Output} {d : Document} (h : RendersOutput output d) :
    d.isPresent = true := by
  obtain ⟨hcoin, -⟩ := h
  next fields =>
    cases fields with
    | nil => cases hcoin
    | cons field rest => rfl

theorem readInput_of_renders {input : Input} {d : Document} (hi : input.IsRenderable)
    (h : RendersInput input d) : readInput d = .ok input := by
  obtain ⟨hhashAt, hhash, hindexAt, hindex, hspentAt, hspent⟩ := h
  have hbytes := readBytes_of_rendersField "txHash" hhash
  have hinteger :=
    readInteger_of_rendersField "outputIndex" (by simpa using hi.outputIndex) hindex
  obtain ⟨txHash, outputIndex, spent⟩ := input
  rw [readInput, fieldOf_of_isUnderEither hhashAt, fieldOf_of_isUnderEither hindexAt,
    fieldOf_of_isUnderEither hspentAt, hbytes, hinteger]
  cases hspent with
  | given houtput =>
    -- an output is never taken for one that is missing, not even without address and coin
    have hread := readOutput_of_renders (hi.spent _ rfl) houtput
    have hpresent := isPresent_of_rendersOutput houtput
    simp only [Option.getD_some, hpresent, if_true, hread]
    rfl
  | null => rfl
  | absent => rfl

theorem readList_of_renders {α : Type} {Renders : α → Document → Prop}
    {read : Document → Except Failure α} {values : List α} {held : Option Document}
    (h : RendersField (RendersList Renders) (some values) held)
    (hread : ∀ value ∈ values, ∀ d, Renders value d → read d = .ok value) :
    ∃ items, listed (held.getD .null) = .ok items ∧ items.mapM read = .ok values := by
  obtain ⟨hlist⟩ := h
  obtain ⟨hitems⟩ := hlist
  next items =>
    have hboth := (List.forall₂_and_left values items).2 ⟨hread, hitems⟩
    refine ⟨items, listed_list items, mapM_eq_ok_iff.2 (List.Forall₂.flip ?_)⟩
    exact hboth.imp fun value d hvalue => hvalue.1 d hvalue.2

theorem readTransaction_of_renders {transaction : Transaction} {d : Document}
    (ht : transaction.IsRenderable) (h : RendersTransaction transaction d) :
    readTransaction d = .ok transaction := by
  obtain ⟨houtputs, hinputs, hhash⟩ := h
  obtain ⟨outputItems, houtputsListed, houtputsRead⟩ := readList_of_renders houtputs
    fun output hmem _ => readOutput_of_renders (ht.outputs output hmem)
  obtain ⟨inputItems, hinputsListed, hinputsRead⟩ := readList_of_renders hinputs
    fun input hmem _ => readInput_of_renders (ht.inputs input hmem)
  have hbytes := readBytes_of_rendersField "hash" hhash
  rw [readTransaction, field_eq_getD, field_eq_getD, field_eq_getD, houtputsListed,
    hinputsListed, hbytes]
  simp only [bind, Except.bind, houtputsRead, hinputsRead]
  rfl

theorem ofDocument_of_renders {block : Block} (hb : block.IsRenderable) {d : Document}
    (h : RendersBlock block d) : ofDocument d = .ok block := by
  obtain ⟨hheaderAt, hbodyAt, htx, hslot, hhash, hheight⟩ := h
  obtain ⟨items, hlisted, hread⟩ := readList_of_renders htx
    fun transaction hmem _ => readTransaction_of_renders (hb.transactions transaction hmem)
  have hslotRead := readInteger_of_rendersField "slot" hb.slot hslot
  have hhashRead := readBytes_of_rendersField "hash" hhash
  have hheightRead := readInteger_of_rendersField "height" hb.height hheight
  -- an empty hash would be taken for none
  have hkept : (if (block.hash.getD []).isEmpty then none else some (block.hash.getD [])) =
      block.hash := by
    have hne := hb.hash
    cases hvalue : block.hash with
    | none => rfl
    | some bytes =>
      cases bytes with
      | nil => exact absurd hvalue hne
      | cons octet rest => rfl
  simp only [ofDocument, field_eq_getD, hheaderAt, hbodyAt, Option.getD_some,
    sectionFields_object, bind, Except.bind, hlisted, hread, hslotRead, hhashRead, hheightRead,
    Except.mapError, hkept]
  rfl

end Block

/-! ## A document of each block

It is built of texts and absent values.
-/

/-- A document of an output. -/
def Output.toDocument (output : Output) : Document :=
  .object [("address", .text (Hex.markedText output.address)),
    ("coin", .text (toString output.coin))]

/-- A document of an input. -/
def Input.toDocument (input : Input) : Document :=
  .object [("txHash", .text (Hex.markedText input.txHash)),
    ("outputIndex", .text (toString input.outputIndex)),
    ("asOutput", (input.spent.map Output.toDocument).getD .null)]

/-- A document of a transaction. -/
def Transaction.toDocument (transaction : Transaction) : Document :=
  .object [("outputs", .list (transaction.outputs.map Output.toDocument)),
    ("inputs", .list (transaction.inputs.map Input.toDocument)),
    ("hash", .text (Hex.markedText transaction.hash))]

/-- A document of a block. -/
def Block.toDocument (block : Block) : Document :=
  .object [("header", .object [("slot", (block.slot.map (.text ∘ toString)).getD .null),
      ("hash", (block.hash.map (.text ∘ Hex.markedText)).getD .null),
      ("height", (block.height.map (.text ∘ toString)).getD .null)]),
    ("body", .object [("tx", .list (block.transactions.map Transaction.toDocument))])]

/-- Writing what there is, and else the absent value, renders a value that may be missing. -/
theorem rendersField_getD {α : Type} {Renders : α → Document → Prop} {write : α → Document}
    (h : ∀ a, Renders a (write a)) (value : Option α) :
    RendersField Renders value (some ((value.map write).getD .null)) := by
  cases value with
  | none => exact .null
  | some a => exact .given (h a)

theorem rendersList_map {α : Type} {Renders : α → Document → Prop} {write : α → Document}
    (h : ∀ a, Renders a (write a)) (values : List α) :
    RendersList Renders values (.list (values.map write)) := by
  refine .list ?_
  rw [List.forall₂_map_right_iff, List.forall₂_same]
  exact fun a _ => h a

theorem Output.renders_toDocument (output : Output) : RendersOutput output output.toDocument :=
  .object (.given .numeral) (.given (.hex (Hex.isTextOf_markedText _)))

theorem Input.renders_toDocument (input : Input) : RendersInput input input.toDocument :=
  .object (.inl ⟨rfl, rfl⟩) (.given (.hex (Hex.isTextOf_markedText _)))
    (.inl ⟨rfl, rfl⟩) (.given .numeral)
    (.inl ⟨rfl, rfl⟩) (rendersField_getD Output.renders_toDocument input.spent)

theorem Transaction.renders_toDocument (transaction : Transaction) :
    RendersTransaction transaction transaction.toDocument :=
  .object (.given (rendersList_map Output.renders_toDocument _))
    (.given (rendersList_map Input.renders_toDocument _))
    (.given (.hex (Hex.isTextOf_markedText _)))

theorem Block.renders_toDocument (block : Block) : RendersBlock block block.toDocument :=
  .object rfl rfl (.given (rendersList_map Transaction.renders_toDocument _))
    (rendersField_getD (fun _ => .numeral) block.slot)
    (rendersField_getD (fun _ => .hex (Hex.isTextOf_markedText _)) block.hash)
    (rendersField_getD (fun _ => .numeral) block.height)

namespace Block

/-- A block has documents, and whichever of them is read, the block is what it is read as. -/
theorem ofDocument_undoes_rendering {block : Block} (hb : block.IsRenderable) :
    (∃ d, RendersBlock block d) ∧ ∀ d, RendersBlock block d → ofDocument d = .ok block :=
  ⟨⟨block.toDocument, block.renders_toDocument⟩, fun _ h => ofDocument_of_renders hb h⟩

/-- A block with an address that has a text of its own in either alphabet, and an input
    that spends an output without address and coin. -/
def spentNothing : Block where
  transactions := [
    { outputs := [⟨[0x61, 0xFB, 0xFF], 7⟩, ⟨[0x61, 0xFB, 0xFF], 0⟩, ⟨[0x61, 0xFB, 0xFF, 0], 8⟩]
      inputs := [{ txHash := [0xAB], outputIndex := -3, spent := some ⟨[], 0⟩ }, {}]
      hash := [] }]
  slot := some 5

/-- A document of it that takes another choice wherever it can. -/
def spentNothingSpelled : Document :=
  .object [
    ("body", .object [("tx", .list [.object [
      ("hash", .text "0X"),
      ("outputs", .list [
        .object [("coin", .text "7"), ("address", .text "Yfv/")],
        .object [("address", .text "Yfv_"), ("coin", .int 0)],
        .object [("address", .text "Yfv_AA"), ("coin", .int 8)]]),
      ("inputs", .list [
        .object [("tx_hash", .text "0XaB"), ("outputIndex", .text "-3"),
          ("as_output", .object [("address", .text "0x"), ("coin", .text "0")])],
        .object [("txHash", .text "0x"), ("output_index", .int 0), ("asOutput", .null)]])]])]),
    ("header", .object [("hash", .null), ("slot", .text "5")])]

theorem ofDocument_undoes_rendering_spentNothing :
    spentNothing.IsRenderable ∧ RendersBlock spentNothing spentNothingSpelled ∧
      ofDocument spentNothingSpelled = .ok spentNothing := by
  have hrenderable : spentNothing.IsRenderable := by
    have htransactions : ∀ transaction ∈ spentNothing.transactions,
        (∀ output ∈ transaction.outputs, 0 ≤ output.coin ∧ output.coin.natAbs < Numeral.bound) ∧
        ∀ input ∈ transaction.inputs, input.outputIndex.natAbs < Numeral.bound ∧
          ∀ output ∈ input.spent, 0 ≤ output.coin ∧ output.coin.natAbs < Numeral.bound := by
      decide +kernel
    have hslot : ∀ n ∈ spentNothing.slot, n.natAbs < Numeral.bound := by decide +kernel
    refine ⟨fun transaction htransaction => ?_, hslot, by simp [spentNothing], by decide⟩
    obtain ⟨houtputs, hinputs⟩ := htransactions transaction htransaction
    constructor
    · intro output houtput
      exact ⟨(houtputs output houtput).1, (houtputs output houtput).2⟩
    · intro input hinput
      obtain ⟨hindex, hspent⟩ := hinputs input hinput
      exact ⟨hindex, fun output houtput =>
        ⟨(hspent output houtput).1, (hspent output houtput).2⟩⟩
  have hrenders : RendersBlock spentNothing spentNothingSpelled := by
    refine .object rfl rfl (.given (.list (.cons ?_ .nil))) (.given .numeral) .null .absent
    refine .object (.given (.list (.cons ?_ (.cons ?_ (.cons ?_ .nil)))))
      (.given (.list (.cons ?_ (.cons ?_ .nil)))) (.given (.hex rfl))
    · exact .object (.given .numeral) (.given (.base64 rfl ⟨"Yfv/", by decide, .inl rfl⟩))
    · exact .object (.given .number) (.given (.base64 rfl ⟨"Yfv_", by decide, .inl rfl⟩))
    · exact .object (.given .number) (.given (.base64 rfl ⟨"Yfv_AA==", by decide, .inr rfl⟩))
    · exact .object (.inr ⟨rfl, rfl⟩) (.given (.hex rfl)) (.inl ⟨rfl, rfl⟩) (.given .numeral)
        (.inr ⟨rfl, rfl⟩) (.given (.object (.given .numeral) (.given (.hex rfl))))
    · exact .object (.inl ⟨rfl, rfl⟩) (.given (.hex rfl)) (.inr ⟨rfl, rfl⟩) (.given .number)
        (.inl ⟨rfl, rfl⟩) .null
  exact ⟨hrenderable, hrenders, (ofDocument_undoes_rendering hrenderable).2 _ hrenders⟩

end Block

end UtxoBalance

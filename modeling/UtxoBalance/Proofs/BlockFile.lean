import UtxoBalance.Proofs.JsonText
import UtxoBalance.Proofs.Rendering

/-!
# Files of blocks

Every block whose parts can be written has a file that is read as the block. The document of
the block is built of texts and absent values, so its JSON text is printable ASCII: the
octets of the file are the characters of the text, and no line end in it is changed.

## Main definitions

- `Text.asciiOctets` — the octets of a text in ASCII
- `Block.toFile` — the octets of a file of a block

## Main statements

- `Utf8.decode_asciiOctets` — ASCII is read octet by octet
- `Block.documentOfFile_write` — a file with a JSON text is read as its document
- `Block.ofFile_toFile` — the file of a block is read as the block
-/

namespace UtxoBalance

/-- The octets of a text in ASCII. -/
def Text.asciiOctets (chars : List Char) : Bytes :=
  chars.map fun c => UInt8.ofNat c.toNat

theorem Utf8.scan_asciiOctets {chars : List Char} (h : ∀ c ∈ chars, c.toNat < 0x80) :
    ∀ position, scan position none (Text.asciiOctets chars) = .ok chars := by
  induction chars with
  | nil =>
    intro position
    rfl
  | cons c rest ih =>
    obtain ⟨hc, hrest⟩ := List.forall_mem_cons.1 h
    intro position
    have hoctet : (UInt8.ofNat c.toNat).toNat = c.toNat := by
      rw [UInt8.toNat_ofNat']
      exact Nat.mod_eq_of_lt (by omega)
    have hlead : lead? c.toNat = some (0, 0x80, 0xBF) := if_pos hc
    have hcons : Text.asciiOctets (c :: rest) =
        UInt8.ofNat c.toNat :: Text.asciiOctets rest := rfl
    rw [hcons, scan]
    simp only [hoctet, hlead, ih hrest, Except.map, Char.ofNat_toNat]

theorem Utf8.decode_asciiOctets {chars : List Char} (h : ∀ c ∈ chars, c.toNat < 0x80) :
    decode (Text.asciiOctets chars) = .ok chars :=
  scan_asciiOctets h 0

/-- A text without a carriage return keeps its line ends. -/
theorem Text.unifyNewlines_of_notMem {chars : List Char} (h : '\r' ∉ chars) :
    unifyNewlines chars = chars := by
  induction chars with
  | nil => rfl
  | cons c rest ih =>
    rw [List.mem_cons, not_or] at h
    rw [unifyNewlines, ih h.2, if_neg (Ne.symm h.1)]
    rintro _ rfl
    exact absurd rfl h.1

namespace Block

/-- A file with the JSON text of a document built of texts is read as the document. -/
theorem documentOfFile_write {d : Document} (h : d.IsTextual) (path : String) :
    documentOfFile path (Text.asciiOctets (Json.writeChars d)) = .ok d := by
  have hprintable := Json.writeChars_printable h
  have hascii : ∀ c ∈ Json.writeChars d, c.toNat < 0x80 := by
    intro c hc
    have hc := (hprintable c hc).2
    omega
  have hreturn : '\r' ∉ Json.writeChars d := fun hmem =>
    absurd (hprintable _ hmem) (by decide)
  have hread := Json.read_write (some Numeral.maxDigits) h
  rw [Json.write, String.toList_ofList] at hread
  rw [documentOfFile, Utf8.decode_asciiOctets hascii]
  simp only [Except.mapError, bind, Except.bind, Text.unifyNewlines_of_notMem hreturn, hread]
  rfl

end Block

/-! ## The document of a block -/

theorem isTextual_getD {α : Type} {write : α → Document} (h : ∀ a, (write a).IsTextual)
    (value : Option α) : ((value.map write).getD .null).IsTextual := by
  cases value with
  | none => exact .null
  | some a => exact h a

theorem isTextual_map {α : Type} {write : α → Document} (h : ∀ a, (write a).IsTextual)
    (values : List α) : (Document.list (values.map write)).IsTextual := by
  refine .list fun item hitem => ?_
  obtain ⟨a, -, rfl⟩ := List.mem_map.1 hitem
  exact h a

theorem Output.isTextual_toDocument (output : Output) : output.toDocument.IsTextual := by
  refine .object ?_ (by simp)
  simp only [List.forall_mem_cons, List.not_mem_nil, false_implies, implies_true, and_true]
  exact ⟨.text _, .text _⟩

theorem Input.isTextual_toDocument (input : Input) : input.toDocument.IsTextual := by
  refine .object ?_ (by simp)
  simp only [List.forall_mem_cons, List.not_mem_nil, false_implies, implies_true, and_true]
  exact ⟨.text _, .text _, isTextual_getD Output.isTextual_toDocument _⟩

theorem Transaction.isTextual_toDocument (transaction : Transaction) :
    transaction.toDocument.IsTextual := by
  refine .object ?_ (by simp)
  simp only [List.forall_mem_cons, List.not_mem_nil, false_implies, implies_true, and_true]
  exact ⟨isTextual_map Output.isTextual_toDocument _, isTextual_map Input.isTextual_toDocument _,
    .text _⟩

theorem Block.isTextual_toDocument (block : Block) : block.toDocument.IsTextual := by
  have hheader : (Document.object [("slot", (block.slot.map (.text ∘ toString)).getD .null),
      ("hash", (block.hash.map (.text ∘ Hex.markedText)).getD .null),
      ("height", (block.height.map (.text ∘ toString)).getD .null)]).IsTextual := by
    refine .object ?_ (by simp)
    simp only [List.forall_mem_cons, List.not_mem_nil, false_implies, implies_true, and_true]
    exact ⟨isTextual_getD (fun _ => .text _) _, isTextual_getD (fun _ => .text _) _,
      isTextual_getD (fun _ => .text _) _⟩
  have hbody : (Document.object
      [("tx", .list (block.transactions.map Transaction.toDocument))]).IsTextual := by
    refine .object ?_ (by simp)
    rw [List.forall_mem_singleton]
    exact isTextual_map Transaction.isTextual_toDocument _
  refine .object ?_ (by simp)
  simp only [List.forall_mem_cons, List.not_mem_nil, false_implies, implies_true, and_true]
  exact ⟨hheader, hbody⟩

namespace Block

/-- The octets of a file of a block. -/
def toFile (block : Block) : Bytes :=
  Text.asciiOctets (Json.writeChars block.toDocument)

theorem ofFile_toFile {block : Block} (h : block.IsRenderable) (path : String) :
    ofFile path block.toFile = .ok block := by
  rw [ofFile, toFile, documentOfFile_write block.isTextual_toDocument]
  exact ofDocument_of_renders h block.renders_toDocument

end Block

end UtxoBalance

import UtxoBalance.Proofs.BlockFile
import UtxoBalance.Proofs.BlockGrammar
import UtxoBalance.Proofs.Output

/-!
# Where the reading of blocks breaks

A malformed block is refused with a fault of the block, and the program reports that. Not all
malformed blocks are: a document may break the reading, and so may a file that is not in UTF-8
or that writes an integer with too many digits. The program reports none of these failures.
It breaks on them. That it may also break on a text that is nested too deeply for its stack is
left out here, as it is in `Json.readValue`.

## Main definitions

- `Block.FileBreaks` — the files that break the reading, each with its failure
- `Request.ReachesBlock` — the requests whose block is read

## Main statements

- `Request.run_of_unread_block` — a run whose block cannot be read ends on the failure
- `Block.breaks_apart_from_refusals` — the failures of reading that are no faults of the block
-/

namespace UtxoBalance

/-- Whether a failure is a fault of the block, as a malformed one is to give. -/
inductive Failure.IsOfBlock : Failure → Prop
  | block (error : Block.FormatError) : IsOfBlock (.block error)

namespace Block

/-- What breaks the reading of a file: its octets, an integer in its text, or its document. -/
inductive FileBreaks (octets : Bytes) : Failure → Prop
  | encoding {fault : Utf8.Fault} : Utf8.decode octets = .error fault →
      FileBreaks octets (.encoding fault)
  | digits {chars : List Char} {count : Nat} : Utf8.decode octets = .ok chars →
      Json.read (some Numeral.maxDigits) (Text.unifyNewlines chars) =
        .error (.tooManyDigits count) →
      FileBreaks octets (.shape (.numeral (.tooManyDigits count)))
  | document {chars : List Char} {d : Document} {fault : Fault} :
      Utf8.decode octets = .ok chars →
      Json.read (some Numeral.maxDigits) (Text.unifyNewlines chars) = .ok d →
      BlockBreaks d fault → FileBreaks octets (.shape fault)

theorem ofDocument_breaks_iff {d : Document} {failure : Failure} :
    ofDocument d = .error failure ∧ ¬failure.IsOfBlock ↔
      ∃ fault, failure = .shape fault ∧ BlockBreaks d fault := by
  have hread := reading_ofDocument d
  constructor
  · rintro ⟨herror, hother⟩
    rw [herror] at hread
    cases hread with
    | refused _ _ => exact absurd (.block _) hother
    | broken _ hbreaks => exact ⟨_, rfl, (hbreaks _).2 rfl⟩
  · rintro ⟨fault, rfl, hbreaks⟩
    exact ⟨hread.eq_shape_iff.2 hbreaks, nofun⟩

section File

variable {path : String} {octets : Bytes} {chars : List Char}

theorem ofFile_of_decode_error {fault : Utf8.Fault} (h : Utf8.decode octets = .error fault) :
    ofFile path octets = .error (.encoding fault) := by
  rw [ofFile, documentOfFile, h]
  rfl

theorem ofFile_of_tooManyDigits {count : Nat} (hchars : Utf8.decode octets = .ok chars)
    (h : Json.read (some Numeral.maxDigits) (Text.unifyNewlines chars) =
      .error (.tooManyDigits count)) :
    ofFile path octets = .error (.shape (.numeral (.tooManyDigits count))) := by
  rw [ofFile, documentOfFile, hchars]
  simp only [Except.mapError, bind, Except.bind, h]
  rfl

theorem ofFile_of_malformed {reason : Json.Reason} {place : Text.Place}
    (hchars : Utf8.decode octets = .ok chars)
    (h : Json.read (some Numeral.maxDigits) (Text.unifyNewlines chars) =
      .error (.malformed reason place)) :
    ofFile path octets = .error (.block (.notJson path reason place)) := by
  rw [ofFile, documentOfFile, hchars]
  simp only [Except.mapError, bind, Except.bind, h]
  rfl

theorem ofFile_of_read {d : Document} (hchars : Utf8.decode octets = .ok chars)
    (h : Json.read (some Numeral.maxDigits) (Text.unifyNewlines chars) = .ok d) :
    ofFile path octets = ofDocument d := by
  rw [ofFile, documentOfFile, hchars]
  simp only [Except.mapError, bind, Except.bind, h]
  rfl

/-- The failures of reading a file are faults of the block, apart from those on which it
    breaks. -/
theorem ofFile_breaks_iff {failure : Failure} :
    ofFile path octets = .error failure ∧ ¬failure.IsOfBlock ↔ FileBreaks octets failure := by
  constructor
  · rintro ⟨herror, hother⟩
    cases hchars : Utf8.decode octets with
    | error fault =>
      rw [ofFile_of_decode_error hchars] at herror
      cases herror
      exact .encoding hchars
    | ok chars =>
      cases hread : Json.read (some Numeral.maxDigits) (Text.unifyNewlines chars) with
      | ok d =>
        rw [ofFile_of_read hchars hread] at herror
        obtain ⟨fault, rfl, hbreaks⟩ := ofDocument_breaks_iff.1 ⟨herror, hother⟩
        exact .document hchars hread hbreaks
      | error fault =>
        cases fault with
        | malformed reason place =>
          rw [ofFile_of_malformed hchars hread] at herror
          cases herror
          exact absurd (.block _) hother
        | tooManyDigits count =>
          rw [ofFile_of_tooManyDigits hchars hread] at herror
          cases herror
          exact .digits hchars hread
  · intro h
    cases h with
    | encoding hchars => exact ⟨ofFile_of_decode_error hchars, nofun⟩
    | digits hchars hread => exact ⟨ofFile_of_tooManyDigits hchars hread, nofun⟩
    | document hchars hread hbreaks =>
      rw [ofFile_of_read hchars hread]
      exact ofDocument_breaks_iff.2 ⟨_, rfl, hbreaks⟩

end File

end Block

/-! ## Runs -/

/-- Whether a request comes to the reading of its block: the block is in a file, and the
    settings name reducers that are registered. -/
structure Request.ReachesBlock (look : String → Found) (environment : Settings.Environment)
    (block config : String) (octets : Bytes) : Prop where
  isFile : look (Path.normal block) = .file octets
  isComposed : ∃ settings composition,
    settingsAt look environment (Path.normal config) = .ok settings ∧
      Composition.ofSettings settings = .ok composition

/-- A run whose block cannot be read prints nothing, and ends on the failure. -/
theorem Request.run_of_unread_block {direction : Direction} {block config : String}
    {look : String → Found} {environment : Settings.Environment} {octets : Bytes} {result : Run}
    {failure : Failure}
    (hrun : (Request.reduce direction block config).run look environment = some result)
    (hreach : ReachesBlock look environment block config octets)
    (hfail : Block.ofFile (Path.normal block) octets = .error failure) :
    result.output = "" ∧ result.ending = .ofFailure failure := by
  obtain ⟨hfile, settings, composition, hsettings, hcomposition⟩ := hreach
  have hcommands : Composition.commandsFor look environment direction (Path.normal block)
      (Path.normal config) octets = .error failure := by
    simp only [Composition.commandsFor, hsettings, hcomposition, hfail, bind, Except.bind]
  obtain ⟨found, hfound, hcases⟩ := run_reduce_cases hrun
  rw [hfile] at hfound
  cases hfound
  rcases hcases with ⟨commands, hok, -⟩ | ⟨other, herror, houtput, hending⟩
  · rw [hcommands] at hok
    cases hok
  · rw [hcommands] at herror
    cases herror
    exact ⟨houtput, hending⟩

theorem Ending.ofFailure_of_isOfBlock {failure : Failure} (h : failure.IsOfBlock) :
    ofFailure failure = .reported failure.message := by
  cases h
  rfl

theorem Ending.ofFailure_of_fileBreaks {octets : Bytes} {failure : Failure}
    (h : Block.FileBreaks octets failure) : ofFailure failure = .broken failure := by
  cases h with
  | encoding _ => rfl
  | digits _ _ => rfl
  | document _ _ _ => rfl

/-- Reading gives a block, or a fault of the block, or it breaks, where the documents and files
    that break it are told exactly. A run that comes to the reading of a block that cannot be
    read prints nothing. It reports a fault of the block, and breaks on any other failure. -/
theorem Block.breaks_apart_from_refusals (d : Document) (path : String) (octets : Bytes)
    (failure : Failure) :
    (ofDocument d = .error failure ∧ ¬failure.IsOfBlock ↔
      ∃ fault, failure = .shape fault ∧ BlockBreaks d fault) ∧
    (ofFile path octets = .error failure ∧ ¬failure.IsOfBlock ↔ FileBreaks octets failure) ∧
    ∀ (look : String → Found) (environment : Settings.Environment) (direction : Direction)
      (block config : String) (result : Run),
      (Request.reduce direction block config).run look environment = some result →
      Request.ReachesBlock look environment block config octets →
      ofFile (Path.normal block) octets = .error failure →
      result.output = "" ∧
        (FileBreaks octets failure → result.ending = .broken failure) ∧
        (¬FileBreaks octets failure → result.ending = .reported failure.message) := by
  refine ⟨ofDocument_breaks_iff, ofFile_breaks_iff, ?_⟩
  intro look environment direction block config result hrun hreach hfail
  obtain ⟨houtput, hending⟩ := Request.run_of_unread_block hrun hreach hfail
  rw [hending]
  refine ⟨houtput, Ending.ofFailure_of_fileBreaks, fun hreads => ?_⟩
  have hown : failure.IsOfBlock := by
    by_contra hother
    exact hreads (ofFile_breaks_iff.1 ⟨hfail, hother⟩)
  exact Ending.ofFailure_of_isOfBlock hown

/-- A block whose header is a text. -/
def textHeader : Document := .object [("header", .text "abc")]

/-- The file of that block. -/
def textHeaderFile (path : String) : Found :=
  if path = "block.json" then .file (Text.asciiOctets (Json.writeChars textHeader))
  else .nothing

/-- A block that creates one output of this amount. -/
def oneCoin (coin : Int) : Document :=
  .object [("body", .object [("tx", .list [.object [("outputs",
    .list [.object [("coin", .int coin)]])]])])]

theorem textHeader_breaks : Block.BlockBreaks textHeader (.noLookup "str") :=
  .header (.object _) (.notGiven rfl) (.notGiven rfl) (.noLookup rfl nofun)

theorem oneCoin_breaks : Block.BlockBreaks (oneCoin (-Numeral.bound)) (.numeral .tooLarge) := by
  have houtput : Block.OutputBreaks (.object [("coin", .int (-Numeral.bound))])
      (.numeral .tooLarge) := .coin (.object _) (.tooLarge (.number _) le_rfl)
  have htransaction : Block.TransactionBreaks
      (.object [("outputs", .list [.object [("coin", .int (-Numeral.bound))]])])
      (.numeral .tooLarge) := by
    refine .outputs (.object _) (Block.listBreaks_list_iff.2 ?_)
    exact ⟨[], _, [], rfl, nofun, houtput⟩
  refine .transactions (.object _) (.object _) (Block.listBreaks_list_iff.2 ?_)
  exact ⟨[], _, [], rfl, nofun, htransaction⟩

theorem textHeaderFile_reachesBlock : Request.ReachesBlock textHeaderFile [] "block.json"
    Request.defaultConfig (Text.asciiOctets (Json.writeChars textHeader)) := by
  have hblock : Path.normal "block.json" = "block.json" := by decide +kernel
  have hcomposed : ((settingsAt textHeaderFile [] (Path.normal Request.defaultConfig)).toOption.bind
      fun settings => (Composition.ofSettings settings).toOption) = some ⟨[]⟩ := by
    decide +kernel
  constructor
  · rw [hblock]
    exact if_pos rfl
  · obtain ⟨settings, hsettings, hcomposition⟩ := exists_of_toOption_bind hcomposed
    exact ⟨settings, _, hsettings, hcomposition⟩

/-- Reading breaks on both blocks, and the program breaks on the file of the first. -/
theorem Block.breaks_apart_from_refusals_textHeader :
    ofDocument (oneCoin (-Numeral.bound)) = .error (.shape (.numeral .tooLarge)) ∧
    ∃ result, (Request.reduce .apply "block.json" Request.defaultConfig).run textHeaderFile [] =
        some result ∧
      result.output = "" ∧ result.ending = .broken (.shape (.noLookup "str")) := by
  let octets := Text.asciiOctets (Json.writeChars textHeader)
  have hcoin := (breaks_apart_from_refusals (oneCoin (-Numeral.bound)) "" []
    (.shape (.numeral .tooLarge))).1.2 ⟨_, rfl, oneCoin_breaks⟩
  obtain ⟨hdocument, hfile, hruns⟩ := breaks_apart_from_refusals textHeader
    (Path.normal "block.json") octets (.shape (.noLookup "str"))
  obtain ⟨herror, hother⟩ := hdocument.2 ⟨_, rfl, textHeader_breaks⟩
  have htextual : textHeader.IsTextual := by
    refine .object ?_ (by simp)
    rw [List.forall_mem_singleton]
    exact .text "abc"
  have hfail : ofFile (Path.normal "block.json") octets = .error (.shape (.noLookup "str")) := by
    rw [ofFile, documentOfFile_write htextual]
    exact herror
  have hreach := textHeaderFile_reachesBlock
  have hrun : (Request.reduce .apply "block.json" Request.defaultConfig).run textHeaderFile [] =
      some (runReduce textHeaderFile [] .apply (Path.normal "block.json")
        (Path.normal Request.defaultConfig) octets) := by
    rw [Request.run, if_neg (by decide +kernel), hreach.isFile]
  obtain ⟨houtput, hbroken, -⟩ := hruns _ _ _ _ _ _ hrun hreach hfail
  exact ⟨hcoin.1, _, hrun, houtput, hbroken (hfile.1 ⟨hfail, hother⟩)⟩

/-- Not every document that is no block is refused with a fault of the block. -/
theorem Block.not_refused_or_read : ¬∀ d : Document,
    (∃ block, ofDocument d = .ok block) ∨ ∃ error, ofDocument d = .error (.block error) := by
  intro h
  have hbroken : ofDocument textHeader = .error (.shape (.noLookup "str")) :=
    (ofDocument_breaks_iff.2 ⟨_, rfl, textHeader_breaks⟩).1
  rcases h textHeader with ⟨block, hblock⟩ | ⟨error, herror⟩
  · rw [hbroken] at hblock
    cases hblock
  · rw [hbroken] at herror
    cases herror

end UtxoBalance

import ManagedBinding.Options.Document
import ManagedBinding.Proofs.Text.Scopes
import Mathlib.Data.List.Induction

/-!
# Which options are accepted

A text is first decoded, which is a matter of its keys and of the types of
their values.  What it says is then accepted unless wrapping is on and the
namespace is missing or has a blank segment.  A refused namespace is reported
at the place where it is written, and the name of the file does not matter
beyond standing in the report.

Decoding and checking are described apart from the order in which they go on:
`SaidBy` relates a document to what it says, and `NamespaceFault.Concerns`
says what each fault is about.
-/

namespace ManagedBinding

open Toml (Span Item Key Entries)

/-- The item is of the type that the key takes. -/
def OptionsKey.Takes : OptionsKey → Item → Prop
  | .generateLibraryNamespace, item =>
      ∃ span value, item = .scalar span (.boolean value)
  | .outputNamespace, item =>
      ∃ span value, item = .scalar span (.string value)

/-- The key is known and takes the item. -/
def FitsOptions (entry : Key × Item) : Prop :=
  ∃ key : OptionsKey, entry.1.name = key.name ∧ key.Takes entry.2

/-- The value under a key: the default if no entry has the key, and otherwise
one that an entry with this key writes. -/
def ValueUnder {α : Type}
    (entries : Entries) (key : OptionsKey) (default : α)
    (writes : Item → α → Prop) (value : α) : Prop :=
  (value = default ∧ ∀ entry ∈ entries, entry.1.name ≠ key.name) ∨
    ∃ entry ∈ entries, entry.1.name = key.name ∧ writes entry.2 value

theorem ValueUnder.append_other
    {α : Type} {entries : Entries} {key : OptionsKey} {default value : α}
    {writes : Item → α → Prop} {entry : Key × Item}
    (under : ValueUnder entries key default writes value)
    (other : entry.1.name ≠ key.name) :
    ValueUnder (entries ++ [entry]) key default writes value := by
  rcases under with ⟨isDefault, absent⟩ | ⟨found, member, named, written⟩
  · refine .inl ⟨isDefault, ?_⟩
    intro tested member
    rcases List.mem_append.mp member with earlier | last
    · exact absent tested earlier
    · rw [List.mem_singleton.mp last]
      exact other
  · exact .inr ⟨found, List.mem_append_left _ member, named, written⟩

theorem ValueUnder.append_same
    {α : Type} (entries : Entries) {key : OptionsKey} {default value : α}
    {writes : Item → α → Prop} {entry : Key × Item}
    (named : entry.1.name = key.name) (written : writes entry.2 value) :
    ValueUnder (entries ++ [entry]) key default writes value :=
  .inr ⟨entry, List.mem_append_right _ List.mem_cons_self, named, written⟩

namespace RawOptions

/-- The entries say this about the options and nothing else.  The place of a
namespace is the place of its literal. -/
structure SaidBy (entries : Entries) (raw : RawOptions) : Prop where
  fits : ∀ entry ∈ entries, FitsOptions entry
  enabled_said :
    ValueUnder entries .generateLibraryNamespace false
      (fun item value => ∃ span, item = .scalar span (.boolean value))
      raw.enabled
  name_said :
    ValueUnder entries .outputNamespace none
      (fun item name =>
        ∃ written : SpannedString, name = some written ∧
          item = .scalar written.span (.string written.value))
      raw.name

theorem saidBy_nil : SaidBy [] unset :=
  ⟨fun _ member => absurd member List.not_mem_nil,
    .inl ⟨rfl, fun _ member => absurd member List.not_mem_nil⟩,
    .inl ⟨rfl, fun _ member => absurd member List.not_mem_nil⟩⟩

/-- What entries say does not depend on their order. -/
theorem SaidBy.of_mem_iff
    {entries others : Entries} {raw : RawOptions}
    (said : SaidBy entries raw)
    (same : ∀ entry, entry ∈ others ↔ entry ∈ entries) :
    SaidBy others raw := by
  obtain ⟨fits, enabledSaid, nameSaid⟩ := said
  refine ⟨fun entry member => fits entry ((same entry).mp member), ?_, ?_⟩
  · simpa only [ValueUnder, same] using enabledSaid
  · simpa only [ValueUnder, same] using nameSaid

/-- One more entry that fits is read, and the result says one thing more. -/
theorem SaidBy.read
    {entries : Entries} {raw : RawOptions} (said : SaidBy entries raw)
    {entry : Key × Item} (fits : FitsOptions entry) :
    ∃ next, raw.read entry = .ok next ∧ SaidBy (entries ++ [entry]) next := by
  have allFit : ∀ tested ∈ entries ++ [entry], FitsOptions tested := by
    intro tested member
    rcases List.mem_append.mp member with earlier | last
    · exact said.fits tested earlier
    · rw [List.mem_singleton.mp last]
      exact fits
  obtain ⟨key, item⟩ := entry
  obtain ⟨optionsKey, named, takes⟩ := fits
  have named : key.name = optionsKey.name := named
  cases optionsKey with
  | generateLibraryNamespace =>
      obtain ⟨span, value, written⟩ := takes
      have written : item = .scalar span (.boolean value) := written
      have other : key.name ≠ OptionsKey.outputNamespace.name := by
        rw [named]
        decide
      refine ⟨{ raw with enabled := value }, ?_, allFit,
        .append_same entries named ⟨span, written⟩,
        said.name_said.append_other other⟩
      rw [written]
      simp only [RawOptions.read, if_pos named]
  | outputNamespace =>
      obtain ⟨span, value, written⟩ := takes
      have written : item = .scalar span (.string value) := written
      have other : key.name ≠ OptionsKey.generateLibraryNamespace.name := by
        rw [named]
        decide
      refine ⟨{ raw with name := some ⟨value, span⟩ }, ?_, allFit,
        said.enabled_said.append_other other,
        .append_same entries named ⟨⟨value, span⟩, rfl, written⟩⟩
      rw [written]
      simp only [RawOptions.read, if_neg other, if_pos named]

/-- An entry with another name or of another type is refused. -/
theorem read_unfit
    (raw : RawOptions) {entry : Key × Item} (unfit : ¬ FitsOptions entry) :
    ∃ fault, raw.read entry = .error fault := by
  obtain ⟨key, item⟩ := entry
  unfold read
  by_cases isSwitch : key.name = OptionsKey.generateLibraryNamespace.name
  · simp only [if_pos isSwitch]
    split
    · next span value =>
        exact absurd ⟨_, isSwitch, span, value, rfl⟩ unfit
    · exact ⟨_, rfl⟩
  · by_cases isName : key.name = OptionsKey.outputNamespace.name
    · simp only [if_neg isSwitch, if_pos isName]
      split
      · next span value =>
          exact absurd ⟨_, isName, span, value, rfl⟩ unfit
      · exact ⟨_, rfl⟩
    · simp only [if_neg isSwitch, if_neg isName]
      exact ⟨_, rfl⟩

/-- Entries that fit are read in any order, and what comes out is what they
say. -/
theorem saidBy_foldlM
    (entries : Entries) (fits : ∀ entry ∈ entries, FitsOptions entry) :
    ∃ raw, entries.foldlM read unset = .ok raw ∧ SaidBy entries raw := by
  induction entries using List.reverseRecOn with
  | nil => exact ⟨unset, rfl, saidBy_nil⟩
  | append_singleton earlier last inductionHypothesis =>
      rw [List.forall_mem_append] at fits
      obtain ⟨raw, readEarlier, said⟩ := inductionHypothesis fits.1
      obtain ⟨next, readLast, saidAll⟩ :=
        said.read (fits.2 last List.mem_cons_self)
      refine ⟨next, ?_, saidAll⟩
      rw [List.foldlM_append, readEarlier]
      change [last].foldlM read raw = .ok next
      rw [List.foldlM_cons, readLast]
      rfl

theorem foldlM_read_unfit
    {entries : Entries} (unfit : ∃ entry ∈ entries, ¬ FitsOptions entry)
    (raw : RawOptions) :
    ∃ fault, entries.foldlM read raw = .error fault := by
  induction entries generalizing raw with
  | nil =>
      obtain ⟨entry, member, _⟩ := unfit
      exact absurd member List.not_mem_nil
  | cons first rest inductionHypothesis =>
      rw [List.foldlM_cons]
      cases readFirst : raw.read first with
      | error fault => exact ⟨fault, rfl⟩
      | ok next =>
          refine inductionHypothesis ?_ next
          obtain ⟨entry, member, refused⟩ := unfit
          rcases List.mem_cons.mp member with same | inRest
          · obtain ⟨fault, failed⟩ := read_unfit raw refused
            rw [← same, failed] at readFirst
            cases readFirst
          · exact ⟨entry, inRest, refused⟩

/-- A document is read exactly if all its entries fit, and then as what they
say. -/
theorem ofEntries_cases (entries : Entries) :
    (∃ raw, ofEntries entries = .ok raw ∧ SaidBy entries raw) ∨
      (∃ fault, ofEntries entries = .error fault) ∧
        ∃ entry ∈ entries, ¬ FitsOptions entry := by
  let sorted :=
    List.mergeSort entries fun left right =>
      decide (left.1.name ≤ right.1.name)
  have same (entry : Key × Item) : entry ∈ sorted ↔ entry ∈ entries :=
    List.mem_mergeSort
  by_cases fits : ∀ entry ∈ entries, FitsOptions entry
  · obtain ⟨raw, readAll, said⟩ :=
      saidBy_foldlM sorted fun entry member =>
        fits entry ((same entry).mp member)
    exact .inl ⟨raw, readAll, said.of_mem_iff fun entry => (same entry).symm⟩
  · push Not at fits
    obtain ⟨entry, member, unfit⟩ := fits
    have notRead :=
      foldlM_read_unfit ⟨entry, (same entry).mpr member, unfit⟩ unset
    exact .inr ⟨notRead, entry, member, unfit⟩

end RawOptions

/-! ## Checking -/

/-- What is wrong with a namespace that is needed. -/
def NamespaceFault.Concerns :
    NamespaceFault → Option SpannedString → Prop
  | .missing, name => name = none
  | .blank, name =>
      ∃ written, name = some written ∧
        ¬ Text.Visible written.value.toList
  | .blankSegment value, name =>
      (∃ written, name = some written ∧ written.value = value) ∧
        Text.Visible value.toList ∧
        ∃ segment ∈ Text.parts "::" value, ¬ Text.Visible segment.toList

/-- A blank path is its own only segment. -/
theorem Text.exists_blank_part
    {path : String} (blank : ¬ Visible path.toList) :
    ∃ segment ∈ parts "::" path, ¬ Visible segment.toList := by
  have plain : ':' ∉ path.toList := by
    intro member
    exact blank ⟨':', member, by decide⟩
  rw [parts_scopes_of_not_mem plain]
  exact ⟨path, List.mem_cons_self, blank⟩

namespace RawOptions

/-- Wrapping is off, or there is a namespace each of whose segments has a
character that is not blank. -/
def IsUsable (raw : RawOptions) : Prop :=
  raw.enabled = false ∨
    ∃ written, raw.name = some written ∧
      ∀ segment ∈ Text.parts "::" written.value,
        Text.Visible segment.toList

theorem isUsable_written_iff (written : SpannedString) :
    IsUsable ⟨true, some written⟩ ↔
      ∀ segment ∈ Text.parts "::" written.value,
        Text.Visible segment.toList := by
  constructor
  · rintro (isOff | ⟨other, same, visible⟩)
    · cases isOff
    · have isWritten : written = other := Option.some.inj same
      rw [isWritten]
      exact visible
  · intro visible
    exact .inr ⟨written, rfl, visible⟩

/-- Usable options with wrapping on are those of their namespace. -/
theorem IsUsable.toOptions_of_enabled
    {raw : RawOptions} (usable : raw.IsUsable)
    (enabled : raw.enabled = true) :
    ∃ written, raw.name = some written ∧
      raw.toOptions = Options.standard.withLibraryNamespace written.value ∧
      ∀ segment ∈ Text.parts "::" written.value,
        Text.Visible segment.toList := by
  rcases usable with isOff | ⟨written, present, visible⟩
  · rw [enabled] at isOff
    cases isOff
  · refine ⟨written, present, ?_, visible⟩
    rw [toOptions, enabled, present]
    rfl

/-- Options with wrapping off keep their namespace and do not use it. -/
theorem toOptions_of_disabled
    {raw : RawOptions} (isOff : raw.enabled = false) :
    raw.toOptions.libraryNamespace? = none ∧
      raw.toOptions.outputNamespace =
        (raw.name.map SpannedString.value).getD "" := by
  rw [toOptions, Options.libraryNamespace?, isOff]
  exact ⟨rfl, rfl⟩

/-- The two tests of a written namespace, by its visible characters. -/
theorem namespaceFault?_written (written : SpannedString) :
    namespaceFault? ⟨true, some written⟩ =
      if ¬ Text.Visible written.value.toList then
        some .blank
      else if ∃ segment ∈ Text.parts "::" written.value,
          ¬ Text.Visible segment.toList then
        some (.blankSegment written.value)
      else
        none := by
  simp only [namespaceFault?, Text.isBlank, Text.not_visible_iff,
    Text.parts_scopes, List.mem_map, exists_exists_and_eq_and,
    String.toList_ofList, List.any_eq_true, if_true]

/-- The check passes what is usable, and otherwise finds what is wrong. -/
theorem namespaceFault?_cases (raw : RawOptions) :
    (raw.namespaceFault? = none ∧ raw.IsUsable) ∨
      ∃ fault, raw.namespaceFault? = some fault ∧ ¬ raw.IsUsable ∧
        raw.enabled = true ∧ fault.Concerns raw.name := by
  obtain ⟨enabled, name⟩ := raw
  rcases enabled with _ | _
  · exact .inl ⟨rfl, .inl rfl⟩
  · rcases name with _ | written
    · refine .inr ⟨.missing, rfl, ?_, rfl, rfl⟩
      rintro (isOff | ⟨written, present, _⟩)
      · cases isOff
      · cases present
    · rw [namespaceFault?_written, isUsable_written_iff]
      by_cases visible : Text.Visible written.value.toList
      · rw [if_neg (not_not.mpr visible)]
        by_cases blank : ∃ segment ∈ Text.parts "::" written.value,
            ¬ Text.Visible segment.toList
        · rw [if_pos blank]
          refine .inr ⟨_, rfl, ?_, rfl, ⟨written, rfl, rfl⟩, visible, blank⟩
          obtain ⟨segment, member, notVisible⟩ := blank
          exact fun allVisible => notVisible (allVisible segment member)
        · rw [if_neg blank]
          push Not at blank
          exact .inl ⟨rfl, blank⟩
      · rw [if_pos visible]
        refine .inr ⟨.blank, rfl, ?_, rfl, written, rfl, visible⟩
        obtain ⟨segment, member, notVisible⟩ :=
          Text.exists_blank_part visible
        exact fun allVisible => notVisible (allVisible segment member)

/-- The fault and the place that options are refused with.  There is a place
exactly if a namespace is written, and it is the place of the literal. -/
structure RefusedFor
    (raw : RawOptions) (fault : NamespaceFault) (span : Option Span) :
    Prop where
  enabled : raw.enabled = true
  concerns : fault.Concerns raw.name
  span_eq_none_iff : span = none ↔ raw.name = none
  span_eq : ∀ written, raw.name = some written → span = some written.span

theorem refusedFor_of_fault
    {raw : RawOptions} {fault : NamespaceFault}
    (found : raw.namespaceFault? = some fault) :
    raw.RefusedFor fault (raw.name.map SpannedString.span) := by
  rcases raw.namespaceFault?_cases with
    ⟨passed, _⟩ | ⟨other, foundOther, _, enabled, concerns⟩
  · rw [found] at passed
    cases passed
  · have same : fault = other :=
      Option.some.inj (found.symm.trans foundOther)
    rw [same]
    refine ⟨enabled, concerns, Option.map_eq_none_iff, ?_⟩
    intro written present
    rw [present]
    rfl

end RawOptions

/-! ## Reports -/

/-- The same error in a source of another name. -/
def OptionsError.inSourceNamed (name : String) : OptionsError → OptionsError
  | .unreadable path failure => .unreadable path failure
  | .malformed source => .malformed { source with name := name }
  | .unfit source fault span =>
      .unfit { source with name := name } fault span
  | .invalid source message span =>
      .invalid { source with name := name } message span

namespace OptionsSource

/-- Decoding succeeds with what the entries of the document say, or else some
entry does not fit or there is no document; the report is then on the text. -/
theorem read_cases (source : OptionsSource) :
    (∃ raw entries, source.read = .ok raw ∧
        Toml.parse? source.text = some entries ∧
        RawOptions.SaidBy entries raw) ∨
      ∃ error, source.read = .error error ∧
        error.code = "bindweave::parse_error" ∧
        ∀ entries, Toml.parse? source.text = some entries →
          ∃ entry ∈ entries, ¬ FitsOptions entry := by
  rw [read]
  cases parsed : Toml.parse? source.text with
  | none =>
      refine .inr ⟨.malformed source, rfl, rfl, ?_⟩
      intro entries impossible
      cases impossible
  | some entries =>
      rcases RawOptions.ofEntries_cases entries with
        ⟨raw, readAll, said⟩ | ⟨⟨⟨fault, span⟩, failed⟩, unfit⟩
      · refine .inl ⟨raw, entries, ?_, rfl, said⟩
        simp only [readAll]
      · refine .inr ⟨.unfit source fault span, ?_, rfl, ?_⟩
        · simp only [failed]
        · intro others same
          rw [← Option.some.inj same]
          exact unfit

theorem read_eq_ok_iff (source : OptionsSource) :
    (∃ raw, source.read = .ok raw) ↔
      ∃ entries, Toml.parse? source.text = some entries ∧
        ∀ entry ∈ entries, FitsOptions entry := by
  rcases source.read_cases with
    ⟨raw, entries, decoded, parsed, said⟩ | ⟨error, failed, _, unfit⟩
  · exact ⟨fun _ => ⟨entries, parsed, said.fits⟩, fun _ => ⟨raw, decoded⟩⟩
  · constructor
    · rintro ⟨raw, decoded⟩
      rw [failed] at decoded
      cases decoded
    · rintro ⟨entries, parsed, fits⟩
      obtain ⟨entry, member, refused⟩ := unfit entries parsed
      exact absurd (fits entry member) refused

theorem saidBy_of_read
    {source : OptionsSource} {raw : RawOptions}
    (decoded : source.read = .ok raw) :
    ∃ entries, Toml.parse? source.text = some entries ∧
      RawOptions.SaidBy entries raw := by
  rcases source.read_cases with
    ⟨other, entries, decodedOther, parsed, said⟩ | ⟨error, failed, _, _⟩
  · rw [decodedOther] at decoded
    cases decoded
    exact ⟨entries, parsed, said⟩
  · rw [failed] at decoded
    cases decoded

theorem code_of_read_error
    {source : OptionsSource} {error : OptionsError}
    (failed : source.read = .error error) :
    error.code = "bindweave::parse_error" := by
  rcases source.read_cases with
    ⟨raw, _, decoded, _, _⟩ | ⟨other, failedOther, code, _⟩
  · rw [decoded] at failed
    cases failed
  · rw [failedOther] at failed
    cases failed
    exact code

/-- What decoding comes to: it succeeds exactly if the text is a document all
of whose entries fit, and then with what they say.  Otherwise there is a parse
error. -/
structure Decodes
    (source : OptionsSource) (decoded : Except OptionsError RawOptions) :
    Prop where
  ok_iff :
    (∃ raw, decoded = .ok raw) ↔
      ∃ entries, Toml.parse? source.text = some entries ∧
        ∀ entry ∈ entries, FitsOptions entry
  saidBy :
    ∀ raw, decoded = .ok raw →
      ∃ entries, Toml.parse? source.text = some entries ∧
        RawOptions.SaidBy entries raw
  code_eq :
    ∀ error, decoded = .error error → error.code = "bindweave::parse_error"

theorem decodes_read (source : OptionsSource) :
    source.Decodes source.read :=
  ⟨source.read_eq_ok_iff, fun _ => saidBy_of_read,
    fun _ => code_of_read_error⟩

/-- Entries that stand in the order of their names are read as they stand. -/
theorem read_of_sorted
    {source : OptionsSource} {raw : RawOptions}
    (evaluated :
      (Toml.parse? source.text).any (fun entries =>
        decide (entries.Pairwise fun left right =>
          left.1.name ≤ right.1.name) &&
        decide (entries.foldlM RawOptions.read .unset = .ok raw)) = true) :
    source.read = .ok raw := by
  rw [Option.any_eq_true] at evaluated
  obtain ⟨entries, parsed, both⟩ := evaluated
  rw [Bool.and_eq_true, decide_eq_true_iff, decide_eq_true_iff] at both
  have unchanged :
      (List.mergeSort entries fun left right =>
        decide (left.1.name ≤ right.1.name)) = entries := by
    refine List.mergeSort_of_pairwise (both.1.imp ?_)
    intro left right ordered
    exact decide_eq_true ordered
  have readAll : RawOptions.ofEntries entries = .ok raw := by
    rw [RawOptions.ofEntries, unchanged]
    exact both.2
  simp only [read, parsed, readAll]

theorem read_renamed (text name other : String) :
    read ⟨text, other⟩ =
      (read ⟨text, name⟩).mapError (.inSourceNamed other) := by
  rw [read, read]
  cases Toml.parse? text with
  | none => rfl
  | some entries =>
      cases decoded : RawOptions.ofEntries entries with
      | ok raw =>
          simp only [decoded]
          rfl
      | error fault =>
          simp only [decoded]
          rfl

end OptionsSource

namespace Options

theorem parse_of_read_ok
    {text name : String} {raw : RawOptions}
    (decoded : OptionsSource.read ⟨text, name⟩ = .ok raw) :
    parse text name =
      match raw.namespaceFault? with
      | some fault =>
          .error (.invalid ⟨text, name⟩ fault.message
            (raw.name.map SpannedString.span))
      | none => .ok raw.toOptions := by
  simp only [parse, decoded]
  rfl

theorem parse_of_read_error
    {text name : String} {error : OptionsError}
    (failed : OptionsSource.read ⟨text, name⟩ = .error error) :
    parse text name = .error error := by
  simp only [parse, failed]
  rfl

/-- The name of the source goes into the report and nowhere else. -/
theorem parse_renamed (text name other : String) :
    parse text other = (parse text name).mapError (.inSourceNamed other) := by
  have renamed := OptionsSource.read_renamed text name other
  cases decoded : OptionsSource.read ⟨text, name⟩ with
  | error error =>
      rw [decoded] at renamed
      rw [parse_of_read_error decoded, parse_of_read_error renamed]
      rfl
  | ok raw =>
      rw [decoded] at renamed
      rw [parse_of_read_ok decoded, parse_of_read_ok renamed]
      cases raw.namespaceFault? with
      | none => rfl
      | some fault => rfl

theorem parse_eq_ok_iff (text name : String) (options : Options) :
    parse text name = .ok options ↔
      ∃ raw, OptionsSource.read ⟨text, name⟩ = .ok raw ∧
        raw.IsUsable ∧ options = raw.toOptions := by
  cases decoded : OptionsSource.read ⟨text, name⟩ with
  | error error =>
      rw [parse_of_read_error decoded]
      simp
  | ok raw =>
      rw [parse_of_read_ok decoded]
      rcases raw.namespaceFault?_cases with
        ⟨passed, usable⟩ | ⟨fault, found, unusable, _, _⟩
      · rw [passed]
        simp [usable, eq_comm]
      · rw [found]
        simp [unusable]

/-- Parsing fails in decoding or on the namespace. -/
theorem read_or_invalid_of_parse_error
    {text name : String} {error : OptionsError}
    (refused : parse text name = .error error) :
    OptionsSource.read ⟨text, name⟩ = .error error ∨
      ∃ message span, error = .invalid ⟨text, name⟩ message span := by
  cases decoded : OptionsSource.read ⟨text, name⟩ with
  | error other =>
      rw [parse_of_read_error decoded] at refused
      cases refused
      exact .inl rfl
  | ok raw =>
      rw [parse_of_read_ok decoded] at refused
      cases found : raw.namespaceFault? with
      | none =>
          rw [found] at refused
          cases refused
      | some fault =>
          rw [found] at refused
          cases refused
          exact .inr ⟨_, _, rfl⟩

/-- A namespace is reported for what is wrong with it, at its place. -/
theorem refusedFor_of_parse_eq_invalid
    {text name : String} {reported : OptionsSource} {message : String}
    {span : Option Span}
    (refused : parse text name = .error (.invalid reported message span)) :
    reported = ⟨text, name⟩ ∧
      ∃ (raw : RawOptions) (fault : NamespaceFault),
        OptionsSource.read ⟨text, name⟩ = .ok raw ∧
          message = fault.message ∧ raw.RefusedFor fault span := by
  cases decoded : OptionsSource.read ⟨text, name⟩ with
  | error error =>
      rw [parse_of_read_error decoded] at refused
      cases refused
      have otherCode :
          "bindweave::validation_error" ≠ "bindweave::parse_error" := by
        decide
      exact absurd (OptionsSource.code_of_read_error decoded) otherCode
  | ok raw =>
      rw [parse_of_read_ok decoded] at refused
      cases found : raw.namespaceFault? with
      | none =>
          rw [found] at refused
          cases refused
      | some fault =>
          rw [found] at refused
          cases refused
          exact ⟨rfl, raw, fault, rfl, rfl, raw.refusedFor_of_fault found⟩

end Options

/-- What is decided on what was decoded.  A failure is passed on.  Otherwise
the options are accepted exactly if they are usable, as those of the namespace
while wrapping is on; while it is off the namespace is kept as it is and has no
effect.  All other options are refused, with a report on their namespace. -/
structure OptionsSource.Decides
    (source : OptionsSource) (decoded : Except OptionsError RawOptions)
    (outcome : Except OptionsError Options) : Prop where
  undecoded : ∀ error, decoded = .error error → outcome = .error error
  accepts_iff :
    (∃ options, outcome = .ok options) ↔
      ∃ raw, decoded = .ok raw ∧ raw.IsUsable
  wrapped :
    ∀ raw options, decoded = .ok raw → outcome = .ok options →
      raw.enabled = true →
        ∃ written, raw.name = some written ∧
          options = Options.standard.withLibraryNamespace written.value
  unwrapped :
    ∀ raw options, decoded = .ok raw → outcome = .ok options →
      raw.enabled = false →
        options.libraryNamespace? = none ∧
          options.outputNamespace =
            (raw.name.map SpannedString.value).getD ""
  refused :
    ∀ error, outcome = .error error →
      decoded = .error error ∨
        ∃ message span, error = .invalid source message span
  reported :
    ∀ reported message span,
      outcome = .error (.invalid reported message span) →
        reported = source ∧
          ∃ (raw : RawOptions) (fault : NamespaceFault),
            decoded = .ok raw ∧ message = fault.message ∧
              raw.RefusedFor fault span

namespace Options

theorem parse_decides (text name : String) :
    OptionsSource.Decides ⟨text, name⟩ (OptionsSource.read ⟨text, name⟩)
      (parse text name) := by
  have accepted {raw : RawOptions} {options : Options}
      (decoded : OptionsSource.read ⟨text, name⟩ = .ok raw)
      (passed : parse text name = .ok options) :
      raw.IsUsable ∧ options = raw.toOptions := by
    obtain ⟨other, decodedOther, usable, same⟩ :=
      (parse_eq_ok_iff text name options).mp passed
    rw [decoded] at decodedOther
    cases decodedOther
    exact ⟨usable, same⟩
  refine ⟨fun _ => parse_of_read_error, ?accepts, ?wrapped, ?unwrapped,
    fun _ => read_or_invalid_of_parse_error,
    fun _ _ _ => refusedFor_of_parse_eq_invalid⟩
  case accepts =>
    constructor
    · rintro ⟨options, passed⟩
      obtain ⟨raw, decoded, usable, _⟩ :=
        (parse_eq_ok_iff text name options).mp passed
      exact ⟨raw, decoded, usable⟩
    · rintro ⟨raw, decoded, usable⟩
      exact ⟨raw.toOptions,
        (parse_eq_ok_iff text name _).mpr ⟨raw, decoded, usable, rfl⟩⟩
  case wrapped =>
    intro raw options decoded passed enabled
    obtain ⟨usable, rfl⟩ := accepted decoded passed
    obtain ⟨written, present, same, _⟩ := usable.toOptions_of_enabled enabled
    exact ⟨written, present, same⟩
  case unwrapped =>
    intro raw options decoded passed isOff
    obtain ⟨_, rfl⟩ := accepted decoded passed
    exact RawOptions.toOptions_of_disabled isOff

/-- The decision on the text of options.  A document is decoded if all its
entries fit, and into what they say; otherwise parsing fails.  What is decoded
is accepted if wrapping is off or if there is a namespace each of whose
segments has a character that is not blank, and refused otherwise.  The name of
the source changes nothing but its name in the report. -/
theorem parse_decision (text name : String) :
    let source : OptionsSource := ⟨text, name⟩
    source.Decodes source.read ∧
      source.Decides source.read (parse text name) ∧
      ∀ other,
        parse text other =
          (parse text name).mapError (.inSourceNamed other) :=
  ⟨OptionsSource.decodes_read ⟨text, name⟩, parse_decides text name,
    parse_renamed text name⟩

end Options

end ManagedBinding

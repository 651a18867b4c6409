import ManagedBinding.Proofs.Options.Decision

/-!
# Qualified names under accepted options

Inside a library namespace a declaration is named by the namespace, a separator
and its own qualified name.  Accepting the namespace makes sure that none of
its segments is blank, but the name is put together as text: if the namespace
ends with a colon, the separator begins with this colon.  So a blank segment
comes up exactly if the last segment of the namespace is a colon behind nothing
but blanks.
-/

namespace ManagedBinding

namespace Declaration

/-- The scopes from the outermost one inwards, and the name. -/
def path (declaration : Declaration) : List String :=
  declaration.scopes ++ [declaration.name]

/-- A qualified name is cut into the parts that it is made of, if these have
no colons. -/
theorem splitScopes_qualifiedName
    (declaration : Declaration)
    (plain : ∀ part ∈ declaration.path, ':' ∉ part.toList) :
    Text.splitScopes declaration.qualifiedName.toList =
      declaration.path.map String.toList := by
  have separator : "::".toList = [':', ':'] := by
    decide
  have nonempty : declaration.path.map String.toList ≠ [] := by
    simp [path]
  rw [qualifiedName, String.toList_intercalate, separator]
  refine Text.splitScopes_intercalate nonempty ?_
  intro segment member
  obtain ⟨part, partMember, rfl⟩ := List.mem_map.mp member
  exact plain part partMember

end Declaration

namespace Options

theorem visible_segments_of_accepted
    {text name : String} {options : Options}
    (accepted : parse text name = .ok options)
    (wrapping : options.generateLibraryNamespace = true) :
    ∀ segment ∈ Text.splitScopes options.outputNamespace.toList,
      Text.Visible segment := by
  obtain ⟨raw, _, usable, rfl⟩ :=
    (parse_eq_ok_iff text name options).mp accepted
  obtain ⟨written, _, same, visible⟩ :=
    usable.toOptions_of_enabled wrapping
  rw [same]
  exact (Text.forall_visible_parts_iff written.value).mp visible

theorem toList_qualifiedIdentifier
    {options : Options} (wrapping : options.generateLibraryNamespace = true)
    (declaration : Declaration) :
    (options.qualifiedIdentifier declaration).toList =
      options.outputNamespace.toList ++
        ':' :: ':' :: declaration.qualifiedName.toList := by
  have separator : "::".toList = [':', ':'] := by
    decide
  rw [qualifiedIdentifier, libraryNamespace?, if_pos wrapping]
  simp only [String.toList_append, separator, List.append_assoc]
  rfl

/-- Let a text be accepted with wrapping on, and let the scopes and the name
of a declaration have visible characters and no colons.  Then the qualified
name of the declaration has a blank segment exactly if the last segment of the
namespace is a colon behind blanks. -/
theorem exists_blank_segment_of_qualifiedIdentifier_iff
    (text name : String) (options : Options)
    (accepted : parse text name = .ok options)
    (wrapping : options.generateLibraryNamespace = true)
    (declaration : Declaration)
    (plain : ∀ part ∈ declaration.scopes ++ [declaration.name],
      Text.Visible part.toList ∧ ':' ∉ part.toList) :
    (∃ segment ∈
        Text.splitScopes (options.qualifiedIdentifier declaration).toList,
      segment.all Text.isBlankChar = true) ↔
      ∃ front blanks,
        Text.splitScopes options.outputNamespace.toList =
            front ++ [blanks ++ [':']] ∧
          blanks.all Text.isBlankChar = true := by
  have cut :=
    declaration.splitScopes_qualifiedName fun part member =>
      (plain part member).2
  have plainSegments :
      ∀ segment ∈ Text.splitScopes declaration.qualifiedName.toList,
        Text.Visible segment ∧ ':' ∉ segment := by
    intro segment member
    rw [cut] at member
    obtain ⟨part, partMember, rfl⟩ := List.mem_map.mp member
    exact plain part partMember
  simp only [← Text.not_visible_iff, toList_qualifiedIdentifier wrapping]
  exact Text.exists_blank_segment_append_iff
    (visible_segments_of_accepted accepted wrapping)
    (Text.head?_ne_colon plainSegments)
    fun segment member => (plainSegments segment member).1

/-- A document that turns wrapping on, with its namespace as written. -/
def wrappingText (literal : String) : String :=
  "generate_library_namespace = true\noutput_namespace = " ++ literal

/-- The last segment of this namespace loses its colon and is blank then. -/
theorem blank_segment_of_spaced_colon :
    let text := wrappingText "\"Vendor:: :\""
    let options : Options := ⟨true, "Vendor:: :"⟩
    let point := (Declaration.named "Point").withScopes ["gfx"]
    parse text "bindweave.toml" = .ok options ∧
      options.generateLibraryNamespace = true ∧
      (∀ part ∈ point.scopes ++ [point.name],
        Text.Visible part.toList ∧ ':' ∉ part.toList) ∧
      ∃ segment ∈
          Text.splitScopes (options.qualifiedIdentifier point).toList,
        segment.all Text.isBlankChar = true := by
  intro text options point
  have decoded :
      OptionsSource.read ⟨text, "bindweave.toml"⟩ =
        .ok ⟨true, some ⟨"Vendor:: :", ⟨53, 65⟩⟩⟩ :=
    OptionsSource.read_of_sorted (by decide +kernel)
  have accepted : parse text "bindweave.toml" = .ok options :=
    (parse_of_read_ok decoded).trans (by decide)
  have plain : ∀ part ∈ point.scopes ++ [point.name],
      Text.Visible part.toList ∧ ':' ∉ part.toList := by
    decide
  refine ⟨accepted, rfl, plain, ?_⟩
  exact
    (exists_blank_segment_of_qualifiedIdentifier_iff text "bindweave.toml"
      options accepted rfl point plain).mpr
        ⟨["Vendor".toList], [' '], by decide, by decide⟩

/-- A colon is accepted as a namespace, and every name inside it starts with a
blank segment. -/
theorem lone_colon_gives_blank_segment :
    let text := wrappingText "':'"
    let options : Options := ⟨true, ":"⟩
    let declaration := Declaration.named "X"
    parse text "bindweave.toml" = .ok options ∧
      options.generateLibraryNamespace = true ∧
      (∀ part ∈ declaration.scopes ++ [declaration.name],
        Text.Visible part.toList ∧ ':' ∉ part.toList) ∧
      options.qualifiedIdentifier declaration = ":::X" ∧
      ∃ segment ∈
          Text.splitScopes (options.qualifiedIdentifier declaration).toList,
        segment.all Text.isBlankChar = true := by
  intro text options declaration
  have decoded :
      OptionsSource.read ⟨text, "bindweave.toml"⟩ =
        .ok ⟨true, some ⟨":", ⟨53, 56⟩⟩⟩ :=
    OptionsSource.read_of_sorted (by decide +kernel)
  have accepted : parse text "bindweave.toml" = .ok options :=
    (parse_of_read_ok decoded).trans (by decide)
  exact ⟨accepted, rfl, by decide, by decide, by decide⟩

end Options

end ManagedBinding

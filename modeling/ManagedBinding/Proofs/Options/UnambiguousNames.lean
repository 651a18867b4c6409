import ManagedBinding.Proofs.Options.QualifiedNames

/-!
# Names and the parts that they are made of

A qualified name joins the scopes of a declaration and its name.  If none of
them has a colon, cutting the name at its separators gives them back, empty
ones included, so different places have different names.  A library namespace
stands in front as a path of its own, and its segments come back in front of
the others.
-/

namespace ManagedBinding

namespace Declaration

theorem parts_qualifiedName
    {declaration : Declaration}
    (plain : ∀ part ∈ declaration.path, ':' ∉ part.toList) :
    Text.parts "::" declaration.qualifiedName = declaration.path := by
  rw [Text.parts_scopes, splitScopes_qualifiedName declaration plain,
    List.map_map]
  simp

theorem path_eq_iff (left right : Declaration) :
    left.path = right.path ↔
      left.scopes = right.scopes ∧ left.name = right.name :=
  List.append_singleton_inj

/-- Places without colons are told apart by their names. -/
theorem qualifiedName_eq_iff
    {left right : Declaration}
    (leftPlain : ∀ part ∈ left.path, ':' ∉ part.toList)
    (rightPlain : ∀ part ∈ right.path, ':' ∉ part.toList) :
    left.qualifiedName = right.qualifiedName ↔
      left.scopes = right.scopes ∧ left.name = right.name := by
  constructor
  · intro sameName
    have sameParts := congrArg (Text.parts "::") sameName
    rw [parts_qualifiedName leftPlain, parts_qualifiedName rightPlain]
      at sameParts
    exact (path_eq_iff left right).mp sameParts
  · intro samePlace
    have samePath : left.path = right.path :=
      (path_eq_iff left right).mpr samePlace
    exact congrArg ("::".intercalate ·) samePath

end Declaration

namespace Options

theorem libraryNamespace?_eq_some_iff (options : Options) (name : String) :
    options.libraryNamespace? = some name ↔
      options.generateLibraryNamespace = true ∧
        options.outputNamespace = name := by
  simp [libraryNamespace?]

theorem parts_qualifiedIdentifier
    {options : Options} {name : String}
    (wrapped : options.libraryNamespace? = some name)
    (namePlain : ∀ segment ∈ Text.parts "::" name, ':' ∉ segment.toList)
    {declaration : Declaration}
    (plain : ∀ part ∈ declaration.path, ':' ∉ part.toList) :
    Text.parts "::" (options.qualifiedIdentifier declaration) =
      Text.parts "::" name ++ declaration.path := by
  obtain ⟨wrapping, rfl⟩ :=
    (libraryNamespace?_eq_some_iff options name).mp wrapped
  have segmentsPlain :
      ∀ segment ∈ Text.splitScopes options.outputNamespace.toList,
        ':' ∉ segment := by
    intro segment member
    have partMember :
        String.ofList segment ∈ Text.parts "::" options.outputNamespace := by
      rw [Text.parts_scopes]
      exact List.mem_map_of_mem member
    simpa using namePlain (String.ofList segment) partMember
  calc
    Text.parts "::" (options.qualifiedIdentifier declaration) =
        (Text.splitScopes options.outputNamespace.toList ++
          Text.splitScopes declaration.qualifiedName.toList).map
            String.ofList := by
      rw [Text.parts_scopes, toList_qualifiedIdentifier wrapping,
        Text.splitScopes_append_of_plain segmentsPlain]
    _ = Text.parts "::" options.outputNamespace ++
          Text.parts "::" declaration.qualifiedName := by
      rw [List.map_append, Text.parts_scopes, Text.parts_scopes]
    _ = Text.parts "::" options.outputNamespace ++ declaration.path := by
      rw [declaration.parts_qualifiedName plain]

/-- The parts of a qualified name without colons in its scopes and its name
are the scopes and the name, so two such declarations have one name exactly if
they have one place.  The identifier in the generated code has the segments of
the library namespace in front, if these have no colons either, and is the
qualified name if there is no library namespace. -/
theorem qualified_names_determine_places :
    (∀ declaration : Declaration,
        (∀ part ∈ declaration.scopes ++ [declaration.name],
          ':' ∉ part.toList) →
        Text.parts "::" declaration.qualifiedName =
          declaration.scopes ++ [declaration.name]) ∧
      (∀ left right : Declaration,
        (∀ part ∈ left.scopes ++ [left.name], ':' ∉ part.toList) →
        (∀ part ∈ right.scopes ++ [right.name], ':' ∉ part.toList) →
          (left.qualifiedName = right.qualifiedName ↔
            left.scopes = right.scopes ∧ left.name = right.name)) ∧
      (∀ (options : Options) (name : String),
        options.libraryNamespace? = some name →
        (∀ segment ∈ Text.parts "::" name, ':' ∉ segment.toList) →
        ∀ declaration : Declaration,
          (∀ part ∈ declaration.scopes ++ [declaration.name],
            ':' ∉ part.toList) →
          Text.parts "::" (options.qualifiedIdentifier declaration) =
            Text.parts "::" name ++
              (declaration.scopes ++ [declaration.name])) ∧
      ∀ options : Options, options.libraryNamespace? = none →
        ∀ declaration : Declaration,
          options.qualifiedIdentifier declaration =
            declaration.qualifiedName := by
  refine ⟨?names, ?places, ?wrapped, ?unwrapped⟩
  case names =>
    intro declaration plain
    exact Declaration.parts_qualifiedName plain
  case places =>
    intro left right leftPlain rightPlain
    exact Declaration.qualifiedName_eq_iff leftPlain rightPlain
  case wrapped =>
    intro options name wrapped namePlain declaration plain
    exact parts_qualifiedIdentifier wrapped namePlain plain
  case unwrapped =>
    intro options unwrapped declaration
    rw [qualifiedIdentifier, unwrapped]

/-- Empty parts come back as well: the last segment of this namespace, the
outer scope and the name are empty. -/
theorem empty_parts_come_back :
    let options : Options := ⟨true, "Vendor::"⟩
    let inner := (Declaration.named "").withScopes ["", "gfx"]
    let outer := (Declaration.named "gfx").withScopes [""]
    options.libraryNamespace? = some "Vendor::" ∧
      (∀ segment ∈ Text.parts "::" "Vendor::", ':' ∉ segment.toList) ∧
      (∀ part ∈ inner.scopes ++ [inner.name], ':' ∉ part.toList) ∧
      (∀ part ∈ outer.scopes ++ [outer.name], ':' ∉ part.toList) ∧
      Options.standard.libraryNamespace? = none ∧
      Text.parts "::" inner.qualifiedName = ["", "gfx", ""] ∧
      inner.qualifiedName ≠ outer.qualifiedName ∧
      Text.parts "::" (options.qualifiedIdentifier inner) =
        ["Vendor", "", "", "gfx", ""] ∧
      Options.standard.qualifiedIdentifier inner = "::gfx::" := by
  intro options inner outer
  have namespacePlain :
      ∀ segment ∈ Text.parts "::" "Vendor::", ':' ∉ segment.toList := by
    decide
  have innerPlain :
      ∀ part ∈ inner.scopes ++ [inner.name], ':' ∉ part.toList := by
    decide
  have outerPlain :
      ∀ part ∈ outer.scopes ++ [outer.name], ':' ∉ part.toList := by
    decide
  obtain ⟨names, places, wrapped, unwrapped⟩ :=
    qualified_names_determine_places
  have differentPlaces :
      ¬ (inner.scopes = outer.scopes ∧ inner.name = outer.name) := by
    decide
  have namespaceSegments : Text.parts "::" "Vendor::" = ["Vendor", ""] := by
    decide
  refine ⟨rfl, namespacePlain, innerPlain, outerPlain, rfl,
    names inner innerPlain, ?_, ?_, unwrapped .standard rfl inner⟩
  · exact mt (places inner outer innerPlain outerPlain).mp differentPlaces
  · rw [wrapped options "Vendor::" rfl namespacePlain inner innerPlain,
      namespaceSegments]
    rfl

/-- A colon inside a scope hides where the scope ends. -/
example :
    ((Declaration.named "B").withScopes ["A:"]).qualifiedName =
      ((Declaration.named ":B").withScopes ["A"]).qualifiedName := by
  decide

end Options

end ManagedBinding

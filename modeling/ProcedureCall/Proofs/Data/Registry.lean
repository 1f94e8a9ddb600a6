import ProcedureCall.Data.Registry

/-!
# What a registry finds after a registration

A registry is changed by registrations and by further names. Two things can keep a type from being
found by the names that it was just registered under. A name that was given away before goes on
standing for the other name, because a registration takes no name back. And names are kept with the
white space around them, but looked up without it.

Which names find the type can be told from the history of the registry alone: those that the
registration itself gives, and those whose last target is the name of the type
(`get?_register_eq_some_iff`).
-/

namespace ProcedureCall.Registry

/-! ### Histories -/

/-- A change of a registry. -/
inductive Change where
  /-- A type is registered under its name and other names. -/
  | register (t : DataType) (others : List String)
  /-- A name gets another name. -/
  | addAlias (other name : String)

/-- The registry after a change. -/
def change (r : Registry) : Change → Registry
  | .register t others => r.register t others
  | .addAlias other name => r.addAlias other name

/-- The registry that some changes make of an empty one. -/
def made (changes : List Change) : Registry := changes.foldl change {}

/-- What a registration makes the other names stand for. -/
def givenTo (t : DataType) (others : List String) : List (String × String) :=
  others.map fun other => (lowerCase other, lowerCase t.name)

/-- The names that a change gives, and what they stand for, in small letters. -/
def Change.given : Change → List (String × String)
  | .register t others => givenTo t others
  | .addAlias other name => [(lowerCase other, lowerCase name)]

/-- What a name in small letters stands for after some changes: what it was given for last. -/
def target? (changes : List Change) (key : String) : Option String :=
  Entries.get? key (changes.flatMap Change.given).reverse

/-- A name as it is looked up. -/
def folded (name : String) : String := lowerCase (trimmed name)

/-- The changes that make the registry of the standard types. -/
def standardChanges : List Change :=
  (standardTypes.map fun (name, code) =>
      .register (DataType.reported (some name) code.number) []) ++
    standardAliases.map fun (other, name) => .addAlias other name

theorem made_standardChanges : made standardChanges = standard := by
  rw [made, standardChanges, List.foldl_append, List.foldl_map, List.foldl_map]
  rfl

/-! ### What the changes leave -/

theorem register_eq (r : Registry) (t : DataType) (others : List String) :
    r.register t others =
      { types := Entries.put (lowerCase t.name) t r.types
        aliases := (givenTo t others).foldl (fun aliases (k, v) => Entries.put k v aliases)
          r.aliases } := by
  unfold register givenTo
  generalize Entries.put (lowerCase t.name) t r.types = types
  rw [List.foldl_map]
  induction others generalizing r with
  | nil => rfl
  | cons other others ih => exact ih { r with
      aliases := Entries.put (lowerCase other) (lowerCase t.name) r.aliases }

theorem aliases_change (r : Registry) (c : Change) :
    (r.change c).aliases =
      c.given.foldl (fun aliases (k, v) => Entries.put k v aliases) r.aliases := by
  cases c with
  | register t others => rw [change, register_eq]; rfl
  | addAlias other name => rfl

/-- A name stands for what it was given for last. -/
theorem get?_aliases_made (changes : List Change) (key : String) :
    Entries.get? key (made changes).aliases = target? changes key := by
  have haliases : ∀ r : Registry, (changes.foldl change r).aliases =
      (changes.flatMap Change.given).foldl (fun aliases (k, v) => Entries.put k v aliases)
        r.aliases := by
    intro r
    induction changes generalizing r with
    | nil => rfl
    | cons c changes ih =>
      rw [List.foldl_cons, ih, aliases_change, List.flatMap_cons, List.foldl_append]
  rw [made, haliases, Entries.get?_foldl_put]
  exact Option.or_none

/-- The types of the registry are kept under their own names. -/
def KeepsNames (r : Registry) : Prop :=
  ∀ key t, Entries.get? key r.types = some t → key = lowerCase t.name

theorem KeepsNames.change {r : Registry} (h : r.KeepsNames) (c : Change) :
    (r.change c).KeepsNames := by
  cases c with
  | addAlias other name => exact h
  | register t others =>
    intro key s hs
    rw [Registry.change, register_eq] at hs
    by_cases hkey : lowerCase t.name = key
    · subst hkey
      rw [Entries.get?_put_self] at hs
      rw [Option.some.inj hs]
    · rw [Entries.get?_put_of_ne _ _ hkey] at hs
      exact h key s hs

theorem keepsNames_made (changes : List Change) : (made changes).KeepsNames := by
  have hkeeps : ∀ r : Registry, r.KeepsNames → (changes.foldl change r).KeepsNames := by
    induction changes with
    | nil => exact fun _ h => h
    | cons c changes ih => exact fun r h => ih _ (h.change c)
  exact hkeeps {} fun _ _ h => by cases h

/-! ### What is found after a registration -/

theorem get?_givenTo (t : DataType) (others : List String) (key : String) :
    Entries.get? key (givenTo t others).reverse =
      if key ∈ others.map lowerCase then some (lowerCase t.name) else none := by
  unfold givenTo
  rw [← List.map_reverse]
  have hmem : key ∈ others.map lowerCase ↔ key ∈ others.reverse.map lowerCase := by simp
  simp only [hmem]
  induction others.reverse with
  | nil => rfl
  | cons other rest ih =>
    by_cases h : lowerCase other = key
    · simp [Entries.get?, h]
    · simp [Entries.get?, h, ih, Ne.symm h]

/-- A type that was just registered is found under its own name and under no other. -/
theorem get?_types_register_iff {r : Registry} (h : r.KeepsNames) (t : DataType) (key : String) :
    Entries.get? key (Entries.put (lowerCase t.name) t r.types) = some t ↔
      key = lowerCase t.name := by
  by_cases hkey : key = lowerCase t.name
  · subst hkey
    simp
  · rw [Entries.get?_put_of_ne _ _ (Ne.symm hkey)]
    exact iff_of_false (fun hget => hkey (h key t hget)) hkey

/-- Which names find a type that was just registered: those that the registration gives, and those
whose last target before is the name of the type. A name without a target stands for itself. -/
theorem get?_register_eq_some_iff (changes : List Change) (t : DataType) (others : List String)
    {name : String} (hname : name ≠ "") :
    ((made changes).register t others).get? (some name) = some t ↔
      folded name ∈ others.map lowerCase ∨
        (target? changes (folded name)).getD (folded name) = lowerCase t.name := by
  have hnonempty : ¬ name.isEmpty = true := by simpa using hname
  rw [register_eq, get?, if_neg hnonempty]
  dsimp only
  rw [get?_types_register_iff (keepsNames_made changes), Entries.get?_foldl_put, get?_givenTo,
    get?_aliases_made]
  by_cases h : folded name ∈ others.map lowerCase
  · rw [folded] at h
    simp [folded, h]
  · rw [folded] at h
    simp [folded, h]

/-- **When a type is found by the names that it was just registered under.** After any changes of an
empty registry, among them those that make the standard one, and for every name and other names that
are not blank: each of them finds the type exactly if each of them is given by the registration
itself, or has the name of the type for its last target. If none of them has white space around it,
the other names find the type in any case, and its own name does exactly if it is one of the other
names or was not made to stand for a different name before. -/
theorem registered_found_iff (changes : List Change) {t : DataType} {others : List String}
    (hnames : ∀ name ∈ t.name :: others, trimmed name ≠ "") :
    ((∀ name ∈ t.name :: others,
        ((made changes).register t others).get? (some name) = some t) ↔
      ∀ name ∈ t.name :: others, folded name ∈ others.map lowerCase ∨
        (target? changes (folded name)).getD (folded name) = lowerCase t.name) ∧
    ((∀ name ∈ t.name :: others, trimmed name = name) →
      (∀ other ∈ others, ((made changes).register t others).get? (some other) = some t) ∧
      (((made changes).register t others).get? (some t.name) = some t ↔
        lowerCase t.name ∈ others.map lowerCase ∨
          ∀ target, target? changes (lowerCase t.name) = some target →
            target = lowerCase t.name)) := by
  have hfinds : ∀ name ∈ t.name :: others,
      (((made changes).register t others).get? (some name) = some t ↔
        folded name ∈ others.map lowerCase ∨
          (target? changes (folded name)).getD (folded name) = lowerCase t.name) := by
    intro name hname
    refine get?_register_eq_some_iff changes t others ?_
    rintro rfl
    exact hnames "" hname (by decide)
  refine ⟨forall₂_congr hfinds, fun htrimmed => ⟨fun other hother => ?_, ?_⟩⟩
  · have hmem : other ∈ t.name :: others := List.mem_cons_of_mem _ hother
    refine (hfinds other hmem).mpr (Or.inl ?_)
    rw [folded, htrimmed other hmem]
    exact List.mem_map_of_mem hother
  · have hmem : t.name ∈ t.name :: others := List.mem_cons_self
    rw [hfinds t.name hmem, folded, htrimmed t.name hmem]
    cases target? changes (lowerCase t.name) <;> simp

/-- A type that the standard does not know is found by its name and by its other name. -/
theorem new_type_found_in_standard :
    (∀ name ∈ ["Geometry", "geom"], trimmed name ≠ "") ∧
      ∀ name ∈ ["Geometry", "geom"],
        (standard.register ⟨"Geometry", 1111, .object⟩ ["geom"]).get? (some name) =
          some ⟨"Geometry", 1111, .object⟩ := by
  have hnames : ∀ name ∈ ["Geometry", "geom"], trimmed name ≠ "" := by decide +kernel
  refine ⟨hnames, ?_⟩
  rw [← made_standardChanges]
  exact (registered_found_iff standardChanges (t := ⟨"Geometry", 1111, .object⟩) hnames).1.mpr
    (by decide +kernel)

/-- In the registry of the standard types the name `int` stands for `integer`, also after a type of
this name was registered; and a name with white space around it does not find the type that was just
registered under it. -/
theorem registered_not_found :
    (∀ name ∈ ["int", " point "], trimmed name ≠ "") ∧
      (standard.register ⟨"int", 12, .string⟩ []).get? (some "int") =
        some ⟨"integer", 4, .numeric⟩ ∧
      (({} : Registry).register ⟨" point ", 12, .string⟩ []).get? (some " point ") = none := by
  decide +kernel

end ProcedureCall.Registry

import RingCalc.Text.Quoted

/-!
# Registries

A registry is a table of entries by name.  Entries are kept in the order of their names, compared by
code points, and each name has one entry; both hold by the type.  The main statements say what a
registration does to each look-up and to the list of names.
-/

namespace RingCalc

universe u v

/-- A table of entries by name. -/
structure Registry (β : Type u) where
  entries : List (String × β)
  sorted : entries.Pairwise (·.1 < ·.1)

namespace Registry

variable {β : Type u} {γ : Type v}

def lookup (name : String) : List (String × β) → Option β
  | [] => none
  | (key, entry) :: rest => if key = name then some entry else lookup name rest

/-- Puts an entry into its place, over an entry of the same name. -/
def insert (name : String) (entry : β) : List (String × β) → List (String × β)
  | [] => [(name, entry)]
  | (key, old) :: rest =>
    if name < key then (name, entry) :: (key, old) :: rest
    else if name = key then (name, entry) :: rest
    else (key, old) :: insert name entry rest

theorem mem_keys_insert {name key : String} {entry : β} {entries : List (String × β)} :
    key ∈ (insert name entry entries).map (·.1) ↔ key = name ∨ key ∈ entries.map (·.1) := by
  induction entries with
  | nil => simp [insert]
  | cons head rest inductionHypothesis =>
    obtain ⟨first, old⟩ := head
    simp only [insert]
    split
    · simp
    · split
      · rename_i same
        subst same
        simp
      · simp only [List.map_cons, List.mem_cons, inductionHypothesis]
        grind

theorem sorted_insert {name : String} {entry : β} {entries : List (String × β)}
    (sorted : entries.Pairwise (·.1 < ·.1)) :
    (insert name entry entries).Pairwise (·.1 < ·.1) := by
  induction entries with
  | nil => simp [insert]
  | cons head rest inductionHypothesis =>
    obtain ⟨key, old⟩ := head
    rw [List.pairwise_cons] at sorted
    obtain ⟨least, sortedRest⟩ := sorted
    simp only [insert]
    split
    · rename_i before
      refine .cons (fun other member => ?_) (.cons least sortedRest)
      rcases List.mem_cons.mp member with rfl | member
      · exact before
      · exact String.lt_trans before (least other member)
    · split
      · rename_i same
        subst same
        exact .cons least sortedRest
      · refine .cons (fun other member => ?_) (inductionHypothesis sortedRest)
        have named := List.mem_map_of_mem (f := fun pair : String × β => pair.1) member
        rcases mem_keys_insert.mp named with same | known
        · simp only at same ⊢
          grind
        · obtain ⟨kept, keptMember, sameName⟩ := List.mem_map.mp known
          have := least kept keptMember
          simp only at sameName this ⊢
          rwa [← sameName]

def empty : Registry β := ⟨[], .nil⟩

/-- Makes an entry known by a name, in the place of an earlier entry of that name. -/
def register (registry : Registry β) (name : String) (entry : β) : Registry β :=
  ⟨insert name entry registry.entries, sorted_insert registry.sorted⟩

def get? (registry : Registry β) (name : String) : Option β := lookup name registry.entries

/-- The names that have an entry, in increasing order. -/
def names (registry : Registry β) : List String := registry.entries.map (·.1)

def contains (registry : Registry β) (name : String) : Bool := registry.names.contains name

/-- What is said of a name without an entry. -/
def unknownMessage (registry : Registry β) (name : String) : String :=
  "Unknown ring: " ++ Text.quoted name ++ " (available: " ++
    ", ".intercalate registry.names ++ ")"

def map (f : β → γ) (registry : Registry β) : Registry γ :=
  ⟨registry.entries.map fun (name, entry) => (name, f entry), List.pairwise_map.mpr registry.sorted⟩

/-! ## Laws -/

theorem lookup_insert (name key : String) (entry : β) (entries : List (String × β)) :
    lookup key (insert name entry entries) =
      if name = key then some entry else lookup key entries := by
  induction entries with
  | nil => rfl
  | cons head rest inductionHypothesis =>
    obtain ⟨first, old⟩ := head
    simp only [insert]
    split
    · rfl
    · split
      · rename_i same
        subst same
        simp only [lookup]
        split <;> rfl
      · simp only [lookup, inductionHypothesis]
        grind

theorem get?_register (registry : Registry β) (name key : String) (entry : β) :
    (registry.register name entry).get? key =
      if name = key then some entry else registry.get? key :=
  lookup_insert name key entry registry.entries

theorem mem_names_register {registry : Registry β} {name key : String} {entry : β} :
    key ∈ (registry.register name entry).names ↔ key = name ∨ key ∈ registry.names :=
  mem_keys_insert

theorem isSome_lookup (name : String) (entries : List (String × β)) :
    (lookup name entries).isSome ↔ name ∈ entries.map (·.1) := by
  induction entries with
  | nil => simp [lookup]
  | cons head rest inductionHypothesis =>
    obtain ⟨key, entry⟩ := head
    simp only [lookup, List.map_cons, List.mem_cons, ← inductionHypothesis]
    grind

theorem isSome_get? (registry : Registry β) (name : String) :
    (registry.get? name).isSome ↔ name ∈ registry.names :=
  isSome_lookup name registry.entries

theorem pairwise_names (registry : Registry β) : registry.names.Pairwise (· < ·) :=
  List.pairwise_map.mpr registry.sorted

theorem nodup_names (registry : Registry β) : registry.names.Nodup :=
  registry.pairwise_names.imp fun {first second} (before : first < second) =>
    String.ne_of_lt before

theorem lookup_map (f : β → γ) (name : String) (entries : List (String × β)) :
    lookup name (entries.map fun (key, entry) => (key, f entry)) =
      (lookup name entries).map f := by
  induction entries with
  | nil => rfl
  | cons head rest inductionHypothesis =>
    obtain ⟨key, entry⟩ := head
    simp only [List.map_cons, lookup, inductionHypothesis]
    split <;> rfl

theorem get?_map (f : β → γ) (registry : Registry β) (name : String) :
    (registry.map f).get? name = (registry.get? name).map f :=
  lookup_map f name registry.entries

theorem names_map (f : β → γ) (registry : Registry β) : (registry.map f).names = registry.names :=
  List.map_map

theorem contains_map (f : β → γ) (registry : Registry β) :
    (registry.map f).contains = registry.contains := by
  funext name
  exact congrArg (List.contains · name) (names_map f registry)

end Registry

end RingCalc

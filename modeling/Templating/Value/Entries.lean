/-!
# Entries

A list of named entries keeps the order in which the names were first put. It is
the content of a mapping, a frame of variables and the content of a registry.
-/

namespace Templating

/-- Named entries in the order of their first appearance. -/
abbrev Entries (α : Type) := List (String × α)

namespace Entries

variable {α : Type}

/-- The entry of a name. -/
def find? (entries : Entries α) (name : String) : Option α :=
  match entries with
  | [] => none
  | (key, value) :: rest => if key = name then some value else find? rest name

/-- Put an entry: a name that is present keeps its place. -/
def put (entries : Entries α) (name : String) (value : α) : Entries α :=
  match entries with
  | [] => [(name, value)]
  | (key, old) :: rest =>
      if key = name then (name, value) :: rest
      else (key, old) :: put rest name value

/-- Remove the entry of a name, if there is one. -/
def remove (entries : Entries α) (name : String) : Entries α :=
  match entries with
  | [] => []
  | (key, value) :: rest =>
      if key = name then rest else (key, value) :: remove rest name

/-- The names in order. -/
def names (entries : Entries α) : List String := entries.map Prod.fst

@[simp] theorem find?_nil (name : String) :
    find? ([] : Entries α) name = none := rfl

@[simp] theorem names_nil : names ([] : Entries α) = [] := rfl

@[simp] theorem names_cons (name : String) (value : α) (rest : Entries α) :
    names ((name, value) :: rest) = name :: names rest := rfl

/-- After putting an entry its name finds it, and every other name finds what it
found before. -/
theorem find?_put (entries : Entries α) (name other : String) (value : α) :
    find? (put entries name value) other =
      if name = other then some value else find? entries other := by
  induction entries with
  | nil => simp [put, find?]
  | cons entry rest inductionHypothesis =>
      obtain ⟨key, old⟩ := entry
      by_cases same : key = name
      · subst same
        by_cases found : key = other <;> simp [put, find?, found]
      · by_cases found : key = other
        · subst found
          simp [put, find?, same, Ne.symm same]
        · simp [put, find?, same, found, inductionHypothesis]

/-- A name has an entry exactly when it is among the names. -/
theorem find?_isSome (entries : Entries α) (name : String) :
    (find? entries name).isSome = true ↔ name ∈ names entries := by
  induction entries with
  | nil => simp
  | cons entry rest inductionHypothesis =>
      obtain ⟨key, value⟩ := entry
      by_cases same : key = name
      · simp [find?, same]
      · simp [find?, same, Ne.symm same, inductionHypothesis]

theorem mem_names_put
    (entries : Entries α)
    (name other : String)
    (value : α) :
    other ∈ names (put entries name value) ↔
      other = name ∨ other ∈ names entries := by
  rw [← find?_isSome, find?_put, ← find?_isSome]
  by_cases same : name = other
  · simp [same]
  · have different : other ≠ name := fun equal => same equal.symm
    simp [same, different]

/-- Putting an entry keeps the names apart. -/
theorem nodup_names_put
    (entries : Entries α)
    (name : String)
    (value : α)
    (distinct : (names entries).Nodup) :
    (names (put entries name value)).Nodup := by
  induction entries with
  | nil => simp [put]
  | cons entry rest inductionHypothesis =>
      obtain ⟨key, old⟩ := entry
      simp only [names_cons, List.nodup_cons] at distinct
      simp only [put]
      split
      · next same =>
          subst same
          simpa using distinct
      · next different =>
          simp only [names_cons, List.nodup_cons, mem_names_put]
          refine ⟨?_, inductionHypothesis distinct.2⟩
          rintro (same | member)
          · exact different same
          · exact distinct.1 member

theorem names_remove_sublist (entries : Entries α) (name : String) :
    (names (remove entries name)).Sublist (names entries) := by
  induction entries with
  | nil => exact List.Sublist.slnil
  | cons entry rest inductionHypothesis =>
      obtain ⟨key, value⟩ := entry
      simp only [remove]
      split
      · exact List.Sublist.cons _ (List.Sublist.refl _)
      · exact List.Sublist.cons_cons _ inductionHypothesis

/-- After removing an entry its name finds nothing, and every other name finds what it
found before. -/
theorem find?_remove
    (entries : Entries α)
    (name other : String)
    (distinct : (names entries).Nodup) :
    find? (remove entries name) other =
      if name = other then none else find? entries other := by
  induction entries with
  | nil => simp [remove]
  | cons entry rest inductionHypothesis =>
      obtain ⟨key, value⟩ := entry
      simp only [names_cons, List.nodup_cons] at distinct
      by_cases same : key = name
      · subst same
        by_cases found : key = other
        · subst found
          have absent : (find? rest key).isSome ≠ true := fun found =>
            distinct.1 ((find?_isSome _ _).1 found)
          simpa [remove] using absent
        · simp [remove, find?, found]
      · by_cases found : key = other
        · subst found
          simp [remove, find?, same, Ne.symm same]
        · simp [remove, find?, same, found, inductionHypothesis distinct.2]

end Entries
end Templating

import AssetMenu.Candidate

/-!
# Naming the entries

Every menu entry has a name of its own.  A candidate is named after the simple
name of its type, or after the full name if the simple one cannot be had; if
neither can be had, it gets no entry.  A name cannot be had if an earlier
candidate is named after the same text, or if the texts around it would make it
the name of an earlier entry.  Candidates are served in their order.
-/

namespace AssetMenu

/-- A candidate with the name and the number of its entry. -/
structure Resolved where
  candidate : Candidate
  identifier : String
  ordinal : Nat
  deriving DecidableEq, Repr

/-- The candidates that got a name, and those that did not. -/
structure Resolution where
  resolved : List Resolved
  exhausted : List Candidate
  deriving DecidableEq, Repr

namespace Naming

/-- What earlier candidates have taken, and how many of them got a name. -/
structure Taken where
  bases : List String
  identifiers : List String
  count : Nat
  deriving DecidableEq, Repr

/-- Nothing is taken. -/
def Taken.none : Taken :=
  ⟨[], [], 0⟩

/-- The texts that a candidate may be named after, the preferred one first. -/
def forms (candidate : Candidate) : List String :=
  [candidate.type.simpleName, candidate.type.fullName]

/-- The name made of `base`: the texts of the candidate's tag stand next to it,
the ones of the run around them. -/
def compose (affixes : Affixes) (candidate : Candidate) (base : String) : String :=
  affixes.before ++ candidate.tag.affixes.before ++ base ++ candidate.tag.affixes.after ++
    affixes.after

/-- The text after which the candidate is named, and the name. -/
def choice? (affixes : Affixes) (taken : Taken) (candidate : Candidate) :
    Option (String × String) :=
  (forms candidate).findSome? fun base =>
    let identifier := compose affixes candidate base
    if base ∈ taken.bases ∨ identifier ∈ taken.identifiers then Option.none
    else some (base, identifier)

/-- Name one candidate. -/
def resolve? (affixes : Affixes) (taken : Taken) (candidate : Candidate) :
    Option (Resolved × Taken) :=
  (choice? affixes taken candidate).map fun (base, identifier) =>
    (⟨candidate, identifier, taken.count⟩,
      ⟨base :: taken.bases, identifier :: taken.identifiers, taken.count + 1⟩)

/-- Name candidates in their order, where some names are taken. -/
def resolveFrom (affixes : Affixes) : Taken → List Candidate → Resolution
  | _, [] => ⟨[], []⟩
  | taken, candidate :: rest =>
      match resolve? affixes taken candidate with
      | some (resolved, taken) =>
          let others := resolveFrom affixes taken rest
          { others with resolved := resolved :: others.resolved }
      | Option.none =>
          let others := resolveFrom affixes taken rest
          { others with exhausted := candidate :: others.exhausted }

/-- Name candidates in their order. -/
def resolveAll (affixes : Affixes) (candidates : List Candidate) : Resolution :=
  resolveFrom affixes Taken.none candidates

end Naming

end AssetMenu

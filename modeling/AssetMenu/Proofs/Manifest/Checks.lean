import Mathlib.Logic.Basic

/-!
# Checks in sequence

A reader that can fail runs its checks one after the other and stops at the first
fault.  What a success tells about the steps in between is stated here once, for
lists of steps of any kind, and so is how an answer follows from a part of it that is
known.
-/

namespace AssetMenu

variable {α β γ ε : Type}

theorem bind_eq_ok_iff {first : Except ε α} {next : α → Except ε β} {result : β} :
    (first >>= next) = .ok result ↔ ∃ value, first = .ok value ∧ next value = .ok result := by
  cases first with
  | error fault => simp [bind, Except.bind]
  | ok value => simp [bind, Except.bind]

theorem bind_eq_error_iff {first : Except ε α} {next : α → Except ε β} {fault : ε} :
    (first >>= next) = .error fault ↔
      first = .error fault ∨ ∃ value, first = .ok value ∧ next value = .error fault := by
  cases first with
  | error cause => simp [bind, Except.bind]
  | ok value => simp [bind, Except.bind]

@[simp] theorem mapError_ok {ε' : Type} (wrap : ε → ε') (value : α) :
    (Except.ok value : Except ε α).mapError wrap = .ok value := rfl

@[simp] theorem mapError_error {ε' : Type} (wrap : ε → ε') (fault : ε) :
    (Except.error fault : Except ε α).mapError wrap = .error (wrap fault) := rfl

theorem mapError_eq_ok_iff {ε' : Type} {first : Except ε α} {wrap : ε → ε'} {result : α} :
    first.mapError wrap = .ok result ↔ first = .ok result := by
  cases first with
  | error fault => exact ⟨nofun, nofun⟩
  | ok value => rw [mapError_ok, Except.ok.injEq, Except.ok.injEq]

theorem mapError_eq_error_iff {ε' : Type} {first : Except ε α} {wrap : ε → ε'} {fault : ε'} :
    first.mapError wrap = .error fault ↔ ∃ cause, first = .error cause ∧ fault = wrap cause := by
  cases first with
  | error cause => simp [eq_comm]
  | ok value => simp

theorem eq_ok_of_toOption {first : Except ε α} {value : α}
    (hsome : first.toOption = some value) : first = .ok value := by
  cases first with
  | error fault => contradiction
  | ok other => exact congrArg Except.ok (Option.some.inj hsome)

/-- What a run answers beside the state that it leaves, if it is known to succeed. -/
theorem exists_eq_ok_of_isSome {run : Except ε α × γ} (hok : run.1.toOption.isSome = true) :
    ∃ value, run = (.ok value, run.2) := by
  rcases run with ⟨fault | value, state⟩
  · simp [Except.toOption] at hok
  · exact ⟨value, rfl⟩

/-- What a run answers, if a part of the answer is known. -/
theorem exists_eq_ok_of_part {run : Except ε α × γ} {part : α → β} {known : β}
    (hpart : run.1.toOption.map part = some known) :
    ∃ value, run = (.ok value, run.2) ∧ part value = known := by
  rcases run with ⟨fault | value, state⟩
  · simp [Except.toOption] at hpart
  · exact ⟨value, rfl, Option.some.inj hpart⟩

theorem exists_eq_error_of_toOption {first : Except ε α} (hfails : first.toOption = none) :
    ∃ fault, first = .error fault := by
  cases first with
  | error fault => exact ⟨fault, rfl⟩
  | ok value => contradiction

theorem exists_eq_error_of_eq_none {run : Except ε α × γ} (hfails : run.1.toOption = none) :
    ∃ fault, run = (.error fault, run.2) := by
  obtain ⟨fault, hfault⟩ := exists_eq_error_of_toOption hfails
  exact ⟨fault, Prod.ext hfault rfl⟩

theorem forM_eq_ok_iff {items : List α} {check : α → Except ε Unit} :
    forM items check = .ok () ↔ ∀ item ∈ items, check item = .ok () := by
  induction items with
  | nil => simp [pure, Except.pure]
  | cons item items ih =>
      rw [List.forM_cons, bind_eq_ok_iff, List.forall_mem_cons, ih]
      exact ⟨fun ⟨_, hitem, hrest⟩ => ⟨hitem, hrest⟩, fun ⟨hitem, hrest⟩ => ⟨_, hitem, hrest⟩⟩

/-- The fault of a list of checks is that of the first item that does not pass. -/
theorem exists_first_of_forM_eq_error {items : List α} {check : α → Except ε Unit} {fault : ε}
    (hfault : forM items check = .error fault) :
    ∃ before item after, items = before ++ item :: after ∧
      (∀ earlier ∈ before, check earlier = .ok ()) ∧ check item = .error fault := by
  induction items with
  | nil => simp [pure, Except.pure] at hfault
  | cons item items ih =>
      rw [List.forM_cons] at hfault
      cases hitem : check item with
      | error first =>
          rw [hitem] at hfault
          obtain rfl := Except.error.inj hfault
          exact ⟨[], item, items, rfl, by simp, hitem⟩
      | ok =>
          rw [hitem] at hfault
          obtain ⟨before, later, after, rfl, hbefore, hlater⟩ := ih hfault
          exact ⟨item :: before, later, after, rfl,
            List.forall_mem_cons.mpr ⟨hitem, hbefore⟩, hlater⟩

/-- What every step keeps holds of the result. -/
theorem foldlM_keeps {p : β → Prop} {step : β → α → Except ε β} {items : List α}
    (hstep : ∀ item ∈ items, ∀ before after, p before → step before item = .ok after → p after)
    {initial result : β} (hinitial : p initial)
    (hrun : items.foldlM step initial = .ok result) : p result := by
  induction items generalizing initial with
  | nil =>
      obtain rfl := Except.ok.inj hrun
      exact hinitial
  | cons item items ih =>
      obtain ⟨hitem, hrest⟩ := List.forall_mem_cons.mp hstep
      rw [List.foldlM_cons, bind_eq_ok_iff] at hrun
      obtain ⟨next, hnext, hrun⟩ := hrun
      exact ih hrest (hitem initial next hinitial hnext) hrun

/-- What is kept of each item is kept of the list. -/
theorem map_eq_of_mapM_eq_ok {read : α → Except ε β} {left : α → γ} {right : β → γ}
    (hread : ∀ item value, read item = .ok value → right value = left item)
    {items : List α} {values : List β} (hrun : items.mapM read = .ok values) :
    values.map right = items.map left := by
  induction items generalizing values with
  | nil =>
      obtain rfl := Except.ok.inj hrun
      rfl
  | cons item items ih =>
      rw [List.mapM_cons, bind_eq_ok_iff] at hrun
      obtain ⟨value, hvalue, hrun⟩ := hrun
      obtain ⟨rest, hrest, hvalues⟩ := bind_eq_ok_iff.mp hrun
      obtain rfl := Except.ok.inj hvalues
      rw [List.map_cons, List.map_cons, hread item value hvalue, ih hrest]

/-- Every value of the result was read from an item. -/
theorem exists_item_of_mapM_eq_ok {read : α → Except ε β} {items : List α} {values : List β}
    (hrun : items.mapM read = .ok values) :
    ∀ value ∈ values, ∃ item ∈ items, read item = .ok value := by
  induction items generalizing values with
  | nil =>
      obtain rfl := Except.ok.inj hrun
      simp
  | cons item items ih =>
      rw [List.mapM_cons, bind_eq_ok_iff] at hrun
      obtain ⟨value, hvalue, hrun⟩ := hrun
      obtain ⟨rest, hrest, hvalues⟩ := bind_eq_ok_iff.mp hrun
      obtain rfl := Except.ok.inj hvalues
      refine List.forall_mem_cons.mpr ⟨⟨item, List.mem_cons_self, hvalue⟩, fun other hother => ?_⟩
      obtain ⟨found, hfound, hread⟩ := ih hrest other hother
      exact ⟨found, List.mem_cons_of_mem _ hfound, hread⟩

end AssetMenu

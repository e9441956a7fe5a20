import AssetMenu.Proofs.Document.DistinctKeys

/-!
# Documents of sections

A section is a header and the pairs below it.  Its table is opened by the header, gets
the pairs, and takes its place in the document when the next header comes.  If the place
is vacant and no key stands twice, all this comes to putting the table of the section at
the end of its path, so a document of sections is built up section by section.
-/

namespace AssetMenu.Document

namespace Table

variable {name : String} {key : Key} {first second : Node} {table : Table}

theorem replace_append (hvacant : table.find? key.text = none) :
    (table.append key first).replace key.text second = table.append key second := by
  rw [find?_eq_none_iff, List.mem_map] at hvacant
  have hkept : table.entries.map (fun entry =>
      if entry.1.text = key.text then (entry.1, second) else entry) = table.entries.map id := by
    apply List.map_congr_left
    intro entry hentry
    rw [if_neg fun hname => hvacant ⟨entry, hentry, hname⟩, id]
  simp [append, replace, hkept]

theorem replace_replace :
    (table.replace name first).replace name second = table.replace name second := by
  simp only [replace, List.map_map, Table.mk.injEq, true_and]
  apply List.map_congr_left
  intro entry _
  by_cases hname : entry.1.text = name <;> simp [hname]

/-- Two changes at the end of one path, the first of which keeps the origin of the table,
are one change. -/
theorem exists_alterAt_of_both {α β : Type} {made : Origin}
    {first : Table → Option (α × Table)} {second both : Table → Option (β × Table)} {answer : α}
    (hmade : Origin.admits made made = true)
    (hboth : ∀ parent result, both parent = some result →
      ∃ between, first parent = some (answer, between) ∧ between.origin = parent.origin ∧
        second between = some result)
    {path : List Key} {table : Table} {result : β × Table}
    (halter : alterAt made both path table = some result) :
    ∃ between, alterAt made first path table = some (answer, between) ∧
      between.origin = table.origin ∧ alterAt made second path between = some result := by
  induction path generalizing table result with
  | nil => exact hboth table result halter
  | cons key path ih =>
      rw [alterAt] at halter
      cases hfind : table.find? key.text with
      | none =>
          simp only [hfind, Option.bind_eq_bind, Option.bind_eq_some_iff, Option.some.injEq]
            at halter
          obtain ⟨inner, hinner, rfl⟩ := halter
          obtain ⟨between, hfirst, horigin, hsecond⟩ := ih hinner
          refine ⟨table.append key between.toNode, by simp [alterAt, hfind, hfirst], rfl, ?_⟩
          have hadmits : Origin.admits made between.origin = true := horigin ▸ hmade
          simp [alterAt, find?_append_self hfind, toNode, hadmits, guard, hsecond,
            replace_append hfind]
      | some node =>
          cases node with
          | scalar span value => simp [hfind] at halter
          | array span items => simp [hfind] at halter
          | table span origin entries =>
              simp only [hfind, Option.bind_eq_bind, Option.bind_eq_some_iff, Option.some.injEq]
                at halter
              obtain ⟨_, hguard, inner, hinner, rfl⟩ := halter
              obtain ⟨between, hfirst, horigin, hsecond⟩ := ih hinner
              refine ⟨table.replace key.text between.toNode,
                by simp [alterAt, hfind, hguard, hfirst], rfl, ?_⟩
              rw [← show between.origin = origin from horigin] at hguard
              simp [alterAt, find?_replace_self hfind, toNode, hguard, hsecond, replace_replace]
          | tables span items =>
              simp only [hfind, Option.bind_eq_bind, Option.bind_eq_some_iff] at halter
              obtain ⟨node, hlast, halter⟩ := halter
              split at halter
              next last origin entries =>
                simp only [Option.bind_eq_some_iff, Option.some.injEq] at halter
                obtain ⟨inner, hinner, rfl⟩ := halter
                obtain ⟨between, hfirst, horigin, hsecond⟩ := ih hinner
                refine ⟨table.replace key.text (.tables span (items.dropLast ++ [between.toNode])),
                  by simp [alterAt, hfind, hlast, hfirst], rfl, ?_⟩
                simp [alterAt, find?_replace_self hfind, toNode, hsecond, replace_replace]
              next => simp at halter

/-- A key of a single part that is not taken gets its entry behind the others. -/
theorem insert_eq_append (hvacant : table.find? key.text = none) (node : Node) :
    table.insert ⟨[], key⟩ node = some (table.append key node) := by
  simp [insert, alterAt, hvacant, guard]

end Table

/-- A header and the pairs below it, all with keys of a single part. -/
structure Section where
  path : KeyPath
  span : Span
  pairs : List (Key × Node)

namespace Section

def statements (s : Section) : List Statement :=
  .header s.path s.span :: s.pairs.map fun pair => .pair ⟨[], pair.1⟩ pair.2

/-- The table that the header opens and the pairs fill. -/
def table (s : Section) : Table :=
  ⟨s.span, .header, s.pairs⟩

/-- Put the table into the one that the path leads to, if its name is not taken there. -/
def join (s : Section) (parent : Table) : Option (Unit × Table) :=
  if parent.find? s.path.last.text = none then
    some ((), parent.append s.path.last s.table.toNode)
  else none

/-- Put the table in its place in a document. -/
def place (root : Table) (s : Section) : Option Table :=
  (Table.alterAt .passedByHeader s.join s.path.through root).map (·.2)

variable {s : Section} {a : Assembly} {root placed : Table}

/-! ### Where a table is put -/

theorem place_eq_append (hpath : s.path.through = [])
    (hvacant : root.find? s.path.last.text = none) :
    place root s = some (root.append s.path.last s.table.toNode) := by
  simp [place, hpath, Table.alterAt, join, hvacant]

section Group

variable {outer : Key}

/-- The table that holds the tables of a group of sections. -/
def group (outer : Key) (entries : List (Key × Node)) : Node :=
  .table outer.span .passedByHeader entries

/-- The first table of a group is put into one that is made for it. -/
theorem place_eq_append_group (outer : Key) (hpath : s.path.through = [outer])
    (hvacant : root.find? outer.text = none) :
    place root s = some (root.append outer (group outer [(s.path.last, s.table.toNode)])) := by
  have hjoin : s.join (Table.empty outer.span .passedByHeader) =
      some ((), (Table.empty outer.span .passedByHeader).append s.path.last s.table.toNode) :=
    if_pos rfl
  simp only [place, hpath, Table.alterAt, hvacant, hjoin]
  rfl

theorem place_append_group {key : Key} {entries : List (Key × Node)}
    (hpath : s.path.through = [key]) (hkey : key.text = outer.text)
    (hvacant : root.find? outer.text = none)
    (hfresh : s.path.last.text ∉ entries.map (·.1.text)) :
    place (root.append outer (group outer entries)) s =
      some (root.append outer (group outer (entries ++ [(s.path.last, s.table.toNode)]))) := by
  have hgroup : (root.append outer (group outer entries)).find? key.text =
      some (.table outer.span .passedByHeader entries) := by
    rw [hkey]
    exact Table.find?_append_self hvacant
  have hjoin : s.join ⟨outer.span, .passedByHeader, entries⟩ =
      some ((), Table.append s.path.last s.table.toNode ⟨outer.span, .passedByHeader, entries⟩) :=
    if_pos (Table.find?_eq_none_iff.mpr hfresh)
  have hreplaced : (root.append outer (group outer entries)).replace outer.text
        (group outer (entries ++ [(s.path.last, s.table.toNode)])) =
      root.append outer (group outer (entries ++ [(s.path.last, s.table.toNode)])) :=
    Table.replace_append hvacant
  rw [← hreplaced, ← hkey]
  simp only [place, hpath, Table.alterAt, hgroup, hjoin]
  rfl

/-- The further tables of a group follow in the order of their sections. -/
theorem foldlM_place_group {entries : List (Key × Node)} {sections : List Section}
    (hpaths : ∀ s ∈ sections, ∃ key, s.path.through = [key] ∧ key.text = outer.text)
    (hvacant : root.find? outer.text = none)
    (hkeys : (entries.map (·.1.text) ++ sections.map (·.path.last.text)).Nodup) :
    sections.foldlM place (root.append outer (group outer entries)) =
      some (root.append outer (group outer
        (entries ++ sections.map fun s => (s.path.last, s.table.toNode)))) := by
  induction sections generalizing entries with
  | nil => simp
  | cons s sections ih =>
      obtain ⟨⟨key, hpath, hkey⟩, hmore⟩ := List.forall_mem_cons.mp hpaths
      have hfresh : s.path.last.text ∉ entries.map (·.1.text) := fun hmem =>
        (List.nodup_append.mp hkeys).2.2 _ hmem _ (by simp) rfl
      rw [List.foldlM_cons, place_append_group hpath hkey hvacant hfresh, Option.bind_eq_bind,
        Option.bind_some, ih hmore (by simpa using hkeys)]
      simp

end Group

/-! ### Reading a section -/

theorem run_pairs {pairs : List (Key × Node)}
    (hkeys : ((a.current.entries ++ pairs).map (·.1.text)).Nodup) :
    (pairs.map fun pair => Statement.pair ⟨[], pair.1⟩ pair.2).foldlM Assembly.step a =
      some { a with current := { a.current with entries := a.current.entries ++ pairs } } := by
  induction pairs generalizing a with
  | nil => simp
  | cons pair pairs ih =>
      have hvacant : a.current.find? pair.1.text = none := by
        rw [Table.find?_eq_none_iff]
        rw [List.map_append, List.nodup_append] at hkeys
        exact fun hmem => hkeys.2.2 _ hmem _ (by simp) rfl
      rw [List.map_cons, List.foldlM_cons, Assembly.step, Table.insert_eq_append hvacant]
      simp only [Option.bind_eq_bind, Option.bind_some]
      rw [ih]
      · simp [Table.append]
      · simpa [Table.append] using hkeys

/-- The header of a section finds its place vacant and opens an empty table, which may take
that place later. -/
theorem exists_step_header (hclose : a.close = some root) (hplace : s.place root = some placed) :
    ∃ between, a.step (.header s.path s.span) =
        some ⟨between, Table.empty ⟨0, 0⟩ .header, some ⟨s.path, s.span, false⟩⟩ ∧
      Table.alterAt .passedByHeader
        (fun parent => some ((), parent.append s.path.last s.table.toNode)) s.path.through between =
          some ((), placed) := by
  obtain ⟨⟨_, _⟩, halter, rfl⟩ := Option.map_eq_some_iff.mp hplace
  have hboth : ∀ parent result, s.join parent = some result →
      ∃ between, Assembly.takeOut s.path.last.text parent =
          some (Table.empty ⟨0, 0⟩ .header, between) ∧ between.origin = parent.origin ∧
        some ((), between.append s.path.last s.table.toNode) = some result := by
    intro parent result hjoin
    unfold join at hjoin
    split at hjoin
    next hvacant => exact ⟨parent, by simp [Assembly.takeOut, hvacant], rfl, hjoin⟩
    next => contradiction
  obtain ⟨between, hopen, -, hjoined⟩ := Table.exists_alterAt_of_both rfl hboth halter
  exact ⟨between, by simp [Assembly.step, hclose, hopen], hjoined⟩

/-- What a section makes of a document, if it is read to its end there. -/
theorem exists_run (hkeys : (s.pairs.map (·.1.text)).Nodup) (hclose : a.close = some root)
    (hplace : s.place root = some placed) :
    ∃ last, s.statements.foldlM Assembly.step a = some last ∧ last.close = some placed := by
  obtain ⟨between, hheader, halter⟩ := exists_step_header hclose hplace
  refine ⟨⟨between, ⟨⟨0, 0⟩, .header, s.pairs⟩, some ⟨s.path, s.span, false⟩⟩, ?_, ?_⟩
  · rw [statements, List.foldlM_cons, hheader]
    exact run_pairs (by simpa [Table.empty] using hkeys)
  · simp only [table] at halter
    simp [Assembly.close, halter]

theorem exists_runs {sections : List Section}
    (hkeys : ∀ s ∈ sections, (s.pairs.map (·.1.text)).Nodup) (hclose : a.close = some root)
    (hplace : sections.foldlM place root = some placed) :
    ∃ last, (sections.flatMap statements).foldlM Assembly.step a = some last ∧
      last.close = some placed := by
  induction sections generalizing a root with
  | nil =>
      obtain rfl := Option.some.inj hplace
      exact ⟨a, rfl, hclose⟩
  | cons s sections ih =>
      obtain ⟨hfirst, hrest⟩ := List.forall_mem_cons.mp hkeys
      rw [List.foldlM_cons, Option.bind_eq_bind, Option.bind_eq_some_iff] at hplace
      obtain ⟨next, hnext, hplace⟩ := hplace
      obtain ⟨between, hrun, hbetween⟩ := exists_run hfirst hclose hnext
      obtain ⟨last, hruns, hlast⟩ := ih hrest hbetween hplace
      refine ⟨last, ?_, hlast⟩
      rw [List.flatMap_cons, List.foldlM_append, hrun]
      exact hruns

end Section

/-- A document of sections is built up by putting their tables in their places. -/
theorem Assembly.ofStatements?_sections {sections : List Section} {table : Table}
    (hkeys : ∀ s ∈ sections, (s.pairs.map (·.1.text)).Nodup)
    (hplace : sections.foldlM Section.place (Table.empty ⟨0, 0⟩ .header) = some table) :
    Assembly.ofStatements? (sections.flatMap Section.statements) = some table := by
  obtain ⟨last, hrun, hclose⟩ := Section.exists_runs hkeys (a := Assembly.start) rfl hplace
  simp [Assembly.ofStatements?, hrun, hclose]

end AssetMenu.Document

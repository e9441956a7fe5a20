import AssetMenu.Proofs.Document.DistinctKeys

/-!
# What is read has distinct keys

The readers of values, of statements and of whole documents make tables by the
changes that keep keys distinct, and by no others.  So no key stands twice in a
document that was read.
-/

namespace AssetMenu.Document

/-- Whatever the reader yields has distinct keys. -/
def YieldsDistinctKeys (value : ValueReader) : Prop :=
  ∀ c node next, value c = some (node, next) → node.DistinctKeys

section Values

variable {value : ValueReader}

theorem distinctKeys_of_readItemsWithin (hvalue : YieldsDistinctKeys value) {bound : Nat}
    {c next : Cursor} {items : List Node}
    (hread : readItemsWithin value bound c = some (items, next)) :
    ∀ item ∈ items, item.DistinctKeys := by
  induction bound generalizing c next items with
  | zero => simp [readItemsWithin] at hread
  | succ bound ih =>
      simp only [readItemsWithin, Option.bind_eq_bind, Option.bind_eq_some_iff] at hread
      obtain ⟨c, -, hread⟩ := hread
      split at hread
      · obtain ⟨rfl, -⟩ := Prod.mk.inj (Option.some.inj hread)
        simp
      · simp only [Option.bind_eq_some_iff, Prod.exists] at hread
        obtain ⟨node, _, hnode, _, -, hread⟩ := hread
        have hfirst := hvalue _ _ _ hnode
        split at hread
        · obtain ⟨rfl, -⟩ := Prod.mk.inj (Option.some.inj hread)
          simpa using hfirst
        · simp only [Option.bind_eq_some_iff, Prod.exists] at hread
          obtain ⟨nodes, _, hnodes, hread⟩ := hread
          obtain ⟨rfl, -⟩ := Prod.mk.inj (Option.some.inj hread)
          exact List.forall_mem_cons.mpr ⟨hfirst, ih hnodes⟩
        · simp at hread

theorem distinctKeys_of_readEntry (hvalue : YieldsDistinctKeys value) {c next : Cursor}
    {path : KeyPath} {node : Node} (hread : readEntry value c = some (path, node, next)) :
    node.DistinctKeys := by
  simp only [readEntry, Option.bind_eq_bind, Option.bind_eq_some_iff, Prod.exists,
    Option.some.injEq, Prod.mk.injEq] at hread
  obtain ⟨_, _, -, _, -, _, -, _, -, _, _, hnode, -, rfl, -⟩ := hread
  exact hvalue _ _ _ hnode

theorem distinctKeys_of_readEntriesWithin (hvalue : YieldsDistinctKeys value) {bound : Nat}
    {c next : Cursor} {table result : Table} (htable : table.DistinctKeys)
    (hread : readEntriesWithin value bound table c = some (result, next)) :
    result.DistinctKeys := by
  induction bound generalizing c table with
  | zero => simp [readEntriesWithin] at hread
  | succ bound ih =>
      simp only [readEntriesWithin, Option.bind_eq_bind, Option.bind_eq_some_iff] at hread
      obtain ⟨c, -, hread⟩ := hread
      split at hread
      · obtain ⟨rfl, -⟩ := Prod.mk.inj (Option.some.inj hread)
        exact htable
      · simp only [Option.bind_eq_some_iff, Prod.exists] at hread
        obtain ⟨_, _, _, hentry, grown, hinsert, _, -, hread⟩ := hread
        have hgrown := htable.insert (distinctKeys_of_readEntry hvalue hentry) hinsert
        split at hread
        · obtain ⟨rfl, -⟩ := Prod.mk.inj (Option.some.inj hread)
          exact hgrown
        · exact ih hgrown hread
        · simp at hread

theorem yieldsDistinctKeys_readValueWithin (depth : Nat) :
    YieldsDistinctKeys (readValueWithin depth) := by
  induction depth with
  | zero =>
      intro c node next hread
      rw [readValueWithin] at hread
      split at hread
      · simp at hread
      · simp at hread
      · obtain ⟨_, -, hnode⟩ := Option.map_eq_some_iff.mp hread
        obtain ⟨rfl, -⟩ := Prod.mk.inj hnode
        exact .scalar
  | succ depth ih =>
      intro c node next hread
      rw [readValueWithin] at hread
      split at hread
      · simp only [Option.bind_eq_bind, Option.bind_eq_some_iff, Prod.exists] at hread
        obtain ⟨items, _, hitems, hread⟩ := hread
        obtain ⟨rfl, -⟩ := Prod.mk.inj (Option.some.inj hread)
        exact .array (distinctKeys_of_readItemsWithin ih hitems)
      · simp only [Option.bind_eq_bind, Option.bind_eq_some_iff, Prod.exists] at hread
        obtain ⟨table, _, hentries, hread⟩ := hread
        obtain ⟨rfl, -⟩ := Prod.mk.inj (Option.some.inj hread)
        have htable := distinctKeys_of_readEntriesWithin ih .empty hentries
        exact .table htable.nodup htable.nested
      · obtain ⟨_, -, hnode⟩ := Option.map_eq_some_iff.mp hread
        obtain ⟨rfl, -⟩ := Prod.mk.inj hnode
        exact .scalar

end Values

/-! ## Statements -/

/-- The value of a pair has distinct keys. -/
def Statement.DistinctKeys : Statement → Prop
  | .pair _ value => value.DistinctKeys
  | _ => True

theorem Statement.distinctKeys_of_read {c next : Cursor} {statement : Statement}
    (hread : Statement.read c = some (statement, next)) : statement.DistinctKeys := by
  rw [Statement.read] at hread
  split at hread
  · simp only [Option.bind_eq_bind, Option.bind_eq_some_iff, Prod.exists, Option.some.injEq,
      Prod.mk.injEq] at hread
    obtain ⟨_, _, -, _, -, rfl, -⟩ := hread
    trivial
  · simp only [Option.bind_eq_bind, Option.bind_eq_some_iff, Prod.exists, Option.some.injEq,
      Prod.mk.injEq] at hread
    obtain ⟨_, _, -, rfl, -⟩ := hread
    trivial
  · simp only [readPair, Option.bind_eq_bind, Option.bind_eq_some_iff, Prod.exists,
      Option.some.injEq, Prod.mk.injEq] at hread
    obtain ⟨_, _, _, ⟨_, _, -, _, -, _, _, hvalue, -, rfl, -⟩, rfl, -⟩ := hread
    exact yieldsDistinctKeys_readValueWithin maxDepth _ _ _ hvalue

theorem Statement.distinctKeys_of_readAllWithin {bound : Nat} {c : Cursor}
    {statements : List Statement}
    (hread : Statement.readAllWithin bound c = some statements) :
    ∀ statement ∈ statements, statement.DistinctKeys := by
  induction bound generalizing c statements with
  | zero => simp [Statement.readAllWithin] at hread
  | succ bound ih =>
      simp only [Statement.readAllWithin, Option.bind_eq_bind, Option.bind_eq_some_iff]
        at hread
      obtain ⟨_, -, hread⟩ := hread
      split at hread
      · obtain rfl := Option.some.inj hread
        simp
      · simp only [Option.bind_eq_some_iff, Prod.exists, Option.some.injEq] at hread
        obtain ⟨statement, _, hstatement, _, -, rest, hrest, rfl⟩ := hread
        exact List.forall_mem_cons.mpr
          ⟨Statement.distinctKeys_of_read hstatement, ih hrest⟩

/-! ## Documents -/

namespace Assembly

/-- What holds between two statements: keys are distinct in what has taken its
place and in the open table, and the place of the open table is vacant. -/
structure DistinctKeys (a : Assembly) : Prop where
  root : a.root.DistinctKeys
  current : a.current.DistinctKeys
  vacant : ∀ header, a.header = some header → header.repeated = false →
    a.root.EndsIn .passedByHeader
      (fun parent => parent.find? header.path.last.text = none) header.path.through

theorem distinctKeys_start : start.DistinctKeys where
  root := .empty
  current := .empty
  vacant := by simp [start]

theorem distinctKeys_of_addRepeated {key : Key} {table parent changed : Table}
    (htable : table.DistinctKeys) (hparent : parent.DistinctKeys)
    (hadd : addRepeated key table parent = some changed) : changed.DistinctKeys := by
  rw [addRepeated] at hadd
  split at hadd
  next hfind =>
    obtain rfl := Option.some.inj hadd
    exact hparent.append hfind (.tables (by simpa using htable.toNode))
  next span items hfind =>
    obtain rfl := Option.some.inj hadd
    apply hparent.replace
    apply Node.DistinctKeys.tables
    intro item hitem
    rcases List.mem_append.mp hitem with hold | hnew
    · exact (hparent.find? hfind).mem_tables item hold
    · rw [List.mem_singleton.mp hnew]
      exact htable.toNode
  next => simp at hadd

theorem DistinctKeys.close {a : Assembly} {root : Table} (ha : a.DistinctKeys)
    (hclose : a.close = some root) : root.DistinctKeys := by
  rw [Assembly.close] at hclose
  split at hclose
  next =>
    obtain rfl := Option.some.inj hclose
    exact ha.current
  next header hheader =>
    obtain ⟨⟨_, _⟩, halter, rfl⟩ := Option.map_eq_some_iff.mp hclose
    have htable : Table.DistinctKeys { a.current with span := header.span } :=
      ⟨ha.current.nodup, ha.current.nested⟩
    have haltered := Table.altered_of_alterAt halter
    cases hrepeated : header.repeated with
    | true =>
        refine (haltered.distinctKeys_of_keeps (q := fun _ => True) ha.root ?_).2
        intro parent answer parent' hparent hchange
        simp only [hrepeated, if_true, Option.map_eq_some_iff, Prod.mk.injEq] at hchange
        obtain ⟨_, hadd, -, rfl⟩ := hchange
        exact ⟨trivial, distinctKeys_of_addRepeated htable hparent hadd⟩
    | false =>
        refine (haltered.distinctKeys (q := fun _ => True) ?_
          (ha.vacant header hheader hrepeated) ha.root).2
        intro parent answer parent' hvacant hparent hchange
        simp only [hrepeated] at hchange
        obtain ⟨-, rfl⟩ := Prod.mk.inj (Option.some.inj hchange)
        exact ⟨trivial, hparent.append hvacant htable.toNode⟩

theorem takeOut_eq_some {name : String} {parent taken left : Table}
    (htake : takeOut name parent = some (taken, left)) :
    left.find? name = none ∧ (parent.DistinctKeys → taken.DistinctKeys ∧ left.DistinctKeys) := by
  rw [takeOut] at htake
  split at htake
  next hfind =>
    obtain ⟨rfl, rfl⟩ := Prod.mk.inj (Option.some.inj htake)
    exact ⟨hfind, fun hparent => ⟨.empty, hparent⟩⟩
  next span entries hfind =>
    obtain ⟨rfl, rfl⟩ := Prod.mk.inj (Option.some.inj htake)
    refine ⟨Table.find?_erase_self, fun hparent => ⟨?_, hparent.erase⟩⟩
    have htaken := Table.DistinctKeys.ofNode (hparent.find? hfind)
    exact ⟨htaken.nodup, htaken.nested⟩
  next => simp at htake

theorem DistinctKeys.step {a next : Assembly} {statement : Statement} (ha : a.DistinctKeys)
    (hstatement : statement.DistinctKeys) (hstep : a.step statement = some next) :
    next.DistinctKeys := by
  cases statement with
  | pair path value =>
      simp only [Assembly.step, Option.bind_eq_bind, Option.bind_eq_some_iff,
        Option.some.injEq] at hstep
      obtain ⟨current, hinsert, rfl⟩ := hstep
      exact ⟨ha.root, ha.current.insert hstatement hinsert, ha.vacant⟩
  | header path span =>
      simp only [Assembly.step, Option.bind_eq_bind, Option.bind_eq_some_iff, Prod.exists,
        Option.some.injEq] at hstep
      obtain ⟨root, hclose, current, left, halter, rfl⟩ := hstep
      have haltered := Table.altered_of_alterAt halter
      have hkept : current.DistinctKeys ∧ left.DistinctKeys := by
        apply haltered.distinctKeys_of_keeps (ha.close hclose)
        intro parent taken left hparent htake
        exact (takeOut_eq_some htake).2 hparent
      refine ⟨hkept.2, hkept.1, ?_⟩
      intro header hheader _
      obtain rfl := Option.some.inj hheader
      apply haltered.endsIn
      intro parent taken left htake
      exact (takeOut_eq_some htake).1
  | repeatedHeader path span =>
      simp only [Assembly.step, Option.bind_eq_bind, Option.bind_eq_some_iff,
        Option.some.injEq] at hstep
      obtain ⟨root, hclose, rfl⟩ := hstep
      refine ⟨ha.close hclose, .empty, ?_⟩
      intro header hheader hrepeated
      obtain rfl := Option.some.inj hheader
      simp at hrepeated

theorem DistinctKeys.run {a last : Assembly} {statements : List Statement}
    (ha : a.DistinctKeys) (hstatements : ∀ statement ∈ statements, statement.DistinctKeys)
    (hrun : statements.foldlM Assembly.step a = some last) : last.DistinctKeys := by
  induction statements generalizing a with
  | nil =>
      obtain rfl := Option.some.inj hrun
      exact ha
  | cons statement rest ih =>
      obtain ⟨hfirst, hrest⟩ := List.forall_mem_cons.mp hstatements
      simp only [List.foldlM_cons, Option.bind_eq_bind, Option.bind_eq_some_iff] at hrun
      obtain ⟨next, hstep, hrun⟩ := hrun
      exact ih (ha.step hfirst hstep) hrest hrun

end Assembly

/-- No key stands twice in a document. -/
theorem distinctKeys_of_ofSource? {source : List Char} {table : Table}
    (hread : ofSource? source = some table) : table.DistinctKeys := by
  simp only [ofSource?, Assembly.ofStatements?, Option.bind_eq_bind,
    Option.bind_eq_some_iff] at hread
  obtain ⟨statements, hstatements, last, hrun, hclose⟩ := hread
  exact (Assembly.distinctKeys_start.run
    (Statement.distinctKeys_of_readAllWithin hstatements) hrun).close hclose

end AssetMenu.Document

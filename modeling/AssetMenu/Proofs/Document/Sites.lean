import AssetMenu.Proofs.Document.DistinctKeys
import AssetMenu.Proofs.Document.Progress

/-!
# What stands at the places of a document

The keys and the single values of a document carry the places that they were read from.  Tables are
put together and taken apart while a document is assembled, but no key and no value is made up on
the way.  So each of them can be read again at its place.
-/

namespace AssetMenu.Document

open Text

variable {source : List Char}

/-! ## Positions in a source -/

/-- The position comes up when the source is read from its beginning. -/
def Cursor.In (source : List Char) (c : Cursor) : Prop :=
  Leads ⟨source, 0⟩ c

theorem Cursor.In.leads {c next : Cursor} (hc : c.In source) (hnext : c.Leads next) :
    next.In source :=
  Leads.trans hc hnext

/-- What is passed over between two positions stands at the place between them. -/
theorem Cursor.In.exists_marks {c next : Cursor} (hc : c.In source) (hnext : c.Leads next) :
    ∃ text, (c.spanTo next).Marks source text := by
  obtain ⟨front, hsource, hoffset⟩ := hc
  obtain ⟨text, hrest, hstop⟩ := hnext
  refine ⟨text, front, next.rest, by rw [← hrest]; exact hsource, ?_⟩
  rw [spanTo, Span.ofLength, hstop, hoffset, Nat.zero_add]

/-- The key is read at its place. -/
def Key.Sited (source : List Char) (key : Key) : Prop :=
  ∃ c next, c.In source ∧ readKey c = some (key, next)

/-- All parts of the dotted key are read at their places. -/
structure KeyPath.Sited (source : List Char) (path : KeyPath) : Prop where
  through : ∀ key ∈ path.through, key.Sited source
  last : path.last.Sited source

/-- The single value is read at the place. -/
def Scalar.Sited (source : List Char) (span : Span) (value : Scalar) : Prop :=
  ∃ c next, c.In source ∧ Scalar.read c = some (value, next) ∧ span = c.spanTo next

theorem Key.Sited.exists_marks {key : Key} (hkey : key.Sited source) :
    ∃ text, key.span.Marks source text := by
  obtain ⟨c, next, hc, hread⟩ := hkey
  obtain ⟨hleads, hspan⟩ := leads_readKey hread
  rw [hspan]
  exact hc.exists_marks hleads

theorem Scalar.Sited.exists_marks {span : Span} {value : Scalar}
    (hvalue : value.Sited source span) : ∃ text, span.Marks source text := by
  obtain ⟨c, next, hc, hread, rfl⟩ := hvalue
  exact hc.exists_marks (leads_readScalar hread)

/-- All keys and single values are read at their places, at any depth. -/
inductive Node.Sited (source : List Char) : Node → Prop
  | scalar {span : Span} {value : Scalar} :
      value.Sited source span → Sited source (.scalar span value)
  | array {span : Span} {items : List Node} :
      (∀ item ∈ items, Sited source item) → Sited source (.array span items)
  | tables {span : Span} {items : List Node} :
      (∀ item ∈ items, Sited source item) → Sited source (.tables span items)
  | table {span : Span} {origin : Origin} {entries : List (Key × Node)} :
      (∀ entry ∈ entries, entry.1.Sited source) → (∀ entry ∈ entries, Sited source entry.2) →
        Sited source (.table span origin entries)

theorem Node.Sited.mem_tables {span : Span} {items : List Node}
    (hnode : Node.Sited source (.tables span items)) : ∀ item ∈ items, item.Sited source := by
  cases hnode with
  | tables hitems => exact hitems

theorem Node.Sited.ofScalar {span : Span} {value : Scalar}
    (hnode : Node.Sited source (.scalar span value)) : value.Sited source span := by
  cases hnode with
  | scalar hvalue => exact hvalue

/-- Another table of a name comes behind the others. -/
theorem Node.Sited.tables_append {span : Span} {items : List Node} {node : Node}
    (hitems : ∀ item ∈ items, item.Sited source) (hnode : node.Sited source) :
    Node.Sited source (.tables span (items ++ [node])) := by
  apply Node.Sited.tables
  intro item hitem
  rcases List.mem_append.mp hitem with hold | hnew
  · exact hitems item hold
  · rwa [List.mem_singleton.mp hnew]

namespace Table

/-- All keys and single values in the table are read at their places. -/
structure Sited (source : List Char) (table : Table) : Prop where
  keys : ∀ entry ∈ table.entries, entry.1.Sited source
  nested : ∀ entry ∈ table.entries, entry.2.Sited source

theorem Sited.toNode {table : Table} (htable : table.Sited source) : table.toNode.Sited source :=
  .table htable.keys htable.nested

theorem Sited.ofNode {span : Span} {origin : Origin} {entries : List (Key × Node)}
    (hnode : Node.Sited source (.table span origin entries)) :
    Sited source ⟨span, origin, entries⟩ := by
  cases hnode with
  | table hkeys hnested => exact ⟨hkeys, hnested⟩

theorem Sited.empty {span : Span} {origin : Origin} : (Table.empty span origin).Sited source :=
  ⟨by simp [Table.empty], by simp [Table.empty]⟩

namespace Sited

variable {table changed : Table} {name : String} {key : Key} {node : Node}

theorem find? (htable : table.Sited source) (hfound : table.find? name = some node) :
    node.Sited source := by
  obtain ⟨entry, hentry, rfl⟩ := Option.map_eq_some_iff.mp hfound
  exact htable.nested entry (List.mem_of_find?_eq_some hentry)

theorem append (htable : table.Sited source) (hkey : key.Sited source)
    (hnode : node.Sited source) : (table.append key node).Sited source where
  keys entry hentry := by
    rcases List.mem_append.mp hentry with hold | hnew
    · exact htable.keys entry hold
    · rwa [List.mem_singleton.mp hnew]
  nested entry hentry := by
    rcases List.mem_append.mp hentry with hold | hnew
    · exact htable.nested entry hold
    · rwa [List.mem_singleton.mp hnew]

theorem replace (htable : table.Sited source) (hnode : node.Sited source) :
    (table.replace name node).Sited source where
  keys entry hentry := by
    obtain ⟨old, hold, rfl⟩ := List.mem_map.mp hentry
    split
    · exact htable.keys old hold
    · exact htable.keys old hold
  nested entry hentry := by
    obtain ⟨old, hold, rfl⟩ := List.mem_map.mp hentry
    split
    · exact hnode
    · exact htable.nested old hold

theorem erase (htable : table.Sited source) : (table.erase name).Sited source where
  keys entry hentry := htable.keys entry (List.mem_filter.mp hentry).1
  nested entry hentry := htable.nested entry (List.mem_filter.mp hentry).1

end Sited

section Altered

variable {α : Type} {made : Origin} {change : Table → Option (α × Table)}

/-- A change at the end of a path that is read in the source makes nothing up, if the change itself
does not. -/
theorem Altered.sited {q : α → Prop} {path : List Key} {table changed : Table} {answer : α}
    (haltered : Altered made change path table answer changed)
    (hpath : ∀ key ∈ path, key.Sited source) (htable : table.Sited source)
    (hchange : ∀ parent answer parent', parent.Sited source →
      change parent = some (answer, parent') → q answer ∧ parent'.Sited source) :
    q answer ∧ changed.Sited source := by
  induction haltered with
  | here hstep => exact hchange _ _ _ htable hstep
  | made hfind _ ih =>
      obtain ⟨hkey, hpath⟩ := List.forall_mem_cons.mp hpath
      obtain ⟨hanswer, hchild⟩ := ih hpath .empty
      exact ⟨hanswer, htable.append hkey hchild.toNode⟩
  | found hfind _ ih =>
      obtain ⟨hkey, hpath⟩ := List.forall_mem_cons.mp hpath
      obtain ⟨hanswer, hchild⟩ := ih hpath (.ofNode (htable.find? hfind))
      exact ⟨hanswer, htable.replace hchild.toNode⟩
  | @last _ _ _ _ _ _ _ items _ _ hfind hlast _ ih =>
      obtain ⟨hkey, hpath⟩ := List.forall_mem_cons.mp hpath
      have hitems := (htable.find? hfind).mem_tables
      obtain ⟨hanswer, hchild⟩ := ih hpath (.ofNode (hitems _ (List.mem_of_getLast? hlast)))
      refine ⟨hanswer, htable.replace (.tables_append ?_ hchild.toNode)⟩
      exact fun item hitem => hitems item ((List.dropLast_sublist items).subset hitem)

end Altered

theorem Sited.insert {path : KeyPath} {node : Node} {table changed : Table}
    (htable : table.Sited source) (hpath : path.Sited source) (hnode : node.Sited source)
    (hinsert : table.insert path node = some changed) : changed.Sited source := by
  obtain ⟨⟨_, _⟩, halter, rfl⟩ := Option.map_eq_some_iff.mp hinsert
  refine ((altered_of_alterAt halter).sited (q := fun _ => True) hpath.through htable ?_).2
  intro parent answer parent' hparent hchange
  simp only [Option.bind_eq_bind, Option.bind_eq_some_iff, Option.some.injEq,
    Prod.mk.injEq] at hchange
  obtain ⟨_, -, _, -, -, rfl⟩ := hchange
  exact ⟨trivial, hparent.append hpath.last hnode⟩

end Table

/-! ## Values -/

theorem sited_of_readKeyPathWithin {bound : Nat} {c next : Cursor} {path : KeyPath}
    (hc : c.In source) (hread : readKeyPathWithin bound c = some (path, next)) :
    path.Sited source ∧ c.Leads next := by
  induction bound generalizing c path with
  | zero => simp [readKeyPathWithin] at hread
  | succ bound ih =>
      simp only [readKeyPathWithin, Option.bind_eq_bind, Option.bind_eq_some_iff,
        Prod.exists] at hread
      obtain ⟨key, behind, hkey, hread⟩ := hread
      have hleads := (leads_readKey hkey).1.trans (Cursor.leads_skipSpaces behind)
      split at hread
      next rest hrest =>
        simp only [Option.bind_eq_some_iff, Prod.exists] at hread
        obtain ⟨inner, last, hinner, hresult⟩ := hread
        obtain ⟨rfl, rfl⟩ := Prod.mk.inj (Option.some.inj hresult)
        have hdot := (hleads.trans (Cursor.leads_over ['.'] hrest rfl)).trans
          (Cursor.leads_skipSpaces _)
        obtain ⟨hpath, hlast⟩ := ih (hc.leads hdot) hinner
        refine ⟨⟨?_, hpath.last⟩, hdot.trans hlast⟩
        exact List.forall_mem_cons.mpr ⟨⟨c, behind, hc, hkey⟩, hpath.through⟩
      next =>
        obtain ⟨rfl, rfl⟩ := Prod.mk.inj (Option.some.inj hread)
        exact ⟨⟨by simp, c, behind, hc, hkey⟩, hleads⟩

/-- What the reader yields is read at its place, and the reader moves forward. -/
def YieldsSited (source : List Char) (value : ValueReader) : Prop :=
  ∀ c node next, c.In source → value c = some (node, next) → node.Sited source ∧ c.Leads next

section Values

variable {value : ValueReader} {c next : Cursor}

theorem sited_of_readPair (hvalue : YieldsSited source value) (hc : c.In source)
    {path : KeyPath} {node : Node} (hread : readPair value c = some (path, node, next)) :
    path.Sited source ∧ node.Sited source ∧ c.Leads next := by
  simp only [readPair, Option.bind_eq_bind, Option.bind_eq_some_iff, Prod.exists,
    Option.some.injEq, Prod.mk.injEq] at hread
  obtain ⟨_, _, hpath, _, hequals, _, _, hnode, rfl, rfl, rfl⟩ := hread
  obtain ⟨hpath, hbehind⟩ := sited_of_readKeyPathWithin hc hpath
  have hstart := (hbehind.trans (Cursor.leads_expect hequals)).trans (Cursor.leads_skipSpaces _)
  obtain ⟨hnode, hnext⟩ := hvalue _ _ _ (hc.leads hstart) hnode
  exact ⟨hpath, hnode, hstart.trans hnext⟩

theorem sited_of_readEntry (hvalue : YieldsSited source value) (hc : c.In source)
    {path : KeyPath} {node : Node} (hread : readEntry value c = some (path, node, next)) :
    path.Sited source ∧ node.Sited source ∧ c.Leads next := by
  simp only [readEntry, Option.bind_eq_bind, Option.bind_eq_some_iff, Prod.exists,
    Option.some.injEq, Prod.mk.injEq] at hread
  obtain ⟨_, _, hpath, _, hbefore, _, hequals, _, hafter, _, _, hnode, rfl, rfl, rfl⟩ := hread
  obtain ⟨hpath, hbehind⟩ := sited_of_readKeyPathWithin hc hpath
  have hstart := ((hbehind.trans (Cursor.leads_skipFiller hbefore)).trans
    (Cursor.leads_expect hequals)).trans (Cursor.leads_skipFiller hafter)
  obtain ⟨hnode, hnext⟩ := hvalue _ _ _ (hc.leads hstart) hnode
  exact ⟨hpath, hnode, hstart.trans hnext⟩

theorem sited_of_readItemsWithin (hvalue : YieldsSited source value) {bound : Nat}
    {items : List Node} (hc : c.In source)
    (hread : readItemsWithin value bound c = some (items, next)) :
    (∀ item ∈ items, item.Sited source) ∧ c.Leads next := by
  induction bound generalizing c items with
  | zero => simp [readItemsWithin] at hread
  | succ bound ih =>
      simp only [readItemsWithin, Option.bind_eq_bind, Option.bind_eq_some_iff] at hread
      obtain ⟨start, hstart, hread⟩ := hread
      replace hstart := Cursor.leads_skipFiller hstart
      split at hread
      next rest hrest =>
        obtain ⟨rfl, rfl⟩ := Prod.mk.inj (Option.some.inj hread)
        exact ⟨by simp, hstart.trans (Cursor.leads_over [']'] hrest rfl)⟩
      next =>
        simp only [Option.bind_eq_some_iff, Prod.exists] at hread
        obtain ⟨node, behind, hnode, after, hafter, hread⟩ := hread
        obtain ⟨hnode, hbehind⟩ := hvalue _ _ _ (hc.leads hstart) hnode
        have hleads := (hstart.trans hbehind).trans (Cursor.leads_skipFiller hafter)
        split at hread
        next rest hrest =>
          obtain ⟨rfl, rfl⟩ := Prod.mk.inj (Option.some.inj hread)
          exact ⟨by simpa using hnode, hleads.trans (Cursor.leads_over [']'] hrest rfl)⟩
        next rest hrest =>
          simp only [Option.bind_eq_some_iff, Prod.exists] at hread
          obtain ⟨nodes, last, hnodes, hread⟩ := hread
          obtain ⟨rfl, rfl⟩ := Prod.mk.inj (Option.some.inj hread)
          have hcomma := hleads.trans (Cursor.leads_over [','] hrest rfl)
          obtain ⟨hnodes, hlast⟩ := ih (hc.leads hcomma) hnodes
          exact ⟨List.forall_mem_cons.mpr ⟨hnode, hnodes⟩, hcomma.trans hlast⟩
        next => simp at hread

theorem sited_of_readEntriesWithin (hvalue : YieldsSited source value) {bound : Nat}
    {table result : Table} (hc : c.In source) (htable : table.Sited source)
    (hread : readEntriesWithin value bound table c = some (result, next)) :
    result.Sited source ∧ c.Leads next := by
  induction bound generalizing c table with
  | zero => simp [readEntriesWithin] at hread
  | succ bound ih =>
      simp only [readEntriesWithin, Option.bind_eq_bind, Option.bind_eq_some_iff] at hread
      obtain ⟨start, hstart, hread⟩ := hread
      replace hstart := Cursor.leads_skipFiller hstart
      split at hread
      next rest hrest =>
        obtain ⟨rfl, rfl⟩ := Prod.mk.inj (Option.some.inj hread)
        exact ⟨htable, hstart.trans (Cursor.leads_over ['\x7d'] hrest rfl)⟩
      next =>
        simp only [Option.bind_eq_some_iff, Prod.exists] at hread
        obtain ⟨path, node, behind, hentry, grown, hinsert, after, hafter, hread⟩ := hread
        obtain ⟨hpath, hnode, hbehind⟩ := sited_of_readEntry hvalue (hc.leads hstart) hentry
        have hgrown := htable.insert hpath hnode hinsert
        have hleads := (hstart.trans hbehind).trans (Cursor.leads_skipFiller hafter)
        split at hread
        next rest hrest =>
          obtain ⟨rfl, rfl⟩ := Prod.mk.inj (Option.some.inj hread)
          exact ⟨hgrown, hleads.trans (Cursor.leads_over ['\x7d'] hrest rfl)⟩
        next rest hrest =>
          have hcomma := hleads.trans (Cursor.leads_over [','] hrest rfl)
          obtain ⟨hresult, hlast⟩ := ih (hc.leads hcomma) hgrown hread
          exact ⟨hresult, hcomma.trans hlast⟩
        next => simp at hread

theorem yieldsSited_scalar :
    YieldsSited source fun c =>
      (Scalar.read c).map fun (value, next) => (.scalar (c.spanTo next) value, next) := by
  intro c node next hc hread
  obtain ⟨⟨value, last⟩, hvalue, hnode⟩ := Option.map_eq_some_iff.mp hread
  obtain ⟨rfl, rfl⟩ := Prod.mk.inj hnode
  exact ⟨.scalar ⟨c, last, hc, hvalue, rfl⟩, leads_readScalar hvalue⟩

theorem yieldsSited_readValueWithin (depth : Nat) :
    YieldsSited source (readValueWithin depth) := by
  induction depth with
  | zero =>
      intro c node next hc hread
      rw [readValueWithin] at hread
      split at hread
      · simp at hread
      · simp at hread
      · exact yieldsSited_scalar c node next hc hread
  | succ depth ih =>
      intro c node next hc hread
      rw [readValueWithin] at hread
      split at hread
      next rest hrest =>
        simp only [Option.bind_eq_bind, Option.bind_eq_some_iff, Prod.exists] at hread
        obtain ⟨items, _, hitems, hread⟩ := hread
        obtain ⟨rfl, rfl⟩ := Prod.mk.inj (Option.some.inj hread)
        have hopen := Cursor.leads_over ['['] hrest rfl
        obtain ⟨hitems, hlast⟩ := sited_of_readItemsWithin ih (hc.leads hopen) hitems
        exact ⟨.array hitems, hopen.trans hlast⟩
      next rest hrest =>
        simp only [Option.bind_eq_bind, Option.bind_eq_some_iff, Prod.exists] at hread
        obtain ⟨table, _, hentries, hread⟩ := hread
        obtain ⟨rfl, rfl⟩ := Prod.mk.inj (Option.some.inj hread)
        have hopen := Cursor.leads_over ['\x7b'] hrest rfl
        obtain ⟨htable, hlast⟩ := sited_of_readEntriesWithin ih (hc.leads hopen) .empty hentries
        exact ⟨.table htable.keys htable.nested, hopen.trans hlast⟩
      next => exact yieldsSited_scalar c node next hc hread

end Values

/-! ## Statements -/

namespace Statement

/-- The keys and values of the statement are read at their places. -/
def Sited (source : List Char) : Statement → Prop
  | .header path _ => path.Sited source
  | .repeatedHeader path _ => path.Sited source
  | .pair path value => path.Sited source ∧ value.Sited source

theorem sited_of_readHeaderPath {c next : Cursor} {path : KeyPath} (hc : c.In source)
    (hread : readHeaderPath c = some (path, next)) : path.Sited source ∧ c.Leads next := by
  simp only [readHeaderPath, Option.bind_eq_bind, Option.bind_eq_some_iff, Prod.exists,
    Option.some.injEq, Prod.mk.injEq] at hread
  obtain ⟨_, _, hpath, _, hbracket, rfl, rfl⟩ := hread
  have hstart := Cursor.leads_skipSpaces c
  obtain ⟨hpath, hbehind⟩ := sited_of_readKeyPathWithin (hc.leads hstart) hpath
  exact ⟨hpath, (hstart.trans hbehind).trans (Cursor.leads_expect hbracket)⟩

theorem sited_of_read {c next : Cursor} {statement : Statement} (hc : c.In source)
    (hread : read c = some (statement, next)) : statement.Sited source ∧ c.Leads next := by
  rw [read] at hread
  split at hread
  next rest hrest =>
    simp only [Option.bind_eq_bind, Option.bind_eq_some_iff, Prod.exists, Option.some.injEq,
      Prod.mk.injEq] at hread
    obtain ⟨_, _, hpath, _, hbracket, rfl, rfl⟩ := hread
    have hopen := Cursor.leads_over ['[', '['] hrest rfl
    obtain ⟨hpath, hbehind⟩ := sited_of_readHeaderPath (hc.leads hopen) hpath
    exact ⟨hpath, (hopen.trans hbehind).trans (Cursor.leads_expect hbracket)⟩
  next rest hrest =>
    simp only [Option.bind_eq_bind, Option.bind_eq_some_iff, Prod.exists, Option.some.injEq,
      Prod.mk.injEq] at hread
    obtain ⟨_, _, hpath, rfl, rfl⟩ := hread
    have hopen := Cursor.leads_over ['['] hrest rfl
    obtain ⟨hpath, hbehind⟩ := sited_of_readHeaderPath (hc.leads hopen) hpath
    exact ⟨hpath, hopen.trans hbehind⟩
  next =>
    simp only [Option.bind_eq_bind, Option.bind_eq_some_iff, Prod.exists, Option.some.injEq,
      Prod.mk.injEq] at hread
    obtain ⟨_, _, _, hpair, rfl, rfl⟩ := hread
    obtain ⟨hpath, hnode, hnext⟩ :=
      sited_of_readPair (yieldsSited_readValueWithin maxDepth) hc hpair
    exact ⟨⟨hpath, hnode⟩, hnext⟩

theorem sited_of_readAllWithin {bound : Nat} {c : Cursor} {statements : List Statement}
    (hc : c.In source) (hread : readAllWithin bound c = some statements) :
    ∀ statement ∈ statements, statement.Sited source := by
  induction bound generalizing c statements with
  | zero => simp [readAllWithin] at hread
  | succ bound ih =>
      simp only [readAllWithin, Option.bind_eq_bind, Option.bind_eq_some_iff] at hread
      obtain ⟨start, hstart, hread⟩ := hread
      replace hstart := hc.leads (Cursor.leads_skipFiller hstart)
      split at hread
      · obtain rfl := Option.some.inj hread
        simp
      · simp only [Option.bind_eq_some_iff, Prod.exists, Option.some.injEq] at hread
        obtain ⟨statement, behind, hstatement, _, hend, rest, hrest, rfl⟩ := hread
        obtain ⟨hstatement, hbehind⟩ := sited_of_read hstart hstatement
        have hline := hstart.leads (hbehind.trans (Cursor.leads_skipLineEnd hend))
        exact List.forall_mem_cons.mpr ⟨hstatement, ih hline hrest⟩

end Statement

/-! ## Documents -/

namespace Assembly

/-- Nothing is made up in what has taken its place, in the open table, and in its header. -/
structure Sited (source : List Char) (a : Assembly) : Prop where
  root : a.root.Sited source
  current : a.current.Sited source
  header : ∀ header, a.header = some header → header.path.Sited source

theorem sited_start : start.Sited source where
  root := .empty
  current := .empty
  header := by simp [start]

theorem sited_of_addRepeated {key : Key} {table parent changed : Table}
    (hkey : key.Sited source) (htable : table.Sited source) (hparent : parent.Sited source)
    (hadd : addRepeated key table parent = some changed) : changed.Sited source := by
  rw [addRepeated] at hadd
  split at hadd
  next =>
    obtain rfl := Option.some.inj hadd
    exact hparent.append hkey (.tables (by simpa using htable.toNode))
  next span items hfind =>
    obtain rfl := Option.some.inj hadd
    exact hparent.replace (.tables_append (hparent.find? hfind).mem_tables htable.toNode)
  next => simp at hadd

theorem Sited.close {a : Assembly} {root : Table} (ha : a.Sited source)
    (hclose : a.close = some root) : root.Sited source := by
  rw [Assembly.close] at hclose
  split at hclose
  next =>
    obtain rfl := Option.some.inj hclose
    exact ha.current
  next header hheader =>
    obtain ⟨⟨_, _⟩, halter, rfl⟩ := Option.map_eq_some_iff.mp hclose
    have hpath := ha.header header hheader
    have htable : Table.Sited source { a.current with span := header.span } :=
      ⟨ha.current.keys, ha.current.nested⟩
    refine ((Table.altered_of_alterAt halter).sited (q := fun _ => True) hpath.through
      ha.root ?_).2
    intro parent answer parent' hparent hchange
    split at hchange
    · obtain ⟨_, hadd, hresult⟩ := Option.map_eq_some_iff.mp hchange
      obtain ⟨-, rfl⟩ := Prod.mk.inj hresult
      exact ⟨trivial, sited_of_addRepeated hpath.last htable hparent hadd⟩
    · obtain ⟨-, rfl⟩ := Prod.mk.inj (Option.some.inj hchange)
      exact ⟨trivial, hparent.append hpath.last htable.toNode⟩

theorem sited_of_takeOut {name : String} {parent taken left : Table}
    (hparent : parent.Sited source) (htake : takeOut name parent = some (taken, left)) :
    taken.Sited source ∧ left.Sited source := by
  rw [takeOut] at htake
  split at htake
  next =>
    obtain ⟨rfl, rfl⟩ := Prod.mk.inj (Option.some.inj htake)
    exact ⟨.empty, hparent⟩
  next span entries hfind =>
    obtain ⟨rfl, rfl⟩ := Prod.mk.inj (Option.some.inj htake)
    have htaken := Table.Sited.ofNode (hparent.find? hfind)
    exact ⟨⟨htaken.keys, htaken.nested⟩, hparent.erase⟩
  next => simp at htake

theorem Sited.step {a next : Assembly} {statement : Statement} (ha : a.Sited source)
    (hstatement : statement.Sited source) (hstep : a.step statement = some next) :
    next.Sited source := by
  cases statement with
  | pair path value =>
      simp only [Assembly.step, Option.bind_eq_bind, Option.bind_eq_some_iff,
        Option.some.injEq] at hstep
      obtain ⟨current, hinsert, rfl⟩ := hstep
      exact ⟨ha.root, ha.current.insert hstatement.1 hstatement.2 hinsert, ha.header⟩
  | header path span =>
      simp only [Assembly.step, Option.bind_eq_bind, Option.bind_eq_some_iff, Prod.exists,
        Option.some.injEq] at hstep
      obtain ⟨root, hclose, current, left, halter, rfl⟩ := hstep
      have hkept : current.Sited source ∧ left.Sited source := by
        apply (Table.altered_of_alterAt halter).sited hstatement.through (ha.close hclose)
        intro parent taken left hparent htake
        exact sited_of_takeOut hparent htake
      refine ⟨hkept.2, hkept.1, ?_⟩
      intro header hheader
      obtain rfl := Option.some.inj hheader
      exact hstatement
  | repeatedHeader path span =>
      simp only [Assembly.step, Option.bind_eq_bind, Option.bind_eq_some_iff,
        Option.some.injEq] at hstep
      obtain ⟨root, hclose, rfl⟩ := hstep
      refine ⟨ha.close hclose, .empty, ?_⟩
      intro header hheader
      obtain rfl := Option.some.inj hheader
      exact hstatement

theorem Sited.run {a last : Assembly} {statements : List Statement} (ha : a.Sited source)
    (hstatements : ∀ statement ∈ statements, statement.Sited source)
    (hrun : statements.foldlM Assembly.step a = some last) : last.Sited source := by
  induction statements generalizing a with
  | nil =>
      obtain rfl := Option.some.inj hrun
      exact ha
  | cons statement rest ih =>
      obtain ⟨hfirst, hrest⟩ := List.forall_mem_cons.mp hstatements
      simp only [List.foldlM_cons, Option.bind_eq_bind, Option.bind_eq_some_iff] at hrun
      obtain ⟨next, hstep, hrun⟩ := hrun
      exact ih (ha.step hfirst hstep) hrest hrun

end Assembly

/-- All keys and single values of a document are read at their places. -/
theorem sited_of_ofSource? {table : Table} (hread : ofSource? source = some table) :
    table.Sited source := by
  simp only [ofSource?, Assembly.ofStatements?, Option.bind_eq_bind,
    Option.bind_eq_some_iff] at hread
  obtain ⟨statements, hstatements, last, hrun, hclose⟩ := hread
  have hsited := Statement.sited_of_readAllWithin (Cursor.leads_ofSource source) hstatements
  exact (Assembly.sited_start.run hsited hrun).close hclose

end AssetMenu.Document

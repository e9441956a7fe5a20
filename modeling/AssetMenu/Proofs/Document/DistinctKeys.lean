import AssetMenu.Document.Assembly
import Mathlib.Data.List.Nodup
import Mathlib.Data.Option.Basic

/-!
# No key stands twice

A table of a document holds at most one entry for a key, at any depth.  Entries
are made by dotted keys, by headers and in braces.  Dotted keys and braces look
for an entry of the same key first.  A header does so when it is read, but its
table takes its place only when the next header comes, so the vacancy of that
place is what has to be carried from the one moment to the other.
-/

namespace AssetMenu.Document

/-- No key stands twice, in this value and in all values within it. -/
inductive Node.DistinctKeys : Node → Prop
  | scalar {span : Span} {value : Scalar} : DistinctKeys (.scalar span value)
  | array {span : Span} {items : List Node} :
      (∀ item ∈ items, DistinctKeys item) → DistinctKeys (.array span items)
  | tables {span : Span} {items : List Node} :
      (∀ item ∈ items, DistinctKeys item) → DistinctKeys (.tables span items)
  | table {span : Span} {origin : Origin} {entries : List (Key × Node)} :
      (entries.map (·.1.text)).Nodup → (∀ entry ∈ entries, DistinctKeys entry.2) →
        DistinctKeys (.table span origin entries)

theorem Node.DistinctKeys.mem_tables {span : Span} {items : List Node}
    (hnode : Node.DistinctKeys (.tables span items)) : ∀ item ∈ items, item.DistinctKeys := by
  cases hnode with
  | tables hitems => exact hitems

namespace Table

/-- No key stands twice in a table, nor in any value within it. -/
structure DistinctKeys (table : Table) : Prop where
  nodup : (table.entries.map (·.1.text)).Nodup
  nested : ∀ entry ∈ table.entries, entry.2.DistinctKeys

theorem DistinctKeys.toNode {table : Table} (htable : table.DistinctKeys) :
    table.toNode.DistinctKeys :=
  .table htable.nodup htable.nested

theorem DistinctKeys.ofNode {span : Span} {origin : Origin} {entries : List (Key × Node)}
    (hnode : Node.DistinctKeys (.table span origin entries)) :
    DistinctKeys ⟨span, origin, entries⟩ := by
  cases hnode with
  | table hnodup hnested => exact ⟨hnodup, hnested⟩

theorem DistinctKeys.empty {span : Span} {origin : Origin} :
    (Table.empty span origin).DistinctKeys :=
  ⟨List.nodup_nil, by simp [Table.empty]⟩

/-! ## Looking up after a change -/

theorem find?_eq_none_iff {table : Table} {name : String} :
    table.find? name = none ↔ name ∉ table.entries.map (·.1.text) := by
  simp [find?]

theorem find?_append_self {table : Table} {key : Key} {node : Node}
    (hvacant : table.find? key.text = none) :
    (table.append key node).find? key.text = some node := by
  have hnone : table.entries.find? (fun entry => entry.1.text == key.text) = none := by
    simpa [find?] using hvacant
  simp [find?, append, List.find?_append, hnone]

theorem find?_replace_self {table : Table} {name : String} {old node : Node}
    (hold : table.find? name = some old) :
    (table.replace name node).find? name = some node := by
  obtain ⟨entry, hentry, -⟩ := Option.map_eq_some_iff.mp hold
  simp only [find?, replace, List.find?_map]
  have hsame : (fun entry : Key × Node => entry.1.text == name) ∘
      (fun entry => if entry.1.text == name then (entry.1, node) else entry) =
      fun entry => entry.1.text == name := by
    funext entry
    by_cases hname : entry.1.text = name <;> simp [hname]
  rw [hsame, hentry]
  have hname : entry.1.text = name := by
    simpa using List.find?_some hentry
  simp [hname]

theorem find?_erase_self {table : Table} {name : String} :
    (table.erase name).find? name = none := by
  simp [find?, erase]

/-! ## What a change keeps -/

namespace DistinctKeys

variable {table : Table} {name : String} {key : Key} {node : Node}

theorem find? (htable : table.DistinctKeys) (hfound : table.find? name = some node) :
    node.DistinctKeys := by
  obtain ⟨entry, hentry, rfl⟩ := Option.map_eq_some_iff.mp hfound
  exact htable.nested entry (List.mem_of_find?_eq_some hentry)

theorem append (htable : table.DistinctKeys) (hvacant : table.find? key.text = none)
    (hnode : node.DistinctKeys) : (table.append key node).DistinctKeys where
  nodup := by
    rw [find?_eq_none_iff] at hvacant
    simp only [Table.append, List.map_append, List.map_cons, List.map_nil]
    exact List.nodup_append.mpr ⟨htable.nodup, List.nodup_singleton _, by
      rintro text htext _ hlast rfl
      exact hvacant (List.mem_singleton.mp hlast ▸ htext)⟩
  nested entry hentry := by
    rcases List.mem_append.mp hentry with hold | hnew
    · exact htable.nested entry hold
    · rw [List.mem_singleton.mp hnew]
      exact hnode

theorem replace (htable : table.DistinctKeys) (hnode : node.DistinctKeys) :
    (table.replace name node).DistinctKeys where
  nodup := by
    have hnames : (table.replace name node).entries.map (·.1.text) =
        table.entries.map (·.1.text) := by
      simp only [Table.replace, List.map_map]
      refine List.map_congr_left fun entry _ => ?_
      by_cases hname : entry.1.text = name <;> simp [hname]
    rw [hnames]
    exact htable.nodup
  nested entry hentry := by
    obtain ⟨old, hold, rfl⟩ := List.mem_map.mp hentry
    split
    · exact hnode
    · exact htable.nested old hold

theorem erase (htable : table.DistinctKeys) : (table.erase name).DistinctKeys where
  nodup := htable.nodup.sublist (List.filter_sublist.map _)
  nested entry hentry := htable.nested entry (List.mem_filter.mp hentry).1

end DistinctKeys

/-! ## Changes at the end of a path -/

section Altered

variable {α : Type} {made : Origin} {change : Table → Option (α × Table)}

/-- The ways in which the table at the end of a path is changed: at once, in a
table made for it, in a table that is there, or in the last of several. -/
inductive Altered (made : Origin) (change : Table → Option (α × Table)) :
    List Key → Table → α → Table → Prop
  | here {table : Table} {answer : α} {changed : Table} :
      change table = some (answer, changed) → Altered made change [] table answer changed
  | made {key : Key} {path : List Key} {table : Table} {answer : α} {child : Table} :
      table.find? key.text = none →
        Altered made change path (empty key.span made) answer child →
          Altered made change (key :: path) table answer (table.append key child.toNode)
  | found {key : Key} {path : List Key} {table : Table} {answer : α} {child : Table}
      {span : Span} {origin : Origin} {entries : List (Key × Node)} :
      table.find? key.text = some (.table span origin entries) →
        Altered made change path ⟨span, origin, entries⟩ answer child →
          Altered made change (key :: path) table answer
            (table.replace key.text child.toNode)
  | last {key : Key} {path : List Key} {table : Table} {answer : α} {child : Table}
      {span first : Span} {items : List Node} {origin : Origin}
      {entries : List (Key × Node)} :
      table.find? key.text = some (.tables span items) →
        items.getLast? = some (.table first origin entries) →
          Altered made change path ⟨first, origin, entries⟩ answer child →
            Altered made change (key :: path) table answer
              (table.replace key.text (.tables span (items.dropLast ++ [child.toNode])))

theorem altered_of_alterAt {path : List Key} {table changed : Table} {answer : α}
    (halter : alterAt made change path table = some (answer, changed)) :
    Altered made change path table answer changed := by
  induction path generalizing table answer changed with
  | nil => exact .here halter
  | cons key path ih =>
      rw [alterAt] at halter
      cases hfind : table.find? key.text with
      | none =>
          simp only [hfind, Option.bind_eq_bind, Option.bind_eq_some_iff, Option.some.injEq,
            Prod.mk.injEq] at halter
          obtain ⟨⟨inner, child⟩, hchild, rfl, rfl⟩ := halter
          exact .made hfind (ih hchild)
      | some node =>
          cases node with
          | scalar span value => simp [hfind] at halter
          | array span items => simp [hfind] at halter
          | table span origin entries =>
              simp only [hfind, Option.bind_eq_bind, Option.bind_eq_some_iff,
                Option.some.injEq, Prod.mk.injEq] at halter
              obtain ⟨-, -, ⟨inner, child⟩, hchild, rfl, rfl⟩ := halter
              exact .found hfind (ih hchild)
          | tables span items =>
              simp only [hfind] at halter
              cases hlast : items.getLast? with
              | none => simp [hlast] at halter
              | some node =>
                  cases node with
                  | scalar _ _ => simp [hlast] at halter
                  | array _ _ => simp [hlast] at halter
                  | tables _ _ => simp [hlast] at halter
                  | table first origin entries =>
                      simp only [hlast, Option.bind_eq_bind, Option.bind_some,
                        Option.bind_eq_some_iff, Option.some.injEq,
                        Prod.mk.injEq] at halter
                      obtain ⟨⟨inner, child⟩, hchild, rfl, rfl⟩ := halter
                      exact .last hfind hlast (ih hchild)

/-- If a path leads from a table to another one, that one satisfies `p`.  Tables
that are missing on the way are taken to be empty. -/
def EndsIn (made : Origin) (p : Table → Prop) : List Key → Table → Prop
  | [], table => p table
  | key :: path, table =>
      match table.find? key.text with
      | none => EndsIn made p path (empty key.span made)
      | some (.table span origin entries) => EndsIn made p path ⟨span, origin, entries⟩
      | some (.tables _ items) =>
          match items.getLast? with
          | some (.table span origin entries) => EndsIn made p path ⟨span, origin, entries⟩
          | _ => True
      | some _ => True

theorem endsIn_true (path : List Key) (table : Table) :
    EndsIn made (fun _ => True) path table := by
  induction path generalizing table with
  | nil => trivial
  | cons key path ih =>
      rw [EndsIn]
      split
      · exact ih _
      · exact ih _
      · split
        · exact ih _
        · trivial
      · trivial

/-- After a change, the path leads to the table that the change made. -/
theorem Altered.endsIn {p : Table → Prop} {path : List Key} {table changed : Table}
    {answer : α} (haltered : Altered made change path table answer changed)
    (hp : ∀ parent answer parent', change parent = some (answer, parent') → p parent') :
    EndsIn made p path changed := by
  induction haltered with
  | here hchange => exact hp _ _ _ hchange
  | made hfind _ ih => simpa [EndsIn, find?_append_self hfind, toNode] using ih
  | found hfind _ ih => simpa [EndsIn, find?_replace_self hfind, toNode] using ih
  | last hfind _ _ ih => simpa [EndsIn, find?_replace_self hfind, toNode] using ih

/-- A change at the end of a path keeps keys distinct if the change itself does,
on the kind of table that the path ends in. -/
theorem Altered.distinctKeys {p : Table → Prop} {q : α → Prop} {path : List Key}
    {table changed : Table} {answer : α}
    (haltered : Altered made change path table answer changed)
    (hchange : ∀ parent answer parent', p parent → parent.DistinctKeys →
      change parent = some (answer, parent') → q answer ∧ parent'.DistinctKeys)
    (hends : EndsIn made p path table) (htable : table.DistinctKeys) :
    q answer ∧ changed.DistinctKeys := by
  induction haltered with
  | here hstep => exact hchange _ _ _ hends htable hstep
  | made hfind _ ih =>
      obtain ⟨hanswer, hchild⟩ := ih (by simpa [EndsIn, hfind] using hends) .empty
      exact ⟨hanswer, htable.append hfind hchild.toNode⟩
  | found hfind _ ih =>
      obtain ⟨hanswer, hchild⟩ :=
        ih (by simpa [EndsIn, hfind] using hends) (.ofNode (htable.find? hfind))
      exact ⟨hanswer, htable.replace hchild.toNode⟩
  | @last _ _ _ _ _ _ _ items _ _ hfind hlast _ ih =>
      have hitems := (htable.find? hfind).mem_tables
      obtain ⟨hanswer, hchild⟩ :=
        ih (by simpa [EndsIn, hfind, hlast] using hends)
          (.ofNode (hitems _ (List.mem_of_getLast? hlast)))
      refine ⟨hanswer, htable.replace (.tables ?_)⟩
      intro item hitem
      rcases List.mem_append.mp hitem with hold | hnew
      · exact hitems item ((List.dropLast_sublist items).subset hold)
      · rw [List.mem_singleton.mp hnew]
        exact hchild.toNode

/-- Nothing need be known of where the path ends, if the change keeps keys distinct
on any table. -/
theorem Altered.distinctKeys_of_keeps {q : α → Prop} {path : List Key}
    {table changed : Table} {answer : α}
    (haltered : Altered made change path table answer changed) (htable : table.DistinctKeys)
    (hchange : ∀ parent answer parent', parent.DistinctKeys →
      change parent = some (answer, parent') → q answer ∧ parent'.DistinctKeys) :
    q answer ∧ changed.DistinctKeys := by
  apply haltered.distinctKeys (p := fun _ => True) _ (endsIn_true path table) htable
  intro parent answer parent' _
  exact hchange parent answer parent'

end Altered

theorem DistinctKeys.insert {path : KeyPath} {node : Node} {table changed : Table}
    (htable : table.DistinctKeys) (hnode : node.DistinctKeys)
    (hinsert : table.insert path node = some changed) : changed.DistinctKeys := by
  obtain ⟨⟨_, _⟩, halter, rfl⟩ := Option.map_eq_some_iff.mp hinsert
  refine ((altered_of_alterAt halter).distinctKeys_of_keeps (q := fun _ => True) htable ?_).2
  intro parent answer parent' hparent hchange
  simp only [Option.bind_eq_bind, Option.bind_eq_some_iff, Option.some.injEq,
    Prod.mk.injEq] at hchange
  obtain ⟨_, -, _, hguard, -, rfl⟩ := hchange
  refine ⟨trivial, hparent.append ?_ hnode⟩
  simpa [guard] using hguard

end Table

end AssetMenu.Document

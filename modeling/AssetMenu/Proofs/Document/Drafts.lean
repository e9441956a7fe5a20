import AssetMenu.Proofs.Document.Layout
import AssetMenu.Proofs.Document.Sections

/-!
# Documents laid out in sections

A draft is a section before it has a place.  What is read of a document that is laid out
draft by draft depends on the drafts and on where each of them begins, so its table can
be named without reading the text.
-/

namespace AssetMenu.Document

open Text

/-- A section as it is laid out: its header, its pairs, and the lines behind them that say
nothing. -/
structure Draft where
  /-- The name of the table that holds the table of the section, if it is not the document. -/
  outer : Option String
  name : String
  pairs : List (String × Datum)
  filler : List Line

namespace Draft

def header (draft : Draft) : Line :=
  match draft.outer with
  | none => .header draft.name
  | some outer => .subheader outer draft.name

def lines (draft : Draft) : List Line :=
  draft.header :: draft.pairs.map (fun pair => .pair pair.1 pair.2) ++ draft.filler

structure WellFormed (draft : Draft) : Prop where
  lines : draft.lines.all Line.isWellFormed = true
  filler : draft.filler.all Line.isFiller = true
  nodup : (draft.pairs.map Prod.fst).Nodup

/-- The entries of lines with pairs, the first of which stands at `offset`. -/
def entriesFrom : Nat → List (String × Datum) → List (Key × Node)
  | _, [] => []
  | offset, (name, value) :: pairs =>
      (bareKey name offset, value.node (offset + byteCount name.toList + 3)) ::
        entriesFrom (offset + byteCount (Line.pair name value).write + 1) pairs

/-- The path of the header at `offset`. -/
def path (draft : Draft) (offset : Nat) : KeyPath :=
  match draft.outer with
  | none => ⟨[], bareKey draft.name (offset + 1)⟩
  | some outer =>
      ⟨[bareKey outer (offset + 1)],
        quotedKey draft.name (offset + 1 + byteCount outer.toList + 1)⟩

/-- What is read of the lines at `offset`. -/
def sectionAt (draft : Draft) (offset : Nat) : Section where
  path := draft.path offset
  span := ⟨offset, offset + byteCount draft.header.write⟩
  pairs := entriesFrom (offset + byteCount draft.header.write + 1) draft.pairs

def sectionsFrom : Nat → List Draft → List Section
  | _, [] => []
  | offset, draft :: drafts =>
      draft.sectionAt offset :: sectionsFrom (offset + byteCount (Line.layout draft.lines)) drafts

theorem map_text_entriesFrom (offset : Nat) (pairs : List (String × Datum)) :
    (entriesFrom offset pairs).map (·.1.text) = pairs.map Prod.fst := by
  induction pairs generalizing offset with
  | nil => rfl
  | cons pair pairs ih => simp [entriesFrom, ih, bareKey]

theorem exists_layout_eq_cons (draft : Draft) :
    ∃ more, Line.layout draft.lines = '[' :: more := by
  unfold lines header
  cases draft.outer <;> exact ⟨_, rfl⟩

theorem statementsFrom_pairs (offset : Nat) (pairs : List (String × Datum)) :
    Line.statementsFrom offset (pairs.map fun pair => .pair pair.1 pair.2) =
      (entriesFrom offset pairs).map fun pair => .pair ⟨[], pair.1⟩ pair.2 := by
  induction pairs generalizing offset with
  | nil => rfl
  | cons pair pairs ih => simp [Line.statementsFrom, Line.statement?, entriesFrom, ih]

theorem statementsFrom_lines {draft : Draft} (hdraft : draft.WellFormed) (offset : Nat) :
    Line.statementsFrom offset draft.lines = (draft.sectionAt offset).statements := by
  have hheader : draft.header.statement? offset =
      some (.header (draft.path offset) (draft.sectionAt offset).span) := by
    unfold header path sectionAt
    cases houter : draft.outer <;> simp [Line.statement?, header, houter]
  rw [lines, Line.statementsFrom_append, Line.statementsFrom_filler hdraft.filler, List.append_nil,
    Line.statementsFrom, hheader, statementsFrom_pairs]
  rfl

theorem statementsFrom_flatMap_lines {drafts : List Draft}
    (hdrafts : ∀ draft ∈ drafts, draft.WellFormed) (offset : Nat) :
    Line.statementsFrom offset (drafts.flatMap lines) =
      (sectionsFrom offset drafts).flatMap Section.statements := by
  induction drafts generalizing offset with
  | nil => rfl
  | cons draft drafts ih =>
      obtain ⟨hdraft, hmore⟩ := List.forall_mem_cons.mp hdrafts
      rw [List.flatMap_cons, Line.statementsFrom_append, statementsFrom_lines hdraft, ih hmore,
        sectionsFrom, List.flatMap_cons]

theorem nodup_of_mem_sectionsFrom {drafts : List Draft}
    (hdrafts : ∀ draft ∈ drafts, draft.WellFormed) {offset : Nat} {s : Section}
    (hs : s ∈ sectionsFrom offset drafts) : (s.pairs.map (·.1.text)).Nodup := by
  induction drafts generalizing offset with
  | nil => contradiction
  | cons draft drafts ih =>
      obtain ⟨hdraft, hmore⟩ := List.forall_mem_cons.mp hdrafts
      rcases List.mem_cons.mp hs with rfl | hs
      · rw [sectionAt, map_text_entriesFrom]
        exact hdraft.nodup
      · exact ih hmore hs

end Draft

/-- A document that is laid out in sections is made of the tables of these sections. -/
theorem ofSource?_layout {drafts : List Draft} (hdrafts : ∀ draft ∈ drafts, draft.WellFormed)
    {table : Table}
    (hplace : (Draft.sectionsFrom 0 drafts).foldlM Section.place (Table.empty ⟨0, 0⟩ .header) =
      some table) :
    ofSource? (Line.layout (drafts.flatMap Draft.lines)) = some table := by
  have hlines : ∀ line ∈ drafts.flatMap Draft.lines, line.isWellFormed = true := by
    intro line hline
    obtain ⟨draft, hdraft, hmem⟩ := List.mem_flatMap.mp hline
    exact List.all_eq_true.mp (hdrafts draft hdraft).lines line hmem
  have hmark : (Line.layout (drafts.flatMap Draft.lines)).head? ≠ some '\uFEFF' := by
    cases drafts with
    | nil => simp [Line.layout]
    | cons draft drafts =>
        obtain ⟨more, hmore⟩ := draft.exists_layout_eq_cons
        simp [List.flatMap_cons, Line.layout_append, hmore]
  rw [ofSource?, Line.readAll_layout hlines hmark, Draft.statementsFrom_flatMap_lines hdrafts]
  exact Assembly.ofStatements?_sections (fun s => Draft.nodup_of_mem_sectionsFrom hdrafts) hplace

end AssetMenu.Document

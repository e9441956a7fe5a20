import AssetMenu.Proofs.Document.Keys
import AssetMenu.Proofs.Document.Words

/-!
# Documents in lines

A document that is laid out line by line is read as the statements of its lines.  Blank
lines and comments are passed over, and every statement has the place at which its line
stands.
-/

namespace AssetMenu.Document

open Text

variable {rest : List Char} {name : String} {offset : Nat}

/-! ## Values -/

/-- A value that is written on one line. -/
inductive Datum where
  | text (value : String)
  | integer (value : Int)
  | boolean (value : Bool)
  /-- A table in braces with one entry, which is a text. -/
  | braces (name value : String)

namespace Datum

def write : Datum → List Char
  | text value => printText value.toList
  | integer value => value.repr.toList
  | boolean value => if value then "true".toList else "false".toList
  | braces name value =>
      '\x7b' :: ' ' ::
        (name.toList ++ ' ' :: '=' :: ' ' :: (printText value.toList ++ [' ', '\x7d']))

def isWellFormed : Datum → Bool
  | braces name _ => isBareKey name
  | _ => true

/-- The value at its place. -/
def node (datum : Datum) (offset : Nat) : Node :=
  let span : Span := ⟨offset, offset + byteCount datum.write⟩
  match datum with
  | text value => .scalar span (.text value)
  | integer value => .scalar span (.integer (some value))
  | boolean value => .scalar span (.boolean value)
  | braces name value =>
      let start := offset + 2 + byteCount name.toList + 3
      .table span .braces
        [(bareKey name (offset + 2),
          .scalar ⟨start, start + byteCount (printText value.toList)⟩ (.text value))]

end Datum

/-- May a text in quotes stand before `rest`?  Behind a quote, another one would be taken for
a part of it. -/
def admitsQuoted (rest : List Char) : Bool :=
  rest.head? != some '"' && rest.head? != some '\''

theorem Scalar.read_printText (value : String) (hrest : admitsQuoted rest = true) (offset : Nat) :
    Scalar.read ⟨printText value.toList ++ rest, offset⟩ =
      some (.text value, ⟨rest, offset + byteCount (printText value.toList)⟩) := by
  have hread : Scalar.read ⟨printText value.toList ++ rest, offset⟩ =
      (readText ⟨printText value.toList ++ rest, offset⟩).map fun read =>
        (.text (String.ofList read.1), read.2) := by
    obtain ⟨quote, more, htext, rfl | rfl⟩ := exists_printText_eq_cons value.toList <;>
      rw [htext] <;> rfl
  obtain ⟨hbasic, hliteral⟩ := Bool.and_eq_true_iff.mp hrest
  rw [hread, readText_printText (bne_iff_ne.mp hbasic) (bne_iff_ne.mp hliteral), Option.map_some]
  simp only [String.ofList_toList]

theorem readValueWithin_scalar {depth : Nat} {start next : Cursor} {value : Scalar}
    (hread : Scalar.read start = some (value, next)) (hbracket : start.rest.head? ≠ some '[')
    (hbrace : start.rest.head? ≠ some '\x7b') :
    readValueWithin depth start = some (.scalar (start.spanTo next) value, next) := by
  cases depth <;> rw [readValueWithin] <;> split
  all_goals simp_all

theorem readValueWithin_printText (value : String) (depth : Nat) (hrest : admitsQuoted rest = true)
    (offset : Nat) :
    readValueWithin depth ⟨printText value.toList ++ rest, offset⟩ =
      some (.scalar ⟨offset, offset + byteCount (printText value.toList)⟩ (.text value),
        ⟨rest, offset + byteCount (printText value.toList)⟩) := by
  apply readValueWithin_scalar (Scalar.read_printText value hrest offset) <;>
  · obtain ⟨quote, more, htext, rfl | rfl⟩ := exists_printText_eq_cons value.toList <;>
      simp [htext]

theorem readValueWithin_word {word : List Char} {value : Scalar} (depth : Nat)
    (hword : ∀ c ∈ word, Scalar.isUnquoted c = true)
    (hvalue : Scalar.ofWord? word = some value) (rest : List Char) (offset : Nat) :
    readValueWithin depth ⟨word ++ '\n' :: rest, offset⟩ =
      some (.scalar ⟨offset, offset + byteCount word⟩ value,
        ⟨'\n' :: rest, offset + byteCount word⟩) := by
  have hhead : ∀ mark, Scalar.isWordChar mark = false → mark ≠ '\n' →
      (word ++ '\n' :: rest).head? ≠ some mark := by
    intro mark hmark hnewline
    cases word with
    | nil => simpa using hnewline.symm
    | cons c word =>
        rw [List.cons_append, List.head?_cons, ne_eq, Option.some.injEq]
        rintro rfl
        have hc := Scalar.isUnquoted_iff.mp (hword c List.mem_cons_self)
        exact Bool.false_ne_true (hmark.symm.trans hc.1)
  exact readValueWithin_scalar (Scalar.read_word hword hvalue rest offset)
    (hhead '[' rfl (by decide)) (hhead '\x7b' rfl (by decide))

theorem readEntry_printText (hname : isBareKey name = true) (value : String) (depth : Nat)
    (hrest : admitsQuoted rest = true) (offset : Nat) :
    readEntry (readValueWithin depth)
        ⟨name.toList ++ ' ' :: '=' :: ' ' :: (printText value.toList ++ rest), offset⟩ =
      some (⟨[], bareKey name offset⟩,
        .scalar ⟨offset + byteCount name.toList + 3,
          offset + byteCount name.toList + 3 + byteCount (printText value.toList)⟩ (.text value),
        ⟨rest, offset + byteCount name.toList + 3 + byteCount (printText value.toList)⟩) := by
  simp [readEntry, readKeyPath_bare hname, Cursor.skipFiller_of_not_isFiller (c := '=') rfl,
    Cursor.expect, Char.utf8Size, Cursor.skipFiller_space, skipFiller_printText,
    readValueWithin_printText value depth hrest]

theorem readEntriesWithin_single {value : ValueReader} (bound : Nat) {table : Table}
    {start next last : Cursor} {key : Key} {node : Node} {stop : Nat}
    (hopen : start.skipFiller = some next) (hnext : next.rest.head? ≠ some '\x7d')
    (hentry : readEntry value next = some (⟨[], key⟩, node, last))
    (hclose : last.skipFiller = some ⟨'\x7d' :: rest, stop⟩)
    (hvacant : table.find? key.text = none) :
    readEntriesWithin value (bound + 1) table start =
      some (table.append key node, ⟨rest, stop + 1⟩) := by
  simp only [readEntriesWithin, hopen, Option.bind_eq_bind, Option.bind_some]
  split
  next heq => simp [heq] at hnext
  next => simp [hentry, Table.insert, Table.alterAt, hvacant, guard, hclose]

theorem readValueWithin_braces (hname : isBareKey name = true) (value : String) (depth : Nat)
    (rest : List Char) (offset : Nat) :
    readValueWithin (depth + 1) ⟨(Datum.braces name value).write ++ rest, offset⟩ =
      some ((Datum.braces name value).node offset,
        ⟨rest, offset + byteCount (Datum.braces name value).write⟩) := by
  let entry := name.toList ++ ' ' :: '=' :: ' ' :: (printText value.toList ++ ' ' :: '\x7d' :: rest)
  let stop := offset + 2 + byteCount name.toList + 3 + byteCount (printText value.toList)
  have htext : (Datum.braces name value).write ++ rest = '\x7b' :: ' ' :: entry := by
    simp [Datum.write, entry]
  have hbytes : offset + byteCount (Datum.braces name value).write = stop + 1 + 1 := by
    simp [Datum.write, stop, Char.utf8Size]
    omega
  have hopen : Cursor.skipFiller ⟨' ' :: entry, offset + 1⟩ = some ⟨entry, offset + 2⟩ := by
    rw [Cursor.skipFiller_space, skipFiller_bare hname]
  have hnext : entry.head? ≠ some '\x7d' := by
    obtain ⟨first, more, hfirst, hbare⟩ := exists_toList_eq_cons hname
    simpa [entry, hfirst] using ne_of_isBareKeyChar hbare '\x7d' rfl
  have hrest : admitsQuoted (' ' :: '\x7d' :: rest) = true := rfl
  have hentry := readEntry_printText hname value depth hrest (offset + 2)
  have hclose : Cursor.skipFiller ⟨' ' :: '\x7d' :: rest, stop⟩ =
      some ⟨'\x7d' :: rest, stop + 1⟩ := by
    rw [Cursor.skipFiller_space, Cursor.skipFiller_of_not_isFiller rfl]
  have hvacant : (Table.empty ⟨0, 0⟩ .braces).find? (bareKey name (offset + 2)).text = none := rfl
  have hentries := readEntriesWithin_single (entry.length + 2) hopen hnext hentry hclose hvacant
  rw [htext, hbytes, readValueWithin]
  simp only [List.length_cons, hentries, Datum.node, hbytes]
  rfl

/-- A value that is written on a line is read back, at its place. -/
theorem Datum.readValue_write {datum : Datum} (hdatum : datum.isWellFormed = true)
    (rest : List Char) (offset : Nat) :
    readValue ⟨datum.write ++ '\n' :: rest, offset⟩ =
      some (datum.node offset, ⟨'\n' :: rest, offset + byteCount datum.write⟩) := by
  cases datum with
  | text value => exact readValueWithin_printText value maxDepth rfl offset
  | integer value =>
      exact readValueWithin_word maxDepth (fun _ => Scalar.isUnquoted_of_mem_repr)
        (Scalar.ofWord?_repr value) rest offset
  | boolean value =>
      cases value with
      | false => exact readValueWithin_word maxDepth (List.all_eq_true.mp rfl) rfl rest offset
      | true => exact readValueWithin_word maxDepth (List.all_eq_true.mp rfl) rfl rest offset
  | braces name value => exact readValueWithin_braces hdatum value 79 ('\n' :: rest) offset

theorem Datum.exists_write_eq_cons (datum : Datum) :
    ∃ first more, datum.write = first :: more ∧ Cursor.isSpace first = false := by
  cases datum with
  | text value =>
      obtain ⟨quote, more, htext, hquote⟩ := exists_printText_eq_cons value.toList
      refine ⟨quote, more, htext, ?_⟩
      rcases hquote with rfl | rfl <;> rfl
  | integer value =>
      cases htext : value.repr.toList with
      | nil =>
          rcases exists_toList_repr_eq value with ⟨n, -, hdigits⟩ | ⟨n, -, hdigits⟩ <;>
            simp [htext] at hdigits
      | cons first more =>
          have hfirst : first ∈ value.repr.toList := htext ▸ List.mem_cons_self
          refine ⟨first, more, htext, ?_⟩
          rw [Cursor.isSpace, Bool.or_eq_false_iff, beq_eq_false_iff_ne, beq_eq_false_iff_ne]
          constructor <;> rintro rfl <;> simpa using eq_sign_or_isDigit_of_mem_repr hfirst
  | boolean value => cases value <;> exact ⟨_, _, rfl, rfl⟩
  | braces name value => exact ⟨_, _, rfl, rfl⟩

/-! ## Lines -/

/-- A line of a document. -/
inductive Line where
  | blank
  | comment (text : List Char)
  | header (name : String)
  /-- The header of a table within another one. -/
  | subheader (outer name : String)
  | pair (name : String) (value : Datum)

namespace Line

def write : Line → List Char
  | blank => []
  | comment text => '#' :: text
  | header name => '[' :: (name.toList ++ [']'])
  | subheader outer name => '[' :: (outer.toList ++ '.' :: (printText name.toList ++ [']']))
  | pair name value => name.toList ++ ' ' :: '=' :: ' ' :: value.write

def isWellFormed : Line → Bool
  | blank => true
  | comment text => text.all Cursor.isPlain
  | header name => isBareKey name
  | subheader outer name => isBareKey outer && isQuotedKey name
  | pair name value => isBareKey name && value.isWellFormed

/-- What the line says at its place. -/
def statement? (line : Line) (offset : Nat) : Option Statement :=
  let span : Span := ⟨offset, offset + byteCount line.write⟩
  match line with
  | blank => none
  | comment _ => none
  | header name => some (.header ⟨[], bareKey name (offset + 1)⟩ span)
  | subheader outer name =>
      some (.header
        ⟨[bareKey outer (offset + 1)], quotedKey name (offset + 1 + byteCount outer.toList + 1)⟩
        span)
  | pair name value =>
      some (.pair ⟨[], bareKey name offset⟩ (value.node (offset + byteCount name.toList + 3)))

/-- Does the line say nothing? -/
def isFiller : Line → Bool
  | blank => true
  | comment _ => true
  | _ => false

/-- The text of a document with the given lines. -/
def layout (lines : List Line) : List Char :=
  lines.flatMap fun line => line.write ++ ['\n']

@[simp]
theorem layout_append (left right : List Line) :
    layout (left ++ right) = layout left ++ layout right :=
  List.flatMap_append

/-- The statements of lines, the first of which stands at `offset`. -/
def statementsFrom : Nat → List Line → List Statement
  | _, [] => []
  | offset, line :: lines =>
      (line.statement? offset).toList ++ statementsFrom (offset + byteCount line.write + 1) lines

variable {line : Line} {lines : List Line}

theorem statement?_eq_none_iff : line.statement? offset = none ↔ line.isFiller = true := by
  cases line <;> simp [statement?, isFiller]

theorem statementsFrom_append (offset : Nat) (left right : List Line) :
    statementsFrom offset (left ++ right) =
      statementsFrom offset left ++
        statementsFrom (offset + byteCount (layout left)) right := by
  induction left generalizing offset with
  | nil => rfl
  | cons line left ih =>
      have hbytes : offset + byteCount (layout (line :: left)) =
          offset + byteCount line.write + 1 + byteCount (layout left) := by
        simp [layout, Char.utf8Size, Nat.add_assoc]
      rw [List.cons_append, statementsFrom, ih, statementsFrom, hbytes, List.append_assoc]

theorem statementsFrom_filler {filler : List Line} (hfiller : filler.all isFiller = true)
    (offset : Nat) : statementsFrom offset filler = [] := by
  induction filler generalizing offset with
  | nil => rfl
  | cons line filler ih =>
      obtain ⟨hline, hmore⟩ := Bool.and_eq_true_iff.mp hfiller
      rw [statementsFrom, statement?_eq_none_iff.mpr hline, ih hmore]
      rfl

/-- A line that says nothing is passed over. -/
theorem skipFiller_write (hline : line.isWellFormed = true) (hfiller : line.isFiller = true)
    (rest : List Char) (offset : Nat) :
    Cursor.skipFiller ⟨line.write ++ '\n' :: rest, offset⟩ =
      Cursor.skipFiller ⟨rest, offset + byteCount line.write + 1⟩ := by
  cases line with
  | blank => exact Cursor.skipFiller_newline rest offset
  | comment text => exact Cursor.skipFiller_comment (List.all_eq_true.mp hline) rest offset
  | header name => contradiction
  | subheader outer name => contradiction
  | pair name value => contradiction

theorem read_header {path : KeyPath} {next : Cursor} (hbracket : rest.head? ≠ some '[')
    (hpath : Statement.readHeaderPath ⟨rest, offset + 1⟩ = some (path, next)) :
    Statement.read ⟨'[' :: rest, offset⟩ = some (.header path ⟨offset, next.offset⟩, next) := by
  unfold Statement.read
  split
  next heq => simp_all
  next heq =>
    obtain ⟨-, rfl⟩ := List.cons.inj heq
    simp only [hpath, Option.bind_eq_bind, Option.bind_some]
    rfl
  next => simp_all

theorem read_pair (hname : isBareKey name = true) {value : Datum}
    (hvalue : value.isWellFormed = true) (rest : List Char) (offset : Nat) :
    Statement.read ⟨name.toList ++ ' ' :: '=' :: ' ' :: (value.write ++ '\n' :: rest), offset⟩ =
      some (.pair ⟨[], bareKey name offset⟩ (value.node (offset + byteCount name.toList + 3)),
        ⟨'\n' :: rest, offset + byteCount name.toList + 3 + byteCount value.write⟩) := by
  obtain ⟨first, more, htext, hfirst⟩ := exists_toList_eq_cons hname
  have hbracket := ne_of_isBareKeyChar hfirst '[' rfl
  unfold Statement.read
  split
  next => simp_all
  next => simp_all
  next =>
    have hspaces : Cursor.skipSpaces
          ⟨value.write ++ '\n' :: rest, offset + byteCount name.toList + 3⟩ =
        ⟨value.write ++ '\n' :: rest, offset + byteCount name.toList + 3⟩ := by
      obtain ⟨first, more, hwrite, hspace⟩ := value.exists_write_eq_cons
      rw [hwrite]
      exact Cursor.skipSpaces_of_not_isSpace hspace _ _
    simp [readPair, readKeyPath_bare hname, Cursor.expect, Char.utf8Size, Cursor.skipSpaces_space,
      hspaces, Datum.readValue_write hvalue]

/-- A line with a statement is read as that statement, up to its end. -/
theorem read_write {statement : Statement} (hline : line.isWellFormed = true)
    (hsome : line.statement? offset = some statement) (rest : List Char) :
    Statement.read ⟨line.write ++ '\n' :: rest, offset⟩ =
      some (statement, ⟨'\n' :: rest, offset + byteCount line.write⟩) := by
  cases line with
  | blank => contradiction
  | comment text => contradiction
  | header name =>
      simp only [statement?, Option.some.injEq] at hsome
      subst hsome
      have htext : (header name).write ++ '\n' :: rest =
          '[' :: (name.toList ++ ']' :: '\n' :: rest) := by
        simp [write]
      have hbytes : offset + byteCount (header name).write =
          offset + 1 + byteCount name.toList + 1 := by
        simp [write, Char.utf8Size, Nat.add_assoc]
      obtain ⟨first, more, hname, hfirst⟩ := exists_toList_eq_cons hline
      have hbracket := ne_of_isBareKeyChar hfirst '[' rfl
      rw [htext, hbytes]
      exact read_header (by simpa [hname] using hbracket) (readHeaderPath_bare hline _ _)
  | subheader outer name =>
      simp only [statement?, Option.some.injEq] at hsome
      subst hsome
      have htext : (subheader outer name).write ++ '\n' :: rest =
          '[' :: (outer.toList ++ '.' :: (printText name.toList ++ ']' :: '\n' :: rest)) := by
        simp [write]
      have hbytes : offset + byteCount (subheader outer name).write =
          offset + 1 + byteCount outer.toList + 1 + byteCount (printText name.toList) + 1 := by
        simp [write, Char.utf8Size, Nat.add_assoc]
      obtain ⟨houter, hname⟩ := Bool.and_eq_true_iff.mp hline
      obtain ⟨first, more, hcons, hfirst⟩ := exists_toList_eq_cons houter
      have hbracket := ne_of_isBareKeyChar hfirst '[' rfl
      rw [htext, hbytes]
      exact read_header (by simpa [hcons] using hbracket)
        (readHeaderPath_dotted houter hname _ _)
  | pair name value =>
      simp only [statement?, Option.some.injEq] at hsome
      subst hsome
      have htext : (pair name value).write ++ '\n' :: rest =
          name.toList ++ ' ' :: '=' :: ' ' :: (value.write ++ '\n' :: rest) := by
        simp [write]
      have hbytes : offset + byteCount (pair name value).write =
          offset + byteCount name.toList + 3 + byteCount value.write := by
        simp [write, Char.utf8Size]
        omega
      obtain ⟨hname, hvalue⟩ := Bool.and_eq_true_iff.mp hline
      rw [htext, hbytes]
      exact read_pair hname hvalue rest offset

theorem skipFiller_write_of_statement (hline : line.isWellFormed = true) {statement : Statement}
    (hsome : line.statement? offset = some statement) (rest : List Char) :
    Cursor.skipFiller ⟨line.write ++ rest, offset⟩ = some ⟨line.write ++ rest, offset⟩ := by
  cases line with
  | blank => contradiction
  | comment text => contradiction
  | header name => exact Cursor.skipFiller_of_not_isFiller rfl _ _
  | subheader outer name => exact Cursor.skipFiller_of_not_isFiller rfl _ _
  | pair name value =>
      rw [write, List.append_assoc]
      exact skipFiller_bare (Bool.and_eq_true_iff.mp hline).1 _ _

/-- Lines that are well formed are read as their statements. -/
theorem readAllWithin_layout {bound : Nat} (hlines : ∀ line ∈ lines, line.isWellFormed = true)
    (hbound : lines.length < bound) (offset : Nat) :
    Statement.readAllWithin bound ⟨layout lines, offset⟩ = some (statementsFrom offset lines) := by
  induction lines generalizing bound offset with
  | nil =>
      cases bound with
      | zero => contradiction
      | succ bound => rfl
  | cons line lines ih =>
      obtain ⟨hline, hmore⟩ := List.forall_mem_cons.mp hlines
      have htext : layout (line :: lines) = line.write ++ '\n' :: layout lines := by
        simp [layout]
      cases bound with
      | zero => contradiction
      | succ bound =>
          have hbound := Nat.lt_of_succ_lt_succ hbound
          cases hstatement : line.statement? offset with
          | none =>
              have hfiller := statement?_eq_none_iff.mp hstatement
              have hskip := skipFiller_write hline hfiller (layout lines) offset
              have hrest := ih hmore (Nat.lt_succ_of_lt hbound) (offset + byteCount line.write + 1)
              rw [Statement.readAllWithin] at hrest ⊢
              rw [htext, hskip, hrest, statementsFrom, hstatement]
              rfl
          | some statement =>
              have hskip := skipFiller_write_of_statement hline hstatement ('\n' :: layout lines)
              have hread := read_write hline hstatement (layout lines)
              have hend := Cursor.skipLineEnd_newline (layout lines) (offset + byteCount line.write)
              have hrest := ih hmore hbound (offset + byteCount line.write + 1)
              simp [Statement.readAllWithin, htext, hskip, hread, hend, hrest, statementsFrom,
                hstatement]

theorem length_le_length_layout (lines : List Line) : lines.length ≤ (layout lines).length := by
  induction lines with
  | nil => exact Nat.zero_le _
  | cons line lines ih =>
      simp only [layout, List.flatMap_cons, List.length_append, List.length_cons] at ih ⊢
      omega

/-- A document that is laid out in well-formed lines is read as their statements. -/
theorem readAll_layout (hlines : ∀ line ∈ lines, line.isWellFormed = true)
    (hmark : (layout lines).head? ≠ some '\uFEFF') :
    Statement.readAll (layout lines) = some (statementsFrom 0 lines) := by
  have hstart : Cursor.ofSource (layout lines) = ⟨layout lines, 0⟩ := by
    unfold Cursor.ofSource
    split
    next heq => simp [heq] at hmark
    next => rfl
  rw [Statement.readAll, hstart]
  exact readAllWithin_layout hlines (Nat.lt_succ_of_le (length_le_length_layout lines)) 0

end Line

end AssetMenu.Document

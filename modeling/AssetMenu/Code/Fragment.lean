/-!
# Fragments of indented text

A fragment is a list of steps: lines, blank lines, and changes of the level at
which lines are indented.  Run at a level, it yields lines and the level it ends
at.  Fragments are put together by appending them, so what a fragment yields
depends on what stands before it through the level alone.
-/

namespace AssetMenu.Code

/-- What a line is indented by, once for each level. -/
inductive Indent where
  | spaces (width : Nat)
  | tab
  deriving DecidableEq, Repr

/-- The text of one level. -/
def Indent.unit : Indent → String
  | .spaces width => String.ofList (List.replicate width ' ')
  | .tab => "\t"

/-- One step of a fragment. -/
inductive Step where
  | line (text : String)
  | blank
  | indent
  /-- One level less, but not below the left margin. -/
  | dedent
  deriving DecidableEq, Repr

/-- A piece of indented text. -/
abbrev Fragment := List Step

/-- Lines at the level at hand. -/
def lines (texts : List String) : Fragment :=
  texts.map .line

/-- A line that begins with a mark and a space. -/
def comment (mark text : String) : Fragment :=
  [.line (mark ++ " " ++ text)]

/-- A fragment one level deeper between two lines. -/
def block (opening closing : String) (inner : Fragment) : Fragment :=
  [.line opening, .indent] ++ inner ++ [.dedent, .line closing]

/-- A fragment for each item, one behind the other. -/
def each {α : Type} (items : List α) (fragment : α → Fragment) : Fragment :=
  items.flatMap fragment

/-- A line with the level it is indented by, or a blank one, which has none. -/
inductive Line where
  | text (level : Nat) (content : String)
  | blank
  deriving DecidableEq, Repr

/-- A line as it is written, with its line end. -/
def Line.render (indent : Indent) : Line → String
  | .text level content => String.join (List.replicate level indent.unit) ++ content ++ "\n"
  | .blank => "\n"

/-- The lines of a fragment that begins at a level, and the level it ends at. -/
def run : Nat → Fragment → List Line × Nat
  | level, [] => ([], level)
  | level, .line text :: rest =>
      let (lines, final) := run level rest
      (.text level text :: lines, final)
  | level, .blank :: rest =>
      let (lines, final) := run level rest
      (.blank :: lines, final)
  | level, .indent :: rest => run (level + 1) rest
  | level, .dedent :: rest => run (level - 1) rest

/-- Lines as they are written. -/
def renderLines (indent : Indent) (lines : List Line) : String :=
  String.join (lines.map (Line.render indent))

/-- The text of a fragment that begins at the left margin. -/
def render (indent : Indent) (fragment : Fragment) : String :=
  renderLines indent (run 0 fragment).1

/-- A text in the making: the lines so far, and the level of the next one. -/
structure Draft where
  lines : List Line
  level : Nat
  deriving DecidableEq, Repr

namespace Draft

/-- Nothing is written yet. -/
def empty : Draft :=
  ⟨[], 0⟩

/-- Go on with a fragment. -/
def write (draft : Draft) (fragment : Fragment) : Draft :=
  let (lines, level) := run draft.level fragment
  ⟨draft.lines ++ lines, level⟩

/-- The text so far. -/
def text (indent : Indent) (draft : Draft) : String :=
  renderLines indent draft.lines

end Draft

end AssetMenu.Code

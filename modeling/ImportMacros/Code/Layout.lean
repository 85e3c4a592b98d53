/-!
# ImportMacros.Code.Layout

How program text is laid out. A layout is a list of pieces: text, ends of lines, and changes of
the indentation. Only `render` knows about blanks: it ends no line twice, and indents a line when
something is written on it.
-/

namespace ImportMacros
namespace Code

inductive Piece where
  | text (s : String)
  /-- Ends the line, if something is on it. -/
  | line
  | indent
  | dedent
deriving DecidableEq, Repr, Inhabited

abbrev Layout := List Piece

namespace Layout

def text (s : String) : Layout := [.text s]

def line : Layout := [.line]

def join (separator : Layout) : List Layout → Layout
  | [] => []
  | [a] => a
  | a :: rest => a ++ separator ++ join separator rest

def commas (items : List Layout) : Layout := join (text ", ") items

/-- Layouts between brackets, each on a line of its own with `separator` after all but the last. -/
def stacked (opening separator closing : String) (items : List Layout) : Layout :=
  if items.isEmpty then text (opening ++ closing)
  else
    text opening ++ [.indent, .line] ++ join (text separator ++ line) items ++ [.dedent, .line] ++
      text closing

/-- The state of a writer: the depth of the indentation, whether the line is empty, and what has
been written. -/
structure Writer where
  depth : Nat
  isEmptyLine : Bool
  written : String
deriving Repr, Inhabited

/-- The blanks of one step of indentation. -/
def step : String := "    "

def Writer.write (w : Writer) : Piece → Writer
  | .text s =>
    if s.isEmpty then w
    else if w.isEmptyLine then
      { w with isEmptyLine := false, written := w.depth.repeat (· ++ step) w.written ++ s }
    else { w with written := w.written ++ s }
  | .line =>
    if w.isEmptyLine then w else { w with isEmptyLine := true, written := w.written ++ "\n" }
  | .indent => { w with depth := w.depth + 1 }
  | .dedent => { w with depth := w.depth - 1 }

def render (layout : Layout) : String := (layout.foldl Writer.write ⟨0, true, ""⟩).written

end Layout
end Code
end ImportMacros

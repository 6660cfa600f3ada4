/-!
# Filling lines with words

`fill` distributes words over lines in their order: a word goes on the current line if it fits
there behind a blank, and otherwise starts the next line. The first line may begin further to the
right or to the left than the others. `flatten_fill` says that no word is lost.
-/

namespace ModuleGraph.Text

/-- Distributes words over lines up to a width, of which the current one already holds some words
up to a column. Later lines begin at `margin`. -/
def fillLine (width margin column : Nat) (line : List String) :
    List String → List (List String)
  | [] => [line]
  | word :: rest =>
    if column + 1 + word.length ≤ width then
      fillLine width margin (column + 1 + word.length) (line ++ [word]) rest
    else line :: fillLine width margin (margin + word.length) [word] rest

/-- Distributes words over lines up to a width. The first line begins at a column, and later lines
at `margin`. -/
def fill (width margin column : Nat) : List String → List (List String)
  | [] => []
  | word :: rest => fillLine width margin (column + word.length) [word] rest

/-- The lines after a line hold its words and the words to come. -/
theorem flatten_fillLine (width margin column : Nat) (line words : List String) :
    (fillLine width margin column line words).flatten = line ++ words := by
  fun_induction fillLine width margin column line words <;> simp_all

/-- The lines hold the words in their order. -/
@[simp] theorem flatten_fill (width margin column : Nat) (words : List String) :
    (fill width margin column words).flatten = words := by
  cases words <;> simp [fill, flatten_fillLine]

/-- Lines as one text, where those after the first are indented to a margin. -/
def hanging (margin : Nat) (lines : List (List String)) : String :=
  ("\n" ++ "".pushn ' ' margin).intercalate (lines.map (" ".intercalate ·))

end ModuleGraph.Text

/-
Wrapping: a line that takes more columns than there are is broken between its words, and a word that no line has room for
is broken inside. Blanks belong to the word before them; those that do not fit at the end of a line are left out.
-/
import SourceMark.Text.Blank
import SourceMark.Text.Columns

namespace SourceMark.Text

/-- the words behind a character: the blanks in front of the first one, and each word with the blanks behind it -/
def addToWords (c : Char) : Text × List Text → Text × List Text
  | ([], word :: words) => if isBlank c then ([c], word :: words) else ([], (c :: word) :: words)
  | (blanks, words) => if isBlank c then (c :: blanks, words) else ([], (c :: blanks) :: words)

/-- the words of a line, each with the blanks behind it, the first one also with those in front of it -/
def words (line : Text) : List Text :=
  match line.foldr addToWords ([], []) with
  | (_, []) => []
  | (blanks, word :: words) => (blanks ++ word) :: words

/-- a text cut into stretches of at most `width` columns; `used` columns of the first stretch are taken -/
def chopFrom (width used : Nat) : Text → List Text
  | [] => [[]]
  | c :: rest =>
    let size := charColumns c
    if width < used + size then
      match chopFrom width size rest with
      | [] => [[], [c]]
      | stretch :: stretches => [] :: (c :: stretch) :: stretches
    else
      match chopFrom width (used + size) rest with
      | [] => [[c]]
      | stretch :: stretches => (c :: stretch) :: stretches

/-- lines of at most `width` columns filled with words; `line` is begun and takes `used` columns -/
def fill (width : Nat) : (line : Text) → (used : Nat) → List Text → List Text
  | line, _, [] => [line]
  | line, used, word :: words =>
    let size := columns (dropEnd isBlank word)
    if used + size ≤ width then fill width (line ++ word) (used + columns word) words
    else if width < size then
      let stretches := chopFrom width 0 word
      let last := stretches.getLastD []
      let begun := if line.isEmpty then [] else [line]
      begun ++ stretches.dropLast.filter (fun stretch => !(line.isEmpty && stretch.isEmpty)) ++
        fill width last (columns last) words
    else line :: fill width word (columns word) words

/-- a line without blanks at its end as far as it has more characters than `width` -/
def cutBlanks (width : Nat) (line : Text) : Text :=
  let blanks := line.reverse.takeWhile isBlank
  line.take (line.length - min blanks.length (line.length - width))

/-- the characters that `width` columns have room for; half of a wide character is a blank -/
def takeColumns (width : Nat) : Text → Text
  | [] => []
  | c :: rest =>
    let size := charColumns c
    if size ≤ width then c :: takeColumns (width - size) rest else List.replicate width ' '

/-- a line broken into lines of at most `width` columns -/
def wrap (width : Nat) (line : Text) : List Text :=
  (fill width [] 0 (if (words line).isEmpty then [line] else words line)).map fun line =>
    takeColumns width (cutBlanks width line)

end SourceMark.Text

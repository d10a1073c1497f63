/-!
# Text — layout

Paragraphs broken into lines, and columns of words. A paragraph is broken
at blanks and behind hyphens within words; each line takes as much as fits.
-/

namespace Multiscan.Text

/-- A part of a paragraph that is never broken. A blank follows it unless a
line ends there or `glued` says that the next part is of the same word. -/
structure Fragment where
  text : List Char
  glued : Bool

/-- The parts of a word, which may be broken behind a hyphen between letters
or digits. `part` is the part so far, the last character first. -/
def hyphenParts (part : List Char) : List Char → List Fragment
  | [] => [⟨part.reverse, false⟩]
  | c :: cs =>
    match c, part, cs with
    | '-', before :: _, after :: _ =>
      if before.isAlphanum && after.isAlphanum then
        ⟨(c :: part).reverse, true⟩ :: hyphenParts [] cs
      else hyphenParts (c :: part) cs
    | _, _, _ => hyphenParts (c :: part) cs

/-- The parts of a paragraph. -/
def fragments (paragraph : String) : List Fragment :=
  (paragraph.splitOn " ").flatMap fun word => hyphenParts [] word.toList

/-- What follows a part on the same line. -/
def Fragment.gap (f : Fragment) : List Char := if f.glued then [] else [' ']

/-- Lines of at most `width` characters. `line` is the line so far and `gap`
what goes between it and the next part; a part that does not fit on a line
of its own makes a line all the same. -/
def fillLines (width : Nat) (line gap : List Char) : List Fragment → List (List Char)
  | [] => [line]
  | f :: rest =>
    let longer := line ++ gap ++ f.text
    if line.isEmpty || longer.length ≤ width then fillLines width longer f.gap rest
    else line :: fillLines width f.text f.gap rest

/-- A paragraph broken into lines of at most `width` characters. -/
def wrap (width : Nat) (paragraph : String) : List String :=
  (fillLines width [] [] (fragments paragraph)).map String.ofList

/-- Blanks. -/
def blanks (n : Nat) : String := String.ofList (List.replicate n ' ')

/-- A word with blanks after it. -/
def padRight (width : Nat) (s : String) : String := s ++ blanks (width - s.length)

/-- A word with blanks before it. -/
def padLeft (width : Nat) (s : String) : String := blanks (width - s.length) ++ s

/-- The length of the longest of several words. -/
def maxLength (words : List String) : Nat := words.foldl (fun n w => max n w.length) 0

end Multiscan.Text

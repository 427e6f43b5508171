import Transclude.Text.Blank

/-! # Lines

A document and a body are cut at `\n` only.  `cut` keeps every piece, so a text
that ends in `\n` has an empty last piece; `lines` first forgets one final
`\n`, which is the view of a text file as a sequence of lines.

A message is cut at any line boundary of the Unicode standard: `firstLine`
keeps what stands before the first of them. -/

namespace Transclude.Text

/-- The pieces between occurrences of `sep`: one more than there are. -/
def cut (sep : Char) : List Char → List (List Char)
  | [] => [[]]
  | c :: cs =>
    if c = sep then [] :: cut sep cs
    else match cut sep cs with
      | [] => [[c]]
      | piece :: pieces => (c :: piece) :: pieces

/-- There is always a part, even of nothing. -/
theorem cut_ne_nil (sep : Char) (cs : List Char) : cut sep cs ≠ [] := by
  cases cs with
  | nil => simp [cut]
  | cons c cs =>
    simp only [cut]
    split
    · simp
    · split <;> simp

/-- Drop one final `\n`, if there is one. -/
def dropFinalNewline (cs : List Char) : List Char :=
  if cs.getLast? = some '\n' then cs.dropLast else cs

/-- Add a final `\n` unless there is one. -/
def terminated (cs : List Char) : List Char :=
  if cs.getLast? = some '\n' then cs else cs ++ ['\n']

/-- The pieces of a string between occurrences of `sep`. -/
def split (sep : Char) (s : String) : List String := (cut sep s.toList).map String.ofList

/-- The lines of a text: cut at `\n`, after one final `\n` is dropped. -/
def lines (s : String) : List String := (cut '\n' (dropFinalNewline s.toList)).map String.ofList

/-- Lines written out, each with its `\n`. -/
def unlines (ls : List String) : String := String.join (ls.map (· ++ "\n"))

/-- The characters that end a line of a message. -/
def isLineBreak (c : Char) : Bool :=
  let n := c.toNat
  (10 ≤ n && n ≤ 13) || (0x1C ≤ n && n ≤ 0x1E) || n == 0x85 || n == 0x2028 || n == 0x2029

/-- The first line of a message, without blanks around it; `none` for a message of blanks. -/
def firstLine (message : String) : Option String :=
  let line := trim ((trim message.toList).takeWhile (fun c => !isLineBreak c))
  if line.isEmpty then none else some (String.ofList line)

end Transclude.Text

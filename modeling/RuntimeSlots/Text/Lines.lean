/-!
# Lines and columns of text

Lines end with a line feed each.  A column fills text up with spaces to a width that is counted in
characters; text that is wider already stays as it is.
-/

namespace RuntimeSlots.Text

/-- The lines one after another, each with a line feed behind it. -/
def ofLines (lines : List String) : String :=
  String.join (lines.map fun line => line ++ "\n")

/-- The lines of a text.  A carriage return in front of a line feed belongs to the end of the line,
and the last line needs no end. -/
def lines (text : String) : List String :=
  let parts := text.splitOn "\n"
  let ended := parts.dropLast.map fun line =>
    if line.endsWith "\x0D" then (line.dropEnd 1).toString else line
  match parts.getLast? with
  | none | some "" => ended
  | some last => ended ++ [last]

/-- As many spaces as `text` lacks to `width` characters. -/
def filling (width : Nat) (text : String) : String :=
  String.ofList (List.replicate (width - text.length) ' ')

/-- The text at the left of a column. -/
def atLeft (width : Nat) (text : String) : String := text ++ filling width text

/-- The text at the right of a column. -/
def atRight (width : Nat) (text : String) : String := filling width text ++ text

end RuntimeSlots.Text

import WalletTasks.Text.Blank

/-!
# Lines of a variables file

A file of variables is read line by line, but a line goes on while a quotation mark is open or a
blank may still turn out to stand before a comment. A line that begins with a number sign is a
comment, and so is what follows a blank and a number sign.

* `flatten_physicalLines`: cutting a text at its newlines loses nothing.
* `ne_nil_of_mem_physicalLines`: no piece of the cut is empty.
* `ofText_nil`: nothing holds no line.
-/

namespace WalletTasks.DotEnv

/-- Where a scan over a line stands: outside of quotation marks, behind a blank, behind a
backslash, or inside of quotation marks of either kind. -/
inductive Position
  | outside
  | blank
  | escape
  | weak
  | weakEscape
  | strong
  | strongEscape
deriving DecidableEq, Repr

namespace Position

/-- The position behind a character outside of quotation marks that is no blank. -/
def behind (c : Char) : Position :=
  if c = '\\' then .escape else if c = '"' then .weak else if c = '\'' then .strong else .outside

/-- The position behind a character. -/
def next : Position → Char → Position
  | .outside, c => if Text.isBlank c ∧ c ≠ '\n' ∧ c ≠ '\r' then .blank else behind c
  | .blank, c => behind c
  | .escape, _ => .outside
  | .weak, c => if c = '\\' then .weakEscape else if c = '"' then .outside else .weak
  | .weakEscape, _ => .weak
  | .strong, c => if c = '\\' then .strongEscape else if c = '\'' then .outside else .strong
  | .strongEscape, _ => .strong

end Position

/-- How a scan over some characters ends: in a position, or at a comment, with what stands in front
of it. -/
inductive Scan
  | position (p : Position)
  | comment (before : List Char)
deriving DecidableEq, Repr

/-- Scans characters from a position. -/
def scan : Position → List Char → Scan
  | p, [] => .position p
  | p, c :: s =>
    if p = .blank ∧ c = '#' then .comment []
    else
      match scan (p.next c) s with
      | .position q => .position q
      | .comment before => .comment (c :: before)

/-- The lines of a text, each with the newline that ends it. -/
def physicalLines : List Char → List (List Char)
  | [] => []
  | c :: s =>
    if c = '\n' then ['\n'] :: physicalLines s
    else
      match physicalLines s with
      | [] => [[c]]
      | l :: ls => (c :: l) :: ls

/-- **Cutting a text at its newlines loses nothing.** -/
theorem flatten_physicalLines (s : List Char) : (physicalLines s).flatten = s := by
  induction s with
  | nil => rfl
  | cons c s ih =>
    unfold physicalLines
    split
    · next h => simp [h, ih]
    · -- The character joins the first line of the rest, or is a line if there is no rest.
      split
      · next h => rw [h] at ih; simpa using ih
      · next l ls h => rw [h] at ih; simpa using ih

/-- No piece of the cut is empty. -/
theorem ne_nil_of_mem_physicalLines {s l : List Char} (h : l ∈ physicalLines s) : l ≠ [] := by
  induction s generalizing l with
  | nil => cases h
  | cons c s ih =>
    unfold physicalLines at h
    split at h
    · rcases List.mem_cons.1 h with rfl | h
      · exact List.cons_ne_nil _ _
      · exact ih h
    · split at h
      · rw [List.mem_singleton.1 h]
        exact List.cons_ne_nil _ _
      · next l' ls heq =>
        rcases List.mem_cons.1 h with rfl | h
        · exact List.cons_ne_nil _ _
        · exact ih (heq ▸ List.mem_cons_of_mem _ h)

/-- A line without the newline at its end, and without the carriage return before it. -/
def withoutNewline (s : List Char) : List Char :=
  match s.reverse with
  | '\n' :: '\r' :: t => t.reverse
  | '\n' :: t => t.reverse
  | _ => s

/-- Whether the first character that is not blank is a number sign. -/
def isComment (s : List Char) : Bool := (Text.trimLeft s).head? = some '#'

/-- A line of the file, or the rest of a file that ends inside of a line. -/
inductive Line
  | complete (s : List Char)
  | unfinished
deriving DecidableEq, Repr

namespace Line

/-- Joins physical lines to lines: `read` has been read already and left the scan in a position. -/
def join : Position → List Char → List (List Char) → List Line
  | .outside, _, [] => []
  | _, _, [] => [.unfinished]
  | p, read, l :: ls =>
    if isComment (read ++ l) then .complete [] :: join .outside [] ls
    else
      match scan p l with
      | .position .outside => .complete (withoutNewline (read ++ l)) :: join .outside [] ls
      | .position q => join q (read ++ l) ls
      | .comment before => .complete (read ++ before) :: join .outside [] ls

/-- The lines of a text. -/
def ofText (s : List Char) : List Line := join .outside [] (physicalLines s)

theorem ofText_nil : ofText [] = [] := rfl

end Line

end WalletTasks.DotEnv

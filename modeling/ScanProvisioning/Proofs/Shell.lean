import Mathlib.Data.List.Forall2

namespace ScanProvisioning.Shell

inductive Token
  | word (text : String)
  | operator (c : Char)
  deriving DecidableEq

def newline : Token := .operator '\n'

def words (texts : List String) : List Token := texts.map .word

/-- Where the reader stands. Of a word that has begun it keeps the characters read so far. -/
inductive Mode
  | between
  | afterOperator
  | word (read : List Char)
  | quoted (read : List Char)
  | escaped (read : Option (List Char))
  | comment
  deriving DecidableEq

/-- The characters that mean something outside quotes of which the reader knows nothing. -/
def refused : List Char := "\x00\"$\x60&()<*?[]\x7b\x7d~".toList

def ended : Option (List Char) → List Token
  | none => []
  | some read => [.word (String.ofList read)]

/-- One character outside quotes, with the word that it may end or go on with. -/
def plain (read : Option (List Char)) (c : Char) : Option (List Token × Mode) :=
  if c = '\'' then some ([], .quoted (read.getD []))
  else if c = '\\' then some ([], .escaped read)
  else if c = ' ' ∨ c = '\t' then some (ended read, .between)
  else if c = '\n' then some (ended read ++ [newline], .between)
  else if c = ';' ∨ c = '|' then some (ended read ++ [.operator c], .afterOperator)
  -- A number in front of it would be the number of a file.
  else if c = '>' then if read = none then some ([.operator c], .afterOperator) else none
  else if c = '#' ∧ read = none then some ([], .comment)
  else if c ∈ refused then none
  else some ([], .word (read.getD [] ++ [c]))

/-- One character: the tokens that are complete with it, and where the reader stands behind it. -/
def step : Mode → Char → Option (List Token × Mode)
  | .between, c => plain none c
  -- Operators of two characters are refused.
  | .afterOperator, c => if c = ';' ∨ c = '|' ∨ c = '>' ∨ c = '\\' then none else plain none c
  | .word read, c => plain (some read) c
  | .quoted read, c =>
    if c = '\x00' then none
    else if c = '\'' then some ([], .word read)
    else some ([], .quoted (read ++ [c]))
  | .escaped read, c =>
    if c = '\x00' then none
    -- The two characters together are a line that goes on.
    else if c = '\n' then some ([], (read.map Mode.word).getD .between)
    else some ([], .word (read.getD [] ++ [c]))
  | .comment, c =>
    if c = '\x00' then none
    else if c = '\n' then some ([newline], .between)
    else some ([], .comment)

def scan : Mode → List Char → Option (List Token × Mode)
  | mode, [] => some ([], mode)
  | mode, c :: cs => do
    let (first, behind) ← step mode c
    let (rest, last) ← scan behind cs
    return (first ++ rest, last)

/-- The tokens that are complete with the end of the script, which cannot end inside quotes. -/
def Mode.ending : Mode → Option (List Token)
  | word read => some [.word (String.ofList read)]
  | quoted _ | escaped _ => none
  | between | afterOperator | comment => some []

def tokens (script : String) : Option (List Token) := do
  let (read, mode) ← scan .between script.toList
  return read ++ (← mode.ending)

/-- What stands on each line of a script, as the shell sees its lines: a line end in quotes ends no line. -/
def lines (script : String) : Option (List (List Token)) := (tokens script).map (·.splitOn newline)

/-- Read from a mode on, a text gives these tokens and leaves the reader in that mode. -/
def Reads (mode : Mode) (text : String) (read : List Token) (behind : Mode) : Prop :=
  scan mode text.toList = some (read, behind)

instance (mode : Mode) (text : String) (read : List Token) (behind : Mode) :
    Decidable (Reads mode text read behind) :=
  inferInstanceAs (Decidable (scan mode text.toList = some (read, behind)))

theorem scan_append {mode middle last : Mode} {cs ds : List Char} {first rest : List Token}
    (before : scan mode cs = some (first, middle)) (after : scan middle ds = some (rest, last)) :
    scan mode (cs ++ ds) = some (first ++ rest, last) := by
  induction cs generalizing mode first with
  | nil =>
    cases before
    exact after
  | cons c cs ih =>
    simp only [scan, Option.bind_eq_bind, Option.bind_eq_some_iff] at before
    obtain ⟨⟨now, behind⟩, stepped, ⟨later, found⟩, scanned, same⟩ := before
    cases same
    rw [List.cons_append, scan, stepped, List.append_assoc]
    simp only [Option.bind_eq_bind, Option.bind_some, ih scanned, Option.pure_def]

variable {mode middle last : Mode} {a b text value : String} {first rest : List Token}
  {texts values : List String} {reads : List (List Token)}

theorem Reads.append (before : Reads mode a first middle) (after : Reads middle b rest last) :
    Reads mode (a ++ b) (first ++ rest) last := by
  rw [Reads, String.toList_append]
  exact scan_append before after

/-- A text in quotes is taken as it stands. -/
theorem scan_quoted {cs : List Char} (unquoted : '\'' ∉ cs) (nul : '\x00' ∉ cs) (read : List Char) :
    scan (.quoted read) cs = some ([], .quoted (read ++ cs)) := by
  induction cs generalizing read with
  | nil => rw [scan, List.append_nil]
  | cons c cs ih =>
    rw [List.mem_cons, not_or] at unquoted nul
    have taken : step (.quoted read) c = some ([], .quoted (read ++ [c])) := by
      rw [step, if_neg (Ne.symm nul.1), if_neg (Ne.symm unquoted.1)]
    rw [scan, taken]
    simp only [Option.bind_eq_bind, Option.bind_some, ih unquoted.2 nul.2, Option.pure_def, List.append_assoc,
      List.cons_append, List.nil_append]

/-- A text that is one word with this value, as far as the reader can tell before the word ends. -/
def Spells (text value : String) : Prop := Reads .between text [] (.word value.toList)

instance (text value : String) : Decidable (Spells text value) :=
  inferInstanceAs (Decidable (Reads .between text [] (.word value.toList)))

theorem Spells.tokens (spelled : Spells text value) : tokens text = some (words [value]) := by
  rw [Shell.tokens, spelled]
  exact congrArg (fun text => some [Token.word text]) String.ofList_toList

example : tokens "'a b'\\ c" = some (words ["a b c"]) := rfl

/-- What follows a word ends it, and so completes its token. -/
theorem Spells.followed (spelled : Spells text value) {tail : String} {read : List Token}
    (after : Reads (.word value.toList) tail (.word (String.ofList value.toList) :: read) last) :
    Reads .between (text ++ tail) (.word value :: read) last := by
  rw [String.ofList_toList] at after
  exact spelled.append after

/-- Words with blanks between them, to the end of the line. -/
theorem reads_words (spelled : List.Forall₂ Spells texts values) (nonempty : texts ≠ []) :
    Reads .between (" ".intercalate texts ++ "\n") (words values ++ [newline]) .between := by
  induction spelled with
  | nil => exact absurd rfl nonempty
  | @cons text value texts values here later ih =>
    cases later with
    | nil => exact here.followed rfl
    | cons next others =>
      rw [String.intercalate_cons_cons, String.append_assoc]
      have blank : Reads .between (text ++ " ") [.word value] .between := here.followed rfl
      exact blank.append (ih (by simp))

/-- A text that reads as these tokens when it stands on a line of its own. -/
structure Line (text : String) (read : List Token) : Prop where
  reads : Reads .between (text ++ "\n") (read ++ [newline]) .between
  single : newline ∉ read

theorem Line.of_words (reads : Reads .between (text ++ "\n") (words values ++ [newline]) .between) :
    Line text (words values) where
  reads := reads
  single mem := by
    obtain ⟨value, -, same⟩ := List.mem_map.mp mem
    cases same

private theorem reads_lines (each : List.Forall₂ Line texts reads) (nonempty : texts ≠ []) :
    Reads .between ("\n".intercalate texts ++ "\n") ([newline].intercalate reads ++ [newline]) .between := by
  induction each with
  | nil => exact absurd rfl nonempty
  | cons here later ih =>
    cases later with
    | nil =>
      rw [String.intercalate_singleton, List.intercalate_singleton]
      exact here.reads
    | cons next others =>
      rw [String.intercalate_cons_cons, List.intercalate_cons_cons, String.append_assoc, List.append_assoc]
      exact here.reads.append (ih (by simp))

private theorem newline_notMem (each : List.Forall₂ Line texts reads) : ∀ read ∈ reads, newline ∉ read := by
  induction each with
  | nil => exact fun read mem => absurd mem List.not_mem_nil
  | cons here later ih => exact List.forall_mem_cons.mpr ⟨here.single, ih⟩

/-- A script of lines reads as these lines, with nothing behind the last line end. -/
theorem lines_intercalate (each : List.Forall₂ Line texts reads) (nonempty : texts ≠ []) :
    lines ("\n".intercalate texts ++ "\n") = some (reads ++ [[]]) := by
  have nonempty_reads : reads ≠ [] := by
    rintro rfl
    exact nonempty (List.forall₂_nil_right_iff.mp each)
  have read : tokens ("\n".intercalate texts ++ "\n") = some ([newline].intercalate reads ++ [newline]) := by
    rw [tokens, reads_lines each nonempty]
    exact congrArg some (List.append_nil _)
  rw [lines, read, Option.map_some, List.splitOn_append_cons_self,
    List.splitOn_intercalate newline (newline_notMem each) nonempty_reads, List.splitOn_nil]

end ScanProvisioning.Shell

import SymbolScript.Glossary.Tables

/-!
The last steps of compilation: symbols that are left become their JavaScript spellings, brackets
become JavaScript brackets, and blanks are tidied.
-/

namespace SymbolScript.Construct

/-- Replaces the source symbols that no construct has used up. -/
def substituteSymbols (source : Text) : Text :=
  Glossary.sourceSymbols.expand source

def plainBracket (c : Char) : Char :=
  if c = '⟨' then '{' else if c = '⟩' then '}'
  else if c = '⟦' then '(' else if c = '⟧' then ')' else c

def trimLineEnds : Text → Text
  | [] => []
  | c :: rest =>
    let trimmed := trimLineEnds rest
    if (c == ' ' || c == '\t') && (trimmed.isEmpty || trimmed.head? == some '\n') then trimmed
    else c :: trimmed

def afterLastBreak (text : Text) : Text :=
  (text.reverse.takeWhile (· != '\n')).reverse

/-- Shortens a run of blanks that starts with a line break: three line breaks or more, with all
that stands between the first and the last of them, become two. -/
def shortenBreaks (run : Text) : Text :=
  if 3 ≤ run.count '\n' then '\n' :: '\n' :: afterLastBreak run else run

def collapseBreaks (text : Text) : Text :=
  match text with
  | [] => []
  | c :: rest =>
    if c = '\n' then
      shortenBreaks (c :: rest.takeWhile Text.isBlank) ++
        collapseBreaks (rest.dropWhile Text.isBlank)
    else c :: collapseBreaks rest
termination_by text.length
decreasing_by
  · have shorter := (List.dropWhile_sublist Text.isBlank (l := rest)).length_le
    simp only [List.length_cons]
    omega
  · simp

/-- Gives a text JavaScript brackets and tidy blanks. -/
def tidy (source : Text) : Text :=
  Text.trim (collapseBreaks (trimLineEnds (source.map plainBracket)))

example : tidy "⟨a \n\n \n\n b⟩ ".toList = "\x7ba\n\n b\x7d".toList := by decide +kernel

end SymbolScript.Construct

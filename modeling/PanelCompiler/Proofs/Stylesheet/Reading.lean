import PanelCompiler.Proofs.Style.Declaration
import PanelCompiler.Proofs.Text.Trim
import PanelCompiler.Stylesheet.Layout

namespace PanelCompiler

open Style (marks)
open Text (Avoids)

namespace Stylesheet

def lineText (depth : Nat) (text : String) : String :=
  String.ofList (List.replicate (2 * depth) ' ') ++ text ++ "\n"

/-- A brace behind a selector keeps the blank in front of it. -/
theorem trim_selector {c : Char} (visible : Text.isBlank c = false) (rest : List Char) :
    Text.trim (c :: rest ++ [' ', '\x7b']) = c :: rest ++ [' ', '\x7b'] := by
  have ended := @Text.trimEnd_concat '\x7b' (by decide) (rest ++ [' '])
  rw [List.append_assoc, List.singleton_append] at ended
  rw [List.cons_append, Text.trim_cons visible, ended]

namespace Progress

variable {progress : Progress}

theorem addLine_blank {text : List Char} (blank : Text.trim text = []) (depth : Nat) :
    progress.addLine depth text = progress := by
  simp [addLine, blank]

theorem addLine_shown {text : List Char} (shown : Text.trim text ≠ []) (depth : Nat) :
    progress.addLine depth text =
      { progress with lines := ⟨depth, Text.trim text⟩ :: progress.lines } := by
  unfold addLine
  split
  · rename_i blank
    exact absurd blank shown
  · rfl

theorem readAll_append (progress : Progress) (first rest : List Char) :
    progress.readAll (first ++ rest) = (do
      let next ← progress.readAll first
      next.readAll rest) := by
  induction first generalizing progress with
  | nil => rfl
  | cons c others ih =>
    rw [List.cons_append, readAll, readAll]
    cases progress.read c with
    | error fault => rfl
    | ok next => exact ih next

/-- Between strings and parentheses: what is written so far, how deep the line under way stands, and
what is read of it, but for blanks in front. -/
structure Stands (written : String) (depth : Nat) (line : List Char) (progress : Progress) :
    Prop where
  lines : progress.lines.reverse.flatMap Line.render = written.toList
  pending : ∃ blanks, (∀ c ∈ blanks, Text.isBlank c = true) ∧
    progress.pending.reverse = blanks ++ line
  depth : progress.depth = depth
  parentheses : progress.parentheses = 0
  quote : progress.quote = none

theorem start_stands : Stands "" 0 [] start where
  lines := rfl
  pending := ⟨[], nofun, rfl⟩
  depth := rfl
  parentheses := rfl
  quote := rfl

/-- Wherever the one holds, the text can be read, and the other holds behind it. -/
def Reads (before : Progress → Prop) (text : List Char) (after : Progress → Prop) : Prop :=
  ∀ progress, before progress → ∃ next, progress.readAll text = .ok next ∧ after next

namespace Reads

variable {before middle after : Progress → Prop}

theorem nil : Reads before [] before :=
  fun progress holds => ⟨progress, rfl, holds⟩

theorem append {first rest : List Char} (head : Reads before first middle)
    (tail : Reads middle rest after) : Reads before (first ++ rest) after := by
  intro progress holds
  obtain ⟨next, reads, holds⟩ := head progress holds
  obtain ⟨last, readsRest, holds⟩ := tail next holds
  refine ⟨last, ?_, holds⟩
  rw [readAll_append, reads]
  exact readsRest

end Reads

section Steps

variable {written : String} {depth : Nat} {line : List Char}

/-- Where no string is under way, only the number of bytes tells how far the text is read. -/
theorem reads_outer {c : Char} {shown : String} {after : Nat} {rest : List Char}
    (reads : ∀ progress, Stands written depth line progress →
      ∃ next, progress.readOuter c = .ok next ∧ Stands shown after rest next) :
    Reads (Stands written depth line) [c] (Stands shown after rest) := by
  intro progress stands
  obtain ⟨next, read, stood⟩ := reads progress stands
  refine ⟨{ next with offset := progress.offset + c.utf8Size }, ?_, { stood with }⟩
  simp [readAll, Progress.read, stands.quote, read, bind, Except.bind, pure, Except.pure]

private theorem reads_plain {c : Char} (plain : c ∉ marks) :
    Reads (Stands written depth line) [c] (Stands written depth (line ++ [c])) := by
  refine reads_outer fun progress stands => ⟨progress.push c, ?_, ?_⟩
  · simp only [marks, List.mem_cons, not_or] at plain
    simp [readOuter, plain]
  · obtain ⟨blanks, blank, pending⟩ := stands.pending
    exact { stands with pending := ⟨blanks, blank, by simp [push, pending]⟩ }

theorem reads_text {text : List Char} (plain : Avoids marks text) :
    Reads (Stands written depth line) text (Stands written depth (line ++ text)) := by
  induction text generalizing line with
  | nil =>
    rw [List.append_nil]
    exact .nil
  | cons c rest ih =>
    have others := @ih (line ++ [c]) (plain.subset (List.subset_cons_self c rest))
    rw [List.append_assoc] at others
    exact (reads_plain (plain c List.mem_cons_self)).append others

theorem reads_newline :
    Reads (Stands written depth []) ['\n'] (Stands written depth []) := by
  refine reads_outer fun progress stands => ⟨progress.push ' ', rfl, ?_⟩
  obtain ⟨blanks, blank, pending⟩ := stands.pending
  refine { stands with pending := ⟨blanks ++ [' '], fun c member => ?_, by simp [push, pending]⟩ }
  rcases List.mem_append.mp member with front | last
  · exact blank c front
  · rw [List.mem_singleton.mp last]
    rfl

/-- With one more line written, the next one begins, at whatever depth. -/
theorem Stands.write (stands : Stands written depth line progress) {text : List Char}
    {shown : String} (same : text = shown.toList) (place after : Nat) :
    Stands (written ++ lineText place shown) after [] { progress with
      lines := ⟨place, text⟩ :: progress.lines, pending := [], depth := after } where
  lines := by simp [stands.lines, lineText, Line.render, same]
  pending := ⟨[], nofun, rfl⟩
  depth := rfl
  parentheses := stands.parentheses
  quote := stands.quote

theorem reads_semicolon :
    Reads (Stands written depth line) [';']
      (Stands (written ++ lineText depth (Text.trimmed (String.ofList line ++ ";"))) depth []) := by
  refine reads_outer fun progress stands => ⟨progress.endLine [';'], ?_, ?_⟩
  · simp [readOuter, stands.parentheses]
  · obtain ⟨blanks, blank, pending⟩ := stands.pending
    have trimmed : Text.trim (progress.pending.reverse ++ [';']) = Text.trim (line ++ [';']) := by
      rw [pending, List.append_assoc, Text.trim_append blank]
    have shown : Text.trim (progress.pending.reverse ++ [';']) ≠ [] := by
      rw [trimmed, Text.trim_concat (by decide)]
      simp
    unfold endLine
    rw [addLine_shown shown, stands.depth]
    exact stands.write (by simp [trimmed, Text.trimmed]) depth depth

/-- A selector is trimmed and its brace set behind it. What follows stands one level deeper. -/
theorem reads_open {c : Char} {rest : List Char} (visible : Text.isBlank c = false) :
    Reads (Stands written depth (c :: rest)) ['\x7b']
      (Stands (written ++ lineText depth (Text.trimmed (String.ofList (c :: rest)) ++ " \x7b"))
        (depth + 1) []) := by
  refine reads_outer fun progress stands => ⟨progress.openBlock, by simp [readOuter], ?_⟩
  obtain ⟨blanks, blank, pending⟩ := stands.pending
  have selector : Text.trim progress.pending.reverse = c :: Text.trimEnd rest := by
    rw [pending, Text.trim_append blank, Text.trim_cons visible]
  have trimmed := trim_selector visible (Text.trimEnd rest)
  have shown : Text.trim (c :: Text.trimEnd rest ++ [' ', '\x7b']) ≠ [] := by
    rw [trimmed]
    exact List.cons_ne_nil _ _
  unfold openBlock
  dsimp only
  rw [selector, addLine_shown shown, trimmed, stands.depth]
  exact stands.write (by simp [Text.trimmed, Text.trim_cons visible]) depth (depth + 1)

theorem endLine_blank {progress : Progress} (stands : Stands written depth [] progress) :
    progress.endLine [] = { progress with pending := [] } := by
  obtain ⟨blanks, blank, pending⟩ := stands.pending
  rw [List.append_nil] at pending
  rw [endLine, List.append_nil, pending, addLine_blank (Text.trim_eq_nil blank)]

theorem reads_close :
    Reads (Stands written (depth + 1) []) ['\x7d']
      (Stands (written ++ lineText depth "\x7d") depth []) := by
  refine reads_outer fun progress stands => ?_
  have closed : progress.closeBlock = .ok { progress with
      lines := ⟨depth, ['\x7d']⟩ :: progress.lines, pending := [], depth := depth } := by
    unfold closeBlock
    rw [stands.depth, endLine_blank stands]
    rfl
  exact ⟨_, closed, stands.write rfl depth depth⟩

/-- At the end of the text, outside of all blocks, what is written is the layout. -/
theorem finish_stands {progress : Progress} (stands : Stands written 0 [] progress) :
    ∃ lines, progress.finish = .ok lines ∧ lines.flatMap Line.render = written.toList := by
  refine ⟨progress.lines.reverse, ?_, stands.lines⟩
  simp [finish, stands.quote, stands.depth, endLine_blank stands]

end Steps

end Progress

/-- Read between two lines, the text leads on to a place between two lines and has this written. -/
def Writes (text : String) (before after : Nat) (shown : String) : Prop :=
  ∀ written, Progress.Reads (Progress.Stands written before []) text.toList
    (Progress.Stands (written ++ shown) after [])

namespace Writes

variable {depth : Nat}

theorem nil : Writes "" depth depth "" := by
  intro written
  rw [String.append_empty]
  exact .nil

theorem append {first rest shown others : String} {before middle after : Nat}
    (head : Writes first before middle shown) (tail : Writes rest middle after others) :
    Writes (first ++ rest) before after (shown ++ others) := by
  intro written
  rw [String.toList_append, ← String.append_assoc]
  exact (head written).append (tail (written ++ shown))

theorem statement {text : String} (plain : Avoids marks text.toList) :
    Writes (text ++ ";\n") depth depth (lineText depth (Text.trimmed (text ++ ";"))) := by
  intro written
  have line := @Progress.reads_text written depth [] _ plain
  have ended := @Progress.reads_semicolon written depth text.toList
  rw [String.ofList_toList] at ended
  rw [String.toList_append]
  exact line.append (ended.append Progress.reads_newline)

theorem selector {className : String} (plain : Avoids marks className.toList) :
    Writes ("." ++ className ++ " \x7b") depth (depth + 1)
      (lineText depth (Text.trimmed ("." ++ className) ++ " \x7b")) := by
  intro written
  have text : ("." ++ className ++ " \x7b").toList =
      ('.' :: (className.toList ++ [' '])) ++ ['\x7b'] := by simp
  have plainLine : Avoids marks ('.' :: (className.toList ++ [' '])) :=
    .cons (by decide) (plain.append (by decide))
  have dot : Text.isBlank '.' = false := by decide
  have trimmed : Text.trimmed (String.ofList ('.' :: (className.toList ++ [' ']))) =
      Text.trimmed ("." ++ className) := by
    have space : Text.isBlank ' ' = true := by decide
    simp [Text.trimmed, Text.trim_cons dot, Text.trimEnd_concat_blank space]
  have line := @Progress.reads_text written depth [] _ plainLine
  have opened := @Progress.reads_open written depth '.' (className.toList ++ [' ']) dot
  rw [trimmed] at opened
  rw [text]
  exact line.append opened

theorem close : Writes "\x7d" (depth + 1) depth (lineText depth "\x7d") :=
  fun _ => Progress.reads_close

/-- A text that is read to its end has the layout that it writes. -/
theorem layout_eq {text shown : String} (writes : Writes text 0 0 shown) :
    layout text = .ok shown := by
  obtain ⟨last, reads, stands⟩ := writes "" Progress.start Progress.start_stands
  obtain ⟨lines, finished, rendered⟩ := Progress.finish_stands stands
  rw [String.empty_append] at rendered
  unfold layout Stylesheet.lines
  rw [reads]
  simp [bind, Except.bind, finished, rendered, pure, Except.pure]

end Writes

end Stylesheet

end PanelCompiler

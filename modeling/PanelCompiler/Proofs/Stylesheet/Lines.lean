import PanelCompiler.Panel.Formatter
import PanelCompiler.Proofs.Stylesheet.Pretty
import PanelCompiler.Proofs.Stylesheet.Rereading

namespace PanelCompiler

open Formatter (formatStylesheet)
open Stylesheet (Held Line lineText)
open Style (marks)
open Text (Avoids trim trimStart)

namespace Stylesheet

/-- Outside of strings and of parentheses. -/
def Enclosure.outer : Enclosure :=
  ⟨0, none⟩

/-- Read from outside of strings, from each quote to the next equal one, every character goes on the
line under way as it is, and behind the last one no string and no parenthesis is open. -/
def StaysOnLine (text : List Char) : Prop :=
  Held .outer text .outer

end Stylesheet

open Stylesheet (StaysOnLine)

namespace RuleBlock

/-- The line of a declaration, with the text of its value as it is. -/
def declarationLine (depth : Nat) (declaration : String × Json) : Line where
  depth := depth
  text := trimStart (Style.hyphenate declaration.1 ++ ": ").toList ++
    ((Style.declarationValue declaration.2).toList ++ [';'])

def selectorLine (depth : Nat) (className : String) : Line where
  depth := depth
  text := trim ("." ++ className).toList ++ [' ', '\x7b']

mutual

/-- The lines of a block, each declaration on one of its own. -/
def blockLines (registry : StyleRegistry) (depth : Nat) : RuleBlock → List Line
  | ⟨className, children⟩ =>
    [selectorLine depth className] ++
      ((registry.get? className).getD []).map (declarationLine (depth + 1)) ++
      forestLines registry (depth + 1) children ++ [⟨depth, ['\x7d']⟩]

def forestLines (registry : StyleRegistry) (depth : Nat) : List RuleBlock → List Line
  | [] => []
  | block :: rest => blockLines registry depth block ++ forestLines registry depth rest

end

/-- The text of a forest is accepted, and laid out with these lines. -/
structure LaidOut (registry : StyleRegistry) (forest : List RuleBlock) : Prop where
  lines : Stylesheet.lines (listText registry forest).toList = .ok (forestLines registry 0 forest)
  accepted : formatStylesheet (listText registry forest) = .ok (listPretty registry 0 forest)

section Rendering

private theorem trimStart_name (property : String) :
    trimStart (Style.hyphenate property ++ ": ").toList ≠ [] := by
  rw [trimStart, Ne, List.dropWhile_eq_nil_iff]
  intro blank
  exact absurd (blank ':' (by simp)) (by decide)

theorem trim_declaration (depth : Nat) (declaration : String × Json) :
    trim ((Style.hyphenate declaration.1 ++ ": ").toList ++
      (Style.declarationValue declaration.2).toList ++ [';']) =
      (declarationLine depth declaration).text := by
  rw [Text.trim_concat (by decide), Text.trimStart_append_of_ne_nil (trimStart_name _),
    List.append_assoc]
  rfl

private theorem declarationLine_render (depth : Nat) (declaration : String × Json) :
    (declarationLine depth declaration).render = (lineText depth (Text.trimmed
      (Style.hyphenate declaration.1 ++ ": " ++ Style.declarationValue declaration.2 ++
        ";"))).toList := by
  have text := trim_declaration depth declaration
  simp only [String.toList_append] at text
  simp only [lineText, Text.trimmed, String.toList_append, String.toList_ofList]
  rw [show ";".toList = [';'] from rfl, text]
  rfl

private theorem selectorLine_render (depth : Nat) (className : String) :
    (selectorLine depth className).render =
      (lineText depth (Text.trimmed ("." ++ className) ++ " \x7b")).toList := by
  simp [Line.render, lineText, Text.trimmed, selectorLine]

private theorem declarationLines_render (depth : Nat) (style : Fields) :
    (style.map (declarationLine depth)).flatMap Line.render =
      (declarationLines depth style).toList := by
  induction style with
  | nil => rfl
  | cons declaration rest ih =>
    unfold declarationLines at ih ⊢
    rw [List.map_cons, List.flatMap_cons, ih, declarationLine_render, List.map_cons,
      String.join_cons, String.toList_append]

mutual

private theorem blockLines_render (registry : StyleRegistry) : ∀ (block : RuleBlock) (depth : Nat),
    (blockLines registry depth block).flatMap Line.render =
      (block.pretty registry depth).toList
  | ⟨className, children⟩, depth => by
    have inner := forestLines_render registry children (depth + 1)
    have closing : (Line.mk depth ['\x7d']).render = (lineText depth "\x7d").toList := by
      simp [Line.render, lineText]
    rw [blockLines, pretty]
    simp only [List.flatMap_append, String.toList_append, List.flatMap_singleton, inner,
      declarationLines_render, selectorLine_render, closing]

/-- The lines of a forest make the text that the recursion over it prints. -/
theorem forestLines_render (registry : StyleRegistry) : ∀ (forest : List RuleBlock) (depth : Nat),
    (forestLines registry depth forest).flatMap Line.render =
      (listPretty registry depth forest).toList
  | [], _ => rfl
  | block :: rest, depth => by
    rw [forestLines, listPretty, List.flatMap_append, String.toList_append,
      blockLines_render registry block depth, forestLines_render registry rest depth]

end

theorem LaidOut.of_lines {registry : StyleRegistry} {forest : List RuleBlock}
    (lines : Stylesheet.lines (listText registry forest).toList =
      .ok (forestLines registry 0 forest)) : LaidOut registry forest := by
  refine ⟨lines, ?_⟩
  rw [formatStylesheet, Stylesheet.layout, lines]
  simp [bind, Except.bind, pure, Except.pure, Except.mapError, forestLines_render]

end Rendering

end RuleBlock

namespace Stylesheet

theorem staysOnLine_plain {text : List Char} (plain : Avoids marks text) : StaysOnLine text := by
  induction text with
  | nil => exact .nil _
  | cons c rest ih =>
    have apart : c ∉ marks := plain c List.mem_cons_self
    simp only [marks, List.mem_cons, not_or] at apart
    have same : Enclosure.outer.after c = .outer := by
      simp [Enclosure.outer, Enclosure.after, quoteBehind, isQuote, apart]
    refine .cons ?_ ?_ ?_
    · simp [Enclosure.outer, Enclosure.keeps, apart]
    · simp [Enclosure.outer, Enclosure.written, isLineEnd, apart]
    · rw [same]
      exact ih (plain.subset (List.subset_cons_self c rest))

/-- Read between two lines, the text leads on to a place between two lines, with these lines. -/
def WritesLines (text : String) (before after : Nat) (shown : List Line) : Prop :=
  ∀ lines, Progress.Reads (Progress.At lines before .outer []) text.toList
    (Progress.At (shown.reverse ++ lines) after .outer [])

namespace WritesLines

variable {depth : Nat}

theorem nil : WritesLines "" depth depth [] :=
  fun _ => .nil

theorem append {first rest : String} {shown others : List Line} {before middle after : Nat}
    (head : WritesLines first before middle shown) (tail : WritesLines rest middle after others) :
    WritesLines (first ++ rest) before after (shown ++ others) := by
  intro lines
  rw [String.toList_append, List.reverse_append, List.append_assoc]
  exact (head lines).append (tail _)

theorem declaration {property : String} {value : Json} (named : Avoids marks property.toList)
    (stays : StaysOnLine (Style.declarationValue value).toList) :
    WritesLines (RuleBlock.declarationText property value) depth depth
      [RuleBlock.declarationLine depth (property, value)] := by
  intro lines
  have name : StaysOnLine (Style.hyphenate property ++ ": ").toList := by
    rw [String.toList_append]
    exact staysOnLine_plain ((Style.hyphenate_avoids named).append (by decide))
  have line := @Progress.reads_held lines depth _ _ [] _ (name.append stays)
  rw [List.nil_append] at line
  have ended := @Progress.reads_statement lines depth .outer
    ((Style.hyphenate property ++ ": ").toList ++ (Style.declarationValue value).toList) rfl rfl
  have trimmed := RuleBlock.trim_declaration depth (property, value)
  have shown : (RuleBlock.declarationLine depth (property, value)).text ≠ [] := by
    simp [RuleBlock.declarationLine]
  rw [withLine_shown (trimmed ▸ shown), trimmed] at ended
  have text : (RuleBlock.declarationText property value).toList =
      (Style.hyphenate property ++ ": ").toList ++ (Style.declarationValue value).toList ++
        ([';'] ++ ['\n']) := by simp [RuleBlock.declarationText]
  rw [text]
  exact line.append (ended.append (Progress.reads_spaces rfl Progress.blank_newline))

theorem selector {className : String} (plain : Avoids marks className.toList) :
    WritesLines ("." ++ className ++ " \x7b") depth (depth + 1)
      [RuleBlock.selectorLine depth className] := by
  intro lines
  have named : StaysOnLine (("." ++ className).toList ++ [' ']) := by
    rw [String.toList_append]
    exact staysOnLine_plain (.append (.append (by decide) plain) (by decide))
  have line := @Progress.reads_held lines depth _ _ [] _ named
  rw [List.nil_append] at line
  have opened := @Progress.reads_opening lines depth .outer (("." ++ className).toList ++ [' ']) rfl
  have begun : trim ("." ++ className).toList = '.' :: Text.trimEnd className.toList := by
    rw [String.toList_append]
    exact Text.trim_cons (by decide) _
  have trimmed : trim (trim ("." ++ className).toList ++ [' ', '\x7b']) =
      (RuleBlock.selectorLine depth className).text := by
    rw [RuleBlock.selectorLine, begun]
    exact trim_selector (by decide) _
  have shown : (RuleBlock.selectorLine depth className).text ≠ [] := by
    simp [RuleBlock.selectorLine]
  rw [Text.trim_append_blanks Progress.blank_space, withLine_shown (trimmed ▸ shown), trimmed]
    at opened
  have text : ("." ++ className ++ " \x7b").toList =
      ("." ++ className).toList ++ [' '] ++ ['\x7b'] := by simp
  rw [text]
  exact line.append opened

private theorem close : WritesLines "\x7d" (depth + 1) depth [⟨depth, ['\x7d']⟩] := by
  intro lines progress begun
  exact Progress.reads_closing rfl progress begun.ends

/-- A text that is read to its end has the lines that it writes. -/
theorem lines_eq {text : String} {shown : List Line} (writes : WritesLines text 0 0 shown) :
    lines text.toList = .ok shown := by
  obtain ⟨last, reads, stands⟩ := writes [] Progress.start ⟨rfl, rfl, rfl, [], nofun, rfl⟩
  obtain ⟨blanks, blank, pending⟩ := stands.pending
  refine lines_eq_ok.mpr ⟨last, reads, congrArg Enclosure.quote stands.enclosure, stands.depth, ?_⟩
  rw [stands.lines, pending, List.append_nil, withLine, Text.trim_eq_nil blank]
  simp

end WritesLines

end Stylesheet

namespace RuleBlock

open Stylesheet (WritesLines)

/-- No mark stands in the class of a block and in its properties, as none does in identifiers, and
its values are among the given strings. -/
structure Quotes (registry : StyleRegistry) (Given : List Char → Prop) (block : RuleBlock) : Prop
    where
  className : Avoids marks block.className.toList
  style : ∀ style ∈ registry.get? block.className, ∀ declaration ∈ style,
    Avoids marks declaration.1.toList ∧ ∃ text, declaration.2 = .string text ∧ Given text.toList

theorem Quotes.imp {registry : StyleRegistry} {Given Other : List Char → Prop}
    {block : RuleBlock}
    (quotes : block.Quotes registry Given) (within : ∀ text, Given text → Other text) :
    block.Quotes registry Other := by
  refine ⟨quotes.className, fun style bound declaration member => ?_⟩
  obtain ⟨named, text, same, given⟩ := quotes.style style bound declaration member
  exact ⟨named, text, same, within _ given⟩

section Writing

variable {depth : Nat} {registry : StyleRegistry}

private theorem declarationsText_writesLines {style : Fields} (quoted : ∀ declaration ∈ style,
      Avoids marks declaration.1.toList ∧ ∃ text, declaration.2 = .string text ∧
      StaysOnLine text.toList) :
    WritesLines (declarationsText style) depth depth (style.map (declarationLine depth)) := by
  induction style with
  | nil => exact .nil
  | cons declaration rest ih =>
    obtain ⟨property, value⟩ := declaration
    obtain ⟨named, text, rfl, stays⟩ := quoted _ List.mem_cons_self
    have others := ih fun other member => quoted other (List.mem_cons_of_mem _ member)
    have here : StaysOnLine (Style.declarationValue (.string text)).toList := stays
    unfold declarationsText
    rw [List.map_cons, String.join_cons]
    exact (WritesLines.declaration named here).append others

mutual

private theorem text_writesLines : ∀ (block : RuleBlock) (depth : Nat),
    (∀ inner ∈ block.blocks, inner.Quotes registry StaysOnLine) →
      WritesLines (block.text registry) depth depth (blockLines registry depth block)
  | ⟨className, children⟩, depth, quoted => by
    rw [blocks] at quoted
    have own := quoted _ List.mem_cons_self
    have inner := listText_writesLines children (depth + 1) fun block member =>
      quoted block (List.mem_cons_of_mem _ member)
    have declarations : WritesLines (declarationsText ((registry.get? className).getD []))
        (depth + 1) (depth + 1)
        (((registry.get? className).getD []).map (declarationLine (depth + 1))) := by
      refine declarationsText_writesLines ?_
      cases given : registry.get? className with
      | none => exact nofun
      | some style => exact own.style style given
    rw [text, blockLines]
    exact (((WritesLines.selector own.className).append declarations).append inner).append .close

/-- Where every string stays on its line, the text of a forest has the lines of the forest. -/
theorem listText_writesLines : ∀ (forest : List RuleBlock) (depth : Nat),
    (∀ block ∈ listBlocks forest, block.Quotes registry StaysOnLine) →
      WritesLines (listText registry forest) depth depth (forestLines registry depth forest)
  | [], depth, _ => .nil
  | block :: rest, depth, quoted => by
    rw [listBlocks] at quoted
    have first := text_writesLines block depth fun inner member =>
      quoted inner (List.mem_append_left _ member)
    have others := listText_writesLines rest depth fun inner member =>
      quoted inner (List.mem_append_right _ member)
    rw [listText, forestLines]
    exact first.append others

end

theorem laidOut_of_stay {forest : List RuleBlock}
    (quoted : ∀ block ∈ listBlocks forest, block.Quotes registry StaysOnLine) :
    LaidOut registry forest :=
  .of_lines (listText_writesLines forest 0 quoted).lines_eq

end Writing

end RuleBlock

end PanelCompiler

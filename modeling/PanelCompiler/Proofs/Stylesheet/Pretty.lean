import Mathlib.Tactic.MkIffOfInductiveProp
import PanelCompiler.Proofs.Stylesheet.Forest
import PanelCompiler.Proofs.Stylesheet.Reading
import PanelCompiler.Walk.Context

namespace PanelCompiler

open Style (marks)
open Stylesheet (Writes lineText)
open Text (Avoids)

namespace RuleBlock

def declarationLines (depth : Nat) (style : Fields) : String :=
  String.join (style.map fun (property, value) =>
    lineText depth (Text.trimmed
      (Style.hyphenate property ++ ": " ++ Style.declarationValue value ++ ";")))

mutual

/-- The lines of a block: its class, the declarations and the blocks inside it one level deeper, and
its closing brace. -/
def pretty (registry : StyleRegistry) (depth : Nat) : RuleBlock → String
  | ⟨className, children⟩ =>
    lineText depth (Text.trimmed ("." ++ className) ++ " \x7b") ++
      declarationLines (depth + 1) ((registry.get? className).getD []) ++
      listPretty registry (depth + 1) children ++ lineText depth "\x7d"

def listPretty (registry : StyleRegistry) (depth : Nat) : List RuleBlock → String
  | [] => ""
  | block :: rest => pretty registry depth block ++ listPretty registry depth rest

end

/-- No mark stands in the class of a block, in its properties or in its values. -/
@[mk_iff]
structure IsPlain (registry : StyleRegistry) (block : RuleBlock) : Prop where
  className : Avoids marks block.className.toList
  style : ∀ style ∈ registry.get? block.className, ∀ declaration ∈ style,
    Avoids marks declaration.1.toList ∧ Style.IsPlain declaration.2

instance (registry : StyleRegistry) (block : RuleBlock) : Decidable (block.IsPlain registry) :=
  decidable_of_iff _ (isPlain_iff registry block).symm

section Writing

variable {depth : Nat} {registry : StyleRegistry}

private theorem declarationText_writes {property : String} {value : Json}
    (named : Avoids marks property.toList) (plain : Style.IsPlain value) :
    Writes (declarationText property value) depth depth
      (lineText depth (Text.trimmed
        (Style.hyphenate property ++ ": " ++ Style.declarationValue value ++ ";"))) := by
  apply Writes.statement
  rw [String.toList_append, String.toList_append]
  have name := (Style.hyphenate_avoids named).append (by decide : Avoids marks ": ".toList)
  exact name.append (Style.declarationValue_avoids plain)

private theorem declarationsText_writes {style : Fields}
    (plain : ∀ declaration ∈ style,
      Avoids marks declaration.1.toList ∧ Style.IsPlain declaration.2) :
    Writes (declarationsText style) depth depth (declarationLines depth style) := by
  induction style with
  | nil => exact .nil
  | cons declaration rest ih =>
    obtain ⟨named, valued⟩ := plain declaration List.mem_cons_self
    have others := ih fun other member => plain other (List.mem_cons_of_mem _ member)
    unfold declarationsText declarationLines
    rw [List.map_cons, List.map_cons, String.join_cons, String.join_cons]
    exact (declarationText_writes named valued).append others

mutual

private theorem text_writes : ∀ (block : RuleBlock) (depth : Nat),
    (∀ inner ∈ block.blocks, inner.IsPlain registry) →
      Writes (block.text registry) depth depth (block.pretty registry depth)
  | ⟨className, children⟩, depth, plain => by
    rw [blocks] at plain
    have own := plain _ List.mem_cons_self
    have inner := listText_writes children (depth + 1) fun block member =>
      plain block (List.mem_cons_of_mem _ member)
    have declarations : Writes (declarationsText ((registry.get? className).getD [])) (depth + 1)
        (depth + 1) (declarationLines (depth + 1) ((registry.get? className).getD [])) := by
      refine declarationsText_writes ?_
      cases given : registry.get? className with
      | none => exact nofun
      | some style => exact own.style style given
    rw [text, pretty]
    exact (((Writes.selector own.className).append declarations).append inner).append .close

/-- The text of a forest writes the forest line by line. -/
theorem listText_writes : ∀ (forest : List RuleBlock) (depth : Nat),
    (∀ block ∈ listBlocks forest, block.IsPlain registry) →
      Writes (listText registry forest) depth depth (listPretty registry depth forest)
  | [], depth, _ => .nil
  | block :: rest, depth, plain => by
    rw [listBlocks] at plain
    have first := text_writes block depth fun inner member =>
      plain inner (List.mem_append_left _ member)
    have others := listText_writes rest depth fun inner member =>
      plain inner (List.mem_append_right _ member)
    rw [listText, listPretty]
    exact first.append others

end

end Writing

end RuleBlock

/-- The generated stylesheet is laid out as the recursion over its blocks prints them, if no mark
stands in their classes and declarations. -/
theorem Stylesheet.layout_stylesheetText {context : Context}
    (plain : ∀ block ∈ RuleBlock.listBlocks context.stylesheet.roots,
      block.IsPlain context.styles) :
    layout context.stylesheetText =
      .ok (RuleBlock.listPretty context.styles 0 context.stylesheet.roots) := by
  have writes := RuleBlock.listText_writes context.stylesheet.roots 0 plain
  exact writes.layout_eq

/-- A block inside a block; a number, a value with blanks around it, and a class with one behind. -/
theorem Stylesheet.layout_stylesheetText_nested :
    let context := { Context.fresh "Home" with
      styles := ⟨[("card ", [("flexGrow", .number (.integer (-2))), ("color", .string " red ")]),
        ("title", [(" hidden", .bool true)])]⟩
      stylesheet := ⟨[⟨"card ", [⟨"title", []⟩, ⟨"bare", []⟩]⟩], []⟩ }
    layout context.stylesheetText = .ok (".card \x7b\n  flex-grow: -2;\n  color:  red ;\n" ++
      "  .title \x7b\n    hidden: true;\n  \x7d\n  .bare \x7b\n  \x7d\n\x7d\n") := by
  intro context
  have plain : ∀ block ∈ RuleBlock.listBlocks context.stylesheet.roots,
      block.IsPlain context.styles := by decide +kernel
  rw [layout_stylesheetText plain]
  exact congrArg Except.ok (by decide +kernel)

end PanelCompiler

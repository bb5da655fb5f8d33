import PanelCompiler.Stylesheet.Block

namespace PanelCompiler.RuleBlock

mutual

def blocks : RuleBlock → List RuleBlock
  | block@⟨_, children⟩ => block :: listBlocks children

def listBlocks : List RuleBlock → List RuleBlock
  | [] => []
  | block :: rest => blocks block ++ listBlocks rest

end

/-- The classes of the blocks of a forest, as often as there are blocks. -/
def classNames (forest : List RuleBlock) : List String :=
  (listBlocks forest).map (·.className)

private theorem blocks_eq (block : RuleBlock) :
    block.blocks = block :: listBlocks block.children := by
  cases block
  rw [blocks]

private theorem listBlocks_append (first rest : List RuleBlock) :
    listBlocks (first ++ rest) = listBlocks first ++ listBlocks rest := by
  induction first with
  | nil => rfl
  | cons block others ih => rw [List.cons_append, listBlocks, listBlocks, ih, List.append_assoc]

theorem classNames_append (first rest : List RuleBlock) :
    classNames (first ++ rest) = classNames first ++ classNames rest := by
  rw [classNames, listBlocks_append, List.map_append]
  rfl

theorem classNames_single (block : RuleBlock) :
    classNames [block] = block.className :: classNames block.children := by
  simp [classNames, listBlocks, blocks_eq]

theorem text_eq (registry : StyleRegistry) (block : RuleBlock) :
    block.text registry = "." ++ block.className ++ " \x7b" ++
      declarationsText ((registry.get? block.className).getD []) ++
      listText registry block.children ++ "\x7d" := by
  cases block
  rw [text]

section Within

variable (registry : StyleRegistry) {inner : RuleBlock}

mutual

private theorem text_within : ∀ block : RuleBlock, inner ∈ block.blocks →
    ∃ before after, block.text registry = before ++ inner.text registry ++ after
  | ⟨className, children⟩, member => by
    rw [blocks] at member
    rcases List.mem_cons.mp member with same | deeper
    · exact ⟨"", "", by rw [same, String.empty_append, String.append_empty]⟩
    · obtain ⟨before, after, within⟩ := listText_within children deeper
      refine ⟨"." ++ className ++ " \x7b" ++ declarationsText ((registry.get? className).getD []) ++
        before, after ++ "\x7d", ?_⟩
      rw [text_eq, within]
      simp only [String.append_assoc]

theorem listText_within : ∀ forest : List RuleBlock, inner ∈ listBlocks forest →
    ∃ before after, listText registry forest = before ++ inner.text registry ++ after
  | [], member => nomatch member
  | block :: rest, member => by
    rw [listBlocks] at member
    rcases List.mem_append.mp member with first | later
    · obtain ⟨before, after, within⟩ := text_within block first
      refine ⟨before, after ++ listText registry rest, ?_⟩
      rw [listText, within, String.append_assoc]
    · obtain ⟨before, after, within⟩ := listText_within rest later
      refine ⟨block.text registry ++ before, after, ?_⟩
      rw [listText, within]
      simp only [String.append_assoc]

end

end Within

end PanelCompiler.RuleBlock

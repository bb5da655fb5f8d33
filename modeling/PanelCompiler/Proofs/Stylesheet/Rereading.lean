import PanelCompiler.Proofs.Stylesheet.Visible

/-!
A layout read again. At every place in a stylesheet, reading what is laid out so far leads to the
same finished lines, the same depth and the same enclosure, and what is pending stays on its line.
So a layout is laid out as it stands.
-/

namespace PanelCompiler.Stylesheet

open Text (isBlank trim trimStart)

/-- Characters that all go on the line under way as they are, from one enclosure to another. -/
inductive Held : Enclosure → List Char → Enclosure → Prop
  | nil (enclosure : Enclosure) : Held enclosure [] enclosure
  | cons {enclosure last : Enclosure} {c : Char} {rest : List Char}
    (keeps : enclosure.keeps c = true) (same : enclosure.written c = c)
    (later : Held (enclosure.after c) rest last) : Held enclosure (c :: rest) last

section Holding

variable {enclosure middle last : Enclosure} {c : Char} {text first rest blanks : List Char}

theorem Held.single (keeps : enclosure.keeps c = true) (same : enclosure.written c = c) :
    Held enclosure [c] (enclosure.after c) :=
  .cons keeps same (.nil _)

theorem Held.append (head : Held enclosure first middle) (tail : Held middle rest last) :
    Held enclosure (first ++ rest) last := by
  induction head with
  | nil => exact tail
  | cons keeps same _ ih => exact .cons keeps same (ih tail)

theorem Held.split (held : Held enclosure (first ++ rest) last) :
    ∃ middle, Held enclosure first middle ∧ Held middle rest last := by
  induction first generalizing enclosure with
  | nil => exact ⟨enclosure, .nil enclosure, held⟩
  | cons c others ih =>
    cases held with
    | cons keeps same later =>
      obtain ⟨middle, front, behind⟩ := ih later
      exact ⟨middle, .cons keeps same front, behind⟩

private theorem Held.quote (held : Held enclosure text last) :
    last.quote = quoteAfter enclosure.quote text := by
  induction held with
  | nil => rfl
  | cons _ _ _ ih => exact ih

theorem after_blank (shown : Shown enclosure.quote) (blank : isBlank c = true) :
    enclosure.after c = enclosure := by
  have left : c ≠ '(' := by
    rintro rfl
    exact absurd blank (by decide)
  have right : c ≠ ')' := by
    rintro rfl
    exact absurd blank (by decide)
  simp [Enclosure.after, quoteBehind_blank shown blank, left, right]

theorem Held.of_blanks (held : Held enclosure blanks last) (shown : Shown enclosure.quote)
    (blank : ∀ c ∈ blanks, isBlank c = true) : last = enclosure := by
  induction held with
  | nil => rfl
  | cons _ _ _ ih =>
    have same := after_blank shown (blank _ List.mem_cons_self)
    rw [same] at ih
    exact ih shown fun c member => blank c (List.mem_cons_of_mem _ member)

theorem Held.trimStart (held : Held enclosure text last) (outside : enclosure.quote = none) :
    Held enclosure (trimStart text) last := by
  have whole : text = text.takeWhile isBlank ++ Text.trimStart text :=
    List.takeWhile_append_dropWhile.symm
  rw [whole] at held
  obtain ⟨middle, front, behind⟩ := held.split
  cases front.of_blanks (outside ▸ .none) fun c member => List.mem_takeWhile_imp member
  exact behind

theorem Held.trim (held : Held enclosure text last) (outside : enclosure.quote = none) :
    Held enclosure (trim text) last := by
  obtain ⟨front, back, before, behind, whole⟩ := Text.exists_trim text
  rw [whole] at held
  obtain ⟨start, leading, rest⟩ := held.split
  cases leading.of_blanks (outside ▸ .none) before
  obtain ⟨stop, inner, trailing⟩ := rest.split
  have shown : Shown stop.quote := by
    rw [inner.quote, outside]
    exact quoteAfter_shown _ .none
  cases trailing.of_blanks shown behind
  exact inner

theorem keeps_blank (blank : isBlank c = true) : enclosure.keeps c = true := by
  rw [← Bool.not_eq_false, Enclosure.keeps_eq_false]
  rintro ⟨_, rfl | rfl | ⟨rfl, _⟩⟩ <;> exact absurd blank (by decide)

theorem held_space (outside : enclosure.quote = none) : Held enclosure [' '] enclosure := by
  have held : Held enclosure [' '] (enclosure.after ' ') :=
    .single (keeps_blank rfl) (by simp [Enclosure.written, isLineEnd])
  rwa [after_blank (outside ▸ .none) rfl] at held

/-- A character goes on its line in the way it is written. -/
theorem held_written (keeps : enclosure.keeps c = true) :
    Held enclosure [enclosure.written c] (enclosure.after c) := by
  rcases Progress.written_cases enclosure c with same | ⟨outside, blank, line⟩
  · rw [same]
    exact .single keeps same
  · have space : isBlank c = true := by
      rcases line with rfl | rfl <;> rfl
    rw [blank, after_blank (outside ▸ .none) space]
    exact held_space outside

end Holding

theorem withLine_congr {first second : List Char} (same : trim first = trim second) (depth : Nat)
    (lines : List Line) : withLine depth first lines = withLine depth second lines := by
  rw [withLine, withLine, same]

namespace Progress

/-- The lines finished so far, the depth and the enclosure of the line under way, and what is read
of it, but for blanks in front. -/
structure At (lines : List Line) (depth : Nat) (enclosure : Enclosure) (line : List Char)
    (progress : Progress) : Prop where
  lines : progress.lines = lines
  depth : progress.depth = depth
  enclosure : progress.enclosure = enclosure
  pending : ∃ blanks, (∀ c ∈ blanks, isBlank c = true) ∧
    progress.pending.reverse = blanks ++ line

/-- The line under way is this text, but for blanks around it. -/
def Ends (lines : List Line) (depth : Nat) (enclosure : Enclosure) (text : List Char)
    (progress : Progress) : Prop :=
  ∃ line, trim line = trim text ∧ At lines depth enclosure line progress

section Rereading

variable {lines : List Line} {depth : Nat} {before enclosure last : Enclosure}
  {line text blanks : List Char} {progress next : Progress} {c : Char} {offset : Nat}

theorem At.ends (begun : At lines depth enclosure line progress) :
    Ends lines depth enclosure line progress :=
  ⟨line, rfl, begun⟩

theorem Ends.fresh (ends : Ends lines depth enclosure [] progress) :
    At lines depth enclosure [] progress := by
  obtain ⟨line, same, begun⟩ := ends
  obtain ⟨front, blank, pending⟩ := begun.pending
  refine { begun with pending := ⟨front ++ line, fun c member => ?_, by rw [pending]; simp⟩ }
  rcases List.mem_append.mp member with leading | inner
  · exact blank c leading
  · exact Text.blank_of_trim (same.trans (Text.trim_eq_nil nofun)) c inner

/-- What stands on the line under way decides the line that it makes. -/
theorem Ends.trim_pending (ends : Ends lines depth enclosure text progress) :
    trim progress.pending.reverse = trim text := by
  obtain ⟨line, same, begun⟩ := ends
  obtain ⟨front, blank, pending⟩ := begun.pending
  rw [pending, Text.trim_append blank, same]

theorem At.kept (begun : At lines depth enclosure line progress)
    (keeps : enclosure.keeps c = true) : ∃ next, progress.read c = .ok next ∧
      At lines depth (enclosure.after c) (line ++ [enclosure.written c]) next := by
  obtain ⟨front, blank, pending⟩ := begun.pending
  obtain rfl := begun.enclosure
  refine ⟨_, read_kept keeps, begun.lines, begun.depth, rfl, front, blank, ?_⟩
  rw [List.reverse_cons, pending, List.append_assoc]

theorem reads_single {before after : Progress → Prop} (reads : ∀ progress, before progress →
    ∃ next, progress.read c = .ok next ∧ after next) : Reads before [c] after := by
  intro progress holds
  obtain ⟨next, read, stands⟩ := reads progress holds
  exact ⟨next, by rw [readAll, read]; rfl, stands⟩

theorem reads_held (held : Held enclosure text last) :
    Reads (At lines depth enclosure line) text (At lines depth last (line ++ text)) := by
  induction held generalizing line with
  | nil =>
    rw [List.append_nil]
    exact .nil
  | @cons enclosure last c rest keeps same later ih =>
    have here : Reads (At lines depth enclosure line) [c]
        (At lines depth (enclosure.after c) (line ++ [c])) := by
      refine reads_single fun progress begun => ?_
      have kept := begun.kept keeps
      rwa [same] at kept
    have others := here.append (@ih (line ++ [c]))
    rwa [List.append_assoc] at others

/-- Blanks outside of strings leave the line under way as it is, but for blanks. -/
theorem reads_blanks (outside : enclosure.quote = none)
    (blank : ∀ c ∈ blanks, isBlank c = true) :
    Reads (Ends lines depth enclosure text) blanks (Ends lines depth enclosure text) := by
  induction blanks with
  | nil => exact .nil
  | cons c rest ih =>
    have space := blank c List.mem_cons_self
    have here : Reads (Ends lines depth enclosure text) [c] (Ends lines depth enclosure text) := by
      refine reads_single fun progress ⟨line, same, begun⟩ => ?_
      obtain ⟨next, read, stands⟩ := begun.kept (keeps_blank space)
      rw [after_blank (outside ▸ .none) space] at stands
      refine ⟨next, read, _, ?_, stands⟩
      rw [Text.trim_append_blanks, same]
      rcases written_cases enclosure c with kept | ⟨_, written, _⟩
      · simpa [kept] using space
      · simp [written, isBlank]
    exact here.append (ih fun other member => blank other (List.mem_cons_of_mem c member))

theorem reads_spaces (outside : enclosure.quote = none)
    (blank : ∀ c ∈ blanks, isBlank c = true) :
    Reads (At lines depth enclosure []) blanks (At lines depth enclosure []) := by
  intro progress begun
  obtain ⟨next, read, ends⟩ := reads_blanks outside blank progress begun.ends
  exact ⟨next, read, ends.fresh⟩

theorem blank_newline : ∀ c ∈ ['\n'], isBlank c = true :=
  List.forall_mem_singleton.mpr rfl

theorem blank_space : ∀ c ∈ [' '], isBlank c = true :=
  List.forall_mem_singleton.mpr rfl

theorem blank_indent (depth : Nat) : ∀ c ∈ List.replicate (2 * depth) ' ', isBlank c = true := by
  intro c member
  rw [List.eq_of_mem_replicate member]
  rfl

/-- A line that is written down again is the line under way, from its indentation to its end. -/
theorem reads_line (held : Held before text enclosure) (entered : before.quote = none)
    (outside : enclosure.quote = none) (place : Nat) :
    Reads (At lines depth before []) (lineOf place text) (Ends lines depth enclosure text) := by
  have inner := held.trim entered
  by_cases blank : trim text = []
  · rw [blank] at inner
    cases inner
    rw [lineOf_blank blank]
    exact fun progress begun => ⟨progress, rfl, [], blank.symm, begun⟩
  · have line : Reads (At lines depth before []) (trim text) (Ends lines depth enclosure text) := by
      intro progress begun
      obtain ⟨next, read, stands⟩ := reads_held inner progress begun
      exact ⟨next, read, _, Text.trim_trim text, stands⟩
    have ended : Reads (Ends lines depth enclosure text) ['\n'] (Ends lines depth enclosure text) :=
      reads_blanks outside blank_newline
    rw [lineOf_shown blank]
    exact (reads_spaces entered (blank_indent place)).append (line.append ended)

/-- A line that ends with a mark is indented, read up to its mark, and makes the same line. -/
theorem reads_ending {after : Progress → Prop} {text : List Char} {mark : Char}
    (held : Held before (trimStart text) enclosure) (entered : before.quote = none)
    (visible : isBlank mark = false) (place : Nat)
    (ending : Reads (At lines depth enclosure (trimStart text)) [mark] after)
    (fresh : Reads after ['\n'] after) :
    Reads (At lines depth before []) (lineOf place (text ++ [mark])) after := by
  have trimmed := Text.trim_concat visible text
  have shown : trim (text ++ [mark]) ≠ [] := by
    rw [trimmed]
    exact List.concat_ne_nil mark _
  rw [lineOf_shown shown, trimmed, List.append_assoc]
  have indent := @reads_spaces lines depth before _ entered (blank_indent place)
  exact indent.append ((reads_held held).append (ending.append fresh))

theorem reads_statement (outside : enclosure.quote = none) (level : enclosure.parentheses = 0) :
    Reads (At lines depth enclosure line) [';']
      (At (withLine depth (line ++ [';']) lines) depth enclosure []) := by
  refine reads_single fun progress begun => ?_
  obtain ⟨front, blank, pending⟩ := begun.pending
  obtain rfl := begun.enclosure
  refine ⟨_, read_eq_ok.mpr (.statement outside level), ?_, begun.depth, rfl, [], nofun, rfl⟩
  rw [pending, begun.lines, begun.depth, List.append_assoc]
  exact withLine_congr (Text.trim_append blank _) depth lines

theorem reads_opening (outside : enclosure.quote = none) :
    Reads (At lines depth enclosure line) ['\x7b']
      (At (withLine depth (trim line ++ [' ', '\x7b']) lines) (depth + 1) enclosure []) := by
  refine reads_single fun progress begun => ?_
  have line := begun.ends.trim_pending
  obtain rfl := begun.enclosure
  refine ⟨_, read_eq_ok.mpr (.opening outside), ?_, congrArg (· + 1) begun.depth, rfl, [], nofun,
    rfl⟩
  rw [line, begun.lines, begun.depth]

theorem reads_closing (outside : enclosure.quote = none) :
    Reads (Ends lines (depth + 1) enclosure text) ['\x7d']
      (At (withLine depth ['\x7d'] (withLine (depth + 1) text lines)) depth enclosure []) := by
  refine reads_single fun progress ends => ?_
  have line := ends.trim_pending
  obtain ⟨_, _, begun⟩ := ends
  obtain rfl := begun.enclosure
  refine ⟨_, read_eq_ok.mpr (.closing outside begun.depth), ?_, rfl, rfl, [], nofun, rfl⟩
  rw [begun.lines, begun.depth, withLine_congr line]

end Rereading

/-- What is laid out so far can be read again: it leads to the same lines and depth, and the line
under way is held there. -/
structure Rereads (progress : Progress) (before : Enclosure) : Prop where
  outside : before.quote = none
  finished : Reads (Eq start) (rendered progress.lines)
    (At progress.lines progress.depth before [])
  line : Held before progress.pending.reverse progress.enclosure

section Steps

variable {before : Enclosure} {progress next : Progress} {c : Char} {offset : Nat}

private theorem start_rereads : Rereads start ⟨0, none⟩ where
  outside := rfl
  finished := fun progress here => ⟨progress, rfl, here ▸ ⟨rfl, rfl, rfl, [], nofun, rfl⟩⟩
  line := .nil _

/-- Every step keeps what is laid out readable. -/
theorem Rereads.step (rereads : Rereads progress before) (step : Step progress offset c next) :
    ∃ before, Rereads next before := by
  cases step with
  | keep _ keeps =>
    refine ⟨before, rereads.outside, rereads.finished, ?_⟩
    rw [List.reverse_cons]
    exact rereads.line.append (held_written keeps)
  | statement outside level =>
    refine ⟨progress.enclosure, outside, ?_, .nil _⟩
    have line := rereads.line.trimStart rereads.outside
    have ending := @reads_statement progress.lines progress.depth progress.enclosure
      (trimStart progress.pending.reverse) outside level
    have same : withLine progress.depth (trimStart progress.pending.reverse ++ [';'])
        progress.lines =
        withLine progress.depth (progress.pending.reverse ++ [';']) progress.lines := by
      refine withLine_congr ?_ _ _
      rw [Text.trim_concat (by decide), Text.trim_concat (by decide), Text.trimStart_trimStart]
    rw [same] at ending
    rw [rendered_withLine]
    exact rereads.finished.append (reads_ending line rereads.outside (by decide) _ ending
      (reads_spaces outside blank_newline))
  | opening outside =>
    refine ⟨progress.enclosure, outside, ?_, .nil _⟩
    have selector := (rereads.line.trim rereads.outside).append (held_space outside)
    have line := selector.trimStart rereads.outside
    have ending := @reads_opening progress.lines progress.depth progress.enclosure
      (trimStart (trim progress.pending.reverse ++ [' '])) outside
    rw [Text.trim_trimStart, Text.trim_append_blanks blank_space, Text.trim_trim] at ending
    have whole : trim progress.pending.reverse ++ [' ', '\x7b'] =
        trim progress.pending.reverse ++ [' '] ++ ['\x7b'] := by simp
    rw [rendered_withLine, whole]
    rw [whole] at ending
    exact rereads.finished.append (reads_ending line rereads.outside (by decide) _ ending
      (reads_spaces outside blank_newline))
  | @closing depth outside inside =>
    refine ⟨progress.enclosure, outside, ?_, .nil _⟩
    have finished := rereads.finished
    rw [inside] at finished ⊢
    have line := @reads_line progress.lines (depth + 1) _ _ _ rereads.line rereads.outside outside
      (depth + 1)
    have brace : lineOf depth ['\x7d'] =
        List.replicate (2 * depth) ' ' ++ (['\x7d'] ++ ['\n']) := lineOf_shown (by decide) depth
    have ended := @reads_closing progress.lines depth progress.enclosure progress.pending.reverse
      outside
    rw [rendered_withLine, rendered_withLine, brace, List.append_assoc]
    exact finished.append (line.append ((reads_blanks outside (blank_indent depth)).append
      (ended.append (reads_spaces outside blank_newline))))

end Steps

end Progress

/-- Laying out a layout changes nothing. -/
theorem layout_layout {source shown : String} (success : layout source = .ok shown) :
    layout shown = .ok shown := by
  obtain ⟨progress, reads, outside, top, text⟩ := layout_eq_ok.mp success
  obtain ⟨before, rereads⟩ : ∃ before, progress.Rereads before :=
    Progress.readAll_invariant (P := fun _ progress => ∃ before, progress.Rereads before)
      (fun _ _ _ _ _ ⟨_, before⟩ step => before.step step) [] ⟨_, Progress.start_rereads⟩ reads
  have line := @Progress.reads_line progress.lines progress.depth _ _ _ rereads.line
    rereads.outside outside 0
  obtain ⟨last, again, ends⟩ := rereads.finished.append line Progress.start rfl
  have pending := ends.trim_pending
  obtain ⟨_, _, begun⟩ := ends
  refine layout_eq_ok.mpr ⟨last, ?_, ?_, begun.depth.trans top, ?_⟩
  · rwa [text, rendered_withLine]
  · exact (congrArg Enclosure.quote begun.enclosure).trans outside
  · rw [text, begun.lines, withLine_congr pending]

/-- A string over two lines, parentheses that are not closed, a semicolon in them, and a block
without a selector. -/
theorem layout_layout_unclosed :
    let source := "a \x7b b:'x \n y' (; c\x7b;\x7d \n\x7d \x7b\x7d d"
    let shown := "a \x7b\n  b:'x \n y' (; c \x7b\n    ;\n  \x7d\n\x7d\n\x7b\n\x7d\nd\n"
    layout source = .ok shown ∧ layout shown = .ok shown := by
  intro source shown
  have success : layout source = .ok shown := by decide +kernel
  exact ⟨success, layout_layout success⟩

end PanelCompiler.Stylesheet

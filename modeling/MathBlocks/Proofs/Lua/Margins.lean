import MathBlocks.Proofs.Lua.Layout

/-!
# Two layouts of a program

A program is laid out as text in two ways: as one text with line feeds between its parts, and line
by line behind a margin. Without a margin both are the same, unless a helper has no lines: between
line feeds it takes an empty line, line by line it takes none. So the first text is longer by one
character for each such helper, and this is the only difference.
-/

namespace MathBlocks

/-- Lines behind a margin are lines that begin with it. -/
theorem Margin.join_line
    (margin : Margin)
    (lines : List String) :
    String.join (lines.map margin.line) = Text.endLines (lines.map (margin.text ++ ·)) := by
  unfold Text.endLines
  rw [List.map_map]
  rfl

/-- A margin of no level is empty. -/
theorem Margin.text_zero
    (unit : String) :
    Margin.text ⟨0, unit⟩ = "" :=
  rfl

/-- A helper whose lines begin with a margin. -/
def Helper.behind
    (margin : Margin)
    (helper : Helper) : Helper :=
  { helper with lines := helper.lines.map (margin.text ++ ·) }

/-- The lines of a helper in a text between whose lines there are line feeds: at least one. -/
def Helper.ownLines (helper : Helper) : List String :=
  if helper.lines = [] then [""] else helper.lines

theorem Helper.text_ownLines
    (helper : Helper) :
    "\n".intercalate helper.ownLines = helper.text := by
  unfold ownLines text
  split
  · rename_i h
    rw [h, String.intercalate_singleton, String.intercalate_nil]
  · rfl

theorem Helper.ownLines_ne_nil
    (helper : Helper) :
    helper.ownLines ≠ [] := by
  unfold ownLines
  split
  · exact List.cons_ne_nil _ _
  · assumption

/-- Only a helper without lines takes more room than its lines do. -/
theorem Helper.length_endLines_ownLines
    (helper : Helper) :
    (Text.endLines helper.ownLines).length =
      (Text.endLines helper.lines).length + if helper.lines = [] then 1 else 0 := by
  unfold ownLines
  split
  · rename_i h
    rw [h]
    decide
  · rfl

namespace LuaProgram

/-- A program whose lines, those of helpers included, begin with a margin. -/
def behind
    (margin : Margin)
    (lua : LuaProgram) : LuaProgram where
  helpers := lua.helpers.map (Helper.behind margin)
  lines := lua.lines.map (margin.text ++ ·)

/-- The lines of helpers behind a margin, with an empty line before each but the first. -/
theorem helperLines_cons
    (margin : Margin)
    (first : Helper)
    (rest : List Helper) :
    helperLines margin (first :: rest) =
      Text.endLines ((first.behind margin).lines ++
        (rest.map (Helper.behind margin)).flatMap Helper.linesApart) := by
  have hrest : String.join (rest.map fun helper =>
        "\n" ++ String.join (helper.lines.map margin.line)) =
      Text.endLines ((rest.map (Helper.behind margin)).flatMap Helper.linesApart) := by
    induction rest with
    | nil =>
        rfl
    | cons next rest ih =>
        rw [List.map_cons, String.join_cons, ih, Margin.join_line, List.map_cons,
          List.flatMap_cons, Text.endLines_append, Helper.linesApart, Text.endLines_cons]
        simp [Helper.behind]
  rw [helperLines, hrest, Margin.join_line, Text.endLines_append]
  rfl

/-- Behind a margin, the lines of a text are written as those that begin with the margin. -/
theorem indentedText_eq_endLines
    (margin : Margin)
    (lua : LuaProgram) :
    lua.indentedText margin = Text.endLines (lua.behind margin).textLines := by
  cases hhelpers : lua.helpers with
  | nil =>
      simp [indentedText, hhelpers, helperLines, textLines, behind, Margin.join_line]
  | cons first rest =>
      have hfeeds : "\n\n" = Text.endLines ["", ""] := by
        decide
      simp only [indentedText, hhelpers, textLines, behind, List.map_cons, List.isEmpty_cons,
        Bool.false_eq_true, if_false]
      rw [helperLines_cons, Margin.join_line, hfeeds, ← Text.endLines_append,
        ← Text.endLines_append]

theorem behind_zero
    (unit : String)
    (lua : LuaProgram) :
    lua.behind ⟨0, unit⟩ = lua := by
  have hhelper : Helper.behind ⟨0, unit⟩ = id := by
    funext helper
    simp [Helper.behind, Margin.text_zero]
  simp [behind, hhelper, Margin.text_zero]

/-- Line by line behind no margin, a program is written as its lines. -/
theorem indentedText_zero
    (unit : String)
    (lua : LuaProgram) :
    lua.indentedText ⟨0, unit⟩ = Text.endLines lua.textLines := by
  rw [indentedText_eq_endLines, behind_zero]

/-- What is written behind a margin is written behind none if the lines begin with the margin. -/
theorem indentedText_behind
    (margin : Margin)
    (unit : String)
    (lua : LuaProgram) :
    lua.indentedText margin = (lua.behind margin).indentedText ⟨0, unit⟩ := by
  rw [indentedText_eq_endLines, indentedText_zero]

/-- Where every helper has a line, both layouts are the same. -/
theorem indentedText_zero_eq_text
    (unit : String)
    {lua : LuaProgram}
    (h : ∀ helper ∈ lua.helpers, helper.lines ≠ []) :
    lua.indentedText ⟨0, unit⟩ = lua.text := by
  rw [indentedText_zero, text_eq_endLines h]

/-- A program in which a helper without lines has an empty one. -/
def withOwnLines (lua : LuaProgram) : LuaProgram where
  helpers := lua.helpers.map fun helper => { helper with lines := helper.ownLines }
  lines := lua.lines

/-- Between line feeds, a helper without lines is the same as one with an empty line. -/
theorem text_withOwnLines
    (lua : LuaProgram) :
    lua.withOwnLines.text = lua.text := by
  have htexts : lua.withOwnLines.helpers.map Helper.text = lua.helpers.map Helper.text := by
    simp only [withOwnLines, List.map_map]
    exact List.map_congr_left fun helper _ => helper.text_ownLines
  have hempty : lua.withOwnLines.helpers.isEmpty = lua.helpers.isEmpty := by
    simp [withOwnLines]
  have hlines : lua.withOwnLines.lines = lua.lines := rfl
  simp only [text, htexts, hempty, hlines]

/-- The text of a program is longer than its lines by a character for each helper without lines. -/
theorem length_text
    (lua : LuaProgram) :
    lua.text.length =
      (Text.endLines lua.textLines).length +
        lua.helpers.countP (fun helper => helper.lines = []) := by
  have hlines : ∀ helper ∈ lua.withOwnLines.helpers, helper.lines ≠ [] := by
    intro helper hmem
    obtain ⟨own, _, rfl⟩ := List.mem_map.mp hmem
    exact own.ownLines_ne_nil
  rw [← text_withOwnLines, text_eq_endLines hlines]
  cases hhelpers : lua.helpers with
  | nil =>
      simp [textLines, withOwnLines, hhelpers]
  | cons first rest =>
      have hrest : (Text.endLines ((rest.map fun helper =>
            { helper with lines := helper.ownLines }).flatMap Helper.linesApart)).length =
          (Text.endLines (rest.flatMap Helper.linesApart)).length +
            rest.countP (fun helper => helper.lines = []) := by
        clear hhelpers
        induction rest with
        | nil =>
            rfl
        | cons next rest ih =>
            have hnext := next.length_endLines_ownLines
            simp only [List.map_cons, List.flatMap_cons, Helper.linesApart, Text.endLines_append,
              Text.endLines_cons, String.length_append, ih, hnext, List.countP_cons,
              decide_eq_true_eq]
            omega
      have hfirst := first.length_endLines_ownLines
      simp only [textLines, withOwnLines, hhelpers, List.map_cons, Text.endLines_append,
        String.length_append, hrest, hfirst, List.countP_cons, decide_eq_true_eq]
      omega

/-- Without a margin, the two layouts are the same if and only if every helper has a line. -/
theorem indentedText_zero_eq_text_iff
    (unit : String)
    (lua : LuaProgram) :
    lua.indentedText ⟨0, unit⟩ = lua.text ↔ ∀ helper ∈ lua.helpers, helper.lines ≠ [] := by
  refine ⟨?_, indentedText_zero_eq_text unit⟩
  intro h
  have hlength := lua.length_text
  rw [← h, indentedText_zero] at hlength
  have hcount : lua.helpers.countP (fun helper => helper.lines = []) = 0 := by
    omega
  simpa [List.countP_eq_zero] using hcount

end LuaProgram
end MathBlocks

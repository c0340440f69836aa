import MathBlocks.Lua.Program

/-!
# The lines of the text of a program

The text of a program is made of lines that all end in a line feed: those of the helpers, an empty
one before each helper but the first, two empty ones, and those of the program. Without helpers
there are only those of the program. A helper without lines would take one all the same.
-/

namespace MathBlocks
namespace Text

theorem endLines_append
    (first rest : List String) :
    endLines (first ++ rest) = endLines first ++ endLines rest := by
  induction first with
  | nil =>
      simp [endLines]
  | cons line first ih =>
      simp [ih, String.append_assoc]

/-- Line feeds between lines, and one more at the end, are one after each line. -/
theorem intercalate_lines
    {lines : List String}
    (h : lines ≠ []) :
    "\n".intercalate lines ++ "\n" = endLines lines := by
  induction lines with
  | nil =>
      exact absurd rfl h
  | cons line rest ih =>
      cases rest with
      | nil =>
          simp [endLines, String.join_cons]
      | cons next rest =>
          rw [String.intercalate_cons_cons, String.append_assoc, ih (by simp),
            endLines_cons line]

end Text

/-- The lines of a helper behind another one. -/
def Helper.linesApart (helper : Helper) : List String :=
  "" :: helper.lines

namespace LuaProgram

/-- The lines of the text of a program. -/
def textLines (lua : LuaProgram) : List String :=
  match lua.helpers with
  | [] => lua.lines
  | first :: rest => first.lines ++ rest.flatMap Helper.linesApart ++ ["", ""] ++ lua.lines

/-- Helpers with an empty line between them, each of which has a line. -/
theorem intercalate_helpers
    (first : Helper)
    {rest : List Helper}
    (hfirst : first.lines ≠ [])
    (hrest : ∀ helper ∈ rest, helper.lines ≠ []) :
    "\n\n".intercalate ((first :: rest).map Helper.text) ++ "\n" =
      Text.endLines (first.lines ++ rest.flatMap Helper.linesApart) := by
  induction rest generalizing first with
  | nil =>
      simpa [Helper.text] using Text.intercalate_lines hfirst
  | cons next rest ih =>
      have hnext := ih next (hrest next List.mem_cons_self)
        fun helper hmem => hrest helper (List.mem_cons_of_mem _ hmem)
      have hlines := Text.intercalate_lines hfirst
      have hfeeds : "\n\n" = "\n" ++ "\n" := by
        decide
      rw [List.map_cons] at hnext
      rw [List.map_cons, List.map_cons, String.intercalate_cons_cons, String.append_assoc, hnext,
        Helper.text, hfeeds, ← String.append_assoc, hlines, Text.endLines_append first.lines,
        List.flatMap_cons, Helper.linesApart]
      simp [Text.endLines_append, String.append_assoc]

/-- The text of a program, line by line. -/
theorem text_eq_endLines
    {lua : LuaProgram}
    (h : ∀ helper ∈ lua.helpers, helper.lines ≠ []) :
    lua.text = Text.endLines lua.textLines := by
  cases hhelpers : lua.helpers with
  | nil =>
      simp [text, textLines, hhelpers]
  | cons first rest =>
      rw [hhelpers] at h
      have hlaid := intercalate_helpers first (h first List.mem_cons_self)
        fun helper hmem => h helper (List.mem_cons_of_mem _ hmem)
      have hfeeds : "\n\n\n" = "\n" ++ Text.endLines ["", ""] := by
        decide
      simp only [text, textLines, hhelpers, List.isEmpty_cons, Bool.false_eq_true, if_false]
      rw [hfeeds, ← String.append_assoc, hlaid, ← Text.endLines_append, ← Text.endLines_append]

theorem length_textLines
    (lua : LuaProgram) :
    lua.textLines.length =
      if lua.helpers.isEmpty then
        lua.lines.length
      else
        (lua.helpers.flatMap Helper.lines).length + (lua.helpers.length - 1) + 2 +
          lua.lines.length := by
  cases hhelpers : lua.helpers with
  | nil =>
      simp [textLines, hhelpers]
  | cons first rest =>
      have hrest : (rest.flatMap Helper.linesApart).length =
          (rest.flatMap Helper.lines).length + rest.length := by
        clear hhelpers
        induction rest with
        | nil =>
            rfl
        | cons next rest ih =>
            simp only [List.flatMap_cons, List.length_append, ih, Helper.linesApart,
              List.length_cons]
            omega
      simp only [textLines, hhelpers, List.length_append, hrest, List.isEmpty_cons,
        Bool.false_eq_true, if_false, List.flatMap_cons, List.length_cons, List.length_nil]
      omega

/-- A line of the text is empty, or one of a helper or of the program. -/
theorem mem_textLines
    {lua : LuaProgram}
    {line : String}
    (h : line ∈ lua.textLines) :
    line = "" ∨ (∃ helper ∈ lua.helpers, line ∈ helper.lines) ∨ line ∈ lua.lines := by
  unfold textLines at h
  split at h
  · exact Or.inr (Or.inr h)
  · rename_i first rest hhelpers
    rw [hhelpers]
    simp only [List.mem_append, List.mem_flatMap, Helper.linesApart, List.mem_cons,
      List.not_mem_nil, or_false, or_self] at h
    rcases h with ((hfirst | ⟨helper, hmem, rfl | hline⟩) | rfl) | hline
    · exact Or.inr (Or.inl ⟨first, List.mem_cons_self, hfirst⟩)
    · exact Or.inl rfl
    · exact Or.inr (Or.inl ⟨helper, List.mem_cons_of_mem _ hmem, hline⟩)
    · exact Or.inl rfl
    · exact Or.inr (Or.inr hline)

end LuaProgram
end MathBlocks

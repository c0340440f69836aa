import MathBlocks.Helper.Math
import MathBlocks.Proofs.Text.Printable

/-!
# The lines of helpers

Behind spaces and tabs, the lines of the math helpers are printable, whatever the indentation is and
whatever identifiers are put in.
-/

namespace MathBlocks

/-- An indentation is made of spaces or a tab. -/
theorem Indent.over_unit
    (indent : Indent) :
    Text.Over (fun c => c = ' ' ∨ c = '\t') indent.unit := by
  cases indent with
  | spaces count =>
      exact Text.over_repeated (by simp [Text.Over]) count
  | tab =>
      simp [Text.Over, Indent.unit]

/-- A line is what is left of it without its spaces, behind other blanks. -/
theorem Indent.apply_eq
    (indent : Indent)
    (line : String) :
    ∃ blanks,
      Text.Over (fun c => c = ' ' ∨ c = '\t') blanks ∧
      indent.apply line = blanks ++ String.ofList (line.toList.dropWhile (· = ' ')) := by
  have hspace : Text.Over (fun c => c = ' ' ∨ c = '\t') " " := by
    simp [Text.Over]
  refine ⟨_, ?_, rfl⟩
  rw [Text.over_append]
  exact ⟨Text.over_repeated indent.over_unit _, Text.over_repeated hspace _⟩

/-- A printable line is printable behind its new indentation. -/
theorem Indent.apply_printable
    (indent : Indent)
    {line : String}
    (h : Text.Printable line) :
    Text.PrintableBehindMargin (indent.apply line) := by
  obtain ⟨blanks, hblanks, hline⟩ := indent.apply_eq line
  refine ⟨blanks, _, hline, hblanks, ?_⟩
  intro c hc
  rw [String.toList_ofList] at hc
  exact h c ((List.dropWhile_suffix _).subset hc)

theorem HelperTable.fillLine_printable
    (indent : Indent)
    {identifier line : String}
    (hidentifier : Text.Printable identifier)
    (hline : Text.Printable line) :
    Text.PrintableBehindMargin (fillLine indent identifier line) :=
  indent.apply_printable (Text.over_replaceWord helperPlaceholder hidentifier hline)

namespace MathHelper

/-- Whether a template has lines, all of them printable. -/
def PrintableTemplate (template : List String) : Prop :=
  template ≠ [] ∧ ∀ line ∈ template, Text.Printable line

/-- A function with printable parameters and a printable body. -/
theorem printable_function
    {parameters : String}
    {body : List String}
    (hparameters : Text.Printable parameters)
    (hbody : ∀ line ∈ body, Text.Printable line) :
    PrintableTemplate (function parameters body) := by
  have hopening : Text.Printable ("function " ++ helperPlaceholder ++ "(") := by
    decide
  have hclosing : Text.Printable ")" :=
    Text.printable_ofList rfl
  have hend : Text.Printable "end" :=
    Text.printable_ofList rfl
  refine ⟨List.cons_ne_nil _ _, ?_⟩
  intro line hline
  rcases List.mem_cons.mp hline with rfl | hline
  · exact (hopening.append hparameters).append hclosing
  · rcases List.mem_append.mp hline with hline | hline
    · exact hbody line hline
    · rw [List.mem_singleton.mp hline]
      exact hend

/-- The line that calls the sum is printable if the identifier of the sum is. -/
theorem printable_call
    {opening sum : String}
    (hopening : Text.Printable opening)
    (hsum : Text.Printable sum) :
    Text.Printable (opening ++ sum ++ "(t) / #t") :=
  (hopening.append hsum).append (Text.printable_ofList rfl)

/-- The templates are printable, with any printable identifier of the sum. -/
theorem printable_template?
    {sum name : String}
    (hsum : Text.Printable sum)
    {template : List String}
    (h : template? sum name = some template) :
    PrintableTemplate template := by
  have hmean : Text.Printable ("  return " ++ sum ++ "(t) / #t") :=
    printable_call (Text.printable_ofList rfl) hsum
  have hdeviation : Text.Printable ("  m = #t == 0 and 0 or " ++ sum ++ "(t) / #t") :=
    printable_call (Text.printable_ofList rfl) hsum
  unfold template? at h
  repeat' split at h
  all_goals cases h
  -- a template for each logical name, each a function of one parameter, line by line
  all_goals refine printable_function (Text.printable_ofList rfl) ?_
  all_goals simp only [List.forall_mem_cons]
  all_goals and_intros
  all_goals
    first
    | with_reducible assumption
    | exact Text.printable_ofList rfl
    | exact fun _ hline => nomatch hline

end MathHelper
end MathBlocks

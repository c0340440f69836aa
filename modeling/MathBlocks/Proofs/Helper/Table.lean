import MathBlocks.Helper.Table

/-!
# What a request does to the table of helpers

A request either finds its helper and leaves everything as it is, or adds one helper at the end
with a new identifier. The two cases are stated once here; whatever holds of the table at all times
follows from them.
-/

namespace MathBlocks

/-- A text without one of the characters of a word has no occurrence of it to be replaced. -/
theorem Text.replaceFrom_of_not_mem
    {c : Char}
    {word text : List Char}
    (hword : c ∈ word)
    (htext : c ∉ text)
    (new : List Char) :
    Text.replaceFrom word new 0 text = text := by
  induction text with
  | nil =>
      rfl
  | cons d rest ih =>
      have hrest : c ∉ rest := fun hmem => htext (List.mem_cons_of_mem _ hmem)
      have hoccurs : ¬ word.isPrefixOf (d :: rest) = true := fun hprefix =>
        htext ((List.isPrefixOf_iff_prefix.mp hprefix).subset hword)
      rw [Text.replaceFrom, if_neg hoccurs, ih hrest]

/-- The indentation of a line does not depend on what is behind its first part. -/
theorem Indent.apply_append
    (indent : Indent)
    (first : String)
    {rest : String}
    (hrest : rest.toList.head? ≠ some ' ') :
    indent.apply (first ++ rest) = indent.apply first ++ rest := by
  have htakeRest : rest.toList.takeWhile (· = ' ') = [] := by
    cases hcases : rest.toList with
    | nil =>
        rfl
    | cons c others =>
        rw [hcases] at hrest
        simpa [List.takeWhile_cons] using hrest
  have hdropRest : rest.toList.dropWhile (· = ' ') = rest.toList := by
    have happend := List.takeWhile_append_dropWhile (p := (· = ' ')) (l := rest.toList)
    rwa [htakeRest, List.nil_append] at happend
  have htake : (first ++ rest).toList.takeWhile (· = ' ') = first.toList.takeWhile (· = ' ') := by
    rw [String.toList_append, List.takeWhile_append, htakeRest, List.append_nil]
    split
    · rename_i hlength
      exact ((List.takeWhile_prefix _).eq_of_length hlength).symm
    · rfl
  have hdrop : (first ++ rest).toList.dropWhile (· = ' ') =
      first.toList.dropWhile (· = ' ') ++ rest.toList := by
    rw [String.toList_append, List.dropWhile_append, hdropRest]
    split
    · rename_i hempty
      rw [List.isEmpty_iff.mp hempty, List.nil_append]
    · rfl
  unfold Indent.apply
  rw [htake, hdrop, String.ofList_append, String.ofList_toList]
  simp only [String.append_assoc]

/-- A line one level deep is indented by one unit. -/
theorem Indent.apply_level
    (indent : Indent)
    {body : String}
    (hbody : body.toList.head? ≠ some ' ') :
    indent.apply ("  " ++ body) = indent.unit ++ body := by
  have hlevel : indent.apply "  " = indent.unit := by
    simp [Indent.apply, Text.repeated, String.join_cons]
  rw [indent.apply_append "  " hbody, hlevel]

namespace HelperTable

/-- A line without one of the characters of the placeholder has no place for the identifier. -/
theorem replaceWord_of_not_mem
    {c : Char}
    {line : String}
    (hplaceholder : c ∈ helperPlaceholder.toList)
    (hline : c ∉ line.toList)
    (identifier : String) :
    Text.replaceWord helperPlaceholder identifier line = line := by
  unfold Text.replaceWord
  rw [Text.replaceFrom_of_not_mem hplaceholder hline, String.ofList_toList]

/-- A line one level deep without a place for the identifier is only indented. -/
theorem fillLine_level
    (indent : Indent)
    (identifier : String)
    {body : String}
    (hbody : body.toList.head? ≠ some ' ')
    (hplace : '\x7b' ∉ body.toList) :
    fillLine indent identifier ("  " ++ body) = indent.unit ++ body := by
  have hline : '\x7b' ∉ ("  " ++ body).toList := by
    simpa using hplace
  have hplaceholder : '\x7b' ∈ helperPlaceholder.toList := by
    decide
  unfold fillLine
  rw [replaceWord_of_not_mem hplaceholder hline, indent.apply_level hbody]

/-- The helper that is written for a request. -/
def written
    (table : HelperTable)
    (name identifier : String)
    (template : List String) : Helper where
  logicalName := name
  identifier := identifier
  lines := template.map (fillLine table.indent identifier)

/-- A request for a helper that is there only reads its identifier. -/
theorem request_of_find
    {ν : Type}
    [NameSource ν]
    {table : HelperTable}
    {name : String}
    {helper : Helper}
    (h : table.find? name = some helper)
    (template : List String)
    (names : ν) :
    table.request name template names = (helper.identifier, table, names) := by
  simp [request, h]

/-- A request for a helper that is not there yet adds it at the end, under a new identifier. -/
theorem request_of_new
    {ν : Type}
    [NameSource ν]
    {table : HelperTable}
    {name : String}
    (h : table.find? name = none)
    (template : List String)
    (names : ν) :
    table.request name template names =
      ((NameSource.invent name names).1,
        { table with
          helpers := table.helpers ++
            [table.written name (NameSource.invent name names).1 template] },
        (NameSource.invent name names).2) := by
  simp [request, h, written]

theorem find?_isSome
    (table : HelperTable)
    (name : String) :
    (table.find? name).isSome = true ↔ name ∈ table.helpers.map Helper.logicalName := by
  simp [find?, List.find?_isSome]

/-- Helpers behind those of a table do not change what is found already. -/
theorem find?_append
    {table : HelperTable}
    {name : String}
    {helper : Helper}
    (h : table.find? name = some helper)
    (added : List Helper) :
    HelperTable.find? { table with helpers := table.helpers ++ added } name = some helper := by
  unfold find? at h ⊢
  rw [List.find?_append, h]
  rfl

theorem find?_written
    {table : HelperTable}
    {name : String}
    (h : table.find? name = none)
    (identifier : String)
    (template : List String) :
    HelperTable.find?
        { table with helpers := table.helpers ++ [table.written name identifier template] } name =
      some (table.written name identifier template) := by
  unfold find? at h ⊢
  rw [List.find?_append, h]
  simp [written]

end HelperTable
end MathBlocks

import Mathlib.Data.List.TakeWhile
import MathBlocks.Proofs.Emit.Outline
import MathBlocks.Proofs.Helper.Table

/-!
# Places in the lines of a template

Replacing a word in a text puts something new between the parts that the text falls into when it is
cut at each occurrence of the word. So a line of a template has an outline, with a place wherever
the identifier of the helper goes. The indentation stands before the first place, since no
identifier begins with a space. `HelperTable.FilledFrom` says of two lines, without cutting, that
one comes from the other in this way.
-/

namespace MathBlocks
namespace Text

/--
The part of a text before the first occurrence of `word`, and the parts behind each occurrence. The
number counts the characters still to be passed over, as it does for `replaceFrom`.
-/
def cutFrom
    (word : List Char) :
    Nat → List Char → List Char × List (List Char)
  | _, [] => ([], [])
  | passed + 1, _ :: rest => cutFrom word passed rest
  | 0, c :: rest =>
      if word.isPrefixOf (c :: rest) then
        let (first, others) := cutFrom word (word.length - 1) rest
        ([], first :: others)
      else
        let (first, others) := cutFrom word 0 rest
        (c :: first, others)

/-- What is put in for a word stands before each part but the first. -/
theorem replaceFrom_eq
    (word new : List Char)
    (passed : Nat)
    (text : List Char) :
    replaceFrom word new passed text =
      (cutFrom word passed text).1 ++ (cutFrom word passed text).2.flatMap (new ++ ·) := by
  induction text generalizing passed with
  | nil =>
      cases passed <;> rfl
  | cons c rest ih =>
      cases passed with
      | succ passed =>
          exact ih passed
      | zero =>
          rw [replaceFrom, cutFrom]
          split
          · rw [ih]
            simp
          · rw [ih]
            simp

/-- What replaces a word in the parts that it is cut into is all that is between them. -/
theorem toList_intercalate_cons
    (separator first : String)
    (others : List String) :
    (separator.intercalate (first :: others)).toList =
      first.toList ++ others.flatMap fun part => separator.toList ++ part.toList := by
  induction others generalizing first with
  | nil =>
      simp
  | cons next others ih =>
      rw [String.intercalate_cons_cons, String.toList_append, ih, List.flatMap_cons]
      simp

/-- A word that is replaced by itself leaves the text as it is. -/
theorem replaceFrom_self
    {word : List Char}
    (hword : word ≠ [])
    (passed : Nat)
    (text : List Char) :
    replaceFrom word word passed text = text.drop passed := by
  induction text generalizing passed with
  | nil =>
      cases passed <;> rfl
  | cons c rest ih =>
      cases passed with
      | succ passed =>
          exact ih passed
      | zero =>
          rw [replaceFrom]
          split
          · rename_i hprefix
            obtain ⟨behind, hbehind⟩ := List.isPrefixOf_iff_prefix.mp hprefix
            obtain ⟨first, others, rfl⟩ := List.exists_cons_of_ne_nil hword
            obtain ⟨rfl, hrest⟩ := List.cons.inj hbehind
            rw [ih, ← hrest]
            simp
          · rw [ih]
            rfl

/-- The part before the first occurrence is the beginning of the text. -/
theorem cutFrom_prefix
    (word text : List Char) :
    (cutFrom word 0 text).1 <+: text := by
  induction text with
  | nil =>
      exact List.prefix_rfl
  | cons c rest ih =>
      rw [cutFrom]
      split
      · exact List.nil_prefix
      · exact List.cons_prefix_cons.mpr ⟨rfl, ih⟩

/-- No part that a text is cut into has the word in it. -/
theorem not_infix_of_mem_cutFrom
    {word : List Char}
    (hword : word ≠ [])
    (passed : Nat)
    (text : List Char) :
    ∀ part ∈ (cutFrom word passed text).1 :: (cutFrom word passed text).2, ¬ word <:+: part := by
  induction text generalizing passed with
  | nil =>
      cases passed <;> simpa [cutFrom] using hword
  | cons c rest ih =>
      cases passed with
      | succ passed =>
          exact ih passed
      | zero =>
          rw [cutFrom]
          split
          · intro part hpart
            rcases List.mem_cons.mp hpart with rfl | hpart
            · simpa using hword
            · exact ih _ part hpart
          · rename_i hoccurs
            intro part hpart
            rcases List.mem_cons.mp hpart with rfl | hpart
            · intro hinfix
              rcases List.infix_cons_iff.mp hinfix with hprefix | hinfix
              · -- an occurrence at the beginning of the part is one at that of the text
                have hwhole := hprefix.trans
                  (List.cons_prefix_cons.mpr ⟨rfl, cutFrom_prefix word rest⟩)
                exact hoccurs (List.isPrefixOf_iff_prefix.mpr hwhole)
              · exact ih 0 _ List.mem_cons_self hinfix
            · exact ih 0 part (List.mem_cons_of_mem _ hpart)

/-- Replacing a word puts something else between the parts that the text has around it. -/
theorem replaceWord_eq_intercalate
    {word : String}
    (hword : word ≠ "")
    (text : String) :
    ∃ parts,
      text = word.intercalate parts ∧
      (∀ part ∈ parts, ¬ word.toList <:+: part.toList) ∧
      ∀ new, replaceWord word new text = new.intercalate parts := by
  have hlist : word.toList ≠ [] := fun h => hword (String.toList_eq_nil_iff.mp h)
  obtain ⟨parts, hcut⟩ : ∃ parts, parts =
      String.ofList (cutFrom word.toList 0 text.toList).1 ::
        (cutFrom word.toList 0 text.toList).2.map String.ofList := ⟨_, rfl⟩
  have hparts (new : String) :
      (new.intercalate parts).toList = replaceFrom word.toList new.toList 0 text.toList := by
    rw [hcut, toList_intercalate_cons, replaceFrom_eq]
    simp [List.flatMap_map]
  refine ⟨parts, ?_, ?_, fun new => ?_⟩
  · have hself := hparts word
    rw [replaceFrom_self hlist] at hself
    exact String.toList_injective hself.symm
  · intro part hpart
    rw [hcut, ← List.map_cons] at hpart
    obtain ⟨chars, hchars, rfl⟩ := List.mem_map.mp hpart
    rw [String.toList_ofList]
    exact not_infix_of_mem_cutFrom hlist 0 text.toList chars hchars
  · rw [← String.toList_inj, hparts, replaceWord, String.toList_ofList]

end Text

/-- A line is what is behind its blanks, with a unit for every two of them and a blank left over. -/
theorem Indent.apply_spaces
    (indent : Indent)
    (line : String) :
    ∃ blanks body,
      line = Text.repeated blanks " " ++ body ∧
      body.toList.head? ≠ some ' ' ∧
      indent.apply line =
        Text.repeated (blanks / 2) indent.unit ++ Text.repeated (blanks % 2) " " ++ body := by
  have hspaces : line.toList.takeWhile (· = ' ') =
      List.replicate (line.toList.takeWhile (· = ' ')).length ' ' :=
    List.eq_replicate_iff.mpr ⟨rfl, fun c hc => by simpa using List.mem_takeWhile_imp hc⟩
  refine ⟨(line.toList.takeWhile (· = ' ')).length,
    String.ofList (line.toList.dropWhile (· = ' ')), ?_, ?_, rfl⟩
  · have hone : (Text.repeated (line.toList.takeWhile (· = ' ')).length " ").toList =
        line.toList.takeWhile (· = ' ') := by
      rw [Text.toList_repeated]
      simpa using hspaces.symm
    rw [← String.toList_inj, String.toList_append, String.toList_ofList, hone,
      List.takeWhile_append_dropWhile]
  · rw [String.toList_ofList]
    intro hhead
    have hnot := List.head?_dropWhile_not (fun c : Char => decide (c = ' ')) line.toList
    rw [hhead] at hnot
    simp at hnot

/--
Whether a line of a helper comes from a line of a template: the identifier stands wherever the
placeholder does, and every two blanks at the beginning have become a unit of indentation.
-/
def HelperTable.FilledFrom
    (indent : Indent)
    (identifier line written : String) : Prop :=
  ∃ parts blanks body,
    line = helperPlaceholder.intercalate parts ∧
    (∀ part ∈ parts, ¬ helperPlaceholder.toList <:+: part.toList) ∧
    identifier.intercalate parts = Text.repeated blanks " " ++ body ∧
    body.toList.head? ≠ some ' ' ∧
    written = Text.repeated (blanks / 2) indent.unit ++ Text.repeated (blanks % 2) " " ++ body

theorem HelperTable.filledFrom_fillLine
    (indent : Indent)
    (identifier line : String) :
    FilledFrom indent identifier line (fillLine indent identifier line) := by
  have hplaceholder : helperPlaceholder ≠ "" := by
    decide
  obtain ⟨parts, hline, hparts, hreplace⟩ := Text.replaceWord_eq_intercalate hplaceholder line
  obtain ⟨blanks, body, hbody, hhead, happly⟩ := indent.apply_spaces (identifier.intercalate parts)
  refine ⟨parts, blanks, body, hline, hparts, hbody, hhead, ?_⟩
  rw [fillLine, hreplace, happly]

/-- The outline of a line of a template, indented, with places for the identifier of the helper. -/
def Outline.ofLine
    (indent : Indent)
    (label : Label)
    (line : String) : Outline :=
  let (first, others) := Text.cutFrom helperPlaceholder.toList 0 line.toList
  .text (indent.apply (String.ofList first)) ::
    others.flatMap fun part => [.place label, .text (String.ofList part)]

/-- A line of a template is written after its outline. -/
theorem Naming.Fills.ofLine
    {naming : Naming}
    {label : Label}
    {identifier : String}
    (hlabel : naming.Gives label identifier)
    (hproper : Identifier.IsIdentifier identifier.toList)
    (indent : Indent)
    (line : String) :
    naming.Fills (HelperTable.fillLine indent identifier line)
      (Outline.ofLine indent label line) := by
  unfold HelperTable.fillLine Text.replaceWord Outline.ofLine
  rw [Text.replaceFrom_eq]
  obtain ⟨first, others⟩ := Text.cutFrom helperPlaceholder.toList 0 line.toList
  simp only [String.ofList_append]
  have hothers : naming.Fills (String.ofList (others.flatMap (identifier.toList ++ ·)))
      (others.flatMap fun part => [.place label, .text (String.ofList part)]) := by
    induction others with
    | nil =>
        exact .nil
    | cons part others ih =>
        rw [List.flatMap_cons, List.flatMap_cons, List.append_assoc, String.ofList_append,
          String.ofList_append, String.ofList_toList]
        exact .place hlabel hproper (.text _ ih)
  have hhead : (String.ofList (others.flatMap (identifier.toList ++ ·))).toList.head? ≠
      some ' ' := by
    rw [String.toList_ofList]
    cases others with
    | nil =>
        simp
    | cons part others =>
        obtain ⟨c, rest, hlist, _, hparts⟩ := hproper
        have hspace : c ≠ ' ' := by
          rintro rfl
          exact absurd (hparts _ List.mem_cons_self) (by decide)
        simp [hlist, hspace]
  rw [indent.apply_append _ hhead]
  exact .text _ hothers

end MathBlocks

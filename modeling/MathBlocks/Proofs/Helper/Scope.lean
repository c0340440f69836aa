import MathBlocks.Proofs.Helper.Lines
import MathBlocks.Proofs.Helper.Order
import MathBlocks.Proofs.Helper.Places
import MathBlocks.Proofs.Lua.Script.Reader
import MathBlocks.Proofs.Traversal

/-!
# What helpers refer to

The text of each helper of the math blocks is read as the definition of a function, whatever the
indentation and the identifiers are. What such a function refers to is bound in it, or it is one of
five globals of the language or the sum; and all that it assigns to is bound in it.
-/

namespace MathBlocks

open Lua

/-- The globals of the language that helpers and expressions refer to. -/
def Lua.Script.globals : List String :=
  ["math", "table", "ipairs", "pairs", "type"]

/--
Whether a function refers to nothing but globals of the language and at most one other function,
which nothing in it binds, and assigns to nothing that it does not bind.
-/
structure Lua.Script.Function.IsClosed
    (callee? : Option String)
    (function : Script.Function) : Prop where
  refers : ∀ name, function.RefersTo name → name ∈ Script.globals ∨ callee? = some name
  unbound : ∀ callee, callee? = some callee → callee ∉ function.binders
  assigns : ∀ name, ¬ function.AssignsTo name

/-- Whether the text of a helper defines a closed function under the identifier of the helper. -/
def Helper.IsClosed
    (callee? : Option String)
    (helper : Helper) : Prop :=
  ∃ function,
    Script.Function.ofText? helper.text = some function ∧
    function.name = helper.identifier ∧
    function.IsClosed callee?

/-- A line has the same tokens in every style of indentation. -/
theorem Indent.lex_apply
    (indent : Indent)
    (line : String) :
    Script.lex (indent.apply line) = Script.lex line := by
  obtain ⟨blanks, hblanks, hline⟩ := indent.apply_eq line
  have hspaces : ∀ c ∈ line.toList.takeWhile (· = ' '), c = ' ' ∨ c = '\t' := by
    intro c hc
    exact Or.inl (by simpa using List.all_eq_true.mp List.all_takeWhile c hc)
  have hown : Script.lex line =
      Script.lexFrom .nothing (line.toList.dropWhile (· = ' ')) := by
    have hsplit := Script.lexFrom_blanks hspaces (line.toList.dropWhile (· = ' '))
    rwa [List.takeWhile_append_dropWhile] at hsplit
  rw [hown, hline, Script.lex, String.toList_append, String.toList_ofList]
  exact Script.lexFrom_blanks hblanks _

namespace HelperTable

/-- A line without a place for the identifier has the same tokens in every helper. -/
theorem lex_fillLine
    {identifier line : String}
    (hline : Text.replaceWord helperPlaceholder identifier line = line)
    (indent : Indent) :
    Script.lex (fillLine indent identifier line) = Script.lex line := by
  rw [fillLine, indent.lex_apply, hline]

/-- The first line of a helper has its identifier between the keyword and the parameters. -/
theorem lex_fillLine_opening
    {identifier parameters : String}
    (hproper : Identifier.IsIdentifier identifier.toList)
    (hkeyword : identifier ∉ keywords)
    (hparameters : Text.cutFrom helperPlaceholder.toList 0
        ("function " ++ helperPlaceholder ++ "(" ++ parameters ++ ")").toList =
      ("function ".toList, [("(" ++ parameters ++ ")").toList]))
    (indent : Indent)
    {tokens : List Script.Token}
    (htokens : Script.lex ("(" ++ parameters ++ ")") = some tokens) :
    Script.lex (fillLine indent identifier
        ("function " ++ helperPlaceholder ++ "(" ++ parameters ++ ")")) =
      some (.keyword "function" :: .name identifier :: tokens) := by
  have hreplace : Text.replaceWord helperPlaceholder identifier
      ("function " ++ helperPlaceholder ++ "(" ++ parameters ++ ")") =
      "function " ++ identifier ++ ("(" ++ parameters ++ ")") := by
    rw [Text.replaceWord, Text.replaceFrom_eq, hparameters]
    simp [← String.toList_inj]
  have hfirst : Script.scan .nothing "function ".toList =
      some ([.keyword "function"], .nothing) := by
    decide +kernel
  have hend : ∀ c ∈ ("(" ++ parameters ++ ")").toList.head?, Identifier.isPart c = false := by
    intro c hc
    have hparen : '(' = c := by simpa using hc
    rw [← hparen]
    decide
  rw [fillLine, indent.lex_apply, hreplace]
  exact Script.lex_around_name hproper hkeyword hfirst hend htokens

end HelperTable

namespace MathHelper

open Script (Body Term)

/-- The parameters and the body of a function, behind its identifier. -/
def definition?
    (parameters : String)
    (body : List String) : Option (List String × Body) :=
  (((("(" ++ parameters ++ ")") :: body) ++ ["end"]).mapM Script.lex).bind fun tokens =>
    Script.readDefinition tokens.flatten

/-- A function is read with its identifier from the text that it has in a program. -/
theorem ofText?_function
    {identifier parameters : String}
    {body : List String}
    (hproper : Identifier.IsIdentifier identifier.toList)
    (hkeyword : identifier ∉ keywords)
    (hparameters : Text.cutFrom helperPlaceholder.toList 0
        ("function " ++ helperPlaceholder ++ "(" ++ parameters ++ ")").toList =
      ("function ".toList, [("(" ++ parameters ++ ")").toList]))
    (hbody : ∀ line ∈ body, Text.replaceWord helperPlaceholder identifier line = line)
    (indent : Indent)
    {definition : List String × Body}
    (hdefinition : definition? parameters body = some definition) :
    Script.Function.ofText?
        ("\n".intercalate
          ((function parameters body).map (HelperTable.fillLine indent identifier))) =
      some ⟨identifier, definition.1, definition.2⟩ := by
  obtain ⟨tokens, htokens, hread⟩ := Option.bind_eq_some_iff.mp hdefinition
  rw [List.cons_append, List.mapM_cons] at htokens
  obtain ⟨opening, hopening, hothers⟩ := Option.bind_eq_some_iff.mp htokens
  obtain ⟨rest, hrest, hlist⟩ := Option.bind_eq_some_iff.mp hothers
  cases hlist
  have hend : Text.replaceWord helperPlaceholder identifier "end" = "end" := by
    rw [Text.replaceWord, Text.replaceFrom_eq]
    rfl
  have hlines : ((body ++ ["end"]).map (HelperTable.fillLine indent identifier)).mapM Script.lex =
      some rest := by
    rw [← hrest, List.mapM_map]
    refine mapM_congr ?_
    intro line hline
    rcases List.mem_append.mp hline with hline | hline
    · exact HelperTable.lex_fillLine (hbody line hline) indent
    · rw [List.mem_singleton.mp hline]
      exact HelperTable.lex_fillLine hend indent
  have hfirst := HelperTable.lex_fillLine_opening hproper hkeyword hparameters indent hopening
  have hlex : Script.lex ("\n".intercalate
      ((function parameters body).map (HelperTable.fillLine indent identifier))) =
      some (.keyword "function" :: .name identifier :: (opening :: rest).flatten) := by
    rw [Script.lex_lines (by simp [function])]
    simp only [function, List.cons_append, List.map_cons, List.mapM_cons, hfirst, hlines,
      Option.bind_eq_bind, Option.bind_some, Option.pure_def, Option.map_some, List.flatten_cons]
  rw [Script.Function.ofText?, hlex]
  simp only [Option.bind_some, Script.Function.ofTokens?, hread, Option.map_some]

/-- The lines of a body around the one that calls the sum are read as they are. -/
theorem definition?_around_sum
    {sum opening : String}
    {before after : List String}
    {front back : List (List Script.Token)}
    {first : List Script.Token}
    (hproper : Identifier.IsIdentifier sum.toList)
    (hkeyword : sum ∉ keywords)
    (hbefore : ("(t)" :: before).mapM Script.lex = some front)
    (hopening : Script.scan .nothing opening.toList = some (first, .nothing))
    (hafter : (after ++ ["end"]).mapM Script.lex = some back) :
    definition? "t" (before ++ (opening ++ sum ++ "(t) / #t") :: after) =
      Script.readDefinition
        (front.flatten ++
          (first ++ [.name sum, .openParen, .name "t", .closeParen, .operator .over, .length,
            .name "t"]) ++
          back.flatten) := by
  have hend : ∀ c ∈ "(t) / #t".toList.head?, Identifier.isPart c = false := by
    simp [Identifier.isPart, Char.isAlphanum]
  have hlast : Script.lex "(t) / #t" =
      some [.openParen, .name "t", .closeParen, .operator .over, .length, .name "t"] := by
    decide +kernel
  have hcall := Script.lex_around_name hproper hkeyword hopening hend hlast
  have hlines :
      ("(" ++ "t" ++ ")") :: (before ++ (opening ++ sum ++ "(t) / #t") :: after) ++ ["end"] =
      ("(t)" :: before) ++ (opening ++ sum ++ "(t) / #t") :: (after ++ ["end"]) := by
    simp
  rw [definition?, hlines, List.mapM_append, hbefore, List.mapM_cons, hcall, hafter]
  simp

/-- The number of entries of the list that a helper is given. -/
def lengthTerm : Term :=
  .unary .length (.name "t")

/-- Whether the list that a helper is given has no entries. -/
def emptyTerm : Term :=
  .binary (.operator .equal) lengthTerm (.numeral "0")

/-- The mean of the list that a helper is given, with the sum by the helper of that identifier. -/
def meanTerm (sum : String) : Term :=
  .binary (.operator .over) (.call (.name sum) (.ofList [.name "t"])) lengthTerm

/-- The body of the mean. -/
def averageBody (sum : String) : Body :=
  .ofList
    [.branch emptyTerm (.ofList [.result (.ofList [.numeral "0"])]) .done,
     .result (.ofList [meanTerm sum])]

/-- The body of the standard deviation. -/
def standardDeviationBody (sum : String) : Body :=
  .ofList
    [.declare ["m"] .empty,
     .declare ["vm"] .empty,
     .declare ["total"] (.ofList [.numeral "0"]),
     .declare ["count"] (.ofList [.numeral "0"]),
     .declare ["result"] .empty,
     .assign (.name "m")
       (.binary .or (.binary .and emptyTerm (.numeral "0")) (meanTerm sum)),
     .each ["_", "v"] (.ofList [.call (.name "ipairs") (.ofList [.name "t"])])
       (.ofList
         [.branch
           (.binary (.operator .equal) (.call (.name "type") (.ofList [.name "v"]))
             (.string "number"))
           (.ofList
             [.assign (.name "vm") (.binary (.operator .minus) (.name "v") (.name "m")),
              .assign (.name "total")
                (.binary (.operator .plus) (.name "total")
                  (.binary (.operator .times) (.name "vm") (.name "vm"))),
              .assign (.name "count")
                (.binary (.operator .plus) (.name "count") (.numeral "1"))])
           .done]),
     .assign (.name "result")
       (.call (.field (.name "math") "sqrt")
         (.ofList
           [.binary (.operator .over) (.name "total")
             (.binary (.operator .minus) (.name "count") (.numeral "1"))])),
     .result (.ofList [.name "result"])]

theorem average_definition?
    {sum : String}
    (hproper : Identifier.IsIdentifier sum.toList)
    (hkeyword : sum ∉ keywords) :
    definition? "t"
        ["  if #t == 0 then", "    return 0", "  end", "  return " ++ sum ++ "(t) / #t"] =
      some (["t"], averageBody sum) := by
  have hbefore : ["(t)", "  if #t == 0 then", "    return 0", "  end"].mapM Script.lex =
      some
        [[.openParen, .name "t", .closeParen],
         [.keyword "if", .length, .name "t", .operator .equal, .numeral "0", .keyword "then"],
         [.keyword "return", .numeral "0"],
         [.keyword "end"]] := by
    decide +kernel
  have hopening : Script.scan .nothing "  return ".toList =
      some ([.keyword "return"], .nothing) := by
    decide +kernel
  have hafter : (([] : List String) ++ ["end"]).mapM Script.lex = some [[.keyword "end"]] := by
    decide +kernel
  exact definition?_around_sum hproper hkeyword hbefore hopening hafter

theorem standardDeviation_definition?
    {sum : String}
    (hproper : Identifier.IsIdentifier sum.toList)
    (hkeyword : sum ∉ keywords) :
    definition? "t"
        ["  local m", "  local vm", "  local total = 0", "  local count = 0", "  local result",
         "  m = #t == 0 and 0 or " ++ sum ++ "(t) / #t", "  for _, v in ipairs(t) do",
         "    if type(v) == 'number' then", "      vm = v - m", "      total = total + (vm * vm)",
         "      count = count + 1", "    end", "  end", "  result = math.sqrt(total / (count - 1))",
         "  return result"] =
      some (["t"], standardDeviationBody sum) := by
  have hbefore : ["(t)", "  local m", "  local vm", "  local total = 0", "  local count = 0",
      "  local result"].mapM Script.lex =
      some
        [[.openParen, .name "t", .closeParen],
         [.keyword "local", .name "m"],
         [.keyword "local", .name "vm"],
         [.keyword "local", .name "total", .assign, .numeral "0"],
         [.keyword "local", .name "count", .assign, .numeral "0"],
         [.keyword "local", .name "result"]] := by
    decide +kernel
  have hopening : Script.scan .nothing "  m = #t == 0 and 0 or ".toList =
      some
        ([.name "m", .assign, .length, .name "t", .operator .equal, .numeral "0", .keyword "and",
          .numeral "0", .keyword "or"], .nothing) := by
    decide +kernel
  have hafter : (["  for _, v in ipairs(t) do", "    if type(v) == 'number' then",
      "      vm = v - m", "      total = total + (vm * vm)", "      count = count + 1", "    end",
      "  end", "  result = math.sqrt(total / (count - 1))", "  return result"] ++
      ["end"]).mapM Script.lex =
      some
        [[.keyword "for", .name "_", .comma, .name "v", .keyword "in", .name "ipairs", .openParen,
          .name "t", .closeParen, .keyword "do"],
         [.keyword "if", .name "type", .openParen, .name "v", .closeParen, .operator .equal,
          .string "number", .keyword "then"],
         [.name "vm", .assign, .name "v", .operator .minus, .name "m"],
         [.name "total", .assign, .name "total", .operator .plus, .openParen, .name "vm",
          .operator .times, .name "vm", .closeParen],
         [.name "count", .assign, .name "count", .operator .plus, .numeral "1"],
         [.keyword "end"],
         [.keyword "end"],
         [.name "result", .assign, .name "math", .dot, .name "sqrt", .openParen, .name "total",
          .operator .over, .openParen, .name "count", .operator .minus, .numeral "1", .closeParen,
          .closeParen],
         [.keyword "return", .name "result"],
         [.keyword "end"]] := by
    decide +kernel
  exact definition?_around_sum hproper hkeyword hbefore hopening hafter

section Reading

variable {name identifier : String} (hproper : Identifier.IsIdentifier identifier.toList)
variable (hkeyword : identifier ∉ keywords) (indent : Indent)
include hproper hkeyword

/--
A template that holds no other identifier is read where it is written out. That no letter of its
body is a certain one of the placeholder shows that there is no place in the body.
-/
theorem isClosed_function
    {parameters : String}
    {body : List String}
    (hparameters : Text.cutFrom helperPlaceholder.toList 0
        ("function " ++ helperPlaceholder ++ "(" ++ parameters ++ ")").toList =
      ("function ".toList, [("(" ++ parameters ++ ")").toList]))
    (hbody : ∀ line ∈ body, 'F' ∉ line.toList)
    (hwithin : ∃ definition ∈ definition? parameters body,
      Script.Function.Within Script.globals ⟨"", definition.1, definition.2⟩) :
    Helper.IsClosed none
      ⟨name, identifier,
        (function parameters body).map (HelperTable.fillLine indent identifier)⟩ := by
  obtain ⟨definition, hdefinition, hknown⟩ := hwithin
  have hreplace : ∀ line ∈ body, Text.replaceWord helperPlaceholder identifier line = line :=
    fun line hline => HelperTable.replaceWord_of_not_mem (by decide) (hbody line hline) identifier
  have hwithin : Script.Function.Within Script.globals
      ⟨identifier, definition.1, definition.2⟩ := hknown
  exact ⟨_, ofText?_function hproper hkeyword hparameters hreplace indent hdefinition, rfl,
    fun _ hrefers => Or.inl (hwithin.mem_of_refersTo hrefers), (by simp), hwithin.not_assignsTo⟩

/-- A helper that does not call the sum refers to globals of the language alone. -/
theorem isClosed_of_not_callsSum
    {sum : String}
    {template : List String}
    (hcalls : ¬ CallsSum name)
    (h : template? sum name = some template) :
    Helper.IsClosed none
      ⟨name, identifier, template.map (HelperTable.fillLine indent identifier)⟩ := by
  have haverage : name ≠ averageName := fun heq => hcalls (Or.inl heq)
  have hdeviation : name ≠ standardDeviationName := fun heq => hcalls (Or.inr heq)
  simp only [template?, haverage, hdeviation, if_false] at h
  repeat' split at h
  all_goals cases h
  -- the templates that are left hold no identifier but their own, so each is read by evaluation
  all_goals refine isClosed_function hproper hkeyword indent ?_ ?_ ?_
  all_goals decide +kernel

section Calling

variable {sum : String} (hsumProper : Identifier.IsIdentifier sum.toList)
variable (hsumKeyword : sum ∉ keywords) (hsumName : sumName.toList <+: sum.toList)
include hsumName

/-- A function of a list that calls the sum and binds no name like it is read as one that does. -/
theorem isClosed_calling
    {body : List String}
    {meant : Body}
    {names : List String}
    (hbody : ∀ line ∈ body, '\x7b' ∉ line.toList)
    (hdefinition : definition? "t" body = some (["t"], meant))
    (hbinders : (Script.Function.mk identifier ["t"] meant).binders = names)
    (hnames : ∀ name ∈ names, ¬ sumName.toList <+: name.toList)
    (hwithin : Script.Function.Within (sum :: Script.globals) ⟨identifier, ["t"], meant⟩) :
    Helper.IsClosed (some sum)
      ⟨name, identifier, (function "t" body).map (HelperTable.fillLine indent identifier)⟩ := by
  have hreplace : ∀ line ∈ body, Text.replaceWord helperPlaceholder identifier line = line :=
    fun line hline => HelperTable.replaceWord_of_not_mem (by decide) (hbody line hline) identifier
  refine ⟨_, ofText?_function hproper hkeyword (by decide +kernel) hreplace indent hdefinition,
    rfl, ?_, ?_, hwithin.not_assignsTo⟩
  · intro name hrefers
    rcases List.mem_cons.mp (hwithin.mem_of_refersTo hrefers) with rfl | hglobal
    · exact Or.inr rfl
    · exact Or.inl hglobal
  · rintro _ ⟨rfl⟩ hmem
    rw [hbinders] at hmem
    exact hnames sum hmem hsumName

include hsumProper hsumKeyword

/-- A helper that calls the sum refers to it and to globals of the language alone. -/
theorem isClosed_of_callsSum
    {template : List String}
    (hcalls : CallsSum name)
    (h : template? sum name = some template) :
    Helper.IsClosed (some sum)
      ⟨name, identifier, template.map (HelperTable.fillLine indent identifier)⟩ := by
  have hbrace : '\x7b' ∉ sum.toList := hsumProper.not_mem (by decide)
  rcases hcalls with rfl | rfl
  · obtain rfl : average sum = template := Option.some.inj h
    have hnames : ∀ name ∈ ["t"], ¬ sumName.toList <+: name.toList := by
      decide
    refine isClosed_calling hproper hkeyword indent hsumName ?_
      (average_definition? hsumProper hsumKeyword) rfl hnames ?_
    · simp [hbrace]
    · simp [Script.Function.Within, Script.Function.references, Script.Function.targets,
        averageBody, meanTerm, emptyTerm, lengthTerm]
  · obtain rfl : standardDeviation sum = template := Option.some.inj h
    have hnames : ∀ name ∈ ["t", "m", "vm", "total", "count", "result", "_", "v"],
        ¬ sumName.toList <+: name.toList := by
      decide
    refine isClosed_calling hproper hkeyword indent hsumName ?_
      (standardDeviation_definition? hsumProper hsumKeyword) rfl hnames ?_
    · simp [hbrace]
    · simp [Script.Function.Within, Script.Function.references, Script.Function.targets,
        standardDeviationBody, meanTerm, emptyTerm, lengthTerm, Script.globals]

end Calling
end Reading

end MathHelper
end MathBlocks

import MathBlocks.Proofs.CommandLine.Arguments
import MathBlocks.Proofs.CommandLine.Folder
import MathBlocks.Proofs.CommandLine.Output

/-!
# What the commands leave behind

Both commands read the same files in the same order, and whether they succeed depends on nothing
but whether there is a compiled program. A check and a compilation that prints leave all files as
they are. A compilation that writes to a file does so once, at its end, and prints nothing.
-/

namespace MathBlocks
namespace CommandLine

/-- A run for arguments that make sense is one of the request that they are. -/
theorem run_of_request
    {arguments : List String}
    {request : Request}
    (h : Request.ofArguments arguments = .ok request)
    (folder : Folder) :
    run arguments folder = (request.plan folder.read).run folder := by
  unfold run plan
  rw [h]

section Plans

variable {files : Files} {input : String} {config : Option String}

/-- Without a compiled program, a compilation fails before anything is printed or written. -/
theorem compilePlan_of_none
    (h : compiled? files input config = none)
    (output : Option String)
    (format : ProgramFormat)
    (verbose : Bool) :
    ∃ stderr,
      compilePlan files input output format config verbose = .finish ⟨1, "", stderr⟩ := by
  unfold compiled? at h
  unfold compilePlan
  cases hload : load files input config with
  | error failure =>
      exact ⟨_, rfl⟩
  | ok loaded =>
      obtain ⟨program, settings⟩ := loaded
      cases hcompile : ((Compiler.new settings).compile program).1 with
      | error fault =>
          simp only [hcompile]
          exact ⟨_, rfl⟩
      | ok lua =>
          simp [hload, hcompile, Except.toOption] at h

/-- A compiled program is printed, or it is the text to be written, after which nothing is left. -/
theorem compilePlan_of_some
    {lua : LuaProgram}
    (h : compiled? files input config = some lua)
    (format : ProgramFormat)
    (verbose : Bool) :
    (∃ stderr,
      compilePlan files input none format config verbose =
        .finish ⟨0, lua.written format .none, stderr⟩) ∧
    ∀ path, ∃ next : Except FileFault Unit → Outcome,
      compilePlan files input (some path) format config verbose =
        .write path (lua.written format .none) next ∧
      (∃ stderr, next (.ok ()) = ⟨0, "", stderr⟩) ∧
      ∀ fault, ∃ stderr, next (.error fault) = ⟨1, "", stderr⟩ := by
  unfold compiled? at h
  unfold compilePlan
  cases hload : load files input config with
  | error failure =>
      simp [hload, Except.toOption] at h
  | ok loaded =>
      obtain ⟨program, settings⟩ := loaded
      cases hcompile : ((Compiler.new settings).compile program).1 with
      | error fault =>
          simp [hload, hcompile, Except.toOption] at h
      | ok compiled =>
          obtain rfl : compiled = lua := by
            simpa [hload, hcompile, Except.toOption] using h
          simp only [hcompile]
          exact ⟨⟨_, rfl⟩, fun path => ⟨_, rfl, ⟨_, rfl⟩, fun fault => ⟨_, rfl⟩⟩⟩

/-- A compilation without an output writes nothing, and succeeds if there is a compiled program. -/
theorem compilePlan_printing
    (files : Files)
    (input : String)
    (format : ProgramFormat)
    (config : Option String)
    (verbose : Bool) :
    ∃ outcome,
      compilePlan files input none format config verbose = .finish outcome ∧
      (outcome.exit = 0 ↔ (compiled? files input config).isSome = true) := by
  cases h : compiled? files input config with
  | none =>
      obtain ⟨stderr, hplan⟩ := compilePlan_of_none h none format verbose
      exact ⟨_, hplan, by simp⟩
  | some lua =>
      obtain ⟨⟨stderr, hplan⟩, _⟩ := compilePlan_of_some h format verbose
      exact ⟨_, hplan, by simp⟩

section Refused

variable {program : Program} {settings : Settings} {fault : Fault}

/-- A compilation reports the fault of a program as the cause of its failure. -/
theorem compilePlan_of_fault
    (hload : load files input config = .ok (program, settings))
    (hfault : ((Compiler.new settings).compile program).1 = .error fault)
    (output : Option String)
    (format : ProgramFormat)
    (verbose : Bool) :
    ∃ before,
      compilePlan files input output format config verbose =
        .finish
          (Failure.outcome ⟨"generating Lua for " ++ input, some fault.message⟩ "" before) := by
  unfold compilePlan
  rw [hload]
  simp only [hfault]
  exact ⟨_, rfl⟩

/-- A check reports the fault of a program behind its verdict. -/
theorem validateOutcome_of_fault
    (hload : load files input config = .ok (program, settings))
    (hfault : ((Compiler.new settings).compile program).1 = .error fault)
    (verbose : Bool) :
    validateOutcome files input config verbose =
      Failure.outcome ⟨"Validation failed", none⟩
        (validateHeader input verbose ++ " INVALID\n\nGeneration Error:\n" ++ fault.message ++
          "\n") "" := by
  unfold validateOutcome
  rw [hload]
  simp only [hfault]

end Refused

/-- A check succeeds if and only if there is a compiled program. -/
theorem validateOutcome_exit_iff
    (files : Files)
    (input : String)
    (config : Option String)
    (verbose : Bool) :
    (validateOutcome files input config verbose).exit = 0 ↔
      (compiled? files input config).isSome = true := by
  unfold validateOutcome compiled?
  cases hload : load files input config with
  | error failure =>
      simp [Failure.outcome, Except.toOption]
  | ok loaded =>
      obtain ⟨program, settings⟩ := loaded
      cases hcompile : ((Compiler.new settings).compile program).1 with
      | error fault =>
          simp [hcompile, Failure.outcome, Except.toOption]
      | ok lua =>
          simp [hcompile, Except.toOption]

end Plans

/--
A check and a compilation of the same files without an output both leave the files as they are, and
one succeeds if and only if the other does. If the files can be read and the program is refused,
both report the fault: the check behind its verdict, the compilation as the cause of its failure.
Arguments of a check make sense for such a compilation, in either format.
-/
theorem commands_agree
    (folder : Folder)
    (arguments : List String)
    (input : String)
    (config : Option String)
    (verbose : Bool)
    (hvalidate :
      Request.ofArguments ("validate" :: arguments) = .ok (.validate input config verbose)) :
    let checked := run ("validate" :: arguments) folder
    checked.2 = folder ∧
    Request.ofArguments ("compile" :: arguments) =
      .ok (.compile input none .text config verbose) ∧
    Request.ofArguments ("compile" :: "--format" :: "json" :: arguments) =
      .ok (.compile input none .json config verbose) ∧
    ∀ others format otherVerbose,
      Request.ofArguments others = .ok (.compile input none format config otherVerbose) →
      let compiled := run others folder
      compiled.2 = folder ∧
      (checked.1.exit = 0 ↔ compiled.1.exit = 0) ∧
      ∀ program settings fault,
        readProgram folder.read input = .ok program →
        readSettings folder.read config = .ok settings →
        ((Compiler.new settings).compile program).1 = .error fault →
        checked.1.exit = 1 ∧
        compiled.1.exit = 1 ∧
        checked.1.stdout =
          validateHeader input verbose ++ " INVALID\n\nGeneration Error:\n" ++ fault.message ++
            "\n" ∧
        ∃ before,
          compiled.1.stderr =
            before ++ "Error: generating Lua for " ++ input ++ "\n\nCaused by:\n" ++
              indented fault.message ++ "\n" := by
  intro checked
  obtain ⟨htext, hjson⟩ := compile_of_validate hvalidate
  have hchecked : checked = (validateOutcome folder.read input config verbose, folder) :=
    run_of_request hvalidate folder
  refine ⟨by rw [hchecked], htext, hjson, ?_⟩
  intro others format otherVerbose hcompile compiled
  have hcompiled : compiled =
      (compilePlan folder.read input none format config otherVerbose).run folder :=
    run_of_request hcompile folder
  obtain ⟨outcome, hplan, hexit⟩ :=
    compilePlan_printing folder.read input format config otherVerbose
  rw [hplan] at hcompiled
  rw [hchecked, hcompiled]
  refine ⟨rfl, (validateOutcome_exit_iff folder.read input config verbose).trans hexit.symm, ?_⟩
  · intro program settings fault hprogram hsettings hfault
    have hload : load folder.read input config = .ok (program, settings) := by
      unfold load
      rw [hprogram, hsettings]
      rfl
    obtain ⟨before, hfailure⟩ := compilePlan_of_fault hload hfault none format otherVerbose
    obtain rfl := Plan.finish.inj (hplan.symm.trans hfailure)
    have hreport : Failure.report ⟨"generating Lua for " ++ input, some fault.message⟩ =
        "Error: generating Lua for " ++ input ++ "\n\nCaused by:\n" ++ indented fault.message ++
          "\n" := by
      simp [Failure.report, ← String.toList_inj]
    rw [validateOutcome_of_fault hload hfault]
    refine ⟨rfl, rfl, rfl, before, ?_⟩
    show before ++ Failure.report _ = _
    rw [hreport]
    simp only [String.append_assoc]

/-- A program with a block of no known type is refused by both commands. -/
theorem commands_agree_unknown :
    let folder : Folder :=
      ⟨[("p.json", some "\x7b\"blocks\":[\x7b\"type\":\"loop\"\x7d]\x7d")]⟩
    Request.ofArguments ["validate", "p.json"] = .ok (.validate "p.json" none false) ∧
    ((run ["validate", "p.json"] folder).1.exit = 0 ↔
      (run ["compile", "p.json"] folder).1.exit = 0) ∧
    (run ["validate", "p.json"] folder).1.stdout =
      " INVALID\n\nGeneration Error:\nUnrecognized block type: loop\n" := by
  intro folder
  have hvalidate : Request.ofArguments ["validate", "p.json"] =
      .ok (.validate "p.json" none false) := by
    decide +kernel
  obtain ⟨_, htext, _, hagree⟩ :=
    commands_agree folder ["p.json"] "p.json" none false hvalidate
  obtain ⟨_, hexit, hfault⟩ := hagree _ .text false htext
  obtain ⟨_, _, hstdout, _⟩ :=
    hfault ⟨[.node "loop" [] .empty]⟩ .standard (.unknownTag .blockType "loop")
      (by decide +kernel) rfl (by decide +kernel)
  exact ⟨hvalidate, hexit, hstdout.trans (by decide)⟩

/-- What the arguments of a compilation ask for is a compilation. -/
theorem exists_compile_of_request
    {arguments : List String}
    {request : Request}
    (h : Request.ofArguments ("compile" :: arguments) = .ok request) :
    ∃ input output format config verbose,
      request = .compile input output format config verbose := by
  obtain ⟨⟨given, output, format, config, verbose⟩, _, hrequest⟩ :=
    exists_of_bind_ok (show commandRequest .compile arguments = _ from h)
  cases given with
  | none =>
      cases hrequest
  | some input =>
      cases hrequest
      exact ⟨input, output, format.getD .text, config, verbose, rfl⟩

/-- A compilation that fails has printed nothing and written nothing. -/
theorem compilePlan_run_of_failure
    {folder : Folder}
    {input : String}
    {output : Option String}
    {format : ProgramFormat}
    {config : Option String}
    {verbose : Bool}
    (h : ((compilePlan folder.read input output format config verbose).run folder).1.exit ≠ 0) :
    ((compilePlan folder.read input output format config verbose).run folder).1.stdout = "" ∧
    ((compilePlan folder.read input output format config verbose).run folder).2 = folder := by
  cases hcompiled : compiled? folder.read input config with
  | none =>
      obtain ⟨stderr, hplan⟩ := compilePlan_of_none hcompiled output format verbose
      rw [hplan]
      exact ⟨rfl, rfl⟩
  | some lua =>
      obtain ⟨⟨stderr, hprint⟩, hwrite⟩ := compilePlan_of_some hcompiled format verbose
      cases output with
      | none =>
          rw [hprint] at h
          exact absurd rfl h
      | some path =>
          obtain ⟨next, hplan, ⟨stderr, hok⟩, herror⟩ := hwrite path
          rw [hplan, Plan.run] at h ⊢
          cases hfolder : folder.write path (lua.written format .none) with
          | ok written =>
              simp [hfolder, hok] at h
          | error fault =>
              obtain ⟨stderr, hnext⟩ := herror fault
              exact ⟨congrArg Outcome.stdout hnext, rfl⟩

/-- A compilation to a file that succeeds has written what it would have printed otherwise. -/
theorem compilePlan_run_of_success
    {folder : Folder}
    {input path : String}
    {format : ProgramFormat}
    {config : Option String}
    {verbose : Bool}
    (h : ((compilePlan folder.read input (some path) format config verbose).run folder).1.exit =
      0) :
    ∃ text stderr others written,
      (compilePlan folder.read input none format config verbose).run folder =
        (⟨0, text, stderr⟩, folder) ∧
      (compilePlan folder.read input (some path) format config verbose).run folder =
        (⟨0, "", others⟩, written) ∧
      folder.write path text = .ok written := by
  cases hcompiled : compiled? folder.read input config with
  | none =>
      obtain ⟨stderr, hplan⟩ := compilePlan_of_none hcompiled (some path) format verbose
      rw [hplan] at h
      cases h
  | some lua =>
      obtain ⟨⟨stderr, hprint⟩, hwrite⟩ := compilePlan_of_some hcompiled format verbose
      obtain ⟨next, hplan, ⟨others, hok⟩, herror⟩ := hwrite path
      rw [hplan, Plan.run] at h ⊢
      cases hfolder : folder.write path (lua.written format .none) with
      | ok written =>
          exact ⟨_, stderr, others, written, by rw [hprint]; rfl, by simp only [hok], hfolder⟩
      | error fault =>
          obtain ⟨_, hnext⟩ := herror fault
          simp [hfolder, hnext] at h

/--
A compilation that fails, for whatever arguments and files, prints nothing and changes no file. One
that succeeds and has an output prints nothing either: at the path of the output is then what the
same request without an output prints, and no other file is changed. The path may be one of the
files that are read.
-/
theorem compile_all_or_nothing
    (folder : Folder)
    (arguments : List String) :
    let result := run ("compile" :: arguments) folder
    (result.1.exit ≠ 0 → result.1.stdout = "" ∧ result.2 = folder) ∧
    ∀ input path format config verbose,
      Request.ofArguments ("compile" :: arguments) =
        .ok (.compile input (some path) format config verbose) →
      result.1.exit = 0 →
      let printed :=
        ((Request.compile input none format config verbose).plan folder.read).run folder
      result.1.stdout = "" ∧
      (printed.1.exit = 0 ∧ printed.2 = folder ∧ result.2.read path = .ok printed.1.stdout) ∧
      (∀ others,
        Request.ofArguments others = .ok (.compile input none format config verbose) →
        run others folder = printed) ∧
      ∃ target,
        folder.fileAt path = .ok target ∧
        ∀ name, name ≠ target → result.2.files.lookup name = folder.files.lookup name := by
  intro result
  refine ⟨?_, ?_⟩
  · intro hexit
    cases hrequest : Request.ofArguments ("compile" :: arguments) with
    | error stop =>
        have hresult : result = (plan folder.read ("compile" :: arguments)).run folder := rfl
        rw [plan, hrequest] at hresult
        rw [hresult] at hexit ⊢
        cases stop with
        | help =>
            exact absurd rfl hexit
        | usage =>
            exact ⟨rfl, rfl⟩
    | ok request =>
        obtain ⟨input, output, format, config, verbose, rfl⟩ :=
          exists_compile_of_request hrequest
        have hresult : result =
            (compilePlan folder.read input output format config verbose).run folder :=
          run_of_request hrequest folder
        rw [hresult] at hexit ⊢
        exact compilePlan_run_of_failure hexit
  · intro input path format config verbose hrequest hexit printed
    have hresult : result =
        (compilePlan folder.read input (some path) format config verbose).run folder :=
      run_of_request hrequest folder
    rw [hresult] at hexit
    obtain ⟨text, stderr, others, written, hprint, hrun, hwrite⟩ :=
      compilePlan_run_of_success hexit
    have hprinted : printed = (⟨0, text, stderr⟩, folder) := hprint
    rw [hresult, hrun, hprinted]
    refine ⟨rfl, ⟨rfl, rfl, Folder.read_write hwrite⟩, ?_, Folder.lookup_write hwrite⟩
    intro others hothers
    rw [run_of_request hothers]
    exact hprint

/-- A program is compiled to the file that it is read from. -/
theorem compile_all_or_nothing_input :
    let folder : Folder :=
      ⟨[("p.json", some "\x7b\"blocks\":[\x7b\"type\":\"math_random_float\"\x7d]\x7d")]⟩
    (run ["compile", "p.json", "-o", "p.json"] folder).1.exit = 0 ∧
    (run ["compile", "p.json", "-o", "p.json"] folder).2.read "p.json" =
      .ok (run ["compile", "p.json"] folder).1.stdout := by
  intro folder
  have hexit : (run ["compile", "p.json", "-o", "p.json"] folder).1.exit = 0 := by
    decide +kernel
  obtain ⟨_, hsuccess⟩ := compile_all_or_nothing folder ["p.json", "-o", "p.json"]
  obtain ⟨_, ⟨_, _, hread⟩, hothers, _⟩ :=
    hsuccess "p.json" "p.json" .text none false (by decide +kernel) hexit
  rw [hothers ["compile", "p.json"] (by decide +kernel)]
  exact ⟨hexit, hread⟩

end CommandLine
end MathBlocks

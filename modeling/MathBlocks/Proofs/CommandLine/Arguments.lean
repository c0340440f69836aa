import MathBlocks.CommandLine.Arguments
import MathBlocks.Proofs.Traversal

/-!
# Arguments of both commands

The command that checks a program takes some of the options of the one that compiles it, and both
read their arguments alike. So whatever arguments the first one takes, the second one takes as well
and reads the same from them. It reads no output from them, and no format beyond one given before.
-/

namespace MathBlocks
namespace CommandLine

/-- Options with a format and without an output, whatever was read of these. -/
def Options.withFormat
    (options : Options)
    (format : Option ProgramFormat) : Options :=
  { options with output := .none, format := format }

/--
Whether a compilation gets as far as a check does, with the same options beside the format, and the
option that is awaited then, if there is one, is one of a check.
-/
def Progress.Follows
    (format : Option ProgramFormat)
    (checking compiling : Progress) : Prop :=
  ∀ options awaited, checking = .ok (options, awaited) →
    compiling = .ok (options.withFormat format, awaited) ∧
    ∀ option, awaited = some option → CommandName.validate.takes option = true

section Follows

variable {format : Option ProgramFormat} {option : OptionName}

theorem setInput_withFormat
    (options : Options)
    (text : String) :
    (options.withFormat format).setInput text =
      (options.setInput text).map (Options.withFormat · format) := by
  show (fill options.input text >>= _) = Except.map _ (fill options.input text >>= _)
  cases fill options.input text <;> rfl

/-- The value of an option of both commands is read alike. -/
theorem setValue_withFormat
    (h : CommandName.validate.takes option = true)
    (options : Options)
    (value : String) :
    (options.withFormat format).setValue value option =
      (options.setValue value option).map (Options.withFormat · format) := by
  cases option with
  | output =>
      cases h
  | format =>
      cases h
  | verbose =>
      rfl
  | config =>
      show (fill options.config value >>= _) = Except.map _ (fill options.config value >>= _)
      cases fill options.config value <;> rfl

theorem setVerbose_withFormat
    (options : Options) :
    (options.withFormat format).setVerbose =
      options.setVerbose.map (Options.withFormat · format) := by
  show (if options.verbose then _ else _) = Except.map _ (if options.verbose then _ else _)
  cases options.verbose <;> rfl

/-- Where options are read alike and no value is awaited, a compilation gets as far as a check. -/
theorem follows_of_map
    {read other : Except Stop Options}
    (h : other = read.map (Options.withFormat · format)) :
    Progress.Follows format (do return (← read, .none)) (do return (← other, .none)) := by
  subst h
  intro options awaited hread
  cases read with
  | error stop =>
      cases hread
  | ok read =>
      cases hread
      exact ⟨rfl, by simp⟩

theorem takes_compile
    (option : OptionName) :
    CommandName.compile.takes option = true := by
  cases option <;> rfl

theorem takeOption_follows
    (h : CommandName.validate.takes option = true)
    (options : Options) :
    Progress.Follows format (takeOption options option)
      (takeOption (options.withFormat format) option) := by
  cases option with
  | output =>
      cases h
  | format =>
      cases h
  | verbose =>
      exact follows_of_map (setVerbose_withFormat options)
  | config =>
      rintro after awaited ⟨rfl⟩
      exact ⟨rfl, by rintro _ ⟨rfl⟩; rfl⟩

/-- Letters behind one dash that a check takes are taken by a compilation. -/
theorem takeLetters_follows
    (options : Options)
    (letters : List Char) :
    Progress.Follows format (takeLetters .validate options letters)
      (takeLetters .compile (options.withFormat format) letters) := by
  induction letters generalizing options with
  | nil =>
      rintro after awaited ⟨rfl⟩
      exact ⟨rfl, by simp⟩
  | cons letter rest ih =>
      unfold takeLetters
      split
      · rintro after awaited ⟨⟩
      · cases OptionName.ofLetter? letter with
        | none =>
            rintro after awaited ⟨⟩
        | some option =>
            simp only [takes_compile]
            cases htakes : CommandName.validate.takes option with
            | false =>
                rintro after awaited ⟨⟩
            | true =>
                simp only [Bool.not_true, Bool.false_eq_true, if_false]
                split
                · rw [setVerbose_withFormat]
                  cases options.setVerbose with
                  | error stop =>
                      rintro after awaited ⟨⟩
                  | ok options =>
                      exact ih options
                · split
                  · rintro after awaited ⟨rfl⟩
                    exact ⟨rfl, by rintro _ ⟨rfl⟩; exact htakes⟩
                  · exact follows_of_map (setValue_withFormat htakes options _)
                  · exact follows_of_map (setValue_withFormat htakes options _)

/-- What stands behind two dashes and is taken by a check is taken by a compilation. -/
theorem takeLong_follows
    (options : Options)
    (text : List Char) :
    Progress.Follows format (takeLong .validate options text)
      (takeLong .compile (options.withFormat format) text) := by
  unfold takeLong
  simp only
  split
  · rintro after awaited ⟨⟩
  · cases OptionName.ofLong? (text.takeWhile (· ≠ '=')) with
    | none =>
        rintro after awaited ⟨⟩
    | some option =>
        simp only [takes_compile]
        cases htakes : CommandName.validate.takes option with
        | false =>
            rintro after awaited ⟨⟩
        | true =>
            simp only [Bool.not_true, Bool.false_eq_true, if_false]
            split
            · exact takeOption_follows htakes options
            · exact follows_of_map (setValue_withFormat htakes options _)

/-- An argument that a check takes is taken by a compilation. -/
theorem takeArgument_follows
    (options : Options)
    (argument : String)
    {awaited : Option OptionName}
    (hawaited : ∀ option, awaited = some option → CommandName.validate.takes option = true) :
    Progress.Follows format (takeArgument .validate options argument awaited)
      (takeArgument .compile (options.withFormat format) argument awaited) := by
  unfold takeArgument
  cases awaited with
  | some option =>
      simp only
      split
      · rintro after awaited ⟨⟩
      · exact follows_of_map (setValue_withFormat (hawaited option rfl) options argument)
  | none =>
      simp only
      split
      · exact takeLong_follows options _
      · exact takeLetters_follows options _
      · exact follows_of_map (setInput_withFormat options argument)

theorem foldlM_setInput_withFormat
    (options : Options)
    (texts : List String) :
    texts.foldlM Options.setInput (options.withFormat format) =
      (texts.foldlM Options.setInput options).map (Options.withFormat · format) := by
  induction texts generalizing options with
  | nil =>
      rfl
  | cons text rest ih =>
      rw [List.foldlM_cons, List.foldlM_cons, setInput_withFormat]
      cases options.setInput text with
      | error stop =>
          rfl
      | ok options =>
          exact ih options

/-- Arguments that a check takes are taken by a compilation, which reads the same from them. -/
theorem takeArguments_follows
    {options after : Options}
    {awaited : Option OptionName}
    (hawaited : ∀ option, awaited = some option → CommandName.validate.takes option = true)
    {arguments : List String}
    (h : takeArguments .validate options awaited arguments = .ok after) :
    takeArguments .compile (options.withFormat format) awaited arguments =
      .ok (after.withFormat format) := by
  -- over the arguments that are left; an option that is awaited is always one of a check
  induction arguments generalizing options awaited with
  | nil =>
      unfold takeArguments at h ⊢
      split at h
      · rename_i hnone
        rw [if_pos hnone, Except.ok.inj h]
      · cases h
  | cons argument rest ih =>
      unfold takeArguments at h ⊢
      split at h
      · rename_i hdashes
        rw [if_pos hdashes]
        split at h
        · rename_i hnone
          rw [if_pos hnone, foldlM_setInput_withFormat, h]
          rfl
        · cases h
      · rename_i hdashes
        rw [if_neg hdashes]
        cases hstep : takeArgument .validate options argument awaited with
        | error stop =>
            rw [hstep] at h
            cases h
        | ok progress =>
            obtain ⟨middle, next⟩ := progress
            rw [hstep] at h
            have hfollows : Progress.Follows format
                (takeArgument .validate options argument awaited)
                (takeArgument .compile (options.withFormat format) argument awaited) :=
              takeArgument_follows options argument hawaited
            obtain ⟨hcompile, hnext⟩ := hfollows middle next hstep
            rw [hcompile]
            exact ih hnext h

end Follows

/-- Options that are enough for a check are enough for a compilation, with a format besides. -/
theorem request_withFormat
    {options : Options}
    {input : String}
    {config : Option String}
    {verbose : Bool}
    (h : CommandName.validate.request options = .ok (.validate input config verbose))
    (format : Option ProgramFormat) :
    CommandName.compile.request (options.withFormat format) =
      .ok (.compile input none (format.getD .text) config verbose) := by
  obtain ⟨given, output, other, config, verbose⟩ := options
  cases given with
  | none =>
      cases h
  | some given =>
      cases h
      rfl

/-- The arguments of a check are those of a compilation without an output, in either format. -/
theorem compile_of_validate
    {arguments : List String}
    {input : String}
    {config : Option String}
    {verbose : Bool}
    (h : Request.ofArguments ("validate" :: arguments) = .ok (.validate input config verbose)) :
    Request.ofArguments ("compile" :: arguments) =
      .ok (.compile input none .text config verbose) ∧
    Request.ofArguments ("compile" :: "--format" :: "json" :: arguments) =
      .ok (.compile input none .json config verbose) := by
  obtain ⟨options, hoptions, hrequest⟩ :=
    exists_of_bind_ok (show commandRequest .validate arguments = _ from h)
  have hcompile : ∀ format,
      takeArguments .compile (Options.none.withFormat format) .none arguments =
        .ok (options.withFormat format) :=
    fun _ => takeArguments_follows (by simp) hoptions
  constructor
  · show (takeArguments .compile (Options.none.withFormat none) .none arguments >>= _) = _
    rw [hcompile]
    exact request_withFormat hrequest none
  · -- the format that is given first is read first
    show (takeArguments .compile (Options.none.withFormat (some .json)) .none arguments >>= _) = _
    rw [hcompile]
    exact request_withFormat hrequest (some .json)

end CommandLine
end MathBlocks

import MathBlocks.Proofs.Names.Directory

/-!
# Identifiers that are told apart

A directory of names serves calls one after the other. Until it is made to forget, two of its
answers are the same identifier only if both were asked for the same variable, letter case aside.
What carries this through a run is `Remembers`: the directory still knows of every identifier that
it has handed out whether it is that of a variable, and of which one.
-/

namespace MathBlocks

/-- A call of a directory of names. -/
inductive NameCall where
  | identify (text : String)
  | invent (text : String)
  | forget
  deriving DecidableEq

/-- Whether two calls ask for the same variable, letter case aside. -/
def NameCall.SameVariable : NameCall → NameCall → Prop
  | .identify text, .identify other => Text.lower text = Text.lower other
  | _, _ => False

namespace NameDirectory

/-- Serves a call; only to be made to forget has no identifier for an answer. -/
def serve
    (names : NameDirectory) :
    NameCall → Option String × NameDirectory
  | .identify text =>
      let (identifier, names) := names.identify text
      (some identifier, names)
  | .invent text =>
      let (identifier, names) := names.handOut text
      (some identifier, names)
  | .forget => (none, names.forget)

/-- A directory after it has served these calls. -/
def after
    (names : NameDirectory)
    (calls : List NameCall) : NameDirectory :=
  calls.foldl (fun names call => (names.serve call).2) names

/-- The answers to calls that are served in turn. -/
def answers
    (names : NameDirectory) :
    List NameCall → List (Option String)
  | [] => []
  | call :: rest => (names.serve call).1 :: answers (names.serve call).2 rest

@[simp] theorem length_answers
    (names : NameDirectory)
    (calls : List NameCall) :
    (names.answers calls).length = calls.length := by
  induction calls generalizing names with
  | nil =>
      rfl
  | cons call rest ih =>
      simp [answers, ih]

/-- Every call is answered by the directory that the calls before it have left. -/
theorem getElem?_answers
    (names : NameDirectory)
    (before : List NameCall)
    (call : NameCall)
    (rest : List NameCall) :
    (names.answers (before ++ call :: rest))[before.length]? =
      some ((names.after before).serve call).1 := by
  induction before generalizing names with
  | nil =>
      rfl
  | cons first before ih =>
      simpa [answers, after] using ih (names.serve first).2

theorem after_append
    (names : NameDirectory)
    (calls others : List NameCall) :
    names.after (calls ++ others) = (names.after calls).after others :=
  List.foldl_append

/-- An identifier that is handed out was not in use. -/
theorem handOut_not_mem_used
    (names : NameDirectory)
    (text : String) :
    (names.handOut text).1 ∉ names.used := by
  obtain ⟨n, _, hfirst, hfree, _⟩ := names.firstFree_spec (Identifier.ofText text)
  show names.firstFree (Identifier.ofText text) ∉ names.used
  rw [hfirst]
  simp only [isFree, Bool.and_eq_true, Bool.not_eq_true', List.contains_eq_mem] at hfree
  simpa using hfree.1

/--
Whether a directory knows what an identifier was handed out for: that of a variable is found under
its name, any other one is in use and found under none.
-/
def Knows
    (names : NameDirectory) :
    NameCall × String → Prop
  | (.identify text, identifier) => names.identifiers.lookup (Text.lower text) = some identifier
  | (.invent _, identifier) =>
      identifier ∈ names.used ∧ ∀ key, names.identifiers.lookup key ≠ some identifier
  | (.forget, _) => False

/-- Whether a directory knows all that it has handed out, and no two variables share a name. -/
structure Remembers
    (names : NameDirectory)
    (served : List (NameCall × String)) : Prop where
  injective :
    ∀ {key other identifier}, names.identifiers.lookup key = some identifier →
      names.identifiers.lookup other = some identifier →
      key = other
  used :
    ∀ {key identifier}, names.identifiers.lookup key = some identifier →
      identifier ∈ names.used
  knows :
    ∀ entry ∈ served, names.Knows entry

/-- A directory without variables knows that it has handed out nothing. -/
theorem remembers_nil
    {names : NameDirectory}
    (h : names.identifiers = []) :
    names.Remembers [] := by
  refine ⟨?_, ?_, ?_⟩ <;> simp [h]

/-- A directory goes on to know what an identifier is for when another one is handed out. -/
theorem Knows.handOut
    {names : NameDirectory}
    {entry : NameCall × String}
    (h : names.Knows entry)
    (text : String) :
    (names.handOut text).2.Knows entry := by
  obtain ⟨call, identifier⟩ := entry
  cases call with
  | identify other =>
      exact h
  | invent other =>
      exact ⟨List.mem_cons_of_mem _ h.1, h.2⟩
  | forget =>
      exact h

/-- A directory goes on to know what an identifier is for when another variable is met. -/
theorem Knows.identify_of_new
    {names : NameDirectory}
    {entry : NameCall × String}
    (h : names.Knows entry)
    {text : String}
    (hlookup : names.identifiers.lookup (Text.lower text) = none) :
    (names.identify text).2.Knows entry := by
  obtain ⟨call, identifier⟩ := entry
  cases call with
  | identify other =>
      exact lookup_identify_of_some h text
  | invent other =>
      rw [NameDirectory.identify_of_new hlookup]
      refine ⟨List.mem_cons_of_mem _ h.1, ?_⟩
      intro key
      show List.lookup _ (_ :: _) ≠ _
      rw [List.lookup_cons]
      cases key == Text.lower text with
      | false =>
          exact h.2 key
      | true =>
          -- the identifier of the new variable was not in use, the other one was
          intro heq
          obtain rfl : (names.handOut text).1 = identifier := Option.some.inj heq
          exact names.handOut_not_mem_used text h.1
  | forget =>
      exact h

/-- An answer is the identifier of a variable that was met before, or it was not in use. -/
theorem serve_cases
    {names : NameDirectory}
    {call : NameCall}
    {identifier : String}
    (h : (names.serve call).1 = some identifier) :
    (∃ text,
      call = .identify text ∧
      names.identifiers.lookup (Text.lower text) = some identifier) ∨
    (identifier ∉ names.used ∧
      ∀ text, call = .identify text → names.identifiers.lookup (Text.lower text) = none) := by
  cases call with
  | identify text =>
      obtain rfl : (names.identify text).1 = identifier := Option.some.inj h
      cases hlookup : names.identifiers.lookup (Text.lower text) with
      | some found =>
          refine Or.inl ⟨text, rfl, ?_⟩
          rw [identify_of_lookup hlookup]
          exact hlookup
      | none =>
          refine Or.inr ⟨?_, ?_⟩
          · rw [identify_of_new hlookup]
            exact names.handOut_not_mem_used text
          · rintro _ ⟨rfl⟩
            exact hlookup
  | invent text =>
      obtain rfl : (names.handOut text).1 = identifier := Option.some.inj h
      exact Or.inr ⟨names.handOut_not_mem_used text, by simp⟩
  | forget =>
      cases h

namespace Remembers

variable {names : NameDirectory} {served : List (NameCall × String)}

/-- What has been handed out further, a directory remembers if it knows of it. -/
theorem cons
    (h : names.Remembers served)
    {entry : NameCall × String}
    (hentry : names.Knows entry) :
    names.Remembers (entry :: served) where
  injective := h.injective
  used := h.used
  knows := List.forall_mem_cons.mpr ⟨hentry, h.knows⟩

theorem handOut
    (h : names.Remembers served)
    (text : String) :
    (names.handOut text).2.Remembers ((.invent text, (names.handOut text).1) :: served) := by
  have hstep : (names.handOut text).2.Remembers served :=
    ⟨h.injective, fun hlookup => List.mem_cons_of_mem _ (h.used hlookup),
      fun entry hentry => (h.knows entry hentry).handOut text⟩
  refine hstep.cons ⟨List.mem_cons_self, ?_⟩
  intro key hlookup
  exact names.handOut_not_mem_used text (h.used hlookup)

/-- A variable that is met first gets an identifier that no other variable has. -/
theorem identify_of_new
    (h : names.Remembers served)
    {text : String}
    (hlookup : names.identifiers.lookup (Text.lower text) = none) :
    (names.identify text).2.Remembers served := by
  have hknows := fun entry hentry => (h.knows entry hentry).identify_of_new hlookup
  have hfind : ∀ {key identifier},
      (names.identify text).2.identifiers.lookup key = some identifier →
      (key = Text.lower text ∧ identifier = (names.handOut text).1) ∨
        names.identifiers.lookup key = some identifier := by
    intro key identifier hkey
    rw [NameDirectory.identify_of_new hlookup, List.lookup_cons] at hkey
    cases heq : key == Text.lower text with
    | false =>
        rw [heq] at hkey
        exact Or.inr hkey
    | true =>
        rw [heq] at hkey
        exact Or.inl ⟨eq_of_beq heq, (Option.some.inj hkey).symm⟩
  refine ⟨?_, ?_, hknows⟩
  · intro key other identifier hkey hother
    rcases hfind hkey with ⟨rfl, rfl⟩ | hkey
    · rcases hfind hother with ⟨rfl, _⟩ | hother
      · rfl
      · exact absurd (h.used hother) (names.handOut_not_mem_used text)
    · rcases hfind hother with ⟨rfl, rfl⟩ | hother
      · exact absurd (h.used hkey) (names.handOut_not_mem_used text)
      · exact h.injective hkey hother
  · intro key identifier hkey
    rw [NameDirectory.identify_of_new hlookup]
    rcases hfind hkey with ⟨_, rfl⟩ | hkey
    · exact List.mem_cons_self
    · exact List.mem_cons_of_mem _ (h.used hkey)

theorem identify
    (h : names.Remembers served)
    (text : String) :
    (names.identify text).2.Remembers ((.identify text, (names.identify text).1) :: served) := by
  have hstep : (names.identify text).2.Remembers served := by
    cases hlookup : names.identifiers.lookup (Text.lower text) with
    | some identifier =>
        rw [identify_of_lookup hlookup]
        exact h
    | none =>
        exact h.identify_of_new hlookup
  exact hstep.cons (names.lookup_identify text)

/-- A call that has an answer is remembered with it. -/
theorem serve
    (h : names.Remembers served)
    {call : NameCall}
    (hcall : call ≠ .forget) :
    ∃ identifier,
      (names.serve call).1 = some identifier ∧
      (names.serve call).2.Remembers ((call, identifier) :: served) := by
  cases call with
  | identify text =>
      exact ⟨_, rfl, h.identify text⟩
  | invent text =>
      exact ⟨_, rfl, h.handOut text⟩
  | forget =>
      exact absurd rfl hcall

/-- What is remembered stays so until the directory is made to forget. -/
theorem after
    (h : names.Remembers served)
    {calls : List NameCall}
    (hcalls : .forget ∉ calls) :
    ∃ further, (names.after calls).Remembers (further ++ served) := by
  induction calls generalizing names served with
  | nil =>
      exact ⟨[], h⟩
  | cons call rest ih =>
      obtain ⟨identifier, _, hserve⟩ := h.serve fun heq => hcalls (heq ▸ List.mem_cons_self)
      obtain ⟨further, hrest⟩ := ih hserve fun hmem => hcalls (List.mem_cons_of_mem _ hmem)
      refine ⟨further ++ [(call, identifier)], ?_⟩
      rw [List.append_assoc]
      exact hrest

/-- What a directory has handed out is in use. -/
theorem mem_used
    (h : names.Remembers served)
    {call : NameCall}
    {identifier : String}
    (hentry : (call, identifier) ∈ served) :
    identifier ∈ names.used := by
  have hknows := h.knows _ hentry
  cases call with
  | identify text =>
      exact h.used hknows
  | invent text =>
      exact hknows.1
  | forget =>
      exact hknows.elim

/-- An identifier handed out before is handed out again only for the same variable. -/
theorem eq_iff
    (h : names.Remembers served)
    {call other : NameCall}
    {identifier later : String}
    (hentry : (call, identifier) ∈ served)
    (hlater : (names.serve other).1 = some later) :
    identifier = later ↔ call.SameVariable other := by
  have hknows := h.knows _ hentry
  rcases serve_cases hlater with ⟨text, rfl, hlookup⟩ | ⟨hnew, hvariable⟩
  · cases call with
    | identify own =>
        have hown : names.identifiers.lookup (Text.lower own) = some identifier := hknows
        constructor
        · rintro rfl
          exact h.injective hown hlookup
        · intro hsame
          have hkeys : Text.lower own = Text.lower text := hsame
          rw [hkeys, hlookup] at hown
          exact (Option.some.inj hown).symm
    | invent own =>
        refine iff_of_false ?_ id
        rintro rfl
        exact hknows.2 _ hlookup
    | forget =>
        exact hknows.elim
  · refine iff_of_false ?_ ?_
    · rintro rfl
      exact hnew (h.mem_used hentry)
    · intro hsame
      cases call with
      | identify own =>
          cases other with
          | identify text =>
              have hown : names.identifiers.lookup (Text.lower own) = some identifier := hknows
              have hkeys : Text.lower own = Text.lower text := hsame
              rw [hkeys, hvariable text rfl] at hown
              cases hown
          | invent text =>
              exact hsame
          | forget =>
              exact hsame
      | invent own =>
          exact hsame
      | forget =>
          exact hsame

end Remembers

/-- After any calls, a directory remembers what it has handed out since it was made to forget. -/
theorem exists_remembers
    (extra : List String)
    (calls : List NameCall) :
    ∃ served, ((fresh extra).after calls).Remembers served := by
  have hrun : ∀ (names : NameDirectory) (served : List (NameCall × String)),
      names.Remembers served → ∃ further, (names.after calls).Remembers further := by
    induction calls with
    | nil =>
        exact fun names served h => ⟨served, h⟩
    | cons call rest ih =>
        intro names served h
        by_cases hcall : call = .forget
        · subst hcall
          exact ih names.forget [] (remembers_nil rfl)
        · obtain ⟨identifier, _, hserve⟩ := h.serve hcall
          exact ih _ _ hserve
  exact hrun _ [] (remembers_nil rfl)

/-- A sound directory answers a call with a proper identifier and stays sound. -/
theorem Sound.serve
    {reserved : List String}
    {names : NameDirectory}
    (h : names.Sound reserved)
    (call : NameCall) :
    (∀ identifier, (names.serve call).1 = some identifier → IsProper reserved identifier) ∧
    (names.serve call).2.Sound reserved := by
  cases call with
  | identify text =>
      obtain ⟨hproper, hsound⟩ := h.identify text
      refine ⟨?_, hsound⟩
      intro identifier hidentifier
      exact Option.some.inj hidentifier ▸ hproper
  | invent text =>
      obtain ⟨hproper, hsound⟩ := h.handOut text
      refine ⟨?_, hsound⟩
      intro identifier hidentifier
      exact Option.some.inj hidentifier ▸ hproper
  | forget =>
      exact ⟨(fun _ hidentifier => nomatch hidentifier), h.forget⟩

theorem Sound.answers
    {reserved : List String}
    {names : NameDirectory}
    (h : names.Sound reserved)
    (calls : List NameCall) :
    ∀ identifier, some identifier ∈ names.answers calls → IsProper reserved identifier := by
  induction calls generalizing names with
  | nil =>
      exact fun _ hmem => nomatch hmem
  | cons call rest ih =>
      obtain ⟨hproper, hsound⟩ := h.serve call
      intro identifier hmem
      rcases List.mem_cons.mp hmem with heq | hmem
      · exact hproper identifier heq.symm
      · exact ih hsound identifier hmem

/--
Every identifier that a directory hands out is one of the language and none of the words to keep
off. Two calls between which it is not made to forget are answered by identifiers, and these are
the same if and only if both calls ask for the same variable, letter case aside.
-/
theorem answers_apart
    (extra : List String)
    (calls : List NameCall) :
    let answers := (fresh extra).answers calls
    (answers.length = calls.length) ∧
    (∀ identifier, some identifier ∈ answers →
      Identifier.IsIdentifier identifier.toList ∧
      identifier ∉ Lua.reservedWords ∧
      identifier ∉ extra) ∧
    (∀ before call between other rest,
      calls = before ++ call :: between ++ other :: rest →
      .forget ∉ call :: between ++ [other] →
      ∃ identifier later,
        answers[before.length]? = some (some identifier) ∧
        answers[before.length + between.length + 1]? = some (some later) ∧
        (identifier = later ↔ call.SameVariable other)) := by
  refine ⟨length_answers _ _, ?_, ?_⟩
  · intro identifier hmem
    obtain ⟨hidentifier, hreserved⟩ := (sound_fresh extra).answers calls identifier hmem
    simp only [List.mem_append, not_or] at hreserved
    exact ⟨hidentifier, hreserved.1, hreserved.2⟩
  · rintro before call between other rest rfl hforget
    have hparts : NameCall.forget ≠ call ∧ .forget ∉ between ∧ NameCall.forget ≠ other := by
      simpa using hforget
    obtain ⟨hcall, hbetween, hother⟩ := hparts
    obtain ⟨served, hserved⟩ := exists_remembers extra before
    obtain ⟨identifier, hidentifier, hfirst⟩ := hserved.serve (Ne.symm hcall)
    -- the first identifier is remembered up to the second call
    obtain ⟨further, hmiddle⟩ := hfirst.after hbetween
    obtain ⟨later, hlater, _⟩ := hmiddle.serve (Ne.symm hother)
    refine ⟨identifier, later, ?_, ?_, hmiddle.eq_iff (by simp) hlater⟩
    · have hanswer := (fresh extra).getElem?_answers before call (between ++ other :: rest)
      rw [hidentifier] at hanswer
      simpa using hanswer
    · have hanswer := (fresh extra).getElem?_answers (before ++ call :: between) other rest
      have hstate : (fresh extra).after (before ++ call :: between) =
          (((fresh extra).after before).serve call).2.after between :=
        after_append _ before (call :: between)
      rw [hstate, hlater] at hanswer
      simpa [Nat.add_assoc] using hanswer

/-- A variable, a helper of its name, and the variable in capitals. -/
theorem answers_apart_capitals :
    let answers := (fresh []).answers [.identify "x", .invent "x", .identify "X"]
    ∃ identifier later,
      answers[0]? = some (some identifier) ∧
      answers[2]? = some (some later) ∧
      (identifier = later ↔ Text.lower "x" = Text.lower "X") :=
  (answers_apart [] [.identify "x", .invent "x", .identify "X"]).2.2
    [] (.identify "x") [.invent "x"] (.identify "X") [] rfl (by decide)

end NameDirectory
end MathBlocks

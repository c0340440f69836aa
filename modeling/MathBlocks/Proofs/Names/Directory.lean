import Mathlib.Data.List.Nodup
import Mathlib.Data.List.Perm.Subperm
import MathBlocks.Names.Directory

/-!
# What the directory of names hands out

Every identifier that the directory hands out is one of the language, is none of the words to keep
off, and was free. Free identifiers never run out: the candidates for one base are all different,
and there are more of them than words that are taken.
-/

namespace MathBlocks
namespace NameDirectory

theorem candidate_injective
    {base : String}
    {m n : Nat}
    (h : candidate base m = candidate base n) :
    m = n := by
  have hlists := congrArg String.toList h
  cases m with
  | zero =>
      cases n with
      | zero =>
          rfl
      | succ n =>
          simp [candidate, String.toList_append] at hlists
  | succ m =>
      cases n with
      | zero =>
          simp [candidate, String.toList_append] at hlists
      | succ n =>
          have hdigits : Nat.toDigits 10 (m + 2) = Nat.toDigits 10 (n + 2) := by
            simpa [candidate, String.toList_append] using hlists
          have hnumbers := congrArg (fun digits => Nat.ofDigitChars 10 digits 0) hdigits
          simpa using hnumbers

/-- A candidate begins with its base. -/
theorem prefix_candidate
    (base : String)
    (n : Nat) :
    base.toList <+: (candidate base n).toList := by
  cases n with
  | zero =>
      exact List.prefix_rfl
  | succ n =>
      rw [candidate, String.toList_append]
      exact List.prefix_append _ _

/-- An identifier is free if it is neither in use nor one of the words to keep off. -/
theorem isFree_iff
    {names : NameDirectory}
    {identifier : String} :
    names.isFree identifier = true ↔ identifier ∉ names.used ∧ identifier ∉ names.reserved := by
  simp [isFree, avoids]

theorem mem_of_not_isFree
    {names : NameDirectory}
    {identifier : String}
    (h : names.isFree identifier = false) :
    identifier ∈ names.used ++ names.reserved := by
  simp [isFree, avoids] at h
  simp only [List.mem_append]
  by_cases hused : identifier ∈ names.used
  · exact Or.inl hused
  · exact Or.inr (h hused)

/-- One of the candidates that are tried is free. -/
theorem exists_isFree_candidate
    (names : NameDirectory)
    (base : String) :
    ∃ n < names.candidateCount, names.isFree (candidate base n) = true := by
  by_contra hnone
  have htaken :
      (List.range names.candidateCount).map (candidate base) ⊆ names.used ++ names.reserved := by
    intro identifier hmem
    obtain ⟨n, hn, rfl⟩ := List.mem_map.mp hmem
    refine mem_of_not_isFree ?_
    cases hfree : names.isFree (candidate base n) with
    | false =>
        rfl
    | true =>
        exact absurd ⟨n, List.mem_range.mp hn, hfree⟩ hnone
  have hnodup : ((List.range names.candidateCount).map (candidate base)).Nodup :=
    List.Nodup.map (fun _ _ => candidate_injective) List.nodup_range
  -- more candidates are tried than words can be in the way
  have hlength := (List.subperm_of_subset hnodup htaken).length_le
  simp only [candidateCount, List.length_map, List.length_range, List.length_append] at hlength
  omega

/-- The search ends with a candidate that is free, and none before it is. -/
theorem firstFree_spec
    (names : NameDirectory)
    (base : String) :
    ∃ n < names.candidateCount,
      names.firstFree base = candidate base n ∧
      names.isFree (candidate base n) = true ∧
      ∀ m < n, names.isFree (candidate base m) = false := by
  obtain ⟨k, hk, hfree⟩ := names.exists_isFree_candidate base
  cases hfind : (List.range names.candidateCount).find?
      fun n => names.isFree (candidate base n) with
  | none =>
      rw [List.find?_eq_none] at hfind
      exact absurd hfree (hfind k (List.mem_range.mpr hk))
  | some n =>
      obtain ⟨hn, hlt, hbefore⟩ := List.find?_range_eq_some.mp hfind
      refine ⟨n, List.mem_range.mp hlt, ?_, hn, ?_⟩
      · simp [firstFree, hfind]
      · intro m hm
        simpa using hbefore m hm

/-- Where less is free, the first free candidate is the same if it is among what is free. -/
theorem firstFree_eq
    {names other : NameDirectory}
    {base : String}
    (hless : ∀ identifier, other.isFree identifier = true → names.isFree identifier = true)
    (hfree : other.isFree (names.firstFree base) = true) :
    other.firstFree base = names.firstFree base := by
  obtain ⟨n, _, hfirst, _, hbefore⟩ := names.firstFree_spec base
  obtain ⟨m, _, hother, hotherFree, hotherBefore⟩ := other.firstFree_spec base
  rw [hfirst] at hfree
  rw [hfirst, hother]
  rcases Nat.lt_trichotomy m n with hlt | rfl | hlt
  · have htaken := hbefore m hlt
    rw [hless _ hotherFree] at htaken
    cases htaken
  · rfl
  · have htaken := hotherBefore n hlt
    rw [hfree] at htaken
    cases htaken

/-- What is free is the first candidate for itself. -/
theorem firstFree_of_isFree
    {names : NameDirectory}
    {base : String}
    (h : names.isFree base = true) :
    names.firstFree base = base := by
  obtain ⟨n, _, hfirst, _, hbefore⟩ := names.firstFree_spec base
  cases n with
  | zero =>
      exact hfirst
  | succ n =>
      have htaken : names.isFree base = false := hbefore 0 n.succ_pos
      rw [htaken] at h
      cases h

/-- Decimal digits behind an identifier leave it one. -/
theorem isIdentifier_candidate
    {base : String}
    (hbase : Identifier.IsIdentifier base.toList)
    (n : Nat) :
    Identifier.IsIdentifier (candidate base n).toList := by
  cases n with
  | zero =>
      exact hbase
  | succ n =>
      obtain ⟨c, rest, hlist, hdigit, hparts⟩ := hbase
      refine ⟨c, rest ++ Nat.toDigits 10 (n + 2), ?_, hdigit, ?_⟩
      · simp [candidate, String.toList_append, hlist]
      · intro d hd
        rw [← List.cons_append, List.mem_append] at hd
        rcases hd with hd | hd
        · exact hparts d hd
        · have hdecimal := Nat.isDigit_of_mem_toDigits (by decide) (by decide) hd
          simp [Identifier.isPart, Char.isAlphanum, hdecimal]

/-- Whether a text is an identifier of the language and none of the words to keep off. -/
def IsProper
    (reserved : List String)
    (identifier : String) : Prop :=
  Identifier.IsIdentifier identifier.toList ∧ identifier ∉ reserved

theorem isProper_firstFree
    (names : NameDirectory)
    (text : String) :
    IsProper names.reserved (names.firstFree (Identifier.ofText text)) := by
  obtain ⟨n, _, hfirst, hfree, _⟩ := names.firstFree_spec (Identifier.ofText text)
  have hbase : Identifier.IsIdentifier (Identifier.ofText text).toList := by
    simpa [Identifier.ofText] using Identifier.isIdentifier_spell text.toList
  rw [hfirst]
  refine ⟨isIdentifier_candidate hbase n, ?_⟩
  simp [isFree, avoids] at hfree
  exact hfree.2

/--
Whether a directory keeps off these words and has given variables proper identifiers only.
-/
structure Sound
    (reserved : List String)
    (names : NameDirectory) : Prop where
  reserved_eq : names.reserved = reserved
  proper : ∀ entry ∈ names.identifiers, IsProper reserved entry.2

theorem sound_fresh
    (extra : List String) :
    Sound (Lua.reservedWords ++ extra) (fresh extra) :=
  ⟨rfl, fun _ hentry => nomatch hentry⟩

/-- A sound directory hands out a proper identifier and stays sound. -/
theorem Sound.handOut
    {reserved : List String}
    {names : NameDirectory}
    (h : names.Sound reserved)
    (text : String) :
    IsProper reserved (names.handOut text).1 ∧ (names.handOut text).2.Sound reserved := by
  have hproper := names.isProper_firstFree text
  rw [h.reserved_eq] at hproper
  exact ⟨hproper, h.reserved_eq, h.proper⟩

/-- A variable that was met before keeps its identifier. -/
theorem identify_of_lookup
    {names : NameDirectory}
    {text identifier : String}
    (h : names.identifiers.lookup (Text.lower text) = some identifier) :
    names.identify text = (identifier, names) := by
  simp [NameDirectory.identify, h]

/-- A variable that is met first gets a new identifier. -/
theorem identify_of_new
    {names : NameDirectory}
    {text : String}
    (h : names.identifiers.lookup (Text.lower text) = none) :
    names.identify text =
      ((names.handOut text).1,
        { (names.handOut text).2 with
          identifiers := (Text.lower text, (names.handOut text).1) :: names.identifiers }) := by
  simp [NameDirectory.identify, h, NameDirectory.handOut]

/-- A variable that was asked for has the identifier that was the answer. -/
theorem lookup_identify
    (names : NameDirectory)
    (text : String) :
    (names.identify text).2.identifiers.lookup (Text.lower text) =
      some (names.identify text).1 := by
  cases h : names.identifiers.lookup (Text.lower text) with
  | some identifier =>
      rw [identify_of_lookup h]
      exact h
  | none =>
      rw [identify_of_new h]
      simp

/-- An identifier that a variable has stays with it when another variable is asked for. -/
theorem lookup_identify_of_some
    {names : NameDirectory}
    {key identifier : String}
    (h : names.identifiers.lookup key = some identifier)
    (text : String) :
    (names.identify text).2.identifiers.lookup key = some identifier := by
  cases hlookup : names.identifiers.lookup (Text.lower text) with
  | some found =>
      rw [identify_of_lookup hlookup]
      exact h
  | none =>
      -- the new entry is not under the name that was there
      have hne : (key == Text.lower text) = false := by
        rw [beq_eq_false_iff_ne]
        rintro rfl
        rw [hlookup] at h
        cases h
      rw [identify_of_new hlookup]
      simp [List.lookup_cons, hne, h]

/-- A sound directory gives a variable a proper identifier and stays sound. -/
theorem Sound.identify
    {reserved : List String}
    {names : NameDirectory}
    (h : names.Sound reserved)
    (text : String) :
    IsProper reserved (names.identify text).1 ∧ (names.identify text).2.Sound reserved := by
  cases hlookup : names.identifiers.lookup (Text.lower text) with
  | some identifier =>
      rw [identify_of_lookup hlookup]
      obtain ⟨before, after, hsplit, _⟩ := List.lookup_eq_some_iff.mp hlookup
      have hmem : (Text.lower text, identifier) ∈ names.identifiers := by
        simp [hsplit]
      exact ⟨h.proper _ hmem, h⟩
  | none =>
      rw [identify_of_new hlookup]
      obtain ⟨hproper, hsound⟩ := h.handOut text
      refine ⟨hproper, hsound.reserved_eq, ?_⟩
      intro entry hentry
      rcases List.mem_cons.mp hentry with rfl | hentry
      · exact hproper
      · exact h.proper entry hentry

theorem Sound.forget
    {reserved : List String}
    {names : NameDirectory}
    (h : names.Sound reserved) :
    names.forget.Sound reserved :=
  ⟨h.reserved_eq, fun _ hentry => nomatch hentry⟩

end NameDirectory
end MathBlocks

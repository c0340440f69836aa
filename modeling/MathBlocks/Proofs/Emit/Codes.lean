import MathBlocks.Proofs.Emit.Serving

/-!
# The codes of a program

What the blocks at the top level are written as, before it is made into lines. Whether bare values
are made statements matters for the lines alone, so neither the codes nor the pass depend on it.
-/

namespace MathBlocks

variable {ν : Type} [NameSource ν]

/-- Writes the blocks at the top level, up to the first fault, without making lines of them. -/
def writeCodes
    (customs : Customs) :
    List Block → Pass ν → Except Fault (List Code) × Pass ν
  | [], pass => (.ok [], pass)
  | block :: rest, pass =>
      match block.write customs pass with
      | (.error fault, pass) => (.error fault, pass)
      | (.ok code, pass) =>
          let (result, pass) := writeCodes customs rest pass
          (result.map (code :: ·), pass)

/-- What the blocks are written as is made into lines in the end. -/
theorem writeBlocks_eq
    (customs : Customs)
    (wrapBareValues : Bool)
    (blocks : List Block)
    (pass : Pass ν) :
    writeBlocks customs wrapBareValues blocks pass =
      ((writeCodes customs blocks pass).1.map (List.flatMap (Code.topLines wrapBareValues)),
        (writeCodes customs blocks pass).2) := by
  induction blocks generalizing pass with
  | nil =>
      rfl
  | cons block rest ih =>
      simp only [writeBlocks, writeCodes]
      cases block.write customs pass with
      | mk result middle =>
          cases result with
          | error fault =>
              rfl
          | ok code =>
              simp only [ih middle]
              cases (writeCodes customs rest middle).1 <;> rfl

/-- Blocks behind others are written after these. -/
theorem writeCodes_append
    (customs : Customs)
    (blocks others : List Block)
    (pass : Pass ν) :
    writeCodes customs (blocks ++ others) pass =
      match writeCodes customs blocks pass with
      | (.error fault, pass) => (.error fault, pass)
      | (.ok codes, pass) =>
          ((writeCodes customs others pass).1.map (codes ++ ·),
            (writeCodes customs others pass).2) := by
  induction blocks generalizing pass with
  | nil =>
      simp only [List.nil_append, writeCodes]
      cases writeCodes customs others pass with
      | mk result after =>
          cases result <;> rfl
  | cons block rest ih =>
      simp only [List.cons_append, writeCodes]
      cases block.write customs pass with
      | mk result middle =>
          cases result with
          | error fault =>
              rfl
          | ok code =>
              simp only [ih middle]
              cases writeCodes customs rest middle with
              | mk result after =>
                  cases result with
                  | error fault =>
                      rfl
                  | ok codes =>
                      simp only [Except.map]
                      cases (writeCodes customs others after).1 <;> rfl

/-- Where blocks with others behind them are written, the others are written from there on. -/
theorem exists_of_writeCodes_append
    {customs : Customs}
    {blocks others : List Block}
    {pass last : Pass ν}
    {all : List Code}
    (h : writeCodes customs (blocks ++ others) pass = (.ok all, last)) :
    ∃ codes more middle,
      writeCodes customs blocks pass = (.ok codes, middle) ∧
      writeCodes customs others middle = (.ok more, last) ∧
      all = codes ++ more := by
  rw [writeCodes_append] at h
  cases hblocks : writeCodes customs blocks pass with
  | mk result middle =>
      cases result with
      | error fault =>
          simp [hblocks] at h
      | ok codes =>
          cases hothers : writeCodes customs others middle with
          | mk result after =>
              cases result with
              | error fault =>
                  simp [hblocks, hothers, Except.map] at h
              | ok more =>
                  simp only [hblocks, hothers, Except.map, Prod.mk.injEq, Except.ok.injEq] at h
                  obtain ⟨rfl, rfl⟩ := h
                  exact ⟨codes, more, middle, rfl, hothers, rfl⟩

/-- Writing the blocks at the top level makes the requests of their log. -/
theorem writeCodes_serves
    (customs : Customs)
    (blocks : List Block)
    (pass : Pass ν) :
    pass.Serves (logBlocks customs blocks pass) (writeCodes customs blocks pass).2 := by
  have hserves := writeBlocks_serves_log customs false blocks pass
  rwa [writeBlocks_eq] at hserves

end MathBlocks

import MathBlocks.Main
import MathBlocks.Document.Encode
import MathBlocks.Emit.Bench
import MathBlocks.Names.Numbered
import MathBlocks.Proofs.CommandLine.Commands
import MathBlocks.Proofs.Compiler.Fresh
import MathBlocks.Proofs.Compiler.HelperSection
import MathBlocks.Proofs.Compiler.Value
import MathBlocks.Proofs.Compiler.Faults
import MathBlocks.Proofs.Document.AnySpelling
import MathBlocks.Proofs.Names.Distinct
import MathBlocks.Tag
import MathBlocks.Proofs.Emit.Outline
import MathBlocks.Proofs.Emit.Outlines
import MathBlocks.Proofs.Helper.Places
import MathBlocks.Proofs.Compiler.Renaming
import MathBlocks.Proofs.Lua.Script.Lexer
import MathBlocks.Proofs.Lua.Script.Reader
import MathBlocks.Proofs.Helper.Scope
import MathBlocks.Proofs.Emit.References
import MathBlocks.Proofs.Compiler.Hygiene
import MathBlocks.Proofs.Compiler.Appending
import MathBlocks.Proofs.Compiler.Cosmetics
import MathBlocks.Proofs.Compiler.Divisibility
import MathBlocks.Proofs.Emit.HelperCalls
import MathBlocks.Proofs.Compiler.SoleVariable
import MathBlocks.Proofs.Compiler.Repeating
import MathBlocks.Proofs.Decimal.Rounding
import MathBlocks.Proofs.Decimal.Exact
import MathBlocks.Proofs.Decimal.Shortest
import MathBlocks.Proofs.Decimal.Plain
import MathBlocks.Proofs.Decimal.Literal
import MathBlocks.Proofs.Decimal.LongExponent
import MathBlocks.Proofs.Emit.Number
import MathBlocks.Proofs.Compiler.NumberLiterals
import MathBlocks.Proofs.Compiler.ZeroDivisor
import MathBlocks.Proofs.Compiler.Chains
import MathBlocks.Proofs.Compiler.Unread
import MathBlocks.Proofs.Helper.Prime
import MathBlocks.Proofs.Helper.Median
import MathBlocks.Proofs.Helper.StandardDeviation
import MathBlocks.Proofs.Names.Search

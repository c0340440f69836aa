/-!
# Words of the target language

The words that generated Lua code must not use as names of its own: the keywords, and the globals
that a program may rely on.
-/

namespace MathBlocks
namespace Lua

/-- The words that are not available as names. -/
def reservedWords : List String :=
  ["_", "__inext", "assert", "bit", "colors", "colours", "coroutine", "disk", "dofile", "error",
   "fs", "getfenv", "getmetatable", "gps", "help", "io", "ipairs", "keys", "loadfile",
   "loadstring", "math", "native", "next", "os", "paintutils", "pairs", "parallel", "pcall",
   "peripheral", "print", "printError", "rawequal", "rawget", "rawset", "read", "rednet",
   "redstone", "rs", "select", "setfenv", "setmetatable", "sleep", "string", "table", "term",
   "textutils", "tonumber", "tostring", "turtle", "type", "unpack", "vector", "write", "xpcall",
   "_VERSION", "__index", "and", "break", "do", "else", "elseif", "end", "false", "for",
   "function", "goto", "if", "in", "local", "nil", "not", "or", "repeat", "return", "then",
   "true", "until", "while"]

end Lua
end MathBlocks

import MathBlocks.Helper.Table

/-!
# The helpers of the math blocks

The functions that math blocks call, as templates. A helper that calls another one gets the
identifier of the other as an argument.
-/

namespace MathBlocks
namespace MathHelper

/-- The template of a function with these parameters and body. -/
def function
    (parameters : String)
    (body : List String) : List String :=
  ("function " ++ helperPlaceholder ++ "(" ++ parameters ++ ")") :: body ++ ["end"]

/-- The logical name of the test for primes. -/
def isPrimeName : String := "math_isPrime"

/-- The logical name of the sum of a list. -/
def sumName : String := "math_sum"

/-- The logical name of the least entry of a list. -/
def minName : String := "math_min"

/-- The logical name of the greatest entry of a list. -/
def maxName : String := "math_max"

/-- The logical name of the mean of a list. -/
def averageName : String := "math_average"

/-- The logical name of the median of a list. -/
def medianName : String := "math_median"

/-- The logical name of the most frequent entries of a list. -/
def modesName : String := "math_modes"

/-- The logical name of the standard deviation of a list. -/
def standardDeviationName : String := "math_standard_deviation"

/-- The logical name of the random choice from a list. -/
def randomListName : String := "math_random_list"

/-- Trial division by the numbers next to the multiples of six. -/
def isPrime : List String :=
  function "n"
    ["  if n == 2 or n == 3 then",
     "    return true",
     "  end",
     "  -- NaN, below 2, fractional, or a multiple of 2 or 3.",
     "  if not(n > 1) or n % 1 ~= 0 or n % 2 == 0 or n % 3 == 0 then",
     "    return false",
     "  end",
     "  -- Trial division by 6k - 1 and 6k + 1 up to sqrt(n).",
     "  for x = 6, math.sqrt(n) + 1.5, 6 do",
     "    if n % (x - 1) == 0 or n % (x + 1) == 0 then",
     "      return false",
     "    end",
     "  end",
     "  return true"]

/-- The sum of the entries. -/
def sum : List String :=
  function "t"
    ["  local result = 0",
     "  for _, v in ipairs(t) do",
     "    result = result + v",
     "  end",
     "  return result"]

/-- The least entry, or zero if there is none. -/
def min : List String :=
  function "t"
    ["  if #t == 0 then",
     "    return 0",
     "  end",
     "  local result = math.huge",
     "  for _, v in ipairs(t) do",
     "    if v < result then",
     "      result = v",
     "    end",
     "  end",
     "  return result"]

/-- The greatest entry, or zero if there is none. -/
def max : List String :=
  function "t"
    ["  if #t == 0 then",
     "    return 0",
     "  end",
     "  local result = -math.huge",
     "  for _, v in ipairs(t) do",
     "    if v > result then",
     "      result = v",
     "    end",
     "  end",
     "  return result"]

/-- The sum, by the helper of that identifier, over the number of entries. -/
def average (sum : String) : List String :=
  function "t"
    ["  if #t == 0 then",
     "    return 0",
     "  end",
     "  return " ++ sum ++ "(t) / #t"]

/-- The middle of the numeric entries, or the mean of the two in the middle. -/
def median : List String :=
  function "t"
    ["  if #t == 0 then",
     "    return 0",
     "  end",
     "  local temp = \x7b\x7d",
     "  for _, v in ipairs(t) do",
     "    if type(v) == \"number\" then",
     "      table.insert(temp, v)",
     "    end",
     "  end",
     "  table.sort(temp)",
     "  if #temp % 2 == 0 then",
     "    return (temp[#temp / 2] + temp[(#temp / 2) + 1]) / 2",
     "  else",
     "    return temp[math.ceil(#temp / 2)]",
     "  end"]

/-- All entries that occur most often. -/
def modes : List String :=
  function "t"
    ["  local counts = \x7b\x7d",
     "  for _, v in ipairs(t) do",
     "    if counts[v] == nil then",
     "      counts[v] = 1",
     "    else",
     "      counts[v] = counts[v] + 1",
     "    end",
     "  end",
     "  local biggestCount = 0",
     "  for _, v in pairs(counts) do",
     "    if v > biggestCount then",
     "      biggestCount = v",
     "    end",
     "  end",
     "  local temp = \x7b\x7d",
     "  for k, v in pairs(counts) do",
     "    if v == biggestCount then",
     "      table.insert(temp, k)",
     "    end",
     "  end",
     "  return temp"]

/-- The standard deviation of a sample, with the sum by the helper of that identifier. -/
def standardDeviation (sum : String) : List String :=
  function "t"
    ["  local m",
     "  local vm",
     "  local total = 0",
     "  local count = 0",
     "  local result",
     "  m = #t == 0 and 0 or " ++ sum ++ "(t) / #t",
     "  for _, v in ipairs(t) do",
     "    if type(v) == 'number' then",
     "      vm = v - m",
     "      total = total + (vm * vm)",
     "      count = count + 1",
     "    end",
     "  end",
     "  result = math.sqrt(total / (count - 1))",
     "  return result"]

/-- An entry picked at random, or nothing from an empty list. -/
def randomList : List String :=
  function "t"
    ["  if #t == 0 then",
     "    return nil",
     "  end",
     "  return t[math.random(#t)]"]

/-- The template of a logical name; `sum` is the identifier of the sum of a list. -/
def template?
    (sum : String)
    (name : String) : Option (List String) :=
  if name = isPrimeName then some isPrime
  else if name = sumName then some MathHelper.sum
  else if name = minName then some min
  else if name = maxName then some max
  else if name = averageName then some (average sum)
  else if name = medianName then some median
  else if name = modesName then some modes
  else if name = standardDeviationName then some (standardDeviation sum)
  else if name = randomListName then some randomList
  else none

end MathHelper
end MathBlocks

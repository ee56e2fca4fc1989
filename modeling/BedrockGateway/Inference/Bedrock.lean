/-
# What is said to a model and what comes back

The client itself is a collaborator. An opened stream is the finite sequence of
chunks it is going to yield, followed by its regular end or by an exception; the
gateway consumes it one chunk at a time and may stop early.
-/

import BedrockGateway.Auth.Identity

namespace BedrockGateway

open Foundation

/-- A float, known by its `repr`. -/
structure PyFloat where
  repr : NumLiteral
  deriving DecidableEq

namespace PyFloat

/-- The number spelled by a run of decimal digits. -/
private def digits (text : List Char) : ℕ :=
  text.foldl (fun n c => 10 * n + (c.toNat - 48)) 0

/-- A sign and what it stands before. -/
private def signed (text : List Char) : ℤ × List Char :=
  match text with
  | '-' :: rest => (-1, rest)
  | '+' :: rest => (1, rest)
  | _ => (1, text)

/-- The number spelled by digits around an optional decimal point. -/
private def mantissa (text : List Char) : ℚ :=
  let (whole, fraction) := text.span (· != '.')
  let fraction := fraction.drop 1
  digits whole + (digits fraction : ℚ) / 10 ^ fraction.length

/-- The number a decimal literal spells. -/
def value (x : PyFloat) : ℚ :=
  let (text, exponent) := x.repr.text.span (· != 'e')
  let (sign, text) := signed text
  let (direction, exponent) := signed (exponent.drop 1)
  sign * mantissa text * (10 : ℚ) ^ (direction * digits exponent)

end PyFloat

/-- `BedrockChatMessage` -/
structure BedrockChatMessage where
  role : String
  text : String
  deriving DecidableEq

/-- `ConverseResult` -/
structure ConverseResult where
  text : String
  inputTokens : ℤ
  outputTokens : ℤ
  stopReason : Option String
  latencyMs : PyFloat
  retryCount : ℤ := 0
  deriving DecidableEq

/-- `StreamChunk` -/
structure StreamChunk where
  textDelta : String := ""
  isFinal : Bool := false
  stopReason : Option String := none
  inputTokens : Option ℤ := none
  outputTokens : Option ℤ := none
  deriving DecidableEq

/-- An iterator of chunks: what it yields, and the exception it raises instead of
ending, if any. -/
structure ChunkSource where
  chunks : List StreamChunk
  raises : Option Exn := none
  deriving DecidableEq

end BedrockGateway

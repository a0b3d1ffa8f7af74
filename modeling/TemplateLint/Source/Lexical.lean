import TemplateLint.Text.Basic

/-!
# Ends of comments and literals

Where a comment or a literal of the source ends, counted from the code point after
its opener. The total functions serve to step over a token of any source, however
broken: a regular literal ends before a line feed at the latest, and everything
ends with the text. The partial ones answer only for a token that is complete.
-/

namespace TemplateLint.Source

/-- Number of code points up to the end of a block comment. -/
def blockEnd? : Text → Option Nat
  | [] => none
  | [_] => none
  | c :: d :: rest =>
    if c = '*' ∧ d = '/' then some 2 else (blockEnd? (d :: rest)).map (· + 1)

/-- Number of code points of the content of a regular literal and its closing quote. A
backslash takes the next code point with it. -/
def regularLength (quote : CodePoint) : Text → Nat
  | [] => 0
  | c :: rest =>
    if c = '\\' then
      match rest with
      | [] => 1
      | _ :: rest => 2 + regularLength quote rest
    else if c = quote then 1
    else if c = '\n' then 0
    else 1 + regularLength quote rest

/-- Number of code points of the content of a verbatim literal and its closing quote. -/
def verbatimLength : Text → Nat
  | [] => 0
  | [_] => 1
  | c :: d :: rest =>
    if c = '"' then (if d = '"' then 2 + verbatimLength rest else 1)
    else 1 + verbatimLength (d :: rest)

/-- Number of code points of the content of an interpolated literal and its closing quote.
`depth` counts the open braces of a hole; inside a hole `inText` tells whether a regular
literal is open. -/
def interpolatedLength (isVerbatim : Bool) (depth : Nat) (inText : Bool) : Text → Nat
  | [] => 0
  | c :: rest =>
    if depth = 0 then
      if c = '\\' ∧ !isVerbatim then
        match rest with
        | [] => 1
        | _ :: rest => 2 + interpolatedLength isVerbatim 0 false rest
      else if c = '"' then
        match rest with
        | [] => 1
        | d :: rest =>
          if isVerbatim ∧ d = '"' then 2 + interpolatedLength isVerbatim 0 false rest else 1
      else if c = '\n' ∧ !isVerbatim then 0
      else if c = '{' then
        match rest with
        | [] => 1
        | d :: rest =>
          if d = '{' then 2 + interpolatedLength isVerbatim 0 false rest
          else 1 + interpolatedLength isVerbatim 1 false (d :: rest)
      else 1 + interpolatedLength isVerbatim 0 false rest
    else if inText then
      if c = '\\' then
        match rest with
        | [] => 1
        | _ :: rest => 2 + interpolatedLength isVerbatim depth true rest
      else 1 + interpolatedLength isVerbatim depth (c ≠ '"' ∧ c ≠ '\n') rest
    else if c = '"' then 1 + interpolatedLength isVerbatim depth true rest
    else if c = '{' then 1 + interpolatedLength isVerbatim (depth + 1) false rest
    else if c = '}' then 1 + interpolatedLength isVerbatim (depth - 1) false rest
    else 1 + interpolatedLength isVerbatim depth false rest

/-- Number of code points up to the closing quote of a regular literal on one line. -/
def regularEnd? (quote : CodePoint) : Text → Option Nat
  | [] => none
  | c :: rest =>
    if c = quote then some 1
    else if c = '\n' then none
    else if c = '\\' then
      match rest with
      | [] => none
      | d :: rest => if d = '\n' then none else (regularEnd? quote rest).map (· + 2)
    else (regularEnd? quote rest).map (· + 1)

/-- Number of code points up to the closing quote of a verbatim literal. This is the
first quote that is not doubled; if every quote is, the last pair is taken apart. -/
def verbatimEnd? : Text → Option Nat
  | [] => none
  | [c] => if c = '"' then some 1 else none
  | c :: d :: rest =>
    if c = '"' then
      if d = '"' then some ((verbatimEnd? rest).elim 1 (· + 2)) else some 1
    else (verbatimEnd? (d :: rest)).map (· + 1)

end TemplateLint.Source

import ResolverTypes.Disk.FilePath

/-!
# Patterns of names

In a pattern, `?` stands for any character, `*` for any characters, a list in brackets for one of
its characters, or for none of them after an exclamation mark, and `**`, as a component of its own,
for any directories.

## Main definitions

* `PatternToken` : a part of a pattern.
* `PatternError` : why a text is no pattern, with its text `PatternError.message`.
* `readPattern` : the pattern that a text stands for.
* `matchesTokens` : whether a name fits a pattern.
-/

namespace ResolverTypes

/-- A part of a pattern. -/
inductive PatternToken where
  /-- A character that stands for itself. -/
  | char (c : Char)
  /-- Any character. -/
  | anyChar
  /-- Any characters. -/
  | anySequence
  /-- Any directories. -/
  | anyDirectories
  /-- A character in one of some ranges, both ends included. -/
  | within (ranges : List (Char × Char))
  /-- A character in none of some ranges, both ends included. -/
  | outside (ranges : List (Char × Char))
deriving DecidableEq, Repr, Inhabited

/-- Why a text is no pattern. -/
inductive PatternProblem where
  /-- More than two stars stand together. -/
  | wildcards
  /-- Two stars are not a component of their own. -/
  | directories
  /-- A bracket starts no list of characters. -/
  | range
deriving DecidableEq, Repr, Inhabited

/-- The text of the problem. -/
def PatternProblem.message : PatternProblem → String
  | .wildcards => "wildcards are either regular `*` or recursive `**`"
  | .directories => "recursive wildcards must form a single path component"
  | .range => "invalid range pattern"

/-- Why and where a text is no pattern. -/
structure PatternError where
  /-- The number of characters before the place. -/
  position : Nat
  /-- What is wrong there. -/
  problem : PatternProblem
deriving DecidableEq, Repr, Inhabited

/-- The text of the error. -/
def PatternError.message (error : PatternError) : String :=
  "Pattern syntax error near position " ++ toString error.position ++ ": " ++ error.problem.message

/-- The ranges that a list of characters in brackets stands for. -/
def charRanges : List Char → List (Char × Char)
  | [] => []
  | first :: '-' :: last :: rest => (first, last) :: charRanges rest
  | c :: rest => (c, c) :: charRanges rest

/-- The characters in brackets, whether an exclamation mark stands before them, and the characters
behind; at least one character stands in brackets. -/
def bracketed? (chars : List Char) : Option (Bool × List Char × List Char) :=
  let (isOutside, chars) :=
    match chars with
    | '!' :: rest => (true, rest)
    | rest => (false, rest)
  match chars with
  | [] => none
  | first :: more =>
      let inside := more.takeWhile (· != ']')
      match more.drop inside.length with
      | [] => none
      | _ :: rest => some (isOutside, first :: inside, rest)

theorem length_of_bracketed? {chars : List Char} {isOutside : Bool} {inside rest : List Char}
    (h : bracketed? chars = some (isOutside, inside, rest)) : rest.length < chars.length := by
  have key : ∀ (flag : Bool) (cs : List Char), cs.length ≤ chars.length →
      (match cs with
        | [] => none
        | first :: more =>
            match more.drop (more.takeWhile (· != ']')).length with
            | [] => none
            | _ :: r => some (flag, first :: more.takeWhile (· != ']'), r)) =
          some (isOutside, inside, rest) → rest.length < chars.length := by
    intro flag cs hcs h
    match cs, hcs, h with
    | first :: more, hcs, h =>
        simp only at h
        split at h
        · simp at h
        next _ r hr =>
          have hlen := congrArg List.length hr
          simp only [List.length_drop, List.length_cons] at hlen
          simp only [Option.some.injEq, Prod.mk.injEq] at h
          obtain ⟨-, -, rfl⟩ := h
          simp only [List.length_cons] at hcs
          omega
  unfold bracketed? at h
  split at h
  next _ r heq =>
    split at heq
    next t =>
      simp only [Prod.mk.injEq] at heq
      obtain ⟨rfl, rfl⟩ := heq
      exact key _ _ (by simp) h
    next t ht =>
      simp only [Prod.mk.injEq] at heq
      obtain ⟨rfl, rfl⟩ := heq
      exact key _ _ (Nat.le_refl _) h

/-- The parts of a pattern, given the number of characters before it and the last of them. -/
def readTokens (position : Nat) (previous : Option Char) (chars : List Char) :
    Except PatternError (List PatternToken) :=
  match chars with
  | [] => .ok []
  | '?' :: rest => (readTokens (position + 1) (some '?') rest).map (.anyChar :: ·)
  | '*' :: '*' :: '*' :: _ => .error ⟨position + 2, .wildcards⟩
  | '*' :: '*' :: rest =>
      if previous.isSome ∧ previous ≠ some '/' then .error ⟨position - 1, .directories⟩
      else
        match rest with
        | [] => .ok [.anyDirectories]
        | '/' :: more => (readTokens (position + 3) (some '/') more).map (.anyDirectories :: ·)
        | _ => .error ⟨position + 2, .directories⟩
  | '*' :: rest => (readTokens (position + 1) (some '*') rest).map (.anySequence :: ·)
  | '[' :: rest =>
      match _h : bracketed? rest with
      | none => .error ⟨position, .range⟩
      | some (isOutside, inside, more) =>
          let token : PatternToken :=
            if isOutside then .outside (charRanges inside) else .within (charRanges inside)
          (readTokens (position + 1 + (rest.length - more.length)) (some ']') more).map (token :: ·)
  | c :: rest => (readTokens (position + 1) (some c) rest).map (.char c :: ·)
termination_by chars.length
decreasing_by
  all_goals simp_wf
  · omega
  · have := length_of_bracketed? _h
    omega

/-- The parts of a pattern. -/
def readPattern (text : String) : Except PatternError (List PatternToken) :=
  readTokens 0 none text.toList

/-- Whether a character lies in one of some ranges. -/
def inCharRanges (ranges : List (Char × Char)) (c : Char) : Bool :=
  ranges.any fun r => r.1 ≤ c && c ≤ r.2

/-- Whether a character fits a part of a pattern. -/
def PatternToken.fits (token : PatternToken) (c : Char) : Bool :=
  match token with
  | .char other => c == other
  | .within ranges => inCharRanges ranges c
  | .outside ranges => !inCharRanges ranges c
  | _ => true

/-- Whether characters fit the parts of a pattern. -/
def matchesTokens : List PatternToken → List Char → Bool
  | [], chars => chars.isEmpty
  | .anySequence :: tokens, [] => matchesTokens tokens []
  | .anySequence :: tokens, c :: chars =>
      matchesTokens tokens (c :: chars) || matchesTokens (.anySequence :: tokens) chars
  | _ :: _, [] => false
  | token :: tokens, c :: chars => token.fits c && matchesTokens tokens chars
termination_by tokens chars => tokens.length + chars.length

/-- The text that is the only one to fit a pattern, if the pattern stands for itself. -/
def literalText? (tokens : List PatternToken) : Option String :=
  (tokens.mapM fun
    | PatternToken.char c => some c
    | _ => none).map String.ofList

end ResolverTypes

import ResolverTypes.Layout.Comment
import ResolverTypes.Layout.Token
import ResolverTypes.Text.Quoted

/-!
# Scanning a module

The next token of a module's text, together with the comments in front of it.  A comment belongs to
the token behind it, unless it stands on the line of the token in front and that one takes it.

## Main definitions

* `ModuleScan` : what is left of a text, and what is known about the part in front.
* `ModuleScan.next` : the next token, what is left behind it, and what is wrong with it although it
  is a token.
* `ModuleScan.templatePart`, `ModuleScan.regex` : what is read in place of a token at some places.
-/

namespace ResolverTypes.Layout

/-- What is left of the text of a module, and what is known about the part in front. -/
structure ModuleScan where
  /-- What is left. -/
  rest : List Char
  /-- Where it starts. -/
  place : ModulePlace := {}
  /-- The last token, if there is one. -/
  last : Option ModuleToken := none
  /-- The comments in front. -/
  comments : Comments := {}
  /-- A number of characters that the text does not exceed. -/
  bound : Nat
deriving Inhabited

namespace ModuleScan

/-- What is left behind a number of characters. -/
def skip (scan : ModuleScan) (count : Nat) : ModuleScan :=
  { scan with
    place := scan.place.after (scan.rest.take count)
    rest := scan.rest.drop count }

/-! ### Gaps and comments -/

/-- A gap between two tokens, while it is read. -/
structure Gap where
  /-- What is left. -/
  scan : ModuleScan
  /-- Whether a line ends in the gap. -/
  isBroken : Bool
  /-- The comments that belong to the token behind the gap, the latest first. -/
  pending : List Comment := []
  /-- What is wrong in the gap. -/
  problem : Option LayoutError := none

/-- Adds a comment that belongs to the token in front of the gap. -/
def Gap.addBehind (gap : Gap) (comment : Comment) : Gap :=
  match gap.scan.last with
  | none => { gap with pending := comment :: gap.pending }
  | some token =>
      let comments := gap.scan.comments
      let added := { comments with behind := (token.stop, comment) :: comments.behind }
      { gap with scan := { gap.scan with comments := added } }

/-- Whether the token in front of a gap has a property. -/
def Gap.lastIs (gap : Gap) (property : ModuleToken → Bool) : Bool :=
  (gap.scan.last.map property).getD false

/-- Adds a comment that runs to the end of its line. -/
def Gap.addLine (gap : Gap) (text : List Char) : Gap :=
  let comment : Comment := ⟨String.ofList text, true⟩
  let isForNext := gap.isBroken || !gap.lastIs ModuleToken.takesLineComment
  let gap := { gap with scan := gap.scan.skip text.length }
  if isForNext then { gap with pending := comment :: gap.pending } else gap.addBehind comment

/-- The number of characters of a comment behind its opening signs, if it ends. -/
def commentLength? : List Char → Option Nat
  | [] => none
  | '*' :: '/' :: _ => some 2
  | _ :: cs => (commentLength? cs).map (· + 1)

/-- Goes behind blanks. -/
def Gap.skipBlanks (gap : Gap) : Gap :=
  let blanks := gap.scan.rest.takeWhile isModuleBlank
  { gap with
    scan := gap.scan.skip blanks.length
    isBroken := gap.isBroken || blanks.any isModuleBreak }

/-- Adds a comment between signs, and goes behind the blanks that follow it. -/
def Gap.addBlock (gap : Gap) (text : List Char) : Gap :=
  let comment : Comment := ⟨String.ofList text, false⟩
  let gap := { gap with
    scan := gap.scan.skip text.length
    isBroken := gap.isBroken || text.any isModuleBreak }
  let gap := gap.skipBlanks
  let endsItem := !gap.isBroken && gap.scan.rest.head? == some ';'
  let isForNext := (gap.isBroken || !gap.lastIs ModuleToken.takesBlockComment) && !endsItem
  if isForNext then { gap with pending := comment :: gap.pending } else gap.addBehind comment

/-- What is wrong with a comment in the form of another language. -/
def foreignComment : String := "Legacy comments cannot be used in module code"

/-- What is wrong with a line that separates two versions of a text. -/
def conflictMark : String := "Merge conflict marker encountered."

/-- What is wrong with a line, if nothing of it counts: it is a comment in a form that modules do
not have or, at the start of a line, stands between two versions of the text. -/
def idleLine? (isBroken : Bool) (cs : List Char) : Option String :=
  if "<!--".toList.isPrefixOf cs || (isBroken && "-->".toList.isPrefixOf cs) then
    some foreignComment
  else if isBroken && "=======".toList.isPrefixOf cs then some conflictMark
  else none

/-- Goes behind a line of which nothing counts. -/
def Gap.addIdle (gap : Gap) (message : String) : Gap :=
  let line := gap.scan.rest.takeWhile fun c => !isModuleBreak c
  { gap with
    scan := gap.scan.skip line.length
    problem := gap.problem.or (some (gap.scan.place.error message)) }

/-- Goes on to the next token, for a number of rounds. -/
def gapRounds : Nat → Gap → Gap
  | 0, gap => gap
  | rounds + 1, gap =>
      let gap := gap.skipBlanks
      match idleLine? gap.isBroken gap.scan.rest, gap.scan.rest with
      | some message, _ => gapRounds rounds (gap.addIdle message)
      | none, '/' :: '/' :: cs =>
          gapRounds rounds (gap.addLine ('/' :: '/' :: cs.takeWhile fun c => !isModuleBreak c))
      | none, '/' :: '*' :: cs =>
          match commentLength? cs with
          | some length => gapRounds rounds (gap.addBlock ('/' :: '*' :: cs.take length))
          | none =>
              let scan := gap.scan.skip gap.scan.rest.length
              let error := scan.place.error "Unterminated block comment"
              { gap with scan, problem := gap.problem.or (some error) }
      | none, _ => gap

/-- The gap in front of the next token. -/
def gap (scan : ModuleScan) : Gap := gapRounds scan.bound ⟨scan, scan.last.isNone, [], none⟩

/-! ### Literals -/

/-- The number of characters of a string behind its opening quote, and whether it ends on its
line. -/
def stringLength (quote : Char) : List Char → Nat × Bool
  | [] => (0, false)
  | '\\' :: '\r' :: '\n' :: cs => let (n, ends) := stringLength quote cs; (n + 3, ends)
  | '\\' :: _ :: cs => let (n, ends) := stringLength quote cs; (n + 2, ends)
  | c :: cs =>
      if c == quote then (1, true)
      else if c == '\n' || c == '\r' then (0, false)
      else let (n, ends) := stringLength quote cs; (n + 1, ends)

/-- The number of characters of a template up to a value or its end, and whether it ends there. -/
def templateLength? : List Char → Option (Nat × Bool)
  | [] => none
  | '\\' :: _ :: cs => (templateLength? cs).map fun (n, ends) => (n + 2, ends)
  | '$' :: '\x7b' :: _ => some (2, false)
  | c :: cs =>
      if c.toNat == 0x60 then some (1, true)
      else (templateLength? cs).map fun (n, ends) => (n + 1, ends)

/-- Whether a character is a digit of some base, or stands between digits. -/
def isDigitOf (base : Nat) (c : Char) : Bool :=
  c == '_' ||
    (if base = 16 then c.isDigit || ('a' ≤ c && c ≤ 'f') || ('A' ≤ c && c ≤ 'F')
     else '0'.toNat ≤ c.toNat && c.toNat < '0'.toNat + base)

/-- The base that a number whose first digit is zero is written in, by its second character. -/
def baseOf? (c : Char) : Option Nat :=
  if c == 'x' || c == 'X' then some 16
  else if c == 'o' || c == 'O' then some 8
  else if c == 'b' || c == 'B' then some 2
  else none

/-- The characters in front of the digits of an exponent, if one stands in front. -/
def exponentHead : List Char → List Char
  | e :: cs =>
      if e == 'e' || e == 'E' then
        match cs with
        | '+' :: _ => [e, '+']
        | '-' :: _ => [e, '-']
        | _ => [e]
      else []
  | [] => []

/-- The characters of a fraction with its point, if one stands in front. -/
def fractionPart : List Char → List Char
  | '.' :: cs => '.' :: cs.takeWhile (isDigitOf 10)
  | _ => []

/-- Something wrong inside a token. -/
structure TokenFault where
  /-- The number of characters of the token in front of it. -/
  offset : Nat
  /-- What is wrong. -/
  message : String
  /-- Whether the text is no token because of it. -/
  isFatal : Bool := false
deriving DecidableEq, Repr, Inhabited

/-- The digits of a number from one place on. -/
structure DigitRun where
  /-- The number of characters of the number in front of them. -/
  offset : Nat
  /-- The base that they are written in. -/
  base : Nat
  /-- The digits, with the signs that separate them. -/
  digits : List Char

/-- What is wrong with some digits: a sign that does not stand between two of them, or that there
are none although the number has to have some there. -/
def DigitRun.faults (run : DigitRun) : List TokenFault :=
  let isDigit (c : Option Char) : Bool := (c.map fun d => d != '_').getD false
  let misplaced := run.digits.zipIdx.filter fun (c, i) =>
    c == '_' && !((i != 0 && isDigit run.digits[i - 1]?) && isDigit run.digits[i + 1]?)
  let separators := misplaced.map fun _ =>
    (⟨run.offset, "A numeric separator is only allowed between two digits", false⟩ : TokenFault)
  if run.digits.any (· != '_') then separators
  else
    let wanted := match run.base with
      | 2 => "a binary"
      | 8 => "an octal"
      | 16 => "a hexadecimal"
      | _ => "a decimal"
    separators ++ [⟨run.offset, "Expected " ++ wanted ++ " digit", true⟩]

/-- Whether the digits of a whole number start with a zero that has no meaning. -/
def hasIdleZero (whole : List Char) : Bool := whole.head? == some '0' && 1 < whole.length

/-- Whether a digit is none of base eight. -/
def isBeyondOctal (c : Char) : Bool := c == '8' || c == '9'

/-- The characters of a number, whether it is a whole number of any size, and its digits. -/
def numberChars (cs : List Char) : List Char × Bool × List DigitRun :=
  let plain : List Char × Bool × List DigitRun :=
    let whole := cs.takeWhile (isDigitOf 10)
    let rest := cs.drop whole.length
    let wholeRun : List DigitRun := if whole.isEmpty then [] else [⟨0, 10, whole⟩]
    if hasIdleZero whole && !whole.any isBeyondOctal then (whole, false, wholeRun)
    else if !whole.isEmpty && !hasIdleZero whole && rest.head? == some 'n' then
      (whole ++ ['n'], true, wholeRun)
    else
      let fraction := fractionPart rest
      let chars := whole ++ fraction
      let fractionRun : List DigitRun :=
        if fraction.length ≤ 1 then [] else [⟨whole.length + 1, 10, fraction.drop 1⟩]
      let runs := wholeRun ++ fractionRun
      let head := exponentHead (rest.drop fraction.length)
      if head.isEmpty then (chars, false, runs)
      else
        let exponent := (rest.drop (fraction.length + head.length)).takeWhile (isDigitOf 10)
        let exponentRun : DigitRun := ⟨chars.length + head.length, 10, exponent⟩
        (chars ++ head ++ exponent, false, runs ++ [exponentRun])
  match cs with
  | '0' :: c :: rest =>
      match baseOf? c with
      | some base =>
          let digits := rest.takeWhile (isDigitOf base)
          let runs : List DigitRun := [⟨2, base, digits⟩]
          if (rest.drop digits.length).head? == some 'n' then
            ('0' :: c :: (digits ++ ['n']), true, runs)
          else ('0' :: c :: digits, false, runs)
      | none => plain
  | _ => plain

/-- What is wrong with a number that starts with a zero although it is in base ten. -/
def legacyFaults (text : List Char) : List TokenFault :=
  let whole := text.takeWhile (isDigitOf 10)
  if !hasIdleZero whole then []
  else
    let separated : List TokenFault :=
      if whole.contains '_' then
        [⟨0, "A numeric separator is only allowed between two digits", false⟩]
      else []
    let message :=
      if whole.any isBeyondOctal then "Legacy decimal escape is not permitted in strict mode"
      else "Legacy octal literals are not available when targeting ECMAScript 5 and higher"
    separated ++ [⟨0, message, false⟩]

/-- What is wrong with the end of a number, given what follows it in the text. -/
def numberEndFaults (chars : List Char) (isBig : Bool) (behind : List Char) : List TokenFault :=
  let breaksOff := behind.isEmpty && (chars.getLast? == some 'e' || chars.getLast? == some 'E')
    && !(chars.head? == some '0' && (chars[1]?.bind baseOf?).isSome)
  let isJoined := !isBig && (behind.head?.map Text.isIdentifierStart).getD false
  if breaksOff then [⟨chars.length, "Expected +, - or decimal digit after e", true⟩]
  else if isJoined then [⟨chars.length, "Identifier cannot follow number", true⟩]
  else []

/-- The value of some digits of base sixteen. -/
def hexValue? (cs : List Char) : Option Nat :=
  if cs.isEmpty || !cs.all fun c => c != '_' && isDigitOf 16 c then none
  else
    some (cs.foldl (fun n c =>
      16 * n + (if c.isDigit then c.toNat - '0'.toNat
        else if 'a' ≤ c then c.toNat - 'a'.toNat + 10
        else c.toNat - 'A'.toNat + 10)) 0)

/-- What is wrong with an escape, given what stands behind its backslash. -/
def escapeFault? (offset : Nat) (cs : List Char) : Option TokenFault :=
  let malformed (expected : String) : Option TokenFault :=
    some ⟨offset, "Bad character escape sequence, expected " ++ expected, true⟩
  match cs with
  | 'x' :: cs =>
      if cs.length < 2 || (hexValue? (cs.take 2)).isNone then malformed "2 hex characters"
      else none
  | 'u' :: '\x7b' :: cs =>
      let digits := cs.takeWhile (isDigitOf 16)
      if (hexValue? digits).any fun n => n ≤ 0x10FFFF then
        if (cs.drop digits.length).head? == some '\x7d' then none
        else some ⟨offset, "Invalid unicode escape", true⟩
      else malformed "1-6 hex characters in the range 0 to 10FFFF."
  | 'u' :: cs =>
      if cs.length < 4 || (hexValue? (cs.take 4)).isNone then malformed "4 hex characters"
      else none
  | c :: cs =>
      let isOctal (d : Char) : Bool := '0' ≤ d && d ≤ '7'
      if isOctal c && !(c == '0' && !(cs.head?.map isOctal).getD false) then
        some ⟨offset, "Legacy octal escape is not permitted in strict mode", false⟩
      else none
  | [] => none

/-- What is wrong with the escapes of a string or template from one place on. -/
def escapeFaults (offset : Nat) : List Char → List TokenFault
  | '\\' :: c :: cs =>
      (escapeFault? offset (c :: cs)).toList ++ escapeFaults (offset + 2) cs
  | _ :: cs => escapeFaults (offset + 1) cs
  | [] => []

/-- What an escape in an identifier stands for, and the number of characters behind its backslash
and the letter, or what is wrong with it at a number of these characters. -/
def identifierEscape (cs : List Char) : Except (Nat × String) (List Char × Nat) :=
  let malformed (expected : String) : String :=
    "Bad character escape sequence, expected " ++ expected
  let shown (count : Nat) (n : Nat) : List Char :=
    if n.isValidChar then [Char.ofNat n] else '\\' :: 'u' :: cs.take count
  match cs with
  | '\x7b' :: cs =>
      let digits := cs.takeWhile (isDigitOf 16)
      let value (count : Nat) : Nat :=
        (hexValue? ((digits.take count).filter (· != '_'))).getD 0
      let excess := (List.range (digits.length + 1)).find? fun count => 0xFFFFFFFF < value count
      if let some count := excess then .error (count + 1, malformed "1-6 hex characters")
      else if digits.all (· == '_') then
        .error (digits.length + 1, malformed "1-6 hex characters")
      else if 0x10FFFF < value digits.length then
        .error (digits.length + 1,
          malformed "1-6 hex characters in the range 0 to 10FFFF.")
      else if (cs.drop digits.length).head? != some '\x7d' then
        .error (1, "Invalid unicode escape")
      else .ok (shown (digits.length + 2) (value digits.length), digits.length + 2)
  | _ =>
      let digits := (cs.take 4).takeWhile fun c => c != '_' && isDigitOf 16 c
      match hexValue? digits with
      | some n =>
          if digits.length = 4 then .ok (shown 4 n, 4)
          else .error (digits.length, malformed "4 hex characters")
      | none => .error (digits.length, malformed "4 hex characters")

/-- An identifier as it is scanned. -/
structure ScannedWord where
  /-- Its characters, escapes being read. -/
  chars : List Char := []
  /-- The number of characters that it takes up. -/
  length : Nat := 0
  /-- Whether it holds an escape. -/
  isEscaped : Bool := false
  /-- What is wrong with it. -/
  faults : List TokenFault := []

/-- Adds the characters of an identifier from one place on, for a number of rounds. -/
def wordRounds : Nat → ScannedWord → List Char → ScannedWord
  | 0, word, _ => word
  | rounds + 1, word, cs =>
      let plain := cs.takeWhile Text.isIdentifierChar
      let word := { word with
        chars := word.chars ++ plain, length := word.length + plain.length }
      let fault (offset : Nat) (message : String) (isFatal : Bool) : ScannedWord :=
        { word with faults := word.faults ++ [⟨word.length + offset, message, isFatal⟩] }
      match cs.drop plain.length with
      | '\\' :: 'u' :: rest =>
          match identifierEscape rest with
          | .error (offset, message) => fault (offset + 2) message true
          | .ok (chars, length) =>
              let fits :=
                if word.chars.isEmpty then Text.isIdentifierStart else Text.isIdentifierChar
              let isValid := (chars.head?.map fits).getD false
              let word := if isValid then word else fault 0 "Invalid character in identifier" false
              wordRounds rounds
                { word with
                  chars := word.chars ++ chars
                  length := word.length + length + 2
                  isEscaped := true }
                (rest.drop length)
      | '\\' :: _ => fault 0 "Expected unicode escape" true
      | _ => word

/-- The identifier that some characters start with. -/
def scannedWord (bound : Nat) (cs : List Char) : ScannedWord :=
  let word := wordRounds (bound + 1) {} cs
  let text := String.ofList word.chars
  if word.isEscaped && word.faults.isEmpty && variableWords.contains text then
    { word with
      faults := [⟨0, "Unexpected escape sequence in reserved word: " ++ text, true⟩] }
  else word

/-! ### Tokens -/

/-- The marks of more than one character, of two that start alike the longer first.  Of marks that
start with an angle bracket, which may stand for several, none is here. -/
def longMarks : List (List Char) :=
  ["...", "===", "!==", "**=", "&&=", "||=", "??=", "=>", "?.", "??", "&&", "||", "==", "!=", "++",
    "--", "+=", "-=", "*=", "**", "/=", "%=", "&=", "|=", "^="].map String.toList

/-- The marks of one character. -/
def shortMarks : List Char := "\x7b\x7d()[]<>;,:=|&?.+-*/!@#%^~".toList

/-- The mark that some characters start with, if there is one. -/
def markChars? (cs : List Char) : Option (List Char) :=
  match longMarks.find? (·.isPrefixOf cs) with
  | some mark =>
      if mark == ['?', '.'] && ((cs.drop 2).head?.map Char.isDigit).getD false then some ['?']
      else some mark
  | none => cs.head?.bind fun c => if shortMarks.contains c then some [c] else none

/-- A token as it is scanned: its kind, its text, the number of characters that it takes up, and
what is wrong with it. -/
structure Scanned where
  /-- The kind. -/
  kind : ModuleTokenKind
  /-- The text. -/
  text : String
  /-- The number of characters. -/
  length : Nat
  /-- What is wrong although the text is a token. -/
  notes : List LayoutError := []

/-- A text at a place as a token or, if one of its faults keeps it from being one, as none. -/
def Scanned.ofFaults (place : ModulePlace) (kind : ModuleTokenKind) (text : List Char)
    (length : Nat) (faults : List TokenFault) : Scanned :=
  let error (fault : TokenFault) : LayoutError :=
    (place.after (text.take fault.offset)).error fault.message
  let notes := (faults.takeWhile fun fault => !fault.isFatal).map error
  let kind := ((faults.find? (·.isFatal)).map fun fault => .invalid (error fault)).getD kind
  ⟨kind, String.ofList text, length, notes⟩

/-- The token that some characters at a place start with. -/
def scanned (bound : Nat) (place : ModulePlace) (c : Char) (cs : List Char) : Scanned :=
  let all := c :: cs
  if Text.isIdentifierStart c || c == '\\' then
    let word := scannedWord bound all
    let length := max word.length 1
    let reach := word.faults.foldl (fun most fault => max most fault.offset) length
    let found := Scanned.ofFaults place .word (all.take reach) length word.faults
    { found with text := String.ofList word.chars }
  else if c == '"' || c == '\'' then
    let (length, ends) := stringLength c cs
    let text := c :: cs.take length
    let unended : List TokenFault :=
      if ends then [] else [⟨0, "Unterminated string constant", false⟩]
    Scanned.ofFaults place .string text (length + 1) (escapeFaults 0 text ++ unended)
  else if c.toNat == 0x60 then
    match templateLength? cs with
    | some (length, ends) =>
        ⟨if ends then .template else .templateHead, String.ofList (c :: cs.take length),
          length + 1, []⟩
    | none => Scanned.ofFaults place .template all all.length [⟨0, "Unterminated template", true⟩]
  else if c.isDigit || (c == '.' && (cs.head?.map Char.isDigit).getD false) then
    let (chars, isBig, runs) := numberChars all
    let ends := numberEndFaults chars isBig (all.drop chars.length)
    let isCut := ends.any fun fault => fault.offset == chars.length
    let digits := runs.flatMap DigitRun.faults
    Scanned.ofFaults place (if isBig then .bigint else .number) chars chars.length
      (legacyFaults chars ++ digits.filter (fun fault => !(isCut && fault.isFatal)) ++ ends)
  else
    match markChars? all with
    | some mark => ⟨.mark, String.ofList mark, mark.length, []⟩
    | none =>
        let message := "Unexpected character '" ++ Text.quotedChar c ++ "'"
        Scanned.ofFaults place .mark [c] 1 [⟨0, message, true⟩]

/-- Whether some characters at the start of a line stand in front of one of several versions of a
text. -/
def startsVersion (cs : List Char) : Bool :=
  ["<<<<<<< ", ">>>>>>> ", "||||||| "].any fun mark => mark.toList.isPrefixOf cs

/-- A token at the start of what is left, and what is left behind it. -/
def take (scan : ModuleScan) (kind : ModuleTokenKind) (text : String) (length : Nat)
    (onNewLine : Bool) : ModuleToken × ModuleScan :=
  let behind := scan.skip length
  let token : ModuleToken := ⟨kind, text, scan.place, behind.place.offset, onNewLine⟩
  (token, { behind with last := some token })

/-- The comments of a text, to which some are added in front of a place. -/
def withPending (comments : Comments) (place : Nat) (pending : List Comment) : Comments :=
  { comments with before := pending.map (fun comment => (place, comment)) ++ comments.before }

/-- The comments of a text whose last gap has been read: those of that gap belong to the last token
or, without any token, to the start of the text. -/
def Gap.finished (gap : Gap) : Comments :=
  let comments := gap.scan.comments
  match gap.scan.last with
  | none => withPending comments 0 gap.pending
  | some token =>
      { comments with
        behind := gap.pending.map (fun comment => (token.stop, comment)) ++ comments.behind }

/-- The next token, what is left behind it, and what is wrong with it or the gap in front. -/
def next (scan : ModuleScan) : ModuleToken × ModuleScan × List LayoutError :=
  let gap := scan.gap
  let problems := gap.problem.toList
  match gap.scan.rest with
  | [] =>
      let place := gap.scan.place
      let token : ModuleToken := ⟨.eof, "", place, place.offset, gap.isBroken⟩
      (token, { gap.scan with comments := gap.finished }, problems)
  | c :: cs =>
      let place := gap.scan.place
      let found :=
        if gap.isBroken && startsVersion (c :: cs) then
          Scanned.ofFaults place .mark (List.replicate 7 c) 7
            [⟨0, conflictMark, false⟩, ⟨0, conflictMark, true⟩]
        else scanned gap.scan.bound place c cs
      let comments := withPending gap.scan.comments place.offset gap.pending
      let (token, left) :=
        { gap.scan with comments }.take found.kind found.text found.length gap.isBroken
      (token, left, problems ++ found.notes)

/-- The scan of a text, behind its first line if that says how to run it, and that line. -/
def ofText (text : String) : ModuleScan × Option String :=
  let chars := text.toList
  let scan : ModuleScan := { rest := chars, bound := chars.length }
  match chars with
  | '#' :: '!' :: cs =>
      let line := '#' :: '!' :: cs.takeWhile fun c => !isModuleBreak c
      (scan.skip line.length, some (String.ofList line))
  | _ => (scan, none)

/-- The part of a template behind a value, what is left behind it, and whether the template ends
with it. -/
def templatePart (scan : ModuleScan) : Option (String × ModuleScan × Bool) :=
  (templateLength? scan.rest).map fun (length, ends) =>
    let (token, left) :=
      scan.take (if ends then .template else .templateHead) (String.ofList (scan.rest.take length))
        length false
    (token.text, left, ends)

/-- What is wrong with a template whose escapes have to be right, given a part of it and where that
starts. -/
def templateError? (place : ModulePlace) (part : List Char) : Option LayoutError :=
  (escapeFaults 0 part).head?.map fun fault =>
    (place.after (part.take fault.offset)).error fault.message

/-- The number of characters of a regular expression behind its first slash, if it ends on its
line, and whether it stands in a class there. -/
def regexLength? : Bool → List Char → Option Nat
  | _, [] => none
  | inClass, '\\' :: c :: cs =>
      if isModuleBreak c then none else (regexLength? inClass cs).map (· + 2)
  | inClass, c :: cs =>
      if isModuleBreak c then none
      else if c == '/' && !inClass then some (1 + (cs.takeWhile Text.isIdentifierChar).length)
      else (regexLength? (if c == '[' then true else if c == ']' then false else inClass) cs).map
        (· + 1)

end ModuleScan

end ResolverTypes.Layout

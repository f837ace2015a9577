import OctoChannel.Foundation.Json

/-! `json.loads` as a pushdown reader: one step per character, the enclosing
arrays and objects on a stack whose height is the recursion depth. -/

namespace OctoChannel.Foundation.Json

/-- `ValueError` (`JSONDecodeError` included) or `RecursionError`. -/
inductive LoadsError where
  | malformed
  | tooDeep
  deriving DecidableEq, Repr

/-- A container being read; an object remembers the key of its current member. -/
inductive Frame where
  | arr (items : List Json)
  | obj (members : List (PyStr × Json)) (name : PyStr)

/-- Whether the string being read is a member name or a value. -/
inductive TextKind where
  | name
  | value
  deriving DecidableEq, Repr

/-- What the next character may be. `high` says that the text read so far ends
in a high surrogate that was written as an escape. -/
inductive Mode where
  | value
  | firstItem
  | firstName
  | name
  | colon
  | more
  | text (kind : TextKind) (read : PyStr) (high : Bool)
  | escape (kind : TextKind) (read : PyStr) (high : Bool)
  | unicode (kind : TextKind) (read : PyStr) (high : Bool) (digits : List Nat)
  | atom (read : PyStr)
  | done (result : Json)

abbrev State := Mode × List Frame

def isSpace (point : CodePoint) : Bool :=
  point = ch ' ' || point.val = 0x09 || point.val = 0x0a || point.val = 0x0d

/-- Characters that end a number or a keyword. -/
def isDelimiter (point : CodePoint) : Bool :=
  isSpace point || point = ch ',' || point = ch ':' || point = ch ']' || point = ch '}' ||
    point = ch '[' || point = ch '{' || point = ch '"'

def isDigit (point : CodePoint) : Bool := 0x30 ≤ point.val && point.val ≤ 0x39

def hexValue (point : CodePoint) : Option Nat :=
  if 0x30 ≤ point.val ∧ point.val ≤ 0x39 then some (point.val - 0x30)
  else if 0x61 ≤ point.val ∧ point.val ≤ 0x66 then some (point.val - 0x57)
  else if 0x41 ≤ point.val ∧ point.val ≤ 0x46 then some (point.val - 0x37)
  else none

/-- `sys.get_int_max_str_digits()`. -/
def maxIntDigits : Nat := 4300

def readNat (digits : PyStr) : Nat :=
  Nat.ofDigits 10 (digits.reverse.map fun point => point.val - 0x30)

/-- Digits of an integer part: no leading zero except in `0` itself. -/
def isIntPart (digits : PyStr) : Bool :=
  digits = [ch '0'] || (digits.head?.any fun first => isDigit first && first != ch '0')

/-- An optional exponent and nothing after it. -/
def isExponent : PyStr → Bool
  | [] => true
  | mark :: rest =>
    let digits := match rest with
      | sign :: others => if sign = ch '+' || sign = ch '-' then others else rest
      | [] => []
    (mark = ch 'e' || mark = ch 'E') && !digits.isEmpty && digits.all isDigit

/-- An optional fraction, then an optional exponent, and nothing after them. -/
def isFraction : PyStr → Bool
  | [] => true
  | mark :: rest =>
    if mark = ch '.' then
      !(rest.takeWhile isDigit).isEmpty && isExponent (rest.dropWhile isDigit)
    else isExponent (mark :: rest)

variable (runtime : Runtime)

/-- A number literal with its sign already taken off. -/
def readNumber (literal : PyStr) (negative : Bool) (body : PyStr) : Except LoadsError Json :=
  let whole := body.takeWhile isDigit
  let rest := body.dropWhile isDigit
  if !isIntPart whole then .error .malformed
  else if rest.isEmpty then
    if maxIntDigits < whole.length then .error .malformed
    else .ok (.int (if negative then -(readNat whole : Int) else readNat whole))
  else if isFraction rest then .ok (.float (runtime.floatText literal))
  else .error .malformed

/-- A keyword or a number literal. -/
def readAtom (literal : PyStr) : Except LoadsError Json :=
  if literal = py "null" then .ok .null
  else if literal = py "true" then .ok (.bool true)
  else if literal = py "false" then .ok (.bool false)
  else if literal = py "NaN" || literal = py "Infinity" || literal = py "-Infinity" then
    .ok (.float (runtime.floatText literal))
  else match literal with
    | [] => .error .malformed
    | first :: rest =>
      if first = ch '-' then readNumber runtime literal true rest
      else readNumber runtime literal false literal

/-- Hand a finished value to the container around it. -/
def deliver (value : Json) : List Frame → State
  | [] => (.done value, [])
  | .arr items :: rest => (.more, .arr (items ++ [value]) :: rest)
  | .obj members name :: rest => (.more, .obj (Dict.assign name value members) name :: rest)

def closeArray : List Frame → Except LoadsError State
  | .arr items :: rest => .ok (deliver (.arr items) rest)
  | _ => .error .malformed

def closeObject : List Frame → Except LoadsError State
  | .obj members _ :: rest => .ok (deliver (.obj members) rest)
  | _ => .error .malformed

def openContainer (mode : Mode) (frame : Frame) (stack : List Frame) : Except LoadsError State :=
  if runtime.loadsDepth ≤ stack.length then .error .tooDeep else .ok (mode, frame :: stack)

def finishText (kind : TextKind) (text : PyStr) (stack : List Frame) : Except LoadsError State :=
  match kind, stack with
  | .value, stack => .ok (deliver (.str text) stack)
  | .name, .obj members _ :: rest => .ok (.colon, .obj members text :: rest)
  | .name, _ => .error .malformed

def beginValue (stack : List Frame) (point : CodePoint) : Except LoadsError State :=
  if point = ch '"' then .ok (.text .value [] false, stack)
  else if point = ch '[' then openContainer runtime .firstItem (.arr []) stack
  else if point = ch '{' then openContainer runtime .firstName (.obj [] []) stack
  else if isDelimiter point then .error .malformed
  else .ok (.atom [point], stack)

/-- After a complete value: white space, a comma or the closing bracket. -/
def afterValue (state : State) (point : CodePoint) : Except LoadsError State :=
  if isSpace point then .ok state
  else match state with
    | (.more, stack) =>
      if point = ch ',' then
        match stack with
        | .arr _ :: _ => .ok (.value, stack)
        | .obj _ _ :: _ => .ok (.name, stack)
        | [] => .error .malformed
      else if point = ch ']' then closeArray stack
      else if point = ch '}' then closeObject stack
      else .error .malformed
    | _ => .error .malformed

/-- Code units a high surrogate escape and the low one right after it denote together. -/
def joinSurrogates (high low : Nat) : Nat := 0x10000 + (high - 0xd800) * 0x400 + (low - 0xdc00)

/-- Append the unit of a complete `\uXXXX` escape; a low surrogate completes the
high one before it. -/
def appendUnit (read : PyStr) (high : Bool) (unit : Nat) : PyStr × Bool :=
  if high ∧ 0xdc00 ≤ unit ∧ unit ≤ 0xdfff then
    (read.dropLast ++ [Fin.ofNat 0x110000 (joinSurrogates (read.getLast?.getD 0).val unit)], false)
  else (read ++ [Fin.ofNat 0x110000 unit], decide (0xd800 ≤ unit ∧ unit ≤ 0xdbff))

/-- The character after a backslash, where it is not `u`. -/
def simpleEscape (point : CodePoint) : Option CodePoint :=
  if point = ch '"' || point = ch '\\' || point = ch '/' then some point
  else if point = ch 'b' then some 0x08
  else if point = ch 'f' then some 0x0c
  else if point = ch 'n' then some 0x0a
  else if point = ch 'r' then some 0x0d
  else if point = ch 't' then some 0x09
  else none

def step : State → CodePoint → Except LoadsError State
  | (.value, stack), point =>
    if isSpace point then .ok (.value, stack) else beginValue runtime stack point
  | (.firstItem, stack), point =>
    if isSpace point then .ok (.firstItem, stack)
    else if point = ch ']' then closeArray stack
    else beginValue runtime stack point
  | (.firstName, stack), point =>
    if isSpace point then .ok (.firstName, stack)
    else if point = ch '}' then closeObject stack
    else if point = ch '"' then .ok (.text .name [] false, stack)
    else .error .malformed
  | (.name, stack), point =>
    if isSpace point then .ok (.name, stack)
    else if point = ch '"' then .ok (.text .name [] false, stack)
    else .error .malformed
  | (.colon, stack), point =>
    if isSpace point then .ok (.colon, stack)
    else if point = ch ':' then .ok (.value, stack)
    else .error .malformed
  | (.more, stack), point => afterValue (.more, stack) point
  | (.done value, stack), point => afterValue (.done value, stack) point
  | (.text kind read high, stack), point =>
    if point = ch '"' then finishText kind read stack
    else if point = ch '\\' then .ok (.escape kind read high, stack)
    else if point.val < 0x20 then .error .malformed
    else .ok (.text kind (read ++ [point]) false, stack)
  | (.escape kind read high, stack), point =>
    if point = ch 'u' then .ok (.unicode kind read high [], stack)
    else match simpleEscape point with
      | some meant => .ok (.text kind (read ++ [meant]) false, stack)
      | none => .error .malformed
  | (.unicode kind read high digits, stack), point =>
    match hexValue point with
    | none => .error .malformed
    | some value =>
      if digits.length < 3 then .ok (.unicode kind read high (digits ++ [value]), stack)
      else
        let unit := (digits ++ [value]).foldl (fun total digit => total * 16 + digit) 0
        .ok (.text kind (appendUnit read high unit).1 (appendUnit read high unit).2, stack)
  | (.atom read, stack), point =>
    if isDelimiter point then
      match readAtom runtime read with
      | .ok value => afterValue (deliver value stack) point
      | .error error => .error error
    else .ok (.atom (read ++ [point]), stack)

def run : State → PyStr → Except LoadsError State
  | state, [] => .ok state
  | state, point :: rest =>
    match step runtime state point with
    | .ok next => run next rest
    | .error error => .error error

/-- At the end of the text exactly one value must have been completed. -/
def finish : State → Except LoadsError Json
  | (.done value, _) => .ok value
  | (.atom read, stack) =>
    match readAtom runtime read with
    | .ok value =>
      match deliver value stack with
      | (.done result, _) => .ok result
      | _ => .error .malformed
    | .error error => .error error
  | _ => .error .malformed

def loads (text : PyStr) : Except LoadsError Json :=
  match run runtime (.value, []) text with
  | .ok state => finish runtime state
  | .error error => .error error

end OctoChannel.Foundation.Json

import ApiAtlas.Json.Basic

/-! # Reading Json

A text is read in two steps, each a single pass. The first cuts the text into tokens; the second
puts the tokens together, with the arrays and objects that are still open on a stack. Of equal keys
the last one counts. A text in which containers are nested too deeply is refused.
-/

namespace ApiAtlas.Json

/-- The tokens of a Json text. -/
inductive Token where
  | openObject
  | closeObject
  | openArray
  | closeArray
  | colon
  | comma
  | value (value : Json)

/-- What the characters read last belong to. Texts are kept in reverse. -/
inductive LexMode where
  | between
  | bare (text : List Char)
  | string (text : List Char)
  | escape (text : List Char)
  | unit (text : List Char) (high : Option Nat) (digits : Nat) (value : Nat)
  | afterHigh (text : List Char) (high : Nat)
  | afterHighEscape (text : List Char) (high : Nat)

/-- The tokens found so far, in reverse, and the mode. -/
structure LexState where
  tokens : List Token
  mode : LexMode

/-- The digits at the beginning of a text, and the rest. -/
def leadingDigits (s : List Char) : List Char × List Char :=
  (s.takeWhile Char.isDigit, s.dropWhile Char.isDigit)

/-- The number written by a run of digits. -/
def digitsValue (digits : List Char) : Nat :=
  digits.foldl (fun n c => 10 * n + (c.toNat - 48)) 0

/-- The digits of a fraction after a point; no point, no digits. -/
def fractionDigits? : List Char → Option (List Char × List Char)
  | '.' :: rest =>
    let (digits, after) := leadingDigits rest
    if digits.isEmpty then none else some (digits, after)
  | s => some ([], s)

/-- The exponent at the end of a number. -/
def exponent? (s : List Char) : Option (Option Int) :=
  let finish := fun (negative : Bool) (digits : List Char) =>
    if digits.isEmpty || !digits.all Char.isDigit then none
    else
      let value : Int := digitsValue digits
      some (some (if negative then -value else value))
  match s with
  | [] => some none
  | e :: rest =>
    if e = 'e' || e = 'E' then
      match rest with
      | '+' :: digits => finish false digits
      | '-' :: digits => finish true digits
      | digits => finish false digits
    else none

/-- A number. An integer that fits into 64 bits stays one; minus zero and all other numbers are
decimals. -/
def number? (s : List Char) : Option Json := do
  let (negative, body) := match s with
    | '-' :: rest => (true, rest)
    | rest => (false, rest)
  let (whole, rest) := leadingDigits body
  guard (!whole.isEmpty && (whole.length == 1 || whole.head? != some '0'))
  let (fraction, rest) ← fractionDigits? rest
  let exponent ← exponent? rest
  let n := digitsValue whole
  let fits := if negative then 0 < n && n ≤ UInt64.size / 2 else n < UInt64.size
  if fraction.isEmpty && exponent.isNone && fits then
    return int (if negative then -(n : Int) else n)
  else
    let scale : Int := exponent.getD 0 - fraction.length
    return decimal (← Decimal.ofDigits? negative (digitsValue (whole ++ fraction)) scale)

/-- The value of a token written without quotes. -/
def bare? (s : List Char) : Option Json :=
  if s = "null".toList then some null
  else if s = "true".toList then some (bool true)
  else if s = "false".toList then some (bool false)
  else number? s

/-- A character that a number or a literal may contain. -/
def isBare (c : Char) : Bool :=
  c.isAlphanum || c == '-' || c == '+' || c == '.'

/-- The value of a hexadecimal digit. -/
def hexDigit? (c : Char) : Option Nat :=
  if c.isDigit then some (c.toNat - 48)
  else if 'a' ≤ c && c ≤ 'f' then some (c.toNat - 87)
  else if 'A' ≤ c && c ≤ 'F' then some (c.toNat - 55)
  else none

/-- The character that an escape letter stands for. -/
def escaped? : Char → Option Char
  | '"' => some '"'
  | '\\' => some '\\'
  | '/' => some '/'
  | 'b' => some (Char.ofNat 8)
  | 'f' => some (Char.ofNat 12)
  | 'n' => some '\n'
  | 'r' => some '\r'
  | 't' => some '\t'
  | _ => none

/-- Read a character between tokens. -/
def lexBetween? (tokens : List Token) (c : Char) : Option LexState :=
  let mark := fun token => some ⟨token :: tokens, LexMode.between⟩
  if c = ' ' || c = '\n' || c = '\r' || c = '\t' then some ⟨tokens, .between⟩
  else if c = '\x7b' then mark .openObject
  else if c = '\x7d' then mark .closeObject
  else if c = '[' then mark .openArray
  else if c = ']' then mark .closeArray
  else if c = ':' then mark .colon
  else if c = ',' then mark .comma
  else if c = '"' then some ⟨tokens, .string []⟩
  else if isBare c then some ⟨tokens, .bare [c]⟩
  else none

/-- What four hexadecimal digits mean: a character, or half of one. A half that has no other half
is refused. -/
def closeUnit? (tokens : List Token) (text : List Char) (high : Option Nat) (value : Nat) :
    Option LexState :=
  let isLow := 0xDC00 ≤ value && value < 0xE000
  let isHigh := 0xD800 ≤ value && value < 0xDC00
  match high with
  | some top =>
    if isLow then
      let code := 0x10000 + (top - 0xD800) * 0x400 + (value - 0xDC00)
      some ⟨tokens, .string (Char.ofNat code :: text)⟩
    else none
  | none =>
    if isLow then none
    else if isHigh then some ⟨tokens, .afterHigh text value⟩
    else some ⟨tokens, .string (Char.ofNat value :: text)⟩

/-- Read one character. -/
def lexStep? (state : LexState) (c : Char) : Option LexState :=
  let tokens := state.tokens
  match state.mode with
  | .between => lexBetween? tokens c
  | .bare text =>
    if isBare c then some ⟨tokens, .bare (c :: text)⟩
    else (bare? text.reverse).bind fun value => lexBetween? (.value value :: tokens) c
  | .string text =>
    if c = '"' then some ⟨.value (str (String.ofList text.reverse)) :: tokens, .between⟩
    else if c = '\\' then some ⟨tokens, .escape text⟩
    else if c.toNat < 32 then none
    else some ⟨tokens, .string (c :: text)⟩
  | .escape text =>
    if c = 'u' then some ⟨tokens, .unit text none 0 0⟩
    else (escaped? c).map fun meant => ⟨tokens, .string (meant :: text)⟩
  | .unit text high digits value =>
    (hexDigit? c).bind fun digit =>
      if digits < 3 then some ⟨tokens, .unit text high (digits + 1) (16 * value + digit)⟩
      else closeUnit? tokens text high (16 * value + digit)
  | .afterHigh text high => if c = '\\' then some ⟨tokens, .afterHighEscape text high⟩ else none
  | .afterHighEscape text high =>
    if c = 'u' then some ⟨tokens, .unit text (some high) 0 0⟩ else none

/-- The tokens of a text. -/
def tokens? (s : List Char) : Option (List Token) := do
  let state ← s.foldlM lexStep? ⟨[], .between⟩
  match state.mode with
  | .between => return state.tokens.reverse
  | .bare text => return (.value (← bare? text.reverse) :: state.tokens).reverse
  | _ => none

/-- A container that is still open: an array with its items in reverse, or an object with its
fields so far and the key whose value is awaited. -/
inductive Frame where
  | array (items : List Json)
  | object (fields : List (String × Json)) (key : String)

/-- What has to come next: a value, the first item of an array or its end, the first key of an
object or its end, a key, the colon after a key, or whatever may follow a finished value. -/
inductive Awaiting where
  | value
  | itemOrClose
  | keyOrClose
  | key (fields : List (String × Json))
  | colon (fields : List (String × Json)) (key : String)
  | afterValue (value : Json)

/-- The open containers, innermost first, and what has to come next. -/
structure ReadState where
  frames : List Frame
  next : Awaiting

/-- One more than the number of containers that may be open at a time. -/
def depthLimit : Nat := 128

/-- Read the beginning of a value. -/
def readValue? (frames : List Frame) : Token → Option ReadState
  | .value value => some ⟨frames, .afterValue value⟩
  | .openArray =>
    if frames.length + 1 < depthLimit then some ⟨.array [] :: frames, .itemOrClose⟩ else none
  | .openObject =>
    if frames.length + 1 < depthLimit then some ⟨frames, .keyOrClose⟩ else none
  | _ => none

/-- Read a key. -/
def readKey? (frames : List Frame) (fields : List (String × Json)) : Token → Option ReadState
  | .value (.str key) => some ⟨frames, .colon fields key⟩
  | _ => none

/-- Read what follows a value: the container it stands in goes on or ends. -/
def readAfter? (value : Json) : List Frame → Token → Option ReadState
  | .array items :: frames, .comma => some ⟨.array (value :: items) :: frames, .value⟩
  | .array items :: frames, .closeArray =>
    some ⟨frames, .afterValue (arr (value :: items).reverse)⟩
  | .object fields key :: frames, .comma => some ⟨frames, .key (insertField key value fields)⟩
  | .object fields key :: frames, .closeObject =>
    some ⟨frames, .afterValue (obj (insertField key value fields))⟩
  | _, _ => none

/-- Read one token. -/
def readStep? (state : ReadState) (token : Token) : Option ReadState :=
  match state.next, state.frames, token with
  | .value, frames, token => readValue? frames token
  | .itemOrClose, .array _ :: frames, .closeArray => some ⟨frames, .afterValue (arr [])⟩
  | .itemOrClose, frames, token => readValue? frames token
  | .keyOrClose, frames, .closeObject => some ⟨frames, .afterValue (obj [])⟩
  | .keyOrClose, frames, token => readKey? frames [] token
  | .key fields, frames, token => readKey? frames fields token
  | .colon fields key, frames, .colon => some ⟨.object fields key :: frames, .value⟩
  | .colon _ _, _, _ => none
  | .afterValue value, frames, token => readAfter? value frames token

/-- The value that a text writes. -/
def parse? (text : String) : Option Json := do
  let tokens ← tokens? text.toList
  let state ← tokens.foldlM readStep? ⟨[], .value⟩
  match state with
  | ⟨[], .afterValue value⟩ => some value
  | _ => none

end ApiAtlas.Json

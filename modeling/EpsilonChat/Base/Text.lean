import Mathlib.Order.Basic
import Mathlib.Data.List.DropRight

/-!
# Text helpers

`str::trim` of the standard library and the sanitizers of `deltachat-contact-tools`.  Text is cut
and filtered as a list of characters (`char`s are Unicode scalar values on both sides).
-/

namespace EpsilonChat.Text

/-- `char::is_whitespace`, the property `White_Space` -/
def isWhitespace (c : Char) : Bool :=
  let n := c.toNat
  (0x9 ≤ n && n ≤ 0xD) || n == 0x20 || n == 0x85 || n == 0xA0 || n == 0x1680 ||
    (0x2000 ≤ n && n ≤ 0x200A) || n == 0x2028 || n == 0x2029 || n == 0x202F || n == 0x205F ||
    n == 0x3000

def trimStart (cs : List Char) : List Char := cs.dropWhile isWhitespace

def trimEnd (cs : List Char) : List Char := (cs.reverse.dropWhile isWhitespace).reverse

def trim (s : String) : String := String.ofList (trimEnd (trimStart s.toList))

def rtloCharacters : List Char := ['‪', '‫', '‬', '‭', '‮']

def isolateCharacters : List Char := ['⁦', '⁧', '⁨']

def popIsolateCharacter : Char := '⁩'

/-- the loop of `isolate_characters_are_valid`; `nesting` is `isolate_character_nesting` -/
def isolateCharactersAreValid (nesting : Int) : List Char → Bool
  | [] => nesting == 0
  | c :: cs =>
    let nesting :=
      if isolateCharacters.contains c then nesting + 1
      else if c = popIsolateCharacter then nesting - 1 else nesting
    if nesting < 0 || nesting > 125 then false else isolateCharactersAreValid nesting cs

def sanitizeBidiCharacters (s : String) : String :=
  let cs := s.toList.filter fun c => !rtloCharacters.contains c
  if isolateCharactersAreValid 0 cs then String.ofList cs
  else String.ofList (cs.filter fun c => !(isolateCharacters.contains c || c == popIsolateCharacter))

def sanitizeSingleLine (input : String) : String :=
  sanitizeBidiCharacters
    (trim (String.ofList (input.toList.map fun c => if c = '\n' ∨ c = '\r' then ' ' else c)))

def stripPrefix (s : String) (c : Char) : String :=
  match s.toList with
  | c' :: cs => if c' = c then String.ofList cs else s
  | [] => s

def stripSuffix (s : String) (c : Char) : String :=
  match s.toList.reverse with
  | c' :: cs => if c' = c then String.ofList cs.reverse else s
  | [] => s

def trimStartMatches (s : String) (c : Char) : String :=
  String.ofList (s.toList.dropWhile (· == c))

def trimEndMatches (s : String) (c : Char) : String :=
  String.ofList (s.toList.rdropWhile (· == c))

def splitWhitespace (s : String) : List String :=
  ((s.toList.splitOnP isWhitespace).filter (· ≠ [])).map String.ofList

def isAsciiWhitespace (c : Char) : Bool :=
  c == ' ' || c == '\t' || c == '\n' || c == '\x0C' || c == '\r'

def splitAsciiWhitespace (s : String) : List String :=
  ((s.toList.splitOnP isAsciiWhitespace).filter (· ≠ [])).map String.ofList

/-! ## addresses -/

def startsWith (s pat : String) : Bool := pat.toList.isPrefixOf s.toList

def asciiLowercase (s : String) : String := String.ofList (s.toList.map Char.toLower)

/-- what is used of `str::to_lowercase`: on ASCII it works letter by letter -/
def AsciiLower (toLowercase : String → String) : Prop :=
  ∀ s : String, (∀ c ∈ s.toList, c.toNat < 128) → toLowercase s = asciiLowercase s

/-- `addr_normalize`; `toLowercase` is the one of the standard library -/
def addrNormalize (toLowercase : String → String) (addr : String) : String :=
  let norm := toLowercase (trim addr)
  if startsWith norm "mailto:" then String.ofList (norm.toList.drop 7) else norm

def addrCmp (toLowercase : String → String) (addr1 addr2 : String) : Bool :=
  addrNormalize toLowercase addr1 == addrNormalize toLowercase addr2

/-- `EmailAddress::new`: the local part and the domain, cut at the last `@` -/
def emailAddress (input : String) : Option (String × String) :=
  let cs := input.toList.reverse
  let domain := (cs.takeWhile (· ≠ '@')).reverse
  if input.toList.any fun c => isWhitespace c || c == '<' || c == '>' then none
  else
    match cs.dropWhile (· ≠ '@') with
    | [] => none
    | _ :: localPart =>
      if localPart = [] ∨ domain = [] ∨ domain.getLast? = some '.' then none
      else some (String.ofList localPart.reverse, String.ofList domain)

def mayBeValidAddr (addr : String) : Bool := (emailAddress addr).isSome

def contactAddress (toLowercase : String → String) (s : String) : Option String :=
  let addr := addrNormalize toLowercase s
  if mayBeValidAddr addr then some addr else none

end EpsilonChat.Text

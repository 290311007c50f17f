import Mathlib.Algebra.Group.Int.Defs
import Mathlib.Algebra.Group.Nat.Defs
import Mathlib.Data.List.Basic

/-!
# What is used of Go's standard library

Library `Base`. Strings are processed as lists of code points. The functions that are
short enough are written out; `GoLib` names the rest, so that every result holds for any
behaviour of them.
-/

namespace PocketAp.Base

/-- The part of a parsed URL that is read. -/
structure URL where
  scheme : String
  host : String
  deriving DecidableEq, Repr

/-- Standard library functions taken as they come. -/
class GoLib where
  /-- `unicode.ToLower`. -/
  toLowerRune : Char → Char
  /-- `net/url.Parse`; `none` is an error. -/
  parseURL : String → Option URL
  /-- The media type of `mime.ParseMediaType`; `none` is an error. -/
  parseMediaType : String → Option String
  /-- `strconv.Quote`, the verb `%q`. -/
  quote : String → String
  /-- `strings.EqualFold` of any two strings. -/
  sameFold : String → String → Bool
  /-- Whether `net.ParseIP` reads an address that is loopback. -/
  isLoopbackIP : String → Bool

/-- An instance on which results can be evaluated: ASCII letters, URLs of the form
`scheme://host/path`, media types without parameters, one loopback address. -/
@[reducible]
def GoLib.plain : GoLib where
  toLowerRune c := if 'A' ≤ c ∧ c ≤ 'Z' then Char.ofNat (c.toNat + 32) else c
  parseURL s :=
    let cs := s.toList
    let scheme := cs.takeWhile (· ≠ ':')
    match cs.drop scheme.length with
    | ':' :: '/' :: '/' :: rest =>
      some ⟨String.ofList scheme, String.ofList (rest.takeWhile (· ≠ '/'))⟩
    | _ => none
  parseMediaType s := some s
  quote s := "\"" ++ s ++ "\""
  sameFold s t := s = t
  isLoopbackIP s := s = "127.0.0.1"

/-- `strings.ToLower`. -/
def toLower [GoLib] (s : String) : String := String.ofList (s.toList.map GoLib.toLowerRune)

/-- `unicode.IsSpace`. -/
def isSpace (c : Char) : Bool :=
  c.toNat ∈ [0x09, 0x0A, 0x0B, 0x0C, 0x0D, 0x20, 0x85, 0xA0, 0x1680, 0x2028, 0x2029, 0x202F,
    0x205F, 0x3000] ∨ (0x2000 ≤ c.toNat ∧ c.toNat ≤ 0x200A)

/-- Drop leading and trailing code points that satisfy `p`. -/
def trimList (p : Char → Bool) (s : List Char) : List Char :=
  ((s.dropWhile p).reverse.dropWhile p).reverse

/-- `strings.TrimSpace`. -/
def trimSpace (s : String) : String := String.ofList (trimList isSpace s.toList)

/-- `strings.Trim` for a set of code points. -/
def trimSet (cutset : List Char) (s : String) : String :=
  String.ofList (trimList (fun c ↦ decide (c ∈ cutset)) s.toList)

/-- Simple case folding as far as it meets ASCII: the letters, the Kelvin sign and the
long s. -/
def foldRune (c : Char) : Char :=
  if 'A' ≤ c ∧ c ≤ 'Z' then Char.ofNat (c.toNat + 32)
  else if c.toNat = 0x212A then 'k'
  else if c.toNat = 0x017F then 's'
  else c

/-- `strings.EqualFold` against a name made of ASCII characters. -/
def equalFold (s name : String) : Bool := s.toList.map foldRune = name.toList.map foldRune

/-- `strings.HasPrefix`. -/
def hasPrefix (s p : String) : Bool := p.toList.isPrefixOf s.toList

/-- `strings.HasSuffix`. -/
def hasSuffix (s p : String) : Bool := p.toList.isSuffixOf s.toList

/-- `strings.CutPrefix`. -/
def cutPrefix (s p : String) : Option String :=
  if hasPrefix s p then some (String.ofList (s.toList.drop p.toList.length)) else none

/-- `strings.Contains`. -/
def contains (s p : String) : Bool := s.toList.tails.any (p.toList.isPrefixOf ·)

/-- `strings.Split` at a single code point. -/
def splitAt (c : Char) (s : String) : List String := (s.toList.splitOn c).map String.ofList

/-- Where the last occurrence of a code point is. -/
def lastIndex (c : Char) : List Char → Option Nat
  | [] => none
  | x :: xs =>
    match lastIndex c xs with
    | some i => some (i + 1)
    | none => if x = c then some 0 else none

/-- `net.SplitHostPort`: the host without its brackets, and the port; `none` is an error. -/
def splitHostPort? (hostPort : String) : Option (String × String) :=
  let s := hostPort.toList
  match lastIndex ':' s with
  | none => none
  | some i =>
    let port := s.drop (i + 1)
    match s with
    | '[' :: _ =>
      -- The first closing bracket must be followed by the last colon.
      match s.findIdx? (· = ']') with
      | none => none
      | some e =>
        if e + 1 = i ∧ '[' ∉ s.drop 1 ∧ ']' ∉ s.drop (e + 1) then
          some (String.ofList ((s.take e).drop 1), String.ofList port)
        else none
    | _ =>
      if ':' ∈ s.take i ∨ '[' ∈ s ∨ ']' ∈ s then none
      else some (String.ofList (s.take i), String.ofList port)

/-! ### Header maps -/

/-- `validHeaderFieldByte` of `net/textproto`. -/
def validHeaderFieldByte (c : Char) : Bool :=
  ('0' ≤ c ∧ c ≤ '9') ∨ ('a' ≤ c ∧ c ≤ 'z') ∨ ('A' ≤ c ∧ c ≤ 'Z') ∨
    c ∈ "!#$%&'*+-.^_`|~".toList

/-- A capital at the start and after each hyphen, and nowhere else. -/
def capitalize : Bool → List Char → List Char
  | _, [] => []
  | upper, c :: cs =>
    (if upper ∧ 'a' ≤ c ∧ c ≤ 'z' then Char.ofNat (c.toNat - 32)
      else if ¬upper ∧ 'A' ≤ c ∧ c ≤ 'Z' then Char.ofNat (c.toNat + 32)
      else c) :: capitalize (c = '-') cs

/-- `http.CanonicalHeaderKey`. -/
def canonicalHeaderKey (name : String) : String :=
  if name.toList.all validHeaderFieldByte then String.ofList (capitalize true name.toList) else name

/-- `http.Header.Get`. -/
def getHeader (header : List (String × List String)) (name : String) : String :=
  match header.lookup (canonicalHeaderKey name) with
  | some (v :: _) => v
  | _ => ""

/-- `http.Header.Set`. -/
def setHeader (header : List (String × List String)) (name value : String) :
    List (String × List String) :=
  let key := canonicalHeaderKey name
  if header.any (fun kv ↦ kv.1 == key) then
    header.map (fun kv ↦ if kv.1 = key then (key, [value]) else kv)
  else header ++ [(key, [value])]

/-- `http.Header.Add`. -/
def addHeader (header : List (String × List String)) (name value : String) :
    List (String × List String) :=
  let key := canonicalHeaderKey name
  if header.any (fun kv ↦ kv.1 == key) then
    header.map (fun kv ↦ if kv.1 = key then (key, kv.2 ++ [value]) else kv)
  else header ++ [(key, [value])]

example : canonicalHeaderKey "grpc-status-DETAILS-bin" = "Grpc-Status-Details-Bin" := by decide

end PocketAp.Base

import GodotSdk.Naming.SdkNames
import GodotSdk.Schema.Decode
import GodotSdk.Text.Identifier

/-!
# Configuration

What can be configured about a generated SDK, and how a configuration is read from any
source. The version of an SDK is a semantic version: three numbers, and optionally the
identifiers of a pre-release and of a build.
-/

namespace GodotSdk

/-! ## Versions -/

/-- A semantic version. Empty texts stand for an absent pre-release or build. -/
structure Version where
  major : Nat
  minor : Nat
  patch : Nat
  preRelease : String
  build : String
deriving DecidableEq, Repr

namespace Version

/-- Read a number of 64 bits without leading zeros. -/
def readNumber (text : List Char) : Option (Nat × List Char) :=
  let digits := text.takeWhile Char.isDigit
  let number :=
    digits.foldl (fun number digit => number * 10 + (digit.toNat - '0'.toNat)) 0
  if digits.isEmpty || (digits.head? = some '0' && 1 < digits.length) ||
    UInt64.size ≤ number then none
  else some (number, text.drop digits.length)

/-- Read a dot. -/
def readDot : List Char → Option (List Char)
  | '.' :: rest => some rest
  | _ => none

def isIdentifierChar (char : Char) : Bool :=
  char.isAlphanum || char == '-'

/-- Split a text at its dots. -/
def splitDots (reversed : List Char) : List Char → List (List Char)
  | [] => [reversed.reverse]
  | '.' :: rest => reversed.reverse :: splitDots [] rest
  | char :: rest => splitDots (char :: reversed) rest

/-- Whether a text is an identifier of a build. -/
def isBuildIdentifier (text : List Char) : Bool :=
  !text.isEmpty && text.all isIdentifierChar

/-- Whether a text is an identifier of a pre-release, in which numbers have no leading
zeros. -/
def isPreReleaseIdentifier (text : List Char) : Bool :=
  isBuildIdentifier text
    && !(text.all Char.isDigit && text.head? = some '0' && 1 < text.length)

/-- Read the identifiers of a pre-release, if they are there. -/
def readPreRelease : List Char → Option (List Char × List Char)
  | '-' :: rest =>
      let text := rest.takeWhile (· != '+')
      if (splitDots [] text).all isPreReleaseIdentifier then
        some (text, rest.drop text.length)
      else none
  | rest => some ([], rest)

/-- Read the identifiers of a build up to the end of the text, if they are there. -/
def readBuild : List Char → Option (List Char)
  | [] => some []
  | '+' :: rest => if (splitDots [] rest).all isBuildIdentifier then some rest else none
  | _ => none

/-- The version that a text denotes. -/
def ofText? (text : String) : Option Version := do
  let (major, rest) ← readNumber text.toList
  let (minor, rest) ← readNumber (← readDot rest)
  let (patch, rest) ← readNumber (← readDot rest)
  let (preRelease, rest) ← readPreRelease rest
  let build ← readBuild rest
  return ⟨major, minor, patch, String.ofList preRelease, String.ofList build⟩

/-- An optional part of a version with the mark that begins it. -/
def renderPart (mark text : String) : String :=
  if text.isEmpty then "" else mark ++ text

def render (version : Version) : String :=
  toString version.major ++ "." ++ toString version.minor ++ "." ++
    toString version.patch
    ++ renderPart "-" version.preRelease ++ renderPart "+" version.build

end Version

/-! ## Configurations -/

structure Config where
  brand : String
  version : Option Version
  buildIdentifier : Option String
  verticalName : Option String
deriving DecidableEq, Repr

namespace Config

/-- The configuration of an SDK about which nothing is said. -/
def standard : Config :=
  ⟨"PlayFab", none, none, none⟩

/-- Values that take precedence over those of a configuration. -/
structure Overrides where
  brand : Option String := none
  version : Option Version := none
  buildIdentifier : Option String := none
  verticalName : Option String := none
deriving DecidableEq, Repr

/-- The configuration with some of its values replaced. -/
def override (config : Config) (overrides : Overrides) : Config where
  brand := overrides.brand.getD config.brand
  version := overrides.version <|> config.version
  buildIdentifier := overrides.buildIdentifier <|> config.buildIdentifier
  verticalName := overrides.verticalName <|> config.verticalName

end Config

namespace Schema

variable {ν : Type} [Source ν]

/-- Read a version. -/
def readVersion (node : ν) : Read Version := do
  let text ← Source.text node
  match Version.ofText? text with
  | some version => return version
  | none => unfit (.value (.text text) "semver version")

structure ConfigParts where
  brand : Option String := none
  version : Option (Option Version) := none
  buildIdentifier : Option (Option String) := none
  verticalName : Option (Option String) := none

def configFields : List (Field ν ConfigParts) := [
  defaulted "brand" (·.brand) (fun value parts => { parts with brand := some value })
    Source.text, defaulted "sdk-version" (·.version) (fun value parts =>
    { parts with version := some value }) (readOptional readVersion),
  defaulted "build-identifier" (·.buildIdentifier)
    (fun value parts => { parts with buildIdentifier := some value })
      (readOptional Source.text),
  defaulted "vertical-name" (·.verticalName) (fun value parts =>
    { parts with verticalName := some value }) (readOptional Source.text)]

def readConfig (node : ν) : Read Config := do
  let parts ← readRecord "CodegenConfig" configFields {} node
  return {
    brand := parts.brand.getD Config.standard.brand
    version := parts.version.getD none
    buildIdentifier := parts.buildIdentifier.getD none
    verticalName := parts.verticalName.getD none }

end Schema

/-! ## Contexts -/

/-- What all scripts of an SDK share: its configuration, its names, and the time of
generation. -/
structure Sdk where
  config : Config
  names : SdkNames
  now : Timestamp

/-- The context for a configuration. The brand must be an identifier, since it begins
class names. -/
def Sdk.new (config : Config) (now : Timestamp) : Except NamingError Sdk :=
  if Text.isIdentifier config.brand then do
    return ⟨config, ← SdkNames.new config.brand, now⟩
  else .error (.invalidBrand config.brand)

end GodotSdk
